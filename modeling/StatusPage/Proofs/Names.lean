import Mathlib.Data.List.Nodup
import StatusPage.Event.Basic
import StatusPage.Subscriber

/-!
Types whose names are all listed and tell their values apart. Reading a name there is the inverse of
writing it.
-/

set_option autoImplicit false

namespace StatusPage

namespace Named

variable {α : Type} [Named α]

theorem name_injective (complete : ∀ a : α, a ∈ all)
    (distinct : ((all : List α).map name).Nodup) :
    Function.Injective (name : α → String) :=
  fun a b => List.inj_on_of_nodup_map distinct (complete a) (complete b)

class Complete (α : Type) [Named α] : Prop where
  mem_all : ∀ a : α, a ∈ all
  name_injective : Function.Injective (name : α → String)

theorem name_of_ofName? {text : String} {a : α} (found : ofName? text = some a) :
    name a = text := by
  have same := List.find?_some (p := fun a : α => name a == text) found
  exact eq_of_beq same

variable [Complete α]

theorem ofName?_eq_some {text : String} {a : α} : ofName? text = some a ↔ text = name a := by
  constructor
  · exact fun found => (name_of_ofName? found).symm
  · rintro rfl
    cases found : (ofName? (name a) : Option α) with
    | none => exact absurd (beq_self_eq_true _) (List.find?_eq_none.mp found a (Complete.mem_all a))
    | some b => rw [Complete.name_injective (name_of_ofName? found)]

theorem ofName?_eq_none {text : String} :
    (ofName? text : Option α) = none ↔ ∀ a : α, text ≠ name a := by
  rw [Option.eq_none_iff_forall_ne_some]
  exact forall_congr' fun a => not_congr ofName?_eq_some

@[simp] theorem ofName?_name (a : α) : ofName? (name a) = some a := ofName?_eq_some.mpr rfl

@[simp] theorem ofName_name (a : α) : ofName (name a) = .ok a := by
  rw [ofName, ofName?_name]

end Named

theorem EventKind.mem_all (kind : EventKind) : kind ∈ Named.all := by
  cases kind <;> decide

theorem EventKind.name_injective : Function.Injective EventKind.name :=
  Named.name_injective mem_all (by decide)

theorem EventStatus.mem_all (status : EventStatus) : status ∈ Named.all := by
  cases status <;> decide

theorem EventStatus.name_injective : Function.Injective EventStatus.name :=
  Named.name_injective mem_all (by decide)

theorem Severity.mem_all (severity : Severity) : severity ∈ Named.all := by
  cases severity <;> decide

theorem ChannelKind.mem_all (kind : ChannelKind) : kind ∈ Named.all := by
  cases kind <;> decide

instance : Named.Complete EventKind := ⟨EventKind.mem_all, EventKind.name_injective⟩

instance : Named.Complete EventStatus := ⟨EventStatus.mem_all, EventStatus.name_injective⟩

instance : Named.Complete Severity :=
  ⟨Severity.mem_all, Named.name_injective Severity.mem_all (by decide)⟩

instance : Named.Complete ChannelKind :=
  ⟨ChannelKind.mem_all, Named.name_injective ChannelKind.mem_all (by decide)⟩

end StatusPage
