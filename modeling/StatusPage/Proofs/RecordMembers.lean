import Mathlib.Data.List.Nodup
import StatusPage.Proofs.AccessTokens
import StatusPage.Proofs.JsonText

/-!
What a record is read from: the members that are its fields, whatever their order and whatever
stands between them. Fields that read each value back from its member read the whole record back.
-/

set_option autoImplicit false

namespace StatusPage.Json

/-! ### Lookups -/

section

variable {entries entries' : List (String × Json)}

theorem lookup_eq_some_of_distinct {key : String} {value : Json}
    (distinct : (entries.map Prod.fst).Nodup) :
    entries.lookup key = some value ↔ (key, value) ∈ entries := by
  induction entries with
  | nil => simp
  | cons entry entries ih =>
      obtain ⟨first, kept⟩ := entry
      rw [List.map_cons, List.nodup_cons] at distinct
      rw [List.mem_cons]
      by_cases same : key = first
      · subst same
        have once : (key, value) ∉ entries :=
          fun member => distinct.1 (List.mem_map.mpr ⟨_, member, rfl⟩)
        simp [once, eq_comm]
      · have other : (key == first) = false := beq_eq_false_iff_ne.mpr same
        simp [List.lookup_cons, other, same, ih distinct.2]

private theorem lookup_perm (perm : entries.Perm entries') (distinct : (entries.map Prod.fst).Nodup)
    (key : String) :
    entries.lookup key = entries'.lookup key := by
  have distinct' : (entries'.map Prod.fst).Nodup := (perm.map _).nodup_iff.mp distinct
  refine Option.ext fun value => ?_
  rw [lookup_eq_some_of_distinct distinct, lookup_eq_some_of_distinct distinct', perm.mem_iff]

end

/-! ### Fields that may be null -/

section

variable {α : Type} {read : Reader α} {value : Option α}

private theorem orNull_of_ne {j : Json} (given : j ≠ .null) :
    read.orNull j = (read j).map some := by
  cases j with
  | null => exact absurd rfl given
  | _ => rfl

theorem orNull_eq_ok {j : Json} :
    read.orNull j = .ok value ↔ j = .null ∧ value = none ∨ j ≠ .null ∧
    ∃ a, read j = .ok a ∧ value = some a := by
  by_cases null : j = .null
  · subst null
    simp [Reader.orNull, eq_comm]
  · rw [orNull_of_ne null]
    cases read j <;> simp [null, Except.map, eq_comm]

theorem nullable_ok {name : String} {find : String → Option Json} :
    (Fields.nullable name read).assemble find = .ok value ↔
      find name = none ∧ value = none ∨ ∃ j, find name = some j ∧
        read.orNull j = .ok value := by
  cases present : find name <;> simp [Fields.nullable, Fields.single, present, eq_comm]

end

/-! ### Members that are read -/

def Fields.names {α : Type} (fields : Fields α) : List String := fields.shapes.map FieldShape.name

section

variable {names : List String} {shapes : List FieldShape} {found all : List (String × Json)}
  {members rest : List (Option String × Json)} {key : String} {value : Json}

def fieldsAmong (names : List String) (members : List (Option String × Json)) :
    List (String × Json) :=
  members.filterMap fun (key, value) => (key.filter (· ∈ names)).map fun key => (key, value)

private theorem fieldsAmong_unknown (unknown : key ∉ names) :
    fieldsAmong names ((some key, value) :: rest) = fieldsAmong names rest :=
  List.filterMap_cons_none (by simp [unknown])

private theorem fieldsAmong_known (known : key ∈ names) :
    fieldsAmong names ((some key, value) :: rest) = (key, value) :: fieldsAmong names rest :=
  List.filterMap_cons_some (by simp [known])

def Admits (shapes : List FieldShape) : Option String × Json → Prop
  | (none, _) => False
  | (some key, value) =>
      match shapes.find? fun shape => shape.name == key with
      | none => value.isWhole = true
      | some shape => shape.check value = .ok ()

private theorem shape_of_find {shape : FieldShape}
    (known : (shapes.find? fun shape => shape.name == key) = some shape) :
    shape ∈ shapes ∧ shape.name = key := by
  have same := List.find?_some (p := fun shape : FieldShape => shape.name == key) known
  exact ⟨List.mem_of_find?_eq_some known, eq_of_beq same⟩

private theorem mem_names_of_find {shape : FieldShape}
    (known : (shapes.find? fun shape => shape.name == key) = some shape) :
    key ∈ shapes.map FieldShape.name :=
  List.mem_map.mpr ⟨shape, shape_of_find known⟩

private theorem not_mem_names_of_find
    (unknown : (shapes.find? fun shape => shape.name == key) = none) :
    key ∉ shapes.map FieldShape.name := by
  simpa using unknown

private theorem check_bind_eq_ok {ε β : Type} {check : Except ε Unit} {next : Except ε β}
    {b : β} :
    (check >>= fun _ => next) = .ok b ↔ check = .ok () ∧ next = .ok b := by
  cases check <;> simp [bind, Except.bind]

private theorem ignored_eq_ok : Reader.ignored value = .ok () ↔ value.isWhole = true := by
  simp [Reader.ignored]

private theorem scanMembers_eq_ok (distinct : (found.map Prod.fst).Nodup) :
    scanMembers shapes found members = .ok all ↔
      (∀ member ∈ members, Admits shapes member) ∧ (all.map Prod.fst).Nodup ∧
        all = (fieldsAmong (shapes.map FieldShape.name) members).reverse ++ found := by
  fun_induction scanMembers shapes found members with
  | case1 found =>
      have same : found = all → (all.map Prod.fst).Nodup := by
        rintro rfl
        exact distinct
      simpa [fieldsAmong, eq_comm] using same
  | case2 => simp [Admits]
  | case3 found key value rest unknown ih =>
      have here : Admits shapes (some key, value) ↔ value.isWhole = true := by
        simp [Admits, unknown]
      rw [check_bind_eq_ok, ignored_eq_ok, ih distinct,
        fieldsAmong_unknown (not_mem_names_of_find unknown),
        List.forall_mem_cons, here, and_assoc]
  | case4 found key value rest shape known twice =>
      have kept : key ∈ found.map Prod.fst := by
        obtain ⟨value', there⟩ := Option.isSome_iff_exists.mp twice
        exact List.mem_map.mpr ⟨_, (lookup_eq_some_of_distinct distinct).mp there, rfl⟩
      simp only [reduceCtorEq, false_iff, not_and, fieldsAmong_known (mem_names_of_find known)]
      rintro - once rfl
      simp only [List.reverse_cons, List.append_assoc, List.singleton_append, List.map_append,
        List.map_cons] at once
      exact (List.nodup_cons.mp (List.nodup_append.mp once).2.1).1 kept
  | case5 found key value rest shape known fresh ih =>
      have here : Admits shapes (some key, value) ↔ shape.check value = .ok () := by
        simp [Admits, known]
      have distinct' : (((key, value) :: found).map Prod.fst).Nodup := by
        refine List.nodup_cons.mpr ⟨fun kept => fresh ?_, distinct⟩
        obtain ⟨⟨_, value'⟩, member, rfl⟩ := List.mem_map.mp kept
        simp [(lookup_eq_some_of_distinct distinct).mpr member]
      rw [check_bind_eq_ok, ih distinct', fieldsAmong_known (mem_names_of_find known),
        List.forall_mem_cons, here, and_assoc, List.reverse_cons, List.append_assoc,
        List.singleton_append]

private theorem scanItems_ok {items : List Json}
    (scanned : scanItems found shapes items = .ok all) :
    all = ((shapes.map FieldShape.name).zip items).reverse ++ found := by
  fun_induction scanItems found shapes items with
  | case1 found =>
      cases scanned
      rfl
  | case2 => cases scanned
  | case3 found shape shapes omitted ih => simpa using ih scanned
  | case4 => cases scanned
  | case5 found shape shapes item items ih =>
      simpa using ih (check_bind_eq_ok.mp scanned).2

end

/-! ### Records that are read -/

private theorem zip_fst_sublist (names : List String) (items : List Json) :
    ((names.zip items).map Prod.fst).Sublist names := by
  induction names generalizing items with
  | nil => exact List.Sublist.slnil
  | cons name names ih =>
      cases items with
      | nil => exact List.nil_sublist _
      | cons item items => exact (ih items).cons_cons name

/-- The fields that a record states, under their keys or in their places. -/
def stated (names : List String) : Json → List (String × Json)
  | .record members => fieldsAmong names members
  | .list items => names.zip items
  | _ => []

section

variable {α : Type} {fields : Fields α} {members members' : List (Option String × Json)} {a : α}

private theorem record_eq_ok :
    Reader.record fields (.record members) = .ok a ↔
      (∀ member ∈ members, Admits fields.shapes member) ∧
      ((fieldsAmong fields.names members).map Prod.fst).Nodup ∧
        fields.assemble (fun name => (fieldsAmong fields.names members).lookup name) = .ok a := by
  have turned : (((fieldsAmong fields.names members).reverse).map Prod.fst).Nodup ↔
      ((fieldsAmong fields.names members).map Prod.fst).Nodup :=
    ((List.reverse_perm _).map _).nodup_iff
  have alike (distinct : ((fieldsAmong fields.names members).map Prod.fst).Nodup) :
      (fun name => (fieldsAmong fields.names members).lookup name) =
        fun name => (fieldsAmong fields.names members).reverse.lookup name :=
    funext (lookup_perm (List.reverse_perm _).symm distinct)
  have scan {all : List (String × Json)} : scanMembers fields.shapes [] members = .ok all ↔ _ :=
    scanMembers_eq_ok List.nodup_nil
  constructor
  · intro read
    obtain ⟨all, scanned, assembled⟩ := ok_of_bind read
    obtain ⟨admitted, distinct, rfl⟩ := scan.mp scanned
    rw [List.append_nil] at distinct assembled
    have distinct' := turned.mp distinct
    exact ⟨admitted, distinct', (alike distinct').symm ▸ assembled⟩
  · rintro ⟨admitted, distinct, assembled⟩
    have scanned := scan.mpr ⟨admitted, turned.mpr distinct, (List.append_nil _).symm⟩
    rw [alike distinct] at assembled
    rw [Reader.record, scanned]
    exact assembled

/-- What is read is put together from what the record states, and it states no field twice. -/
theorem record_stated {j : Json} (distinct : fields.names.Nodup)
    (read : Reader.record fields j = .ok a) :
    ((stated fields.names j).map Prod.fst).Nodup ∧
      fields.assemble (fun name => (stated fields.names j).lookup name) = .ok a := by
  cases j with
  | record members => exact (record_eq_ok.mp read).2
  | list items =>
      obtain ⟨all, scanned, assembled⟩ := ok_of_bind read
      have places : ((fields.names.zip items).map Prod.fst).Nodup :=
        distinct.sublist (zip_fst_sublist _ _)
      rw [scanItems_ok scanned, List.append_nil] at assembled
      refine ⟨places, ?_⟩
      rwa [funext (lookup_perm (List.reverse_perm _) ?_)] at assembled
      exact ((List.reverse_perm _).map _).nodup_iff.mpr places
  | _ => cases read

theorem record_perm (perm : members.Perm members') :
    Reader.record fields (.record members) = .ok a ↔
    Reader.record fields (.record members') = .ok a := by
  have fields' : (fieldsAmong fields.names members).Perm (fieldsAmong fields.names members') :=
    perm.filterMap _
  rw [record_eq_ok, record_eq_ok, (fields'.map Prod.fst).nodup_iff]
  refine and_congr (by simp [perm.mem_iff]) (and_congr_right fun distinct => ?_)
  rw [funext (lookup_perm fields'.symm distinct)]

theorem record_append {extras : List (String × Json)}
    (others : ∀ extra ∈ extras, extra.1 ∉ fields.names ∧ extra.2.isWhole = true) :
    Reader.record fields (.record (members ++ extras.map fun (key, value) =>
      (some key, value))) = .ok a ↔
      Reader.record fields (.record members) = .ok a := by
  have none : fieldsAmong fields.names (extras.map fun (key, value) => (some key, value)) = [] := by
    refine List.filterMap_eq_nil_iff.mpr fun member among => ?_
    obtain ⟨extra, there, rfl⟩ := List.mem_map.mp among
    simp [(others extra there).1]
  have same : fieldsAmong fields.names (members ++ extras.map fun (key, value) =>
      (some key, value)) = fieldsAmong fields.names members := by
    rw [fieldsAmong, List.filterMap_append]
    exact (congrArg (_ ++ ·) none).trans (List.append_nil _)
  have admitted : ∀ member ∈ extras.map fun (key, value) => (some key, value),
      Admits fields.shapes member := by
    intro member among
    obtain ⟨extra, there, rfl⟩ := List.mem_map.mp among
    have unknown : (fields.shapes.find? fun shape => shape.name == extra.1) = Option.none := by
      simpa [Fields.names] using (others extra there).1
    simpa [Admits, unknown] using (others extra there).2
  rw [record_eq_ok, record_eq_ok, same, List.forall_mem_append, and_iff_left admitted]

end

/-! ### Records that are written -/

structure ReadsBack {α : Type} (read : Reader α) (j : Json) (a : α) : Prop where
  plain : Plain j
  value : read j = .ok a

namespace Reader

variable {α : Type}

theorem text_readsBack (text : String) : ReadsBack Reader.text (.str text) text :=
  ⟨.str text, rfl⟩

theorem bool_readsBack (value : Bool) : ReadsBack Reader.bool (.bool value) value :=
  ⟨.bool value, rfl⟩

theorem parsed_readsBack {parse : String → Option α} {text : String} {a : α}
    (means : parse text = some a) :
    ReadsBack (Reader.parsed parse) (.str text) a :=
  ⟨.str text, by simp [Reader.parsed, Reader.text, str, means, bind, Except.bind]⟩

theorem orNull_readsBack {read : Reader α} {write : α → Json} {value : Option α}
    (each : ∀ a ∈ value, ReadsBack read (write a) a) (given : ∀ a, write a ≠ .null) :
    ReadsBack read.orNull (.orNull write value) value := by
  cases value with
  | none => exact ⟨.null, rfl⟩
  | some a =>
      obtain ⟨plain, read'⟩ := each a rfl
      refine ⟨plain, ?_⟩
      rw [Json.orNull, orNull_of_ne (given a), read']
      rfl

end Reader

/-- Fields that read a value back from the members that are written for it. -/
structure Fields.ReadsBack {α : Type} (fields : Fields α) (members : List (String × Json))
    (a : α) : Prop where
  named : fields.names = members.map Prod.fst
  checked : ∀ shape ∈ fields.shapes, ∃ member ∈ members, member.1 = shape.name ∧
    shape.check member.2 = .ok ()
  plain : ∀ member ∈ members, Plain member.2
  assembled : ∀ {find : String → Option Json},
    (∀ member ∈ members, find member.1 = some member.2) →
    fields.assemble find = .ok a

namespace Fields

variable {α β : Type}

theorem ReadsBack.single {name : String} {omissible : Bool} {read : Reader α}
    {missing : Except Fault α} {j : Json} {a : α} (value : Json.ReadsBack read j a) :
    (single name omissible read missing).ReadsBack [(name, j)] a where
  named := rfl
  checked shape member := by
    cases List.mem_singleton.mp member
    exact ⟨(name, j), List.mem_cons_self, rfl, by simp [value.value, Except.map]⟩
  plain := by simpa using value.plain
  assembled given := by
    have there := given (name, j) List.mem_cons_self
    simp [Fields.single, there, value.value]

theorem ReadsBack.required (name : String) {read : Reader α} {j : Json} {a : α}
    (value : Json.ReadsBack read j a) :
    (required name read).ReadsBack [(name, j)] a :=
  .single value

theorem ReadsBack.nullable (name : String) {read : Reader α} {j : Json} {a : Option α}
    (value : Json.ReadsBack read.orNull j a) : (nullable name read).ReadsBack [(name, j)] a :=
  .single value

theorem ReadsBack.omissible (name : String) {read : Reader α} {j : Json} {a : Option α}
    (value : Json.ReadsBack read.orNull j a) : (omissible name read).ReadsBack [(name, j)] a :=
  .single value

theorem ReadsBack.map {fields : Fields α} {members : List (String × Json)} {a : α}
    (f : α → β) (whole : fields.ReadsBack members a) :
    (f <$> fields).ReadsBack members (f a) where
  named := whole.named
  checked := whole.checked
  plain := whole.plain
  assembled given := map_ok.mpr ⟨a, whole.assembled given, rfl⟩

theorem ReadsBack.seq {fields : Fields (α → β)} {more : Fields α}
    {first second : List (String × Json)} {f : α → β} {a : α}
    (front : fields.ReadsBack first f) (back : more.ReadsBack second a) :
    (fields <*> more).ReadsBack (first ++ second) (f a) where
  named := by
    have names : (fields <*> more).names = fields.names ++ more.names := List.map_append
    rw [names, front.named, back.named, List.map_append]
  checked shape member := by
    rcases List.mem_append.mp member with early | late
    · obtain ⟨member, there, checked⟩ := front.checked shape early
      exact ⟨member, List.mem_append_left _ there, checked⟩
    · obtain ⟨member, there, checked⟩ := back.checked shape late
      exact ⟨member, List.mem_append_right _ there, checked⟩
  plain := List.forall_mem_append.mpr ⟨front.plain, back.plain⟩
  assembled given := by
    obtain ⟨early, late⟩ := List.forall_mem_append.mp given
    exact seq_ok.mpr ⟨f, a, front.assembled early, back.assembled late, rfl⟩

variable {fields : Fields α} {members : List (String × Json)} {a : α}

theorem ReadsBack.plain_object (whole : fields.ReadsBack members a) : Plain (.object members) :=
  .object members whole.plain

theorem ReadsBack.record (whole : fields.ReadsBack members a) (distinct : fields.names.Nodup) :
    Reader.record fields (.object members) = .ok a := by
  have once : (members.map Prod.fst).Nodup := whole.named ▸ distinct
  have known {member : String × Json} (there : member ∈ members) : member.1 ∈ fields.names :=
    whole.named ▸ List.mem_map_of_mem there
  have found : fieldsAmong fields.names (members.map fun (key, value) =>
      (some key, value)) = members := by
    rw [fieldsAmong, List.filterMap_map]
    exact (List.filterMap_congr fun member there => by simp [known there]).trans List.filterMap_some
  refine record_eq_ok.mpr ⟨fun member among => ?_, found.symm ▸ once, ?_⟩
  · obtain ⟨⟨key, value⟩, there, rfl⟩ := List.mem_map.mp among
    cases found : fields.shapes.find? fun shape => shape.name == key with
    | none => exact absurd (known there) (not_mem_names_of_find found)
    | some shape =>
        obtain ⟨member, named⟩ := shape_of_find found
        obtain ⟨other, there', same, checked⟩ := whole.checked shape member
        have alike : other = (key, value) :=
          List.inj_on_of_nodup_map once there' there (same.trans named)
        simpa [Admits, found, alike] using checked
  · rw [found]
    exact whole.assembled fun member there => (lookup_eq_some_of_distinct once).mpr there

end Fields

end StatusPage.Json
