import StatusPage.Program
import StatusPage.Store.Memory

/-!
What a call of the store leaves alone. A call writes a few of the seven collections, and every
collection that it does not write is afterwards as it was before.
-/

set_option autoImplicit false

namespace StatusPage

namespace Store

inductive Collection where
  | users
  | refreshTokens
  | events
  | updates
  | templates
  | channels
  | subscriptions
  deriving DecidableEq, Repr

def Call.writes : Call → List Collection
  | .createUser _ => [.users]
  | .createRefreshToken _ => [.refreshTokens]
  | .takeRefreshToken _ => [.refreshTokens]
  | .deleteRefreshToken _ => [.refreshTokens]
  | .deleteUserRefreshTokens _ => [.refreshTokens]
  | .deleteExpiredRefreshTokens => [.refreshTokens]
  | .createEvent _ => [.events]
  | .recordUpdate _ _ => [.events, .updates]
  | .deleteEvent _ => [.events, .updates]
  | .createTemplate _ => [.templates]
  | .updateTemplate _ _ => [.templates]
  | .deleteTemplate _ => [.templates, .events]
  | .addChannel _ => [.channels]
  | .setSubscription _ _ => [.subscriptions]
  | .deleteSubscription _ => [.subscriptions]
  | _ => []

namespace Memory

variable (memory : Memory) (stamp : Stamp) {call : Call}

/-- Two stores agree on everything but some collections. -/
structure Unchanged (writes : List Collection) (before after : Memory) : Prop where
  users : .users ∉ writes → after.users = before.users
  refreshTokens : .refreshTokens ∉ writes → after.refreshTokens = before.refreshTokens
  events : .events ∉ writes → after.events = before.events
  updates : .updates ∉ writes → after.updates = before.updates
  templates : .templates ∉ writes → after.templates = before.templates
  channels : .channels ∉ writes → after.channels = before.channels
  subscriptions : .subscriptions ∉ writes → after.subscriptions = before.subscriptions

theorem Unchanged.refl (writes : List Collection) : Unchanged writes memory memory := by
  constructor <;> exact fun _ => rfl

theorem Unchanged.trans {writes : List Collection} {first second third : Memory}
    (former : Unchanged writes first second) (latter : Unchanged writes second third) :
    Unchanged writes first third where
  users untouched := (latter.users untouched).trans (former.users untouched)
  refreshTokens untouched := (latter.refreshTokens untouched).trans (former.refreshTokens untouched)
  events untouched := (latter.events untouched).trans (former.events untouched)
  updates untouched := (latter.updates untouched).trans (former.updates untouched)
  templates untouched := (latter.templates untouched).trans (former.templates untouched)
  channels untouched := (latter.channels untouched).trans (former.channels untouched)
  subscriptions untouched := (latter.subscriptions untouched).trans (former.subscriptions untouched)

theorem dropRefreshTokens_unchanged (drop : RefreshToken → Bool) :
    Unchanged [.refreshTokens] memory (memory.dropRefreshTokens drop) := by
  constructor <;> intro untouched <;> first | rfl | simp at untouched

theorem perform_unchanged (call : Call) :
    Unchanged call.writes memory (memory.perform stamp call).2 := by
  cases call <;>
    simp only [perform, reading, createUser, createRefreshToken, takeRefreshToken,
      deleteRefreshToken, deleteRefreshTokens, dropRefreshTokens, createEvent, recordUpdate,
      deleteEvent, createTemplate, updateTemplate, deleteTemplate, addChannel, setSubscription,
      deleteSubscription] <;>
    constructor <;> intro untouched <;> (repeat' split) <;>
    first | rfl | simp [Call.writes] at untouched

theorem unchanged_of_perform {answer : Except StoreError call.Result} {after : Memory}
    (performed : memory.perform stamp call = (answer, after)) :
    Unchanged call.writes memory after := by
  have frame := perform_unchanged memory stamp call
  rw [performed] at frame
  exact frame

theorem perform_of_reads (reads : call.writes = []) : (memory.perform stamp call).2 = memory := by
  have frame := perform_unchanged memory stamp call
  have nothing (collection : Collection) : collection ∉ call.writes := by
    rw [reads]
    exact List.not_mem_nil
  rcases result : (memory.perform stamp call).2 with
    ⟨users, refreshTokens, events, updates, templates, channels, subscriptions⟩
  rw [result] at frame
  cases (frame.users (nothing _) : users = memory.users)
  cases (frame.refreshTokens (nothing _) : refreshTokens = memory.refreshTokens)
  cases (frame.events (nothing _) : events = memory.events)
  cases (frame.updates (nothing _) : updates = memory.updates)
  cases (frame.templates (nothing _) : templates = memory.templates)
  cases (frame.channels (nothing _) : channels = memory.channels)
  cases (frame.subscriptions (nothing _) : subscriptions = memory.subscriptions)
  rfl

theorem perform_of_error {e : StoreError} (failed : (memory.perform stamp call).1 = .error e) :
    (memory.perform stamp call).2 = memory := by
  cases writes : call.writes with
  | nil => exact perform_of_reads memory stamp writes
  | cons collection others =>
      cases call <;>
        simp only [perform, createUser, createRefreshToken, takeRefreshToken, deleteRefreshToken,
          deleteRefreshTokens, createEvent, recordUpdate, deleteEvent, createTemplate,
          updateTemplate, deleteTemplate, addChannel, setSubscription,
          deleteSubscription] at failed ⊢ <;>
        (repeat' split at failed) <;> simp_all [Call.writes]

/-! ### What is found -/

theorem reading_eq_ok {α : Type} {found : Option α} {a : α} :
    (memory.reading found).1 = .ok a ↔ found = some a := by
  cases found <;> simp [reading]

theorem reading_eq_notFound {α : Type} {found : Option α} :
    (memory.reading found).1 = .error .notFound ↔ found = none := by
  cases found <;> simp [reading]

variable {memory stamp}

theorem findEvent_spec {id : Uuid} {event : Event} (found : memory.findEvent id = some event) :
    event ∈ memory.events ∧ event.id = id :=
  ⟨List.mem_of_find?_eq_some found, by simpa using List.find?_some found⟩

theorem findTemplate_spec {id : Uuid} {template : EventTemplate}
    (found : memory.findTemplate id = some template) :
    template ∈ memory.templates ∧ template.id = id :=
  ⟨List.mem_of_find?_eq_some found, by simpa using List.find?_some found⟩

theorem findRefreshToken_spec {digest : String} {row : RefreshToken}
    (found : memory.findRefreshToken digest = some row) :
    row ∈ memory.refreshTokens ∧ row.digest = digest :=
  ⟨List.mem_of_find?_eq_some found, by simpa using List.find?_some found⟩

/-! ### What is stored -/

theorem createRefreshToken_stored {new : NewRefreshToken} {row : RefreshToken} {after : Memory}
    (stored : memory.perform stamp (.createRefreshToken new) = (.ok row, after)) :
    after.refreshTokens = row :: memory.refreshTokens ∧ row.userId = new.userId ∧
    row.digest = new.digest := by
  simp only [perform, createRefreshToken] at stored
  split at stored
  · cases stored
  · split at stored
    · cases stored
    · cases stored
      exact ⟨rfl, rfl, rfl⟩

end Memory

end Store

def Op.writes : Op → Bool
  | .store call => !call.writes.isEmpty
  | _ => false

end StatusPage

