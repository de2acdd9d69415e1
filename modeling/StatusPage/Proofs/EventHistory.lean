import Mathlib.Data.List.Nodup
import StatusPage.Proofs.Services

/-!
The history of an event. Events and updates are two collections of the store, and an update is
recorded by a request that has looked at the event in an earlier turn. Still every event is at any
time what its updates have made of it, and its updates are those that requests have recorded for it,
in the order of the recordings.
-/

set_option autoImplicit false

namespace StatusPage

open Store (Memory Stamp)

/-- An event as its updates, the oldest first, have left it. -/
def Event.after (created : Event) (history : List EventUpdate) : Event :=
  { created with
    status := (history.getLast?.map EventUpdate.status).getD created.status
    resolvedAt := (history.find? fun update => update.status.isFinal).map EventUpdate.createdAt
    updatedAt := (history.getLast?.map EventUpdate.createdAt).getD created.createdAt }

theorem Event.after_nil {created : Event} (unresolved : created.resolvedAt = none)
    (untouched : created.updatedAt = created.createdAt) : created.after [] = created := by
  cases created
  simp_all [after]

theorem Event.after_concat (created : Event) (history : List EventUpdate) (last : EventUpdate) :
    created.after (history ++ [last]) =
      Memory.changed (created.after history) ⟨last.status, last.status.isFinal⟩
        last.createdAt := by
  cases found : history.find? fun update => update.status.isFinal with
  | none =>
      cases final : last.status.isFinal <;>
        simp [after, Memory.changed, nextResolvedAt, List.find?_append, found, final]
  | some first =>
      simp [after, Memory.changed, nextResolvedAt, List.find?_append, found]

namespace Exchange

def createdEvent : Exchange → Option Event
  | ⟨_, .store (.createEvent _), .ok event⟩ => some event
  | _ => none

def recordedFor (id : Uuid) : Exchange → Option EventUpdate
  | ⟨stamp, .store (.recordUpdate eventId new), .ok _⟩ =>
      if eventId = id then
        some
          { id := stamp.id, eventId := id, status := new.change.status, message := new.message,
            notify := new.notify, createdBy := new.createdBy, createdAt := stamp.now }
      else none
  | _ => none

/-- A recorded change resolves the event exactly when its status is final. -/
def Planned (exchange : Exchange) : Prop :=
  ∀ eventId new, exchange.op = .store (.recordUpdate eventId new) →
    new.change.resolves = new.change.status.isFinal

theorem createdEvent_spec {exchange : Exchange} {memory : Memory} {created : Event}
    (honest : exchange.Honest memory) (made : exchange.createdEvent = some created) :
    ∃ new, exchange.op = .store (.createEvent new) ∧ created.kind = new.kind ∧
      created.status = new.status ∧
      created.severity = new.severity ∧ created.createdAt = exchange.stamp.now := by
  obtain ⟨stamp, op, answer⟩ := exchange
  unfold createdEvent at made
  split at made
  · rename_i same
    cases same
    cases made
    simp only [Honest, Memory.perform, Memory.createEvent] at honest
    split at honest
    · cases honest
    · cases honest
      exact ⟨_, rfl, rfl, rfl, rfl, rfl⟩
  · cases made

theorem recordedFor_spec {exchange : Exchange} {id : Uuid} {update : EventUpdate}
    (recorded : exchange.recordedFor id = some update) :
    ∃ stamp new pair, exchange = ⟨stamp, .store (.recordUpdate id new), .ok pair⟩ ∧
      update.status = new.change.status ∧ update.createdAt = stamp.now := by
  unfold recordedFor at recorded
  split at recorded
  · split at recorded
    · rename_i mine
      cases recorded
      exact ⟨_, _, _, by rw [mine], rfl, rfl⟩
    · cases recorded
  · cases recorded

end Exchange

inductive EventEffect (before : Memory) (exchange : Exchange) (after : Memory) : Prop
  | none (events : after.events = before.events) (updates : after.updates = before.updates)
      (created : exchange.createdEvent = .none) (recorded : ∀ id, exchange.recordedFor id = .none)
  | created (event : Event) (events : after.events = event :: before.events)
      (updates : after.updates = before.updates) (created : exchange.createdEvent = some event)
      (recorded : ∀ id, exchange.recordedFor id = .none)
      (issued : exchange.issued = some event.id) (unresolved : event.resolvedAt = .none)
      (fresh : event.updatedAt = event.createdAt)
  | recorded (event : Event) (new : NewUpdate) (update : EventUpdate)
      (op : exchange.op = .store (.recordUpdate event.id new))
      (found : before.findEvent event.id = some event)
      (events : after.events = before.events.map fun e =>
        if e.id = event.id then Memory.changed event new.change update.createdAt else e)
      (updates : after.updates = update :: before.updates) (status : update.status =
        new.change.status)
      (owner : update.eventId = event.id) (created : exchange.createdEvent = .none)
      (recorded : ∀ id, exchange.recordedFor id = if event.id = id then some update else .none)
  | deleted (id : Uuid) (events : after.events = before.events.filter fun event => event.id != id)
      (updates : after.updates = before.updates.filter fun update => update.eventId != id)
      (created : exchange.createdEvent = .none) (recorded : ∀ id, exchange.recordedFor id = .none)
  | detached (id : Uuid)
      (events : after.events = before.events.map fun event =>
        if event.templateId = some id then { event with templateId := .none } else event)
      (updates : after.updates = before.updates) (created : exchange.createdEvent = .none)
      (recorded : ∀ id, exchange.recordedFor id = .none)

theorem eventEffect {exchange : Exchange} {memory : Memory} (honest : exchange.Honest memory) :
    EventEffect memory exchange (exchange.effect memory) := by
  obtain ⟨stamp, op, answer⟩ := exchange
  cases op with
  | store call =>
      have frame := memory.perform_unchanged stamp call
      simp only [Exchange.Honest] at honest
      subst honest
      cases call with
      | createEvent new =>
          simp only [Exchange.effect, Memory.perform, Memory.createEvent]
          split
          · exact .none rfl rfl rfl fun _ => rfl
          · exact .created _ rfl rfl rfl (fun _ => rfl) rfl rfl rfl
      | recordUpdate eventId new =>
          simp only [Exchange.effect, Memory.perform, Memory.recordUpdate]
          cases found : memory.findEvent eventId with
          | none => exact .none rfl rfl rfl fun _ => rfl
          | some event =>
              obtain ⟨-, rfl⟩ := Memory.findEvent_spec found
              refine .recorded event new _ rfl found rfl rfl rfl rfl rfl fun id => ?_
              by_cases same : event.id = id
              · subst same
                rfl
              · simp [Exchange.recordedFor, same]
      | deleteEvent id =>
          simp only [Exchange.effect, Memory.perform, Memory.deleteEvent]
          split
          · exact .none rfl rfl rfl fun _ => rfl
          · exact .deleted id rfl rfl rfl fun _ => rfl
      | deleteTemplate id =>
          simp only [Exchange.effect, Memory.perform, Memory.deleteTemplate]
          split
          · exact .none rfl rfl rfl fun _ => rfl
          · exact .detached id rfl rfl rfl fun _ => rfl
      | _ =>
          exact .none (frame.events (by simp [Store.Call.writes]))
            (frame.updates (by simp [Store.Call.writes]))
            rfl fun _ => rfl
  | _ => exact .none rfl rfl rfl fun _ => rfl

/-- What the exchanges so far and the store have to do with each other. -/
structure EventsKept (exchanges : List Exchange) (memory : Memory) : Prop where
  distinct : (memory.events.map Event.id).Nodup
  issued : ∀ event ∈ memory.events, event.id ∈ exchanges.filterMap Exchange.issued
  owned : ∀ update ∈ memory.updates, update.eventId ∈ exchanges.filterMap Exchange.issued
  unknown : ∀ id, id ∉ exchanges.filterMap Exchange.issued →
    exchanges.filterMap (Exchange.recordedFor id) = []
  listed : ∀ event ∈ memory.events,
    (memory.listUpdates event.id).reverse = exchanges.filterMap (Exchange.recordedFor event.id)
  folded : ∀ event ∈ memory.events, ∃ created ∈ exchanges.filterMap Exchange.createdEvent,
    created.id = event.id ∧
      { event with templateId := created.templateId } =
        created.after (exchanges.filterMap (Exchange.recordedFor event.id))

theorem EventsKept.empty : EventsKept [] .empty where
  distinct := .nil
  issued := by simp [Memory.empty]
  owned := by simp [Memory.empty]
  unknown := fun _ _ => rfl
  listed := by simp [Memory.empty]
  folded := by simp [Memory.empty]

namespace EventsKept

variable {exchanges : List Exchange} {before after : Memory} {last : Exchange}

private theorem mem_concat {α : Type} {f : Exchange → Option α} {a : α}
    (member : a ∈ exchanges.filterMap f) :
    a ∈ (exchanges ++ [last]).filterMap f := by
  rw [List.filterMap_append]
  exact List.mem_append_left _ member

private theorem history_concat {id : Uuid} (none : last.recordedFor id = .none) :
    (exchanges ++ [last]).filterMap (Exchange.recordedFor id) =
      exchanges.filterMap (Exchange.recordedFor id) := by
  rw [List.filterMap_append, List.filterMap_cons_none none, List.filterMap_nil, List.append_nil]

/-- Nothing is recorded, and the events that are left are what they were, with their updates; only
the reference to a template may be gone. -/
theorem thinned (kept : EventsKept exchanges before) (nothing : ∀ id, last.recordedFor id = none)
    (distinct : (after.events.map Event.id).Nodup)
    (events : ∀ event ∈ after.events, ∃ old ∈ before.events, old.id = event.id ∧
      ∀ templateId,
        { event with templateId := templateId } = { old with templateId := templateId })
    (updates : ∀ update ∈ after.updates, update ∈ before.updates)
    (listed : ∀ event ∈ after.events,
      after.listUpdates event.id = before.listUpdates event.id) :
    EventsKept (exchanges ++ [last]) after where
  distinct := distinct
  issued := by
    intro event member
    obtain ⟨old, present, same, -⟩ := events event member
    exact mem_concat (same ▸ kept.issued old present)
  owned := fun update member => mem_concat (kept.owned update (updates update member))
  unknown := fun id absent =>
    (history_concat (nothing id)).trans (kept.unknown id fun member => absent (mem_concat member))
  listed := by
    intro event member
    obtain ⟨old, present, same, -⟩ := events event member
    rw [history_concat (nothing event.id), listed event member, ← same]
    exact kept.listed old present
  folded := by
    intro event member
    obtain ⟨old, present, same, equal⟩ := events event member
    obtain ⟨created, made, owner, folded⟩ := kept.folded old present
    exact ⟨created, mem_concat made, owner.trans same,
      by rw [equal, folded, history_concat (nothing event.id), same]⟩

theorem created (kept : EventsKept exchanges before) {event : Event}
    (events : after.events = event :: before.events) (updates : after.updates = before.updates)
    (created : last.createdEvent = some event) (nothing : ∀ id, last.recordedFor id = none)
    (issued : last.issued = some event.id) (unresolved : event.resolvedAt = none)
    (untouched : event.updatedAt = event.createdAt)
    (fresh : ((exchanges ++ [last]).filterMap Exchange.issued).Nodup) :
    EventsKept (exchanges ++ [last]) after := by
  have new : event.id ∉ exchanges.filterMap Exchange.issued := not_mem_filterMap_init fresh issued
  have mine : event.id ∈ (exchanges ++ [last]).filterMap Exchange.issued := by
    rw [List.filterMap_append, List.filterMap_cons_some issued]
    exact List.mem_append_right _ List.mem_cons_self
  have history : (exchanges ++ [last]).filterMap (Exchange.recordedFor event.id) = [] :=
    (history_concat (nothing event.id)).trans (kept.unknown event.id new)
  have unlisted : after.listUpdates event.id = [] := by
    rw [Memory.listUpdates, updates, List.filter_eq_nil_iff]
    intro update member owner
    exact new (eq_of_beq owner ▸ kept.owned update member)
  have others (old : Event) (member : old ∈ before.events) : old.id ≠ event.id :=
    fun same => new (same ▸ kept.issued old member)
  exact
    { distinct := by
        rw [events, List.map_cons, List.nodup_cons]
        refine ⟨?_, kept.distinct⟩
        rintro member
        obtain ⟨old, present, same⟩ := List.mem_map.mp member
        exact others old present same
      issued := by
        intro old member
        rcases List.mem_cons.mp (events ▸ member) with rfl | earlier
        · exact mine
        · exact mem_concat (kept.issued old earlier)
      owned := fun update member => mem_concat (kept.owned update (updates ▸ member))
      unknown := fun id absent =>
        (history_concat (nothing id)).trans (kept.unknown id fun member =>
          absent (mem_concat member))
      listed := by
        intro old member
        rcases List.mem_cons.mp (events ▸ member) with rfl | earlier
        · rw [unlisted, history, List.reverse_nil]
        · rw [history_concat (nothing old.id), Memory.listUpdates, updates]
          exact kept.listed old earlier
      folded := by
        intro old member
        rcases List.mem_cons.mp (events ▸ member) with rfl | earlier
        · refine ⟨old, ?_, rfl, ?_⟩
          · rw [List.filterMap_append, List.filterMap_cons_some created]
            exact List.mem_append_right _ List.mem_cons_self
          · rw [history, Event.after_nil unresolved untouched]
        · obtain ⟨made, member, owner, folded⟩ := kept.folded old earlier
          exact ⟨made, mem_concat member, owner,
            folded.trans (congrArg made.after (history_concat (nothing old.id)).symm)⟩ }

/-- A recorded update changes its event and no other, and is the last of its history. -/
theorem recorded (kept : EventsKept exchanges before) {event : Event} {change : StatusChange}
    {update : EventUpdate} (present : event ∈ before.events)
    (events : after.events = before.events.map fun e =>
      if e.id = event.id then Memory.changed event change update.createdAt else e)
    (updates : after.updates = update :: before.updates) (status : update.status = change.status)
    (planned : change.resolves = change.status.isFinal) (owner : update.eventId = event.id)
    (recorded : ∀ id, last.recordedFor id = if event.id = id then some update else none) :
    EventsKept (exchanges ++ [last]) after := by
  have mine : (exchanges ++ [last]).filterMap (Exchange.recordedFor event.id) =
      exchanges.filterMap (Exchange.recordedFor event.id) ++ [update] := by
    rw [List.filterMap_append, List.filterMap_cons_some ((recorded event.id).trans (if_pos rfl)),
      List.filterMap_nil]
  have others {id : Uuid} (other : event.id ≠ id) : last.recordedFor id = none :=
    (recorded id).trans (if_neg other)
  have origin (e : Event) (member : e ∈ after.events) :
      ∃ old ∈ before.events, old.id = e.id ∧
      (event.id = e.id → e = Memory.changed event change update.createdAt) ∧
      (event.id ≠ e.id → e = old) := by
    obtain ⟨old, present, rfl⟩ := List.mem_map.mp (events ▸ member)
    by_cases same : old.id = event.id
    · rw [if_pos same]
      exact ⟨old, present, same, fun _ => rfl, fun other => absurd rfl other⟩
    · rw [if_neg same]
      exact ⟨old, present, rfl, fun equal => absurd equal.symm same, fun _ => rfl⟩
  exact
    { distinct := by
        have ids : after.events.map Event.id = before.events.map Event.id := by
          rw [events, List.map_map]
          refine List.map_congr_left fun e _ => ?_
          by_cases same : e.id = event.id
          · simp [same, Memory.changed]
          · simp [same]
        exact ids ▸ kept.distinct
      issued := by
        intro e member
        obtain ⟨old, present, same, -⟩ := origin e member
        exact mem_concat (same ▸ kept.issued old present)
      owned := by
        intro u member
        rcases List.mem_cons.mp (updates ▸ member) with rfl | earlier
        · exact owner ▸ mem_concat (kept.issued event present)
        · exact mem_concat (kept.owned u earlier)
      unknown := by
        intro id absent
        have other : event.id ≠ id := by
          rintro rfl
          exact absent (mem_concat (kept.issued event present))
        exact (history_concat (others other)).trans
          (kept.unknown id fun member => absent (mem_concat member))
      listed := by
        intro e member
        obtain ⟨old, present', same, -, unchanged⟩ := origin e member
        by_cases equal : event.id = e.id
        · rw [← equal, mine, Memory.listUpdates, updates,
            List.filter_cons_of_pos (by simp [owner]), List.reverse_cons,
            ← kept.listed event present]
          rfl
        · rw [history_concat (others equal), Memory.listUpdates, updates,
            List.filter_cons_of_neg (by simpa [owner] using equal), ← same]
          exact kept.listed old present'
      folded := by
        intro e member
        obtain ⟨old, present', same, changed, unchanged⟩ := origin e member
        by_cases equal : event.id = e.id
        · obtain ⟨created, made, creation, folded⟩ := kept.folded event present
          refine ⟨created, mem_concat made, creation.trans equal, ?_⟩
          rw [← equal, mine, Event.after_concat, ← folded, changed equal, status, ← planned]
          rfl
        · obtain ⟨created, made, creation, folded⟩ := kept.folded old present'
          rw [history_concat (others equal), unchanged equal]
          exact ⟨created, mem_concat made, creation, folded⟩ }

theorem concat (kept : EventsKept exchanges before) (honest : last.Honest before)
    (planned : last.Planned) (fresh : ((exchanges ++ [last]).filterMap Exchange.issued).Nodup) :
    EventsKept (exchanges ++ [last]) (last.effect before) := by
  cases eventEffect honest with
  | none events updates _ nothing =>
      refine kept.thinned nothing (events ▸ kept.distinct) ?_ (fun _ member =>
        updates ▸ member) ?_
      · exact fun event member => ⟨event, events ▸ member, rfl, fun _ => rfl⟩
      · intro event _
        rw [Memory.listUpdates, updates]
        rfl
  | created event events updates created nothing issued unresolved untouched =>
      exact kept.created events updates created nothing issued unresolved untouched fresh
  | recorded event new update op found events updates status owner _ recorded =>
      exact kept.recorded (Memory.findEvent_spec found).1 events updates status (planned _ _ op)
        owner recorded
  | deleted id events updates _ nothing =>
      refine kept.thinned nothing ?_ ?_ ?_ ?_
      · rw [events]
        exact kept.distinct.sublist (List.filter_sublist.map _)
      · intro event member
        rw [events] at member
        exact ⟨event, List.mem_of_mem_filter member, rfl, fun _ => rfl⟩
      · intro update member
        rw [updates] at member
        exact List.mem_of_mem_filter member
      · intro event member
        rw [events, List.mem_filter, bne_iff_ne] at member
        rw [Memory.listUpdates, updates, List.filter_filter]
        refine List.filter_congr fun update _ => ?_
        by_cases owner : update.eventId = event.id
        · simp [owner, member.2]
        · simp [owner]
  | detached id events updates _ nothing =>
      refine kept.thinned nothing ?_ ?_ (fun _ member => updates ▸ member) ?_
      · rw [events, List.map_map]
        refine (List.map_congr_left fun event _ => ?_) ▸ kept.distinct
        by_cases attached : event.templateId = some id <;> simp [attached]
      · intro event member
        rw [events] at member
        obtain ⟨old, present, rfl⟩ := List.mem_map.mp member
        refine ⟨old, present, ?_, fun templateId => ?_⟩ <;>
          by_cases attached : old.templateId = some id <;> simp [attached]
      · intro event _
        rw [Memory.listUpdates, updates]
        rfl

/-- The relation holds after any exchanges with honest answers and
identifiers that are all different. -/
theorem replay {exchanges : List Exchange} (honest : HonestFrom .empty exchanges)
    (planned : ∀ exchange ∈ exchanges, exchange.Planned)
    (distinct : (exchanges.filterMap Exchange.issued).Nodup) :
    EventsKept exchanges (StatusPage.replay .empty exchanges) := by
  induction exchanges using List.reverseRecOn with
  | nil => exact .empty
  | append_singleton exchanges last ih =>
      obtain ⟨earlier, fits⟩ := honest.init
      have kept := ih earlier (fun e member => planned e (List.mem_append_left _ member))
        (nodup_filterMap_init distinct)
      rw [replay_append]
      exact kept.concat fits (planned last (List.mem_append_right _ List.mem_cons_self)) distinct

end EventsKept

/-! ### Runs of the service -/

/-- The update that a request was to add to an event, if this is the
turn in which it was recorded. -/
def Entry.recordedFor {notices : Bool} (id : Uuid) :
    Entry (eventService notices) → Option EventUpdate
  | ⟨_, .addUpdate eventId createdBy draft, ⟨stamp, .store (.recordUpdate _ _), .ok _⟩⟩ =>
      if eventId = id then
        (Named.ofName? draft.status).map fun status =>
          { id := stamp.id, eventId := id, status, message := draft.message, notify := draft.notify,
            createdBy, createdAt := stamp.now }
      else none
  | _ => none

private theorem planUpdate_spec {kind : EventKind} {text : String} {change : StatusChange}
    (planned : planUpdate kind text = .ok change) :
    Named.ofName? text = some change.status ∧ change.resolves = change.status.isFinal := by
  unfold planUpdate EventKind.readStatus at planned
  cases named : (Named.ofName? text : Option EventStatus) with
  | none => rw [named] at planned; cases planned
  | some status =>
      rw [named] at planned
      by_cases legal : status.LegalFor kind
      · simp only [if_pos legal] at planned
        cases planned
        exact ⟨rfl, rfl⟩
      · simp only [if_neg legal] at planned
        cases planned

private theorem recordUpdate_asked {request : EventRequest} {eventId : Uuid} {new : NewUpdate}
    (asked : request.MayAsk (.store (.recordUpdate eventId new))) :
    ∃ createdBy draft change, request = .addUpdate eventId createdBy draft ∧
      new = ⟨change, draft.message, draft.notify, createdBy⟩ ∧
      Named.ofName? draft.status = some change.status ∧
      change.resolves = change.status.isFinal := by
  cases asked with
  | @recordUpdate _ createdBy draft kind change planned =>
      obtain ⟨named, resolves⟩ := planUpdate_spec planned
      exact ⟨createdBy, draft, change, rfl, rfl, named, resolves⟩

private theorem recordedFor_eq {notices : Bool} {id : Uuid} {entry : Entry (eventService notices)}
    (asked : EventRequest.MayAsk entry.request entry.exchange.op) :
    entry.exchange.recordedFor id = entry.recordedFor id := by
  obtain ⟨n, request, stamp, op, answer⟩ := entry
  cases op with
  | store call =>
      cases call with
      | recordUpdate eventId new =>
          obtain ⟨createdBy, draft, change, rfl, rfl, named, -⟩ := recordUpdate_asked asked
          cases answer with
          | error e => rfl
          | ok pair =>
              by_cases same : eventId = id
              · simp [Exchange.recordedFor, Entry.recordedFor, same, named]
              · simp [Exchange.recordedFor, Entry.recordedFor, same]
      | _ => cases request <;> rfl
  | _ => cases request <;> rfl

theorem createdEvent_asked {request : EventRequest} {exchange : Exchange} {created : Event}
    (asked : request.MayAsk exchange.op) (made : exchange.createdEvent = some created) :
    ∃ createdBy draft, request = .create createdBy draft := by
  obtain ⟨stamp, op, answer⟩ := exchange
  cases asked with
  | @createEvent createdBy draft c legal => exact ⟨createdBy, draft, rfl⟩
  | _ => cases made

private theorem recordings_distinct {notices : Bool} (id : Uuid)
    (moves : List (Move (eventService notices))) :
    (((Run.after .empty moves).log.filter fun entry => (entry.recordedFor id).isSome).map
      Entry.task).Nodup := by
  have writes (entry : Entry (eventService notices)) (recorded : (entry.recordedFor id).isSome) :
      entry.exchange.op.writes := by
    obtain ⟨n, request, stamp, op, answer⟩ := entry
    unfold Entry.recordedFor at recorded
    split at recorded
    · rename_i same
      cases same
      rfl
    · cases recorded
  have once : ∀ entry ∈ (Run.after .empty moves).log, (entry.recordedFor id).isSome →
      entry.exchange.op.writes ∧
        ((eventService notices).program entry.request).AsksAtMost Op.writes 1 :=
    fun entry _ recorded =>
      ⟨writes entry recorded, EventRequest.program_writes_once notices entry.request⟩
  exact Run.asked_once once

theorem Run.planned {notices : Bool} (moves : List (Move (eventService notices))) :
    ∀ exchange ∈ (Run.after .empty moves).exchanges, exchange.Planned := by
  intro exchange happened eventId new op
  obtain ⟨entry, logged, rfl⟩ := List.mem_map.mp happened
  have asked := Run.log_asked (EventRequest.program_asks notices) .empty moves entry logged
  obtain ⟨_, _, change, -, rfl, -, resolves⟩ := recordUpdate_asked (op ▸ asked)
  exact resolves

/-- At each moment of a run the store fits the exchanges so far. -/
theorem Run.eventsKept {notices : Bool} {moves : List (Move (eventService notices))}
    (distinct : ((Run.after .empty moves).exchanges.filterMap Exchange.issued).Nodup)
    {before after : List Exchange} (split : (Run.after .empty moves).exchanges = before ++ after) :
    EventsKept before (replay .empty before) := by
  have honest : HonestFrom .empty (before ++ after) :=
    split ▸ (Run.replay_exchanges .empty moves).2
  have planned : ∀ exchange ∈ before, exchange.Planned := fun exchange member =>
    Run.planned moves exchange (split ▸ List.mem_append_left _ member)
  rw [split, List.filterMap_append] at distinct
  exact .replay honest.split.1 planned (List.nodup_append.mp distinct).1

/-- In every run of any requests over an empty store, the updates of an event are
those that requests have recorded for it, each request once, and the event is what
these updates have made of it. -/
theorem event_eq_history {notices : Bool} (moves : List (Move (eventService notices)))
    (distinct : ((Run.after .empty moves).exchanges.filterMap Exchange.issued).Nodup) {id : Uuid}
    {event : Event} (present : (Run.after .empty moves).memory.findEvent id = some event) :
    ((Run.after .empty moves).memory.listUpdates id).reverse =
        (Run.after .empty moves).log.filterMap (Entry.recordedFor id) ∧
      (((Run.after .empty moves).log.filter fun entry => (entry.recordedFor id).isSome).map
        Entry.task).Nodup ∧
      ∃ entry ∈ (Run.after .empty moves).log, ∃ createdBy draft created,
        entry.request = .create createdBy draft ∧ entry.exchange.createdEvent = some created ∧
          created.id = id ∧
          { event with templateId := created.templateId } =
            created.after ((Run.after .empty moves).log.filterMap (Entry.recordedFor id)) := by
  have asked : ∀ entry ∈ (Run.after .empty moves).log,
      EventRequest.MayAsk entry.request entry.exchange.op :=
    Run.log_asked (EventRequest.program_asks notices) .empty moves
  have history : (Run.after .empty moves).exchanges.filterMap (Exchange.recordedFor id) =
      (Run.after .empty moves).log.filterMap (Entry.recordedFor id) := by
    rw [Run.exchanges, List.filterMap_map]
    exact List.filterMap_congr fun entry logged => recordedFor_eq (asked entry logged)
  have kept := Run.eventsKept distinct (List.append_nil _).symm
  rw [(Run.replay_exchanges .empty moves).1] at kept
  obtain ⟨member, rfl⟩ := Memory.findEvent_spec present
  refine ⟨(kept.listed event member).trans history, recordings_distinct _ moves, ?_⟩
  obtain ⟨created, made, owner, folded⟩ := kept.folded event member
  obtain ⟨exchange, happened, made⟩ := List.mem_filterMap.mp made
  obtain ⟨entry, logged, rfl⟩ := List.mem_map.mp happened
  obtain ⟨createdBy, draft, request⟩ := createdEvent_asked (asked entry logged) made
  exact ⟨entry, logged, createdBy, draft, created, request, made, owner,
    folded.trans (by rw [history])⟩

/-- Two requests look at an event before either of them records its update. -/
def crossedUpdates : List (Move (eventService false)) :=
  [.arrival (.create (.ofNat 9)
      ⟨"Disk full", "incident", "investigating", some "major", "", none, none, none,
        false, none, []⟩),
    .turn 0 (.plain 1 1),
    .arrival (.addUpdate (.ofNat 1) (.ofNat 9) ⟨"monitoring", "watching", false⟩),
    .arrival (.addUpdate (.ofNat 1) (.ofNat 9) ⟨"resolved", "fixed", false⟩),
    .turn 1 (.plain 2 2), .turn 2 (.plain 3 3), .turn 2 (.plain 4 4), .turn 1 (.plain 5 5)]

theorem crossedUpdates_history :
    ((Run.after .empty crossedUpdates).memory.listUpdates (.ofNat 1)).reverse =
        (Run.after .empty crossedUpdates).log.filterMap (Entry.recordedFor (.ofNat 1)) ∧
      ((Run.after .empty crossedUpdates).memory.findEvent (.ofNat 1)).map
        (fun event => (event.status, event.resolvedAt)) = some (.monitoring, some ⟨4, 0⟩) := by
  obtain ⟨event, present⟩ : ∃ event,
      (Run.after .empty crossedUpdates).memory.findEvent (.ofNat 1) = some event :=
    Option.isSome_iff_exists.mp (by decide +kernel)
  exact ⟨(event_eq_history crossedUpdates (by decide +kernel) present).1, by decide +kernel⟩

end StatusPage
