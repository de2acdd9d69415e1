import StatusPage.Proofs.EventHistory
import StatusPage.Proofs.StoreIntegrity

/-!
The statuses of events in every run. The store checks no status: a request looks at an event, plans
a change for the kind that it has seen, and records the change in a later turn, when the event may
have been changed or deleted. This is safe because an identifier stands for one kind of event for
ever.
-/

set_option autoImplicit false

namespace StatusPage

open Store (Memory Stamp)

private theorem EventKind.mem_statuses {kind : EventKind} {status : EventStatus} :
    status ∈ kind.statuses ↔ status.LegalFor kind := by
  have listed : status ∈ (Named.all : List EventStatus) := by cases status <;> decide
  simp [EventKind.statuses, listed]

example : EventKind.incident.statuses = [.investigating, .identified, .monitoring, .resolved] := by
  decide

example : EventKind.maintenance.statuses = [.scheduled, .inProgress, .completed] := by decide

/-! ### What is checked -/

private theorem readStatus_legal {kind : EventKind} {text : String} {status : EventStatus}
    (read : kind.readStatus text = .ok status) : status.LegalFor kind := by
  unfold EventKind.readStatus at read
  split at read
  · split at read
    · rename_i legal
      cases read
      exact legal
    · cases read
  · cases read

private theorem readSeverity_spec {kind : EventKind} {text : Option String}
    {severity : Option Severity} (read : kind.readSeverity text = .ok severity) :
    severity.isSome ↔ kind = .incident := by
  cases kind with
  | maintenance =>
      cases read
      simp
  | incident =>
      simp only [EventKind.readSeverity] at read
      split at read
      · cases read
        simp
      · cases read

private theorem classify_legal {kind status : String} {severity : Option String}
    {c : Classification} (legal : classify kind status severity = .ok c) :
    c.status.LegalFor c.kind ∧ (c.severity.isSome ↔ c.kind = .incident) := by
  obtain ⟨kind, _, legal⟩ := ok_of_bind legal
  obtain ⟨status, fits, legal⟩ := ok_of_bind legal
  obtain ⟨severity, graded, legal⟩ := ok_of_bind legal
  cases legal
  exact ⟨readStatus_legal fits, readSeverity_spec graded⟩

private theorem planUpdate_legal {kind : EventKind} {text : String} {change : StatusChange}
    (planned : planUpdate kind text = .ok change) : change.status.LegalFor kind := by
  obtain ⟨status, fits, planned⟩ := ok_of_bind planned
  cases planned
  exact readStatus_legal fits

private theorem addUpdate_found {notices : Bool} {eventId createdBy id : Uuid} {draft : UpdateDraft}
    {first last : List Exchange} {stamp : Stamp} {new : NewUpdate}
    {answer : Op.Answer (.store (.recordUpdate id new))}
    {rest : Program (Except EventError (Event × EventUpdate))}
    (path : Program.Path (Events.addUpdate notices eventId createdBy draft)
      (first ++ ⟨stamp, .store (.recordUpdate id new), answer⟩ :: last) rest) :
    ∃ found event, first = [⟨found, .store (.findEvent eventId), .ok event⟩] ∧
      id = eventId ∧
      planUpdate event.kind draft.status = .ok new.change := by
  have once := path.count_le (EventRequest.addUpdate_writes_once notices eventId createdBy draft)
  obtain ⟨next, asking, -⟩ := path.split
  obtain ⟨found, found?, between, rfl, looking⟩ := asking.past nofun
  rcases found? with e | event
  · cases looking.of_done.2
  · dsimp only [pure, Except.mapError, Program.bind] at looking
    cases planned : planUpdate event.kind draft.status with
    | error e =>
        rw [planned] at looking
        cases looking.of_done.2
    | ok change =>
        rw [planned] at looking
        rcases looking.of_ask with ⟨rfl, waiting⟩ | ⟨recorded, answer, later, rfl, -⟩
        · cases waiting
          exact ⟨found, event, rfl, rfl, planned⟩
        · simp [Op.writes, Store.Call.writes] at once

/-! ### Creations -/

namespace Exchange

private theorem createdEvent_issued {exchange : Exchange} {created : Event}
    (made : exchange.createdEvent = some created) :
    exchange.issued = some created.id := by
  unfold createdEvent at made
  split at made
  · cases made
    rfl
  · cases made

private theorem createdIds_sublist (exchanges : List Exchange) :
    ((exchanges.filterMap createdEvent).map Event.id).Sublist (exchanges.filterMap issued) := by
  induction exchanges with
  | nil => exact .slnil
  | cons exchange rest ih =>
      cases made : exchange.createdEvent with
      | none =>
          rw [List.filterMap_cons_none made]
          cases given : exchange.issued with
          | none => rwa [List.filterMap_cons_none given]
          | some id =>
              rw [List.filterMap_cons_some given]
              exact ih.cons id
      | some created =>
          rw [List.filterMap_cons_some made, List.filterMap_cons_some (createdEvent_issued made),
            List.map_cons]
          exact ih.cons_cons created.id

private theorem foundEvent_spec {stamp : Stamp} {id : Uuid} {memory : Memory} {event : Event}
    (honest : (⟨stamp, .store (.findEvent id), .ok event⟩ : Exchange).Honest memory) :
    event ∈ memory.events ∧ event.id = id :=
  Memory.findEvent_spec ((memory.reading_eq_ok).mp honest.symm)

end Exchange

/-! ### Runs of the service -/

section Runs

variable {notices : Bool} {moves : List (Move (eventService notices))}

private theorem created_legal {created : Event}
    (made : created ∈ (Run.after .empty moves).exchanges.filterMap Exchange.createdEvent) :
    created.status.LegalFor created.kind ∧
    (created.severity.isSome ↔ created.kind = .incident) := by
  obtain ⟨exchange, happened, made⟩ := List.mem_filterMap.mp made
  obtain ⟨entry, logged, rfl⟩ := List.mem_map.mp happened
  obtain ⟨before, after, split⟩ := List.append_of_mem happened
  have honest := (Run.replay_exchanges .empty moves).2 before _ after split
  obtain ⟨new, op, kind, status, severity, -⟩ := Exchange.createdEvent_spec honest made
  have asked := Run.log_asked (EventRequest.program_asks notices) .empty moves entry logged
  rw [op] at asked
  rw [kind, status, severity]
  generalize entry.request = request at asked
  cases asked with
  | createEvent legal => exact classify_legal legal

/-- At each moment of a run an event has kind and severity from its creation, and its status from
there or from the last update that was recorded for it. -/
theorem event_origin
    (distinct : ((Run.after .empty moves).exchanges.filterMap Exchange.issued).Nodup)
    {before after : List Exchange} (split : (Run.after .empty moves).exchanges = before ++ after)
    {event : Event} (present : event ∈ (replay .empty before).events) :
    ∃ created ∈ (Run.after .empty moves).exchanges.filterMap Exchange.createdEvent,
      created.id = event.id ∧ event.kind = created.kind ∧ event.severity = created.severity ∧
        (event.status = created.status ∨
          ∃ update ∈ before.filterMap (Exchange.recordedFor event.id),
            event.status = update.status) := by
  obtain ⟨created, made, mine, folded⟩ := (Run.eventsKept distinct split).folded event present
  generalize recorded : before.filterMap (Exchange.recordedFor event.id) = history at folded
  have kind := congrArg Event.kind folded
  have severity := congrArg Event.severity folded
  have status := congrArg Event.status folded
  refine ⟨created, ?_, mine, kind, severity, ?_⟩
  · rw [split, List.filterMap_append]
    exact List.mem_append_left _ made
  · simp only [Event.after] at status
    cases last : history.getLast? with
    | none => exact .inl (by simpa [last] using status)
    | some update =>
      exact .inr ⟨update, List.mem_of_getLast? last, by simpa [last] using status⟩

private theorem kind_fixed
    (distinct : ((Run.after .empty moves).exchanges.filterMap Exchange.issued).Nodup)
    {before after before' after' : List Exchange}
    (split : (Run.after .empty moves).exchanges = before ++ after)
    (split' : (Run.after .empty moves).exchanges = before' ++ after') {event other : Event}
    (present : event ∈ (replay .empty before).events)
    (present' : other ∈ (replay .empty before').events) (same : other.id = event.id) :
    other.kind = event.kind := by
  obtain ⟨created, made, mine, kind, -⟩ := event_origin distinct split present
  obtain ⟨created', made', mine', kind', -⟩ := event_origin distinct split' present'
  have one : created' = created :=
    List.inj_on_of_nodup_map (distinct.sublist (Exchange.createdIds_sublist _)) made' made
      (mine'.trans (same.trans mine.symm))
  rw [kind', one, kind]

/-- What is recorded is legal for the event, though it was planned for what the
event was some turns earlier. -/
theorem recorded_legal
    (distinct : ((Run.after .empty moves).exchanges.filterMap Exchange.issued).Nodup)
    {event : Event} {update : EventUpdate}
    (present : event ∈ (Run.after .empty moves).memory.events)
    (recorded : update ∈
      (Run.after .empty moves).exchanges.filterMap (Exchange.recordedFor event.id)) :
    update.status.LegalFor event.kind := by
  obtain ⟨exchange, happened, recorded⟩ := List.mem_filterMap.mp recorded
  obtain ⟨entry, logged, rfl⟩ := List.mem_map.mp happened
  obtain ⟨n, request, exchange⟩ := entry
  obtain ⟨stamp, new, pair, rfl, status, -⟩ := Exchange.recordedFor_spec recorded
  have asked := Run.log_asked (EventRequest.program_asks notices) .empty moves _ logged
  obtain ⟨rest, owner⟩ := Run.log_owner .empty moves _ logged
  cases asked with
  | @recordUpdate _ createdBy draft kind change _ =>
      obtain ⟨first, last, view⟩ :=
        List.append_of_mem (Run.mem_view.mpr ⟨_, logged, rfl, rfl⟩)
      have path := Run.view_path .empty moves n _ owner
      rw [view] at path
      obtain ⟨found, seen, rfl, -, planned⟩ := addUpdate_found path
      obtain ⟨front, between, after, split⟩ := Run.exchanges_ordered view List.mem_cons_self
      obtain ⟨known, same⟩ :=
        Exchange.foundEvent_spec ((Run.replay_exchanges .empty moves).2 _ _ _ split)
      have reached := (Run.replay_exchanges .empty moves).1
      rw [status, kind_fixed distinct split (List.append_nil _).symm known (reached ▸
        present) same.symm]
      exact planUpdate_legal planned

end Runs

/-- Kind, status and severity of each event fit together, and each update has a status of the kind
of its event. -/
structure Store.Memory.Lawful (memory : Memory) : Prop where
  statuses : ∀ event ∈ memory.events, event.status ∈ event.kind.statuses
  severities : ∀ event ∈ memory.events, event.severity.isSome ↔ event.kind = .incident
  updates : ∀ update ∈ memory.updates, ∃ event,
    memory.findEvent update.eventId = some event ∧
    update.status ∈ event.kind.statuses

/-- In every run of any requests over an empty store all statuses are legal at all times, and no
event changes its kind. -/
theorem statuses_lawful {notices : Bool} (moves : List (Move (eventService notices)))
    (distinct : ((Run.after .empty moves).exchanges.filterMap Exchange.issued).Nodup) :
    (Run.after .empty moves).memory.Lawful ∧
      ∀ earlier later, moves = earlier ++ later →
        ∀ old ∈ (Run.after .empty earlier).memory.events,
        ∀ event ∈ (Run.after .empty moves).memory.events, event.id = old.id →
          event.kind = old.kind := by
  obtain ⟨reached, honest⟩ := Run.replay_exchanges .empty moves
  have whole : (Run.after .empty moves).exchanges = (Run.after .empty moves).exchanges ++ [] :=
    (List.append_nil _).symm
  refine ⟨⟨?_, ?_, ?_⟩, ?_⟩
  · intro event present
    rw [EventKind.mem_statuses]
    obtain ⟨created, made, -, kind, -, status⟩ :=
      event_origin distinct whole (reached ▸ present)
    rcases status with unchanged | ⟨update, recorded, last⟩
    · rw [unchanged, kind]
      exact (created_legal made).1
    · rw [last]
      exact recorded_legal distinct present recorded
  · intro event present
    obtain ⟨created, made, -, kind, severity, -⟩ :=
      event_origin distinct whole (reached ▸ present)
    rw [kind, severity]
    exact (created_legal made).2
  · intro update member
    have intact := (Memory.Intact.replay honest distinct).1
    rw [reached] at intact
    obtain ⟨event, present, mine⟩ := intact.updateEvents update member
    refine ⟨event, mine ▸ Memory.find?_key intact.eventIds present, ?_⟩
    rw [EventKind.mem_statuses]
    refine recorded_legal distinct present ?_
    have kept := Run.eventsKept distinct whole
    rw [reached] at kept
    rw [← kept.listed event present, List.mem_reverse]
    exact List.mem_filter.mpr ⟨member, beq_iff_eq.mpr mine.symm⟩
  · rintro earlier later rfl old present event present' same
    obtain ⟨more, grown⟩ := Run.exchanges_append .empty earlier later
    rw [← (Run.replay_exchanges .empty earlier).1] at present
    rw [← reached] at present'
    exact kind_fixed distinct grown whole present present' same

/-- An event is deleted between the two turns of an update, and another event with other statuses
takes its place. -/
def lateUpdate : List (Move (eventService false)) :=
  [.arrival (.create (.ofNat 9)
      ⟨"Disk full", "incident", "investigating", some "major", "", none, none, none,
        false, none, []⟩),
    .turn 0 (.plain 1 1),
    .arrival (.addUpdate (.ofNat 1) (.ofNat 9) ⟨"resolved", "fixed", false⟩),
    .turn 1 (.plain 2 2),
    .arrival (.delete (.ofNat 1)), .turn 2 (.plain 3 3),
    .arrival (.create (.ofNat 9)
      ⟨"New disk", "maintenance", "scheduled", some "major", "", none, none, none,
        false, none, []⟩),
    .turn 3 (.plain 4 4),
    .turn 1 (.plain 5 5),
    .arrival (.addUpdate (.ofNat 4) (.ofNat 9) ⟨"resolved", "fixed", false⟩),
    .turn 4 (.plain 6 6),
    .arrival (.addUpdate (.ofNat 4) (.ofNat 9) ⟨"in_progress", "moving", false⟩),
    .turn 5 (.plain 7 7),
    .turn 5 (.plain 8 8)]

theorem lateUpdate_lawful :
    ((Run.after .empty lateUpdate).exchanges.filterMap Exchange.issued).Nodup ∧
      (Run.after .empty lateUpdate).memory.Lawful ∧
      (∀ old ∈ (Run.after .empty (lateUpdate.take 8)).memory.events,
        ∀ event ∈ (Run.after .empty lateUpdate).memory.events, event.id = old.id →
          event.kind = old.kind) ∧
      (Run.after .empty lateUpdate).memory.events.map (fun event =>
        (event.id, event.status, event.severity)) = [(.ofNat 4, .inProgress, none)] ∧
      (Run.after .empty lateUpdate).memory.updates.map (fun update =>
        (update.eventId, update.status)) = [(.ofNat 4, .inProgress)] := by
  have distinct : ((Run.after .empty lateUpdate).exchanges.filterMap Exchange.issued).Nodup := by
    decide +kernel
  obtain ⟨lawful, kinds⟩ := statuses_lawful lateUpdate distinct
  exact ⟨distinct, lawful, kinds _ _ (List.take_append_drop 8 lateUpdate).symm, by decide +kernel,
    by decide +kernel⟩

end StatusPage
