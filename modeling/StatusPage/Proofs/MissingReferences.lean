import StatusPage.Database.Script
import StatusPage.Proofs.EventCreation
import StatusPage.Proofs.FirstFailure
import StatusPage.Proofs.StartedNotices

/-!
What is told of missing references. A store has one answer for whatever a call refers to and is not
there: a template, an event, or the user in whose name something is written. The service takes it
for the template when an event is to be created and for the event when an update is to be recorded.
Over the store in memory this is right, since nothing else can be missing there. A database that
does not know the user gives the same answer, and then the wrong thing is named.
-/

set_option autoImplicit false

namespace StatusPage

open Store (Memory Stamp)

/-! ### By the answers of the store -/

/-- What is asked and answered for a request for an event that ends with a missing template. The
last case has no template at all. -/
inductive CreationMissed (createdBy : Uuid) (draft : EventDraft) : List Answered → Prop
  | unknown {c : Classification} {id : Uuid}
      (legal : classify draft.kind draft.status draft.severity = .ok c)
      (chosen : draft.templateId = some id) :
      CreationMissed createdBy draft [⟨.store (.findTemplate id), .error .notFound⟩]
  | vanished {c : Classification} {id : Uuid}
      (legal : classify draft.kind draft.status draft.severity = .ok c)
      (chosen : draft.templateId = some id) (template : EventTemplate) :
      CreationMissed createdBy draft
        [⟨.store (.findTemplate id), .ok template⟩,
          ⟨.store (.createEvent (Events.written createdBy draft c)), .error .notFound⟩]
  | unchosen {c : Classification} (legal : classify draft.kind draft.status draft.severity = .ok c)
      (none : draft.templateId = .none) :
      CreationMissed createdBy draft [⟨.store (.createEvent (Events.written createdBy draft c)),
        .error .notFound⟩]

/-- What is asked and answered for an update that ends with a missing event. -/
inductive UpdateMissed (eventId createdBy : Uuid) (draft : UpdateDraft) : List Answered → Prop
  | unknown :
      UpdateMissed eventId createdBy draft [⟨.store (.findEvent eventId), .error .notFound⟩]
  | unrecorded (event : Event) {change : StatusChange}
      (planned : planUpdate event.kind draft.status = .ok change) :
      UpdateMissed eventId createdBy draft
        [⟨.store (.findEvent eventId), .ok event⟩,
          ⟨.store (.recordUpdate eventId ⟨change, draft.message, draft.notify, createdBy⟩),
            .error .notFound⟩]

namespace Events

@[simp] theorem templateMissing_eq_iff {context : String} {e : StoreError} :
    templateMissing context e = .templateNotFound ↔ e = .notFound := by
  cases e <;> simp [templateMissing, failed]

@[simp] theorem eventMissing_eq_iff {context : String} {e : StoreError} :
    eventMissing context e = .eventNotFound ↔ e = .notFound := by
  cases e <;> simp [eventMissing, failed]

private theorem planUpdate_error {kind : EventKind} {text : String} {e : EventError}
    (refused : planUpdate kind text = .error e) : e = .invalidStatus := by
  unfold planUpdate at refused
  cases read : kind.readStatus text with
  | ok status =>
      rw [read] at refused
      cases refused
  | error e' =>
      rw [read] at refused
      cases refused
      exact EventDraft.readStatus_error read

end Events

private theorem announced_reply {notices flagged : Bool} {event : Event} {subject body : String}
    {β : Type} {value : β} {said : List Answered} {reply : Reply β}
    (ends : (if flagged then (Events.notify notices event subject body).bind fun _ => .done value
      else .done value : Program β).Ends said reply) :
    reply = .value value := by
  cases flagged with
  | false => exact (Program.Ends.of_done ends).2
  | true =>
      cases notices with
      | true => exact (notify_bind_said ends).2
      | false => exact (Program.Ends.of_done ends).2

private theorem create_missed {notices : Bool} {createdBy : Uuid} {draft : EventDraft}
    {said : List Answered} {reply : Reply (Except EventError Event)}
    (ends : (Events.create notices createdBy draft).Ends said reply) :
    reply = .value (.error .templateNotFound) ↔ CreationMissed createdBy draft said := by
  have classes := draft.classifies
  unfold Events.create at ends
  cases legal : classify draft.kind draft.status draft.severity with
  | error e =>
      rw [legal] at ends classes
      obtain ⟨rfl, rfl⟩ := Program.Ends.of_done ends
      refine iff_of_false ?_ nofun
      rintro ⟨⟩
      cases classes
  | ok c =>
      rw [legal] at ends
      dsimp -zeta only at ends
      extract_lets new insert at ends
      have inserting {said : List Answered} (ends : (insert (.ok ())).Ends said reply) :
          reply = .value (.error .templateNotFound) ↔
            said = [⟨.store (.createEvent (Events.written createdBy draft c)),
              .error .notFound⟩] := by
        rcases calling_bind_said ends with ⟨e | event, last, rfl, rest⟩ | ⟨rfl, hangs⟩
        · obtain ⟨rfl, rfl⟩ := Program.Ends.of_done rest
          simp [new, Events.written]
        · have succeeded : reply = .value (.ok event) := announced_reply rest
          simp [succeeded, new, Events.written]
        · simpa using hangs _
      cases chosen : draft.templateId with
      | none =>
          rw [chosen] at ends
          rw [inserting ends]
          constructor
          · rintro rfl
            exact .unchosen legal chosen
          · intro missed
            cases missed with
            | unchosen legal' =>
                cases legal.symm.trans legal'
                rfl
            | unknown _ chosen' | vanished _ chosen' => cases chosen.symm.trans chosen'
      | some id =>
          rw [chosen] at ends
          have ends :
              ((Events.calling (.findTemplate id) (Events.templateMissing "loading template")).bind
            fun template => insert (template.map fun _ => ())).Ends said reply := ends
          rcases calling_bind_said ends with ⟨e | template, last, rfl, rest⟩ | ⟨rfl, hangs⟩
          · obtain ⟨rfl, rfl⟩ := Program.Ends.of_done rest
            constructor
            · intro same
              have missing : Events.templateMissing "loading template" e = .templateNotFound := by
                simpa using same
              rw [Events.templateMissing_eq_iff.mp missing]
              exact .unknown legal chosen
            · intro missed
              cases missed
              rfl
          · rw [inserting rest]
            constructor
            · rintro rfl
              exact .vanished legal chosen template
            · intro missed
              cases missed with
              | vanished legal' =>
                  cases legal.symm.trans legal'
                  rfl
          · exact iff_of_false (hangs _) nofun

private theorem create_unchosen (notices : Bool) (createdBy : Uuid) {draft : EventDraft}
    {c : Classification} (legal : classify draft.kind draft.status draft.severity = .ok c)
    (none : draft.templateId = none) :
    ∃ next, Events.create notices createdBy draft =
        .ask (.store (.createEvent (Events.written createdBy draft c))) next ∧
      next (.error .notFound) = .done (.error .templateNotFound) := by
  unfold Events.create
  rw [legal]
  dsimp -zeta only
  extract_lets new insert
  rw [none]
  exact ⟨_, rfl, rfl⟩

/-- Without a template, the missing template is told of when the store refuses to create the event
for anything that is missing. -/
theorem create_unchosen_missed {σ : Type} (store : AnyStore σ) (state : σ) (notices : Bool)
    (createdBy : Uuid) {draft : EventDraft} {c : Classification}
    (legal : classify draft.kind draft.status draft.severity = .ok c)
    (none : draft.templateId = none) :
    ((Events.create notices createdBy draft).run store.interpreter state).1 =
      .value (.error .templateNotFound) ↔
      (store (.createEvent (Events.written createdBy draft c)) state).1 =
        .value (.error .notFound) := by
  obtain ⟨next, same, refused⟩ := create_unchosen notices createdBy legal none
  have asked :
      store.interpreter.answer (.store (.createEvent (Events.written createdBy draft c))) state =
      store (.createEvent (Events.written createdBy draft c)) state := rfl
  rw [create_missed (Program.run_ends store _ state), same, Program.transcript, asked]
  rcases store (.createEvent (Events.written createdBy draft c)) state
    with ⟨answer | _ | reason, state'⟩
  · constructor
    · intro missed
      dsimp only at missed
      generalize (next answer).transcript store.interpreter state' = later at missed
      generalize said :
        (⟨.store (.createEvent (Events.written createdBy draft c)), answer⟩ :: later :
        List Answered) = all at missed
      cases missed with
      | unchosen legal' =>
          cases legal.symm.trans legal'
          cases said
          rfl
      | unknown _ chosen | vanished _ chosen => cases none.symm.trans chosen
    · rintro ⟨⟩
      dsimp only
      rw [refused]
      exact .unchosen legal none
  · exact iff_of_false nofun nofun
  · exact iff_of_false nofun nofun

private theorem addUpdate_missed {notices : Bool} {eventId createdBy : Uuid} {draft : UpdateDraft}
    {said : List Answered} {reply : Reply (Except EventError (Event × EventUpdate))}
    (ends : (Events.addUpdate notices eventId createdBy draft).Ends said reply) :
    reply = .value (.error .eventNotFound) ↔ UpdateMissed eventId createdBy draft said := by
  unfold Events.addUpdate at ends
  rcases calling_bind_said ends with ⟨e | event, last, rfl, rest⟩ | ⟨rfl, hangs⟩
  · obtain ⟨rfl, rfl⟩ := Program.Ends.of_done rest
    constructor
    · intro same
      have missing : Events.eventMissing "loading event" e = .eventNotFound := by simpa using same
      rw [Events.eventMissing_eq_iff.mp missing]
      exact .unknown
    · intro missed
      cases missed
      rfl
  · dsimp only [Except.mapError] at rest
    cases planned : planUpdate event.kind draft.status with
    | error e =>
        rw [planned] at rest
        obtain ⟨rfl, rfl⟩ := Program.Ends.of_done rest
        cases Events.planUpdate_error planned
        exact iff_of_false nofun nofun
    | ok change =>
        rw [planned] at rest
        rcases calling_bind_said rest with ⟨e | ⟨changed, update⟩, last, rfl,
          following⟩ | ⟨rfl, hangs⟩
        · obtain ⟨rfl, rfl⟩ := Program.Ends.of_done following
          constructor
          · intro same
            have missing : Events.eventMissing "recording update" e = .eventNotFound := by
              simpa using same
            rw [Events.eventMissing_eq_iff.mp missing]
            exact .unrecorded event planned
          · intro missed
            cases missed
            rfl
        · rw [announced_reply following]
          exact iff_of_false nofun nofun
        · exact iff_of_false (hangs _) nofun
  · exact iff_of_false (hangs _) nofun

/-! ### Over the store in memory -/

namespace Store.Memory

variable {memory : Memory} {stamp : Stamp}

private theorem createEvent_missing {new : NewEvent}
    (missing : (memory.perform stamp (.createEvent new)).1 = .error .notFound) :
    ∃ id, new.templateId = some id ∧ memory.findTemplate id = none := by
  simp only [perform, createEvent] at missing
  split at missing
  · rename_i unknown
    obtain ⟨id, chosen, absent⟩ := (Option.any_eq_true _ _).mp unknown
    exact ⟨id, chosen, Option.isNone_iff_eq_none.mp absent⟩
  · cases missing

theorem recordUpdate_missing {eventId : Uuid} {new : NewUpdate}
    (missing : (memory.perform stamp (.recordUpdate eventId new)).1 = .error .notFound) :
    memory.findEvent eventId = none := by
  cases found : memory.findEvent eventId with
  | none => rfl
  | some event =>
      rw [perform, recordUpdate, found] at missing
      cases missing

end Store.Memory

def Exchange.answered (exchange : Exchange) : Answered := ⟨exchange.op, exchange.answer⟩

theorem Program.Path.ends {α : Type} {program : Program α} {exchanges : List Exchange}
    {value : α} (path : program.Path exchanges (.done value)) :
    program.Ends (exchanges.map Exchange.answered) (.value value) := by
  generalize last : Program.done value = rest at path
  induction path with
  | nil =>
      subst last
      exact .done value
  | cons stamp _ ih => exact .answered (ih last)

/-- The store was like this at one of the turns of a request. -/
def Run.MetAt {service : Service} (start : Memory) (run : Run service) (n : Nat)
    (holds : Memory → Prop) : Prop :=
  ∃ before entry later, run.log = before ++ entry :: later ∧ entry.task = n ∧
    holds (replay start (before.map Entry.exchange))

private theorem Run.answered_at {service : Service} {start : Memory} {moves : List (Move service)}
    {n : Nat} {call : Store.Call} {answer : Except StoreError call.Result}
    (said : ⟨.store call, answer⟩ ∈ ((after start moves).view n).map Exchange.answered) :
    (after start moves).MetAt start n fun memory =>
      ∃ stamp, (memory.perform stamp call).1 = answer := by
  obtain ⟨⟨stamp, op, answer'⟩, member, same⟩ := List.mem_map.mp said
  cases same
  obtain ⟨first, last, split⟩ := List.append_of_mem member
  obtain ⟨before, later, request, logged, -⟩ := view_split split
  exact ⟨before, _, later, logged, rfl, stamp, (entry_honest logged).symm⟩

theorem Run.MetAt.imp {service : Service} {start : Memory} {run : Run service} {n : Nat}
    {holds held : Memory → Prop} (met : run.MetAt start n holds)
    (implies : ∀ memory, holds memory → held memory) : run.MetAt start n held := by
  obtain ⟨before, entry, later, logged, mine, true⟩ := met
  exact ⟨before, entry, later, logged, mine, implies _ true⟩

section

variable {notices : Bool} {start : Memory} {moves : List (Move (eventService notices))} {n : Nat}
  {createdBy : Uuid}

private theorem template_missed {draft : EventDraft}
    (ended : (Run.after start moves).tasks[n]? =
      some ⟨.create createdBy draft, .done (.error .templateNotFound)⟩) :
    ∃ id, draft.templateId = some id ∧
      (Run.after start moves).MetAt start n fun memory => memory.findTemplate id = none := by
  have ends := (Run.view_path start moves n _ ended).ends
  have missed := (create_missed ends).mp rfl
  have answered {call : Store.Call} {answer : Except StoreError call.Result} :=
    @Run.answered_at (eventService notices) start moves n call answer
  generalize ((Run.after start moves).view n).map Exchange.answered = said at missed answered
  cases missed with
  | @unknown c id legal chosen =>
      refine ⟨id, chosen, (answered List.mem_cons_self).imp fun memory turn => ?_⟩
      obtain ⟨stamp, missing⟩ := turn
      exact memory.reading_eq_notFound.mp missing
  | @vanished c id legal chosen template =>
      refine ⟨id, chosen,
        (answered (List.mem_cons_of_mem _ List.mem_cons_self)).imp fun memory turn => ?_⟩
      obtain ⟨stamp, missing⟩ := turn
      obtain ⟨other, same, absent⟩ := Store.Memory.createEvent_missing missing
      cases chosen.symm.trans same
      exact absent
  | unchosen legal none =>
      obtain ⟨before, entry, later, -, -, stamp, missing⟩ := answered List.mem_cons_self
      obtain ⟨id, same, -⟩ := Store.Memory.createEvent_missing missing
      cases none.symm.trans same

private theorem event_missed {eventId : Uuid} {draft : UpdateDraft}
    (ended : (Run.after start moves).tasks[n]? =
      some ⟨.addUpdate eventId createdBy draft, .done (.error .eventNotFound)⟩) :
    (Run.after start moves).MetAt start n fun memory => memory.findEvent eventId = none := by
  have ends := (Run.view_path start moves n _ ended).ends
  have missed := (addUpdate_missed ends).mp rfl
  have answered {call : Store.Call} {answer : Except StoreError call.Result} :=
    @Run.answered_at (eventService notices) start moves n call answer
  generalize ((Run.after start moves).view n).map Exchange.answered = said at missed answered
  cases missed with
  | unknown =>
      refine (answered List.mem_cons_self).imp fun memory turn => ?_
      obtain ⟨stamp, missing⟩ := turn
      exact memory.reading_eq_notFound.mp missing
  | unrecorded event planned =>
      refine (answered (List.mem_cons_of_mem _ List.mem_cons_self)).imp fun memory turn => ?_
      obtain ⟨stamp, missing⟩ := turn
      exact Store.Memory.recordUpdate_missing missing

end

/-! ### Over a database -/

namespace Database

open Store (Call)

def Exchange.reached {σ α : Type} (server : Server σ) : Exchange α → σ → σ
  | .done _, state => state
  | .send command next, state =>
      let (answer, state) := server.answer command state
      (next answer).reached server state

def store {σ : Type} (server : Server σ) : AnyStore σ := fun call state =>
  (.value ((perform call).run server state).1, (perform call).reached server state)

/-- A row is missing: the one that is asked for, or one that is referred to. -/
def Failing.Missing : Failing → Prop
  | .missingRow => True
  | .refused refusal => refusal.code = some "23503"
  | .undecoded _ => False

private theorem Failing.ToldAs.notFound_iff {failing : Failing} {e : StoreError}
    (told : failing.ToldAs e) :
    e = .notFound ↔ failing.Missing := by
  cases told with
  | dangling text => exact iff_of_true rfl rfl
  | missingRow => exact iff_of_true rfl trivial
  | refused unique bound => exact iff_of_false nofun bound
  | undecoded e => exact iff_of_false nofun id
  | _ => exact iff_of_false nofun (by simp [Missing])

private theorem firstFailing_of_undecided {call : Call} {said : Transcript}
    (undecided : decisive call said = none) :
    firstFailing (demands call) said = none := by
  unfold decisive at undecided
  split at undecided
  · cases undecided
  · exact Option.map_eq_none_iff.mp undecided

/-- A call that does not remove a row answers that something is missing exactly when the reply that
decides says so. -/
theorem Decided.notFound_iff {call : Call} {said : Transcript}
    {result : Except StoreError call.Result} (decided : Decided call said result)
    (keeps : removes call = false) :
    result = .error .notFound ↔ ∃ failing, decisive call said = some failing ∧
      failing.Missing := by
  cases found : decisive call said with
  | none =>
      obtain ⟨-, finishes⟩ := decided.finished (firstFailing_of_undecided found)
      refine iff_of_false ?_ (by simp)
      rintro rfl
      generalize changedRows said = changed at finishes
      cases finishes with
      | nothingRemoved removing => cases keeps.symm.trans removing
  | some failing =>
      obtain ⟨e, told, rfl⟩ := decided.told failing found
      simp [told.notFound_iff]

/-- The calls by which the service finds out that something is missing when it
creates events and updates. -/
inductive Refers : Call → Prop
  | findTemplate (id : Uuid) : Refers (.findTemplate id)
  | createEvent (new : NewEvent) : Refers (.createEvent new)
  | findEvent (id : Uuid) : Refers (.findEvent id)
  | recordUpdate (eventId : Uuid) (new : NewUpdate) : Refers (.recordUpdate eventId new)

theorem Refers.decided {call : Call} (refers : Refers call) {σ : Type} (server : Server σ)
    (state : σ) :
    Decided call ((perform call).transcript server state) ((perform call).run server state).1 := by
  obtain ⟨outcome, ends, same⟩ := ends_perform ((perform call).run_ends server state)
  rw [same]
  clear same
  generalize (perform call).transcript server state = said at ends
  cases refers with
  | findTemplate id =>
      exact decided_of_verdict (Work.firstRow_decided _ readTemplate_decodes ends) rfl
        fun value _ => .plain value rfl rfl
  | createEvent new =>
      exact decided_of_verdict (createEvent_decided new ends) rfl fun value _ =>
        .plain value rfl rfl
  | findEvent id =>
      exact decided_of_verdict (Work.firstRow_decided _ readEvent_decodes ends) rfl fun value _ =>
        .plain value rfl rfl
  | recordUpdate eventId new => exact recordUpdate_decided ends

private theorem Refers.notFound_iff {call : Call} (refers : Refers call) {σ : Type}
    (server : Server σ) (state : σ) :
    ((perform call).run server state).1 = .error .notFound ↔
      ∃ failing, decisive call ((perform call).transcript server state) = some failing ∧
        failing.Missing := by
  refine (refers.decided server state).notFound_iff ?_
  cases refers <;> rfl

end Database

/-- A new event is refused for a missing template, and an update for a missing event, exactly when
the store says of one of the calls that something is missing; this goes for a request without a
template too. The store in memory says so only when it is the template or the event. A database says
so whenever the reply that decides is without the row, or refuses the statement for any row that it
refers to, and this may be the user. -/
theorem missing_references_told {σ : Type} (store : AnyStore σ) (state : σ) (notices : Bool)
    (createdBy : Uuid) :
    (∀ draft,
      ((Events.create notices createdBy draft).run store.interpreter state).1 =
        .value (.error .templateNotFound) ↔
        CreationMissed createdBy draft
          ((Events.create notices createdBy draft).transcript store.interpreter state)) ∧
    (∀ draft c, classify draft.kind draft.status draft.severity = .ok c →
      draft.templateId = none →
      (((Events.create notices createdBy draft).run store.interpreter state).1 =
        .value (.error .templateNotFound) ↔
        (store (.createEvent (Events.written createdBy draft c)) state).1 =
          .value (.error .notFound))) ∧
    (∀ eventId draft,
      ((Events.addUpdate notices eventId createdBy draft).run store.interpreter state).1 =
          .value (.error .eventNotFound) ↔
        UpdateMissed eventId createdBy draft
          ((Events.addUpdate notices eventId createdBy draft).transcript
            store.interpreter state)) ∧
    (∀ (start : Memory) (moves : List (Move (eventService notices))) (n : Nat),
      (∀ draft, (Run.after start moves).tasks[n]? =
          some ⟨.create createdBy draft, .done (.error .templateNotFound)⟩ →
        ∃ id, draft.templateId = some id ∧
          (Run.after start moves).MetAt start n fun memory => memory.findTemplate id = none) ∧
      ∀ eventId draft, (Run.after start moves).tasks[n]? =
          some ⟨.addUpdate eventId createdBy draft, .done (.error .eventNotFound)⟩ →
        (Run.after start moves).MetAt start n fun memory => memory.findEvent eventId = none) ∧
    ∀ (server : Database.Server σ) (call : Store.Call), Database.Refers call →
      ((Database.store server call state).1 = .value (.error .notFound) ↔
        ∃ failing, Database.decisive call ((Database.perform call).transcript server state) =
          some failing ∧
          failing.Missing) := by
  refine ⟨?_, ?_, ?_, ?_, ?_⟩
  · exact fun draft => create_missed (Program.run_ends store _ state)
  · exact fun draft c legal none => create_unchosen_missed store state notices createdBy legal none
  · exact fun eventId draft => addUpdate_missed (Program.run_ends store _ state)
  · exact fun start moves n =>
      ⟨fun draft => template_missed, fun eventId draft => event_missed⟩
  · intro server call refers
    rw [← refers.notFound_iff server state]
    exact ⟨fun same => Reply.value.inj same, congrArg Reply.value⟩

def unknownAuthor : Database.Script :=
  ⟨[.error ⟨"23503", "insert or update on table \"events\" violates foreign key constraint"⟩],
    none, none, none⟩

theorem unknownAuthor_namedTemplate :
    ¬∀ (script : Database.Script) (createdBy : Uuid) (draft : EventDraft),
      ((Events.create false createdBy draft).run (Database.store script.server).interpreter
        script.replies).1 = .value (.error .templateNotFound) →
        draft.templateId ≠ none := by
  intro named
  exact named unknownAuthor (.ofNat 9)
    ⟨"Disk full", "incident", "investigating", some "major", "", none, none, none, false,
      none, []⟩ rfl rfl

end StatusPage
