import StatusPage.Proofs.Services

/-!
Notices follow writes. Requests to the service for events are served one after the other by any
store whatever, which may refuse a call, never answer it or break down over it. The notices that are
started are those that are due by the answers to the requests, and each is started right after the
write that it reports has succeeded.
-/

set_option autoImplicit false

namespace StatusPage

/-! ### Runs over any store -/

/-- A store with a state of its own; a call may be left without an answer. -/
abbrev AnyStore (σ : Type) :=
  (call : Store.Call) → σ → Reply (Except StoreError call.Result) × σ

/-- The service for events asks nothing but the store. A notice is taken at once. -/
def AnyStore.interpreter {σ : Type} (store : AnyStore σ) : Interpreter σ where
  answer
    | .store call, state => store call state
    | .notify _, state => (.value (), state)
    | .abort reason, state => (.aborted reason, state)
    | _, state => (.never, state)

structure Answered where
  op : Op
  answer : op.Answer

def Answered.notice? : Answered → Option Notice
  | ⟨.notify notice, _⟩ => some notice
  | _ => none

namespace Program

variable {σ α β : Type}

def transcript (interpreter : Interpreter σ) : Program α → σ → List Answered
  | .done _, _ => []
  | .ask op next, state =>
      match interpreter.answer op state with
      | (.value answer, state) => ⟨op, answer⟩ :: (next answer).transcript interpreter state
      | _ => []

/-- A program that gets these answers ends in this way. It may hang on any question but a notice. -/
inductive Ends : Program α → List Answered → Reply α → Prop
  | done (value : α) : Ends (.done value) [] (.value value)
  | answered {op : Op} {next : op.Answer → Program α} {answer : op.Answer}
      {later : List Answered} {reply : Reply α} (rest : Ends (next answer) later reply) :
      Ends (.ask op next) (⟨op, answer⟩ :: later) reply
  | unanswered {op : Op} {next : op.Answer → Program α} {reply : Reply α}
      (other : ∀ notice, op ≠ .notify notice) (hangs : ∀ value, reply ≠ .value value) :
      Ends (.ask op next) [] reply

theorem run_ends (store : AnyStore σ) (program : Program α) (state : σ) :
    program.Ends (program.transcript store.interpreter state)
      (program.run store.interpreter state).1 := by
  induction program generalizing state with
  | done value => exact .done value
  | ask op next ih =>
      have other (hangs : ∀ answer, (store.interpreter.answer op state).1 ≠ .value answer)
          (notice : Notice) :
          op ≠ .notify notice := by
        rintro rfl
        exact hangs () rfl
      unfold transcript run
      cases answered : store.interpreter.answer op state with
      | mk reply state' =>
          rw [answered] at other
          cases reply with
          | value answer => exact .answered (ih _ _)
          | never => exact .unanswered (other nofun) nofun
          | aborted reason => exact .unanswered (other nofun) nofun

theorem Ends.of_done {value : α} {said : List Answered} {reply : Reply α}
    (ends : (Program.done value).Ends said reply) :
    said = [] ∧ reply = .value value := by
  cases ends
  exact ⟨rfl, rfl⟩

theorem Ends.of_bind {program : Program α} {next : α → Program β} {said : List Answered}
    {reply : Reply β} (ends : (program.bind next).Ends said reply) :
    (∃ first last value,
      said = first ++ last ∧ program.Ends first (.value value) ∧
      (next value).Ends last reply) ∨
      ∃ hung, program.Ends said hung ∧ (∀ value, hung ≠ .value value) ∧
        ∀ value, reply ≠ .value value := by
  induction program generalizing said with
  | done value => exact .inl ⟨[], said, value, rfl, .done value, ends⟩
  | ask op rest ih =>
      cases ends with
      | answered following =>
          rcases ih _ following with
            ⟨first, last, value, rfl, former, latter⟩ | ⟨hung, former, hangs, open'⟩
          · exact .inl ⟨_ :: first, last, value, rfl, .answered former, latter⟩
          · exact .inr ⟨hung, .answered former, hangs, open'⟩
      | unanswered other hangs => exact .inr ⟨.never, .unanswered other nofun, nofun, hangs⟩

theorem Ends.asked {allowed : Op → Prop} {program : Program α} {said : List Answered}
    {reply : Reply α} (ends : program.Ends said reply) (asks : program.Asks allowed) :
    ∀ entry ∈ said, allowed entry.op := by
  induction ends with
  | done value => exact fun entry member => absurd member List.not_mem_nil
  | answered rest ih => exact List.forall_mem_cons.mpr ⟨asks.1, ih (asks.2 _)⟩
  | unanswered other hangs => exact fun entry member => absurd member List.not_mem_nil

end Program

/-! ### Notices that are due -/

namespace EventRequest

/-- The notice for a request, by the answer that the caller gets: none unless the
request is to create an event or an update, has succeeded, what it created is flagged,
and the event has services. -/
def due : (request : EventRequest) → Reply request.Result → Option Notice
  | .create _ _, .value (.ok event) =>
      if event.notify ∧ event.serviceIds ≠ [] then
        some ⟨event.serviceIds, "[" ++ event.kind.name ++ "] " ++ event.title,
          event.description⟩
      else none
  | .addUpdate _ _ _, .value (.ok (event, update)) =>
      if update.notify ∧ event.serviceIds ≠ [] then
        some ⟨event.serviceIds, "[" ++ update.status.name ++ "] " ++ event.title,
          update.message⟩
      else none
  | _, _ => none

/-- The write of which the caller gets the outcome. -/
inductive Wrote : (request : EventRequest) → Reply request.Result → Answered → Prop
  | created {createdBy : Uuid} {draft : EventDraft} (new : NewEvent) (event : Event) :
      Wrote (.create createdBy draft) (.value (.ok event))
        ⟨.store (.createEvent new), .ok event⟩
  | updated {eventId createdBy : Uuid} {draft : UpdateDraft} (new : NewUpdate) (event : Event)
      (update : EventUpdate) :
      Wrote (.addUpdate eventId createdBy draft) (.value (.ok (event, update)))
        ⟨.store (.recordUpdate eventId new), .ok (event, update)⟩

/-- What is said on behalf of a request: no notice when none is due; else the notice that is due,
once, right after the write, as the last thing of all. -/
inductive Accounts (request : EventRequest) (reply : Reply request.Result) : List Answered → Prop
  | quiet {said : List Answered} (silent : ∀ entry ∈ said, entry.notice? = none)
      (none : request.due reply = none) :
      Accounts request reply said
  | told {said : List Answered} {write : Answered} {notice : Notice}
      (silent : ∀ entry ∈ said, entry.notice? = none) (wrote : request.Wrote reply write)
      (due : request.due reply = some notice) :
      Accounts request reply (said ++ [write, ⟨.notify notice, ()⟩])

variable {request : EventRequest} {reply : Reply request.Result}

theorem Wrote.silent {write : Answered} (wrote : request.Wrote reply write) :
    write.notice? = none := by
  cases wrote <;> rfl

theorem Accounts.after {first last : List Answered}
    (silent : ∀ entry ∈ first, entry.notice? = none) (accounts : request.Accounts reply last) :
    request.Accounts reply (first ++ last) := by
  cases accounts with
  | quiet others none => exact .quiet (List.forall_mem_append.mpr ⟨silent, others⟩) none
  | told others wrote due =>
      rw [← List.append_assoc]
      exact .told (List.forall_mem_append.mpr ⟨silent, others⟩) wrote due

/-- A request that got no answer has no notice that is due. -/
theorem due_of_hung (hangs : ∀ result, reply ≠ .value result) : request.due reply = none := by
  cases reply with
  | value result => exact absurd rfl (hangs result)
  | _ => cases request <;> rfl

end EventRequest

/-! ### The programs -/

section

variable {said : List Answered}

private theorem calling_said {call : Store.Call} {describe : StoreError → EventError}
    {reply : Reply (Except EventError call.Result)}
    (ends : (Events.calling call describe).Ends said reply) :
    (∃ answer, said = [⟨.store call, answer⟩] ∧
      reply = .value (answer.mapError describe)) ∨
      said = [] ∧ ∀ result, reply ≠ .value result := by
  cases ends with
  | answered rest =>
      obtain ⟨rfl, rfl⟩ := rest.of_done
      exact .inl ⟨_, rfl, rfl⟩
  | unanswered other hangs => exact .inr ⟨rfl, hangs⟩

theorem calling_bind_said {call : Store.Call} {describe : StoreError → EventError} {β : Type}
    {next : Except EventError call.Result → Program β} {reply : Reply β}
    (ends : ((Events.calling call describe).bind next).Ends said reply) :
    (∃ answer last,
      said = ⟨.store call, answer⟩ :: last ∧
      (next (answer.mapError describe)).Ends last reply) ∨
      said = [] ∧ ∀ result, reply ≠ .value result := by
  rcases ends.of_bind with ⟨first, last, value, rfl, former, latter⟩ | ⟨hung, former,
    hangs, others⟩
  · rcases calling_said former with ⟨answer, rfl, same⟩ | ⟨-, open'⟩
    · cases same
      exact .inl ⟨answer, last, rfl, latter⟩
    · exact absurd rfl (open' value)
  · rcases calling_said former with ⟨answer, -, rfl⟩ | ⟨rfl, -⟩
    · exact absurd rfl (hangs _)
    · exact .inr ⟨rfl, others⟩

def announcement (event : Event) (subject body : String) : List Answered :=
  if event.serviceIds = [] then [] else [⟨.notify ⟨event.serviceIds, subject, body⟩, ()⟩]

theorem notify_bind_said {event : Event} {subject body : String} {β : Type} {value : β}
    {reply : Reply β}
    (ends : ((Events.notify true event subject body).bind fun _ => .done value).Ends said reply) :
    said = announcement event subject body ∧ reply = .value value := by
  unfold Events.notify at ends
  unfold announcement
  cases services : event.serviceIds with
  | nil =>
      rw [services] at ends
      exact Program.Ends.of_done ends
  | cons id ids =>
      rw [services] at ends
      change (Program.ask (.notify ⟨id :: ids, subject, body⟩) fun _ =>
        .done value).Ends said reply at ends
      cases ends with
      | answered rest =>
          obtain ⟨rfl, rfl⟩ := rest.of_done
          exact ⟨rfl, rfl⟩
      | unanswered other hangs => exact absurd rfl (other _)

variable {request : EventRequest} {reply : Reply request.Result}

/-- After the write that a request is for, its notice is started if there are followers to tell. -/
theorem accounts_written {write : Answered} {event : Event} {subject body : String}
    (wrote : request.Wrote reply write) (due : request.due reply =
      if event.serviceIds ≠ [] then some ⟨event.serviceIds, subject, body⟩ else none) :
    request.Accounts reply (write :: announcement event subject body) := by
  unfold announcement
  by_cases services : event.serviceIds = []
  · rw [if_neg (not_not_intro services)] at due
    rw [if_pos services]
    exact .quiet (List.forall_mem_singleton.mpr wrote.silent) due
  · rw [if_pos services] at due
    rw [if_neg services]
    have silent : ∀ entry ∈ ([] : List Answered), entry.notice? = none :=
      fun _ member => absurd member List.not_mem_nil
    exact .told silent wrote due

private theorem accounts_silent {call : Store.Call} {answer : Except StoreError call.Result}
    (none : request.due reply = none) :
    request.Accounts reply [⟨.store call, answer⟩] :=
  .quiet (List.forall_mem_singleton.mpr rfl) none

private theorem accounts_hung (hangs : ∀ result, reply ≠ .value result) :
    request.Accounts reply [] :=
  .quiet (fun _ member => absurd member List.not_mem_nil) (EventRequest.due_of_hung hangs)

end

private theorem create_accounts {createdBy : Uuid} {draft : EventDraft} {said : List Answered}
    {reply : Reply (Except EventError Event)}
    (ends : (Events.create true createdBy draft).Ends said reply) :
    (EventRequest.create createdBy draft).Accounts reply said := by
  have failed (e : EventError) :
      (EventRequest.create createdBy draft).Accounts (.value (.error e)) [] :=
    .quiet (fun _ member => absurd member List.not_mem_nil) rfl
  unfold Events.create at ends
  cases legal : classify draft.kind draft.status draft.severity with
  | error e =>
      rw [legal] at ends
      obtain ⟨rfl, rfl⟩ := Program.Ends.of_done ends
      exact failed e
  | ok c =>
      rw [legal] at ends
      dsimp -zeta only at ends
      extract_lets new insert at ends
      have inserting {said : List Answered} (found : Except EventError Unit)
          (ends : (insert found).Ends said reply) :
          (EventRequest.create createdBy draft).Accounts reply said := by
        cases found with
        | error e =>
            obtain ⟨rfl, rfl⟩ := Program.Ends.of_done ends
            exact failed e
        | ok _ =>
            rcases calling_bind_said ends with ⟨e | event, last, rfl, rest⟩ | ⟨rfl, hangs⟩
            · obtain ⟨rfl, rfl⟩ := Program.Ends.of_done rest
              exact accounts_silent rfl
            · by_cases flagged : event.notify
              · change (if event.notify then _ else _ : Program _).Ends last reply at rest
                rw [if_pos flagged] at rest
                obtain ⟨rfl, rfl⟩ := notify_bind_said rest
                exact accounts_written (.created new event)
                  (by simp [EventRequest.due, flagged, Events.subjectLine])
              · change (if event.notify then _ else _ : Program _).Ends last reply at rest
                rw [if_neg flagged] at rest
                obtain ⟨rfl, rfl⟩ := Program.Ends.of_done rest
                exact accounts_silent (by simp [EventRequest.due, flagged])
            · exact accounts_hung hangs
      cases chosen : draft.templateId with
      | none =>
          rw [chosen] at ends
          exact inserting (.ok ()) ends
      | some id =>
          rw [chosen] at ends
          have ends :
              ((Events.calling (.findTemplate id) (Events.templateMissing "loading template")).bind
            fun template => insert (template.map fun _ => ())).Ends said reply := ends
          rcases calling_bind_said ends with ⟨answer, last, rfl, rest⟩ | ⟨rfl, hangs⟩
          · exact (inserting _ rest).after (List.forall_mem_singleton.mpr rfl)
          · exact accounts_hung hangs

private theorem addUpdate_accounts {eventId createdBy : Uuid} {draft : UpdateDraft}
    {said : List Answered} {reply : Reply (Except EventError (Event × EventUpdate))}
    (ends : (Events.addUpdate true eventId createdBy draft).Ends said reply) :
    (EventRequest.addUpdate eventId createdBy draft).Accounts reply said := by
  unfold Events.addUpdate at ends
  rcases calling_bind_said ends with ⟨e | event, last, rfl, rest⟩ | ⟨rfl, hangs⟩
  · obtain ⟨rfl, rfl⟩ := Program.Ends.of_done rest
    exact accounts_silent rfl
  · suffices (EventRequest.addUpdate eventId createdBy draft).Accounts reply last from
      this.after (List.forall_mem_singleton.mpr rfl)
    dsimp only [Except.mapError] at rest
    cases planned : planUpdate event.kind draft.status with
    | error e =>
        rw [planned] at rest
        obtain ⟨rfl, rfl⟩ := Program.Ends.of_done rest
        exact .quiet (fun _ member => absurd member List.not_mem_nil) rfl
    | ok change =>
        rw [planned] at rest
        rcases calling_bind_said rest with ⟨e | ⟨event, update⟩, last, rfl,
          following⟩ | ⟨rfl, hangs⟩
        · obtain ⟨rfl, rfl⟩ := Program.Ends.of_done following
          exact accounts_silent rfl
        · by_cases flagged : update.notify
          · change (if update.notify then _ else _ : Program _).Ends last reply at following
            rw [if_pos flagged] at following
            obtain ⟨rfl, rfl⟩ := notify_bind_said following
            exact accounts_written (.updated _ event update)
              (by simp [EventRequest.due, flagged, Events.subjectLine])
          · change (if update.notify then _ else _ : Program _).Ends last reply at following
            rw [if_neg flagged] at following
            obtain ⟨rfl, rfl⟩ := Program.Ends.of_done following
            exact accounts_silent (by simp [EventRequest.due, flagged])
        · exact accounts_hung hangs
  · exact accounts_hung hangs

theorem EventRequest.MayAsk.quiet {request : EventRequest} {op : Op} (asked : request.MayAsk op) :
    (∀ notice, op ≠ .notify notice) ∨
    (∃ createdBy draft, request = .create createdBy draft) ∨
      ∃ eventId createdBy draft, request = .addUpdate eventId createdBy draft := by
  cases asked with
  | announce => exact .inr (.inl ⟨_, _, rfl⟩)
  | report => exact .inr (.inr ⟨_, _, _, rfl⟩)
  | _ => exact .inl nofun

private theorem Answered.notice?_eq_none {entry : Answered}
    (other : ∀ notice, entry.op ≠ .notify notice) :
    entry.notice? = none := by
  obtain ⟨op, answer⟩ := entry
  cases op with
  | notify notice => exact absurd rfl (other notice)
  | _ => rfl

private theorem request_accounts {request : EventRequest} {said : List Answered}
    {reply : Reply request.Result} (ends : (request.program true).Ends said reply) :
    request.Accounts reply said := by
  have asked := ends.asked (EventRequest.program_asks true request)
  cases request with
  | create createdBy draft => exact create_accounts ends
  | addUpdate eventId createdBy draft => exact addUpdate_accounts ends
  | _ =>
      refine .quiet (fun entry member => Answered.notice?_eq_none ?_) rfl
      rcases (asked entry member).quiet with other | ⟨_, _, ⟨⟩⟩ | ⟨_, _, _, ⟨⟩⟩
      exact other

/-! ### Requests one after the other -/

/-- A request that has been served, with all that was asked and answered for it. -/
structure Served where
  request : EventRequest
  reply : Reply request.Result
  said : List Answered

def Served.due (served : Served) : Option Notice := served.request.due served.reply

/-- Serves requests one after the other, whatever becomes of each. -/
def AnyStore.serve {σ : Type} (store : AnyStore σ) : List EventRequest → σ → List Served
  | [], _ => []
  | request :: requests, state =>
      let program := request.program true
      ⟨request, (program.run store.interpreter state).1,
        program.transcript store.interpreter state⟩ ::
        store.serve requests (program.run store.interpreter state).2

theorem EventRequest.Accounts.notices {request : EventRequest} {reply : Reply request.Result}
    {said : List Answered} (accounts : request.Accounts reply said) :
    said.filterMap Answered.notice? = (request.due reply).toList := by
  have nothing {said : List Answered} (silent : ∀ entry ∈ said, entry.notice? = none) :
      said.filterMap Answered.notice? = [] := List.filterMap_eq_nil_iff.mpr silent
  cases accounts with
  | quiet silent none => rw [nothing silent, none, Option.toList_none]
  | told silent wrote due =>
      rw [List.filterMap_append, nothing silent, due, List.nil_append,
        List.filterMap_cons_none wrote.silent]
      rfl

private theorem AnyStore.serve_accounts {σ : Type} (store : AnyStore σ)
    (requests : List EventRequest) (state : σ) :
    ∀ served ∈ store.serve requests state,
      served.request.Accounts served.reply served.said := by
  induction requests generalizing state with
  | nil => exact fun _ member => absurd member List.not_mem_nil
  | cons request requests ih =>
      exact List.forall_mem_cons.mpr ⟨request_accounts (Program.run_ends store _ state), ih _⟩

/-- Every notice that is due is started once, in the order of the requests, and no other one is
started; each is started when the write that it reports has just succeeded. -/
theorem notices_follow_writes {σ : Type} (store : AnyStore σ) (requests : List EventRequest)
    (state : σ) :
    (store.serve requests state).map Served.request = requests ∧
      (∀ served ∈ store.serve requests state,
        served.request.Accounts served.reply served.said) ∧
      ((store.serve requests state).flatMap Served.said).filterMap Answered.notice? =
        (store.serve requests state).filterMap Served.due := by
  refine ⟨?_, store.serve_accounts requests state, ?_⟩
  · induction requests generalizing state with
    | nil => rfl
    | cons request requests ih => exact congrArg (request :: ·) (ih _)
  · have each := store.serve_accounts requests state
    generalize store.serve requests state = run at each
    induction run with
    | nil => rfl
    | cons served run ih =>
        obtain ⟨first, others⟩ := List.forall_mem_cons.mp each
        rw [List.flatMap_cons, List.filterMap_append, first.notices, ih others,
          List.filterMap_cons, Served.due]
        cases served.request.due served.reply <;> rfl

end StatusPage
