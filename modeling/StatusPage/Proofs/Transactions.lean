import Mathlib.Data.List.Basic
import StatusPage.Proofs.DatabaseTalks

/-!
Transactions against a database that may answer anything. The commands of a transaction are those of
its work between a begin and an end; a commit is sent only when all the work has been answered as it
needs, and the caller is told of success exactly when the commit was acknowledged.
-/

set_option autoImplicit false

namespace StatusPage.Database

/-! ### What a database keeps -/

namespace Transcript

def statements (said : Transcript) : List Statement :=
  said.filterMap fun
    | (.perform statement, _) => some statement
    | _ => none

/-- The statements whose effects are there in the end, after these that are neither kept nor taken
back yet. Only an acknowledged commit keeps them. -/
def keptAfter (pending : List Statement) : Transcript → List Statement
  | [] => []
  | (.perform statement, .ok _) :: later => keptAfter (pending ++ [statement]) later
  | (.perform _, .error _) :: later => keptAfter pending later
  | (.commit, .ok _) :: later => pending ++ keptAfter [] later
  | _ :: later => keptAfter [] later

def kept (said : Transcript) : List Statement := said.keptAfter []

def Committed (said : Transcript) : Prop := ∃ reply, (Command.commit, Except.ok reply) ∈ said

private theorem keptAfter_uncommitted {said : Transcript} {pending : List Statement}
    (uncommitted : ¬said.Committed) :
    said.keptAfter pending = [] := by
  have later : ∀ {entry : Command × Answer} {rest : Transcript}, ¬Committed (entry :: rest) →
      ¬Committed rest := by
    intro entry rest none ⟨reply, member⟩
    exact none ⟨reply, List.mem_cons_of_mem _ member⟩
  -- The induction follows `keptAfter`; its only way to keep something is
  -- the commit that is excluded.
  fun_induction keptAfter pending said with
  | case1 => rfl
  | case2 pending statement reply rest ih => exact ih (later uncommitted)
  | case3 pending statement refusal rest ih => exact ih (later uncommitted)
  | case4 pending reply rest ih => exact absurd ⟨reply, List.mem_cons_self⟩ uncommitted
  | case5 pending entry rest _ _ _ ih => exact ih (later uncommitted)

def CarriedOut (said : Transcript) : Prop :=
  ∀ entry ∈ said, ∃ statement, Database.CarriedOut statement entry

private theorem keptAfter_committed {body : Transcript} (carriedOut : body.CarriedOut)
    (reply : Reply) (pending : List Statement) :
    Transcript.keptAfter pending (body ++ [(.commit, .ok reply)]) = pending ++ body.statements := by
  induction body generalizing pending with
  | nil => rfl
  | cons entry rest ih =>
      obtain ⟨⟨statement, answered, rfl⟩, others⟩ := List.forall_mem_cons.mp carriedOut
      calc keptAfter (pending ++ [statement]) (rest ++ [(.commit, .ok reply)])
          = pending ++ [statement] ++ Transcript.statements rest := ih others _
        _ = pending ++ statement :: Transcript.statements rest := by
          rw [List.append_assoc, List.singleton_append]

theorem CarriedOut.commands {said : Transcript} (carriedOut : said.CarriedOut) :
    said.commands = said.statements.map .perform := by
  induction said with
  | nil => rfl
  | cons entry rest ih =>
      obtain ⟨⟨statement, reply, rfl⟩, others⟩ := List.forall_mem_cons.mp carriedOut
      exact congrArg (Command.perform statement :: ·) (ih others)

private theorem commit_not_performed {said : Transcript} {statements : List Statement}
    (work : said.commands = statements.map .perform) : Command.commit ∉ said.commands := by
  rw [work]
  intro member
  obtain ⟨statement, -, same⟩ := List.mem_map.mp member
  cases same

private theorem not_committed {said : Transcript} (silent : Command.commit ∉ said.commands) :
    ¬said.Committed :=
  fun ⟨_, member⟩ => silent (List.mem_map_of_mem member)

end Transcript

/-! ### The three transactions of the store -/

inductive Transaction where
  | createEvent (new : NewEvent)
  | recordUpdate (eventId : Uuid) (new : NewUpdate)
  | setSubscription (userId : Uuid) (serviceIds : List Uuid)

namespace Transaction

def call : Transaction → Store.Call
  | .createEvent new => .createEvent new
  | .recordUpdate eventId new => .recordUpdate eventId new
  | .setSubscription userId serviceIds => .setSubscription userId serviceIds

/-- All that has to be said between a begin and a commit, and the value that comes of it. -/
inductive Completed :
    (transaction : Transaction) → Transcript → transaction.call.Result → Prop
  | createEvent {new : NewEvent} {id : Uuid} {event : Event} {inserted selected : Command × Answer}
      {links : Transcript}
      (inserting : Gave (insertEvent new) (fun row => row.first .uuid) id inserted)
      (linking : Wrote (linkEventServices id new.serviceIds) (!new.serviceIds.isEmpty) links)
      (selecting : Gave (selectEvent id) readEvent event selected) :
      Completed (.createEvent new) (inserted :: (links ++ [selected])) event
  | recordUpdate {eventId : Uuid} {new : NewUpdate} {event : Event} {update : EventUpdate}
      {changed inserted : Command × Answer}
      (changing : Gave (updateEventStatus eventId new.change) readEvent event changed)
      (inserting : Gave (insertEventUpdate eventId new) readEventUpdate update inserted) :
      Completed (.recordUpdate eventId new) [changed, inserted] (event, update)
  | setSubscription {userId id : Uuid} {serviceIds : List Uuid} {subscription : Subscription}
      {inserted unlinked selected : Command × Answer} {links : Transcript}
      (inserting : Gave (insertSubscription userId) (fun row => row.first .uuid) id inserted)
      (unlinking : CarriedOut (unlinkSubscriptionServices id) unlinked)
      (linking : Wrote (linkSubscriptionServices id serviceIds) (!serviceIds.isEmpty) links)
      (selecting : Gave (selectSubscription id) readSubscription subscription selected) :
      Completed (.setSubscription userId serviceIds) (inserted :: unlinked ::
        (links ++ [selected])) subscription

end Transaction

theorem Transaction.Completed.carriedOut {transaction : Transaction} {body : Transcript}
    {value : transaction.call.Result} (completed : transaction.Completed body value) :
    body.CarriedOut := by
  have gave : ∀ {α : Type} {statement : Statement} {read : Row →
      Except Error α} {value : α} {entry},
      Gave statement read value entry → CarriedOut statement entry :=
    fun ⟨_, _, _, same, _⟩ => ⟨_, same⟩
  have wrote : ∀ {statement : Statement} {needed : Bool} {links : Transcript},
      Wrote statement needed links → links.CarriedOut := by
    intro statement needed links linking entry member
    cases needed with
    | false =>
        cases linking
        cases member
    | true =>
        obtain ⟨link, rfl, carriedOut⟩ := linking
        cases List.mem_singleton.mp member
        exact ⟨statement, carriedOut⟩
  intro entry member
  cases completed with
  | createEvent inserting linking selecting =>
      rcases List.mem_cons.mp member with rfl | member
      · exact ⟨_, gave inserting⟩
      · rcases List.mem_append.mp member with member | member
        · exact wrote linking entry member
        · cases List.mem_singleton.mp member
          exact ⟨_, gave selecting⟩
  | recordUpdate changing inserting =>
      rcases List.mem_cons.mp member with rfl | member
      · exact ⟨_, gave changing⟩
      · cases List.mem_singleton.mp member
        exact ⟨_, gave inserting⟩
  | setSubscription inserting unlinking linking selecting =>
      rcases List.mem_cons.mp member with rfl | member
      · exact ⟨_, gave inserting⟩
      · rcases List.mem_cons.mp member with rfl | member
        · exact ⟨_, unlinking⟩
        · rcases List.mem_append.mp member with member | member
          · exact wrote linking entry member
          · cases List.mem_singleton.mp member
            exact ⟨_, gave selecting⟩

/-! ### What the work of each has been answered when it comes to its value -/

private theorem ends_whenNeeded {α : Type} {statement : Statement} {needed : Bool} {rest : Work α}
    {said : Transcript} {value : α}
    (ends : (if needed then (do let _ ← Work.affected statement; rest)
      else rest : Work α).run.Ends said (.ok value)) :
    ∃ links last, said = links ++ last ∧ Wrote statement needed links ∧
      rest.run.Ends last (.ok value) := by
  cases needed with
  | false => exact ⟨[], said, rfl, rfl, ends⟩
  | true =>
      obtain ⟨links, last, count, rfl, linking, following⟩ := Work.ends_bind_ok ends
      exact ⟨links, last, rfl, Work.ends_affected linking, following⟩

private theorem writeEvent_completed {new : NewEvent} {said : Transcript} {event : Event}
    (ends : (writeEvent new).run.Ends said (.ok event)) :
    (Transaction.createEvent new).Completed said event := by
  obtain ⟨first, later, id, rfl, inserting, rest⟩ := Work.ends_bind_ok ends
  obtain ⟨inserted, rfl, gaveId⟩ := Work.ends_firstRow inserting
  obtain ⟨links, last, rfl, linking, selecting⟩ := ends_whenNeeded rest
  obtain ⟨selected, rfl, gaveEvent⟩ := Work.ends_firstRow selecting
  exact .createEvent gaveId linking gaveEvent

private theorem writeUpdate_completed {eventId : Uuid} {new : NewUpdate} {said : Transcript}
    {pair : Event × EventUpdate}
    (ends : (writeUpdate eventId new).run.Ends said (.ok (some pair))) :
    (Transaction.recordUpdate eventId new).Completed said pair := by
  obtain ⟨first, later, found, rfl, changing, rest⟩ := Work.ends_bind_ok ends
  cases found with
  | none =>
      obtain ⟨-, other⟩ := Exchange.Ends.of_done rest
      cases other
  | some event =>
      obtain ⟨changed, rfl, gaveEvent⟩ := Work.ends_firstRow? changing
      obtain ⟨second, last, update, rfl, inserting, final⟩ := Work.ends_bind_ok rest
      obtain ⟨rfl, same⟩ := Exchange.Ends.of_done final
      obtain ⟨inserted, rfl, gaveUpdate⟩ := Work.ends_firstRow inserting
      cases same
      exact .recordUpdate gaveEvent gaveUpdate

private theorem writeSubscription_completed {userId : Uuid} {serviceIds : List Uuid}
    {said : Transcript} {subscription : Subscription}
    (ends : (writeSubscription userId serviceIds).run.Ends said (.ok subscription)) :
    (Transaction.setSubscription userId serviceIds).Completed said subscription := by
  obtain ⟨first, later, id, rfl, inserting, rest⟩ := Work.ends_bind_ok ends
  obtain ⟨inserted, rfl, gaveId⟩ := Work.ends_firstRow inserting
  obtain ⟨second, later, count, rfl, unlinking, others⟩ := Work.ends_bind_ok rest
  obtain ⟨unlinked, rfl, carriedOut⟩ := Work.ends_affected unlinking
  obtain ⟨links, last, rfl, linking, selecting⟩ := ends_whenNeeded others
  obtain ⟨selected, rfl, gaveSubscription⟩ := Work.ends_firstRow selecting
  exact .setSubscription gaveId carriedOut linking gaveSubscription

private theorem writeEvent_performs (new : NewEvent) : (writeEvent new).run.Performs := by
  apply Work.performs_bind (Work.performs_firstRow _ _)
  intro id
  have selects := Work.performs_firstRow (selectEvent id) readEvent
  dsimp only
  split
  · exact Work.performs_bind (Work.performs_affected _) fun _ => selects
  · exact selects

private theorem writeUpdate_performs (eventId : Uuid) (new : NewUpdate) :
    (writeUpdate eventId new).run.Performs := by
  apply Work.performs_bind (Work.performs_firstRow? _ _)
  intro found
  cases found with
  | none => exact .done _
  | some event => exact Work.performs_bind (Work.performs_firstRow _ _) fun _ => .done _

private theorem writeSubscription_performs (userId : Uuid) (serviceIds : List Uuid) :
    (writeSubscription userId serviceIds).run.Performs := by
  apply Work.performs_bind (Work.performs_firstRow _ _)
  intro id
  apply Work.performs_bind (Work.performs_affected _)
  intro count
  have selects := Work.performs_firstRow (selectSubscription id) readSubscription
  dsimp only
  split
  · exact Work.performs_bind (Work.performs_affected _) fun _ => selects
  · exact selects

/-! ### The course of a call -/

inductive Transaction.Course (transaction : Transaction) :
    Transcript → Except StoreError transaction.call.Result → Prop
  | refused (refusal : Refusal) :
      Course transaction [(.begin, .error refusal)] (.error (Error.refused refusal).toStoreError)
  | broken {begun : Reply} {body back : Transcript} {statements : List Statement} (e : StoreError)
      (work : body.commands = statements.map .perform)
      (backing : back.commands = [.rollback] ∨ back.commands = [.rollback, .rollback]) :
      Course transaction ((.begin, .ok begun) :: (body ++ back)) (.error e)
  | unfinished {begun : Reply} {body : Transcript} {value : transaction.call.Result}
      (completed : transaction.Completed body value) (refusal : Refusal) (answer : Answer) :
      Course transaction
        ((.begin, .ok begun) :: (body ++ [(.commit, .error refusal), (.rollback, answer)]))
        (.error (Error.refused refusal).toStoreError)
  | finished {begun reply : Reply} {body : Transcript} {value : transaction.call.Result}
      (completed : transaction.Completed body value) :
      Course transaction ((.begin, .ok begun) :: (body ++ [(.commit, .ok reply)])) (.ok value)

theorem ends_perform {call : Store.Call} {said : Transcript}
    {result : Except StoreError call.Result} (ends : (perform call).Ends said result) :
    ∃ outcome, (work call).run.Ends said outcome ∧
      result = outcome.mapError Error.toStoreError := by
  obtain ⟨first, last, outcome, rfl, former, latter⟩ := Exchange.Ends.of_bind ends
  obtain ⟨rfl, rfl⟩ := latter.of_done
  rw [List.append_nil]
  exact ⟨outcome, former, rfl⟩

private theorem course_of_kept {transaction : Transaction} {work : Work transaction.call.Result}
    {said : Transcript} {outcome : Except Error transaction.call.Result}
    (performs : work.run.Performs)
    (completed : ∀ body value,
      work.run.Ends body (.ok value) → transaction.Completed body value)
    (ends : (Work.transaction (fun _ => true) work).run.Ends said outcome) :
    transaction.Course said (outcome.mapError Error.toStoreError) := by
  rcases Work.ends_transaction ends with ⟨refusal, rfl, rfl⟩ | ⟨begun, body, outcome, closing,
    rfl, working, closes⟩
  · exact .refused refusal
  · cases closes with
    | broken e answer =>
        obtain ⟨statements, same⟩ := performs.said working
        exact .broken _ same (.inl rfl)
    | finished value reply => exact .finished (completed _ _ working)
    | unfinished value refusal answer => exact .unfinished (completed _ _ working) refusal answer

private theorem recordUpdate_course {eventId : Uuid} {new : NewUpdate} {said : Transcript}
    {outcome : Except Error (Event × EventUpdate)}
    (ends : (recordUpdate eventId new).run.Ends said outcome) :
    (Transaction.recordUpdate eventId new).Course said (outcome.mapError Error.toStoreError) := by
  have performs := writeUpdate_performs eventId new
  rcases Work.ends_bind ends with ⟨first, last, found, rfl,
    former, latter⟩ | ⟨e, former, rfl⟩
  · rcases Work.ends_transaction former with ⟨refusal, -, other⟩ | ⟨begun, body, found,
      closing, rfl, working, closes⟩
    · cases other
    · cases closes with
      | finished found reply =>
          cases found with
          | none =>
              obtain ⟨rfl, rfl⟩ := Exchange.Ends.of_done latter
              obtain ⟨statements, same⟩ := performs.said working
              rw [List.append_nil]
              exact .broken _ same (.inl rfl)
          | some pair =>
              obtain ⟨rfl, rfl⟩ := Exchange.Ends.of_done latter
              rw [List.append_nil]
              exact .finished (writeUpdate_completed working)
  · rcases Work.ends_transaction former with ⟨refusal, rfl, same⟩ | ⟨begun, body, found,
      closing, rfl, working, closes⟩
    · cases same
      exact .refused refusal
    · obtain ⟨statements, same⟩ := performs.said working
      cases closes with
      | broken e answer => exact .broken _ same (.inl rfl)
      | unfinished found refusal answer =>
          cases found with
          -- There was no event, and even the rollback was refused: it is sent once more.
          | none => exact .broken _ same (.inr rfl)
          | some pair => exact .unfinished (writeUpdate_completed working) refusal answer

private theorem writeUpdate_missing {eventId : Uuid} {new : NewUpdate} {affected : Nat}
    {later : Transcript} {found : Except Error (Option (Event × EventUpdate))}
    {body closing : Transcript} (ends : (writeUpdate eventId new).run.Ends body found)
    (said : body ++ closing =
      (.perform (updateEventStatus eventId new.change), .ok ⟨[], affected⟩) :: later) :
    closing = later ∧ found = .ok none := by
  rcases Work.ends_bind ends with ⟨first, rest, read, rfl, changing,
    following⟩ | ⟨e, changing, -⟩
  · rw [Work.firstRow?_run] at changing
    obtain ⟨answer, rfl, same⟩ := changing.of_asked
    obtain ⟨entry, others⟩ := List.cons.inj said
    cases entry
    cases same
    obtain ⟨rfl, rfl⟩ := Exchange.Ends.of_done following
    exact ⟨others, rfl⟩
  · rw [Work.firstRow?_run] at changing
    obtain ⟨answer, rfl, same⟩ := changing.of_asked
    obtain ⟨entry, others⟩ := List.cons.inj said
    cases entry
    cases same

theorem recordUpdate_missing {eventId : Uuid} {new : NewUpdate} {begun : Reply} {affected : Nat}
    {later : Transcript} {outcome : Except Error (Event × EventUpdate)}
    (ends : (recordUpdate eventId new).run.Ends ((.begin, .ok begun) ::
      (.perform (updateEventStatus eventId new.change), .ok ⟨[], affected⟩) :: later) outcome) :
    (∃ reply, later = [(.rollback, .ok reply)] ∧ outcome = .error .rowNotFound) ∨
      ∃ refusal answer, later = [(.rollback, .error refusal), (.rollback, answer)] ∧
        outcome = .error (.refused refusal) := by
  rcases Work.ends_bind ends with ⟨first, last, result, said,
    former, latter⟩ | ⟨e, former, rfl⟩
  · rcases Work.ends_transaction former with ⟨refusal, -, other⟩ | ⟨_, body, found, closing,
      rfl, working, closes⟩
    · cases other
    · rw [List.cons_append, List.append_assoc] at said
      obtain ⟨-, said⟩ := List.cons.inj said
      obtain ⟨rest, rfl⟩ := writeUpdate_missing working said.symm
      cases closes with
      | finished found reply =>
          obtain ⟨rfl, rfl⟩ := Exchange.Ends.of_done latter
          exact .inl ⟨reply, rest.symm, rfl⟩
  · rcases Work.ends_transaction former with ⟨refusal, said, -⟩ | ⟨_, body, found, closing,
      said, working, closes⟩
    · cases said
    · obtain ⟨-, said⟩ := List.cons.inj said
      obtain ⟨rfl, rfl⟩ := writeUpdate_missing working said.symm
      cases closes with
      | unfinished found refusal answer => exact .inr ⟨refusal, answer, rfl, rfl⟩

theorem Transaction.course {transaction : Transaction} {said : Transcript}
    {result : Except StoreError transaction.call.Result}
    (ends : (perform transaction.call).Ends said result) :
    transaction.Course said result := by
  obtain ⟨outcome, working, rfl⟩ := ends_perform ends
  cases transaction with
  | createEvent new =>
    exact course_of_kept (writeEvent_performs new) (fun _ _ => writeEvent_completed) working
  | recordUpdate eventId new => exact recordUpdate_course working
  | setSubscription userId serviceIds =>
      exact course_of_kept (writeSubscription_performs userId serviceIds)
        (fun _ _ => writeSubscription_completed) working

/-! ### All or nothing -/

/-- A transaction is carried out as a whole or not at all, and its caller is told which. -/
structure Transaction.Atomic (transaction : Transaction) (said : Transcript)
    (result : Except StoreError transaction.call.Result) : Prop where
  order : ∃ (statements : List Statement) (ending : List Command),
    said.commands = .begin :: (statements.map .perform ++ ending) ∧
      ending ∈ [[], [.commit], [.rollback], [.commit, .rollback], [.rollback, .rollback]]
  /-- Nothing is missing before a commit is sent. -/
  earned : ∀ before answer after, said = before ++ (.commit, answer) :: after →
    ∃ begun body value, before = (.begin, .ok begun) :: body ∧ transaction.Completed body value
  succeeds_iff : (∃ value, result = .ok value) ↔ said.Committed
  value : ∀ value, result = .ok value → ∃ begun body reply,
    said = (.begin, .ok begun) :: (body ++ [(.commit, .ok reply)]) ∧
    transaction.Completed body value
  keptWhole : ∀ value, result = .ok value → said.kept = said.statements
  keptNot : ∀ e, result = .error e → said.kept = []
  missing : ∀ eventId new begun affected later, transaction = .recordUpdate eventId new →
    said = (.begin, .ok begun) :: (.perform (updateEventStatus eventId new.change),
      .ok ⟨[], affected⟩) :: later →
    (∃ reply, later = [(.rollback, .ok reply)] ∧ result = .error .notFound) ∨
      ∃ refusal answer, later = [(.rollback, .error refusal), (.rollback, answer)] ∧
        result = .error (Error.refused refusal).toStoreError

private theorem Transaction.Completed.before_commit {transaction : Transaction} {body : Transcript}
    {value : transaction.call.Result} (completed : transaction.Completed body value) {begun : Reply}
    {sent : Answer} {rest before after : Transcript} {answer : Answer}
    (silent : Command.commit ∉ rest.commands)
    (split : (.begin, .ok begun) :: (body ++ (.commit, sent) :: rest) =
      before ++ (.commit, answer) :: after) :
    before = (.begin, .ok begun) :: body := by
  rw [← List.cons_append] at split
  have quiet :
      Command.commit ∉ Transcript.commands ((Command.begin, Except.ok begun) :: body) := by
    rw [Transcript.commands_cons, List.mem_cons]
    rintro (same | member)
    · cases same
    · exact Transcript.commit_not_performed completed.carriedOut.commands member
  -- The only commit of the whole is the one after the body, so both splits are at the same place.
  have commands := congrArg Transcript.commands split
  rw [Transcript.commands_append, Transcript.commands_append] at commands
  have same := ((List.append_cons_inj_of_notMem quiet silent).mp commands).1
  have lengths := congrArg List.length same
  simp only [Transcript.commands, List.length_map] at lengths
  exact (List.append_inj_left split lengths).symm

namespace Transaction.Course

variable {transaction : Transaction} {said : Transcript}
  {result : Except StoreError transaction.call.Result}

theorem order (course : transaction.Course said result) :
    ∃ (statements : List Statement) (ending : List Command),
      said.commands = .begin :: (statements.map .perform ++ ending) ∧
        ending ∈ [[], [.commit], [.rollback], [.commit, .rollback], [.rollback, .rollback]] := by
  cases course with
  | refused refusal => exact ⟨[], [], rfl, by simp⟩
  | @broken begun body back statements e work backing =>
      refine ⟨statements, back.commands, ?_, ?_⟩
      · rw [Transcript.commands_cons, Transcript.commands_append, work]
      · rcases backing with once | twice
        · simp [once]
        · simp [twice]
  | @unfinished begun body value completed refusal answer =>
      refine ⟨body.statements, [.commit, .rollback], ?_, by simp⟩
      rw [Transcript.commands_cons, Transcript.commands_append, completed.carriedOut.commands]
      rfl
  | @finished begun reply body value completed =>
      refine ⟨body.statements, [.commit], ?_, by simp⟩
      rw [Transcript.commands_cons, Transcript.commands_append, completed.carriedOut.commands]
      rfl

private theorem broken_silent {begun : Reply} {body back : Transcript} {statements : List Statement}
    (work : body.commands = statements.map .perform)
    (backing : back.commands = [.rollback] ∨ back.commands = [.rollback, .rollback]) :
    Command.commit ∉
      Transcript.commands ((Command.begin, Except.ok begun) :: (body ++ back)) := by
  have quiet := Transcript.commit_not_performed work
  rcases backing with once | twice
  · simp [quiet, once]
  · simp [quiet, twice]

private theorem earned (course : transaction.Course said result) {before after : Transcript}
    {answer : Answer} (split : said = before ++ (.commit, answer) :: after) :
    ∃ begun body value, before = (.begin, .ok begun) :: body ∧
      transaction.Completed body value := by
  have sent : Command.commit ∈ said.commands := by simp [split]
  cases course with
  | refused refusal => simp at sent
  | broken e work backing => exact absurd sent (broken_silent work backing)
  | @unfinished begun body value completed refusal last =>
      exact ⟨begun, body, value, completed.before_commit (by simp) split, completed⟩
  | @finished begun reply body value completed =>
      exact ⟨begun, body, value, completed.before_commit (by simp) split, completed⟩

theorem answered (course : transaction.Course said result) :
    (∃ begun body reply value,
      result = .ok value ∧ said = (.begin, .ok begun) :: (body ++ [(.commit, .ok reply)]) ∧
      transaction.Completed body value) ∨
    ∃ e, result = .error e ∧ ¬said.Committed := by
  cases course with
  | refused refusal =>
      refine .inr ⟨_, rfl, Transcript.not_committed ?_⟩
      simp
  | broken e work backing =>
    exact .inr ⟨e, rfl, Transcript.not_committed (broken_silent work backing)⟩
  | @unfinished begun body value completed refusal answer =>
      refine .inr ⟨_, rfl, ?_⟩
      rintro ⟨reply, member⟩
      have quiet := Transcript.commit_not_performed completed.carriedOut.commands
      have apart : (Command.commit, Except.ok reply) ∉ body :=
        fun inside => quiet (List.mem_map_of_mem inside)
      simp [apart] at member
  | @finished begun reply body value completed =>
    exact .inl ⟨begun, body, reply, value, rfl, rfl, completed⟩

theorem atomic (course : transaction.Course said result)
    (ends : (perform transaction.call).Ends said result) : transaction.Atomic said result := by
  have answered := course.answered
  constructor
  · exact course.order
  · exact fun _ _ _ split => course.earned split
  · rcases answered with ⟨begun, body, reply, value, rfl, rfl, -⟩ | ⟨e, rfl, uncommitted⟩
    · exact ⟨fun _ => ⟨reply, by simp⟩, fun _ => ⟨value, rfl⟩⟩
    · constructor
      · rintro ⟨value, other⟩
        cases other
      · exact fun committed => absurd committed uncommitted
  · intro value ok
    rcases answered with ⟨begun, body, reply, returned, rfl, rfl, completed⟩ | ⟨e, rfl, -⟩
    · cases ok
      exact ⟨begun, body, reply, rfl, completed⟩
    · cases ok
  · intro value ok
    rcases answered with ⟨begun, body, reply, returned, rfl, rfl, completed⟩ | ⟨e, rfl, -⟩
    · have whole := Transcript.keptAfter_committed completed.carriedOut reply []
      simpa [Transcript.kept, Transcript.keptAfter, Transcript.statements] using whole
    · cases ok
  · intro e error
    rcases answered with ⟨begun, body, reply, returned, rfl, -, -⟩ | ⟨e, -, uncommitted⟩
    · cases error
    · exact Transcript.keptAfter_uncommitted uncommitted
  · rintro eventId new begun affected later rfl rfl
    obtain ⟨outcome, working, rfl⟩ := ends_perform ends
    rcases recordUpdate_missing working with
      ⟨reply, rest, rfl⟩ | ⟨refusal, answer, rest, rfl⟩
    · exact .inl ⟨reply, rest, rfl⟩
    · exact .inr ⟨refusal, answer, rest, rfl⟩

end Transaction.Course

/-- Whatever the database answers. A script of replies is one such database. -/
theorem Transaction.run_atomic {σ : Type} (server : Server σ) (state : σ)
    (transaction : Transaction) :
    ((perform transaction.call).run server state).2 =
        ((perform transaction.call).transcript server state).commands ∧
      transaction.Atomic ((perform transaction.call).transcript server state)
        ((perform transaction.call).run server state).1 := by
  have ends := (perform transaction.call).run_ends server state
  constructor
  · exact Exchange.run_sent server _ state
  · exact (Transaction.course ends).atomic ends

end StatusPage.Database
