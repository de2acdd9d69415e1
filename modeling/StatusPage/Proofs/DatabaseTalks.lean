import StatusPage.Database.Store

/-!
What a talk with a database comes to, as far as its answers tell. Talks are taken apart at the
places where they were put together, and each step of the work has an equation for what it sends and
what it makes of the answer.
-/

set_option autoImplicit false

namespace StatusPage.Database

/-- Commands in the order in which they were sent, each with its answer. -/
abbrev Transcript := List (Command × Answer)

namespace Transcript

def commands (said : Transcript) : List Command := said.map Prod.fst

@[simp] theorem commands_nil : Transcript.commands [] = [] := rfl

@[simp] theorem commands_cons (entry : Command × Answer) (said : Transcript) :
    Transcript.commands (entry :: said) = entry.1 :: said.commands := rfl

@[simp] theorem commands_append (first last : Transcript) :
    Transcript.commands (first ++ last) = first.commands ++ last.commands := List.map_append

end Transcript

namespace Exchange

variable {σ α β γ : Type}

/-- A talk that gets these answers comes to this result. -/
inductive Ends : Exchange α → Transcript → α → Prop
  | done (value : α) : Ends (.done value) [] value
  | send {command : Command} {next : Answer → Exchange α} {answer : Answer} {later : Transcript}
      {value : α} (rest : Ends (next answer) later value) :
      Ends (.send command next) ((command, answer) :: later) value

def transcript (server : Server σ) : Exchange α → σ → Transcript
  | .done _, _ => []
  | .send command next, state =>
      let (answer, state) := server.answer command state
      (command, answer) :: (next answer).transcript server state

theorem run_sent (server : Server σ) (talk : Exchange α) (state : σ) :
    (talk.run server state).2 = (talk.transcript server state).commands := by
  induction talk generalizing state with
  | done value => rfl
  | send command next ih =>
      simp only [run, transcript, Transcript.commands_cons]
      rw [ih]

theorem run_ends (server : Server σ) (talk : Exchange α) (state : σ) :
    talk.Ends (talk.transcript server state) (talk.run server state).1 := by
  induction talk generalizing state with
  | done value => exact .done value
  | send command next ih => exact .send (ih _ _)

private theorem bind_assoc (talk : Exchange α) (next : α → Exchange β)
    (last : β → Exchange γ) :
    (talk.bind next).bind last = talk.bind fun value => (next value).bind last := by
  induction talk with
  | done value => rfl
  | send command rest ih =>
      simp only [bind]
      congr 1
      funext answer
      exact ih answer

theorem Ends.of_done {value result : α} {said : Transcript}
    (ends : (Exchange.done value).Ends said result) :
    said = [] ∧ value = result := by
  cases ends
  exact ⟨rfl, rfl⟩

private theorem Ends.of_send {command : Command} {next : Answer → Exchange α} {said : Transcript}
    {result : α} (ends : (Exchange.send command next).Ends said result) :
    ∃ answer later, said = (command, answer) :: later ∧ (next answer).Ends later result := by
  cases ends with
  | send rest => exact ⟨_, _, rfl, rest⟩

theorem Ends.of_asked {command : Command} {read : Answer → α} {said : Transcript} {result : α}
    (ends : (Exchange.send command fun answer => .done (read answer)).Ends said result) :
    ∃ answer, said = [(command, answer)] ∧ read answer = result := by
  obtain ⟨answer, later, rfl, rest⟩ := ends.of_send
  obtain ⟨rfl, same⟩ := rest.of_done
  exact ⟨answer, rfl, same⟩

theorem Ends.of_bind {talk : Exchange α} {next : α → Exchange β} {said : Transcript}
    {result : β} (ends : (talk.bind next).Ends said result) :
    ∃ first last value, said = first ++ last ∧ talk.Ends first value ∧
      (next value).Ends last result := by
  induction talk generalizing said with
  | done value => exact ⟨[], said, value, rfl, .done value, ends⟩
  | send command rest ih =>
      obtain ⟨answer, later, rfl, following⟩ := ends.of_send
      obtain ⟨first, last, value, rfl, former, latter⟩ := ih answer following
      exact ⟨(command, answer) :: first, last, value, rfl, .send former, latter⟩

end Exchange

namespace Work

variable {α β : Type}

theorem ends_bind {work : Work α} {next : α → Work β} {said : Transcript}
    {result : Except Error β} (ends : (work >>= next).run.Ends said result) :
    (∃ first last value, said = first ++ last ∧ work.run.Ends first (.ok value) ∧
      (next value).run.Ends last result) ∨
      ∃ e, work.run.Ends said (.error e) ∧ result = .error e := by
  change (work.run.bind (ExceptT.bindCont next)).Ends said result at ends
  obtain ⟨first, last, value, rfl, former, latter⟩ := ends.of_bind
  cases value with
  | ok value => exact .inl ⟨first, last, value, rfl, former, latter⟩
  | error e =>
      obtain ⟨rfl, rfl⟩ := Exchange.Ends.of_done latter
      rw [List.append_nil]
      exact .inr ⟨e, former, rfl⟩

theorem ends_bind_ok {work : Work α} {next : α → Work β} {said : Transcript} {value : β}
    (ends : (work >>= next).run.Ends said (.ok value)) :
    ∃ first last a, said = first ++ last ∧ work.run.Ends first (.ok a) ∧
      (next a).run.Ends last (.ok value) := by
  rcases ends_bind ends with whole | ⟨e, -, other⟩
  · exact whole
  · cases other

theorem affected_run (statement : Statement) :
    (affected statement).run = .send (.perform statement) fun answer =>
      .done ((answer.mapError .refused).map Reply.affected) := by
  change Exchange.send _ _ = _
  congr 1
  funext answer
  cases answer <;> rfl

def readFirst? (read : Row → Except Error α) : Answer → Except Error (Option α)
  | .error refusal => .error (.refused refusal)
  | .ok ⟨[], _⟩ => .ok none
  | .ok ⟨row :: _, _⟩ => (read row).map some

def readFirst (read : Row → Except Error α) : Answer → Except Error α
  | .error refusal => .error (.refused refusal)
  | .ok ⟨[], _⟩ => .error .rowNotFound
  | .ok ⟨row :: _, _⟩ => read row

theorem firstRow?_run (statement : Statement) (read : Row → Except Error α) :
    (firstRow? statement read).run =
      .send (.perform statement) fun answer => .done (readFirst? read answer) := by
  change Exchange.send _ _ = _
  congr 1
  funext answer
  rcases answer with refusal | ⟨_ | ⟨row, others⟩, affected⟩
  · rfl
  · rfl
  · change (Exchange.done (read row)).bind (ExceptT.bindCont fun a => pure (some a)) =
      .done ((read row).map some)
    cases read row <;> rfl

theorem firstRow_run (statement : Statement) (read : Row → Except Error α) :
    (firstRow statement read).run =
      .send (.perform statement) fun answer => .done (readFirst read answer) := by
  change (firstRow? statement read).run.bind _ = _
  rw [firstRow?_run]
  change Exchange.send _ _ = _
  congr 1
  funext answer
  rcases answer with refusal | ⟨_ | ⟨row, others⟩, affected⟩
  · rfl
  · rfl
  · simp only [readFirst?, readFirst]
    cases read row <;> rfl

theorem allRows_run (statement : Statement) (read : Row → Except Error α) :
    (allRows statement read).run = .send (.perform statement) fun answer =>
      .done ((answer.mapError .refused).bind fun reply => reply.rows.mapM read) := by
  change Exchange.send _ _ = _
  congr 1
  funext answer
  cases answer <;> rfl

theorem transaction_run (keep : α → Bool) (work : Work α) :
    (transaction keep work).run = .send .begin fun
      | .error refusal => .done (.error (.refused refusal))
      | .ok _ => work.run.bind fun
          | .error e => .send .rollback fun _ => .done (.error e)
          | .ok a => .send (if keep a then .commit else .rollback) fun
              | .ok _ => .done (.ok a)
              | .error refusal => .send .rollback fun _ => .done (.error (.refused refusal)) := by
  change Exchange.send _ _ = _
  congr 1
  funext answer
  cases answer with
  | error refusal => rfl
  | ok begun =>
      change (work.run.bind _).bind _ = _
      rw [Exchange.bind_assoc]
      congr 1
      funext result
      cases result with
      | error e => rfl
      | ok a =>
          change Exchange.send _ _ = _
          congr 1
          funext answer
          cases answer <;> rfl

end Work

/-! ### How a transaction goes -/

namespace Work

variable {α β : Type}

/-- The end of a transaction by the outcome of its work: what is said, and what comes of it. -/
inductive Closes (keep : α → Bool) : Except Error α → Transcript → Except Error α → Prop
  | broken (e : Error) (answer : Answer) : Closes keep (.error e) [(.rollback, answer)] (.error e)
  | finished (a : α) (reply : Reply) :
      Closes keep (.ok a) [(if keep a then .commit else .rollback, .ok reply)] (.ok a)
  | unfinished (a : α) (refusal : Refusal) (answer : Answer) :
      Closes keep (.ok a) [(if keep a then .commit else .rollback, .error refusal),
        (.rollback, answer)]
        (.error (.refused refusal))

theorem ends_transaction {keep : α → Bool} {work : Work α} {said : Transcript}
    {result : Except Error α} (ends : (transaction keep work).run.Ends said result) :
    (∃ refusal, said = [(.begin, .error refusal)] ∧ result = .error (.refused refusal)) ∨
      ∃ begun body outcome closing, said = (.begin, .ok begun) :: (body ++ closing) ∧
        work.run.Ends body outcome ∧ Closes keep outcome closing result := by
  rw [transaction_run] at ends
  obtain ⟨answer, later, rfl, rest⟩ := ends.of_send
  cases answer with
  | error refusal =>
      obtain ⟨rfl, rfl⟩ := rest.of_done
      exact .inl ⟨refusal, rfl, rfl⟩
  | ok begun =>
      obtain ⟨body, closing, outcome, rfl, former, latter⟩ := rest.of_bind
      refine .inr ⟨begun, body, outcome, closing, rfl, former, ?_⟩
      cases outcome with
      | error e =>
          obtain ⟨answer, rfl, rfl⟩ := latter.of_asked
          exact .broken e answer
      | ok a =>
          obtain ⟨answer, after, rfl, final⟩ := latter.of_send
          cases answer with
          | ok reply =>
              obtain ⟨rfl, rfl⟩ := final.of_done
              exact .finished a reply
          | error refusal =>
              obtain ⟨answer, rfl, rfl⟩ := final.of_asked
              exact .unfinished a refusal answer

end Work

/-! ### Talks of statements alone -/

namespace Exchange

variable {α β : Type}

inductive Performs : Exchange α → Prop
  | done (value : α) : Performs (.done value)
  | send {statement : Statement} {next : Answer → Exchange α}
      (rest : ∀ answer, Performs (next answer)) :
      Performs (.send (.perform statement) next)

theorem Performs.bind {talk : Exchange α} {next : α → Exchange β} (first : talk.Performs)
    (last : ∀ value, (next value).Performs) : (talk.bind next).Performs := by
  induction first with
  | done value => exact last value
  | send rest ih => exact .send ih

theorem Performs.said {talk : Exchange α} {said : Transcript} {result : α}
    (performs : talk.Performs) (ends : talk.Ends said result) :
    ∃ statements : List Statement, said.commands = statements.map .perform := by
  induction ends with
  | done value => exact ⟨[], rfl⟩
  | send rest ih =>
      cases performs with
      | @send statement _ next =>
          obtain ⟨statements, same⟩ := ih (next _)
          exact ⟨statement :: statements, congrArg (Command.perform statement :: ·) same⟩

end Exchange

namespace Work

variable {α β : Type}

theorem performs_bind {work : Work α} {next : α → Work β} (first : work.run.Performs)
    (last : ∀ value, (next value).run.Performs) : (work >>= next).run.Performs := by
  change (work.run.bind (ExceptT.bindCont next)).Performs
  apply first.bind
  intro result
  cases result with
  | ok value => exact last value
  | error e => exact .done _

theorem performs_affected (statement : Statement) : (affected statement).run.Performs := by
  rw [affected_run]
  exact .send fun _ => .done _

theorem performs_firstRow? (statement : Statement) (read : Row → Except Error α) :
    (firstRow? statement read).run.Performs := by
  rw [firstRow?_run]
  exact .send fun _ => .done _

theorem performs_firstRow (statement : Statement) (read : Row → Except Error α) :
    (firstRow statement read).run.Performs := by
  rw [firstRow_run]
  exact .send fun _ => .done _

end Work

/-! ### Answers that the work needs -/

/-- The statement was answered with a row from which this value was read. -/
def Gave {α : Type} (statement : Statement) (read : Row → Except Error α) (value : α)
    (entry : Command × Answer) : Prop :=
  ∃ row others affected, entry = (.perform statement, .ok ⟨row :: others, affected⟩) ∧
    read row = .ok value

def CarriedOut (statement : Statement) (entry : Command × Answer) : Prop :=
  ∃ reply, entry = (.perform statement, .ok reply)

/-- The statement was carried out, or not even sent when there was nothing to write. -/
def Wrote (statement : Statement) (needed : Bool) (said : Transcript) : Prop :=
  if needed then ∃ entry, said = [entry] ∧ CarriedOut statement entry else said = []

namespace Work

variable {α : Type}

theorem ends_firstRow {statement : Statement} {read : Row → Except Error α} {said : Transcript}
    {value : α} (ends : (firstRow statement read).run.Ends said (.ok value)) :
    ∃ entry, said = [entry] ∧ Gave statement read value entry := by
  rw [firstRow_run] at ends
  obtain ⟨answer, rfl, same⟩ := ends.of_asked
  refine ⟨_, rfl, ?_⟩
  rcases answer with refusal | ⟨_ | ⟨row, others⟩, affected⟩
  · cases same
  · cases same
  · exact ⟨row, others, affected, rfl, same⟩

theorem ends_firstRow? {statement : Statement} {read : Row → Except Error α} {said : Transcript}
    {value : α} (ends : (firstRow? statement read).run.Ends said (.ok (some value))) :
    ∃ entry, said = [entry] ∧ Gave statement read value entry := by
  rw [firstRow?_run] at ends
  obtain ⟨answer, rfl, same⟩ := ends.of_asked
  refine ⟨_, rfl, ?_⟩
  rcases answer with refusal | ⟨_ | ⟨row, others⟩, affected⟩
  · cases same
  · cases same
  · refine ⟨row, others, affected, rfl, ?_⟩
    simp only [readFirst?] at same
    cases found : read row with
    | error e =>
        rw [found] at same
        cases same
    | ok a =>
        rw [found] at same
        cases same
        rfl

theorem ends_affected {statement : Statement} {said : Transcript} {count : Nat}
    (ends : (affected statement).run.Ends said (.ok count)) :
    ∃ entry, said = [entry] ∧ CarriedOut statement entry := by
  rw [affected_run] at ends
  obtain ⟨answer, rfl, same⟩ := ends.of_asked
  cases answer with
  | error refusal => cases same
  | ok reply => exact ⟨_, rfl, reply, rfl⟩

end Work

end StatusPage.Database
