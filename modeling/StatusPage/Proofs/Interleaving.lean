import Mathlib.Data.List.Induction
import StatusPage.Program
import StatusPage.Store.Memory

/-!
Programs that run in turns over one store in memory. Requests arrive at any time, and in each turn
one program has its question answered: by the store in one piece, or by the world around it. The log
keeps every answer. Two views of a run carry all proofs about it: what one request has done is a
path through its program, and what the store holds is what the logged calls have made of it, each
with the answer it got then.
-/

set_option autoImplicit false

namespace StatusPage

open Store (Memory Stamp)

/-- A question with its answer, and the stamp under which the store would carry out a call. -/
structure Exchange where
  stamp : Stamp
  op : Op
  answer : op.Answer

namespace Exchange

def effect (exchange : Exchange) (memory : Memory) : Memory :=
  match exchange.op with
  | .store call => (memory.perform exchange.stamp call).2
  | _ => memory

/-- The answer is the one that the store gives, or the time that the stamp
tells. Other answers are free. -/
def Honest : Exchange → Memory → Prop
  | ⟨stamp, .store call, answer⟩, memory => answer = (memory.perform stamp call).1
  | ⟨stamp, .now, answer⟩, _ => answer = stamp.now
  | _, _ => True

/-- The identifier that a call has given out. A subscription that is only
changed keeps the one that it has. -/
def issued : Exchange → Option Uuid
  | ⟨_, .store (.createUser _), .ok user⟩ => some user.id
  | ⟨_, .store (.createRefreshToken _), .ok token⟩ => some token.id
  | ⟨_, .store (.createEvent _), .ok event⟩ => some event.id
  | ⟨_, .store (.recordUpdate _ _), .ok (_, update)⟩ => some update.id
  | ⟨_, .store (.createTemplate _), .ok template⟩ => some template.id
  | ⟨_, .store (.addChannel _), .ok channel⟩ => some channel.id
  | ⟨stamp, .store (.setSubscription _ _), .ok subscription⟩ =>
      if subscription.id = stamp.id then some stamp.id else none
  | _ => none

end Exchange

def replay (memory : Memory) (exchanges : List Exchange) : Memory :=
  exchanges.foldl (fun memory exchange => exchange.effect memory) memory

@[simp] theorem replay_nil (memory : Memory) : replay memory [] = memory := rfl

@[simp] theorem replay_append (memory : Memory) (first second : List Exchange) :
    replay memory (first ++ second) = replay (replay memory first) second :=
  List.foldl_append

@[simp] theorem replay_cons (memory : Memory) (exchange : Exchange) (rest : List Exchange) :
    replay memory (exchange :: rest) = replay (exchange.effect memory) rest := rfl

theorem replay_keeps (holds : Memory → Prop) {memory : Memory} {exchanges : List Exchange}
    (first : holds memory)
    (kept : ∀ exchange ∈ exchanges, ∀ before,
      holds before → holds (exchange.effect before)) :
    holds (replay memory exchanges) := by
  induction exchanges generalizing memory with
  | nil => exact first
  | cons exchange rest ih =>
      have next := kept exchange List.mem_cons_self memory first
      exact ih next fun other member => kept other (List.mem_cons_of_mem _ member)

/-- Every answer fits the store at the time it was given. -/
def HonestFrom (memory : Memory) (exchanges : List Exchange) : Prop :=
  ∀ before exchange after, exchanges = before ++ exchange :: after →
    exchange.Honest (replay memory before)

theorem HonestFrom.nil (memory : Memory) : HonestFrom memory [] := by
  intro before exchange after split
  simp at split

theorem HonestFrom.concat {memory : Memory} {exchanges : List Exchange} {last : Exchange}
    (honest : HonestFrom memory exchanges) (fits : last.Honest (replay memory exchanges)) :
    HonestFrom memory (exchanges ++ [last]) := by
  intro before exchange after split
  rcases List.eq_nil_or_concat after with rfl | ⟨after, final, rfl⟩
  · obtain ⟨rfl, same⟩ := List.append_inj' split rfl
    cases same
    exact fits
  · rw [List.concat_eq_append, ← List.cons_append, ← List.append_assoc] at split
    exact honest before exchange after (List.append_inj' split rfl).1

theorem HonestFrom.cons {memory : Memory} {first : Exchange} {exchanges : List Exchange}
    (fits : first.Honest memory) (honest : HonestFrom (first.effect memory) exchanges) :
    HonestFrom memory (first :: exchanges) := by
  intro before exchange after split
  rcases List.cons_eq_append_iff.mp split with ⟨rfl, same⟩ | ⟨before, rfl, rfl⟩
  · cases same
    exact fits
  · exact honest before exchange after rfl

theorem HonestFrom.split {memory : Memory} {first second : List Exchange}
    (honest : HonestFrom memory (first ++ second)) :
    HonestFrom memory first ∧ HonestFrom (replay memory first) second := by
  constructor
  · intro before exchange after split
    apply honest before exchange (after ++ second)
    rw [split, List.append_assoc, List.cons_append]
  · intro before exchange after split
    rw [← replay_append]
    apply honest (first ++ before) exchange after
    rw [split, List.append_assoc]

theorem HonestFrom.init {memory : Memory} {exchanges : List Exchange} {last : Exchange}
    (honest : HonestFrom memory (exchanges ++ [last])) :
    HonestFrom memory exchanges ∧ last.Honest (replay memory exchanges) :=
  ⟨honest.split.1, honest exchanges last [] rfl⟩

theorem filterMap_concat {α β : Type} (f : α → Option β) (items : List α) (last : α) :
    (items ++ [last]).filterMap f = items.filterMap f ++ (f last).toList := by
  rw [List.filterMap_append]
  cases picked : f last with
  | none => rw [List.filterMap_cons_none picked]; rfl
  | some value => rw [List.filterMap_cons_some picked]; rfl

theorem nodup_filterMap_init {α β : Type} {f : α → Option β} {items : List α} {last : α}
    (distinct : ((items ++ [last]).filterMap f).Nodup) : (items.filterMap f).Nodup := by
  rw [List.filterMap_append] at distinct
  exact (List.nodup_append.mp distinct).1

theorem not_mem_filterMap_init {α β : Type} {f : α → Option β} {items : List α} {last : α} {b : β}
    (distinct : ((items ++ [last]).filterMap f).Nodup) (given : f last = some b) :
    b ∉ items.filterMap f := by
  rw [filterMap_concat, given] at distinct
  intro member
  exact (List.nodup_append.mp distinct).2.2 b member b List.mem_cons_self rfl

namespace Program

variable {α β : Type}

/-- What is left of a program when it has got some answers. -/
inductive Path : Program α → List Exchange → Program α → Prop
  | nil (program : Program α) : Path program [] program
  | cons {op : Op} {next : op.Answer → Program α} {answer : op.Answer}
      {exchanges : List Exchange} {rest : Program α} (stamp : Stamp)
      (path : Path (next answer) exchanges rest) :
      Path (.ask op next) (⟨stamp, op, answer⟩ :: exchanges) rest

theorem Path.concat {program : Program α} {exchanges : List Exchange} {op : Op}
    {next : op.Answer → Program α} (path : Path program exchanges (.ask op next)) (stamp : Stamp)
    (answer : op.Answer) : Path program (exchanges ++ [⟨stamp, op, answer⟩]) (next answer) := by
  generalize left : Program.ask op next = rest at path
  induction path with
  | nil => subst left; exact .cons stamp (.nil _)
  | cons stamp' _ ih => exact .cons stamp' (ih left)

theorem Path.of_done {value : α} {exchanges : List Exchange} {rest : Program α}
    (path : Path (.done value) exchanges rest) : exchanges = [] ∧ rest = .done value := by
  cases path
  exact ⟨rfl, rfl⟩

theorem Path.of_ask {op : Op} {next : op.Answer → Program α} {exchanges : List Exchange}
    {rest : Program α} (path : Path (.ask op next) exchanges rest) :
    (exchanges = [] ∧ rest = .ask op next) ∨
      ∃ stamp answer later, exchanges = ⟨stamp, op, answer⟩ :: later ∧
        Path (next answer) later rest := by
  cases path with
  | nil => exact .inl ⟨rfl, rfl⟩
  | cons stamp path => exact .inr ⟨stamp, _, _, rfl, path⟩

theorem Path.ended {op : Op} {next : op.Answer → Program α} {exchanges : List Exchange}
    {value : α} (path : Path (.ask op next) exchanges (.done value)) :
    ∃ stamp answer later, exchanges = ⟨stamp, op, answer⟩ :: later ∧
      Path (next answer) later (.done value) := by
  rcases path.of_ask with ⟨-, waiting⟩ | gone
  · cases waiting
  · exact gone

theorem Path.past {op stop : Op} {next : op.Answer → Program α}
    {stopped : stop.Answer → Program α} {exchanges : List Exchange}
    (path : Path (.ask op next) exchanges (.ask stop stopped)) (other : op ≠ stop) :
    ∃ stamp answer later, exchanges = ⟨stamp, op, answer⟩ :: later ∧
      Path (next answer) later (.ask stop stopped) := by
  rcases path.of_ask with ⟨-, waiting⟩ | gone
  · cases waiting
    exact absurd rfl other
  · exact gone

theorem Path.split {program rest : Program α} {first last : List Exchange} {exchange : Exchange}
    (path : Path program (first ++ exchange :: last) rest) :
    ∃ next, Path program first (.ask exchange.op next) ∧
      Path (next exchange.answer) last rest := by
  induction first generalizing program with
  | nil =>
      cases path with
      | cons stamp path => exact ⟨_, .nil _, path⟩
  | cons earlier first ih =>
      cases path with
      | cons stamp path =>
          obtain ⟨next, before, after⟩ := ih path
          exact ⟨next, .cons stamp before, after⟩

theorem Path.of_bind {program : Program α} {next : α → Program β} {exchanges : List Exchange}
    {value : β} (path : Path (program.bind next) exchanges (.done value)) :
    ∃ first last between, exchanges = first ++ last ∧ Path program first (.done between) ∧
      Path (next between) last (.done value) := by
  induction program generalizing exchanges with
  | done between => exact ⟨[], exchanges, between, rfl, .nil _, path⟩
  | ask op rest ih =>
      obtain ⟨stamp, answer, later, rfl, following⟩ := path.ended
      obtain ⟨first, last, between, rfl, shorter, afterwards⟩ := ih answer following
      exact ⟨⟨stamp, op, answer⟩ :: first, last, between, rfl,
        .cons stamp shorter, afterwards⟩

theorem Path.of_map {program : Program α} {f : α → β} {exchanges : List Exchange} {value : β}
    (path : Path (program.bind fun value => .done (f value)) exchanges (.done value)) :
    ∃ result, Path program exchanges (.done result) ∧ f result = value := by
  obtain ⟨first, last, result, rfl, shorter, afterwards⟩ := path.of_bind
  obtain ⟨rfl, ⟨⟩⟩ := afterwards.of_done
  exact ⟨result, (List.append_nil first).symm ▸ shorter, rfl⟩

/-- All questions that a program may ask, whatever the answers are. -/
def Asks (allowed : Op → Prop) : Program α → Prop
  | .done _ => True
  | .ask op next => allowed op ∧ ∀ answer, (next answer).Asks allowed

theorem Asks.bind {allowed : Op → Prop} {program : Program α} {next : α → Program β}
    (first : program.Asks allowed) (others : ∀ value, (next value).Asks allowed) :
    (program.bind next).Asks allowed := by
  induction program with
  | done value => exact others value
  | ask op rest ih => exact ⟨first.1, fun answer => ih answer (first.2 answer)⟩

theorem Asks.mono {allowed wider : Op → Prop} {program : Program α} (asks : program.Asks allowed)
    (implies : ∀ op, allowed op → wider op) : program.Asks wider := by
  induction program with
  | done value => trivial
  | ask op rest ih => exact ⟨implies op asks.1, fun answer => ih answer (asks.2 answer)⟩

theorem Path.asked {allowed : Op → Prop} {program rest : Program α} {exchanges : List Exchange}
    (path : Path program exchanges rest) (asks : program.Asks allowed) :
    ∀ exchange ∈ exchanges, allowed exchange.op := by
  induction path with
  | nil => intro exchange member; cases member
  | cons stamp _ ih =>
      intro exchange member
      rcases List.mem_cons.mp member with rfl | later
      · exact asks.1
      · exact ih (asks.2 _) exchange later

theorem Path.waits {allowed : Op → Prop} {program : Program α} {exchanges : List Exchange}
    {op : Op} {next : op.Answer → Program α} (path : Path program exchanges (.ask op next))
    (asks : program.Asks allowed) :
    allowed op := by
  generalize left : Program.ask op next = rest at path
  induction path with
  | nil =>
      subst left
      exact asks.1
  | cons stamp _ ih => exact ih (asks.2 _) left

/-- A program that asks questions of a kind at most so many times, whatever the answers are. -/
def AsksAtMost (counted : Op → Bool) : Nat → Program α → Prop
  | _, .done _ => True
  | count, .ask op next =>
      (counted op).toNat ≤ count ∧
        ∀ answer, (next answer).AsksAtMost counted (count - (counted op).toNat)

theorem AsksAtMost.mono {counted : Op → Bool} {program : Program α} {fewer more : Nat}
    (most : program.AsksAtMost counted fewer) (le : fewer ≤ more) :
    program.AsksAtMost counted more := by
  induction program generalizing fewer more with
  | done value => trivial
  | ask op next ih =>
      exact ⟨Nat.le_trans most.1 le,
        fun answer => ih answer (most.2 answer) (Nat.sub_le_sub_right le _)⟩

theorem AsksAtMost.of_asks {counted : Op → Bool} {program : Program α}
    (asks : program.Asks fun op => counted op = false) (count : Nat) :
    program.AsksAtMost counted count := by
  induction program generalizing count with
  | done value => trivial
  | ask op next ih =>
      rw [AsksAtMost, asks.1]
      exact ⟨Nat.zero_le count, fun answer => ih answer (asks.2 answer) count⟩

theorem AsksAtMost.bind {counted : Op → Bool} {program : Program α} {next : α → Program β}
    {first others : Nat} (atFirst : program.AsksAtMost counted first)
    (later : ∀ value, (next value).AsksAtMost counted others) :
    (program.bind next).AsksAtMost counted (first + others) := by
  induction program generalizing first with
  | done value => exact (later value).mono (Nat.le_add_left others first)
  | ask op rest ih =>
      refine ⟨Nat.le_trans atFirst.1 (Nat.le_add_right first others), fun answer => ?_⟩
      rw [Nat.sub_add_comm atFirst.1]
      exact ih answer (atFirst.2 answer)

theorem AsksAtMost.map {counted : Op → Bool} {program : Program α} {count : Nat}
    (most : program.AsksAtMost counted count) (f : α → β) :
    (program.bind fun value => .done (f value)).AsksAtMost counted count := by
  change AsksAtMost counted (count + 0) _
  exact most.bind fun _ => trivial

theorem Path.count_le {counted : Op → Bool} {program rest : Program α}
    {exchanges : List Exchange} {count : Nat} (path : Path program exchanges rest)
    (most : program.AsksAtMost counted count) :
    exchanges.countP (fun exchange => counted exchange.op) ≤ count := by
  induction path generalizing count with
  | nil => exact Nat.zero_le count
  | @cons op next answer exchanges rest stamp _ ih =>
      have later := ih (most.2 answer)
      have now : (counted op).toNat ≤ count := most.1
      rw [List.countP_cons]
      cases counts : counted op with
      | false => simpa [counts] using later
      | true =>
          rw [counts, Bool.toNat_true] at now later
          simp only [if_true]
          omega

end Program

structure Service where
  Request : Type
  Result : Request → Type
  program : (request : Request) → Program (Result request)

/-- The world at one moment: the stamp for the store, and what it has to
say to all other questions. -/
structure Moment where
  stamp : Stamp
  refreshToken : String
  hash : String → Except String String
  verifyPassword : String → String → Except String Bool
  sign : Identity → Except AuthError (String × Int)
  verify : String → Except AuthError Identity

def Moment.interpreter (moment : Moment) : Interpreter Memory where
  answer
    | .store call, memory =>
      (.value (memory.perform moment.stamp call).1, (memory.perform moment.stamp call).2)
    | .now, memory => (.value moment.stamp.now, memory)
    | .newRefreshToken, memory => (.value moment.refreshToken, memory)
    | .hashPassword password, memory => (.value (moment.hash password), memory)
    | .verifyPassword password hash, memory =>
      (.value (moment.verifyPassword password hash), memory)
    | .sign identity, memory => (.value (moment.sign identity), memory)
    | .verify token, memory => (.value (moment.verify token), memory)
    | .notify _, memory => (.value (), memory)
    | .abort reason, memory => (.aborted reason, memory)

/-- A second at which everything succeeds. -/
def Moment.plain (second : Int) (id : Nat) : Moment where
  stamp := ⟨⟨second, 0⟩, .ofNat id⟩
  refreshToken := String.ofList (.replicate id 'r')
  hash := .ok
  verifyPassword password hash := .ok (password == hash)
  sign identity := .ok (identity.role, 900)
  verify _ := .error .invalidToken

theorem Moment.answer_spec {moment : Moment} {op : Op} {memory memory' : Memory}
    {answer : op.Answer}
    (answered : moment.interpreter.answer op memory = (.value answer, memory')) :
    (⟨moment.stamp, op, answer⟩ : Exchange).Honest memory ∧
      memory' = (⟨moment.stamp, op, answer⟩ : Exchange).effect memory := by
  cases op with
  | abort reason => cases answered
  | _ =>
      cases answered
      exact ⟨by trivial, rfl⟩

variable {service : Service}

structure Task (service : Service) where
  request : service.Request
  rest : Program (service.Result request)

/-- An exchange, and whose it was: requests are numbered as they arrive. -/
structure Entry (service : Service) where
  task : Nat
  request : service.Request
  exchange : Exchange

/-- How far a run has come: the store, all requests so far, and all
answers so far, the oldest first. -/
structure Run (service : Service) where
  memory : Memory
  tasks : List (Task service)
  log : List (Entry service)

/-- What happens next: a request arrives, or one of the requests gets its answer. -/
inductive Move (service : Service) where
  | arrival (request : service.Request)
  | turn (task : Nat) (moment : Moment)

def Move.arrived : Move service → Option service.Request
  | .arrival request => some request
  | .turn _ _ => none

namespace Run

def start (memory : Memory) : Run service := ⟨memory, [], []⟩

def arrive (run : Run service) (request : service.Request) : Run service :=
  { run with tasks := run.tasks ++ [⟨request, service.program request⟩] }

/-- A turn of a request that does not exist, has ended or has given up changes nothing. -/
def turn (run : Run service) (n : Nat) (moment : Moment) : Run service :=
  match run.tasks[n]? with
  | some ⟨request, .ask op next⟩ =>
      match moment.interpreter.answer op run.memory with
      | (.value answer, memory) =>
          { memory := memory
            tasks := run.tasks.set n ⟨request, next answer⟩
            log := run.log ++ [⟨n, request, ⟨moment.stamp, op, answer⟩⟩] }
      | _ => run
  | _ => run

def move (run : Run service) : Move service → Run service
  | .arrival request => run.arrive request
  | .turn n moment => run.turn n moment

def after (memory : Memory) (moves : List (Move service)) : Run service :=
  moves.foldl move (start memory)

def exchanges (run : Run service) : List Exchange := run.log.map Entry.exchange

def view (run : Run service) (n : Nat) : List Exchange :=
  (run.log.filter fun entry => entry.task == n).map Entry.exchange

def advance (run : Run service) (n : Nat) (task : Task service) (exchange : Exchange) :
    Run service :=
  { memory := exchange.effect run.memory
    tasks := run.tasks.set n task
    log := run.log ++ [⟨n, task.request, exchange⟩] }

/-- A turn either changes nothing or answers the question of one request. -/
theorem turn_cases (run : Run service) (n : Nat) (moment : Moment) :
    run.turn n moment = run ∨
      ∃ request op next answer, run.tasks[n]? = some ⟨request, .ask op next⟩ ∧
        (⟨moment.stamp, op, answer⟩ : Exchange).Honest run.memory ∧
        run.turn n moment =
          run.advance n ⟨request, next answer⟩ ⟨moment.stamp, op, answer⟩ := by
  unfold turn
  split
  · rename_i request op next found
    split
    · rename_i answer memory answered
      obtain ⟨honest, rfl⟩ := Moment.answer_spec answered
      exact .inr ⟨request, op, next, answer, found, honest, rfl⟩
    · exact .inl rfl
  · exact .inl rfl

theorem after_concat (memory : Memory) (moves : List (Move service)) (last : Move service) :
    after memory (moves ++ [last]) = (after memory moves).move last := by
  rw [after, List.foldl_append]
  rfl

theorem log_append (memory : Memory) (earlier later : List (Move service)) :
    ∃ more, (after memory (earlier ++ later)).log = (after memory earlier).log ++ more := by
  induction later using List.reverseRecOn with
  | nil => exact ⟨[], by simp⟩
  | append_singleton later last ih =>
      obtain ⟨more, grown⟩ := ih
      rw [← List.append_assoc, after_concat]
      cases last with
      | arrival request => exact ⟨more, grown⟩
      | turn n moment =>
          change ∃ more, ((after memory (earlier ++ later)).turn n moment).log = _
          rcases turn_cases (after memory (earlier ++ later)) n moment with
            same | ⟨request, op, next, answer, -, -, step⟩
          · exact ⟨more, by rw [same, grown]⟩
          · refine ⟨more ++ [⟨n, request, ⟨moment.stamp, op, answer⟩⟩], ?_⟩
            rw [step, ← List.append_assoc, ← grown]
            rfl

theorem exchanges_append (memory : Memory) (earlier later : List (Move service)) :
    ∃ more, (after memory (earlier ++ later)).exchanges =
      (after memory earlier).exchanges ++ more := by
  obtain ⟨more, grown⟩ := log_append memory earlier later
  exact ⟨more.map Entry.exchange, by rw [exchanges, grown, List.map_append, exchanges]⟩

/-- What holds at the start and is kept by arrivals and answers holds throughout every run. -/
theorem after_induction (holds : Run service → Prop) {memory : Memory}
    (first : holds (start memory))
    (arrived : ∀ moves request,
      holds (after memory moves) → holds ((after memory moves).arrive request))
    (answered : ∀ moves n request stamp op next (answer : op.Answer),
      holds (after memory moves) →
      (after memory moves).tasks[n]? = some ⟨request, .ask op next⟩ →
      (⟨stamp, op, answer⟩ : Exchange).Honest (after memory moves).memory →
      holds ((after memory moves).advance n ⟨request, next answer⟩ ⟨stamp, op, answer⟩))
    (moves : List (Move service)) : holds (after memory moves) := by
  induction moves using List.reverseRecOn with
  | nil => exact first
  | append_singleton moves last ih =>
      rw [after_concat]
      cases last with
      | arrival request => exact arrived moves request ih
      | turn n moment =>
          change holds ((after memory moves).turn n moment)
          rcases turn_cases (after memory moves) n moment with
            same | ⟨request, op, next, answer, found, honest, step⟩
          · rw [same]
            exact ih
          · rw [step]
            exact answered moves n request _ op next answer ih found honest

theorem exchanges_advance (run : Run service) (n : Nat) (task : Task service)
    (exchange : Exchange) :
    (run.advance n task exchange).exchanges = run.exchanges ++ [exchange] := by
  simp [exchanges, advance]

private theorem view_advance_self (run : Run service) (n : Nat) (task : Task service)
    (exchange : Exchange) :
    (run.advance n task exchange).view n = run.view n ++ [exchange] := by
  simp [view, advance, List.filter_append]

private theorem view_advance_other (run : Run service) {n m : Nat} (other : n ≠ m)
    (task : Task service) (exchange : Exchange) :
    (run.advance n task exchange).view m = run.view m := by
  simp [view, advance, List.filter_append, other]

theorem mem_view {run : Run service} {n : Nat} {exchange : Exchange} :
    exchange ∈ run.view n ↔ ∃ entry ∈ run.log, entry.task = n ∧
      entry.exchange = exchange := by
  simp [view, and_assoc]

theorem mem_exchanges {run : Run service} {n : Nat} {exchange : Exchange}
    (member : exchange ∈ run.view n) :
    exchange ∈ run.exchanges := by
  obtain ⟨entry, logged, -, same⟩ := mem_view.mp member
  exact List.mem_map.mpr ⟨entry, logged, same⟩

theorem view_split {run : Run service} {n : Nat} {first last : List Exchange} {exchange : Exchange}
    (split : run.view n = first ++ exchange :: last) :
    ∃ before after request, run.log = before ++ ⟨n, request, exchange⟩ :: after ∧
      (before.filter fun entry => entry.task == n).map Entry.exchange = first := by
  obtain ⟨front, back, filtered, rfl, rest⟩ := List.map_eq_append_iff.mp split
  obtain ⟨before, others, whole, rfl, rfl⟩ := List.filter_eq_append_iff.mp filtered
  obtain ⟨entry, entries, cons, rfl, -⟩ := List.map_eq_cons_iff.mp rest
  obtain ⟨skipped, after, rfl, none, mine, -⟩ := List.filter_eq_cons_iff.mp cons
  obtain ⟨m, request, exchange⟩ := entry
  cases eq_of_beq mine
  refine ⟨before ++ skipped, after, request, by rw [whole, List.append_assoc], ?_⟩
  rw [List.filter_append, List.filter_eq_nil_iff.mpr none, List.append_nil]

theorem exchanges_ordered {run : Run service} {n : Nat} {first last : List Exchange}
    {earlier exchange : Exchange} (split : run.view n = first ++ exchange :: last)
    (member : earlier ∈ first) :
    ∃ front between after,
      run.exchanges = front ++ earlier :: (between ++ exchange :: after) := by
  obtain ⟨before, after, request, whole, rfl⟩ := view_split split
  obtain ⟨entry, mine, rfl⟩ := List.mem_map.mp member
  obtain ⟨front, between, rfl⟩ := List.append_of_mem (List.mem_filter.mp mine).1
  refine ⟨front.map Entry.exchange, between.map Entry.exchange, after.map Entry.exchange, ?_⟩
  simp [exchanges, whole]

/-- The store is what the logged exchanges have made of it, and each
answer was right at its time. -/
theorem replay_exchanges (memory : Memory) (moves : List (Move service)) :
    replay memory (after memory moves).exchanges = (after memory moves).memory ∧
      HonestFrom memory (after memory moves).exchanges := by
  refine after_induction (fun run =>
    replay memory run.exchanges = run.memory ∧ HonestFrom memory run.exchanges) ?_ ?_ ?_ moves
  · exact ⟨rfl, .nil memory⟩
  · intro moves request ih
    exact ih
  · intro moves n request stamp op next answer ih _ honest
    rw [exchanges_advance]
    constructor
    · rw [replay_append, ih.1]
      rfl
    · exact ih.2.concat (ih.1.symm ▸ honest)

theorem entry_honest {memory : Memory} {moves : List (Move service)}
    {before later : List (Entry service)} {entry : Entry service}
    (split : (after memory moves).log = before ++ entry :: later) :
    entry.exchange.Honest (replay memory (before.map Entry.exchange)) := by
  have honest := (replay_exchanges memory moves).2
  rw [exchanges, split, List.map_append, List.map_cons] at honest
  exact honest _ _ _ rfl

theorem log_owner (memory : Memory) (moves : List (Move service)) :
    ∀ entry ∈ (after memory moves).log, ∃ rest,
      (after memory moves).tasks[entry.task]? = some ⟨entry.request, rest⟩ := by
  refine after_induction (fun run =>
    ∀ entry ∈ run.log, ∃ rest,
      run.tasks[entry.task]? = some ⟨entry.request, rest⟩) ?_ ?_ ?_ moves
  · intro entry member
    cases member
  · intro moves request ih entry member
    obtain ⟨rest, found⟩ := ih entry member
    exact ⟨rest,
      by simp [arrive, List.getElem?_append_left (List.getElem?_eq_some_iff.mp found).1, found]⟩
  · intro moves n request stamp op next answer ih found _ entry member
    have within : n < (after memory moves).tasks.length := (List.getElem?_eq_some_iff.mp found).1
    rcases List.mem_append.mp member with earlier | last
    · obtain ⟨rest, owner⟩ := ih entry earlier
      by_cases same : n = entry.task
      · rw [← same, found] at owner
        cases owner
        exact ⟨next answer, by simp [advance, ← same, within]⟩
      · exact ⟨rest, by simp [advance, List.getElem?_set_ne same, owner]⟩
    · cases List.mem_singleton.mp last
      exact ⟨next answer, by simp [advance, within]⟩

theorem logged_of_view {memory : Memory} {moves : List (Move service)} {n : Nat}
    {task : Task service} (found : (after memory moves).tasks[n]? = some task) {exchange : Exchange}
    (member : exchange ∈ (after memory moves).view n) :
    ⟨n, task.request, exchange⟩ ∈ (after memory moves).log := by
  obtain ⟨⟨m, request, other⟩, logged, rfl, rfl⟩ := mem_view.mp member
  obtain ⟨rest, owner⟩ := log_owner memory moves _ logged
  rw [found] at owner
  cases owner
  exact logged

private theorem log_move {run : Run service} {last : Move service} {entry : Entry service}
    (logged : entry ∈ (run.move last).log) :
    entry ∈ run.log ∨ ∃ moment next reached, last = .turn entry.task moment ∧
      run.tasks[entry.task]? = some ⟨entry.request, .ask entry.exchange.op next⟩ ∧
      entry.exchange.stamp = moment.stamp ∧
      moment.interpreter.answer entry.exchange.op run.memory =
        (.value entry.exchange.answer, reached) := by
  cases last with
  | arrival request => exact .inl logged
  | turn n moment =>
      simp only [move, turn] at logged
      split at logged
      · rename_i request op next found
        split at logged
        · rename_i answer reached answered
          rcases List.mem_append.mp logged with old | new
          · exact .inl old
          · cases List.mem_singleton.mp new
            exact .inr ⟨moment, next, reached, rfl, found, rfl, answered⟩
        · exact .inl logged
      · exact .inl logged

theorem entry_turn {memory : Memory} {moves : List (Move service)} {entry : Entry service}
    (logged : entry ∈ (after memory moves).log) :
    ∃ earlier moment later next reached, moves = earlier ++ .turn entry.task moment :: later ∧
      (after memory earlier).tasks[entry.task]? =
        some ⟨entry.request, .ask entry.exchange.op next⟩ ∧
      entry.exchange.stamp = moment.stamp ∧
      moment.interpreter.answer entry.exchange.op (after memory earlier).memory =
        (.value entry.exchange.answer, reached) := by
  induction moves using List.reverseRecOn with
  | nil => cases logged
  | append_singleton moves last ih =>
      rw [after_concat] at logged
      rcases log_move logged with old | ⟨moment, next, reached, rfl, found⟩
      · obtain ⟨earlier, moment, later, next, reached, rfl, found⟩ := ih old
        refine ⟨earlier, moment, later ++ [last], next, reached, ?_, found⟩
        rw [List.append_assoc, List.cons_append]
      · exact ⟨moves, moment, [], next, reached, rfl, found⟩

theorem task_lt {memory : Memory} {moves : List (Move service)} {entry : Entry service}
    (member : entry ∈ (after memory moves).log) :
    entry.task < (after memory moves).tasks.length := by
  obtain ⟨rest, owner⟩ := log_owner memory moves entry member
  exact (List.getElem?_eq_some_iff.mp owner).1

private theorem view_eq_nil {memory : Memory} {moves : List (Move service)} {n : Nat}
    (absent : (after memory moves).tasks.length ≤ n) : (after memory moves).view n = [] := by
  rw [view, List.map_eq_nil_iff, List.filter_eq_nil_iff]
  intro entry member same
  have within := task_lt member
  rw [eq_of_beq same] at within
  omega

theorem tasks_arrived (memory : Memory) (moves : List (Move service)) :
    (after memory moves).tasks.map Task.request = moves.filterMap Move.arrived := by
  induction moves using List.reverseRecOn with
  | nil => rfl
  | append_singleton moves last ih =>
      rw [after_concat, List.filterMap_append, ← ih]
      cases last with
      | arrival request => exact List.map_append
      | turn n moment =>
          rw [List.filterMap_cons_none rfl, List.filterMap_nil, List.append_nil]
          change ((after memory moves).turn n moment).tasks.map Task.request = _
          rcases turn_cases (after memory moves) n moment with same | ⟨request, op, next, answer,
            found, -, step⟩
          · rw [same]
          · have mine : ((after memory moves).tasks.map Task.request)[n]? = some request := by
              rw [List.getElem?_map, found]
              rfl
            obtain ⟨within, same⟩ := List.getElem?_eq_some_iff.mp mine
            rw [step, advance, List.map_set]
            change ((after memory moves).tasks.map Task.request).set n request = _
            rw [← same, List.set_getElem_self]

/-- A request has followed its program: its exchanges lead to what is left of it. -/
theorem view_path (memory : Memory) (moves : List (Move service)) :
    ∀ n task, (after memory moves).tasks[n]? = some task →
      Program.Path (service.program task.request) ((after memory moves).view n) task.rest := by
  refine after_induction (fun run => ∀ n task, run.tasks[n]? = some task →
    Program.Path (service.program task.request) (run.view n) task.rest) ?_ ?_ ?_ moves
  · intro n task found
    cases found
  · intro moves request ih n task found
    rcases Nat.lt_or_ge n (after memory moves).tasks.length with old | new
    · rw [arrive, List.getElem?_append_left old] at found
      exact ih n task found
    · rw [arrive, List.getElem?_append_right new, List.getElem?_singleton] at found
      obtain ⟨-, ⟨⟩⟩ := Option.ite_none_right_eq_some.mp found
      change Program.Path _ ((after memory moves).view n) _
      rw [view_eq_nil new]
      exact .nil _
  · intro moves n request stamp op next answer ih found _ m task found'
    have within : n < (after memory moves).tasks.length := (List.getElem?_eq_some_iff.mp found).1
    by_cases same : n = m
    · subst same
      have now : task = ⟨request, next answer⟩ := by simpa [advance, within] using found'.symm
      subst now
      rw [view_advance_self]
      exact (ih n _ found).concat stamp answer
    · rw [view_advance_other _ same]
      exact ih m task (by simpa [advance, List.getElem?_set_ne same] using found')

theorem log_asked {allowed : service.Request → Op → Prop}
    (asks : ∀ request, (service.program request).Asks (allowed request)) (memory : Memory)
    (moves : List (Move service)) :
    ∀ entry ∈ (after memory moves).log, allowed entry.request entry.exchange.op := by
  intro entry member
  obtain ⟨rest, owner⟩ := log_owner memory moves entry member
  exact (view_path memory moves entry.task _ owner).asked (asks entry.request) entry.exchange
    (mem_view.mpr ⟨entry, member, rfl, rfl⟩)

/-- Questions that each program asks at most once come from different requests. -/
theorem asked_once {counted : Op → Bool} {chosen : Entry service → Bool} {memory : Memory}
    {moves : List (Move service)}
    (once : ∀ entry ∈ (after memory moves).log, chosen entry →
      counted entry.exchange.op ∧ (service.program entry.request).AsksAtMost counted 1) :
    (((after memory moves).log.filter chosen).map Entry.task).Nodup := by
  -- The chosen entries of a request are among the counted exchanges on its path,
  -- and these are one at most.
  rw [List.nodup_iff_count]
  intro n
  rw [List.count, List.countP_map, List.countP_filter]
  rcases Nat.eq_zero_or_pos ((after memory moves).log.countP
    fun entry => ((· == n) ∘ Entry.task) entry && chosen entry) with none | some
  · rw [none]
    exact Nat.zero_le 1
  · obtain ⟨entry, member, holds⟩ := List.countP_pos_iff.mp some
    obtain ⟨mine, picked⟩ := (Bool.and_eq_true _ _).mp holds
    obtain ⟨rest, owner⟩ := log_owner memory moves entry member
    rw [eq_of_beq mine] at owner
    refine Nat.le_trans ?_
      ((view_path memory moves n _ owner).count_le (once entry member picked).2)
    rw [view, List.countP_map, List.countP_filter]
    refine List.countP_mono_left fun other member' both => ?_
    obtain ⟨theirs, picked'⟩ := (Bool.and_eq_true _ _).mp both
    exact (Bool.and_eq_true _ _).mpr ⟨(once other member' picked').1, theirs⟩

end Run

/-! ### Requests that get their turns -/

/-- Nothing more is done for a request that has ended or given up. -/
def Program.Settled {α : Type} : Program α → Prop
  | .done _ => True
  | .ask (.abort _) _ => True
  | .ask _ _ => False

def Run.abandoned (run : Run service) (n : Nat) : Bool :=
  match run.tasks[n]? with
  | some ⟨_, .ask (.abort _) _⟩ => true
  | _ => false

theorem Run.abandoned_rest {run : Run service} {n : Nat} (gone : run.abandoned n = true) :
    ∃ request reason next, run.tasks[n]? = some ⟨request, .ask (.abort reason) next⟩ := by
  unfold abandoned at gone
  split at gone
  · rename_i request reason next found
    exact ⟨request, reason, next, found⟩
  · cases gone

def Move.isTurnOf (n : Nat) : Move service → Bool
  | .arrival _ => false
  | .turn m _ => m == n

namespace Run

theorem turn_settled {run : Run service} {n : Nat} {task : Task service}
    (found : run.tasks[n]? = some task) (settled : task.rest.Settled) (moment : Moment) :
    run.turn n moment = run := by
  obtain ⟨request, rest⟩ := task
  unfold turn
  rw [found]
  cases rest with
  | done value => rfl
  | ask op next =>
      cases op with
      | abort reason => rfl
      | _ => cases settled

private theorem turn_unsettled {run : Run service} {n : Nat} {request : service.Request}
    {rest : Program (service.Result request)} (found : run.tasks[n]? = some ⟨request, rest⟩)
    (unsettled : ¬rest.Settled) (moment : Moment) :
    ∃ rest' exchange, run.turn n moment = run.advance n ⟨request, rest'⟩ exchange := by
  cases rest with
  | done value => exact absurd trivial unsettled
  | ask op next =>
      rcases turn_cases run n moment with same | ⟨request', op', next', answer, found', -, step⟩
      · cases op with
        | abort reason => exact absurd trivial unsettled
        | _ =>
          have grown := congrArg (fun run => run.log.length) same
          simp [turn, found, Moment.interpreter] at grown
      · rw [found] at found'
        cases found'
        exact ⟨_, _, step⟩

private theorem turn_other (run : Run service) {n m : Nat} (other : m ≠ n) (moment : Moment) :
    (run.turn m moment).tasks[n]? = run.tasks[n]? ∧ (run.turn m moment).view n = run.view n := by
  rcases turn_cases run m moment with same | ⟨request, op, next, answer, -, -, step⟩
  · rw [same]
    exact ⟨rfl, rfl⟩
  · rw [step]
    exact ⟨by simp [advance, List.getElem?_set_ne other], view_advance_other run other _ _⟩

/-- A request stays the one that it is; each of its turns answers it, until it has settled. -/
theorem served (memory : Memory) (earlier later : List (Move service)) {n : Nat}
    {task : Task service} (found : (after memory earlier).tasks[n]? = some task) :
    ∃ rest, (after memory (earlier ++ later)).tasks[n]? = some ⟨task.request, rest⟩ ∧
      (rest.Settled ∨ later.countP (Move.isTurnOf n) ≤
        ((after memory (earlier ++ later)).view n).length) := by
  induction later using List.reverseRecOn with
  | nil =>
      rw [List.append_nil]
      exact ⟨task.rest, found, .inr (Nat.zero_le _)⟩
  | append_singleton later last ih =>
      obtain ⟨rest, now, progress⟩ := ih
      rw [← List.append_assoc, after_concat, List.countP_append]
      cases last with
      | arrival request =>
          have within := (List.getElem?_eq_some_iff.mp now).1
          refine ⟨rest, ?_, progress⟩
          change ((after memory (earlier ++ later)).arrive request).tasks[n]? = _
          rw [arrive, List.getElem?_append_left within, now]
      | turn m moment =>
          change ∃ rest, ((after memory (earlier ++ later)).turn m moment).tasks[n]? = _ ∧
            (_ ∨ _ ≤ (((after memory (earlier ++ later)).turn m moment).view n).length)
          by_cases mine : m = n
          · subst mine
            by_cases settled : rest.Settled
            · rw [turn_settled now settled]
              exact ⟨rest, now, .inl settled⟩
            · obtain ⟨rest', exchange, step⟩ := turn_unsettled now settled moment
              have within := (List.getElem?_eq_some_iff.mp now).1
              have before := progress.resolve_left settled
              rw [step, view_advance_self]
              refine ⟨rest', by simp [advance, within], .inr ?_⟩
              rw [List.length_append]
              have one : [(Move.turn m moment : Move service)].countP (Move.isTurnOf m) ≤ 1 :=
                List.countP_le_length
              change _ ≤ _ + 1
              omega
          · obtain ⟨tasks, view⟩ := turn_other (after memory (earlier ++ later)) mine moment
            have none : [(Move.turn m moment : Move service)].countP (Move.isTurnOf n) = 0 := by
              simp [Move.isTurnOf, mine]
            rw [tasks, view, none]
            exact ⟨rest, now, progress⟩

theorem settled_stays {memory : Memory} {earlier : List (Move service)} {n : Nat}
    {task : Task service} (found : (after memory earlier).tasks[n]? = some task)
    (settled : task.rest.Settled) (later : List (Move service)) :
    (after memory (earlier ++ later)).tasks[n]? = some task := by
  induction later using List.reverseRecOn with
  | nil => rwa [List.append_nil]
  | append_singleton later last ih =>
      rw [← List.append_assoc, after_concat]
      cases last with
      | arrival request =>
          have within := (List.getElem?_eq_some_iff.mp ih).1
          change ((after memory (earlier ++ later)).arrive request).tasks[n]? = _
          rw [arrive, List.getElem?_append_left within, ih]
      | turn m moment =>
          change ((after memory (earlier ++ later)).turn m moment).tasks[n]? = _
          by_cases mine : m = n
          · subst mine
            rw [turn_settled ih settled]
            exact ih
          · rw [(turn_other _ mine moment).1]
            exact ih

/-- A program of few questions has settled when it has had as many turns and one more. -/
theorem settles {memory : Memory} {earlier later : List (Move service)} {n count : Nat}
    {task : Task service} (found : (after memory earlier).tasks[n]? = some task)
    (most : (service.program task.request).AsksAtMost (fun _ => true) count)
    (turns : count < later.countP (Move.isTurnOf n)) :
    ∃ rest, (after memory (earlier ++ later)).tasks[n]? = some ⟨task.request, rest⟩ ∧
      rest.Settled := by
  obtain ⟨rest, now, settled | many⟩ := served memory earlier later found
  · exact ⟨rest, now, settled⟩
  · have few := (view_path memory (earlier ++ later) n _ now).count_le most
    rw [List.countP_true] at few
    omega

end Run

end StatusPage
