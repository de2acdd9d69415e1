import StatusPage.Proofs.AccountPrograms
import StatusPage.Proofs.RefreshTokens

/-!
Dropping expired refresh tokens goes unnoticed. Between any two moves of a run the store may drop
what has expired by then. The run is compared with the one without any such sweeps: its store lacks
rows that have expired, and nothing else, and whoever asks for such a row is refused one way or the
other, at once or after a look at the clock.
-/

set_option autoImplicit false

namespace StatusPage

open Store (Memory Stamp)
open Time (Instant)

theorem Time.Instant.le_trans {first second third : Instant} (former : first ≤ second)
    (latter : second ≤ third) :
    first ≤ third := by
  change _ ∨ _ ∧ _ at former
  change _ ∨ _ ∧ _ at latter
  change _ ∨ _ ∧ _
  omega

/-! ### Runs with sweeps -/

section

variable {service : Service}

/-- What happens next: a move, or the expired refresh tokens are dropped. -/
inductive Step (service : Service) where
  | move (move : Move service)
  | sweep (stamp : Stamp)

namespace Step

def move? : Step service → Option (Move service)
  | .move made => some made
  | .sweep _ => none

/-- No turn comes at an earlier time than a sweep before it. -/
def inTime : Step service → Step service → Bool
  | .sweep stamp, .move (.turn _ moment) => stamp.now ≤ moment.stamp.now
  | _, _ => true

end Step

def movesOf (steps : List (Step service)) : List (Move service) := steps.filterMap Step.move?

private theorem movesOf_sweep (steps : List (Step service)) (stamp : Stamp) :
    movesOf (steps ++ [.sweep stamp]) = movesOf steps := by
  simp [movesOf, Step.move?]

private theorem movesOf_move (steps : List (Step service)) (made : Move service) :
    movesOf (steps ++ [.move made]) = movesOf steps ++ [made] := by
  simp [movesOf, Step.move?]

/-- Clocks do not go back, as far as sweeps are concerned. -/
def Timely (steps : List (Step service)) : Prop :=
  steps.Pairwise fun earlier later => earlier.inTime later

instance (steps : List (Step service)) : Decidable (Timely steps) :=
  inferInstanceAs (Decidable (List.Pairwise _ _))

namespace Run

def step (run : Run service) : Step service → Run service
  | .move made => run.move made
  | .sweep stamp => { run with memory := (run.memory.perform stamp .deleteExpiredRefreshTokens).2 }

def swept (memory : Memory) (steps : List (Step service)) : Run service :=
  steps.foldl step (start memory)

private theorem swept_concat (memory : Memory) (steps : List (Step service)) (last : Step service) :
    swept memory (steps ++ [last]) = (swept memory steps).step last := by
  rw [swept, List.foldl_append]
  rfl

private theorem turn_absent {run : Run service} {n : Nat} (absent : run.tasks[n]? = none)
    (moment : Moment) :
    run.turn n moment = run := by
  unfold turn
  rw [absent]

private theorem turn_value {run : Run service} {n : Nat} {request : service.Request} {op : Op}
    {next : op.Answer → Program (service.Result request)} {moment : Moment} {answer : op.Answer}
    {memory : Memory} (found : run.tasks[n]? = some ⟨request, .ask op next⟩)
    (answered : moment.interpreter.answer op run.memory = (.value answer, memory)) :
    run.turn n moment =
      run.advance n ⟨request, next answer⟩ ⟨moment.stamp, op, answer⟩ := by
  obtain ⟨-, rfl⟩ := Moment.answer_spec answered
  unfold turn
  rw [found]
  simp only [answered]
  rfl

end Run

end

/-! ### What is missing in the store -/

/-- One store has all that another has, up to rows that are gone. -/
structure LacksOnly (gone : RefreshToken → Prop) (whole rest : Memory) : Prop where
  users : rest.users = whole.users
  kept : ∀ row ∈ rest.refreshTokens, row ∈ whole.refreshTokens
  missing : ∀ row ∈ whole.refreshTokens, row ∉ rest.refreshTokens → gone row

namespace LacksOnly

variable {gone : RefreshToken → Prop} {whole rest : Memory}

theorem refl (gone : RefreshToken → Prop) (memory : Memory) : LacksOnly gone memory memory :=
  ⟨rfl, fun _ member => member, fun _ member absent => absurd member absent⟩

theorem mono {more : RefreshToken → Prop} (lacks : LacksOnly gone whole rest)
    (wider : ∀ row, gone row → more row) : LacksOnly more whole rest :=
  ⟨lacks.users, lacks.kept,
    fun row member absent => wider row (lacks.missing row member absent)⟩

theorem drop (lacks : LacksOnly gone whole rest) (drop : RefreshToken → Bool) :
    LacksOnly gone (whole.dropRefreshTokens drop) (rest.dropRefreshTokens drop) where
  users := lacks.users
  kept row member := by
    obtain ⟨present, spared⟩ := List.mem_filter.mp member
    exact List.mem_filter.mpr ⟨lacks.kept row present, spared⟩
  missing row member absent := by
    obtain ⟨present, spared⟩ := List.mem_filter.mp member
    exact lacks.missing row present fun also => absent (List.mem_filter.mpr ⟨also, spared⟩)

private theorem dropRest {drop : RefreshToken → Bool} (lacks : LacksOnly gone whole rest)
    (dropped : ∀ row, drop row = true → gone row) :
    LacksOnly gone whole (rest.dropRefreshTokens drop) where
  users := lacks.users
  kept row member := lacks.kept row (List.mem_filter.mp member).1
  missing row member absent := by
    by_cases present : row ∈ rest.refreshTokens
    · cases picked : drop row with
      | true => exact dropped row picked
      | false => exact absurd (List.mem_filter.mpr ⟨present, by rw [picked]; rfl⟩) absent
    · exact lacks.missing row member present

theorem createUser (lacks : LacksOnly gone whole rest) (stamp : Stamp) (new : NewUser) :
    (rest.createUser stamp new).1 = (whole.createUser stamp new).1 ∧
      LacksOnly gone (whole.createUser stamp new).2 (rest.createUser stamp new).2 := by
  simp only [Memory.createUser, lacks.users]
  split
  · exact ⟨rfl, lacks⟩
  · exact ⟨rfl, rfl, lacks.kept, lacks.missing⟩

theorem createRefreshToken (lacks : LacksOnly gone whole rest) (stamp : Stamp)
    {new : NewRefreshToken} (free : ∀ row ∈ whole.refreshTokens, row.digest ≠ new.digest) :
    (rest.createRefreshToken stamp new).1 = (whole.createRefreshToken stamp new).1 ∧
      LacksOnly gone (whole.createRefreshToken stamp new).2
        (rest.createRefreshToken stamp new).2 := by
  have noneWhole : whole.findRefreshToken new.digest = none := by
    refine List.find?_eq_none.mpr fun row member => ?_
    simpa using free row member
  have noneRest : rest.findRefreshToken new.digest = none := by
    refine List.find?_eq_none.mpr fun row member => ?_
    simpa using free row (lacks.kept row member)
  simp only [Memory.createRefreshToken, Memory.hasUser, lacks.users, noneWhole, noneRest,
    Option.isSome_none, Bool.false_eq_true, if_false]
  split
  · exact ⟨rfl, lacks⟩
  · refine ⟨rfl, rfl, fun row member => ?_, fun row member absent => ?_⟩
    · rcases List.mem_cons.mp member with rfl | old
      · exact List.mem_cons_self
      · exact List.mem_cons_of_mem _ (lacks.kept row old)
    · rcases List.mem_cons.mp member with rfl | old
      · exact absurd List.mem_cons_self absent
      · exact lacks.missing row old fun present => absent (List.mem_cons_of_mem _ present)

private theorem takeRefreshToken_drops (memory : Memory) (digest : String) :
    (memory.takeRefreshToken digest).2 = memory.dropRefreshTokens fun row =>
      row.digest == digest := by
  unfold Memory.takeRefreshToken
  split
  · rename_i none
    have spared : memory.refreshTokens.filter (fun row => !(row.digest == digest)) =
        memory.refreshTokens := by
      refine List.filter_eq_self.mpr fun row member => ?_
      simpa using List.find?_eq_none.mp none row member
    rw [Memory.dropRefreshTokens, spared]
  · rfl

theorem takeRefreshToken (lacks : LacksOnly gone whole rest) (digest : String)
    (unique : ∀ first ∈ whole.refreshTokens, ∀ second ∈ whole.refreshTokens,
      first.digest = second.digest → first = second) :
    LacksOnly gone (whole.takeRefreshToken digest).2 (rest.takeRefreshToken digest).2 ∧
      ((rest.takeRefreshToken digest).1 = (whole.takeRefreshToken digest).1 ∨
        ∃ row, gone row ∧ (whole.takeRefreshToken digest).1 = .ok row ∧
          (rest.takeRefreshToken digest).1 = .error .notFound) := by
  constructor
  · rw [takeRefreshToken_drops, takeRefreshToken_drops]
    exact lacks.drop _
  · simp only [Memory.takeRefreshToken]
    cases found : whole.findRefreshToken digest with
    | none =>
        have none : rest.findRefreshToken digest = none := by
          refine List.find?_eq_none.mpr fun row member => ?_
          exact List.find?_eq_none.mp found row (lacks.kept row member)
        rw [none]
        exact .inl rfl
    | some row =>
        obtain ⟨member, mine⟩ := Memory.findRefreshToken_spec found
        cases found' : rest.findRefreshToken digest with
        | none =>
            refine .inr ⟨row, lacks.missing row member fun present => ?_, rfl, rfl⟩
            exact List.find?_eq_none.mp found' row present (beq_iff_eq.mpr mine)
        | some other =>
            obtain ⟨present, same⟩ := Memory.findRefreshToken_spec found'
            rw [unique other (lacks.kept other present) row member (same.trans mine.symm)]
            exact .inl rfl

end LacksOnly

/-! ### What a request makes of a missing row -/

section

variable {settings : Auth.Settings}

private theorem generateTokens_takes_nothing (settings : Auth.Settings) (user : User)
    (digest : String) :
    (Auth.generateTokens settings user).Asks fun op =>
      op ≠ .store (.takeRefreshToken digest) := by
  refine ⟨nofun, fun signed => ?_⟩
  rcases signed with e | access
  · trivial
  · refine ⟨nofun, fun token => ⟨nofun, fun now => ?_⟩⟩
    change ((Auth.daysFrom now settings.refreshDays).bind _).Asks _
    rcases Auth.daysFrom_cases now settings.refreshDays with ⟨-, later⟩ | ⟨-, reason, never⟩
    · rw [later]
      refine ⟨nofun, fun stored => ?_⟩
      cases stored <;> trivial
    · rw [never]
      exact ⟨nofun, nofun⟩

/-- A refusal after a look at the clock, if the row has expired by then. -/
def Refuses (row : RefreshToken) (look : Instant → Program (Except AuthError TokenPair)) : Prop :=
  ∀ now, row.isExpired now → look now = .done (.error .invalidToken)

/-- An exchange takes a row with its first question only. Without one it is refused, and so it is
with an expired one. -/
theorem refresh_refuses {token digest : String} {exchanges : List Exchange}
    {next : Except StoreError RefreshToken → Program (Except AuthError TokenPair)}
    (path : Program.Path (Auth.refresh settings token) exchanges
      (.ask (.store (.takeRefreshToken digest)) next)) :
    next (.error .notFound) = .done (.error .invalidToken) ∧
      ∀ row, ∃ look, next (.ok row) = .ask .now look ∧ Refuses row look := by
  rcases path.of_ask with ⟨-, waiting⟩ | ⟨stamp, taken, later, rfl, following⟩
  · cases waiting
    refine ⟨rfl, fun row => ⟨_, rfl, fun now late => ?_⟩⟩
    exact if_pos late
  · exfalso
    rcases taken with e | row
    · cases e <;> cases following.of_done.2
    · obtain ⟨_, now, later, rfl, looking⟩ := following.past nofun
      change Program.Path (if row.isExpired now then _ else _) _ _ at looking
      split at looking
      · cases looking.of_done.2
      · obtain ⟨_, found, later, rfl, loading⟩ := looking.past nofun
        rcases found with e | user
        · cases e <;> cases loading.of_done.2
        · exact loading.waits (generateTokens_takes_nothing settings user digest) rfl

theorem Program.Path.only {α : Type} {op other : Op} {first : op.Answer → Program α}
    {next : other.Answer → Program α} {exchanges : List Exchange}
    (path : Path (.ask op first) exchanges (.ask other next))
    (ends : ∀ answer, ∃ value, first answer = .done value) :
    Program.ask op first = .ask other next := by
  rcases path.of_ask with ⟨-, waiting⟩ | ⟨stamp, answer, later, rfl, following⟩
  · exact waiting.symm
  · obtain ⟨value, ended⟩ := ends answer
    rw [ended] at following
    cases following.of_done.2

variable {request : AuthRequest} {exchanges : List Exchange}

private theorem logout_unnoticed {digest : String}
    {next : Except StoreError Bool → Program request.Result}
    (path : Program.Path (request.program settings) exchanges
      (.ask (.store (.deleteRefreshToken digest)) next)) (existed existed' : Bool) :
        next (.ok existed) = next (.ok existed') := by
  cases path.waits (request.program_asks settings) with
  | logout =>
      cases path.only fun deleted => by cases deleted <;> exact ⟨_, rfl⟩
      rfl
  | revoke =>
      cases path.only fun deleted => by cases deleted <;> exact ⟨_, rfl⟩
      rfl

private theorem sweep_unnoticed {next : Except StoreError Nat → Program request.Result}
    (path : Program.Path (request.program settings) exchanges
      (.ask (.store .deleteExpiredRefreshTokens) next)) (count count' : Nat) :
        next (.ok count) = next (.ok count') := by
  cases path.waits (request.program_asks settings) with
  | sweep =>
      cases path.only fun deleted => ⟨(), rfl⟩
      rfl

private theorem logoutAll_counts {userId : Uuid}
    {next : Except StoreError Nat → Program (Except AuthError Nat)}
    (path : Program.Path (Auth.logoutAll userId) exchanges
      (.ask (.store (.deleteUserRefreshTokens userId)) next))
    (count : Nat) : next (.ok count) = .done (.ok count) := by
  cases path.only fun deleted => by cases deleted <;> exact ⟨_, rfl⟩
  rfl

end

/-! ### Side by side -/

section

variable {settings : Auth.Settings}

/-- How a request stands in a run without sweeps and in one with sweeps: it is the same in both; or
it has counted the tokens that it has deleted; or it still has to look at the clock in the one, and
has been refused in the other. -/
inductive StandsAlike (gone : RefreshToken → Prop) :
    Option (Task (authService settings)) → Option (Task (authService settings)) → Prop
  | absent : StandsAlike gone none none
  | same (task : Task (authService settings)) : StandsAlike gone (some task) (some task)
  | counted (userId : Uuid) (count count' : Except AuthError Nat) :
      StandsAlike gone (some ⟨.logoutAll userId, .done count⟩)
        (some ⟨.logoutAll userId, .done count'⟩)
  | late {token : String} {row : RefreshToken}
      {look : Instant → Program (Except AuthError TokenPair)}
      (dead : gone row) (refuses : Refuses row look) :
      StandsAlike gone (some ⟨.refresh token, .ask .now look⟩)
        (some ⟨.refresh token, .done (.error .invalidToken)⟩)

/-- A run without sweeps, and one with sweeps that differs from it in nothing that matters. -/
structure Simulates (gone : RefreshToken → Prop)
    (plain swept : Run (authService settings)) : Prop where
  memory : LacksOnly gone plain.memory swept.memory
  tasks : ∀ n : Nat, StandsAlike gone plain.tasks[n]? swept.tasks[n]?
  generated : swept.exchanges.filterMap Exchange.generated =
    plain.exchanges.filterMap Exchange.generated

variable {gone : RefreshToken → Prop} {plain swept : Run (authService settings)}

theorem StandsAlike.mono {more : RefreshToken → Prop}
    {task task' : Option (Task (authService settings))} (matched : StandsAlike gone task task')
    (wider : ∀ row, gone row → more row) : StandsAlike more task task' := by
  cases matched with
  | absent => exact .absent
  | same task => exact .same task
  | counted userId count count' => exact .counted userId count count'
  | late dead refuses => exact .late (wider _ dead) refuses

theorem Simulates.mono {more : RefreshToken → Prop} (simulates : Simulates gone plain swept)
    (wider : ∀ row, gone row → more row) : Simulates more plain swept :=
  ⟨simulates.memory.mono wider, fun n => (simulates.tasks n).mono wider, simulates.generated⟩

private theorem StandsAlike.isNone_eq {task task' : Option (Task (authService settings))}
    (matched : StandsAlike gone task task') : task.isNone = task'.isNone := by
  cases matched <;> rfl

theorem Simulates.length_eq (simulates : Simulates gone plain swept) :
    plain.tasks.length = swept.tasks.length := by
  have within (n : Nat) : plain.tasks.length ≤ n ↔ swept.tasks.length ≤ n := by
    rw [← List.getElem?_eq_none_iff, ← List.getElem?_eq_none_iff, ← Option.isNone_iff_eq_none,
      ← Option.isNone_iff_eq_none, (simulates.tasks n).isNone_eq]
  have first := within plain.tasks.length
  have second := within swept.tasks.length
  omega

theorem Simulates.arrive (simulates : Simulates gone plain swept) (request : AuthRequest) :
    Simulates gone (plain.arrive request) (swept.arrive request) := by
  refine ⟨simulates.memory, fun n => ?_, simulates.generated⟩
  simp only [Run.arrive, List.getElem?_append, simulates.length_eq]
  split
  · exact simulates.tasks n
  · rw [List.getElem?_singleton]
    split
    · exact .same _
    · exact .absent

theorem Simulates.advance (simulates : Simulates gone plain swept) {n : Nat} {request : AuthRequest}
    {old old' rest rest' : Program request.Result} {exchange exchange' : Exchange}
    (found : plain.tasks[n]? = some ⟨request, old⟩)
    (found' : swept.tasks[n]? = some ⟨request, old'⟩)
    (memory : LacksOnly gone (exchange.effect plain.memory) (exchange'.effect swept.memory))
    (matched : StandsAlike gone (some ⟨request, rest⟩)
      (some (⟨request, rest'⟩ : Task (authService settings))))
    (generated : exchange'.generated = exchange.generated) :
    Simulates gone (plain.advance n ⟨request, rest⟩ exchange)
      (swept.advance n ⟨request, rest'⟩ exchange') := by
  refine ⟨memory, fun m => ?_, ?_⟩
  · by_cases same : n = m
    · subst same
      have within := (List.getElem?_eq_some_iff.mp found).1
      have within' := (List.getElem?_eq_some_iff.mp found').1
      simpa [Run.advance, within, within'] using matched
    · simpa [Run.advance, List.getElem?_set_ne same] using simulates.tasks m
  · rw [Run.exchanges_advance, Run.exchanges_advance, List.filterMap_append, List.filterMap_append,
      simulates.generated]
    simp only [List.filterMap_cons, List.filterMap_nil, generated]

section Turns

variable {n : Nat} {request : AuthRequest} (simulates : Simulates gone plain swept)
  (moment : Moment)
include simulates

theorem Simulates.told {op : Op} {next : op.Answer → Program request.Result} {answer : op.Answer}
    (found : plain.tasks[n]? = some ⟨request, .ask op next⟩)
    (found' : swept.tasks[n]? = some ⟨request, .ask op next⟩)
    (answered : ∀ memory, moment.interpreter.answer op memory = (.value answer, memory)) :
    Simulates gone (plain.turn n moment) (swept.turn n moment) := by
  have effect (memory : Memory) :
      (⟨moment.stamp, op, answer⟩ : Exchange).effect memory = memory :=
    (Moment.answer_spec (answered memory)).2.symm
  rw [Run.turn_value found (answered _), Run.turn_value found' (answered _)]
  refine simulates.advance found found' ?_ (.same _) rfl
  rw [effect, effect]
  exact simulates.memory

theorem Simulates.called {call : Store.Call}
    {next : Except StoreError call.Result → Program request.Result}
    (found : plain.tasks[n]? = some ⟨request, .ask (.store call) next⟩)
    (found' : swept.tasks[n]? = some ⟨request, .ask (.store call) next⟩)
    (lacks : LacksOnly gone (plain.memory.perform moment.stamp call).2
      (swept.memory.perform moment.stamp call).2)
      (matched : StandsAlike gone
        (some ⟨request, next (plain.memory.perform moment.stamp call).1⟩)
      (some (⟨request, next (swept.memory.perform moment.stamp call).1⟩ : Task
        (authService settings)))) :
    Simulates gone (plain.turn n moment) (swept.turn n moment) := by
  rw [Run.turn_value found rfl, Run.turn_value found' rfl]
  exact simulates.advance found found' lacks matched rfl

private theorem Simulates.calledAlike {call : Store.Call}
    {next : Except StoreError call.Result → Program request.Result}
    (found : plain.tasks[n]? = some ⟨request, .ask (.store call) next⟩)
    (found' : swept.tasks[n]? = some ⟨request, .ask (.store call) next⟩)
    (alike : (swept.memory.perform moment.stamp call).1 =
      (plain.memory.perform moment.stamp call).1 ∧
      LacksOnly gone (plain.memory.perform moment.stamp call).2
        (swept.memory.perform moment.stamp call).2) :
    Simulates gone (plain.turn n moment) (swept.turn n moment) := by
  refine simulates.called moment found found' alike.2 ?_
  rw [alike.1]
  exact .same _

/-- The request that has been refused in one run looks at the clock in the other. -/
theorem Simulates.looked {token : String} {row : RefreshToken}
    {look : Instant → Program (Except AuthError TokenPair)}
    (found : plain.tasks[n]? = some ⟨.refresh token, .ask .now look⟩)
    (found' : swept.tasks[n]? = some ⟨.refresh token, .done (.error .invalidToken)⟩)
    (refuses : Refuses row look) (late : row.isExpired moment.stamp.now) :
    Simulates gone (plain.turn n moment) (swept.turn n moment) := by
  rw [Run.turn_value found rfl, Run.turn_settled found' trivial]
  rw [refuses moment.stamp.now late]
  refine ⟨simulates.memory, fun m => ?_, ?_⟩
  · by_cases same : n = m
    · subst same
      have within := (List.getElem?_eq_some_iff.mp found).1
      rw [found', Run.advance, List.getElem?_set_self within]
      exact .same _
    · rw [Run.advance, List.getElem?_set_ne same]
      exact simulates.tasks m
  · rw [Run.exchanges_advance, List.filterMap_append, simulates.generated]
    simp only [List.filterMap_cons, List.filterMap_nil, Exchange.generated, List.append_nil]

end Turns

/-! ### Digests that do not repeat -/

/-- The digests of the tokens that a store begins with, and of all that are
generated in a run, are different. -/
def Run.Fresh (memory : Memory) (run : Run (authService settings)) : Prop :=
  (memory.refreshTokens.map RefreshToken.digest ++
    (run.exchanges.filterMap Exchange.generated).map refreshDigest).Nodup

instance (memory : Memory) (run : Run (authService settings)) : Decidable (run.Fresh memory) :=
  inferInstanceAs (Decidable (List.Nodup _))

variable {memory : Memory} {moves : List (Move (authService settings))}

theorem Run.Fresh.unique (fresh : (Run.after memory moves).Fresh memory) :
    ∀ first ∈ (Run.after memory moves).memory.refreshTokens,
      ∀ second ∈ (Run.after memory moves).memory.refreshTokens,
        first.digest = second.digest → first = second := by
  intro first member second member' same
  obtain ⟨replayed, honest⟩ := Run.replay_exchanges memory moves
  rw [← replayed] at member member'
  exact issuedTokens_unique honest (offeredDigests_nodup fresh)
    (mem_issuedTokens_of_present honest member)
    (mem_issuedTokens_of_present honest member') same

theorem Run.Fresh.free (fresh : (Run.after memory moves).Fresh memory) {n : Nat}
    {request : AuthRequest} {new : NewRefreshToken}
    {next : Except StoreError RefreshToken → Program request.Result}
    (found : (Run.after memory moves).tasks[n]? =
      some ⟨request, .ask (.store (.createRefreshToken new)) next⟩)
    (moment : Moment) :
    ∀ row ∈ (Run.after memory moves).memory.refreshTokens, row.digest ≠ new.digest := by
  intro row member
  -- The run is followed by one turn, so that the offer stands in its log.
  have turned : (Run.after memory (moves ++ [.turn n moment])).exchanges =
      (Run.after memory moves).exchanges ++ [⟨moment.stamp, .store (.createRefreshToken new),
        ((Run.after memory moves).memory.perform moment.stamp (.createRefreshToken new)).1⟩] := by
    rw [Run.after_concat]
    change ((Run.after memory moves).turn n moment).exchanges = _
    rw [Run.turn_value found rfl, Run.exchanges_advance]
  have distinct : (Run.after memory (moves ++ [.turn n moment])).Fresh memory := by
    rw [Run.Fresh, turned, List.filterMap_append]
    change (_ ++ ((Run.after memory moves).exchanges.filterMap Exchange.generated ++ []).map
      refreshDigest).Nodup
    rw [List.append_nil]
    exact fresh
  have honest := (Run.replay_exchanges memory (moves ++ [.turn n moment])).2
  have digests := offeredDigests_nodup distinct
  rw [turned] at honest digests
  rw [← (Run.replay_exchanges memory moves).1] at member
  exact offered_absent honest digests rfl member

theorem Simulates.answered {swept : Run (authService settings)}
    (simulates : Simulates gone (Run.after memory moves) swept)
    (fresh : (Run.after memory moves).Fresh memory) {n : Nat} {request : AuthRequest} {op : Op}
    {next : op.Answer → Program request.Result}
    (found : (Run.after memory moves).tasks[n]? = some ⟨request, .ask op next⟩)
    (found' : swept.tasks[n]? = some ⟨request, .ask op next⟩) (moment : Moment) :
    Simulates gone ((Run.after memory moves).turn n moment) (swept.turn n moment) := by
  have path := Run.view_path memory moves n _ found
  have lacks := simulates.memory
  cases op with
  | abort reason =>
      rw [Run.turn_settled found trivial, Run.turn_settled found' trivial]
      exact simulates
  | now | newRefreshToken | hashPassword | verifyPassword | sign | verify | notify =>
      exact simulates.told moment found found' fun _ => rfl
  | store call =>
      have asked := path.waits (request.program_asks settings)
      cases call with
      | createUser new =>
        exact simulates.calledAlike moment found found' (lacks.createUser moment.stamp new)
      | findUserById id =>
          refine simulates.calledAlike moment found found' ⟨?_, lacks⟩
          simp only [Memory.perform, Memory.reading, lacks.users]
      | findUserByEmail email =>
          refine simulates.calledAlike moment found found' ⟨?_, lacks⟩
          simp only [Memory.perform, Memory.reading, lacks.users]
      | createRefreshToken new =>
          exact simulates.calledAlike moment found found'
            (lacks.createRefreshToken moment.stamp (fresh.free found moment))
      | takeRefreshToken digest =>
          -- The one call at which the runs part: the row is there in one and missing in the other.
          obtain ⟨after, same | ⟨row, dead, taken, missed⟩⟩ :=
            lacks.takeRefreshToken digest fresh.unique
          · exact simulates.calledAlike moment found found' ⟨same, after⟩
          · refine simulates.called moment found found' after ?_
            cases asked with
            | take =>
                obtain ⟨refused, looks⟩ := refresh_refuses path
                obtain ⟨look, looking, refuses⟩ := looks row
                simp only [Memory.perform, taken, missed]
                rw [refused, looking]
                exact .late dead refuses
      | deleteRefreshToken digest =>
          refine simulates.called moment found found' (lacks.drop _) ?_
          simp only [Memory.perform, Memory.deleteRefreshToken]
          rw [logout_unnoticed path]
          exact .same _
      | deleteUserRefreshTokens userId =>
          refine simulates.called moment found found' (lacks.drop _) ?_
          cases asked with
          | logoutAll =>
              simp only [Memory.perform, Memory.deleteRefreshTokens, logoutAll_counts path]
              exact .counted userId _ _
      | deleteExpiredRefreshTokens =>
          refine simulates.called moment found found' (lacks.drop _) ?_
          simp only [Memory.perform, Memory.deleteRefreshTokens]
          rw [sweep_unnoticed path]
          exact .same _
      | _ => cases asked

theorem Simulates.turn {swept : Run (authService settings)}
    (simulates : Simulates gone (Run.after memory moves) swept)
    (fresh : (Run.after memory moves).Fresh memory) (n : Nat) {moment : Moment}
    (late : ∀ row, gone row → row.isExpired moment.stamp.now) :
    Simulates gone ((Run.after memory moves).turn n moment) (swept.turn n moment) := by
  have matched := simulates.tasks n
  generalize found : (Run.after memory moves).tasks[n]? = task,
    found' : swept.tasks[n]? = task' at matched
  cases matched with
  | absent =>
      rw [Run.turn_absent found, Run.turn_absent found']
      exact simulates
  | same task =>
      obtain ⟨request, rest⟩ := task
      cases rest with
      | done result =>
          rw [Run.turn_settled found trivial, Run.turn_settled found' trivial]
          exact simulates
      | ask op next => exact simulates.answered fresh found found' moment
  | counted userId count count' =>
      rw [Run.turn_settled found trivial, Run.turn_settled found' trivial]
      exact simulates
  | late dead refuses => exact simulates.looked moment found found' refuses (late _ dead)

/-! ### Runs with sweeps and runs without -/

def ExpiredAtSweep (steps : List (Step (authService settings))) (row : RefreshToken) : Prop :=
  ∃ stamp, .sweep stamp ∈ steps ∧ row.isExpired stamp.now

variable {steps : List (Step (authService settings))}

theorem ExpiredAtSweep.append {row : RefreshToken} (expired : ExpiredAtSweep steps row)
    (later : List (Step (authService settings))) : ExpiredAtSweep (steps ++ later) row := by
  obtain ⟨stamp, member, late⟩ := expired
  exact ⟨stamp, List.mem_append_left _ member, late⟩

/-- What has expired at a sweep has expired for everybody who looks at the clock later. -/
theorem Timely.late {n : Nat} {moment : Moment}
    (timely : Timely (steps ++ [.move (.turn n moment)])) {row : RefreshToken}
    (expired : ExpiredAtSweep steps row) : row.isExpired moment.stamp.now := by
  obtain ⟨stamp, member, late⟩ := expired
  have inTime := (List.pairwise_append.mp timely).2.2 _ member _ List.mem_cons_self
  have before : row.expiresAt ≤ stamp.now := of_decide_eq_true late
  exact decide_eq_true (Instant.le_trans before (of_decide_eq_true inTime))

theorem Timely.init {last : Step (authService settings)} (timely : Timely (steps ++ [last])) :
    Timely steps :=
  (List.pairwise_append.mp timely).1

private theorem swept_generated (memory : Memory) (steps : List (Step (authService settings)))
    (last : Step (authService settings)) :
    ∃ more, (Run.swept memory (steps ++ [last])).exchanges =
      (Run.swept memory steps).exchanges ++ more := by
  rw [Run.swept_concat]
  cases last with
  | sweep stamp => exact ⟨[], (List.append_nil _).symm⟩
  | move made =>
      cases made with
      | arrival request => exact ⟨[], (List.append_nil _).symm⟩
      | turn n moment =>
          change ∃ more, ((Run.swept memory steps).turn n moment).exchanges = _
          rcases Run.turn_cases (Run.swept memory steps) n moment with
            same | ⟨request, op, next, answer, -, -, step⟩
          · exact ⟨[], by rw [same, List.append_nil]⟩
          · exact ⟨_, by rw [step, Run.exchanges_advance]⟩

theorem Run.Fresh.of_append {run longer : Run (authService settings)} {more : List Exchange}
    (fresh : longer.Fresh memory) (grown : longer.exchanges = run.exchanges ++ more) :
    run.Fresh memory := by
  rw [Fresh, grown, List.filterMap_append, List.map_append, ← List.append_assoc] at fresh
  exact (List.nodup_append.mp fresh).1

theorem Run.Fresh.init {last : Step (authService settings)}
    (fresh : (Run.swept memory (steps ++ [last])).Fresh memory) :
    (Run.swept memory steps).Fresh memory := by
  obtain ⟨more, grown⟩ := swept_generated memory steps last
  exact fresh.of_append grown

/-- A run with sweeps goes on to differ from the run without them in nothing that matters. -/
theorem Simulates.step {last : Step (authService settings)} (timely : Timely (steps ++ [last]))
    (simulates : Simulates (ExpiredAtSweep steps) (Run.after memory (movesOf steps))
      (Run.swept memory steps)) (fresh : (Run.after memory (movesOf steps)).Fresh memory) :
    Simulates (ExpiredAtSweep (steps ++ [last])) (Run.after memory (movesOf (steps ++ [last])))
      (Run.swept memory (steps ++ [last])) := by
  have wider (row : RefreshToken) (expired : ExpiredAtSweep steps row) :
      ExpiredAtSweep (steps ++ [last]) row := expired.append [last]
  rw [Run.swept_concat]
  cases last with
  | sweep stamp =>
      -- Only the run with sweeps goes on. What it drops joins the rows that are gone.
      rw [movesOf_sweep]
      refine ⟨(simulates.memory.mono wider).dropRest fun row late => ?_,
        (simulates.mono wider).tasks, simulates.generated⟩
      exact ⟨stamp, List.mem_append_right _ List.mem_cons_self, late⟩
  | move made =>
      rw [movesOf_move, Run.after_concat]
      cases made with
      | arrival request => exact (simulates.arrive request).mono wider
      | turn n moment =>
          exact (simulates.turn fresh n fun row expired => timely.late expired).mono wider

theorem Simulates.start (gone : RefreshToken → Prop) (memory : Memory) :
    Simulates gone (Run.start memory : Run (authService settings)) (Run.start memory) :=
  ⟨.refl _ memory, fun _ => .absent, rfl⟩

private theorem swept_simulates (timely : Timely steps)
    (fresh : (Run.swept memory steps).Fresh memory) :
    Simulates (ExpiredAtSweep steps) (Run.after memory (movesOf steps))
      (Run.swept memory steps) := by
  induction steps using List.reverseRecOn with
  | nil => exact .start _ memory
  | append_singleton steps last ih =>
      have simulates := ih timely.init fresh.init
      refine simulates.step timely ?_
      rw [Run.Fresh, ← simulates.generated]
      exact fresh.init

private theorem simulates_of_fresh (timely : Timely steps)
    (fresh : (Run.after memory (movesOf steps)).Fresh memory) :
    Simulates (ExpiredAtSweep steps) (Run.after memory (movesOf steps))
      (Run.swept memory steps) := by
  induction steps using List.reverseRecOn with
  | nil => exact .start _ memory
  | append_singleton steps last ih =>
      have earlier : (Run.after memory (movesOf steps)).Fresh memory := by
        cases last with
        | sweep stamp => rwa [movesOf_sweep] at fresh
        | move made =>
            obtain ⟨more, grown⟩ := Run.exchanges_append memory (movesOf steps) [made]
            rw [movesOf_move] at fresh
            exact fresh.of_append grown
      exact (ih timely.init earlier).step timely earlier

/-! ### Results -/

/-- The results of two runs are the same. Only the end of all sessions
says how many rows there were. -/
structure SameResults (memory : Memory)
    (first second : List (Step (authService settings))) : Prop where
  agree : ∀ (n : Nat) (request : AuthRequest) (result result' : request.Result),
    (∀ userId, request ≠ .logoutAll userId) →
      (Run.swept memory first).tasks[n]? = some ⟨request, .done result⟩ →
        (Run.swept memory second).tasks[n]? = some ⟨request, .done result'⟩ → result = result'
  /-- What a request has returned in one run it returns in the other, at the latest with its next
  turn at a time at which the first may go on as well. -/
  next : ∀ (n : Nat) (request : AuthRequest) (result : request.Result) moment,
    (∀ userId, request ≠ .logoutAll userId) →
      (Run.swept memory first).tasks[n]? = some ⟨request, .done result⟩ →
        Timely (first ++ [.move (.turn n moment)]) →
          (Run.swept memory (second ++ [.move (.turn n moment)])).tasks[n]? =
            some ⟨request, .done result⟩
  abandoned : ∀ (n : Nat) (request : AuthRequest) reason stop,
    (Run.swept memory first).tasks[n]? = some ⟨request, .ask (.abort reason) stop⟩ →
      (Run.swept memory second).tasks[n]? = some ⟨request, .ask (.abort reason) stop⟩

/-- A request that has returned in one run has returned the same in another with other sweeps, or it
still has to look at the clock for a row that has expired. -/
theorem StandsAlike.returned {gone' : RefreshToken → Prop}
    {task task' : Option (Task (authService settings))} {request : AuthRequest}
    {result : request.Result} (counts : ∀ userId, request ≠ .logoutAll userId)
    (matched : StandsAlike gone task (some ⟨request, .done result⟩))
    (matched' : StandsAlike gone' task task') :
    task' = some ⟨request, .done result⟩ ∨
      ∃ token row look, gone row ∧ Refuses row look ∧
        task' = some ⟨.refresh token, .ask .now look⟩ ∧
        (⟨request, .done result⟩ : Task (authService settings)) =
          ⟨.refresh token, .done (.error .invalidToken)⟩ := by
  cases matched with
  | same =>
      cases matched' with
      | same => exact .inl rfl
      | counted userId => exact absurd rfl (counts userId)
  | counted userId => exact absurd rfl (counts userId)
  | late dead refuses =>
      cases matched' with
      | same => exact .inr ⟨_, _, _, dead, refuses, rfl, rfl⟩
      | late => exact .inl rfl

theorem StandsAlike.abandoned {gone' : RefreshToken → Prop}
    {task task' : Option (Task (authService settings))} {request : AuthRequest} {reason : String}
    {stop : (Op.abort reason).Answer → Program request.Result}
    (matched : StandsAlike gone task (some ⟨request, .ask (.abort reason) stop⟩))
    (matched' : StandsAlike gone' task task') :
    task' = some ⟨request, .ask (.abort reason) stop⟩ := by
  cases matched with
  | same =>
      cases matched' with
      | same => rfl

/-- Whether and when expired refresh tokens are dropped makes no
difference to what requests return. -/
theorem sweeps_unnoticed {first second : List (Step (authService settings))}
    (moves : movesOf first = movesOf second) (timely : Timely first) (timely' : Timely second)
    (fresh : (Run.swept memory first).Fresh memory) :
    SameResults memory first second := by
  have simulates := swept_simulates timely fresh
  -- Both runs generate what the run of their moves generates.
  have plain : (Run.after memory (movesOf second)).Fresh memory := by
    rw [← moves, Run.Fresh, ← simulates.generated]
    exact fresh
  have matched := simulates.tasks
  have matched' := (simulates_of_fresh timely' plain).tasks
  rw [← moves] at matched'
  constructor
  · intro n request result result' counts returned returned'
    rcases StandsAlike.returned counts (returned ▸ matched n) (matched' n)
      with same | ⟨_, _, _, -, -, waiting, -⟩
    · rw [returned'] at same
      cases same
      rfl
    · rw [returned'] at waiting
      cases waiting
  · intro n request result moment counts returned later
    rw [Run.swept_concat]
    change ((Run.swept memory second).turn n moment).tasks[n]? = _
    rcases StandsAlike.returned counts (returned ▸ matched n) (matched' n) with
      same | ⟨token, row, look, dead, refuses, waiting, refused⟩
    · rw [Run.turn_settled same trivial]
      exact same
    · have within := (List.getElem?_eq_some_iff.mp waiting).1
      rw [Run.turn_value waiting rfl, refuses moment.stamp.now (later.late dead), Run.advance,
        List.getElem?_set_self within, refused]
      rfl
  · intro n request reason stop gone
    exact StandsAlike.abandoned (gone ▸ matched n) (matched' n)

end

def Run.refused {settings : Auth.Settings} (run : Run (authService settings)) (n : Nat) : Bool :=
  match run.tasks[n]? with
  | some ⟨.refresh _, .done (.error .invalidToken)⟩ => true
  | _ => false

/-- A session that has expired at its beginning, whose token is presented
after a sweep or without one. -/
def staleSession (sweeps : List (Step (authService ⟨0, ""⟩))) :
    List (Step (authService ⟨0, ""⟩)) :=
  [.move (.arrival (.register ⟨"ada@example.org", "secret", none, none⟩)),
    .move (.turn 0 (.plain 1 1)), .move (.turn 0 (.plain 2 2)), .move (.turn 0 (.plain 3 3)),
    .move (.arrival (.login "ada@example.org" "secret")),
    .move (.turn 1 (.plain 4 4)), .move (.turn 1 (.plain 5 5)), .move (.turn 1 (.plain 6 6)),
    .move (.turn 1 (.plain 7 7)), .move (.turn 1 (.plain 8 8)), .move (.turn 1 (.plain 9 9))] ++
  sweeps ++
  [.move (.arrival (.refresh "rrrrrrr")), .move (.turn 2 (.plain 10 10)),
    .move (.turn 2 (.plain 11 11))]

theorem sweeps_unnoticed_stale :
    (Run.swept .empty (staleSession [.sweep ⟨⟨9, 0⟩, .ofNat 0⟩])).refused 2 = true ∧
      (Run.swept .empty (staleSession [.sweep ⟨⟨9, 0⟩, .ofNat 0⟩])).exchanges.length =
        10 ∧
      (Run.swept .empty (staleSession [])).refused 2 = true ∧
      (Run.swept .empty (staleSession [])).exchanges.length = 11 ∧
      SameResults .empty (staleSession [.sweep ⟨⟨9, 0⟩, .ofNat 0⟩]) (staleSession []) :=
  ⟨by decide +kernel, by decide +kernel, by decide +kernel, by decide +kernel,
    sweeps_unnoticed rfl (by decide) (by decide) (by decide +kernel)⟩

end StatusPage
