import StatusPage.Proofs.AccountPrograms
import StatusPage.Proofs.RefreshTokens

/-!
The end of all sessions of a user. The store loses every refresh token of the user in one turn, and
none of them comes back. A session outlives this only while one of its refreshes is in flight: its
old token has been taken, its new one is not stored yet, and no row of the store stands for it.
-/

set_option autoImplicit false

namespace StatusPage

open Store (Memory Stamp)
open Time (Instant)

/-! ### How requests have ended -/

/-- The success of a request that begins, continues or ends sessions. -/
inductive Outcome where
  | loggedIn (user : User) (pair : TokenPair)
  | refreshed (token : String) (pair : TokenPair)
  | loggedOut (userId : Uuid)
  deriving DecidableEq, Repr

section Outcomes

variable {settings : Auth.Settings}

def Run.outcome (run : Run (authService settings)) (n : Nat) : Option Outcome :=
  match run.tasks[n]? with
  | some ⟨.login _ _, .done (.ok (user, pair))⟩ => some (.loggedIn user pair)
  | some ⟨.refresh token, .done (.ok pair)⟩ => some (.refreshed token pair)
  | some ⟨.logoutAll userId, .done (.ok _)⟩ => some (.loggedOut userId)
  | _ => none

private theorem Run.outcome_eq_loggedIn {run : Run (authService settings)} {n : Nat} {user : User}
    {pair : TokenPair} (ended : run.outcome n = some (.loggedIn user pair)) :
    ∃ email password,
      run.tasks[n]? = some ⟨.login email password, .done (.ok (user, pair))⟩ := by
  unfold outcome at ended
  split at ended
  · rename_i found
    cases ended
    exact ⟨_, _, found⟩
  all_goals cases ended

private theorem Run.outcome_eq_refreshed {run : Run (authService settings)} {n : Nat}
    {token : String} {pair : TokenPair} (ended : run.outcome n = some (.refreshed token pair)) :
    run.Refreshed n token (.ok pair) := by
  unfold outcome at ended
  split at ended
  · cases ended
  · rename_i found
    cases ended
    exact found
  all_goals cases ended

private theorem Run.outcome_eq_loggedOut {run : Run (authService settings)} {n : Nat}
    {userId : Uuid} (ended : run.outcome n = some (.loggedOut userId)) :
    ∃ count, run.tasks[n]? = some ⟨.logoutAll userId, .done (.ok count)⟩ := by
  unfold outcome at ended
  split at ended
  · cases ended
  · cases ended
  · rename_i found
    cases ended
    exact ⟨_, found⟩
  · cases ended

end Outcomes

/-! ### What a login and a refresh store -/

theorem TokensTranscript.storing {user : User} {exchanges : List Exchange} {pair : TokenPair}
    (transcript : TokensTranscript user exchanges (.ok pair)) :
    ∃ stamp expiresAt row,
      ⟨stamp, .store (.createRefreshToken ⟨user.id, refreshDigest pair.refreshToken,
        expiresAt⟩), .ok row⟩ ∈
        exchanges := by
  cases transcript with
  | issued s₁ s₂ s₃ s₄ access token now expiresAt row =>
    exact ⟨s₄, expiresAt, row, by simp⟩

private theorem login_tokens {settings : Auth.Settings} {email password : String}
    {exchanges : List Exchange} {user : User} {pair : TokenPair}
    (path : Program.Path (Auth.login settings email password) exchanges
      (.done (.ok (user, pair)))) :
    ∃ earlier tokens, exchanges = earlier ++ tokens ∧
      TokensTranscript user tokens (.ok pair) := by
  have transcript := loginTranscript path
  generalize outcome : Except.ok (user, pair) = result at transcript
  cases transcript with
  | right s₁ s₂ known exchanges result tokens =>
      cases result with
      | error e => cases outcome
      | ok made =>
          cases outcome
          exact ⟨[_, _], exchanges, rfl, tokens⟩
  | _ => cases outcome

def IssuedTo (memory : Memory) (exchanges : List Exchange) (userId : Uuid)
    (token : String) : Prop :=
  ∃ row ∈ issuedTokens memory exchanges, row.userId = userId ∧
    row.digest = refreshDigest token

section Runs

variable {settings : Auth.Settings} {memory : Memory} {moves : List (Move (authService settings))}

private theorem issuedTo_of_stored {entries : List (Entry (authService settings))}
    {entry : Entry (authService settings)} (member : entry ∈ entries) {row : RefreshToken}
    (stored : entry.exchange.stored = some row) {token : String}
    (same : row.digest = refreshDigest token) :
    IssuedTo memory (entries.map Entry.exchange) row.userId token := by
  refine ⟨row, List.mem_append_right _ (List.mem_filterMap.mpr ⟨entry.exchange, ?_, stored⟩),
    rfl, same⟩
  exact List.mem_map_of_mem member

private theorem issuedTo_of_login {n : Nat} {user : User} {pair : TokenPair}
    (ended : (Run.after memory moves).outcome n = some (.loggedIn user pair)) :
    ∃ storing ∈ (Run.after memory moves).log, ∃ row, storing.exchange.stored = some row ∧
      row.userId = user.id ∧ row.digest = refreshDigest pair.refreshToken := by
  obtain ⟨email, password, found⟩ := Run.outcome_eq_loggedIn ended
  obtain ⟨earlier, tokens, view, transcript⟩ :=
    login_tokens (Run.view_path memory moves n _ found)
  obtain ⟨stamp, expiresAt, row, member⟩ := transcript.storing
  have member : _ ∈ (Run.after memory moves).view n :=
    view ▸ List.mem_append_right earlier member
  obtain ⟨_, honest⟩ := view_honest member
  obtain ⟨storing, logged, -, same⟩ := Run.mem_view.mp member
  exact ⟨storing, logged, row, by rw [same]; rfl, Exchange.created_row honest⟩

/-- A refresh takes one token out of the store and puts another one in, for the same user. -/
theorem Run.Refreshed.renewed {n : Nat} {token : String} {pair : TokenPair}
    (granted : (Run.after memory moves).Refreshed n token (.ok pair)) :
    ∃ taking ∈ (Run.after memory moves).log, ∃ storing ∈ (Run.after memory moves).log,
      ∃ old ∈ issuedTokens memory (Run.after memory moves).exchanges, ∃ new,
        taking.task = n ∧
        taking.exchange.op = .store (.takeRefreshToken (refreshDigest token)) ∧
        old.digest = refreshDigest token ∧
        storing.task = n ∧ storing.exchange.stored = some new ∧ new.userId = old.userId ∧
        new.digest = refreshDigest pair.refreshToken := by
  have transcript := granted.transcript
  generalize view : (Run.after memory moves).view n = exchanges at transcript
  cases transcript with
  | owned s₁ s₂ s₃ old now valid user exchanges _ tokens =>
      have took : ⟨s₁, .store (.takeRefreshToken (refreshDigest token)), .ok old⟩ ∈
          (Run.after memory moves).view n := view ▸ List.mem_cons_self
      have loaded : ⟨s₃, .store (.findUserById old.userId), .ok user⟩ ∈
          (Run.after memory moves).view n := by
        rw [view]
        simp
      obtain ⟨s₄, expiresAt, new, member⟩ := tokens.storing
      have stored :=
        List.mem_cons_of_mem ⟨s₁, .store (.takeRefreshToken (refreshDigest token)), .ok old⟩
        (List.mem_cons_of_mem ⟨s₂, .now, now⟩
          (List.mem_cons_of_mem ⟨s₃, .store (.findUserById old.userId), .ok user⟩ member))
      rw [← view] at stored
      obtain ⟨_, foundHonest⟩ := view_honest loaded
      obtain ⟨_, storedHonest⟩ := view_honest stored
      obtain ⟨owner, digest⟩ := Exchange.created_row storedHonest
      obtain ⟨taking, logged, mine, took⟩ := Run.mem_view.mp took
      obtain ⟨storing, logged', mine', same⟩ := Run.mem_view.mp stored
      obtain ⟨before, after, split⟩ := List.append_of_mem logged
      obtain ⟨exchanges, honest⟩ := log_honest split
      have taken := honest _ _ _ rfl
      rw [took] at taken
      obtain ⟨present, digest'⟩ := Exchange.taken_present taken
      refine ⟨taking, logged, storing, logged', old, ?_, new, mine, by rw [took], digest', mine',
        by rw [same]; rfl, owner.trans ((Exchange.found_present foundHonest).2), digest⟩
      rw [exchanges]
      exact issuedTokens_append _ (mem_issuedTokens_of_present honest.split.1 present)

end Runs

/-! ### Sessions -/

section Sessions

variable {settings : Auth.Settings}

/-- The refresh tokens that the refreshes of a later run have made, one from the other, out of a
login of a user that had ended in an earlier run; with the refreshes, the last one first. -/
inductive Session (earlier later : Run (authService settings)) (userId : Uuid) :
    List Nat → String → Prop
  | login {n : Nat} {user : User} {pair : TokenPair}
      (ended : earlier.outcome n = some (.loggedIn user pair)) (mine : user.id = userId) :
      Session earlier later userId [] pair.refreshToken
  | refresh {chain : List Nat} {token : String} {n : Nat} {pair : TokenPair}
      (session : Session earlier later userId chain token)
      (ended : later.outcome n = some (.refreshed token pair)) :
      Session earlier later userId (n :: chain) pair.refreshToken

def Op.takesToken : Op → Bool
  | .store (.takeRefreshToken _) => true
  | _ => false

/-- A request has taken a token before another request has its first turn, and puts a new one into
the store after that. -/
def Run.InFlight (run : Run (authService settings)) (n other : Nat) : Prop :=
  (∃ entry ∈ run.log.takeWhile fun entry => entry.task != other,
      entry.task = n ∧ entry.exchange.op.takesToken) ∧
    ∃ entry ∈ run.log.dropWhile fun entry => entry.task != other,
      entry.task = n ∧ entry.exchange.stored.isSome

instance (run : Run (authService settings)) (n other : Nat) : Decidable (run.InFlight n other) :=
  inferInstanceAs (Decidable (_ ∧ _))

private theorem Run.divided {run : Run (authService settings)} {k : Nat}
    {before after : List (Entry (authService settings))} {first : Entry (authService settings)}
    (split : run.log = before ++ first :: after) (mine : first.task = k)
    (others : ∀ entry ∈ before, entry.task ≠ k) :
    (run.log.takeWhile fun entry => entry.task != k) = before ∧
      (run.log.dropWhile fun entry => entry.task != k) = first :: after := by
  have passed : ∀ entry ∈ before, (entry.task != k) = true :=
    fun entry member => bne_iff_ne.mpr (others entry member)
  rw [split, List.takeWhile_append_of_pos passed, List.dropWhile_append_of_pos passed]
  simp [mine]

variable {memory : Memory} {moves : List (Move (authService settings))}

theorem Run.deletion {k : Nat} {userId : Uuid}
    (ended : (Run.after memory moves).outcome k = some (.loggedOut userId)) :
    ∃ before deletion after, (Run.after memory moves).log = before ++ deletion :: after ∧
      deletion.task = k ∧
      deletion.exchange.op = .store (.deleteUserRefreshTokens userId) ∧
      ∀ entry ∈ before, entry.task ≠ k := by
  obtain ⟨count, found⟩ := Run.outcome_eq_loggedOut ended
  obtain ⟨stamp, answer, later, view, -⟩ := (Run.view_path memory moves k _ found).ended
  obtain ⟨before, after, request, split, nothing⟩ :=
    Run.view_split (view.trans (List.nil_append _).symm)
  refine ⟨before, _, after, split, rfl, rfl, fun entry member same => ?_⟩
  rw [List.map_eq_nil_iff, List.filter_eq_nil_iff] at nothing
  exact nothing entry member (beq_iff_eq.mpr same)

section Deletion

variable {before after : List (Entry (authService settings))}
  {deletion : Entry (authService settings)} {userId : Uuid}

private theorem not_granted_after
    (distinct : (offeredDigests memory (Run.after memory moves).exchanges).Nodup)
    (split : (Run.after memory moves).log = before ++ deletion :: after)
    (deletes : deletion.exchange.op = .store (.deleteUserRefreshTokens userId)) {token : String}
    (issued : IssuedTo memory (before.map Entry.exchange) userId token)
    {use : Entry (authService settings)} (member : use ∈ after)
    (takes : use.exchange.op = .store (.takeRefreshToken (refreshDigest token)))
    (pair : TokenPair) : ¬(Run.after memory moves).Refreshed use.task token (.ok pair) := by
  obtain ⟨row, issued, rfl, same⟩ := issued
  obtain ⟨between, rest, rfl⟩ := List.append_of_mem member
  exact not_granted_of_ended distinct split takes issued same (.inr (.inr deletes)) pair

/-- When no refresh of a session is in flight at the deletion, the
session gets no tokens after it. -/
theorem Session.issued {earlier : Run (authService settings)}
    (distinct : (offeredDigests memory (Run.after memory moves).exchanges).Nodup)
    (split : (Run.after memory moves).log = before ++ deletion :: after)
    (deletes : deletion.exchange.op = .store (.deleteUserRefreshTokens userId))
    (others : ∀ entry ∈ before, entry.task ≠ deletion.task) {chain : List Nat}
    {token : String} (session : Session earlier (Run.after memory moves) userId chain token)
    (began : ∀ n user pair, earlier.outcome n = some (.loggedIn user pair) →
      IssuedTo memory (before.map Entry.exchange) user.id pair.refreshToken)
    (settled : ∀ n ∈ chain, ¬(Run.after memory moves).InFlight n deletion.task) :
    IssuedTo memory (before.map Entry.exchange) userId token := by
  induction session with
  | login ended mine => exact mine ▸ began _ _ _ ended
  | @refresh chain token n pair session ended ih =>
      obtain ⟨row, issued, owner, digest⟩ :=
        ih fun m member => settled m (List.mem_cons_of_mem n member)
      have granted := Run.outcome_eq_refreshed ended
      obtain ⟨taking, logged, storing, logged', old, known, new, rfl, takes, digest', mine,
        stored, owner', digest''⟩ :=
        granted.renewed
      obtain ⟨exchanges, honest⟩ := log_honest split
      rw [exchanges] at known
      have same : old = row :=
        issuedTokens_unique honest (exchanges ▸ distinct) known (issuedTokens_append _ issued)
        (digest'.trans digest.symm)
      rw [same, owner] at owner'
      have took : taking ∈ before := by
        rw [split, List.mem_append, List.mem_cons] at logged
        rcases logged with first | rfl | last
        · exact first
        · rw [deletes] at takes
          cases takes
        · exact absurd granted
            (not_granted_after distinct split deletes ⟨row, issued, owner, digest⟩
              last takes pair)
      have put : storing ∈ before := by
        rw [split, List.mem_append] at logged'
        rcases logged' with first | last
        · exact first
        · obtain ⟨former, latter⟩ := Run.divided split rfl others
          refine absurd ?_ (settled taking.task List.mem_cons_self)
          rw [Run.InFlight, former, latter]
          exact ⟨⟨taking, took, rfl, by rw [takes]; rfl⟩, storing, last, mine,
            by rw [stored]; rfl⟩
      exact owner' ▸ issuedTo_of_stored put stored digest''

end Deletion

end Sessions

/-- In every run of any requests over any store, in which all refresh tokens are different: once all
sessions of a user have been ended, no token of a session that had begun before is exchanged by a
later request, unless a refresh of this session was in flight. -/
theorem logoutAll_ends_sessions {settings : Auth.Settings} (memory : Memory)
    (earlier during later : List (Move (authService settings)))
    (distinct : (memory.refreshTokens.map RefreshToken.digest ++
      ((Run.after memory (earlier ++ during ++ later)).exchanges.filterMap Exchange.generated).map
        refreshDigest).Nodup)
    {userId : Uuid} {k : Nat} (called : (Run.after memory earlier).tasks.length ≤ k)
    (ended : (Run.after memory (earlier ++ during)).outcome k = some (.loggedOut userId))
    {chain : List Nat} {token : String}
    (session : Session (Run.after memory earlier) (Run.after memory (earlier ++ during ++ later))
      userId chain token)
    (settled : ∀ n ∈ chain, ¬(Run.after memory (earlier ++ during ++ later)).InFlight n k)
    {n : Nat} (started : (Run.after memory (earlier ++ during)).tasks.length ≤ n)
    (pair : TokenPair) :
    (Run.after memory (earlier ++ during ++ later)).outcome n ≠ some (.refreshed token pair) := by
  intro refreshed
  have digests := offeredDigests_nodup distinct
  obtain ⟨before, deletion, after, split, rfl, deletes, others⟩ := Run.deletion ended
  have first : ∀ entry ∈ (Run.after memory earlier).log, entry ∈ before := by
    obtain ⟨more, grown⟩ := Run.log_append memory earlier during
    rcases List.append_eq_append_iff.mp (grown.symm.trans split)
      with ⟨others, same, -⟩ | ⟨others, same, rest⟩
    · exact fun entry member => same ▸ List.mem_append_left others member
    · cases others with
      | nil =>
          rw [same, List.append_nil]
          exact fun entry member => member
      | cons _ others =>
          obtain ⟨rfl, -⟩ := List.cons.inj rest
          have old : deletion ∈ (Run.after memory earlier).log :=
            same ▸ List.mem_append_right _ List.mem_cons_self
          exact absurd (Run.task_lt old) (Nat.not_lt.mpr called)
  obtain ⟨more, grown⟩ := Run.log_append memory (earlier ++ during) later
  have whole : (Run.after memory (earlier ++ during ++ later)).log =
      before ++ deletion :: (after ++ more) := by
    rw [grown, split, List.append_assoc, List.cons_append]
  have issued : IssuedTo memory (before.map Entry.exchange) userId token := by
    refine session.issued digests whole deletes others (fun n user pair loggedIn => ?_) settled
    obtain ⟨storing, logged, row, stored, owner, digest⟩ := issuedTo_of_login loggedIn
    exact owner ▸ issuedTo_of_stored (first storing logged) stored digest
  have granted := Run.outcome_eq_refreshed refreshed
  obtain ⟨before', use, after', -, -, -, split', rfl, takes, -⟩ := granted.taken
  refine not_granted_after digests whole deletes issued ?_ takes pair granted
  have logged : use ∈ (Run.after memory (earlier ++ during)).log ++ more :=
    grown ▸ split' ▸ List.mem_append_right before' List.mem_cons_self
  rcases List.mem_append.mp logged with old | new
  · exact absurd (Run.task_lt old) (Nat.not_lt.mpr started)
  · exact List.mem_append_right after new

/-! ### A refresh in time and one too late -/

def ada : User :=
  { id := .ofNat 3, email := "ada@example.org", passwordHash := "secret", firstName := none,
    lastName := none, role := "user", createdAt := ⟨3, 0⟩, updatedAt := ⟨3, 0⟩ }

def loggingIn : List (Move (authService ⟨7, ""⟩)) :=
  [.arrival (.register ⟨"ada@example.org", "secret", none, none⟩),
    .turn 0 (.plain 1 1), .turn 0 (.plain 2 2), .turn 0 (.plain 3 3),
    .arrival (.login "ada@example.org" "secret"),
    .turn 1 (.plain 4 4), .turn 1 (.plain 5 5), .turn 1 (.plain 6 6), .turn 1 (.plain 7 7),
    .turn 1 (.plain 8 8), .turn 1 (.plain 9 9)]

/-- All sessions are ended after a refresh has stored its new token, which nobody can use then. -/
def refreshingInTime : List (Move (authService ⟨7, ""⟩)) :=
  [.arrival (.refresh "rrrrrrr"), .turn 2 (.plain 10 10), .arrival (.logoutAll (.ofNat 3)),
    .turn 2 (.plain 11 11), .turn 2 (.plain 12 12), .turn 2 (.plain 13 13), .turn 2 (.plain 14 14),
    .turn 2 (.plain 15 15), .turn 2 (.plain 16 16), .turn 3 (.plain 17 17)]

def refreshingAgain : List (Move (authService ⟨7, ""⟩)) :=
  [.arrival (.refresh "rrrrrrrrrrrrrr"), .turn 4 (.plain 18 18)]

theorem refreshingInTime_ends :
    (Run.after .empty (loggingIn ++ refreshingInTime)).outcome 3 = some (.loggedOut (.ofNat 3)) ∧
      Session (Run.after .empty loggingIn)
        (Run.after .empty (loggingIn ++ refreshingInTime ++ refreshingAgain))
        (.ofNat 3) [2] "rrrrrrrrrrrrrr" ∧
      ∀ pair, (Run.after .empty (loggingIn ++ refreshingInTime ++ refreshingAgain)).outcome 4 ≠
        some (.refreshed "rrrrrrrrrrrrrr" pair) := by
  have login :
      (Run.after .empty loggingIn).outcome 1 =
        some (.loggedIn ada ⟨"user", "rrrrrrr", 900⟩) := by
    decide +kernel
  have refreshed : (Run.after .empty (loggingIn ++ refreshingInTime ++ refreshingAgain)).outcome 2 =
      some (.refreshed "rrrrrrr" ⟨"user", "rrrrrrrrrrrrrr", 900⟩) := by
    decide +kernel
  have ended : (Run.after .empty (loggingIn ++ refreshingInTime)).outcome 3 =
      some (.loggedOut (.ofNat 3)) := by
    decide +kernel
  have session := Session.refresh (Session.login login rfl) refreshed
  exact ⟨ended, session,
    logoutAll_ends_sessions .empty loggingIn refreshingInTime refreshingAgain (by decide +kernel)
      (by decide +kernel)
      ended session (by decide +kernel) (by decide +kernel)⟩

def refreshingTooLate : List (Move (authService ⟨7, ""⟩)) :=
  [.arrival (.refresh "rrrrrrr"), .turn 2 (.plain 10 10), .arrival (.logoutAll (.ofNat 3)),
    .turn 3 (.plain 11 11)]

/-- The refresh goes on, and its token is exchanged by another request. -/
def refreshingOn : List (Move (authService ⟨7, ""⟩)) :=
  [.turn 2 (.plain 12 12), .turn 2 (.plain 13 13), .turn 2 (.plain 14 14), .turn 2 (.plain 15 15),
    .turn 2 (.plain 16 16), .turn 2 (.plain 17 17),
    .arrival (.refresh "rrrrrrrrrrrrrrr"),
    .turn 4 (.plain 18 18), .turn 4 (.plain 19 19), .turn 4 (.plain 20 20), .turn 4 (.plain 21 21),
    .turn 4 (.plain 22 22), .turn 4 (.plain 23 23), .turn 4 (.plain 24 24)]

theorem refreshingTooLate_survives :
    (((Run.after .empty (loggingIn ++ refreshingTooLate ++ refreshingOn)).exchanges.filterMap
        Exchange.generated).map refreshDigest).Nodup ∧
      (Run.after .empty loggingIn).tasks.length ≤ 3 ∧
      (Run.after .empty (loggingIn ++ refreshingTooLate)).outcome 3 =
        some (.loggedOut (.ofNat 3)) ∧
      Session (Run.after .empty loggingIn)
        (Run.after .empty (loggingIn ++ refreshingTooLate ++ refreshingOn))
        (.ofNat 3) [2] "rrrrrrrrrrrrrrr" ∧
      (Run.after .empty (loggingIn ++ refreshingTooLate)).tasks.length ≤ 4 ∧
      (Run.after .empty (loggingIn ++ refreshingTooLate ++ refreshingOn)).outcome 4 =
        some (.refreshed "rrrrrrrrrrrrrrr" ⟨"user", "rrrrrrrrrrrrrrrrrrrrrr", 900⟩) := by
  have login :
      (Run.after .empty loggingIn).outcome 1 =
        some (.loggedIn ada ⟨"user", "rrrrrrr", 900⟩) := by
    decide +kernel
  have refreshed : (Run.after .empty (loggingIn ++ refreshingTooLate ++ refreshingOn)).outcome 2 =
      some (.refreshed "rrrrrrr" ⟨"user", "rrrrrrrrrrrrrrr", 900⟩) := by
    decide +kernel
  exact ⟨by decide +kernel, by decide +kernel, by decide +kernel,
    .refresh (.login login rfl) refreshed, by decide +kernel, by decide +kernel⟩

end StatusPage
