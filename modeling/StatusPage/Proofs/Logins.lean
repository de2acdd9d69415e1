import StatusPage.Proofs.AccountPrograms
import StatusPage.Proofs.RefreshTokens

/-!
Accounts and the logins that they permit. The store keeps every account from its registration on and
no two with the same address, so a login finds the one that was registered before, if there is one,
and is granted exactly to its password.
-/

set_option autoImplicit false

namespace StatusPage

open Store (Memory Stamp)

namespace Exchange

def createdUser : Exchange → Option User
  | ⟨_, .store (.createUser _), .ok user⟩ => some user
  | _ => none

def hashed : Exchange → Option (String × String)
  | ⟨_, .hashPassword password, .ok hash⟩ => some (password, hash)
  | _ => none

def unhashed : Exchange → Bool
  | ⟨_, .hashPassword _, .error _⟩ => true
  | _ => false

def verified : Exchange → Option (String × String × Except String Bool)
  | ⟨_, .verifyPassword password hash, answer⟩ => some (password, hash, answer)
  | _ => none

variable {exchange : Exchange} {memory : Memory}

private theorem created_user {stamp : Stamp} {new : NewUser} {user : User}
    (honest : (⟨stamp, .store (.createUser new), .ok user⟩ : Exchange).Honest memory) :
    user.email = new.email ∧ user.passwordHash = new.passwordHash := by
  simp only [Honest, Memory.perform, Memory.createUser] at honest
  split at honest
  · cases honest
  · cases honest
    exact ⟨rfl, rfl⟩

private theorem create_error {stamp : Stamp} {new : NewUser} {e : StoreError}
    (honest : (⟨stamp, .store (.createUser new), .error e⟩ : Exchange).Honest memory) :
    e = .alreadyExists ∧ ∃ user ∈ memory.users, user.email = new.email := by
  simp only [Honest, Memory.perform, Memory.createUser] at honest
  split at honest
  · rename_i taken
    cases honest
    obtain ⟨user, present, same⟩ := List.any_eq_true.mp taken
    exact ⟨rfl, user, present, beq_iff_eq.mp same⟩
  · cases honest

theorem email_found {stamp : Stamp} {email : String} {user : User}
    (honest : (⟨stamp, .store (.findUserByEmail email), .ok user⟩ : Exchange).Honest memory) :
    user ∈ memory.users ∧ user.email = email := by
  have found := (memory.reading_eq_ok).mp honest.symm
  exact ⟨List.mem_of_find?_eq_some found, by simpa using List.find?_some found⟩

private theorem email_unknown {stamp : Stamp} {email : String} {e : StoreError}
    (honest : (⟨stamp, .store (.findUserByEmail email), .error e⟩ : Exchange).Honest memory) :
    e = .notFound ∧ ∀ user ∈ memory.users, user.email ≠ email := by
  simp only [Honest, Memory.perform, Memory.reading] at honest
  split at honest
  · cases honest
  · rename_i absent
    cases honest
    refine ⟨rfl, fun user present same => ?_⟩
    simpa [same] using List.find?_eq_none.mp absent user present

theorem users_effect (honest : exchange.Honest memory) :
    (exchange.effect memory).users = exchange.createdUser.toList ++ memory.users := by
  obtain ⟨stamp, op, answer⟩ := exchange
  cases op with
  | store call =>
      have frame := memory.perform_unchanged stamp call
      cases call with
      | createUser new =>
          simp only [Honest] at honest
          subst honest
          simp only [effect, Memory.perform, Memory.createUser]
          split <;> rfl
      | _ => exact frame.users (by simp [Store.Call.writes])
  | _ => rfl

end Exchange

section Accounts

variable {memory : Memory} {exchanges : List Exchange}

/-- The users of a store are those that were there and those that have been
created since; none is ever lost. -/
theorem users_replay (honest : HonestFrom memory exchanges) :
    (replay memory exchanges).users = (exchanges.filterMap Exchange.createdUser).reverse ++
      memory.users := by
  induction exchanges using List.reverseRecOn with
  | nil => rfl
  | append_singleton exchanges last ih =>
      obtain ⟨earlier, fits⟩ := honest.init
      rw [replay_append, List.filterMap_append, List.reverse_append,
        List.append_assoc, ← ih earlier]
      change (last.effect (replay memory exchanges)).users = _
      rw [Exchange.users_effect fits]
      cases created : last.createdUser with
      | none => simp [created]
      | some user => simp [created]

private theorem mem_users_of_empty (honest : HonestFrom .empty exchanges) {user : User} :
    user ∈ (replay .empty exchanges).users ↔
    user ∈ exchanges.filterMap Exchange.createdUser := by
  rw [users_replay honest, List.mem_append, List.mem_reverse]
  simp [Memory.empty]

private theorem emails_distinct (exchanges : List Exchange) :
    ((replay .empty exchanges).users.map User.email).Nodup := by
  apply replay_keeps fun memory => (memory.users.map User.email).Nodup
  · simp [Memory.empty]
  · intro exchange _ memory distinct
    obtain ⟨stamp, op, answer⟩ := exchange
    cases op with
    | store call =>
        have frame := memory.perform_unchanged stamp call
        cases call with
        | createUser new =>
            simp only [Exchange.effect, Memory.perform, Memory.createUser]
            split
            · exact distinct
            · rename_i free
              rw [List.map_cons, List.nodup_cons]
              refine ⟨fun member => ?_, distinct⟩
              obtain ⟨user, present, same⟩ := List.mem_map.mp member
              exact free (List.any_eq_true.mpr ⟨user, present, beq_iff_eq.mpr same⟩)
        | _ =>
          have same := frame.users (by simp [Store.Call.writes])
          change (((memory.perform stamp _).2.users).map User.email).Nodup
          rw [same]
          exact distinct
    | _ => exact distinct

end Accounts

/-! ### Runs of the service -/

section Runs

variable {settings : Auth.Settings}

def Registered (entries : List (Entry (authService settings))) (request : Registration)
    (user : User) : Prop :=
  ∃ n stamp new,
    ⟨n, .register request, ⟨stamp, .store (.createUser new), .ok user⟩⟩ ∈ entries

/-- An account has been stored for the address, with this password. -/
def Matches (entries : List (Entry (authService settings))) (email password : String)
    (user : User) : Prop :=
  ∃ request, Registered entries request user ∧
    Auth.normalizeEmail request.email = Auth.normalizeEmail email ∧ request.password = password

/-- Whenever a password is compared with a hash that was made in the run, the answer is whether it
is the one of which the hash was made. -/
def Run.PasswordsVerified (run : Run (authService settings)) : Prop :=
  ∀ made ∈ run.exchanges.filterMap Exchange.hashed,
    ∀ compared ∈ run.exchanges.filterMap Exchange.verified,
    compared.2.1 = made.2 → compared.2.2 = .ok (compared.1 == made.1)

instance (run : Run (authService settings)) : Decidable run.PasswordsVerified :=
  inferInstanceAs (Decidable (∀ _ ∈ _, ∀ _ ∈ _, _ → _))

variable {moves : List (Move (authService settings))}
  {before after : List (Entry (authService settings))}
  {request : Registration} {user : User}

/-- What is known of an account: its address is the one that was given, and its
hash was made of the password. -/
theorem Registered.spec (registered : Registered before request user)
    (split : (Run.after .empty moves).log = before ++ after) :
    user ∈ (replay .empty (before.map Entry.exchange)).users ∧
      user.email = Auth.normalizeEmail request.email ∧
      (request.password, user.passwordHash) ∈
        (Run.after .empty moves).exchanges.filterMap Exchange.hashed := by
  obtain ⟨n, stamp, new, member⟩ := registered
  have logged : ⟨n, .register request, ⟨stamp, .store (.createUser new), .ok user⟩⟩ ∈
      (Run.after .empty moves).log :=
    split ▸ List.mem_append_left _ member
  obtain ⟨rest, owner⟩ := Run.log_owner .empty moves _ logged
  have path := Run.view_path .empty moves n _ owner
  obtain ⟨s, hash, rfl, hashing⟩ :=
    register_created path (Run.mem_view.mpr ⟨_, logged, rfl, rfl⟩)
  obtain ⟨_, honest⟩ := view_honest (Run.mem_view.mpr ⟨_, logged, rfl, rfl⟩)
  obtain ⟨email, kept⟩ := Exchange.created_user honest
  have whole := (Run.replay_exchanges .empty moves).2
  rw [Run.exchanges, split, List.map_append] at whole
  refine ⟨?_, email, ?_⟩
  · rw [mem_users_of_empty whole.split.1]
    exact List.mem_filterMap.mpr ⟨_, List.mem_map_of_mem member, rfl⟩
  · rw [kept]
    exact List.mem_filterMap.mpr ⟨_, Run.mem_exchanges hashing, rfl⟩

private theorem registered_of_mem (split : (Run.after .empty moves).log = before ++ after)
    (present : user ∈ (replay .empty (before.map Entry.exchange)).users) :
    ∃ request, Registered before request user := by
  have whole := (Run.replay_exchanges .empty moves).2
  rw [Run.exchanges, split, List.map_append] at whole
  rw [mem_users_of_empty whole.split.1] at present
  obtain ⟨exchange, happened, created⟩ := List.mem_filterMap.mp present
  obtain ⟨entry, member, rfl⟩ := List.mem_map.mp happened
  have logged : entry ∈ (Run.after .empty moves).log := split ▸ List.mem_append_left _ member
  have only := Run.log_asked (AuthRequest.creates_by_register settings) .empty moves entry logged
  obtain ⟨n, asking, exchange⟩ := entry
  unfold Exchange.createdUser at created
  split at created
  · rename_i stamp new user' same
    cases same
    cases created
    obtain ⟨request, rfl⟩ := only rfl
    exact ⟨request, n, stamp, new, member⟩
  · cases created

theorem Registered.unique {other : User} (registered : Registered before request user)
    (split : (Run.after .empty moves).log = before ++ after)
    (present : other ∈ (replay .empty (before.map Entry.exchange)).users)
    (same : other.email = Auth.normalizeEmail request.email) : user = other := by
  obtain ⟨member, email, -⟩ := registered.spec split
  exact List.inj_on_of_nodup_map (emails_distinct _) member present (email.trans same.symm)

theorem verdict (verified : (Run.after .empty moves).PasswordsVerified)
    (registered : Registered before request user)
    (split : (Run.after .empty moves).log = before ++ after) {n : Nat} {s : Stamp}
    {password : String} {answer : Except String Bool}
    (compared : ⟨s, .verifyPassword password user.passwordHash, answer⟩ ∈
      (Run.after .empty moves).view n) :
    answer = .ok (password == request.password) := by
  obtain ⟨-, -, made⟩ := registered.spec split
  have compares : (password, user.passwordHash, answer) ∈
      (Run.after .empty moves).exchanges.filterMap Exchange.verified :=
    List.mem_filterMap.mpr ⟨_, Run.mem_exchanges compared, rfl⟩
  exact verified _ made _ compares rfl

/-! ### Registrations -/

private theorem registered_once {n m : Nat} {given given' : Registration} {user user' : User}
    (first : (Run.after .empty moves).tasks[n]? = some ⟨.register given, .done (.ok user)⟩)
    (second : (Run.after .empty moves).tasks[m]? = some ⟨.register given', .done (.ok user')⟩)
    (same : Auth.normalizeEmail given.email = Auth.normalizeEmail given'.email) : n = m := by
  have stored {k : Nat} {asked : Registration} {made : User}
      (ended : (Run.after .empty moves).tasks[k]? = some ⟨.register asked, .done (.ok made)⟩) :
      ∃ entry ∈ (Run.after .empty moves).log, entry.task = k ∧
        entry.exchange.createdUser = some made ∧
        made.email = Auth.normalizeEmail asked.email := by
    have transcript := registerTranscript (Run.view_path .empty moves k _ ended)
    generalize view : (Run.after .empty moves).view k = exchanges at transcript
    cases transcript with
    | created s₁ s₂ s₃ hash _ =>
        have member : ⟨s₃, .store (.createUser (asked.newUser hash)), .ok made⟩ ∈
            (Run.after .empty moves).view k := by
          rw [view]
          simp
        obtain ⟨_, honest⟩ := view_honest member
        obtain ⟨entry, logged, mine, happened⟩ := Run.mem_view.mp member
        exact ⟨entry, logged, mine, by rw [happened]; rfl, (Exchange.created_user honest).1⟩
  obtain ⟨entry, logged, rfl, created, email⟩ := stored first
  obtain ⟨entry', logged', rfl, created', email'⟩ := stored second
  have distinct := emails_distinct (Run.after .empty moves).exchanges
  rw [users_replay (Run.replay_exchanges .empty moves).2, List.map_append,
    List.map_reverse] at distinct
  have emails := List.nodup_reverse.mp (List.nodup_append.mp distinct).1
  rw [Run.exchanges, List.filterMap_map] at emails
  have one : entry = entry' :=
    eq_of_same_image emails logged logged' created created' (email.trans (same.trans email'.symm))
  rw [one]

private theorem register_refused
    (hashes : ∀ exchange ∈ (Run.after .empty moves).exchanges, exchange.unhashed = false)
    {n : Nat} {given : Registration} {e : AuthError}
    (refused : (Run.after .empty moves).tasks[n]? = some ⟨.register given, .done (.error e)⟩) :
    e = .emailExists ∧ ∃ request user, Registered (Run.after .empty moves).log request user ∧
      Auth.normalizeEmail request.email = Auth.normalizeEmail given.email := by
  -- An account that was there at some moment of the run was registered in it.
  have taken {exchange : Exchange} (member : exchange ∈ (Run.after .empty moves).view n)
      (finds : ∀ reached, exchange.Honest reached →
        ∃ user ∈ reached.users, user.email = Auth.normalizeEmail given.email) :
      ∃ request user, Registered (Run.after .empty moves).log request user ∧
        Auth.normalizeEmail request.email = Auth.normalizeEmail given.email := by
    obtain ⟨entry, logged, -, rfl⟩ := Run.mem_view.mp member
    obtain ⟨before, after, split⟩ := List.append_of_mem logged
    obtain ⟨user, present, email⟩ := finds _ ((log_honest split).2 _ _ _ rfl)
    obtain ⟨request, registered⟩ := registered_of_mem split present
    obtain ⟨-, same, -⟩ := registered.spec split
    obtain ⟨k, stamp, new, earlier⟩ := registered
    exact ⟨request, user, ⟨k, stamp, new, split ▸ List.mem_append_left _ earlier⟩,
      same.symm.trans email⟩
  have transcript := registerTranscript (Run.view_path .empty moves n _ refused)
  generalize view : (Run.after .empty moves).view n = exchanges at transcript taken
  have happened : ∀ exchange ∈ exchanges, ∃ reached, exchange.Honest reached :=
    fun exchange member => view_honest (view.symm ▸ member)
  generalize outcome : Except.error e = result at transcript
  cases transcript with
  | known s user =>
      refine ⟨Except.error.inj outcome, taken List.mem_cons_self fun reached honest => ?_⟩
      exact ⟨user, Exchange.email_found honest⟩
  | unlooked s e other =>
      obtain ⟨_, honest⟩ := happened _ List.mem_cons_self
      exact absurd (Exchange.email_unknown honest).1 other
  | unhashed s₁ s₂ text =>
      have member : ⟨s₂, .hashPassword given.password, .error text⟩ ∈
          (Run.after .empty moves).view n := by
        rw [view]
        simp
      cases hashes _ (Run.mem_exchanges member)
  | created => cases outcome
  | raced s₁ s₂ s₃ hash =>
      refine ⟨Except.error.inj outcome,
        taken (List.mem_cons_of_mem _ (List.mem_cons_of_mem _ List.mem_cons_self))
        fun reached honest => ?_⟩
      exact (Exchange.create_error honest).2
  | uncreated s₁ s₂ s₃ hash e other =>
      obtain ⟨_, honest⟩ :=
        happened _ (List.mem_cons_of_mem _ (List.mem_cons_of_mem _ List.mem_cons_self))
      exact absurd (Exchange.create_error honest).1 other

/-! ### Logins -/

/-- The first turn of a login, in which it looks its address up. -/
def LooksUp (n : Nat) (email password : String) (entry : Entry (authService settings)) : Prop :=
  entry.task = n ∧ entry.request = .login email password ∧
    entry.exchange.op = .store (.findUserByEmail (Auth.normalizeEmail email))

private theorem login_looked_up {n : Nat} {email password : String}
    {rest : Program (Except AuthError (User × TokenPair))}
    (found : (Run.after .empty moves).tasks[n]? = some ⟨.login email password, rest⟩)
    {lookup : Exchange} {later : List Exchange}
    (view : (Run.after .empty moves).view n = lookup :: later)
    (finds : lookup.op = .store (.findUserByEmail (Auth.normalizeEmail email))) :
    ∃ before entry after, (Run.after .empty moves).log = before ++ entry :: after ∧
      LooksUp n email password entry ∧
      (∀ earlier ∈ before, earlier.task ≠ n) ∧ entry.exchange = lookup := by
  obtain ⟨before, after, request, split, nothing⟩ :=
    Run.view_split (view.trans (List.nil_append _).symm)
  obtain ⟨rest', owner⟩ :=
    Run.log_owner .empty moves _ (split ▸ List.mem_append_right _ List.mem_cons_self)
  rw [found] at owner
  cases owner
  refine ⟨before, _, after, split, ⟨rfl, rfl, finds⟩, fun earlier member same => ?_, rfl⟩
  rw [List.map_eq_nil_iff, List.filter_eq_nil_iff] at nothing
  exact nothing earlier member (beq_iff_eq.mpr same)

private theorem matches_of_verified (verified : (Run.after .empty moves).PasswordsVerified)
    (split : (Run.after .empty moves).log = before ++ after) {n : Nat} {s : Stamp}
    {email password : String} (present : user ∈ (replay .empty (before.map Entry.exchange)).users)
    (address : user.email = Auth.normalizeEmail email)
    (confirmed : ⟨s, .verifyPassword password user.passwordHash, .ok true⟩ ∈
      (Run.after .empty moves).view n) :
    Matches before email password user := by
  obtain ⟨request, registered⟩ := registered_of_mem split present
  obtain ⟨-, email, -⟩ := registered.spec split
  have same := Except.ok.inj (verdict verified registered split confirmed)
  exact ⟨request, registered, email.symm.trans address, (beq_iff_eq.mp same.symm).symm⟩

private theorem not_matches_of_denied (verified : (Run.after .empty moves).PasswordsVerified)
    (split : (Run.after .empty moves).log = before ++ after) {n : Nat} {s : Stamp}
    {email password : String} (present : user ∈ (replay .empty (before.map Entry.exchange)).users)
    (address : user.email = Auth.normalizeEmail email)
    (denied : ⟨s, .verifyPassword password user.passwordHash, .ok false⟩ ∈
      (Run.after .empty moves).view n) (other : User) : ¬Matches before email password other := by
  rintro ⟨request, registered, same, rfl⟩
  cases registered.unique split present (address.trans same.symm)
  have differ := Except.ok.inj (verdict verified registered split denied)
  rw [beq_self_eq_true] at differ
  cases differ

private theorem not_matches_of_unknown (split : (Run.after .empty moves).log = before ++ after)
    {email : String}
    (absent : ∀ user ∈ (replay .empty (before.map Entry.exchange)).users,
      user.email ≠ Auth.normalizeEmail email)
    (password : String) (user : User) : ¬Matches before email password user := by
  rintro ⟨request, registered, same, -⟩
  obtain ⟨present, address, -⟩ := registered.spec split
  exact absent user present (address.trans same)

/-- How a login comes out, by what was registered when it looked its address up. -/
inductive LoginOutcome (before : List (Entry (authService settings))) (email password : String)
    (view : List Exchange) : Program (Except AuthError (User × TokenPair)) → Prop
  | granted (user : User) (registered : Matches before email password user) (tokens : TokenPair) :
      LoginOutcome before email password view (.done (.ok (user, tokens)))
  | denied (unregistered : ∀ user, ¬Matches before email password user) :
      LoginOutcome before email password view (.done (.error .invalidCredentials))
  /-- The password is right, but the new refresh token would expire
  after the end of the calendar. -/
  | gaveUp (user : User) (registered : Matches before email password user) (stamp : Stamp)
      (now : Time.Instant) (looked : ⟨stamp, .now, now⟩ ∈ view)
      (outside : ¬(now.addSeconds (settings.refreshDays * 86400)).InRange)
      (reason : String)
      (next : (Op.abort reason).Answer → Program (Except AuthError (User × TokenPair))) :
      LoginOutcome before email password view (.ask (.abort reason) next)

private theorem login_outcome
    (digests : (offeredDigests .empty (Run.after .empty moves).exchanges).Nodup)
    (signed : ∀ exchange ∈ (Run.after .empty moves).exchanges, exchange.unsigned = false)
    (verified : (Run.after .empty moves).PasswordsVerified) {n : Nat} {email password : String}
    {rest : Program (Except AuthError (User × TokenPair))}
    (found : (Run.after .empty moves).tasks[n]? = some ⟨.login email password, rest⟩)
    (settled : rest.Settled) :
    ∃ before lookup after, (Run.after .empty moves).log = before ++ lookup :: after ∧
      LooksUp n email password lookup ∧ (∀ entry ∈ before, entry.task ≠ n) ∧
      LoginOutcome before email password ((Run.after .empty moves).view n) rest := by
  have path : Program.Path (Auth.login settings email password) _ rest :=
    Run.view_path .empty moves n _ found
  obtain ⟨s₁, answer, later, view⟩ : ∃ s₁ answer later, (Run.after .empty moves).view n =
      ⟨s₁, .store (.findUserByEmail (Auth.normalizeEmail email)), answer⟩ :: later := by
    rcases path.of_ask with ⟨-, rfl⟩ | ⟨s₁, answer, later, view, -⟩
    · cases settled
    · exact ⟨s₁, answer, later, view⟩
  obtain ⟨before, lookup, after, split, looksUp, first, same⟩ := login_looked_up found view rfl
  have honest := (log_honest split).2 _ _ _ rfl
  rw [same] at honest
  refine ⟨before, lookup, after, split, looksUp, first, ?_⟩
  have happened : ∀ exchange ∈ later, exchange ∈ (Run.after .empty moves).view n := by
    intro exchange member
    rw [view]
    exact List.mem_cons_of_mem _ member
  cases rest with
  | done result =>
      have transcript := loginTranscript path
      rw [view] at transcript
      cases transcript with
      | unknown =>
        exact .denied (not_matches_of_unknown split (Exchange.email_unknown honest).2 password)
      | unlooked _ e other => exact absurd (Exchange.email_unknown honest).1 other
      | unverified _ s₂ user text =>
          obtain ⟨request, registered⟩ :=
            registered_of_mem split (Exchange.email_found honest).1
          cases verdict verified registered split (happened _ List.mem_cons_self)
      | wrong _ s₂ user =>
          obtain ⟨present, address⟩ := Exchange.email_found honest
          have refused := happened _ List.mem_cons_self
          exact .denied (not_matches_of_denied verified split present address refused)
      | right _ s₂ user exchanges result tokens =>
          obtain ⟨present, address⟩ := Exchange.email_found honest
          have confirmed := happened _ List.mem_cons_self
          have matching := matches_of_verified verified split present address confirmed
          have issued :=
            tokens_issued digests signed (fun _ honest => (Exchange.email_found honest).1)
            [_, _] List.mem_cons_self view tokens
          obtain ⟨pair, rfl⟩ := issued
          exact .granted user matching pair
  | ask op next =>
      cases op with
      | abort reason =>
          obtain ⟨_, s₂, user, remaining, same', stamp, now, looked, outside⟩ :=
            login_abandoned path
          cases view.symm.trans same'
          obtain ⟨present, address⟩ := Exchange.email_found honest
          have confirmed := happened _ List.mem_cons_self
          have matching := matches_of_verified verified split present address confirmed
          exact .gaveUp user matching stamp now (happened _ (List.mem_cons_of_mem _ looked))
            outside reason next
      | _ => cases settled

end Runs

structure Authenticated {settings : Auth.Settings}
    (moves : List (Move (authService settings))) : Prop where
  /-- An address is registered once. -/
  once : ∀ (n m : Nat) (given given' : Registration) (user user' : User),
    (Run.after .empty moves).tasks[n]? = some ⟨.register given, .done (.ok user)⟩ →
      (Run.after .empty moves).tasks[m]? = some ⟨.register given', .done (.ok user')⟩ →
        Auth.normalizeEmail given.email = Auth.normalizeEmail given'.email → n = m
  /-- A registration fails only for an address that is registered. -/
  refused : ∀ (n : Nat) (given : Registration) (e : AuthError),
    (Run.after .empty moves).tasks[n]? = some ⟨.register given, .done (.error e)⟩ →
      e = .emailExists ∧
      ∃ request user, Registered (Run.after .empty moves).log request user ∧
        Auth.normalizeEmail request.email = Auth.normalizeEmail given.email
  login : ∀ (n : Nat) (email password : String)
    (rest : Program (Except AuthError (User × TokenPair))),
    (Run.after .empty moves).tasks[n]? = some ⟨.login email password, rest⟩ → rest.Settled →
      ∃ before lookup after, (Run.after .empty moves).log = before ++ lookup :: after ∧
        LooksUp n email password lookup ∧ (∀ entry ∈ before, entry.task ≠ n) ∧
        LoginOutcome before email password ((Run.after .empty moves).view n) rest
  registersInTime :
    ∀ earlier later (n : Nat) (given : Registration) (rest : Program (Except AuthError User)),
    moves = earlier ++ later →
    (Run.after .empty earlier).tasks[n]? = some ⟨.register given, rest⟩ →
      3 < later.countP (Move.isTurnOf n) →
        ∃ result, (Run.after .empty moves).tasks[n]? = some ⟨.register given, .done result⟩
  settlesInTime : ∀ earlier later (n : Nat) (email password : String)
    (rest : Program (Except AuthError (User × TokenPair))), moves = earlier ++ later →
      (Run.after .empty earlier).tasks[n]? = some ⟨.login email password, rest⟩ →
        6 < later.countP (Move.isTurnOf n) →
          ∃ rest, (Run.after .empty moves).tasks[n]? = some ⟨.login email password, rest⟩ ∧
            rest.Settled

/-- In every run of any requests over an empty store, in which all refresh tokens are different, no
signing and no hashing fails, and passwords are confirmed exactly against their own hashes. -/
theorem logins_authenticated {settings : Auth.Settings} (moves : List (Move (authService settings)))
    (distinct : (((Run.after .empty moves).exchanges.filterMap Exchange.generated).map
      refreshDigest).Nodup)
    (signed : ∀ exchange ∈ (Run.after .empty moves).exchanges, exchange.unsigned = false)
    (hashes : ∀ exchange ∈ (Run.after .empty moves).exchanges, exchange.unhashed = false)
    (verified : (Run.after .empty moves).PasswordsVerified) : Authenticated moves := by
  have digests : (offeredDigests .empty (Run.after .empty moves).exchanges).Nodup :=
    offeredDigests_nodup distinct
  constructor
  · intro n m given given' user user' first second same
    exact registered_once first second same
  · intro n given e refused
    exact register_refused hashes refused
  · intro n email password rest found settled
    exact login_outcome digests signed verified found settled
  · rintro earlier later n given rest rfl found turns
    obtain ⟨rest', now, settled⟩ := Run.settles found (register_asks_three given) turns
    have path : Program.Path (Auth.register given) _ rest' :=
      Run.view_path .empty (earlier ++ later) n _ now
    cases rest' with
    | done result => exact ⟨result, now⟩
    | ask op next =>
        cases op with
        | abort reason => exact absurd rfl (path.waits (register_goes_on given) reason)
        | _ => cases settled
  · rintro earlier later n email password rest rfl found turns
    exact Run.settles found (login_asks_six settings email password) turns

/-- Two registrations of one address look it up before either is stored. A login that looks it up as
early is denied, and later only the password of the winner is right. -/
def racingRegistrations : List (Move (authService ⟨7, ""⟩)) :=
  [.arrival (.register ⟨" Ada@Example.org ", "secret", none, none⟩),
    .arrival (.register ⟨"ada@example.org", "other", none, none⟩),
    .arrival (.login "ada@example.org" "other"),
    .turn 0 (.plain 1 1), .turn 1 (.plain 2 2), .turn 2 (.plain 3 3), .turn 1 (.plain 4 4),
    .turn 0 (.plain 5 5),
    .turn 1 (.plain 6 6), .turn 0 (.plain 7 7), .turn 2 (.plain 8 8),
    .arrival (.login "ADA@example.org" "other"),
    .turn 3 (.plain 9 9), .turn 3 (.plain 10 10), .turn 3 (.plain 11 11), .turn 3 (.plain 12 12),
    .turn 3 (.plain 13 13), .turn 3 (.plain 14 14),
    .arrival (.login "ada@example.org" "secret"), .turn 4 (.plain 15 15), .turn 4 (.plain 16 16)]

theorem racingRegistrations_authenticated :
    Authenticated racingRegistrations ∧
      (Run.after .empty racingRegistrations).memory.users.map (fun user => (user.id, user.email)) =
        [(.ofNat 6, "ada@example.org")] ∧
      (Run.after .empty racingRegistrations).memory.refreshTokens.map (fun token =>
        (token.userId, token.createdAt)) = [(.ofNat 6, ⟨14, 0⟩)] :=
  ⟨logins_authenticated racingRegistrations (by decide +kernel) (by decide +kernel)
    (by decide +kernel) (by decide +kernel), by decide +kernel, by decide +kernel⟩

/-! ### Refresh tokens that would outlast the calendar -/

/-- An account is registered, and a login with its password looks at the
clock to date its refresh token. -/
def hugeLifetime : List (Move (authService ⟨1000000000, ""⟩)) :=
  [.arrival (.register ⟨"ada@example.org", "secret", none, none⟩),
    .turn 0 (.plain 1 1), .turn 0 (.plain 2 2), .turn 0 (.plain 3 3),
    .arrival (.login "ada@example.org" "secret"),
    .turn 1 (.plain 4 4), .turn 1 (.plain 5 5), .turn 1 (.plain 6 6), .turn 1 (.plain 7 7),
    .turn 1 (.plain 8 8)]

/-- A lifetime of refresh tokens that is accepted as a setting leaves a login with the right
password without an answer, however long it goes on. -/
theorem hugeLifetime_unanswered :
    Auth.Settings.ofDays 1000000000 "" = .ok ⟨1000000000, ""⟩ ∧
      (((Run.after .empty hugeLifetime).exchanges.filterMap Exchange.generated).map
        refreshDigest).Nodup ∧
      (∀ exchange ∈ (Run.after .empty hugeLifetime).exchanges, exchange.unsigned = false) ∧
      (∀ exchange ∈ (Run.after .empty hugeLifetime).exchanges, exchange.unhashed = false) ∧
      (Run.after .empty hugeLifetime).PasswordsVerified ∧
      (∃ before lookup after, (Run.after .empty hugeLifetime).log = before ++ lookup :: after ∧
        LooksUp 1 "ada@example.org" "secret" lookup ∧
        ∃ user, Matches before "ada@example.org" "secret" user) ∧
      ∀ later result, (Run.after .empty (hugeLifetime ++ later)).tasks[1]? ≠
        some ⟨.login "ada@example.org" "secret", .done result⟩ := by
  have distinct : (((Run.after .empty hugeLifetime).exchanges.filterMap Exchange.generated).map
      refreshDigest).Nodup := by decide +kernel
  have signed : ∀ exchange ∈ (Run.after .empty hugeLifetime).exchanges,
      exchange.unsigned = false := by
    decide +kernel
  have verified : (Run.after .empty hugeLifetime).PasswordsVerified := by decide +kernel
  have digests : (offeredDigests .empty (Run.after .empty hugeLifetime).exchanges).Nodup :=
    offeredDigests_nodup distinct
  have gone : (Run.after .empty hugeLifetime).abandoned 1 = true := by decide +kernel
  obtain ⟨request, reason, next, found⟩ := Run.abandoned_rest gone
  have asked : (Run.after .empty hugeLifetime).tasks[1]?.map Task.request =
      some (AuthRequest.login "ada@example.org" "secret") := rfl
  rw [found] at asked
  cases asked
  refine ⟨by decide +kernel, distinct, signed, by decide +kernel, verified, ?_, ?_⟩
  · obtain ⟨before, lookup, after, split, looksUp, -, outcome⟩ :=
      login_outcome digests signed verified found trivial
    cases outcome with
    | gaveUp user registered => exact ⟨before, lookup, after, split, looksUp, user, registered⟩
  · intro later result ended
    rw [Run.settled_stays found trivial later] at ended
    cases ended

end StatusPage
