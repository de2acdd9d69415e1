import StatusPage.Proofs.Logins
import StatusPage.Proofs.PasswordTexts
import StatusPage.Proofs.Refusals
import StatusPage.Proofs.StoreIntegrity

/-!
Logins that fail. A login with an unknown address and one with a wrong password take different ways
through the program, one past a hash that was prepared and one past the hash of an account, and it
does not show which: the response is the same, nothing is changed, and on both ways the accounts are
looked at once and one digest is computed of the password. That neither way ends with another error
is due to the accounts: every hash text among them is one that a registration has made.
-/

set_option autoImplicit false

namespace StatusPage

open Store (Memory Stamp)

/-! ### Questions of a run -/

section Questions

variable {σ α β : Type} {interpreter : Interpreter σ}

/-- What a program asks when it runs alone, up to its end or to a question that is not answered. -/
def Program.questions (interpreter : Interpreter σ) : Program α → σ → List Op
  | .done _, _ => []
  | .ask op next, state =>
      op :: match interpreter.answer op state with
        | (.value answer, state) => (next answer).questions interpreter state
        | _ => []

private theorem Program.run_ask {op : Op} {next : op.Answer → Program α} {state after : σ}
    {answer : op.Answer} (answered : interpreter.answer op state = (.value answer, after)) :
    (Program.ask op next).run interpreter state = (next answer).run interpreter after := by
  rw [run, answered]

private theorem Program.questions_ask {op : Op} {next : op.Answer → Program α} {state after : σ}
    {answer : op.Answer} (answered : interpreter.answer op state = (.value answer, after)) :
    (Program.ask op next).questions interpreter state =
      op :: (next answer).questions interpreter after := by
  rw [questions, answered]

private theorem Program.questions_map (program : Program α) (f : α → β) (state : σ) :
    (program.bind fun value => .done (f value)).questions interpreter state =
      program.questions interpreter state := by
  induction program generalizing state with
  | done value => rfl
  | ask op next ih =>
      rcases answered : interpreter.answer op state with ⟨answer | _ | _, after⟩
      · rw [bind, questions_ask answered, questions_ask answered, ih]
      · simp only [bind, questions, answered]
      · simp only [bind, questions, answered]

def Http.questions (interpreter : Interpreter σ) (settings : Http.Settings)
    (request : Http.Request) (state : σ) :
    List Op :=
  if request.method = "OPTIONS" then []
    else (Http.route settings request).questions interpreter state

end Questions

/-! ### Refused logins -/

section Refused

variable {σ : Type} {interpreter : Interpreter σ} {settings : Auth.Settings}
  {credentials : Credentials}
  {before between after : σ} {hash : String}

/-- A login is refused after its password has been compared with a hash. -/
structure Auth.Refused (interpreter : Interpreter σ) (settings : Auth.Settings)
    (credentials : Credentials) (before after : σ) (hash : String) : Prop where
  run : (Auth.login settings credentials.email credentials.password).run interpreter before =
    (.value (.error .invalidCredentials), after)
  asked : (Auth.login settings credentials.email credentials.password).questions
    interpreter before =
    [.store (.findUserByEmail (Auth.normalizeEmail credentials.email)),
      .verifyPassword credentials.password hash]

private theorem Auth.Refused.of_unknown {verdict : Except String Bool}
    (missed : interpreter.answer
      (.store (.findUserByEmail (Auth.normalizeEmail credentials.email))) before =
      (.value (.error .notFound), between))
    (compared : interpreter.answer
      (.verifyPassword credentials.password settings.dummyHash) between =
      (.value verdict, after)) :
    Auth.Refused interpreter settings credentials before after settings.dummyHash where
  run := (Program.run_ask missed).trans (Program.run_ask compared)
  asked := by
    refine (Program.questions_ask missed).trans (congrArg _ ?_)
    exact Program.questions_ask compared

private theorem Auth.Refused.of_wrong {user : User}
    (found : interpreter.answer
      (.store (.findUserByEmail (Auth.normalizeEmail credentials.email))) before =
      (.value (.ok user), between))
    (compared : interpreter.answer
      (.verifyPassword credentials.password user.passwordHash) between =
      (.value (.ok false), after)) :
    Auth.Refused interpreter settings credentials before after user.passwordHash where
  run := (Program.run_ask found).trans (Program.run_ask compared)
  asked := by
    refine (Program.questions_ask found).trans (congrArg _ ?_)
    exact Program.questions_ask compared

namespace Http

private theorem route_login (settings : Settings) {request : Request}
    (posted : request.Posts "login")
    (read : readRecord Credentials.fields request = .ok credentials) :
    route settings request =
      (Auth.login settings.auth credentials.email credentials.password).bind fun result =>
        .done (respondAuth (fun login => .data 200 (loginJson login)) result) := by
  have reached :
      (segments request.path).bind findRoute =
        some (authRoute "login" (.everybody .login), []) := by
    rw [posted.2]
    decide
  have chosen : (authRoute "login" (.everybody .login)).endpoint? request.method =
      some (.everybody .login) := by
    rw [posted.1]
    decide
  rw [route_eq settings reached chosen]
  change withRead (readRecord Credentials.fields request) _ = _
  rw [read]
  rfl

def loginRefusal (cors : Cors) (freshId : String) (request : Request) : Response :=
  (Failure.auth .invalidCredentials).response.withHeaders
    (cors.headers request ++ [("x-request-id", (request.header? "x-request-id").getD freshId)])

end Http

section Served

variable {settings : Http.Settings} {request : Http.Request} (posted : request.Posts "login")
  (read : Http.readRecord Credentials.fields request = .ok credentials)
  (refused : Auth.Refused interpreter settings.auth credentials before after hash)

include posted read refused

theorem Auth.Refused.served (cors : Http.Cors) (freshId : String) :
    Http.serve interpreter settings cors freshId request before =
      (Http.loginRefusal cors freshId request, after) := by
  have asked : ¬request.method = "OPTIONS" := by
    rw [posted.1]
    decide
  have whole : ¬request.method = "HEAD" := by
    rw [posted.1]
    decide
  rw [Http.serve, if_neg asked, Http.route_login settings posted read,
    Program.run_bind, refused.run]
  exact congrArg (Prod.mk · after) (if_neg whole)

theorem Auth.Refused.questions :
    Http.questions interpreter settings request before =
      [.store (.findUserByEmail (Auth.normalizeEmail credentials.email)),
        .verifyPassword credentials.password hash] := by
  have asked : ¬request.method = "OPTIONS" := by
    rw [posted.1]
    decide
  rw [Http.questions, if_neg asked, Http.route_login settings posted read, Program.questions_map,
    refused.asked]

end Served

end Refused

/-! ### Accounts and their passwords -/

section Accounts

variable {digest : Auth.Digest} {memory : Memory} {accounts : List (User × String)}

/-- A hash that has been made of a password is a hash text, with a salt of its own. -/
def Exchange.HashedBy (digest : Auth.Digest) : Exchange → Prop
  | ⟨_, .hashPassword password, .ok hash⟩ =>
      ∃ costs salt, costs.Legal ∧ salt.length = 16 ∧
        hash = Auth.hashPasswordBy digest costs salt password
  | _ => True

/-- A store all of whose users have registered, each with the password that was given then. A
registration may wait between its questions while others go on, and what happens besides
registrations is free. -/
inductive Accounts (digest : Auth.Digest) : List (User × String) → Memory → Prop
  | none {memory : Memory} (empty : memory.users = []) : Accounts digest [] memory
  | registered {accounts : List (User × String)} {memory after : Memory}
      (earlier : Accounts digest accounts memory) {request : Registration}
      {exchanges : List Exchange} {new : NewUser}
      {next : (Op.store (.createUser new)).Answer → Program (Except AuthError User)}
      (path : Program.Path (Auth.register request) exchanges (.ask (.store (.createUser new)) next))
      (hashed : ∀ exchange ∈ exchanges, exchange.HashedBy digest) {stamp : Stamp} {user : User}
      (created : memory.perform stamp (.createUser new) = (.ok user, after)) :
      Accounts digest ((user, request.password) :: accounts) after
  | other {accounts : List (User × String)} {memory after : Memory}
      (earlier : Accounts digest accounts memory) (same : after.users = memory.users) :
      Accounts digest accounts after

private theorem register_hashed {request : Registration} {exchanges : List Exchange} {new : NewUser}
    {next : (Op.store (.createUser new)).Answer → Program (Except AuthError User)}
    (path : Program.Path (Auth.register request) exchanges (.ask (.store (.createUser new)) next))
    (hashed : ∀ exchange ∈ exchanges, exchange.HashedBy digest) :
    ∃ costs salt, costs.Legal ∧ salt.length = 16 ∧
      new.passwordHash = Auth.hashPasswordBy digest costs salt request.password := by
  let failed : Exchange :=
    ⟨⟨⟨0, 0⟩, .ofNat 0⟩, .store (.createUser new), .error .notFound⟩
  have last : failed ∈ exchanges ++ [failed] := List.mem_append_right _ List.mem_cons_self
  obtain ⟨stamp, hash, rfl, hashing⟩ := register_created (path.concat _ _) last
  rcases List.mem_append.mp hashing with earlier | now
  · exact hashed _ earlier
  · cases List.mem_singleton.mp now

structure AccountsKept (digest : Auth.Digest) (accounts : List (User × String))
    (memory : Memory) : Prop where
  users : memory.users = accounts.map Prod.fst
  distinct : (memory.users.map User.email).Nodup
  hashed : ∀ account ∈ accounts, ∃ costs salt, costs.Legal ∧ salt.length = 16 ∧
    account.1.passwordHash = Auth.hashPasswordBy digest costs salt account.2

theorem AccountsKept.registered (kept : AccountsKept digest accounts memory) {stamp : Stamp}
    {new : NewUser} {user : User} {after : Memory}
    (created : memory.perform stamp (.createUser new) = (.ok user, after))
    {password : String}
    (hashed : ∃ costs salt, costs.Legal ∧ salt.length = 16 ∧
      new.passwordHash = Auth.hashPasswordBy digest costs salt password) :
    AccountsKept digest ((user, password) :: accounts) after := by
  simp only [Memory.perform, Memory.createUser] at created
  split at created
  · cases created
  · rename_i free
    cases created
    refine ⟨congrArg (List.cons _) kept.users, ?_, ?_⟩
    · rw [List.map_cons, List.nodup_cons]
      refine ⟨fun member => ?_, kept.distinct⟩
      obtain ⟨user, present, same⟩ := List.mem_map.mp member
      exact free (List.any_eq_true.mpr ⟨user, present, beq_iff_eq.mpr same⟩)
    · exact List.forall_mem_cons.mpr ⟨hashed, kept.hashed⟩

theorem Accounts.kept (stored : Accounts digest accounts memory) :
    AccountsKept digest accounts memory := by
  induction stored with
  | none empty => exact ⟨empty, by simp [empty], nofun⟩
  | registered _ path hashed created ih => exact ih.registered created (register_hashed path hashed)
  | other _ same ih => exact ⟨same.trans ih.users, same ▸ ih.distinct, ih.hashed⟩

theorem AccountsKept.found (kept : AccountsKept digest accounts memory) {user : User}
    {secret : String} (known : (user, secret) ∈ accounts) {email : String}
    (address : user.email = email) (stamp : Stamp) :
    memory.perform stamp (.findUserByEmail email) = (.ok user, memory) := by
  subst address
  have present : user ∈ memory.users := kept.users ▸ List.mem_map_of_mem known
  simp only [Memory.perform, Memory.reading, Memory.find?_key kept.distinct present]

private theorem unknown_missed {email : String}
    (unknown : ∀ user ∈ memory.users, user.email ≠ email) (stamp : Stamp) :
    memory.perform stamp (.findUserByEmail email) = (.error .notFound, memory) := by
  have missed : (memory.users.find? fun user => user.email == email) = .none :=
    List.find?_eq_none.mpr fun user present => by simpa using unknown user present
  simp only [Memory.perform, Memory.reading, missed]

/-- Whatever the service is asked and however its answers are
interleaved, its users have registered. -/
theorem accounts_after {settings : Auth.Settings} (empty : memory.users = [])
    (moves : List (Move (authService settings)))
    (hashed : ∀ exchange ∈ (Run.after memory moves).exchanges, exchange.HashedBy digest) :
    ∃ accounts, Accounts digest accounts (Run.after memory moves).memory := by
  revert hashed
  refine Run.after_induction (fun run =>
    (∀ exchange ∈ run.exchanges, exchange.HashedBy digest) →
    ∃ accounts, Accounts digest accounts run.memory) ?_ ?_ ?_ moves
  · exact fun _ => ⟨[], .none empty⟩
  · exact fun _ _ ih => ih
  · intro moves n request stamp op next answer ih found honest hashed
    rw [Run.exchanges_advance] at hashed
    obtain ⟨accounts, earlier⟩ :=
      ih fun exchange member => hashed exchange (List.mem_append_left _ member)
    have users := Exchange.users_effect honest
    cases created : (⟨stamp, op, answer⟩ : Exchange).createdUser with
    | none =>
        rw [created] at users
        exact ⟨accounts, earlier.other users⟩
    | some user =>
        unfold Exchange.createdUser at created
        split at created
        · rename_i stamp' new user' same
          cases same
          cases created
          have path := Run.view_path memory moves n _ found
          obtain ⟨given, rfl⟩ :=
            path.waits (AuthRequest.creates_by_register settings request) rfl
          have views : ∀ exchange ∈ (Run.after memory moves).view n, exchange.HashedBy digest :=
            fun exchange member =>
            hashed exchange (List.mem_append_left _ (Run.mem_exchanges member))
          exact ⟨_, earlier.registered path views (Prod.ext honest.symm rfl)⟩
        · cases created

end Accounts

/-! ### Failed logins -/

/-- A login that has failed: what is answered and left behind, and what has been done for it. The
accounts have been looked at once, and one digest has been computed, of the password that was given,
to be compared with a hash. -/
structure Http.FailedLogin {σ : Type} (interpreter : Interpreter σ) (settings : Http.Settings)
    (cors : Http.Cors) (freshId : String) (request : Http.Request) (credentials : Credentials)
    (before after : σ) (hash : String) :
    Prop where
  answered : Http.serve interpreter settings cors freshId request before =
    (Http.loginRefusal cors freshId request, after)
  asked : Http.questions interpreter settings request before =
    [.store (.findUserByEmail (Auth.normalizeEmail credentials.email)),
      .verifyPassword credentials.password hash]
  derived : ∃ parameters salt expected, Auth.derivation credentials.password hash =
    .ok (some ⟨parameters, Text.utf8 credentials.password, salt, [], expected⟩)

def Auth.Digest.TellsApart (digest : Auth.Digest) (hash password secret : String) : Prop :=
  ∀ costs salt, Auth.hashPasswordBy digest costs salt secret = hash →
    Auth.hashPasswordBy digest costs salt password = hash → password = secret

section Failed

variable {digest : Auth.Digest} {accounts : List (User × String)} {memory : Memory} {user : User}
  {secret : String}

/-- A password that is compared with the hash text of another one is denied. -/
theorem AccountsKept.denied (kept : AccountsKept digest accounts memory) (sized : digest.Sized)
    (known : (user, secret) ∈ accounts) {password : String} (other : password ≠ secret)
    (tells : digest.TellsApart user.passwordHash password secret) :
    Auth.verifyPasswordBy digest password user.passwordHash = .ok false := by
  obtain ⟨costs, salt, legal, salted, made⟩ := kept.hashed _ known
  have differ : digest costs.parameters (Text.utf8 password) salt [] 32 ≠
      digest costs.parameters (Text.utf8 secret) salt [] 32 := by
    intro same
    refine other (tells costs salt made.symm ?_)
    rw [Auth.hashPasswordBy, same]
    exact made.symm
  rw [made, Auth.verifyPasswordBy_written sized legal salted, beq_eq_false_iff_ne.mpr differ]

variable {σ : Type} {interpreter : Interpreter σ} {settings : Http.Settings}
  {request : Http.Request}
  {credentials : Credentials} {before between after : σ}

private theorem Http.FailedLogin.of_unknown (sized : digest.Sized) {costs : Auth.PasswordCosts}
    {salt : Text.Bytes} {dummy : String} (legal : costs.Legal) (salted : salt.length = 16)
    (prepared : settings.auth.dummyHash = Auth.hashPasswordBy digest costs salt dummy)
    (posted : request.Posts "login")
    (read : Http.readRecord Credentials.fields request = .ok credentials)
    {verdict : Except String Bool}
    (missed : interpreter.answer
      (.store (.findUserByEmail (Auth.normalizeEmail credentials.email))) before =
      (.value (.error .notFound), between))
    (compared : interpreter.answer
      (.verifyPassword credentials.password settings.auth.dummyHash) between =
      (.value verdict, after)) (cors : Http.Cors) (freshId : String) :
    Http.FailedLogin interpreter settings cors freshId request credentials before after
      settings.auth.dummyHash := by
  have refused := Auth.Refused.of_unknown missed compared
  refine ⟨refused.served posted read cors freshId, refused.questions posted read, ?_⟩
  rw [prepared]
  exact ⟨_, _, _, Auth.derivation_written sized legal salted credentials.password dummy⟩

private theorem Http.FailedLogin.of_wrong (sized : digest.Sized)
    (kept : AccountsKept digest accounts memory) (known : (user, secret) ∈ accounts)
    (posted : request.Posts "login")
    (read : Http.readRecord Credentials.fields request = .ok credentials)
    (found : interpreter.answer
      (.store (.findUserByEmail (Auth.normalizeEmail credentials.email))) before =
      (.value (.ok user), between))
    (compared : interpreter.answer
      (.verifyPassword credentials.password user.passwordHash) between =
      (.value (.ok false), after)) (cors : Http.Cors) (freshId : String) :
    Http.FailedLogin interpreter settings cors freshId request credentials before after
      user.passwordHash := by
  have refused :
      Auth.Refused interpreter settings.auth credentials before after user.passwordHash :=
    .of_wrong found compared
  refine ⟨refused.served posted read cors freshId, refused.questions posted read, ?_⟩
  obtain ⟨costs, salt, legal, salted, made⟩ := kept.hashed _ known
  rw [made]
  exact ⟨_, _, _, Auth.derivation_written sized legal salted credentials.password secret⟩

end Failed

/-! ### Logins that fail alike -/

section Alike

open Auth (PasswordCosts)

/-- At this moment passwords are checked against hash texts by the digest. -/
def Moment.ChecksBy (digest : Auth.Digest) (moment : Moment) : Prop :=
  ∀ password hash, moment.verifyPassword password hash =
    (Auth.verifyPasswordBy digest password hash).mapError Auth.PasswordError.message

/-- One request to log in, answered over two stores: the responses tell nothing that differs, both
stores stay as they are, and for each of them one digest has been computed of the password. -/
structure Http.LoginsAlike (interpreter interpreter' : Interpreter Memory)
    (settings : Http.Settings) (cors : Http.Cors) (freshId : String) (request : Http.Request)
    (credentials : Credentials) (memory memory' : Memory) (hash hash' : String) : Prop where
  status : (Http.serve interpreter settings cors freshId request memory).1.status = 401
  body : (Http.serve interpreter settings cors freshId request memory).1.body =
    .json (.object [("error", .str "Invalid email or password"),
      ("code", .str "INVALID_CREDENTIALS")])
  same : (Http.serve interpreter settings cors freshId request memory).1 =
    (Http.serve interpreter' settings cors freshId request memory').1
  first : Http.FailedLogin interpreter settings cors freshId request credentials memory memory hash
  second : Http.FailedLogin interpreter' settings cors freshId request credentials
    memory' memory' hash'

/-- It does not show of a login that fails whether its address is known. The store without the
address may hold any other users; the one with it holds users who have registered, this one with
another password than the one given. -/
theorem failed_logins_alike {digest : Auth.Digest} (sized : digest.Sized) {moment moment' : Moment}
    (checks : moment'.ChecksBy digest) {settings : Http.Settings} {costs : PasswordCosts}
    {salt : Text.Bytes} {dummy : String} (legal : costs.Legal) (salted : salt.length = 16)
    (prepared : settings.auth.dummyHash = Auth.hashPasswordBy digest costs salt dummy)
    (cors : Http.Cors) (freshId : String) {request : Http.Request} {credentials : Credentials}
    (posted : request.Posts "login")
    (read : Http.readRecord Credentials.fields request = .ok credentials) {memory memory' : Memory}
    (unknown : ∀ user ∈ memory.users, user.email ≠ Auth.normalizeEmail credentials.email)
    {accounts : List (User × String)} (stored : Accounts digest accounts memory') {user : User}
    {secret : String} (known : (user, secret) ∈ accounts)
    (address : user.email = Auth.normalizeEmail credentials.email)
    (other : credentials.password ≠ secret)
    (tells : digest.TellsApart user.passwordHash credentials.password secret) :
    Http.LoginsAlike moment.interpreter moment'.interpreter settings cors freshId request
      credentials memory memory'
      settings.auth.dummyHash user.passwordHash := by
  have missed :
      moment.interpreter.answer
        (.store (.findUserByEmail (Auth.normalizeEmail credentials.email))) memory =
      (.value (.error .notFound), memory) := by
    simp only [Moment.interpreter, unknown_missed unknown moment.stamp]
  have found :
      moment'.interpreter.answer
        (.store (.findUserByEmail (Auth.normalizeEmail credentials.email))) memory' =
      (.value (.ok user), memory') := by
    simp only [Moment.interpreter, stored.kept.found known address moment'.stamp]
  have denied :
      moment'.interpreter.answer (.verifyPassword credentials.password user.passwordHash) memory' =
      (.value (.ok false), memory') := by
    simp only [Moment.interpreter, checks _ _, stored.kept.denied sized known other tells]
    rfl
  have first :
      Http.FailedLogin moment.interpreter settings cors freshId request credentials memory memory
      settings.auth.dummyHash :=
        .of_unknown sized legal salted prepared posted read missed rfl cors freshId
  have second :
      Http.FailedLogin moment'.interpreter settings cors freshId request credentials memory' memory'
      user.passwordHash := .of_wrong sized stored.kept known posted read found denied cors freshId
  exact
    { status := by rw [first.answered]; rfl
      body := by rw [first.answered]; rfl
      same := by rw [first.answered, second.answered]
      first := first
      second := second }

/-- Digests of some passwords with salts of one byte, as they have been
computed under small costs. -/
def recordedDigests : List ((String × UInt8) × Text.Bytes) :=
  [(("dummy-password-for-timing", 1),
      [65, 237, 131, 46, 110, 70, 126, 105, 61, 17, 179, 27, 47, 93, 144, 44, 175, 29, 40, 96, 64,
        185, 40, 63, 240, 166, 251, 150, 132, 16, 94, 36]),
    (("wrong-password", 1),
      [140, 168, 66, 82, 87, 185, 118, 205, 214, 81, 32, 199, 183, 158, 41, 116, 36, 82, 172, 2,
        252, 246, 227, 239, 62, 114, 100, 46, 212, 144, 197, 181]),
    (("password123", 2),
      [14, 248, 214, 34, 82, 235, 188, 205, 174, 111, 161, 36, 130, 178, 18, 237, 23, 99, 166, 50,
        238, 50, 21, 138, 128, 118, 58, 100, 249, 32, 208, 169]),
    (("wrong-password", 2),
      [182, 91, 30, 164, 137, 89, 42, 125, 64, 21, 98, 28, 21, 177, 33, 19, 186, 95, 199, 113, 41,
        133, 38, 204, 48, 249, 148, 20, 248, 207, 55, 3])]

def saltOf (byte : UInt8) : Text.Bytes := List.replicate 16 byte

def recordedDigest : Auth.Digest := fun _ password salt _ size =>
  let found :=
    recordedDigests.find? fun recorded =>
      Text.utf8 recorded.1.1 == password && saltOf recorded.1.2 == salt
  (found.elim [] Prod.snd ++ List.replicate size 0).take size

private theorem recordedDigest_sized : recordedDigest.Sized := by
  intro costs password salt associated size _
  rw [recordedDigest, List.length_take, List.length_append, List.length_replicate]
  exact Nat.min_eq_left (Nat.le_add_left size _)

def smallCosts : PasswordCosts := ⟨8, 1, 1⟩

/-- A second at which passwords are checked by the recorded digest. -/
def recordedMoment : Moment :=
  { Moment.plain 5 1 with
    verifyPassword := fun password hash =>
      (Auth.verifyPasswordBy recordedDigest password hash).mapError Auth.PasswordError.message }

def preparedSettings : Http.Settings :=
  ⟨⟨7, Auth.hashPasswordBy recordedDigest smallCosts (saltOf 1) "dummy-password-for-timing"⟩,
    false⟩

def firstHash : String := Auth.hashPasswordBy recordedDigest smallCosts (saltOf 2) "password123"

def firstUser : User where
  id := .ofNat 1
  email := Auth.normalizeEmail "user@example.com"
  passwordHash := firstHash
  firstName := none
  lastName := none
  role := "user"
  createdAt := ⟨5, 0⟩
  updatedAt := ⟨5, 0⟩

def firstStore : Memory := { Memory.empty with users := [firstUser] }

private theorem firstStore_accounts :
    Accounts recordedDigest [(firstUser, "password123")] firstStore := by
  let request : Registration := ⟨"user@example.com", "password123", none, none⟩
  let stamp : Stamp := ⟨⟨5, 0⟩, .ofNat 1⟩
  let asked : List Exchange :=
    [⟨stamp, .store (.findUserByEmail (Auth.normalizeEmail request.email)), .error .notFound⟩,
      ⟨stamp, .hashPassword request.password, .ok firstHash⟩]
  have path : Program.Path (Auth.register request) asked
      (.ask (.store (.createUser (request.newUser firstHash))) _) := .cons _ (.cons _ (.nil _))
  have created : Memory.empty.perform stamp (.createUser (request.newUser firstHash)) =
      (.ok firstUser, firstStore) := rfl
  have legal : smallCosts.Legal := ⟨by decide, by decide, by decide⟩
  refine .registered (.none rfl) path ?_ created
  simp only [asked, List.forall_mem_cons]
  exact ⟨trivial, ⟨smallCosts, saltOf 2, legal, rfl, rfl⟩, List.forall_mem_nil _⟩

def wrongLogin : Http.Request :=
  ⟨"POST", "/api/v1/auth/login".toList, [], [("content-type", "application/json")],
    Text.utf8 "\x7b\"email\": \"user@example.com\", \"password\": \"wrong-password\"\x7d"⟩

theorem recordedLogins_alike :
    Http.LoginsAlike recordedMoment.interpreter recordedMoment.interpreter preparedSettings ⟨[]⟩
      "first" wrongLogin
      ⟨"user@example.com", "wrong-password"⟩ .empty firstStore preparedSettings.auth.dummyHash
      firstHash := by
  have legal : smallCosts.Legal := ⟨by decide, by decide, by decide⟩
  have posted : wrongLogin.Posts "login" := ⟨rfl, by decide +kernel⟩
  have read : Http.readRecord Credentials.fields wrongLogin =
      .ok ⟨"user@example.com", "wrong-password"⟩ := by
    have some : (Http.readRecord Credentials.fields wrongLogin).toOption =
        .some ⟨"user@example.com", "wrong-password"⟩ := by decide +kernel
    cases read : Http.readRecord Credentials.fields wrongLogin with
    | error response => rw [read] at some; cases some
    | ok credentials => rw [read] at some; exact congrArg _ (Option.some.inj some)
  have checks : recordedMoment.ChecksBy recordedDigest := fun _ _ => rfl
  have unknown : ∀ user ∈ Memory.empty.users,
      user.email ≠ Auth.normalizeEmail "user@example.com" := by
    intro user present
    cases present
  have tells : recordedDigest.TellsApart firstHash "wrong-password" "password123" := by
    intro costs salt _ made
    obtain ⟨rfl, same⟩ := Auth.hashPasswordBy_tells made
    have differ :
        recordedDigest smallCosts.parameters (Text.utf8 "wrong-password") (saltOf 2) [] 32 ≠
        recordedDigest smallCosts.parameters (Text.utf8 "password123") (saltOf 2) [] 32 := by
      decide +kernel
    exact absurd same differ
  exact failed_logins_alike recordedDigest_sized checks legal rfl rfl ⟨[]⟩ "first" posted read
    unknown firstStore_accounts List.mem_cons_self rfl (by decide) tells

/-! ### The service with its own digest -/

namespace Application

variable {jwt : Config.Jwt} {costs : PasswordCosts} {origins : List String} {notices : Bool}
  {app : Application}

private theorem build_dummyHash (built : build jwt costs origins notices = .ok app) :
    app.settings.auth.dummyHash =
      Auth.hashPassword costs (World.secretBytes 0 16) "dummy-password-for-timing" := by
  obtain ⟨auth, lasting, built⟩ := ok_of_bind built
  obtain ⟨cors, _, built⟩ := ok_of_bind built
  cases built
  unfold Auth.Settings.ofDays at lasting
  split at lasting
  · cases lasting
    rfl
  · cases lasting

theorem logins_fail (built : build jwt costs origins notices = .ok app) (legal : costs.Legal)
    (freshId : String) {request : Http.Request} {credentials : Credentials}
    (posted : request.Posts "login")
    (read : Http.readRecord Credentials.fields request = .ok credentials) {world world' : World}
    (works : world.faults.lookup "find_user_by_email" = none)
    (works' : world'.faults.lookup "find_user_by_email" = none)
    (unknown : ∀ user ∈ world.memory.users,
      user.email ≠ Auth.normalizeEmail credentials.email)
    {accounts : List (User × String)} (stored : Accounts Crypto.Argon2.hash accounts world'.memory)
    {user : User} {secret : String} (known : (user, secret) ∈ accounts)
    (address : user.email = Auth.normalizeEmail credentials.email)
    (other : credentials.password ≠ secret)
    (tells : Auth.Digest.TellsApart Crypto.Argon2.hash user.passwordHash
      credentials.password secret) :
    Http.FailedLogin app.interpreter app.settings app.cors freshId request credentials world
        { world with identifiers := world.identifiers + 1 } app.settings.auth.dummyHash ∧
      Http.FailedLogin app.interpreter app.settings app.cors freshId request credentials world'
        { world' with identifiers := world'.identifiers + 1 } user.passwordHash := by
  have missed :
      app.interpreter.answer
        (.store (.findUserByEmail (Auth.normalizeEmail credentials.email))) world =
      (.value (.error .notFound), { world with identifiers := world.identifiers + 1 }) := by
    simp only [interpreter, World.perform, Store.Call.method, works, unknown_missed unknown]
  have found :
      app.interpreter.answer
        (.store (.findUserByEmail (Auth.normalizeEmail credentials.email))) world' =
      (.value (.ok user), { world' with identifiers := world'.identifiers + 1 }) := by
    simp only [interpreter, World.perform, Store.Call.method, works',
      stored.kept.found known address]
  have denied (state : World) :
      app.interpreter.answer (.verifyPassword credentials.password user.passwordHash) state =
      (.value (.ok false), state) := by
    simp only [interpreter, Auth.verifyPassword_eq,
      stored.kept.denied Auth.argon2_sized known other tells]
    rfl
  have salted : (World.secretBytes 0 16).length = 16 := by decide +kernel
  have prepared := (build_dummyHash built).trans (Auth.hashPassword_eq costs _ _)
  exact ⟨.of_unknown Auth.argon2_sized legal salted prepared posted read missed rfl
    app.cors freshId,
    .of_wrong Auth.argon2_sized stored.kept known posted read found (denied _) app.cors freshId⟩

end Application

end Alike

end StatusPage
