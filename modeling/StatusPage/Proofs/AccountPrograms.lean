import StatusPage.Proofs.RefreshPrograms

/-!
The programs that create accounts and begin sessions. Transcripts list all exchanges of a program
that has come to its end; a login that gives up has found its user and has checked the password
before.
-/

set_option autoImplicit false

namespace StatusPage

open Store (Stamp)
open Time (Instant)

def Op.createsUser : Op → Bool
  | .store (.createUser _) => true
  | _ => false

namespace Program

variable {α β : Type}

private theorem Path.of_map_waiting {program : Program α} {f : α → β}
    {exchanges : List Exchange} {op : Op} {next : op.Answer → Program β}
    (path : Path (program.bind fun value => .done (f value)) exchanges (.ask op next)) :
    ∃ next', Path program exchanges (.ask op next') := by
  induction program generalizing exchanges with
  | done result => cases path.of_done.2
  | ask first rest ih =>
      rcases path.of_ask with ⟨rfl, waiting⟩ | ⟨stamp, answer, later, rfl, following⟩
      · cases waiting
        exact ⟨rest, .nil _⟩
      · obtain ⟨next', shorter⟩ := ih answer following
        exact ⟨next', .cons stamp shorter⟩

end Program

/-! ### Registrations -/

def Registration.newUser (request : Registration) (hash : String) : NewUser where
  email := Auth.normalizeEmail request.email
  passwordHash := hash
  firstName := Auth.nonBlank request.firstName
  lastName := Auth.nonBlank request.lastName
  role := .user

inductive RegisterTranscript (request : Registration) :
    List Exchange → Except AuthError User → Prop
  | known (s : Stamp) (user : User) :
      RegisterTranscript request
        [⟨s, .store (.findUserByEmail (Auth.normalizeEmail request.email)), .ok user⟩]
        (.error .emailExists)
  | unlooked (s : Stamp) (e : StoreError) (other : e ≠ .notFound) :
      RegisterTranscript request
        [⟨s, .store (.findUserByEmail (Auth.normalizeEmail request.email)), .error e⟩]
        (.error (Auth.failed "looking up user by email" e))
  | unhashed (s₁ s₂ : Stamp) (text : String) :
      RegisterTranscript request
        [⟨s₁, .store (.findUserByEmail (Auth.normalizeEmail request.email)),
          .error .notFound⟩, ⟨s₂, .hashPassword request.password, .error text⟩]
        (.error (.internal ("hashing password: " ++ text)))
  | created (s₁ s₂ s₃ : Stamp) (hash : String) (user : User) :
      RegisterTranscript request
        [⟨s₁, .store (.findUserByEmail (Auth.normalizeEmail request.email)),
          .error .notFound⟩, ⟨s₂, .hashPassword request.password, .ok hash⟩,
          ⟨s₃, .store (.createUser (request.newUser hash)), .ok user⟩]
        (.ok user)
  | raced (s₁ s₂ s₃ : Stamp) (hash : String) :
      RegisterTranscript request
        [⟨s₁, .store (.findUserByEmail (Auth.normalizeEmail request.email)),
          .error .notFound⟩, ⟨s₂, .hashPassword request.password, .ok hash⟩,
          ⟨s₃, .store (.createUser (request.newUser hash)), .error .alreadyExists⟩]
        (.error .emailExists)
  | uncreated (s₁ s₂ s₃ : Stamp) (hash : String) (e : StoreError)
      (other : e ≠ .alreadyExists) :
      RegisterTranscript request
        [⟨s₁, .store (.findUserByEmail (Auth.normalizeEmail request.email)),
          .error .notFound⟩, ⟨s₂, .hashPassword request.password, .ok hash⟩,
          ⟨s₃, .store (.createUser (request.newUser hash)), .error e⟩]
        (.error (Auth.failed "creating user" e))

theorem registerTranscript {request : Registration} {exchanges : List Exchange}
    {result : Except AuthError User}
    (path : Program.Path (Auth.register request) exchanges (.done result)) :
    RegisterTranscript request exchanges result := by
  obtain ⟨s₁, found, exchanges, rfl, looking⟩ := path.ended
  rcases found with (_ | _ | text) | user
  · obtain ⟨s₂, hashed, exchanges, rfl, hashing⟩ := looking.ended
    rcases hashed with text | hash
    · obtain ⟨rfl, ⟨⟩⟩ := hashing.of_done
      exact .unhashed s₁ s₂ text
    · obtain ⟨s₃, created, exchanges, rfl, creating⟩ := hashing.ended
      rcases created with (_ | _ | text) | user
      · obtain ⟨rfl, ⟨⟩⟩ := creating.of_done
        exact .uncreated s₁ s₂ s₃ hash _ nofun
      · obtain ⟨rfl, ⟨⟩⟩ := creating.of_done
        exact .raced s₁ s₂ s₃ hash
      · obtain ⟨rfl, ⟨⟩⟩ := creating.of_done
        exact .uncreated s₁ s₂ s₃ hash _ nofun
      · obtain ⟨rfl, ⟨⟩⟩ := creating.of_done
        exact .created s₁ s₂ s₃ hash user
  · obtain ⟨rfl, ⟨⟩⟩ := looking.of_done
    exact .unlooked s₁ _ nofun
  · obtain ⟨rfl, ⟨⟩⟩ := looking.of_done
    exact .unlooked s₁ _ nofun
  · obtain ⟨rfl, ⟨⟩⟩ := looking.of_done
    exact .known s₁ user

theorem register_created {request : Registration} {exchanges : List Exchange}
    {rest : Program (Except AuthError User)}
    (path : Program.Path (Auth.register request) exchanges rest)
    {stamp : Stamp} {new : NewUser} {answer : Except StoreError User}
    (created : ⟨stamp, .store (.createUser new), answer⟩ ∈ exchanges) :
    ∃ s hash, new = request.newUser hash ∧
      ⟨s, .hashPassword request.password, .ok hash⟩ ∈ exchanges := by
  obtain ⟨first, last, rfl⟩ := List.append_of_mem created
  obtain ⟨next, waiting, -⟩ := path.split
  obtain ⟨s₁, found, later, rfl, looking⟩ := waiting.past nofun
  rcases found with (_ | _ | text) | user
  · obtain ⟨s₂, hashed, later, rfl, hashing⟩ := looking.past nofun
    rcases hashed with text | hash
    · cases hashing.of_done.2
    · rcases hashing.of_ask with ⟨-, creating⟩ | ⟨s₃, made, later, rfl, creating⟩
      · cases creating
        exact ⟨s₂, hash, rfl, by simp⟩
      · rcases made with (_ | _ | _) | _ <;> cases creating.of_done.2
  · cases looking.of_done.2
  · cases looking.of_done.2
  · cases looking.of_done.2

theorem register_asks_three (request : Registration) :
    (Auth.register request).AsksAtMost (fun _ => true) 3 := by
  refine ⟨by simp, fun found => ?_⟩
  rcases found with (_ | _ | _) | _
  · refine ⟨by simp, fun hashed => ?_⟩
    rcases hashed with _ | hash
    · trivial
    · refine ⟨by simp, fun created => ?_⟩
      rcases created with (_ | _ | _) | _ <;> trivial
  · trivial
  · trivial
  · trivial

theorem register_goes_on (request : Registration) :
    (Auth.register request).Asks fun op => ∀ reason, op ≠ .abort reason := by
  refine ⟨nofun, fun found => ?_⟩
  rcases found with (_ | _ | _) | _
  · refine ⟨nofun, fun hashed => ?_⟩
    rcases hashed with _ | hash
    · trivial
    · refine ⟨nofun, fun created => ?_⟩
      rcases created with (_ | _ | _) | _ <;> trivial
  · trivial
  · trivial
  · trivial

/-! ### Logins -/

inductive LoginTranscript (settings : Auth.Settings) (email password : String) :
    List Exchange → Except AuthError (User × TokenPair) → Prop
  | unknown (s₁ s₂ : Stamp) (verified : Except String Bool) :
      LoginTranscript settings email password
        [⟨s₁, .store (.findUserByEmail (Auth.normalizeEmail email)), .error .notFound⟩,
          ⟨s₂, .verifyPassword password settings.dummyHash, verified⟩]
        (.error .invalidCredentials)
  | unlooked (s : Stamp) (e : StoreError) (other : e ≠ .notFound) :
      LoginTranscript settings email password
        [⟨s, .store (.findUserByEmail (Auth.normalizeEmail email)), .error e⟩]
        (.error (Auth.failed "looking up user by email" e))
  | unverified (s₁ s₂ : Stamp) (user : User) (text : String) :
      LoginTranscript settings email password
        [⟨s₁, .store (.findUserByEmail (Auth.normalizeEmail email)), .ok user⟩,
          ⟨s₂, .verifyPassword password user.passwordHash, .error text⟩]
        (.error (.internal ("verifying password: " ++ text)))
  | wrong (s₁ s₂ : Stamp) (user : User) :
      LoginTranscript settings email password
        [⟨s₁, .store (.findUserByEmail (Auth.normalizeEmail email)), .ok user⟩,
          ⟨s₂, .verifyPassword password user.passwordHash, .ok false⟩]
        (.error .invalidCredentials)
  | right (s₁ s₂ : Stamp) (user : User) (exchanges : List Exchange)
      (result : Except AuthError TokenPair) (tokens : TokensTranscript user exchanges result) :
      LoginTranscript settings email password
        (⟨s₁, .store (.findUserByEmail (Auth.normalizeEmail email)), .ok user⟩ ::
          ⟨s₂, .verifyPassword password user.passwordHash, .ok true⟩ :: exchanges)
        (result.map fun tokens => (user, tokens))

theorem loginTranscript {settings : Auth.Settings} {email password : String}
    {exchanges : List Exchange} {result : Except AuthError (User × TokenPair)}
    (path : Program.Path (Auth.login settings email password) exchanges (.done result)) :
    LoginTranscript settings email password exchanges result := by
  obtain ⟨s₁, found, exchanges, rfl, looking⟩ := path.ended
  rcases found with (_ | _ | text) | user
  · obtain ⟨s₂, verified, exchanges, rfl, wasted⟩ := looking.ended
    obtain ⟨rfl, ⟨⟩⟩ := wasted.of_done
    exact .unknown s₁ s₂ verified
  · obtain ⟨rfl, ⟨⟩⟩ := looking.of_done
    exact .unlooked s₁ _ nofun
  · obtain ⟨rfl, ⟨⟩⟩ := looking.of_done
    exact .unlooked s₁ _ nofun
  · obtain ⟨s₂, verified, exchanges, rfl, verifying⟩ := looking.ended
    rcases verified with text | _ | _
    · obtain ⟨rfl, ⟨⟩⟩ := verifying.of_done
      exact .unverified s₁ s₂ user text
    · obtain ⟨rfl, ⟨⟩⟩ := verifying.of_done
      exact .wrong s₁ s₂ user
    · obtain ⟨result, making, rfl⟩ := verifying.of_map
      exact .right s₁ s₂ user exchanges result (tokensTranscript making)

/-- A login that gives up has found its user and has checked the password; only its new tokens would
expire after the end of the calendar. -/
theorem login_abandoned {settings : Auth.Settings} {email password : String}
    {exchanges : List Exchange} {reason : String}
    {next : (Op.abort reason).Answer → Program (Except AuthError (User × TokenPair))}
    (path : Program.Path (Auth.login settings email password) exchanges
      (.ask (.abort reason) next)) :
    ∃ s₁ s₂ user later, exchanges =
        ⟨s₁, .store (.findUserByEmail (Auth.normalizeEmail email)), .ok user⟩ ::
          ⟨s₂, .verifyPassword password user.passwordHash, .ok true⟩ :: later ∧
      ∃ stamp now, ⟨stamp, .now, now⟩ ∈ later ∧
        ¬(now.addSeconds (settings.refreshDays * 86400)).InRange := by
  obtain ⟨s₁, found, exchanges, rfl, looking⟩ := path.past nofun
  rcases found with (_ | _ | text) | user
  · obtain ⟨s₂, verified, exchanges, rfl, wasted⟩ := looking.past nofun
    cases wasted.of_done.2
  · cases looking.of_done.2
  · cases looking.of_done.2
  · obtain ⟨s₂, verified, exchanges, rfl, verifying⟩ := looking.past nofun
    rcases verified with text | _ | _
    · cases verifying.of_done.2
    · cases verifying.of_done.2
    · obtain ⟨next', making⟩ := Program.Path.of_map_waiting verifying
      exact ⟨s₁, s₂, user, exchanges, rfl, generateTokens_abandoned making⟩

theorem login_asks_six (settings : Auth.Settings) (email password : String) :
    (Auth.login settings email password).AsksAtMost (fun _ => true) 6 := by
  refine ⟨by simp, fun found => ?_⟩
  rcases found with (_ | _ | _) | user
  · exact ⟨by simp, fun _ => trivial⟩
  · trivial
  · trivial
  · refine ⟨by simp, fun verified => ?_⟩
    rcases verified with text | _ | _
    · trivial
    · trivial
    · exact (generateTokens_asks_four settings user).map _

/-! ### What is asked for accounts and sessions -/

namespace AuthRequest

inductive MayAsk : AuthRequest → Op → Prop
  | lookUp {given : Registration} :
      MayAsk (.register given) (.store (.findUserByEmail (Auth.normalizeEmail given.email)))
  | hash {given : Registration} : MayAsk (.register given) (.hashPassword given.password)
  | create {given : Registration} (hash : String) :
      MayAsk (.register given) (.store (.createUser (given.newUser hash)))
  | find {email password : String} :
      MayAsk (.login email password) (.store (.findUserByEmail (Auth.normalizeEmail email)))
  | compare {email password : String} (hash : String) :
      MayAsk (.login email password) (.verifyPassword password hash)
  | take {token : String} :
      MayAsk (.refresh token) (.store (.takeRefreshToken (refreshDigest token)))
  | owner {token : String} (userId : Uuid) : MayAsk (.refresh token) (.store (.findUserById userId))
  | sign {request : AuthRequest} (user : User) : MayAsk request (.sign ⟨user.id, user.role⟩)
  | generate {request : AuthRequest} : MayAsk request .newRefreshToken
  | look {request : AuthRequest} : MayAsk request .now
  | store {request : AuthRequest} (new : NewRefreshToken) :
      MayAsk request (.store (.createRefreshToken new))
  | giveUp {request : AuthRequest} (reason : String) : MayAsk request (.abort reason)
  | logout {token : String} :
      MayAsk (.logout token) (.store (.deleteRefreshToken (refreshDigest token)))
  | revoke {token : String} :
      MayAsk (.revoke token) (.store (.deleteRefreshToken (refreshDigest token)))
  | logoutAll {userId : Uuid} :
      MayAsk (.logoutAll userId) (.store (.deleteUserRefreshTokens userId))
  | load {userId : Uuid} : MayAsk (.getUser userId) (.store (.findUserById userId))
  | validate {token : String} : MayAsk (.validate token) (.verify token)
  | sweep : MayAsk .sweep (.store .deleteExpiredRefreshTokens)

private theorem register_questions (given : Registration) :
    (Auth.register given).Asks (MayAsk (.register given)) := by
  refine ⟨.lookUp, fun found => ?_⟩
  rcases found with (_ | _ | _) | _
  · refine ⟨.hash, fun hashed => ?_⟩
    rcases hashed with _ | hash
    · trivial
    · refine ⟨.create hash, fun created => ?_⟩
      rcases created with (_ | _ | _) | _ <;> trivial
  · trivial
  · trivial
  · trivial

private theorem generateTokens_questions (settings : Auth.Settings) (user : User)
    (request : AuthRequest) :
    (Auth.generateTokens settings user).Asks request.MayAsk := by
  refine ⟨.sign user, fun signed => ?_⟩
  rcases signed with e | access
  · trivial
  · refine ⟨.generate, fun token => ⟨.look, fun now => ?_⟩⟩
    change ((Auth.daysFrom now settings.refreshDays).bind _).Asks _
    rcases Auth.daysFrom_cases now settings.refreshDays with ⟨-, later⟩ | ⟨-, reason, never⟩
    · rw [later]
      refine ⟨.store _, fun stored => ?_⟩
      cases stored <;> trivial
    · rw [never]
      exact ⟨.giveUp reason, nofun⟩

private theorem login_questions (settings : Auth.Settings) (email password : String) :
    (Auth.login settings email password).Asks (MayAsk (.login email password)) := by
  refine ⟨.find, fun found => ?_⟩
  rcases found with (_ | _ | _) | user
  · exact ⟨.compare _, fun _ => trivial⟩
  · trivial
  · trivial
  · refine ⟨.compare _, fun verified => ?_⟩
    rcases verified with text | _ | _
    · trivial
    · trivial
    · exact (generateTokens_questions settings user _).bind fun _ => trivial

private theorem refresh_questions (settings : Auth.Settings) (token : String) :
    (Auth.refresh settings token).Asks (MayAsk (.refresh token)) := by
  refine ⟨.take, fun taken => ?_⟩
  rcases taken with (_ | _ | _) | row
  · trivial
  · trivial
  · trivial
  · refine ⟨.look, fun now => ?_⟩
    change (ite _ _ _ : Program _).Asks _
    split
    · trivial
    · refine ⟨.owner _, fun found => ?_⟩
      rcases found with (_ | _ | _) | user
      · trivial
      · trivial
      · trivial
      · exact generateTokens_questions settings user _

/-- Every program of the service keeps to the questions of its request. -/
theorem program_asks (settings : Auth.Settings) (request : AuthRequest) :
    (request.program settings).Asks request.MayAsk := by
  cases request with
  | register given => exact register_questions given
  | login email password => exact login_questions settings email password
  | refresh token => exact refresh_questions settings token
  | logout token =>
      refine ⟨.logout, fun deleted => ?_⟩
      cases deleted <;> trivial
  | revoke token =>
      refine ⟨.revoke, fun deleted => ?_⟩
      cases deleted <;> trivial
  | logoutAll userId =>
      refine ⟨.logoutAll, fun deleted => ?_⟩
      cases deleted <;> trivial
  | getUser userId =>
      refine ⟨.load, fun found => ?_⟩
      rcases found with (_ | _ | _) | _ <;> trivial
  | validate token => exact ⟨.validate, fun _ => trivial⟩
  | sweep => exact ⟨.sweep, fun _ => trivial⟩

theorem creates_by_register (settings : Auth.Settings) (request : AuthRequest) :
    (request.program settings).Asks fun op => op.createsUser = true →
    ∃ given, request = .register given := by
  refine (request.program_asks settings).mono fun op asked creates => ?_
  cases asked with
  | @create given hash => exact ⟨given, rfl⟩
  | _ => cases creates

end AuthRequest

end StatusPage
