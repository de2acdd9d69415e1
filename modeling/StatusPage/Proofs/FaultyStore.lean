import StatusPage.Proofs.Services

/-!
Exchanging refresh tokens and logging in when things fail. A program runs alone, but each call of
the store may fail without effect, signing and hashing may fail, and the clock may show any time at
each question. An exchange that fails leaves neither the old token nor a new one; a login that fails
leaves the store as it was.
-/

set_option autoImplicit false

namespace StatusPage

open Store (Memory)

/-! ### A world that fails -/

/-- The world at one question, and the text with which the store fails, if it does. -/
structure Circumstance where
  moment : Moment
  fault : Option String

def Circumstance.call (circumstance : Circumstance) (call : Store.Call) (memory : Memory) :
    Except StoreError call.Result × Memory :=
  match circumstance.fault with
  | some text => (.error (.backend text), memory)
  | none => memory.perform circumstance.moment.stamp call

/-- The circumstances are those of the first question, the second, and so on; the
state counts the questions. -/
def unreliable (world : Nat → Circumstance) : Interpreter (Nat × Memory) where
  answer
    | .store call, (n, memory) =>
        (.value ((world n).call call memory).1, n + 1, ((world n).call call memory).2)
    | op, (n, memory) =>
        (((world n).moment.interpreter.answer op memory).1, n + 1,
          ((world n).moment.interpreter.answer op memory).2)

variable {α β : Type} (world : Nat → Circumstance) (n : Nat) (memory : Memory)

/-- How a program ends that begins with the n-th question, and the store after it. -/
def Program.endsIn (program : Program α) : Reply α × Memory :=
  ((program.run (unreliable world) (n, memory)).1, (program.run (unreliable world) (n, memory)).2.2)

namespace Program

private theorem endsIn_store (call : Store.Call)
    (next : Except StoreError call.Result → Program β) :
    (Program.store call >>= next).endsIn world n memory =
      (next ((world n).call call memory).1).endsIn world (n + 1) ((world n).call call memory).2 :=
  rfl

private theorem endsIn_now (next : Time.Instant → Program β) :
    (Program.perform .now >>= next).endsIn world n memory =
      (next (world n).moment.stamp.now).endsIn world (n + 1) memory := rfl

private theorem endsIn_newRefreshToken (next : String → Program β) :
    (Program.perform .newRefreshToken >>= next).endsIn world n memory =
      (next (world n).moment.refreshToken).endsIn world (n + 1) memory := rfl

private theorem endsIn_sign (identity : Identity)
    (next : Except AuthError (String × Int) → Program β) :
    (Program.perform (.sign identity) >>= next).endsIn world n memory =
      (next ((world n).moment.sign identity)).endsIn world (n + 1) memory := rfl

private theorem endsIn_verifyPassword (password hash : String)
    (next : Except String Bool → Program β) :
    (Program.perform (.verifyPassword password hash) >>= next).endsIn world n memory =
      (next ((world n).moment.verifyPassword password hash)).endsIn world (n + 1) memory := rfl

end Program

def Reply.map (f : α → β) : Reply α → Reply β
  | .value a => .value (f a)
  | .never => .never
  | .aborted reason => .aborted reason

private theorem Program.endsIn_map (program : Program α) (f : α → β) :
    (program.bind fun value => .done (f value)).endsIn world n memory =
      ((program.endsIn world n memory).1.map f, (program.endsIn world n memory).2) := by
  unfold endsIn
  generalize (n, memory) = state
  induction program generalizing state with
  | done value => rfl
  | ask op next ih =>
      simp only [bind, run]
      rcases (unreliable world).answer op state with ⟨answer | _ | reason, state'⟩
      · exact ih answer state'
      · rfl
      · rfl

/-! ### New tokens -/

def Store.Memory.withToken (memory : Memory) (token : RefreshToken) : Memory :=
  { memory with refreshTokens := token :: memory.refreshTokens }

/-- A refresh token is stored for a pair that is handed out at a time: by the digest of its text,
for its owner, until the end of its days. -/
structure RefreshToken.Backs (token : RefreshToken) (pair : TokenPair) (owner : Uuid)
    (settings : Auth.Settings) (now : Time.Instant) : Prop where
  digest : token.digest = refreshDigest pair.refreshToken
  userId : token.userId = owner
  expiresAt : token.expiresAt = now.addSeconds (settings.refreshDays * 86400)

inductive Issues (settings : Auth.Settings) (user : User) :
    Reply (Except AuthError TokenPair) × Memory → Prop
  | unsigned {e : AuthError} (failed : (world n).moment.sign ⟨user.id, user.role⟩ = .error e) :
      Issues settings user (.value (.error e), memory)
  | beyondCalendar (reason : String) : Issues settings user (.aborted reason, memory)
  | unstored (context : String) : Issues settings user (.value (.error (.internal context)), memory)
  | issued {pair : TokenPair} {row : RefreshToken}
      (signed : (world n).moment.sign ⟨user.id, user.role⟩ =
        .ok (pair.accessToken, pair.expiresIn))
      (backs : row.Backs pair user.id settings (world (n + 2)).moment.stamp.now) :
      Issues settings user (.value (.ok pair), memory.withToken row)

private theorem Circumstance.call_createRefreshToken (circumstance : Circumstance)
    (new : NewRefreshToken) :
    (∃ e, circumstance.call (.createRefreshToken new) memory = (.error e, memory)) ∨
      ∃ row, circumstance.call (.createRefreshToken new) memory = (.ok row,
        memory.withToken row) ∧
        row.digest = new.digest ∧ row.userId = new.userId ∧ row.expiresAt = new.expiresAt := by
  unfold call
  cases circumstance.fault with
  | some text => exact .inl ⟨_, rfl⟩
  | none =>
      simp only [Memory.perform, Memory.createRefreshToken]
      split
      · exact .inl ⟨_, rfl⟩
      · split
        · exact .inl ⟨_, rfl⟩
        · exact .inr ⟨_, rfl, rfl, rfl, rfl⟩

private theorem generateTokens_issues (settings : Auth.Settings) (user : User) :
    Issues world n memory settings user
      ((Auth.generateTokens settings user).endsIn world n memory) := by
  unfold Auth.generateTokens
  rw [Program.endsIn_sign]
  cases signed : (world n).moment.sign ⟨user.id, user.role⟩ with
  | error e => exact .unsigned signed
  | ok access =>
      dsimp only
      rw [Program.endsIn_newRefreshToken, Program.endsIn_now]
      rcases Auth.daysFrom_cases (world (n + 2)).moment.stamp.now settings.refreshDays with
        ⟨-, later⟩ | ⟨-, reason, never⟩
      · rw [later]
        change Issues world n memory settings user
          ((Program.store _ >>= _).endsIn world (n + 3) memory)
        rw [Program.endsIn_store]
        rcases (world (n + 3)).call_createRefreshToken memory _ with
          ⟨e, failed⟩ | ⟨row, stored, digest, owner, expires⟩
        · rw [failed]
          exact .unstored _
        · rw [stored]
          exact .issued signed ⟨digest, owner, expires⟩
      · rw [never]
        exact .beyondCalendar reason

/-! ### Exchanging a token -/

def Store.Memory.withoutToken (memory : Memory) (text : String) : Memory :=
  memory.dropRefreshTokens fun token => token.digest == refreshDigest text

/-- The first call of an exchange succeeds and hands over the row of the token. -/
def Taken (text : String) (old : RefreshToken) : Prop :=
  ((world 0).call (.takeRefreshToken (refreshDigest text)) memory).1 = .ok old

/-- A failure for a reason of its own, or with the very error with which
signing for a user has failed. -/
def Refusal (e : AuthError) : Prop :=
  e = .invalidToken ∨ (∃ context, e = .internal context) ∨
    ∃ user ∈ memory.users, (world 3).moment.sign ⟨user.id, user.role⟩ = .error e

private theorem Circumstance.call_takeRefreshToken (circumstance : Circumstance) (text : String) :
    (∃ e, circumstance.call (.takeRefreshToken (refreshDigest text)) memory =
      (.error e, memory)) ∨
      ∃ old ∈ memory.refreshTokens, old.digest = refreshDigest text ∧
        circumstance.call (.takeRefreshToken (refreshDigest text)) memory =
          (.ok old, memory.withoutToken text) := by
  unfold call
  cases circumstance.fault with
  | some text => exact .inl ⟨_, rfl⟩
  | none =>
      simp only [Memory.perform, Memory.takeRefreshToken]
      split
      · exact .inl ⟨_, rfl⟩
      · rename_i old found
        have digest : old.digest = refreshDigest text := by simpa using List.find?_some found
        exact .inr ⟨old, List.mem_of_find?_eq_some found, digest, rfl⟩

private theorem Circumstance.call_findUserById (circumstance : Circumstance) (id : Uuid) :
    (∃ e, circumstance.call (.findUserById id) memory = (.error e, memory)) ∨
      ∃ user, circumstance.call (.findUserById id) memory = (.ok user, memory) ∧
        (memory.users.find? fun user => user.id == id) = some user := by
  unfold call
  cases circumstance.fault with
  | some text => exact .inl ⟨_, rfl⟩
  | none =>
      simp only [Memory.perform, Memory.reading]
      split
      · exact .inr ⟨_, rfl, ‹_›⟩
      · exact .inl ⟨_, rfl⟩

private theorem Circumstance.call_findUserByEmail (circumstance : Circumstance) (email : String) :
    (circumstance.call (.findUserByEmail email) memory).2 = memory := by
  unfold call
  cases circumstance.fault with
  | some text => rfl
  | none => rfl

inductive Rotation (settings : Auth.Settings) (text : String) :
    Reply (Except AuthError TokenPair) × Memory → Prop
  | untaken {e : AuthError} (never : ∀ old, ¬ Taken world memory text old)
      (refusal : Refusal world memory e) :
      Rotation settings text (.value (.error e), memory)
  | refused {old : RefreshToken} {e : AuthError} (taken : Taken world memory text old)
      (refusal : Refusal world memory e) :
      Rotation settings text (.value (.error e), memory.withoutToken text)
  | beyondCalendar {old : RefreshToken} (taken : Taken world memory text old) (reason : String) :
      Rotation settings text (.aborted reason, memory.withoutToken text)
  | granted {old : RefreshToken} {user : User} {row : RefreshToken} {pair : TokenPair}
      (taken : Taken world memory text old) (member : old ∈ memory.refreshTokens)
      (digest : old.digest = refreshDigest text)
      (owner : (memory.users.find? fun user => user.id == old.userId) = some user)
      (signed : (world 3).moment.sign ⟨old.userId, user.role⟩ =
        .ok (pair.accessToken, pair.expiresIn))
      (backs : row.Backs pair old.userId settings (world 5).moment.stamp.now) :
      Rotation settings text (.value (.ok pair), (memory.withoutToken text).withToken row)

private theorem refresh_rotation (settings : Auth.Settings) (text : String) :
    Rotation world memory settings text ((Auth.refresh settings text).endsIn world 0 memory) := by
  unfold Auth.refresh
  rw [Program.endsIn_store]
  rcases (world 0).call_takeRefreshToken memory text with ⟨e, failed⟩ | ⟨old, member,
    digest, succeeded⟩
  · have never (old : RefreshToken) : ¬ Taken world memory text old := by
      intro taken
      rw [Taken, failed] at taken
      cases taken
    rw [failed]
    cases e with
    | notFound => exact .untaken never (.inl rfl)
    | alreadyExists => exact .untaken never (.inr (.inl ⟨_, rfl⟩))
    | backend text => exact .untaken never (.inr (.inl ⟨_, rfl⟩))
  · -- The row is gone from here on, so each of the ends below has the store without it.
    have taken : Taken world memory text old := congrArg Prod.fst succeeded
    rw [succeeded]
    dsimp only
    rw [Program.endsIn_now]
    by_cases expired : old.isExpired (world 1).moment.stamp.now
    · rw [if_pos expired]
      exact .refused taken (.inl rfl)
    · rw [if_neg expired, Program.endsIn_store]
      rcases (world 2).call_findUserById (memory.withoutToken text) old.userId with
        ⟨e, failed⟩ | ⟨user, found, owner⟩
      · rw [failed]
        cases e with
        | notFound => exact .refused taken (.inl rfl)
        | alreadyExists => exact .refused taken (.inr (.inl ⟨_, rfl⟩))
        | backend text => exact .refused taken (.inr (.inl ⟨_, rfl⟩))
      · rw [found]
        have same : user.id = old.userId := by simpa using List.find?_some owner
        have issues := generateTokens_issues world 3 (memory.withoutToken text) settings user
        change Rotation world memory settings text
          ((Auth.generateTokens settings user).endsIn world 3 (memory.withoutToken text))
        generalize (Auth.generateTokens settings user).endsIn world 3 (memory.withoutToken text) =
          outcome
          at issues ⊢
        cases issues with
        | unsigned failed =>
            have member : user ∈ memory.users := List.mem_of_find?_eq_some owner
            exact .refused taken (.inr (.inr ⟨user, member, failed⟩))
        | beyondCalendar reason => exact .beyondCalendar taken reason
        | unstored context => exact .refused taken (.inr (.inl ⟨context, rfl⟩))
        | issued signed backs =>
            rw [same] at signed backs
            exact .granted taken member digest owner signed backs

/-! ### Logging in -/

inductive Admission (settings : Auth.Settings) :
    Reply (Except AuthError (User × TokenPair)) × Memory → Prop
  | refused (e : AuthError) : Admission settings (.value (.error e), memory)
  | beyondCalendar (reason : String) : Admission settings (.aborted reason, memory)
  | admitted {user : User} {tokens : TokenPair} {row : RefreshToken}
      (backs : row.Backs tokens user.id settings (world 4).moment.stamp.now) :
      Admission settings (.value (.ok (user, tokens)), memory.withToken row)

private theorem login_admission (settings : Auth.Settings) (email password : String) :
    Admission world memory settings
      ((Auth.login settings email password).endsIn world 0 memory) := by
  unfold Auth.login
  rw [Program.endsIn_store, (world 0).call_findUserByEmail memory]
  cases ((world 0).call (.findUserByEmail (Auth.normalizeEmail email)) memory).1 with
  | error e => cases e <;> exact .refused _
  | ok user =>
      dsimp only
      rw [Program.endsIn_verifyPassword]
      rcases (world 1).moment.verifyPassword password user.passwordHash with text | _ | _
      · exact .refused _
      · exact .refused _
      · have issues := generateTokens_issues world 2 memory settings user
        change Admission world memory settings
          (((Auth.generateTokens settings user).bind fun tokens =>
          .done (tokens.map fun tokens => (user, tokens))).endsIn world 2 memory)
        rw [Program.endsIn_map]
        generalize (Auth.generateTokens settings user).endsIn world 2 memory = outcome at issues
        cases issues with
        | unsigned failed => exact .refused _
        | beyondCalendar reason => exact .beyondCalendar reason
        | unstored context => exact .refused _
        | issued signed backs => exact .admitted backs

/-! ### Failing closed -/

/-- An exchange that goes as it should, whatever fails. -/
structure RotatesOrRefuses (settings : Auth.Settings) (text : String)
    (outcome : Reply (Except AuthError TokenPair) × Memory) : Prop where
  /-- A pair is handed out for the old row, which is gone then, and exactly one row is new. The
  access token is for the owner, with the role that the store has. -/
  granted : ∀ pair, outcome.1 = .value (.ok pair) →
    ∃ old ∈ memory.refreshTokens, ∃ user row, old.digest = refreshDigest text ∧
      (memory.users.find? fun user => user.id == old.userId) = some user ∧
      (world 3).moment.sign ⟨old.userId, user.role⟩ = .ok (pair.accessToken, pair.expiresIn) ∧
      row.Backs pair old.userId settings (world 5).moment.stamp.now ∧
      outcome.2 = (memory.withoutToken text).withToken row
  refused : ∀ e, outcome.1 = .value (.error e) →
    (outcome.2 = memory ∨ outcome.2 = memory.withoutToken text) ∧ Refusal world memory e
  /-- A signer that fails for users in no other way, as one with keys of its own does, adds no other
  kind of error. -/
  internal : (∀ user ∈ memory.users, ∀ e,
    (world 3).moment.sign ⟨user.id, user.role⟩ = .error e →
    e = .invalidToken ∨ ∃ context, e = .internal context) →
    ∀ e, outcome.1 = .value (.error e) → e = .invalidToken ∨
      ∃ context, e = .internal context
  /-- A row that has been taken does not come back. -/
  taken : ∀ old, Taken world memory text old →
    outcome.2 = memory.withoutToken text ∨
      ∃ pair row, outcome.1 = .value (.ok pair) ∧
        outcome.2 = (memory.withoutToken text).withToken row
  untaken : (∀ old, ¬ Taken world memory text old) → outcome.2 = memory

private theorem Refusal.of_internal {e : AuthError} (refusal : Refusal world memory e)
    (signer : ∀ user ∈ memory.users, ∀ e,
      (world 3).moment.sign ⟨user.id, user.role⟩ = .error e →
      e = .invalidToken ∨ ∃ context, e = .internal context) :
    e = .invalidToken ∨ ∃ context, e = .internal context := by
  rcases refusal with invalid | internal | ⟨user, member, failed⟩
  · exact .inl invalid
  · exact .inr internal
  · exact signer user member e failed

private theorem Rotation.rotatesOrRefuses {settings : Auth.Settings} {text : String}
    {outcome : Reply (Except AuthError TokenPair) × Memory}
    (rotation : Rotation world memory settings text outcome) :
    RotatesOrRefuses world memory settings text outcome := by
  cases rotation with
  | untaken never refusal =>
      refine ⟨nofun, ?_, ?_, fun old taken => absurd taken (never old), fun _ => rfl⟩
      · rintro e ⟨⟩
        exact ⟨.inl rfl, refusal⟩
      · rintro signer e ⟨⟩
        exact refusal.of_internal world memory signer
  | refused taken refusal =>
      refine ⟨nofun, ?_, ?_, fun _ _ => .inl rfl, fun never => absurd taken (never _)⟩
      · rintro e ⟨⟩
        exact ⟨.inr rfl, refusal⟩
      · rintro signer e ⟨⟩
        exact refusal.of_internal world memory signer
  | beyondCalendar taken reason =>
      exact ⟨nofun, nofun, fun _ => nofun, fun _ _ => .inl rfl,
        fun never => absurd taken (never _)⟩
  | granted taken member digest owner signed backs =>
      refine
        ⟨?_, nofun, fun _ => nofun, fun _ _ => .inr ⟨_, _, rfl, rfl⟩,
          fun never => absurd taken (never _)⟩
      rintro pair ⟨⟩
      exact ⟨_, member, _, _, digest, owner, signed, backs, rfl⟩

/-- A login that adds the row of the token that it hands out, or nothing. -/
structure AdmitsOrRefuses (settings : Auth.Settings)
    (outcome : Reply (Except AuthError (User × TokenPair)) × Memory) : Prop where
  admitted : ∀ user tokens, outcome.1 = .value (.ok (user, tokens)) →
    ∃ row, row.Backs tokens user.id settings (world 4).moment.stamp.now ∧
      outcome.2 = memory.withToken row
  otherwise : (∀ result, outcome.1 ≠ .value (.ok result)) → outcome.2 = memory

private theorem Admission.admitsOrRefuses {settings : Auth.Settings}
    {outcome : Reply (Except AuthError (User × TokenPair)) × Memory}
    (admission : Admission world memory settings outcome) :
    AdmitsOrRefuses world memory settings outcome := by
  cases admission with
  | refused e => exact ⟨nofun, fun _ => rfl⟩
  | beyondCalendar reason => exact ⟨nofun, fun _ => rfl⟩
  | admitted backs =>
      refine ⟨?_, fun never => absurd rfl (never _)⟩
      rintro user tokens ⟨⟩
      exact ⟨_, backs, rfl⟩

/-- Whichever calls of the store fail, and whatever the signer says: an exchange hands out new
tokens for the old one or adds none, and a login adds what it hands out or nothing. -/
theorem rotation_fails_closed (settings : Auth.Settings) (text email password : String) :
    RotatesOrRefuses world memory settings text
      ((Auth.refresh settings text).endsIn world 0 memory) ∧
      AdmitsOrRefuses world memory settings
        ((Auth.login settings email password).endsIn world 0 memory) := by
  constructor
  · exact (refresh_rotation world memory settings text).rotatesOrRefuses
  · exact (login_admission world memory settings email password).admitsOrRefuses

def oneSession : Memory :=
  { Memory.empty with
    users :=
      [⟨.ofNat 1, "mo@example.org", "secret", none, none, "moderator", ⟨0, 0⟩, ⟨0, 0⟩⟩]
    refreshTokens := [⟨.ofNat 2, .ofNat 1, refreshDigest "old", ⟨100, 0⟩, ⟨0, 0⟩⟩] }

def failingAt (question : Nat) (n : Nat) : Circumstance :=
  ⟨.plain n n, if n = question then some "gone" else none⟩

def unsigning (e : AuthError) (n : Nat) : Circumstance :=
  ⟨{ Moment.plain n n with sign := fun _ => .error e }, none⟩

/-- The session is lost when the new row cannot be stored or nothing can be
signed, and goes on otherwise. -/
theorem rotation_unstored :
    ((Auth.refresh ⟨7, ""⟩ "old").endsIn (failingAt 6) 0 oneSession).2.refreshTokens = [] ∧
      RotatesOrRefuses (failingAt 6) oneSession ⟨7, ""⟩ "old"
        ((Auth.refresh ⟨7, ""⟩ "old").endsIn (failingAt 6) 0 oneSession) ∧
      ((Auth.refresh ⟨7, ""⟩ "old").endsIn (unsigning (.internal "no key")) 0
        oneSession).2.refreshTokens = [] ∧
      (∀ e, ((Auth.refresh ⟨7, ""⟩ "old").endsIn (unsigning (.internal "no key")) 0
        oneSession).1 = .value (.error e) →
        e = .invalidToken ∨ ∃ context, e = .internal context) ∧
      ((Auth.refresh ⟨7, ""⟩ "old").endsIn (failingAt 9) 0 oneSession).2.refreshTokens =
        [⟨.ofNat 6, .ofNat 1, refreshDigest "rrrr", ⟨604805, 0⟩, ⟨6, 0⟩⟩] ∧
      RotatesOrRefuses (failingAt 9) oneSession ⟨7, ""⟩ "old"
        ((Auth.refresh ⟨7, ""⟩ "old").endsIn (failingAt 9) 0 oneSession) := by
  refine ⟨by decide +kernel, ?_, by decide +kernel, ?_, by decide +kernel, ?_⟩
  · exact (rotation_fails_closed (failingAt 6) oneSession ⟨7, ""⟩ "old" "" "").1
  · apply (rotation_fails_closed (unsigning (.internal "no key")) oneSession ⟨7, ""⟩
      "old" "" "").1.internal
    rintro user member e ⟨⟩
    exact .inr ⟨"no key", rfl⟩
  · exact (rotation_fails_closed (failingAt 9) oneSession ⟨7, ""⟩ "old" "" "").1

def flawless (n : Nat) : Circumstance := ⟨.plain n n, none⟩

/-- A signer may fail in other ways, and an exchange hands its error on. An exchange
whose new token would expire after the end of the calendar ends with no error at all.
Both have used the old token up. -/
theorem rotation_otherwise :
    ((Auth.refresh ⟨7, ""⟩ "old").endsIn (unsigning .tokenExpired) 0
      oneSession).2.refreshTokens = [] ∧
      ((Auth.refresh ⟨7, ""⟩ "old").endsIn (unsigning .tokenExpired) 0 oneSession).1 =
        .value (.error .tokenExpired) ∧
      AuthError.tokenExpired ≠ .invalidToken ∧
      (∀ context, AuthError.tokenExpired ≠ .internal context) ∧
      ((Auth.refresh ⟨1000000000, ""⟩ "old").endsIn flawless 0 oneSession).2.refreshTokens =
        [] ∧
      ((Auth.refresh ⟨1000000000, ""⟩ "old").endsIn flawless 0 oneSession).1 =
        .aborted "`DateTime + TimeDelta` overflowed" :=
  ⟨by decide +kernel, by decide +kernel, nofun, nofun, by decide +kernel, by decide +kernel⟩

end StatusPage
