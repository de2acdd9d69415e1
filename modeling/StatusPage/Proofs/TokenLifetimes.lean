import StatusPage.Proofs.ConfiguredNumbers
import StatusPage.Proofs.KeyRotation
import StatusPage.Proofs.Services

/-!
Lifetimes of tokens, as they are configured and as they come out. A setting may be any number of 64
bits, and nothing compares it with what is made of it later: minutes become seconds, seconds are
added to the clock, and days are added to a date. Each of these has a range of its own. Here it is
said for which settings and at which times all of it is exact.
-/

set_option autoImplicit false

namespace StatusPage

open Time (Instant)
open Text (int64Min int64Max)
open Store (Stamp)

def FitsInt64 (n : Int) : Prop := int64Min ≤ n ∧ n ≤ int64Max

instance (n : Int) : Decidable (FitsInt64 n) := inferInstanceAs (Decidable (_ ∧ _))

private theorem Auth.wrap64_eq_iff {n : Int} : wrap64 n = n ↔ FitsInt64 n := by
  constructor
  · intro same
    rw [← same]
    exact wrap64_bounds n
  · exact wrap64_of_bounds

/-! ### Which settings there are -/

theorem Text.Denotes.most {lowest highest n : Int} {text : List Char}
    (denotes : Denotes lowest highest text n) (zeroBelow : 0 ≤ highest) : n ≤ highest := by
  cases denotes with
  | plain _ _ most => exact most
  | positive _ _ most => exact most
  | negative => exact Int.le_trans (Int.neg_nonpos_of_nonneg (Int.natCast_nonneg _)) zeroBelow

namespace Config

open Text (Denotes decimalInt)

private theorem NumberVariable.Gives.fitsInt64 {number : NumberVariable} {env : Environment}
    {n : Int} (gives : number.Gives env n) (defaulted : FitsInt64 number.default)
    (least : number.least = int64Min) (most : number.most = int64Max) : FitsInt64 n := by
  cases gives with
  | unset => exact defaulted
  | written _ denotes =>
      rw [least, most] at denotes
      exact ⟨denotes.least, denotes.most (by decide)⟩

def ofLifetimes (minutes days : Int) : Environment :=
  [("JWT_SECRET", "secret"), ("JWT_ACCESS_EXPIRY_MINS", String.ofList (decimalInt minutes)),
    ("JWT_REFRESH_EXPIRY_DAYS", String.ofList (decimalInt days))]

private theorem load_ofLifetimes {minutes days : Int} (fits : FitsInt64 minutes)
    (fits' : FitsInt64 days) :
    Jwt.load (ofLifetimes minutes days) = .ok ⟨"primary", "secret", [], minutes, days⟩ := by
  have written {n : Int} (fits : FitsInt64 n) :
      Denotes int64Min int64Max (String.ofList (decimalInt n)).toList n := by
    rw [String.toList_ofList]
    exact Text.denotes_decimalInt fits.1 fits.2
  exact Jwt.load_eq_ok_iff.mpr ⟨"secret", rfl, by decide, [], rfl, minutes,
    .written rfl (written fits), days, .written rfl (written fits'), rfl⟩

private theorem loaded_lifetimes_iff {minutes days : Int} :
    (∃ env jwt, Jwt.load env = .ok jwt ∧ jwt.accessMinutes = minutes ∧
      jwt.refreshDays = days) ↔
      FitsInt64 minutes ∧ FitsInt64 days := by
  constructor
  · rintro ⟨env, jwt, loaded, rfl, rfl⟩
    obtain ⟨_, _, _, _, _, minutes, first, days, second, rfl⟩ := Jwt.load_eq_ok_iff.mp loaded
    exact ⟨first.fitsInt64 (by decide) rfl rfl, second.fitsInt64 (by decide) rfl rfl⟩
  · rintro ⟨fits, fits'⟩
    exact ⟨_, _, load_ofLifetimes fits fits', rfl, rfl⟩

end Config

/-! ### Access tokens -/

namespace Auth

open Json (Reader)

def Carries (token : String) (claims : Claims) : Prop :=
  ∃ parts, TokenParts.ofText? token = some parts ∧
    decodePart (Reader.record Claims.fields) parts.claims = some claims

theorem Carries.unique {token : String} {claims others : Claims} (carries : Carries token claims)
    (also : Carries token others) : claims = others := by
  obtain ⟨parts, split, read⟩ := carries
  obtain ⟨parts', split', read'⟩ := also
  cases split.symm.trans split'
  exact Option.some.inj (read.symm.trans read')

private theorem Keyring.sign_carries (keyring : Keyring) {now : Int} (time : FitsInt64 now)
    (tokenId : String) (identity : Identity) :
    Carries (keyring.sign now tokenId identity).1 (keyring.claimsFor now tokenId identity) :=
  ⟨_, keyring.ofText?_sign now tokenId identity,
    Claims.read_toJson (keyring.claimsFor_bounded tokenId identity time)⟩

end Auth

namespace Config.Jwt

/-- Every token that is signed now has an end that is the configured minutes after its beginning,
which is now, and is returned with that many seconds. -/
def SignsExactly (jwt : Jwt) (now : Int) : Prop :=
  ∀ tokenId identity, ∃ token claims,
    jwt.keyring.sign now tokenId identity = (token, 60 * jwt.accessMinutes) ∧
    Auth.Carries token claims ∧ claims.issued = now ∧
    claims.expires = claims.issued + 60 * jwt.accessMinutes

theorem signsExactly_iff {jwt : Jwt} {now : Int} (time : FitsInt64 now) :
    jwt.SignsExactly now ↔ FitsInt64 (60 * jwt.accessMinutes) ∧
    FitsInt64 (now + 60 * jwt.accessMinutes) := by
  have seconds : jwt.keyring.lifetime = Auth.wrap64 (60 * jwt.accessMinutes) := by
    rw [Int.mul_comm]
    rfl
  constructor
  · intro exactly
    obtain ⟨token, claims, signed, carries, issued, expires⟩ := exactly "" ⟨.ofNat 0, ""⟩
    have lifetime : jwt.keyring.lifetime = 60 * jwt.accessMinutes := congrArg Prod.snd signed
    -- The claims can be read back, whether or not their end has wrapped around.
    have made := jwt.keyring.sign_carries time "" ⟨.ofNat 0, ""⟩
    rw [signed] at made
    cases made.unique carries
    refine ⟨Auth.wrap64_eq_iff.mp (seconds.symm.trans lifetime), Auth.wrap64_eq_iff.mp ?_⟩
    rw [← lifetime] at expires ⊢
    exact expires
  · rintro ⟨fits, fits'⟩ tokenId identity
    have lifetime : jwt.keyring.lifetime = 60 * jwt.accessMinutes :=
      seconds.trans (Auth.wrap64_eq_iff.mpr fits)
    refine ⟨_, _, Prod.ext rfl lifetime,
      jwt.keyring.sign_carries time tokenId identity, rfl, ?_⟩
    change Auth.wrap64 (now + jwt.keyring.lifetime) = now + 60 * jwt.accessMinutes
    rw [lifetime]
    exact Auth.wrap64_eq_iff.mpr fits'

end Config.Jwt

/-! ### Refresh tokens -/

private theorem Program.Path.of_nil {α : Type} {program rest : Program α}
    (path : Path program [] rest) : rest = program := by
  cases path
  rfl

namespace Auth

/-- The answers up to the present time that a program for new tokens gets
when a token can be signed. -/
def answersUpTo (now : Instant) (user : User) (access : String × Int) (refreshToken : String)
    (stamps : Stamp × Stamp × Stamp) : List Exchange :=
  [⟨stamps.1, .sign ⟨user.id, user.role⟩, .ok access⟩,
    ⟨stamps.2.1, .newRefreshToken, refreshToken⟩, ⟨stamps.2.2, .now, now⟩]

/-- A program for new tokens dates the refresh token by its third answer, and then stores it. -/
theorem generateTokens_dates (settings : Settings) (now : Instant) (user : User)
    (access : String × Int) (refreshToken : String) (stamps : Stamp × Stamp × Stamp) :
    ∃ next : Instant → Program (Except AuthError TokenPair),
      (∀ expiresAt, ∃ stored,
        next expiresAt =
          .ask (.store (.createRefreshToken ⟨user.id, refreshDigest refreshToken, expiresAt⟩))
          stored) ∧
      ∀ rest, Program.Path (generateTokens settings user) (answersUpTo now user access
        refreshToken stamps) rest ↔
        rest = (daysFrom now settings.refreshDays).bind next := by
  refine ⟨fun expiresAt =>
    (Program.store (.createRefreshToken ⟨user.id, refreshDigest refreshToken, expiresAt⟩)).bind
    fun
      | .error e => .done (.error (failed "storing refresh token" e))
      | .ok _ => .done (.ok ⟨access.1, refreshToken, access.2⟩), fun expiresAt => ⟨_, rfl⟩,
        fun rest => ⟨?_, ?_⟩⟩
  · rintro (_ | ⟨_, _ | ⟨_, _ | ⟨_, dating⟩⟩⟩)
    exact dating.of_nil
  · rintro rfl
    exact .cons stamps.1 (.cons stamps.2.1 (.cons stamps.2.2 (.nil _)))

private theorem Settings.refreshDays_of_made {days : Int} {dummyHash : String} {settings : Settings}
    (made : Settings.ofDays days dummyHash = .ok settings) : settings.refreshDays = days := by
  unfold Settings.ofDays at made
  split at made
  · cases made
    rfl
  · cases made

private theorem Settings.ofDays_of_inRange {now : Instant} {days : Int} (inRange : now.InRange)
    (ends : (now.addSeconds (days * 86400)).InRange) (dummyHash : String) :
    Settings.ofDays days dummyHash = .ok ⟨days, dummyHash⟩ := by
  have calendar : Instant.lastSecond - Instant.firstSecond ≤ longestDelay := by decide +kernel
  obtain ⟨first, last⟩ := inRange
  have first' : Instant.firstSecond ≤ now.seconds + days * 86400 := ends.1
  have last' : now.seconds + days * 86400 ≤ Instant.lastSecond := ends.2
  exact if_pos (by omega)

end Auth

namespace Config.Jwt

/-- The service for sessions can be set up, and when new tokens are made now, it stores a refresh
token that ends the configured days from now. -/
def DatesExactly (jwt : Jwt) (now : Instant) : Prop :=
  ∀ dummyHash, ∃ settings, Auth.Settings.ofDays jwt.refreshDays dummyHash = .ok settings ∧
    ∀ user access refreshToken stamps, ∃ stored,
      Program.Path (Auth.generateTokens settings user)
        (Auth.answersUpTo now user access refreshToken stamps)
        (.ask (.store (.createRefreshToken
          ⟨user.id, refreshDigest refreshToken,
            now.addSeconds (86400 * jwt.refreshDays)⟩)) stored)

/-- When new tokens are made now, the program gives up instead of storing a refresh token. -/
def GivesUp (jwt : Jwt) (now : Instant) : Prop :=
  ∀ dummyHash settings, Auth.Settings.ofDays jwt.refreshDays dummyHash = .ok settings →
    ∀ user access refreshToken stamps, ∃ reason gone,
      Program.Path (Auth.generateTokens settings user)
        (Auth.answersUpTo now user access refreshToken stamps)
        (.ask (.abort reason) gone)

theorem givesUp_of_outside {jwt : Jwt} {now : Instant}
    (outside : ¬(now.addSeconds (86400 * jwt.refreshDays)).InRange) : jwt.GivesUp now := by
  intro dummyHash settings made user access refreshToken stamps
  obtain ⟨next, -, goesOn⟩ :=
    Auth.generateTokens_dates settings now user access refreshToken stamps
  rw [Auth.Settings.refreshDays_of_made made] at goesOn
  rw [Int.mul_comm] at outside
  rcases Auth.daysFrom_cases now jwt.refreshDays with ⟨within, -⟩ | ⟨-, reason, never⟩
  · exact absurd within outside
  · have path := (goesOn _).mpr rfl
    rw [never] at path
    exact ⟨reason, _, path⟩

theorem datesExactly_iff {jwt : Jwt} {now : Instant} (inRange : now.InRange) :
    jwt.DatesExactly now ↔ (now.addSeconds (86400 * jwt.refreshDays)).InRange := by
  unfold DatesExactly
  rw [Int.mul_comm 86400]
  constructor
  · intro exactly
    obtain ⟨settings, made, dated⟩ := exactly ""
    let anyone : User := ⟨.ofNat 0, "", "", none, none, "", now, now⟩
    let stamp : Stamp := ⟨now, .ofNat 0⟩
    obtain ⟨next, -, goesOn⟩ :=
      Auth.generateTokens_dates settings now anyone ("", 0) "" (stamp, stamp, stamp)
    obtain ⟨stored, path⟩ := dated anyone ("", 0) "" (stamp, stamp, stamp)
    have asked := (goesOn _).mp path
    rw [Auth.Settings.refreshDays_of_made made] at asked
    rcases Auth.daysFrom_cases now jwt.refreshDays with ⟨within, -⟩ | ⟨-, reason, never⟩
    · exact within
    · rw [never] at asked
      cases asked
  · intro ends dummyHash
    refine ⟨_, Auth.Settings.ofDays_of_inRange inRange ends dummyHash,
      fun user access refreshToken stamps => ?_⟩
    obtain ⟨next, stores, goesOn⟩ :=
      Auth.generateTokens_dates ⟨jwt.refreshDays, dummyHash⟩ now user access refreshToken stamps
    obtain ⟨stored, asks⟩ := stores (now.addSeconds (jwt.refreshDays * 86400))
    refine ⟨stored, (goesOn _).mpr ?_⟩
    rw [Auth.daysFrom, if_pos ends]
    exact asks.symm

end Config.Jwt

/-! ### Both -/

open Config (Jwt ofLifetimes)

/-- The lifetimes that are accepted as settings are all numbers of 64 bits. A token is signed for
exactly the configured minutes if and only if as many seconds, and the point in time that many
seconds from now, are numbers of 64 bits. A refresh token is stored for exactly the configured days
if and only if its end is in the calendar; otherwise whoever makes new tokens gives up. -/
theorem lifetimes_exact (minutes days : Int) (now : Instant) (inRange : now.InRange) :
    ((∃ env jwt,
      Jwt.load env = .ok jwt ∧ jwt.accessMinutes = minutes ∧ jwt.refreshDays = days) ↔
      FitsInt64 minutes ∧ FitsInt64 days) ∧
      ∀ jwt : Jwt, jwt.accessMinutes = minutes → jwt.refreshDays = days →
        (jwt.SignsExactly now.seconds ↔ FitsInt64 (60 * minutes) ∧
          FitsInt64 (now.seconds + 60 * minutes)) ∧
        (jwt.DatesExactly now ↔ (now.addSeconds (86400 * days)).InRange) ∧
        (¬jwt.DatesExactly now → jwt.GivesUp now) := by
  refine ⟨Config.loaded_lifetimes_iff, ?_⟩
  rintro jwt rfl rfl
  have dates := jwt.datesExactly_iff inRange
  exact ⟨Jwt.signsExactly_iff inRange.int64, dates,
    fun inexact => Jwt.givesUp_of_outside fun ends => inexact (dates.mpr ends)⟩

/-- The longest lifetimes that are exact at a time, with those that are
longer by a minute and by a day. -/
theorem longestLifetimes_exact :
    let now : Instant := ⟨1700000000, 0⟩
    let jwt : Jwt := ⟨"primary", "secret", [], 153722867252579596, 95006561⟩
    let longer : Jwt := ⟨"primary", "secret", [], 153722867252579597, 95006562⟩
    Jwt.load (ofLifetimes 153722867252579596 95006561) = .ok jwt ∧
    jwt.SignsExactly now.seconds ∧
      jwt.DatesExactly now ∧ ¬longer.SignsExactly now.seconds ∧ longer.GivesUp now := by
  intro now jwt longer
  have inRange : now.InRange := by decide +kernel
  obtain ⟨signs, dates, -⟩ :=
    (lifetimes_exact 153722867252579596 95006561 now inRange).2 jwt rfl rfl
  obtain ⟨signs', dates', givesUp⟩ :=
    (lifetimes_exact 153722867252579597 95006562 now inRange).2 longer rfl rfl
  refine ⟨Config.load_ofLifetimes (by decide) (by decide), signs.mpr (by decide),
    dates.mpr (by decide +kernel), ?_, ?_⟩
  · exact fun exactly => absurd (signs'.mp exactly) (by decide)
  · exact givesUp fun exactly => absurd (dates'.mp exactly) (by decide +kernel)

/-- Settings that are accepted: tokens are signed for a time that lies in the
past, and every login gives up. -/
theorem hugeLifetimes_inexact :
    let now : Instant := ⟨1700000000, 0⟩
    ∃ jwt, Jwt.load (ofLifetimes 153722867280912931 1000000000) = .ok jwt ∧ now.InRange ∧
      jwt.keyring.lifetime < 0 ∧
      ¬jwt.SignsExactly now.seconds ∧
      Auth.Settings.ofDays jwt.refreshDays "" = .ok ⟨1000000000, ""⟩ ∧
      ¬jwt.DatesExactly now ∧ jwt.GivesUp now := by
  intro now
  have inRange : now.InRange := by decide +kernel
  have outside : ¬(now.addSeconds (86400 * 1000000000)).InRange := by decide +kernel
  refine ⟨_, Config.load_ofLifetimes (by decide) (by decide), inRange, by decide, ?_,
    by decide +kernel, ?_, Jwt.givesUp_of_outside outside⟩
  · exact fun exactly => absurd ((Jwt.signsExactly_iff inRange.int64).mp exactly) (by decide)
  · exact fun exactly => outside ((Jwt.datesExactly_iff inRange).mp exactly)

end StatusPage
