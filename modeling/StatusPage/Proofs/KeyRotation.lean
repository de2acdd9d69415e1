import StatusPage.Config
import StatusPage.Proofs.SignedTokens

/-!
Tokens that pass from one configuration to another. A token carries the name of the key that signed
it and nothing else of the configuration it comes from, so that another configuration has to know
the key under this name: it accepts the token as its own when its first key of the name is that key,
and refuses it when it has no key of the name.
-/

set_option autoImplicit false

namespace StatusPage

open Auth (Keyring SignedAs TokenParts)

theorem Auth.wrap64_of_bounds {n : Int} (within : Text.int64Min ≤ n ∧ n ≤ Text.int64Max) :
    wrap64 n = n := by
  obtain ⟨least, most⟩ := within
  unfold Text.int64Min at least
  unfold Text.int64Max at most
  have size : ((1 <<< 64 : Nat) : Int) = 18446744073709551616 := by decide
  unfold wrap64
  rw [Int.bmod_eq_of_le] <;> rw [size] <;> omega

theorem Auth.SignedAs.unknown {keyId secret token : String} {parts : TokenParts} {claims : Claims}
    {keyring : Keyring} (signed : SignedAs keyId secret token parts claims)
    (unknown : keyring.secretFor (some keyId) = none) (now : Int) :
    keyring.verify now token = .error .invalidToken := by
  have none : keyring.secretFor (Auth.TokenHeader.signed keyId).keyId = Option.none := unknown
  simp only [Keyring.verify, signed.split, signed.headerRead, none]

/-- Of a token that is signed with the key that a keyring has first under the name, only the time is
left to check. -/
theorem Auth.SignedAs.known {keyId secret token : String} {parts : TokenParts} {claims : Claims}
    {keyring : Keyring} (signed : SignedAs keyId secret token parts claims)
    (known : keyring.secretFor (some keyId) = some secret) (now : Int) :
    keyring.verify now token =
      if now ≤ claims.expires + 60 then .ok ⟨claims.subject, claims.role⟩
        else .error .tokenExpired := by
  rw [signed.verify known, if_pos rfl]
  by_cases late : claims.expires + 60 < now
  · rw [if_pos late, if_neg (Int.not_le.mpr late)]
  · rw [if_neg late, if_pos (Int.not_lt.mp late)]

theorem Config.Jwt.secretFor_eq_some {jwt : Config.Jwt} {keyId secret : String} :
    jwt.keyring.secretFor (some keyId) = some secret ↔
      ∃ before after,
        (jwt.keyId, jwt.secret) :: jwt.previousKeys = before ++ (keyId, secret) :: after ∧
        ∀ entry ∈ before, entry.1 ≠ keyId :=
  Keyring.secretFor_eq_some

private theorem Config.Jwt.secretFor_eq_none {jwt : Config.Jwt} {keyId : String}
    (absent : ∀ entry ∈ (jwt.keyId, jwt.secret) :: jwt.previousKeys, entry.1 ≠ keyId) :
    jwt.keyring.secretFor (some keyId) = none := by
  refine List.lookup_eq_none_iff.mpr fun entry member => ?_
  exact bne_iff_ne.mpr fun same => absent entry member same.symm

/-- A token speaks for someone up to a point in time, and has expired from then on. -/
def Config.Jwt.AcceptsUntil (judge : Config.Jwt) (token : String) (identity : Identity)
    (last : Int) : Prop :=
  ∀ now, judge.keyring.verify now token = if now ≤ last then .ok identity
    else .error .tokenExpired

private theorem Config.Jwt.sign_signed (signer : Config.Jwt) {now : Int} (tokenId : String)
    (identity : Identity) (time : Text.int64Min ≤ now ∧ now ≤ Text.int64Max)
    (lifetime : Text.int64Min ≤ signer.accessMinutes * 60 ∧ signer.accessMinutes * 60 ≤
      Text.int64Max)
    (ends : 0 ≤ now + signer.accessMinutes * 60 ∧ now + signer.accessMinutes * 60 ≤
      Text.int64Max) :
    ∃ token parts claims,
      signer.keyring.sign now tokenId identity = (token, claims.expires - claims.issued) ∧
      SignedAs signer.keyId signer.secret token parts claims ∧
      claims = ⟨identity.userId, identity.role, now + signer.accessMinutes * 60,
        now, tokenId⟩ := by
  have least : Text.int64Min ≤ now + signer.accessMinutes * 60 := Int.le_trans (by decide) ends.1
  have seconds : signer.keyring.lifetime = signer.accessMinutes * 60 :=
    Auth.wrap64_of_bounds lifetime
  have expires : Auth.wrap64 (now + signer.keyring.lifetime) = now + signer.accessMinutes * 60 := by
    rw [seconds]
    exact Auth.wrap64_of_bounds ⟨least, ends.2⟩
  have whole : signer.keyring.claimsFor now tokenId identity =
      ⟨identity.userId, identity.role, now + signer.accessMinutes * 60, now, tokenId⟩ := by
    rw [Keyring.claimsFor, expires]
  have bounded := signer.keyring.claimsFor_bounded tokenId identity time
  have signed :=
    Auth.signedAs_assemble signer.keyId signer.secret bounded (by rw [whole]; exact ends.1)
  refine ⟨_, _, _, Prod.ext rfl ?_, signed, whole⟩
  rw [whole]
  change signer.keyring.lifetime = now + signer.accessMinutes * 60 - now
  omega

/-- A token of one configuration, presented to another. It is accepted for the user and the role for
whom it was made, until a minute after its end, if the first key that the other one has under the
name of the signing key has the same secret. That is so for the configuration itself, whatever keys
it has retired. It is invalid if the other one has no key of the name. The lifetime that is returned
with the token is the one that its claims give. -/
theorem token_judged_by_name (signer judge : Config.Jwt) (now : Int) (tokenId : String)
    (userId : Uuid) (role : String) (time : Text.int64Min ≤ now ∧ now ≤ Text.int64Max)
    (lifetime : Text.int64Min ≤ signer.accessMinutes * 60 ∧ signer.accessMinutes * 60 ≤
      Text.int64Max)
    (ends : 0 ≤ now + signer.accessMinutes * 60 ∧ now + signer.accessMinutes * 60 ≤
      Text.int64Max) :
    ∃ token parts claims,
      signer.keyring.sign now tokenId ⟨userId, role⟩ =
        (token, claims.expires - claims.issued) ∧
      SignedAs signer.keyId signer.secret token parts claims ∧
      claims.issued = now ∧ claims.expires = now + signer.accessMinutes * 60 ∧
      (∀ before after,
        (judge.keyId, judge.secret) :: judge.previousKeys =
          before ++ (signer.keyId, signer.secret) :: after →
        (∀ entry ∈ before, entry.1 ≠ signer.keyId) →
        judge.AcceptsUntil token ⟨userId, role⟩ (claims.expires + 60)) ∧
      (∀ previousKeys,
        { signer with previousKeys := previousKeys }.AcceptsUntil token ⟨userId, role⟩
          (claims.expires + 60)) ∧
      ((∀ entry ∈ (judge.keyId, judge.secret) :: judge.previousKeys,
        entry.1 ≠ signer.keyId) →
        ∀ later, judge.keyring.verify later token = .error .invalidToken) := by
  obtain ⟨token, parts, claims, made, signed, rfl⟩ :=
    signer.sign_signed tokenId ⟨userId, role⟩ time lifetime ends
  refine ⟨token, parts, _, made, signed, rfl, rfl, ?_, ?_, ?_⟩
  · intro before after split others
    exact signed.known (Config.Jwt.secretFor_eq_some.mpr ⟨before, after, split, others⟩)
  · intro previousKeys
    have own : { signer with previousKeys := previousKeys }.keyring.secretFor (some signer.keyId) =
        some signer.secret := Keyring.secretFor_active _
    exact signed.known own
  · intro absent
    exact signed.unknown (Config.Jwt.secretFor_eq_none absent)

/-- After a rotation the old key is the first of its name behind the new one; a key that was retired
before it and had the same name does not matter. -/
theorem rotatedKey_judged :
    let signer : Config.Jwt := ⟨"primary", "old secret", [], 15, 7⟩
    let judge : Config.Jwt :=
      ⟨"second", "new secret", [("primary", "old secret"), ("primary", "first secret")], 5, 7⟩
    let stranger : Config.Jwt := ⟨"second", "old secret", [("third", "old secret")], 15, 7⟩
    let (token, lifetime) := signer.keyring.sign 1700000000 "one" ⟨.ofNat 1, "opérateur"⟩
    lifetime = 900 ∧ judge.keyring.verify 1700000960 token = .ok ⟨.ofNat 1, "opérateur"⟩ ∧
      judge.keyring.verify 1700000961 token = .error .tokenExpired ∧
      stranger.keyring.verify 1700000000 token = .error .invalidToken := by
  intro signer judge stranger
  have time : Text.int64Min ≤ 1700000000 ∧ 1700000000 ≤ Text.int64Max := by decide
  have lifetime : Text.int64Min ≤ signer.accessMinutes * 60 ∧
      signer.accessMinutes * 60 ≤ Text.int64Max := by decide
  have ends : 0 ≤ 1700000000 + signer.accessMinutes * 60 ∧
      1700000000 + signer.accessMinutes * 60 ≤ Text.int64Max := by decide
  obtain ⟨token, _, claims, made, _, issued, expires, accepted, -, -⟩ :=
    token_judged_by_name signer judge 1700000000 "one" (.ofNat 1) "opérateur" time lifetime ends
  obtain ⟨token', _, _, made', _, _, _, -, -, refused⟩ :=
    token_judged_by_name signer stranger 1700000000 "one" (.ofNat 1) "opérateur" time lifetime ends
  have verdict := accepted [("second", "new secret")] [("primary", "first secret")] rfl (by decide)
  cases (Prod.mk.inj (made.symm.trans made')).1
  rw [made]
  have last : claims.expires + 60 = 1700000960 := by rw [expires]; rfl
  rw [last] at verdict
  refine ⟨?_, verdict 1700000960, verdict 1700000961, refused (by decide) 1700000000⟩
  rw [expires, issued]
  rfl

end StatusPage
