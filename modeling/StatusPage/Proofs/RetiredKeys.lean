import StatusPage.Config
import StatusPage.Proofs.SignedTokens

/-!
Keys that have been retired. A configuration lists them behind the key that signs, and of several
keys of one name the first counts. So a token of a retired key is good until its end, unless a key
that comes before has its name: then the token is judged by that key.
-/

set_option autoImplicit false

namespace StatusPage

open Auth (SignedAs TokenParts signature)

private theorem first_of_retired {jwt : Config.Jwt} {keyId secret : String}
    (retired : (keyId, secret) ∈ jwt.previousKeys) :
    ∃ before first after, jwt.keyring.entries = before ++ (keyId, first) :: after ∧
      ∀ entry ∈ before, entry.1 ≠ keyId := by
  have listed : (keyId, secret) ∈ jwt.keyring.entries := List.mem_cons_of_mem _ retired
  cases first : jwt.keyring.entries.lookup keyId with
  | none =>
      have other := List.lookup_eq_none_iff.mp first (keyId, secret) listed
      simp at other
  | some first' =>
      obtain ⟨before, after, split, others⟩ := List.lookup_eq_some_iff.mp first
      refine ⟨before, first', after, split, fun entry member same => ?_⟩
      simpa [same] using others entry member

/-- A token that has not ended, signed with a retired key: the first key of its name decides. It is
accepted for its user and role if that key signs it alike, as it does when it is the retired key
itself; otherwise it is invalid. -/
theorem retired_key_verdict (jwt : Config.Jwt) {keyId secret token : String} {parts : TokenParts}
    {claims : Claims} {now : Int} (retired : (keyId, secret) ∈ jwt.previousKeys)
    (signed : SignedAs keyId secret token parts claims) (unexpired : now ≤ claims.expires) :
    ∃ before first after, jwt.keyring.entries = before ++ (keyId, first) :: after ∧
      (∀ entry ∈ before, entry.1 ≠ keyId) ∧
      (signature first parts.message = signature secret parts.message →
        jwt.keyring.verify now token = .ok ⟨claims.subject, claims.role⟩) ∧
      (signature first parts.message ≠ signature secret parts.message →
        jwt.keyring.verify now token = .error .invalidToken) := by
  obtain ⟨before, first, after, split, others⟩ := first_of_retired retired
  have known : jwt.keyring.secretFor (some keyId) = some first :=
    Auth.Keyring.secretFor_eq_some.mpr ⟨before, after, split, others⟩
  have verdict := signed.verify known now
  refine ⟨before, first, after, split, others, fun alike => ?_, fun different => ?_⟩
  · have early : ¬claims.expires + 60 < now := by omega
    rw [verdict, if_pos alike, if_neg early]
  · rw [verdict, if_neg different]

def lastingClaims : Claims := ⟨.ofNat 1, "operator", 4102444800, 1700000000, "first"⟩

private theorem lastingClaims_signed (keyId secret : String) :
    SignedAs keyId secret
      (Auth.assemble secret (Auth.TokenHeader.signed keyId).toJson lastingClaims.toJson)
      (Auth.partsOf keyId secret lastingClaims) lastingClaims := by
  have bounded : lastingClaims.Bounded := ⟨by decide, by decide⟩
  exact Auth.signedAs_assemble keyId secret bounded (by decide)

/-- A configuration after a rotation that gave the new key a name of its own. -/
def renamedKey : Config.Jwt := ⟨"second", "new secret", [("primary", "old secret")], 15, 7⟩

theorem renamedKey_verdict :
    Config.Jwt.load [("JWT_SECRET", "new secret"), ("JWT_KEY_ID", "second"),
        ("JWT_PREVIOUS_SECRETS", "primary=old secret")] = .ok renamedKey ∧
      renamedKey.keyring.verify 1700000600
        (Auth.assemble "old secret" (Auth.TokenHeader.signed "primary").toJson
          lastingClaims.toJson) = .ok ⟨.ofNat 1, "operator"⟩ := by
  have unexpired : 1700000600 ≤ lastingClaims.expires := by decide
  obtain ⟨before, first, after, split, others, accepted, -⟩ :=
    retired_key_verdict renamedKey List.mem_cons_self
      (lastingClaims_signed "primary" "old secret") unexpired
  have known : renamedKey.keyring.secretFor (some "primary") = some first :=
    Auth.Keyring.secretFor_eq_some.mpr ⟨before, after, split, others⟩
  have own : renamedKey.keyring.secretFor (some "primary") = some "old secret" := by rfl
  cases own.symm.trans known
  exact ⟨by rfl, accepted rfl⟩

def keptName : Config.Jwt := ⟨"primary", "new secret", [("primary", "old secret")], 15, 7⟩

/-- After a rotation that changes the secret and keeps the name, the tokens of the old key are
refused, although it is listed among the retired keys. -/
theorem keptName_refused :
    ¬∀ env jwt, Config.Jwt.load env = .ok jwt →
      ∀ keyId secret, (keyId, secret) ∈ jwt.previousKeys →
      ∀ token parts claims, SignedAs keyId secret token parts claims →
        ∀ now, now ≤ claims.expires →
        jwt.keyring.verify now token = .ok ⟨claims.subject, claims.role⟩ := by
  intro every
  have loaded :
      Config.Jwt.load [("JWT_SECRET", "new secret"),
        ("JWT_PREVIOUS_SECRETS", "primary=old secret")] = .ok keptName := by rfl
  have signed := lastingClaims_signed "primary" "old secret"
  have accepted :=
    every _ keptName loaded "primary" "old secret" List.mem_cons_self _ _ _ signed
      1700000600 (by decide)
  have different :
      signature "new secret" (Auth.partsOf "primary" "old secret" lastingClaims).message ≠
      signature "old secret" (Auth.partsOf "primary" "old secret" lastingClaims).message := by
    decide +kernel
  have known : keptName.keyring.secretFor (some "primary") = some "new secret" := rfl
  rw [signed.verify known, if_neg different] at accepted
  cases accepted

end StatusPage
