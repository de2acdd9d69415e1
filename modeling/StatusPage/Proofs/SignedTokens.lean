import Mathlib.Tactic.Ring
import StatusPage.Proofs.RecordMembers

/-!
Tokens that a key has signed, read back. What stands in such a token is what was put into it, so
that a keyring that knows the key by its name gives back the user and the role for whom the token
was made.
-/

set_option autoImplicit false

namespace StatusPage

/-! ### Identifiers -/

namespace Uuid

private theorem digitsOf_length (count n : Nat) : (digitsOf count n).length = count := by
  induction count with
  | zero => rfl
  | succ count ih => rw [digitsOf, List.length_cons, ih]

private theorem foldlM_digitsOf (count n value : Nat) :
    (digitsOf count n).foldlM (fun value c => (Text.hexValue c).map (value * 16 + ·)) value =
      some (value * 16 ^ count + n % 16 ^ count) := by
  induction count generalizing value with
  | zero => simp [digitsOf, Nat.mod_one]
  | succ count ih =>
      have digit : n >>> (4 * count) % 16 = n / 16 ^ count % 16 := by
        rw [Nat.shiftRight_eq_div_pow, Nat.pow_mul]
      have first : Text.hexValue (Text.hexDigit (n >>> (4 * count) % 16)) =
          some (n / 16 ^ count % 16) := by
        rw [Text.hexValue_hexDigit (Nat.mod_lt _ (by decide)), digit]
      have whole : (value * 16 + n / 16 ^ count % 16) * 16 ^ count + n % 16 ^ count =
          value * 16 ^ (count + 1) + n % 16 ^ (count + 1) := by
        rw [Nat.mod_pow_succ, Nat.pow_succ]
        ring
      rw [digitsOf, List.foldlM_cons, first]
      exact (ih _).trans (congrArg some whole)

private theorem ofDigits?_toDigits (id : Uuid) : ofDigits? id.toDigits = some id := by
  have length : id.toDigits.length = 32 := digitsOf_length 32 _
  have bound : id.toNat % 16 ^ 32 = id.toNat := Nat.mod_eq_of_lt id.bits.isLt
  rw [ofDigits?, if_pos length, Text.hexNumber, toDigits, foldlM_digitsOf, bound]
  simp [ofNat, toNat]

private theorem ofHyphenated?_hyphenate {digits : List Char} (length : digits.length = 32) :
    ofHyphenated? (hyphenate digits) = ofDigits? digits := by
  have group (start size : Nat) :
      (digits.drop start).take size ++ digits.drop (start + size) = digits.drop start := by
    rw [← List.drop_drop, List.take_append_drop]
  have flat : (hyphenate digits).take 8 ++ ((hyphenate digits).drop 9).take 4 ++
      ((hyphenate digits).drop 14).take 4 ++ ((hyphenate digits).drop 19).take 4 ++
        (hyphenate digits).drop 24 =
        digits.take 8 ++
          ((digits.drop 8).take 4 ++ ((digits.drop 12).take 4 ++ ((digits.drop 16).take 4 ++
          digits.drop 20))) := by
    simp [hyphenate, List.drop_append, List.drop_take, length]
  have long : (hyphenate digits).length = 36 := by simp [hyphenate, length]
  have hyphens : (hyphenate digits)[8]? = some '-' ∧ (hyphenate digits)[13]? = some '-' ∧
      (hyphenate digits)[18]? = some '-' ∧ (hyphenate digits)[23]? = some '-' := by
    simp [hyphenate, length]
  rw [ofHyphenated?, if_pos ⟨long, hyphens⟩, flat, group 16 4, group 12 4, group 8 4,
    List.take_append_drop]

theorem ofText?_toText (id : Uuid) : ofText? id.toText = some id := by
  have length : id.toDigits.length = 32 := digitsOf_length 32 _
  have long : (hyphenate id.toDigits).length = 36 := by simp [hyphenate, length]
  rw [ofText?, toText, String.toList_ofList, ofChars?, long]
  exact (ofHyphenated?_hyphenate length).trans (ofDigits?_toDigits id)

end Uuid

/-! ### Whole numbers -/

namespace Json

private theorem Number.toInt?_ofInt (i : Int) : (Number.ofInt i).toInt? = some i := by
  unfold Number.ofInt Number.toInt?
  by_cases negative : i < 0
  · have nonzero : (i.natAbs == 0) = false := beq_eq_false_iff_ne.mpr (by omega)
    have opposite : -(i.natAbs : Int) = i := by omega
    simp only [negative, nonzero, opposite, decide_true, Bool.and_false, Bool.not_false,
      Bool.and_true, if_true]
  · have same : (i.natAbs : Int) = i := by omega
    simp only [negative, same, decide_false, Bool.false_and, Bool.not_false, Bool.and_true,
      Bool.false_eq_true, if_true, if_false]

private theorem Reader.int64_int {i : Int} (least : Text.int64Min ≤ i)
    (most : i ≤ Text.int64Max) :
    Reader.int64 (.int i) = .ok i := by
  simp [Reader.int64, Reader.intIn, Json.int, Number.toInt?_ofInt, least, most]

theorem Reader.int64_readsBack {i : Int} (bounds : Text.int64Min ≤ i ∧ i ≤ Text.int64Max) :
    ReadsBack Reader.int64 (.int i) i :=
  ⟨.int i, Reader.int64_int bounds.1 bounds.2⟩

end Json

theorem Form.uuid_readsBack (id : Uuid) : Json.ReadsBack readUuid (uuid id) id :=
  Json.Reader.parsed_readsBack id.ofText?_toText

theorem Auth.wrap64_bounds (n : Int) :
    Text.int64Min ≤ wrap64 n ∧ wrap64 n ≤ Text.int64Max := by
  have low := Int.le_bmod (x := n) (m := 1 <<< 64) (by decide)
  have high := Int.bmod_lt (x := n) (m := 1 <<< 64) (by decide)
  have size : ((1 <<< 64 : Nat) : Int) = 18446744073709551616 := by decide
  rw [size] at low high
  unfold wrap64 Text.int64Min Text.int64Max
  omega

theorem Time.Instant.InRange.int64 {t : Time.Instant} (inRange : t.InRange) :
    Text.int64Min ≤ t.seconds ∧ t.seconds ≤ Text.int64Max := by
  have calendar : Text.int64Min ≤ firstSecond ∧ lastSecond ≤ Text.int64Max := by
    decide +kernel
  exact ⟨Int.le_trans calendar.1 inRange.1, Int.le_trans inRange.2 calendar.2⟩

/-! ### What stands in a token -/

open Json (Plain Reader)
open Text (Base64Alphabet)
open Auth (TokenHeader TokenParts Restrictions Keyring decodePart encodePart assemble)

private theorem decodePart_encodePart {α : Type} (read : Reader α) {j : Json} (plain : Plain j) :
    decodePart read (encodePart j) = (read j).toOption := by
  simp [decodePart, encodePart, Base64Alphabet.decode?_encode, Json.readAll_write read plain]

private theorem Auth.TokenHeader.read_signed (keyId : String) :
    decodePart TokenHeader.read (encodePart (TokenHeader.signed keyId).toJson) =
      some (TokenHeader.signed keyId) := by
  have plain : Plain (TokenHeader.signed keyId).toJson := by
    refine .object [("typ", .str "JWT"), ("alg", .str "HS256"), ("kid", .str keyId)] ?_
    simp only [List.forall_mem_cons]
    exact ⟨.str _, .str _, .str _, nofun⟩
  rw [decodePart_encodePart _ plain]
  rfl

namespace Claims

/-- The times of the claims are numbers of 64 bits. -/
structure Bounded (claims : Claims) : Prop where
  expires : Text.int64Min ≤ claims.expires ∧ claims.expires ≤ Text.int64Max
  issued : Text.int64Min ≤ claims.issued ∧ claims.issued ≤ Text.int64Max

private theorem plain_toJson (claims : Claims) : Plain claims.toJson := by
  refine .object _ ?_
  simp only [List.forall_mem_cons]
  exact ⟨.str _, .str _, .int _, .int _, .str _, nofun⟩

theorem readsBack {claims : Claims} (bounded : claims.Bounded) :
    Claims.fields.ReadsBack
      [("sub", Form.uuid claims.subject), ("role", .str claims.role), ("exp", .int claims.expires),
        ("iat", .int claims.issued), ("jti", .str claims.tokenId)] claims := by
  have whole :=
    Json.Fields.ReadsBack.map Claims.mk (.required "sub" (Form.uuid_readsBack claims.subject))
    |>.seq (.required "role" (Reader.text_readsBack claims.role))
    |>.seq (.required "exp" (Reader.int64_readsBack bounded.expires))
    |>.seq (.required "iat" (Reader.int64_readsBack bounded.issued))
    |>.seq (.required "jti" (Reader.text_readsBack claims.tokenId))
  exact whole

theorem read_toJson {claims : Claims} (bounded : claims.Bounded) :
    decodePart (Reader.record Claims.fields) (encodePart claims.toJson) = some claims := by
  have whole : Reader.record Claims.fields claims.toJson = .ok claims :=
    (readsBack bounded).record (by decide)
  rw [decodePart_encodePart _ claims.plain_toJson, whole]
  rfl

end Claims

private theorem Auth.Restrictions.read_claims (claims : Claims) :
    decodePart (Reader.record Restrictions.fields) (encodePart claims.toJson) =
      some ⟨(some claims.expires).filter (0 ≤ ·), false⟩ := by
  have read : Reader.record Restrictions.fields claims.toJson =
      .ok ⟨(Json.Number.ofInt claims.expires).toInt?.filter (0 ≤ ·), false⟩ := rfl
  rw [decodePart_encodePart _ claims.plain_toJson, read, Json.Number.toInt?_ofInt]
  rfl

/-! ### Verification -/

namespace Auth

variable {keyId secret token : String} {parts : TokenParts} {claims : Claims} {keyring : Keyring}

/-- A token of three parts, meant for everybody, whose claims can be read: it is signed with a
secret under the name of a key. -/
structure SignedAs (keyId secret token : String) (parts : TokenParts) (claims : Claims) : Prop where
  text : token.toList = parts.message ++ '.' :: parts.signature
  headerRead : decodePart TokenHeader.read parts.header = some (TokenHeader.signed keyId)
  claimsRead : decodePart (Reader.record Claims.fields) parts.claims = some claims
  restrictionsRead : decodePart (Reader.record Restrictions.fields) parts.claims =
    some ⟨some claims.expires, false⟩
  signed : parts.signature = signature secret parts.message

theorem SignedAs.split (signed : SignedAs keyId secret token parts claims) :
    TokenParts.ofText? token = some parts := by
  obtain ⟨_, decoded, -⟩ := decodePart_eq_some.mp signed.claimsRead
  have dotless : '.' ∉ parts.signature := by
    rw [signed.signed]
    exact plain_of_decoded (Base64Alphabet.decode?_encode _)
  exact ofText?_eq_some.mpr ⟨signed.text, plain_of_decoded decoded, dotless⟩

/-- A keyring judges a token by its own key of the name: it has to sign alike. -/
theorem SignedAs.verify {own : String} (signed : SignedAs keyId secret token parts claims)
    (known : keyring.secretFor (some keyId) = some own) (now : Int) :
    keyring.verify now token =
      if signature own parts.message = signature secret parts.message then
        if claims.expires + 60 < now then .error .tokenExpired
          else .ok ⟨claims.subject, claims.role⟩
      else .error .invalidToken := by
  by_cases alike : signature own parts.message = signature secret parts.message
  · have read : decodePart readClaims parts.claims = some (claims,
        ⟨some claims.expires, false⟩) :=
      decodePart_readClaims.mpr ⟨signed.claimsRead, signed.restrictionsRead⟩
    have vouches :
        keyring.Vouches token parts (TokenHeader.signed keyId) own claims
          ⟨some claims.expires, false⟩ :=
      .of_checks signed.split signed.headerRead rfl known (signed.signed.trans alike.symm) read rfl
    rw [if_pos alike, vouches.verify now, if_neg Bool.false_ne_true]
  · have other : ¬parts.signature = signature own parts.message :=
      fun same => alike (same.symm.trans signed.signed)
    have own' : keyring.secretFor (TokenHeader.signed keyId).keyId = some own := known
    simp only [Keyring.verify, signed.split, signed.headerRead, own']
    rw [if_pos (.inr other), if_neg alike]
    rfl

def partsOf (keyId secret : String) (claims : Claims) : TokenParts :=
  let header := encodePart (TokenHeader.signed keyId).toJson
  let body := encodePart claims.toJson
  ⟨header, body, signature secret (header ++ '.' :: body)⟩

theorem signedAs_assemble (keyId secret : String) (bounded : claims.Bounded)
    (ends : 0 ≤ claims.expires) :
    SignedAs keyId secret (assemble secret (TokenHeader.signed keyId).toJson claims.toJson)
      (partsOf keyId secret claims) claims where
  text := String.toList_ofList
  headerRead := TokenHeader.read_signed keyId
  claimsRead := Claims.read_toJson bounded
  restrictionsRead := by
    change decodePart _ (encodePart claims.toJson) = _
    rw [Restrictions.read_claims, Option.filter_some, if_pos (by simpa using ends)]
  signed := rfl

namespace Keyring

theorem secretFor_active (keyring : Keyring) :
    keyring.secretFor (some keyring.activeId) = some keyring.activeSecret := by
  simp [secretFor, entries]

def claimsFor (keyring : Keyring) (now : Int) (tokenId : String)
    (identity : Identity) : Claims where
  subject := identity.userId
  role := identity.role
  expires := wrap64 (now + keyring.lifetime)
  issued := now
  tokenId := tokenId

variable {now : Int} {identity : Identity}

theorem claimsFor_bounded (keyring : Keyring) (tokenId : String) (identity : Identity)
    (time : Text.int64Min ≤ now ∧ now ≤ Text.int64Max) :
    (keyring.claimsFor now tokenId identity).Bounded :=
  ⟨wrap64_bounds _, time⟩

theorem ofText?_sign (keyring : Keyring) (now : Int) (tokenId : String) (identity : Identity) :
    TokenParts.ofText? (keyring.sign now tokenId identity).1 =
      some (partsOf keyring.activeId keyring.activeSecret
        (keyring.claimsFor now tokenId identity)) :=
  ofText?_eq_some.mpr ⟨String.toList_ofList, plain_of_decoded (Base64Alphabet.decode?_encode _),
    plain_of_decoded (Base64Alphabet.decode?_encode _)⟩

theorem verify_sign (keyring : Keyring) (tokenId : String) (identity : Identity)
    (time : Text.int64Min ≤ now ∧ now ≤ Text.int64Max)
    (ends : 0 ≤ wrap64 (now + keyring.lifetime)) (later : Int) :
    keyring.verify later (keyring.sign now tokenId identity).1 =
      if wrap64 (now + keyring.lifetime) + 60 < later then .error .tokenExpired
        else .ok identity := by
  have signed := signedAs_assemble keyring.activeId keyring.activeSecret
    (keyring.claimsFor_bounded tokenId identity time) ends
  exact (signed.verify keyring.secretFor_active later).trans (if_pos rfl)

/-- Nobody else is ever read from a token. -/
theorem identity_of_sign {tokenId : String} {later : Int} {other : Identity}
    (time : Text.int64Min ≤ now ∧ now ≤ Text.int64Max)
    (accepted : keyring.verify later (keyring.sign now tokenId identity).1 = .ok other) :
    other = identity := by
  obtain ⟨parts, header, secret, claims, restrictions, vouches, -, -, rfl⟩ :=
    ((keyring.verify_spec later _).1 other).mp accepted
  have split : TokenParts.ofText? (keyring.sign now tokenId identity).1 = some parts := by
    obtain ⟨_, claimsDecoded⟩ := vouches.encoded parts.claims (by simp)
    obtain ⟨_, signatureDecoded⟩ := vouches.encoded parts.signature (by simp)
    exact ofText?_eq_some.mpr ⟨vouches.text, plain_of_decoded claimsDecoded,
      plain_of_decoded signatureDecoded⟩
  cases split.symm.trans (keyring.ofText?_sign now tokenId identity)
  have read := Claims.read_toJson (keyring.claimsFor_bounded tokenId identity time)
  cases vouches.claimsRead.symm.trans read
  rfl

end Keyring

end Auth

end StatusPage
