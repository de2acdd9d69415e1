import Mathlib.Data.List.TakeWhile
import StatusPage.Auth.Keyring
import StatusPage.Proofs.Services

/-!
What an access token must be to be accepted. Its text is three parts in base 64, its header names
the one algorithm and a key, and its signature is that of the first key of this name. Only when all
this holds and the claims can be read does the time count, so that nobody without a key finds out
whether a token has expired.
-/

set_option autoImplicit false

namespace StatusPage

/-! ### Base 64 -/

namespace Text.Base64Alphabet

variable {alphabet : Base64Alphabet}

private theorem value?_digit {n : Nat} (small : n < 64) :
    alphabet.value? (alphabet.digit n) = some n := by
  have table : ∀ n < 64, alphabet.value? (alphabet.digit n) = some n := by
    cases alphabet <;> decide +kernel
  exact table n small

theorem value?_dot : alphabet.value? '.' = none := by
  cases alphabet <;> decide +kernel

theorem decode?_encode (bytes : Bytes) : alphabet.decode? (alphabet.encode bytes) = some bytes := by
  fun_induction encode alphabet bytes with
  | case1 a b c rest n ih =>
      have := a.toNat_lt
      have := b.toNat_lt
      have := c.toNat_lt
      have whole : (n / 262144 * 64 + n / 4096 % 64) * 4096 + (n / 64 % 64 * 64 + n % 64) = n := by
        omega
      have first : n / 65536 = a.toNat := by omega
      have second : n / 256 % 256 = b.toNat := by omega
      have third : n % 256 = c.toNat := by omega
      have small : n / 262144 < 64 := by omega
      simp [decode?, value?_digit small, value?_digit (Nat.mod_lt _ (by decide : 64 > 0)), ih,
        whole, first, second, third]
  | case2 a b n =>
      have := a.toNat_lt
      have := b.toNat_lt
      have whole : (n / 1024 * 64 + n / 16 % 64) * 64 + n % 16 * 4 = n * 4 := by omega
      have first : n * 4 / 1024 = a.toNat := by omega
      have second : n % 256 = b.toNat := by omega
      have left : (n / 1024 * 64 + n / 16 % 64) * 64 % 4 = 0 := by omega
      have small : n / 1024 < 64 := by omega
      have small' : n % 16 * 4 < 64 := by omega
      simp [decode?, value?_digit small, value?_digit small',
        value?_digit (Nat.mod_lt _ (by decide : 64 > 0)), whole,
        first, second, left]
  | case3 a =>
      have := a.toNat_lt
      have whole : a.toNat / 4 * 64 + a.toNat % 4 * 16 = a.toNat * 16 := by omega
      have left : a.toNat / 4 * 64 % 16 = 0 := by omega
      have small : a.toNat / 4 < 64 := by omega
      have small' : a.toNat % 4 * 16 < 64 := by omega
      simp [decode?, value?_digit small, value?_digit small', whole, left]
  | case4 => rfl

theorem decode?_digits {text : List Char} {bytes : Bytes}
    (decoded : alphabet.decode? text = some bytes) :
    ∀ c ∈ text, (alphabet.value? c).isSome := by
  fun_induction decode? alphabet text generalizing bytes with
  | case1 c d e f rest ih =>
      simp only [bind, Option.bind_eq_some_iff] at decoded
      obtain ⟨_, first, _, second, _, third, _, fourth, _, tail, -⟩ := decoded
      simpa [first, second, third, fourth] using ih tail
  | case2 c d e =>
      simp only [bind, Option.bind_eq_some_iff] at decoded
      obtain ⟨_, first, _, second, _, third, -⟩ := decoded
      simp [first, second, third]
  | case3 c d =>
      simp only [bind, Option.bind_eq_some_iff] at decoded
      obtain ⟨_, first, _, second, -⟩ := decoded
      simp [first, second]
  | case4 => cases decoded
  | case5 => simp

end Text.Base64Alphabet

/-! ### Records -/

namespace Json

namespace Fields

variable {α β : Type} {find : String → Option Json}

theorem map_ok {f : α → β} {fields : Fields α} {b : β} :
    (f <$> fields).assemble find = .ok b ↔ ∃ a, fields.assemble find = .ok a ∧ f a = b := by
  change (fields.assemble find).map f = .ok b ↔ _
  cases fields.assemble find <;> simp [Except.map]

theorem seq_ok {fields : Fields (α → β)} {more : Fields α} {b : β} :
    (fields <*> more).assemble find = .ok b ↔
      ∃ f a, fields.assemble find = .ok f ∧ more.assemble find = .ok a ∧ f a = b := by
  constructor
  · intro whole
    obtain ⟨f, first, rest⟩ := ok_of_bind whole
    obtain ⟨a, second, ⟨⟩⟩ := ok_of_bind rest
    exact ⟨f, a, first, second, rfl⟩
  · rintro ⟨f, a, first, second, rfl⟩
    change (fields.assemble find >>= fun f => more.assemble find >>= fun a => pure (f a)) = _
    rw [first]
    change (more.assemble find >>= fun a => pure (f a)) = _
    rw [second]
    rfl

theorem required_ok {name : String} {read : Reader α} {a : α} :
    (required name read).assemble find = .ok a ↔ ∃ j, find name = some j ∧
      read j = .ok a := by
  cases present : find name <;> simp [required, single, present]

private theorem withDefault_ok {name : String} {read : Reader α} {default a : α} :
    (withDefault name read default).assemble find = .ok a ↔
      (∃ j, find name = some j ∧ read j = .ok a) ∨ find name = none ∧ default = a := by
  cases present : find name <;> simp [withDefault, single, present]

end Fields

private theorem scanMembers_lookup {shapes : List FieldShape} {found all : List (String × Json)}
    {members : List (Option String × Json)} (scanned : scanMembers shapes found members = .ok all)
    {name : String} (known : ∃ shape ∈ shapes, shape.name = name) :
    all.lookup name = (found.lookup name).or (members.lookup (some name)) := by
  fun_induction scanMembers shapes found members with
  | case1 found =>
      cases scanned
      simp
  | case2 => cases scanned
  | case3 found key value rest unknown ih =>
      obtain ⟨_, -, later⟩ := ok_of_bind scanned
      have other : name ≠ key := by
        rintro rfl
        obtain ⟨shape, member, same⟩ := known
        simpa [same] using List.find?_eq_none.mp unknown shape member
      simp [ih later, List.lookup_cons, beq_eq_false_iff_ne.mpr other]
  | case4 => cases scanned
  | case5 found key value rest shape present fresh ih =>
      obtain ⟨_, -, later⟩ := ok_of_bind scanned
      rw [ih later]
      by_cases same : name = key
      · subst same
        have nothing : found.lookup name = none := Option.not_isSome_iff_eq_none.mp fresh
        simp [nothing]
      · simp [List.lookup_cons, beq_eq_false_iff_ne.mpr same]

private theorem scanItems_lookup {shapes : List FieldShape} {items : List Json}
    {found all : List (String × Json)} (scanned : scanItems found shapes items = .ok all)
    {name : String} (others : ∀ shape ∈ shapes, shape.name ≠ name) :
    all.lookup name = found.lookup name := by
  fun_induction scanItems found shapes items with
  | case1 found =>
      cases scanned
      rfl
  | case2 => cases scanned
  | case3 found shape shapes _ ih =>
    exact ih scanned fun shape member => others shape (List.mem_cons_of_mem _ member)
  | case4 => cases scanned
  | case5 found shape shapes item items ih =>
      obtain ⟨_, -, later⟩ := ok_of_bind scanned
      have other : name ≠ shape.name := (others shape List.mem_cons_self).symm
      rw [ih later fun shape member => others shape (List.mem_cons_of_mem _ member)]
      simp [List.lookup_cons, beq_eq_false_iff_ne.mpr other]

end Json

namespace Auth

open Json (Reader)
open Text (utf8 Base64Alphabet)

/-! ### Claims -/

private theorem claims_expires {find : String → Option Json} {claims : Claims}
    (assembled : Claims.fields.assemble find = .ok claims) :
    ∃ n, find "exp" = some (.number n) ∧ n.toInt? = some claims.expires := by
  simp only [Claims.fields, Json.Fields.seq_ok, Json.Fields.map_ok,
    Json.Fields.required_ok] at assembled
  obtain ⟨_, _,
    ⟨_, _, ⟨_, expires, ⟨_, _, ⟨_, -, rfl⟩, -, rfl⟩, ⟨j, there, read⟩, rfl⟩,
      -, rfl⟩, -, rfl⟩ :=
    assembled
  cases j with
  | number n =>
      simp only [Reader.int64, Reader.intIn] at read
      split at read
      · rename_i whole
        split at read
        · cases read
          exact ⟨n, there, whole⟩
        · cases read
      · cases read
  | _ => cases read

private theorem restrictions_expires {find : String → Option Json} {restrictions : Restrictions}
    {expires : Int} (assembled : Restrictions.fields.assemble find = .ok restrictions)
    (limited : restrictions.expires = some expires) :
    ∃ n, find "exp" = some (.number n) ∧ n.toInt? = some expires := by
  simp only [Restrictions.fields, Json.Fields.seq_ok, Json.Fields.map_ok,
    Json.Fields.withDefault_ok] at assembled
  obtain ⟨_, _, ⟨_, _, ⟨_, _, ⟨_, _, ⟨_, ending, rfl⟩, -, rfl⟩, -, rfl⟩, -, rfl⟩,
    -, rfl⟩ := assembled
  rcases ending with ⟨j, there, read⟩ | ⟨-, rfl⟩
  · cases j with
    | number n =>
        cases read
        exact ⟨n, there, (Option.filter_eq_some_iff.mp limited).1⟩
    | _ =>
        cases read
        cases limited
  · cases limited

/-- The list form begins with the identifier of the user, where the restrictions expect a time. -/
theorem list_unlimited {items : List Json} {claims : Claims} {restrictions : Restrictions}
    (read : Reader.record Claims.fields (.list items) = .ok claims)
    (restricted : Reader.record Restrictions.fields (.list items) = .ok restrictions)
    (expires : Int) :
    restrictions.expires ≠ some expires := by
  intro limited
  obtain ⟨_, scanned, -⟩ := ok_of_bind read
  obtain ⟨found, scanned', assembled⟩ := ok_of_bind restricted
  obtain ⟨n, there, -⟩ := restrictions_expires assembled limited
  cases items with
  | nil => cases scanned
  | cons item items =>
      obtain ⟨_, checked, -⟩ := ok_of_bind scanned
      obtain ⟨_, -, later⟩ := ok_of_bind scanned'
      rw [Json.scanItems_lookup later (by decide)] at there
      cases there
      cases checked

private theorem expires_eq {j : Json} {claims : Claims} {restrictions : Restrictions}
    {expires : Int} (read : Reader.record Claims.fields j = .ok claims)
    (restricted : Reader.record Restrictions.fields j = .ok restrictions)
    (limited : restrictions.expires = some expires) : expires = claims.expires := by
  cases j with
  | record members =>
      obtain ⟨found, scanned, assembled⟩ := ok_of_bind read
      obtain ⟨found', scanned', assembled'⟩ := ok_of_bind restricted
      obtain ⟨n, there, whole⟩ := claims_expires assembled
      obtain ⟨n', there', whole'⟩ := restrictions_expires assembled' limited
      rw [Json.scanMembers_lookup scanned (by decide)] at there
      rw [Json.scanMembers_lookup scanned' (by decide)] at there'
      cases there.symm.trans there'
      exact Option.some.inj (whole'.symm.trans whole)
  | list items => exact absurd limited (list_unlimited read restricted expires)
  | _ => cases read

/-! ### Parts -/

private theorem passed {text : List Char} (plain : '.' ∉ text) :
    ∀ c ∈ text.reverse, decide (c ≠ '.') = true := by
  intro c member
  rw [decide_eq_true_eq]
  rintro rfl
  exact plain (List.mem_reverse.mp member)

private theorem splitLastDot_append {front back : List Char} (plain : '.' ∉ back) :
    splitLastDot (front ++ '.' :: back) = some (front, back) := by
  have tail : ((front ++ '.' :: back).reverse.takeWhile (· ≠ '.')).reverse = back := by
    rw [List.reverse_append, List.reverse_cons, List.append_assoc,
      List.takeWhile_append_of_pos (passed plain)]
    simp
  have length : front.length + (back.length + 1) - back.length - 1 = front.length := by omega
  simp only [splitLastDot, tail, List.length_append, List.length_cons, length, List.take_left]
  rw [if_neg (by omega)]

private theorem splitLastDot_plain {text : List Char} (plain : '.' ∉ text) :
    splitLastDot text = none := by
  have whole : text.reverse.takeWhile (· ≠ '.') = text.reverse :=
    List.takeWhile_eq_self_iff.mpr (passed plain)
  unfold splitLastDot
  rw [whole]
  simp

private theorem splitLastDot_eq_some {text front back : List Char} :
    splitLastDot text = some (front, back) ↔ text = front ++ '.' :: back ∧ '.' ∉ back := by
  constructor
  · intro split
    by_cases dotted : '.' ∈ text
    · obtain ⟨back', front', reversed, plain⟩ :=
        List.eq_append_cons_of_mem (List.mem_reverse.mpr dotted)
      have whole : text = front'.reverse ++ '.' :: back'.reverse := by
        rw [← text.reverse_reverse, reversed]
        simp
      have plain' : '.' ∉ back'.reverse := fun member => plain (List.mem_reverse.mp member)
      rw [whole, splitLastDot_append plain'] at split
      cases split
      exact ⟨whole, plain'⟩
    · rw [splitLastDot_plain dotted] at split
      cases split
  · rintro ⟨rfl, plain⟩
    exact splitLastDot_append plain

theorem ofText?_eq_some {token : String} {parts : TokenParts} :
    TokenParts.ofText? token = some parts ↔
      token.toList = parts.message ++ '.' :: parts.signature ∧ '.' ∉ parts.claims ∧
      '.' ∉ parts.signature := by
  unfold TokenParts.ofText? TokenParts.message
  simp only [bind, Option.bind_eq_some_iff, pure]
  constructor
  · rintro ⟨⟨message, signature⟩, outer, ⟨header, claims⟩, inner, ⟨⟩⟩
    obtain ⟨whole, plain⟩ := splitLastDot_eq_some.mp outer
    obtain ⟨rfl, plain'⟩ := splitLastDot_eq_some.mp inner
    exact ⟨whole, plain', plain⟩
  · rintro ⟨whole, plain', plain⟩
    exact ⟨_, splitLastDot_eq_some.mpr ⟨whole, plain⟩, _, splitLastDot_append plain', rfl⟩

theorem plain_of_decoded {alphabet : Base64Alphabet} {part : List Char} {bytes : Text.Bytes}
    (decoded : alphabet.decode? part = some bytes) : '.' ∉ part := by
  intro dot
  simpa [Base64Alphabet.value?_dot] using Base64Alphabet.decode?_digits decoded '.' dot

theorem decodePart_eq_some {α : Type} {read : Reader α} {part : List Char} {a : α} :
    decodePart read part = some a ↔
    ∃ bytes, Base64Alphabet.urlSafe.decode? part = some bytes ∧
      read (Json.parse bytes).value = .ok a ∧ (Json.parse bytes).trailing = false := by
  simp only [decodePart, Json.readAll, bind, Option.bind_eq_some_iff]
  refine exists_congr fun bytes => and_congr_right fun _ => ?_
  cases read (Json.parse bytes).value with
  | error e => simp [Except.bind, Except.toOption]
  | ok a' =>
      cases (Json.parse bytes).trailing <;> simp [Except.bind, Except.toOption]

theorem decodePart_readClaims {part : List Char} {claims : Claims} {restrictions : Restrictions} :
    decodePart readClaims part = some (claims, restrictions) ↔
      decodePart (Reader.record Claims.fields) part = some claims ∧
        decodePart (Reader.record Restrictions.fields) part = some restrictions := by
  simp only [decodePart_eq_some]
  constructor
  · rintro ⟨bytes, decoded, read, ended⟩
    obtain ⟨claims, first, rest⟩ := ok_of_bind read
    obtain ⟨restrictions, second, ⟨⟩⟩ := ok_of_bind rest
    exact ⟨⟨bytes, decoded, first, ended⟩, bytes, decoded, second, ended⟩
  · rintro ⟨⟨bytes, decoded, first, ended⟩, bytes', decoded', second, -⟩
    cases decoded.symm.trans decoded'
    refine ⟨bytes, decoded, ?_, ended⟩
    simp only [readClaims, first, second, bind, Except.bind]
    rfl

/-! ### Verification -/

namespace Keyring

variable {keyring : Keyring} {token : String} {parts : TokenParts} {header : TokenHeader}
  {secret : String}
  {claims : Claims} {restrictions : Restrictions}

theorem secretFor_eq_some {keyId : Option String} :
    keyring.secretFor keyId = some secret ↔
      ∃ before after,
        keyring.entries = before ++ (keyId.getD keyring.activeId, secret) :: after ∧
        ∀ entry ∈ before, entry.1 ≠ keyId.getD keyring.activeId := by
  simp only [secretFor, List.lookup_eq_some_iff, bne_iff_ne, ne_comm]

/-- A token of three parts, signed by the first key of the name in its header,
with claims that can be read. -/
structure Vouches (keyring : Keyring) (token : String) (parts : TokenParts) (header : TokenHeader)
    (secret : String) (claims : Claims) (restrictions : Restrictions) : Prop where
  text : token.toList = parts.header ++ '.' :: parts.claims ++ '.' :: parts.signature
  encoded : ∀ part ∈ [parts.header, parts.claims, parts.signature], ∃ bytes,
    Base64Alphabet.urlSafe.decode? part = some bytes
  headerRead : decodePart TokenHeader.read parts.header = some header
  algorithm : header.algorithm = "HS256"
  key : ∃ before after,
    keyring.entries = before ++ (header.keyId.getD keyring.activeId, secret) :: after ∧
    ∀ entry ∈ before, entry.1 ≠ header.keyId.getD keyring.activeId
  signed : parts.signature = Base64Alphabet.urlSafe.encode
    (Crypto.hmacSha256 (utf8 secret) (utf8 (String.ofList (parts.header ++ '.' :: parts.claims))))
  claimsRead : decodePart (Reader.record Claims.fields) parts.claims = some claims
  restrictionsRead : decodePart (Reader.record Restrictions.fields) parts.claims = some restrictions
  limited : restrictions.expires = some claims.expires

theorem Vouches.verify (vouches : keyring.Vouches token parts header secret claims restrictions)
    (now : Int) :
    keyring.verify now token =
      if claims.expires + 60 < now then .error .tokenExpired
      else if restrictions.audience then .error .invalidToken
      else .ok ⟨claims.subject, claims.role⟩ := by
  have late : claims.expires < now - leeway ↔ claims.expires + 60 < now := by
    unfold leeway
    omega
  obtain ⟨claimsBytes, claimsDecoded⟩ := vouches.encoded parts.claims (by simp)
  obtain ⟨signatureBytes, signatureDecoded⟩ := vouches.encoded parts.signature (by simp)
  have split : TokenParts.ofText? token = some parts :=
    ofText?_eq_some.mpr ⟨vouches.text, plain_of_decoded claimsDecoded,
      plain_of_decoded signatureDecoded⟩
  have known : keyring.secretFor header.keyId = some secret := secretFor_eq_some.mpr vouches.key
  have signed : parts.signature = signature secret parts.message := vouches.signed
  have read : decodePart readClaims parts.claims = some (claims, restrictions) :=
    decodePart_readClaims.mpr ⟨vouches.claimsRead, vouches.restrictionsRead⟩
  simp only [Keyring.verify, split, vouches.headerRead, known, vouches.algorithm, read,
    vouches.limited, late]
  rw [if_neg (by simp [signed])]
  split
  · rfl
  · split <;> rfl

theorem Vouches.of_checks {expires : Int} (split : TokenParts.ofText? token = some parts)
    (headerRead : decodePart TokenHeader.read parts.header = some header)
    (algorithm : header.algorithm = "HS256") (known : keyring.secretFor header.keyId = some secret)
    (signed : parts.signature = signature secret parts.message)
    (read : decodePart readClaims parts.claims = some (claims, restrictions))
    (limited : restrictions.expires = some expires) :
    keyring.Vouches token parts header secret claims restrictions := by
  obtain ⟨text, -, -⟩ := ofText?_eq_some.mp split
  obtain ⟨claimsRead, restrictionsRead⟩ := decodePart_readClaims.mp read
  obtain ⟨headerBytes, headerDecoded, -, -⟩ := decodePart_eq_some.mp headerRead
  obtain ⟨bytes, decoded, first, -⟩ := decodePart_eq_some.mp claimsRead
  obtain ⟨bytes', decoded', second, -⟩ := decodePart_eq_some.mp restrictionsRead
  cases decoded.symm.trans decoded'
  have encoded : ∀ part ∈ [parts.header, parts.claims, parts.signature], ∃ bytes,
      Base64Alphabet.urlSafe.decode? part = some bytes := by
    simp only [List.forall_mem_cons]
    refine ⟨⟨headerBytes, headerDecoded⟩, ⟨bytes, decoded⟩, ?_, nofun⟩
    rw [signed]
    exact ⟨_, Base64Alphabet.decode?_encode _⟩
  exact
    { text, encoded, headerRead, algorithm, key := secretFor_eq_some.mp known, signed, claimsRead,
      restrictionsRead, limited := expires_eq first second limited ▸ limited }

/-- Only a token that a key vouches for is told from the invalid ones. -/
theorem vouches_of_verify {now : Int} (told : keyring.verify now token ≠ .error .invalidToken) :
    ∃ parts header secret claims restrictions,
      keyring.Vouches token parts header secret claims restrictions := by
  unfold Keyring.verify at told
  split at told
  · rename_i parts split
    split at told
    · rename_i header headerRead
      split at told
      · rename_i secret known
        by_cases wrong : header.algorithm ≠ "HS256" ∨
          parts.signature ≠ signature secret parts.message
        · rw [if_pos wrong] at told
          exact absurd rfl told
        · rw [if_neg wrong] at told
          obtain ⟨algorithm, signed⟩ := not_or.mp wrong
          cases read : decodePart readClaims parts.claims with
          | none => simp [read] at told
          | some both =>
              obtain ⟨claims, restrictions⟩ := both
              cases limited : restrictions.expires with
              | none => simp [read, limited] at told
              | some expires =>
                  exact ⟨parts, header, secret, claims, restrictions,
                    .of_checks split headerRead (not_not.mp algorithm) known
                      (not_not.mp signed) read limited⟩
      · exact absurd rfl told
    · exact absurd rfl told
  · exact absurd rfl told

/-- Verification of any text, at any time. It succeeds exactly for a token that a key vouches for,
that has ended 60 seconds ago at most and is meant for no particular audience, and gives the user
and the role of its claims. It says that a token has expired exactly when a key vouches for it and
it has ended longer ago. All others are invalid. -/
theorem verify_spec (keyring : Keyring) (now : Int) (token : String) :
    (∀ identity,
      keyring.verify now token = .ok identity ↔ ∃ parts header secret claims restrictions,
      keyring.Vouches token parts header secret claims restrictions ∧
      now ≤ claims.expires + 60 ∧
        restrictions.audience = false ∧ identity = ⟨claims.subject, claims.role⟩) ∧
    (keyring.verify now token = .error .tokenExpired ↔
      ∃ parts header secret claims restrictions,
      keyring.Vouches token parts header secret claims restrictions ∧
      claims.expires + 60 < now) ∧
    ∀ e, keyring.verify now token = .error e → e = .tokenExpired ∨ e = .invalidToken := by
  have known (told : keyring.verify now token ≠ .error .invalidToken) := vouches_of_verify told
  refine ⟨fun identity => ⟨fun told => ?_, ?_⟩, ⟨fun told => ?_, ?_⟩, fun e told => ?_⟩
  · obtain ⟨parts, header, secret, claims, restrictions, vouches⟩ :=
      known (by rw [told]; exact nofun)
    rw [vouches.verify now] at told
    split at told
    · cases told
    · rename_i early
      split at told
      · cases told
      · rename_i general
        cases told
        exact ⟨parts, header, secret, claims, restrictions, vouches, Int.not_lt.mp early,
          by simpa using general, rfl⟩
  · rintro ⟨parts, header, secret, claims, restrictions, vouches, early, general, rfl⟩
    rw [vouches.verify now, if_neg (Int.not_lt.mpr early), general, if_neg Bool.false_ne_true]
  · obtain ⟨parts, header, secret, claims, restrictions, vouches⟩ :=
      known (by rw [told]; exact nofun)
    refine ⟨parts, header, secret, claims, restrictions, vouches, ?_⟩
    rw [vouches.verify now] at told
    split at told
    · assumption
    · split at told <;> cases told
  · rintro ⟨parts, header, secret, claims, restrictions, vouches, late⟩
    rw [vouches.verify now, if_pos late]
  · by_cases invalid : keyring.verify now token = .error .invalidToken
    · rw [invalid] at told
      exact .inr (Except.error.inj told).symm
    · obtain ⟨parts, header, secret, claims, restrictions, vouches⟩ := known invalid
      rw [vouches.verify now] at told
      split at told
      · exact .inl (Except.error.inj told).symm
      · split at told <;> cases told
        exact .inr rfl

end Keyring

end Auth

end StatusPage
