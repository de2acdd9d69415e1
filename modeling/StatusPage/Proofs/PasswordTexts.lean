import Mathlib.Data.Bool.AllAny
import StatusPage.Auth.Password
import StatusPage.Proofs.ConfiguredNumbers
import StatusPage.Proofs.IssuedTokens
import StatusPage.Proofs.JsonText
import StatusPage.Proofs.PreviousKeys

/-!
Hash texts that are written are read back. A text tells what is to be computed of a password before
anything is computed, so the reading can be told apart from the digest: whatever function the digest
is, a text that was made of one password makes the check of another compute one digest, at the costs
and with the salt of the text.
-/

set_option autoImplicit false

namespace StatusPage

open Text (Bytes Base64Alphabet)

/-! ### Sizes of digests -/

namespace Crypto

private theorem Blake2b.absorb_length (state : List UInt64) (count : Nat) (blocks : List Bytes) :
    (Blake2b.absorb state count blocks).length = 8 := by
  fun_induction Blake2b.absorb state count blocks with
  | case1 => simp [Blake2b.compress]
  | case2 => simp [Blake2b.compress]
  | case3 _ _ _ _ _ ih => exact ih

private theorem bytesOfWords_length (words : List UInt64) :
    (bytesOfWords words).length = 8 * words.length := by
  simp [bytesOfWords, List.length_flatMap, Nat.mul_comm]

private theorem blake2b_length {size : Nat} (message : Bytes) (fits : size ≤ 64) :
    (blake2b size message).length = size := by
  rw [blake2b, List.length_take, bytesOfWords_length, Blake2b.absorb_length]
  exact Nat.min_eq_left fits

private theorem Argon2.hash_length {p : Argon2.Parameters} {password salt associated : Bytes}
    {size : Nat} (fits : size ≤ 64) :
    (Argon2.hash p password salt associated size).length = size := by
  rw [Argon2.hash, Argon2.longHash, if_pos fits]
  exact blake2b_length _ fits

end Crypto

/-! ### Base 64 -/

namespace Text

private theorem Base64Alphabet.length_encode {alphabet : Base64Alphabet} (bytes : Bytes) :
    (alphabet.encode bytes).length = (bytes.length * 4 + 2) / 3 := by
  fun_induction encode alphabet bytes with
  | case1 a b c rest n ih =>
      simp only [List.length_cons, ih]
      omega
  | case2 | case3 => simp
  | case4 => rfl

private theorem utf8Length_of_ascii {text : List Char} (ascii : ∀ c ∈ text, c.utf8Size = 1) :
    utf8Length text = text.length := by
  have counted (start : Nat) :
      text.foldl (fun n c => n + c.utf8Size) start = start + text.length := by
    induction text generalizing start with
    | nil => rfl
    | cons c rest ih =>
        rw [List.foldl_cons, ih (fun d member => ascii d (List.mem_cons_of_mem _ member)),
          ascii c List.mem_cons_self, List.length_cons]
        omega
  rw [utf8Length, counted 0, Nat.zero_add]

private theorem utf8Size_of_isDigit {c : Char} (digit : isDigit c = true) : c.utf8Size = 1 := by
  simp only [isDigit, Bool.and_eq_true, decide_eq_true_eq] at digit
  have small : c.val ≤ '9'.val := digit.2
  have ascii : c.val ≤ 0x7f := UInt32.le_trans small (by decide)
  simp [Char.utf8Size, ascii]

end Text

namespace Auth

/-! ### What is computed of a password -/

/-- A function that computes digests: of costs, a password, a salt and
associated data, in a size. -/
abbrev Digest := Crypto.Argon2.Parameters → Bytes → Bytes → Bytes → Nat → Bytes

def Digest.Sized (digest : Digest) : Prop :=
  ∀ p password salt associated size, size ≤ 64 →
    (digest p password salt associated size).length = size

theorem argon2_sized : Digest.Sized Crypto.Argon2.hash := fun _ _ _ _ _ => Crypto.Argon2.hash_length

structure Derivation where
  parameters : Crypto.Argon2.Parameters
  password : Bytes
  salt : Bytes
  associated : Bytes
  expected : Bytes
  deriving DecidableEq

def Derivation.holds (digest : Digest) (derivation : Derivation) : Bool :=
  digest derivation.parameters derivation.password derivation.salt derivation.associated
    derivation.expected.length == derivation.expected

namespace PasswordHash

def derivation (parsed : PasswordHash) (password : String) :
    Except PasswordError (Option Derivation) :=
  match parsed.salt, parsed.hash with
  | some salt, some hash => do
      let settings ← parsed.settings
      let variant ← variantOf parsed.algorithm
      let version ← versionOf parsed.version
      let salt ← saltBytes salt
      let costs := settings.costs
      return some ⟨⟨variant, version, costs.memoryKib, costs.iterations, costs.parallelism⟩,
        Text.utf8 password, salt, settings.associated, hash⟩
  | _, _ => .ok none

private theorem accepts_eq (parsed : PasswordHash) (password : String) :
    parsed.accepts password =
      (parsed.derivation password).map fun derivation =>
        derivation.any (Derivation.holds Crypto.Argon2.hash) := by
  obtain ⟨algorithm, version, params, salt, hash⟩ := parsed
  cases salt with
  | none => rfl
  | some salt =>
      cases hash with
      | none => rfl
      | some hash =>
          simp only [accepts, derivation]
          cases (PasswordHash.mk algorithm version params (some salt) (some hash)).settings with
          | error e => rfl
          | ok settings =>
              cases variantOf algorithm with
              | error e => rfl
              | ok variant =>
                  cases versionOf version with
                  | error e => rfl
                  | ok version => cases saltBytes salt <;> rfl

end PasswordHash

def derivation (password hash : String) : Except PasswordError (Option Derivation) := do
  (← PasswordHash.ofText hash).derivation password

def verifyPasswordBy (digest : Digest) (password hash : String) : Except PasswordError Bool :=
  (derivation password hash).map fun derivation => derivation.any (·.holds digest)

theorem verifyPassword_eq (password hash : String) :
    verifyPassword password hash = verifyPasswordBy Crypto.Argon2.hash password hash := by
  unfold verifyPassword verifyPasswordBy derivation
  cases PasswordHash.ofText hash with
  | error e => rfl
  | ok parsed => exact parsed.accepts_eq password

def PasswordCosts.parameters (costs : PasswordCosts) : Crypto.Argon2.Parameters :=
  ⟨.hybrid, 19, costs.memoryKib, costs.iterations, costs.parallelism⟩

def PasswordCosts.written (costs : PasswordCosts) : List Char :=
  "m=".toList ++ Text.decimal costs.memoryKib ++ ",t=".toList ++ Text.decimal costs.iterations ++
    ",p=".toList ++ Text.decimal costs.parallelism

def hashText (costs : PasswordCosts) (salt output : Bytes) : List Char :=
  "$argon2id$v=19$".toList ++ costs.written ++ '$' :: Base64Alphabet.standard.encode salt ++
    '$' :: Base64Alphabet.standard.encode output

def hashPasswordBy (digest : Digest) (costs : PasswordCosts) (salt : Bytes)
    (password : String) : String :=
  String.ofList (hashText costs salt (digest costs.parameters (Text.utf8 password) salt [] 32))

theorem hashPassword_eq (costs : PasswordCosts) (salt : Bytes) (password : String) :
    hashPassword costs salt password = hashPasswordBy Crypto.Argon2.hash costs salt password := by
  have front : "$argon2id$v=19$m=".toList = "$argon2id$v=19$".toList ++ "m=".toList := by decide
  unfold hashPassword hashPasswordBy hashText PasswordCosts.written
  dsimp only
  rw [front]
  simp only [List.append_assoc, List.cons_append]
  rfl

structure PasswordCosts.Legal (costs : PasswordCosts) : Prop where
  checked : costs.check = .ok ()
  memory : costs.memoryKib ≤ Text.word32Max
  iterations : costs.iterations ≤ Text.word32Max

theorem PasswordCosts.Legal.parallelism {costs : PasswordCosts} (legal : costs.Legal) :
    costs.parallelism ≤ Text.word32Max := by
  have checked := legal.checked
  have small : costs.parallelism ≤ 0xFFFFFF := by
    by_contra large
    simp only [PasswordCosts.check, if_pos (Nat.lt_of_not_le large)] at checked
    split at checked
    · cases checked
    · split at checked <;> cases checked
  unfold Text.word32Max
  omega

/-! ### Fields of a hash text -/

section Fields

open Text (decimal utf8Length)

private theorem isValueChar_of_isDigit {c : Char} (digit : Text.isDigit c = true) :
    PasswordHash.isValueChar c = true := by
  have digit' : c.isDigit = true := by simpa [Text.isDigit, Char.isDigit, Char.le_def] using digit
  simp [PasswordHash.isValueChar, Char.isAlphanum, digit']

private theorem isValueChar_of_mem_encode {bytes : Bytes} {c : Char}
    (member : c ∈ Base64Alphabet.standard.encode bytes) :
    PasswordHash.isValueChar c = true ∧ c.utf8Size = 1 ∧ c ≠ '$' := by
  have table : ∀ c ∈ Base64Alphabet.standard.digits, PasswordHash.isValueChar c = true ∧
      c.utf8Size = 1 ∧ c ≠ '$' :=
    List.all_iff_forall_prop.mp (by decide)
  exact table c (Text.Base64Alphabet.mem_encode member)

private theorem utf8Length_decimal (n : Nat) : utf8Length (decimal n) = (decimal n).length :=
  Text.utf8Length_of_ascii fun _ member =>
    Text.utf8Size_of_isDigit (Time.isDigit_of_mem_decimal member)

private theorem decimal_length_le {n : Nat} (fits : n ≤ Text.word32Max) :
    (decimal n).length ≤ 10 := by
  rw [decimal, Nat.length_toDigits_le_iff (by decide) (by decide)]
  unfold Text.word32Max at fits
  omega

private theorem checkValue_of_plain {wrap : ValueFlaw → PasswordError} {text : List Char}
    (short : utf8Length text ≤ 64) (plain : ∀ c ∈ text, PasswordHash.isValueChar c = true) :
    PasswordHash.checkValue wrap text = .ok text := by
  have none : (text.find? fun c => !PasswordHash.isValueChar c) = .none := by
    rw [List.find?_eq_none]
    intro c member
    simp [plain c member]
  rw [PasswordHash.checkValue, if_neg (Nat.not_lt.mpr short), none]

private theorem readNumber_decimal {n : Nat} (fits : n ≤ Text.word32Max) :
    PasswordHash.readNumber (decimal n) = .ok n := by
  obtain ⟨c, rest, front, -, alone⟩ := Json.decimal_front n
  have some : (decimal n).isEmpty = false := by rw [front]; rfl
  have none : ((decimal n).find? fun c => !Text.isDigit c) = .none := by
    rw [List.find?_eq_none]
    intro c member
    simp [Time.isDigit_of_mem_decimal member]
  have unpadded : ¬((decimal n).head? = .some '0' ∧ 1 < (decimal n).length) := by
    rw [front]
    rintro ⟨zero, longer⟩
    rw [alone (Option.some.inj zero)] at longer
    exact absurd longer (Nat.lt_irrefl 1)
  have denotes := Text.denotes_decimalInt (Int.natCast_nonneg n) fits
  rw [Text.decimalInt, if_neg (Int.not_lt.mpr (Int.natCast_nonneg n)),
    Int.natAbs_natCast] at denotes
  have read := (Text.readNumeral_eq_ok_iff (Int.le_refl 0) (by decide)).mpr denotes
  rw [PasswordHash.readNumber, some, if_neg Bool.false_ne_true, none]
  dsimp only
  rw [if_neg unpadded, read]
  rfl

private theorem readParam_written (name : String) {n : Nat}
    (named : PasswordHash.readName name.toList = .ok name) (apart : '=' ∉ name.toList)
    (fits : n ≤ Text.word32Max) :
    PasswordHash.readParam (name.toList ++ '=' :: decimal n) = .ok (name, decimal n) := by
  have digits : ∀ c ∈ decimal n, Text.isDigit c = true := fun c => Time.isDigit_of_mem_decimal
  have signless : '=' ∉ decimal n := fun member => absurd (digits _ member) (by decide)
  have length := decimal_length_le fits
  have value : PasswordHash.checkValue .paramValue (decimal n) = .ok (decimal n) := by
    refine checkValue_of_plain ?_ fun c member => isValueChar_of_isDigit (digits c member)
    rw [utf8Length_decimal]
    omega
  rw [PasswordHash.readParam, List.splitOn_append_cons_self_of_not_mem apart,
    List.splitOn_eq_singleton signless]
  simp only [named, value]
  rfl

private theorem mem_written {costs : PasswordCosts} {c : Char} (member : c ∈ costs.written) :
    c ∈ "m=,tp".toList ∨ Text.isDigit c = true := by
  have sign {text : List Char} (listed : (text.all fun c => c ∈ "m=,tp".toList) = true)
      (member : c ∈ text) :
      c ∈ "m=,tp".toList ∨ Text.isDigit c = true :=
    .inl (List.all_iff_forall_prop.mp listed c member)
  have digit {n : Nat} (member : c ∈ decimal n) :
      c ∈ "m=,tp".toList ∨ Text.isDigit c = true :=
    .inr (Time.isDigit_of_mem_decimal member)
  simp only [PasswordCosts.written, List.mem_append] at member
  rcases member with ((((first | memory) | second) | iterations) | third) | parallelism
  · exact sign (by decide) first
  · exact digit memory
  · exact sign (by decide) second
  · exact digit iterations
  · exact sign (by decide) third
  · exact digit parallelism

private theorem readParams_written {costs : PasswordCosts} (legal : costs.Legal) :
    PasswordHash.readParams costs.written =
      .ok [("m", decimal costs.memoryKib), ("t", decimal costs.iterations),
      ("p", decimal costs.parallelism)] := by
  have split : costs.written.splitOn ',' = ["m".toList ++ '=' :: decimal costs.memoryKib,
      "t".toList ++ '=' :: decimal costs.iterations,
      "p".toList ++ '=' :: decimal costs.parallelism] := by
    have digits (n : Nat) : ',' ∉ decimal n :=
      fun member => absurd (Time.isDigit_of_mem_decimal member) (by decide)
    have apart (name : String) (n : Nat) (plain : ',' ∉ name.toList) :
        ',' ∉ name.toList ++ '=' :: decimal n := by
      simp [plain, digits n]
    have whole : costs.written = "m".toList ++ '=' :: decimal costs.memoryKib ++
        ',' :: ("t".toList ++ '=' :: decimal costs.iterations ++
          ',' :: ("p".toList ++ '=' :: decimal costs.parallelism)) := by
      have first : "m=".toList = "m".toList ++ ['='] := by decide
      have second : ",t=".toList = ',' :: ("t".toList ++ ['=']) := by decide
      have third : ",p=".toList = ',' :: ("p".toList ++ ['=']) := by decide
      simp only [PasswordCosts.written, first, second, third, List.append_assoc, List.cons_append,
        List.nil_append]
    rw [whole, List.splitOn_append_cons_self_of_not_mem (apart "m" _ (by decide)),
      List.splitOn_append_cons_self_of_not_mem (apart "t" _ (by decide)),
      List.splitOn_eq_singleton (apart "p" _ (by decide))]
  have short : ¬127 < utf8Length costs.written := by
    have ascii : ∀ c ∈ "m=,tp".toList, c.utf8Size = 1 := List.all_iff_forall_prop.mp (by decide)
    have first := decimal_length_le legal.memory
    have second := decimal_length_le legal.iterations
    have third := decimal_length_le legal.parallelism
    rw [Text.utf8Length_of_ascii fun c member =>
      (mem_written member).elim (ascii c) Text.utf8Size_of_isDigit]
    simp only [PasswordCosts.written, List.length_append]
    have sizes : "m=".toList.length = 2 ∧ ",t=".toList.length = 3 ∧
        ",p=".toList.length = 3 := by decide
    omega
  rw [PasswordHash.readParams, if_neg short, split, mapM_eq_ok_iff]
  have memory := readParam_written "m" (by decide) (by decide) legal.memory
  have iterations := readParam_written "t" (by decide) (by decide) legal.iterations
  have parallelism := readParam_written "p" (by decide) (by decide) legal.parallelism
  exact .cons memory (.cons iterations (.cons parallelism .nil))

private theorem readTail_written {algorithm : String} {version : Option Nat}
    {params : List (String × List Char)} {salt digest : Bytes} (salted : salt.length = 16)
    (sized : digest.length = 32) :
    PasswordHash.readTail algorithm version params
        [Base64Alphabet.standard.encode salt, Base64Alphabet.standard.encode digest] =
      .ok ⟨algorithm, version, params, some (Base64Alphabet.standard.encode salt),
        some digest⟩ := by
  have length (bytes : Bytes) :
      utf8Length (Base64Alphabet.standard.encode bytes) = (bytes.length * 4 + 2) / 3 := by
    rw [Text.utf8Length_of_ascii fun c member => (isValueChar_of_mem_encode member).2.1,
      Text.Base64Alphabet.length_encode]
  have first : PasswordHash.readSalt (Base64Alphabet.standard.encode salt) =
      .ok (Base64Alphabet.standard.encode salt) := by
    have size := length salt
    rw [PasswordHash.readSalt, if_neg (by omega)]
    exact checkValue_of_plain (by omega) fun c member => (isValueChar_of_mem_encode member).1
  have second : PasswordHash.readOutput (Base64Alphabet.standard.encode digest) = .ok digest := by
    have size := length digest
    have decoded : PasswordHash.decode (Base64Alphabet.standard.encode digest) = .ok digest := by
      rw [PasswordHash.decode, Text.Base64Alphabet.decode?_encode]
    rw [PasswordHash.readOutput, if_neg (by omega), decoded]
    change (if digest.length < 10 then _ else _) = _
    rw [if_neg (by omega)]
  simp only [PasswordHash.readTail, first, second]
  rfl

private theorem splitOn_hashText (costs : PasswordCosts) (salt output : Bytes) :
    (hashText costs salt output).splitOn '$' = [[], "argon2id".toList, "v=19".toList, costs.written,
      Base64Alphabet.standard.encode salt, Base64Alphabet.standard.encode output] := by
  have apart : '$' ∉ costs.written := by
    intro member
    rcases mem_written member with sign | digit
    · exact absurd sign (by decide)
    · exact absurd digit (by decide)
  have encoded (bytes : Bytes) : '$' ∉ Base64Alphabet.standard.encode bytes :=
    fun member => (isValueChar_of_mem_encode member).2.2 rfl
  have front :
      "$argon2id$v=19$".toList = '$' :: ("argon2id".toList ++ '$' :: ("v=19".toList ++ ['$'])) := by
    decide
  have whole : hashText costs salt output = ['$'].intercalate [[], "argon2id".toList, "v=19".toList,
      costs.written,
      Base64Alphabet.standard.encode salt, Base64Alphabet.standard.encode output] := by
    unfold hashText
    simp only [List.intercalate_cons_cons, List.intercalate_singleton, List.append_assoc,
      List.cons_append, List.nil_append]
    rw [front, List.cons_append, List.append_assoc, List.cons_append, List.append_assoc,
      List.singleton_append]
  rw [whole, List.splitOn_intercalate '$' ?_ (List.cons_ne_nil _ _)]
  simp only [List.forall_mem_cons]
  exact ⟨by decide, by decide, by decide, apart, encoded salt, encoded output, nofun⟩

private theorem ofText_hashText {costs : PasswordCosts} (legal : costs.Legal) {salt output : Bytes}
    (salted : salt.length = 16) (sized : output.length = 32) :
    PasswordHash.ofText (String.ofList (hashText costs salt output)) =
      .ok ⟨"argon2id", some 19, [("m", decimal costs.memoryKib), ("t", decimal costs.iterations),
        ("p", decimal costs.parallelism)], some (Base64Alphabet.standard.encode salt),
        some output⟩ := by
  have some : String.ofList (hashText costs salt output) ≠ "" := by
    intro nothing
    have empty := congrArg String.toList nothing
    rw [String.toList_ofList] at empty
    exact List.append_ne_nil_of_right_ne_nil _ (List.cons_ne_nil _ _) empty
  have version : "v=19".toList = 'v' :: '=' :: "19".toList := by decide
  have named : PasswordHash.readName "argon2id".toList = .ok "argon2id" := by decide
  have numbered : PasswordHash.readVersion "19".toList = .ok 19 := by decide
  have single : "19".toList.contains ',' = false := by decide
  have costly : costs.written.contains '=' = true := by simp [PasswordCosts.written]
  rw [PasswordHash.ofText, if_neg some, String.toList_ofList, splitOn_hashText, version]
  simp only [PasswordHash.readFields, PasswordHash.readRest, named, numbered, single, costly,
    readParams_written legal]
  exact readTail_written salted sized

private theorem settings_written {costs : PasswordCosts} (legal : costs.Legal) {algorithm : String}
    {version : Option Nat} {salt : Option (List Char)} {output : Option Bytes} :
    (PasswordHash.mk algorithm version [("m", decimal costs.memoryKib),
      ("t", decimal costs.iterations),
      ("p", decimal costs.parallelism)] salt output).settings = .ok ⟨costs, []⟩ := by
  have memory := readNumber_decimal legal.memory
  have iterations := readNumber_decimal legal.iterations
  have parallelism := readNumber_decimal legal.parallelism
  rw [PasswordHash.settings]
  simp only [List.foldlM_cons, List.foldlM_nil, PasswordHash.applyParam, memory,
    iterations, parallelism]
  change (do costs.check; return _) = _
  rw [legal.checked]
  rfl

end Fields

/-! ### Checking a password against a hash text -/

section Checks

variable {digest : Digest} {costs : PasswordCosts} {salt : Bytes}

/-- A password is checked against the text of another one by one digest, at the costs and with the
salt of the text. -/
theorem derivation_written (sized : digest.Sized) (legal : costs.Legal) (salted : salt.length = 16)
    (password secret : String) :
    derivation password (hashPasswordBy digest costs salt secret) = .ok (some
      ⟨costs.parameters, Text.utf8 password, salt, [],
        digest costs.parameters (Text.utf8 secret) salt [] 32⟩) := by
  have output := sized costs.parameters (Text.utf8 secret) salt [] 32 (by decide)
  have decoded : PasswordHash.saltBytes (Base64Alphabet.standard.encode salt) = .ok salt := by
    rw [PasswordHash.saltBytes, PasswordHash.decode, Text.Base64Alphabet.decode?_encode]
    change (if salt.length < 8 then _ else _) = _
    rw [if_neg (by omega)]
  rw [derivation, hashPasswordBy, ofText_hashText legal salted output]
  simp only [bind, Except.bind, PasswordHash.derivation, settings_written legal, decoded]
  rfl

theorem hashPasswordBy_tells {digest' : Digest} {costs' : PasswordCosts} {salt' : Bytes}
    {password password' : String}
    (same : hashPasswordBy digest costs salt password =
      hashPasswordBy digest' costs' salt' password') :
    salt = salt' ∧ digest costs.parameters (Text.utf8 password) salt [] 32 =
      digest' costs'.parameters (Text.utf8 password') salt' [] 32 := by
  have injective {bytes bytes' : Bytes}
      (encoded : Base64Alphabet.standard.encode bytes = Base64Alphabet.standard.encode bytes') :
      bytes = bytes' := by
    have decoded := congrArg (Base64Alphabet.decode? .standard) encoded
    rw [Base64Alphabet.decode?_encode, Base64Alphabet.decode?_encode] at decoded
    exact Option.some.inj decoded
  have fields := congrArg (fun text => text.toList.splitOn '$') same
  simp only [hashPasswordBy, String.toList_ofList, splitOn_hashText, List.cons.injEq] at fields
  obtain ⟨-, -, -, -, first, second, -⟩ := fields
  exact ⟨injective first, injective second⟩

theorem verifyPasswordBy_written (sized : digest.Sized) (legal : costs.Legal)
    (salted : salt.length = 16) (password secret : String) :
    verifyPasswordBy digest password (hashPasswordBy digest costs salt secret) =
      .ok (digest costs.parameters (Text.utf8 password) salt [] 32 ==
        digest costs.parameters (Text.utf8 secret) salt [] 32) := by
  rw [verifyPasswordBy, derivation_written sized legal salted]
  have output := sized costs.parameters (Text.utf8 secret) salt [] 32 (by decide)
  simp only [Except.map, Option.any_some, Derivation.holds, output]

theorem verifyPassword_hashPassword (legal : costs.Legal) (salted : salt.length = 16)
    (password : String) :
    verifyPassword password (hashPassword costs salt password) = .ok true := by
  rw [verifyPassword_eq, hashPassword_eq, verifyPasswordBy_written argon2_sized legal salted,
    beq_self_eq_true]

end Checks

end Auth

end StatusPage
