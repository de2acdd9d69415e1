import Mathlib.Data.List.TakeWhile
import StatusPage.Json.Printer
import StatusPage.Json.Reader

/-!
What is written as JSON is read back as it was. A value that is built from texts, whole numbers,
truth values and null is written as bytes from which the parser makes the same value, with nothing
left behind it.
-/

set_option autoImplicit false

namespace StatusPage.Json

open Text (Bytes ascii utf8)

/-! ### Numbers -/

private theorem digit_bounds {c : Char} (digit : c.isDigit = true) :
    '0'.toNat ≤ c.toNat ∧ c.toNat ≤ '9'.toNat := by
  obtain ⟨low, high⟩ := (Bool.and_eq_true _ _).mp digit
  exact ⟨UInt32.le_iff_toNat_le.mp (of_decide_eq_true low),
    UInt32.le_iff_toNat_le.mp (of_decide_eq_true high)⟩

private theorem isDigitByte_ascii {c : Char} (digit : c.isDigit = true) :
    isDigitByte (ascii c) = true := by
  obtain ⟨low, high⟩ := digit_bounds digit
  have table : ∀ n ≤ '9'.toNat, '0'.toNat ≤ n → isDigitByte n.toUInt8 = true := by decide
  exact table c.toNat high low

private theorem decimal_digits (n : Nat) :
    ∀ b ∈ (Text.decimal n).map ascii, isDigitByte b = true := by
  intro b member
  obtain ⟨c, digit, rfl⟩ := List.mem_map.mp member
  exact isDigitByte_ascii (Nat.isDigit_of_mem_toDigits (by decide) (by decide) digit)

private theorem valueOfDigits_decimal (n : Nat) :
    valueOfDigits ((Text.decimal n).map ascii) = n := by
  have folded : ∀ (text : List Char) (start : Nat), (∀ c ∈ text, c.isDigit = true) →
      (text.map ascii).foldl (fun n b => n * 10 + (b - ascii '0').toNat) start =
        text.foldl (fun n c => 10 * n + (c.toNat - '0'.toNat)) start := by
    intro text
    induction text with
    | nil =>
        intro start _
        rfl
    | cons c rest ih =>
        intro start each
        obtain ⟨low, high⟩ := digit_bounds (each c List.mem_cons_self)
        have table : ∀ n ≤ '9'.toNat, '0'.toNat ≤ n →
            (n.toUInt8 - ascii '0').toNat = n - '0'.toNat := by decide
        have value : (ascii c - ascii '0').toNat = c.toNat - '0'.toNat := table c.toNat high low
        have next :=
          ih (10 * start + (c.toNat - '0'.toNat)) fun d member =>
            each d (List.mem_cons_of_mem _ member)
        rw [List.map_cons, List.foldl_cons, List.foldl_cons, value, Nat.mul_comm start 10]
        exact next
  have digits : ∀ c ∈ Text.decimal n, c.isDigit = true :=
    fun c member => Nat.isDigit_of_mem_toDigits (by decide) (by decide) member
  rw [valueOfDigits, folded _ _ digits, ← Nat.ofDigitChars_eq_foldl]
  exact Nat.ofDigitChars_ten_toDigits

theorem decimal_front (n : Nat) :
    ∃ c rest, Text.decimal n = c :: rest ∧ c.isDigit = true ∧ (c = '0' → rest = []) := by
  have digits {m : Nat} : ∀ c ∈ Text.decimal m, c.isDigit = true :=
    fun c member => Nat.isDigit_of_mem_toDigits (by decide) (by decide) member
  induction n using Nat.strong_induction_on with
  | _ n ih =>
      by_cases small : n < 10
      · have single : Text.decimal n = [n.digitChar] := Nat.toDigits_of_lt_base small
        exact ⟨_, _, single, digits _ (single ▸ List.mem_cons_self), fun _ => rfl⟩
      · have longer : Text.decimal n = Text.decimal (n / 10) ++ [(n % 10).digitChar] :=
          Nat.toDigits_of_base_le (by decide) (Nat.le_of_not_lt small)
        obtain ⟨c, rest, front, digit, alone⟩ := ih (n / 10) (by omega)
        refine ⟨c, rest ++ [(n % 10).digitChar], by rw [longer, front]; rfl, digit, ?_⟩
        -- The front of a longer number is no zero, so it does not begin with one.
        rintro rfl
        have value := valueOfDigits_decimal (n / 10)
        rw [front, alone rfl] at value
        have nothing : n / 10 = 0 := value.symm
        omega

def Delimited (rest : Bytes) : Prop :=
  ∀ b ∈ rest.head?, isDigitByte b = false ∧ b ≠ ascii '.' ∧
    b ≠ ascii 'e' ∧ b ≠ ascii 'E'

private theorem lexDigits_append {digits rest : Bytes} (some : digits ≠ [])
    (each : ∀ b ∈ digits, isDigitByte b = true) (ends : Delimited rest) :
    lexDigits (digits ++ rest) = .some (digits, rest) := by
  have stop : rest.takeWhile isDigitByte = [] ∧ rest.dropWhile isDigitByte = rest := by
    cases rest with
    | nil => exact ⟨rfl, rfl⟩
    | cons b rest =>
        have other := (ends b rfl).1
        exact ⟨List.takeWhile_cons_of_neg (by simp [other]),
          List.dropWhile_cons_of_neg (by simp [other])⟩
  have taken : (digits ++ rest).takeWhile isDigitByte = digits := by
    rw [List.takeWhile_append_of_pos each, stop.1, List.append_nil]
  have left : (digits ++ rest).dropWhile isDigitByte = rest := by
    rw [List.dropWhile_append_of_pos each, stop.2]
  simp [lexDigits, taken, left, some]

private theorem lexWholePart_decimal (n : Nat) {rest : Bytes} (ends : Delimited rest) :
    lexWholePart ((Text.decimal n).map ascii ++ rest) =
      some ((Text.decimal n).map ascii, rest) := by
  have each := decimal_digits n
  obtain ⟨c, others, front, digit, alone⟩ := decimal_front n
  rw [front, List.map_cons] at each ⊢
  by_cases zero : c = '0'
  · have closed : rest.head?.any isDigitByte = false := by
      cases rest with
      | nil => rfl
      | cons b rest => exact (ends b rfl).1
    rw [alone zero, zero]
    simp [lexWholePart, closed]
  · have nonzero : ascii c ≠ ascii '0' := by
      obtain ⟨low, high⟩ := digit_bounds digit
      have table : ∀ n ≤ '9'.toNat, '0'.toNat ≤ n → n.toUInt8 = ascii '0' →
          n = '0'.toNat := by decide
      intro same
      exact zero (Char.toNat_inj.mp (table c.toNat high low same))
    have scanned := lexDigits_append (List.cons_ne_nil _ _) each ends
    rw [List.cons_append] at scanned ⊢
    simp only [lexWholePart, if_neg nonzero]
    exact scanned

private theorem lexFraction_delimited {rest : Bytes} (ends : Delimited rest) :
    lexFraction rest = some ([], rest) := by
  cases rest with
  | nil => rfl
  | cons b rest =>
      obtain ⟨-, point, -, -⟩ := ends b rfl
      simp only [lexFraction, if_neg point]

private theorem lexExponent_delimited {rest : Bytes} (ends : Delimited rest) :
    lexExponent rest = some (none, rest) := by
  cases rest with
  | nil => rfl
  | cons b rest =>
      obtain ⟨-, -, small, large⟩ := ends b rfl
      simp only [lexExponent, small, large, or_self, if_false]

private theorem lexMagnitude_decimal (negative : Bool) (n : Nat) {rest : Bytes}
    (ends : Delimited rest) :
    lexMagnitude negative ((Text.decimal n).map ascii ++ rest) =
      some (⟨negative, n, 0, true⟩, rest) := by
  simp [lexMagnitude, lexWholePart_decimal n ends, lexFraction_delimited ends,
    lexExponent_delimited ends, valueOfDigits_decimal]

private theorem lexNumber_write (i : Int) {rest : Bytes} (ends : Delimited rest) :
    lexNumber (writeNumber (.ofInt i) ++ rest) = some (.ofInt i, rest) := by
  have written : writeNumber (.ofInt i) =
      (if i < 0 then [ascii '-'] else []) ++ (Text.decimal i.natAbs).map ascii := by
    simp [writeNumber, Number.ofInt]
  rw [written, List.append_assoc]
  by_cases negative : i < 0
  · have magnitude := lexMagnitude_decimal true i.natAbs ends
    rw [if_pos negative, List.singleton_append]
    simp only [lexNumber, if_pos]
    rw [magnitude]
    simp [Number.ofInt, negative]
  · have magnitude := lexMagnitude_decimal false i.natAbs ends
    rw [if_neg negative, List.nil_append]
    obtain ⟨c, others, front, digit, -⟩ := decimal_front i.natAbs
    have unsigned : ascii c ≠ ascii '-' := by
      intro same
      have digit' := isDigitByte_ascii digit
      rw [same] at digit'
      exact absurd digit' (by decide)
    rw [front, List.map_cons, List.cons_append] at magnitude ⊢
    simp only [lexNumber, if_neg unsigned]
    rw [magnitude]
    simp [Number.ofInt, negative]

/-! ### Texts -/

section Texts

variable {b e : UInt8} {parts : List TextPart} {tail rest : Bytes}

private theorem lexText_quote (rest : Bytes) : lexText (ascii '"' :: rest) = some ([], rest) := by
  unfold lexText
  exact if_pos rfl

private theorem lexText_plain (quote : b ≠ ascii '"') (control : ¬b < 0x20)
    (escape : b ≠ ascii '\\') (read : lexText tail = some (parts, rest)) :
    lexText (b :: tail) = some (.byte b :: parts, rest) := by
  rw [lexText.eq_def]
  simp [quote, control, escape, read]

private theorem lexText_simple (escape : e ≠ ascii 'u') (means : simpleEscape e = some b)
    (read : lexText tail = some (parts, rest)) :
    lexText (ascii '\\' :: e :: tail) = some (.byte b :: parts, rest) := by
  have start : ascii '\\' ≠ ascii '"' ∧ ¬ascii '\\' < 0x20 := by decide
  rw [lexText.eq_def]
  simp [start, escape, means, read]

private theorem lexText_unit {h₁ h₂ h₃ h₄ : UInt8} {u : Nat}
    (digits : Text.hexNumber ([h₁, h₂, h₃, h₄].map fun h => Char.ofNat h.toNat) = some u)
    (read : lexText tail = some (parts, rest)) :
    lexText (ascii '\\' :: ascii 'u' :: h₁ :: h₂ :: h₃ :: h₄ :: tail) =
      some (.unit u :: parts, rest) := by
  have start : ascii '\\' ≠ ascii '"' ∧ ¬ascii '\\' < 0x20 := by decide
  rw [lexText.eq_def]
  simp only [start, if_false, if_true, digits, read]

/-- A byte is written with an escape of its own, with the number of a control
character, or as it stands. -/
theorem escapeByte_cases (b : UInt8) :
    (∃ e, escapeByte b = [ascii '\\', e] ∧ e ≠ ascii 'u' ∧ simpleEscape e = some b) ∨
      (b < 0x20 ∧ escapeByte b =
        ascii '\\' :: ascii 'u' :: ascii '0' :: ascii '0' :: (Text.hexOfByte b).map ascii) ∨
      (escapeByte b = [b] ∧ b ≠ ascii '"' ∧ ¬b < 0x20 ∧ b ≠ ascii '\\') := by
  by_cases own : b ∈ [ascii '"', ascii '\\', 8, 9, 10, 12, 13]
  · left
    simp only [List.mem_cons, List.not_mem_nil, or_false] at own
    rcases own with rfl | rfl | rfl | rfl | rfl | rfl | rfl
    · exact ⟨ascii '"', rfl, by decide, by decide⟩
    · exact ⟨ascii '\\', rfl, by decide, by decide⟩
    · exact ⟨ascii 'b', rfl, by decide, by decide⟩
    · exact ⟨ascii 't', rfl, by decide, by decide⟩
    · exact ⟨ascii 'n', rfl, by decide, by decide⟩
    · exact ⟨ascii 'f', rfl, by decide, by decide⟩
    · exact ⟨ascii 'r', rfl, by decide, by decide⟩
  · right
    simp only [List.mem_cons, List.not_mem_nil, or_false, not_or] at own
    obtain ⟨quote, escape, others⟩ := own
    by_cases control : b < 0x20
    · exact .inl ⟨control, by simp [escapeByte, quote, escape, others, control]⟩
    · exact .inr ⟨by simp [escapeByte, quote, escape, others, control], quote, control, escape⟩

private theorem lexText_escapeByte (b : UInt8) {bytes : Bytes}
    (read : lexText tail = some (parts, rest)) (means : bytesOfParts parts = some bytes) :
    ∃ more, lexText (escapeByte b ++ tail) = some (more, rest) ∧
      bytesOfParts more = some (b :: bytes) := by
  rcases escapeByte_cases b
    with ⟨e, written, escape, own⟩ | ⟨control, written⟩ | ⟨written, quote,
      control, escape⟩
  · rw [written]
    exact ⟨_, lexText_simple escape own read, by simp [bytesOfParts, means]⟩
  · have table : ∀ n < 0x20,
        Text.hexNumber (([ascii '0', ascii '0'] ++ (Text.hexOfByte n.toUInt8).map ascii).map
          fun h => Char.ofNat h.toNat) = some n ∧
        String.utf8EncodeChar (Char.ofNat n) = [n.toUInt8] := by decide
    obtain ⟨digits, encoded⟩ := table b.toNat control
    have same : b.toNat.toUInt8 = b := UInt8.ofNat_toNat
    rw [same] at digits encoded
    rw [written]
    refine ⟨.unit b.toNat :: parts, lexText_unit digits read, ?_⟩
    have low : b.toNat < 0xD800 := Nat.lt_trans control (by decide)
    rw [bytesOfParts.eq_def]
    simp [low, means, encoded]
  · rw [written]
    exact ⟨_, lexText_plain quote control escape read, by simp [bytesOfParts, means]⟩

private theorem lexText_written (bytes rest : Bytes) :
    ∃ parts, lexText (bytes.flatMap escapeByte ++ ascii '"' :: rest) = some (parts, rest) ∧
      bytesOfParts parts = some bytes := by
  induction bytes with
  | nil => exact ⟨[], lexText_quote rest, rfl⟩
  | cons b bytes ih =>
      obtain ⟨parts, read, means⟩ := ih
      rw [List.flatMap_cons, List.append_assoc]
      exact lexText_escapeByte b read means

end Texts

/-! ### Tokens -/

private theorem lex_cons {b : UInt8} {rest rest' : Bytes} {token : Token}
    (visible : isSpace b = false) (read : lexToken b rest = some (token, rest')) :
    lex (b :: rest) = token :: lex rest' := by
  rw [lex, if_neg (by simp [visible])]
  split
  · rename_i none
    rw [read] at none
    cases none
  · rename_i other
    rw [read] at other
    cases other
    rfl

private theorem lex_sign {b : UInt8} {rest : Bytes} (token : Token)
    (sign : (b, token) ∈
      [(ascii '[', Token.openList), (ascii ']', .closeList), (0x7B, .openRecord),
        (0x7D, .closeRecord), (ascii ',', .comma), (ascii ':', .colon)]) :
    lex (b :: rest) = token :: lex rest := by
  simp only [List.mem_cons, List.not_mem_nil, or_false, Prod.mk.injEq] at sign
  rcases sign with
    ⟨rfl, rfl⟩ | ⟨rfl, rfl⟩ | ⟨rfl, rfl⟩ | ⟨rfl, rfl⟩ | ⟨rfl, rfl⟩ | ⟨rfl, rfl⟩ <;>
    exact lex_cons rfl rfl

private theorem lex_writeText (text : String) (rest : Bytes) :
    lex (writeText text ++ rest) = .text (some text) :: lex rest := by
  obtain ⟨parts, read, means⟩ := lexText_written (utf8 text) rest
  have value : textOfParts parts = some text := by
    rw [textOfParts, means]
    exact Text.ofUtf8?_utf8 text
  rw [writeText, List.cons_append, List.append_assoc, List.singleton_append]
  refine lex_cons rfl ?_
  change Option.map _ (lexText _) = _
  simp only [read, Option.map_some, value]

def starters : Bytes :=
  [ascii '[', ascii ']', 0x7B, 0x7D, ascii ',', ascii ':', ascii '"', ascii 'n',
    ascii 't', ascii 'f']

private theorem lexToken_number {b : UInt8} (rest : Bytes) (other : b ∉ starters) :
    lexToken b rest = (lexNumber (b :: rest)).map fun (n, rest) => (.number n, rest) := by
  simp only [starters, List.mem_cons, List.not_mem_nil, or_false, not_or] at other
  simp only [lexToken, other, if_false]

private theorem lex_writeNumber (i : Int) {rest : Bytes} (ends : Delimited rest) :
    lex (writeNumber (.ofInt i) ++ rest) = .number (.ofInt i) :: lex rest := by
  have read := lexNumber_write i ends
  have front : ∃ b more, writeNumber (.ofInt i) = b :: more ∧
      (b = ascii '-' ∨ isDigitByte b = true) := by
    obtain ⟨c, others, front, digit, -⟩ := decimal_front i.natAbs
    by_cases negative : i < 0
    · exact ⟨ascii '-', _, by simp [writeNumber, Number.ofInt, negative]; rfl, .inl rfl⟩
    · exact ⟨ascii c, others.map ascii, by simp [writeNumber, Number.ofInt, negative, front],
        .inr (isDigitByte_ascii digit)⟩
  obtain ⟨b, more, written, start⟩ := front
  have visible : isSpace b = false := by
    refine Bool.eq_false_iff.mpr fun space => ?_
    simp only [isSpace, Bool.or_eq_true, decide_eq_true_eq] at space
    rcases space with ((rfl | rfl) | rfl) | rfl <;> exact absurd start (by decide)
  have other : b ∉ starters := by
    intro member
    simp only [starters, List.mem_cons, List.not_mem_nil, or_false] at member
    rcases member with rfl | rfl | rfl | rfl | rfl | rfl | rfl | rfl | rfl | rfl <;>
      exact absurd start (by decide)
  rw [written, List.cons_append] at read ⊢
  exact lex_cons visible (by rw [lexToken_number _ other, read]; rfl)

/-! ### Values -/

/-- Values made of whole numbers and of texts that are texts. -/
inductive Plain : Json → Prop
  | null : Plain .null
  | bool (value : Bool) : Plain (.bool value)
  | int (i : Int) : Plain (int i)
  | str (text : String) : Plain (str text)
  | list (items : List Json) (each : ∀ item ∈ items, Plain item) : Plain (.list items)
  | object (members : List (String × Json)) (each : ∀ member ∈ members, Plain member.2) :
      Plain (object members)

def resume (tokens : List Token) (value : Json) : List Frame → Document
  | [] => ⟨value, !tokens.isEmpty⟩
  | .list items :: stack => build (.list (value :: items) :: stack) .next tokens
  | .record members :: stack => build (.record members :: stack) .next tokens
  | .member members key :: stack => build (.record ((key, value) :: members) :: stack) .next tokens

private theorem build_complete {stack outer : List Frame} {expect : Expect} {token : Token}
    {value : Json} (stepped : step stack expect token = complete value outer)
    (tokens : List Token) :
    build stack expect (token :: tokens) = resume tokens value outer := by
  rw [build, stepped]
  cases outer with
  | nil => rfl
  | cons frame outer => cases frame <;> rfl

private theorem build_more {stack stack' : List Frame} {expect expect' : Expect} {token : Token}
    (stepped : step stack expect token = .more stack' expect') (tokens : List Token) :
    build stack expect (token :: tokens) = build stack' expect' tokens := by
  rw [build, stepped]

/-- Where the parser expects a value, the text of this one completes it. -/
def ReadBack (j : Json) : Prop :=
  ∀ (stack : List Frame) {expect : Expect} {rest : Bytes}, expect = .value ∨
    expect = .firstItem → Delimited rest →
    build stack expect (lex (write j ++ rest)) = resume (lex rest) j stack

private theorem delimited_cons {b : UInt8} (rest : Bytes)
    (sign : b ∈ [ascii ',', ascii ']', 0x7D]) :
    Delimited (b :: rest) := by
  rintro _ ⟨⟩
  simp only [List.mem_cons, List.not_mem_nil, or_false] at sign
  rcases sign with rfl | rfl | rfl <;> decide

private theorem readBack_token {j : Json} (token : Token)
    (starts : ∀ stack, startValue stack token = complete j stack)
    (other : token ≠ .closeList)
    (read : ∀ {rest}, Delimited rest → lex (write j ++ rest) = token :: lex rest) :
    ReadBack j := by
  intro stack expect rest start ends
  have stepped : step stack expect token = startValue stack token := by
    rcases start with rfl | rfl
    · rfl
    · cases token <;> first | rfl | exact absurd rfl other
  rw [read ends]
  exact build_complete (stepped.trans (starts stack)) _

private theorem build_items {items : List Json} (each : ∀ item ∈ items, ReadBack item)
    (some : items ≠ []) (stack : List Frame) (rest : Bytes) {expect : Expect}
    (start : expect = .value ∨ expect = .firstItem) (before : List Json) :
    build (.list before :: stack) expect (lex (writeItems items ++ ascii ']' :: rest)) =
      resume (lex rest) (.list (before.reverse ++ items)) stack := by
  induction items generalizing before expect with
  | nil => exact absurd rfl some
  | cons item items ih =>
      have here := each item List.mem_cons_self
      cases items with
      | nil =>
          have closed : step (.list (item :: before) :: stack) .next .closeList =
              complete (.list (before.reverse ++ [item])) stack := by
            simp [step, closeTop]
          rw [writeItems, here _ start (delimited_cons rest (by decide)),
            lex_sign .closeList (by simp)]
          exact build_complete closed _
      | cons next items =>
          have later :=
            ih (fun other member => each other (List.mem_cons_of_mem _ member))
              (List.cons_ne_nil _ _)
            (.inl rfl) (item :: before)
          have read :=
            here (.list before :: stack) start (delimited_cons (writeItems (next :: items) ++
            ascii ']' :: rest) (b := ascii ',') (by decide))
          rw [lex_sign .comma (by simp), resume, build_more rfl, later] at read
          simpa [writeItems] using read

private theorem build_members {members : List (String × Json)}
    (each : ∀ member ∈ members, ReadBack member.2) (some : members ≠ []) (stack : List Frame)
    (rest : Bytes) {expect : Expect} (start : expect = .key ∨ expect = .firstKey)
    (before : List (Option String × Json)) :
    build (.record before :: stack) expect
        (lex (writeMembers (members.map fun (key, value) => (.some key, value)) ++ 0x7D :: rest)) =
      resume (lex rest) (.record (before.reverse ++ members.map fun (key, value) =>
        (.some key, value))) stack := by
  induction members generalizing before expect with
  | nil => exact absurd rfl some
  | cons member members ih =>
      obtain ⟨key, value⟩ := member
      have here : ReadBack value := each (key, value) List.mem_cons_self
      have opened (more : Bytes) (ends : Delimited more) :
          build (.record before :: stack) expect
            (lex (writeText key ++ ascii ':' :: (write value ++ more))) =
            build (.record ((.some key, value) :: before) :: stack) .next (lex more) := by
        have named : step (.record before :: stack) expect (.text key) =
            .more (.member before key :: stack) .colon := by
          rcases start with rfl | rfl <;> rfl
        rw [lex_writeText, build_more named, lex_sign .colon (by simp), build_more rfl,
          here _ (.inl rfl) ends]
        rfl
      cases members with
      | nil =>
          have closed : step (.record ((.some key, value) :: before) :: stack) .next .closeRecord =
              complete (.record (before.reverse ++ [(.some key, value)])) stack := by
            simp [step, closeTop]
          have read := opened (0x7D :: rest) (delimited_cons rest (by decide))
          rw [lex_sign .closeRecord (by simp), build_complete closed] at read
          simpa [writeMembers] using read
      | cons next members =>
          have later :=
            ih (fun other member => each other (List.mem_cons_of_mem _ member))
              (List.cons_ne_nil _ _)
            (.inl rfl) ((.some key, value) :: before)
          have read := opened _ (delimited_cons (writeMembers
            ((next :: members).map fun (key, value) => (.some key, value)) ++ 0x7D ::
              rest) (b := ascii ',') (by decide))
          rw [lex_sign .comma (by simp), build_more rfl, later] at read
          simpa [writeMembers] using read

/-- What is written is read back, whatever may follow a value. -/
theorem Plain.readBack {j : Json} (plain : Plain j) : ReadBack j := by
  induction plain with
  | null => exact readBack_token .null (fun _ => rfl) (by simp) fun _ => lex_cons rfl rfl
  | bool value =>
      cases value with
      | true => exact readBack_token (.bool true) (fun _ => rfl) (by simp) fun _ => lex_cons rfl rfl
      | false =>
          exact readBack_token (.bool false) (fun _ => rfl) (by simp) fun _ => lex_cons rfl rfl
  | int i => exact readBack_token (.number (.ofInt i)) (fun _ => rfl) (by simp) (lex_writeNumber i)
  | str text =>
    exact readBack_token (.text text) (fun _ => rfl) (by simp) fun _ => lex_writeText text _
  | list items each ih =>
      intro stack expect rest start ends
      have opened : step stack expect .openList = .more (.list [] :: stack) .firstItem := by
        rcases start with rfl | rfl <;> rfl
      rw [write, List.cons_append, lex_sign .openList (by simp), build_more opened,
        List.append_assoc, List.singleton_append]
      cases items with
      | nil =>
          rw [writeItems, List.nil_append, lex_sign .closeList (by simp)]
          exact build_complete rfl _
      | cons item items => exact build_items ih (List.cons_ne_nil _ _) stack rest (.inr rfl) []
  | object members each ih =>
      intro stack expect rest start ends
      have opened : step stack expect .openRecord = .more (.record [] :: stack) .firstKey := by
        rcases start with rfl | rfl <;> rfl
      rw [Json.object, write, List.cons_append, lex_sign .openRecord (by simp), build_more opened,
        List.append_assoc, List.singleton_append]
      cases members with
      | nil =>
          rw [List.map_nil, writeMembers, List.nil_append, lex_sign .closeRecord (by simp)]
          exact build_complete rfl _
      | cons member members =>
        exact build_members ih (List.cons_ne_nil _ _) stack rest (.inr rfl) []

theorem parse_write {j : Json} (plain : Plain j) : parse (write j) = ⟨j, false⟩ := by
  have ends : Delimited [] := by rintro _ ⟨⟩
  have read := plain.readBack [] (.inl rfl) ends
  rw [List.append_nil] at read
  rw [parse, read]
  simp [resume, lex]

theorem readAll_write {α : Type} (read : Reader α) {j : Json} (plain : Plain j) :
    readAll read (write j) = read j := by
  rw [readAll, parse_write plain]
  cases read j <;> rfl

end StatusPage.Json
