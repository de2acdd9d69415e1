import StatusPage.Text.Hex
import StatusPage.Json.Basic

/-!
The tokens of a JSON text. The last token is `bad` when the rest of the text starts with none.
-/

set_option autoImplicit false

namespace StatusPage.Json

open Text (Bytes ascii)

inductive Token where
  | openList
  | closeList
  | openRecord
  | closeRecord
  | comma
  | colon
  | null
  | bool (value : Bool)
  | number (value : Number)
  | text (value : Option String)
  | bad

/-- A part of a quoted text: a byte as it stands, or a 16-bit unit
written as `\u` and four digits. -/
inductive TextPart where
  | byte (b : UInt8)
  | unit (u : Nat)

def simpleEscape (b : UInt8) : Option UInt8 :=
  if b = ascii '"' ∨ b = ascii '\\' ∨ b = ascii '/' then some b
  else if b = ascii 'b' then some 8
  else if b = ascii 'f' then some 12
  else if b = ascii 'n' then some 10
  else if b = ascii 'r' then some 13
  else if b = ascii 't' then some 9
  else none

def lexText : Bytes → Option (List TextPart × Bytes)
  | [] => none
  | b :: rest =>
      if b = ascii '"' then some ([], rest)
      else if b < 0x20 then none
      else if b = ascii '\\' then
        match rest with
        | [] => none
        | e :: rest =>
            if e = ascii 'u' then
              match rest with
              | h₁ :: h₂ :: h₃ :: h₄ :: rest =>
                  match Text.hexNumber ([h₁, h₂, h₃, h₄].map fun h => Char.ofNat h.toNat),
                    lexText rest with
                  | some u, some (parts, rest) => some (.unit u :: parts, rest)
                  | _, _ => none
              | _ => none
            else
              match simpleEscape e, lexText rest with
              | some b, some (parts, rest) => some (.byte b :: parts, rest)
              | _, _ => none
      else (lexText rest).map fun (parts, rest) => (.byte b :: parts, rest)

/-- The bytes of the parts; two units that form a surrogate pair are one character. -/
def bytesOfParts : List TextPart → Option Bytes
  | [] => some []
  | .byte b :: rest => (bytesOfParts rest).map (b :: ·)
  | .unit u :: rest =>
      if u < 0xD800 ∨ 0xDFFF < u then
        (bytesOfParts rest).map (String.utf8EncodeChar (Char.ofNat u) ++ ·)
      else
        match rest with
        | .unit v :: rest =>
            if u < 0xDC00 ∧ 0xDC00 ≤ v ∧ v ≤ 0xDFFF then
              (bytesOfParts rest).map
                (String.utf8EncodeChar
                  (Char.ofNat (0x10000 + (u - 0xD800) * 0x400 + (v - 0xDC00))) ++ ·)
            else none
        | _ => none

def textOfParts (parts : List TextPart) : Option String := (bytesOfParts parts).bind Text.ofUtf8?

def isDigitByte (b : UInt8) : Bool := ascii '0' ≤ b && b ≤ ascii '9'

def valueOfDigits (digits : Bytes) : Nat :=
  digits.foldl (fun n b => n * 10 + (b - ascii '0').toNat) 0

def lexDigits (input : Bytes) : Option (Bytes × Bytes) :=
  let digits := input.takeWhile isDigitByte
  if digits.isEmpty then none else some (digits, input.dropWhile isDigitByte)

def lexWholePart : Bytes → Option (Bytes × Bytes)
  | [] => none
  | b :: rest =>
      if b = ascii '0' then if rest.head?.any isDigitByte then none else some ([b], rest)
      else lexDigits (b :: rest)

def lexFraction : Bytes → Option (Bytes × Bytes)
  | [] => some ([], [])
  | b :: rest => if b = ascii '.' then lexDigits rest else some ([], b :: rest)

def lexExponent : Bytes → Option (Option Int × Bytes)
  | [] => some (none, [])
  | b :: rest =>
      if b = ascii 'e' ∨ b = ascii 'E' then
        match rest with
        | [] => none
        | s :: digits =>
            if s = ascii '-' then
              (lexDigits digits).map fun (ds, rest) => (some (-(valueOfDigits ds : Int)), rest)
            else if s = ascii '+' then
              (lexDigits digits).map fun (ds, rest) => (some (valueOfDigits ds : Int), rest)
            else (lexDigits (s :: digits)).map fun (ds, rest) =>
              (some (valueOfDigits ds : Int), rest)
      else some (none, b :: rest)

def lexMagnitude (negative : Bool) (input : Bytes) : Option (Number × Bytes) := do
  let (whole, rest) ← lexWholePart input
  let (fraction, rest) ← lexFraction rest
  let (exponent, rest) ← lexExponent rest
  return (⟨negative, valueOfDigits (whole ++ fraction), exponent.getD 0 - fraction.length,
    fraction.isEmpty && exponent.isNone⟩, rest)

def lexNumber : Bytes → Option (Number × Bytes)
  | [] => none
  | b :: rest => if b = ascii '-' then lexMagnitude true rest else lexMagnitude false (b :: rest)

def lexWord (word : String) (token : Token) (input : Bytes) : Option (Token × Bytes) :=
  let bytes := Text.utf8 word
  if input.take bytes.length = bytes then some (token, input.drop bytes.length) else none

def isSpace (b : UInt8) : Bool := b = 0x20 || b = 0x0A || b = 0x0D || b = 0x09

def lexToken (b : UInt8) (rest : Bytes) : Option (Token × Bytes) :=
  if b = ascii '[' then some (.openList, rest)
  else if b = ascii ']' then some (.closeList, rest)
  else if b = 0x7B then some (.openRecord, rest)
  else if b = 0x7D then some (.closeRecord, rest)
  else if b = ascii ',' then some (.comma, rest)
  else if b = ascii ':' then some (.colon, rest)
  else if b = ascii '"' then (lexText rest).map fun (parts, rest) =>
    (.text (textOfParts parts), rest)
  else if b = ascii 'n' then lexWord "ull" .null rest
  else if b = ascii 't' then lexWord "rue" (.bool true) rest
  else if b = ascii 'f' then lexWord "alse" (.bool false) rest
  else (lexNumber (b :: rest)).map fun (n, rest) => (.number n, rest)

private theorem lexText_length {input : Bytes} {parts : List TextPart} {rest : Bytes}
    (h : lexText input = some (parts, rest)) : rest.length < input.length := by
  fun_induction lexText input generalizing parts rest with
  | case1 => simp at h
  | case2 input => simp_all
  | case3 => simp at h
  | case4 => simp at h
  | case5 _ _ _ _ _ _ _ _ _ _ _ _ ih =>
      simp only [Option.some.injEq, Prod.mk.injEq] at h
      have := ih ‹_›
      simp only [List.length_cons]
      rw [← h.2]; omega
  | case6 => simp at h
  | case7 => simp at h
  | case8 _ _ _ _ _ _ _ _ _ _ ih =>
      simp only [Option.some.injEq, Prod.mk.injEq] at h
      have := ih ‹_›
      simp only [List.length_cons]
      rw [← h.2]; omega
  | case9 => simp at h
  | case10 b input _ _ _ ih =>
      simp only [Option.map_eq_some_iff, Prod.mk.injEq, Prod.exists] at h
      obtain ⟨parts', rest', inner, _, rfl⟩ := h
      have := ih inner
      simp only [List.length_cons]
      omega

private theorem lexDigits_length {input digits rest : Bytes}
    (h : lexDigits input = some (digits, rest)) :
    rest.length < input.length := by
  simp only [lexDigits] at h
  split at h
  · simp at h
  · rename_i nonempty
    simp only [Option.some.injEq, Prod.mk.injEq] at h
    obtain ⟨rfl, rfl⟩ := h
    have split :=
      congrArg List.length (List.takeWhile_append_dropWhile (p := isDigitByte) (l := input))
    simp only [List.length_append] at split
    have : 0 < (input.takeWhile isDigitByte).length := by
      cases hd : input.takeWhile isDigitByte with
      | nil => simp [hd] at nonempty
      | cons => simp
    omega

private theorem lexWholePart_length {input digits rest : Bytes}
    (h : lexWholePart input = some (digits, rest)) : rest.length < input.length := by
  cases input with
  | nil => simp [lexWholePart] at h
  | cons b tail =>
      simp only [lexWholePart] at h
      split at h
      · split at h
        · simp at h
        · simp only [Option.some.injEq, Prod.mk.injEq] at h
          simp [← h.2]
      · exact lexDigits_length h

private theorem lexFraction_length {input digits rest : Bytes}
    (h : lexFraction input = some (digits, rest)) : rest.length ≤ input.length := by
  cases input with
  | nil => simp only [lexFraction, Option.some.injEq, Prod.mk.injEq] at h; simp [← h.2]
  | cons b tail =>
      simp only [lexFraction] at h
      split at h
      · exact Nat.le_succ_of_le (Nat.le_of_lt (lexDigits_length h))
      · simp only [Option.some.injEq, Prod.mk.injEq] at h
        simp [← h.2]

private theorem lexExponent_length {input rest : Bytes} {exponent : Option Int}
    (h : lexExponent input = some (exponent, rest)) : rest.length ≤ input.length := by
  cases input with
  | nil => simp only [lexExponent, Option.some.injEq, Prod.mk.injEq] at h; simp [← h.2]
  | cons b tail =>
      simp only [lexExponent] at h
      split at h
      · cases tail with
        | nil => simp at h
        | cons s digits =>
            simp only at h
            split at h
            all_goals
              first
              | split at h
              | skip
            all_goals
              simp only [Option.map_eq_some_iff, Prod.mk.injEq, Prod.exists] at h
              obtain ⟨ds, rest', inner, _, rfl⟩ := h
              have := lexDigits_length inner
              simp only [List.length_cons] at *
              omega
      · simp only [Option.some.injEq, Prod.mk.injEq] at h
        simp [← h.2]

private theorem lexMagnitude_length {negative : Bool} {input rest : Bytes} {n : Number}
    (h : lexMagnitude negative input = some (n, rest)) : rest.length < input.length := by
  simp only [lexMagnitude, Option.bind_eq_bind, Option.bind_eq_some_iff, Prod.exists,
    Option.pure_def, Option.some.injEq, Prod.mk.injEq] at h
  obtain ⟨_, _, whole, _, _, fraction, _, _, exponent, _, rfl⟩ := h
  have := lexWholePart_length whole
  have := lexFraction_length fraction
  have := lexExponent_length exponent
  omega

private theorem lexNumber_length {input rest : Bytes} {n : Number}
    (h : lexNumber input = some (n, rest)) : rest.length < input.length := by
  cases input with
  | nil => simp [lexNumber] at h
  | cons b tail =>
      simp only [lexNumber] at h
      split at h
      · exact Nat.lt_succ_of_lt (lexMagnitude_length h)
      · exact lexMagnitude_length h

private theorem lexWord_length {word : String} {token t : Token} {input rest : Bytes}
    (h : lexWord word token input = some (t, rest)) : rest.length ≤ input.length := by
  simp only [lexWord] at h
  split at h
  · simp only [Option.some.injEq, Prod.mk.injEq] at h
    simp [← h.2]
  · simp at h

theorem lexToken_length {b : UInt8} {input rest : Bytes} {t : Token}
    (h : lexToken b input = some (t, rest)) : rest.length ≤ input.length := by
  simp only [lexToken] at h
  repeat' split at h
  all_goals first
    | (simp only [Option.some.injEq, Prod.mk.injEq] at h; simp [← h.2])
    | exact lexWord_length h
    | skip
  · simp only [Option.map_eq_some_iff, Prod.mk.injEq, Prod.exists] at h
    obtain ⟨_, _, inner, _, rfl⟩ := h
    exact Nat.le_of_lt (lexText_length inner)
  · simp only [Option.map_eq_some_iff, Prod.mk.injEq, Prod.exists] at h
    obtain ⟨_, _, inner, _, rfl⟩ := h
    exact Nat.le_of_lt_succ (lexNumber_length inner)

def lex : Bytes → List Token
  | [] => []
  | b :: rest =>
      if isSpace b then lex rest
      else
        match _h : lexToken b rest with
        | none => [.bad]
        | some (token, rest') => token :: lex rest'
  termination_by input => input.length
  decreasing_by
    · simp
    · exact Nat.lt_succ_of_le (lexToken_length _h)

end StatusPage.Json
