/-!
UTF-8. A text has one sequence of bytes; reading bytes back succeeds on exactly the well-formed
sequences, and the lenient reading puts U+FFFD for each longest ill-formed stretch.
-/

set_option autoImplicit false

namespace StatusPage.Text

abbrev Bytes := List UInt8

def utf8 (text : String) : Bytes := text.toUTF8.data.toList

def ofUtf8? (bytes : Bytes) : Option String := String.fromUTF8? ⟨bytes.toArray⟩

theorem ofUtf8?_utf8 (text : String) : ofUtf8? (utf8 text) = some text := by
  simp only [ofUtf8?, utf8, String.fromUTF8?]
  exact dif_pos text.isValidUTF8

def ascii (c : Char) : UInt8 := c.toNat.toUInt8

private def isContinuation (b : UInt8) : Bool := b &&& 0xC0 == 0x80

/-- For a lead byte: how many bytes follow, the payload of the lead, and
the range of the second byte. -/
private def leadShape (b : UInt8) : Option (Nat × Nat × UInt8 × UInt8) :=
  if 0xC2 ≤ b && b ≤ 0xDF then some (1, b.toNat - 0xC0, 0x80, 0xBF)
  else if b == 0xE0 then some (2, 0, 0xA0, 0xBF)
  else if b == 0xED then some (2, 0xD, 0x80, 0x9F)
  else if 0xE1 ≤ b && b ≤ 0xEF then some (2, b.toNat - 0xE0, 0x80, 0xBF)
  else if b == 0xF0 then some (3, 0, 0x90, 0xBF)
  else if b == 0xF4 then some (3, 4, 0x80, 0x8F)
  else if 0xF1 ≤ b && b ≤ 0xF3 then some (3, b.toNat - 0xF0, 0x80, 0xBF)
  else none

/-- Reads up to `count` continuation bytes; the count left over says how many were missing. -/
private def continuations : Nat → Nat → Bytes → Nat × Nat × Bytes
  | count + 1, value, b :: rest =>
      if isContinuation b then continuations count (value * 64 + (b.toNat - 0x80)) rest
      else (count + 1, value, b :: rest)
  | count, value, bytes => (count, value, bytes)

private theorem continuations_length (count value : Nat) (bytes : Bytes) :
    (continuations count value bytes).2.2.length ≤ bytes.length := by
  fun_induction continuations count value bytes with
  | case1 count value b rest isCont ih => simp only [List.length_cons]; omega
  | case2 => simp
  | case3 => simp

private def finishCharacter (shape : Nat × Nat × UInt8 × UInt8) : Bytes → Char × Bytes
  | [] => ('\ufffd', [])
  | second :: rest =>
      let (count, payload, low, high) := shape
      if low ≤ second && second ≤ high then
        let read := continuations (count - 1) (payload * 64 + (second.toNat - 0x80)) rest
        (if read.1 = 0 then Char.ofNat read.2.1 else '\ufffd', read.2.2)
      else ('\ufffd', second :: rest)

private theorem finishCharacter_length (shape : Nat × Nat × UInt8 × UInt8) (bytes : Bytes) :
    (finishCharacter shape bytes).2.length ≤ bytes.length := by
  cases bytes with
  | nil => simp [finishCharacter]
  | cons second rest =>
      simp only [finishCharacter]
      split
      · exact Nat.le_succ_of_le (continuations_length _ _ _)
      · exact Nat.le_refl _

def decodeLossy : Bytes → List Char
  | [] => []
  | b :: rest =>
      if b < 0x80 then Char.ofNat b.toNat :: decodeLossy rest
      else
        match leadShape b with
        | none => '\ufffd' :: decodeLossy rest
        | some shape =>
            (finishCharacter shape rest).1 :: decodeLossy (finishCharacter shape rest).2
  termination_by bytes => bytes.length
  decreasing_by
    · simp
    · simp
    · exact Nat.lt_succ_of_le (finishCharacter_length _ _)

def utf8Length (text : List Char) : Nat := text.foldl (fun n c => n + c.utf8Size) 0

end StatusPage.Text
