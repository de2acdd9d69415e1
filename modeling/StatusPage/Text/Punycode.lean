/-!
Punycode: a label with characters beyond ASCII written with ASCII letters and digits. The ASCII
characters come first, then the places and numbers of the others as a run of generalised
variable-length integers.
-/

set_option autoImplicit false

namespace StatusPage.Text.Punycode

private def digit (n : Nat) : Char :=
  if n < 26 then Char.ofNat (n + 'a'.toNat) else Char.ofNat (n - 26 + '0'.toNat)

/-- The digits of `q`, where `k` counts the places and `bias` sets the thresholds. -/
private def variableLength (bias k q : Nat) : List Char :=
  let threshold := min (max (k - bias) 1) 26
  if q < threshold then [digit q]
  else
    digit (threshold + (q - threshold) % (36 - threshold)) ::
      variableLength bias (k + 36) ((q - threshold) / (36 - threshold))
  termination_by q
  decreasing_by
    have low : 1 ≤ min (max (k - bias) 1) 26 := by omega
    have high : min (max (k - bias) 1) 26 ≤ 26 := by omega
    have : (q - min (max (k - bias) 1) 26) / (36 - min (max (k - bias) 1) 26) ≤
        q - min (max (k - bias) 1) 26 := Nat.div_le_self _ _
    omega

private def settleBias (delta k : Nat) : Nat :=
  if 455 < delta then settleBias (delta / 35) (k + 36) else k + 36 * delta / (delta + 38)
  termination_by delta
  decreasing_by omega

private def nextBias (delta count : Nat) (first : Bool) : Nat :=
  let delta := if first then delta / 700 else delta / 2
  settleBias (delta + delta / count) 0

private structure State where
  delta : Nat
  bias : Nat
  handled : Nat
  output : List Char

/-- Writes every occurrence of the code point `n`; all lower ones are written already. -/
private def writePoint (basic n : Nat) (label : List Char) (state : State) : State :=
  label.foldl (fun state c =>
    if c.toNat < n then { state with delta := state.delta + 1 }
    else if c.toNat = n then
      { delta := 0
        bias := nextBias state.delta (state.handled + 1) (state.handled == basic)
        handled := state.handled + 1
        output := state.output ++ variableLength state.bias 36 state.delta }
    else state) state

private def writePoints (basic : Nat) (label : List Char) : Nat → List Nat → State → State
  | _, [], state => state
  | previous, n :: rest, state =>
      let state := { state with delta := state.delta + (n - previous) * (state.handled + 1) }
      let state := writePoint basic n label state
      writePoints basic label (n + 1) rest { state with delta := state.delta + 1 }

def encode (label : List Char) : List Char :=
  let basic := label.filter fun c => c.toNat < 0x80
  let others := ((label.filter fun c => 0x80 ≤ c.toNat).map Char.toNat).mergeSort.eraseDups
  let start : State := ⟨0, 72, basic.length, if basic.isEmpty then [] else basic ++ ['-']⟩
  (writePoints basic.length label 0x80 others start).output

private def digitOf? (c : Char) : Option Nat :=
  if c.isDigit then some (c.toNat - '0'.toNat + 26)
  else if c.isAlpha then some (c.toLower.toNat - 'a'.toNat)
  else none

/-- The integer that a text begins with, and what follows it; its last
digit is below the threshold. -/
def readInteger (bias : Nat) : Nat → Nat → List Char → Option (Nat × List Char)
  | _, _, [] => none
  | k, weight, c :: rest =>
      let threshold := min (max (k - bias) 1) 26
      match digitOf? c with
      | none => none
      | some value =>
          if value < threshold then some (value * weight, rest)
          else
            (readInteger bias (k + 36) (weight * (36 - threshold)) rest).map fun (more, rest) =>
              (value * weight + more, rest)

theorem readInteger_length {bias n : Nat} {text rest : List Char} (k weight : Nat)
    (h : readInteger bias k weight text = some (n, rest)) : rest.length < text.length := by
  induction text generalizing k weight n with
  | nil => simp [readInteger] at h
  | cons c tail ih =>
      simp only [readInteger] at h
      split at h
      · cases h
      · split at h
        · cases h
          exact Nat.lt_succ_self _
        · obtain ⟨⟨more, rest⟩, read, same⟩ := Option.map_eq_some_iff.mp h
          cases same
          exact Nat.lt_succ_of_lt (ih _ _ read)

private def isScalar (n : Nat) : Bool := n < 0xD800 || (0xDFFF < n && n < 0x110000)

/-- Puts the character of each integer into the text; `n` and `place` are
where the last one left off. -/
def insertRead (bias n place : Nat) (output text : List Char) : Option (List Char) :=
  if text.isEmpty then some output
  else
    match h : readInteger bias 36 1 text with
    | none => none
    | some (delta, rest) =>
        let count := output.length + 1
        let n := n + (place + delta) / count
        let here := (place + delta) % count
        if isScalar n then
          insertRead (nextBias delta count (place == 0)) n (here + 1)
            (output.insertIdx here (Char.ofNat n))
            rest
        else none
  termination_by text.length
  decreasing_by exact readInteger_length 36 1 h

def decode (text : List Char) : Option (List Char) :=
  match text.reverse.dropWhile (· ≠ '-') with
  | [] => insertRead 72 0x80 0 [] text
  | [_] => none
  | _ :: basic => insertRead 72 0x80 0 basic.reverse (text.drop (basic.length + 1))

end StatusPage.Text.Punycode
