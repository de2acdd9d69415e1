import Mathlib.Data.List.Chain
import StatusPage.Proofs.TemplateFlaws

/-!
Templates read by places in bytes. A scan goes through a source with a position, looks for the next
braces in the bytes from there, and takes out the text between two places; it comes to a halt where
such a place is outside the source or inside a character. For every source it ends as parsing ends,
so it never comes to such a halt. What it does is written down: the stretches that it wants, its
positions, and the pieces.
-/

set_option autoImplicit false

namespace StatusPage

/-! ### Bytes of characters -/

namespace Text

private theorem utf8_ofList (chars : List Char) :
    utf8 (String.ofList chars) = chars.flatMap String.utf8EncodeChar := by
  rw [utf8, String.toUTF8_eq_toByteArray, String.toByteArray_ofList, List.utf8Encode,
    List.data_toByteArray]

private theorem length_encoded (chars : List Char) :
    (chars.flatMap String.utf8EncodeChar).length = utf8Length chars := by
  rw [← utf8_ofList, ← String.toList_ofList (l := chars), Template.utf8Length_toList,
    String.ofList_toList]
  rfl

variable {c mark : Char}

private theorem ascii_toNat (basic : c.toNat < 128) : (ascii c).toNat = c.toNat :=
  Nat.mod_eq_of_lt (Nat.lt_trans basic (by decide))

private theorem encoded_basic (basic : c.toNat < 128) : String.utf8EncodeChar c = [ascii c] :=
  if_pos (Nat.le_of_lt_succ basic)

private theorem encoded_high (high : 128 ≤ c.toNat) :
    ∀ byte ∈ String.utf8EncodeChar c, 128 ≤ byte.toNat := by
  have several : ¬c.val.toNat ≤ 127 := Nat.not_le_of_lt high
  simp only [String.utf8EncodeChar, if_neg several]
  split
  on_goal 2 => split
  all_goals
    simp only [List.forall_mem_cons, UInt8.toNat_ofNat', List.not_mem_nil, false_implies,
      implies_true, and_true]
    omega

private theorem encoded_other (basic : mark.toNat < 128) (other : c ≠ mark) :
    ∀ byte ∈ String.utf8EncodeChar c, byte ≠ ascii mark := by
  rintro byte member rfl
  by_cases low : c.toNat < 128
  · rw [encoded_basic low, List.mem_singleton] at member
    have same := congrArg UInt8.toNat member
    rw [ascii_toNat basic, ascii_toNat low] at same
    exact other (Char.toNat_inj.mp same.symm)
  · have above := encoded_high (Nat.le_of_not_lt low) _ member
    rw [ascii_toNat basic] at above
    omega

end Text

namespace Template

open Text (Bytes ascii utf8)

private theorem utf8Length_cons (c : Char) (chars : List Char) :
    Text.utf8Length (c :: chars) = c.utf8Size + Text.utf8Length chars := by
  rw [← List.singleton_append, utf8Length_append]
  exact congrArg (· + _) (Nat.zero_add c.utf8Size)

/-! ### Looking for braces -/

def findPair (mark : UInt8) : Bytes → Option Nat
  | a :: b :: rest =>
    if a = mark ∧ b = mark then some 0 else (findPair mark (b :: rest)).map (· + 1)
  | _ => none

section Search

variable {mark : UInt8}

private theorem findPair_cons {byte : UInt8} (other : byte ≠ mark) (rest : Bytes) :
    findPair mark (byte :: rest) = (findPair mark rest).map (· + 1) := by
  cases rest with
  | nil => rfl
  | cons next rest => rw [findPair, if_neg fun both => other both.1]

private theorem findPair_before {byte next : UInt8} (other : next ≠ mark) (rest : Bytes) :
    findPair mark (byte :: next :: rest) = (findPair mark (next :: rest)).map (· + 1) := by
  rw [findPair, if_neg fun both => other both.2]

private theorem findPair_append {bytes : Bytes} (others : ∀ byte ∈ bytes, byte ≠ mark)
    (rest : Bytes) :
    findPair mark (bytes ++ rest) = (findPair mark rest).map (· + bytes.length) := by
  induction bytes with
  | nil => simp
  | cons byte bytes ih =>
      obtain ⟨first, later⟩ := List.forall_mem_cons.mp others
      rw [List.cons_append, findPair_cons first, ih later, Option.map_map]
      rfl

/-- In the bytes of a text the braces are found where they stand in the text. -/
theorem findPair_encoded {mark : Char} (basic : mark.toNat < 128) (chars : List Char) :
    findPair (ascii mark) (chars.flatMap String.utf8EncodeChar) =
      (splitAtPair mark chars).map fun split => Text.utf8Length split.1 := by
  have skip {c : Char} (other : c ≠ mark) (rest : List Char) :
      findPair (ascii mark) ((c :: rest).flatMap String.utf8EncodeChar) =
        (findPair (ascii mark) (rest.flatMap String.utf8EncodeChar)).map (· + c.utf8Size) := by
    rw [List.flatMap_cons, findPair_append (Text.encoded_other basic other),
      String.length_utf8EncodeChar]
  have single := Text.encoded_basic basic
  fun_induction splitAtPair mark chars with
  | case1 => rfl
  | case2 c =>
      by_cases same : c = mark
      · rw [same, List.flatMap_singleton, single]
        rfl
      · rw [skip same]
        rfl
  | case3 c d rest both =>
      rw [both.1, both.2, List.flatMap_cons, List.flatMap_cons, single]
      exact if_pos ⟨rfl, rfl⟩
  | case4 c d rest differ ih =>
      have step : findPair (ascii mark) ((c :: d :: rest).flatMap String.utf8EncodeChar) =
          (findPair (ascii mark) ((d :: rest).flatMap String.utf8EncodeChar)).map
            (· + c.utf8Size) := by
        by_cases same : c = mark
        · obtain ⟨first, later, encoded⟩ :=
            List.exists_cons_of_ne_nil (String.utf8EncodeChar_ne_nil (c := d))
          have other : first ≠ ascii mark := by
            refine Text.encoded_other basic (fun also => differ ⟨same, also⟩) first ?_
            rw [encoded]
            exact List.mem_cons_self
          rw [List.flatMap_cons, List.flatMap_cons, same, ← String.length_utf8EncodeChar,
            single, encoded]
          exact findPair_before other _
        · exact skip same _
      rw [step, ih, Option.map_map, Option.map_map]
      congr 1
      funext split
      exact (Nat.add_comm _ _).trans (utf8Length_cons c split.1).symm

end Search

/-! ### Taking out a stretch -/

/-- A stretch of a source, from one byte up to another. -/
structure Slice where
  start : Nat
  stop : Nat
  deriving DecidableEq, Repr

/-- The ends of a stretch are in order, inside the source and between characters. -/
structure Slice.Fits (source : String) (slice : Slice) : Prop where
  ordered : slice.start ≤ slice.stop
  starts : String.Pos.Raw.IsValid source ⟨slice.start⟩
  stops : String.Pos.Raw.IsValid source ⟨slice.stop⟩

instance (source : String) (slice : Slice) : Decidable (slice.Fits source) :=
  decidable_of_iff (slice.start ≤ slice.stop ∧
    String.Pos.Raw.IsValid source ⟨slice.start⟩ ∧
      String.Pos.Raw.IsValid source ⟨slice.stop⟩)
    ⟨fun ⟨ordered, starts, stops⟩ => ⟨ordered, starts, stops⟩,
      fun ⟨ordered, starts, stops⟩ => ⟨ordered, starts, stops⟩⟩

def Slice.text? (source : String) (slice : Slice) : Option String :=
  if slice.Fits source then
    Text.ofUtf8? (((utf8 source).drop slice.start).take (slice.stop - slice.start))
  else none

/-- Where `text` stands after `front`. -/
def Slice.after (front text : List Char) : Slice :=
  ⟨Text.utf8Length front, Text.utf8Length (front ++ text)⟩

section Stretches

variable {source : String} {front text rest : List Char}

private theorem isValid_utf8Length (whole : source.toList = front ++ rest) :
    String.Pos.Raw.IsValid source ⟨Text.utf8Length front⟩ := by
  refine String.Pos.Raw.isValid_iff_exists_append.mpr ⟨String.ofList front,
    String.ofList rest, ?_, ?_⟩
  · rw [← String.ofList_append, ← whole, String.ofList_toList]
  · rw [← String.toList_ofList (l := front), utf8Length_toList, String.toList_ofList]
    rfl

private theorem Slice.after_fits (whole : source.toList = front ++ text ++ rest) :
    (Slice.after front text).Fits source where
  ordered := by
    change Text.utf8Length front ≤ Text.utf8Length (front ++ text)
    rw [utf8Length_append]
    exact Nat.le_add_right _ _
  starts := isValid_utf8Length (whole.trans (List.append_assoc _ _ _))
  stops := isValid_utf8Length whole

theorem Slice.after_text (whole : source.toList = front ++ text ++ rest) :
    (Slice.after front text).text? source = some (String.ofList text) := by
  have bytes :
      utf8 source = front.flatMap String.utf8EncodeChar ++ (text.flatMap String.utf8EncodeChar ++
      rest.flatMap String.utf8EncodeChar) := by
    rw [← String.ofList_toList (s := source), whole, Text.utf8_ofList, List.flatMap_append,
      List.flatMap_append, List.append_assoc]
  have length :
      Text.utf8Length (front ++ text) - Text.utf8Length front =
        (text.flatMap String.utf8EncodeChar).length := by
    rw [utf8Length_append, Nat.add_sub_cancel_left, Text.length_encoded]
  rw [Slice.text?, if_pos (Slice.after_fits whole), Slice.after, length, bytes,
    ← Text.length_encoded, List.drop_left, List.take_left, ← Text.utf8_ofList,
    Text.ofUtf8?_utf8]

/-- A stretch that ends inside of a character cannot be taken out. -/
example : Slice.text? "né" ⟨1, 2⟩ = none ∧ Slice.text? "né" ⟨1, 3⟩ = some "é" := by
  decide

end Stretches

/-! ### The scan -/

/-- How a scan ends that comes to no nodes: with a stretch that does not fit, for a flaw of the
source, or because it has no rounds left. -/
inductive Halt where
  | outside (slice : Slice)
  | failed (e : TemplateError)
  | unfinished
  deriving DecidableEq, Repr

/-- Where a scan is and what it has done: the stretches that it wanted, its positions, and the
pieces it has found. -/
structure Progress where
  pos : Nat
  sections : List OpenSection
  nodes : List Node
  slices : List Slice
  places : List Nat
  pieces : List Piece

/-- The stretch of the source that a piece comes from. -/
def Piece.written : Piece → List Char
  | .text chars => chars
  | .tag _ body => tagged body []
  | .unterminated _ => ['\x7b', '\x7b']

def Progress.start : Progress where
  pos := 0
  sections := []
  nodes := []
  slices := []
  places := [0]
  pieces := []

/-- Where a scan is after a text for which it has wanted some stretches. -/
def Progress.withText (progress : Progress) (text : List Char) (taken : List Slice) : Progress :=
  { progress with
    nodes := (textNodes text).reverse ++ progress.nodes
    slices := progress.slices ++ taken
    pieces := progress.pieces ++ textPiece text }

abbrev Scan := ExceptT Halt (StateM Progress)

namespace Scan

variable {α β : Type}

def runOn (scan : Scan α) (progress : Progress) : Except Halt α × Progress :=
  StateT.run (ExceptT.run scan) progress

def fail (offset : Nat) (flaw : Flaw) : Scan α := throw (.failed (.parse offset flaw.reason))

def slice (source : String) (start stop : Nat) : Scan String := do
  modify fun progress => { progress with slices := progress.slices ++ [⟨start, stop⟩] }
  match Slice.text? source ⟨start, stop⟩ with
  | some text => return text
  | none => throw (.outside ⟨start, stop⟩)

def moveTo (pos : Nat) : Scan Unit :=
  modify fun progress => { progress with pos, places := progress.places ++ [pos] }

/-- The open sections and the nodes of the innermost one after one more piece. -/
def nestPiece (sections : List OpenSection) (nodes : List Node) :
    Piece → Except (Nat × Flaw) (List OpenSection × List Node)
  | .text chars => .ok (sections, .text chars :: nodes)
  | .unterminated offset => .error (offset, .unterminated)
  | .tag offset body =>
      match readTag body with
      | .error flaw => .error (offset, flaw)
      | .ok (.value field) => .ok (sections, .value field :: nodes)
      | .ok (.opening field inverted) => .ok (⟨field, inverted, offset, nodes⟩ :: sections, [])
      | .ok (.closing field) =>
          match sections with
          | [] => .error (offset, .strayClose field)
          | innermost :: outer =>
              if innermost.field = field then
                .ok (outer, .conditional field innermost.inverted nodes.reverse :: innermost.outer)
              else .error (offset, .wrongClose field innermost.field)

def emit (piece : Piece) : Scan Unit := do
  let progress ← get
  set { progress with pieces := progress.pieces ++ [piece] }
  match nestPiece progress.sections progress.nodes piece with
  | .error (offset, flaw) => fail offset flaw
  | .ok (sections, nodes) => modify fun progress => { progress with sections, nodes }

def takeText (source : String) (start stop : Nat) : Scan Unit := do
  if start < stop then
    let text ← slice source start stop
    emit (.text text.toList)

/-- Goes behind the tag that begins at a place. -/
def takeTag (source : String) (start : Nat) : Scan Unit := do
  let inside ← slice source (start + 2) source.utf8ByteSize
  match findPair (ascii '\x7d') (utf8 inside) with
  | none => fail start .unterminated
  | some length =>
      let body ← slice source (start + 2) (start + 2 + length)
      moveTo (start + 2 + length + 2)
      emit (.tag start body.toList)

def round (source : String) : Scan Bool := do
  let pos := (← get).pos
  let ahead ← slice source pos source.utf8ByteSize
  match findPair (ascii '\x7b') (utf8 ahead) with
  | none => return false
  | some before =>
      takeText source pos (pos + before)
      takeTag source (pos + before)
      return true

def finish (source : String) : Scan (List Node) := do
  let progress ← get
  match progress.sections with
  | innermost :: _ => fail innermost.offset (.neverClosed innermost.field)
  | [] =>
      takeText source progress.pos source.utf8ByteSize
      return (← get).nodes.reverse

/-- Goes through a source in a number of rounds; the last one finds no tag. -/
def rounds (source : String) : Nat → Scan (List Node)
  | 0 => throw .unfinished
  | fuel + 1 => do
      if ← round source then rounds source fuel else finish source

/-! ### What each step does -/

private theorem runOn_bind_ok {first : Scan α} {next : α → Scan β} {before between : Progress}
    {value : α} (done : first.runOn before = (.ok value, between)) :
    (first >>= next).runOn before = (next value).runOn between := by
  unfold runOn at *
  rw [ExceptT.run_bind, StateT.run_bind, done]
  rfl

private theorem runOn_bind_error {first : Scan α} {next : α → Scan β}
    {before between : Progress} {halt : Halt}
    (halted : first.runOn before = (.error halt, between)) :
    (first >>= next).runOn before = (.error halt, between) := by
  unfold runOn at *
  rw [ExceptT.run_bind, StateT.run_bind, halted]
  rfl

section Steps

variable {source : String} {front text rest : List Char} {progress : Progress}

private theorem runOn_slice (whole : source.toList = front ++ text ++ rest) (progress : Progress) :
    (slice source (Text.utf8Length front) (Text.utf8Length (front ++ text))).runOn progress =
      (.ok (String.ofList text),
        { progress with slices := progress.slices ++ [Slice.after front text] }) := by
  have found :
      Slice.text? source ⟨Text.utf8Length front, Text.utf8Length (front ++ text)⟩ =
        some (String.ofList text) :=
    Slice.after_text whole
  unfold slice
  rw [found]
  rfl

private theorem runOn_get (progress : Progress) :
    (get : Scan Progress).runOn progress = (.ok progress, progress) := rfl

private theorem runOn_moveTo (pos : Nat) (progress : Progress) :
    (moveTo pos).runOn progress = (.ok (),
      { progress with pos, places := progress.places ++ [pos] }) := rfl

private theorem runOn_emit {piece : Piece} {sections : List OpenSection} {nodes : List Node}
    (nested : nestPiece progress.sections progress.nodes piece = .ok (sections, nodes)) :
    (emit piece).runOn progress =
      (.ok (), { progress with sections, nodes, pieces := progress.pieces ++ [piece] }) := by
  change (match nestPiece progress.sections progress.nodes piece with
    | .error (offset, flaw) => fail offset flaw
    | .ok (sections, nodes) =>
      modify fun progress => { progress with sections, nodes } : Scan Unit).runOn _ = _
  rw [nested]
  rfl

private theorem runOn_emit_flawed {piece : Piece} {offset : Nat} {flaw : Flaw}
    (rejected : nestPiece progress.sections progress.nodes piece = .error (offset, flaw)) :
    (emit piece).runOn progress =
      (.error (.failed (.parse offset flaw.reason)),
        { progress with pieces := progress.pieces ++ [piece] }) := by
  change (match nestPiece progress.sections progress.nodes piece with
    | .error (offset, flaw) => fail offset flaw
    | .ok (sections, nodes) =>
      modify fun progress => { progress with sections, nodes } : Scan Unit).runOn _ = _
  rw [rejected]
  rfl

private theorem nest_cons (sections : List OpenSection) (nodes : List Node) (piece : Piece)
    (pieces : List Piece) :
    nest sections nodes (piece :: pieces) =
      (nestPiece sections nodes piece).bind fun (sections, nodes) =>
        nest sections nodes pieces := by
  cases piece with
  | text chars => rfl
  | unterminated offset => rfl
  | tag offset body =>
      simp only [nest, nestPiece]
      cases readTag body with
      | error flaw => rfl
      | ok tag =>
          cases tag with
          | value field => rfl
          | opening field inverted => rfl
          | closing field =>
              cases sections with
              | nil => rfl
              | cons innermost outer =>
                  by_cases same : innermost.field = field
                  · simp only [if_pos same, Except.bind]
                  · simp only [if_neg same, Except.bind]

private theorem runOn_takeText (whole : source.toList = front ++ text ++ rest)
    (progress : Progress) :
    ∃ taken, (∀ slice ∈ taken, slice.Fits source) ∧
      (takeText source (Text.utf8Length front) (Text.utf8Length (front ++ text))).runOn progress =
        (.ok (), progress.withText text taken) := by
  unfold takeText
  cases text with
  | nil =>
      refine ⟨[], nofun, ?_⟩
      rw [if_neg (by simp)]
      simp [Progress.withText, textPiece, textNodes]
      rfl
  | cons c chars =>
      have some : Text.utf8Length front < Text.utf8Length (front ++ c :: chars) := by
        have := c.utf8Size_pos
        rw [utf8Length_append, utf8Length_cons]
        omega
      refine ⟨[Slice.after front (c :: chars)],
        List.forall_mem_singleton.mpr (Slice.after_fits whole), ?_⟩
      rw [if_pos some, runOn_bind_ok (runOn_slice whole progress), String.toList_ofList]
      exact runOn_emit rfl

private theorem size_eq (whole : source.toList = text) :
    source.utf8ByteSize = Text.utf8Length text := by
  rw [← whole, utf8Length_toList]

private theorem utf8Length_braces (front : List Char) :
    Text.utf8Length front + 2 = Text.utf8Length (front ++ ['\x7b', '\x7b']) := by
  rw [utf8Length_append]
  rfl

private theorem runOn_takeTag_endless (whole : source.toList = front ++ '\x7b' :: '\x7b' :: rest)
    (endless : ¬['\x7d', '\x7d'] <:+: rest) (progress : Progress) :
    ∃ taken, (∀ slice ∈ taken, slice.Fits source) ∧
      (takeTag source (Text.utf8Length front)).runOn progress =
      (.error (.failed (.parse (Text.utf8Length front) Flaw.unterminated.reason)),
        { progress with slices := progress.slices ++ taken }) := by
  have parts : source.toList = front ++ ['\x7b', '\x7b'] ++ rest ++ [] := by simp [whole]
  have start := utf8Length_braces front
  have size : source.utf8ByteSize = Text.utf8Length (front ++ ['\x7b', '\x7b'] ++ rest) :=
    size_eq (by simp [whole])
  refine ⟨[Slice.after (front ++ ['\x7b', '\x7b']) rest],
    List.forall_mem_singleton.mpr (Slice.after_fits parts), ?_⟩
  unfold takeTag
  rw [start, size, runOn_bind_ok (runOn_slice parts progress), Text.utf8_ofList,
    findPair_encoded (by decide), splitAtPair_eq_none_iff.mpr endless]
  rfl

private theorem runOn_takeTag {body : List Char} (whole : source.toList = front ++ tagged body rest)
    (ends : ¬['\x7d', '\x7d'] <:+: body ++ ['\x7d']) (progress : Progress) :
    ∃ taken, (∀ slice ∈ taken, slice.Fits source) ∧
      (takeTag source (Text.utf8Length front)).runOn progress =
      (emit (.tag (Text.utf8Length front) body)).runOn { progress with
        pos := Text.utf8Length (front ++ tagged body [])
        slices := progress.slices ++ taken
        places := progress.places ++ [Text.utf8Length (front ++ tagged body [])] } := by
  have inside :
      source.toList = front ++ ['\x7b', '\x7b'] ++ (body ++ '\x7d' :: '\x7d' :: rest) ++ [] := by
    simp [whole, tagged]
  have before : source.toList = front ++ ['\x7b', '\x7b'] ++ body ++ '\x7d' :: '\x7d' :: rest := by
    simp [whole, tagged]
  have start := utf8Length_braces front
  have size : source.utf8ByteSize = Text.utf8Length (front ++ ['\x7b', '\x7b'] ++
      (body ++ '\x7d' :: '\x7d' :: rest)) :=
    size_eq (by simp [whole, tagged])
  have next : Text.utf8Length (front ++ ['\x7b', '\x7b'] ++ body) + 2 =
      Text.utf8Length (front ++ tagged body []) := by
    rw [utf8Length_append, ← start, utf8Length_append, utf8Length_tagged]
    omega
  refine ⟨[Slice.after (front ++ ['\x7b', '\x7b']) (body ++ '\x7d' :: '\x7d' :: rest),
    Slice.after (front ++ ['\x7b', '\x7b']) body],
    List.forall_mem_cons.mpr ⟨Slice.after_fits inside, ?_⟩, ?_⟩
  · exact List.forall_mem_singleton.mpr (Slice.after_fits before)
  · unfold takeTag
    rw [start, size, runOn_bind_ok (runOn_slice inside progress), Text.utf8_ofList,
      findPair_encoded (by decide), splitAtPair_append ends]
    simp only [Option.map_some]
    rw [← utf8Length_append, runOn_bind_ok (runOn_slice before _),
      runOn_bind_ok (runOn_moveTo _ _), String.toList_ofList, next, List.append_assoc]
    rfl

end Steps

/-! ### What a scan keeps -/

/-- All stretches that were wanted fit, and the positions go on by four bytes at
least and stay in the source. -/
structure Sound (source : String) (slices : List Slice) (places : List Nat) : Prop where
  fits : ∀ slice ∈ slices, slice.Fits source
  forward : places.IsChain fun a b => a + 4 ≤ b
  inside : ∀ place ∈ places, place ≤ source.utf8ByteSize

namespace Sound

variable {source : String} {slices taken : List Slice} {places : List Nat}

private theorem wanted (sound : Sound source slices places)
    (fits : ∀ slice ∈ taken, slice.Fits source) :
    Sound source (slices ++ taken) places where
  fits slice member := (List.mem_append.mp member).elim (sound.fits slice) (fits slice)
  forward := sound.forward
  inside := sound.inside

theorem moved {pos next : Nat} (sound : Sound source slices places)
    (last : places.getLast? = some pos) (ahead : pos + 4 ≤ next)
    (inside : next ≤ source.utf8ByteSize) : Sound source slices (places ++ [next]) where
  fits := sound.fits
  forward := by
    refine List.isChain_append.mpr ⟨sound.forward, List.isChain_singleton _, ?_⟩
    intro a found b first
    cases last.symm.trans found
    cases first
    exact ahead
  inside place member := by
    rcases List.mem_append.mp member with earlier | added
    · exact sound.inside place earlier
    · rw [List.mem_singleton.mp added]
      exact inside

end Sound

private theorem written_textPiece (text : List Char) :
    (textPiece text).flatMap Piece.written = text := by
  cases text with
  | nil => rfl
  | cons c chars => exact List.append_nil _

/-- A scan that has read `front`: this is what its pieces come from,
and its position is behind it. -/
structure HasRead (source : String) (front : List Char) (progress : Progress) : Prop where
  sound : Sound source progress.slices progress.places
  pos : progress.pos = Text.utf8Length front
  last : progress.places.getLast? = some progress.pos
  written : progress.pieces.flatMap Piece.written = front

section Rounds

variable {source : String} {front text rest : List Char} {progress : Progress}

private theorem HasRead.wants {taken : List Slice} (read : HasRead source front progress)
    (fits : ∀ slice ∈ taken, slice.Fits source) :
    HasRead source front { progress with slices := progress.slices ++ taken } :=
  ⟨read.sound.wanted fits, read.pos, read.last, read.written⟩

private theorem runOn_round_plain (read : HasRead source front progress)
    (whole : source.toList = front ++ rest) (plain : ¬['\x7b', '\x7b'] <:+: rest) :
    ∃ taken, (∀ slice ∈ taken, slice.Fits source) ∧
      (round source).runOn progress =
        (.ok false, { progress with slices := progress.slices ++ taken }) := by
  have ahead : source.toList = front ++ rest ++ [] := by rw [whole, List.append_nil]
  refine ⟨[Slice.after front rest], List.forall_mem_singleton.mpr (Slice.after_fits ahead), ?_⟩
  unfold round
  rw [runOn_bind_ok (runOn_get progress), read.pos, size_eq whole,
    runOn_bind_ok (runOn_slice ahead progress), Text.utf8_ofList, findPair_encoded (by decide),
    splitAtPair_eq_none_iff.mpr plain, ← read.pos]
  rfl

private theorem runOn_round_tag (read : HasRead source front progress)
    (whole : source.toList = front ++ (text ++ '\x7b' :: '\x7b' :: rest)) (leads : Leads text) :
    ∃ taken, (∀ slice ∈ taken, slice.Fits source) ∧
      (round source).runOn progress =
        (takeTag source (Text.utf8Length (front ++ text)) >>= fun _ => pure true).runOn
          (progress.withText text taken) := by
  have ahead : source.toList = front ++ (text ++ '\x7b' :: '\x7b' :: rest) ++ [] := by
    rw [whole, List.append_nil]
  have before : source.toList = front ++ text ++ '\x7b' :: '\x7b' :: rest := by
    rw [whole, List.append_assoc]
  have first : splitAtPair '\x7b' (text ++ '\x7b' :: '\x7b' :: rest) = some (text, rest) :=
    splitAtPair_append leads
  let searched : Progress :=
    { progress with
      slices := progress.slices ++ [Slice.after front (text ++ '\x7b' :: '\x7b' :: rest)] }
  obtain ⟨taken, fits, took⟩ := runOn_takeText before searched
  have same : searched.withText text taken =
      progress.withText text (Slice.after front (text ++ '\x7b' :: '\x7b' :: rest) :: taken) := by
    simp only [Progress.withText, searched, List.append_assoc, List.singleton_append]
  refine ⟨_, List.forall_mem_cons.mpr ⟨Slice.after_fits ahead, fits⟩, ?_⟩
  unfold round
  rw [runOn_bind_ok (runOn_get progress), read.pos, size_eq whole,
    runOn_bind_ok (runOn_slice ahead progress), Text.utf8_ofList,
    findPair_encoded (by decide), first]
  simp only [Option.map_some]
  rw [← utf8Length_append, runOn_bind_ok took, same]

private theorem round_endless (read : HasRead source front progress)
    (whole : source.toList = front ++ (text ++ '\x7b' :: '\x7b' :: rest)) (leads : Leads text)
    (endless : ¬['\x7d', '\x7d'] <:+: rest) :
    ∃ later, (round source).runOn progress =
        (.error (.failed (.parse (Text.utf8Length (front ++ text)) Flaw.unterminated.reason)),
          later) ∧
      Sound source later.slices later.places := by
  have before : source.toList = front ++ text ++ '\x7b' :: '\x7b' :: rest := by
    rw [whole, List.append_assoc]
  obtain ⟨taken, fits, ran⟩ := runOn_round_tag read whole leads
  obtain ⟨more, fits', halted⟩ :=
    runOn_takeTag_endless before endless (progress.withText text taken)
  exact ⟨_, ran.trans (runOn_bind_error halted), (read.sound.wanted fits).wanted fits'⟩

private theorem round_tagged {body : List Char} (read : HasRead source front progress)
    (whole : source.toList = front ++ (text ++ tagged body rest)) (leads : Leads text)
    (ends : ¬['\x7d', '\x7d'] <:+: body ++ ['\x7d']) :
    let nested := nestPiece progress.sections ((textNodes text).reverse ++ progress.nodes)
      (.tag (Text.utf8Length (front ++ text)) body)
    (∃ offset flaw later, nested = .error (offset, flaw) ∧
        (round source).runOn progress = (.error (.failed (.parse offset flaw.reason)), later) ∧
        Sound source later.slices later.places) ∨
      ∃ later, nested = .ok (later.sections, later.nodes) ∧
        (round source).runOn progress = (.ok true, later) ∧
        HasRead source (front ++ text ++ tagged body []) later := by
  intro nested
  have before : source.toList = front ++ text ++ tagged body rest := by
    rw [whole, List.append_assoc]
  have inside : source.toList = front ++ text ++ tagged body [] ++ rest := by
    rw [before, List.append_assoc _ _ rest, tagged_nil_append]
  obtain ⟨taken, fits, ran⟩ := runOn_round_tag read whole leads
  obtain ⟨more, fits', went⟩ := runOn_takeTag before ends (progress.withText text taken)
  have sound : Sound source (progress.slices ++ taken ++ more)
      (progress.places ++ [Text.utf8Length (front ++ text ++ tagged body [])]) := by
    refine ((read.sound.wanted fits).wanted fits').moved read.last ?_ ?_
    · rw [read.pos, utf8Length_append, utf8Length_append, utf8Length_tagged]
      omega
    · rw [size_eq inside, utf8Length_append (front ++ text ++ tagged body [])]
      exact Nat.le_add_right _ _
  cases result : nested with
  | error report =>
      obtain ⟨offset, flaw⟩ := report
      have halted := went.trans (runOn_emit_flawed result)
      exact .inl ⟨offset, flaw, _, rfl, ran.trans (runOn_bind_error halted), sound⟩
  | ok state =>
      have done := went.trans (runOn_emit result)
      refine .inr ⟨_, rfl, ran.trans (runOn_bind_ok done), sound, rfl, List.getLast?_concat, ?_⟩
      change (progress.pieces ++ textPiece text ++ [Piece.tag _ body]).flatMap Piece.written = _
      rw [List.flatMap_append, List.flatMap_append, read.written, written_textPiece,
        List.flatMap_singleton]
      rfl

/-! ### A whole scan -/

def reported (result : Except (Nat × Flaw) (List Node)) : Except Halt (List Node) :=
  result.mapError fun (offset, flaw) => .failed (.parse offset flaw.reason)

/-- A scan that has ended as nesting ends, and has kept in the source. -/
structure Agrees (source : String) (result : Except (Nat × Flaw) (List Node))
    (ended : Except Halt (List Node) × Progress) : Prop where
  outcome : ended.1 = reported result
  sound : Sound source ended.2.slices ended.2.places
  written : ∀ nodes, result = .ok nodes → ended.2.pieces.flatMap Piece.written = source.toList

private theorem Agrees.of_flaw {later : Progress} (sound : Sound source later.slices later.places)
    (offset : Nat) (flaw : Flaw) :
    Agrees source (.error (offset, flaw))
      (.error (.failed (.parse offset flaw.reason)), later) where
  outcome := rfl
  sound := sound
  written := nofun

private theorem agrees_finish (read : HasRead source front progress)
    (whole : source.toList = front ++ rest) (plain : ¬['\x7b', '\x7b'] <:+: rest) :
    Agrees source (nest progress.sections progress.nodes (cut (Text.utf8Length front) rest))
      ((finish source).runOn progress) := by
  rw [cut_plain _ plain, ← List.append_nil (textPiece rest), nest_textPiece]
  unfold finish
  rw [runOn_bind_ok (runOn_get progress)]
  cases waiting : progress.sections with
  | cons innermost outer => exact .of_flaw read.sound _ _
  | nil =>
      have last : source.toList = front ++ rest ++ [] := by rw [whole, List.append_nil]
      obtain ⟨taken, fits, took⟩ := runOn_takeText last progress
      simp only
      rw [read.pos, size_eq whole, runOn_bind_ok took, runOn_bind_ok (runOn_get _)]
      refine ⟨rfl, read.sound.wanted fits, fun nodes _ => ?_⟩
      change (progress.pieces ++ textPiece rest).flatMap Piece.written = _
      rw [List.flatMap_append, read.written, whole, written_textPiece]

/-- A scan with a round for every four bytes that are left, and one more, agrees with parsing. -/
theorem agrees_rounds (read : HasRead source front progress) (whole : source.toList = front ++ rest)
    {fuel : Nat} (enough : Text.utf8Length rest / 4 < fuel) :
    Agrees source (nest progress.sections progress.nodes (cut (Text.utf8Length front) rest))
      ((rounds source fuel).runOn progress) := by
  -- A round takes a tag, and so four bytes at least, off what is left, and adds
  -- it to what has been read.
  induction fuel generalizing front rest progress with
  | zero => exact absurd enough (Nat.not_lt_zero _)
  | succ fuel ih =>
      unfold rounds
      rcases source_cases rest with plain | ⟨text, inside, rfl, leads, endless⟩ | ⟨text, body,
        after, rfl, leads, ends⟩
      · obtain ⟨taken, fits, ran⟩ := runOn_round_plain read whole plain
        rw [runOn_bind_ok ran]
        exact agrees_finish (read.wants fits) whole plain
      · obtain ⟨later, halted, sound⟩ := round_endless read whole leads endless
        rw [runOn_bind_error halted, cut_unterminated _ leads endless, nest_textPiece, nest,
          ← utf8Length_append]
        exact .of_flaw sound _ _
      · rw [cut_next _ _ _ _ leads ends, nest_textPiece, nest_cons]
        rcases round_tagged read whole leads ends with ⟨offset, flaw, later, flawed,
          halted, sound⟩ |
          ⟨later, nested, ran, read'⟩
        · rw [runOn_bind_error halted, flawed]
          exact .of_flaw sound _ _
        · have whole' : source.toList = front ++ text ++ tagged body [] ++ after := by
            rw [whole, List.append_assoc _ _ after, tagged_nil_append, List.append_assoc]
          have fewer : Text.utf8Length after / 4 < fuel := by
            rw [← tagged_nil_append, utf8Length_append, utf8Length_append,
              utf8Length_tagged] at enough
            omega
          rw [runOn_bind_ok ran, nested]
          exact ih read' whole' fewer

end Rounds

/-- For every source a scan with a round for every four bytes, and one more, comes to the end and
says what parsing says. Every stretch that it takes out is in the source and is cut between
characters, and its position goes on by four bytes at least with every tag and stays in the source.
When there is a template, its texts and tags are the source. -/
theorem scan_safe (source : String) (spare : Nat) :
    ∃ ended, (rounds source (source.utf8ByteSize / 4 + 1 + spare)).runOn .start =
        ((parse source).mapError .failed, ended) ∧
      (∀ slice ∈ ended.slices, slice.Fits source) ∧
      (ended.places.IsChain fun a b => a + 4 ≤ b) ∧
      (∀ place ∈ ended.places, place ≤ source.utf8ByteSize) ∧
      ∀ nodes, parse source = .ok nodes →
        ended.pieces.flatMap Piece.written = source.toList := by
  have start : HasRead source [] .start := by
    refine ⟨⟨nofun, List.isChain_singleton _, fun place member => ?_⟩, rfl, rfl, rfl⟩
    rw [List.mem_singleton.mp member]
    exact Nat.zero_le _
  have enough : Text.utf8Length source.toList / 4 < source.utf8ByteSize / 4 + 1 + spare := by
    rw [utf8Length_toList]
    omega
  have agrees := agrees_rounds start rfl enough
  have parsed : (parse source).mapError .failed = reported (parseChars source.toList) := by
    unfold parse
    cases parseChars source.toList <;> rfl
  refine ⟨_, Prod.ext (agrees.outcome.trans parsed.symm) rfl, agrees.sound.fits,
    agrees.sound.forward, agrees.sound.inside, fun nodes template => ?_⟩
  rw [template] at parsed
  cases read : parseChars source.toList with
  | error report =>
      rw [read] at parsed
      cases parsed
  | ok nodes => exact agrees.written nodes read

theorem tagAtEnd_scanned :
    parse "é\x7b\x7bservice_name\x7d\x7d" = .ok [.text ['é'], .value .serviceName] ∧
      ∃ ended, (rounds "é\x7b\x7bservice_name\x7d\x7d" 5).runOn .start =
          (.ok [.text ['é'], .value .serviceName], ended) ∧
        (∀ place ∈ ended.places, place ≤ 18) ∧
        ended.pieces.flatMap Piece.written = "é\x7b\x7bservice_name\x7d\x7d".toList := by
  have derives : Derives false (['é'] ++ tagged "service_name".toList []) [.text ['é'],
      .value .serviceName] :=
    .text (by decide) (by decide) (by decide) nofun (.value (.bare .none .serviceName) (.nil false))
  have template : parse "é\x7b\x7bservice_name\x7d\x7d" = .ok [.text ['é'],
      .value .serviceName] := by
    rw [parse]
    exact congrArg (Except.mapError _) derives.parsed
  obtain ⟨ended, ran, -, -, inside, written⟩ := scan_safe "é\x7b\x7bservice_name\x7d\x7d" 0
  rw [template] at ran
  exact ⟨template, ended, ran, inside, written _ template⟩

end Scan

end Template

end StatusPage
