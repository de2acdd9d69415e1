import StatusPage.Text.Blank
import StatusPage.Text.Utf8
import StatusPage.Template.Field

/-!
Templates: text with variables and sections between pairs of braces. A source is first cut into
texts and tags; each tag is then read, and sections are nested. Positions are counted in bytes.
-/

set_option autoImplicit false

namespace StatusPage

inductive TemplateError where
  | parse (offset : Nat) (reason : String)
  | render (reason : String)
  deriving DecidableEq, Repr

def TemplateError.message : TemplateError → String
  | .parse offset reason => "parse error at byte " ++ toString offset ++ ": " ++ reason
  | .render reason => "render error: " ++ reason

namespace Template

/-- A section shows its nodes when its field has a value, or, if `inverted`, when it has none. -/
inductive Node where
  | text (chars : List Char)
  | value (field : Field)
  | conditional (field : Field) (inverted : Bool) (nodes : List Node)
  deriving Repr

inductive Tag where
  | value (field : Field)
  | opening (field : Field) (inverted : Bool)
  | closing (field : Field)
  deriving DecidableEq, Repr

inductive Flaw where
  | unterminated
  | empty
  | malformed (body : String)
  | unknownField (name : String)
  | strayClose (field : Field)
  | wrongClose (field opened : Field)
  | neverClosed (field : Field)
  deriving DecidableEq, Repr

def Flaw.reason : Flaw → String
  | .unterminated => "unterminated tag"
  | .empty => "empty tag"
  | .malformed body => "malformed tag " ++ Text.quote body
  | .unknownField name => "unknown field " ++ Text.quote name
  | .strayClose field => "closing " ++ Text.quote field.name ++ " without an open section"
  | .wrongClose field opened =>
      "closing " ++ Text.quote field.name ++ " but " ++ Text.quote opened.name ++ " is open"
  | .neverClosed field => "section " ++ Text.quote field.name ++ " is never closed"

/-- A stretch of a source: text between tags, a tag with its place, or a tag without an end. -/
inductive Piece where
  | text (chars : List Char)
  | tag (offset : Nat) (body : List Char)
  | unterminated (offset : Nat)
  deriving DecidableEq, Repr

/-- Splits at the first place where `mark` stands twice in a row. -/
def splitAtPair (mark : Char) : List Char → Option (List Char × List Char)
  | [] => none
  | [_] => none
  | c :: d :: rest =>
      if c = mark ∧ d = mark then some ([], rest)
      else (splitAtPair mark (d :: rest)).map fun (before, after) => (c :: before, after)

theorem splitAtPair_eq {mark : Char} {source before after : List Char}
    (h : splitAtPair mark source = some (before, after)) :
    source = before ++ mark :: mark :: after := by
  fun_induction splitAtPair mark source generalizing before after with
  | case1 => simp at h
  | case2 => simp at h
  | case3 c d rest both =>
      simp only [Option.some.injEq, Prod.mk.injEq] at h
      obtain ⟨rfl, rfl⟩ := h
      simp [both.1, both.2]
  | case4 c d rest _ ih =>
      simp only [Option.map_eq_some_iff, Prod.mk.injEq, Prod.exists] at h
      obtain ⟨before', after', inner, rfl, rfl⟩ := h
      simp [ih inner]

def textPiece (chars : List Char) : List Piece := if chars.isEmpty then [] else [.text chars]

def cut (offset : Nat) (source : List Char) : List Piece :=
  match _hOpen : splitAtPair '\x7b' source with
  | none => textPiece source
  | some (before, rest) =>
      let start := offset + Text.utf8Length before
      match _hClose : splitAtPair '\x7d' rest with
      | none => textPiece before ++ [.unterminated start]
      | some (body, rest') =>
          textPiece before ++ .tag start body :: cut (start + 2 + Text.utf8Length body + 2) rest'
  termination_by source.length
  decreasing_by
    have opened := congrArg List.length (splitAtPair_eq _hOpen)
    have closed := congrArg List.length (splitAtPair_eq _hClose)
    simp only [List.length_append, List.length_cons] at opened closed
    omega

def isNameStart (c : Char) : Bool :=
  ('A' ≤ c && c ≤ 'Z') || ('a' ≤ c && c ≤ 'z') || c == '_'

def isNameChar (c : Char) : Bool := isNameStart c || ('0' ≤ c && c ≤ '9')

def isName : List Char → Bool
  | [] => false
  | c :: rest => isNameStart c && rest.all isNameChar

/-- The sign in front of a tag's name: none, or the one that opens or closes a section. -/
inductive Sigil where
  | none
  | shown
  | hidden
  | closing
  deriving DecidableEq, Repr

def splitSigil : List Char → Sigil × List Char
  | '#' :: rest => (.shown, rest)
  | '^' :: rest => (.hidden, rest)
  | '/' :: rest => (.closing, rest)
  | body => (.none, body)

def tagOf (sigil : Sigil) (field : Field) : Tag :=
  match sigil with
  | .none => .value field
  | .shown => .opening field false
  | .hidden => .opening field true
  | .closing => .closing field

/-- Reads what stands between the braces: a sigil or none, blanks, and the name of a field. -/
def readTag (body : List Char) : Except Flaw Tag :=
  let body := Text.trim body
  if body.isEmpty then .error .empty
  else
    let (sigil, rest) := splitSigil body
    let name := Text.dropBlanks rest
    if isName name then
      match (Named.ofName? (String.ofList name) : Option Field) with
      | some field => .ok (tagOf sigil field)
      | none => .error (.unknownField (String.ofList name))
    else .error (.malformed (String.ofList body))

/-- A section that waits for its end, with the nodes before it in reverse. -/
structure OpenSection where
  field : Field
  inverted : Bool
  offset : Nat
  outer : List Node
  deriving Repr

/-- Nests the pieces; `nodes` are those of the innermost section so far, in reverse. -/
def nest (sections : List OpenSection) (nodes : List Node) :
    List Piece → Except (Nat × Flaw) (List Node)
  | [] =>
      match sections with
      | [] => .ok nodes.reverse
      | innermost :: _ => .error (innermost.offset, .neverClosed innermost.field)
  | .text chars :: rest => nest sections (.text chars :: nodes) rest
  | .unterminated offset :: _ => .error (offset, .unterminated)
  | .tag offset body :: rest =>
      match readTag body with
      | .error flaw => .error (offset, flaw)
      | .ok (.value field) => nest sections (.value field :: nodes) rest
      | .ok (.opening field inverted) =>
        nest (⟨field, inverted, offset, nodes⟩ :: sections) [] rest
      | .ok (.closing field) =>
          match sections with
          | [] => .error (offset, .strayClose field)
          | innermost :: outer =>
              if innermost.field = field then
                nest outer (.conditional field innermost.inverted nodes.reverse ::
                  innermost.outer) rest
              else .error (offset, .wrongClose field innermost.field)

def parseChars (source : List Char) : Except (Nat × Flaw) (List Node) := nest [] [] (cut 0 source)

def parse (source : String) : Except TemplateError (List Node) :=
  (parseChars source.toList).mapError fun (offset, flaw) => .parse offset flaw.reason

end Template

end StatusPage
