import StatusPage.Json.Reader

/-!
Reading records of known fields. A record may be written with its keys, in any order and among
unknown ones, or as the list of its values. Each value is read where it stands, so that the first
problem in the text is the one reported; a field that is missing is a problem of the end.
-/

set_option autoImplicit false

namespace StatusPage.Json

/-- A field's name, the form its value must have, and whether the list
of values may end before it. -/
structure FieldShape where
  name : String
  check : Json → Except Fault Unit
  omissible : Bool

/-- The fields that make up a value, and how it is put together when each
has been found or is missing. -/
structure Fields (α : Type) where
  shapes : List FieldShape
  assemble : (String → Option Json) → Except Fault α

namespace Fields

variable {α β : Type}

def single (name : String) (omissible : Bool) (read : Reader α) (missing : Except Fault α) :
    Fields α :=
  { shapes := [⟨name, fun j => (read j).map fun _ => (), omissible⟩]
    assemble := fun find => match find name with
      | some j => read j
      | none => missing }

def required (name : String) (read : Reader α) : Fields α :=
  single name false read (.error .mismatch)

/-- A field that may be null or missing; the list form has to say null. -/
def nullable (name : String) (read : Reader α) : Fields (Option α) :=
  single name false read.orNull (.ok none)

/-- A field that may be null or missing, at the end of the list form too. -/
def omissible (name : String) (read : Reader α) : Fields (Option α) :=
  single name true read.orNull (.ok none)

def withDefault (name : String) (read : Reader α) (default : α) : Fields α :=
  single name true read (.ok default)

def map (f : α → β) (fields : Fields α) : Fields β :=
  { shapes := fields.shapes, assemble := fun find => (fields.assemble find).map f }

def seq (f : Fields (α → β)) (a : Unit → Fields α) : Fields β :=
  { shapes := f.shapes ++ (a ()).shapes
    assemble := fun find => do
      let g ← f.assemble find
      let x ← (a ()).assemble find
      return g x }

instance : Functor Fields := ⟨map, fun a fields => map (fun _ => a) fields⟩
instance : Seq Fields := ⟨seq⟩

end Fields

/-- Walks over the members of a record and keeps those that are fields. -/
def scanMembers (shapes : List FieldShape) (found : List (String × Json)) :
    List (Option String × Json) → Except Fault (List (String × Json))
  | [] => .ok found
  | (none, _) :: _ => .error .malformed
  | (some key, value) :: rest =>
      match shapes.find? fun shape => shape.name == key with
      | none => do
          Reader.ignored value
          scanMembers shapes found rest
      | some shape =>
          if (found.lookup key).isSome then .error .mismatch
          else do
            shape.check value
            scanMembers shapes ((key, value) :: found) rest

def scanItems (found : List (String × Json)) :
    List FieldShape → List Json → Except Fault (List (String × Json))
  | [], [] => .ok found
  | [], _ :: _ => .error .malformed
  | shape :: shapes, [] => if shape.omissible then scanItems found shapes [] else .error .mismatch
  | shape :: shapes, item :: items => do
      shape.check item
      scanItems ((shape.name, item) :: found) shapes items

def Reader.record {α : Type} (fields : Fields α) : Reader α
  | .record members => do
      let found ← scanMembers fields.shapes [] members
      fields.assemble fun name => found.lookup name
  | .list items => do
      let found ← scanItems [] fields.shapes items
      fields.assemble fun name => found.lookup name
  | j => .error (refusal j)

end StatusPage.Json
