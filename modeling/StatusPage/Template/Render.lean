import StatusPage.Template.Parser

/-!
Rendering a template with the values of an event.
-/

set_option autoImplicit false

namespace StatusPage.Template

mutual

/-- The text of a node, or the first field that is shown and has no value. -/
def renderNode (data : TemplateData) : Node → Except Field (List Char)
  | .text chars => .ok chars
  | .value field =>
      match data.value field with
      | some value => .ok value.toList
      | none => .error field
  | .conditional field inverted nodes =>
      if (data.value field).isSome ≠ inverted then renderNodes data nodes else .ok []

def renderNodes (data : TemplateData) : List Node → Except Field (List Char)
  | [] => .ok []
  | node :: rest => do
      let first ← renderNode data node
      let others ← renderNodes data rest
      return first ++ others

end

def missingValue (field : Field) : TemplateError :=
  .render ("no value for " ++ Text.quote field.name)

def renderParsed (data : TemplateData) (nodes : List Node) : Except TemplateError String :=
  match renderNodes data nodes with
  | .ok chars => .ok (String.ofList chars)
  | .error field => .error (missingValue field)

def render (source : String) (data : TemplateData) : Except TemplateError String := do
  renderParsed data (← parse source)

def validate (source : String) : Except TemplateError Unit := (parse source).map fun _ => ()

end StatusPage.Template
