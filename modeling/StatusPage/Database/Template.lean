import StatusPage.Database.Exchange
import StatusPage.Event.Basic

/-!
Templates in the database.
-/

set_option autoImplicit false

namespace StatusPage.Database

def readTemplate (row : Row) : Except Error EventTemplate := do
  return {
    id := ← row.get "id" .uuid
    slug := ← row.get "slug" .text
    kind := ← row.getName "event_type"
    titleSource := ← row.get "title_template" .text
    bodySource := ← row.get "body_template" .text
    createdAt := ← row.get "created_at" .instant
    updatedAt := ← row.get "updated_at" .instant }

def templateColumns : String :=
  "id, slug, event_type, title_template, body_template, created_at, updated_at"

def insertTemplate (new : NewTemplate) : Statement :=
  .insert "event_templates"
    [("slug", .text new.slug), ("event_type", .ofName new.kind),
      ("title_template", .text new.titleSource), ("body_template", .text new.bodySource)]
    ("RETURNING " ++ templateColumns)

def selectTemplate (id : Uuid) : Statement :=
  ⟨"SELECT " ++ templateColumns ++ " FROM event_templates WHERE id = $1", [.uuid id]⟩

def selectTemplateBySlug (slug : String) : Statement :=
  ⟨"SELECT " ++ templateColumns ++ " FROM event_templates WHERE slug = $1", [.text slug]⟩

def selectTemplates : Statement :=
  ⟨"SELECT " ++ templateColumns ++ " FROM event_templates ORDER BY slug", []⟩

/-- A part that is null stays as it is. -/
def updateTemplateRow (id : Uuid) (change : TemplateChange) : Statement where
  text := "UPDATE event_templates SET event_type = COALESCE($2, event_type), " ++
    "title_template = COALESCE($3, title_template), body_template = COALESCE($4, body_template), " ++
    "updated_at = NOW() WHERE id = $1 RETURNING " ++ templateColumns
  params :=
    [.uuid id, .orNull .ofName change.kind, .orNull .text change.titleSource,
      .orNull .text change.bodySource]

def deleteTemplateRow (id : Uuid) : Statement :=
  ⟨"DELETE FROM event_templates WHERE id = $1", [.uuid id]⟩

def createTemplate (new : NewTemplate) : Work EventTemplate :=
  Work.firstRow (insertTemplate new) readTemplate

def findTemplate (id : Uuid) : Work EventTemplate := Work.firstRow (selectTemplate id) readTemplate

def findTemplateBySlug (slug : String) : Work EventTemplate :=
  Work.firstRow (selectTemplateBySlug slug) readTemplate

def listTemplates : Work (List EventTemplate) := Work.allRows selectTemplates readTemplate

def updateTemplate (id : Uuid) (change : TemplateChange) : Work EventTemplate :=
  Work.firstRow (updateTemplateRow id change) readTemplate

def deleteTemplate (id : Uuid) : Work Unit := Work.changeRow (deleteTemplateRow id)

end StatusPage.Database
