import StatusPage.Json.Record
import StatusPage.Named
import StatusPage.Uuid
import StatusPage.Time.Rfc3339

/-!
The JSON forms of identifiers, instants and names.
-/

set_option autoImplicit false

namespace StatusPage.Form

open Json (Reader)

def uuid (id : Uuid) : Json := .str id.toText

def instant (t : Time.Instant) : Json := .str t.toText

def named {α : Type} [Named α] (a : α) : Json := .str (Named.name a)

def uuids (ids : List Uuid) : Json := .listOf uuid ids

def readUuid : Reader Uuid := Reader.parsed Uuid.ofText?

def readInstant : Reader Time.Instant := Reader.parsed Time.Instant.ofText?

def readNamed {α : Type} [Named α] : Reader α := Reader.variant Named.ofName?

end StatusPage.Form
