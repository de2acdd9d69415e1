import StatusPage.Database.Value

/-!
Statements: a fixed text with numbered places, and the values for the places. What a caller provides
is only ever a value.
-/

set_option autoImplicit false

namespace StatusPage.Database

structure Statement where
  text : String
  params : List Value
  deriving DecidableEq, Repr

namespace Statement

def places (count : Nat) : List String := (List.range count).map fun i => "$" ++ toString (i + 1)

def commaList (items : List String) : String := ", ".intercalate items

/-- A new row of a table with these columns; `rest` follows the values. -/
def insert (table : String) (columns : List (String × Value)) (rest : String) : Statement where
  text := "INSERT INTO " ++ table ++ " (" ++ commaList (columns.map Prod.fst) ++ ") VALUES (" ++
    commaList (places columns.length) ++ ") " ++ rest
  params := columns.map Prod.snd

/-- Links one row to several others, each at most once. -/
def link (table owner target : String) (ownerId : Uuid) (targetIds : List Uuid) : Statement where
  text := "INSERT INTO " ++ table ++ " (" ++ owner ++ ", " ++ target ++
    ") SELECT $1, UNNEST($2::uuid[]) ON CONFLICT DO NOTHING"
  params := [.uuid ownerId, .ofUuids targetIds]

end Statement

end StatusPage.Database
