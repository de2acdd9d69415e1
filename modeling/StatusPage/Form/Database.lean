import StatusPage.Database.Migration
import StatusPage.Form.Arguments

/-!
The JSON forms of what is said to a database and of what it answers.
-/

set_option autoImplicit false

namespace StatusPage.Database

open Json (Fields Reader)
open Form

/-! ### What is sent -/

def Value.toJson : Value → Json
  | .null => .null
  | .bool value => .bool value
  | .int value => .int value
  | .text value => .str value
  | .bytes value => .str (Text.hexOfBytes value)
  | .uuid id => Form.uuid id
  | .uuids ids => .listOf (Json.orNull Form.uuid) ids
  | .instant micros => .str (Time.microsText micros)

def Command.toJson : Command → Json
  | .begin => .object [("sql", .str "BEGIN")]
  | .commit => .object [("sql", .str "COMMIT")]
  | .rollback => .object [("sql", .str "ROLLBACK")]
  | .perform statement =>
      .object [("sql", .str statement.text), ("params", .listOf Value.toJson statement.params)]

/-! ### What is answered -/

def Refusal.fields : Fields Refusal :=
  (fun code text => ⟨some code, text⟩) <$> .required "code" Reader.text
    <*> .required "message" Reader.text

def readPair : Reader (String × String)
  | .list [a, b] => do return (← Reader.text a, ← Reader.text b)
  | j => .error (Json.refusal j)

def Value.read (type : String) : Reader Value
  | .null => .ok .null
  | j =>
      match type with
      | "uuid" => (readUuid j).map .uuid
      | "text" => (Reader.text j).map .text
      | "bool" => (Reader.bool j).map .bool
      | "timestamptz" => (readInstant j).map .ofInstant
      | "uuid[]" => (Reader.list readUuid.orNull j).map .uuids
      | "int8" => (Reader.int64 j).map .int
      | _ => .error .mismatch

def readRow (columns : List (String × String)) : Reader Row
  | .list cells =>
      (columns.zip cells).mapM fun ((name, type), cell) =>
        do return (name, ← Value.read type cell)
  | j => .error (Json.refusal j)

def readAnswer : Reader Answer := fun j => do
  match ← (Reader.record Refusal.fields).orNull (argument j "error") with
  | some refusal => return .error refusal
  | none =>
      let columns ← (Reader.list readPair).orNull (argument j "columns")
      let rows ← match columns with
        | some columns => (Reader.list (readRow columns)).orNull (argument j "rows")
        | none => .ok none
      let rows := rows.getD []
      let affected ← (Reader.intIn 0 Text.word64Max).orNull (argument j "affected")
      return .ok ⟨rows, (affected.map Int.toNat).getD rows.length⟩

/-! ### Migrations -/

def Migration.toJson (migration : Migration) : Json :=
  .object
    [("version", .int migration.version), ("description", .str migration.description),
      ("checksum", .str (Text.hexOfBytes migration.checksum)),
      ("script", .str (String.ofList (Text.collapse migration.script.toList)))]

def readApplied : Reader AppliedMigration
  | .list [version, checksum] => do
      return ⟨← Reader.int64 version, ← Reader.parsed (Text.bytesOfHex? ·.toList) checksum⟩
  | j => .error (Json.refusal j)

end StatusPage.Database
