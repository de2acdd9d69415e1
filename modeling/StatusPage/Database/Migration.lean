import StatusPage.Crypto.Crc32
import StatusPage.Database.Exchange
import StatusPage.Database.Schema
import StatusPage.Text.Blank

/-!
Bringing a database up to date. One talk at a time holds a lock, compares the record of what has
been run with the list of migrations, and runs what is missing, each script together with its record
in one transaction.
-/

set_option autoImplicit false

namespace StatusPage.Database

inductive MigrationError where
  /-- A script was begun and not finished. -/
  | unfinished (version : Int)
  /-- The record holds a migration that is not in the list. -/
  | unlisted (version : Int)
  /-- A script is not the one that was run. -/
  | modified (version : Int)
  | script (version : Int) (cause : Error)
  | statement (cause : Error)
  deriving DecidableEq, Repr

def MigrationError.message : MigrationError → String
  | .unfinished version =>
      "migration " ++ toString version ++
        " is partially applied; fix and remove row from `_sqlx_migrations` table"
  | .unlisted version =>
      "migration " ++ toString version ++
        " was previously applied but is missing in the resolved migrations"
  | .modified version =>
      "migration " ++ toString version ++ " was previously applied but has been modified"
  | .script version cause =>
    "while executing migration " ++ toString version ++ ": " ++ cause.message
  | .statement cause => "while executing migrations: " ++ cause.message

structure AppliedMigration where
  version : Int
  checksum : Text.Bytes
  deriving DecidableEq, Repr

def firstUnlisted (listed : List Migration) (applied : List AppliedMigration) : Option Int :=
  (applied.find? fun a => !listed.any fun m => m.version == a.version).map AppliedMigration.version

/-- What the record says of a migration. Of several records of one version the last counts. -/
def recordOf (applied : List AppliedMigration) (migration : Migration) : Option AppliedMigration :=
  applied.reverse.find? fun a => a.version == migration.version

/-! ### Statements -/

def selectDatabaseName : Statement := ⟨"SELECT current_database()", []⟩

/-- The number by which the talks of one database lock each other out. -/
def lockKey (database : String) : Int := 0x3D32AD9E * (Crypto.crc32 (Text.utf8 database)).toNat

def takeLock (key : Int) : Statement := ⟨"SELECT pg_advisory_lock($1)", [.int key]⟩

def releaseLock (key : Int) : Statement := ⟨"SELECT pg_advisory_unlock($1)", [.int key]⟩

def createRecord : Statement where
  text :=
    "CREATE TABLE IF NOT EXISTS _sqlx_migrations ( version BIGINT PRIMARY KEY, description TEXT " ++
    "NOT NULL, installed_on TIMESTAMPTZ NOT NULL DEFAULT now(), success BOOLEAN NOT NULL, checksum " ++
    "BYTEA NOT NULL, execution_time BIGINT NOT NULL );"
  params := []

def selectUnfinished : Statement :=
  ⟨"SELECT version FROM _sqlx_migrations WHERE success = false ORDER BY version LIMIT 1", []⟩

def selectApplied : Statement :=
  ⟨"SELECT version, checksum FROM _sqlx_migrations ORDER BY version", []⟩

def runScript (migration : Migration) : Statement := ⟨migration.script, []⟩

def insertRecord (migration : Migration) : Statement where
  text :=
    "INSERT INTO _sqlx_migrations ( version, description, success, checksum, execution_time ) " ++
    "VALUES ( $1, $2, TRUE, $3, -1 )"
  params := [.int migration.version, .text migration.description, .bytes migration.checksum]

def updateDuration (nanos : Int) (version : Int) : Statement :=
  ⟨"UPDATE _sqlx_migrations SET execution_time = $1 WHERE version = $2",
    [.int nanos, .int version]⟩

/-! ### The talk -/

abbrev MigrationWork (α : Type) := ExceptT MigrationError Exchange α

namespace MigrationWork

variable {α : Type}

def ofWork (describe : Error → MigrationError) (work : Work α) :
    MigrationWork α := ExceptT.mk do
  return (← work.run).mapError describe

def statement (statement : Statement) : MigrationWork Unit := do
  let _ ← ofWork .statement (Work.affected statement)

def refuse (describe : Int → MigrationError) : Option Int → MigrationWork Unit
  | some version => throw (describe version)
  | none => return ()

def lock (change : Int → Statement) : MigrationWork Unit := do
  let database ← ofWork .statement (Work.firstRow selectDatabaseName fun row => row.first .text)
  statement (change (lockKey database))

def unfinishedVersion : MigrationWork (Option Int) :=
  ofWork .statement (Work.firstRow? selectUnfinished fun row => row.get "version" .int)

def appliedMigrations : MigrationWork (List AppliedMigration) :=
  ofWork .statement (Work.allRows selectApplied fun row => do
    return ⟨← row.get "version" .int, ← row.get "checksum" .bytes⟩)

/-- Runs a script and records it; a script that fails is told from any
other statement that fails. -/
def runRecorded (migration : Migration) : MigrationWork Unit := do
  let _ ← ofWork (.script migration.version) (Work.affected (runScript migration))
  statement (insertRecord migration)
  let _ ← ofWork .statement (Work.request .commit)

def apply (migration : Migration) : MigrationWork Unit := do
  let _ ← ofWork .statement (Work.request .begin)
  tryCatch (runRecorded migration) Work.abandon
  statement (updateDuration 0 migration.version)

def settle (applied : List AppliedMigration) (migration : Migration) : MigrationWork Unit :=
  match recordOf applied migration with
  | some a =>
      if a.checksum = migration.checksum then return () else throw (.modified migration.version)
  | none => apply migration

def settleAll (applied : List AppliedMigration) : List Migration → MigrationWork Unit
  | [] => return ()
  | migration :: rest => do
      settle applied migration
      settleAll applied rest

end MigrationWork

open MigrationWork in
/-- Applies whatever of the list has not been applied. Nothing is run on a database with an
unfinished or an unlisted migration. -/
def migrate (listed : List Migration) : MigrationWork Unit := do
  lock takeLock
  statement createRecord
  refuse .unfinished (← unfinishedVersion)
  let applied ← appliedMigrations
  refuse .unlisted (firstUnlisted listed applied)
  settleAll applied listed
  lock releaseLock

def recordedIn (listed : List Migration) (sent : List Command) : List Migration :=
  listed.filter fun migration =>
    sent.contains (.perform (runScript migration)) &&
      sent.contains (.perform (insertRecord migration))

/-! ### A database with a record -/

/-- A database as migrating sees it: its record, and statements that it refuses. -/
structure RecordedDatabase where
  name : String
  applied : List AppliedMigration
  unfinished : Option Int
  /-- The beginning of the statements that are refused, and the refusal. -/
  refused : Option (String × Refusal)

namespace RecordedDatabase

def refusalOf (database : RecordedDatabase) (text : String) : Option Refusal :=
  match database.refused with
  | some (start, refusal) =>
      if start.toList.isPrefixOf (Text.collapse text.toList) then some refusal else none
  | none => none

def textOf : Command → String
  | .begin => "BEGIN"
  | .commit => "COMMIT"
  | .rollback => "ROLLBACK"
  | .perform statement => statement.text

def rowsFor (database : RecordedDatabase) (command : Command) : List Row :=
  if command = .perform selectDatabaseName then [[("current_database", .text database.name)]]
  else if command = .perform selectUnfinished then
    (database.unfinished.map fun version => [("version", Value.int version)]).toList
  else if command = .perform selectApplied then
    database.applied.map fun a => [("version", .int a.version), ("checksum", .bytes a.checksum)]
  else []

/-- The state is of no account: the record is asked for only once. -/
def server (database : RecordedDatabase) : Server Unit where
  answer command _ :=
    (match database.refusalOf (textOf command) with
      | some refusal => .error refusal
      | none => .ok ⟨database.rowsFor command, 0⟩, ())

end RecordedDatabase

end StatusPage.Database
