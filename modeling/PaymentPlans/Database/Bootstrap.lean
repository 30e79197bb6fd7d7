/-
# Setting up a database

Making sure that a database exists, connecting to it, applying the schema and checking its
version, and counting rows.  Each step is taken only after the one before it succeeded.
-/
import PaymentPlans.Database.Basic

namespace PaymentPlans.Database

open Program (say)

/-! ## Connecting -/

/-- Connects to the configured database. -/
def openPool (config : Config) : DatabaseProgram (Except Error Unit) := do
  if ← connect config.url then return .ok () else return .error (.notReached config.url)

/-! ## The database itself -/

/-- Creates a database unless it exists; tells whether it was created. -/
def createIfMissing (name : String) : DatabaseProgram (Except Error Bool) := do
  match (← send (.hasDatabase name)).one? fun row => row.head? >>= Sql.Value.bool? with
  | none => return .error .existenceUnknown
  | some true =>
    say (.databaseExists name)
    return .ok false
  | some false =>
    match ← send (.createDatabase name) with
    | .error _ => return .error (.notCreated name)
    | .ok _ =>
      say (.databaseCreated name)
      return .ok true

/-- Makes sure that the configured database exists; tells whether it was created.  A name that
could be taken for anything but a name is refused before anything is sent. -/
def ensureExists (config : Config) : DatabaseProgram (Except Error Bool) := do
  match config.databaseName? with
  | none => return .error .noName
  | some name =>
    if name.toList.all isPlain then
      if ← connect config.maintenanceUrl then createIfMissing name
      else return .error (.maintenanceNotReached config.maintenanceUrl)
    else return .error (.badName name)

/-! ## The schema -/

/-- A schema of the history. -/
structure SchemaVersion where
  version : Int
  /-- What the schema is called. -/
  description : String
deriving DecidableEq, Repr

/-- Decodes a row of the history. -/
def SchemaVersion.decode? : Sql.Row → Option SchemaVersion
  | [version, description] => do return ⟨← version.integer?, ← description.text?⟩
  | _ => none

/-- The newest schema of the history, if there is one. -/
def newestSchema : DatabaseProgram (Except Error (Option SchemaVersion)) := do
  match (← send .hasHistory).one? fun row => row.head? >>= Sql.Value.bool? with
  | none => return .error .historyUnknown
  | some false => return .ok none
  | some true =>
    match (← send .latestVersion).atMostOne? SchemaVersion.decode? with
    | none => return .error .versionUnknown
    | some newest => return .ok newest

/-- Applies the schema and checks that it is now the newest one. -/
def applySchema : DatabaseProgram (Except Error SchemaVersion) := do
  if ← migrate then
    match ← newestSchema with
    | .error e => return .error e
    | .ok none => return .error .noVersion
    | .ok (some newest) =>
      if newest.version = schemaVersion then
        say (.schemaReady newest.version newest.description)
        return .ok newest
      else return .error (.otherVersion newest.version)
  else return .error .schemaNotApplied

/-! ## Rows -/

/-- How many rows there are. -/
structure RowCounts where
  plans : Int
  installments : Int
deriving DecidableEq, Repr

/-- Decodes the row of both counts. -/
def RowCounts.decode? : Sql.Row → Option RowCounts
  | [plans, installments] => do return ⟨← plans.integer?, ← installments.integer?⟩
  | _ => none

/-- Counts the rows of both tables. -/
def countRows : DatabaseProgram (Except Error RowCounts) := do
  match (← send .countRows).one? RowCounts.decode? with
  | none => return .error .countsUnknown
  | some counts => return .ok counts

end PaymentPlans.Database
