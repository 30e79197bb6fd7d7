/-
# Working with a database

Beyond sending statements one can connect, and bring the schema up to date.  What goes wrong
there is told apart by the step that failed; the words of the database are not repeated.
-/
import PaymentPlans.Database.Config
import PaymentPlans.Sql.Statement
import PaymentPlans.Text.Quoted

namespace PaymentPlans.Database

/-- The version of the schema that this library works with. -/
def schemaVersion : Int := 20240601000000

/-- What the schema of that version is called. -/
def schemaDescription : String := "create payment plans"

/-- What goes wrong with a database. -/
inductive Error where
  | notReached (url : String)
  /-- The address names no database. -/
  | noName
  /-- The name has a character that a created database must not have. -/
  | badName (name : String)
  /-- The database for maintenance does not answer. -/
  | maintenanceNotReached (url : String)
  /-- It is not known whether the database exists. -/
  | existenceUnknown
  | notCreated (name : String)
  | schemaNotApplied
  /-- It is not known whether there is a history of schemas. -/
  | historyUnknown
  | versionUnknown
  | noVersion
  /-- The newest schema is not the one that this library works with. -/
  | otherVersion (found : Int)
  | countsUnknown
deriving DecidableEq, Repr

/-- The wording of an error. -/
def Error.message : Error → String
  | notReached url => "failed to connect to database at " ++ url
  | noName => "could not determine database name from URL"
  | badName name => "database name " ++ Text.quoted name ++ " contains invalid characters"
  | maintenanceNotReached url => "failed to connect to maintenance database at " ++ url
  | existenceUnknown => "failed to query pg_database"
  | notCreated name => "failed to create database " ++ name
  | schemaNotApplied => "failed to apply payment plan schema"
  | historyUnknown => "failed to look up schema history table"
  | versionUnknown => "failed to read schema version"
  | noVersion => "schema applied but no version was recorded"
  | otherVersion found =>
    "database schema version " ++ toString found ++ " does not match this build (Some(" ++
      toString schemaVersion ++ "))"
  | countsUnknown => "failed to count payment plan rows"

/-- The calls that a database server answers. -/
inductive Call where
  /-- Opens a connection to the database at an address; statements go there from then on. -/
  | connect (url : String)
  | send (s : Sql.Statement)
  | migrate
deriving DecidableEq

/-- What a call is answered by; connecting and applying schemas succeed or fail. -/
abbrev Answer : Call → Type
  | .connect _ => Bool
  | .send s => Sql.Statement.Answer s
  | .migrate => Bool

end Database

/-- Programs of calls to a database server, with a log. -/
abbrev DatabaseProgram := Program Database.Call Database.Answer Event

namespace Database

/-- Opens a connection. -/
def connect (url : String) : DatabaseProgram Bool := .ask (Call.connect url)

/-- Applies the schemas that are missing. -/
def migrate : DatabaseProgram Bool := .ask Call.migrate

/-- A program of statements, sent to the database that is connected. -/
def ofStatements (p : StatementProgram α) : DatabaseProgram α :=
  p.refine fun s => .ask (Call.send s)

/-- Sends a statement. -/
def send (s : Sql.Statement) : DatabaseProgram Sql.Reply := .ask (Call.send s)

end PaymentPlans.Database
