/-
# A server that follows a script

A server whose replies to statements are written down beforehand, one after the other.  It keeps
no data; it knows which schemas were applied and which databases refuse connections, and it logs
what it is sent.  Nothing can be reached on a server that does not listen.
-/
import PaymentPlans.Amount.Reader
import PaymentPlans.Database.Basic
import PaymentPlans.Identifier.Reader
import PaymentPlans.Instant.Reader

namespace PaymentPlans.Database

/-- A value as a script holds it. -/
inductive Cell where
  | null
  | text (s : String)
  | bool (b : Bool)
  | integer (n : Int)
deriving DecidableEq, Repr

/-- A row as a script holds it: values under the names of their columns, where those that are
not named are missing, or values in the order of the columns. -/
inductive ScriptRow where
  | named (cells : List (String × Cell))
  | listed (cells : List Cell)
deriving Repr

/-- A reply as a script holds it. -/
inductive ScriptReply where
  | rows (rows : List ScriptRow)
  | failure (message : String)
deriving Repr

/-- The value of a column.  What does not fit the column is no value. -/
def Cell.value : Sql.ColumnType → Cell → Sql.Value
  | .identifier, text s => ((Identifier.ofExactText s).toOption).elim .null .identifier
  | .text, text s => .text s
  | .amount, text s => ((Amount.ofText s).toOption).elim .null .amount
  | .instant, text s => ((Instant.ofLooseText s).toOption).elim .null fun i => .instant i.kept
  | .bool, bool b => .bool b
  | .integer, integer n => .integer n
  | _, _ => .null

/-- The row of a statement with these columns. -/
def ScriptRow.row (columns : List (String × Sql.ColumnType)) : ScriptRow → Sql.Row
  | named cells => columns.map fun (name, kind) => ((cells.lookup name).getD .null).value kind
  | listed cells => columns.zipIdx.map fun ((_, kind), i) => (cells.getD i .null).value kind

/-- The reply to a statement. -/
def ScriptReply.reply (s : Sql.Statement) : ScriptReply → Sql.Reply
  | rows written => .ok (written.map (ScriptRow.row s.columns))
  | failure message => .error ⟨message⟩

/-- The schemas that were applied before. -/
structure History where
  /-- The versions, and whether they were the ones that this library knows by that number. -/
  applied : List (Int × Bool) := []
  /-- Whether a schema was applied in part only. -/
  isDirty : Bool := false
  /-- Whether the server refuses the schema. -/
  refusesSchema : Bool := false
deriving Repr

/-- What a server logs. -/
inductive LogEntry where
  /-- A connection to another database than before. -/
  | connected (database : String)
  | sent (s : Sql.Statement)
  | schemaCreated
  | schemaRecorded (version : Int) (description : String)
deriving DecidableEq

/-- A server with its script. -/
structure Server where
  /-- Whether it can be reached at all. -/
  isListening : Bool := true
  /-- The replies that are left. -/
  replies : List ScriptReply := []
  /-- The schemas that were applied. -/
  history : History := {}
  /-- The databases that refuse connections. -/
  refused : List String := []
  /-- The database of the newest connection. -/
  current : Option String := none
  log : List LogEntry := []

/-- The database that an address leads to: the path, or the user's own if there is none. -/
def addressed? (url : String) : Option String := do
  let cs := url.toList
  let rest ← ["postgresql://".toList, "postgres://".toList].findSome? fun scheme =>
    if scheme.isPrefixOf cs then some (cs.drop scheme.length) else none
  let authority := rest.takeWhile fun c => c ≠ '/' && c ≠ '?'
  let path := ((rest.drop authority.length).drop 1).takeWhile (· ≠ '?')
  let user := (authority.takeWhile (· ≠ '@')).takeWhile (· ≠ ':')
  return String.ofList (if path.isEmpty then user else path)

namespace Server

/-- Adds to the log. -/
def note (s : Server) (entry : LogEntry) : Server := { s with log := s.log ++ [entry] }

/-- Opens a connection. -/
def connect (s : Server) (url : String) : Bool × Server :=
  match addressed? url with
  | none => (false, s)
  | some database =>
    if !s.isListening || s.refused.contains database then (false, s)
    else if s.current = some database then (true, s)
    else (true, { s with current := some database }.note (.connected database))

/-- Takes a statement and gives the next reply of the script; after the last one all statements
fail. -/
def send (s : Server) (statement : Sql.Statement) : Sql.Reply × Server :=
  let s := s.note (.sent statement)
  match s.replies with
  | [] => (.error ⟨"end of script"⟩, s)
  | reply :: rest => (reply.reply statement, { s with replies := rest })

/-- Applies the schema unless it was applied before. -/
def migrate (s : Server) : Bool × Server :=
  if s.history.isDirty || s.history.applied.any (·.1 ≠ schemaVersion) then (false, s)
  else if s.history.applied.isEmpty then
    let s := s.note .schemaCreated
    if s.history.refusesSchema then (false, s)
    else
      let s := s.note (.schemaRecorded schemaVersion schemaDescription)
      (true, { s with history := { s.history with applied := [(schemaVersion, true)] } })
  else (s.history.applied.all (·.2), s)

/-- Answers a call. -/
def answer (s : Server) : (c : Call) → Answer c × Server
  | .connect url => s.connect url
  | .send statement => s.send statement
  | .migrate => s.migrate

/-- Runs a program against a server. -/
def run (s : Server) (p : DatabaseProgram α) : Run Event Server α :=
  p.run (fun c s => s.answer c) s

end Server

end PaymentPlans.Database
