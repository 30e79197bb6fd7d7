/-
# Reading the words of an invocation

The words lead through levels: from the program to a command, or to a group of commands and then
to one of them.  At every level there are options with two hyphens, with a value or without, and
at the last one operands.  The value of an option stands behind `=` or is the next word.  Behind
the word `--` all words are operands.

An option is settled only when the next one comes, or an operand, or the end: an option without
its value and an option that comes twice are faults of that moment.  The words below a level are
read before the options of the level are settled.
-/
import PaymentPlans.Invocation.Basic

namespace PaymentPlans.Invocation

/-- Why words are no invocation. -/
inductive Fault where
  | help
  /-- There is nothing at all where a command has to come. -/
  | nothingGiven
  | noCommand
  | unknownCommand
  /-- There is no such option, or one operand too many. -/
  | unknownWord
  /-- An option lacks its value. -/
  | valueMissing
  /-- An option has a value but takes none. -/
  | valueNotWanted
  /-- An option comes twice. -/
  | repeated
  /-- An option or an operand that has to come does not. -/
  | argumentMissing
deriving DecidableEq, Repr

/-! ## Levels -/

/-- What the words have led to so far. -/
inductive Level where
  | top
  /-- The group of commands on plans. -/
  | plan
  | init
  | initDatabase
  | create
  | list
  | complete
deriving DecidableEq, Repr

namespace Level

/-- The words that lead on from a level, and where they lead. -/
def below : Level → List (String × Level)
  | top => [("init", init), ("db-init", initDatabase), ("plan", plan)]
  | plan => [("create", create), ("list", list), ("complete", complete)]
  | _ => []

/-- The word that asks for help where commands are expected. -/
def helpWord : String := "help"

/-- The options of a level that take a value. -/
def valued : Level → List String
  | init => ["db-url", "database-url"]
  | list | complete => ["user", "database-url"]
  | _ => ["database-url"]

/-- The options of a level that take no value. -/
def flags : Level → List String
  | init => ["force", "help"]
  | _ => ["help"]

/-- How many operands a level takes. -/
def operands : Level → Nat
  | create | complete => 1
  | _ => 0

/-- Whether commands are expected. -/
def isGroup (level : Level) : Bool := !level.below.isEmpty

/-- The fault of a word that is nothing at its level.  A command that is only one because of a
`--` before it is told apart. -/
def strayFault (level : Level) (behindMark : Bool) (word : String) : Fault :=
  let isCommand := (level.below.lookup word).isSome || word == helpWord
  if level.isGroup && !(behindMark && isCommand) then .unknownCommand else .unknownWord

/-- The fault of words that ask for help on a command. -/
def helpFault : Level → List String → Fault
  | _, [] => .help
  | level, word :: words =>
    match level.below.lookup word with
    | some next => helpFault next words
    | none => if level.isGroup && word == helpWord && words.isEmpty then .help else .unknownCommand

end Level

/-! ## What has been given at a level -/

/-- What has been given at a level. -/
structure Given where
  /-- The options with their values. -/
  values : List (String × String) := []
  /-- The options without value. -/
  flags : List String := []
  operands : List String := []
  /-- An option that is not settled, with its value if that has come. -/
  pending : Option (String × Option String) := none

namespace Given

/-- Whether the next word is the value of an option, unless it is an option itself. -/
def awaitsValue (given : Given) : Bool :=
  match given.pending with
  | some (_, none) => true
  | _ => false

/-- Settles the option that is not settled. -/
def settle (given : Given) : Except Fault Given :=
  match given.pending with
  | none => .ok given
  | some (_, none) => .error .valueMissing
  | some (name, some value) =>
    if (given.values.lookup name).isSome then .error .repeated
    else .ok { given with values := given.values ++ [(name, value)], pending := none }

/-- Takes an option that has a value. -/
def addValued (given : Given) (name : String) (value : Option String) : Except Fault Given := do
  let given ← given.settle
  let given := { given with pending := some (name, value) }
  if value.isSome then given.settle else return given

/-- Takes an option without value. -/
def addFlag (given : Given) (name : String) : Except Fault Given := do
  let given ← given.settle
  if name = "help" then throw .help
  if given.flags.contains name then throw .repeated
  return { given with flags := given.flags ++ [name] }

/-- Takes an operand. -/
def addOperand (given : Given) (word : String) : Except Fault Given := do
  let given ← given.settle
  return { given with operands := given.operands ++ [word] }

/-- The option that has to be given. -/
def required (given : Given) (name : String) : Except Fault String :=
  (given.values.lookup name).elim (.error .argumentMissing) .ok

/-- The operand that has to be given. -/
def operand (given : Given) : Except Fault String :=
  given.operands.head?.elim (.error .argumentMissing) .ok

/-- The command of a level, once all its words are read. -/
def command (given : Given) : Level → Except Fault Command
  | .top | .plan => .error (if given.values.isEmpty then .nothingGiven else .noCommand)
  | .init => .ok (.init ((given.values.lookup "db-url").getD Database.Config.defaultUrl)
      (given.flags.contains "force"))
  | .initDatabase => .ok .initDatabase
  | .create => do return .plan (.create (← given.operand))
  | .list => do return .plan (.list (← given.required "user"))
  | .complete => do return .plan (.complete (← given.operand) (← given.required "user"))

/-- The invocation of a level, once all its words are read. -/
def finish (given : Given) (level : Level) : Except Fault Invocation := do
  let given ← given.settle
  return { url := given.values.lookup "database-url", command := ← given.command level }

end Given

/-! ## Words -/

/-- What a word looks like. -/
inductive Word where
  /-- The mark behind which there are only operands. -/
  | mark
  /-- An option with two hyphens, and what stands behind its `=`. -/
  | option (name : String) (value : Option String)
  /-- Options of one letter behind a hyphen. -/
  | letters (cs : List Char)
  | plain
deriving DecidableEq, Repr

/-- What a word looks like. -/
def Word.of (word : String) : Word :=
  match word.toList with
  | ['-', '-'] => .mark
  | '-' :: '-' :: cs =>
    let name := String.ofList (cs.takeWhile (· != '='))
    match cs.dropWhile (· != '=') with
    | [] => .option name none
    | _ :: value => .option name (some (String.ofList value))
  | '-' :: c :: cs => .letters (c :: cs)
  | _ => .plain

/-- Takes an option. -/
def Given.addOption (given : Given) (level : Level) (name : String) (value : Option String) :
    Except Fault Given :=
  if level.valued.contains name then given.addValued name value
  else if level.flags.contains name then
    if value.isSome then .error .valueNotWanted else given.addFlag name
  else .error .unknownWord

/-- Takes options of one letter; there is only the one that asks for help. -/
def Given.addLetters (given : Given) (cs : List Char) : Except Fault Given :=
  if cs.head? = some 'h' then given.addFlag "help" else .error .unknownWord

/-- Takes a word that is no option: the value of one, or an operand. -/
def Given.addPlain (given : Given) (level : Level) (behindMark : Bool) (word : String) :
    Except Fault Given :=
  match given.pending, behindMark with
  | some (name, none), false => .ok { given with pending := some (name, some word) }
  | _, _ =>
    if given.operands.length < level.operands then given.addOperand word
    else .error (level.strayFault behindMark word)

/-- Reads words at a level. -/
def readAt : (words : List String) → Level → Given → (behindMark : Bool) →
    Except Fault Invocation
  | [], level, given, _ => given.finish level
  | word :: words, level, given, true => do
    readAt words level (← given.addPlain level true word) true
  | word :: words, level, given, false =>
    let next := if given.awaitsValue then none else level.below.lookup word
    match next with
    | some next => do
      let invocation ← readAt words next {} false
      let given ← given.settle
      return { invocation with url := invocation.url.or (given.values.lookup "database-url") }
    | none =>
      if !given.awaitsValue && level.isGroup && word == Level.helpWord then
        .error (level.helpFault words)
      else match Word.of word with
        | .mark => readAt words level given true
        | .option name value => do
          readAt words level (← given.addOption level name value) false
        | .letters cs => do readAt words level (← given.addLetters cs) false
        | .plain => do readAt words level (← given.addPlain level false word) false

/-- Reads the words of an invocation. -/
def read (words : List String) : Except Fault Invocation := readAt words .top {} false

end PaymentPlans.Invocation
