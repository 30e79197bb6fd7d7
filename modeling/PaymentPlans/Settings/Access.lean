/-
# Loading, saving and resolving settings

The settings of a user are loaded from their file and saved to it, so that only the user may read
them.  The address of the database is the one that is given with a command, else the one of the
environment, else the one of the settings, else the one that everybody uses; a file that holds no
settings is always an error.
-/
import PaymentPlans.Machine.Basic
import PaymentPlans.Settings.File
import PaymentPlans.Settings.Path

namespace PaymentPlans.Settings

open Machine (has makeDirectory makePrivate readFile? environment? writeFile)

/-- What goes wrong with the file of the settings. -/
inductive Error where
  | notRead (path : String)
  /-- The file does not hold settings. -/
  | misshapen
  | noDirectory (directory : String)
  | notWritten (path : String)
  /-- Others may still read the file. -/
  | notPrivate (path : String)
deriving DecidableEq, Repr

/-- The wording of an error. -/
def Error.message : Error → String
  | notRead path => "failed to read config file at " ++ path
  | misshapen => "failed to parse config file"
  | noDirectory directory => "failed to create config directory " ++ directory
  | notWritten path => "failed to write config file at " ++ path
  | notPrivate path => "failed to set permissions on " ++ path

/-- The directory and the file of the settings, as the environment places them. -/
def locate : MachineProgram (String × String) := do
  let configHome ← environment? directoryVariable
  let home ← environment? homeVariable
  return (directory configHome home, path configHome home)

/-- Loads the settings. -/
def load : MachineProgram (Except Error Settings) := do
  let (_, path) ← locate
  match ← readFile? path with
  | none => return .error (.notRead path)
  | some text =>
    match read text with
    | none => return .error .misshapen
    | some settings => return .ok settings

/-- Saves settings. -/
def save (settings : Settings) : MachineProgram (Except Error Unit) := do
  let (directory, path) ← locate
  if ← makeDirectory directory then
    if ← writeFile path settings.text then
      if ← makePrivate path then return .ok () else return .error (.notPrivate path)
    else return .error (.notWritten path)
  else return .error (.noDirectory directory)

/-- Loads the settings if there is a file for them. -/
def loadIfPresent : MachineProgram (Except Error (Option Settings)) := do
  match ← load with
  | .ok settings => return .ok (some settings)
  | .error e =>
    let (_, path) ← locate
    if ← has path then return .error e else return .ok none

/-- The configuration that follows from the address that is given with a command, the one of the
environment, and the settings. -/
def configOf (given environment : Option String) (settings : Option Settings) :
    Database.Config where
  url := ((given.or environment).or (settings.map Settings.url)).getD Database.Config.defaultUrl
  maxConnections := (settings.bind Settings.maxConnections).getD
    Database.Config.defaultMaxConnections

/-- Finds out which database to use. -/
def resolve (given : Option String) : MachineProgram (Except Error Database.Config) := do
  match ← loadIfPresent with
  | .error e => return .error e
  | .ok settings =>
    return .ok (configOf given (← environment? Database.Config.urlVariable) settings)

end PaymentPlans.Settings
