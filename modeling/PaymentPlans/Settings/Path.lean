/-
# Where settings are kept

The settings of a user are a file in a directory for configurations: the one that the environment
names, or else `.config` in the home directory.
-/

namespace PaymentPlans.Settings

/-- A path with one more part. -/
def joinPath (base part : String) : String :=
  if base = "" then part
  else if base.toList.getLast? = some '/' then base ++ part
  else base ++ "/" ++ part

/-- The variable of the environment that names the directory for configurations. -/
def directoryVariable : String := "XDG_CONFIG_HOME"

/-- The variable of the environment that names the home directory. -/
def homeVariable : String := "HOME"

/-- The directory of the settings; without a home directory it is where one stands. -/
def directory (configHome home : Option String) : String :=
  match configHome with
  | some base => joinPath base "paylater"
  | none => joinPath (joinPath (home.getD ".") ".config") "paylater"

/-- The file of the settings. -/
def path (configHome home : Option String) : String :=
  joinPath (directory configHome home) "config.toml"

end PaymentPlans.Settings
