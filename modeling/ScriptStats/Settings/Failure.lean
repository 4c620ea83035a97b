import ScriptStats.Files.Basic
import ScriptStats.Yaml.Fault

/-!
# Why settings cannot be had
-/

namespace ScriptStats

inductive SettingsFailure where
  /-- The settings are not what they should be; the program can go on without them. -/
  | invalid (message : String)
  /-- The file of the settings cannot be looked for. -/
  | file (error : FileError)
  /-- A value in the file that does not exist. -/
  | value (fault : Yaml.Fault)
  /-- A number that is too long to be written out. -/
  | longNumber
  deriving DecidableEq, Repr

/-- The wording for a number that is too long to be written out. -/
def longNumberMessage : String :=
  "Exceeds the limit (" ++ toString Text.digitLimit
    ++ " digits) for integer string conversion; use sys.set_int_max_str_digits() to increase the "
    ++ "limit"

def SettingsFailure.message : SettingsFailure → String
  | invalid m => m
  | file error => error.message
  | value fault => fault.message
  | longNumber => longNumberMessage

end ScriptStats
