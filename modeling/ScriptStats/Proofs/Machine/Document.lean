import ScriptStats.CommandLine.Run
import ScriptStats.Machine.OnDisk
import ScriptStats.Proofs.Service.Body
import ScriptStats.Proofs.Session.DiskWorld
import ScriptStats.Proofs.Session.Document

/-!
# Documents on a machine

A script file is counted like its text, whether the service is asked for the file or for the text, or the
file is given to a command.
-/

namespace ScriptStats

open Program

namespace DiskWorld

variable {depth : Nat} {world opened : DiskWorld} {root script : Path} {text : List Char}

end DiskWorld

/-! ## Answers of the service -/

namespace Service

open DiskWorld

variable {depth : Nat} {world : DiskWorld} {script : Path} {path : String} {text : List Char}
  {unique : Bool}

end Service

/-! ## The command for a file -/

namespace CommandLine

open DiskWorld

variable {depth : Nat} {world : DiskWorld} {script : Path} {text : List Char} {o : FileOptions}

end CommandLine

/-! ## All ways to the statistics of a text -/

namespace Service

open DiskWorld CommandLine

end Service

end ScriptStats
