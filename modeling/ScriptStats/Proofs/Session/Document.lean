import ScriptStats.Proofs.Session.Recorded
import ScriptStats.Proofs.Text.Utf8

/-!
# Documents

Without a cache the statistics of a document are those of its text, whether the text is given or read from
the file at its path.
-/

namespace ScriptStats

open Program

/-! ## Reading a script -/

namespace Job

variable {ε σ : Type} {answer : (request : Request) → Program ε σ request.Reply} {state left : σ}
  {path : Path} {text : List Char}

end Job

namespace Session

variable {σ : Type} [MonadStateOf Session (Program Failure σ)] {host : Host (Program Failure σ)}
  {session : Session} {state left : σ} {path : Path} {text : List Char}

end Session

/-! ## Documents at a moment -/

namespace Moment

variable {moment : Moment} {depth : Nat} {desk : Desk} {path : Path} {text : List Char} {bytes : Bytes}

end Moment

end ScriptStats
