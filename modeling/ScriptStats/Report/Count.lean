/-!
# Counts in reports

Counts are written with a comma between the thousands.
-/

namespace ScriptStats.Report

/-- Puts a comma before every group of three that has something before it. -/
def groupThousands : List Char → List Char
  | [] => []
  | d :: rest =>
    if rest.length % 3 = 0 ∧ rest ≠ [] then d :: ',' :: groupThousands rest
    else d :: groupThousands rest

def countText (n : Int) : String :=
  let digits := groupThousands (Nat.toDigits 10 n.natAbs)
  String.ofList (if n < 0 then '-' :: digits else digits)

end ScriptStats.Report
