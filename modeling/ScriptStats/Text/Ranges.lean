/-!
# Classes of characters

A class of characters is a table of closed ranges of code points, in ascending order.
-/

namespace ScriptStats.Text

/-- Closed ranges of code points, ascending and apart. -/
abbrev Ranges := List (Nat × Nat)

namespace Ranges

/-- Stops at the first range that lies above `n`. -/
def contains : Ranges → Nat → Bool
  | [], _ => false
  | (first, last) :: rest, n => if n < first then false else n ≤ last || contains rest n

def has (ranges : Ranges) (c : Char) : Bool :=
  ranges.contains c.toNat

/-- The offset of `n` in the range that holds it. -/
def offset? : Ranges → Nat → Option Nat
  | [], _ => none
  | (first, last) :: rest, n =>
    if n < first then none else if n ≤ last then some (n - first) else offset? rest n

end Ranges

end ScriptStats.Text
