import Std.Data.ExtTreeSet

/-!
# Statistics

What is counted for one script, and what several of them amount to. Counts add up, the names of
speakers form a set, and words are kept in order.
-/

namespace ScriptStats

/-- A set of names, listed in the order of their code points. -/
abbrev NameSet := Std.ExtTreeSet String

namespace NameSet

def ofList (names : List String) : NameSet :=
  Std.ExtTreeSet.ofList names

/-- How many characters the names have together. -/
def charCount (names : NameSet) : Nat :=
  (names.toList.flatMap String.toList).length

end NameSet

/-- A count. Counts read back from a file may have been written as truth values, which stand for
one and zero and keep their spelling. -/
inductive Count where
  | number (n : Int)
  | flag (b : Bool)
  deriving DecidableEq, Inhabited, Repr

namespace Count

def value : Count → Int
  | number n => n
  | flag b => if b then 1 else 0

def ofNat (n : Nat) : Count := number n

end Count

/-- The statistics of one script. -/
structure FileStats where
  bodyChars : Count := .number 0
  wordCount : Count := .number 0
  speakers : NameSet := ∅
  words : List String := []
  scriptLines : Count := .number 0
  deriving DecidableEq, Inhabited

/-- The statistics of any number of scripts. -/
structure AggregateStats where
  bodyChars : Int := 0
  wordCount : Int := 0
  speakers : NameSet := ∅
  words : List String := []
  scriptLines : Int := 0
  fileCount : Int := 0
  deriving DecidableEq, Inhabited

inductive Stats where
  | file (stats : FileStats)
  | aggregate (stats : AggregateStats)
  deriving DecidableEq, Inhabited

namespace Stats

def bodyChars : Stats → Count
  | file s => s.bodyChars
  | aggregate s => .number s.bodyChars

def wordCount : Stats → Count
  | file s => s.wordCount
  | aggregate s => .number s.wordCount

def speakers : Stats → NameSet
  | file s => s.speakers
  | aggregate s => s.speakers

def words : Stats → List String
  | file s => s.words
  | aggregate s => s.words

def scriptLines : Stats → Count
  | file s => s.scriptLines
  | aggregate s => .number s.scriptLines

/-- How many scripts the statistics are about. -/
def fileCount : Stats → Int
  | file _ => 1
  | aggregate s => s.fileCount

def uniqueWords (stats : Stats) : List String :=
  (NameSet.ofList stats.words).toList

def speakerChars (stats : Stats) : Nat :=
  stats.speakers.charCount

end Stats

namespace AggregateStats

/-- A count summed up over all items. -/
def total (count : Stats → Int) : List Stats → Int
  | [] => 0
  | item :: items => count item + total count items

/-- What the statistics amount to together, in order. -/
def merge (items : List Stats) : AggregateStats where
  bodyChars := total (·.bodyChars.value) items
  wordCount := total (·.wordCount.value) items
  speakers := items.foldl (fun names s => names ∪ s.speakers) ∅
  words := items.flatMap Stats.words
  scriptLines := total (·.scriptLines.value) items
  fileCount := total Stats.fileCount items

/-- What `total` becomes when one more item joins it. -/
def add (total : AggregateStats) (item : Stats) : AggregateStats :=
  merge [.aggregate total, item]

end AggregateStats

end ScriptStats
