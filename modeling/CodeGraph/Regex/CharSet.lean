import CodeGraph.Unicode.Blank
import CodeGraph.Unicode.Case
import CodeGraph.Unicode.Lookup

/-! # Sets of characters in regular expressions

What an expression says about one character.
-/

namespace CodeGraph.Regex

inductive CharSet where
  /-- The code points from `first` to `last`. -/
  | range (first last : Nat)
  | table (set : Unicode.CodeSet)
  | digit
  | blank
  | word
  | union (parts : List CharSet)
  | inter (a b : CharSet)
  | diff (a b : CharSet)
  | symmDiff (a b : CharSet)
  | compl (a : CharSet)
  /-- The characters that differ from one of the set at most in case. -/
  | folded (a : CharSet)
  /-- The same for the letters of ASCII only. -/
  | asciiFolded (a : CharSet)
  /-- A set written between brackets. -/
  | bracket (a : CharSet)

namespace CharSet

def single (c : Char) : CharSet := range c.toNat c.toNat

def nothing : CharSet := union []

def anything : CharSet := compl nothing

mutual

def contains (c : Char) : CharSet → Bool
  | range first last => first ≤ c.toNat && c.toNat ≤ last
  | table set => set.contains c
  | digit => Unicode.isDecimalDigit c
  | blank => Unicode.isBlank c
  | word => Unicode.isWord c
  | union parts => anyContains c parts
  | inter a b => a.contains c && b.contains c
  | diff a b => a.contains c && !b.contains c
  | symmDiff a b => a.contains c != b.contains c
  | compl a => !a.contains c
  | folded a => (Unicode.variants c).any fun v => a.contains v
  | asciiFolded a => a.contains c || a.contains c.toLower || a.contains c.toUpper
  | bracket a => a.contains c

def anyContains (c : Char) : List CharSet → Bool
  | [] => false
  | part :: parts => part.contains c || anyContains c parts

end

mutual

def depth : CharSet → Nat
  | union parts => (if parts.length < 2 then 0 else 1) + maxDepth parts
  | inter a b => 1 + max a.depth b.depth
  | diff a b => 1 + max a.depth b.depth
  | symmDiff a b => 1 + max a.depth b.depth
  | compl a => a.depth
  | folded a => a.depth
  | asciiFolded a => a.depth
  | bracket a => 1 + a.depth
  | _ => 0

def maxDepth : List CharSet → Nat
  | [] => 0
  | part :: parts => max part.depth (maxDepth parts)

end

mutual

/-- About the number of runs of code points in the set. -/
def runs : CharSet → Nat
  | range _ _ => 1
  | table set => set.flips.length / 2 + 1
  | digit => 71
  | blank => 10
  | word => 770
  | union parts => sumRuns parts
  | inter a b => min a.runs b.runs
  | diff a b => a.runs + b.runs
  | symmDiff a b => a.runs + b.runs
  | compl a => a.runs + 1
  | folded a => a.runs
  | asciiFolded a => a.runs
  | bracket a => a.runs

def sumRuns : List CharSet → Nat
  | [] => 0
  | part :: parts => part.runs + sumRuns parts

end

/-! ### Named sets of ASCII -/

def ofRanges (ranges : List (Char × Char)) : CharSet :=
  union (ranges.map fun r => range r.1.toNat r.2.toNat)

def asciiDigit : CharSet := ofRanges [('0', '9')]

def asciiBlank : CharSet := ofRanges [('\t', '\r'), (' ', ' ')]

def asciiWord : CharSet := ofRanges [('0', '9'), ('A', 'Z'), ('_', '_'), ('a', 'z')]

/-- The set with a name between `[:` and `:]`. -/
def posix? (name : String) : Option CharSet :=
  match name with
  | "alnum" => some (ofRanges [('0', '9'), ('A', 'Z'), ('a', 'z')])
  | "alpha" => some (ofRanges [('A', 'Z'), ('a', 'z')])
  | "ascii" => some (range 0 0x7f)
  | "blank" => some (ofRanges [('\t', '\t'), (' ', ' ')])
  | "cntrl" => some (union [range 0 0x1f, range 0x7f 0x7f])
  | "digit" => some asciiDigit
  | "graph" => some (ofRanges [('!', '~')])
  | "lower" => some (ofRanges [('a', 'z')])
  | "print" => some (ofRanges [(' ', '~')])
  | "punct" => some (ofRanges [('!', '/'), (':', '@'), ('[', '\x60'), ('\x7b', '~')])
  | "space" => some asciiBlank
  | "upper" => some (ofRanges [('A', 'Z')])
  | "word" => some asciiWord
  | "xdigit" => some (ofRanges [('0', '9'), ('A', 'F'), ('a', 'f')])
  | _ => none

end CharSet

end CodeGraph.Regex
