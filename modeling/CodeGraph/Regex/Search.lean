import CodeGraph.Regex.Basic

/-! # Searching with regular expressions

A search keeps the set of all places that a match can have reached, as the bits of a number: the
places of a text are those before its characters and the one at its end. An expression takes the
places where a match of it may begin to the places where it then may end.
-/

namespace CodeGraph.Regex

/-- A set of places. -/
abbrev Places := Nat

namespace Places

/-- The places before the characters that `p` holds of. -/
def before (p : Char → Bool) (text : List Char) : Places :=
  text.foldr (fun c places => 2 * places + (p c).toNat) 0

/-- The places between two characters that `p` holds of; at the ends one is missing. -/
def between (p : Option Char → Option Char → Bool) (previous : Option Char) : List Char → Places
  | [] => (p previous none).toNat
  | c :: cs => 2 * between p (some c) cs + (p previous (some c)).toNat

def all (text : List Char) : Places := 1 <<< (text.length + 1) - 1

end Places

private def isWord (ascii : Bool) (c : Option Char) : Bool :=
  c.any fun c => if ascii then CharSet.asciiWord.contains c else Unicode.isWord c

def Look.holds (ascii : Bool) (l : Look) (previous following : Option Char) : Bool :=
  let word := isWord ascii
  match l with
  | start => previous.isNone
  | finish => following.isNone
  | lineStart => previous.all (· == '\n')
  | lineFinish => following.all (· == '\n')
  | anyLineStart =>
    previous.all fun c => c == '\n' || (c == '\r' && following != some '\n')
  | anyLineFinish =>
    following.all fun c => c == '\r' || (c == '\n' && previous != some '\r')
  | edge => word previous != word following
  | noEdge => word previous == word following
  | wordStart => !word previous && word following
  | wordFinish => word previous && !word following
  | wordStartHalf => !word previous
  | wordFinishHalf => !word following

/-- Applies a step a number of times, or until the places do not change. -/
def iterate (step : Places → Places) : Nat → Places → Places
  | 0, places => places
  | n + 1, places =>
    let reached := step places
    if reached == places then places else iterate step n reached

mutual

/-- The places where a match that begins at one of the given places may end. -/
def advance (text : List Char) : Regex → Places → Places
  | empty, places => places
  | char set, places => (places &&& Places.before (set.contains ·) text) <<< 1
  | look ascii l, places => places &&& Places.between (l.holds ascii) none text
  | concat parts, places => advanceAll text parts places
  | alternatives branches, places => advanceAny text branches places
  | repeated least most r, places =>
    let more := match most with
      | some most => most - least
      | none => text.length + 1
    iterate (fun places => places ||| advance text r places) more
      (iterate (advance text r) least places)
  | group r, places => advance text r places

def advanceAll (text : List Char) : List Regex → Places → Places
  | [], places => places
  | r :: rs, places => advanceAll text rs (advance text r places)

def advanceAny (text : List Char) : List Regex → Places → Places
  | [], _ => 0
  | r :: rs, places => advance text r places ||| advanceAny text rs places

end

def isMatch (r : Regex) (text : String) : Bool :=
  advance text.toList r (Places.all text.toList) != 0

end CodeGraph.Regex
