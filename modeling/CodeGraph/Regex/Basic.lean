import CodeGraph.Regex.CharSet

/-! # Regular expressions

Expressions over characters and assertions about the place between two characters.
-/

namespace CodeGraph

/-- An assertion about a place, which looks at the characters around it. -/
inductive Regex.Look where
  | start
  | finish
  | lineStart
  | lineFinish
  /-- Starts and ends of lines that end in a line feed, a carriage return, or both. -/
  | anyLineStart
  | anyLineFinish
  | edge
  | noEdge
  | wordStart
  | wordFinish
  | wordStartHalf
  | wordFinishHalf
deriving DecidableEq

inductive Regex where
  | empty
  | char (set : Regex.CharSet)
  /-- An assertion; the flag tells whether words are those of ASCII only. -/
  | look (ascii : Bool) (l : Regex.Look)
  | concat (parts : List Regex)
  | alternatives (branches : List Regex)
  /-- At least `least` and at most `most` matches in a row. -/
  | repeated (least : Nat) (most : Option Nat) (r : Regex)
  | group (r : Regex)

namespace Regex

instance : Inhabited Regex := ⟨empty⟩

/-- Expressions nested deeper are refused. -/
def depthLimit : Nat := 250

mutual

def depth : Regex → Nat
  | empty => 0
  | char set => set.depth
  | look _ _ => 0
  | concat parts => 1 + maxDepth parts
  | alternatives branches => 1 + maxDepth branches
  | repeated _ _ r => 1 + r.depth
  | group r => 1 + r.depth

def maxDepth : List Regex → Nat
  | [] => 0
  | r :: rs => max r.depth (maxDepth rs)

end

mutual

/-- Whether nothing but the empty text can match. -/
def isHollow : Regex → Bool
  | empty => true
  | char _ => false
  | look _ _ => true
  | concat parts => allHollow parts
  | alternatives branches => allHollow branches
  | repeated _ most r => most == some 0 || r.isHollow
  | group r => r.isHollow

def allHollow : List Regex → Bool
  | [] => true
  | r :: rs => r.isHollow && allHollow rs

end

/-- The number of bytes that an expression may take when it is laid out. -/
def sizeLimit : Nat := 10 * 1024 * 1024

mutual

/-- About the number of bytes that an expression takes when every repetition is laid out. What is
hollow need not be repeated more than once. -/
def size : Regex → Nat
  | empty => 32
  | char set => 40 + 64 * (set.runs - 1)
  | look _ _ => 32
  | concat parts => sumSizes parts
  | alternatives branches => 32 + sumSizes branches
  | repeated least most r =>
    let copies := max least (most.getD (least + 1))
    (if r.isHollow then min copies 1 else copies) * (32 + r.size)
  | group r => 64 + r.size

def sumSizes : List Regex → Nat
  | [] => 0
  | r :: rs => r.size + sumSizes rs

end

end Regex

end CodeGraph
