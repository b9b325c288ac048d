import CodeGraph.Unicode.Blank

/-! # Normal forms of query texts

Texts that differ only in blanks between tokens have one normal form: nothing blank at the ends, and
one space for every run of blanks outside of string literals.
-/

namespace CodeGraph.NormalForm

def isQuote (c : Char) : Bool := c == '\'' || c == '"'

mutual

/-- Normalizes text outside of literals; `pending` says that blanks were just passed. -/
def outside (pending : Bool) : List Char → List Char
  | [] => []
  | c :: cs =>
    if Unicode.isBlank c then outside true cs
    else
      let rest := if isQuote c then inside c cs else outside false cs
      if pending then ' ' :: c :: rest else c :: rest

/-- Passes over a literal to its closing quote. -/
def inside (quote : Char) : List Char → List Char
  | [] => []
  | '\\' :: c :: cs => '\\' :: c :: inside quote cs
  | c :: cs => c :: (if c == quote then outside false cs else inside quote cs)

end

def ofChars (cs : List Char) : List Char := outside false (Unicode.trim cs)

/-- The normal form of a query text. -/
def ofText (s : String) : String := String.ofList (ofChars s.toList)

end CodeGraph.NormalForm
