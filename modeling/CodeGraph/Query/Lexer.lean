import CodeGraph.Query.Error
import CodeGraph.Unicode.Blank
import CodeGraph.Unicode.Letter

/-! # Tokens of a text

A text is cut into tokens from left to right, each as long as it can be; blanks outside of strings
only separate.
-/

namespace CodeGraph.Query

open Text Unicode

def isNameStart (c : Char) : Bool := isAlphabetic c || c == '_'

def isNameChar (c : Char) : Bool := isAlphanumeric c || c == '_'

/-- The character that stands for itself, a line break or a tab after a backslash. -/
def unescape : Char → Char
  | 'n' => '\n'
  | 't' => '\t'
  | c => c

/-- The text of a string literal after its opening quote, and the number of characters up to and
with the closing one. The character after a backslash does not close it. -/
def readString (quote : Char) : List Char → Option (List Char × Nat)
  | [] => none
  | ['\\'] => none
  | '\\' :: c :: cs => (readString quote cs).map fun (text, n) => (unescape c :: text, n + 2)
  | c :: cs =>
    if c == quote then some ([], 1)
    else (readString quote cs).map fun (text, n) => (c :: text, n + 1)

def readFraction : List Char → List Char
  | '.' :: cs => cs.takeWhile Char.isDigit
  | _ => []

/-- The token of digits: a fraction belongs to them only with a digit after the point. -/
def readNumber (cs : List Char) : Except Fault (Token × Nat) :=
  let whole := cs.takeWhile Char.isDigit
  let fraction := readFraction (cs.dropWhile Char.isDigit)
  if fraction.isEmpty then
    if decimalValue whole < 0x8000000000000000 then
      .ok (.int (Int64.ofInt (decimalValue whole)), whole.length)
    else .error (.integerTooLarge (String.ofList whole))
  else
    .ok (.float (.ofDecimal false (decimalValue (whole ++ fraction)) (-fraction.length)),
      whole.length + 1 + fraction.length)

/-- The sign that `c` is or starts, and whether the next character belongs to it. -/
def readSign? (c : Char) (next : Option Char) : Option (Token × Bool) :=
  match c, next with
  | '(', _ => some (.leftParen, false)
  | ')', _ => some (.rightParen, false)
  | '[', _ => some (.leftBracket, false)
  | ']', _ => some (.rightBracket, false)
  | '\x7b', _ => some (.leftBrace, false)
  | '\x7d', _ => some (.rightBrace, false)
  | ':', _ => some (.colon, false)
  | ',', _ => some (.comma, false)
  | '.', _ => some (.dot, false)
  | '*', _ => some (.star, false)
  | '=', _ => some (.eq, false)
  | '-', some '>' => some (.arrow, true)
  | '-', _ => some (.dash, false)
  | '!', some '=' => some (.ne, true)
  | '<', some '>' => some (.ne, true)
  | '<', some '=' => some (.le, true)
  | '<', some '-' => some (.leftArrow, true)
  | '<', _ => some (.lt, false)
  | '>', some '=' => some (.ge, true)
  | '>', _ => some (.gt, false)
  | _, _ => none

/-- The token that starts with `c`, and how many of the characters after it belong to it. -/
def readToken (c : Char) (cs : List Char) : Except Fault (Token × Nat) :=
  match readSign? c cs.head? with
  | some (token, double) => .ok (token, double.toNat)
  | none =>
    if c == '"' || c == '\'' then
      match readString c cs with
      | some (text, n) => .ok (.str (String.ofList text), n)
      | none => .error .unterminatedString
    else if c == '$' then
      let name := cs.takeWhile isNameChar
      if name.isEmpty then .error .emptyParameterName
      else .ok (.param (String.ofList name), name.length)
    else if c.isDigit then (readNumber (c :: cs)).map fun (token, n) => (token, n - 1)
    else if isNameStart c then
      let rest := cs.takeWhile isNameChar
      .ok (.ident (String.ofList (c :: rest)), rest.length)
    else .error (.unexpectedCharacter c)

/-- The number of bytes of some characters. -/
def byteWidth : List Char → Nat
  | [] => 0
  | c :: cs => c.utf8Size + byteWidth cs

/-- The tokens of a text that starts at an offset. -/
def scan (offset : Nat) : List Char → Except ParseError (List Lexeme)
  | [] => .ok []
  | c :: cs =>
    if isBlank c then scan (offset + c.utf8Size) cs
    else
      match readToken c cs with
      | .error fault => .error (.noToken fault offset)
      | .ok (token, n) =>
        let source := c :: cs.take n
        match scan (offset + byteWidth source) (cs.drop n) with
        | .error e => .error e
        | .ok lexemes => .ok (⟨token, offset, source⟩ :: lexemes)
termination_by cs => cs.length
decreasing_by all_goals simp_all only [List.length_cons, List.length_drop]; omega

def tokenize (text : String) : Except ParseError (List Lexeme) := scan 0 text.toList

end CodeGraph.Query
