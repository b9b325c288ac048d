import CodeGraph.Double.Text
import CodeGraph.Json.Basic

/-! # Texts of JSON values

The compact text has no blanks. The indented text sets every item and every field on a line of its
own, two blanks deeper than the brackets around it.
-/

namespace CodeGraph.Json

/-- A character inside a quoted text: quotes, backslashes and controls are escaped. -/
def escapedChar (c : Char) : List Char :=
  match c with
  | '"' => ['\\', '"']
  | '\\' => ['\\', '\\']
  | '\n' => ['\\', 'n']
  | '\r' => ['\\', 'r']
  | '\t' => ['\\', 't']
  | '\x08' => ['\\', 'b']
  | '\x0c' => ['\\', 'f']
  | c => if c.toNat < 0x20 then '\\' :: 'u' :: Text.paddedHex 4 c.toNat else [c]

def quoted (s : String) : List Char := '"' :: (s.toList.flatMap escapedChar ++ ['"'])

def joined (separator : List Char) : List (List Char) → List Char
  | [] => []
  | [part] => part
  | part :: rest => part ++ separator ++ joined separator rest

mutual

def compactChars : Json → List Char
  | null => "null".toList
  | bool b => if b then "true".toList else "false".toList
  | integer i => Text.signedDecimal i
  | double x => Double.Layout.json.chars x
  | string s => quoted s
  | array items => '[' :: (joined [','] (compactItems items) ++ [']'])
  | object fields => '\x7b' :: (joined [','] (compactFields fields) ++ ['\x7d'])
  | broken => "null".toList

def compactItems : List Json → List (List Char)
  | [] => []
  | value :: rest => value.compactChars :: compactItems rest

def compactFields : List (String × Json) → List (List Char)
  | [] => []
  | (name, value) :: rest => (quoted name ++ ':' :: value.compactChars) :: compactFields rest

end

def compact (value : Json) : String := String.ofList value.compactChars

/-- The number of bytes of the compact text. -/
def size (value : Json) : Nat := value.compact.utf8ByteSize

def newline (depth : Nat) : List Char := '\n' :: List.replicate (2 * depth) ' '

/-- Parts between brackets, each on a line one step deeper than the brackets. -/
def block (depth : Nat) (left right : Char) (parts : List (List Char)) : List Char :=
  if parts.isEmpty then [left, right]
  else
    left :: (newline (depth + 1) ++ joined (',' :: newline (depth + 1)) parts ++
      newline depth ++ [right])

mutual

def indentedChars (depth : Nat) : Json → List Char
  | array items => block depth '[' ']' (indentedItems (depth + 1) items)
  | object fields => block depth '\x7b' '\x7d' (indentedFields (depth + 1) fields)
  | value => value.compactChars

def indentedItems (depth : Nat) : List Json → List (List Char)
  | [] => []
  | value :: rest => value.indentedChars depth :: indentedItems depth rest

def indentedFields (depth : Nat) : List (String × Json) → List (List Char)
  | [] => []
  | (name, value) :: rest =>
    (quoted name ++ ':' :: ' ' :: value.indentedChars depth) :: indentedFields depth rest

end

def indented (value : Json) : String := String.ofList (value.indentedChars 0)

end CodeGraph.Json
