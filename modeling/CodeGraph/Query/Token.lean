import CodeGraph.Double.Text
import CodeGraph.Text.Quoted

/-! # Tokens

The words and signs of query texts. Keywords are identifiers here: where a keyword is wanted, case
is ignored.
-/

namespace CodeGraph.Query

inductive Token where
  | ident (name : String)
  | str (s : String)
  | int (i : Int64)
  | float (x : Double)
  | param (name : String)
  | leftParen
  | rightParen
  | leftBracket
  | rightBracket
  | leftBrace
  | rightBrace
  | colon
  | comma
  | dot
  | star
  | dash
  | arrow
  | leftArrow
  | eq
  | ne
  | gt
  | lt
  | ge
  | le
deriving DecidableEq

namespace Token

instance : Inhabited Token := ⟨star⟩

def kind : Token → String
  | ident _ => "Ident"
  | str _ => "Str"
  | int _ => "Int"
  | float _ => "Float"
  | param _ => "Param"
  | leftParen => "LParen"
  | rightParen => "RParen"
  | leftBracket => "LBracket"
  | rightBracket => "RBracket"
  | leftBrace => "LBrace"
  | rightBrace => "RBrace"
  | colon => "Colon"
  | comma => "Comma"
  | dot => "Dot"
  | star => "Star"
  | dash => "Dash"
  | arrow => "Arrow"
  | leftArrow => "LeftArrow"
  | eq => "Eq"
  | ne => "Ne"
  | gt => "Gt"
  | lt => "Lt"
  | ge => "Gte"
  | le => "Lte"

/-- A token as error messages show it: its kind, and what it holds in parentheses. -/
def describe (t : Token) : String :=
  match t with
  | ident s => holding (Text.diagnostic s)
  | str s => holding (Text.diagnostic s)
  | param s => holding (Text.diagnostic s)
  | int i => holding (String.ofList (Text.signedDecimal i.toInt))
  | float x => holding (Double.Layout.precise.render x)
  | _ => t.kind
where
  holding (content : String) : String := t.kind ++ "(" ++ content ++ ")"

/-- Whether the token is a keyword, in any case. -/
def isKeyword (keyword : String) : Token → Bool
  | ident name => name.toList.map Char.toLower == keyword.toList.map Char.toLower
  | _ => false

end Token

/-- A token in a query text, the offset in bytes at which it starts, and the characters it is
written with. -/
structure Lexeme where
  token : Token
  offset : Nat
  source : List Char
deriving DecidableEq

instance : Inhabited Lexeme := ⟨⟨default, 0, []⟩⟩

end CodeGraph.Query
