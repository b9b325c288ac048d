import CodeGraph.Text.Digits
import CodeGraph.Unicode.Category

/-! # Quoted text

Texts as diagnostics show them: between double quotes, with everything escaped that would not show
as itself.
-/

namespace CodeGraph.Text

private def codePoint (c : Char) : List Char := "\\u\x7b".toList ++ hex c.toNat ++ ['\x7d']

/-- A character inside quotes. Those that join the character before them are escaped too. -/
def diagnosticChar (c : Char) : List Char :=
  match c with
  | '\x00' => ['\\', '0']
  | '\t' => ['\\', 't']
  | '\r' => ['\\', 'r']
  | '\n' => ['\\', 'n']
  | '"' => ['\\', '"']
  | '\\' => ['\\', '\\']
  | c =>
    if Unicode.graphemeExtend.contains c || !Unicode.isPrintable c then codePoint c else [c]

def diagnostic (s : String) : String :=
  String.ofList ('"' :: (s.toList.flatMap diagnosticChar ++ ['"']))

end CodeGraph.Text
