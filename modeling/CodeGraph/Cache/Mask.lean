import CodeGraph.Text.Occurrence
import CodeGraph.Unicode.Category

/-! # Masks

Queries that differ only in file names, hashes and numbers have one pattern, in which `FILE`, `HASH`
and `NUM` stand for these. A pattern without hashes can be filled in again with samples.
-/

namespace CodeGraph.Mask

open Unicode

def extensions : List String :=
  ["ts", "tsx", "js", "jsx", "mjs", "py", "rs", "go", "java", "kt", "swift", "rb", "php", "cs",
    "cpp", "cc", "c", "h", "hpp", "vue"]

/-- Whether exactly one of two neighbours is a character of a word. -/
def isEdge (previous : Option Char) (c : Char) : Bool := previous.any isWord != isWord c

/-- The number of characters of a file name at the start of the text: word characters and hyphens, a
point, and a whole word that is an ending of file names. -/
def fileLength? (cs : List Char) : Option Nat :=
  let stem := cs.takeWhile fun c => isWord c || c == '-'
  match cs.drop stem.length with
  | '.' :: rest =>
    let ending := rest.takeWhile isWord
    if !stem.isEmpty && extensions.contains (String.ofList ending) then
      some (stem.length + 1 + ending.length)
    else none
  | _ => none

/-- Masks the file names in the text; `skipped` characters still belong to the last one. -/
def maskFiles (previous : Option Char) (skipped : Nat) : List Char → List Char
  | [] => []
  | c :: cs =>
    match skipped with
    | n + 1 => maskFiles (some c) n cs
    | 0 =>
      match if isEdge previous c then fileLength? (c :: cs) else none with
      | some length => "FILE".toList ++ maskFiles (some c) (length - 1) cs
      | none => c :: maskFiles (some c) 0 cs

/-- Masks the words that pass a test; `word` is what has been read of a word, last character
first. -/
def maskWords (test : List Char → Bool) (mask : List Char) (word : List Char) :
    List Char → List Char
  | [] => masked word
  | c :: cs =>
    if isWord c then maskWords test mask (c :: word) cs
    else masked word ++ c :: maskWords test mask [] cs
where
  masked (word : List Char) : List Char := if test word then mask else word.reverse

def isHash (word : List Char) : Bool :=
  8 ≤ word.length && word.all fun c => c.isDigit || ('a' ≤ c && c ≤ 'f') || ('A' ≤ c && c ≤ 'F')

def isNumber (word : List Char) : Bool := !word.isEmpty && word.all isDecimalDigit

def pattern (s : String) : String :=
  let files := maskFiles none 0 s.toList
  let hashes := maskWords isHash "HASH".toList [] files
  String.ofList (maskWords isNumber "NUM".toList [] hashes)

/-- Samples of file names and numbers. -/
def samples : List (String × String) := [("index.ts", "10"), ("main.py", "50"), ("app.js", "100")]

/-- Queries of a pattern: none with hashes, the pattern itself without masks, else one for each
sample. -/
def expand (pattern : String) : List String :=
  if Text.holds pattern "HASH" then []
  else if !Text.holds pattern "FILE" && !Text.holds pattern "NUM" then [pattern]
  else samples.map fun (file, number) =>
    let filled := Text.replaceAll "FILE".toList file.toList pattern.toList
    String.ofList (Text.replaceAll "NUM".toList number.toList filled)

end CodeGraph.Mask
