import CodeGraph.Toml.Document
import CodeGraph.Toml.Scalar

/-! # Reading TOML

A reading step takes the text that is left and gives what it found with the text after it. Lines
end in a line feed with or without a carriage return before it.
-/

namespace CodeGraph.Toml

/-! ## Blanks and comments -/

def isSpace (c : Char) : Bool := c == ' ' || c == '\t'

def skipSpace (cs : List Char) : List Char := cs.dropWhile isSpace

/-- The characters that comments and quoted texts may hold. -/
def isPlain (c : Char) : Bool := c == '\t' || (' ' ≤ c && c != '\x7f')

def skipComment : List Char → List Char
  | '#' :: cs => cs.dropWhile isPlain
  | cs => cs

def skipNewline? : List Char → Option (List Char)
  | '\n' :: cs => some cs
  | '\r' :: '\n' :: cs => some cs
  | _ => none

/-- Passes over blanks and a comment to the end of the line. -/
def endLine? (cs : List Char) : Option (List Char) :=
  match skipComment (skipSpace cs) with
  | [] => some []
  | cs => skipNewline? cs

def skipLines : Nat → List Char → List Char
  | 0, cs => cs
  | fuel + 1, cs =>
    match skipNewline? (skipComment (skipSpace cs)) with
    | some rest => skipLines fuel rest
    | none => skipSpace cs

/-! ## Quoted texts -/

private def scalarValue? (digits : List Char) : Option Char := do
  let n ← Text.hexValue? digits
  if n.isValidChar then some (Char.ofNat n) else none

/-- The character that is written after a backslash. -/
def escaped? : List Char → Option (Char × List Char)
  | 'b' :: cs => some ('\x08', cs)
  | 't' :: cs => some ('\t', cs)
  | 'n' :: cs => some ('\n', cs)
  | 'f' :: cs => some ('\x0c', cs)
  | 'r' :: cs => some ('\r', cs)
  | '"' :: cs => some ('"', cs)
  | '\\' :: cs => some ('\\', cs)
  | 'u' :: cs => if cs.length < 4 then none else (scalarValue? (cs.take 4)).map (·, cs.drop 4)
  | 'U' :: cs => if cs.length < 8 then none else (scalarValue? (cs.take 8)).map (·, cs.drop 8)
  | _ => none

def readLine (quote : Char) : Nat → List Char → Option (List Char × List Char)
  | 0, _ => none
  | _, [] => none
  | fuel + 1, c :: cs =>
    if c == quote then some ([], cs)
    else if c == '\\' && quote == '"' then do
      let (c, cs) ← escaped? cs
      (readLine quote fuel cs).map fun (text, cs) => (c :: text, cs)
    else if isPlain c then (readLine quote fuel cs).map fun (text, cs) => (c :: text, cs)
    else none

/-- Passes over a backslash at the end of a line, with all blanks and line ends after it. -/
def joinLines? (fuel : Nat) (cs : List Char) : Option (List Char) :=
  (skipNewline? (skipSpace cs)).map (skip fuel)
where
  skip : Nat → List Char → List Char
    | 0, cs => cs
    | fuel + 1, cs =>
      match skipNewline? (skipSpace cs) with
      | some rest => skip fuel rest
      | none => skipSpace cs

/-- The rest of a text on several lines. One or two quotes may stand before the closing three. -/
def readBlock (quote : Char) : Nat → List Char → Option (List Char × List Char)
  | 0, _ => none
  | fuel + 1, cs =>
    let quotes := (cs.takeWhile (· == quote)).length
    if 3 ≤ quotes then
      if quotes ≤ 5 then some (List.replicate (quotes - 3) quote, cs.drop quotes) else none
    else match cs with
      | [] => none
      | '\\' :: cs =>
        if quote == '"' then
          match joinLines? cs.length cs with
          | some cs => readBlock quote fuel cs
          | none => do
            let (c, cs) ← escaped? cs
            (readBlock quote fuel cs).map fun (text, cs) => (c :: text, cs)
        else (readBlock quote fuel cs).map fun (text, cs) => ('\\' :: text, cs)
      | c :: cs =>
        match skipNewline? (c :: cs) with
        | some cs => (readBlock quote fuel cs).map fun (text, cs) => ('\n' :: text, cs)
        | none =>
          if isPlain c then (readBlock quote fuel cs).map fun (text, cs) => (c :: text, cs)
          else none

def readText (quote : Char) (cs : List Char) : Option (String × List Char) :=
  let read :=
    if [quote, quote, quote].isPrefixOf cs then
      let cs := cs.drop 3
      readBlock quote (cs.length + 1) ((skipNewline? cs).getD cs)
    else readLine quote cs.length (cs.drop 1)
  read.map fun (text, cs) => (String.ofList text, cs)

/-! ## Keys -/

def isKeyChar (c : Char) : Bool := c.isAlphanum || c == '_' || c == '-'

def readName : List Char → Option (String × List Char)
  | '"' :: cs => (readLine '"' (cs.length + 1) cs).map fun (text, cs) => (String.ofList text, cs)
  | '\'' :: cs => (readLine '\'' (cs.length + 1) cs).map fun (text, cs) => (String.ofList text, cs)
  | cs =>
    let name := cs.takeWhile isKeyChar
    if name.isEmpty then none else some (String.ofList name, cs.dropWhile isKeyChar)

def readKey : Nat → List Char → Option (List String × List Char)
  | 0, _ => none
  | fuel + 1, cs => do
    let (name, cs) ← readName (skipSpace cs)
    match skipSpace cs with
    | '.' :: cs =>
      let (names, cs) ← readKey fuel cs
      some (name :: names, cs)
    | cs => some ([name], cs)

/-! ## Values -/

def isScalarChar (c : Char) : Bool := c.isAlphanum || "+-_.:".contains c

/-- The run of characters that a scalar is; a time of day may follow a date after a blank. -/
def scalarRun (cs : List Char) : List Char :=
  let run := cs.takeWhile isScalarChar
  match date? run, cs.dropWhile isScalarChar with
  | some (_, []), ' ' :: rest =>
    let time := rest.takeWhile isScalarChar
    if time.head?.any Char.isDigit then run ++ ' ' :: time else run
  | _, _ => run

mutual

def readValue : Nat → List Char → Option (Json × List Char)
  | 0, _ => none
  | fuel + 1, cs =>
    match cs with
    | '"' :: _ => (readText '"' cs).map fun (text, cs) => (.string text, cs)
    | '\'' :: _ => (readText '\'' cs).map fun (text, cs) => (.string text, cs)
    | '[' :: cs => (readItems fuel cs).map fun (items, cs) => (.array items, cs)
    | '\x7b' :: cs => do
      let (assignments, cs) ← match skipSpace cs with
        | '\x7d' :: cs => some ([], cs)
        | cs => readAssignments fuel cs
      some (← inlineTable? assignments, cs)
    | cs => do
      let run := scalarRun cs
      some (← scalar? run, cs.drop run.length)

/-- The items of an array to its end. A comma may follow the last. -/
def readItems : Nat → List Char → Option (List Json × List Char)
  | 0, _ => none
  | fuel + 1, cs =>
    match skipLines cs.length cs with
    | ']' :: cs => some ([], cs)
    | cs => do
      let (value, cs) ← readValue fuel cs
      match skipLines cs.length cs with
      | ',' :: cs =>
        let (items, cs) ← readItems fuel cs
        some (value :: items, cs)
      | ']' :: cs => some ([value], cs)
      | _ => none

/-- A key and its value. -/
def readAssignment : Nat → List Char → Option ((List String × Json) × List Char)
  | 0, _ => none
  | fuel + 1, cs => do
    let (key, cs) ← readKey (cs.length + 1) cs
    let '=' :: cs := cs | none
    let (value, cs) ← readValue fuel (skipSpace cs)
    some ((key, value), cs)

def readAssignments : Nat → List Char → Option (List (List String × Json) × List Char)
  | 0, _ => none
  | fuel + 1, cs => do
    let (assignment, cs) ← readAssignment fuel cs
    match skipSpace cs with
    | ',' :: cs =>
      let (rest, cs) ← readAssignments fuel cs
      some (assignment :: rest, cs)
    | '\x7d' :: cs => some ([assignment], cs)
    | _ => none

end

/-! ## Documents -/

/-- How deep values may be nested. -/
def depthLimit : Nat := 79

def readStatement (cs : List Char) : Option (Statement × List Char) :=
  match cs with
  | '[' :: '[' :: cs => do
    let (key, cs) ← readKey (cs.length + 1) cs
    let ']' :: ']' :: cs := cs | none
    some (.arrayHeader key, cs)
  | '[' :: cs => do
    let (key, cs) ← readKey (cs.length + 1) cs
    let ']' :: cs := cs | none
    some (.tableHeader key, cs)
  | cs => do
    let ((key, value), cs) ← readAssignment (3 * cs.length + 3) cs
    if value.denotes depthLimit then some (.assignment key value, cs) else none

def readStatements : Nat → List Char → Option (List Statement)
  | 0, _ => none
  | fuel + 1, cs =>
    match skipLines cs.length cs with
    | [] => some []
    | cs =>
      if (skipComment cs).isEmpty then some []
      else do
        let (statement, cs) ← readStatement cs
        let statements ← readStatements fuel (← endLine? cs)
        some (statement :: statements)

def ofText? (s : String) : Option Json := do
  let cs := match s.toList with
    | '\ufeff' :: cs => cs
    | cs => cs
  let statements ← readStatements (cs.length + 1) cs
  (Document.ofStatements? statements).map Document.toJson

end CodeGraph.Toml
