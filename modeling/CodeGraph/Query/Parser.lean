import CodeGraph.Query.Lexer
import CodeGraph.Value.Json

/-! # Plans of texts

A query reads `MATCH` with patterns, then the clauses `WHERE`, `RETURN`, `ORDER BY`, `SKIP` and
`LIMIT`, each of which may be missing. Keywords are written in any case and are not reserved.

A parsing step takes the tokens that are left and gives what it found with the tokens after it.
What stands for a value is put into the plan by its `Meaning`.
-/

namespace CodeGraph.Query

abbrev Tokens := List Lexeme

/-- What literals and parameters stand for in a plan; a parameter may be missing. -/
structure Meaning (ω : Type) where
  literal : Value → ω
  parameter? : String → Option ω

namespace Parser

variable {α ω : Type}

/-- The error of finding another token than has to come next. -/
def missing (what : String) (ts : Tokens) : ParseError := .expected what ts.head?

/-- The tokens after `token`, if it comes next. -/
def accept? (token : Token) : Tokens → Option Tokens
  | [] => none
  | t :: ts => if t.token = token then some ts else none

def acceptKeyword? (keyword : String) : Tokens → Option Tokens
  | [] => none
  | t :: ts => if t.token.isKeyword keyword then some ts else none

def acceptIdent? : Tokens → Option (String × Tokens)
  | ⟨.ident name, _, _⟩ :: ts => some (name, ts)
  | _ => none

def expect (token : Token) (what : String) (ts : Tokens) : Except ParseError Tokens :=
  match accept? token ts with
  | some ts => .ok ts
  | none => .error (missing what ts)

def expectKeyword (keyword : String) (ts : Tokens) : Except ParseError Tokens :=
  match acceptKeyword? keyword ts with
  | some ts => .ok ts
  | none => .error (missing keyword ts)

def expectIdent (what : String) (ts : Tokens) : Except ParseError (String × Tokens) :=
  match acceptIdent? ts with
  | some found => .ok found
  | none => .error (missing what ts)

/-- Repeats a step until it finds nothing. A step that finds something takes a token, so the number
of tokens bounds the repetitions. -/
def many (step : Tokens → Except ParseError (Option (α × Tokens))) :
    Nat → Tokens → Except ParseError (List α × Tokens)
  | 0, ts => .ok ([], ts)
  | fuel + 1, ts => do
    match ← step ts with
    | none => .ok ([], ts)
    | some (x, ts) =>
      let (xs, ts) ← many step fuel ts
      .ok (x :: xs, ts)

/-- One or more elements, every further one led in by what `lead?` accepts. -/
def separated (lead? : Tokens → Option Tokens) (element : Tokens → Except ParseError (α × Tokens))
    (ts : Tokens) : Except ParseError (List α × Tokens) := do
  let (x, ts) ← element ts
  let step (ts : Tokens) : Except ParseError (Option (α × Tokens)) :=
    match lead? ts with
    | some ts => (element ts).map some
    | none => .ok none
  let (xs, ts) ← many step ts.length ts
  .ok (x :: xs, ts)

/-- A clause that is there only after its keyword. -/
def optional (keyword : String) (clause : Tokens → Except ParseError (α × Tokens)) (ts : Tokens) :
    Except ParseError (Option α × Tokens) :=
  match acceptKeyword? keyword ts with
  | some ts => (clause ts).map fun (x, ts) => (some x, ts)
  | none => .ok (none, ts)

/-! ### Values -/

/-- A literal, a parameter that has a value, or a bare word that stands for itself. -/
def value (meaning : Meaning ω) (ts : Tokens) : Except ParseError (ω × Tokens) :=
  match ts with
  | ⟨.str s, _, _⟩ :: ts => .ok (meaning.literal (.str s), ts)
  | ⟨.int i, _, _⟩ :: ts => .ok (meaning.literal (.int i), ts)
  | ⟨.float x, _, _⟩ :: ts => .ok (meaning.literal (.float x), ts)
  | ⟨.dash, _, _⟩ :: ⟨.int i, _, _⟩ :: ts => .ok (meaning.literal (.int (-i)), ts)
  | ⟨.dash, _, _⟩ :: ⟨.float x, _, _⟩ :: ts => .ok (meaning.literal (.float x.neg), ts)
  | ⟨.dash, _, _⟩ :: ts => .error (missing "number after '-'" ts)
  | ⟨.param name, _, _⟩ :: ts =>
    match meaning.parameter? name with
    | some x => .ok (x, ts)
    | none => .error (.missingParameter name)
  | ⟨.ident word, _, _⟩ :: ts => .ok (meaning.literal (bareWord word), ts)
  | ts => .error (missing "value" ts)
where
  bareWord (word : String) : Value :=
    if (Token.ident word).isKeyword "true" then .bool true
    else if (Token.ident word).isKeyword "false" then .bool false
    else if (Token.ident word).isKeyword "null" then .null
    else .str word

/-- A field path: names with points between them. -/
def path (ts : Tokens) : Except ParseError (String × Tokens) :=
  (separated (accept? .dot) (expectIdent "field name") ts).map fun (names, ts) =>
    (".".intercalate names, ts)

/-! ### Patterns -/

def property (meaning : Meaning ω) (ts : Tokens) :
    Except ParseError ((String × ω) × Tokens) := do
  let (key, ts) ← expectIdent "property name" ts
  let ts ← expect .colon "':'" ts
  let (operand, ts) ← value meaning ts
  .ok ((key, operand), ts)

/-- The properties after an opening brace; of those with one name the last counts. -/
def properties (meaning : Meaning ω) (ts : Tokens) :
    Except ParseError (Fields ω × Tokens) :=
  match accept? .rightBrace ts with
  | some ts => .ok (∅, ts)
  | none => do
    let (entries, ts) ← separated (accept? .comma) (property meaning) ts
    let ts ← expect .rightBrace "'\x7d'" ts
    .ok (.ofList entries, ts)

def optionalIdent (ts : Tokens) : Option String × Tokens :=
  match acceptIdent? ts with
  | some (name, ts) => (some name, ts)
  | none => (none, ts)

def optionalKind (what : String) (ts : Tokens) : Except ParseError (Option String × Tokens) :=
  match accept? .colon ts with
  | some ts => (expectIdent what ts).map fun (name, ts) => (some name, ts)
  | none => .ok (none, ts)

def node (meaning : Meaning ω) (ts : Tokens) :
    Except ParseError (NodePattern ω × Tokens) := do
  let ts ← expect .leftParen "'('" ts
  let (name, ts) := optionalIdent ts
  let (label, ts) ← optionalKind "label" ts
  let (properties, ts) ← match accept? .leftBrace ts with
    | some ts => properties meaning ts
    | none => .ok (∅, ts)
  let ts ← expect .rightParen "')'" ts
  .ok ({ name, labels := label.toList, properties }, ts)

/-- The name and the kind of an edge between brackets, which may be missing. -/
def edgeBody (ts : Tokens) : Except ParseError ((Option String × Option String) × Tokens) :=
  match accept? .leftBracket ts with
  | none => .ok ((none, none), ts)
  | some ts => do
    let (name, ts) := optionalIdent ts
    let (kind, ts) ← optionalKind "relationship type" ts
    let ts ← expect .rightBracket "']'" ts
    .ok ((name, kind), ts)

/-- The rest of an edge after its left end. -/
def edgeFrom (incoming : Bool) (ts : Tokens) : Except ParseError (EdgePattern × Tokens) := do
  let ((name, kind), ts) ← edgeBody ts
  match accept? .arrow ts with
  | some ts =>
    if incoming then .error .edgeBothWays else .ok ({ name, kind, direction := .out }, ts)
  | none =>
    let ts ← expect .dash "'-' or '->'" ts
    .ok ({ name, kind, direction := if incoming then .into else .both }, ts)

def hop? (meaning : Meaning ω) (ts : Tokens) :
    Except ParseError (Option ((EdgePattern × NodePattern ω) × Tokens)) :=
  match accept? .leftArrow ts, accept? .dash ts with
  | some ts, _ => hop true ts
  | none, some ts => hop false ts
  | none, none => .ok none
where
  hop (incoming : Bool) (ts : Tokens) := do
    let (edge, ts) ← edgeFrom incoming ts
    let (node, ts) ← node meaning ts
    .ok (some ((edge, node), ts))

/-- Nodes with edges between them. -/
structure Chain (ω : Type) where
  first : NodePattern ω
  hops : List (EdgePattern × NodePattern ω)

def chain (meaning : Meaning ω) (ts : Tokens) : Except ParseError (Chain ω × Tokens) := do
  let (first, ts) ← node meaning ts
  let (hops, ts) ← many (hop? meaning) ts.length ts
  .ok (⟨first, hops⟩, ts)

/-! ### Clauses -/

/-- A comparison that is written as a word or two. -/
def namedComparison (ts : Tokens) : Except ParseError (Comparison × Tokens) :=
  if let some ts := acceptKeyword? "CONTAINS" ts then .ok (.contains, ts)
  else if let some ts := acceptKeyword? "REGEX" ts then .ok (.regex, ts)
  else if let some ts := acceptKeyword? "STARTS" ts then
    (expectKeyword "WITH" ts).map fun ts => (.startsWith, ts)
  else if let some ts := acceptKeyword? "ENDS" ts then
    (expectKeyword "WITH" ts).map fun ts => (.endsWith, ts)
  else .error (missing "comparison operator" ts)

def comparison (ts : Tokens) : Except ParseError (Comparison × Tokens) :=
  match ts with
  | ⟨.eq, _, _⟩ :: ts => .ok (.eq, ts)
  | ⟨.ne, _, _⟩ :: ts => .ok (.ne, ts)
  | ⟨.gt, _, _⟩ :: ts => .ok (.gt, ts)
  | ⟨.lt, _, _⟩ :: ts => .ok (.lt, ts)
  | ⟨.ge, _, _⟩ :: ts => .ok (.ge, ts)
  | ⟨.le, _, _⟩ :: ts => .ok (.le, ts)
  -- `<-3` reads as an arrow and `3`; where a comparison has to stand it is `<` and `-3`
  | ⟨.leftArrow, offset, source⟩ :: ts => .ok (.lt, ⟨.dash, offset + 1, source.tail⟩ :: ts)
  | ts => namedComparison ts

def condition (meaning : Meaning ω) (ts : Tokens) :
    Except ParseError (Condition ω × Tokens) := do
  let (field, ts) ← path ts
  let (comparison, ts) ← comparison ts
  let (operand, ts) ← value meaning ts
  .ok (⟨field, comparison, operand⟩, ts)

/-- Conditions joined all by `AND` or all by `OR`. -/
def clause (meaning : Meaning ω) (ts : Tokens) : Except ParseError (Clause ω × Tokens) := do
  let (conditions, ts) ← separated (acceptKeyword? "AND") (condition meaning) ts
  match acceptKeyword? "OR" ts with
  | none => .ok (⟨conditions, .and⟩, ts)
  | some ts =>
    if 1 < conditions.length then .error .mixedJunctions
    else
      let (more, ts) ← separated (acceptKeyword? "OR") (condition meaning) ts
      match acceptKeyword? "AND" ts with
      | some _ => .error .mixedJunctions
      | none => .ok (⟨conditions ++ more, .or⟩, ts)

def expression (ts : Tokens) : Except ParseError (String × Tokens) :=
  match accept? .star ts with
  | some ts => .ok ("*", ts)
  | none => path ts

/-- An aggregate of an expression, or an expression. -/
def returned (ts : Tokens) : Except ParseError ((String × Option Aggregate) × Tokens) :=
  match ts with
  | ⟨.ident name, _, _⟩ :: ⟨.leftParen, _, _⟩ :: ts =>
    match Aggregate.ofName? name with
    | none => .error (.unknownAggregate name)
    | some aggregate => do
      let (text, ts) ← expression ts
      let ts ← expect .rightParen "')'" ts
      .ok ((text, some aggregate), ts)
  | ts => (expression ts).map fun (text, ts) => ((text, none), ts)

def returnItem (ts : Tokens) : Except ParseError (ReturnItem × Tokens) := do
  let ((expression, aggregate), ts) ← returned ts
  let (columnName, ts) ← optional "AS" (expectIdent "alias") ts
  .ok ({ expression, columnName, aggregate }, ts)

def sortKey (ts : Tokens) : Except ParseError (SortKey × Tokens) := do
  let (expression, ts) ← path ts
  match acceptKeyword? "DESC" ts with
  | some ts => .ok (⟨expression, .desc⟩, ts)
  | none => .ok (⟨expression, .asc⟩, (acceptKeyword? "ASC" ts).getD ts)

def sortKeys (ts : Tokens) : Except ParseError (List SortKey × Tokens) := do
  let ts ← expectKeyword "BY" ts
  separated (accept? .comma) sortKey ts

/-- The number after `SKIP` or `LIMIT`. -/
def count (keyword : String) (ts : Tokens) : Except ParseError (Nat × Tokens) :=
  match ts with
  | ⟨.int i, _, _⟩ :: rest =>
    if 0 ≤ i.toInt then .ok (i.toInt.toNat, rest)
    else .error (missing ("non-negative integer after " ++ keyword) ts)
  | ts => .error (missing ("non-negative integer after " ++ keyword) ts)

/-- `SKIP` and `LIMIT` in either order. -/
def page (ts : Tokens) : Except ParseError ((Option Nat × Option Nat) × Tokens) := do
  let (skip, ts) ← optional "SKIP" (count "SKIP") ts
  let (limit, ts) ← optional "LIMIT" (count "LIMIT") ts
  match skip with
  | some _ => .ok ((skip, limit), ts)
  | none =>
    match limit with
    | none => .ok ((none, none), ts)
    | some _ =>
      let (skip, ts) ← optional "SKIP" (count "SKIP") ts
      .ok ((skip, limit), ts)

def query (meaning : Meaning ω) (ts : Tokens) : Except ParseError (Plan ω) := do
  let ts ← expectKeyword "MATCH" ts
  let (chains, ts) ← separated (accept? .comma) (chain meaning) ts
  let (filter, ts) ← optional "WHERE" (clause meaning) ts
  let (columns, ts) ← optional "RETURN" (separated (accept? .comma) returnItem) ts
  let (order, ts) ← optional "ORDER" sortKeys ts
  let ((skip, limit), ts) ← page ts
  let nodes := chains.flatMap fun c => c.first :: c.hops.map (·.2)
  let edges := chains.flatMap fun c => c.hops.map (·.1)
  match ts with
  | extra :: _ => .error (.unexpected extra)
  | [] => .ok { nodes, edges, filter, columns, order, skip, limit }

end Parser

abbrev Params := Fields Json

/-- Literals stand for themselves, and parameters for their values. -/
def Meaning.ofParams (params : Params) : Meaning Value where
  literal := id
  parameter? name := (params.find? name).map Value.ofParameter

/-- The plan of a text with the values of the parameters in place. -/
def parse (text : String) (params : Params) : Except ParseError (Plan Value) := do
  Parser.query (.ofParams params) (← tokenize text)

end CodeGraph.Query
