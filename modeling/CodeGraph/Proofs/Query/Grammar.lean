import CodeGraph.Query.Parser

/-!
# The grammar of queries

What the tokens of a query may be and what they mean, said without a way to read them.  A `Phrase`
relates all tokens of a phrase to its meaning; a longer phrase is put together from shorter ones
side by side.  In the rules, words in capitals are keywords in any case, and brackets stand around
what may be missing:

* query: `MATCH` pattern, … [`WHERE` clause] [`RETURN` item, …] [`ORDER BY` key, …] page
* pattern: node (edge node)*
* node: `(` [name] [`:` name] [`{` [name `:` value, …] `}`] `)`
* edge: `-` body `->`, `<-` body `-` or `-` body `-`, where a body is [`[` [name] [`:` name] `]`]
* clause: conditions with `AND` between them, or with `OR` between them
* condition: path operator value; a `<-` where the operator stands is `<` and the `-` of the value
* item: (aggregate `(` expression `)` or expression) [`AS` name]; an expression is `*` or a path
* key: path [`ASC` or `DESC`]
* page: [`SKIP` count] [`LIMIT` count], or the two in the other order

Keywords are names too: nothing here keeps a name from being written like a keyword.
-/

namespace CodeGraph.Query

/-! ### Plans with names of parameters -/

/-- What stands for a value in a query. -/
inductive Operand where
  | literal (value : Value)
  | parameter (name : String)
deriving DecidableEq

def Operand.resolve (params : Params) : Operand → Value
  | literal v => v
  | parameter name => ((params.find? name).map Value.ofParameter).getD .null

/-- Parameters that have values stand for their names. -/
def Meaning.template (bound : String → Bool) : Meaning Operand where
  literal := .literal
  parameter? name := if bound name then some (.parameter name) else none

variable {ω ω' : Type}

def NodePattern.map (f : ω → ω') (p : NodePattern ω) : NodePattern ω' :=
  { p with properties := p.properties.map f }

def Condition.map (f : ω → ω') (c : Condition ω) : Condition ω' := { c with operand := f c.operand }

def Clause.map (f : ω → ω') (c : Clause ω) : Clause ω' :=
  { c with conditions := c.conditions.map (·.map f) }

def Plan.map (f : ω → ω') (p : Plan ω) : Plan ω' :=
  { p with nodes := p.nodes.map (·.map f), filter := p.filter.map (·.map f) }

abbrev Phrase (α : Type) := List Token → α → Prop

namespace Grammar

open CodeGraph.Query.Parser (Chain)

variable {α : Type}

/-! ### Ways of putting phrases together -/

/-- A phrase after a token that leads it in. -/
inductive Led (lead : Token → Bool) (phrase : Phrase α) : Phrase α
  | mk {t : Token} {ps : List Token} {x : α} (hLead : lead t = true) (hPhrase : phrase ps x) :
      Led lead phrase (t :: ps) x

/-- A phrase that may be missing. -/
inductive Opt (phrase : Phrase α) : Phrase (Option α)
  | absent : Opt phrase [] none
  | present {ps : List Token} {x : α} (hPhrase : phrase ps x) : Opt phrase ps (some x)

/-- Any number of phrases. -/
inductive Repeated (phrase : Phrase α) : Phrase (List α)
  | nil : Repeated phrase [] []
  | cons {ps qs : List Token} {x : α} {xs : List α} (hFirst : phrase ps x)
      (hRest : Repeated phrase qs xs) : Repeated phrase (ps ++ qs) (x :: xs)

/-- One phrase or more, with a separator between each two. -/
inductive Separated (lead : Token → Bool) (phrase : Phrase α) : Phrase (List α)
  | mk {ps qs : List Token} {x : α} {xs : List α} (hFirst : phrase ps x)
      (hRest : Repeated (Led lead phrase) qs xs) : Separated lead phrase (ps ++ qs) (x :: xs)

/-! ### Names and values -/

inductive IsName : Phrase String
  | mk (name : String) : IsName [.ident name] name

inductive IsPath : Phrase String
  | mk {ps : List Token} {names : List String} (h : Separated (· == .dot) IsName ps names) :
      IsPath ps (".".intercalate names)

/-- `bound` knows the parameters that have values. -/
inductive IsValue (bound : String → Bool) : Phrase Operand
  | str (s : String) : IsValue bound [.str s] (.literal (.str s))
  | int (i : Int64) : IsValue bound [.int i] (.literal (.int i))
  | float (x : Double) : IsValue bound [.float x] (.literal (.float x))
  | negativeInt (i : Int64) : IsValue bound [.dash, .int i] (.literal (.int (-i)))
  | negativeFloat (x : Double) : IsValue bound [.dash, .float x] (.literal (.float x.neg))
  | param {name : String} (hBound : bound name = true) :
      IsValue bound [.param name] (.parameter name)
  | word (word : String) : IsValue bound [.ident word] (.literal (Parser.value.bareWord word))

variable (bound : String → Bool)

/-! ### Patterns -/

inductive IsProperty : Phrase (String × Operand)
  | mk (name : String) {ps : List Token} {x : Operand} (hValue : IsValue bound ps x) :
      IsProperty (.ident name :: .colon :: ps) (name, x)

/-- The properties of a node with their braces; of those with one name the last counts. -/
inductive IsProperties : Phrase (Fields Operand)
  | absent : IsProperties [] ∅
  | empty : IsProperties [.leftBrace, .rightBrace] ∅
  | listed {ps : List Token} {entries : List (String × Operand)}
      (h : Separated (· == .comma) (IsProperty bound) ps entries) :
      IsProperties (.leftBrace :: ps ++ [.rightBrace]) (.ofList entries)

abbrev IsKind : Phrase String := Led (· == .colon) IsName

inductive IsNode : Phrase (NodePattern Operand)
  | mk {ps qs rs : List Token} {name label : Option String} {properties : Fields Operand}
      (hName : Opt IsName ps name) (hLabel : Opt IsKind qs label)
      (hProperties : IsProperties bound rs properties) :
      IsNode (.leftParen :: ps ++ qs ++ rs ++ [.rightParen])
        { name, labels := label.toList, properties }

inductive IsEdgeBody : Phrase (Option String × Option String)
  | absent : IsEdgeBody [] (none, none)
  | bracketed {ps qs : List Token} {name kind : Option String} (hName : Opt IsName ps name)
      (hKind : Opt IsKind qs kind) :
      IsEdgeBody (.leftBracket :: ps ++ qs ++ [.rightBracket]) (name, kind)

inductive IsEdge : Phrase EdgePattern
  | out {ps : List Token} {name kind : Option String} (hBody : IsEdgeBody ps (name, kind)) :
      IsEdge (.dash :: ps ++ [.arrow]) { name, kind, direction := .out }
  | into {ps : List Token} {name kind : Option String} (hBody : IsEdgeBody ps (name, kind)) :
      IsEdge (.leftArrow :: ps ++ [.dash]) { name, kind, direction := .into }
  | both {ps : List Token} {name kind : Option String} (hBody : IsEdgeBody ps (name, kind)) :
      IsEdge (.dash :: ps ++ [.dash]) { name, kind, direction := .both }

/-- An edge and the node after it. -/
inductive IsHop : Phrase (EdgePattern × NodePattern Operand)
  | mk {ps qs : List Token} {edge : EdgePattern} {node : NodePattern Operand}
      (hEdge : IsEdge ps edge) (hNode : IsNode bound qs node) : IsHop (ps ++ qs) (edge, node)

inductive IsPattern : Phrase (Chain Operand)
  | mk {ps qs : List Token} {first : NodePattern Operand}
      {hops : List (EdgePattern × NodePattern Operand)} (hFirst : IsNode bound ps first)
      (hHops : Repeated (IsHop bound) qs hops) : IsPattern (ps ++ qs) ⟨first, hops⟩

/-! ### Conditions -/

inductive IsOperator : Phrase Comparison
  | eq : IsOperator [.eq] .eq
  | ne : IsOperator [.ne] .ne
  | gt : IsOperator [.gt] .gt
  | lt : IsOperator [.lt] .lt
  | ge : IsOperator [.ge] .ge
  | le : IsOperator [.le] .le
  | contains {t : Token} (ht : t.isKeyword "CONTAINS" = true) : IsOperator [t] .contains
  | regex {t : Token} (ht : t.isKeyword "REGEX" = true) : IsOperator [t] .regex
  | startsWith {t u : Token} (ht : t.isKeyword "STARTS" = true) (hu : u.isKeyword "WITH" = true) :
      IsOperator [t, u] .startsWith
  | endsWith {t u : Token} (ht : t.isKeyword "ENDS" = true) (hu : u.isKeyword "WITH" = true) :
      IsOperator [t, u] .endsWith

inductive IsCondition : Phrase (Condition Operand)
  | mk {ps qs rs : List Token} {field : String} {comparison : Comparison} {operand : Operand}
      (hField : IsPath ps field) (hOperator : IsOperator qs comparison)
      (hValue : IsValue bound rs operand) :
      IsCondition (ps ++ qs ++ rs) ⟨field, comparison, operand⟩
  | arrow {ps rs : List Token} {field : String} {operand : Operand} (hField : IsPath ps field)
      (hValue : IsValue bound (.dash :: rs) operand) :
      IsCondition (ps ++ .leftArrow :: rs) ⟨field, .lt, operand⟩

inductive IsClause : Phrase (Clause Operand)
  | all {ps : List Token} {conditions : List (Condition Operand)}
      (h : Separated (Token.isKeyword "AND") (IsCondition bound) ps conditions) :
      IsClause ps ⟨conditions, .and⟩
  | any {ps : List Token} {conditions : List (Condition Operand)}
      (h : Separated (Token.isKeyword "OR") (IsCondition bound) ps conditions)
      (hSeveral : 1 < conditions.length) : IsClause ps ⟨conditions, .or⟩

/-! ### Results -/

inductive IsExpression : Phrase String
  | star : IsExpression [.star] "*"
  | path {ps : List Token} {text : String} (h : IsPath ps text) : IsExpression ps text

inductive IsReturned : Phrase (String × Option Aggregate)
  | aggregate {name : String} {aggregate : Aggregate} {ps : List Token} {text : String}
      (hName : Aggregate.ofName? name = some aggregate) (hText : IsExpression ps text) :
      IsReturned (.ident name :: .leftParen :: ps ++ [.rightParen]) (text, some aggregate)
  | plain {ps : List Token} {text : String} (hText : IsExpression ps text) :
      IsReturned ps (text, none)

inductive IsItem : Phrase ReturnItem
  | mk {ps qs : List Token} {expression : String} {aggregate : Option Aggregate}
      {columnName : Option String} (hReturned : IsReturned ps (expression, aggregate))
      (hName : Opt (Led (Token.isKeyword "AS") IsName) qs columnName) :
      IsItem (ps ++ qs) { expression, columnName, aggregate }

inductive IsDirection : Phrase SortDirection
  | absent : IsDirection [] .asc
  | asc {t : Token} (ht : t.isKeyword "ASC" = true) : IsDirection [t] .asc
  | desc {t : Token} (ht : t.isKeyword "DESC" = true) : IsDirection [t] .desc

inductive IsSortKey : Phrase SortKey
  | mk {ps qs : List Token} {expression : String} {direction : SortDirection}
      (hPath : IsPath ps expression) (hDirection : IsDirection qs direction) :
      IsSortKey (ps ++ qs) ⟨expression, direction⟩

inductive IsCount : Phrase Nat
  | mk {i : Int64} (h : 0 ≤ i.toInt) : IsCount [.int i] i.toInt.toNat

/-- `SKIP` and `LIMIT`, each at most once. -/
inductive IsPage : Phrase (Option Nat × Option Nat)
  | skipFirst {ps qs : List Token} {skip limit : Option Nat}
      (hSkip : Opt (Led (Token.isKeyword "SKIP") IsCount) ps skip)
      (hLimit : Opt (Led (Token.isKeyword "LIMIT") IsCount) qs limit) :
      IsPage (ps ++ qs) (skip, limit)
  | limitFirst {ps qs : List Token} {skip limit : Nat}
      (hLimit : Led (Token.isKeyword "LIMIT") IsCount ps limit)
      (hSkip : Led (Token.isKeyword "SKIP") IsCount qs skip) :
      IsPage (ps ++ qs) (some skip, some limit)

/-- All tokens of a query and its plan. -/
inductive IsQuery : Phrase (Plan Operand)
  | mk {ps qs rs us vs : List Token} {keyword : Token} {chains : List (Chain Operand)}
      {filter : Option (Clause Operand)} {columns : Option (List ReturnItem)}
      {order : Option (List SortKey)} {skip limit : Option Nat}
      (hMatch : keyword.isKeyword "MATCH" = true)
      (hPatterns : Separated (· == .comma) (IsPattern bound) ps chains)
      (hWhere : Opt (Led (Token.isKeyword "WHERE") (IsClause bound)) qs filter)
      (hReturn : Opt (Led (Token.isKeyword "RETURN") (Separated (· == .comma) IsItem)) rs columns)
      (hOrder : Opt (Led (Token.isKeyword "ORDER")
        (Led (Token.isKeyword "BY") (Separated (· == .comma) IsSortKey))) us order)
      (hPage : IsPage vs (skip, limit)) :
      IsQuery (keyword :: ps ++ qs ++ rs ++ us ++ vs)
        { nodes := chains.flatMap fun c => c.first :: c.hops.map (·.2)
          edges := chains.flatMap fun c => c.hops.map (·.1)
          filter, columns, order, skip, limit }

end Grammar

end CodeGraph.Query
