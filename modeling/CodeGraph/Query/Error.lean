import CodeGraph.Query.Plan
import CodeGraph.Query.Token
import CodeGraph.Time.Span

/-! # Errors of queries

Every way in which a query can fail, and the messages.
-/

namespace CodeGraph.Query

/-- What keeps the characters at a place of the text from being a token. -/
inductive Fault where
  | emptyParameterName
  | unexpectedCharacter (c : Char)
  | unterminatedString
  | integerTooLarge (digits : String)
deriving DecidableEq

def Fault.message (offset : Nat) : Fault → String
  | emptyParameterName => s!"empty parameter name at offset {offset}"
  | unexpectedCharacter c =>
    "unexpected character '" ++ String.singleton c ++ s!"' at offset {offset}"
  | unterminatedString => s!"unterminated string starting at offset {offset}"
  | integerTooLarge digits =>
    "invalid integer '" ++ digits ++
      s!"' at offset {offset}: number too large to fit in target type"

/-- Why a text is no query. -/
inductive ParseError where
  | noToken (fault : Fault) (offset : Nat)
  /-- Something else is found than what has to stand there, or the text ends. -/
  | expected (what : String) (found : Option Lexeme)
  | unexpected (found : Lexeme)
  | edgeBothWays
  | mixedJunctions
  | unknownAggregate (name : String)
  | missingParameter (name : String)
deriving DecidableEq

def ParseError.message : ParseError → String
  | noToken fault offset => fault.message offset
  | expected what (some found) =>
    "expected " ++ what ++ s!" at offset {found.offset}, found " ++ found.token.describe
  | expected what none => "expected " ++ what ++ " but query ended"
  | unexpected found => "unexpected " ++ found.token.describe ++ s!" at offset {found.offset}"
  | edgeBothWays => "edge cannot point both ways ('<-...->')"
  | mixedJunctions => "WHERE clause cannot mix AND and OR"
  | unknownAggregate name => "unknown aggregate function '" ++ name ++ "'"
  | missingParameter name => "missing parameter '$" ++ name ++ "'"

/-- The kinds of failure that callers tell apart. -/
inductive ErrorKind where
  | parse
  | evaluation
  | execution
  | savedQueryNotFound
  | deadlineExceeded
deriving DecidableEq

namespace ErrorKind

/-- The full message of a failure of this kind. -/
def message (detail : String) : ErrorKind → String
  | parse => "Parse error: " ++ detail
  | evaluation => "Evaluation error: " ++ detail
  | execution => "Query execution failed: " ++ detail
  | savedQueryNotFound => "Saved query not found: " ++ detail
  | deadlineExceeded => "Query deadline of " ++ detail ++ " exceeded"

/-- Whether the same query may succeed when it is asked again. -/
def isRetryable : ErrorKind → Bool
  | evaluation => true
  | deadlineExceeded => true
  | _ => false

end ErrorKind

end CodeGraph.Query

namespace CodeGraph

open Query

/-- Why a query has no answer. -/
inductive QueryError where
  | parse (error : ParseError)
  | invalidRegex (pattern field : String)
  | unsupportedAggregate (aggregate : Aggregate) (expression : String)
  /-- The graph cannot be read. -/
  | execution (reason : String)
  | savedQueryNotFound (id : String)
  /-- The budget of nanoseconds is used up. -/
  | deadlineExceeded (nanos : Nat)
  /-- The sort broke off over keys that are in no order. This is no answer to a caller: the run ends
  there. -/
  | sortAborted
deriving DecidableEq

namespace QueryError

def kind : QueryError → ErrorKind
  | parse _ => .parse
  | invalidRegex .. => .evaluation
  | unsupportedAggregate .. => .evaluation
  | execution _ => .execution
  | savedQueryNotFound _ => .savedQueryNotFound
  | deadlineExceeded _ => .deadlineExceeded
  | sortAborted => .execution

def detail : QueryError → String
  | parse error => error.message
  | invalidRegex pattern field =>
    "invalid regex '" ++ pattern ++ "' in condition on '" ++ field ++ "'"
  | unsupportedAggregate aggregate expression =>
    "aggregate Some(" ++ aggregate.name ++ ")(" ++ expression ++
      ") is not supported by the core executor"
  | execution reason => reason
  | savedQueryNotFound id => id
  | deadlineExceeded nanos => Time.Span.render nanos
  | sortAborted => "user-provided comparison function does not correctly implement a total order"

def message (e : QueryError) : String := e.kind.message e.detail

def isRetryable (e : QueryError) : Bool := e.kind.isRetryable

end QueryError

end CodeGraph
