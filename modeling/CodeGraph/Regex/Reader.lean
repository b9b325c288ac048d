import CodeGraph.Regex.Basic
import CodeGraph.Text.Digits

/-! # Reading regular expressions

Texts of regular expressions, with flags, named groups, classes with set operations, and properties
of characters; there are no references back and no look-around. Without flags, case does not count
and classes are those of all characters.
-/

namespace CodeGraph.Regex

/-- What the flags in force say. How much a repetition prefers to take does not matter to whether
there is a match, so that flag is not kept. -/
structure Flags where
  ignoreCase : Bool := true
  multiLine : Bool := false
  dotAll : Bool := false
  unicode : Bool := true
  anyLineEnd : Bool := false
  /-- Blanks and comments in the expression are passed over. -/
  spaced : Bool := false

namespace Reader

/-! ### Blanks -/

def dropSpace : List Char → List Char
  | [] => []
  | c :: cs =>
    if Unicode.isBlank c then dropSpace cs
    else if c == '#' then dropComment cs
    else c :: cs
where
  dropComment : List Char → List Char
    | [] => []
    | '\n' :: cs => dropSpace cs
    | _ :: cs => dropComment cs

def skip (flags : Flags) (cs : List Char) : List Char := if flags.spaced then dropSpace cs else cs

/-! ### Characters -/

/-- A part that stands for itself. -/
inductive Atom where
  /-- A character; the flag tells that it is written as a byte in two digits. -/
  | literal (c : Char) (byte : Bool)
  | set (s : CharSet)
  | look (l : Look)

def withCase (flags : Flags) (s : CharSet) : CharSet :=
  if !flags.ignoreCase then s else if flags.unicode then .folded s else .asciiFolded s

/-- Case is added before the complement is taken. Without the classes of all characters there is no
complement. -/
def finishSet? (flags : Flags) (negated : Bool) (s : CharSet) : Option CharSet :=
  if !negated then some (withCase flags s)
  else if flags.unicode then some (.compl (withCase flags s))
  else none

/-- One of the classes of digits, blanks and word characters. -/
def shorthand? (flags : Flags) (negated : Bool) (all ascii : CharSet) : Option CharSet :=
  if flags.unicode then some (if negated then .compl all else all)
  else if negated then none else some ascii

def char? (n : Nat) : Option Char := if h : n.isValidChar then some (Char.ofNatAux n h) else none

private def hexDigits (flags : Flags) : Nat → List Char → Option (List Char × List Char)
  | 0, cs => some ([], cs)
  | n + 1, c :: cs =>
    if Text.isHexDigit c then
      (hexDigits flags n (skip flags cs)).map fun (ds, cs) => (c :: ds, cs)
    else none
  | _ + 1, [] => none

def hexChar (flags : Flags) (letter : Char) (cs : List Char) : Option (Atom × List Char) := do
  match skip flags cs with
  | '\x7b' :: cs =>
    let inside := cs.takeWhile (· != '\x7d')
    let _ :: rest := cs.dropWhile (· != '\x7d') | none
    let digits := if flags.spaced then inside.filter (!Unicode.isBlank ·) else inside
    if digits.isEmpty then none
    some (.literal (← char? (← Text.hexValue? digits)) false, skip flags rest)
  | cs =>
    let width := if letter == 'x' then 2 else if letter == 'u' then 4 else 8
    let (digits, rest) ← hexDigits flags width cs
    some (.literal (← char? (← Text.hexValue? digits)) (letter == 'x'), rest)

private def splitAt? (separator : List Char) : List Char → Option (List Char × List Char)
  | [] => none
  | c :: cs =>
    if separator.isPrefixOf (c :: cs) then some ([], (c :: cs).drop separator.length)
    else (splitAt? separator cs).map fun (before, after) => (c :: before, after)

/-- The set that a name, or a name and a value, of a property denotes. -/
def property? (name : List Char) : Option CharSet :=
  let split := splitAt? ['!', '='] name <|> splitAt? [':'] name <|> splitAt? ['='] name
  let sets := match split with
    | some (property, value) => Unicode.valued? (String.ofList property) (String.ofList value)
    | none => Unicode.named? (String.ofList name)
  sets.map fun sets => .union (sets.map .table)

def propertyAtom (flags : Flags) (negated : Bool) (cs : List Char) :
    Option (Atom × List Char) := do
  if !flags.unicode then none
  match skip flags cs with
  | '\x7b' :: cs =>
    let inside := cs.takeWhile (· != '\x7d')
    let _ :: rest := cs.dropWhile (· != '\x7d') | none
    let name := if flags.spaced then inside.filter (!Unicode.isBlank ·) else inside
    some (.set (← finishSet? flags negated (← property? name)), rest)
  | '\\' :: _ => none
  | c :: cs => some (.set (← finishSet? flags negated (← property? [c])), skip flags cs)
  | [] => none

/-- What is written in braces after `\b`, if letters or hyphens are. -/
def wordLook (flags : Flags) (cs : List Char) : Option (Look × List Char) :=
  match cs with
  | '\x7b' :: rest => do
    let isLetter (c : Char) : Bool := c.isAlpha || c == '-'
    let first :: _ := skip flags rest | none
    if !isLetter first then some (.edge, cs)
    else
      let inside := if flags.spaced then rest.filter (!Unicode.isBlank ·) else rest
      let '\x7d' :: after := inside.dropWhile isLetter | none
      let after := if flags.spaced then (rest.dropWhile (· != '\x7d')).tail else after
      match String.ofList (inside.takeWhile isLetter) with
      | "start" => some (.wordStart, after)
      | "end" => some (.wordFinish, after)
      | "start-half" => some (.wordStartHalf, after)
      | "end-half" => some (.wordFinishHalf, after)
      | _ => none
  | _ => some (.edge, cs)

/-- The characters with a meaning of their own, which a backslash takes away. -/
def isMeta (c : Char) : Bool := "\\.+*?()|[]\x7b\x7d^$#&-~".toList.contains c

/-- Other characters that a backslash may stand before without a meaning. -/
def isPlain (c : Char) : Bool :=
  c.toNat < 0x80 && !c.isAlphanum && c != '<' && c != '>'

def escape (flags : Flags) : List Char → Option (Atom × List Char)
  | [] => none
  | c :: cs =>
    match c with
    | 'x' => hexChar flags c cs
    | 'u' => hexChar flags c cs
    | 'U' => hexChar flags c cs
    | 'p' => propertyAtom flags false cs
    | 'P' => propertyAtom flags true cs
    | 'd' => set cs (shorthand? flags false .digit .asciiDigit)
    | 'D' => set cs (shorthand? flags true .digit .asciiDigit)
    | 's' => set cs (shorthand? flags false .blank .asciiBlank)
    | 'S' => set cs (shorthand? flags true .blank .asciiBlank)
    | 'w' => set cs (shorthand? flags false .word .asciiWord)
    | 'W' => set cs (shorthand? flags true .word .asciiWord)
    | 'a' => literal cs '\x07'
    | 'f' => literal cs '\x0c'
    | 't' => literal cs '\t'
    | 'n' => literal cs '\n'
    | 'r' => literal cs '\r'
    | 'v' => literal cs '\x0b'
    | 'A' => some (.look .start, cs)
    | 'z' => some (.look .finish, cs)
    | 'b' => (wordLook flags cs).map fun (l, cs) => (.look l, cs)
    | 'B' => some (.look .noEdge, cs)
    | '<' => some (.look .wordStart, cs)
    | '>' => some (.look .wordFinish, cs)
    | c => if isMeta c || isPlain c then literal cs c else none
where
  set (cs : List Char) (s : Option CharSet) : Option (Atom × List Char) :=
    s.map fun s => (.set s, cs)
  literal (cs : List Char) (c : Char) : Option (Atom × List Char) := some (.literal c false, cs)

/-! ### Classes -/

inductive SetOp where
  | inter
  | diff
  | symmDiff

/-- The value of the operation that is still open, with its right side. -/
def applyOp (flags : Flags) (pending : Option (CharSet × SetOp)) (right : CharSet) : CharSet :=
  match pending with
  | none => right
  | some (left, .inter) => .inter (withCase flags left) (withCase flags right)
  | some (left, .diff) => .diff (withCase flags left) (withCase flags right)
  | some (left, .symmDiff) => .symmDiff (withCase flags left) (withCase flags right)

/-- The parts of a class between two operators, last first. -/
def unite : List CharSet → CharSet
  | [part] => part
  | parts => .union parts.reverse

def posix (flags : Flags) : List Char → Option (Option CharSet × List Char)
  | ':' :: '^' :: cs => named true cs
  | ':' :: cs => named false cs
  | _ => none
where
  named (negated : Bool) (cs : List Char) : Option (Option CharSet × List Char) :=
    match cs.dropWhile (· != ':') with
    | ':' :: ']' :: rest =>
      (CharSet.posix? (String.ofList (cs.takeWhile (· != ':')))).map fun s =>
        (finishSet? flags negated s, rest)
    | _ => none

def classAtom (flags : Flags) : List Char → Option (Atom × List Char)
  | [] => none
  | '\\' :: cs => escape flags cs
  | c :: cs => some (.literal c false, cs)

/-- The code point of a literal in a class, which has to be ASCII without the classes of all
characters. -/
def classLiteral? (flags : Flags) : Atom → Option Nat
  | .literal c _ => if flags.unicode || c.toNat < 0x80 then some c.toNat else none
  | _ => none

def classItem? (flags : Flags) : Atom → Option CharSet
  | .set s => some s
  | .look _ => none
  | a => (classLiteral? flags a).map fun n => .range n n

/-- A single character, an escape or a range. -/
def classRange (flags : Flags) (cs : List Char) : Option (CharSet × List Char) := do
  let (first, cs) ← classAtom flags cs
  let c :: rest := skip flags cs | none
  let ends := match skip flags rest with
    | ']' :: _ => true
    | '-' :: _ => true
    | _ => false
  if c != '-' || ends then some (← classItem? flags first, c :: rest)
  else
    let (last, cs) ← classAtom flags (skip flags rest)
    let low ← classLiteral? flags first
    let high ← classLiteral? flags last
    if low ≤ high then some (.range low high, cs) else none

/-- The hyphens at the start of a class. -/
def leadingHyphens (flags : Flags) (cs : List Char) : List CharSet × List Char :=
  let isLeading (c : Char) : Bool := c == '-' || (flags.spaced && Unicode.isBlank c)
  (((cs.takeWhile isLeading).filter (· == '-')).map .single, cs.dropWhile isLeading)

mutual

/-- A class after its opening bracket. Hyphens at the start and a closing bracket as the first
character are taken as they are. -/
def bracket (flags : Flags) : Nat → List Char → Option (CharSet × List Char)
  | 0, _ => none
  | fuel + 1, cs => do
    let cs := skip flags cs
    let negated := cs.head? == some '^'
    let cs := if negated then skip flags cs.tail else cs
    let (hyphens, cs) := leadingHyphens flags cs
    let (first, cs) :=
      match hyphens, cs with
      | [], ']' :: rest => ([CharSet.single ']'], skip flags rest)
      | _, _ => (hyphens, cs)
    let (s, rest) ← classParts flags fuel none first cs
    some (.bracket (← finishSet? flags negated s), rest)

def classParts (flags : Flags) :
    Nat → Option (CharSet × SetOp) → List CharSet → List Char → Option (CharSet × List Char)
  | 0, _, _, _ => none
  | fuel + 1, pending, parts, cs =>
    match skip flags cs with
    | [] => none
    | '[' :: cs =>
      match posix flags cs with
      | some (s, rest) => do classParts flags fuel pending ((← s) :: parts) rest
      | none => do
        let (s, rest) ← bracket flags fuel cs
        classParts flags fuel pending (s :: parts) rest
    | ']' :: cs => some (applyOp flags pending (unite parts), cs)
    | '&' :: '&' :: cs =>
      classParts flags fuel (some (applyOp flags pending (unite parts), .inter)) [] cs
    | '-' :: '-' :: cs =>
      classParts flags fuel (some (applyOp flags pending (unite parts), .diff)) [] cs
    | '~' :: '~' :: cs =>
      classParts flags fuel (some (applyOp flags pending (unite parts), .symmDiff)) [] cs
    | cs => do
      let (s, rest) ← classRange flags cs
      classParts flags fuel pending (s :: parts) rest

end

/-! ### Groups -/

inductive FlagItem where
  | negation
  | flag (c : Char)
deriving DecidableEq

/-- Flags up to the character that ends them. None stands twice, and a negation is not last. -/
def flagItems (items : List FlagItem) : List Char → Option (List FlagItem × Char × List Char)
  | [] => none
  | c :: cs =>
    if c == ':' || c == ')' then
      if items.getLast? == some .negation then none else some (items, c, cs)
    else
      let item := if c == '-' then FlagItem.negation else .flag c
      if items.contains item then none
      else if c == '-' || "imsUuRx".toList.contains c then flagItems (items ++ [item]) cs
      else none

def setFlag (flags : Flags) (on : Bool) (c : Char) : Flags :=
  match c with
  | 'i' => { flags with ignoreCase := on }
  | 'm' => { flags with multiLine := on }
  | 's' => { flags with dotAll := on }
  | 'u' => { flags with unicode := on }
  | 'R' => { flags with anyLineEnd := on }
  | 'x' => { flags with spaced := on }
  | _ => flags

/-- The flags after some are set and the ones behind a negation are cleared. -/
def applyFlags (on : Bool) (flags : Flags) : List FlagItem → Flags
  | [] => flags
  | .negation :: items => applyFlags false flags items
  | .flag c :: items => applyFlags on (setFlag flags on c) items

/-- What an opening parenthesis starts. -/
inductive Opening where
  | group (flags : Flags)
  | named (name : String)
  | setFlags (flags : Flags)

def groupName? (cs : List Char) : Option (String × List Char) :=
  let name := cs.takeWhile (· != '>')
  let isStart (c : Char) : Bool := c == '_' || Unicode.isAlphabetic c
  let isPart (c : Char) : Bool :=
    c == '_' || c == '.' || c == '[' || c == ']' || Unicode.isAlphanumeric c
  match name, cs.dropWhile (· != '>') with
  | c :: rest, '>' :: after =>
    if isStart c && rest.all isPart then some (String.ofList name, after) else none
  | _, _ => none

def opening (flags : Flags) (cs : List Char) : Option (Opening × List Char) :=
  match skip flags cs with
  | '?' :: 'P' :: '<' :: cs => (groupName? cs).map fun (name, cs) => (.named name, cs)
  | '?' :: '<' :: '=' :: _ => none
  | '?' :: '<' :: '!' :: _ => none
  | '?' :: '<' :: cs => (groupName? cs).map fun (name, cs) => (.named name, cs)
  | '?' :: '=' :: _ => none
  | '?' :: '!' :: _ => none
  | '?' :: cs => do
    let (items, c, cs) ← flagItems [] cs
    let flags := applyFlags true flags items
    if c == ':' then some (.group flags, cs)
    else if items.isEmpty then none
    else some (.setFlags flags, cs)
  | cs => some (.group flags, cs)

/-! ### Repetitions -/

/-- A number, with blanks around it. -/
def decimal? (flags : Flags) (cs : List Char) : Option (Nat × List Char) :=
  let cs := Unicode.trimStart cs
  let digits := cs.takeWhile Char.isDigit
  let n := Text.decimalValue digits
  if digits.isEmpty || UInt32.size ≤ n then none
  else some (n, skip flags (Unicode.trimStart (cs.dropWhile Char.isDigit)))

def bounds? (flags : Flags) (cs : List Char) : Option ((Nat × Option Nat) × List Char) := do
  let (least, cs) ← decimal? flags (skip flags cs)
  match cs with
  | '\x7d' :: cs => some ((least, some least), skip flags cs)
  | ',' :: cs =>
    match skip flags cs with
    | '\x7d' :: cs => some ((least, none), skip flags cs)
    | cs =>
      let (most, cs) ← decimal? flags cs
      let '\x7d' :: cs := cs | none
      if least ≤ most then some ((least, some most), skip flags cs) else none
  | _ => none

def dropLazy : List Char → List Char
  | '?' :: cs => cs
  | cs => cs

/-! ### Expressions -/

/-- A part of a sequence; flags stand in it without being repeatable. -/
structure Part where
  regex : Regex
  repeatable : Bool

def sequence : List Part → Regex
  | [] => .empty
  | [part] => part.regex
  | parts => .concat (parts.reverse.map (·.regex))

def choice : List Regex → Regex
  | [branch] => branch
  | branches => .alternatives branches.reverse

def ofAtom? (flags : Flags) : Atom → Option Regex
  | .literal c byte =>
    if byte && 0x80 ≤ c.toNat && !flags.unicode then none
    else some (.char (withCase flags (.single c)))
  | .set s => some (.char s)
  | .look l => some (.look (!flags.unicode) l)

/-- Any character but the ends of lines. -/
def dot? (flags : Flags) : Option Regex :=
  if !flags.unicode then none
  else if flags.dotAll then some (.char .anything)
  else if flags.anyLineEnd then some (.char (.compl (.union [.single '\r', .single '\n'])))
  else some (.char (.compl (.single '\n')))

def caret (flags : Flags) : Look :=
  if !flags.multiLine then .start else if flags.anyLineEnd then .anyLineStart else .lineStart

def dollar (flags : Flags) : Look :=
  if !flags.multiLine then .finish else if flags.anyLineEnd then .anyLineFinish else .lineFinish

/-- Sequences with bars between them, up to the end or a closing parenthesis. The names of groups
are all different. -/
def expression : Nat → Flags → List String → List Regex → List Part → List Char →
    Option (Regex × List String × List Char)
  | 0, _, _, _, _, _ => none
  | fuel + 1, flags, names, branches, parts, cs =>
    let proceed (part : Regex) := expression fuel flags names branches (⟨part, true⟩ :: parts)
    let repeated (least : Nat) (most : Option Nat) (cs : List Char) :=
      match parts with
      | ⟨r, true⟩ :: parts =>
        expression fuel flags names branches (⟨.repeated least most r, true⟩ :: parts) (dropLazy cs)
      | _ => none
    match skip flags cs with
    | [] => some (choice (sequence parts :: branches), names, [])
    | ')' :: cs => some (choice (sequence parts :: branches), names, ')' :: cs)
    | '|' :: cs => expression fuel flags names (sequence parts :: branches) [] cs
    | '(' :: cs => do
      let (opening, cs) ← opening flags cs
      match opening with
      | .setFlags flags => expression fuel flags names branches (⟨.empty, false⟩ :: parts) cs
      | .group inner =>
        let (r, names, rest) ← expression fuel inner names [] [] cs
        let ')' :: rest := rest | none
        expression fuel flags names branches (⟨.group r, true⟩ :: parts) rest
      | .named name =>
        if names.contains name then none
        else
          let (r, names, rest) ← expression fuel flags (name :: names) [] [] cs
          let ')' :: rest := rest | none
          expression fuel flags names branches (⟨.group r, true⟩ :: parts) rest
    | '[' :: cs => do
      let (s, rest) ← bracket flags fuel cs
      proceed (.char s) rest
    | '?' :: cs => repeated 0 (some 1) cs
    | '*' :: cs => repeated 0 none cs
    | '+' :: cs => repeated 1 none cs
    | '\x7b' :: cs => do
      let ((least, most), rest) ← bounds? flags cs
      repeated least most rest
    | '\\' :: cs => do
      let (atom, rest) ← escape flags cs
      proceed (← ofAtom? flags atom) rest
    | '.' :: cs => do proceed (← dot? flags) cs
    | '^' :: cs => proceed (.look false (caret flags)) cs
    | '$' :: cs => proceed (.look false (dollar flags)) cs
    | c :: cs => do proceed (← ofAtom? flags (.literal c false)) cs

end Reader

/-- The expression that a text denotes, if it is one and not too large. -/
def ofText? (text : String) : Option Regex :=
  let cs := text.toList
  match Reader.expression (2 * cs.length + 2) {} [] [] [] cs with
  | some (r, _, []) => if r.depth ≤ depthLimit && r.size ≤ sizeLimit then some r else none
  | _ => none

end CodeGraph.Regex
