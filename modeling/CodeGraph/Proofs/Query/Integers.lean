import CodeGraph.Proofs.Json.Numbers
import CodeGraph.Proofs.Query.Exchange
import CodeGraph.Proofs.Query.Parameters

/-!
# Whole numbers as literals

The digits of a whole number are one token, and the sign before them another, which the parser takes
for a negation.  The digits alone have to fit 64 bits, so that of all these numbers the least one
has no literal: its digits make a number that is one too large (`decimal_literal_iff`).  No literal
is wrapped, as digits that are too many are an error wherever they stand, and nothing overflows when
a literal is negated.

After `<` the sign may follow at once; the two are read as one token then, an arrow.
-/

namespace CodeGraph.Query

open Text (decimal signedDecimal decimalValue)

/-! ### Digits -/

theorem decimalValue_decimal (n : Nat) : decimalValue (decimal n) = n :=
  Nat.ofDigitChars_ten_toDigits

/-- Digits before such a text do not go on in it, neither with a digit nor with a fraction. -/
structure DigitsEnd (rest : List Char) : Prop where
  digit : ∀ d ∈ rest.head?, d.isDigit = false
  fraction : readFraction rest = []

variable {c d : Char} {cs ds rest : List Char} {offset : Nat}

theorem readSign?_digit (h : c.isDigit = true) (next : Option Char) : readSign? c next = none := by
  unfold readSign?
  split <;> first | rfl | cases h

theorem isBlank_digit (h : c.isDigit = true) : Unicode.isBlank c = false := by
  cases hBlank : Unicode.isBlank c with
  | false => rfl
  | true =>
    have hName := isNameChar_of_isDigit h
    rw [isNameChar_of_isBlank hBlank] at hName
    cases hName

theorem readNumber_digits (hDigits : ∀ c ∈ ds, c.isDigit = true) (hEnd : DigitsEnd rest) :
    readNumber (ds ++ rest) =
      if decimalValue ds < 0x8000000000000000 then
        .ok (.int (Int64.ofInt (decimalValue ds)), ds.length)
      else .error (.integerTooLarge (String.ofList ds)) := by
  rw [readNumber, takeWhile_run hDigits hEnd.digit, dropWhile_run hDigits hEnd.digit,
    hEnd.fraction]
  rfl

theorem readToken_digit (h : c.isDigit = true) :
    readToken c cs = (readNumber (c :: cs)).map fun (token, n) => (token, n - 1) := by
  have hQuote : (c == '"' || c == '\'') = false := by
    rw [Bool.or_eq_false_iff, beq_eq_false_iff_ne, beq_eq_false_iff_ne]
    constructor <;> rintro rfl <;> cases h
  have hDollar : (c == '$') = false := by
    rw [beq_eq_false_iff_ne]
    rintro rfl
    cases h
  rw [readToken, readSign?_digit h, hQuote, hDollar, h]
  rfl

theorem readToken_digits (hDigits : Json.IsDigits (c :: cs)) (hEnd : DigitsEnd rest) :
    readToken c (cs ++ rest) =
      if decimalValue (c :: cs) < 0x8000000000000000 then
        .ok (.int (Int64.ofInt (decimalValue (c :: cs))), cs.length)
      else .error (.integerTooLarge (String.ofList (c :: cs))) := by
  rw [readToken_digit (hDigits.digit c List.mem_cons_self), ← List.cons_append,
    readNumber_digits hDigits.digit hEnd]
  split <;> rfl

theorem tokens_digits (hDigits : Json.IsDigits ds) (hEnd : DigitsEnd rest)
    (hFits : decimalValue ds < 0x8000000000000000) :
    tokens (ds ++ rest) = (tokens rest).map (.int (Int64.ofInt (decimalValue ds)) :: ·) := by
  cases ds with
  | nil => exact absurd rfl hDigits.ne_nil
  | cons c cs =>
    have hRead := readToken_digits hDigits hEnd
    rw [if_pos hFits] at hRead
    rw [List.cons_append, tokens_cons (isBlank_digit (hDigits.digit c List.mem_cons_self)) hRead,
      List.drop_left]

theorem scan_digits (hDigits : Json.IsDigits ds) (hEnd : DigitsEnd rest)
    (hLarge : ¬decimalValue ds < 0x8000000000000000) (offset : Nat) :
    scan offset (ds ++ rest) = .error (.noToken (.integerTooLarge (String.ofList ds)) offset) := by
  cases ds with
  | nil => exact absurd rfl hDigits.ne_nil
  | cons c cs =>
    have hRead := readToken_digits hDigits hEnd
    rw [if_neg hLarge] at hRead
    exact scan_error offset (isBlank_digit (hDigits.digit c List.mem_cons_self)) hRead

/-! ### Signs -/

def decimalText (i : Int) : String := String.ofList (signedDecimal i)

theorem toList_decimalText (i : Int) : (decimalText i).toList = signedDecimal i :=
  String.toList_ofList

theorem signedDecimal_of_neg {i : Int} (h : i < 0) : signedDecimal i = '-' :: decimal i.natAbs :=
  if_pos h

theorem signedDecimal_of_nonneg {i : Int} (h : ¬i < 0) : signedDecimal i = decimal i.natAbs :=
  if_neg h

theorem readToken_dash (h : d.isDigit = true) (cs : List Char) :
    readToken '-' (d :: cs) = .ok (.dash, 0) := by
  have hSign : readSign? '-' (d :: cs).head? = some (.dash, false) := by
    have hNe : d ≠ '>' := by
      rintro rfl
      cases h
    simp [readSign?, hNe]
  rw [readToken, hSign]
  rfl

theorem readToken_arrow (cs : List Char) : readToken '<' ('-' :: cs) = .ok (.leftArrow, 1) := rfl

theorem exists_decimal_eq_cons (n : Nat) : ∃ d ds, decimal n = d :: ds ∧ d.isDigit = true := by
  obtain ⟨d, ds, hText⟩ := List.exists_cons_of_ne_nil (Text.decimal_ne_nil n)
  exact ⟨d, ds, hText, Text.isDigit_of_mem_decimal (hText ▸ List.mem_cons_self)⟩

theorem scan_sign (n : Nat) (rest : List Char) (offset : Nat) :
    scan offset ('-' :: (decimal n ++ rest)) =
      (scan (offset + 1) (decimal n ++ rest)).map (⟨.dash, offset, ['-']⟩ :: ·) := by
  obtain ⟨d, ds, hText, hDigit⟩ := exists_decimal_eq_cons n
  rw [hText, List.cons_append, scan_cons offset (by decide) (readToken_dash hDigit _)]
  rfl

theorem scan_arrow (rest : List Char) (offset : Nat) :
    scan offset ('<' :: '-' :: rest) =
      (scan (offset + 2) rest).map (⟨.leftArrow, offset, ['<', '-']⟩ :: ·) :=
  scan_cons offset (by decide) (readToken_arrow rest)

/-! ### Literals -/

variable {i : Int} {bound : String → Bool}

def magnitude (i : Int) : Token := .int (Int64.ofInt i.natAbs)

theorem tokens_decimal (hFits : i.natAbs < 0x8000000000000000) (hEnd : DigitsEnd rest) :
    tokens (decimal i.natAbs ++ rest) = (tokens rest).map (magnitude i :: ·) := by
  have hDigits := tokens_digits (Json.isDigits_decimal i.natAbs) hEnd
    (by rwa [decimalValue_decimal])
  rwa [decimalValue_decimal] at hDigits

theorem scan_decimal (hLarge : ¬i.natAbs < 0x8000000000000000) (hEnd : DigitsEnd rest)
    (offset : Nat) :
    scan offset (decimal i.natAbs ++ rest) =
      .error (.noToken (.integerTooLarge (String.ofList (decimal i.natAbs))) offset) :=
  scan_digits (Json.isDigits_decimal i.natAbs) hEnd (by rwa [decimalValue_decimal]) offset

theorem value_of_neg (h : i < 0) :
    Grammar.IsValue bound [.dash, magnitude i] (.literal (.int (Int64.ofInt i))) := by
  have hNeg : Int64.ofInt i = -Int64.ofInt i.natAbs := by
    rw [← Int64.ofInt_neg]
    congr 1
    omega
  rw [hNeg]
  exact .negativeInt _

theorem value_of_nonneg (h : ¬i < 0) :
    Grammar.IsValue bound [magnitude i] (.literal (.int (Int64.ofInt i))) := by
  have hSelf : (i.natAbs : Int) = i := by omega
  rw [magnitude, hSelf]
  exact .int _

theorem tokens_signedDecimal (hFits : i.natAbs < 0x8000000000000000) (hEnd : DigitsEnd rest) :
    ∃ vs, Grammar.IsValue bound vs (.literal (.int (Int64.ofInt i))) ∧
      tokens (signedDecimal i ++ rest) = (tokens rest).map (vs ++ ·) := by
  by_cases hNegative : i < 0
  · refine ⟨_, value_of_neg hNegative, ?_⟩
    rw [signedDecimal_of_neg hNegative, List.cons_append, tokens_of_scan (scan_sign _ rest 0),
      tokens_decimal hFits hEnd, Option.map_map]
    rfl
  · refine ⟨_, value_of_nonneg hNegative, ?_⟩
    rw [signedDecimal_of_nonneg hNegative, tokens_decimal hFits hEnd]
    rfl

/-- The place at which the digits of a number that starts at an offset are. -/
def digitsOffset (i : Int) (offset : Nat) : Nat := if i < 0 then offset + 1 else offset

theorem scan_signedDecimal (hLarge : ¬i.natAbs < 0x8000000000000000) (hEnd : DigitsEnd rest)
    (offset : Nat) :
    scan offset (signedDecimal i ++ rest) = .error
      (.noToken (.integerTooLarge (String.ofList (decimal i.natAbs))) (digitsOffset i offset)) := by
  by_cases hNegative : i < 0
  · rw [signedDecimal_of_neg hNegative, List.cons_append, scan_sign, scan_decimal hLarge hEnd,
      digitsOffset, if_pos hNegative]
    rfl
  · rw [signedDecimal_of_nonneg hNegative, scan_decimal hLarge hEnd, digitsOffset,
      if_neg hNegative]

/-- The decimal text of the number is cut into tokens on its own after the text, or makes an arrow
with a `<` before its sign. -/
inductive Admits (before : String) (i : Int) : Prop
  | joins (hWhole : (tokens before.toList).isSome)
      (hJoins : Joins before.toList (signedDecimal i))
  | less (start : String) (hBefore : before = start ++ "<")
      (hWhole : (tokens start.toList).isSome) (hNegative : i < 0)

theorem Joins.append {ds : List Char} (h : Joins cs ds) (hNe : ds ≠ []) (rest : List Char) :
    Joins cs (ds ++ rest) := by
  intro e he d hd
  rw [List.head?_append_of_ne_nil _ hNe] at hd
  exact h e he d hd

theorem signedDecimal_ne_nil (i : Int) : signedDecimal i ≠ [] := by
  by_cases hNegative : i < 0
  · rw [signedDecimal_of_neg hNegative]
    exact List.cons_ne_nil _ _
  · rw [signedDecimal_of_nonneg hNegative]
    exact Text.decimal_ne_nil _

theorem joins_less (cs rest : List Char) : Joins cs ('<' :: rest) :=
  joins_cons (Or.inr (Or.inl rfl)) cs rest

section

variable {slot : Slot} {params : Params} {plan : Plan Value}
  (hFind : params.find? slot.name = some (.integer i))
  (hValue : Value.ofParameter (.integer i) = .int (Int64.ofInt i))
  (hFits : i.natAbs < 0x8000000000000000) (hEnd : DigitsEnd slot.after.toList)
  (hParse : parse slot.withParameter params = .ok plan)

include hFind hValue hFits hEnd hParse

theorem parse_decimal_joins (hJoins : Joins slot.before.toList (signedDecimal i)) :
    parse (slot.withLiteral (decimalText i)) params = .ok plan := by
  obtain ⟨pre, hPre⟩ := Option.isSome_iff_exists.1 slot.whole
  obtain ⟨post, hPost, hParameter⟩ := slot.tokens_of_parse hPre hParse
  obtain ⟨vs, hIs, hTokens⟩ := tokens_signedDecimal hFits hEnd
  have hLiteral : tokens (slot.withLiteral (decimalText i)).toList =
      some (pre ++ (vs ++ post)) := by
    rw [← toList_decimalText] at hTokens hJoins
    have hNe : (decimalText i).toList ≠ [] := toList_decimalText i ▸ signedDecimal_ne_nil i
    rw [slot.tokens_withLiteral hPre (hJoins.append hNe _) hTokens, hPost]
    rfl
  exact parse_exchange (standsFor_parameter hFind (hValue ▸ hIs)) hParameter hLiteral hParse

theorem parse_decimal_less {start : String} (hBefore : slot.before = start ++ "<")
    (hWhole : (tokens start.toList).isSome) (hNegative : i < 0) :
    parse (slot.withLiteral (decimalText i)) params = .ok plan := by
  obtain ⟨first, hFirst⟩ := Option.isSome_iff_exists.1 hWhole
  have hPre : tokens slot.before.toList = some (first ++ [.lt]) := by
    have hLess : tokens ['<'] = some [.lt] := by decide +kernel
    rw [hBefore, String.toList_append]
    refine (tokens_append (joins_less _ []) hFirst).trans ?_
    rw [hLess]
    rfl
  obtain ⟨post, hPost, hParameter⟩ := slot.tokens_of_parse hPre hParse
  have hText : (slot.withLiteral (decimalText i)).toList =
      start.toList ++ '<' :: '-' :: (decimal i.natAbs ++ slot.after.toList) := by
    simp [Slot.withLiteral, hBefore, toList_decimalText, signedDecimal_of_neg hNegative]
  have hLiteral : tokens (slot.withLiteral (decimalText i)).toList =
      some (first ++ .leftArrow :: ([magnitude i] ++ post)) := by
    rw [hText, tokens_append (joins_less _ _) hFirst, tokens_of_scan (scan_arrow _ 0),
      tokens_decimal hFits hEnd, hPost]
    rfl
  rw [List.append_assoc] at hParameter
  exact parse_exchange_less (standsFor_parameter hFind (hValue ▸ value_of_neg hNegative))
    hParameter hLiteral hParse

/-- **A number whose digits fit may be written for a parameter that has it as its value.** -/
theorem parse_decimal (hAdmits : Admits slot.before i) :
    parse (slot.withLiteral (decimalText i)) params = .ok plan := by
  cases hAdmits with
  | joins _ hJoins => exact parse_decimal_joins hFind hValue hFits hEnd hParse hJoins
  | less start hBefore hWhole hNegative =>
    exact parse_decimal_less hFind hValue hFits hEnd hParse hBefore hWhole hNegative

end

/-- **Digits of a number that does not fit are an error**, whatever stands around them. -/
theorem parse_decimal_error {before after : String} (hLarge : ¬i.natAbs < 0x8000000000000000)
    (hAdmits : Admits before i) (hEnd : DigitsEnd after.toList) (params : Params) :
    parse (before ++ decimalText i ++ after) params = .error
      (.noToken (.integerTooLarge (String.ofList (decimal i.natAbs)))
        (digitsOffset i (byteWidth before.toList))) := by
  refine parse_of_error ?_ params
  have hText : (before ++ decimalText i ++ after).toList =
      before.toList ++ (signedDecimal i ++ after.toList) := by
    simp [toList_decimalText]
  rw [tokenize, hText]
  cases hAdmits with
  | joins hWhole hJoins =>
    obtain ⟨ts, hTokens⟩ := Option.isSome_iff_exists.1 hWhole
    obtain ⟨lexemes, hScan, -⟩ := tokens_eq_some_iff.1 hTokens
    rw [scan_append (hJoins.append (signedDecimal_ne_nil i) _) hScan, Nat.zero_add,
      scan_signedDecimal hLarge hEnd]
    rfl
  | less start hBefore hWhole hNegative =>
    obtain ⟨ts, hTokens⟩ := Option.isSome_iff_exists.1 hWhole
    obtain ⟨lexemes, hScan, -⟩ := tokens_eq_some_iff.1 hTokens
    have hArrow : before.toList ++ (signedDecimal i ++ after.toList) =
        start.toList ++ '<' :: '-' :: (decimal i.natAbs ++ after.toList) := by
      simp [hBefore, signedDecimal_of_neg hNegative]
    have hWidth : byteWidth before.toList = byteWidth start.toList + 1 := by
      rw [hBefore, String.toList_append, byteWidth_append]
      rfl
    rw [hArrow, scan_append (joins_less _ _) hScan, Nat.zero_add, scan_arrow,
      scan_decimal hLarge hEnd, digitsOffset, if_pos hNegative, hWidth]
    rfl

/-! ### Negation -/

theorem nonneg_of_readNumber {n : Nat} {j : Int64} (h : readNumber cs = .ok (.int j, n)) :
    0 ≤ j.toInt := by
  unfold readNumber at h
  dsimp only at h
  split at h
  · split at h
    · next hFits =>
      cases h
      rw [Int64.toInt_ofInt_of_le (by omega) (by omega)]
      exact Int.natCast_nonneg _
    · cases h
  · cases h

theorem nonneg_of_readToken {n : Nat} {j : Int64} (h : readToken c cs = .ok (.int j, n)) :
    0 ≤ j.toInt := by
  revert h
  fun_cases readToken c cs with
  | case6 _ _ _ hDigit =>
    intro h
    obtain ⟨⟨token, m⟩, hNumber, he⟩ := map_eq_ok h
    cases he
    exact nonneg_of_readNumber hNumber
  | case1 sign double hSign =>
    rintro ⟨⟩
    unfold readSign? at hSign
    split at hSign <;> cases hSign
  | _ => rintro ⟨⟩

theorem nonneg_of_scan {lexemes : List Lexeme} {j : Int64} (h : scan offset cs = .ok lexemes)
    (hMem : .int j ∈ lexemes.map (·.token)) : 0 ≤ j.toInt := by
  fun_induction scan offset cs generalizing lexemes with
  | case1 =>
    cases h
    exact absurd hMem List.not_mem_nil
  | case2 offset c cs hBlank ih => exact ih h hMem
  | case3 | case4 => cases h
  | case5 offset c cs hBlank token n hToken source rest hRest =>
    rename_i ih
    cases h
    rcases List.mem_cons.1 hMem with rfl | hMem
    · exact nonneg_of_readToken hToken
    · exact ih hRest hMem

theorem toInt_neg_of_nonneg {j : Int64} (h : 0 ≤ j.toInt) : (-j).toInt = -j.toInt := by
  have hHigh := j.toInt_lt
  rw [Int64.toInt_neg]
  exact Int.bmod_eq_of_le (by omega) (by omega)

/-! ### Numbers of 64 bits -/

theorem natAbs_lt_iff (j : Int64) : j.toInt.natAbs < 0x8000000000000000 ↔ j ≠ Int64.minValue := by
  have hLow := j.le_toInt
  have hHigh := j.toInt_lt
  rw [ne_eq, ← Int64.toInt_inj, Int64.toInt_minValue]
  omega

theorem not_natAbs_lt (h : i ≤ Int64.minValue.toInt ∨ Int64.maxValue.toInt < i) :
    ¬i.natAbs < 0x8000000000000000 := by
  rw [Int64.toInt_minValue, Int64.toInt_maxValue] at h
  omega

/-- **Every number of 64 bits but the least has a literal.**  Wherever a parameter with the number
as its value gives a plan, its decimal text gives the same plan exactly if it is not the least
number.  No literal overflows when it is negated, and the text of the least number or of one that is
out of range is an error at its digits. -/
theorem decimal_literal_iff (i : Int64) :
    (∀ (slot : Slot) (params : Params) (plan : Plan Value),
      params.find? slot.name = some (.integer i.toInt) → Admits slot.before i.toInt →
      DigitsEnd slot.after.toList → parse slot.withParameter params = .ok plan →
      (parse (slot.withLiteral (decimalText i.toInt)) params = .ok plan ↔ i ≠ Int64.minValue)) ∧
      Value.ofParameter (.integer i.toInt) = .int i ∧
      (∀ (text : String) (lexemes : List Lexeme), tokenize text = .ok lexemes →
        .int i ∈ lexemes.map (·.token) → (-i).toInt = -i.toInt) ∧
      ∀ (j : Int) (before after : String) (params : Params),
        j ≤ Int64.minValue.toInt ∨ Int64.maxValue.toInt < j → Admits before j →
        DigitsEnd after.toList →
        parse (before ++ decimalText j ++ after) params = .error
          (.noToken (.integerTooLarge (String.ofList (decimal j.natAbs)))
            (digitsOffset j (byteWidth before.toList))) := by
  refine ⟨fun slot params plan hFind hAdmits hEnd hParse => ?_, Value.ofParameter_toInt i,
    fun text lexemes hLexemes hMem => toInt_neg_of_nonneg (nonneg_of_scan hLexemes hMem),
    fun j before after params hRange hAdmits hEnd =>
      parse_decimal_error (not_natAbs_lt hRange) hAdmits hEnd params⟩
  have hValue : Value.ofParameter (.integer i.toInt) = .int (Int64.ofInt i.toInt) := by
    rw [Value.ofParameter_toInt, Int64.ofInt_toInt]
  rw [← natAbs_lt_iff]
  refine ⟨fun hPlan => ?_, fun hFits => parse_decimal hFind hValue hFits hEnd hParse hAdmits⟩
  by_contra hLarge
  have hError := parse_decimal_error hLarge hAdmits hEnd params
  rw [← Slot.withLiteral, hPlan] at hError
  cases hError

def sizeSlot : Slot := .atEnd "MATCH (n) WHERE n.size <" (by decide +kernel)

theorem decimal_literal_iff_arrow :
    (∃ plan, parse "MATCH (n) WHERE n.size <$x" (given (.integer (-5))) = .ok plan ∧
      parse "MATCH (n) WHERE n.size <-5" (given (.integer (-5))) = .ok plan) ∧
      (-(5 : Int64)).toInt = -(5 : Int64).toInt ∧
      parse "MATCH (n) WHERE n.size <-9223372036854775809" ∅ =
        .error (.noToken (.integerTooLarge "9223372036854775809") 25) := by
  obtain ⟨hLiteral, -, -, hRange⟩ := decimal_literal_iff (-5)
  have hEnd : DigitsEnd "".toList := ⟨by simp, rfl⟩
  have hAdmits : ∀ i < 0, Admits sizeSlot.before i := fun i hi =>
    .less "MATCH (n) WHERE n.size " rfl (by decide +kernel) hi
  refine ⟨?_, ?_, ?_⟩
  · have hSome : (parse sizeSlot.withParameter (given (.integer (-5)))).toOption.isSome = true := by
      decide +kernel
    cases hPlan : parse sizeSlot.withParameter (given (.integer (-5))) with
    | error e => rw [hPlan] at hSome; cases hSome
    | ok plan =>
      refine ⟨plan, hPlan, ?_⟩
      exact (hLiteral sizeSlot _ plan (find?_given _) (hAdmits _ (by decide)) hEnd hPlan).2
        (by decide)
  · have hTokens : tokens "5".toList = some [.int 5] := by decide +kernel
    obtain ⟨lexemes, hLexemes, hKinds⟩ := tokens_eq_some_iff.1 hTokens
    exact (decimal_literal_iff 5).2.2.1 "5" lexemes hLexemes (hKinds ▸ List.mem_singleton_self _)
  · have hLow : (-9223372036854775809 : Int) ≤ Int64.minValue.toInt := by
      rw [Int64.toInt_minValue]
      decide
    have hError := hRange (-9223372036854775809) sizeSlot.before "" ∅ (Or.inl hLow)
      (hAdmits _ (by decide)) hEnd
    exact hError

theorem apart_dash {e : Char} (h : e ≠ '<') : Apart e '-' where
  name _ := by decide
  point _ := by decide
  digit _ := by decide
  sign := by
    unfold readSign?
    split <;> first | rfl | contradiction | simp_all

/-- The least number is the value of a parameter, but not of the literal that is written like it. -/
theorem decimal_literal_least :
    (parse "MATCH (n) WHERE n.x = $x" (given (.integer Int64.minValue.toInt))).toOption.isSome =
        true ∧
      Value.ofParameter (.integer Int64.minValue.toInt) = .int Int64.minValue ∧
      parse "MATCH (n) WHERE n.x = -9223372036854775808" ∅ =
        .error (.noToken (.integerTooLarge "9223372036854775808") 23) := by
  refine ⟨by decide +kernel, Value.ofParameter_toInt _, ?_⟩
  have hJoins : Joins "MATCH (n) WHERE n.x = ".toList (signedDecimal (-9223372036854775808)) := by
    have hLast : "MATCH (n) WHERE n.x = ".toList.getLast? = some ' ' := by decide +kernel
    rw [signedDecimal_of_neg (by decide), Joins, hLast]
    rintro _ ⟨⟩ _ ⟨⟩
    exact apart_dash (by decide)
  have hAdmits : Admits "MATCH (n) WHERE n.x = " (-9223372036854775808) :=
    .joins (by decide +kernel) hJoins
  have hEnd : DigitsEnd "".toList := ⟨by simp, rfl⟩
  exact parse_decimal_error (by decide) hAdmits hEnd ∅

end CodeGraph.Query
