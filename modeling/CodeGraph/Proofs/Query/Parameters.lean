import CodeGraph.Proofs.Query.Parsing

/-!
# Parameters do not change what a query asks

The values of parameters are data: whatever they hold, no token of a text is read in another way
because of them.  With the same names given, a text has an error with all values, and the same one,
or a plan with all values; the plans are one template, which the tokens of the text decide on, with
the values put in where a parameter is written (`parse_fills`).  Names that the text does not hold
do not matter at all.
-/

namespace CodeGraph.Query

open CodeGraph.Query.Parser Grammar

variable {text : String} {a b params : Params} {lexemes : List Lexeme}

/-- What stands in the place of one value in two plans: one literal, or the values that the
parameter which is written there has in both. -/
inductive Exchanged (written : List Token) (a b : Params) : Value → Value → Prop
  | literal (v : Value) : Exchanged written a b v v
  | parameter {name : String} {inA inB : Json} (hWritten : .param name ∈ written)
      (hA : a.find? name = some inA) (hB : b.find? name = some inB) :
      Exchanged written a b (.ofParameter inA) (.ofParameter inB)

theorem agrees_exchanged (hNames : ∀ name, a.contains name = b.contains name) (ts : Tokens) :
    Agrees (Exchanged (kinds ts) a b) (.ofParams a) (.ofParams b) ts where
  literal v := .literal v
  parameter name hName := by
    have hBoth : (a.find? name).isSome = (b.find? name).isSome := by
      rw [← Fields.contains_eq_isSome, hNames, Fields.contains_eq_isSome]
    rw [Meaning.ofParams, Meaning.ofParams]
    dsimp only
    cases hA : a.find? name with
    | none =>
      have hB : b.find? name = none := by
        rw [hA] at hBoth
        simpa using hBoth.symm
      rw [hB]
      exact .none
    | some inA =>
      rw [hA] at hBoth
      obtain ⟨inB, hB⟩ := Option.isSome_iff_exists.1 hBoth.symm
      rw [hB]
      exact .some (.parameter hName hA hB)

theorem agrees_eq (hValues : ∀ name, .param name ∈ kinds lexemes → a.find? name = b.find? name) :
    Agrees (· = ·) (.ofParams a) (.ofParams b) lexemes where
  literal v := rfl
  parameter name hName := by
    rw [Meaning.ofParams, Meaning.ofParams]
    dsimp only
    rw [hValues name hName]
    cases (b.find? name).map Value.ofParameter with
    | none => exact .none
    | some v => exact .some rfl

theorem query_eq_query (hValues : ∀ name, .param name ∈ kinds lexemes →
    a.find? name = b.find? name) : query (.ofParams a) lexemes = query (.ofParams b) lexemes := by
  have hSame := query_alike (agrees_eq hValues)
  cases hPlan : query (.ofParams a) lexemes with
  | error e =>
    rw [hPlan] at hSame
    exact hSame.eq_error.symm
  | ok planA =>
    rw [hPlan] at hSame
    obtain ⟨planB, hPlanB, hAlike⟩ := hSame.exists_ok
    rw [hPlanB, hAlike.eq]

def SameIn (text : String) (a b : Params) : Prop :=
  ∀ lexemes, tokenize text = .ok lexemes → ∀ name, .param name ∈ kinds lexemes →
    a.find? name = b.find? name

theorem parse_of_error {e : ParseError} (h : tokenize text = .error e) (params : Params) :
    parse text params = .error e := by
  rw [parse, h]
  rfl

theorem parse_of_ok (h : tokenize text = .ok lexemes) (params : Params) :
    parse text params = query (.ofParams params) lexemes :=
  bind_of_ok h _

theorem parse_eq_parse (h : SameIn text a b) : parse text a = parse text b := by
  cases hLexemes : tokenize text with
  | error e => rw [parse_of_error hLexemes, parse_of_error hLexemes]
  | ok lexemes =>
    rw [parse_of_ok hLexemes, parse_of_ok hLexemes, query_eq_query (h lexemes hLexemes)]

/-- **Parameters only fill in values.**  With two maps that have the same names, a text has the same
error, or two plans that come of one template of the text: each is the template with its own values
in the place of the parameters that are written, so one is the other with these values exchanged.
Values under names that are not in the text change nothing. -/
theorem parse_fills (text : String) (a b : Params) :
    ((∀ name, a.contains name = b.contains name) →
      (∃ e, parse text a = .error e ∧ parse text b = .error e) ∨
        ∃ lexemes template planA planB, tokenize text = .ok lexemes ∧
          IsQuery a.contains (kinds lexemes) template ∧
          parse text a = .ok planA ∧ parse text b = .ok planB ∧
          Plan.Alike (Fills (kinds lexemes) a) template planA ∧
          Plan.Alike (Fills (kinds lexemes) b) template planB ∧
          Plan.Alike (Exchanged (kinds lexemes) a b) planA planB) ∧
      ((∀ lexemes, tokenize text = .ok lexemes → ∀ name, .param name ∈ kinds lexemes →
        a.find? name = b.find? name) → parse text a = parse text b) := by
  refine ⟨fun hNames => ?_, parse_eq_parse⟩
  cases hLexemes : tokenize text with
  | error e => exact Or.inl ⟨e, parse_of_error hLexemes a, parse_of_error hLexemes b⟩
  | ok lexemes =>
    rw [parse_of_ok hLexemes, parse_of_ok hLexemes]
    have hA := query_alike (agrees_template a (fun _ => rfl) lexemes)
    have hB := query_alike (agrees_template b hNames lexemes)
    have hAB := query_alike (agrees_exchanged hNames lexemes)
    cases hTemplate : query (.template a.contains) lexemes with
    | error e =>
      rw [hTemplate] at hA hB
      exact Or.inl ⟨e, hA.eq_error, hB.eq_error⟩
    | ok template =>
      rw [hTemplate] at hA hB
      obtain ⟨planA, hPlanA, hFillsA⟩ := hA.exists_ok
      obtain ⟨planB, hPlanB, hFillsB⟩ := hB.exists_ok
      rw [hPlanA, hPlanB] at hAB
      obtain ⟨_, hSameB, hExchanged⟩ := hAB.exists_ok
      obtain rfl := Except.ok.inj hSameB
      exact Or.inr ⟨lexemes, template, planA, planB, rfl, query_sound hTemplate, hPlanA, hPlanB,
        hFillsA, hFillsB, hExchanged⟩

def given (json : Json) : Params := (∅ : Params).insert "x" json

theorem find?_given (json : Json) : (given json).find? "x" = some json := by
  rw [given, Fields.find?_insert, if_pos rfl]

theorem contains_given (first second : Json) (name : String) :
    (given first).contains name = (given second).contains name := by
  rw [Fields.contains_eq_isSome, Fields.contains_eq_isSome, given, given, Fields.find?_insert,
    Fields.find?_insert]
  split <;> rfl

/-- A text as the value of a parameter stays a text, also one that reads like a part of a query. -/
theorem parse_fills_given :
    (∃ planA planB written, parse "MATCH (n \x7bname: $x\x7d)" (given .null) = .ok planA ∧
      parse "MATCH (n \x7bname: $x\x7d)" (given (.string "1\x7d) SKIP 1")) = .ok planB ∧
      Plan.Alike (Exchanged written (given .null) (given (.string "1\x7d) SKIP 1"))) planA planB) ∧
      parse "MATCH (n)" (given .null) = parse "MATCH (n)" ∅ := by
  constructor
  · have hSome : (parse "MATCH (n \x7bname: $x\x7d)" (given .null)).toOption.isSome = true := by
      decide +kernel
    rcases (parse_fills "MATCH (n \x7bname: $x\x7d)" (given .null)
        (given (.string "1\x7d) SKIP 1"))).1 (contains_given _ _) with
      ⟨e, hError, _⟩ | ⟨lexemes, _, planA, planB, _, _, hA, hB, _, _, hExchanged⟩
    · rw [hError] at hSome
      cases hSome
    · exact ⟨planA, planB, _, hA, hB, hExchanged⟩
  · refine (parse_fills "MATCH (n)" (given .null) ∅).2 fun lexemes hLexemes name hName => ?_
    have hTokens : (tokenize "MATCH (n)").toOption.map kinds =
        some [.ident "MATCH", .leftParen, .ident "n", .rightParen] := by decide +kernel
    rw [hLexemes] at hTokens
    rw [show kinds lexemes = _ from Option.some.inj hTokens] at hName
    simp at hName

end CodeGraph.Query
