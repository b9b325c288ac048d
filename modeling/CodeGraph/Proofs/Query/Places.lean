import CodeGraph.Proofs.Query.Parsing
import CodeGraph.Proofs.Query.Tokens

/-!
# Parsing does not look at places

The grammar speaks of tokens and not of where they stand, so texts that have the same tokens have
the same plan or both none (`agree_parse`).
-/

namespace CodeGraph.Query

variable {text text' : String} {params : Params}

/-- Two results that are the same, or two errors. -/
inductive Agree {ε α : Type} : Except ε α → Except ε α → Prop
  | ok {a b : α} (h : a = b) : Agree (.ok a) (.ok b)
  | error (e e' : ε) : Agree (.error e) (.error e')

theorem Agree.toOption_eq {ε α : Type} {x y : Except ε α} (h : Agree x y) :
    x.toOption = y.toOption := by
  cases h with
  | ok h => rw [h]
  | error e e' => rfl

theorem agree_of_ok_iff {ε α : Type} {x y : Except ε α} (h : ∀ a, x = .ok a ↔ y = .ok a) :
    Agree x y := by
  cases x with
  | ok a =>
    rw [(h a).1 rfl]
    exact .ok rfl
  | error e =>
    cases y with
    | ok a => cases (h a).2 rfl
    | error e' => exact .error e e'

theorem parse_eq_ok_iff_tokens {plan : Plan Value} : parse text params = .ok plan ↔
    ∃ ts template, tokens text.toList = some ts ∧ Grammar.IsQuery params.contains ts template ∧
      plan = template.map (·.resolve params) := by
  constructor
  · intro h
    obtain ⟨lexemes, template, hLexemes, hQuery, hPlan⟩ := parse_sound h
    exact ⟨_, template, tokens_eq_some_iff.2 ⟨lexemes, hLexemes, rfl⟩, hQuery, hPlan⟩
  · rintro ⟨ts, template, hTokens, hQuery, rfl⟩
    obtain ⟨lexemes, hLexemes, rfl⟩ := tokens_eq_some_iff.1 hTokens
    exact parse_complete hLexemes hQuery

theorem parse_of_tokens {plan : Plan Value} (h : tokens text'.toList = tokens text.toList)
    (hParse : parse text params = .ok plan) : parse text' params = .ok plan := by
  rw [parse_eq_ok_iff_tokens] at hParse ⊢
  rwa [h]

/-- **The tokens of a text without their places decide on its plan.** -/
theorem agree_parse (h : tokens text'.toList = tokens text.toList) (params : Params) :
    Agree (parse text params) (parse text' params) :=
  agree_of_ok_iff fun _ => ⟨parse_of_tokens h, parse_of_tokens h.symm⟩

end CodeGraph.Query
