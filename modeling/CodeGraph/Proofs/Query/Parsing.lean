import CodeGraph.Proofs.Query.Parallel

/-!
# The parser accepts its grammar

Conditions, results, sort keys and pages are read as patterns are, and the parts of a query one
after the other, as after each part comes the keyword of a later one (`Opens`).  So a text has a
plan exactly if its tokens are a query with that plan, and tokens are a query with one plan at most
(`parse_eq_ok_iff`).
-/

namespace CodeGraph.Query

namespace Parser

open Grammar

variable {ts us : Tokens} {t : Token} {ps qs : List Token} {bound : String → Bool}

/-! ### Conditions -/

theorem acceptKeyword?_eq_none {keyword other : String} (ht : t.isKeyword keyword = true)
    (hOther : (Token.ident keyword).isKeyword other = false) (hts : kinds ts = t :: ps) :
    acceptKeyword? other ts = none := by
  refine (accepts_acceptKeyword? other).eq_none (hts ▸ clear_cons ?_)
  rw [isKeyword_eq ht, hOther]

theorem comparison_eq_named {name : String} (h : kinds ts = .ident name :: ps) :
    comparison ts = namedComparison ts := by
  obtain ⟨offset, source, rest, rfl, _⟩ := exists_of_kinds_eq_cons h
  rfl

theorem comparison_complete {comparison : Comparison} (h : IsOperator ps comparison)
    (hts : kinds ts = ps ++ qs) :
    ∃ us, Parser.comparison ts = .ok (comparison, us) ∧ kinds us = qs := by
  cases h with
  | eq | ne | gt | lt | ge | le =>
    obtain ⟨offset, source, rest, rfl, hRest⟩ := exists_of_kinds_eq_cons hts
    exact ⟨rest, rfl, hRest⟩
  | contains ht =>
    obtain ⟨us, hAccept, hus⟩ := (accepts_acceptKeyword? _).complete ht hts
    obtain ⟨name, rfl⟩ := isName_of_isKeyword ht
    exact ⟨us, by simp only [comparison_eq_named hts, namedComparison, hAccept], hus⟩
  | regex ht =>
    have hContains : acceptKeyword? "CONTAINS" ts = none :=
      acceptKeyword?_eq_none ht (by decide) hts
    obtain ⟨us, hAccept, hus⟩ := (accepts_acceptKeyword? _).complete ht hts
    obtain ⟨name, rfl⟩ := isName_of_isKeyword ht
    exact ⟨us, by simp only [comparison_eq_named hts, namedComparison, hContains, hAccept], hus⟩
  | startsWith ht hu =>
    have hContains : acceptKeyword? "CONTAINS" ts = none :=
      acceptKeyword?_eq_none ht (by decide) hts
    have hRegex : acceptKeyword? "REGEX" ts = none := acceptKeyword?_eq_none ht (by decide) hts
    obtain ⟨ts₁, hAccept, hts₁⟩ := (accepts_acceptKeyword? _).complete ht hts
    obtain ⟨us, hWith, hus⟩ := expectKeyword_complete hu hts₁
    obtain ⟨name, rfl⟩ := isName_of_isKeyword ht
    refine ⟨us, ?_, hus⟩
    simp only [comparison_eq_named hts, namedComparison, hContains, hRegex, hAccept, hWith]
    rfl
  | endsWith ht hu =>
    have hContains : acceptKeyword? "CONTAINS" ts = none :=
      acceptKeyword?_eq_none ht (by decide) hts
    have hRegex : acceptKeyword? "REGEX" ts = none := acceptKeyword?_eq_none ht (by decide) hts
    have hStarts : acceptKeyword? "STARTS" ts = none :=
      acceptKeyword?_eq_none ht (by decide) hts
    obtain ⟨ts₁, hAccept, hts₁⟩ := (accepts_acceptKeyword? _).complete ht hts
    obtain ⟨us, hWith, hus⟩ := expectKeyword_complete hu hts₁
    obtain ⟨name, rfl⟩ := isName_of_isKeyword ht
    refine ⟨us, ?_, hus⟩
    simp only [comparison_eq_named hts, namedComparison, hContains, hRegex, hStarts, hAccept,
      hWith]
    rfl

theorem comparison_arrow (h : kinds ts = .leftArrow :: qs) :
    ∃ us, comparison ts = .ok (.lt, us) ∧ kinds us = .dash :: qs := by
  obtain ⟨offset, source, rest, rfl, hRest⟩ := exists_of_kinds_eq_cons h
  exact ⟨_, rfl, by rw [← hRest]; rfl⟩

theorem clear_operator {comparison : Comparison} (h : IsOperator ps comparison) :
    Clear (· == .dot) (ps ++ qs) := by
  cases h with
  | eq | ne | gt | lt | ge | le => exact clear_cons rfl
  | contains ht | regex ht | startsWith ht | endsWith ht =>
    exact clear_cons (ne_of_isKeyword ht rfl)

theorem reads_condition (bound : String → Bool) :
    Reads (condition (.template bound)) (IsCondition bound) never where
  sound := by
    intro ts us x h
    obtain ⟨⟨field, ts₁⟩, hField, h⟩ := bind_eq_ok h
    obtain ⟨⟨comparison, ts₂⟩, hOperator, h⟩ := bind_eq_ok h
    obtain ⟨⟨operand, ts₃⟩, hValue, h⟩ := bind_eq_ok h
    cases h
    obtain ⟨ps, hps, hts⟩ := reads_path.sound hField
    obtain ⟨rs, hrs, hts₂⟩ := value_sound hValue
    rcases comparison_sound hOperator with ⟨qs, hqs, hts₁⟩ | ⟨rfl, qs, hts₁, hArrow⟩
    · refine ⟨_, .mk hps hqs hrs, ?_⟩
      rw [hts, hts₁, hts₂, List.append_assoc, List.append_assoc]
    · -- the dash that is left of the arrow belongs to the value
      rw [hArrow] at hts₂
      cases rs with
      | nil => exact absurd rfl (value_ne_nil hrs)
      | cons r rs =>
        obtain ⟨rfl, rfl⟩ := List.cons.inj hts₂
        refine ⟨_, .arrow hps hrs, ?_⟩
        rw [hts, hts₁, List.append_assoc]
        rfl
  complete := by
    intro ts ps qs x h _ hts
    cases h with
    | mk hField hOperator hValue =>
      rw [List.append_assoc, List.append_assoc] at hts
      obtain ⟨ts₁, hFound, hts₁⟩ := reads_path.complete hField (clear_operator hOperator) hts
      obtain ⟨ts₂, hFound', hts₂⟩ := comparison_complete hOperator hts₁
      obtain ⟨us, hFound'', hus⟩ := (reads_value bound).complete hValue (clear_never _) hts₂
      exact ⟨us, (bind_of_ok hFound _).trans
        ((bind_of_ok hFound' _).trans (bind_of_ok hFound'' _)), hus⟩
    | arrow hField hValue =>
      rw [List.append_assoc] at hts
      obtain ⟨ts₁, hFound, hts₁⟩ := reads_path.complete hField (clear_cons rfl) hts
      obtain ⟨ts₂, hFound', hts₂⟩ := comparison_arrow hts₁
      obtain ⟨us, hFound'', hus⟩ := (reads_value bound).complete hValue (clear_never _) hts₂
      exact ⟨us, (bind_of_ok hFound _).trans
        ((bind_of_ok hFound' _).trans (bind_of_ok hFound'' _)), hus⟩

theorem reads_conditions (bound : String → Bool) (keyword : String) :
    Reads (separated (acceptKeyword? keyword) (condition (.template bound)))
      (Separated (Token.isKeyword keyword) (IsCondition bound)) (Token.isKeyword keyword) :=
  (reads_separated (accepts_acceptKeyword? keyword) (reads_condition bound) fun _ _ => rfl).mono
    fun _ ht => ht

def joins (t : Token) : Bool := t.isKeyword "AND" || t.isKeyword "OR"

theorem reads_clause (bound : String → Bool) :
    Reads (clause (.template bound)) (IsClause bound) joins where
  sound := by
    intro ts us x h
    obtain ⟨⟨conditions, ts₁⟩, hAll, h⟩ := bind_eq_ok h
    obtain ⟨ps, hps, hts⟩ := (reads_conditions bound "AND").sound hAll
    dsimp only at h
    split at h
    · cases h
      exact ⟨ps, .all hps, hts⟩
    · next ts₂ hOr =>
      obtain ⟨t, ht, hts₁⟩ := (accepts_acceptKeyword? "OR").sound hOr
      split at h
      · cases h
      · next hOne =>
        obtain ⟨⟨others, ts₃⟩, hAny, h⟩ := bind_eq_ok h
        obtain ⟨qs, hqs, hts₂⟩ := (reads_conditions bound "OR").sound hAny
        dsimp only at h
        split at h
        · cases h
        · cases h
          -- before the first `OR` there is one condition
          obtain @⟨ps, rs, first, rest, hFirst, hRest⟩ := hps
          cases hRest with
          | cons => exact absurd (by simp) hOne
          | nil =>
            obtain ⟨hSecond, hOthers⟩ := hqs
            refine ⟨_, .any (.mk hFirst (.cons (.mk ht hSecond) hOthers)) (by simp), ?_⟩
            rw [hts, hts₁, hts₂]
            simp
  complete := by
    intro ts ps qs x h hClear hts
    have hAnd : Clear (Token.isKeyword "AND") qs := hClear.mono fun t ht => by simp [joins, ht]
    have hOr : Clear (Token.isKeyword "OR") qs := hClear.mono fun t ht => by simp [joins, ht]
    cases h with
    | all hAll =>
      obtain ⟨us, hFound, hus⟩ := (reads_conditions bound "AND").complete hAll hAnd hts
      refine ⟨us, (bind_of_ok hFound _).trans ?_, hus⟩
      dsimp only
      rw [(accepts_acceptKeyword? "OR").eq_none (hus ▸ hOr)]
    | any hAny hSeveral =>
      obtain @⟨ps, rs, first, rest, hFirst, hRest⟩ := hAny
      cases hRest with
      | nil => exact absurd hSeveral (by simp)
      | @cons ps' rs' second rest hSecond hOthers =>
        obtain @⟨t, ps', second, ht, hSecond⟩ := hSecond
        simp only [List.append_assoc, List.cons_append] at hts
        obtain ⟨ts₁, hFound, hts₁⟩ := (reads_conditions bound "AND").complete (.mk hFirst .nil)
          (clear_cons (by rw [isKeyword_eq ht]; decide)) (by rw [hts, List.append_nil])
        obtain ⟨ts₂, hAccept, hts₂⟩ := (accepts_acceptKeyword? "OR").complete ht hts₁
        obtain ⟨us, hFound', hus⟩ := (reads_conditions bound "OR").complete
          (.mk hSecond hOthers) hOr (by rw [hts₂, List.append_assoc])
        refine ⟨us, (bind_of_ok hFound _).trans ?_, hus⟩
        dsimp only
        rw [hAccept]
        refine (bind_of_ok hFound' _).trans ?_
        dsimp only
        rw [(accepts_acceptKeyword? "AND").eq_none (hus ▸ hAnd)]
        rfl

/-! ### Results -/

theorem reads_expression : Reads expression IsExpression (· == .dot) where
  sound := by
    intro ts us text h
    unfold expression at h
    split at h
    · next ts₁ hStar =>
      cases h
      have hts := accept?_sound hStar
      exact ⟨[.star], .star, hts⟩
    · obtain ⟨ps, hps, hts⟩ := reads_path.sound h
      exact ⟨ps, .path hps, hts⟩
  complete := by
    intro ts ps qs text h hClear hts
    cases h with
    | star =>
      obtain ⟨us, hStar, hus⟩ := accept?_complete hts
      exact ⟨us, by rw [expression, hStar], hus⟩
    | path hPath =>
      obtain ⟨name, rest, rfl, _⟩ := path_begins hPath
      have hNone : accept? .star ts = none :=
        (accepts_accept? .star).eq_none (hts ▸ clear_cons rfl)
      obtain ⟨us, hFound, hus⟩ := reads_path.complete hPath hClear hts
      exact ⟨us, by rw [expression, hNone, hFound], hus⟩

/-- An aggregate and its parenthesis decide at the first two tokens; all else is an expression. -/
theorem returned_cases (ts : Tokens) :
    (∃ name rest, kinds ts = .ident name :: .leftParen :: rest) ∨
      returned ts = (expression ts).map fun found => ((found.1, none), found.2) := by
  cases ts with
  | nil => exact Or.inr rfl
  | cons t ts =>
    obtain ⟨token, offset, source⟩ := t
    cases token with
    | ident name =>
      cases ts with
      | nil => exact Or.inr rfl
      | cons t ts =>
        obtain ⟨token, offset, source⟩ := t
        cases token with
        | leftParen => exact Or.inl ⟨name, _, rfl⟩
        | _ => exact Or.inr rfl
    | _ => exact Or.inr rfl

def goesOn (t : Token) : Bool := t == .dot || t == .leftParen

theorem reads_returned : Reads returned IsReturned goesOn where
  sound := by
    intro ts us x h
    rcases returned_cases ts with ⟨name, rest, hts⟩ | hPlain
    · obtain ⟨offset, source, ts₁, rfl, hts₁⟩ := exists_of_kinds_eq_cons hts
      obtain ⟨offset', source', ts₂, rfl, hts₂⟩ := exists_of_kinds_eq_cons hts₁
      simp only [returned] at h
      split at h
      · cases h
      · next aggregate hName =>
        obtain ⟨⟨text, ts₃⟩, hText, h⟩ := bind_eq_ok h
        obtain ⟨ts₄, hRight, h⟩ := bind_eq_ok h
        cases h
        obtain ⟨ps, hps, hts₃⟩ := reads_expression.sound hText
        refine ⟨_, .aggregate hName hps, ?_⟩
        rw [hts, ← hts₂, hts₃, expect_sound hRight]
        simp
    · rw [hPlain] at h
      obtain ⟨⟨text, us'⟩, hText, h⟩ := map_eq_ok h
      cases h
      obtain ⟨ps, hps, hts⟩ := reads_expression.sound hText
      exact ⟨ps, .plain hps, hts⟩
  complete := by
    intro ts ps qs x h hClear hts
    cases h with
    | aggregate hName hText =>
      simp only [List.cons_append, List.append_assoc] at hts
      obtain ⟨offset, source, ts₁, rfl, hts₁⟩ := exists_of_kinds_eq_cons hts
      obtain ⟨offset', source', ts₂, rfl, hts₂⟩ := exists_of_kinds_eq_cons hts₁
      obtain ⟨ts₃, hFound, hts₃⟩ := reads_expression.complete hText (clear_cons rfl) hts₂
      obtain ⟨us, hRight, hus⟩ := expect_complete "')'" hts₃
      refine ⟨us, ?_, hus⟩
      simp only [returned, hName]
      exact (bind_of_ok hFound _).trans (bind_of_ok hRight _)
    | plain hText =>
      have hDot : Clear (· == .dot) qs := hClear.mono fun t ht => by simp_all [goesOn]
      obtain ⟨us, hFound, hus⟩ := reads_expression.complete hText hDot hts
      refine ⟨us, ?_, hus⟩
      rcases returned_cases ts with ⟨name, rest, hParen⟩ | hPlain
      · -- a path of one name would have to be followed by the parenthesis
        rw [hts] at hParen
        cases hText with
        | star => cases hParen
        | path hPath =>
          obtain ⟨first, more, rfl, rfl | ⟨more, rfl⟩⟩ := path_begins hPath
          · obtain rfl : qs = .leftParen :: rest := (List.cons.inj hParen).2
            have hNot : goesOn .leftParen = false := hClear .leftParen rfl
            cases hNot
          · cases hParen
      · rw [hPlain, hFound]
        rfl

def itemGoesOn (t : Token) : Bool := goesOn t || t.isKeyword "AS"

theorem goesOn_of_isKeyword {keyword : String} (ht : t.isKeyword keyword = true) :
    goesOn t = false := by
  rw [goesOn, ne_of_isKeyword ht rfl, ne_of_isKeyword ht rfl, Bool.or_false]

theorem reads_returnItem : Reads returnItem IsItem itemGoesOn where
  sound := by
    intro ts us x h
    obtain ⟨⟨⟨text, aggregate⟩, ts₁⟩, hReturned, h⟩ := bind_eq_ok h
    obtain ⟨⟨columnName, ts₂⟩, hName, h⟩ := bind_eq_ok h
    cases h
    obtain ⟨ps, hps, hts⟩ := reads_returned.sound hReturned
    obtain ⟨qs, hqs, hts₁⟩ :=
      (reads_led (accepts_acceptKeyword? "AS") (reads_expectIdent _)).sound hName
    exact ⟨ps ++ qs, .mk hps hqs, by rw [hts, hts₁, List.append_assoc]⟩
  complete := by
    rintro ts _ qs _ ⟨hReturned, hName⟩ hClear hts
    rw [List.append_assoc] at hts
    have hOn : Clear goesOn qs := hClear.mono fun t ht => by simp [itemGoesOn, ht]
    obtain ⟨ts₁, hFound, hts₁⟩ := reads_returned.complete hReturned
      (clear_opt (fun t ht => goesOn_of_isKeyword ht) hName hOn) hts
    obtain ⟨us, hFound', hus⟩ :=
      (reads_led (accepts_acceptKeyword? "AS") (reads_expectIdent "alias")).complete hName
        (hClear.mono fun t ht => by simp_all [itemGoesOn, never]) hts₁
    exact ⟨us, (bind_of_ok hFound _).trans (bind_of_ok hFound' _), hus⟩

/-! ### Order and page -/

def keyGoesOn (t : Token) : Bool := t == .dot || t.isKeyword "ASC" || t.isKeyword "DESC"

theorem reads_sortKey : Reads sortKey IsSortKey keyGoesOn where
  sound := by
    intro ts us x h
    obtain ⟨⟨text, ts₁⟩, hPath, h⟩ := bind_eq_ok h
    obtain ⟨ps, hps, hts⟩ := reads_path.sound hPath
    dsimp only at h
    split at h
    · next ts₂ hDesc =>
      cases h
      obtain ⟨t, ht, hts₁⟩ := (accepts_acceptKeyword? "DESC").sound hDesc
      exact ⟨ps ++ [t], .mk hps (.desc ht), by rw [hts, hts₁, List.append_assoc]; rfl⟩
    · cases hAsc : acceptKeyword? "ASC" ts₁ with
      | none =>
        rw [hAsc] at h
        cases h
        exact ⟨ps ++ [], .mk hps .absent, by rw [hts, List.append_nil]; rfl⟩
      | some ts₂ =>
        rw [hAsc] at h
        cases h
        obtain ⟨t, ht, hts₁⟩ := (accepts_acceptKeyword? "ASC").sound hAsc
        exact ⟨ps ++ [t], .mk hps (.asc ht), by rw [hts, hts₁, List.append_assoc]; rfl⟩
  complete := by
    intro ts _ qs _ h hClear hts
    obtain @⟨ps, rs, text, direction, hPath, hDirection⟩ := h
    rw [List.append_assoc] at hts
    have hDot : Clear (· == .dot) (rs ++ qs) := by
      cases hDirection with
      | absent => exact hClear.mono fun t ht => by simp_all [keyGoesOn]
      | asc ht | desc ht => exact clear_cons (ne_of_isKeyword ht rfl)
    obtain ⟨ts₁, hFound, hts₁⟩ := reads_path.complete hPath hDot hts
    cases hDirection with
    | absent =>
      have hDesc : acceptKeyword? "DESC" ts₁ = none := (accepts_acceptKeyword? "DESC").eq_none
        (hts₁ ▸ hClear.mono fun t ht => by simp [keyGoesOn, ht])
      have hAsc : acceptKeyword? "ASC" ts₁ = none := (accepts_acceptKeyword? "ASC").eq_none
        (hts₁ ▸ hClear.mono fun t ht => by simp [keyGoesOn, ht])
      refine ⟨ts₁, (bind_of_ok hFound _).trans ?_, hts₁⟩
      dsimp only
      rw [hDesc, hAsc]
      rfl
    | asc ht =>
      have hDesc : acceptKeyword? "DESC" ts₁ = none :=
        acceptKeyword?_eq_none ht (by decide) hts₁
      obtain ⟨us, hAsc, hus⟩ := (accepts_acceptKeyword? "ASC").complete ht hts₁
      refine ⟨us, (bind_of_ok hFound _).trans ?_, hus⟩
      dsimp only
      rw [hDesc, hAsc]
      rfl
    | desc ht =>
      obtain ⟨us, hDesc, hus⟩ := (accepts_acceptKeyword? "DESC").complete ht hts₁
      refine ⟨us, (bind_of_ok hFound _).trans ?_, hus⟩
      dsimp only
      rw [hDesc]

theorem keyGoesOn_of_comma (t : Token) (ht : (t == .comma) = true) : keyGoesOn t = false := by
  rw [beq_iff_eq.1 ht]
  rfl

theorem reads_count (keyword : String) : Reads (count keyword) IsCount never where
  sound := by
    intro ts us n h
    unfold count at h
    split at h
    · split at h
      · next hCount =>
        cases h
        exact ⟨_, .mk hCount, rfl⟩
      · cases h
    · cases h
  complete := by
    rintro ts _ qs _ ⟨hCount⟩ _ hts
    obtain ⟨offset, source, rest, rfl, hRest⟩ := exists_of_kinds_eq_cons hts
    exact ⟨rest, by simp only [count, hCount, if_true], hRest⟩

theorem reads_optionalCount (keyword : String) :
    Reads (optional keyword (count keyword)) (Opt (Led (Token.isKeyword keyword) IsCount))
      (Token.isKeyword keyword) :=
  (reads_led (accepts_acceptKeyword? keyword) (reads_count keyword)).mono fun _ ht => ht

def pageGoesOn (t : Token) : Bool := t.isKeyword "SKIP" || t.isKeyword "LIMIT"

theorem reads_page : Reads page IsPage pageGoesOn where
  sound := by
    intro ts us x h
    obtain ⟨⟨skip, ts₁⟩, hSkip, h⟩ := bind_eq_ok h
    obtain ⟨⟨limit, ts₂⟩, hLimit, h⟩ := bind_eq_ok h
    obtain ⟨ps, hps, hts⟩ := (reads_optionalCount "SKIP").sound hSkip
    obtain ⟨qs, hqs, hts₁⟩ := (reads_optionalCount "LIMIT").sound hLimit
    have hFirst : kinds ts = (ps ++ qs) ++ kinds ts₂ := by
      rw [hts, hts₁, List.append_assoc]
    cases skip with
    | some skip =>
      cases h
      exact ⟨ps ++ qs, .skipFirst hps hqs, hFirst⟩
    | none =>
      cases limit with
      | none =>
        cases h
        exact ⟨ps ++ qs, .skipFirst hps hqs, hFirst⟩
      | some limit =>
        obtain ⟨⟨skip, ts₃⟩, hSkip', h⟩ := bind_eq_ok h
        cases h
        obtain ⟨rs, hrs, hts₂⟩ := (reads_optionalCount "SKIP").sound hSkip'
        cases hps
        cases hrs with
        | absent => exact ⟨_, .skipFirst .absent hqs, by rw [hFirst, hts₂]; rfl⟩
        | present hLed =>
          cases hqs with
          | present hLed' =>
            exact ⟨_, .limitFirst hLed' hLed, by rw [hFirst, hts₂]; simp⟩
  complete := by
    intro ts ps qs x h hClear hts
    have hSkipEnd : Clear (Token.isKeyword "SKIP") qs :=
      hClear.mono fun t ht => by simp [pageGoesOn, ht]
    have hLimitEnd : Clear (Token.isKeyword "LIMIT") qs :=
      hClear.mono fun t ht => by simp [pageGoesOn, ht]
    have hLimitSkip : ∀ t : Token, t.isKeyword "LIMIT" = true → t.isKeyword "SKIP" = false := by
      intro t ht
      rw [isKeyword_eq ht]
      decide
    have hSkipLimit : ∀ t : Token, t.isKeyword "SKIP" = true → t.isKeyword "LIMIT" = false := by
      intro t ht
      rw [isKeyword_eq ht]
      decide
    cases h with
    | @skipFirst ps rs skip limit hSkip hLimit =>
      rw [List.append_assoc] at hts
      obtain ⟨ts₁, hFound, hts₁⟩ := (reads_optionalCount "SKIP").complete hSkip
        (clear_opt hLimitSkip hLimit hSkipEnd) hts
      obtain ⟨us, hFound', hus⟩ := (reads_optionalCount "LIMIT").complete hLimit hLimitEnd hts₁
      cases skip with
      | some skip => exact ⟨us, (bind_of_ok hFound _).trans (bind_of_ok hFound' _), hus⟩
      | none =>
        cases limit with
        | none => exact ⟨us, (bind_of_ok hFound _).trans (bind_of_ok hFound' _), hus⟩
        | some limit =>
          obtain ⟨vs, hFound'', hvs⟩ :=
            (reads_optionalCount "SKIP").complete .absent hSkipEnd (hus : kinds us = [] ++ qs)
          exact ⟨vs, (bind_of_ok hFound _).trans
            ((bind_of_ok hFound' _).trans (bind_of_ok hFound'' _)), hvs⟩
    | @limitFirst ps rs skip limit hLimit hSkip =>
      rw [List.append_assoc] at hts
      have hSkipFirst : Clear (Token.isKeyword "SKIP") (ps ++ (rs ++ qs)) := by
        obtain ⟨hLead, _⟩ := hLimit
        exact clear_cons (hLimitSkip _ hLead)
      have hLimitNext : Clear (Token.isKeyword "LIMIT") (rs ++ qs) := by
        obtain ⟨hLead, _⟩ := hSkip
        exact clear_cons (hSkipLimit _ hLead)
      obtain ⟨ts₁, hFound, hts₁⟩ :=
        (reads_optionalCount "SKIP").complete .absent hSkipFirst (hts : kinds ts = [] ++ _)
      obtain ⟨ts₂, hFound', hts₂⟩ :=
        (reads_optionalCount "LIMIT").complete (.present hLimit) hLimitNext hts₁
      obtain ⟨us, hFound'', hus⟩ :=
        (reads_optionalCount "SKIP").complete (.present hSkip) hSkipEnd hts₂
      exact ⟨us, (bind_of_ok hFound _).trans
        ((bind_of_ok hFound' _).trans (bind_of_ok hFound'' _)), hus⟩

theorem reads_sortKeys :
    Reads sortKeys (Led (Token.isKeyword "BY") (Separated (· == .comma) IsSortKey))
      fun t => keyGoesOn t || t == .comma where
  sound := by
    intro ts us x h
    obtain ⟨ts₁, hBy, h⟩ := bind_eq_ok h
    obtain ⟨t, ht, hts⟩ := expectKeyword_sound hBy
    obtain ⟨ps, hps, hts₁⟩ := (reads_separated (accepts_accept? .comma) reads_sortKey
      keyGoesOn_of_comma).sound h
    exact ⟨t :: ps, .mk ht hps, by rw [hts, hts₁]; rfl⟩
  complete := by
    rintro ts _ qs _ ⟨ht, hKeys⟩ hClear hts
    obtain ⟨ts₁, hBy, hts₁⟩ := expectKeyword_complete ht hts
    obtain ⟨us, hFound, hus⟩ := (reads_separated (accepts_accept? .comma) reads_sortKey
      keyGoesOn_of_comma).complete hKeys hClear hts₁
    exact ⟨us, (bind_of_ok hBy _).trans hFound, hus⟩

/-! ### Queries -/

/-- The next token is one of the keywords, if there is one. -/
def Opens (keywords : List String) (ps : List Token) : Prop :=
  ∀ t ∈ ps.head?, ∃ keyword ∈ keywords, t.isKeyword keyword = true

theorem opens_opt {α : Type} {phrase : Phrase α} {keyword : String} {keywords : List String}
    {x : Option α} (h : Opt (Led (Token.isKeyword keyword) phrase) ps x)
    (hNext : Opens keywords qs) : Opens (keyword :: keywords) (ps ++ qs) := by
  cases h with
  | absent =>
    intro t ht
    obtain ⟨other, hOther, hKeyword⟩ := hNext t ht
    exact ⟨other, List.mem_cons_of_mem _ hOther, hKeyword⟩
  | present hPhrase =>
    obtain ⟨hLead, _⟩ := hPhrase
    intro t ht
    obtain rfl := Option.some.inj ht
    exact ⟨keyword, List.mem_cons_self, hLead⟩

theorem opens_page {x : Option Nat × Option Nat} (h : IsPage ps x) :
    Opens ["SKIP", "LIMIT"] ps := by
  have hEnd : Opens [] ([] : List Token) := by
    intro t ht
    cases ht
  cases h with
  | skipFirst hSkip hLimit =>
    have hOpens := opens_opt hSkip (opens_opt hLimit hEnd)
    rwa [List.append_nil] at hOpens
  | limitFirst hLimit hSkip =>
    obtain ⟨hLead, _⟩ := hLimit
    intro t ht
    obtain rfl := Option.some.inj ht
    exact ⟨"LIMIT", by simp, hLead⟩

theorem Opens.clear {keywords : List String} {more : Token → Bool} (h : Opens keywords ps)
    (hApart : ∀ keyword ∈ keywords, ∀ t : Token, t.isKeyword keyword = true → more t = false) :
    Clear more ps := by
  intro t ht
  obtain ⟨keyword, hKeyword, hIs⟩ := h t ht
  exact hApart keyword hKeyword t hIs

theorem reads_patterns (bound : String → Bool) :
    Reads (separated (accept? .comma) (chain (.template bound)))
      (Separated (· == .comma) (IsPattern bound))
      fun t => beginsEdge t || t == .comma :=
  reads_separated (accepts_accept? .comma) (reads_chain bound) fun t ht => by
    rw [beq_iff_eq.1 ht]
    rfl

theorem reads_where (bound : String → Bool) :
    Reads (optional "WHERE" (clause (.template bound)))
      (Opt (Led (Token.isKeyword "WHERE") (IsClause bound)))
      fun t => joins t || t.isKeyword "WHERE" :=
  reads_led (accepts_acceptKeyword? "WHERE") (reads_clause bound)

theorem reads_return :
    Reads (optional "RETURN" (separated (accept? .comma) returnItem))
      (Opt (Led (Token.isKeyword "RETURN") (Separated (· == .comma) IsItem)))
      fun t => (itemGoesOn t || t == .comma) || t.isKeyword "RETURN" :=
  reads_led (accepts_acceptKeyword? "RETURN")
    (reads_separated (accepts_accept? .comma) reads_returnItem fun t ht => by
      rw [beq_iff_eq.1 ht]
      rfl)

theorem reads_order :
    Reads (optional "ORDER" sortKeys)
      (Opt (Led (Token.isKeyword "ORDER")
        (Led (Token.isKeyword "BY") (Separated (· == .comma) IsSortKey))))
      fun t => (keyGoesOn t || t == .comma) || t.isKeyword "ORDER" :=
  reads_led (accepts_acceptKeyword? "ORDER") reads_sortKeys

theorem query_sound {plan : Plan Operand} (h : query (.template bound) ts = .ok plan) :
    IsQuery bound (kinds ts) plan := by
  obtain ⟨ts₁, hMatch, h⟩ := bind_eq_ok h
  obtain ⟨⟨chains, ts₂⟩, hPatterns, h⟩ := bind_eq_ok h
  obtain ⟨⟨filter, ts₃⟩, hWhere, h⟩ := bind_eq_ok h
  obtain ⟨⟨columns, ts₄⟩, hReturn, h⟩ := bind_eq_ok h
  obtain ⟨⟨order, ts₅⟩, hOrder, h⟩ := bind_eq_ok h
  obtain ⟨⟨⟨skip, limit⟩, ts₆⟩, hPage, h⟩ := bind_eq_ok h
  cases ts₆ with
  | cons extra rest => cases h
  | nil =>
    cases h
    obtain ⟨t, ht, hts⟩ := expectKeyword_sound hMatch
    obtain ⟨ps, hps, hts₁⟩ := (reads_patterns bound).sound hPatterns
    obtain ⟨qs, hqs, hts₂⟩ := (reads_where bound).sound hWhere
    obtain ⟨rs, hrs, hts₃⟩ := reads_return.sound hReturn
    obtain ⟨us, hus, hts₄⟩ := reads_order.sound hOrder
    obtain ⟨vs, hvs, hts₅⟩ := reads_page.sound hPage
    have hAll : kinds ts = t :: ps ++ qs ++ rs ++ us ++ vs := by
      rw [hts, hts₁, hts₂, hts₃, hts₄, hts₅]
      simp [kinds]
    rw [hAll]
    exact .mk ht hps hqs hrs hus hvs

theorem query_complete {plan : Plan Operand} (h : IsQuery bound (kinds ts) plan) :
    query (.template bound) ts = .ok plan := by
  generalize hts : kinds ts = all at h
  obtain @⟨ps, qs, rs, us, vs, t, chains, filter, columns, order, skip, limit,
    ht, hPatterns, hWhere, hReturn, hOrder, hPage⟩ := h
  simp only [List.cons_append, List.append_assoc] at hts
  -- after each part comes the keyword of a later one
  have hAfterOrder : Opens ["SKIP", "LIMIT"] vs := opens_page hPage
  have hAfterReturn : Opens ["ORDER", "SKIP", "LIMIT"] (us ++ vs) := opens_opt hOrder hAfterOrder
  have hAfterWhere : Opens ["RETURN", "ORDER", "SKIP", "LIMIT"] (rs ++ (us ++ vs)) :=
    opens_opt hReturn hAfterReturn
  have hAfterMatch : Opens ["WHERE", "RETURN", "ORDER", "SKIP", "LIMIT"]
      (qs ++ (rs ++ (us ++ vs))) := opens_opt hWhere hAfterWhere
  obtain ⟨ts₁, hMatch, hts₁⟩ := expectKeyword_complete ht hts
  obtain ⟨ts₂, hPatterns', hts₂⟩ := (reads_patterns bound).complete hPatterns
    (hAfterMatch.clear fun keyword _ t ht => by
      rw [beginsEdge, ne_of_isKeyword ht rfl, ne_of_isKeyword ht rfl, ne_of_isKeyword ht rfl]
      rfl) hts₁
  obtain ⟨ts₃, hWhere', hts₃⟩ := (reads_where bound).complete hWhere
    (hAfterWhere.clear fun keyword hKeyword t ht => by
      simp only [joins, isKeyword_eq ht]
      clear ht
      revert hKeyword keyword
      decide) hts₂
  obtain ⟨ts₄, hReturn', hts₄⟩ := reads_return.complete hReturn
    (hAfterReturn.clear fun keyword hKeyword t ht => by
      simp only [itemGoesOn, goesOn_of_isKeyword ht,
        ne_of_isKeyword ht (rfl : isName .comma = false), isKeyword_eq ht]
      clear ht
      revert hKeyword keyword
      decide) hts₃
  obtain ⟨ts₅, hOrder', hts₅⟩ := reads_order.complete hOrder
    (hAfterOrder.clear fun keyword hKeyword t ht => by
      simp only [keyGoesOn, ne_of_isKeyword ht (rfl : isName .dot = false),
        ne_of_isKeyword ht (rfl : isName .comma = false), isKeyword_eq ht]
      clear ht
      revert hKeyword keyword
      decide) hts₄
  obtain ⟨ts₆, hPage', hts₆⟩ := reads_page.complete hPage (clear_nil _)
    (hts₅.trans (List.append_nil vs).symm)
  obtain rfl : ts₆ = [] := List.map_eq_nil_iff.1 hts₆
  exact (bind_of_ok hMatch _).trans ((bind_of_ok hPatterns' _).trans ((bind_of_ok hWhere' _).trans
    ((bind_of_ok hReturn' _).trans ((bind_of_ok hOrder' _).trans (bind_of_ok hPage' _)))))

end Parser

open CodeGraph.Query.Parser Grammar

theorem isQuery_unique {bound : String → Bool} {ps : List Token} {plan plan' : Plan Operand}
    (h : IsQuery bound ps plan) (h' : IsQuery bound ps plan') : plan = plan' := by
  have hKinds : kinds (ps.map fun t => ⟨t, 0, []⟩) = ps := by
    rw [kinds, List.map_map]
    exact List.map_id ps
  rw [← hKinds] at h h'
  have hSame := query_complete h
  rw [query_complete h'] at hSame
  exact (Except.ok.inj hSame).symm

variable {text : String} {params : Params} {lexemes : List Lexeme}

theorem parse_sound {plan : Plan Value} (h : parse text params = .ok plan) :
    ∃ lexemes template, tokenize text = .ok lexemes ∧
      IsQuery params.contains (kinds lexemes) template ∧
      plan = template.map (·.resolve params) := by
  obtain ⟨lexemes, hLexemes, hQuery⟩ := bind_eq_ok h
  rw [query_ofParams] at hQuery
  obtain ⟨template, hTemplate, hPlan⟩ := map_eq_ok hQuery
  exact ⟨lexemes, template, hLexemes, query_sound hTemplate, hPlan.symm⟩

theorem parse_complete {template : Plan Operand} (hLexemes : tokenize text = .ok lexemes)
    (hQuery : IsQuery params.contains (kinds lexemes) template) :
    parse text params = .ok (template.map (·.resolve params)) := by
  have hTemplate := query_complete hQuery
  rw [parse, bind_of_ok hLexemes, query_ofParams, hTemplate]
  rfl

/-- **A text has a plan exactly if its tokens are a query, and then one plan.**  The plan of the
text is that of the query with the values of the parameters in place. -/
theorem parse_eq_ok_iff :
    (∀ (text : String) (params : Params) (plan : Plan Value), parse text params = .ok plan ↔
      ∃ lexemes template, tokenize text = .ok lexemes ∧
        IsQuery params.contains (lexemes.map (·.token)) template ∧
        plan = template.map (·.resolve params)) ∧
      ∀ (bound : String → Bool) (ps : List Token) (plan plan' : Plan Operand),
        IsQuery bound ps plan → IsQuery bound ps plan' → plan = plan' := by
  refine ⟨fun text params plan => ⟨parse_sound, ?_⟩, fun bound ps plan plan' => isQuery_unique⟩
  rintro ⟨lexemes, template, hLexemes, hQuery, rfl⟩
  exact parse_complete hLexemes hQuery

/-- The tokens of `MATCH (n) WHERE match <-3`: a keyword is a field, and an arrow an operator. -/
def arrowTokens : List Token :=
  [.ident "MATCH", .leftParen, .ident "n", .rightParen, .ident "WHERE", .ident "match", .leftArrow,
    .int 3]

def arrowPlan : Plan Operand where
  nodes := [⟨some "n", [], ∅⟩]
  edges := []
  filter := some ⟨[⟨"match", .lt, .literal (.int (-3))⟩], .and⟩
  columns := none
  order := none
  skip := none
  limit := none

theorem isQuery_arrowTokens (bound : String → Bool) : IsQuery bound arrowTokens arrowPlan := by
  have hPattern : IsPattern bound [.leftParen, .ident "n", .rightParen] ⟨⟨some "n", [], ∅⟩, []⟩ :=
    .mk (.mk (.present (.mk "n")) .absent .absent) .nil
  have hField : IsPath [.ident "match"] "match" := .mk (.mk (.mk "match") .nil)
  have hCondition : IsCondition bound [.ident "match", .leftArrow, .int 3]
      ⟨"match", .lt, .literal (.int (-3))⟩ := .arrow hField (.negativeInt 3)
  have hClause : IsClause bound [.ident "match", .leftArrow, .int 3]
      ⟨[⟨"match", .lt, .literal (.int (-3))⟩], .and⟩ := .all (.mk hCondition .nil)
  exact .mk (by decide) (.mk hPattern .nil) (.present (.mk (by decide) hClause)) .absent .absent
    (.skipFirst .absent .absent)

theorem parse_eq_ok_iff_arrow :
    parse "MATCH (n) WHERE match <-3" ∅ = .ok (arrowPlan.map (·.resolve ∅)) ∧
      ∀ plan, IsQuery (fun _ => false) arrowTokens plan → plan = arrowPlan := by
  obtain ⟨hIff, hUnique⟩ := parse_eq_ok_iff
  refine ⟨(hIff _ _ _).2 ?_, fun plan hPlan => hUnique _ _ _ _ hPlan (isQuery_arrowTokens _)⟩
  have hTokens : (tokenize "MATCH (n) WHERE match <-3").toOption.map (·.map (·.token)) =
      some arrowTokens := by decide +kernel
  cases hLexemes : tokenize "MATCH (n) WHERE match <-3" with
  | error e =>
    rw [hLexemes] at hTokens
    cases hTokens
  | ok lexemes =>
    rw [hLexemes] at hTokens
    refine ⟨lexemes, arrowPlan, rfl, ?_, rfl⟩
    rw [show lexemes.map (·.token) = arrowTokens from Option.some.inj hTokens]
    exact isQuery_arrowTokens _

end CodeGraph.Query
