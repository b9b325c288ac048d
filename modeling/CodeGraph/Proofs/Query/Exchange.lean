import CodeGraph.Proofs.Query.Joining
import CodeGraph.Proofs.Query.Places

/-!
# Exchanging values

A string and a parameter are tokens that are nothing but values (`isValue`).  Where one of them
stands in a query, another value with the same meaning may be written, and the plan stays the same
(`parse_exchange`).

That is said for all phrases at once.  `Rewrites` reads the tokens of a query from left to right and
writes them again, some values exchanged; it has two states, as for a `<` an arrow may be written
whose dash the value has then lost (`owed`).  A phrase is `Robust` if what is written for it is such
a phrase again, and means the same but for the values.  Each way of putting phrases together keeps
them robust, and so does each rule of the grammar, up to whole queries (`robust_query`).
-/

namespace CodeGraph.Query

namespace Grammar

open CodeGraph.Query.Parser (Chain Chain.Alike HopAlike forall₂_nodes edges_eq)

variable {α β : Type} {bound : String → Bool} {R : Operand → Operand → Prop} {t : Token}
  {ps qs ws ws' : List Token}

/-! ### Rewriting tokens -/

/-- Tokens that stand nowhere but in the place of a value. -/
def isValue : Token → Bool
  | .str _ | .param _ => true
  | _ => false

/-- Tokens that are always written again as they are. -/
def isFixed (t : Token) : Bool := !isValue t && t != .lt

/-- What has been written: all that was read, or an arrow in place of `<`, so that the value that
comes next owes its dash. -/
inductive Written where
  | even
  | owed

variable (bound R) in
/-- The tokens `vs` are a value, and it means the same as `t` does. -/
structure StandsFor (t : Token) (vs : List Token) : Prop where
  token : isValue t = true
  value : ∃ y, IsValue bound vs y ∧ ∀ x, IsValue bound [t] x → R x y

variable (bound R) in
/-- One token is read, and tokens are written. -/
inductive Step : Written → Token → Written → List Token → Prop
  | keep (t : Token) : Step .even t .even [t]
  | swap {t : Token} {vs : List Token} (h : StandsFor bound R t vs) : Step .even t .even vs
  | less : Step .even .lt .owed [.leftArrow]
  | swapOwed {t : Token} {vs : List Token} (h : StandsFor bound R t (.dash :: vs)) :
      Step .owed t .even vs

variable (bound R) in
/-- Tokens are read one by one. -/
inductive Rewrites : Written → List Token → Written → List Token → Prop
  | nil (s : Written) : Rewrites s [] s []
  | cons {s s' s'' : Written} {t : Token} {ps vs ws : List Token} (hStep : Step bound R s t s' vs)
      (hRest : Rewrites s' ps s'' ws) : Rewrites s (t :: ps) s'' (vs ++ ws)

theorem rewrites_refl (ps : List Token) : Rewrites bound R .even ps .even ps := by
  induction ps with
  | nil => exact .nil _
  | cons t ps ih => exact .cons (.keep t) ih

theorem Rewrites.append {s s' s'' : Written} (h : Rewrites bound R s ps s' ws)
    (h' : Rewrites bound R s' qs s'' ws') : Rewrites bound R s (ps ++ qs) s'' (ws ++ ws') := by
  induction h with
  | nil s => exact h'
  | cons hStep _ ih =>
    rw [List.append_assoc]
    exact .cons hStep (ih h')

theorem Rewrites.split {s s'' : Written} (h : Rewrites bound R s (ps ++ qs) s'' ws) :
    ∃ s' us vs, ws = us ++ vs ∧ Rewrites bound R s ps s' us ∧ Rewrites bound R s' qs s'' vs := by
  induction ps generalizing s ws with
  | nil => exact ⟨s, [], ws, rfl, .nil s, h⟩
  | cons t ps ih =>
    obtain _ | @⟨_, _, _, _, _, os, ws, hStep, hRest⟩ := h
    obtain ⟨s', us, vs, rfl, hFirst, hSecond⟩ := ih hRest
    exact ⟨s', os ++ us, vs, (List.append_assoc os us vs).symm, .cons hStep hFirst, hSecond⟩

theorem step_fixed {s : Written} {vs : List Token} (ht : isFixed t = true)
    (h : Step bound R .even t s vs) : s = .even ∧ vs = [t] := by
  cases h with
  | keep => exact ⟨rfl, rfl⟩
  | swap h => simp [isFixed, h.token] at ht
  | less => cases ht

theorem Rewrites.fixed_cons {s : Written} (ht : isFixed t = true)
    (h : Rewrites bound R .even (t :: ps) s ws) :
    ∃ ws', ws = t :: ws' ∧ Rewrites bound R .even ps s ws' := by
  obtain _ | @⟨_, _, _, _, _, os, ws', hStep, hRest⟩ := h
  obtain ⟨rfl, rfl⟩ := step_fixed ht hStep
  exact ⟨ws', rfl, hRest⟩

theorem Rewrites.fixed {s : Written} (hFixed : ∀ t ∈ ps, isFixed t = true)
    (h : Rewrites bound R .even ps s ws) : s = .even ∧ ws = ps := by
  induction ps generalizing ws with
  | nil =>
    cases h
    exact ⟨rfl, rfl⟩
  | cons t ps ih =>
    rw [List.forall_mem_cons] at hFixed
    obtain ⟨ws', rfl, hRest⟩ := h.fixed_cons hFixed.1
    obtain ⟨rfl, rfl⟩ := ih hFixed.2 hRest
    exact ⟨rfl, rfl⟩

/-! ### Phrases without values -/

def Fixed (phrase : Phrase α) : Prop := ∀ ps x, phrase ps x → ∀ t ∈ ps, isFixed t = true

theorem isFixed_of_isKeyword {keyword : String} (h : t.isKeyword keyword = true) :
    isFixed t = true := by
  obtain ⟨name, rfl⟩ := Parser.isName_of_isKeyword h
  rfl

theorem isFixed_of_sign {sign : Token} (hSign : isFixed sign = true) (h : (t == sign) = true) :
    isFixed t = true := by
  rwa [beq_iff_eq.1 h]

section

variable {lead : Token → Bool} {phrase : Phrase α}

theorem fixed_led (hLead : ∀ t, lead t = true → isFixed t = true) (h : Fixed phrase) :
    Fixed (Led lead phrase) := by
  rintro _ x ⟨hFirst, hPhrase⟩
  exact List.forall_mem_cons.2 ⟨hLead _ hFirst, h _ _ hPhrase⟩

theorem fixed_opt (h : Fixed phrase) : Fixed (Opt phrase) := by
  rintro ps x (_ | hPhrase)
  · exact List.forall_mem_nil _
  · exact h _ _ hPhrase

theorem fixed_separated (hLead : ∀ t, lead t = true → isFixed t = true) (h : Fixed phrase) :
    Fixed (Separated lead phrase) := by
  rintro _ _ ⟨hFirst, hRest⟩
  refine List.forall_mem_append.2 ⟨h _ _ hFirst, ?_⟩
  induction hRest with
  | nil => exact List.forall_mem_nil _
  | cons hNext _ ih => exact List.forall_mem_append.2 ⟨fixed_led hLead h _ _ hNext, ih⟩

end

theorem fixed_name : Fixed IsName := by
  rintro _ _ ⟨name⟩
  exact List.forall_mem_singleton.2 rfl

theorem fixed_path : Fixed IsPath := by
  rintro _ _ ⟨h⟩
  exact fixed_separated (fun _ => isFixed_of_sign rfl) fixed_name _ _ h

theorem fixed_kind : Fixed IsKind := fixed_led (fun _ => isFixed_of_sign rfl) fixed_name

theorem fixed_edgeBody : Fixed IsEdgeBody := by
  rintro _ _ (_ | ⟨hName, hKind⟩)
  · exact List.forall_mem_nil _
  · have hNameFixed := fixed_opt fixed_name _ _ hName
    have hKindFixed := fixed_opt fixed_kind _ _ hKind
    simp only [List.cons_append, List.forall_mem_cons, List.forall_mem_append]
    exact ⟨rfl, ⟨hNameFixed, hKindFixed⟩, rfl, List.forall_mem_nil _⟩

theorem fixed_edge : Fixed IsEdge := by
  rintro _ _ (hBody | hBody | hBody) <;>
  · have hFixed := fixed_edgeBody _ _ hBody
    simp only [List.cons_append, List.forall_mem_cons, List.forall_mem_append]
    exact ⟨rfl, hFixed, rfl, List.forall_mem_nil _⟩

theorem fixed_expression : Fixed IsExpression := by
  rintro _ _ (_ | hPath)
  · exact List.forall_mem_singleton.2 rfl
  · exact fixed_path _ _ hPath

theorem fixed_returned : Fixed IsReturned := by
  rintro _ _ (⟨_, hText⟩ | hText)
  · have hFixed := fixed_expression _ _ hText
    simp only [List.cons_append, List.forall_mem_cons, List.forall_mem_append]
    exact ⟨rfl, rfl, hFixed, rfl, List.forall_mem_nil _⟩
  · exact fixed_expression _ _ hText

theorem fixed_item : Fixed IsItem := by
  rintro _ _ ⟨hReturned, hName⟩
  exact List.forall_mem_append.2 ⟨fixed_returned _ _ hReturned,
    fixed_opt (fixed_led (fun _ => isFixed_of_isKeyword) fixed_name) _ _ hName⟩

theorem fixed_direction : Fixed IsDirection := by
  rintro _ _ (_ | ht | ht)
  · exact List.forall_mem_nil _
  · exact List.forall_mem_singleton.2 (isFixed_of_isKeyword ht)
  · exact List.forall_mem_singleton.2 (isFixed_of_isKeyword ht)

theorem fixed_sortKey : Fixed IsSortKey := by
  rintro _ _ ⟨hPath, hDirection⟩
  exact List.forall_mem_append.2 ⟨fixed_path _ _ hPath, fixed_direction _ _ hDirection⟩

theorem fixed_count : Fixed IsCount := by
  rintro _ _ ⟨_⟩
  exact List.forall_mem_singleton.2 rfl

theorem fixed_page : Fixed IsPage := by
  have hCount : ∀ keyword, Fixed (Led (Token.isKeyword keyword) IsCount) := fun _ =>
    fixed_led (fun _ => isFixed_of_isKeyword) fixed_count
  rintro _ _ (⟨hSkip, hLimit⟩ | ⟨hLimit, hSkip⟩)
  · exact List.forall_mem_append.2 ⟨fixed_opt (hCount _) _ _ hSkip, fixed_opt (hCount _) _ _ hLimit⟩
  · exact List.forall_mem_append.2 ⟨hCount _ _ _ hLimit, hCount _ _ _ hSkip⟩

/-! ### Robust phrases -/

variable (bound R) in
/-- What is written for such a phrase is one again, whose meaning is related to that of the first,
and owes nothing. -/
def Robust (Q : α → α → Prop) (phrase : Phrase α) : Prop :=
  ∀ {ps ws : List Token} {s : Written} {x : α}, phrase ps x → Rewrites bound R .even ps s ws →
    s = .even ∧ ∃ y, phrase ws y ∧ Q x y

section

variable {Q : α → α → Prop} {lead : Token → Bool} {phrase : Phrase α}

theorem robust_led (hLead : ∀ t, lead t = true → isFixed t = true)
    (h : Robust bound R Q phrase) : Robust bound R Q (Led lead phrase) := by
  rintro _ ws s x ⟨hFirst, hPhrase⟩ hWrites
  obtain ⟨ws, rfl, hRest⟩ := hWrites.fixed_cons (hLead _ hFirst)
  obtain ⟨rfl, y, hy, hQ⟩ := h hPhrase hRest
  exact ⟨rfl, y, .mk hFirst hy, hQ⟩

theorem robust_opt (h : Robust bound R Q phrase) :
    Robust bound R (Option.Rel Q) (Opt phrase) := by
  rintro ps ws s x (_ | hPhrase) hWrites
  · cases hWrites
    exact ⟨rfl, none, .absent, .none⟩
  · obtain ⟨rfl, y, hy, hQ⟩ := h hPhrase hWrites
    exact ⟨rfl, some y, .present hy, .some hQ⟩

theorem robust_repeated (h : Robust bound R Q phrase) :
    Robust bound R (List.Forall₂ Q) (Repeated phrase) := by
  intro ps ws s xs hRepeated
  induction hRepeated generalizing ws with
  | nil =>
    intro hWrites
    cases hWrites
    exact ⟨rfl, [], .nil, .nil⟩
  | cons hFirst _ ih =>
    intro hWrites
    obtain ⟨s', us, vs, rfl, hHead, hRest⟩ := hWrites.split
    obtain ⟨rfl, y, hy, hQ⟩ := h hFirst hHead
    obtain ⟨rfl, ys, hys, hQs⟩ := ih hRest
    exact ⟨rfl, y :: ys, .cons hy hys, .cons hQ hQs⟩

theorem robust_separated (hLead : ∀ t, lead t = true → isFixed t = true)
    (h : Robust bound R Q phrase) : Robust bound R (List.Forall₂ Q) (Separated lead phrase) := by
  rintro _ ws s _ ⟨hFirst, hRest⟩ hWrites
  obtain ⟨s', us, vs, rfl, hHead, hMore⟩ := hWrites.split
  obtain ⟨rfl, y, hy, hQ⟩ := h hFirst hHead
  obtain ⟨rfl, ys, hys, hQs⟩ := robust_repeated (robust_led hLead h) hRest hMore
  exact ⟨rfl, y :: ys, .mk hy hys, .cons hQ hQs⟩

end

/-! ### Values and operators -/

theorem value_cases {x : Operand} (h : IsValue bound ps x) :
    (∃ t, ps = [t] ∧ isValue t = true) ∨ ∀ t ∈ ps, isFixed t = true := by
  cases h with
  | str | param => exact Or.inl ⟨_, rfl, rfl⟩
  | int | float | word => exact Or.inr (List.forall_mem_singleton.2 rfl)
  | negativeInt | negativeFloat =>
    exact Or.inr (List.forall_mem_cons.2 ⟨rfl, List.forall_mem_singleton.2 rfl⟩)

theorem value_owed {s : Written} {x : Operand} (h : IsValue bound ps x)
    (hWrites : Rewrites bound R .owed ps s ws) :
    s = .even ∧ ∃ y, IsValue bound (.dash :: ws) y ∧ R x y := by
  obtain _ | ⟨hStep, hRest⟩ := hWrites
  · exact absurd rfl (Parser.value_ne_nil h)
  · cases hStep with
    | swapOwed hStands =>
      rcases value_cases h with ⟨_, hOne, _⟩ | hFixed
      · obtain ⟨rfl, rfl⟩ := List.cons.inj hOne
        obtain ⟨y, hValue, hSame⟩ := hStands.value
        cases hRest
        rw [List.append_nil]
        exact ⟨rfl, y, hValue, hSame x h⟩
      · have hNot := hFixed _ List.mem_cons_self
        simp [isFixed, hStands.token] at hNot

theorem operator_cases {comparison : Comparison} {s : Written} (h : IsOperator ps comparison)
    (hWrites : Rewrites bound R .even ps s ws) :
    s = .even ∧ ws = ps ∨ s = .owed ∧ ws = [.leftArrow] ∧ comparison = .lt := by
  cases h with
  | lt =>
    obtain _ | ⟨hStep, hRest⟩ := hWrites
    cases hStep with
    | keep =>
      cases hRest
      exact Or.inl ⟨rfl, rfl⟩
    | swap h => cases h.token
    | less =>
      cases hRest
      exact Or.inr ⟨rfl, rfl, rfl⟩
  | eq | ne | gt | ge | le => exact Or.inl (hWrites.fixed (by decide))
  | contains ht | regex ht =>
    exact Or.inl (hWrites.fixed (List.forall_mem_singleton.2 (isFixed_of_isKeyword ht)))
  | startsWith ht hu | endsWith ht hu =>
    exact Or.inl (hWrites.fixed (List.forall_mem_cons.2 ⟨isFixed_of_isKeyword ht,
      List.forall_mem_singleton.2 (isFixed_of_isKeyword hu)⟩))

variable (hRefl : ∀ x, R x x)

include hRefl

theorem robust_value : Robust bound R R (IsValue bound) := by
  intro ps ws s x h hWrites
  rcases value_cases h with ⟨t, rfl, ht⟩ | hFixed
  · obtain _ | ⟨hStep, hRest⟩ := hWrites
    cases hStep with
    | keep =>
      cases hRest
      exact ⟨rfl, x, h, hRefl x⟩
    | swap hStands =>
      obtain ⟨y, hValue, hSame⟩ := hStands.value
      cases hRest
      rw [List.append_nil]
      exact ⟨rfl, y, hValue, hSame x h⟩
    | less => cases ht
  · obtain ⟨rfl, rfl⟩ := hWrites.fixed hFixed
    exact ⟨rfl, x, h, hRefl x⟩

/-! ### Patterns -/

theorem robust_property : Robust bound R (EntryAlike R) (IsProperty bound) := by
  rintro _ ws s _ ⟨name, hValue⟩ hWrites
  obtain ⟨ws, rfl, hColon⟩ := hWrites.fixed_cons rfl
  obtain ⟨ws, rfl, hRest⟩ := hColon.fixed_cons rfl
  obtain ⟨rfl, y, hy, hxy⟩ := robust_value hRefl hValue hRest
  exact ⟨rfl, _, .mk name hy, rfl, hxy⟩

theorem robust_properties : Robust bound R (FieldsAlike R) (IsProperties bound) := by
  rintro ps ws s _ (_ | _ | hListed) hWrites
  · cases hWrites
    exact ⟨rfl, ∅, .absent, .nil⟩
  · obtain ⟨rfl, rfl⟩ := hWrites.fixed (by decide)
    exact ⟨rfl, ∅, .empty, .nil⟩
  · obtain ⟨ws, rfl, hRest⟩ := hWrites.fixed_cons rfl
    obtain ⟨s', us, vs, rfl, hEntries, hEnd⟩ := hRest.split
    obtain ⟨rfl, entries, hFound, hAlike⟩ :=
      robust_separated (fun _ => isFixed_of_sign rfl) (robust_property hRefl) hListed hEntries
    obtain ⟨rfl, rfl⟩ := hEnd.fixed (by decide)
    exact ⟨rfl, _, .listed hFound, fieldsAlike_ofList hAlike⟩

theorem robust_node : Robust bound R (NodePattern.Alike R) (IsNode bound) := by
  rintro _ ws s _ ⟨hName, hLabel, hProperties⟩ hWrites
  obtain ⟨s₁, us, vs, rfl, hInner, hEnd⟩ := hWrites.split
  obtain ⟨s₂, us, rs, rfl, hHead, hRest⟩ := hInner.split
  obtain ⟨rfl, rfl⟩ := hHead.fixed (by
    simp only [List.cons_append, List.forall_mem_cons, List.forall_mem_append]
    exact ⟨rfl, fixed_opt fixed_name _ _ hName, fixed_opt fixed_kind _ _ hLabel⟩)
  obtain ⟨rfl, properties, hFound, hAlike⟩ := robust_properties hRefl hProperties hRest
  obtain ⟨rfl, rfl⟩ := hEnd.fixed (by decide)
  exact ⟨rfl, _, .mk hName hLabel hFound, rfl, rfl, hAlike⟩

theorem robust_hop : Robust bound R (HopAlike R) (IsHop bound) := by
  rintro _ ws s _ ⟨hEdge, hNode⟩ hWrites
  obtain ⟨s', us, vs, rfl, hHead, hRest⟩ := hWrites.split
  obtain ⟨rfl, rfl⟩ := hHead.fixed (fixed_edge _ _ hEdge)
  obtain ⟨rfl, node, hFound, hAlike⟩ := robust_node hRefl hNode hRest
  exact ⟨rfl, _, .mk hEdge hFound, rfl, hAlike⟩

theorem robust_pattern : Robust bound R (Chain.Alike R) (IsPattern bound) := by
  rintro _ ws s _ ⟨hFirst, hHops⟩ hWrites
  obtain ⟨s', us, vs, rfl, hHead, hRest⟩ := hWrites.split
  obtain ⟨rfl, first, hFound, hAlike⟩ := robust_node hRefl hFirst hHead
  obtain ⟨rfl, hops, hFound', hAlike'⟩ := robust_repeated (robust_hop hRefl) hHops hRest
  exact ⟨rfl, ⟨first, hops⟩, .mk hFound hFound', hAlike, hAlike'⟩

/-! ### Conditions -/

theorem robust_condition : Robust bound R (Condition.Alike R) (IsCondition bound) := by
  rintro ps ws s _ (⟨hField, hOperator, hValue⟩ | ⟨hField, hValue⟩) hWrites
  · obtain ⟨s₁, us, vs, rfl, hHead, hRest⟩ := hWrites.split
    obtain ⟨s₂, us, os, rfl, hField', hOperator'⟩ := hHead.split
    obtain ⟨rfl, rfl⟩ := hField'.fixed (fixed_path _ _ hField)
    rcases operator_cases hOperator hOperator' with ⟨rfl, rfl⟩ | ⟨rfl, rfl, rfl⟩
    · obtain ⟨rfl, y, hy, hxy⟩ := robust_value hRefl hValue hRest
      exact ⟨rfl, _, .mk hField hOperator hy, rfl, rfl, hxy⟩
    · obtain ⟨rfl, y, hy, hxy⟩ := value_owed hValue hRest
      rw [List.append_assoc]
      exact ⟨rfl, _, .arrow hField hy, rfl, rfl, hxy⟩
  · -- after an arrow stands a number
    have hFixed := (value_cases hValue).resolve_left (by rintro ⟨t, hOne, ht⟩; cases hOne; cases ht)
    obtain ⟨rfl, rfl⟩ := hWrites.fixed (List.forall_mem_append.2 ⟨fixed_path _ _ hField,
      List.forall_mem_cons.2 ⟨rfl, (List.forall_mem_cons.1 hFixed).2⟩⟩)
    exact ⟨rfl, _, .arrow hField hValue, rfl, rfl, hRefl _⟩

theorem robust_clause : Robust bound R (Clause.Alike R) (IsClause bound) := by
  have hConditions : ∀ keyword, Robust bound R (List.Forall₂ (Condition.Alike R))
      (Separated (Token.isKeyword keyword) (IsCondition bound)) := fun _ =>
    robust_separated (fun _ => isFixed_of_isKeyword) (robust_condition hRefl)
  rintro ps ws s _ (hAll | ⟨hAny, hSeveral⟩) hWrites
  · obtain ⟨rfl, conditions, hFound, hAlike⟩ := hConditions "AND" hAll hWrites
    exact ⟨rfl, _, .all hFound, hAlike, rfl⟩
  · obtain ⟨rfl, conditions, hFound, hAlike⟩ := hConditions "OR" hAny hWrites
    exact ⟨rfl, _, .any hFound (hAlike.length_eq ▸ hSeveral), hAlike, rfl⟩

/-! ### Queries -/

/-- **What is written for a query is a query again**, and has the same plan but for the values. -/
theorem robust_query : Robust bound R (Plan.Alike R) (IsQuery bound) := by
  rintro _ ws s _ ⟨hMatch, hPatterns, hWhere, hReturn, hOrder, hPage⟩ hWrites
  obtain ⟨s₁, us, vs', rfl, hToOrder, hPage'⟩ := hWrites.split
  obtain ⟨s₂, us, us', rfl, hToReturn, hOrder'⟩ := hToOrder.split
  obtain ⟨s₃, us, rs', rfl, hToWhere, hReturn'⟩ := hToReturn.split
  obtain ⟨s₄, us, qs', rfl, hToMatch, hWhere'⟩ := hToWhere.split
  obtain ⟨ps', rfl, hPatterns'⟩ := hToMatch.fixed_cons (isFixed_of_isKeyword hMatch)
  obtain ⟨rfl, chains, hChains, hChainsAlike⟩ :=
    robust_separated (fun _ => isFixed_of_sign rfl) (robust_pattern hRefl) hPatterns hPatterns'
  obtain ⟨rfl, filter, hFilter, hFilterAlike⟩ :=
    robust_opt (robust_led (fun _ => isFixed_of_isKeyword) (robust_clause hRefl)) hWhere hWhere'
  -- what comes after the conditions holds no values
  obtain ⟨rfl, rfl⟩ := hReturn'.fixed (fixed_opt (fixed_led (fun _ => isFixed_of_isKeyword)
    (fixed_separated (fun _ => isFixed_of_sign rfl) fixed_item)) _ _ hReturn)
  obtain ⟨rfl, rfl⟩ := hOrder'.fixed (fixed_opt (fixed_led (fun _ => isFixed_of_isKeyword)
    (fixed_led (fun _ => isFixed_of_isKeyword)
      (fixed_separated (fun _ => isFixed_of_sign rfl) fixed_sortKey))) _ _ hOrder)
  obtain ⟨rfl, rfl⟩ := hPage'.fixed (fixed_page _ _ hPage)
  exact ⟨rfl, _, .mk hMatch hChains hFilter hReturn hOrder hPage, forall₂_nodes hChainsAlike,
    edges_eq hChainsAlike, hFilterAlike, rfl, rfl, rfl, rfl⟩

end Grammar

/-! ### Texts -/

open CodeGraph.Query.Parser Grammar

variable {text text' : String} {params : Params} {pre post vs : List Token} {t : Token}
  {plan : Plan Value}

/-- The operands have the same value. -/
def SameValue (params : Params) (x y : Operand) : Prop := x.resolve params = y.resolve params

theorem resolve_parameter {name : String} {json : Json} (hFind : params.find? name = some json) :
    (Operand.parameter name).resolve params = .ofParameter json := by
  rw [Operand.resolve, hFind]
  rfl

theorem standsFor_parameter {name : String} {json : Json} (hFind : params.find? name = some json)
    (hValue : IsValue params.contains vs (.literal (.ofParameter json))) :
    StandsFor params.contains (SameValue params) (.param name) vs where
  token := rfl
  value := by
    refine ⟨_, hValue, ?_⟩
    rintro _ ⟨⟩
    exact resolve_parameter hFind

theorem parse_of_rewrites {ts ws : List Token} {s : Written}
    (hTokens : tokens text.toList = some ts) (hTokens' : tokens text'.toList = some ws)
    (hWrites : Rewrites params.contains (SameValue params) .even ts s ws)
    (hParse : parse text params = .ok plan) : parse text' params = .ok plan := by
  obtain ⟨ts', template, hTs, hQuery, rfl⟩ := parse_eq_ok_iff_tokens.1 hParse
  obtain rfl : ts = ts' := Option.some.inj (hTokens.symm.trans hTs)
  have hRefl : ∀ x, SameValue params x x := fun _ => rfl
  obtain ⟨_, template', hQuery', hAlike⟩ := robust_query hRefl hQuery hWrites
  exact parse_eq_ok_iff_tokens.2 ⟨ws, template', hTokens', hQuery',
    hAlike.map_eq_map fun _ _ hSame => hSame⟩

/-- **A value may be exchanged for another that means the same.** -/
theorem parse_exchange (hStands : StandsFor params.contains (SameValue params) t vs)
    (hTokens : tokens text.toList = some (pre ++ t :: post))
    (hTokens' : tokens text'.toList = some (pre ++ (vs ++ post)))
    (hParse : parse text params = .ok plan) : parse text' params = .ok plan :=
  parse_of_rewrites hTokens hTokens'
    ((rewrites_refl pre).append (.cons (.swap hStands) (rewrites_refl post))) hParse

theorem parse_exchange_less
    (hStands : StandsFor params.contains (SameValue params) t (.dash :: vs))
    (hTokens : tokens text.toList = some (pre ++ .lt :: t :: post))
    (hTokens' : tokens text'.toList = some (pre ++ .leftArrow :: (vs ++ post)))
    (hParse : parse text params = .ok plan) : parse text' params = .ok plan :=
  parse_of_rewrites hTokens hTokens' ((rewrites_refl pre).append
    (.cons .less (.cons (.swapOwed hStands) (rewrites_refl post)))) hParse

/-- A place in a text where a parameter is written: after whole tokens, and not so that the name
goes on with what comes next. -/
structure Slot where
  before : String
  name : String
  /-- Blanks after the name. -/
  gap : String
  after : String
  whole : (tokens before.toList).isSome
  word : IsWord name.toList
  blank : ∀ c ∈ gap.toList, Unicode.isBlank c = true
  ends : ∀ d ∈ (gap.toList ++ after.toList).head?, isNameChar d = false

namespace Slot

variable (slot : Slot)

def withParameter : String := slot.before ++ "$" ++ slot.name ++ slot.gap ++ slot.after

def withLiteral (literal : String) : String := slot.before ++ literal ++ slot.after

def atEnd (before : String) (whole : (tokens before.toList).isSome) : Slot where
  before := before
  name := "x"
  gap := ""
  after := ""
  whole := whole
  word := ⟨by simp, List.forall_mem_singleton.2 (by decide)⟩
  blank := by simp
  ends := by simp

theorem tokens_withParameter (hPre : tokens slot.before.toList = some pre) :
    tokens slot.withParameter.toList =
      (tokens slot.after.toList).map (pre ++ .param slot.name :: ·) := by
  have hText : slot.withParameter.toList = slot.before.toList ++
      ('$' :: slot.name.toList ++ (slot.gap.toList ++ slot.after.toList)) := by
    simp [withParameter]
  have hJoins : Joins slot.before.toList
      ('$' :: slot.name.toList ++ (slot.gap.toList ++ slot.after.toList)) :=
    joins_cons (Or.inl rfl) _ _
  rw [hText, tokens_append hJoins hPre, tokens_param slot.word slot.ends,
    tokens_blanks slot.blank, String.ofList_toList, Option.map_map]
  rfl

theorem tokens_of_parse (hPre : tokens slot.before.toList = some pre)
    (hParse : parse slot.withParameter params = .ok plan) :
    ∃ post, tokens slot.after.toList = some post ∧
      tokens slot.withParameter.toList = some (pre ++ .param slot.name :: post) := by
  obtain ⟨ts, _, hTokens, _⟩ := parse_eq_ok_iff_tokens.1 hParse
  rw [slot.tokens_withParameter hPre] at hTokens ⊢
  obtain ⟨post, hPost, _⟩ := Option.map_eq_some_iff.1 hTokens
  exact ⟨post, hPost, by rw [hPost]; rfl⟩

theorem tokens_withLiteral {literal : String} (hPre : tokens slot.before.toList = some pre)
    (hJoins : Joins slot.before.toList (literal.toList ++ slot.after.toList))
    (hLiteral : tokens (literal.toList ++ slot.after.toList) =
      (tokens slot.after.toList).map (vs ++ ·)) :
    tokens (slot.withLiteral literal).toList =
      (tokens slot.after.toList).map fun post => pre ++ (vs ++ post) := by
  have hText : (slot.withLiteral literal).toList =
      slot.before.toList ++ (literal.toList ++ slot.after.toList) := by
    simp [withLiteral]
  rw [hText, tokens_append hJoins hPre, hLiteral, Option.map_map]
  rfl

end Slot

end CodeGraph.Query
