import Mathlib.Data.List.Forall2
import CodeGraph.Proofs.Fields
import CodeGraph.Proofs.Query.Patterns

/-!
# Parsing with two meanings

One text is parsed with two meanings of what stands for values in it.  If the meanings agree on the
literals and on the parameters that come in the tokens (`Agrees`), the two runs go the same way:
they end with the same error, or find the same but for the values, which are related
(`query_alike`).  For every way of putting steps together there is a lemma that carries this on, and
for every step one that says it; no step looks at a value that it has found.

So the plan of a text is that of its template with the parameters filled in (`query_ofParams`).
-/

namespace CodeGraph.Query

variable {ε α α' β β' : Type}

/-! ### Results -/

/-- Two runs end with the same error or with related results. -/
inductive Same (Q : α → β → Prop) : Except ε α → Except ε β → Prop
  | error (e : ε) : Same Q (.error e) (.error e)
  | ok {a : α} {b : β} (h : Q a b) : Same Q (.ok a) (.ok b)

namespace Same

variable {Q : α → β → Prop} {Q' : α' → β' → Prop} {x : Except ε α} {y : Except ε β}

theorem refl (x : Except ε α) : Same (· = ·) x x := by
  cases x with
  | error e => exact .error e
  | ok a => exact .ok rfl

theorem eq_error {e : ε} (h : Same Q (.error e) y) : y = .error e := by
  cases h
  rfl

theorem exists_ok {a : α} (h : Same Q (.ok a) y) : ∃ b, y = .ok b ∧ Q a b := by
  cases h with
  | ok h => exact ⟨_, rfl, h⟩

theorem bind {f : α → Except ε α'} {g : β → Except ε β'} (h : Same Q x y)
    (hNext : ∀ a b, Q a b → Same Q' (f a) (g b)) : Same Q' (x >>= f) (y >>= g) := by
  cases h with
  | error e => exact .error e
  | ok h => exact hNext _ _ h

theorem map {f : α → α'} {g : β → β'} (h : Same Q x y) (hNext : ∀ a b, Q a b → Q' (f a) (g b)) :
    Same Q' (x.map f) (y.map g) := by
  cases h with
  | error e => exact .error e
  | ok h => exact .ok (hNext _ _ h)

end Same

/-! ### Plans that differ in their values -/

variable {ω ω' : Type} {R : ω → ω' → Prop}

def EntryAlike (R : ω → ω' → Prop) (p : String × ω) (q : String × ω') : Prop :=
  p.1 = q.1 ∧ R p.2 q.2

def FieldsAlike (R : ω → ω' → Prop) (fields : Fields ω) (fields' : Fields ω') : Prop :=
  List.Forall₂ (EntryAlike R) fields.toList fields'.toList

structure NodePattern.Alike (R : ω → ω' → Prop) (p : NodePattern ω) (q : NodePattern ω') :
    Prop where
  name : p.name = q.name
  labels : p.labels = q.labels
  properties : FieldsAlike R p.properties q.properties

structure Condition.Alike (R : ω → ω' → Prop) (c : Condition ω) (d : Condition ω') : Prop where
  field : c.field = d.field
  comparison : c.comparison = d.comparison
  operand : R c.operand d.operand

structure Clause.Alike (R : ω → ω' → Prop) (c : Clause ω) (d : Clause ω') : Prop where
  conditions : List.Forall₂ (Condition.Alike R) c.conditions d.conditions
  junction : c.junction = d.junction

/-- The plans are the same but for the values of properties and conditions, which are related. -/
structure Plan.Alike (R : ω → ω' → Prop) (p : Plan ω) (q : Plan ω') : Prop where
  nodes : List.Forall₂ (NodePattern.Alike R) p.nodes q.nodes
  edges : p.edges = q.edges
  filter : Option.Rel (Clause.Alike R) p.filter q.filter
  columns : p.columns = q.columns
  order : p.order = q.order
  skip : p.skip = q.skip
  limit : p.limit = q.limit

theorem forall₂_insertEntry {entries : List (String × ω)} {entries' : List (String × ω')}
    {name : String} {x : ω} {y : ω'} (h : List.Forall₂ (EntryAlike R) entries entries')
    (hxy : R x y) : List.Forall₂ (EntryAlike R) (Fields.insertEntry name x entries)
      (Fields.insertEntry name y entries') := by
  induction h with
  | nil => exact .cons ⟨rfl, hxy⟩ .nil
  | @cons p q rest rest' hpq hRest ih =>
    have hName : p.1 = q.1 := hpq.1
    rw [Fields.insertEntry, Fields.insertEntry, hName]
    split
    · exact .cons ⟨rfl, hxy⟩ (.cons hpq hRest)
    · split
      · exact .cons ⟨rfl, hxy⟩ hRest
      · exact .cons hpq ih

theorem fieldsAlike_ofList {entries : List (String × ω)} {entries' : List (String × ω')}
    (h : List.Forall₂ (EntryAlike R) entries entries') :
    FieldsAlike R (.ofList entries) (.ofList entries') := by
  have hFold : ∀ (fields : Fields ω) (fields' : Fields ω'), FieldsAlike R fields fields' →
      FieldsAlike R (fields.insertAll entries) (fields'.insertAll entries') := by
    induction h with
    | nil => exact fun _ _ hFields => hFields
    | @cons p q rest rest' hpq _ ih =>
      intro fields fields' hFields
      have hName : p.1 = q.1 := hpq.1
      refine ih (fields.insert p.1 p.2) (fields'.insert q.1 q.2) ?_
      rw [hName]
      exact forall₂_insertEntry hFields hpq.2
  exact hFold _ _ .nil

/-! ### Plans with values put in -/

theorem map_eq_map_of_forall₂ {f : α → α'} {g : β → α'} {Q : α → β → Prop} {xs : List α}
    {ys : List β} (h : List.Forall₂ Q xs ys) (hfg : ∀ x y, Q x y → f x = g y) :
    xs.map f = ys.map g := by
  induction h with
  | nil => rfl
  | cons hxy _ ih => rw [List.map_cons, List.map_cons, hfg _ _ hxy, ih]

section

variable {τ : Type} {f : ω → τ} {g : ω' → τ}

theorem NodePattern.Alike.map_eq_map {p : NodePattern ω} {q : NodePattern ω'}
    (h : NodePattern.Alike R p q) (hfg : ∀ x y, R x y → f x = g y) : p.map f = q.map g := by
  have hProperties : p.properties.map f = q.properties.map g := by
    refine Fields.ext_toList ?_
    rw [Fields.toList_map, Fields.toList_map]
    exact map_eq_map_of_forall₂ h.properties fun _ _ hEntry =>
      Prod.ext hEntry.1 (hfg _ _ hEntry.2)
  rw [NodePattern.map, NodePattern.map, hProperties, h.name, h.labels]

theorem Condition.Alike.map_eq_map {c : Condition ω} {d : Condition ω'}
    (h : Condition.Alike R c d) (hfg : ∀ x y, R x y → f x = g y) : c.map f = d.map g := by
  rw [Condition.map, Condition.map, hfg _ _ h.operand, h.field, h.comparison]

theorem Clause.Alike.map_eq_map {c : Clause ω} {d : Clause ω'} (h : Clause.Alike R c d)
    (hfg : ∀ x y, R x y → f x = g y) : c.map f = d.map g := by
  rw [Clause.map, Clause.map, h.junction,
    map_eq_map_of_forall₂ h.conditions fun _ _ hCondition => hCondition.map_eq_map hfg]

theorem Plan.Alike.map_eq_map {p : Plan ω} {q : Plan ω'} (h : Plan.Alike R p q)
    (hfg : ∀ x y, R x y → f x = g y) : p.map f = q.map g := by
  have hNodes : p.nodes.map (·.map f) = q.nodes.map (·.map g) :=
    map_eq_map_of_forall₂ h.nodes fun _ _ hNode => hNode.map_eq_map hfg
  have hFilter : p.filter.map (·.map f) = q.filter.map (·.map g) := by
    have hRel := h.filter
    generalize p.filter = filter at hRel ⊢
    generalize q.filter = filter' at hRel ⊢
    cases hRel with
    | none => rfl
    | some hClause => rw [Option.map_some, Option.map_some, hClause.map_eq_map hfg]
  rw [Plan.map, Plan.map, hNodes, hFilter, h.edges, h.columns, h.order, h.skip, h.limit]

end

theorem NodePattern.map_id (p : NodePattern ω) : p.map id = p := by
  rw [NodePattern.map, Fields.map_eq_self fun _ _ => rfl]

theorem Clause.map_id (c : Clause ω) : c.map id = c := by
  have hConditions : c.conditions.map (·.map id) = c.conditions := List.map_id c.conditions
  rw [Clause.map, hConditions]

theorem Plan.map_id (p : Plan ω) : p.map id = p := by
  have hNodes : p.nodes.map (·.map id) = p.nodes := by
    simp only [NodePattern.map_id, List.map_id']
  have hFilter : p.filter.map (·.map id) = p.filter := by
    simp only [Clause.map_id, Option.map_id']
  rw [Plan.map, hNodes, hFilter]

theorem Plan.Alike.map_eq {p : Plan ω} {q : Plan ω'} {f : ω → ω'} (h : Plan.Alike R p q)
    (hf : ∀ x y, R x y → f x = y) : p.map f = q :=
  (h.map_eq_map hf).trans q.map_id

theorem Plan.Alike.eq {p q : Plan ω} (h : Plan.Alike (· = ·) p q) : p = q :=
  p.map_id.symm.trans (h.map_eq fun _ _ hxy => hxy)

namespace Parser

/-! ### Steps -/

variable {m : Meaning ω} {m' : Meaning ω'} {ts us : Tokens} {Q : α → β → Prop}

/-- The meanings give related values to literals and to the parameters that come in the tokens. -/
structure Agrees (R : ω → ω' → Prop) (m : Meaning ω) (m' : Meaning ω') (ts : Tokens) : Prop where
  literal : ∀ v, R (m.literal v) (m'.literal v)
  parameter : ∀ name, Token.param name ∈ kinds ts →
    Option.Rel R (m.parameter? name) (m'.parameter? name)

theorem Agrees.rest {ps : List Token} (h : Agrees R m m' ts) (hts : kinds ts = ps ++ kinds us) :
    Agrees R m m' us where
  literal := h.literal
  parameter name hName := h.parameter name (hts ▸ List.mem_append_right _ hName)

theorem Agrees.next {t : Token} (h : Agrees R m m' ts) (hts : kinds ts = t :: kinds us) :
    Agrees R m m' us := by
  have hAppend : kinds ts = [t] ++ kinds us := hts
  exact h.rest hAppend

/-- What two steps find is related, and they stop before the same tokens, on which the meanings
agree. -/
structure Along (R : ω → ω' → Prop) (m : Meaning ω) (m' : Meaning ω') (Q : α → β → Prop)
    (p : α × Tokens) (q : β × Tokens) : Prop where
  found : Q p.1 q.1
  rest : p.2 = q.2
  agrees : Agrees R m m' p.2

/-- On tokens on which the meanings agree, the steps go the same way. -/
def Parallel (R : ω → ω' → Prop) (m : Meaning ω) (m' : Meaning ω') (Q : α → β → Prop)
    (step : Tokens → Except ParseError (α × Tokens))
    (step' : Tokens → Except ParseError (β × Tokens)) : Prop :=
  ∀ ts, Agrees R m m' ts → Same (Along R m m' Q) (step ts) (step' ts)

/-- After steps that go the same way, the same comes next. -/
theorem Parallel.bind {step : Tokens → Except ParseError (α × Tokens)}
    {step' : Tokens → Except ParseError (β × Tokens)} {Q' : α' → β' → Prop}
    {f : α × Tokens → Except ParseError α'} {g : β × Tokens → Except ParseError β'}
    (hStep : Parallel R m m' Q step step') (h : Agrees R m m' ts)
    (hNext : ∀ x y us, Q x y → Agrees R m m' us → Same Q' (f (x, us)) (g (y, us))) :
    Same Q' (step ts >>= f) (step' ts >>= g) := by
  refine (hStep ts h).bind ?_
  rintro ⟨x, us⟩ ⟨y, us'⟩ ⟨hFound, hRest, hAgrees⟩
  obtain rfl : us = us' := hRest
  exact hNext x y us hFound hAgrees

theorem parallel_self {step : Tokens → Except ParseError (α × Tokens)}
    (hStep : ∀ {ts us x}, step ts = .ok (x, us) → Agrees R m m' ts → Agrees R m m' us) :
    Parallel R m m' (· = ·) step step := by
  intro ts h
  cases hFound : step ts with
  | error e => exact .error e
  | ok found => exact .ok ⟨rfl, rfl, hStep hFound h⟩

theorem Reads.parallel {step : Tokens → Except ParseError (α × Tokens)} {phrase : Phrase α}
    {more : Token → Bool} (hReads : Reads step phrase more) :
    Parallel R m m' (· = ·) step step := by
  refine parallel_self fun hFound h => ?_
  obtain ⟨ps, _, hts⟩ := hReads.sound hFound
  exact h.rest hts

theorem bind_self {Q' : α' → β' → Prop} {x : Except ParseError Tokens}
    {f : Tokens → Except ParseError α'} {g : Tokens → Except ParseError β'}
    (hRest : ∀ us, x = .ok us → Agrees R m m' us)
    (hNext : ∀ us, Agrees R m m' us → Same Q' (f us) (g us)) : Same Q' (x >>= f) (x >>= g) := by
  cases x with
  | error e => exact .error e
  | ok us => exact hNext us (hRest us rfl)

theorem bind_expect {Q' : α' → β' → Prop} {token : Token} {what : String}
    {f : Tokens → Except ParseError α'} {g : Tokens → Except ParseError β'}
    (h : Agrees R m m' ts) (hNext : ∀ us, Agrees R m m' us → Same Q' (f us) (g us)) :
    Same Q' (expect token what ts >>= f) (expect token what ts >>= g) :=
  bind_self (fun _ hExpect => h.next (expect_sound hExpect)) hNext

theorem bind_expectKeyword {Q' : α' → β' → Prop} {keyword : String}
    {f : Tokens → Except ParseError α'} {g : Tokens → Except ParseError β'}
    (h : Agrees R m m' ts) (hNext : ∀ us, Agrees R m m' us → Same Q' (f us) (g us)) :
    Same Q' (expectKeyword keyword ts >>= f) (expectKeyword keyword ts >>= g) := by
  refine bind_self (fun us hExpect => ?_) hNext
  obtain ⟨t, _, hts⟩ := expectKeyword_sound hExpect
  exact h.next hts

theorem agrees_of_lead {lead? : Tokens → Option Tokens} {lead : Token → Bool}
    (hLead : Accepts lead? lead) (h : Agrees R m m' ts) (hNext : lead? ts = some us) :
    Agrees R m m' us := by
  obtain ⟨t, _, hts⟩ := hLead.sound hNext
  exact h.next hts

/-! ### Ways of putting steps together -/

theorem parallel_many {step : Tokens → Except ParseError (Option (α × Tokens))}
    {step' : Tokens → Except ParseError (Option (β × Tokens))}
    (hStep : ∀ ts, Agrees R m m' ts →
      Same (Option.Rel (Along R m m' Q)) (step ts) (step' ts)) (fuel : Nat) :
    Parallel R m m' (List.Forall₂ Q) (many step fuel) (many step' fuel) := by
  induction fuel with
  | zero =>
    intro ts h
    exact .ok ⟨.nil, rfl, h⟩
  | succ fuel ih =>
    intro ts h
    unfold many
    refine (hStep ts h).bind ?_
    intro found found' hFound
    cases hFound with
    | none => exact .ok ⟨.nil, rfl, h⟩
    | @some p q hAlong =>
      obtain ⟨x, us⟩ := p
      obtain ⟨y, us'⟩ := q
      obtain ⟨hFirst, hRest, hAgrees⟩ := hAlong
      obtain rfl : us = us' := hRest
      refine ih.bind hAgrees ?_
      intro xs ys vs hMore hEnd
      exact .ok ⟨.cons hFirst hMore, rfl, hEnd⟩

theorem parallel_separated {lead? : Tokens → Option Tokens} {lead : Token → Bool}
    {element : Tokens → Except ParseError (α × Tokens)}
    {element' : Tokens → Except ParseError (β × Tokens)} (hLead : Accepts lead? lead)
    (hElement : Parallel R m m' Q element element') :
    Parallel R m m' (List.Forall₂ Q) (separated lead? element) (separated lead? element') := by
  intro ts h
  unfold separated
  refine hElement.bind h ?_
  intro x y us hFirst hAgrees
  refine (parallel_many (Q := Q) ?_ us.length).bind hAgrees ?_
  · intro ts h
    cases hNext : lead? ts with
    | none => exact .ok .none
    | some us => exact (hElement us (agrees_of_lead hLead h hNext)).map fun _ _ => .some
  · intro xs ys vs hMore hEnd
    exact .ok ⟨.cons hFirst hMore, rfl, hEnd⟩

theorem parallel_optional {clause : Tokens → Except ParseError (α × Tokens)}
    {clause' : Tokens → Except ParseError (β × Tokens)} (keyword : String)
    (hClause : Parallel R m m' Q clause clause') :
    Parallel R m m' (Option.Rel Q) (optional keyword clause) (optional keyword clause') := by
  intro ts h
  unfold optional
  cases hNext : acceptKeyword? keyword ts with
  | none => exact .ok ⟨.none, rfl, h⟩
  | some us =>
    refine (hClause us (agrees_of_lead (accepts_acceptKeyword? keyword) h hNext)).map ?_
    intro p q hAlong
    exact ⟨.some hAlong.found, hAlong.rest, hAlong.agrees⟩

/-! ### Values -/

theorem parallel_value : Parallel R m m' R (value m) (value m') := by
  intro ts h
  cases ts with
  | nil => exact .error _
  | cons t ts =>
    obtain ⟨token, offset, source⟩ := t
    have hRest : Agrees R m m' ts := h.next rfl
    cases token with
    | str s => exact .ok ⟨h.literal _, rfl, hRest⟩
    | int i => exact .ok ⟨h.literal _, rfl, hRest⟩
    | float x => exact .ok ⟨h.literal _, rfl, hRest⟩
    | ident word => exact .ok ⟨h.literal _, rfl, hRest⟩
    | param name =>
      have hParam := h.parameter name List.mem_cons_self
      simp only [value]
      generalize m.parameter? name = x at hParam ⊢
      generalize m'.parameter? name = y at hParam ⊢
      cases hParam with
      | none => exact .error _
      | some hxy => exact .ok ⟨hxy, rfl, hRest⟩
    | dash =>
      cases ts with
      | nil => exact .error _
      | cons t ts =>
        obtain ⟨token, offset, source⟩ := t
        have hRest' : Agrees R m m' ts := hRest.next rfl
        cases token with
        | int i => exact .ok ⟨h.literal _, rfl, hRest'⟩
        | float x => exact .ok ⟨h.literal _, rfl, hRest'⟩
        | _ => exact .error _
    | _ => exact .error _

theorem parallel_property : Parallel R m m' (EntryAlike R) (property m) (property m') := by
  intro ts h
  unfold property
  refine (reads_expectIdent _).parallel.bind h ?_
  rintro name _ us rfl hAgrees
  refine bind_expect hAgrees fun us hAgrees => ?_
  refine parallel_value.bind hAgrees ?_
  intro x y us hxy hAgrees
  exact .ok ⟨⟨rfl, hxy⟩, rfl, hAgrees⟩

/-! ### Patterns -/

theorem parallel_braced : Parallel R m m' (FieldsAlike R) (braced m) (braced m') := by
  intro ts h
  unfold braced
  cases hLeft : accept? .leftBrace ts with
  | none => exact .ok ⟨.nil, rfl, h⟩
  | some us =>
    have hAgrees := agrees_of_lead (accepts_accept? .leftBrace) h hLeft
    unfold properties
    dsimp only
    cases hRight : accept? .rightBrace us with
    | some vs => exact .ok ⟨.nil, rfl, agrees_of_lead (accepts_accept? .rightBrace) hAgrees hRight⟩
    | none =>
      refine (parallel_separated (accepts_accept? .comma) parallel_property).bind hAgrees ?_
      intro entries entries' us hEntries hAgrees
      refine bind_expect hAgrees fun us hAgrees => ?_
      exact .ok ⟨fieldsAlike_ofList hEntries, rfl, hAgrees⟩

theorem parallel_node : Parallel R m m' (NodePattern.Alike R) (node m) (node m') := by
  intro ts h
  rw [node_eq, node_eq]
  refine bind_expect h fun us hAgrees => ?_
  obtain ⟨ps, _, hName⟩ := optionalIdent_sound us
  refine (reads_optionalKind "label").parallel.bind (hAgrees.rest hName) ?_
  rintro label _ us rfl hAgrees
  refine parallel_braced.bind hAgrees ?_
  intro properties properties' us hProperties hAgrees
  refine bind_expect hAgrees fun us hAgrees => ?_
  exact .ok ⟨⟨rfl, rfl, hProperties⟩, rfl, hAgrees⟩

def HopAlike (R : ω → ω' → Prop) (p : EdgePattern × NodePattern ω)
    (q : EdgePattern × NodePattern ω') : Prop :=
  p.1 = q.1 ∧ NodePattern.Alike R p.2 q.2

structure Chain.Alike (R : ω → ω' → Prop) (c : Chain ω) (d : Chain ω') : Prop where
  first : NodePattern.Alike R c.first d.first
  hops : List.Forall₂ (HopAlike R) c.hops d.hops

theorem parallel_edgeFrom (incoming : Bool) :
    Parallel R m m' (· = ·) (edgeFrom incoming) (edgeFrom incoming) := by
  refine parallel_self fun hFound h => ?_
  obtain ⟨ps, _, hts⟩ := edgeFrom_sound hFound
  exact h.rest hts

theorem same_hop (incoming : Bool) (h : Agrees R m m' ts) :
    Same (Option.Rel (Along R m m' (HopAlike R))) (hop?.hop m incoming ts)
      (hop?.hop m' incoming ts) := by
  unfold hop?.hop
  refine (parallel_edgeFrom incoming).bind h ?_
  rintro edge _ us rfl hAgrees
  refine parallel_node.bind hAgrees ?_
  intro node node' us hNode hAgrees
  exact .ok (.some ⟨⟨rfl, hNode⟩, rfl, hAgrees⟩)

theorem same_hop? (h : Agrees R m m' ts) :
    Same (Option.Rel (Along R m m' (HopAlike R))) (hop? m ts) (hop? m' ts) := by
  unfold hop?
  cases hLeft : accept? .leftArrow ts with
  | some us => exact same_hop true (agrees_of_lead (accepts_accept? .leftArrow) h hLeft)
  | none =>
    cases hDash : accept? .dash ts with
    | some us => exact same_hop false (agrees_of_lead (accepts_accept? .dash) h hDash)
    | none => exact .ok .none

theorem parallel_chain : Parallel R m m' (Chain.Alike R) (chain m) (chain m') := by
  intro ts h
  unfold chain
  refine parallel_node.bind h ?_
  intro first first' us hFirst hAgrees
  refine (parallel_many (fun _ => same_hop?) us.length).bind hAgrees ?_
  intro hops hops' us hHops hAgrees
  exact .ok ⟨⟨hFirst, hHops⟩, rfl, hAgrees⟩

/-! ### Clauses -/

theorem parallel_comparison : Parallel R m m' (· = ·) comparison comparison := by
  refine parallel_self fun hFound h => ?_
  rcases comparison_sound hFound with ⟨ps, _, hts⟩ | ⟨_, qs, hts, hus⟩
  · exact h.rest hts
  · refine ⟨h.literal, fun name hName => h.parameter name ?_⟩
    rw [hus, List.mem_cons] at hName
    rw [hts]
    exact List.mem_cons_of_mem _ (hName.resolve_left (by simp))

theorem parallel_condition : Parallel R m m' (Condition.Alike R) (condition m) (condition m') := by
  intro ts h
  unfold condition
  refine reads_path.parallel.bind h ?_
  rintro field _ us rfl hAgrees
  refine parallel_comparison.bind hAgrees ?_
  rintro operator _ us rfl hAgrees
  refine parallel_value.bind hAgrees ?_
  intro x y us hxy hAgrees
  exact .ok ⟨⟨rfl, rfl, hxy⟩, rfl, hAgrees⟩

theorem parallel_conditions (keyword : String) :
    Parallel R m m' (List.Forall₂ (Condition.Alike R))
      (separated (acceptKeyword? keyword) (condition m))
      (separated (acceptKeyword? keyword) (condition m')) :=
  parallel_separated (accepts_acceptKeyword? keyword) parallel_condition

theorem parallel_clause : Parallel R m m' (Clause.Alike R) (clause m) (clause m') := by
  intro ts h
  unfold clause
  refine (parallel_conditions "AND").bind h ?_
  intro conditions conditions' us hConditions hAgrees
  dsimp only
  cases hOr : acceptKeyword? "OR" us with
  | none => exact .ok ⟨⟨hConditions, rfl⟩, rfl, hAgrees⟩
  | some vs =>
    rw [hConditions.length_eq]
    dsimp only
    split
    · exact .error _
    · refine (parallel_conditions "OR").bind
        (agrees_of_lead (accepts_acceptKeyword? "OR") hAgrees hOr) ?_
      intro more more' us hMore hAgrees
      dsimp only
      cases acceptKeyword? "AND" us with
      | some _ => exact .error _
      | none => exact .ok ⟨⟨List.rel_append hConditions hMore, rfl⟩, rfl, hAgrees⟩

/-! ### Queries -/

theorem forall₂_nodes {chains : List (Chain ω)} {chains' : List (Chain ω')}
    (h : List.Forall₂ (Chain.Alike R) chains chains') :
    List.Forall₂ (NodePattern.Alike R) (chains.flatMap fun c => c.first :: c.hops.map (·.2))
      (chains'.flatMap fun c => c.first :: c.hops.map (·.2)) := by
  refine List.rel_flatMap h ?_
  intro c d hChain
  refine .cons hChain.first ?_
  exact List.forall₂_map_left_iff.2 (List.forall₂_map_right_iff.2
    (hChain.hops.imp fun _ _ hHop => hHop.2))

theorem edges_eq {chains : List (Chain ω)} {chains' : List (Chain ω')}
    (h : List.Forall₂ (Chain.Alike R) chains chains') :
    (chains.flatMap fun c => c.hops.map (·.1)) = chains'.flatMap fun c => c.hops.map (·.1) := by
  induction h with
  | nil => rfl
  | cons hChain _ ih =>
    have hEdges := map_eq_map_of_forall₂ hChain.hops fun _ _ hHop => hHop.1
    rw [List.flatMap_cons, List.flatMap_cons, hEdges, ih]

/-- **With meanings that agree, a query is parsed in the same way.** -/
theorem query_alike (h : Agrees R m m' ts) : Same (Plan.Alike R) (query m ts) (query m' ts) := by
  unfold query
  refine bind_expectKeyword h fun us hAgrees => ?_
  refine (parallel_separated (accepts_accept? .comma) parallel_chain).bind hAgrees ?_
  intro chains chains' us hChains hAgrees
  refine (parallel_optional "WHERE" parallel_clause).bind hAgrees ?_
  intro filter filter' us hFilter _
  -- what comes after the conditions holds no values
  refine (Same.refl _).bind ?_
  rintro ⟨columns, us⟩ _ rfl
  refine (Same.refl _).bind ?_
  rintro ⟨order, us⟩ _ rfl
  refine (Same.refl _).bind ?_
  rintro ⟨⟨skip, limit⟩, us⟩ _ rfl
  cases us with
  | cons extra rest => exact .error _
  | nil => exact .ok ⟨forall₂_nodes hChains, edges_eq hChains, hFilter, rfl, rfl, rfl, rfl⟩

end Parser

/-! ### Parameters that are filled in -/

open CodeGraph.Query.Parser

/-- What a query with parameters puts in the place of an operand: a literal as it is, and for a
parameter, which is one of the tokens, its own value. -/
inductive Fills (written : List Token) (params : Params) : Operand → Value → Prop
  | literal (v : Value) : Fills written params (.literal v) v
  | parameter {name : String} {json : Json} (hWritten : .param name ∈ written)
      (hFind : params.find? name = some json) :
      Fills written params (.parameter name) (.ofParameter json)

variable {params : Params} {bound : String → Bool} {ts : Tokens}

theorem resolve_of_fills {written : List Token} {operand : Operand} {v : Value}
    (h : Fills written params operand v) : operand.resolve params = v := by
  cases h with
  | literal v => rfl
  | parameter _ hFind => rw [Operand.resolve, hFind]; rfl

theorem agrees_template (params : Params) (hBound : ∀ name, bound name = params.contains name)
    (ts : Tokens) :
    Agrees (Fills (kinds ts) params) (.template bound) (.ofParams params) ts where
  literal v := .literal v
  parameter name hName := by
    have hContains : bound name = (params.find? name).isSome := by
      rw [hBound, Fields.contains_eq_isSome]
    rw [Meaning.template, Meaning.ofParams]
    dsimp only
    cases hFind : params.find? name with
    | none =>
      rw [hContains, hFind]
      exact .none
    | some json =>
      rw [hContains, hFind]
      exact .some (.parameter hName hFind)

/-- **The plan of a query is its template with the values of the parameters in place.** -/
theorem query_ofParams (params : Params) (ts : Tokens) :
    query (.ofParams params) ts =
      (query (.template params.contains) ts).map (·.map (·.resolve params)) := by
  have hSame := query_alike (agrees_template params (fun _ => rfl) ts)
  cases hTemplate : query (.template params.contains) ts with
  | error e =>
    rw [hTemplate] at hSame
    exact hSame.eq_error
  | ok template =>
    rw [hTemplate] at hSame
    obtain ⟨plan, hPlan, hAlike⟩ := hSame.exists_ok
    rw [hPlan, ← hAlike.map_eq fun _ _ => resolve_of_fills]
    rfl

end CodeGraph.Query
