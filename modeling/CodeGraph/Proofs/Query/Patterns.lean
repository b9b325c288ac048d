import CodeGraph.Proofs.Query.Reading

/-!
# Reading patterns

Names, paths, values, nodes, edges and operators: for each rule of the grammar the step of the
parser that `Reads` its phrases.  Most of these phrases have an end of their own (`never`); a path
goes on with a point, and a pattern with an edge (`beginsEdge`).
-/

namespace CodeGraph.Query.Parser

open Grammar

variable {ts us : Tokens} {t : Token} {ps qs : List Token} {bound : String → Bool}

/-! ### Keywords and names -/

def isName : Token → Bool
  | .ident _ => true
  | _ => false

theorem isName_of_isKeyword {keyword : String} (h : t.isKeyword keyword = true) :
    ∃ name, t = .ident name := by
  cases t with
  | ident name => exact ⟨name, rfl⟩
  | _ => cases h

theorem ne_of_isKeyword {keyword : String} {sign : Token} (h : t.isKeyword keyword = true)
    (hSign : isName sign = false) : (t == sign) = false := by
  obtain ⟨name, rfl⟩ := isName_of_isKeyword h
  rw [beq_eq_false_iff_ne]
  rintro rfl
  cases hSign

theorem isKeyword_eq {keyword : String} (h : t.isKeyword keyword = true) (other : String) :
    t.isKeyword other = (Token.ident keyword).isKeyword other := by
  obtain ⟨name, rfl⟩ := isName_of_isKeyword h
  have hName : name.toList.map Char.toLower = keyword.toList.map Char.toLower := beq_iff_eq.1 h
  simp only [Token.isKeyword, hName]

theorem acceptIdent?_sound {name : String} (h : acceptIdent? ts = some (name, us)) :
    kinds ts = .ident name :: kinds us := by
  unfold acceptIdent? at h
  split at h
  · cases h
    rfl
  · cases h

theorem acceptIdent?_complete {name : String} (h : kinds ts = .ident name :: qs) :
    ∃ us, acceptIdent? ts = some (name, us) ∧ kinds us = qs := by
  obtain ⟨offset, source, rest, rfl, hRest⟩ := exists_of_kinds_eq_cons h
  exact ⟨rest, rfl, hRest⟩

theorem acceptIdent?_eq_none (h : Clear isName (kinds ts)) : acceptIdent? ts = none := by
  unfold acceptIdent?
  split
  · next name offset source rest =>
    have hName : isName (.ident name) = false := h (.ident name) rfl
    cases hName
  · rfl

theorem reads_expectIdent (what : String) : Reads (expectIdent what) IsName never where
  sound := by
    intro ts us name h
    unfold expectIdent at h
    split at h
    · next found hFound =>
      cases h
      exact ⟨[.ident name], .mk name, acceptIdent?_sound hFound⟩
    · cases h
  complete := by
    rintro ts _ qs _ ⟨name⟩ _ hts
    obtain ⟨us, hAccept, hus⟩ := acceptIdent?_complete hts
    exact ⟨us, by rw [expectIdent, hAccept], hus⟩

theorem optionalIdent_sound (ts : Tokens) :
    ∃ ps, Opt IsName ps (optionalIdent ts).1 ∧ kinds ts = ps ++ kinds (optionalIdent ts).2 := by
  unfold optionalIdent
  split
  · next name us hAccept =>
    exact ⟨[.ident name], .present (.mk name), acceptIdent?_sound hAccept⟩
  · exact ⟨[], .absent, rfl⟩

theorem optionalIdent_complete {name : Option String} (h : Opt IsName ps name)
    (hClear : Clear isName qs) (hts : kinds ts = ps ++ qs) :
    ∃ us, optionalIdent ts = (name, us) ∧ kinds us = qs := by
  cases h with
  | absent =>
    have hNone : acceptIdent? ts = none := acceptIdent?_eq_none (hts ▸ hClear)
    exact ⟨ts, by rw [optionalIdent, hNone], hts⟩
  | present hName =>
    obtain ⟨name⟩ := hName
    obtain ⟨us, hAccept, hus⟩ := acceptIdent?_complete hts
    exact ⟨us, by rw [optionalIdent, hAccept], hus⟩

theorem clear_opt {α : Type} {phrase : Phrase α} {lead more : Token → Bool} {x : Option α}
    (hApart : ∀ t, lead t = true → more t = false) (h : Opt (Led lead phrase) ps x)
    (hClear : Clear more qs) : Clear more (ps ++ qs) := by
  cases h with
  | absent => exact hClear
  | present hPhrase =>
    obtain ⟨hLead, _⟩ := hPhrase
    exact clear_cons (hApart _ hLead)

/-! ### Paths and values -/

theorem reads_path : Reads path IsPath (· == .dot) where
  sound := by
    intro ts us text h
    obtain ⟨⟨names, us'⟩, hNames, h⟩ := map_eq_ok h
    cases h
    obtain ⟨ps, hps, hts⟩ :=
      (reads_separated (accepts_accept? .dot) (reads_expectIdent _) fun _ _ => rfl).sound hNames
    exact ⟨ps, .mk hps, hts⟩
  complete := by
    rintro ts ps qs _ ⟨hps⟩ hClear hts
    obtain ⟨us, hNames, hus⟩ :=
      (reads_separated (accepts_accept? .dot) (reads_expectIdent "field name")
        fun _ _ => rfl).complete hps (hClear.mono fun t ht => ht) hts
    exact ⟨us, by rw [path, hNames]; rfl, hus⟩

theorem path_begins {text : String} (h : IsPath ps text) :
    ∃ name rest, ps = .ident name :: rest ∧ (rest = [] ∨ ∃ rest', rest = .dot :: rest') := by
  obtain ⟨hNames⟩ := h
  obtain @⟨_, _, name, _, hName, hRest⟩ := hNames
  cases hName
  cases hRest with
  | nil => exact ⟨name, [], rfl, Or.inl rfl⟩
  | cons hLed hMore =>
    obtain ⟨hDot, hName⟩ := hLed
    obtain rfl := beq_iff_eq.1 hDot
    exact ⟨name, _, rfl, Or.inr ⟨_, rfl⟩⟩

theorem value_ne_nil {x : Operand} (h : IsValue bound ps x) : ps ≠ [] := by
  rintro rfl
  cases h

theorem value_sound {x : Operand} (h : value (.template bound) ts = .ok (x, us)) :
    ∃ ps, IsValue bound ps x ∧ kinds ts = ps ++ kinds us := by
  cases ts with
  | nil => cases h
  | cons t ts =>
    obtain ⟨token, offset, source⟩ := t
    cases token with
    | str s => cases h; exact ⟨[.str s], .str s, rfl⟩
    | int i => cases h; exact ⟨[.int i], .int i, rfl⟩
    | float x => cases h; exact ⟨[.float x], .float x, rfl⟩
    | ident word => cases h; exact ⟨[.ident word], .word word, rfl⟩
    | param name =>
      simp only [value, Meaning.template] at h
      cases hBound : bound name with
      | false =>
        rw [hBound] at h
        cases h
      | true =>
        rw [hBound] at h
        cases h
        exact ⟨[.param name], .param hBound, rfl⟩
    | dash =>
      cases ts with
      | nil => cases h
      | cons t ts =>
        obtain ⟨token, offset, source⟩ := t
        cases token with
        | int i => cases h; exact ⟨[.dash, .int i], .negativeInt i, rfl⟩
        | float x => cases h; exact ⟨[.dash, .float x], .negativeFloat x, rfl⟩
        | _ => cases h
    | _ => cases h

theorem reads_value (bound : String → Bool) :
    Reads (value (.template bound)) (IsValue bound) never where
  sound := value_sound
  complete := by
    intro ts ps qs x h _ hts
    cases h with
    | str | int | float | word =>
      obtain ⟨offset, source, rest, rfl, hRest⟩ := exists_of_kinds_eq_cons hts
      exact ⟨rest, rfl, hRest⟩
    | param hBound =>
      obtain ⟨offset, source, rest, rfl, hRest⟩ := exists_of_kinds_eq_cons hts
      exact ⟨rest, by simp only [value, Meaning.template, hBound, if_true], hRest⟩
    | negativeInt | negativeFloat =>
      obtain ⟨offset, source, rest, rfl, hRest⟩ := exists_of_kinds_eq_cons hts
      obtain ⟨offset', source', rest', rfl, hRest'⟩ := exists_of_kinds_eq_cons hRest
      exact ⟨rest', rfl, hRest'⟩

/-! ### Nodes -/

theorem reads_property (bound : String → Bool) :
    Reads (property (.template bound)) (IsProperty bound) never where
  sound := by
    intro ts us x h
    obtain ⟨⟨name, ts₁⟩, hName, h⟩ := bind_eq_ok h
    obtain ⟨ts₂, hColon, h⟩ := bind_eq_ok h
    obtain ⟨⟨operand, ts₃⟩, hValue, h⟩ := bind_eq_ok h
    cases h
    obtain ⟨_, ⟨name⟩, hts⟩ := (reads_expectIdent _).sound hName
    obtain ⟨ps, hps, hts₂⟩ := value_sound hValue
    refine ⟨.ident name :: .colon :: ps, .mk name hps, ?_⟩
    rw [hts, expect_sound hColon, hts₂]
    rfl
  complete := by
    rintro ts _ qs _ ⟨name, hValue⟩ _ hts
    obtain ⟨ts₁, hName, hts₁⟩ := (reads_expectIdent "property name").complete (.mk name)
      (clear_never _) hts
    obtain ⟨ts₂, hColon, hts₂⟩ := expect_complete "':'" hts₁
    obtain ⟨us, hFound, hus⟩ := (reads_value bound).complete hValue (clear_never _) hts₂
    exact ⟨us, (bind_of_ok hName _).trans ((bind_of_ok hColon _).trans (bind_of_ok hFound _)), hus⟩

def braced {ω : Type} (meaning : Meaning ω) (ts : Tokens) : Except ParseError (Fields ω × Tokens) :=
  match accept? .leftBrace ts with
  | some ts => properties meaning ts
  | none => .ok (∅, ts)

theorem reads_braced (bound : String → Bool) :
    Reads (braced (.template bound)) (IsProperties bound) (· == .leftBrace) where
  sound := by
    intro ts us x h
    unfold braced at h
    split at h
    · next ts₁ hLeft =>
      have hts := accept?_sound hLeft
      unfold properties at h
      split at h
      · next ts₂ hRight =>
        cases h
        have hts₁ := accept?_sound hRight
        exact ⟨_, .empty, by rw [hts, hts₁]; rfl⟩
      · obtain ⟨⟨entries, ts₂⟩, hEntries, h⟩ := bind_eq_ok h
        obtain ⟨ts₃, hRight, h⟩ := bind_eq_ok h
        cases h
        obtain ⟨ps, hps, hts₁⟩ := (reads_separated (accepts_accept? .comma) (reads_property bound)
          fun _ _ => rfl).sound hEntries
        refine ⟨_, .listed hps, ?_⟩
        rw [hts, hts₁, expect_sound hRight]
        simp
    · cases h
      exact ⟨[], .absent, rfl⟩
  complete := by
    intro ts ps qs x h hClear hts
    cases h with
    | absent =>
      have hNone : accept? .leftBrace ts = none :=
        (accepts_accept? .leftBrace).eq_none (hts ▸ hClear)
      exact ⟨ts, by rw [braced, hNone], hts⟩
    | empty =>
      obtain ⟨ts₁, hLeft, hts₁⟩ := accept?_complete hts
      obtain ⟨us, hRight, hus⟩ := accept?_complete hts₁
      exact ⟨us, by simp only [braced, hLeft, properties, hRight], hus⟩
    | @listed ps entries hEntries =>
      rw [List.cons_append, List.cons_append, List.append_assoc] at hts
      obtain ⟨ts₁, hLeft, hts₁⟩ := accept?_complete hts
      -- the properties begin with a name, so the brace does not close at once
      have hNone : accept? .rightBrace ts₁ = none := by
        refine (accepts_accept? .rightBrace).eq_none ?_
        rw [hts₁]
        obtain ⟨hFirst, _⟩ := hEntries
        obtain ⟨name, _⟩ := hFirst
        exact clear_cons rfl
      obtain ⟨ts₂, hFound, hts₂⟩ := (reads_separated (accepts_accept? .comma)
        (reads_property bound) fun _ _ => rfl).complete hEntries (clear_cons rfl) hts₁
      obtain ⟨us, hRight, hus⟩ := expect_complete "'\x7d'" hts₂
      refine ⟨us, ?_, hus⟩
      simp only [braced, hLeft, properties, hNone]
      exact (bind_of_ok hFound _).trans (bind_of_ok hRight _)

theorem reads_optionalKind (what : String) :
    Reads (optionalKind what) (Opt IsKind) (· == .colon) :=
  (reads_led (accepts_accept? .colon) (reads_expectIdent what)).mono fun _ ht => ht

theorem isName_of_colon (t : Token) (ht : (t == .colon) = true) : isName t = false := by
  rw [beq_iff_eq.1 ht]
  rfl

theorem clear_properties {x : Fields Operand} {more : Token → Bool} (h : IsProperties bound ps x)
    (hBrace : more .leftBrace = false) (hClear : Clear more qs) : Clear more (ps ++ qs) := by
  cases h with
  | absent => exact hClear
  | empty | listed => exact clear_cons hBrace

theorem node_eq {ω : Type} (meaning : Meaning ω) (ts : Tokens) :
    node meaning ts = expect .leftParen "'('" ts >>= fun ts =>
      optionalKind "label" (optionalIdent ts).2 >>= fun label =>
      braced meaning label.2 >>= fun properties =>
      expect .rightParen "')'" properties.2 >>= fun us =>
      .ok ({ name := (optionalIdent ts).1, labels := label.1.toList, properties := properties.1 },
        us) := by
  unfold node braced
  refine congrArg _ (funext fun ts => ?_)
  obtain ⟨name, ts⟩ := optionalIdent ts
  dsimp only
  refine congrArg _ (funext fun label => ?_)
  cases accept? .leftBrace label.2 <;> rfl

theorem reads_node (bound : String → Bool) :
    Reads (node (.template bound)) (IsNode bound) never where
  sound := by
    intro ts us x h
    rw [node_eq] at h
    obtain ⟨ts₁, hLeft, h⟩ := bind_eq_ok h
    obtain ⟨⟨label, ts₂⟩, hFound, h⟩ := bind_eq_ok h
    obtain ⟨⟨properties, ts₃⟩, hFound', h⟩ := bind_eq_ok h
    obtain ⟨ts₄, hRight, h⟩ := bind_eq_ok h
    cases h
    obtain ⟨ps, hName, hts₁⟩ := optionalIdent_sound ts₁
    obtain ⟨qs, hLabel, hts₂⟩ := (reads_optionalKind _).sound hFound
    obtain ⟨rs, hProperties, hts₃⟩ := (reads_braced bound).sound hFound'
    refine ⟨_, .mk hName hLabel hProperties, ?_⟩
    rw [expect_sound hLeft, hts₁, hts₂, hts₃, expect_sound hRight]
    simp
  complete := by
    intro ts _ qs x h _ hts
    obtain @⟨ps, ks, rs, name, label, properties, hName, hLabel, hProperties⟩ := h
    simp only [List.cons_append, List.append_assoc, List.nil_append] at hts
    obtain ⟨ts₁, hLeft, hts₁⟩ := expect_complete "'('" hts
    have hAfter : ∀ more : Token → Bool, more .leftBrace = false → more .rightParen = false →
        Clear more (rs ++ .rightParen :: qs) := fun more hBrace hParen =>
      clear_properties hProperties hBrace (clear_cons hParen)
    obtain ⟨ts₂, hFound, hts₂⟩ := optionalIdent_complete hName
      (clear_opt isName_of_colon hLabel (hAfter isName rfl rfl)) hts₁
    obtain ⟨ts₃, hKind, hts₃⟩ := (reads_optionalKind "label").complete hLabel
      (hAfter _ rfl rfl) hts₂
    obtain ⟨ts₄, hBraced, hts₄⟩ := (reads_braced bound).complete hProperties (clear_cons rfl) hts₃
    obtain ⟨us, hRight, hus⟩ := expect_complete "')'" hts₄
    refine ⟨us, ?_, hus⟩
    rw [node_eq, bind_of_ok hLeft, hFound, bind_of_ok hKind, bind_of_ok hBraced, bind_of_ok hRight]

/-! ### Edges -/

theorem reads_edgeBody : Reads edgeBody IsEdgeBody (· == .leftBracket) where
  sound := by
    intro ts us x h
    unfold edgeBody at h
    split at h
    · cases h
      exact ⟨[], .absent, rfl⟩
    · next ts₁ hLeft =>
      have hts := accept?_sound hLeft
      obtain ⟨ps, hName, hts₁⟩ := optionalIdent_sound ts₁
      dsimp only at h
      generalize optionalIdent ts₁ = found at h hName hts₁
      obtain ⟨name, ts₂⟩ := found
      obtain ⟨⟨kind, ts₃⟩, hFound, h⟩ := bind_eq_ok h
      obtain ⟨qs, hKind, hts₂⟩ := (reads_optionalKind _).sound hFound
      obtain ⟨ts₄, hRight, h⟩ := bind_eq_ok h
      cases h
      refine ⟨_, .bracketed hName hKind, ?_⟩
      dsimp only at hts₁
      rw [hts, hts₁, hts₂, expect_sound hRight]
      simp
  complete := by
    intro ts ps qs x h hClear hts
    cases h with
    | absent =>
      have hNone : accept? .leftBracket ts = none :=
        (accepts_accept? .leftBracket).eq_none (hts ▸ hClear)
      exact ⟨ts, by rw [edgeBody, hNone], hts⟩
    | @bracketed ps ks name kind hName hKind =>
      simp only [List.cons_append, List.append_assoc, List.nil_append] at hts
      obtain ⟨ts₁, hLeft, hts₁⟩ := accept?_complete hts
      obtain ⟨ts₂, hFound₂, hts₂⟩ := optionalIdent_complete hName
        (clear_opt isName_of_colon hKind (clear_cons rfl)) hts₁
      obtain ⟨ts₃, hFound₃, hts₃⟩ := (reads_optionalKind "relationship type").complete hKind
        (clear_cons rfl) hts₂
      obtain ⟨us, hRight, hus⟩ := expect_complete "']'" hts₃
      refine ⟨us, ?_, hus⟩
      simp only [edgeBody, hLeft, hFound₂]
      exact (bind_of_ok hFound₃ _).trans (bind_of_ok hRight _)

def leftEnd (incoming : Bool) : Token := if incoming then .leftArrow else .dash

theorem edgeFrom_sound {incoming : Bool} {edge : EdgePattern}
    (h : edgeFrom incoming ts = .ok (edge, us)) :
    ∃ ps, IsEdge (leftEnd incoming :: ps) edge ∧ kinds ts = ps ++ kinds us := by
  obtain ⟨⟨⟨name, kind⟩, ts₁⟩, hBody, h⟩ := bind_eq_ok h
  obtain ⟨ps, hps, hts⟩ := reads_edgeBody.sound hBody
  dsimp only at h
  split at h
  · next ts₂ hArrow =>
    have hts₁ := accept?_sound hArrow
    cases incoming with
    | true => cases h
    | false =>
      cases h
      exact ⟨ps ++ [Token.arrow], .out hps, by rw [hts, hts₁, List.append_assoc]; rfl⟩
  · obtain ⟨ts₂, hDash, h⟩ := bind_eq_ok h
    have hts₁ : kinds ts = (ps ++ [.dash]) ++ kinds ts₂ := by
      rw [hts, expect_sound hDash, List.append_assoc]
      rfl
    cases incoming with
    | true =>
      cases h
      exact ⟨ps ++ [Token.dash], .into hps, hts₁⟩
    | false =>
      cases h
      exact ⟨ps ++ [Token.dash], .both hps, hts₁⟩

theorem edgeFrom_complete {edge : EdgePattern} (h : IsEdge ps edge) :
    ∃ incoming rest, ps = leftEnd incoming :: rest ∧ ∀ {ts : Tokens} {qs : List Token},
      kinds ts = rest ++ qs → ∃ us, edgeFrom incoming ts = .ok (edge, us) ∧ kinds us = qs := by
  -- at a dash the edge has no arrow to end with
  have hDash : ∀ {incoming : Bool} {ps : List Token} {name kind : Option String},
      IsEdgeBody ps (name, kind) → ∀ {ts : Tokens} {qs : List Token},
      kinds ts = ps ++ [.dash] ++ qs → ∃ us, edgeFrom incoming ts =
        .ok ({ name, kind, direction := if incoming then .into else .both }, us) ∧
          kinds us = qs := by
    intro incoming ps name kind hBody ts qs hts
    rw [List.append_assoc] at hts
    obtain ⟨ts₁, hFound, hts₁⟩ := reads_edgeBody.complete hBody (clear_cons rfl) hts
    have hNone : accept? .arrow ts₁ = none :=
      (accepts_accept? .arrow).eq_none (hts₁ ▸ clear_cons rfl)
    obtain ⟨us, hExpect, hus⟩ := expect_complete "'-' or '->'" hts₁
    refine ⟨us, (bind_of_ok hFound _).trans ?_, hus⟩
    dsimp only
    rw [hNone]
    exact bind_of_ok hExpect _
  cases h with
  | into hBody => exact ⟨true, _, rfl, hDash hBody⟩
  | both hBody => exact ⟨false, _, rfl, hDash hBody⟩
  | @out ps name kind hBody =>
    refine ⟨false, ps ++ [Token.arrow], rfl, fun {ts qs} hts => ?_⟩
    rw [List.append_assoc] at hts
    obtain ⟨ts₁, hFound, hts₁⟩ := reads_edgeBody.complete hBody (clear_cons rfl) hts
    obtain ⟨us, hArrow, hus⟩ := accept?_complete hts₁
    refine ⟨us, (bind_of_ok hFound _).trans ?_, hus⟩
    dsimp only
    rw [hArrow]
    rfl

def beginsEdge (t : Token) : Bool := t == .leftArrow || t == .dash

theorem hop_sound {incoming : Bool} {x : EdgePattern × NodePattern Operand}
    (h : hop?.hop (.template bound) incoming ts = .ok (some (x, us))) :
    ∃ ps, IsHop bound (leftEnd incoming :: ps) x ∧ kinds ts = ps ++ kinds us := by
  obtain ⟨⟨edge, ts₁⟩, hEdge, h⟩ := bind_eq_ok h
  obtain ⟨⟨node, ts₂⟩, hNode, h⟩ := bind_eq_ok h
  cases h
  obtain ⟨ps, hps, hts⟩ := edgeFrom_sound hEdge
  obtain ⟨qs, hqs, hts₁⟩ := (reads_node bound).sound hNode
  exact ⟨ps ++ qs, .mk hps hqs, by rw [hts, hts₁, List.append_assoc]⟩

theorem attempts_hop? (bound : String → Bool) :
    Attempts (hop? (.template bound)) (IsHop bound) beginsEdge never where
  sound := by
    intro ts us x h
    unfold hop? at h
    split at h
    · next ts₁ _ hLeft =>
      have hts := accept?_sound hLeft
      obtain ⟨ps, hps, hts₁⟩ := hop_sound h
      exact ⟨_, hps, by rw [hts, hts₁]; rfl⟩
    · next ts₁ _ hDash =>
      have hts := accept?_sound hDash
      obtain ⟨ps, hps, hts₁⟩ := hop_sound h
      exact ⟨_, hps, by rw [hts, hts₁]; rfl⟩
    · cases h
  complete := by
    rintro ts _ qs _ ⟨hEdge, hNode⟩ _ hts
    obtain ⟨incoming, rest, rfl, hFind⟩ := edgeFrom_complete hEdge
    rw [List.append_assoc, List.cons_append] at hts
    obtain ⟨ts₁, hAccept, hts₁⟩ := accept?_complete hts
    obtain ⟨ts₂, hFound, hts₂⟩ := hFind hts₁
    obtain ⟨us, hFound', hus⟩ := (reads_node bound).complete hNode (clear_never _) hts₂
    refine ⟨us, ?_, hus⟩
    have hHop : hop?.hop (.template bound) incoming ts₁ = .ok (some (_, us)) :=
      (bind_of_ok hFound _).trans (bind_of_ok hFound' _)
    cases incoming with
    | true =>
      have hLeft : accept? .leftArrow ts = some ts₁ := hAccept
      simp only [hop?, hLeft, hHop]
    | false =>
      have hNone : accept? .leftArrow ts = none :=
        (accepts_accept? .leftArrow).eq_none (hts ▸ clear_cons rfl)
      have hDash : accept? .dash ts = some ts₁ := hAccept
      simp only [hop?, hNone, hDash, hHop]
  nothing := by
    intro ts hClear
    have hLeft : accept? .leftArrow ts = none :=
      (accepts_accept? .leftArrow).eq_none (hClear.mono fun t ht => by simp_all [beginsEdge])
    have hDash : accept? .dash ts = none :=
      (accepts_accept? .dash).eq_none (hClear.mono fun t ht => by simp_all [beginsEdge])
    rw [hop?, hLeft, hDash]
  begins := by
    rintro _ x ⟨hEdge, hNode⟩
    obtain ⟨incoming, rest, rfl, _⟩ := edgeFrom_complete hEdge
    exact ⟨leftEnd incoming, _, rfl, by cases incoming <;> rfl, rfl⟩

theorem reads_chain (bound : String → Bool) :
    Reads (chain (.template bound)) (IsPattern bound) beginsEdge where
  sound := by
    intro ts us x h
    obtain ⟨⟨first, ts₁⟩, hFirst, h⟩ := bind_eq_ok h
    obtain ⟨⟨hops, ts₂⟩, hHops, h⟩ := bind_eq_ok h
    cases h
    obtain ⟨ps, hps, hts⟩ := (reads_node bound).sound hFirst
    obtain ⟨qs, hqs, hts₁⟩ := many_sound (attempts_hop? bound) hHops
    exact ⟨ps ++ qs, .mk hps hqs, by rw [hts, hts₁, List.append_assoc]⟩
  complete := by
    intro ts _ qs _ h hClear hts
    obtain @⟨ps, rs, first, hops, hFirst, hHops⟩ := h
    rw [List.append_assoc] at hts
    obtain ⟨ts₁, hFound, hts₁⟩ := (reads_node bound).complete hFirst (clear_never _) hts
    have hFuel : rs.length ≤ ts₁.length := by
      rw [← length_kinds, hts₁, List.length_append]
      exact Nat.le_add_right _ _
    obtain ⟨us, hMany, hus⟩ := many_complete (attempts_hop? bound) hHops (clear_never _) hClear
      hts₁ hFuel
    exact ⟨us, (bind_of_ok hFound _).trans (bind_of_ok hMany _), hus⟩

/-! ### Operators -/

theorem namedComparison_sound {comparison : Comparison}
    (h : namedComparison ts = .ok (comparison, us)) :
    ∃ ps, IsOperator ps comparison ∧ kinds ts = ps ++ kinds us := by
  unfold namedComparison at h
  split at h
  · next ts₁ hKeyword =>
    cases h
    obtain ⟨t, ht, hts⟩ := (accepts_acceptKeyword? _).sound hKeyword
    exact ⟨[t], .contains ht, hts⟩
  · split at h
    · next ts₁ hKeyword =>
      cases h
      obtain ⟨t, ht, hts⟩ := (accepts_acceptKeyword? _).sound hKeyword
      exact ⟨[t], .regex ht, hts⟩
    · split at h
      · next ts₁ hKeyword =>
        obtain ⟨ts₂, hWith, h⟩ := map_eq_ok h
        cases h
        obtain ⟨t, ht, hts⟩ := (accepts_acceptKeyword? _).sound hKeyword
        obtain ⟨u, hu, hts₁⟩ := expectKeyword_sound hWith
        exact ⟨[t, u], .startsWith ht hu, by rw [hts, hts₁]; rfl⟩
      · split at h
        · next ts₁ hKeyword =>
          obtain ⟨ts₂, hWith, h⟩ := map_eq_ok h
          cases h
          obtain ⟨t, ht, hts⟩ := (accepts_acceptKeyword? _).sound hKeyword
          obtain ⟨u, hu, hts₁⟩ := expectKeyword_sound hWith
          exact ⟨[t, u], .endsWith ht hu, by rw [hts, hts₁]; rfl⟩
        · cases h

/-- A `<-` is read as a `<` before a dash. -/
theorem comparison_sound {comparison : Comparison}
    (h : Parser.comparison ts = .ok (comparison, us)) :
    (∃ ps, IsOperator ps comparison ∧ kinds ts = ps ++ kinds us) ∨
      comparison = .lt ∧ ∃ qs, kinds ts = .leftArrow :: qs ∧ kinds us = .dash :: qs := by
  cases ts with
  | nil => cases h
  | cons t ts =>
    obtain ⟨token, offset, source⟩ := t
    cases token with
    | eq => cases h; exact Or.inl ⟨_, .eq, rfl⟩
    | ne => cases h; exact Or.inl ⟨_, .ne, rfl⟩
    | gt => cases h; exact Or.inl ⟨_, .gt, rfl⟩
    | lt => cases h; exact Or.inl ⟨_, .lt, rfl⟩
    | ge => cases h; exact Or.inl ⟨_, .ge, rfl⟩
    | le => cases h; exact Or.inl ⟨_, .le, rfl⟩
    | leftArrow => cases h; exact Or.inr ⟨rfl, _, rfl, rfl⟩
    | _ => exact Or.inl (namedComparison_sound h)

end CodeGraph.Query.Parser
