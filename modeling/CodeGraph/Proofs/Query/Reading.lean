import CodeGraph.Proofs.Query.Grammar

/-!
# Reading phrases

A parsing step `Reads` a phrase if what it finds is a phrase at the start of the tokens and, the
other way around, it finds every phrase that stands there with a token after it at which it may
stop.  Only the second half depends on what comes next: a step takes as many tokens as it can, so a
phrase that could go on with the next token is not found.

For each way of putting steps together it is said which phrases they read together (`many_sound`
and `many_complete`, `reads_separated`, `reads_led`).
-/

namespace CodeGraph.Query

variable {ε α β : Type}

/-! ### Results -/

theorem bind_eq_ok {x : Except ε α} {f : α → Except ε β} {b : β} (h : (x >>= f) = .ok b) :
    ∃ a, x = .ok a ∧ f a = .ok b := by
  cases x with
  | error e => cases h
  | ok a => exact ⟨a, rfl, h⟩

theorem bind_of_ok {x : Except ε α} {a : α} (h : x = .ok a) (f : α → Except ε β) :
    (x >>= f) = f a := by
  rw [h]
  rfl

theorem map_eq_ok {x : Except ε α} {f : α → β} {b : β} (h : x.map f = .ok b) :
    ∃ a, x = .ok a ∧ f a = b := by
  cases x with
  | error e => cases h
  | ok a => exact ⟨a, rfl, by cases h; rfl⟩

namespace Parser

open Grammar

variable {ts us : Tokens} {t : Token} {ps qs : List Token} {x : α}

/-! ### Tokens -/

def kinds (ts : Tokens) : List Token := ts.map (·.token)

theorem length_kinds (ts : Tokens) : (kinds ts).length = ts.length := List.length_map _

theorem exists_of_kinds_eq_cons (h : kinds ts = t :: ps) :
    ∃ offset source rest, ts = ⟨t, offset, source⟩ :: rest ∧ kinds rest = ps := by
  obtain ⟨⟨_, offset, source⟩, rest, rfl, rfl, hRest⟩ := List.map_eq_cons_iff.1 h
  exact ⟨offset, source, rest, rfl, hRest⟩

def Clear (test : Token → Bool) (ps : List Token) : Prop := ∀ t ∈ ps.head?, test t = false

theorem clear_nil (test : Token → Bool) : Clear test [] := by
  intro t ht
  cases ht

theorem clear_cons {test : Token → Bool} (h : test t = false) : Clear test (t :: ps) := by
  intro u hu
  obtain rfl := Option.some.inj hu
  exact h

theorem Clear.mono {test test' : Token → Bool} (h : Clear test ps)
    (hTests : ∀ t, test' t = true → test t = true) : Clear test' ps := by
  intro t ht
  have hTest : test t = false := h t ht
  cases hTest' : test' t with
  | false => rfl
  | true => rw [hTests t hTest'] at hTest; cases hTest

/-- What accepts the tokens that pass a test, one at a time. -/
def Accepts (lead? : Tokens → Option Tokens) (lead : Token → Bool) : Prop :=
  ∀ ts, lead? ts =
    match ts with
    | [] => none
    | t :: ts => if lead t.token then some ts else none

theorem accepts_accept? (token : Token) : Accepts (accept? token) (· == token) := by
  intro ts
  cases ts with
  | nil => rfl
  | cons t ts => simp [accept?]

theorem accepts_acceptKeyword? (keyword : String) :
    Accepts (acceptKeyword? keyword) (Token.isKeyword keyword) := by
  intro ts
  cases ts <;> rfl

namespace Accepts

variable {lead? : Tokens → Option Tokens} {lead : Token → Bool}

theorem sound (h : Accepts lead? lead) (hSome : lead? ts = some us) :
    ∃ t, lead t = true ∧ kinds ts = t :: kinds us := by
  rw [h ts] at hSome
  cases ts with
  | nil => cases hSome
  | cons t ts =>
    dsimp only at hSome
    split at hSome
    · next hLead =>
      cases hSome
      exact ⟨t.token, hLead, rfl⟩
    · cases hSome

theorem complete (h : Accepts lead? lead) (hLead : lead t = true) (hts : kinds ts = t :: ps) :
    ∃ rest, lead? ts = some rest ∧ kinds rest = ps := by
  obtain ⟨offset, source, rest, rfl, hRest⟩ := exists_of_kinds_eq_cons hts
  exact ⟨rest, by rw [h]; exact if_pos hLead, hRest⟩

theorem eq_none (h : Accepts lead? lead) (hClear : Clear lead (kinds ts)) : lead? ts = none := by
  rw [h]
  cases ts with
  | nil => rfl
  | cons t ts =>
    have hNot : lead t.token = false := hClear t.token rfl
    simp [hNot]

end Accepts

/-! ### Steps -/

/-- The step finds the phrases, and stops before tokens that do not pass the test. -/
structure Reads (step : Tokens → Except ParseError (α × Tokens)) (phrase : Phrase α)
    (more : Token → Bool) : Prop where
  sound : ∀ {ts us : Tokens} {x : α}, step ts = .ok (x, us) →
    ∃ ps, phrase ps x ∧ kinds ts = ps ++ kinds us
  complete : ∀ {ts : Tokens} {ps qs : List Token} {x : α}, phrase ps x → Clear more qs →
    kinds ts = ps ++ qs → ∃ us, step ts = .ok (x, us) ∧ kinds us = qs

def never : Token → Bool := fun _ => false

theorem clear_never (ps : List Token) : Clear never ps := fun _ _ => rfl

theorem Reads.mono {step : Tokens → Except ParseError (α × Tokens)} {phrase : Phrase α}
    {more more' : Token → Bool} (h : Reads step phrase more)
    (hMore : ∀ t, more t = true → more' t = true) : Reads step phrase more' where
  sound := h.sound
  complete hPhrase hClear := h.complete hPhrase (hClear.mono hMore)

theorem accept?_sound {token : Token} (h : accept? token ts = some us) :
    kinds ts = token :: kinds us := by
  obtain ⟨t, ht, hts⟩ := (accepts_accept? token).sound h
  rw [hts, beq_iff_eq.1 ht]

theorem accept?_complete {token : Token} (h : kinds ts = token :: qs) :
    ∃ us, accept? token ts = some us ∧ kinds us = qs :=
  (accepts_accept? token).complete (beq_self_eq_true token) h

theorem expect_sound {token : Token} {what : String} (h : expect token what ts = .ok us) :
    kinds ts = token :: kinds us := by
  unfold expect at h
  split at h
  · next rest hRest =>
    cases h
    exact accept?_sound hRest
  · cases h

theorem expect_complete {token : Token} (what : String) (h : kinds ts = token :: qs) :
    ∃ us, expect token what ts = .ok us ∧ kinds us = qs := by
  obtain ⟨us, hAccept, hus⟩ := accept?_complete h
  exact ⟨us, by rw [expect, hAccept], hus⟩

theorem expectKeyword_sound {keyword : String} (h : expectKeyword keyword ts = .ok us) :
    ∃ t, t.isKeyword keyword = true ∧ kinds ts = t :: kinds us := by
  unfold expectKeyword at h
  split at h
  · next rest hRest =>
    cases h
    exact (accepts_acceptKeyword? keyword).sound hRest
  · cases h

theorem expectKeyword_complete {keyword : String} (ht : t.isKeyword keyword = true)
    (h : kinds ts = t :: qs) : ∃ us, expectKeyword keyword ts = .ok us ∧ kinds us = qs := by
  obtain ⟨us, hAccept, hus⟩ := (accepts_acceptKeyword? keyword).complete ht h
  exact ⟨us, by rw [expectKeyword, hAccept], hus⟩

/-! ### Repetition -/

/-- A phrase begins with a token that leads it in, and that no other phrase goes on with. -/
def Begins (phrase : Phrase α) (lead more : Token → Bool) : Prop :=
  ∀ ps x, phrase ps x → ∃ t qs, ps = t :: qs ∧ lead t = true ∧ more t = false

/-- A step that finds a phrase where one begins, at a token that passes the test `lead`, and nothing
elsewhere. -/
structure Attempts (step : Tokens → Except ParseError (Option (α × Tokens))) (phrase : Phrase α)
    (lead more : Token → Bool) : Prop where
  sound : ∀ {ts us : Tokens} {x : α}, step ts = .ok (some (x, us)) →
    ∃ ps, phrase ps x ∧ kinds ts = ps ++ kinds us
  complete : ∀ {ts : Tokens} {ps qs : List Token} {x : α}, phrase ps x → Clear more qs →
    kinds ts = ps ++ qs → ∃ us, step ts = .ok (some (x, us)) ∧ kinds us = qs
  nothing : ∀ {ts : Tokens}, Clear lead (kinds ts) → step ts = .ok none
  begins : Begins phrase lead more

theorem clear_repeated {phrase : Phrase α} {lead more : Token → Bool} {xs : List α}
    (hBegins : Begins phrase lead more) (h : Repeated phrase ps xs) (hClear : Clear more qs) :
    Clear more (ps ++ qs) := by
  cases h with
  | nil => exact hClear
  | cons hFirst hRest =>
    obtain ⟨t, rest, rfl, _, hMore⟩ := hBegins _ _ hFirst
    exact clear_cons hMore

theorem many_sound {step : Tokens → Except ParseError (Option (α × Tokens))} {phrase : Phrase α}
    {lead more : Token → Bool} (hStep : Attempts step phrase lead more) {xs : List α} :
    ∀ {fuel : Nat} {ts : Tokens}, many step fuel ts = .ok (xs, us) →
      ∃ ps, Repeated phrase ps xs ∧ kinds ts = ps ++ kinds us := by
  intro fuel
  induction fuel generalizing xs with
  | zero =>
    intro ts h
    cases h
    exact ⟨[], .nil, rfl⟩
  | succ fuel ih =>
    intro ts h
    obtain ⟨found, hFound, h⟩ := bind_eq_ok h
    cases found with
    | none =>
      cases h
      exact ⟨[], .nil, rfl⟩
    | some found =>
      obtain ⟨x, ts'⟩ := found
      obtain ⟨⟨ys, us'⟩, hRest, h⟩ := bind_eq_ok h
      cases h
      obtain ⟨ps, hps, hts⟩ := hStep.sound hFound
      obtain ⟨qs, hqs, hts'⟩ := ih hRest
      exact ⟨ps ++ qs, .cons hps hqs, by rw [hts, hts', List.append_assoc]⟩

theorem many_complete {step : Tokens → Except ParseError (Option (α × Tokens))} {phrase : Phrase α}
    {lead more : Token → Bool} (hStep : Attempts step phrase lead more) {xs : List α}
    (h : Repeated phrase ps xs) (hMore : Clear more qs) (hLead : Clear lead qs) :
    ∀ {fuel : Nat} {ts : Tokens}, kinds ts = ps ++ qs → ps.length ≤ fuel →
      ∃ us, many step fuel ts = .ok (xs, us) ∧ kinds us = qs := by
  induction h with
  | nil =>
    intro fuel ts hts _
    refine ⟨ts, ?_, hts⟩
    cases fuel with
    | zero => rfl
    | succ fuel =>
      have hNothing : step ts = .ok none := hStep.nothing (hts ▸ hLead)
      exact bind_of_ok hNothing _
  | @cons ps rs x xs hFirst hRest ih =>
    intro fuel ts hts hFuel
    obtain ⟨t, ps', rfl, _, _⟩ := hStep.begins _ _ hFirst
    rw [List.length_append, List.length_cons] at hFuel
    obtain ⟨n, rfl⟩ : ∃ n, fuel = n + 1 := ⟨fuel - 1, by omega⟩
    rw [List.append_assoc] at hts
    obtain ⟨ts', hFound, hts'⟩ := hStep.complete hFirst
      (clear_repeated hStep.begins hRest hMore) hts
    obtain ⟨us, hMany, hus⟩ := @ih n ts' hts' (by omega)
    exact ⟨us, (bind_of_ok hFound _).trans (bind_of_ok hMany _), hus⟩

/-! ### Phrases that are led in -/

theorem led_begins {phrase : Phrase α} {lead more : Token → Bool}
    (hApart : ∀ t, lead t = true → more t = false) : Begins (Led lead phrase) lead more := by
  rintro _ x ⟨hLead, hPhrase⟩
  exact ⟨_, _, rfl, hLead, hApart _ hLead⟩

theorem attempts_led {lead? : Tokens → Option Tokens}
    {element : Tokens → Except ParseError (α × Tokens)} {phrase : Phrase α}
    {lead more : Token → Bool} (hLead : Accepts lead? lead) (hElement : Reads element phrase more)
    (hApart : ∀ t, lead t = true → more t = false) :
    Attempts
      (fun ts =>
        match lead? ts with
        | some ts => (element ts).map some
        | none => .ok none)
      (Led lead phrase) lead more where
  sound := by
    intro ts us x h
    split at h
    · next ts' hNext =>
      obtain ⟨t, ht, hts⟩ := hLead.sound hNext
      obtain ⟨found, hFound, hSome⟩ := map_eq_ok h
      cases hSome
      obtain ⟨ps, hps, hts'⟩ := hElement.sound hFound
      exact ⟨t :: ps, .mk ht hps, by rw [hts, hts', List.cons_append]⟩
    · cases h
  complete := by
    rintro ts _ qs x ⟨ht, hps⟩ hClear hts
    obtain ⟨ts', hNext, hts'⟩ := hLead.complete ht hts
    obtain ⟨us, hFound, hus⟩ := hElement.complete hps hClear hts'
    refine ⟨us, ?_, hus⟩
    rw [hNext]
    dsimp only
    rw [hFound]
    rfl
  nothing hClear := by
    rw [hLead.eq_none hClear]
  begins := led_begins hApart

/-- **Separated elements are read until no separator comes next.** -/
theorem reads_separated {lead? : Tokens → Option Tokens}
    {element : Tokens → Except ParseError (α × Tokens)} {phrase : Phrase α}
    {lead more : Token → Bool} (hLead : Accepts lead? lead) (hElement : Reads element phrase more)
    (hApart : ∀ t, lead t = true → more t = false) :
    Reads (separated lead? element) (Separated lead phrase) (fun t => more t || lead t) where
  sound := by
    intro ts us xs h
    obtain ⟨⟨x, ts'⟩, hFirst, h⟩ := bind_eq_ok h
    obtain ⟨⟨ys, us'⟩, hRest, h⟩ := bind_eq_ok h
    cases h
    obtain ⟨ps, hps, hts⟩ := hElement.sound hFirst
    obtain ⟨qs, hqs, hts'⟩ := many_sound (attempts_led hLead hElement hApart) hRest
    exact ⟨ps ++ qs, .mk hps hqs, by rw [hts, hts', List.append_assoc]⟩
  complete := by
    intro ts _ qs _ h hClear hts
    obtain @⟨ps, rs, x, xs, hFirst, hRest⟩ := h
    have hMore : Clear more qs := hClear.mono fun t ht => by simp [ht]
    have hEnd : Clear lead qs := hClear.mono fun t ht => by simp [ht]
    rw [List.append_assoc] at hts
    obtain ⟨ts', hFound, hts'⟩ := hElement.complete hFirst
      (clear_repeated (led_begins hApart) hRest hMore) hts
    have hFuel : rs.length ≤ ts'.length := by
      rw [← length_kinds, hts', List.length_append]
      exact Nat.le_add_right _ _
    obtain ⟨us, hMany, hus⟩ := many_complete (attempts_led hLead hElement hApart) hRest hMore hEnd
      hts' hFuel
    exact ⟨us, (bind_of_ok hFound _).trans (bind_of_ok hMany _), hus⟩

/-- **A phrase that may be missing is there if its first token is.** -/
theorem reads_led {lead? : Tokens → Option Tokens}
    {step : Tokens → Except ParseError (α × Tokens)} {phrase : Phrase α} {lead more : Token → Bool}
    (hLead : Accepts lead? lead) (hStep : Reads step phrase more) :
    Reads
      (fun ts =>
        match lead? ts with
        | some ts => (step ts).map fun (x, ts) => (some x, ts)
        | none => .ok (none, ts))
      (Opt (Led lead phrase)) (fun t => more t || lead t) where
  sound := by
    intro ts us x h
    dsimp only at h
    split at h
    · next ts' hNext =>
      obtain ⟨t, ht, hts⟩ := hLead.sound hNext
      obtain ⟨⟨y, us'⟩, hFound, hSome⟩ := map_eq_ok h
      cases hSome
      obtain ⟨ps, hps, hts'⟩ := hStep.sound hFound
      exact ⟨t :: ps, .present (.mk ht hps), by rw [hts, hts', List.cons_append]⟩
    · cases h
      exact ⟨[], .absent, rfl⟩
  complete := by
    intro ts ps qs x h hClear hts
    dsimp only
    cases h with
    | absent =>
      have hEnd : Clear lead (kinds ts) := hts ▸ hClear.mono fun t ht => by simp [ht]
      exact ⟨ts, by rw [hLead.eq_none hEnd], hts⟩
    | present hPhrase =>
      obtain ⟨ht, hps⟩ := hPhrase
      obtain ⟨ts', hNext, hts'⟩ := hLead.complete ht hts
      obtain ⟨us, hFound, hus⟩ := hStep.complete hps (hClear.mono fun t ht => by simp [ht]) hts'
      refine ⟨us, ?_, hus⟩
      rw [hNext]
      dsimp only
      rw [hFound]
      rfl

end Parser

end CodeGraph.Query
