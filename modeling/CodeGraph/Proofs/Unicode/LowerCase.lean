import Mathlib.Data.List.TakeWhile
import CodeGraph.Unicode.Case

/-!
# Lower case of parts of a text

The lower case of a character is its own affair, but for the capital sigma: its form is the final
one where it ends a word (`endsWord`), so it depends on what stands around it.  `lowerWithin` is the
lower case of a part between what precedes and what follows it, and that of a whole text is put
together from those of its parts (`lowerWithin_append`).

A part has the same lower case within a text as on its own exactly if each of its sigmas keeps its
form (`lowerWithin_eq_iff`).  Only what follows the last letter of the part, or precedes its first,
can change a form: `CutsAfter` and `CutsBefore` say when (`keepsForms_after_iff`,
`keepsForms_before_iff`).
-/

namespace CodeGraph.Unicode

variable {before before' after after' part : List Char} {c : Char}

/-! ### Parts -/

/-- Whether a sigma between two texts, the one before it nearest first, ends a word. -/
def endsWord (before after : List Char) : Bool := meetsCased before && !meetsCased after

def lowerAt (before : List Char) (c : Char) (after : List Char) : List Char :=
  if c.toNat = 0x3a3 then
    if endsWord before after then [Char.ofNat 0x3c2] else [Char.ofNat 0x3c3]
  else lowerChar c

def lowerWithin (before after : List Char) : List Char → List Char
  | [] => []
  | c :: cs => lowerAt before c (cs ++ after) ++ lowerWithin (c :: before) after cs

theorem lowerFrom_eq_lowerWithin (before cs : List Char) :
    lowerFrom before cs = lowerWithin before [] cs := by
  induction cs generalizing before with
  | nil => rfl
  | cons c cs ih =>
    rw [lowerWithin, ← ih, List.append_nil]
    rfl

theorem lowerChars_eq_lowerWithin (cs : List Char) : lowerChars cs = lowerWithin [] [] cs :=
  lowerFrom_eq_lowerWithin [] cs

/-- **Lower case is taken part by part**, each part between the others. -/
theorem lowerWithin_append (before after xs ys : List Char) :
    lowerWithin before after (xs ++ ys) =
      lowerWithin before (ys ++ after) xs ++ lowerWithin (xs.reverse ++ before) after ys := by
  induction xs generalizing before with
  | nil => rfl
  | cons c xs ih =>
    rw [List.cons_append, lowerWithin, lowerWithin, ih, List.reverse_cons, List.append_assoc,
      List.append_assoc, List.append_assoc]
    rfl

theorem lowerChars_append (front part rest : List Char) :
    lowerChars (front ++ part ++ rest) =
      lowerWithin [] (part ++ rest) front ++ lowerWithin front.reverse rest part ++
        lowerWithin (part.reverse ++ front.reverse) [] rest := by
  rw [lowerChars_eq_lowerWithin, lowerWithin_append, lowerWithin_append]
  simp only [List.append_nil, List.reverse_append]

theorem length_lowerAt (before before' after after' : List Char) (c : Char) :
    (lowerAt before c after).length = (lowerAt before' c after').length := by
  unfold lowerAt
  split
  · split <;> split <;> rfl
  · rfl

theorem length_lowerWithin (before before' after after' part : List Char) :
    (lowerWithin before after part).length = (lowerWithin before' after' part).length := by
  induction part generalizing before before' with
  | nil => rfl
  | cons c part ih =>
    rw [lowerWithin, lowerWithin, List.length_append, List.length_append,
      length_lowerAt before before' _ (part ++ after') c, ih (c :: before) (c :: before')]

/-! ### Forms of sigmas -/

/-- Every sigma of the part is final between the one pair of texts if it is between the other. -/
def SameForms (before after before' after' part : List Char) : Prop :=
  ∀ front rest, part = front ++ 'Σ' :: rest →
    endsWord (front.reverse ++ before) (rest ++ after) =
      endsWord (front.reverse ++ before') (rest ++ after')

theorem lowerAt_eq_iff : lowerAt before c after = lowerAt before' c after' ↔
    (c = 'Σ' → endsWord before after = endsWord before' after') := by
  have hSigma : c.toNat = 0x3a3 ↔ c = 'Σ' :=
    ⟨fun h => Char.toNat_inj.1 h, fun h => h ▸ rfl⟩
  unfold lowerAt
  by_cases h : c = 'Σ'
  · rw [if_pos (hSigma.2 h), if_pos (hSigma.2 h)]
    cases endsWord before after <;> cases endsWord before' after' <;> simp [h]
  · rw [if_neg (mt hSigma.1 h), if_neg (mt hSigma.1 h)]
    simp [h]

theorem sameForms_cons : SameForms before after before' after' (c :: part) ↔
    (c = 'Σ' → endsWord before (part ++ after) = endsWord before' (part ++ after')) ∧
      SameForms (c :: before) after (c :: before') after' part := by
  constructor
  · intro h
    constructor
    · rintro rfl
      exact h [] part rfl
    · intro front rest hPart
      have hForm := h (c :: front) rest (by rw [hPart]; rfl)
      simpa using hForm
  · rintro ⟨hFirst, hOthers⟩ front rest hPart
    cases front with
    | nil =>
      obtain ⟨rfl, rfl⟩ := List.cons.inj hPart
      exact hFirst rfl
    | cons d front =>
      rw [List.cons_append] at hPart
      obtain ⟨rfl, rfl⟩ := List.cons.inj hPart
      have hForm := hOthers front rest rfl
      simpa using hForm

/-- **A part has one lower case between two pairs of texts exactly if its sigmas have the same
forms.** -/
theorem lowerWithin_eq_iff : lowerWithin before after part = lowerWithin before' after' part ↔
    SameForms before after before' after' part := by
  induction part generalizing before before' with
  | nil =>
    refine iff_of_true rfl fun front rest h => ?_
    cases front <;> cases h
  | cons c part ih =>
    have hLength := length_lowerAt before before' (part ++ after) (part ++ after') c
    rw [lowerWithin, lowerWithin, sameForms_cons, ← ih, ← lowerAt_eq_iff]
    constructor
    · exact fun h => List.append_inj h hLength
    · rintro ⟨hFirst, hOthers⟩
      rw [hFirst, hOthers]

/-! ### Parts on their own -/

/-- The sigmas of a part have the forms that they have on their own. -/
def KeepsForms (before after part : List Char) : Prop := SameForms before after [] [] part

theorem keepsForms_iff :
    KeepsForms before after part ↔ lowerWithin before after part = lowerChars part := by
  rw [lowerChars_eq_lowerWithin]
  exact lowerWithin_eq_iff.symm

theorem keepsForms_of_not_mem (h : 'Σ' ∉ part) : KeepsForms before after part := by
  rintro front rest rfl
  exact absurd (List.mem_append_right _ List.mem_cons_self) h

theorem meetsCased_of_ignorable {xs : List Char} (h : ∀ c ∈ xs, caseIgnorable.contains c = true)
    (ys : List Char) : meetsCased (xs ++ ys) = meetsCased ys := by
  rw [meetsCased, List.dropWhile_append_of_pos h, meetsCased]

theorem meetsCased_append_eq {xs : List Char} (ys : List Char)
    (h : ¬∀ c ∈ xs, caseIgnorable.contains c = true) :
    meetsCased (xs ++ ys) = meetsCased xs := by
  have hSome : xs.dropWhile caseIgnorable.contains ≠ [] :=
    fun hNil => h fun c hc => List.dropWhile_eq_nil_iff.1 hNil c hc
  unfold meetsCased
  rw [List.dropWhile_append]
  cases hDrop : xs.dropWhile caseIgnorable.contains with
  | nil => exact absurd hDrop hSome
  | cons c cs => rfl

theorem meetsCased_eq_false {xs : List Char}
    (h : ∀ c ∈ xs, caseIgnorable.contains c = true) : meetsCased xs = false := by
  have hNil := meetsCased_of_ignorable h []
  rwa [List.append_nil] at hNil

/-- The part ends in a word whose last letter is a sigma, and in the text the word goes on. -/
def CutsAfter (part rest : List Char) : Prop :=
  ∃ front ignored, part = front ++ 'Σ' :: ignored ∧ meetsCased front.reverse = true ∧
    (∀ c ∈ ignored, caseIgnorable.contains c = true) ∧ meetsCased rest = true

/-- The part begins with a sigma that is a word of its own, and in the text it ends one. -/
def CutsBefore (front part : List Char) : Prop :=
  ∃ ignored rest, part = ignored ++ 'Σ' :: rest ∧
    (∀ c ∈ ignored, caseIgnorable.contains c = true) ∧ meetsCased front.reverse = true ∧
    meetsCased rest = false

/-- **At the start of a text a part keeps its forms unless it cuts a word after a sigma.** -/
theorem keepsForms_after_iff {rest : List Char} :
    KeepsForms [] rest part ↔ ¬CutsAfter part rest := by
  constructor
  · rintro hForms ⟨front, ignored, hPart, hFront, hIgnored, hRest⟩
    have hForm := hForms front ignored hPart
    simp only [endsWord, List.append_nil, hFront, meetsCased_of_ignorable hIgnored, hRest,
      meetsCased_eq_false hIgnored] at hForm
    cases hForm
  · intro hNot front ignored hPart
    rw [List.append_nil, List.append_nil, endsWord, endsWord]
    by_cases hIgnored : ∀ c ∈ ignored, caseIgnorable.contains c = true
    · rw [meetsCased_of_ignorable hIgnored, meetsCased_eq_false hIgnored]
      cases hFront : meetsCased front.reverse with
      | false => rfl
      | true =>
        cases hRest : meetsCased rest with
        | false => rfl
        | true => exact absurd ⟨front, ignored, hPart, hFront, hIgnored, hRest⟩ hNot
    · rw [meetsCased_append_eq rest hIgnored]

/-- **At the end of a text a part keeps its forms unless it cuts a word before a sigma.** -/
theorem keepsForms_before_iff {front : List Char} :
    KeepsForms front.reverse [] part ↔ ¬CutsBefore front part := by
  constructor
  · rintro hForms ⟨ignored, rest, hPart, hIgnored, hFront, hRest⟩
    have hReverse : ∀ c ∈ ignored.reverse, caseIgnorable.contains c = true :=
      fun c hc => hIgnored c (List.mem_reverse.1 hc)
    have hForm := hForms ignored rest hPart
    simp only [endsWord, List.append_nil, hFront, meetsCased_of_ignorable hReverse, hRest,
      meetsCased_eq_false hReverse] at hForm
    cases hForm
  · intro hNot ignored rest hPart
    rw [List.append_nil, List.append_nil, endsWord, endsWord]
    by_cases hIgnored : ∀ c ∈ ignored.reverse, caseIgnorable.contains c = true
    · rw [meetsCased_of_ignorable hIgnored, meetsCased_eq_false hIgnored]
      cases hRest : meetsCased rest with
      | true => simp
      | false =>
        cases hFront : meetsCased front.reverse with
        | false => rfl
        | true =>
          refine absurd ⟨ignored, rest, hPart, fun c hc => ?_, hFront, hRest⟩ hNot
          exact hIgnored c (List.mem_reverse.2 hc)
    · rw [meetsCased_append_eq front.reverse hIgnored]

/-! ### Lower case of a text and of its parts -/

theorem lowerChars_infix {front rest : List Char} (h : KeepsForms front.reverse rest part) :
    lowerChars part <:+: lowerChars (front ++ part ++ rest) := by
  rw [lowerChars_append, keepsForms_iff.1 h]
  exact List.infix_append _ _ _

theorem lowerChars_prefix_iff {rest : List Char} :
    lowerChars part <+: lowerChars (part ++ rest) ↔ ¬CutsAfter part rest := by
  have hText : lowerChars (part ++ rest) =
      lowerWithin [] rest part ++ lowerWithin part.reverse [] rest := by
    have hParts := lowerChars_append [] part rest
    simpa [lowerWithin] using hParts
  rw [← keepsForms_after_iff, keepsForms_iff, hText, lowerChars_eq_lowerWithin]
  constructor
  · rintro ⟨others, hPrefix⟩
    exact (List.append_inj hPrefix (length_lowerWithin _ _ _ _ part)).1.symm
  · intro h
    rw [h]
    exact List.prefix_append _ _

theorem lowerChars_suffix_iff {front : List Char} :
    lowerChars part <:+ lowerChars (front ++ part) ↔ ¬CutsBefore front part := by
  have hText : lowerChars (front ++ part) =
      lowerWithin [] part front ++ lowerWithin front.reverse [] part := by
    have hParts := lowerChars_append front part []
    simpa [lowerWithin] using hParts
  rw [← keepsForms_before_iff, keepsForms_iff, hText, lowerChars_eq_lowerWithin]
  constructor
  · rintro ⟨others, hSuffix⟩
    exact (List.append_inj' hSuffix (length_lowerWithin _ _ _ _ part)).2.symm
  · intro h
    rw [h]
    exact List.suffix_append _ _

end CodeGraph.Unicode
