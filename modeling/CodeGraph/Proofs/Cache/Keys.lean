import Mathlib.Data.List.Nodup
import CodeGraph.Proofs.Cache.NormalForm

/-!
# Keys of entries

A key is a stem, a colon and the digest of the context (`entryKey_eq_stem`).  Digests have sixteen
characters, so one key means one stem and one digest of the context (`stem_eq_of_entryKey_eq`).

The stem of a request without parameters is its query; the stem of one with parameters is its query,
a `#` and the digest of the parameters.  Stems of one form belong to one query.  Stems of the two
forms are equal where the first query is written like the second with its digest (`Clash`); such a
query has no plan (`not_parse_hash`).
-/

namespace CodeGraph

open Query

/-! ### Stems -/

/-- The part of a key that stands for the query and its parameters. -/
def keyStem (query bindings : String) : String :=
  if bindings.isEmpty then query else query ++ "#" ++ Digest.short bindings

theorem entryKey_eq_stem (query bindings context : String) :
    entryKey query bindings context = keyStem query bindings ++ (":" ++ Digest.short context) := by
  unfold entryKey keyStem
  split <;> simp only [String.append_assoc]

theorem append_inj_of_length {a b c d : String} (hLength : b.toList.length = d.toList.length)
    (h : a ++ b = c ++ d) : a = c ∧ b = d := by
  have hChars := congrArg String.toList h
  rw [String.toList_append, String.toList_append] at hChars
  obtain ⟨hLeft, hRight⟩ := List.append_inj' hChars hLength
  exact ⟨String.toList_inj.1 hLeft, String.toList_inj.1 hRight⟩

theorem stem_eq_of_entryKey_eq {query bindings context query' bindings' context' : String}
    (h : entryKey query bindings context = entryKey query' bindings' context') :
    keyStem query bindings = keyStem query' bindings' ∧
      Digest.short context = Digest.short context' := by
  rw [entryKey_eq_stem, entryKey_eq_stem] at h
  have hLength : (":" ++ Digest.short context).toList.length =
      (":" ++ Digest.short context').toList.length := by
    simp only [String.toList_append, List.length_append, Digest.length_short]
  obtain ⟨hStem, hContext⟩ := append_inj_of_length hLength h
  have hShort := Digest.length_short context
  rw [← Digest.length_short context'] at hShort
  exact ⟨hStem, (append_inj_of_length hShort hContext).2⟩

theorem eq_of_append_short_eq {query query' bindings bindings' : String}
    (h : query ++ "#" ++ Digest.short bindings = query' ++ "#" ++ Digest.short bindings') :
    query = query' ∧ Digest.short bindings = Digest.short bindings' := by
  have hShort := Digest.length_short bindings
  rw [← Digest.length_short bindings'] at hShort
  obtain ⟨hLeft, hRight⟩ := append_inj_of_length hShort h
  exact ⟨(append_inj_of_length rfl hLeft).1, hRight⟩

/-! ### Parameters -/

theorem isEmpty_bindings (params : Params) : (bindings params).isEmpty = params.isEmpty := by
  unfold bindings
  split
  · next h => rw [h]; rfl
  · next h =>
    rw [Bool.not_eq_true] at h
    rw [h, Json.compact, Json.compactChars]
    simp

/-- Parameters whose written forms and digests tell them apart. -/
structure Distinct (known : List Params) : Prop where
  digest : ∀ p ∈ known, ∀ q ∈ known,
    Digest.short (bindings p) = Digest.short (bindings q) → bindings p = bindings q
  written : ∀ p ∈ known, ∀ q ∈ known, bindings p = bindings q → p = q

theorem distinct_of_nodup {known : List Params}
    (h : (known.map fun p => Digest.short (bindings p)).Nodup) : Distinct known where
  digest _ hp _ hq he := congrArg bindings (List.inj_on_of_nodup_map h hp hq he)
  written _ hp _ hq he := List.inj_on_of_nodup_map h hp hq (congrArg Digest.short he)

theorem Distinct.mono {known fewer : List Params} (h : Distinct known) (hFewer : fewer ⊆ known) :
    Distinct fewer where
  digest p hp q hq := h.digest p (hFewer hp) q (hFewer hq)
  written p hp q hq := h.written p (hFewer hp) q (hFewer hq)

/-! ### Clashes -/

/-- `a` has no parameters, `b` has, and the query of `a` is written like that of `b` followed by the
digest of its parameters. -/
structure Clash (a b : Lookup) : Prop where
  left : a.request.params.isEmpty = true
  right : b.request.params.isEmpty = false
  query : a.request.query = b.request.query ++ "#" ++ Digest.short b.bindings
  context : Digest.short a.context = Digest.short b.context

theorem Request.eq_of_fields {a b : Request} (hQuery : a.query = b.query)
    (hParams : a.params = b.params) : a = b := by
  cases a
  cases b
  cases hQuery
  cases hParams
  rfl

namespace Lookup

variable {a b l : Lookup}

def stem (l : Lookup) : String := keyStem l.request.query l.bindings

theorem stem_of_isEmpty (h : l.request.params.isEmpty = true) : l.stem = l.request.query := by
  rw [stem, keyStem, l.bindings_eq, isEmpty_bindings, if_pos h]

theorem stem_of_not_isEmpty (h : l.request.params.isEmpty = false) :
    l.stem = l.request.query ++ "#" ++ Digest.short l.bindings := by
  rw [stem, keyStem, if_neg (by rw [l.bindings_eq, isEmpty_bindings, h]; exact Bool.false_ne_true)]

theorem stem_eq_of_key_eq (h : a.key = b.key) :
    a.stem = b.stem ∧ Digest.short a.context = Digest.short b.context := by
  rw [a.key_eq, b.key_eq] at h
  exact stem_eq_of_entryKey_eq h

theorem key_eq_of_clash (h : Clash a b) : a.key = b.key := by
  have hStem : a.stem = b.stem := by
    rw [stem_of_isEmpty h.left, stem_of_not_isEmpty h.right, h.query]
  rw [a.key_eq, b.key_eq, entryKey_eq_stem, entryKey_eq_stem, h.context, ← stem, ← stem, hStem]

/-- **One key means one request or a clash.** -/
theorem same_or_clash {known : List Params} (hKnown : Distinct known)
    (ha : a.request.params ∈ known) (hb : b.request.params ∈ known) (h : a.key = b.key) :
    a.request = b.request ∨ Clash a b ∨ Clash b a := by
  obtain ⟨hStem, hContext⟩ := stem_eq_of_key_eq h
  cases hLeft : a.request.params.isEmpty with
  | true =>
    rw [stem_of_isEmpty hLeft] at hStem
    cases hRight : b.request.params.isEmpty with
    | true =>
      rw [stem_of_isEmpty hRight] at hStem
      have hParams : a.request.params = b.request.params := by
        rw [Fields.eq_empty_of_isEmpty hLeft, Fields.eq_empty_of_isEmpty hRight]
      exact Or.inl (Request.eq_of_fields hStem hParams)
    | false =>
      rw [stem_of_not_isEmpty hRight] at hStem
      exact Or.inr (Or.inl ⟨hLeft, hRight, hStem, hContext⟩)
  | false =>
    rw [stem_of_not_isEmpty hLeft] at hStem
    cases hRight : b.request.params.isEmpty with
    | true =>
      rw [stem_of_isEmpty hRight] at hStem
      exact Or.inr (Or.inr ⟨hRight, hLeft, hStem.symm, hContext.symm⟩)
    | false =>
      rw [stem_of_not_isEmpty hRight] at hStem
      obtain ⟨hQuery, hShort⟩ := eq_of_append_short_eq hStem
      rw [a.bindings_eq, b.bindings_eq] at hShort
      have hWritten := hKnown.digest _ ha _ hb hShort
      exact Or.inl (Request.eq_of_fields hQuery (hKnown.written _ ha _ hb hWritten))

end Lookup

/-- **A query that ends in a digest has no plan.** -/
theorem not_parse_hash (query bindings : String) (params : Params) :
    ∃ e, parse (query ++ "#" ++ Digest.short bindings) params = .error e := by
  have hQuote : ∀ d ∈ (Digest.short bindings).toList, d ≠ '"' ∧ d ≠ '\'' := by
    intro d hd
    have hHex := Digest.isHexDigit_of_mem_short hd
    constructor
    · rintro rfl
      exact absurd hHex (by decide)
    · rintro rfl
      exact absurd hHex (by decide)
  have hTokens := tokens_hash hQuote query.toList
  have hChars : (query ++ "#" ++ Digest.short bindings).toList =
      query.toList ++ '#' :: (Digest.short bindings).toList := by
    simp [String.toList_append]
  rw [← hChars] at hTokens
  have hScan : ∃ e, tokenize (query ++ "#" ++ Digest.short bindings) = .error e := by
    rw [tokenize]
    unfold tokens at hTokens
    cases hScan : scan 0 (query ++ "#" ++ Digest.short bindings).toList with
    | error e => exact ⟨e, rfl⟩
    | ok lexemes => rw [hScan] at hTokens; cases hTokens
  obtain ⟨e, he⟩ := hScan
  exact ⟨e, by rw [parse, he]; rfl⟩

end CodeGraph
