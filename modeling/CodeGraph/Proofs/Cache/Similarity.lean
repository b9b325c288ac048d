import Mathlib.Algebra.Order.BigOperators.Group.List
import CodeGraph.Proofs.Cache.WarmUp
import CodeGraph.Proofs.Double.Arithmetic
import CodeGraph.Proofs.Json.Same

/-!
# Similarity as a score

Whatever two contexts are compared by, their words or the fields that both have, the comparison is a
list of shares that is never empty.  Each share has something to compare and weighs something
(`fair_of_mem_comparison`), the list is the same either way (`comparison_comm`), and a context
compared with itself agrees in everything (`hits_eq_count`).  So the weighted mean of the shares is
a score: from zero to one, symmetric, and one for a context and itself.  This holds in exact
arithmetic and of the rounded score alike (`similarity_score`).
-/

namespace CodeGraph.Context

variable {s : Share} {list : List Share} {a b : String} {x y : Json}

/-- A share of something, of which it has no more than all, and with some weight. -/
structure Share.Fair (s : Share) : Prop where
  compared : 0 < s.count
  hits_le : s.hits ≤ s.count
  weighs : 0 < s.halves

/-! ### Sets of texts -/

section

variable (xs ys : List String)

theorem length_common_comm : (xs.eraseDups.filter ys.eraseDups.contains).length =
    (ys.eraseDups.filter xs.eraseDups.contains).length := by
  refine List.Perm.length_eq ((List.perm_ext_iff_of_nodup ?_ ?_).2 fun text => ?_)
  · exact (Cache.nodup_eraseDups xs).filter _
  · exact (Cache.nodup_eraseDups ys).filter _
  · simp only [List.mem_filter, List.contains_iff_mem, and_comm]

theorem overlap_comm : overlap xs ys = overlap ys xs := by
  simp only [overlap, length_common_comm xs ys, Bool.and_comm, Nat.add_comm]

theorem overlap_fair : 0 < (overlap xs ys).2 ∧ (overlap xs ys).1 ≤ (overlap xs ys).2 := by
  have hLeft : (xs.eraseDups.filter ys.eraseDups.contains).length ≤ xs.eraseDups.length :=
    List.length_filter_le _ _
  have hRight : (xs.eraseDups.filter ys.eraseDups.contains).length ≤ ys.eraseDups.length := by
    rw [length_common_comm]
    exact List.length_filter_le _ _
  simp only [overlap, Bool.and_eq_true, List.isEmpty_iff_length_eq_zero]
  split
  · exact ⟨Nat.one_pos, Nat.le_refl _⟩
  · exact ⟨by omega, by omega⟩

theorem overlap_self : (overlap xs xs).1 = (overlap xs xs).2 := by
  have hAll : xs.eraseDups.filter xs.eraseDups.contains = xs.eraseDups :=
    List.filter_eq_self.2 fun _ hMem => List.contains_iff_mem.2 hMem
  simp only [overlap, hAll, Nat.add_sub_cancel]
  split <;> rfl

end

theorem ofSets_comm (halves : Nat) (xs ys : List String) :
    Share.ofSets halves xs ys = Share.ofSets halves ys xs := by
  simp only [Share.ofSets, overlap_comm xs ys]

theorem fair_ofSets {halves : Nat} (h : 0 < halves) (xs ys : List String) :
    (Share.ofSets halves xs ys).Fair := by
  obtain ⟨hPos, hLe⟩ := overlap_fair xs ys
  exact ⟨hPos, hLe, h⟩

theorem hits_ofSets_self (halves : Nat) (xs : List String) :
    (Share.ofSets halves xs xs).hits = (Share.ofSets halves xs xs).count := overlap_self xs

/-! ### Fields -/

theorem both_comm {α β : Type} {f : α → α → β} (hf : ∀ u v, f u v = f v u) (u v : Option α) :
    (u.bind fun p => v.bind fun q => some (f p q)) =
      v.bind fun p => u.bind fun q => some (f p q) := by
  cases u with
  | none => cases v <;> rfl
  | some p =>
    cases v with
    | none => rfl
    | some q => exact congrArg some (hf p q)

theorem both_self {α β : Type} {f : α → α → β} {u : Option α} {made : β}
    (h : (u.bind fun p => u.bind fun q => some (f p q)) = some made) : ∃ p, made = f p p := by
  obtain ⟨p, hp, h⟩ := Option.bind_eq_some_iff.1 h
  obtain ⟨q, hq, h⟩ := Option.bind_eq_some_iff.1 h
  obtain rfl : p = q := Option.some.inj (hp.symm.trans hq)
  exact ⟨p, (Option.some.inj h).symm⟩

theorem typeShare?_comm (x y : Json) : typeShare? x y = typeShare? y x :=
  both_comm (fun u v => by rw [Json.same_comm]) (x.field? "type") (y.field? "type")

theorem setShare?_comm (x y : Json) (field : String × Nat) :
    setShare? x y field = setShare? y x field :=
  both_comm (ofSets_comm field.2) (texts? x field.1) (texts? y field.1)

theorem flagsAgree?_eq (x y : Json) (name : String) : flagsAgree? x y name =
    ((x.field? name).bind Json.bool?).bind fun p =>
      ((y.field? name).bind Json.bool?).bind fun q => some (p == q) := by
  simp only [flagsAgree?, Option.bind_eq_bind, Option.bind_assoc]

theorem numbersAgree?_eq (x y : Json) (option : String × Nat) : numbersAgree? x y option =
    ((x.field? option.1).bind Json.double?).bind fun p =>
      ((y.field? option.1).bind Json.double?).bind fun q =>
        some ((p.sub q).abs.atMost (.ofNat option.2)) := by
  simp only [numbersAgree?, Option.bind_eq_bind, Option.bind_assoc]

theorem flagsAgree?_comm (x y : Json) (name : String) :
    flagsAgree? x y name = flagsAgree? y x name := by
  rw [flagsAgree?_eq, flagsAgree?_eq]
  exact both_comm (fun _ _ => Bool.beq_comm) _ _

theorem numbersAgree?_comm (x y : Json) (option : String × Nat) :
    numbersAgree? x y option = numbersAgree? y x option := by
  rw [numbersAgree?_eq, numbersAgree?_eq]
  exact both_comm (fun u v => by rw [Double.abs_sub_comm]) _ _

theorem optionShare?_comm (x y : Json) : optionShare? x y = optionShare? y x := by
  simp only [optionShare?, flagsAgree?_comm x y, numbersAgree?_comm x y]

theorem shares_comm (x y : Json) : shares x y = shares y x := by
  simp only [shares, typeShare?_comm x y, setShare?_comm x y, optionShare?_comm x y]

/-- **Two contexts are compared the same either way.** -/
theorem comparison_comm (a b : String) : comparison a b = comparison b a := by
  simp only [comparison, ofSets_comm 2 (words a) (words b)]
  cases Json.parse? a with
  | none => cases Json.parse? b with
    | none => rfl
    | some y => cases y <;> rfl
  | some x =>
    cases Json.parse? b with
    | none => cases x <;> rfl
    | some y => cases x <;> cases y <;> simp only [shares_comm]

/-! ### What a comparison is made of -/

theorem mem_shares (h : s ∈ shares x y) : typeShare? x y = some s ∨
    (∃ field ∈ setFields, setShare? x y field = some s) ∨ optionShare? x y = some s := by
  rw [shares, List.mem_append, List.mem_append, Option.mem_toList, Option.mem_toList,
    List.mem_filterMap] at h
  rcases h with (hType | hSet) | hOption
  · exact Or.inl hType
  · exact Or.inr (Or.inl hSet)
  · exact Or.inr (Or.inr hOption)

theorem typeShare?_eq_some (h : typeShare? x y = some s) : ∃ v w, x.field? "type" = some v ∧
    y.field? "type" = some w ∧ s = ⟨(v.canonical.same w.canonical).toNat, 1, 2⟩ := by
  obtain ⟨v, hv, h⟩ := Option.bind_eq_some_iff.1 h
  obtain ⟨w, hw, h⟩ := Option.bind_eq_some_iff.1 h
  exact ⟨v, w, hv, hw, (Option.some.inj h).symm⟩

theorem setShare?_eq_some {field : String × Nat} (h : setShare? x y field = some s) :
    ∃ xs ys, texts? x field.1 = some xs ∧ texts? y field.1 = some ys ∧
      s = .ofSets field.2 xs ys := by
  obtain ⟨xs, hxs, h⟩ := Option.bind_eq_some_iff.1 h
  obtain ⟨ys, hys, h⟩ := Option.bind_eq_some_iff.1 h
  exact ⟨xs, ys, hxs, hys, (Option.some.inj h).symm⟩

def agreements (x y : Json) : List Bool :=
  flagOptions.filterMap (flagsAgree? x y) ++ numberOptions.filterMap (numbersAgree? x y)

theorem optionShare?_eq_some (h : optionShare? x y = some s) : agreements x y ≠ [] ∧
    s = ⟨(agreements x y).count true, (agreements x y).length, 1⟩ := by
  rw [optionShare?] at h
  split at h
  · cases h
  · next hSome => exact ⟨fun hNil => hSome (List.isEmpty_iff.2 hNil), (Option.some.inj h).symm⟩

theorem fair_of_mem_shares (h : s ∈ shares x y) : s.Fair := by
  rcases mem_shares h with hType | ⟨field, hField, hSet⟩ | hOption
  · obtain ⟨v, w, _, _, rfl⟩ := typeShare?_eq_some hType
    exact ⟨Nat.one_pos, Bool.toNat_le _, Nat.two_pos⟩
  · obtain ⟨xs, ys, _, _, rfl⟩ := setShare?_eq_some hSet
    have hWeights : ∀ field ∈ setFields, 0 < field.2 := by decide
    exact fair_ofSets (hWeights field hField) xs ys
  · obtain ⟨hSome, rfl⟩ := optionShare?_eq_some hOption
    exact ⟨List.length_pos_iff.2 hSome, List.count_le_length, Nat.one_pos⟩

theorem comparison_cases (a b : String) :
    comparison a b = [.ofSets 2 (words a) (words b)] ∨
      ∃ xs ys, Json.parse? a = some (.object xs) ∧ Json.parse? b = some (.object ys) ∧
        shares (.object xs) (.object ys) ≠ [] ∧
        comparison a b = shares (.object xs) (.object ys) := by
  rw [comparison]
  split
  · next xs ys ha hb =>
    by_cases hNone : (shares (.object xs) (.object ys)).isEmpty = true
    · exact Or.inl (if_pos hNone)
    · exact Or.inr ⟨xs, ys, ha, hb, fun hNil => hNone (List.isEmpty_iff.2 hNil), if_neg hNone⟩
  · exact Or.inl rfl

/-- **Every comparison has a share.** -/
theorem comparison_ne_nil (a b : String) : comparison a b ≠ [] := by
  rcases comparison_cases a b with hWords | ⟨xs, ys, _, _, hSome, hShares⟩
  · rw [hWords]
    exact List.cons_ne_nil _ _
  · rw [hShares]
    exact hSome

theorem fair_of_mem_comparison (h : s ∈ comparison a b) : s.Fair := by
  rcases comparison_cases a b with hWords | ⟨xs, ys, _, _, _, hShares⟩
  · rw [hWords, List.mem_singleton] at h
    rw [h]
    exact fair_ofSets Nat.two_pos _ _
  · rw [hShares] at h
    exact fair_of_mem_shares h

/-! ### A context and itself -/

theorem eq_true_of_mem_agreements {agrees : Bool} (h : agrees ∈ agreements x x) :
    agrees = true := by
  rcases List.mem_append.1 h with h | h
  · obtain ⟨name, _, h⟩ := List.mem_filterMap.1 h
    rw [flagsAgree?_eq] at h
    obtain ⟨p, rfl⟩ := both_self h
    exact beq_self_eq_true p
  · obtain ⟨option, _, h⟩ := List.mem_filterMap.1 h
    rw [numbersAgree?_eq] at h
    obtain ⟨p, rfl⟩ := both_self h
    rw [Double.abs_sub_self,
      Double.nonneg_zero.atMost_iff (Double.nonneg_ofNat option.2)]
    exact Nat.zero_le _

/-- **A context agrees with itself in everything that is compared.** -/
theorem hits_eq_count (h : s ∈ comparison a a) : s.hits = s.count := by
  rcases comparison_cases a a with hWords | ⟨xs, ys, hx, hy, _, hShares⟩
  · rw [hWords, List.mem_singleton] at h
    rw [h]
    exact hits_ofSets_self _ _
  · obtain rfl : xs = ys := by simpa [hx] using hy
    rw [hShares] at h
    rcases mem_shares h with hType | ⟨field, _, hSet⟩ | hOption
    · obtain ⟨v, w, hv, hw, rfl⟩ := typeShare?_eq_some hType
      obtain rfl : v = w := by simpa [hv] using hw
      rw [Json.same_self_of_field? hx hv]
      rfl
    · obtain ⟨us, vs, hus, hvs, rfl⟩ := setShare?_eq_some hSet
      obtain rfl : us = vs := by simpa [hus] using hvs
      exact hits_ofSets_self _ _
    · obtain ⟨_, rfl⟩ := optionShare?_eq_some hOption
      exact List.count_eq_length.2 fun _ hMem => (eq_true_of_mem_agreements hMem).symm

/-! ### The exact mean -/

def Share.exactRatio (s : Share) : ℚ := s.hits / s.count

def Share.exactWeight (s : Share) : ℚ := s.halves / 2

def exactMean (list : List Share) : ℚ :=
  (list.map fun s => s.exactRatio * s.exactWeight).sum / (list.map (·.exactWeight)).sum

def exactSimilarity (a b : String) : ℚ := exactMean (comparison a b)

theorem Share.Fair.exactRatio (h : s.Fair) : 0 ≤ s.exactRatio ∧ s.exactRatio ≤ 1 := by
  have hCount : (0 : ℚ) < s.count := Nat.cast_pos.2 h.compared
  refine ⟨div_nonneg (Nat.cast_nonneg _) hCount.le, (div_le_one hCount).2 ?_⟩
  exact Nat.cast_le.2 h.hits_le

theorem Share.Fair.exactWeight_pos (h : s.Fair) : 0 < s.exactWeight :=
  div_pos (Nat.cast_pos.2 h.weighs) two_pos

theorem sum_exactWeight_pos (hFair : ∀ s ∈ list, s.Fair) (hSome : list ≠ []) :
    0 < (list.map (·.exactWeight)).sum := by
  refine List.sum_pos _ (fun weight hMem => ?_) (by simpa using hSome)
  obtain ⟨s, hs, rfl⟩ := List.mem_map.1 hMem
  exact (hFair s hs).exactWeight_pos

theorem exactMean_nonneg (hFair : ∀ s ∈ list, s.Fair) : 0 ≤ exactMean list := by
  refine div_nonneg (List.sum_nonneg fun part hMem => ?_) (List.sum_nonneg fun weight hMem => ?_)
  · obtain ⟨s, hs, rfl⟩ := List.mem_map.1 hMem
    exact mul_nonneg (hFair s hs).exactRatio.1 (hFair s hs).exactWeight_pos.le
  · obtain ⟨s, hs, rfl⟩ := List.mem_map.1 hMem
    exact (hFair s hs).exactWeight_pos.le

theorem exactMean_le_one (hFair : ∀ s ∈ list, s.Fair) (hSome : list ≠ []) : exactMean list ≤ 1 := by
  refine (div_le_one (sum_exactWeight_pos hFair hSome)).2 (List.sum_le_sum fun s hs => ?_)
  calc s.exactRatio * s.exactWeight ≤ 1 * s.exactWeight :=
        mul_le_mul_of_nonneg_right (hFair s hs).exactRatio.2 (hFair s hs).exactWeight_pos.le
    _ = s.exactWeight := one_mul _

theorem exactMean_of_full (hFair : ∀ s ∈ list, s.Fair) (hSome : list ≠ [])
    (hFull : ∀ s ∈ list, s.hits = s.count) : exactMean list = 1 := by
  have hParts : (list.map fun s => s.exactRatio * s.exactWeight) = list.map (·.exactWeight) := by
    refine List.map_congr_left fun s hs => ?_
    have hCount : (s.count : ℚ) ≠ 0 := Nat.cast_ne_zero.2 (hFair s hs).compared.ne'
    rw [Share.exactRatio, hFull s hs, div_self hCount, one_mul]
  rw [exactMean, hParts, div_self (sum_exactWeight_pos hFair hSome).ne']

/-! ### The rounded mean -/

theorem Share.nonneg_weight (s : Share) : s.weight.Nonneg := Double.nonneg_nearest _ _

theorem Share.nonneg_ratio (s : Share) : s.ratio.Nonneg :=
  (Double.nonneg_ofNat s.hits).div (Double.nonneg_ofNat s.count)

theorem Share.Fair.weight_pos (h : s.Fair) : 0 < s.weight.magnitude := by
  have hHalf : 0 < (Double.nearest false 1 2).magnitude := by decide +kernel
  exact Nat.lt_of_lt_of_le hHalf (Double.magnitude_nearest_mono Nat.two_pos h.weighs)

/-- What the shares have of their weights, and the weights, added to two sums that were so far. -/
structure Sums (list : List Share) (part whole : Double) : Prop where
  nonneg_part : (list.foldl (fun (sum : Double) s => sum.add (s.ratio.mul s.weight)) part).Nonneg
  nonneg_whole : (list.foldl (fun (sum : Double) s => sum.add s.weight) whole).Nonneg
  part_le : (list.foldl (fun (sum : Double) s => sum.add (s.ratio.mul s.weight)) part).magnitude ≤
    (list.foldl (fun (sum : Double) s => sum.add s.weight) whole).magnitude
  whole_le : whole.magnitude ≤
    (list.foldl (fun (sum : Double) s => sum.add s.weight) whole).magnitude

theorem sums (hFair : ∀ s ∈ list, s.Fair) {part whole : Double} (hPart : part.Nonneg)
    (hWhole : whole.Nonneg) (hLe : part.magnitude ≤ whole.magnitude) : Sums list part whole := by
  induction list generalizing part whole with
  | nil => exact ⟨hPart, hWhole, hLe, Nat.le_refl _⟩
  | cons s rest ih =>
    have hs := hFair s List.mem_cons_self
    have hRatio : s.ratio.magnitude ≤ Double.one.magnitude :=
      Double.ratio_le_one hs.compared hs.hits_le
    have hScaled := s.nonneg_ratio.mul s.nonneg_weight
    have hNext := Double.add_mono hPart hScaled hWhole s.nonneg_weight hLe
      (Double.mul_le s.nonneg_ratio s.nonneg_weight hRatio)
    have hRest := ih (fun other hMem => hFair other (List.mem_cons_of_mem _ hMem))
      (hPart.add hScaled) (hWhole.add s.nonneg_weight) hNext
    have hMore : whole.magnitude ≤ (whole.add s.weight).magnitude := by
      rw [Double.add_comm hWhole s.nonneg_weight]
      exact Double.le_add_left s.nonneg_weight hWhole
    exact ⟨hRest.nonneg_part, hRest.nonneg_whole, hRest.part_le,
      Nat.le_trans hMore hRest.whole_le⟩

theorem sums_zero (hFair : ∀ s ∈ list, s.Fair) : Sums list .zero .zero :=
  sums hFair Double.nonneg_zero Double.nonneg_zero (Nat.le_refl _)

theorem total_weight_pos (hFair : ∀ s ∈ list, s.Fair) (hSome : list ≠ []) :
    0 < (list.foldl (fun (sum : Double) s => sum.add s.weight) .zero).magnitude := by
  cases list with
  | nil => exact absurd rfl hSome
  | cons s rest =>
    have hs := hFair s List.mem_cons_self
    have hFirst := Double.nonneg_zero.add s.nonneg_weight
    have hRest := sums (fun other hMem => hFair other (List.mem_cons_of_mem s hMem)) hFirst hFirst
      (Nat.le_refl _)
    calc 0 < s.weight.magnitude := hs.weight_pos
      _ ≤ (Double.zero.add s.weight).magnitude :=
        Double.le_add_left Double.nonneg_zero s.nonneg_weight
      _ ≤ _ := hRest.whole_le

theorem nonneg_mean (hFair : ∀ s ∈ list, s.Fair) : (mean list).Nonneg :=
  (sums_zero hFair).nonneg_part.div (sums_zero hFair).nonneg_whole

theorem mean_le_one (hFair : ∀ s ∈ list, s.Fair) (hSome : list ≠ []) :
    (mean list).magnitude ≤ Double.one.magnitude :=
  Double.div_le_one (sums_zero hFair).nonneg_part (sums_zero hFair).nonneg_whole
    (total_weight_pos hFair hSome) (sums_zero hFair).part_le

theorem mean_of_full (hFair : ∀ s ∈ list, s.Fair) (hSome : list ≠ [])
    (hFull : ∀ s ∈ list, s.hits = s.count) : mean list = .one := by
  have hParts : list.foldl (fun (sum : Double) s => sum.add (s.ratio.mul s.weight)) .zero =
      list.foldl (fun (sum : Double) s => sum.add s.weight) .zero := by
    refine List.foldl_ext _ _ _ fun sum s hs => ?_
    rw [Share.ratio, hFull s hs, Double.ratio_self (hFair s hs).compared,
      Double.one_mul s.nonneg_weight]
  rw [mean, hParts]
  exact Double.div_self (sums_zero hFair).nonneg_whole (total_weight_pos hFair hSome)

/-! ### The score -/

theorem similarity_comm (a b : String) : similarity a b = similarity b a := by
  rw [similarity, similarity, comparison_comm]

theorem similarity_self (a : String) : similarity a a = .one :=
  mean_of_full (fun _ => fair_of_mem_comparison) (comparison_ne_nil a a) fun _ => hits_eq_count

/-- Of two requests that are stored at one time, either may answer for the other or none. -/
theorem answersFor_comm (settings : CacheSettings) (l l' : Lookup) (stored now : Nat)
    (answer answer' : Answer) : (l.entry stored answer).answersFor settings now l' =
      (l'.entry stored answer').answersFor settings now l := by
  have hQuery : (l.request.query == l'.request.query) = (l'.request.query == l.request.query) :=
    Bool.beq_comm
  have hBindings : (l.bindings == l'.bindings) = (l'.bindings == l.bindings) := Bool.beq_comm
  simp only [Entry.answersFor, Lookup.entry, Entry.isExpired, similarity_comm l'.context l.context]
  rw [hQuery, hBindings]
  rfl

/-- **Similarity is a score.**  In exact arithmetic it lies from zero to one, is symmetric, and is
one for a context and itself; and so is the rounded score.  So it makes no difference which of two
requests is stored and which is looked up, and two requests that differ in nothing pass every
threshold up to one. -/
theorem similarity_score (a b : String) :
    (0 ≤ exactSimilarity a b ∧ exactSimilarity a b ≤ 1 ∧
      exactSimilarity a b = exactSimilarity b a ∧ exactSimilarity a a = 1) ∧
    (Double.zero.atMost (similarity a b) = true ∧ (similarity a b).atMost .one = true ∧
      similarity a b = similarity b a ∧ similarity a a = .one) ∧
    ∀ (settings : CacheSettings) (l l' : Lookup) (stored now : Nat) (answer answer' : Answer),
      (l.entry stored answer).answersFor settings now l' =
        (l'.entry stored answer').answersFor settings now l ∧
      (l'.request.query = l.request.query → l'.bindings = l.bindings → l'.context = l.context →
        settings.similarityThreshold.atMost .one = true →
        (l.entry stored answer).answersFor settings now l' =
          !(l.entry stored answer).isExpired settings now) := by
  have hFair : ∀ s ∈ comparison a b, s.Fair := fun _ => fair_of_mem_comparison
  refine ⟨⟨exactMean_nonneg hFair, exactMean_le_one hFair (comparison_ne_nil a b), ?_, ?_⟩,
    ⟨?_, ?_, similarity_comm a b, similarity_self a⟩, ?_⟩
  · rw [exactSimilarity, exactSimilarity, comparison_comm]
  · exact exactMean_of_full (fun _ => fair_of_mem_comparison) (comparison_ne_nil a a)
      fun _ => hits_eq_count
  · exact (Double.nonneg_zero.atMost_iff (nonneg_mean hFair)).2 (Nat.zero_le _)
  · exact ((nonneg_mean hFair).atMost_iff Double.nonneg_one).2
      (mean_le_one hFair (comparison_ne_nil a b))
  · intro settings l l' stored now answer answer'
    refine ⟨answersFor_comm settings l l' stored now answer answer', ?_⟩
    intro hQuery hBindings hContext hThreshold
    show (l.request.query == l'.request.query && l.bindings == l'.bindings &&
      !(l.entry stored answer).isExpired settings now &&
      settings.similarityThreshold.atMost (similarity l'.context l.context)) = _
    rw [hQuery, hBindings, hContext, similarity_self, hThreshold, beq_self_eq_true,
      beq_self_eq_true, Bool.and_true, Bool.true_and, Bool.true_and]

/-- One request written with other blanks passes the threshold of a new cache. -/
theorem similarity_score_blanks :
    ((Lookup.of "MATCH (n)" ∅ "notes on Parsing").entry 0 .empty).answersFor .default 0
      (.of " MATCH  (n)" ∅ "notes on Parsing") = true := by
  have hScore := (similarity_score "notes on Parsing" "notes on Parsing").2.2 .default
    (.of "MATCH (n)" ∅ "notes on Parsing") (.of " MATCH  (n)" ∅ "notes on Parsing") 0 0 .empty
    .empty
  refine (hScore.2 (by decide +kernel) rfl rfl (by decide +kernel)).trans ?_
  rw [Cache.isExpired_entry (Nat.zero_le _), Bool.not_false]

end CodeGraph.Context
