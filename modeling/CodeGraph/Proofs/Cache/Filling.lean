import CodeGraph.Cache.NormalForm
import CodeGraph.Proofs.Cache.FileNames
import CodeGraph.Proofs.Query.Conditions
import CodeGraph.Query.Parser

/-!
# Patterns filled in again

In a pattern no file name, hash or number is left (`eachWord_pattern`).  If its masks stand alone, a
sample takes the place of whole words, and all of it is masked again (`pattern_fill`).  If they do
not, what was filled in has another pattern (`alone_of_pattern_fill`): the letters of the masks are
gone from it, so that in its pattern every mask comes from a file name or a number, and such masks
stand alone.  Together these say for which texts the queries of the pattern have the pattern
(`expand_pattern_iff`).
-/

namespace CodeGraph.Mask

open Unicode

variable {w p rest before after file number : List Char} {l : Bool} {text : String}
variable {P : Bool → List Char → List Char → Prop}

def hashMask : List Char := "HASH".toList

def numberMask : List Char := "NUM".toList

theorem isRun_hashMask : IsRun hashMask := by decide

theorem isRun_numberMask : IsRun numberMask := by decide

theorem hashMask_ne_nil : hashMask ≠ [] := by decide

theorem numberMask_ne_nil : numberMask ≠ [] := by decide

/-- A whole word of the text, file names masked, is a hash. -/
def HashMasked (text : String) : Prop :=
  ∃ before w after, maskFiles none 0 text.toList = before ++ (w ++ after) ∧ IsRun w ∧
    endsWord before = false ∧ startsWord after = false ∧ isHash w = true

/-- Wherever the letters of the mask for file names stand in the pattern, nothing is linked to them
and no character of a word follows; and the letters of the mask for numbers are whole words. -/
structure Alone (p : List Char) : Prop where
  file : ∀ before after, p = before ++ (fileMask ++ after) →
    linked before = false ∧ startsWord after = false
  number : ∀ before after, p = before ++ (numberMask ++ after) →
    endsWord before = false ∧ startsWord after = false

/-! ### The words of patterns -/

def hide (w : List Char) : List Char := masked isNumber numberMask (masked isHash hashMask w)

theorem isHash_reverse (w : List Char) : isHash w.reverse = isHash w := by
  rw [isHash, isHash, List.length_reverse, List.all_reverse]

theorem isNumber_reverse (w : List Char) : isNumber w.reverse = isNumber w := by
  rw [isNumber, isNumber, List.isEmpty_reverse, List.all_reverse]

theorem keepsWords_hashes : KeepsWords (masked isHash hashMask) :=
  keepsWords_masked isRun_hashMask hashMask_ne_nil rfl

theorem keepsWords_hide : KeepsWords hide :=
  (keepsWords_masked isRun_numberMask numberMask_ne_nil rfl).comp keepsWords_hashes

theorem hide_cases (w : List Char) : isHash w = true ∧ hide w = hashMask ∨
    isNumber w = true ∧ hide w = numberMask ∨
      isHash w = false ∧ isNumber w = false ∧ hide w = w := by
  rw [hide]
  cases hHash : isHash w with
  | true => exact .inl ⟨rfl, by rw [masked_of_true hHash]; decide⟩
  | false =>
    rw [masked_of_false hHash]
    cases hNumber : isNumber w with
    | true => exact .inr (.inl ⟨rfl, masked_of_true hNumber⟩)
    | false => exact .inr (.inr ⟨rfl, rfl, masked_of_false hNumber⟩)

theorem toList_pattern (text : String) :
    (pattern text).toList = mapWords hide (maskFiles none 0 text.toList) := by
  rw [pattern, String.toList_ofList, maskWords_eq_mapWords isNumber_reverse,
    maskWords_eq_mapWords isHash_reverse]
  exact mapWords_mapWords keepsWords_hashes

theorem isHash_hide (w : List Char) : isHash (hide w) = false ∧ isNumber (hide w) = false := by
  rcases hide_cases w with ⟨-, h⟩ | ⟨-, h⟩ | ⟨hHash, hNumber, h⟩
  · rw [h]; decide +kernel
  · rw [h]; decide +kernel
  · rw [h]; exact ⟨hHash, hNumber⟩

theorem hide_of_mask (h : fileMask <:+: w) : hide w = w := by
  have hMem : 'I' ∈ w := h.subset (by decide)
  rcases hide_cases w with ⟨hHash, -⟩ | ⟨hNumber, -⟩ | ⟨-, -, hSelf⟩
  · rw [isHash, Bool.and_eq_true, List.all_eq_true] at hHash
    exact absurd (hHash.2 _ hMem) (by decide)
  · rw [isNumber, Bool.and_eq_true, List.all_eq_true] at hNumber
    exact absurd (hNumber.2 _ hMem) (by decide +kernel)
  · exact hSelf

theorem extensions_plain :
    ∀ e ∈ extensions, isHash e.toList = false ∧ isNumber e.toList = false := by
  decide +kernel

theorem isEnding_plain (hEnding : isEnding w = true) : isHash w = false ∧ isNumber w = false := by
  have hMem := extensions_plain _ (List.contains_iff_mem.1 hEnding)
  rwa [String.toList_ofList] at hMem

theorem isEnding_of_isNumber (h : isNumber w = true) : isEnding w = false :=
  eq_false_of_ne_true fun hw => Bool.false_ne_true ((isEnding_plain hw).2.symm.trans h)

theorem isEnding_hide (w : List Char) : isEnding (hide w) = isEnding w := by
  rcases hide_cases w with ⟨hHash, h⟩ | ⟨hNumber, h⟩ | ⟨-, -, h⟩
  · rw [h, eq_comm, show isEnding hashMask = false by decide +kernel]
    exact eq_false_of_ne_true fun hw => Bool.false_ne_true ((isEnding_plain hw).1.symm.trans hHash)
  · rw [h, isEnding_of_isNumber hNumber]
    decide +kernel
  · rw [h]

theorem NoFile.mapWords {g : List Char → List Char} (hg : KeepsWords g)
    (hEnding : ∀ w, isEnding (g w) = isEnding w) (hMask : ∀ w, fileMask <:+: w → g w = w)
    (hRun : IsRun w) (hRest : startsWord rest = false) (h : NoFile w rest) :
    NoFile (g w) (mapWords g rest) := by
  have hSame : ∀ text, hasFile (Mask.mapWords g text) = hasFile text := fun text => by
    refine hasFile_mapWords (fun w hw => ?_) fun _ w _ _ hw _ _ _ => hg.isRun w hw
    rw [List.takeWhile_eq_self_iff.2 (hg.isRun w hw), hEnding]
  have hne : g w ≠ [] → w ≠ [] := by
    rintro hgw rfl
    exact hgw hg.nil
  refine ⟨fun hgw hNoMask => ?_, fun hgw hHyphen => ?_⟩
  · rw [(hg.isRun w hRun).hasFile_append, hSame, ← hRun.hasFile_append]
    exact h.word (hne hgw) fun hw => hNoMask ((hMask w hw).symm ▸ hw)
  · rw [hSame]
    refine h.hyphen (hne hgw) ?_
    cases rest with
    | nil => rw [mapWords_run isRun_nil, hg.nil] at hHyphen; exact hHyphen
    | cons c rest => rw [mapWords_cons hg hRest] at hHyphen; exact hHyphen

theorem eachWord_pattern (text : String) :
    EachWord (fun _ w rest => NoFile w rest ∧ isHash w = false ∧ isNumber w = false) false
      (pattern text).toList := by
  have hFiles : FilesMasked false text.toList _ := filesMasked_maskFiles none text.toList
  rw [toList_pattern, eachWord_mapWords keepsWords_hide]
  refine hFiles.noFile.imp fun _ w rest hRun hRest hNone => ⟨?_, isHash_hide w⟩
  exact hNone.mapWords keepsWords_hide isEnding_hide (fun _ => hide_of_mask) hRun hRest

/-! ### Masks that stand alone -/

def NumberAlone (w : List Char) : Prop := numberMask <:+: w → w = numberMask

theorem eachWord_numberAlone_iff : EachWord (fun _ w _ => NumberAlone w) l p ↔
    ∀ before after, p = before ++ (numberMask ++ after) →
      endsWord before = false ∧ startsWord after = false := by
  have hWhole : EachWord (fun _ w _ => numberMask <:+: w → w = numberMask ∧ True) l p ↔ _ :=
    eachWord_whole_iff isRun_numberMask
  simp only [and_true] at hWhole
  exact hWhole

theorem alone_iff :
    Alone p ↔ EachWord (fun l w _ => MaskAlone l w ∧ NumberAlone w) false p := by
  constructor
  · exact fun h => (eachWord_maskAlone_iff.2 h.file).and (eachWord_numberAlone_iff.2 h.number)
  · exact fun h => ⟨eachWord_maskAlone_iff.1 (h.imp fun _ _ _ _ _ h => h.1),
      eachWord_numberAlone_iff.1 (h.imp fun _ _ _ _ _ h => h.2)⟩

/-! ### Samples -/

/-- A file name and a number that can be filled in for masks: they are masked again, and have
neither letters of these masks nor hyphens. -/
structure Sample (file number : List Char) : Prop where
  isFile : IsFile file
  startsWord : startsWord file = true
  stem : isEnding (file.takeWhile isWord) = false
  isRun : IsRun number
  isNumber : isNumber number = true
  isHash : isHash number = false
  letters : (fileMask ++ numberMask).Disjoint (file ++ number)
  hyphen : '-' ∉ file

theorem sample_samples : ∀ s ∈ samples, Sample s.1.toList s.2.toList := by
  have hAll : ∀ s ∈ samples, IsFile s.1.toList ∧ startsWord s.1.toList = true ∧
      isEnding (s.1.toList.takeWhile isWord) = false ∧ IsRun s.2.toList ∧
      isNumber s.2.toList = true ∧ isHash s.2.toList = false ∧
      (fileMask ++ numberMask).all
        (fun c => !(s.1.toList ++ s.2.toList).contains c) = true ∧
      '-' ∉ s.1.toList := by
    decide +kernel
  intro s hs
  obtain ⟨h₁, h₂, h₃, h₄, h₅, h₆, h₇, h₈⟩ := hAll s hs
  exact ⟨h₁, h₂, h₃, h₄, h₅, h₆, disjoint_of_all h₇, h₈⟩

def fill (file number p : List Char) : List Char :=
  Text.replaceAll numberMask number (Text.replaceAll fileMask file p)

def fillNumber (number w : List Char) : List Char := if w = numberMask then number else w

variable (hSample : Sample file number)
include hSample

theorem Sample.file_ne_nil : file ≠ [] := by
  rintro rfl
  exact Bool.noConfusion hSample.startsWord

theorem Sample.number_ne_nil : number ≠ [] := by
  rintro rfl
  exact Bool.noConfusion hSample.isNumber

theorem Sample.disjoint : (fileMask.Disjoint file ∧ numberMask.Disjoint file) ∧
    fileMask.Disjoint number ∧ numberMask.Disjoint number := by
  rw [← List.disjoint_append_left, ← List.disjoint_append_left, ← List.disjoint_append_right]
  exact hSample.letters

theorem Sample.no_fileMask : ¬fileMask <:+: number :=
  not_infix_of_disjoint fileMask_ne_nil hSample.disjoint.2.1

theorem Sample.no_numberMask : ¬numberMask <:+: file :=
  not_infix_of_disjoint numberMask_ne_nil hSample.disjoint.1.2

theorem keepsWords_fillNumber : KeepsWords (fillNumber number) where
  isRun w hRun := by
    rw [fillNumber]
    split
    · exact hSample.isRun
    · exact hRun
  isEmpty w := by
    rw [fillNumber]
    split
    · next h =>
      rw [h, List.isEmpty_eq_false_iff.2 hSample.number_ne_nil]
      rfl
    · rfl

theorem isEnding_fillNumber (w : List Char) : isEnding (fillNumber number w) = isEnding w := by
  rw [fillNumber]
  split
  · next h =>
    rw [h, isEnding_of_isNumber hSample.isNumber]
    decide +kernel
  · rfl

omit hSample in
theorem fillNumber_of_mask (h : fileMask <:+: w) : fillNumber number w = w := by
  rw [fillNumber, if_neg]
  rintro rfl
  exact absurd h (by decide)

theorem hide_fillNumber (hHash : isHash w = false) (hNumber : isNumber w = false) :
    hide (fillNumber number w) = w := by
  rw [fillNumber, hide]
  split
  · next h => rw [masked_of_false hSample.isHash, masked_of_true hSample.isNumber, h]
  · rw [masked_of_false hHash, masked_of_false hNumber]

/-- Masks that stand alone are filled in word by word. -/
theorem fill_eq_mapWords (hAlone : Alone p) :
    fill file number p = mapWords (fillFile file) (mapWords (fillNumber number) p) := by
  rw [fill, replaceAll_eq_mapWords fileMask_ne_nil isRun_fileMask,
    replaceAll_mapWords numberMask_ne_nil isRun_numberMask,
    mapWords_mapWords (keepsWords_fillNumber hSample)]
  refine mapWords_congr ((alone_iff.1 hAlone).imp fun l w _ _ _ ⟨hFile, hNumber⟩ => ?_)
  have hNoMask : number ≠ fileMask := fun h => hSample.no_fileMask (h ▸ List.infix_rfl)
  rw [Function.comp_apply, Function.comp_apply, fillFile, fillNumber]
  by_cases hw : w = fileMask
  · rw [hw, replaceAll_self fileMask_ne_nil, replaceAll_eq_self hSample.no_numberMask,
      if_neg (show fileMask ≠ numberMask by decide), if_pos rfl]
  rw [replaceAll_eq_self fun h => hw (hFile h).1]
  by_cases hw' : w = numberMask
  · rw [hw', replaceAll_self numberMask_ne_nil, if_pos rfl, if_neg hNoMask]
  · rw [replaceAll_eq_self fun h => hw' (hNumber h), if_neg hw', if_neg hw]

/-- **Filled patterns have the pattern** if its masks stand alone. -/
theorem pattern_fill (hAlone : Alone (pattern text).toList) :
    pattern (String.ofList (fill file number (pattern text).toList)) = pattern text := by
  have hWords := (eachWord_pattern text).and (alone_iff.1 hAlone)
  have hKeeps := keepsWords_fillNumber hSample
  have hFilled : EachWord (fun l w rest => NoFile w rest ∧ MaskAlone l w) false
      (mapWords (fillNumber number) (pattern text).toList) := by
    rw [eachWord_mapWords hKeeps]
    refine hWords.imp fun l w rest hRun hRest ⟨⟨hNoFile, _⟩, hMask, _⟩ => ⟨?_, ?_⟩
    · exact hNoFile.mapWords hKeeps (isEnding_fillNumber hSample) (fun _ => fillNumber_of_mask) hRun
        hRest
    · rw [fillNumber]
      split
      · exact fun h => absurd h hSample.no_fileMask
      · exact hMask
  have hFiles : maskFiles none 0 (fill file number (pattern text).toList) =
      mapWords (fillNumber number) (pattern text).toList := by
    rw [fill_eq_mapWords hSample hAlone]
    exact FilesMasked.maskFiles_eq
      (filesMasked_fillFile hSample.isFile hSample.startsWord hSample.stem hFilled)
  refine String.toList_injective ?_
  rw [toList_pattern, String.toList_ofList, hFiles, mapWords_mapWords hKeeps]
  refine (mapWords_congr (hWords.imp fun l w _ _ _ h => ?_)).trans mapWords_self
  exact hide_fillNumber hSample h.1.2.1 h.1.2.2

/-! ### Masks that do not -/

omit hSample in
theorem IsRun.not_mem_hyphen (hRun : IsRun w) : '-' ∉ w := fun h =>
  absurd (hRun _ h) (show ¬isWord '-' = true by decide)

omit hSample in
theorem count_hyphen_mapWords {g : List Char → List Char} (hg : ∀ w, IsRun w → '-' ∉ g w)
    (text : List Char) : (mapWords g text).count '-' = text.count '-' := by
  induction text using words_induction with
  | word w hRun =>
    rw [mapWords_run hRun, List.count_eq_zero.2 (hg w hRun),
      List.count_eq_zero.2 hRun.not_mem_hyphen]
  | cons w c rest hRun hc ih =>
    rw [mapWords_append_cons hRun hc, List.count_append, List.count_append, List.count_cons,
      List.count_cons, ih, List.count_eq_zero.2 (hg w hRun),
      List.count_eq_zero.2 hRun.not_mem_hyphen]

theorem count_hyphen_fill (p : List Char) : (fill file number p).count '-' = p.count '-' := by
  rw [fill, replaceAll_eq_mapWords fileMask_ne_nil isRun_fileMask,
    replaceAll_mapWords numberMask_ne_nil isRun_numberMask]
  refine count_hyphen_mapWords (fun w hRun h => ?_) p
  rcases (rewritten_replaceAll numberMask_ne_nil _).mem_of h with h | h
  · exact hSample.isRun.not_mem_hyphen h
  rcases (rewritten_replaceAll fileMask_ne_nil _).mem_of h with h | h
  · exact hSample.hyphen h
  · exact hRun.not_mem_hyphen h

theorem no_fileMask_fill (p : List Char) : ¬fileMask <:+: fill file number p := by
  have hFiles := not_infix_replaceAll fileMask_ne_nil hSample.file_ne_nil hSample.disjoint.1.1 p
  refine mt (fun h => ?_) hFiles
  exact (rewritten_replaceAll numberMask_ne_nil _).infix_of hSample.number_ne_nil
    hSample.disjoint.2.1 h

theorem no_numberMask_fill (p : List Char) : ¬numberMask <:+: fill file number p :=
  not_infix_replaceAll numberMask_ne_nil hSample.number_ne_nil hSample.disjoint.2.2 _

/-- **Masks stand alone** in a pattern that is the pattern of what it is filled to. -/
theorem alone_of_pattern_fill
    (h : pattern (String.ofList (fill file number (pattern text).toList)) = pattern text) :
    Alone (pattern text).toList := by
  have hPattern : (pattern text).toList =
      mapWords hide (maskFiles none 0 (fill file number (pattern text).toList)) := by
    rw [← String.toList_ofList (l := fill file number _), ← toList_pattern, h]
  have hFiles : FilesMasked false _ _ :=
    filesMasked_maskFiles none (fill file number (pattern text).toList)
  set filled := fill file number (pattern text).toList with hFilled
  have hCount : (maskFiles none 0 filled).count '-' = filled.count '-' := by
    rw [← count_hyphen_mapWords (fun w hRun => (keepsWords_hide.isRun w hRun).not_mem_hyphen),
      ← hPattern, hFilled, count_hyphen_fill hSample]
  have hMasks : EachWord (fun l w _ => MaskAlone l w) false (maskFiles none 0 filled) :=
    eachWord_maskAlone_iff.2 fun before after => hFiles.alone (no_fileMask_fill hSample _) hCount
      (fun h => Bool.noConfusion h) (fun h => Bool.noConfusion h)
  have hNumbers : EachWord (fun _ w _ => ¬numberMask <:+: w) false (maskFiles none 0 filled) := by
    intro before w after hOut _ _ _ h
    have hInfix : numberMask <:+: maskFiles none 0 filled :=
      hOut ▸ h.trans (List.infix_append' before w after)
    exact no_numberMask_fill hSample _
      ((rewritten_filesMasked hFiles).infix_of fileMask_ne_nil (disjoint_of_all rfl) hInfix)
  have hWords := hMasks.and hNumbers
  rw [alone_iff, hPattern, eachWord_mapWords keepsWords_hide]
  refine hWords.imp fun l w _ _ _ ⟨hMask, hNoNumber⟩ => ?_
  rcases hide_cases w with ⟨-, hHide⟩ | ⟨-, hHide⟩ | ⟨-, -, hHide⟩
  · rw [hHide]
    exact ⟨fun h => absurd h (by decide), fun h => absurd h (by decide)⟩
  · rw [hHide]
    exact ⟨fun h => absurd h (by decide), fun _ => rfl⟩
  · rw [hHide]
    exact ⟨hMask, fun h => absurd h hNoNumber⟩

/-! ### Queries of a pattern -/

omit hSample

theorem holds_iff {part : String} : Text.holds text part = true ↔ part.toList <:+: text.toList :=
  Text.occurs_iff

theorem expand_eq_nil_iff (pattern : String) :
    expand pattern = [] ↔ hashMask <:+: pattern.toList := by
  rw [expand]
  split
  · next h => exact iff_of_true rfl (holds_iff.1 h)
  · next h =>
    refine iff_of_false ?_ (mt holds_iff.2 h)
    split
    · exact List.cons_ne_nil _ _
    · exact List.cons_ne_nil _ _

/-- Other patterns have one for each sample; without masks these are all the pattern. -/
theorem mem_expand_iff {query pattern : String} (hNoHash : ¬hashMask <:+: pattern.toList) :
    query ∈ expand pattern ↔
      ∃ s ∈ samples, query = String.ofList (fill s.1.toList s.2.toList pattern.toList) := by
  rw [expand, if_neg (mt holds_iff.1 hNoHash)]
  split
  · next hPlain =>
    rw [Bool.and_eq_true, Bool.not_eq_true', Bool.not_eq_true', ← Bool.not_eq_true,
      ← Bool.not_eq_true, holds_iff, holds_iff] at hPlain
    have hNoFile : ¬fileMask <:+: pattern.toList := hPlain.1
    have hNoNumber : ¬numberMask <:+: pattern.toList := hPlain.2
    have hSelf : ∀ file number, String.ofList (fill file number pattern.toList) = pattern := by
      intro file number
      rw [fill, replaceAll_eq_self hNoFile, replaceAll_eq_self hNoNumber, String.ofList_toList]
    simp only [hSelf, List.mem_singleton]
    exact ⟨fun h => ⟨_, List.mem_cons_self, h⟩, fun ⟨_, _, h⟩ => h⟩
  · rw [List.mem_map]
    exact ⟨fun ⟨s, hs, h⟩ => ⟨s, hs, h.symm⟩, fun ⟨s, hs, h⟩ => ⟨s, hs, h.symm⟩⟩

theorem hashMasked_iff : HashMasked text ↔
    maskWords isHash hashMask [] (maskFiles none 0 text.toList) ≠ maskFiles none 0 text.toList := by
  rw [maskWords_eq_mapWords isHash_reverse]
  constructor
  · rintro ⟨before, w, after, hText, hRun, hBefore, hAfter, hHash⟩ hSame
    have hNone : EachWord (fun _ w _ => isHash w = false) false
        (mapWords (masked isHash hashMask) (maskFiles none 0 text.toList)) := by
      refine (eachWord_mapWords keepsWords_hashes).2 fun _ w _ _ _ _ _ => ?_
      show isHash (masked isHash hashMask w) = false
      cases hHash : isHash w with
      | true => rw [masked_of_true hHash]; decide
      | false => rw [masked_of_false hHash, hHash]
    rw [hSame] at hNone
    exact Bool.false_ne_true ((hNone before w after hText hRun hBefore hAfter).symm.trans hHash)
  · intro hChanged
    by_contra hNot
    have hNone : EachWord (fun _ w _ => masked isHash hashMask w = w) false
        (maskFiles none 0 text.toList) := by
      intro before w after hText hRun hBefore hAfter
      refine masked_of_false (eq_false_of_ne_true fun hHash => hNot ?_)
      exact ⟨before, w, after, hText, hRun, hBefore, hAfter, hHash⟩
    exact hChanged ((mapWords_congr hNone).trans mapWords_self)

theorem hashMask_of_hashMasked (h : HashMasked text) : hashMask <:+: (pattern text).toList := by
  obtain ⟨before, w, after, hText, hRun, hBefore, hAfter, hHash⟩ := h
  by_contra hNoMask
  have hNone : EachWord (fun _ w _ => ¬hashMask <:+: w) false (pattern text).toList :=
    fun before w after hEq _ _ _ h => hNoMask (hEq ▸ h.trans (List.infix_append' before w after))
  rw [toList_pattern, eachWord_mapWords keepsWords_hide] at hNone
  refine hNone before w after hText hRun hBefore hAfter ?_
  rw [hide, masked_of_true hHash]
  decide

/-- **When the queries of a pattern have that pattern.**  Every query of the pattern of a text has
the pattern, and there are some unless a hash was masked in the text, exactly if a hash was masked
or the letters `HASH` do not stand in the pattern and those of the other masks stand alone.  The text
is that of a query in its normal form, but may be any. -/
theorem expand_pattern_iff (text : String) :
    ((∀ query ∈ expand (pattern text), pattern query = pattern text) ∧
      (expand (pattern text) = [] → HashMasked text)) ↔
    HashMasked text ∨
      Text.holds (pattern text) "HASH" = false ∧ Alone (pattern text).toList := by
  by_cases hHash : hashMask <:+: (pattern text).toList
  · have hNil := (expand_eq_nil_iff (pattern text)).2 hHash
    have hHolds : Text.holds (pattern text) "HASH" = true := holds_iff.2 hHash
    rw [hNil, hHolds]
    constructor
    · exact fun h => .inl (h.2 rfl)
    · rintro (h | ⟨h, -⟩)
      · exact ⟨fun _ h => absurd h List.not_mem_nil, fun _ => h⟩
      · exact Bool.noConfusion h
  · have hNe := mt (expand_eq_nil_iff (pattern text)).1 hHash
    have hHolds : Text.holds (pattern text) "HASH" = false :=
      eq_false_of_ne_true (mt holds_iff.1 hHash)
    constructor
    · rintro ⟨h, -⟩
      have hMem : ("index.ts", "10") ∈ samples := List.mem_cons_self
      have hQuery := h _ ((mem_expand_iff hHash).2 ⟨_, hMem, rfl⟩)
      exact .inr ⟨hHolds, alone_of_pattern_fill (sample_samples _ hMem) hQuery⟩
    · rintro (h | ⟨-, hAlone⟩)
      · exact absurd (hashMask_of_hashMasked h) hHash
      · refine ⟨fun query hQuery => ?_, fun h => absurd h hNe⟩
        obtain ⟨s, hs, rfl⟩ := (mem_expand_iff hHash).1 hQuery
        exact pattern_fill (sample_samples s hs) hAlone

/-- Of two queries that can be parsed, one is filled in at letters of a name, and the other has the
letters `HASH` in a name and no hash. -/
theorem expand_pattern_departs :
    ((Query.parse "MATCH (n:PROFILE)" ∅).toOption.isSome = true ∧
      "MATCH (n:PROindex.ts)" ∈ expand (pattern (NormalForm.ofText "MATCH (n:PROFILE)")) ∧
      pattern "MATCH (n:PROindex.ts)" ≠ pattern (NormalForm.ofText "MATCH (n:PROFILE)")) ∧
    (Query.parse "MATCH (n:HASHED)" ∅).toOption.isSome = true ∧
      expand (pattern (NormalForm.ofText "MATCH (n:HASHED)")) = [] ∧
      ¬HashMasked (NormalForm.ofText "MATCH (n:HASHED)") := by
  refine ⟨⟨by decide +kernel, by decide +kernel, by decide +kernel⟩, by decide +kernel,
    by decide +kernel, ?_⟩
  rw [hashMasked_iff, not_not]
  decide +kernel

end CodeGraph.Mask
