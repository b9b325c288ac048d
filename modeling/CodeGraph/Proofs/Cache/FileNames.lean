import Mathlib.Data.List.TakeWhile
import CodeGraph.Proofs.Cache.Words

/-!
# Masked file names

A text goes on like a file name if up to a point there is nothing but what may stand before it and
an ending stands behind the point (`hasFile`).  File names are looked for at the start and the end
of every word, and `FilesMasked` says how a text and its masked form go together
(`filesMasked_maskFiles`, `FilesMasked.maskFiles_eq`).

Masking leaves no file name that could be found again (`FilesMasked.noFile`).  So a text with masks
that stand alone is the masked form of the text with a file name in place of each
(`filesMasked_fillFile`).  The other way round, the masks of a text that had none stand alone,
unless a hyphen was masked with a file name (`FilesMasked.alone`).
-/

namespace CodeGraph.Mask

open Unicode

variable {w span stem rest text out before after cs : List Char} {c : Char} {l inWord : Bool}
variable {previous : Option Char}

/-! ### File names -/

def isStem (c : Char) : Bool := isWord c || c == '-'

def isEnding (w : List Char) : Bool := extensions.contains (String.ofList w)

/-- A file name: characters that may stand before the point, the point and an ending. -/
inductive IsFile : List Char → Prop
  | mk {stem ending : List Char} (hne : stem ≠ []) (hStem : ∀ c ∈ stem, isStem c = true)
    (hEnding : isEnding ending = true) : IsFile (stem ++ '.' :: ending)

/-- Whether the text goes on like a file name: up to a point there is nothing but what may stand
before it, and the word behind the point is an ending. -/
def hasFile : List Char → Bool
  | [] => false
  | c :: cs => if isStem c then hasFile cs else c == '.' && isEnding (cs.takeWhile isWord)

theorem isStem_of_isWord (hc : isWord c = true) : isStem c = true := by
  rw [isStem, hc, Bool.true_or]

theorem isStem_point : isStem '.' = false := by decide +kernel

theorem extensions_spelling :
    ∀ e ∈ extensions, IsRun e.toList ∧ e.toList ≠ [] ∧ 'F' ∉ e.toList := by
  decide +kernel

theorem isEnding_spelling (hEnding : isEnding w = true) : IsRun w ∧ w ≠ [] ∧ 'F' ∉ w := by
  have hMem := extensions_spelling _ (List.contains_iff_mem.1 hEnding)
  rwa [String.toList_ofList] at hMem

theorem hasFile_stem (hStem : ∀ c ∈ stem, isStem c = true) :
    hasFile (stem ++ rest) = hasFile rest := by
  induction stem with
  | nil => rfl
  | cons c stem ih =>
    rw [List.cons_append, hasFile, if_pos (hStem c List.mem_cons_self),
      ih (List.forall_mem_of_forall_mem_cons hStem)]

theorem IsRun.hasFile_append (hRun : IsRun w) : hasFile (w ++ rest) = hasFile rest :=
  hasFile_stem fun c hc => isStem_of_isWord (hRun c hc)

theorem hasFile_cons (hc : isWord c = false) : hasFile (c :: rest) =
    (c == '-' && hasFile rest || c == '.' && isEnding (rest.takeWhile isWord)) := by
  rw [hasFile, isStem, hc, Bool.false_or]
  by_cases hHyphen : c = '-'
  · subst hHyphen
    simp
  · simp [hHyphen]

theorem IsFile.hasFile (hFile : IsFile span) (hRest : startsWord rest = false) :
    hasFile (span ++ rest) = true := by
  obtain ⟨hne, hStem, hEnding⟩ := hFile
  rw [List.append_assoc, hasFile_stem hStem, List.cons_append, Mask.hasFile,
    if_neg (ne_true_of_eq_false isStem_point), takeWhile_run (isEnding_spelling hEnding).1 hRest,
    hEnding]
  rfl

theorem exists_of_hasFile (h : hasFile text = true) : ∃ stem ending rest,
    text = stem ++ '.' :: (ending ++ rest) ∧ (∀ c ∈ stem, isStem c = true) ∧
      isEnding ending = true ∧ startsWord rest = false := by
  induction text with
  | nil => exact absurd h Bool.false_ne_true
  | cons c cs ih =>
    rw [hasFile] at h
    split at h
    · next hc =>
      obtain ⟨stem, ending, rest, rfl, hStem, hEnding, hRest⟩ := ih h
      exact ⟨c :: stem, ending, rest, rfl, List.forall_mem_cons.2 ⟨hc, hStem⟩, hEnding, hRest⟩
    · obtain ⟨hPoint, hEnding⟩ := Bool.and_eq_true_iff.1 h
      obtain ⟨w, rest, rfl, hRun, hRest⟩ := exists_run_append cs
      rw [takeWhile_run hRun hRest] at hEnding
      rw [eq_of_beq hPoint]
      exact ⟨[], w, rest, rfl, List.forall_mem_nil _, hEnding, hRest⟩

theorem fileLength?_file (hFile : IsFile span) (hRest : startsWord rest = false) :
    fileLength? (span ++ rest) = some span.length := by
  obtain @⟨stem, ending, hne, hStem, hEnding⟩ := hFile
  have hTake :
      (stem ++ '.' :: (ending ++ rest)).takeWhile (fun c => isWord c || c == '-') = stem := by
    show List.takeWhile isStem _ = stem
    rw [List.takeWhile_append_of_pos hStem,
      List.takeWhile_cons_of_neg (ne_true_of_eq_false isStem_point), List.append_nil]
  rw [List.append_assoc, List.cons_append, fileLength?, hTake, List.drop_left]
  show (if (!stem.isEmpty && isEnding ((ending ++ rest).takeWhile isWord)) = true then
    some (stem.length + 1 + ((ending ++ rest).takeWhile isWord).length) else none) = _
  rw [takeWhile_run (isEnding_spelling hEnding).1 hRest, hEnding, List.isEmpty_eq_false_iff.2 hne,
    List.length_append, List.length_cons, Nat.add_assoc, Nat.add_comm 1]
  rfl

theorem exists_of_fileLength? {n : Nat} (h : fileLength? text = some n) :
    ∃ span rest, text = span ++ rest ∧ IsFile span ∧ startsWord rest = false ∧ n = span.length := by
  have hSplit := List.prefix_iff_eq_append.1 (List.takeWhile_prefix isStem (l := text))
  rw [fileLength?] at h
  split at h
  · next behind hDrop =>
    have hDrop : text.drop (text.takeWhile isStem).length = '.' :: behind := hDrop
    rw [hDrop] at hSplit
    have h : (if (!(text.takeWhile isStem).isEmpty && isEnding (behind.takeWhile isWord)) = true
      then some ((text.takeWhile isStem).length + 1 + (behind.takeWhile isWord).length) else none) =
        some n := h
    split at h
    · next hBoth =>
      obtain ⟨hStem, hEnding⟩ := Bool.and_eq_true_iff.1 hBoth
      obtain ⟨w, rest, rfl, hRun, hRest⟩ := exists_run_append behind
      rw [takeWhile_run hRun hRest] at hEnding h
      refine ⟨text.takeWhile isStem ++ '.' :: w, rest, ?_, .mk ?_ ?_ hEnding, hRest, ?_⟩
      · rw [List.append_assoc, List.cons_append, hSplit]
      · exact fun hNil => by simp [hNil] at hStem
      · exact fun c hc => List.mem_takeWhile_imp hc
      · rw [← Option.some.inj h, List.length_append, List.length_cons, Nat.add_assoc,
          Nat.add_comm 1]
    · contradiction
  · contradiction

theorem isFile_iff : IsFile span ↔ fileLength? span = some span.length := by
  constructor
  · intro hFile
    have hLength : fileLength? (span ++ []) = some span.length := fileLength?_file hFile rfl
    rwa [List.append_nil] at hLength
  · intro hLength
    obtain ⟨file, rest, rfl, hFile, -, hSame⟩ := exists_of_fileLength? hLength
    rw [List.length_append, Nat.add_eq_left, List.length_eq_zero_iff] at hSame
    rwa [hSame, List.append_nil]

instance (span : List Char) : Decidable (IsFile span) := decidable_of_iff _ isFile_iff.symm

theorem fileLength?_isSome (c : Char) (cs : List Char) :
    (fileLength? (c :: cs)).isSome = (isStem c && hasFile cs) := by
  rw [Bool.eq_iff_iff, Option.isSome_iff_exists, Bool.and_eq_true]
  constructor
  · rintro ⟨n, hLength⟩
    obtain ⟨span, rest, hSpan, hFile, hRest, -⟩ := exists_of_fileLength? hLength
    have hHas := hFile.hasFile hRest
    obtain @⟨stem, ending, hne, hStem, _⟩ := hFile
    obtain ⟨d, stem, rfl⟩ := List.exists_cons_of_ne_nil hne
    obtain ⟨rfl, -⟩ := List.cons.inj hSpan
    have hc := hStem c List.mem_cons_self
    rw [← hSpan, hasFile, if_pos hc] at hHas
    exact ⟨hc, hHas⟩
  · rintro ⟨hc, hHas⟩
    obtain ⟨stem, ending, rest, rfl, hStem, hEnding, hRest⟩ := exists_of_hasFile hHas
    have hFile := IsFile.mk (List.cons_ne_nil c stem) (List.forall_mem_cons.2 ⟨hc, hStem⟩) hEnding
    have hLength := fileLength?_file hFile hRest
    rw [List.append_assoc] at hLength
    exact ⟨_, hLength⟩

/-! ### The mask -/

def fileMask : List Char := "FILE".toList

theorem isRun_fileMask : IsRun fileMask := by decide

theorem fileMask_ne_nil : fileMask ≠ [] := by decide

theorem maskFiles_skip (c : Char) (skipped rest : List Char) :
    maskFiles (some c) skipped.length (skipped ++ rest) =
      maskFiles (c :: skipped).getLast? 0 rest := by
  induction skipped generalizing c with
  | nil => rfl
  | cons d skipped ih =>
    rw [List.length_cons, List.cons_append, maskFiles, ih, List.getLast?_cons_cons]

theorem maskFiles_file (hEdge : previous.any isWord ≠ startsWord span) (hFile : IsFile span)
    (hRest : startsWord rest = false) : maskFiles previous 0 (span ++ rest) =
      fileMask ++ maskFiles span.getLast? 0 rest := by
  have hLength := fileLength?_file hFile hRest
  obtain @⟨stem, ending, hne, hStem, _⟩ := hFile
  obtain ⟨c, stem, rfl⟩ := List.exists_cons_of_ne_nil hne
  rw [List.cons_append, List.cons_append] at hLength ⊢
  have hEdge : isEdge previous c = true := bne_iff_ne.2 hEdge
  have hIf : (if isEdge previous c then fileLength? (c :: (stem ++ '.' :: ending ++ rest))
      else none) = some (stem ++ '.' :: ending).length.succ := by
    rw [if_pos hEdge, hLength]; rfl
  rw [maskFiles, hIf]
  exact congrArg (fileMask ++ ·) (maskFiles_skip c (stem ++ '.' :: ending) rest)

theorem maskFiles_keep
    (hNone : previous.any isWord ≠ isWord c → isStem c = true → hasFile cs = false) :
    maskFiles previous 0 (c :: cs) = c :: maskFiles (some c) 0 cs := by
  have hIf : (if isEdge previous c then fileLength? (c :: cs) else none) = none := by
    split
    · next hEdge =>
      rw [← Option.not_isSome_iff_eq_none, fileLength?_isSome, Bool.and_eq_true]
      exact fun ⟨hc, hHas⟩ => Bool.false_ne_true ((hNone (bne_iff_ne.1 hEdge) hc).symm.trans hHas)
    · rfl
  rw [maskFiles, hIf]

/-- How a text and the text with masks for its file names go together; `inWord` says whether a word
character stands before them.  File names are looked for at the start and the end of every word. -/
inductive FilesMasked : Bool → List Char → List Char → Prop
  | nil (inWord : Bool) : FilesMasked inWord [] []
  | keep {inWord : Bool} {c : Char} {cs out : List Char}
    (hNone : inWord ≠ isWord c → isStem c = true → hasFile cs = false)
    (h : FilesMasked (isWord c) cs out) : FilesMasked inWord (c :: cs) (c :: out)
  | file {inWord : Bool} {span rest out : List Char} (hEdge : inWord ≠ startsWord span)
    (hFile : IsFile span) (hRest : startsWord rest = false) (h : FilesMasked true rest out) :
    FilesMasked inWord (span ++ rest) (fileMask ++ out)

theorem IsFile.endsWord (hFile : IsFile span) : endsWord span = true := by
  obtain ⟨_, _, hEnding⟩ := hFile
  obtain ⟨hRun, hne, -⟩ := isEnding_spelling hEnding
  rw [endsWord_append_cons (by decide)]
  exact hRun.endsWord hne

theorem filesMasked_maskFiles (previous : Option Char) (text : List Char) :
    FilesMasked (previous.any isWord) text (maskFiles previous 0 text) := by
  induction hLength : text.length using Nat.strong_induction_on generalizing text previous with
  | _ n ih =>
    cases text with
    | nil => exact .nil _
    | cons c cs =>
      by_cases hHere : previous.any isWord ≠ isWord c ∧ isStem c = true ∧ hasFile cs = true
      · obtain ⟨hEdge, hc, hHas⟩ := hHere
        obtain ⟨stem, ending, rest, rfl, hStem, hEnding, hRest⟩ := exists_of_hasFile hHas
        have hFile : IsFile (c :: stem ++ '.' :: ending) :=
          .mk (List.cons_ne_nil c stem) (List.forall_mem_cons.2 ⟨hc, hStem⟩) hEnding
        have hText : c :: (stem ++ '.' :: (ending ++ rest)) =
            (c :: stem ++ '.' :: ending) ++ rest := by
          rw [List.append_assoc, List.cons_append, List.cons_append]
        have hShorter : rest.length < n := by
          rw [← hLength, hText, List.length_append, List.length_append, List.length_cons]
          omega
        rw [hText, maskFiles_file hEdge hFile hRest]
        exact .file hEdge hFile hRest (hFile.endsWord ▸ ih _ hShorter _ rest rfl)
      · have hNone : previous.any isWord ≠ isWord c → isStem c = true → hasFile cs = false :=
          fun hEdge hc => eq_false_of_ne_true fun hHas => hHere ⟨hEdge, hc, hHas⟩
        rw [maskFiles_keep hNone]
        exact .keep hNone (ih cs.length (hLength ▸ Nat.lt_succ_self _) (some c) cs rfl)

theorem FilesMasked.maskFiles_eq (h : FilesMasked (previous.any isWord) text out) :
    maskFiles previous 0 text = out := by
  generalize hWord : previous.any isWord = inWord at h
  induction h generalizing previous with
  | nil => rfl
  | keep hNone _ ih =>
    subst hWord
    rw [maskFiles_keep hNone, ih rfl]
  | file hEdge hFile hRest _ ih =>
    subst hWord
    rw [maskFiles_file hEdge hFile hRest, ih hFile.endsWord]

/-! ### Where no file name is left -/

theorem FilesMasked.takeWhile_eq (h : FilesMasked inWord text out)
    (hNoMask : 'F' ∉ out.takeWhile isWord) :
    out.takeWhile isWord = text.takeWhile isWord := by
  induction h with
  | nil => rfl
  | @keep _ c cs out _ _ ih =>
    cases hc : isWord c with
    | false => rw [List.takeWhile_cons_of_neg (ne_true_of_eq_false hc),
        List.takeWhile_cons_of_neg (ne_true_of_eq_false hc)]
    | true =>
      rw [List.takeWhile_cons_of_pos hc] at hNoMask ⊢
      rw [List.takeWhile_cons_of_pos hc, ih (mt (List.mem_cons_of_mem c) hNoMask)]
  | file =>
    rw [List.takeWhile_append_of_pos isRun_fileMask] at hNoMask
    exact absurd (List.mem_append_left _ (by decide)) hNoMask

theorem FilesMasked.hasFile_eq_false (h : FilesMasked inWord text out)
    (hNone : hasFile text = false) : hasFile out = false := by
  induction h with
  | nil => rfl
  | @keep _ c cs out _ h ih =>
    rw [hasFile] at hNone ⊢
    split
    · next hc => exact ih (by rwa [if_pos hc] at hNone)
    · next hc =>
      rw [if_neg hc] at hNone
      by_contra hHas
      rw [Bool.not_eq_false, Bool.and_eq_true] at hHas
      obtain ⟨hPoint, hEnding⟩ := hHas
      rw [h.takeWhile_eq (isEnding_spelling hEnding).2.2] at hEnding
      rw [hPoint, hEnding] at hNone
      exact Bool.noConfusion hNone
  | file _ hFile hRest _ _ =>
    exact absurd (hNone.symm.trans (hFile.hasFile hRest)) Bool.false_ne_true

/-- Whether a word character stands before what follows the text; `inWord` says whether one stands
before the text. -/
def wordBefore (inWord : Bool) (text : List Char) : Bool := text.foldl (fun _ c => isWord c) inWord

theorem wordBefore_append (x y : List Char) :
    wordBefore inWord (x ++ y) = wordBefore (wordBefore inWord x) y := List.foldl_append

theorem wordBefore_of_ne_nil (hne : text ≠ []) : wordBefore inWord text = endsWord text := by
  obtain ⟨x, c, rfl⟩ := (List.eq_nil_or_concat text).resolve_left hne
  rw [List.concat_eq_append, wordBefore_append, endsWord_append (List.cons_ne_nil c [])]
  rfl

/-- A text can be cut together with its masks behind and in front of a word. -/
theorem FilesMasked.exists_of_append (h : FilesMasked inWord text (before ++ after))
    (hCut : endsWord before = false ∨ startsWord after = false) :
    ∃ rest, FilesMasked (wordBefore inWord before) rest after := by
  generalize hOut : before ++ after = out at h
  induction h generalizing before with
  | nil inWord =>
    obtain ⟨rfl, rfl⟩ := List.append_eq_nil_iff.1 hOut
    exact ⟨[], .nil inWord⟩
  | @keep inWord c cs out hNone h ih =>
    cases before with
    | nil =>
      rw [List.nil_append] at hOut
      exact ⟨c :: cs, hOut ▸ .keep hNone h⟩
    | cons d before =>
      obtain ⟨rfl, hRest⟩ := List.cons.inj hOut
      refine ih (hCut.imp_left fun hEnds => ?_) hRest
      cases before with
      | nil => rfl
      | cons b before =>
        rwa [← List.singleton_append, endsWord_append (List.cons_ne_nil b _)] at hEnds
  | @file inWord span rest out hEdge hFile hRest h ih =>
    rcases List.append_eq_append_iff.1 hOut with ⟨behind, hMask, rfl⟩ | ⟨behind, rfl, hBehind⟩
    · -- the cut is in the mask, and there only at its start or its end
      obtain ⟨hBefore, hBehind⟩ := isRun_append.1 (hMask ▸ isRun_fileMask)
      by_cases hStart : before = []
      · subst hStart
        rw [← hMask.trans (List.nil_append behind)]
        exact ⟨span ++ rest, .file hEdge hFile hRest h⟩
      by_cases hEnd : behind = []
      · subst hEnd
        rw [List.append_nil] at hMask
        rw [List.nil_append, wordBefore_of_ne_nil hStart, hBefore.endsWord hStart]
        exact ⟨rest, h⟩
      · rw [hBefore.endsWord hStart, startsWord_append hEnd, hBehind.startsWord hEnd] at hCut
        simp at hCut
    · rw [wordBefore_append, wordBefore_of_ne_nil fileMask_ne_nil,
        isRun_fileMask.endsWord fileMask_ne_nil]
      refine ih (hCut.imp_left fun hEnds => ?_) hBehind.symm
      by_cases hEnd : behind = []
      · exact hEnd ▸ rfl
      · rwa [endsWord_append hEnd] at hEnds

/-- At the start and the end of a word, a masked text goes on like a file name only with a mask. -/
theorem FilesMasked.hasFile_edge (h : FilesMasked inWord text (c :: out))
    (hEdge : inWord ≠ isWord c) (hStem : isStem c = true) (hNoMask : ¬fileMask <+: c :: out) :
    hasFile (c :: out) = false := by
  generalize hOut : c :: out = masked at h hNoMask
  cases h with
  | nil => exact rfl
  | keep hNone hTail =>
    obtain ⟨rfl, rfl⟩ := List.cons.inj hOut
    rw [hasFile, if_pos hStem]
    exact hTail.hasFile_eq_false (hNone hEdge hStem)
  | file => exact absurd (List.prefix_append _ _) hNoMask

/-- No file name is left: a text goes on like one neither from the start of a word, unless it has a
mask, nor from a hyphen behind a word. -/
structure NoFile (w rest : List Char) : Prop where
  word : w ≠ [] → ¬fileMask <:+: w → hasFile (w ++ rest) = false
  hyphen : w ≠ [] → rest.head? = some '-' → hasFile rest = false

theorem FilesMasked.noFile (h : FilesMasked false text out) :
    EachWord (fun _ => NoFile) l out := by
  rintro before w after rfl hRun hBefore hAfter
  refine ⟨fun hne hNoMask => ?_, fun hne hHyphen => ?_⟩
  · obtain ⟨rest, hRest⟩ := h.exists_of_append (.inl hBefore)
    have hWordBefore : wordBefore false before = false := by
      by_cases hNil : before = []
      · exact hNil ▸ rfl
      · exact (wordBefore_of_ne_nil hNil).trans hBefore
    obtain ⟨c, w, rfl⟩ := List.exists_cons_of_ne_nil hne
    have hc := hRun c List.mem_cons_self
    refine hRest.hasFile_edge ?_ (isStem_of_isWord hc) fun hMask => ?_
    · rw [hWordBefore, hc]
      decide
    · exact hNoMask (prefix_of_prefix_append isRun_fileMask hAfter hMask).isInfix
  · rw [← List.append_assoc] at h
    obtain ⟨rest, hRest⟩ := h.exists_of_append (.inr hAfter)
    rw [wordBefore_of_ne_nil (List.append_ne_nil_of_right_ne_nil before hne), endsWord_append hne,
      hRun.endsWord hne] at hRest
    obtain ⟨behind, rfl⟩ := List.head?_eq_some_iff.1 hHyphen
    refine hRest.hasFile_edge (by decide) rfl fun hMask => ?_
    exact absurd (List.cons_prefix_cons.1 hMask).1 (by decide)

/-! ### Masks that stand alone -/

/-- A mask in a word is the whole word, and the word is linked to nothing before it. -/
def MaskAlone (l : Bool) (w : List Char) : Prop := fileMask <:+: w → w = fileMask ∧ l = false

theorem eachWord_maskAlone_iff : EachWord (fun l w _ => MaskAlone l w) l text ↔
    ∀ before after, text = before ++ (fileMask ++ after) →
      linkedFrom l before = false ∧ startsWord after = false := by
  refine (eachWord_whole_iff isRun_fileMask (D := (· = false))).trans ?_
  constructor
  · exact fun h before after hText => (h before after hText).2.symm
  · intro h before after hText
    obtain ⟨hLinked, hStarts⟩ := h before after hText
    exact ⟨endsWord_of_linkedFrom hLinked, hStarts, hLinked⟩

def fillFile (file w : List Char) : List Char := if w = fileMask then file else w

variable {file : List Char}

theorem fillFile_of_linked (h : MaskAlone true w) : fillFile file w = w := by
  rw [fillFile, if_neg]
  rintro rfl
  exact Bool.noConfusion (h List.infix_rfl).2

theorem takeWhile_append_cons (x rest : List Char) (hc : isWord c = false) :
    (x ++ c :: rest).takeWhile isWord = x.takeWhile isWord := by
  induction x with
  | nil => exact List.takeWhile_cons_of_neg (ne_true_of_eq_false hc)
  | cons d x ih => rw [List.cons_append, List.takeWhile_cons, List.takeWhile_cons, ih]

section

variable {g : List Char → List Char}

theorem isEnding_mapWords (hEnding : ∀ w, IsRun w → isEnding ((g w).takeWhile isWord) = isEnding w)
    (text : List Char) :
    isEnding ((mapWords g text).takeWhile isWord) = isEnding (text.takeWhile isWord) := by
  induction text using words_induction with
  | word w hRun => rw [mapWords_run hRun, hEnding w hRun, List.takeWhile_eq_self_iff.2 hRun]
  | cons w c rest hRun hc _ =>
    rw [mapWords_append_cons hRun hc, takeWhile_append_cons _ _ hc, takeWhile_append_cons _ _ hc,
      hEnding w hRun, List.takeWhile_eq_self_iff.2 hRun]

theorem hasFile_mapWords (hEnding : ∀ w, IsRun w → isEnding ((g w).takeWhile isWord) = isEnding w)
    (hLinked : EachWord (fun l w _ => l = true → IsRun (g w)) true text) :
    hasFile (mapWords g text) = hasFile text := by
  induction text using words_induction with
  | word w hRun =>
    have hRun' := (eachWord_run hRun).1 hLinked rfl
    rw [mapWords_run hRun, ← List.append_nil (g w), hRun'.hasFile_append, ← List.append_nil w,
      hRun.hasFile_append]
  | cons w c rest hRun hc ih =>
    obtain ⟨hFirst, hRest⟩ := (eachWord_append_cons hRun hc).1 hLinked
    rw [mapWords_append_cons hRun hc, (hFirst rfl).hasFile_append, hRun.hasFile_append,
      hasFile_cons hc, hasFile_cons hc, isEnding_mapWords hEnding]
    by_cases hHyphen : c = '-'
    · subst hHyphen
      rw [hRun.linkedFrom] at hRest
      rw [ih hRest]
    · rw [beq_false_of_ne hHyphen, Bool.false_and, Bool.false_and]

end

theorem FilesMasked.append_left (hRun : IsRun w) (hne : w ≠ [])
    (hNone : hasFile rest = false) (h : FilesMasked true rest out) :
    FilesMasked inWord (w ++ rest) (w ++ out) := by
  induction w generalizing inWord with
  | nil => exact absurd rfl hne
  | cons c w ih =>
    have hc := hRun c List.mem_cons_self
    have hRest := List.forall_mem_of_forall_mem_cons hRun
    refine .keep (fun _ _ => (IsRun.hasFile_append hRest).trans hNone) ?_
    rw [hc]
    by_cases hEnd : w = []
    · exact hEnd ▸ h
    · exact ih hRest hEnd

theorem isEnding_fillFile (hStart : isEnding (file.takeWhile isWord) = false) (hRun : IsRun w) :
    isEnding ((fillFile file w).takeWhile isWord) = isEnding w := by
  rw [fillFile]
  split
  · next hMask =>
    rw [hStart, hMask]
    exact (eq_false_of_ne_true fun h => (isEnding_spelling h).2.2 (by decide)).symm
  · rw [List.takeWhile_eq_self_iff.2 hRun]

theorem hasFile_fillFile (hStart : isEnding (file.takeWhile isWord) = false)
    (hc : isWord c = false) (h : EachWord (fun l w _ => MaskAlone l w) (c == '-') rest) :
    hasFile (c :: mapWords (fillFile file) rest) = hasFile (c :: rest) := by
  rw [hasFile_cons hc, hasFile_cons hc,
    isEnding_mapWords fun w hRun => isEnding_fillFile hStart hRun]
  by_cases hHyphen : c = '-'
  · subst hHyphen
    rw [hasFile_mapWords (fun w hRun => isEnding_fillFile hStart hRun)]
    refine h.imp fun l w _ hRun _ hAlone hl => ?_
    rw [fillFile_of_linked (hl ▸ hAlone)]
    exact hRun
  · rw [beq_false_of_ne hHyphen, Bool.false_and, Bool.false_and]

/-- **Filled masks are masked again.**  A text in which no file name is left, and in which masks
stand alone, is the masked form of the text with a file name for each mask. -/
theorem filesMasked_fillFile (hFile : IsFile file) (hWord : startsWord file = true)
    (hStart : isEnding (file.takeWhile isWord) = false)
    (h : EachWord (fun l w rest => NoFile w rest ∧ MaskAlone l w) l text) :
    FilesMasked false (mapWords (fillFile file) text) text := by
  have hMasked : ∀ {rest out}, startsWord rest = false → FilesMasked true rest out →
      FilesMasked false (file ++ rest) (fileMask ++ out) :=
    .file (by rw [hWord]; exact Bool.false_ne_true) hFile
  induction text using words_induction generalizing l with
  | word w hRun =>
    obtain ⟨-, hAlone⟩ := (eachWord_run hRun).1 h
    rw [mapWords_run hRun, fillFile]
    split
    · next hMask =>
      have hEnd := hMasked rfl (.nil true)
      rwa [List.append_nil, ← hMask, List.append_nil] at hEnd
    · by_cases hne : w = []
      · exact hne ▸ .nil false
      · have hKept : FilesMasked false (w ++ []) (w ++ []) := .append_left hRun hne rfl (.nil true)
        rwa [List.append_nil] at hKept
  | cons w c rest hRun hc ih =>
    obtain ⟨⟨hNoFile, hAlone⟩, hRest⟩ := (eachWord_append_cons hRun hc).1 h
    have hBehind := ih hRest
    rw [mapWords_append_cons hRun hc]
    by_cases hne : w = []
    · subst hne
      exact .keep (fun hEdge => absurd hc.symm hEdge) (hc ▸ hBehind)
    rw [hRun.linkedFrom, List.isEmpty_eq_false_iff.2 hne, Bool.not_false, Bool.or_true,
      Bool.true_and] at hRest
    have hSame := hasFile_fillFile hStart hc (hRest.imp fun _ _ _ _ _ h => h.2)
    have hTail : FilesMasked true (c :: mapWords (fillFile file) rest) (c :: rest) := by
      refine .keep (fun _ hStem => ?_) (hc ▸ hBehind)
      have hHyphen : c = '-' := by
        rw [isStem, hc, Bool.false_or] at hStem
        exact eq_of_beq hStem
      rw [hasFile, if_pos hStem] at hSame
      exact hSame.trans (hNoFile.hyphen hne (congrArg some hHyphen))
    rw [fillFile]
    split
    · next hMask => exact hMask ▸ hMasked hc hTail
    · next hMask =>
      have hNone := hNoFile.word hne fun hInfix => hMask (hAlone hInfix).1
      exact hTail.append_left hRun hne (hSame.trans (hRun.hasFile_append ▸ hNone))

/-! ### Masks that come from file names -/

theorem rewritten_filesMasked (h : FilesMasked inWord text out) : Rewritten fileMask text out := by
  induction h with
  | nil => exact .nil
  | keep _ _ ih => exact .keep _ ih
  | file _ _ _ _ ih => exact .swap _ ih

theorem FilesMasked.count_hyphen (h : FilesMasked inWord text out) :
    out.count '-' ≤ text.count '-' := by
  induction h with
  | nil => exact Nat.le_refl _
  | @keep _ c _ _ _ _ ih =>
    rw [List.count_cons, List.count_cons]
    exact Nat.add_le_add_right ih _
  | file _ _ _ _ ih =>
    rw [List.count_append, List.count_append, List.count_eq_zero.2 (show '-' ∉ fileMask by decide)]
    omega

theorem IsFile.startsWord (hFile : IsFile span) (hNoHyphen : '-' ∉ span) :
    startsWord span = true := by
  obtain @⟨stem, ending, hne, hStem, _⟩ := hFile
  obtain ⟨c, stem, rfl⟩ := List.exists_cons_of_ne_nil hne
  have hc := hStem c List.mem_cons_self
  have hNe : (c == '-') = false := by
    refine beq_false_of_ne fun h => hNoHyphen ?_
    exact h ▸ List.mem_cons_self
  rwa [isStem, hNe, Bool.or_false] at hc

theorem FilesMasked.no_hyphen (h : FilesMasked true rest out)
    (hCount : (fileMask ++ out).count '-' = (span ++ rest).count '-') :
    '-' ∉ span ∧ out.count '-' = rest.count '-' := by
  have hLe := h.count_hyphen
  rw [List.count_append, List.count_append,
    List.count_eq_zero.2 (show '-' ∉ fileMask by decide)] at hCount
  exact ⟨List.count_eq_zero.1 (by omega), by omega⟩

theorem FilesMasked.starts_no_word (h : FilesMasked true rest out) (hRest : startsWord rest = false)
    (hCount : out.count '-' = rest.count '-') : startsWord out = false := by
  cases h with
  | nil => rfl
  | keep => exact hRest
  | file hEdge hFile _ h => exact absurd (hFile.startsWord (h.no_hyphen hCount).1).symm hEdge

theorem fileMask_append_eq (h : fileMask ++ out = before ++ (fileMask ++ after)) :
    before = [] ∧ after = out ∨
      ∃ between, before = fileMask ++ between ∧ out = between ++ (fileMask ++ after) := by
  rcases List.append_eq_append_iff.1 h with ⟨between, rfl, hOut⟩ | ⟨behind, hMask, hBehind⟩
  · exact .inr ⟨between, rfl, hOut⟩
  · by_cases hStart : before = []
    · subst hStart
      rw [List.nil_append] at hMask
      exact .inl ⟨rfl, List.append_cancel_left (hBehind.trans (hMask ▸ rfl))⟩
    by_cases hEnd : behind = []
    · subst hEnd
      rw [List.append_nil] at hMask
      exact .inr ⟨[], by rw [List.append_nil, hMask], hBehind.symm⟩
    -- else the first letter of the mask would stand in it twice
    obtain ⟨b, before, rfl⟩ := List.exists_cons_of_ne_nil hStart
    obtain ⟨d, behind, rfl⟩ := List.exists_cons_of_ne_nil hEnd
    have hNodup : (b :: before ++ d :: behind).Nodup := hMask ▸ (by decide : fileMask.Nodup)
    have hb : 'F' = b := (List.cons.inj hMask).1
    have hd : 'F' = d := (List.cons.inj hBehind).1
    exact absurd (hb.symm.trans hd) ((List.nodup_append.1 hNodup).2.2 b List.mem_cons_self d
      List.mem_cons_self)

/-- **Masks in a text that had none stand alone** if no file name had a hyphen: nothing is linked to
them, and no character of a word follows.  What is linked and no word does not go on like a file
name, which would have been found there. -/
theorem FilesMasked.alone (h : FilesMasked inWord text out) (hNoMask : ¬fileMask <:+: text)
    (hCount : out.count '-' = text.count '-') (hLinked : inWord = true → l = true)
    (hNone : l = true → inWord = false → hasFile text = false)
    (hOut : out = before ++ (fileMask ++ after)) :
    linkedFrom l before = false ∧ startsWord after = false := by
  induction h generalizing before l with
  | nil =>
    have hNil := (List.append_eq_nil_iff.1 hOut.symm).2
    exact absurd (List.append_eq_nil_iff.1 hNil).1 fileMask_ne_nil
  | @keep inWord c cs out hKeep h ih =>
    cases before with
    | nil =>
      obtain ⟨rfl, hTail⟩ := List.cons.inj hOut
      have hPrefix : "ILE".toList <+: cs :=
        (rewritten_filesMasked h).prefix_of (c := 'F') rfl (by decide) ⟨after, hTail.symm⟩
      exact absurd (List.cons_prefix_cons.2 ⟨rfl, hPrefix⟩).isInfix hNoMask
    | cons b before =>
      obtain ⟨rfl, hTail⟩ := List.cons.inj hOut
      rw [List.count_cons, List.count_cons, Nat.add_right_cancel_iff] at hCount
      rw [linkedFrom_cons]
      refine ih (mt List.infix_cons hNoMask) hCount (fun hc => by rw [hc, Bool.true_or]) ?_ hTail
      intro hStill hc
      rw [hc, Bool.false_or, Bool.and_eq_true] at hStill
      have hStem : isStem c = true := by rw [isStem, hStill.2, Bool.or_true]
      cases inWord with
      | true => exact hKeep (by rw [hc]; decide) hStem
      | false =>
        have hBefore := hNone hStill.1 rfl
        rwa [hasFile, if_pos hStem] at hBefore
  | @file inWord span rest out hEdge hFile hRest h ih =>
    obtain ⟨hNoHyphen, hCountRest⟩ := h.no_hyphen hCount
    rcases fileMask_append_eq hOut with ⟨rfl, rfl⟩ | ⟨between, rfl, hTail⟩
    · refine ⟨?_, h.starts_no_word hRest hCountRest⟩
      rw [hFile.startsWord hNoHyphen] at hEdge
      have hFree := hFile.hasFile hRest
      refine eq_false_of_ne_true fun hl => Bool.false_ne_true ?_
      exact (hNone hl (eq_false_of_ne_true hEdge)).symm.trans hFree
    · have hMaskLinked : linkedFrom l fileMask = true := by
        rw [isRun_fileMask.linkedFrom, List.isEmpty_eq_false_iff.2 fileMask_ne_nil, Bool.not_false,
          Bool.or_true]
      rw [linkedFrom_append, hMaskLinked]
      exact ih (fun hInfix => hNoMask (hInfix.trans (List.suffix_append _ _).isInfix)) hCountRest
        (fun _ => rfl) (fun _ h => Bool.noConfusion h) hTail

end CodeGraph.Mask
