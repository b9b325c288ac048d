import Mathlib.Data.List.Infix
import CodeGraph.Cache.Mask

/-!
# Texts word by word

A text is a row of words, some of them empty, with a character that belongs to no word between each
two.  `EachWord` says something of every word, of what it is linked to and of what follows it, and
`mapWords` changes the words.  Both are known by what they do to the first word
(`eachWord_append_cons`, `mapWords_append_cons`), and what is said of the words of a changed text is
said of the words it had (`eachWord_mapWords`).  Masks for words change the words
(`maskWords_eq_mapWords`), and so does a replacement of a part that is made of word characters
(`replaceAll_mapWords`).

`Rewritten` leaves out which parts of a text were replaced.  It is enough to see that no new
occurrences come about (`Rewritten.infix_of`).
-/

namespace CodeGraph.Mask

open Unicode

variable {w x y rest text before after part old new : List Char} {c : Char} {l : Bool}
variable {P Q : Bool → List Char → List Char → Prop} {g h : List Char → List Char}

/-! ### Words -/

/-- Nothing but characters of words. -/
def IsRun (w : List Char) : Prop := ∀ c ∈ w, isWord c = true

instance (w : List Char) : Decidable (IsRun w) := List.decidableBAll (isWord · = true) w

def startsWord (text : List Char) : Bool := text.head?.any isWord

def endsWord (text : List Char) : Bool := text.getLast?.any isWord

/-- Whether a text is linked to what follows it, that is whether it ends in a character of a word,
hyphens aside; `l` says whether what stands before the text is linked to it. -/
def linkedFrom (l : Bool) (text : List Char) : Bool :=
  text.foldl (fun l c => isWord c || l && c == '-') l

def linked (text : List Char) : Bool := linkedFrom false text

theorem isRun_nil : IsRun [] := List.forall_mem_nil _

theorem isRun_append : IsRun (x ++ y) ↔ IsRun x ∧ IsRun y := List.forall_mem_append

theorem startsWord_cons : startsWord (c :: rest) = isWord c := rfl

theorem startsWord_append (hx : x ≠ []) : startsWord (x ++ y) = startsWord x := by
  rw [startsWord, startsWord, List.head?_append_of_ne_nil _ hx]

theorem endsWord_append (hy : y ≠ []) : endsWord (x ++ y) = endsWord y := by
  rw [endsWord, endsWord, List.getLast?_append_of_ne_nil _ hy]

theorem endsWord_append_cons (hc : isWord c = false) :
    endsWord (x ++ c :: y) = endsWord y := by
  rw [endsWord_append (List.cons_ne_nil c y)]
  cases y with
  | nil => exact hc
  | cons d y => exact endsWord_append (x := [c]) (List.cons_ne_nil d y)

theorem IsRun.startsWord (hRun : IsRun w) (hw : w ≠ []) : startsWord w = true := by
  cases w with
  | nil => exact absurd rfl hw
  | cons c w => exact hRun c List.mem_cons_self

theorem IsRun.endsWord (hRun : IsRun w) (hw : w ≠ []) : endsWord w = true := by
  rw [Mask.endsWord, List.getLast?_eq_some_getLast hw]
  exact hRun _ (List.getLast_mem hw)

theorem IsRun.eq_nil_of_startsWord (hRun : IsRun w) (h : Mask.startsWord w = false) : w = [] := by
  by_contra hne
  exact Bool.false_ne_true (h.symm.trans (hRun.startsWord hne))

theorem IsRun.eq_nil_of_endsWord (hRun : IsRun w) (h : Mask.endsWord w = false) : w = [] := by
  by_contra hne
  exact Bool.false_ne_true (h.symm.trans (hRun.endsWord hne))

theorem IsRun.startsWord_append (hRun : IsRun w) :
    Mask.startsWord (w ++ rest) = (!w.isEmpty || Mask.startsWord rest) := by
  cases w with
  | nil => rfl
  | cons c w => exact hRun c List.mem_cons_self

theorem IsRun.endsWord_append (hRun : IsRun w) :
    Mask.endsWord (before ++ w) = (Mask.endsWord before || !w.isEmpty) := by
  by_cases hne : w = []
  · rw [hne, List.append_nil]
    exact (Bool.or_false _).symm
  · rw [Mask.endsWord_append hne, hRun.endsWord hne, List.isEmpty_eq_false_iff.2 hne,
      Bool.not_false, Bool.or_true]

theorem linkedFrom_append : linkedFrom l (x ++ y) = linkedFrom (linkedFrom l x) y :=
  List.foldl_append

theorem linkedFrom_cons :
    linkedFrom l (c :: rest) = linkedFrom (isWord c || l && c == '-') rest := rfl

theorem IsRun.linkedFrom (hRun : IsRun w) : linkedFrom l w = (l || !w.isEmpty) := by
  induction w generalizing l with
  | nil => exact (Bool.or_false l).symm
  | cons c w ih =>
    rw [linkedFrom_cons, ih (List.forall_mem_of_forall_mem_cons hRun), hRun c List.mem_cons_self,
      Bool.true_or, Bool.true_or, List.isEmpty_cons, Bool.not_false, Bool.or_true]

theorem takeWhile_run (hRun : IsRun w) (hStart : startsWord rest = false) :
    (w ++ rest).takeWhile isWord = w := by
  rw [List.takeWhile_append_of_pos hRun]
  cases rest with
  | nil => exact List.append_nil w
  | cons c rest =>
    rw [startsWord_cons] at hStart
    rw [List.takeWhile_cons_of_neg (ne_true_of_eq_false hStart), List.append_nil]

theorem run_unique (hx : IsRun x) (hy : IsRun y) (hBefore : startsWord before = false)
    (hAfter : startsWord after = false) (h : x ++ before = y ++ after) :
    x = y ∧ before = after := by
  have hEq : x = y := by rw [← takeWhile_run hx hBefore, h, takeWhile_run hy hAfter]
  subst hEq
  exact ⟨rfl, List.append_cancel_left h⟩

theorem prefix_of_prefix_append (hPart : IsRun part) (hAfter : startsWord after = false)
    (h : part <+: w ++ after) : part <+: w := by
  obtain ⟨out, hOut⟩ := h
  rcases List.append_eq_append_iff.1 hOut with ⟨x, rfl, _⟩ | ⟨x, rfl, rfl⟩
  · exact List.prefix_append part x
  · rw [(isRun_append.1 hPart).2.startsWord_append, Bool.or_eq_false_iff, Bool.not_eq_false',
      List.isEmpty_iff] at hAfter
    rw [hAfter.1, List.append_nil]

theorem words_induction {motive : List Char → Prop} (word : ∀ w, IsRun w → motive w)
    (cons : ∀ w c rest, IsRun w → isWord c = false → motive rest → motive (w ++ c :: rest))
    (text : List Char) : motive text := by
  suffices hRead : ∀ w, IsRun w → motive (w ++ text) from hRead [] isRun_nil
  induction text with
  | nil => exact fun w hRun => (List.append_nil w).symm ▸ word w hRun
  | cons c rest ih =>
    intro w hRun
    cases hc : isWord c with
    | false => exact cons w c rest hRun hc (ih [] isRun_nil)
    | true =>
      have hLonger : IsRun (w ++ [c]) := isRun_append.2 ⟨hRun, List.forall_mem_singleton.2 hc⟩
      exact List.append_cons w c rest ▸ ih (w ++ [c]) hLonger

/-! ### What holds of every word -/

/-- `P` holds of every word of the text, of whether it is linked to what stands before it and of
what follows it; `l` says whether what stands before the text is linked to it. -/
def EachWord (P : Bool → List Char → List Char → Prop) (l : Bool) (text : List Char) : Prop :=
  ∀ before w after, text = before ++ (w ++ after) → IsRun w → endsWord before = false →
    startsWord after = false → P (linkedFrom l before) w after

theorem EachWord.imp (h : EachWord P l text)
    (hImp : ∀ l w rest, IsRun w → startsWord rest = false → P l w rest → Q l w rest) :
    EachWord Q l text := fun before w after hEq hRun hBefore hAfter =>
  hImp _ w after hRun hAfter (h before w after hEq hRun hBefore hAfter)

theorem EachWord.and (hP : EachWord P l text) (hQ : EachWord Q l text) :
    EachWord (fun l w rest => P l w rest ∧ Q l w rest) l text :=
  fun before w after hEq hRun hBefore hAfter =>
    ⟨hP before w after hEq hRun hBefore hAfter, hQ before w after hEq hRun hBefore hAfter⟩

theorem eachWord_run (hRun : IsRun w) : EachWord P l w ↔ P l w [] := by
  refine ⟨fun h => h [] w [] (List.append_nil w).symm hRun rfl rfl, ?_⟩
  intro hP before v after hEq _ hBefore hAfter
  have hRuns := isRun_append.1 (hEq ▸ hRun)
  obtain rfl := hRuns.1.eq_nil_of_endsWord hBefore
  obtain rfl := (isRun_append.1 hRuns.2).2.eq_nil_of_startsWord hAfter
  rw [List.nil_append, List.append_nil] at hEq
  exact hEq ▸ hP

theorem eachWord_append_cons (hRun : IsRun w) (hc : isWord c = false) :
    EachWord P l (w ++ c :: rest) ↔
      P l w (c :: rest) ∧ EachWord P (linkedFrom l w && c == '-') rest := by
  have hStart : startsWord (c :: rest) = false := hc
  have hLinked : ∀ before, linkedFrom l (w ++ c :: before) =
      linkedFrom (linkedFrom l w && c == '-') before := fun before => by
    rw [linkedFrom_append, linkedFrom_cons, hc, Bool.false_or]
  constructor
  · intro h
    refine ⟨h [] w (c :: rest) rfl hRun rfl hc, ?_⟩
    intro before v after hEq hv hBefore hAfter
    rw [← hLinked before]
    exact h _ v after (by rw [hEq, List.append_assoc, List.cons_append]) hv
      ((endsWord_append_cons hc).trans hBefore) hAfter
  · rintro ⟨hFirst, hRest⟩ before v after hEq hv hBefore hAfter
    rcases List.append_eq_append_iff.1 hEq with
      ⟨between, hBetween, hMore⟩ | ⟨between, hBetween, hMore⟩
    · cases between with
      | nil =>
        rw [List.append_nil] at hBetween
        subst hBetween
        obtain rfl := hRun.eq_nil_of_endsWord hBefore
        obtain ⟨hWord, hEnd⟩ := run_unique isRun_nil hv hStart hAfter hMore
        exact hWord ▸ hEnd ▸ hFirst
      | cons d between =>
        obtain ⟨rfl, hEqRest⟩ := List.cons.inj hMore
        subst hBetween
        rw [hLinked]
        exact hRest between v after hEqRest hv ((endsWord_append_cons hc).symm.trans hBefore) hAfter
    · have hRuns := isRun_append.1 (hBetween ▸ hRun)
      obtain rfl := hRuns.1.eq_nil_of_endsWord hBefore
      rw [List.nil_append] at hBetween
      subst hBetween
      obtain ⟨rfl, rfl⟩ := run_unique hv hRun hAfter hStart hMore
      exact hFirst

theorem append_append_eq_self (h : x ++ (part ++ y) = part) : x = [] ∧ y = [] := by
  have hLength := congrArg List.length h
  rw [List.length_append, List.length_append] at hLength
  exact ⟨List.length_eq_zero_iff.1 (by omega), List.length_eq_zero_iff.1 (by omega)⟩

theorem exists_run_append (text : List Char) :
    ∃ w rest, text = w ++ rest ∧ IsRun w ∧ startsWord rest = false := by
  induction text using words_induction with
  | word w hRun => exact ⟨w, [], (List.append_nil w).symm, hRun, rfl⟩
  | cons w c rest hRun hc _ => exact ⟨w, c :: rest, rfl, hRun, hc⟩

theorem exists_append_run (text : List Char) :
    ∃ before w, text = before ++ w ∧ IsRun w ∧ endsWord before = false := by
  induction text using words_induction with
  | word w hRun => exact ⟨[], w, rfl, hRun, rfl⟩
  | cons w c rest _ hc ih =>
    obtain ⟨before, v, rfl, hv, hBefore⟩ := ih
    exact ⟨w ++ c :: before, v, by rw [List.append_assoc, List.cons_append], hv,
      (endsWord_append_cons hc).trans hBefore⟩

/-- Whatever word characters stand somewhere, they stand in a word. -/
theorem EachWord.of_run (h : EachWord P l (before ++ (part ++ after))) (hPart : IsRun part) :
    ∃ start x y rest, before = start ++ x ∧ after = y ++ rest ∧ endsWord start = false ∧
      startsWord rest = false ∧ P (linkedFrom l start) (x ++ (part ++ y)) rest := by
  obtain ⟨start, x, rfl, hx, hStart⟩ := exists_append_run before
  obtain ⟨y, rest, rfl, hy, hRest⟩ := exists_run_append after
  refine ⟨start, x, y, rest, rfl, rfl, hStart, hRest, ?_⟩
  refine h start _ rest ?_ (isRun_append.2 ⟨hx, isRun_append.2 ⟨hPart, hy⟩⟩) hStart hRest
  simp only [List.append_assoc]

/-- A part of word characters is the whole of every word that it stands in, exactly if no character of
a word stands before or behind it anywhere; `D` says something of what it is linked to. -/
theorem eachWord_whole_iff (hPart : IsRun part) {D : Bool → Prop} :
    EachWord (fun l w _ => part <:+: w → w = part ∧ D l) l text ↔
      ∀ before after, text = before ++ (part ++ after) →
        endsWord before = false ∧ startsWord after = false ∧ D (linkedFrom l before) := by
  constructor
  · rintro h before after rfl
    obtain ⟨start, x, y, rest, rfl, rfl, hStart, hRest, hWhole⟩ := h.of_run hPart
    obtain ⟨hWord, hLinked⟩ := hWhole ⟨x, y, List.append_assoc x part y⟩
    obtain ⟨rfl, rfl⟩ := append_append_eq_self hWord
    rw [List.append_nil]
    exact ⟨hStart, hRest, hLinked⟩
  · rintro h before w after rfl hRun - - ⟨x, y, rfl⟩
    obtain ⟨hx, hy⟩ := isRun_append.1 hRun
    obtain ⟨hEnds, hStarts, hLinked⟩ :=
      h (before ++ x) (y ++ after) (by simp only [List.append_assoc])
    rw [(isRun_append.1 hx).1.endsWord_append, Bool.or_eq_false_iff, Bool.not_eq_false',
      List.isEmpty_iff] at hEnds
    rw [hy.startsWord_append, Bool.or_eq_false_iff, Bool.not_eq_false', List.isEmpty_iff] at hStarts
    obtain ⟨⟨-, rfl⟩, rfl, -⟩ := And.intro hEnds hStarts
    rw [List.append_nil] at hLinked
    exact ⟨by rw [List.nil_append, List.append_nil], hLinked⟩

theorem endsWord_of_linkedFrom (h : linkedFrom l text = false) : endsWord text = false := by
  obtain ⟨before, w, rfl, hRun, hBefore⟩ := exists_append_run text
  rw [linkedFrom_append, hRun.linkedFrom, Bool.or_eq_false_iff] at h
  rw [hRun.endsWord_append, hBefore, h.2]
  rfl

/-! ### Changing every word -/

def mapWords (g : List Char → List Char) (text : List Char) : List Char := read [] text
where
  /-- `word` is what has been read of a word, last character first. -/
  read (word : List Char) : List Char → List Char
  | [] => g word.reverse
  | c :: cs => if isWord c then read (c :: word) cs else g word.reverse ++ c :: read [] cs

theorem mapWords_read_append (hRun : IsRun w) (word : List Char) :
    mapWords.read g word (w ++ rest) = mapWords.read g (w.reverse ++ word) rest := by
  induction w generalizing word with
  | nil => rfl
  | cons c w ih =>
    rw [List.cons_append, mapWords.read, if_pos (hRun c List.mem_cons_self),
      ih (List.forall_mem_of_forall_mem_cons hRun), List.reverse_cons, List.append_assoc]
    rfl

theorem mapWords_run (hRun : IsRun w) : mapWords g w = g w := by
  have hRead : mapWords.read g [] (w ++ []) = _ := mapWords_read_append hRun []
  rw [List.append_nil, List.append_nil] at hRead
  rw [mapWords, hRead, mapWords.read, List.reverse_reverse]

theorem mapWords_append_cons (hRun : IsRun w) (hc : isWord c = false) :
    mapWords g (w ++ c :: rest) = g w ++ c :: mapWords g rest := by
  rw [mapWords, mapWords_read_append hRun, mapWords.read, if_neg (ne_true_of_eq_false hc),
    List.append_nil, List.reverse_reverse]
  rfl

theorem mapWords_self : mapWords (fun w => w) text = text := by
  induction text using words_induction with
  | word w hRun => exact mapWords_run hRun
  | cons w c rest hRun hc ih => rw [mapWords_append_cons hRun hc, ih]

theorem mapWords_congr (hSame : EachWord (fun _ w _ => g w = h w) l text) :
    mapWords g text = mapWords h text := by
  induction text using words_induction generalizing l with
  | word w hRun => rw [mapWords_run hRun, mapWords_run hRun, (eachWord_run hRun).1 hSame]
  | cons w c rest hRun hc ih =>
    obtain ⟨hFirst, hRest⟩ := (eachWord_append_cons hRun hc).1 hSame
    rw [mapWords_append_cons hRun hc, mapWords_append_cons hRun hc, hFirst, ih hRest]

/-- A change that makes words of words and leaves none out. -/
structure KeepsWords (g : List Char → List Char) : Prop where
  isRun : ∀ w, IsRun w → IsRun (g w)
  isEmpty : ∀ w, (g w).isEmpty = w.isEmpty

theorem KeepsWords.nil (hg : KeepsWords g) : g [] = [] := List.isEmpty_iff.1 (hg.isEmpty [])

theorem KeepsWords.comp (hh : KeepsWords h) (hg : KeepsWords g) : KeepsWords (h ∘ g) where
  isRun w hRun := hh.isRun (g w) (hg.isRun w hRun)
  isEmpty w := (hh.isEmpty (g w)).trans (hg.isEmpty w)

theorem KeepsWords.linkedFrom (hg : KeepsWords g) (hRun : IsRun w) :
    linkedFrom l (g w) = linkedFrom l w := by
  rw [(hg.isRun w hRun).linkedFrom, hRun.linkedFrom, hg.isEmpty]

theorem mapWords_mapWords (hg : KeepsWords g) :
    mapWords h (mapWords g text) = mapWords (h ∘ g) text := by
  induction text using words_induction with
  | word w hRun => rw [mapWords_run hRun, mapWords_run hRun, mapWords_run (hg.isRun w hRun)]; rfl
  | cons w c rest hRun hc ih =>
    rw [mapWords_append_cons hRun hc, mapWords_append_cons hRun hc,
      mapWords_append_cons (hg.isRun w hRun) hc, ih]
    rfl

theorem mapWords_cons (hg : KeepsWords g) (hc : isWord c = false) :
    mapWords g (c :: rest) = c :: mapWords g rest := by
  have hCons : mapWords g ([] ++ c :: rest) = _ := mapWords_append_cons isRun_nil hc
  rwa [hg.nil] at hCons

theorem eachWord_mapWords (hg : KeepsWords g) : EachWord P l (mapWords g text) ↔
    EachWord (fun l w rest => P l (g w) (mapWords g rest)) l text := by
  induction text using words_induction generalizing l with
  | word w hRun =>
    rw [mapWords_run hRun, eachWord_run (hg.isRun w hRun), eachWord_run hRun,
      mapWords_run isRun_nil, hg.nil]
  | cons w c rest hRun hc ih =>
    rw [mapWords_append_cons hRun hc, eachWord_append_cons (hg.isRun w hRun) hc,
      eachWord_append_cons hRun hc, ih, mapWords_cons hg hc, hg.linkedFrom hRun]

/-! ### Masks and replacements word by word -/

def masked (test : List Char → Bool) (mask w : List Char) : List Char := if test w then mask else w

variable {test : List Char → Bool} {mask : List Char}

theorem masked_of_true (h : test w = true) : masked test mask w = mask := if_pos h

theorem masked_of_false (h : test w = false) : masked test mask w = w :=
  if_neg (ne_true_of_eq_false h)

theorem maskWords_eq_read (hTest : ∀ w, test w.reverse = test w) (word text : List Char) :
    maskWords test mask word text = mapWords.read (masked test mask) word text := by
  induction text generalizing word with
  | nil => rw [maskWords, mapWords.read, maskWords.masked, masked, hTest]
  | cons c cs ih =>
    rw [maskWords, mapWords.read, maskWords.masked, masked, hTest, ih, ih]

theorem maskWords_eq_mapWords (hTest : ∀ w, test w.reverse = test w) (text : List Char) :
    maskWords test mask [] text = mapWords (masked test mask) text :=
  maskWords_eq_read hTest [] text

theorem keepsWords_masked (hMask : IsRun mask) (hne : mask ≠ []) (hNil : test [] = false) :
    KeepsWords (masked test mask) where
  isRun w hRun := by
    rw [masked]
    split
    · exact hMask
    · exact hRun
  isEmpty w := by
    rw [masked]
    split
    · next h =>
      have hw : w ≠ [] := fun hw => Bool.false_ne_true (hNil.symm.trans (hw ▸ h))
      rw [List.isEmpty_eq_false_iff.2 hne, List.isEmpty_eq_false_iff.2 hw]
    · rfl

/-- A replacement looks for occurrences only, and goes on behind each. -/
theorem replaceAll_induction {motive : List Char → Prop} (hOld : old ≠ []) (nil : motive [])
    (found : ∀ text, motive text → motive (old ++ text))
    (kept : ∀ c text, ¬old <+: c :: text → motive text → motive (c :: text)) (text : List Char) :
    motive text := by
  induction hLength : text.length using Nat.strong_induction_on generalizing text with
  | _ n ih =>
    cases text with
    | nil => exact nil
    | cons c cs =>
      by_cases hFound : old <+: c :: cs
      · obtain ⟨rest, hRest⟩ := hFound
        have hPos := List.length_pos_of_ne_nil hOld
        have hSum : old.length + rest.length = n := by rw [← List.length_append, hRest, hLength]
        exact hRest ▸ found rest (ih rest.length (by omega) rest rfl)
      · exact kept c cs hFound (ih cs.length (hLength ▸ Nat.lt_succ_self _) cs rfl)

theorem replaceAll_eq_self (hNot : ¬old <:+: text) :
    Text.replaceAll old new text = text := by
  induction text with
  | nil => rfl
  | cons c cs ih =>
    rw [List.infix_cons_iff, not_or] at hNot
    rw [Text.replaceAll_cons hNot.1, ih hNot.2]

theorem replaceAll_self (hOld : old ≠ []) : Text.replaceAll old new old = new := by
  have hFirst := Text.replaceAll_append hOld new []
  rwa [List.append_nil, Text.replaceAll_nil, List.append_nil] at hFirst

theorem prefix_append_cons (hc : c ∉ part) : part <+: x ++ c :: y ↔ part <+: x := by
  induction x generalizing part with
  | nil =>
    cases part with
    | nil => exact iff_of_true List.nil_prefix List.nil_prefix
    | cons d part =>
      have hNe : ¬d = c := fun h => hc (h ▸ List.mem_cons_self)
      simp only [List.nil_append, List.cons_prefix_cons, hNe, false_and, List.prefix_nil,
        List.cons_ne_nil]
  | cons b x ih =>
    cases part with
    | nil => exact iff_of_true List.nil_prefix List.nil_prefix
    | cons d part =>
      rw [List.cons_append, List.cons_prefix_cons, List.cons_prefix_cons,
        ih (fun h => hc (List.mem_cons_of_mem d h))]

theorem replaceAll_append_cons (hOld : old ≠ []) (hc : c ∉ old) :
    Text.replaceAll old new (x ++ c :: y) =
      Text.replaceAll old new x ++ c :: Text.replaceAll old new y := by
  induction x using replaceAll_induction hOld with
  | nil =>
    rw [List.nil_append, Text.replaceAll_nil, List.nil_append]
    refine Text.replaceAll_cons (fun h => ?_) new
    rw [← List.nil_append (c :: y), prefix_append_cons hc, List.prefix_nil] at h
    exact hOld h
  | found x ih =>
    rw [List.append_assoc, Text.replaceAll_append hOld, Text.replaceAll_append hOld, ih,
      List.append_assoc]
  | kept d x hNot ih =>
    have hStill : ¬old <+: d :: (x ++ c :: y) := mt (prefix_append_cons (x := d :: x) hc).1 hNot
    rw [List.cons_append, Text.replaceAll_cons hStill, ih, Text.replaceAll_cons hNot,
      List.cons_append]

/-- Replacing word characters changes word by word. -/
theorem replaceAll_mapWords (hOld : old ≠ []) (hRun : IsRun old) :
    Text.replaceAll old new (mapWords g text) = mapWords (Text.replaceAll old new ∘ g) text := by
  induction text using words_induction with
  | word w hw => rw [mapWords_run hw, mapWords_run hw]; rfl
  | cons w c rest hw hc ih =>
    have hNotMem : c ∉ old := fun h => Bool.false_ne_true (hc.symm.trans (hRun c h))
    rw [mapWords_append_cons hw hc, mapWords_append_cons hw hc,
      replaceAll_append_cons hOld hNotMem, ih]
    rfl

theorem replaceAll_eq_mapWords (hOld : old ≠ []) (hRun : IsRun old) (text : List Char) :
    Text.replaceAll old new text = mapWords (Text.replaceAll old new) text := by
  have hMap : Text.replaceAll old new (mapWords (fun w => w) text) = _ :=
    replaceAll_mapWords hOld hRun
  rwa [mapWords_self] at hMap

/-! ### What replacements bring about -/

/-- A text is the other with some parts of it replaced, all of them by `new`. -/
inductive Rewritten (new : List Char) : List Char → List Char → Prop
  | nil : Rewritten new [] []
  | keep {x y : List Char} (c : Char) (h : Rewritten new x y) : Rewritten new (c :: x) (c :: y)
  | swap {x y : List Char} (old : List Char) (h : Rewritten new x y) :
    Rewritten new (old ++ x) (new ++ y)

theorem not_prefix_append (hne : part ≠ []) (hHead : new.head? = some c) (hc : c ∉ part) :
    ¬part <+: new ++ y := by
  obtain ⟨d, part, rfl⟩ := List.exists_cons_of_ne_nil hne
  obtain ⟨new, rfl⟩ := List.head?_eq_some_iff.1 hHead
  rw [List.cons_append, List.cons_prefix_cons]
  rintro ⟨rfl, _⟩
  exact hc List.mem_cons_self

theorem infix_of_infix_append (hne : part ≠ []) (hDisjoint : part.Disjoint new)
    (h : part <:+: new ++ y) : part <:+: y := by
  induction new with
  | nil => exact h
  | cons b new ih =>
    rcases List.infix_cons_iff.1 h with hPrefix | hInfix
    · have hHead : (b :: new).head? = some b := rfl
      exact absurd hPrefix (not_prefix_append hne hHead fun h => hDisjoint h List.mem_cons_self)
    · exact ih (List.disjoint_of_disjoint_cons_right hDisjoint) hInfix

theorem disjoint_of_all (h : x.all (fun c => !y.contains c) = true) : x.Disjoint y := by
  intro c hx hy
  have hNot := List.all_eq_true.1 h c hx
  rw [List.contains_iff_mem.2 hy] at hNot
  exact Bool.noConfusion hNot

theorem not_infix_of_disjoint (hne : part ≠ []) (hDisjoint : part.Disjoint text) :
    ¬part <:+: text := by
  obtain ⟨d, part, rfl⟩ := List.exists_cons_of_ne_nil hne
  exact fun h => hDisjoint List.mem_cons_self (h.subset List.mem_cons_self)

theorem Rewritten.prefix_of (h : Rewritten new x y) (hHead : new.head? = some c) (hc : c ∉ part)
    (hPrefix : part <+: y) : part <+: x := by
  induction h generalizing part with
  | nil => exact hPrefix
  | keep _ _ ih =>
    cases part with
    | nil => exact List.nil_prefix
    | cons d part =>
      rw [List.cons_prefix_cons] at hPrefix ⊢
      exact ⟨hPrefix.1, ih (mt (List.mem_cons_of_mem d) hc) hPrefix.2⟩
  | swap old _ _ =>
    by_cases hne : part = []
    · exact hne ▸ List.nil_prefix
    · exact absurd hPrefix (not_prefix_append hne hHead hc)

/-- What has no character of the replacement stood in the text before. -/
theorem Rewritten.infix_of (h : Rewritten new x y) (hNew : new ≠ []) (hDisjoint : part.Disjoint new)
    (hInfix : part <:+: y) : part <:+: x := by
  by_cases hne : part = []
  · exact hne ▸ List.nil_infix
  have hHead := List.head?_eq_some_head hNew
  have hNotMem : new.head hNew ∉ part := fun h => hDisjoint h (List.head_mem hNew)
  induction h with
  | nil => exact hInfix
  | keep c h ih =>
    rcases List.infix_cons_iff.1 hInfix with hPrefix | hInfix
    · exact ((keep c h).prefix_of hHead hNotMem hPrefix).isInfix
    · exact List.infix_cons (ih hInfix)
  | swap old _ ih =>
    exact (ih (infix_of_infix_append hne hDisjoint hInfix)).trans (List.suffix_append _ _).isInfix

theorem Rewritten.mem_of (h : Rewritten new x y) (hc : c ∈ y) : c ∈ new ∨ c ∈ x := by
  induction h with
  | nil => exact .inr hc
  | keep d _ ih =>
    rcases List.mem_cons.1 hc with rfl | hc
    · exact .inr List.mem_cons_self
    · exact (ih hc).imp_right (List.mem_cons_of_mem d)
  | swap old _ ih =>
    rcases List.mem_append.1 hc with hc | hc
    · exact .inl hc
    · exact (ih hc).imp_right (List.mem_append_right old)

theorem rewritten_replaceAll (hOld : old ≠ []) (text : List Char) :
    Rewritten new text (Text.replaceAll old new text) := by
  induction text using replaceAll_induction hOld with
  | nil => exact .nil
  | found text ih => rw [Text.replaceAll_append hOld]; exact .swap old ih
  | kept c text hNot ih => rw [Text.replaceAll_cons hNot]; exact .keep c ih

theorem not_infix_replaceAll (hOld : old ≠ []) (hNew : new ≠ []) (hDisjoint : old.Disjoint new)
    (text : List Char) : ¬old <:+: Text.replaceAll old new text := by
  induction text using replaceAll_induction hOld with
  | nil => exact fun h => hOld (List.infix_nil.1 h)
  | found text ih =>
    rw [Text.replaceAll_append hOld]
    exact fun h => ih (infix_of_infix_append hOld hDisjoint h)
  | kept c text hNot ih =>
    rw [Text.replaceAll_cons hNot, List.infix_cons_iff, not_or]
    refine ⟨fun h => hNot ?_, ih⟩
    exact ((rewritten_replaceAll hOld text).keep c).prefix_of (List.head?_eq_some_head hNew)
      (fun h => hDisjoint h (List.head_mem hNew)) h

end CodeGraph.Mask
