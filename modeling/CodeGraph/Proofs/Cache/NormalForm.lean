import Mathlib.Data.List.TakeWhile
import CodeGraph.Cache.Basic
import CodeGraph.Proofs.Query.Places

/-!
# Normal forms keep the meaning

The normal form of a text has the tokens of the text (`tokens_ofChars`), and with them its plan.
Two relations between texts that can be read side by side are used: a text and what `outside` makes
of it (`simulation_outside`), and a text with blanks at its end and the text without them
(`simulation_blanks`).  In both a token that is no string is read off the same run of plain
characters, and a string is passed over to the same closing quote, if it has one; a text that ends
in a string or after a backslash has no tokens on either side.

A normal form has nothing blank at its ends (`trim_ofChars`) and `outside` changes nothing in it
(`outside_inside_idempotent`), so it is its own normal form.
-/

namespace CodeGraph.NormalForm

open Unicode Query

/-! ### Plain characters -/

def isPlain (c : Char) : Bool := !isBlank c && !isQuote c

theorem isQuote_eq (c : Char) : isQuote c = (c == '"' || c == '\'') := Bool.or_comm _ _

theorem inner_isPlain : Inner isPlain where
  name c hc := by
    have hBlank : isBlank c = false := by
      by_contra hBlank
      rw [Bool.not_eq_false] at hBlank
      rw [isNameChar_of_isBlank hBlank] at hc
      cases hc
    have hQuote : isQuote c = false := by
      have hDouble : isNameChar '"' = false := by decide +kernel
      have hSingle : isNameChar '\'' = false := by decide +kernel
      by_contra hQuote
      simp only [isQuote, Bool.not_eq_false, Bool.or_eq_true, beq_iff_eq] at hQuote
      rcases hQuote with rfl | rfl
      · rw [hSingle] at hc
        cases hc
      · rw [hDouble] at hc
        cases hc
    simp [isPlain, hBlank, hQuote]
  dot := by decide
  dash := by decide
  eq := by decide
  gt := by decide

theorem not_isPlain_of_isBlank {c : Char} (h : isBlank c = true) : isPlain c = false := by
  simp [isPlain, h]

/-! ### Text outside of strings -/

/-- What the normal form makes of the text after a character. -/
def after (c : Char) (cs : List Char) : List Char :=
  if isQuote c then inside c cs else outside false cs

theorem outside_blank {c : Char} (hc : isBlank c = true) (pending : Bool) (cs : List Char) :
    outside pending (c :: cs) = outside true cs := by
  rw [outside, if_pos hc]

theorem outside_cons {c : Char} (hc : isBlank c = false) (pending : Bool) (cs : List Char) :
    outside pending (c :: cs) = (if pending then [' '] else []) ++ c :: after c cs := by
  rw [outside, if_neg (by simp [hc])]
  cases pending <;> rfl

theorem trimStart_outside (pending : Bool) (cs : List Char) :
    trimStart (outside pending cs) =
      match trimStart cs with
      | [] => []
      | c :: rest => c :: after c rest := by
  induction cs generalizing pending with
  | nil => rfl
  | cons c cs ih =>
    cases hc : isBlank c with
    | true =>
      rw [outside_blank hc, ih, show trimStart (c :: cs) = trimStart cs by simp [trimStart, hc]]
    | false =>
      have hSpace : isBlank ' ' = true := by decide
      rw [outside_cons hc]
      cases pending <;> simp [trimStart, hc, hSpace]

theorem takeWhile_outside_true (cs : List Char) : (outside true cs).takeWhile isPlain = [] := by
  induction cs with
  | nil => rfl
  | cons c cs ih =>
    cases hc : isBlank c with
    | true => rw [outside_blank hc, ih]
    | false => rw [outside_cons hc]; rfl

theorem outside_plain {c : Char} (hc : isPlain c = true) (cs : List Char) :
    outside false (c :: cs) = c :: outside false cs := by
  simp only [isPlain, Bool.and_eq_true, Bool.not_eq_true'] at hc
  rw [outside_cons hc.1, if_neg Bool.false_ne_true, after, if_neg (by simp [hc.2])]
  rfl

theorem takeWhile_outside (cs : List Char) :
    (outside false cs).takeWhile isPlain = cs.takeWhile isPlain := by
  induction cs with
  | nil => rfl
  | cons c cs ih =>
    cases hp : isPlain c with
    | true =>
      rw [outside_plain hp, List.takeWhile_cons_of_pos hp, List.takeWhile_cons_of_pos hp, ih]
    | false =>
      rw [List.takeWhile_cons_of_neg (by simp [hp])]
      cases hc : isBlank c with
      | true => rw [outside_blank hc, takeWhile_outside_true]
      | false =>
        rw [outside_cons hc]
        exact List.takeWhile_cons_of_neg (by simp [hp])

theorem drop_outside : ∀ (n : Nat) (cs : List Char), n ≤ (cs.takeWhile isPlain).length →
    (outside false cs).drop n = outside false (cs.drop n) := by
  intro n
  induction n with
  | zero => intro cs _; rfl
  | succ n ih =>
    intro cs hn
    cases cs with
    | nil => exact absurd hn (by simp)
    | cons c cs =>
      cases hp : isPlain c with
      | true =>
        rw [List.takeWhile_cons_of_pos hp, List.length_cons] at hn
        rw [outside_plain hp, List.drop_succ_cons, List.drop_succ_cons,
          ih cs (Nat.le_of_succ_le_succ hn)]
      | false =>
        rw [List.takeWhile_cons_of_neg (by simp [hp])] at hn
        exact absurd hn (by simp)

/-! ### Strings -/

theorem inside_cons {quote c : Char} (hc : c ≠ '\\') (cs : List Char) :
    inside quote (c :: cs) = c :: (if c == quote then outside false cs else inside quote cs) := by
  rw [inside]
  exact fun _ _ h _ => hc h

/-- A string is read as before, up to the same quote, after which the text is outside again. -/
theorem readString_inside {quote : Char} (hq : quote ≠ '\\') (cs : List Char) :
    readString quote (inside quote cs) = readString quote cs ∧
      ∀ text n, readString quote cs = some (text, n) →
        (inside quote cs).drop n = outside false (cs.drop n) := by
  fun_induction readString quote cs with
  | case1 => exact ⟨rfl, fun _ _ h => by cases h⟩
  | case2 =>
    have hNe : ('\\' == quote) = false := by simpa using fun h => hq h.symm
    refine ⟨?_, fun _ _ h => by cases h⟩
    rw [inside, if_neg (by simp [hNe]), inside, readString]
    exact fun _ _ _ h => by cases h
  | case3 c cs ih =>
    obtain ⟨ihRead, ihDrop⟩ := ih
    rw [inside, readString, ihRead]
    refine ⟨rfl, fun text n h => ?_⟩
    obtain ⟨⟨rest, m⟩, hRest, he⟩ := Option.map_eq_some_iff.1 h
    cases he
    exact ihDrop rest m hRest
  | case4 c cs hEnd hPair hc =>
    have hNe : c ≠ '\\' := fun he => hq ((eq_of_beq hc).symm.trans he)
    rw [inside_cons hNe, if_pos hc, readString_cons hNe, if_pos hc]
    refine ⟨rfl, fun text n h => ?_⟩
    cases h
    rfl
  | case5 c cs hEnd hPair hc ih =>
    have hNe : c ≠ '\\' := ne_backslash hEnd hPair
    obtain ⟨ihRead, ihDrop⟩ := ih
    rw [inside_cons hNe, if_neg hc, readString_cons hNe, if_neg hc, ihRead]
    refine ⟨rfl, fun text n h => ?_⟩
    obtain ⟨⟨rest, m⟩, hRest, he⟩ := Option.map_eq_some_iff.1 h
    cases he
    exact ihDrop rest m hRest

/-! ### Reading side by side -/

theorem quote_ne_backslash {c : Char} (hc : isQuote c = true) : c ≠ '\\' := by
  rintro rfl
  exact absurd hc (by decide)

/-- **A text and what the normal form makes of it are read side by side.** -/
theorem simulation_outside : Simulation fun cs ds => ∃ pending, ds = outside pending cs := by
  rintro cs _ ⟨pending, rfl⟩
  rw [trimStart_outside]
  cases hcs : trimStart cs with
  | nil => exact Or.inl ⟨rfl, rfl⟩
  | cons c rest =>
    refine Or.inr ⟨c, rest, after c rest, rfl, rfl, ?_⟩
    rw [after]
    cases hq : isQuote c with
    | true =>
      obtain ⟨hRead, hDrop⟩ := readString_inside (quote_ne_backslash hq) rest
      rw [isQuote_eq] at hq
      rw [if_pos rfl, readToken_quote hq, readToken_quote hq, hRead]
      refine ⟨rfl, fun token n h => ⟨false, ?_⟩⟩
      split at h
      · next hString =>
        cases h
        exact hDrop _ _ hString
      · cases h
    | false =>
      rw [isQuote_eq] at hq
      have hRead : readToken c (outside false rest) = readToken c rest := by
        rw [← readToken_takeWhile inner_isPlain hq, takeWhile_outside,
          readToken_takeWhile inner_isPlain hq]
      rw [if_neg Bool.false_ne_true, hRead]
      exact ⟨rfl, fun token n h =>
        ⟨false, drop_outside n rest (readToken_le_takeWhile inner_isPlain hq h)⟩⟩

/-! ### Blanks at the end -/

theorem readString_blanks {quote : Char} (hq : isQuote quote = true) {bs : List Char}
    (hbs : ∀ b ∈ bs, isBlank b = true) (cs : List Char) :
    readString quote (cs ++ bs) = readString quote cs := by
  have hNe : ∀ b ∈ bs, b ≠ quote := fun b hb he => by
    have hBlank := hbs b hb
    rw [isQuote_eq] at hq
    simp only [Bool.or_eq_true, beq_iff_eq] at hq
    rcases hq with rfl | rfl <;> rw [he] at hBlank <;> exact absurd hBlank (by decide)
  fun_induction readString quote cs with
  | case1 => exact readString_eq_none hNe
  | case2 =>
    cases bs with
    | nil => rfl
    | cons b bs =>
      rw [List.singleton_append, readString, readString_eq_none fun e he => hNe e (by simp [he])]
      rfl
  | case3 c cs ih => rw [List.cons_append, List.cons_append, readString, ih]
  | case4 c cs hEnd hPair hc =>
    have hNe : c ≠ '\\' := ne_backslash hEnd hPair
    rw [List.cons_append, readString_cons hNe, if_pos hc]
  | case5 c cs hEnd hPair hc ih =>
    have hNe : c ≠ '\\' := ne_backslash hEnd hPair
    rw [List.cons_append, readString_cons hNe, if_neg hc, ih]

theorem takeWhile_blanks {bs : List Char} (hbs : ∀ b ∈ bs, isBlank b = true) (cs : List Char) :
    (cs ++ bs).takeWhile isPlain = cs.takeWhile isPlain := by
  have hNil : bs.takeWhile isPlain = [] := by
    cases bs with
    | nil => rfl
    | cons b bs =>
      exact List.takeWhile_cons_of_neg (by simp [not_isPlain_of_isBlank (hbs b (by simp))])
  rw [List.takeWhile_append, hNil, List.append_nil]
  split
  · next hLength =>
    exact ((List.takeWhile_prefix isPlain).eq_of_length hLength).symm
  · rfl

/-- **Blanks at the end of a text do not matter.** -/
theorem simulation_blanks :
    Simulation fun cs ds => ∃ bs, (∀ b ∈ bs, isBlank b = true) ∧ cs = ds ++ bs := by
  rintro _ ds ⟨bs, hbs, rfl⟩
  have hEnd : trimStart bs = [] := List.dropWhile_eq_nil_iff.2 hbs
  have hStart : trimStart (ds ++ bs) =
      if (trimStart ds).isEmpty then [] else trimStart ds ++ bs := by
    simp only [trimStart] at hEnd ⊢
    rw [List.dropWhile_append, hEnd]
    rfl
  rw [hStart]
  cases hds : trimStart ds with
  | nil => exact Or.inl ⟨rfl, rfl⟩
  | cons c rest =>
    refine Or.inr ⟨c, rest ++ bs, rest, by simp, rfl, ?_⟩
    have hRead : readToken c (rest ++ bs) = readToken c rest := by
      cases hq : isQuote c with
      | true =>
        have hq' := hq
        rw [isQuote_eq] at hq'
        rw [readToken_quote hq', readToken_quote hq', readString_blanks hq hbs]
      | false =>
        rw [isQuote_eq] at hq
        rw [← readToken_takeWhile inner_isPlain hq, takeWhile_blanks hbs,
          readToken_takeWhile inner_isPlain hq]
    rw [hRead]
    refine ⟨rfl, fun token n h => ⟨bs, hbs, ?_⟩⟩
    exact List.drop_append_of_le_length (readToken_le h)

/-! ### Trimming -/

theorem trimStart_eq_append (cs : List Char) :
    ∃ bs, (∀ b ∈ bs, isBlank b = true) ∧ trimStart cs = trim cs ++ bs := by
  refine ⟨((trimStart cs).reverse.takeWhile isBlank).reverse, ?_, ?_⟩
  · intro b hb
    exact List.mem_takeWhile_imp (List.mem_reverse.1 hb)
  · rw [trim, trimStart.eq_def (trimStart cs).reverse, ← List.reverse_append,
      List.takeWhile_append_dropWhile, List.reverse_reverse]

theorem tokens_trim (cs : List Char) : tokens (trim cs) = tokens cs := by
  obtain ⟨bs, hbs, hTrim⟩ := trimStart_eq_append cs
  rw [← tokens_trimStart cs, hTrim]
  exact tokens_eq_of_simulation simulation_blanks ⟨bs, hbs, rfl⟩

/-- **The normal form has the tokens of the text.** -/
theorem tokens_ofChars (cs : List Char) : tokens (ofChars cs) = tokens cs := by
  rw [ofChars, ← tokens_trim cs]
  exact tokens_eq_of_simulation simulation_outside ⟨false, rfl⟩

/-! ### Normal forms of normal forms -/

/-- In what is normalized nothing changes any more, outside of strings and inside. -/
theorem outside_inside_idempotent : ∀ cs : List Char,
    (∀ pending, outside false (outside pending cs) = outside pending cs) ∧
      ∀ quote, inside quote (inside quote cs) = inside quote cs := by
  intro cs
  induction hn : cs.length using Nat.strong_induction_on generalizing cs with
  | _ n ih =>
    have hShorter : ∀ ds : List Char, ds.length < n →
        (∀ pending, outside false (outside pending ds) = outside pending ds) ∧
          ∀ quote, inside quote (inside quote ds) = inside quote ds :=
      fun ds hds => ih ds.length hds ds rfl
    cases cs with
    | nil => exact ⟨fun pending => rfl, fun quote => rfl⟩
    | cons c cs =>
      have hRest := hShorter cs (by simp only [← hn, List.length_cons]; omega)
      refine ⟨fun pending => ?_, fun quote => ?_⟩
      · cases hc : isBlank c with
        | true => rw [outside_blank hc, hRest.1]
        | false =>
          have hAfter : after c (after c cs) = after c cs := by
            simp only [after]
            split
            · exact hRest.2 c
            · exact hRest.1 false
          have hSpace : isBlank ' ' = true := by decide
          rw [outside_cons hc]
          cases pending with
          | false =>
            show outside false (c :: after c cs) = c :: after c cs
            rw [outside_cons hc, hAfter]
            rfl
          | true =>
            show outside false (' ' :: c :: after c cs) = ' ' :: c :: after c cs
            rw [outside_blank hSpace, outside_cons hc, hAfter]
            rfl
      · by_cases hc : c = '\\'
        · subst hc
          cases cs with
          | nil =>
            have hNil : inside quote ['\\'] = ['\\'] := by
              rw [inside]
              · split <;> rfl
              · exact fun _ _ _ h => by cases h
            rw [hNil, hNil]
          | cons d ds =>
            rw [inside, inside, (hShorter ds (by simp only [← hn, List.length_cons]; omega)).2]
        · rw [inside_cons hc, inside_cons hc]
          split
          · rw [hRest.1]
          · rw [hRest.2]

theorem last_outside_inside {e : Char} (he : isBlank e = false) : ∀ cs : List Char,
    (∀ pending, ∃ ds, outside pending (cs ++ [e]) = ds ++ [e]) ∧
      ∀ quote, ∃ ds, inside quote (cs ++ [e]) = ds ++ [e] := by
  intro cs
  induction hn : cs.length using Nat.strong_induction_on generalizing cs with
  | _ n ih =>
    have hShorter : ∀ ds : List Char, ds.length < n →
        (∀ pending, ∃ bs, outside pending (ds ++ [e]) = bs ++ [e]) ∧
          ∀ quote, ∃ bs, inside quote (ds ++ [e]) = bs ++ [e] :=
      fun ds hds => ih ds.length hds ds rfl
    cases cs with
    | nil =>
      have hAfter : after e [] = [] := by
        rw [after]
        split <;> rfl
      refine ⟨fun pending => ⟨if pending then [' '] else [], ?_⟩, fun quote => ⟨[], ?_⟩⟩
      · rw [List.nil_append, outside_cons he, hAfter]
      · rw [List.nil_append, inside]
        · split <;> rfl
        · exact fun _ _ _ h => by cases h
    | cons c cs =>
      obtain ⟨hOutside, hInside⟩ := hShorter cs (by simp only [← hn, List.length_cons]; omega)
      rw [List.cons_append]
      refine ⟨fun pending => ?_, fun quote => ?_⟩
      · cases hc : isBlank c with
        | true =>
          rw [outside_blank hc]
          exact hOutside true
        | false =>
          obtain ⟨ds, hds⟩ : ∃ ds, after c (cs ++ [e]) = ds ++ [e] := by
            rw [after]
            split
            · exact hInside c
            · exact hOutside false
          refine ⟨(if pending then [' '] else []) ++ c :: ds, ?_⟩
          rw [outside_cons hc, hds, List.append_assoc, List.cons_append]
      · by_cases hc : c = '\\'
        · subst hc
          cases cs with
          | nil => exact ⟨['\\'], rfl⟩
          | cons d ds =>
            obtain ⟨bs, hbs⟩ := (hShorter ds (by simp only [← hn, List.length_cons]; omega)).2 quote
            refine ⟨'\\' :: d :: bs, ?_⟩
            rw [List.cons_append, inside, hbs, List.cons_append, List.cons_append]
        · obtain ⟨ds, hds⟩ : ∃ ds,
              (if c == quote then outside false (cs ++ [e]) else inside quote (cs ++ [e])) =
                ds ++ [e] := by
            split
            · exact hOutside false
            · exact hInside quote
          refine ⟨c :: ds, ?_⟩
          rw [inside_cons hc, hds, List.cons_append]

theorem trim_ends (cs : List Char) :
    (∀ c ∈ (trim cs).head?, isBlank c = false) ∧ ∀ c ∈ (trim cs).getLast?, isBlank c = false := by
  have hNot : ∀ ds : List Char, ∀ c ∈ (trimStart ds).head?, isBlank c = false := by
    intro ds c hc
    cases hds : trimStart ds with
    | nil => rw [hds] at hc; cases hc
    | cons d rest =>
      rw [hds] at hc
      cases hc
      exact isBlank_of_trimStart hds
  constructor
  · intro c hc
    obtain ⟨bs, _, hTrim⟩ := trimStart_eq_append cs
    refine hNot cs c ?_
    rw [hTrim, List.head?_append, Option.mem_def.1 hc]
    rfl
  · intro c hc
    rw [trim, List.getLast?_reverse] at hc
    exact hNot _ c hc

theorem trim_eq_self {cs : List Char} (hHead : ∀ c ∈ cs.head?, isBlank c = false)
    (hLast : ∀ c ∈ cs.getLast?, isBlank c = false) : trim cs = cs := by
  have hStart : ∀ ds : List Char, (∀ c ∈ ds.head?, isBlank c = false) → trimStart ds = ds := by
    intro ds hds
    cases ds with
    | nil => rfl
    | cons d ds => exact List.dropWhile_cons_of_neg (by simp [hds d rfl])
  rw [trim, hStart cs hHead, hStart cs.reverse (by rwa [List.head?_reverse]), List.reverse_reverse]

theorem trim_ofChars (cs : List Char) : trim (ofChars cs) = ofChars cs := by
  obtain ⟨hHead, hLast⟩ := trim_ends cs
  rw [ofChars]
  revert hHead hLast
  generalize trim cs = ds
  intro hHead hLast
  refine trim_eq_self ?_ ?_
  · cases ds with
    | nil => exact fun _ h => by cases h
    | cons d ds =>
      rw [outside_cons (hHead d rfl)]
      exact hHead
  · rcases List.eq_nil_or_concat ds with rfl | ⟨init, e, rfl⟩
    · exact fun _ h => by cases h
    · rw [List.concat_eq_append, List.getLast?_concat] at hLast
      obtain ⟨bs, hbs⟩ := (last_outside_inside (hLast e rfl) init).1 false
      rw [List.concat_eq_append, hbs, List.getLast?_concat]
      exact hLast

/-- **A normal form is its own normal form.** -/
theorem ofChars_ofChars (cs : List Char) : ofChars (ofChars cs) = ofChars cs := by
  rw [ofChars, trim_ofChars, ofChars, (outside_inside_idempotent (trim cs)).1 false]

/-! ### Texts and their plans -/

theorem toList_ofText (text : String) : (ofText text).toList = ofChars text.toList :=
  String.toList_ofList

theorem tokens_ofText (text : String) : tokens (ofText text).toList = tokens text.toList := by
  rw [toList_ofText, tokens_ofChars]

theorem ofText_ofText (text : String) : ofText (ofText text) = ofText text := by
  rw [ofText, toList_ofText, ofChars_ofChars, ← ofText]

theorem tokens_eq_of_ofText_eq {text text' : String} (h : ofText text' = ofText text) :
    tokens text'.toList = tokens text.toList := by
  rw [← tokens_ofText text', h, tokens_ofText]

/-- **Normalization keeps the meaning of a text.**  A text and its normal form have the same tokens
or both none, and the same plan or both an error; so have two texts with one normal form, which
have one key under every context.  Normalizing twice is normalizing once. -/
theorem ofText_keeps_meaning (text : String) (params : Params) :
    ((tokenize (ofText text)).toOption.map (·.map (·.token)) =
      (tokenize text).toOption.map (·.map (·.token))) ∧
    ((∃ plan, parse text params = .ok plan ∧ parse (ofText text) params = .ok plan) ∨
      ∃ e e', parse text params = .error e ∧ parse (ofText text) params = .error e') ∧
    (∀ text', ofText text' = ofText text →
      (parse text' params).toOption = (parse text params).toOption ∧
      ∀ context, (Lookup.of text' params context).key = (Lookup.of text params context).key) ∧
    ofText (ofText text) = ofText text := by
  refine ⟨tokens_ofText text, ?_, fun text' h => ⟨?_, fun context => ?_⟩, ofText_ofText text⟩
  · have hAgree := agree_parse (tokens_ofText text) params
    generalize parse text params = x, parse (ofText text) params = y at hAgree
    cases hAgree with
    | ok h => exact Or.inl ⟨_, rfl, by rw [h]⟩
    | error e e' => exact Or.inr ⟨e, e', rfl, rfl⟩
  · exact (agree_parse (tokens_eq_of_ofText_eq h) params).toOption_eq.symm
  · simp only [Lookup.of, h]

theorem ofText_keeps_meaning_blanks :
    ofText " MATCH (n:X )\n" = ofText "MATCH\t (n:X )" ∧
      (parse " MATCH (n:X )\n" ∅).toOption = (parse "MATCH\t (n:X )" ∅).toOption := by
  have hSame : ofText " MATCH (n:X )\n" = ofText "MATCH\t (n:X )" := by decide +kernel
  exact ⟨hSame, ((ofText_keeps_meaning "MATCH\t (n:X )" ∅).2.2.1 _ hSame).1⟩

end CodeGraph.NormalForm
