import Mathlib.Data.List.Basic
import Mathlib.Data.Nat.Init
import CodeGraph.Query.Lexer

/-!
# The tokens of a text

`tokens` is what `scan` finds, the places of the tokens left out; it does not depend on the offset
that the text starts at (`scan_offset`).

A token that is no string is read off the characters before the first that cannot stand inside
of a token: `readToken_takeWhile` says so for every class of characters that holds those that can
(`Inner`).  Two texts whose tokens can be read off side by side have the same tokens, which is
`tokens_eq_of_simulation`.  `tokens_hash` uses the class of all characters but `#`: a text that
ends in `#` and characters without a quote has no tokens.
-/

namespace CodeGraph.Query

open Unicode

/-! ### Characters -/

def blankPoints : List Nat :=
  [0x9, 0xa, 0xb, 0xc, 0xd, 0x20, 0x85, 0xa0, 0x1680, 0x2000, 0x2001, 0x2002, 0x2003, 0x2004,
    0x2005, 0x2006, 0x2007, 0x2008, 0x2009, 0x200a, 0x2028, 0x2029, 0x202f, 0x205f, 0x3000]

theorem mem_blankPoints {c : Char} (h : isBlank c = true) : c.toNat ∈ blankPoints := by
  simp only [isBlank, Bool.or_eq_true, Bool.and_eq_true, decide_eq_true_eq, beq_iff_eq] at h
  simp only [blankPoints, List.mem_cons, List.not_mem_nil, or_false]
  omega

theorem isNameChar_of_isBlank {c : Char} (h : isBlank c = true) : isNameChar c = false := by
  have hAll : ∀ n ∈ blankPoints, isNameChar (Char.ofNat n) = false := by decide +kernel
  have hPoint := hAll c.toNat (mem_blankPoints h)
  rwa [Char.ofNat_toNat] at hPoint

theorem isNameChar_of_isDigit {c : Char} (h : c.isDigit = true) : isNameChar c = true := by
  have hlt : c.toNat < 0x80 := by
    simp only [Char.isDigit, ge_iff_le, Bool.and_eq_true, decide_eq_true_eq] at h
    have hle : c.val.toNat ≤ 57 := h.2
    simp only [Char.toNat]
    omega
  simp [isNameChar, isAlphanumeric, isNumeric, hlt, h]

/-- A class of characters that holds all that can stand inside of a token that is no string. -/
structure Inner (p : Char → Bool) : Prop where
  name : ∀ c, isNameChar c = true → p c = true
  dot : p '.' = true
  dash : p '-' = true
  eq : p '=' = true
  gt : p '>' = true

theorem Inner.digit {p : Char → Bool} (hp : Inner p) (c : Char) (h : c.isDigit = true) :
    p c = true :=
  hp.name c (isNameChar_of_isDigit h)

/-! ### Runs of characters -/

variable {p q : Char → Bool}

theorem takeWhile_takeWhile_of_imp (h : ∀ c, p c = true → q c = true) (cs : List Char) :
    (cs.takeWhile q).takeWhile p = cs.takeWhile p := by
  induction cs with
  | nil => rfl
  | cons c cs ih =>
    by_cases hp : p c
    · simp [hp, h c hp, ih]
    · by_cases hq : q c <;> simp [hp, hq]

theorem dropWhile_takeWhile_of_imp (h : ∀ c, p c = true → q c = true) (cs : List Char) :
    (cs.takeWhile q).dropWhile p = (cs.dropWhile p).takeWhile q := by
  induction cs with
  | nil => rfl
  | cons c cs ih =>
    by_cases hp : p c
    · simp [hp, h c hp, ih]
    · by_cases hq : q c <;> simp [hp, hq]

theorem head?_takeWhile (cs : List Char) : (cs.takeWhile p).head? = cs.head?.filter p := by
  cases cs with
  | nil => rfl
  | cons c cs => by_cases hp : p c <;> simp [Option.filter, hp]

/-! ### Reading one token -/

theorem readSign?_alone {c : Char} (hDash : c ≠ '-') (hBang : c ≠ '!') (hLess : c ≠ '<')
    (hGreater : c ≠ '>') (next next' : Option Char) : readSign? c next = readSign? c next' := by
  unfold readSign?
  split <;> first | rfl | contradiction | simp [*]

theorem readSign?_none {c d : Char} (hDash : d ≠ '-') (hEq : d ≠ '=') (hGt : d ≠ '>') :
    readSign? c none = readSign? c (some d) := by
  by_cases hOpen : c = '-' ∨ c = '!' ∨ c = '<' ∨ c = '>'
  · -- these four look at what comes next
    rcases hOpen with rfl | rfl | rfl | rfl <;> simp [readSign?, hDash, hEq, hGt]
  · simp only [not_or] at hOpen
    obtain ⟨hNotDash, hNotBang, hNotLess, hNotGreater⟩ := hOpen
    exact readSign?_alone hNotDash hNotBang hNotLess hNotGreater none (some d)

theorem readSign?_filter (hp : Inner p) (c : Char) (next : Option Char) :
    readSign? c (next.filter p) = readSign? c next := by
  cases next with
  | none => rfl
  | some d =>
    by_cases hd : p d
    · simp [Option.filter, hd]
    · have hNe : ∀ e, p e = true → d ≠ e := fun e he hde => hd (hde ▸ he)
      simp only [Option.filter, hd, Bool.false_eq_true, if_false]
      exact readSign?_none (hNe _ hp.dash) (hNe _ hp.eq) (hNe _ hp.gt)

theorem readFraction_takeWhile (hp : Inner p) (cs : List Char) :
    readFraction (cs.takeWhile p) = readFraction cs := by
  cases cs with
  | nil => rfl
  | cons c cs =>
    by_cases hc : c = '.'
    · subst hc
      simp [readFraction, hp.dot, takeWhile_takeWhile_of_imp hp.digit]
    · by_cases hpc : p c <;> simp [readFraction, hpc, hc]

theorem readNumber_takeWhile (hp : Inner p) (cs : List Char) :
    readNumber (cs.takeWhile p) = readNumber cs := by
  unfold readNumber
  rw [takeWhile_takeWhile_of_imp hp.digit, dropWhile_takeWhile_of_imp hp.digit,
    readFraction_takeWhile hp]

/-- **A token that is no string is read off its own characters.** -/
theorem readToken_takeWhile (hp : Inner p) {c : Char} (hc : (c == '"' || c == '\'') = false)
    (cs : List Char) : readToken c (cs.takeWhile p) = readToken c cs := by
  unfold readToken
  rw [head?_takeWhile, readSign?_filter hp]
  split
  · rfl
  · simp only [hc, Bool.false_eq_true, if_false]
    rw [takeWhile_takeWhile_of_imp hp.name]
    by_cases hd : c.isDigit
    · have hNumber : readNumber (c :: cs.takeWhile p) = readNumber (c :: cs) := by
        rw [← readNumber_takeWhile hp (c :: cs), List.takeWhile_cons, if_pos (hp.digit c hd)]
      rw [hNumber]
    · simp only [hd, Bool.false_eq_true, if_false]

theorem readToken_quote {c : Char} (hc : (c == '"' || c == '\'') = true) (cs : List Char) :
    readToken c cs =
      match readString c cs with
      | some (text, n) => .ok (.str (String.ofList text), n)
      | none => .error .unterminatedString := by
  have hSign : readSign? c cs.head? = none := by
    simp only [Bool.or_eq_true, beq_iff_eq] at hc
    rcases hc with rfl | rfl <;> rfl
  unfold readToken
  rw [hSign]
  exact if_pos hc

/-! ### How far a token reaches -/

theorem readString_le {quote : Char} {cs text : List Char} {n : Nat}
    (h : readString quote cs = some (text, n)) : n ≤ cs.length := by
  fun_induction readString quote cs generalizing text n with
  | case1 => cases h
  | case2 => cases h
  | case3 c cs ih =>
    obtain ⟨⟨rest, m⟩, hRest, he⟩ := Option.map_eq_some_iff.1 h
    cases he
    have := ih hRest
    simp only [List.length_cons]
    omega
  | case4 =>
    cases h
    simp
  | case5 c cs _ _ _ ih =>
    obtain ⟨⟨rest, m⟩, hRest, he⟩ := Option.map_eq_some_iff.1 h
    cases he
    have := ih hRest
    simp only [List.length_cons]
    omega

theorem length_takeWhile_le (cs : List Char) : (cs.takeWhile p).length ≤ cs.length :=
  (List.takeWhile_sublist p).length_le

theorem readFraction_length_lt {cs : List Char} (h : (readFraction cs).isEmpty = false) :
    (readFraction cs).length < cs.length := by
  revert h
  fun_cases readFraction cs with
  | case1 cs => exact fun _ => Nat.lt_succ_of_le (length_takeWhile_le cs)
  | case2 => simp

theorem readNumber_le {cs : List Char} {token : Token} {n : Nat}
    (h : readNumber cs = .ok (token, n)) : n ≤ cs.length := by
  have hSplit : (cs.takeWhile Char.isDigit).length + (cs.dropWhile Char.isDigit).length =
      cs.length := by
    rw [← List.length_append, List.takeWhile_append_dropWhile]
  revert h
  fun_cases readNumber cs with
  | case1 =>
    rintro ⟨⟩
    exact length_takeWhile_le cs
  | case2 => rintro ⟨⟩
  | case3 whole fraction hSome =>
    rintro ⟨⟩
    have hFraction : fraction.length < (cs.dropWhile Char.isDigit).length :=
      readFraction_length_lt (by simpa using hSome)
    show (cs.takeWhile Char.isDigit).length + 1 + fraction.length ≤ cs.length
    omega

theorem length_pos_of_readSign? {c : Char} {cs : List Char} {token : Token}
    (h : readSign? c cs.head? = some (token, true)) : 0 < cs.length := by
  cases cs with
  | nil =>
    -- without a character that follows no sign is of two
    unfold readSign? at h
    split at h <;> first | contradiction | cases h
  | cons d cs => exact Nat.succ_pos _

theorem readToken_le {c : Char} {cs : List Char} {token : Token} {n : Nat}
    (h : readToken c cs = .ok (token, n)) : n ≤ cs.length := by
  revert h
  fun_cases readToken c cs with
  | case1 sign double hSign =>
    rintro ⟨⟩
    cases double with
    | false => exact Nat.zero_le _
    | true => exact length_pos_of_readSign? hSign
  | case2 hSign hQuote text m hString =>
    rintro ⟨⟩
    exact readString_le hString
  | case6 =>
    intro h
    cases hNumber : readNumber (c :: cs) with
    | error fault => rw [hNumber] at h; cases h
    | ok found =>
      rw [hNumber] at h
      cases h
      have hLe := readNumber_le hNumber
      rw [List.length_cons] at hLe
      omega
  | case5 | case7 =>
    rintro ⟨⟩
    exact length_takeWhile_le cs
  | case3 | case4 | case8 => rintro ⟨⟩

theorem readToken_le_takeWhile (hp : Inner p) {c : Char} (hc : (c == '"' || c == '\'') = false)
    {cs : List Char} {token : Token} {n : Nat} (h : readToken c cs = .ok (token, n)) :
    n ≤ (cs.takeWhile p).length :=
  readToken_le (by rw [readToken_takeWhile hp hc]; exact h)

/-! ### All tokens -/

def tokens (cs : List Char) : Option (List Token) := (scan 0 cs).toOption.map (·.map (·.token))

theorem tokens_eq_some_iff {cs : List Char} {ts : List Token} : tokens cs = some ts ↔
    ∃ lexemes, scan 0 cs = .ok lexemes ∧ lexemes.map (·.token) = ts := by
  cases hScan : scan 0 cs with
  | error e => simp [tokens, hScan, Except.toOption]
  | ok lexemes => simp [tokens, hScan, Except.toOption]

theorem scan_offset : ∀ (cs : List Char) (offset offset' : Nat),
    (scan offset cs).toOption.map (·.map (·.token)) =
      (scan offset' cs).toOption.map (·.map (·.token)) := by
  intro cs
  induction hn : cs.length using Nat.strong_induction_on generalizing cs with
  | _ n ih =>
    intro offset offset'
    cases cs with
    | nil => simp [scan]
    | cons c cs =>
      rw [scan, scan]
      split
      · exact ih cs.length (by rw [← hn, List.length_cons]; exact Nat.lt_succ_self _) cs rfl _ _
      · cases hToken : readToken c cs with
        | error fault => rfl
        | ok found =>
          obtain ⟨token, m⟩ := found
          have hShorter : (cs.drop m).length < n := by
            simp only [← hn, List.length_cons, List.length_drop]
            omega
          have hRest := ih (cs.drop m).length hShorter (cs.drop m) rfl
            (offset + byteWidth (c :: cs.take m)) (offset' + byteWidth (c :: cs.take m))
          revert hRest
          dsimp only
          cases scan (offset + byteWidth (c :: cs.take m)) (cs.drop m) <;>
            cases scan (offset' + byteWidth (c :: cs.take m)) (cs.drop m) <;>
            simp [Except.toOption]

theorem tokens_blank {c : Char} (hc : isBlank c = true) (cs : List Char) :
    tokens (c :: cs) = tokens cs := by
  rw [tokens, scan, if_pos hc]
  exact scan_offset cs _ _

theorem scan_error {c : Char} {cs : List Char} {fault : Fault} (offset : Nat)
    (hc : isBlank c = false) (h : readToken c cs = .error fault) :
    scan offset (c :: cs) = .error (.noToken fault offset) := by
  rw [scan, if_neg (by simp [hc]), h]

theorem tokens_error {c : Char} {cs : List Char} {fault : Fault} (hc : isBlank c = false)
    (h : readToken c cs = .error fault) : tokens (c :: cs) = none := by
  rw [tokens, scan_error 0 hc h]
  rfl

theorem scan_cons {c : Char} {cs : List Char} {token : Token} {n : Nat} (offset : Nat)
    (hc : isBlank c = false) (h : readToken c cs = .ok (token, n)) :
    scan offset (c :: cs) = (scan (offset + byteWidth (c :: cs.take n)) (cs.drop n)).map
      (⟨token, offset, c :: cs.take n⟩ :: ·) := by
  rw [scan, if_neg (by simp [hc]), h]
  dsimp only
  cases scan (offset + byteWidth (c :: cs.take n)) (cs.drop n) <;> rfl

theorem tokens_of_scan {n : Nat} {lexeme : Lexeme} {cs rest : List Char}
    (h : scan 0 cs = (scan n rest).map (lexeme :: ·)) :
    tokens cs = (tokens rest).map (lexeme.token :: ·) := by
  rw [tokens, tokens, h, ← scan_offset rest n 0]
  cases scan n rest <;> simp [Except.toOption, Except.map]

theorem tokens_cons {c : Char} {cs : List Char} {token : Token} {n : Nat} (hc : isBlank c = false)
    (h : readToken c cs = .ok (token, n)) :
    tokens (c :: cs) = (tokens (cs.drop n)).map (token :: ·) :=
  tokens_of_scan (scan_cons 0 hc h)

theorem tokens_trimStart (cs : List Char) : tokens (trimStart cs) = tokens cs := by
  induction cs with
  | nil => rfl
  | cons c cs ih =>
    by_cases hc : isBlank c
    · rw [tokens_blank hc, ← ih, trimStart, trimStart, List.dropWhile_cons, if_pos hc]
    · rw [trimStart, List.dropWhile_cons, if_neg hc]

/-! ### Texts read side by side -/

/-- Two texts of the relation have no more tokens, or start, after blanks, with one character that
reads as the same token in both, the rests being in the relation again. -/
def Simulation (R : List Char → List Char → Prop) : Prop :=
  ∀ ⦃cs ds⦄, R cs ds →
    (trimStart cs = [] ∧ trimStart ds = []) ∨
    ∃ c cs' ds', trimStart cs = c :: cs' ∧ trimStart ds = c :: ds' ∧
      (readToken c ds').toOption = (readToken c cs').toOption ∧
      ∀ token n, readToken c cs' = .ok (token, n) → R (cs'.drop n) (ds'.drop n)

theorem isBlank_of_trimStart {cs rest : List Char} {c : Char} (h : trimStart cs = c :: rest) :
    isBlank c = false := by
  have hHead := List.head?_dropWhile_not isBlank cs
  rw [← trimStart, h] at hHead
  simpa using hHead

theorem length_lt_of_trimStart {cs rest : List Char} {c : Char} (h : trimStart cs = c :: rest) :
    rest.length < cs.length := by
  have hLe : (trimStart cs).length ≤ cs.length := (List.dropWhile_sublist isBlank).length_le
  rw [h, List.length_cons] at hLe
  exact hLe

/-- **Texts that can be read side by side have the same tokens.** -/
theorem tokens_eq_of_simulation {R : List Char → List Char → Prop} (hR : Simulation R) :
    ∀ {cs ds : List Char}, R cs ds → tokens ds = tokens cs := by
  intro cs
  induction hn : cs.length using Nat.strong_induction_on generalizing cs with
  | _ n ih =>
    intro ds h
    rw [← tokens_trimStart ds, ← tokens_trimStart cs]
    rcases hR h with ⟨hcs, hds⟩ | ⟨c, cs', ds', hcs, hds, hRead, hRest⟩
    · rw [hcs, hds]
    · have hBlank := isBlank_of_trimStart hcs
      rw [hcs, hds]
      cases hToken : readToken c cs' with
      | error fault =>
        rw [hToken] at hRead
        cases hToken' : readToken c ds' with
        | error fault' => rw [tokens_error hBlank hToken, tokens_error hBlank hToken']
        | ok found => rw [hToken'] at hRead; cases hRead
      | ok found =>
        obtain ⟨token, m⟩ := found
        rw [hToken] at hRead
        cases hToken' : readToken c ds' with
        | error fault' => rw [hToken'] at hRead; cases hRead
        | ok found' =>
          rw [hToken'] at hRead
          cases hRead
          have hShorter : (cs'.drop m).length < n := by
            have := length_lt_of_trimStart hcs
            rw [List.length_drop]
            omega
          rw [tokens_cons hBlank hToken, tokens_cons hBlank hToken',
            ih _ hShorter rfl (hRest token m hToken)]

/-! ### Texts that end in a digest -/

theorem inner_ne_hash : Inner (· != '#') where
  name c hc := by
    have hHash : isNameChar '#' = false := by decide +kernel
    by_contra hEq
    simp only [bne_iff_ne, ne_eq, Decidable.not_not] at hEq
    rw [hEq, hHash] at hc
    cases hc
  dot := by decide
  dash := by decide
  eq := by decide
  gt := by decide

theorem readString_eq_none {quote : Char} {ds : List Char} (hds : ∀ d ∈ ds, d ≠ quote) :
    readString quote ds = none := by
  fun_induction readString quote ds with
  | case1 | case2 => rfl
  | case3 c cs ih => rw [ih fun d hd => hds d (by simp [hd]), Option.map_none]
  | case4 c cs _ _ hc => exact absurd (by simpa using hc) (hds c (by simp))
  | case5 c cs _ _ _ ih => rw [ih fun d hd => hds d (by simp [hd]), Option.map_none]

theorem ne_backslash {c : Char} {cs : List Char} (hLast : c = '\\' → cs = [] → False)
    (hPair : ∀ d ds, c = '\\' → cs = d :: ds → False) : c ≠ '\\' := by
  intro hc
  cases cs with
  | nil => exact hLast hc rfl
  | cons d ds => exact hPair d ds hc rfl

theorem readString_cons {quote c : Char} (hc : c ≠ '\\') (cs : List Char) :
    readString quote (c :: cs) =
      if c == quote then some ([], 1)
      else (readString quote cs).map fun (text, n) => (c :: text, n + 1) := by
  rw [readString]
  · exact fun h _ => hc h
  · exact fun _ _ h _ => hc h

theorem readString_append_le {quote : Char} {cs ds text : List Char} {n : Nat}
    (hds : ∀ d ∈ ds, d ≠ quote) (h : readString quote (cs ++ ds) = some (text, n)) :
    n ≤ cs.length := by
  revert h
  fun_induction readString quote cs generalizing text n with
  | case1 =>
    rw [List.nil_append, readString_eq_none hds]
    rintro ⟨⟩
  | case2 =>
    cases ds with
    | nil => rintro ⟨⟩
    | cons d ds =>
      rw [List.singleton_append, readString, readString_eq_none fun e he => hds e (by simp [he])]
      rintro ⟨⟩
  | case3 c cs ih =>
    intro h
    rw [List.cons_append, List.cons_append, readString] at h
    obtain ⟨⟨rest, m⟩, hRest, he⟩ := Option.map_eq_some_iff.1 h
    cases he
    have hLe := ih hRest
    simp only [List.length_cons]
    omega
  | case4 c cs hEnd hPair hc =>
    have hNe : c ≠ '\\' := ne_backslash hEnd hPair
    rw [List.cons_append, readString_cons hNe, if_pos hc]
    rintro ⟨⟩
    simp
  | case5 c cs hEnd hPair hc ih =>
    have hNe : c ≠ '\\' := ne_backslash hEnd hPair
    intro h
    rw [List.cons_append, readString_cons hNe, if_neg hc] at h
    obtain ⟨⟨rest, m⟩, hRest, he⟩ := Option.map_eq_some_iff.1 h
    cases he
    have hLe := ih hRest
    simp only [List.length_cons]
    omega

theorem length_takeWhile_hash_le (cs ds : List Char) :
    ((cs ++ '#' :: ds).takeWhile (· != '#')).length ≤ cs.length := by
  rw [List.takeWhile_append]
  split
  · simp
  · exact length_takeWhile_le cs

theorem readToken_append_hash_le {c : Char} {cs ds : List Char} {token : Token} {n : Nat}
    (hds : ∀ d ∈ ds, d ≠ '"' ∧ d ≠ '\'')
    (h : readToken c (cs ++ '#' :: ds) = .ok (token, n)) : n ≤ cs.length := by
  by_cases hc : (c == '"' || c == '\'') = true
  · have hNe : ∀ d ∈ '#' :: ds, d ≠ c := by
      simp only [Bool.or_eq_true, beq_iff_eq] at hc
      intro d hd
      rcases List.mem_cons.1 hd with rfl | hd
      · rcases hc with rfl | rfl <;> decide
      · rcases hc with rfl | rfl
        · exact (hds d hd).1
        · exact (hds d hd).2
    rw [readToken_quote hc] at h
    split at h
    · next hString =>
      cases h
      exact readString_append_le hNe hString
    · cases h
  · rw [Bool.not_eq_true] at hc
    exact Nat.le_trans (readToken_le_takeWhile inner_ne_hash hc h) (length_takeWhile_hash_le cs ds)

/-- **A text that ends in `#` and characters without a quote has no tokens**: only a string can
hold a `#`, and the string would not end. -/
theorem tokens_hash {ds : List Char} (hds : ∀ d ∈ ds, d ≠ '"' ∧ d ≠ '\'') :
    ∀ cs : List Char, tokens (cs ++ '#' :: ds) = none := by
  intro cs
  induction hn : cs.length using Nat.strong_induction_on generalizing cs with
  | _ n ih =>
    cases cs with
    | nil =>
      have hStart : isNameStart '#' = false := by decide +kernel
      exact tokens_error (by decide) (by simp [readToken, readSign?, hStart]; rfl)
    | cons c cs =>
      have hRest : ∀ m ≤ cs.length, tokens ((cs ++ '#' :: ds).drop m) = none := by
        intro m hm
        rw [List.drop_append_of_le_length hm]
        exact ih _ (by rw [← hn, List.length_drop, List.length_cons]; omega) _ rfl
      rw [List.cons_append]
      by_cases hc : isBlank c
      · rw [tokens_blank hc]
        exact hRest 0 (Nat.zero_le _)
      · rw [Bool.not_eq_true] at hc
        cases hToken : readToken c (cs ++ '#' :: ds) with
        | error fault => exact tokens_error hc hToken
        | ok found =>
          obtain ⟨token, m⟩ := found
          rw [tokens_cons hc hToken, hRest m (readToken_append_hash_le hds hToken),
            Option.map_none]

end CodeGraph.Query
