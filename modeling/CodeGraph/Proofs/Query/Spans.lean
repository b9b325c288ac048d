import CodeGraph.Proofs.Query.Integers

/-!
# What a token is written with

A token needs no more than its own characters: it is read the same when the text is cut off behind
them (`readToken_take`), so that its span alone is a text of just this token (`scan_source`).

Where no token can be read the text `Offends`, in one of four ways, and the fault names which
(`readToken_eq_error_iff`).
-/

namespace CodeGraph.Query

open Text (decimalValue)

variable {p : Char → Bool} {c d quote : Char} {cs ds rest text : List Char} {m n : Nat}
variable {token : Token} {fault : Fault}

/-! ### Texts that are cut off -/

theorem takeWhile_take (h : (cs.takeWhile p).length ≤ m) :
    (cs.take m).takeWhile p = cs.takeWhile p := by
  induction cs generalizing m with
  | nil => rw [List.take_nil]
  | cons c cs ih =>
    by_cases hc : p c = true
    · rw [List.takeWhile_cons_of_pos hc, List.length_cons] at h
      obtain ⟨k, rfl⟩ : ∃ k, m = k + 1 := ⟨m - 1, by omega⟩
      rw [List.take_succ_cons, List.takeWhile_cons_of_pos hc, List.takeWhile_cons_of_pos hc,
        ih (by omega)]
    · cases m with
      | zero => rw [List.takeWhile_cons_of_neg hc, List.take_zero, List.takeWhile_nil]
      | succ k =>
        rw [List.take_succ_cons, List.takeWhile_cons_of_neg hc, List.takeWhile_cons_of_neg hc]

theorem dropWhile_take (h : (cs.takeWhile p).length ≤ m) :
    (cs.take m).dropWhile p = (cs.dropWhile p).take (m - (cs.takeWhile p).length) := by
  have hSplit := List.takeWhile_append_dropWhile (p := p) (l := cs.take m)
  have hWhole := List.takeWhile_append_dropWhile (p := p) (l := cs)
  rw [takeWhile_take h] at hSplit
  have hCut : cs.take m =
      cs.takeWhile p ++ (cs.dropWhile p).take (m - (cs.takeWhile p).length) := by
    conv_lhs => rw [← hWhole]
    rw [List.take_append, List.take_of_length_le h]
  exact List.append_cancel_left (hSplit.trans hCut)

theorem readFraction_take
    (h : (readFraction cs).isEmpty = false → (readFraction cs).length < m) :
    readFraction (cs.take m) = readFraction cs := by
  cases m with
  | zero =>
    cases hEmpty : (readFraction cs).isEmpty with
    | true => exact (List.isEmpty_iff.1 hEmpty).symm
    | false => exact absurd (h hEmpty) (Nat.not_lt_zero _)
  | succ k =>
    revert h
    fun_cases readFraction cs with
    | case1 cs =>
      intro h
      show (cs.take k).takeWhile Char.isDigit = cs.takeWhile Char.isDigit
      refine takeWhile_take ?_
      cases hEmpty : (cs.takeWhile Char.isDigit).isEmpty with
      | true =>
        rw [List.isEmpty_iff.1 hEmpty]
        exact Nat.zero_le _
      | false => exact Nat.le_of_lt_succ (h hEmpty)
    | case2 cs hNe =>
      intro _
      cases cs with
      | nil => rfl
      | cons c cs =>
        rw [List.take_succ_cons]
        exact readFraction_of_ne fun hc => hNe cs (hc ▸ rfl)

theorem readNumber_take (h : readNumber cs = .ok (token, n)) (hLe : n ≤ m) :
    readNumber (cs.take m) = .ok (token, n) := by
  -- a number reaches behind its digits, and behind its fraction if it has one
  have hReach : (cs.takeWhile Char.isDigit).length ≤ n ∧
      ((readFraction (cs.dropWhile Char.isDigit)).isEmpty = false →
        (readFraction (cs.dropWhile Char.isDigit)).length <
          n - (cs.takeWhile Char.isDigit).length) := by
    revert h
    fun_cases readNumber cs with
    | case1 whole fraction hNone =>
      rintro ⟨⟩
      exact ⟨Nat.le_refl _, fun hSome => absurd hNone (by simpa [fraction] using hSome)⟩
    | case2 => rintro ⟨⟩
    | case3 whole fraction hSome =>
      rintro ⟨⟩
      show whole.length ≤ whole.length + 1 + fraction.length ∧ (_ →
        fraction.length < whole.length + 1 + fraction.length - whole.length)
      omega
  obtain ⟨hWhole, hFraction⟩ := hReach
  rw [← h, readNumber, readNumber, takeWhile_take (Nat.le_trans hWhole hLe),
    dropWhile_take (Nat.le_trans hWhole hLe), readFraction_take]
  intro hSome
  have hLess := hFraction hSome
  omega

theorem readString_take (h : readString quote cs = some (text, n)) (hLe : n ≤ m) :
    readString quote (cs.take m) = some (text, n) := by
  fun_induction readString quote cs generalizing text n m with
  | case1 | case2 => cases h
  | case3 c cs ih =>
    obtain ⟨⟨text, n⟩, hRest, he⟩ := Option.map_eq_some_iff.1 h
    cases he
    obtain ⟨k, rfl⟩ : ∃ k, m = k + 2 := ⟨m - 2, by omega⟩
    rw [List.take_succ_cons, List.take_succ_cons, readString, ih hRest (by omega),
      Option.map_some]
  | case4 c cs hEnd hPair hc =>
    cases h
    obtain ⟨k, rfl⟩ : ∃ k, m = k + 1 := ⟨m - 1, by omega⟩
    rw [List.take_succ_cons, readString_cons (ne_backslash hEnd hPair), if_pos hc]
  | case5 c cs hEnd hPair hc ih =>
    obtain ⟨⟨text, n⟩, hRest, he⟩ := Option.map_eq_some_iff.1 h
    cases he
    obtain ⟨k, rfl⟩ : ∃ k, m = k + 1 := ⟨m - 1, by omega⟩
    rw [List.take_succ_cons, readString_cons (ne_backslash hEnd hPair), if_neg hc,
      ih hRest (by omega), Option.map_some]

theorem readSign?_cut (h : ∀ sign, readSign? c (some d) ≠ some (sign, true)) :
    readSign? c none = readSign? c (some d) := by
  by_cases hOpen : c = '-' ∨ c = '!' ∨ c = '<' ∨ c = '>'
  · by_cases hNext : d = '-' ∨ d = '=' ∨ d = '>'
    · rcases hOpen with rfl | rfl | rfl | rfl <;> rcases hNext with rfl | rfl | rfl <;>
        first | rfl | exact absurd rfl (h _)
    · simp only [not_or] at hNext
      exact readSign?_none hNext.1 hNext.2.1 hNext.2.2
  · simp only [not_or] at hOpen
    obtain ⟨hDash, hBang, hLess, hGreater⟩ := hOpen
    exact readSign?_alone hDash hBang hLess hGreater none (some d)

theorem readSign?_take (h : ∀ sign, readSign? c cs.head? = some (sign, true) → 0 < m) :
    readSign? c (cs.take m).head? = readSign? c cs.head? := by
  cases cs with
  | nil => rw [List.take_nil]
  | cons d cs =>
    cases m with
    | zero => exact readSign?_cut fun sign hSign => absurd (h sign hSign) (Nat.lt_irrefl 0)
    | succ k => rfl

theorem readSign?_take_none (m : Nat) (h : readSign? c cs.head? = none) :
    readSign? c (cs.take m).head? = readSign? c cs.head? := by
  refine readSign?_take fun sign hSign => ?_
  rw [h] at hSign
  cases hSign

/-- **A token needs no more than its own characters.** -/
theorem readToken_take (h : readToken c cs = .ok (token, n)) (hLe : n ≤ m) :
    readToken c (cs.take m) = .ok (token, n) := by
  revert h
  fun_cases readToken c cs with
  | case1 sign double hSign =>
    rintro ⟨⟩
    have hSame : readSign? c (cs.take m).head? = readSign? c cs.head? := by
      refine readSign?_take fun other hOther => ?_
      rw [hSign] at hOther
      cases hOther
      exact hLe
    rw [readToken, hSame, hSign]
  | case2 hSign hQuote text k hString =>
    rintro ⟨⟩
    rw [readToken_quote hQuote, readString_take hString hLe]
  | case5 hSign hQuote hDollar name hName =>
    rintro ⟨⟩
    have hSame := readSign?_take_none m hSign
    rw [readToken, hSame, hSign, takeWhile_take hLe]
    simp only [hQuote, hDollar, Bool.false_eq_true, if_false, if_true]
    rw [if_neg hName]
  | case6 hSign hQuote hDollar hDigit =>
    intro h
    cases hNumber : readNumber (c :: cs) with
    | error fault => rw [hNumber] at h; cases h
    | ok found =>
      obtain ⟨token, k⟩ := found
      rw [hNumber] at h
      cases h
      have hOwn := readNumber_take hNumber (m := m + 1) (by omega)
      rw [List.take_succ_cons] at hOwn
      rw [readToken_digit hDigit, hOwn]
      rfl
  | case7 hSign hQuote hDollar hDigit hStart name =>
    rintro ⟨⟩
    have hSame := readSign?_take_none m hSign
    rw [readToken, hSame, hSign, takeWhile_take hLe]
    simp only [hQuote, hDollar, hDigit, hStart, Bool.false_eq_true, if_false, if_true]
    rfl
  | case3 | case4 | case8 => rintro ⟨⟩

/-- **The characters of a token are a text of just this token.** -/
theorem scan_source (offset : Nat) (hc : Unicode.isBlank c = false)
    (h : readToken c cs = .ok (token, n)) :
    scan offset (c :: cs.take n) = .ok [⟨token, offset, c :: cs.take n⟩] := by
  have hOwn := readToken_take h (Nat.le_refl n)
  have hNone : (cs.take n).drop n = [] := List.drop_eq_nil_of_le (List.length_take_le n cs)
  rw [scan_cons offset hc hOwn, hNone, List.take_take, Nat.min_self, scan]
  rfl

/-! ### Texts without a token -/

/-- What may stand between two quotes: backslashes only in pairs with the next character, and no
quote but in such a pair. -/
inductive Body (quote : Char) : List Char → Prop
  | nil : Body quote []
  | plain {c : Char} {cs : List Char} (hBackslash : c ≠ '\\') (hQuote : c ≠ quote)
      (hRest : Body quote cs) : Body quote (c :: cs)
  | pair {c : Char} {cs : List Char} (hRest : Body quote cs) : Body quote ('\\' :: c :: cs)

theorem readString_body (hQuote : quote ≠ '\\') (hBody : Body quote cs) (rest : List Char) :
    ∃ text, readString quote (cs ++ quote :: rest) = some (text, cs.length + 1) := by
  induction hBody with
  | nil =>
    refine ⟨[], ?_⟩
    rw [List.nil_append, readString_cons hQuote, if_pos (beq_self_eq_true quote)]
    rfl
  | @plain c cs hBackslash hNe _ ih =>
    obtain ⟨text, hRead⟩ := ih
    refine ⟨c :: text, ?_⟩
    rw [List.cons_append, readString_cons hBackslash, if_neg (by simpa using hNe), hRead]
    rfl
  | @pair c cs _ ih =>
    obtain ⟨text, hRead⟩ := ih
    refine ⟨unescape c :: text, ?_⟩
    rw [List.cons_append, List.cons_append, readString, hRead]
    rfl

theorem exists_body (h : readString quote cs = some (text, n)) :
    ∃ body rest, Body quote body ∧ cs = body ++ quote :: rest := by
  fun_induction readString quote cs generalizing text n with
  | case1 | case2 => cases h
  | case3 c cs ih =>
    obtain ⟨⟨text, n⟩, hRest, _⟩ := Option.map_eq_some_iff.1 h
    obtain ⟨body, rest, hBody, rfl⟩ := ih hRest
    exact ⟨'\\' :: c :: body, rest, .pair hBody, rfl⟩
  | case4 c cs _ _ hc =>
    obtain rfl := beq_iff_eq.1 hc
    exact ⟨[], cs, .nil, rfl⟩
  | case5 c cs hEnd hPair hc ih =>
    obtain ⟨⟨text, n⟩, hRest, _⟩ := Option.map_eq_some_iff.1 h
    obtain ⟨body, rest, hBody, rfl⟩ := ih hRest
    exact ⟨c :: body, rest, .plain (ne_backslash hEnd hPair) (by simpa using hc) hBody, rfl⟩

/-- A string is not read exactly if no quote closes it. -/
theorem readString_eq_none_iff (hQuote : quote ≠ '\\') : readString quote cs = none ↔
    ∀ body rest, Body quote body → cs ≠ body ++ quote :: rest := by
  constructor
  · rintro h body rest hBody rfl
    obtain ⟨text, hRead⟩ := readString_body hQuote hBody rest
    rw [hRead] at h
    cases h
  · intro h
    cases hRead : readString quote cs with
    | none => rfl
    | some found =>
      obtain ⟨body, rest, hBody, hcs⟩ := exists_body hRead
      exact absurd hcs (h body rest hBody)

def signs : List Char :=
  ['(', ')', '[', ']', '\x7b', '\x7d', ':', ',', '.', '*', '=', '-', '<', '>']

theorem exists_readSign? (h : c ∈ signs) (next : Option Char) :
    ∃ found, readSign? c next = some found := by
  simp only [signs, List.mem_cons, List.not_mem_nil, or_false] at h
  rcases h with rfl | rfl | rfl | rfl | rfl | rfl | rfl | rfl | rfl | rfl | rfl | h
  all_goals try exact ⟨_, rfl⟩
  -- the other three look at what comes next
  rcases h with rfl | rfl | rfl <;>
  · unfold readSign?
    split <;> first | exact ⟨_, rfl⟩ | contradiction

theorem readSign?_eq_none_iff {next : Option Char} :
    readSign? c next = none ↔ c ∉ signs ∧ (c = '!' → next ≠ some '=') := by
  constructor
  · intro h
    refine ⟨fun hMem => ?_, ?_⟩
    · obtain ⟨found, hFound⟩ := exists_readSign? hMem next
      rw [hFound] at h
      cases h
    · rintro rfl rfl
      cases h
  · rintro ⟨hSigns, hBang⟩
    unfold readSign?
    split
    all_goals first
      | rfl
      | exact absurd rfl (hBang rfl)
      | exact absurd (by decide) hSigns

/-- No token starts with `c` before these characters, and why not. -/
inductive Offends : Char → List Char → Fault → Prop
  | name {cs : List Char} (hName : ∀ d ∈ cs.head?, isNameChar d = false) :
      Offends '$' cs .emptyParameterName
  | string {c : Char} {cs : List Char} (hQuote : c = '"' ∨ c = '\'')
      (hOpen : ∀ body rest, Body c body → cs ≠ body ++ c :: rest) :
      Offends c cs .unterminatedString
  | integer {c : Char} {ds rest : List Char} (hDigits : ∀ d ∈ c :: ds, d.isDigit = true)
      (hEnd : DigitsEnd rest) (hLarge : 0x8000000000000000 ≤ decimalValue (c :: ds)) :
      Offends c (ds ++ rest) (.integerTooLarge (String.ofList (c :: ds)))
  | character {c : Char} {cs : List Char} (hSign : c ∉ signs)
      (hBang : c = '!' → cs.head? ≠ some '=') (hQuote : ¬(c = '"' ∨ c = '\'')) (hDollar : c ≠ '$')
      (hDigit : c.isDigit = false) (hName : isNameStart c = false) :
      Offends c cs (.unexpectedCharacter c)

theorem takeWhile_eq_nil_iff : cs.takeWhile p = [] ↔ ∀ d ∈ cs.head?, p d = false := by
  cases cs with
  | nil => simp
  | cons d cs => cases hd : p d <;> simp [hd]

theorem readNumber_eq_error (h : readNumber (c :: cs) = .error fault) (hDigit : c.isDigit = true) :
    ∃ ds rest, cs = ds ++ rest ∧ (∀ d ∈ c :: ds, d.isDigit = true) ∧ DigitsEnd rest ∧
      0x8000000000000000 ≤ decimalValue (c :: ds) ∧
      fault = .integerTooLarge (String.ofList (c :: ds)) := by
  have hWhole : (c :: cs).takeWhile Char.isDigit = c :: cs.takeWhile Char.isDigit :=
    List.takeWhile_cons_of_pos hDigit
  have hRest : (c :: cs).dropWhile Char.isDigit = cs.dropWhile Char.isDigit :=
    List.dropWhile_cons_of_pos hDigit
  rw [readNumber, hWhole, hRest] at h
  split at h
  · next hNone =>
    split at h
    · cases h
    · next hLarge =>
      cases h
      refine ⟨cs.takeWhile Char.isDigit, cs.dropWhile Char.isDigit,
        List.takeWhile_append_dropWhile.symm, ?_, ⟨?_, List.isEmpty_iff.1 hNone⟩,
        Nat.le_of_not_lt hLarge, rfl⟩
      · intro d hd
        rw [← hWhole] at hd
        exact List.mem_takeWhile_imp hd
      · intro d hd
        have hHead := List.head?_dropWhile_not Char.isDigit cs
        rw [hd] at hHead
        simpa using hHead
  · cases h

theorem quote_ne_backslash (h : c = '"' ∨ c = '\'') : c ≠ '\\' := by
  rcases h with rfl | rfl <;> decide

theorem readToken_of_offends (h : Offends c cs fault) : readToken c cs = .error fault := by
  cases h with
  | name hName =>
    have hSign : readSign? '$' cs.head? = none := rfl
    rw [readToken, hSign, takeWhile_eq_nil_iff.2 hName]
    rfl
  | string hQuote hOpen =>
    rw [readToken_quote (by simpa using hQuote),
      (readString_eq_none_iff (quote_ne_backslash hQuote)).2 hOpen]
  | @integer _ ds rest hDigits hEnd hLarge =>
    rw [readToken_digit (hDigits c List.mem_cons_self), ← List.cons_append,
      readNumber_digits hDigits hEnd, if_neg (Nat.not_lt_of_le hLarge)]
    rfl
  | character hSign hBang hQuote hDollar hDigit hName =>
    rw [readToken, readSign?_eq_none_iff.2 ⟨hSign, hBang⟩]
    simp [hQuote, hDollar, hDigit, hName]

theorem offends_of_readToken (h : readToken c cs = .error fault) : Offends c cs fault := by
  revert h
  fun_cases readToken c cs with
  | case3 hSign hQuote hString =>
    rintro ⟨⟩
    have hQuote' : c = '"' ∨ c = '\'' := by simpa using hQuote
    exact .string hQuote' ((readString_eq_none_iff (quote_ne_backslash hQuote')).1 hString)
  | case4 hSign hQuote hDollar name hName =>
    rintro ⟨⟩
    obtain rfl := beq_iff_eq.1 hDollar
    exact .name (takeWhile_eq_nil_iff.1 (List.isEmpty_iff.1 hName))
  | case6 hSign hQuote hDollar hDigit =>
    intro h
    cases hNumber : readNumber (c :: cs) with
    | ok found => rw [hNumber] at h; cases h
    | error fault' =>
      rw [hNumber] at h
      cases h
      obtain ⟨ds, rest, rfl, hDigits, hEnd, hLarge, rfl⟩ := readNumber_eq_error hNumber hDigit
      exact .integer hDigits hEnd hLarge
  | case8 hSign hQuote hDollar hDigit hStart =>
    rintro ⟨⟩
    obtain ⟨hSigns, hBang⟩ := readSign?_eq_none_iff.1 hSign
    refine .character hSigns hBang ?_ ?_ ?_ ?_
    · simpa using hQuote
    · simpa using hDollar
    · simpa using hDigit
    · simpa using hStart
  | case1 | case2 | case5 | case7 => rintro ⟨⟩

/-- **No token can be read exactly where the text offends.** -/
theorem readToken_eq_error_iff : readToken c cs = .error fault ↔ Offends c cs fault :=
  ⟨offends_of_readToken, readToken_of_offends⟩

end CodeGraph.Query
