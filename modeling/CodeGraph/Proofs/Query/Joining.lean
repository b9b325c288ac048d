import Mathlib.Data.List.TakeWhile
import CodeGraph.Proofs.Query.Tokens

/-!
# Texts side by side

A text that is cut into tokens is cut in the same way where another text follows it, unless the last
token goes on in the other text.  It does not if the last character and the next one are `Apart`,
and then the tokens of both stand one after the other (`scan_append`, `tokens_append`).
-/

namespace CodeGraph.Query

variable {p : Char → Bool} {c d e : Char} {cs ds rest : List Char}

/-- A token that ends in `e` does not go on with `d`. -/
structure Apart (e d : Char) : Prop where
  name : isNameChar e = true → isNameChar d = false
  point : e = '.' → d.isDigit = false
  digit : e.isDigit = true → d ≠ '.'
  sign : readSign? e (some d) = readSign? e none

theorem apart_of_ne (hName : isNameChar d = false) (hDot : d ≠ '.') (hDash : d ≠ '-')
    (hEq : d ≠ '=') (hGt : d ≠ '>') (e : Char) : Apart e d where
  name _ := hName
  point _ := by
    cases hDigit : d.isDigit with
    | false => rfl
    | true => rw [isNameChar_of_isDigit hDigit] at hName; cases hName
  digit _ := hDot
  sign := (readSign?_none hDash hEq hGt).symm

/-! ### One token -/

theorem takeWhile_append_last (hLast : cs.getLast? = some e) (h : p e = true → p d = false) :
    (cs ++ d :: ds).takeWhile p = cs.takeWhile p := by
  induction cs with
  | nil => cases hLast
  | cons c cs ih =>
    rw [List.cons_append, List.takeWhile_cons, List.takeWhile_cons]
    cases cs with
    | nil =>
      obtain rfl : c = e := by simpa using hLast
      cases hc : p c with
      | false => rfl
      | true => simp [h hc]
    | cons c' cs => rw [ih (by simpa using hLast)]

theorem dropWhile_append_last (hLast : cs.getLast? = some e) (h : p e = true → p d = false) :
    (cs ++ d :: ds).dropWhile p = cs.dropWhile p ++ d :: ds := by
  have hTake : (cs ++ d :: ds).takeWhile p = cs.takeWhile p := takeWhile_append_last hLast h
  have hSplit : cs.takeWhile p ++ (cs ++ d :: ds).dropWhile p =
      cs.takeWhile p ++ (cs.dropWhile p ++ d :: ds) := by
    rw [← hTake, List.takeWhile_append_dropWhile, ← List.append_assoc, hTake,
      List.takeWhile_append_dropWhile]
  exact List.append_cancel_left hSplit

theorem readString_append {quote : Char} {text : List Char} {n : Nat} (rest : List Char)
    (h : readString quote cs = some (text, n)) :
    readString quote (cs ++ rest) = some (text, n) := by
  fun_induction readString quote cs generalizing text n with
  | case1 | case2 => cases h
  | case3 c cs ih =>
    obtain ⟨⟨text, n⟩, hRest, he⟩ := Option.map_eq_some_iff.1 h
    rw [List.cons_append, List.cons_append, readString, ih hRest, ← he, Option.map_some]
  | case4 c cs hEnd hPair hc =>
    rw [List.cons_append, readString_cons (ne_backslash hEnd hPair), if_pos hc, ← h]
  | case5 c cs hEnd hPair hc ih =>
    obtain ⟨⟨text, n⟩, hRest, he⟩ := Option.map_eq_some_iff.1 h
    rw [List.cons_append, readString_cons (ne_backslash hEnd hPair), if_neg hc, ih hRest, ← he,
      Option.map_some]

theorem isDigit_eq_false (h : Apart e d) (hDigit : e.isDigit = true) : d.isDigit = false := by
  have hName := h.name (isNameChar_of_isDigit hDigit)
  cases hNext : d.isDigit with
  | false => rfl
  | true => rw [isNameChar_of_isDigit hNext] at hName; cases hName

theorem readFraction_of_ne (h : c ≠ '.') : readFraction (c :: cs) = [] := by
  unfold readFraction
  split
  · next hCons => exact absurd (List.cons.inj hCons).1 h
  · rfl

theorem readFraction_append (h : Apart e d) (hLast : cs.getLast? = some e) :
    readFraction (cs.dropWhile Char.isDigit ++ d :: ds) =
      readFraction (cs.dropWhile Char.isDigit) := by
  have hSplit := List.takeWhile_append_dropWhile (p := Char.isDigit) (l := cs)
  cases hRest : cs.dropWhile Char.isDigit with
  | nil =>
    -- the text ends in a digit
    have hDigit : e.isDigit = true :=
      List.dropWhile_eq_nil_iff.1 hRest e (List.mem_of_getLast? hLast)
    exact readFraction_of_ne (h.digit hDigit)
  | cons x r =>
    rw [← hSplit, hRest, List.getLast?_append_cons] at hLast
    by_cases hx : x = '.'
    · subst hx
      show (r ++ d :: ds).takeWhile Char.isDigit = r.takeWhile Char.isDigit
      cases r with
      | nil =>
        obtain rfl : '.' = e := by simpa using hLast
        simp [h.point rfl]
      | cons y r => exact takeWhile_append_last (by simpa using hLast) (isDigit_eq_false h)
    · rw [List.cons_append, readFraction_of_ne hx, readFraction_of_ne hx]

theorem readNumber_append (h : Apart e d) (hLast : cs.getLast? = some e) :
    readNumber (cs ++ d :: ds) = readNumber cs := by
  have hDigit := isDigit_eq_false h
  unfold readNumber
  rw [takeWhile_append_last hLast hDigit, dropWhile_append_last hLast hDigit,
    readFraction_append h hLast]

theorem isNameChar_of_isNameStart (h : isNameStart c = true) : isNameChar c = true := by
  simp only [isNameStart, isNameChar, Unicode.isAlphanumeric, Bool.or_eq_true] at h ⊢
  exact h.imp_left Or.inl

theorem readSign?_append (h : Apart e d) (hLast : (c :: cs).getLast? = some e) :
    readSign? c (cs ++ d :: ds).head? = readSign? c cs.head? := by
  cases cs with
  | nil =>
    obtain rfl : c = e := by simpa using hLast
    exact h.sign
  | cons x cs => rfl

theorem takeWhile_name_append (h : Apart e d) (hLast : (c :: cs).getLast? = some e)
    (hBegun : isNameChar c = true ∨ cs ≠ []) :
    (cs ++ d :: ds).takeWhile isNameChar = cs.takeWhile isNameChar := by
  cases cs with
  | nil =>
    obtain rfl : c = e := by simpa using hLast
    simp [h.name (hBegun.resolve_right (by simp))]
  | cons x cs => exact takeWhile_append_last (by simpa using hLast) h.name

/-- **A token stays the same** in front of a character that does not belong to it. -/
theorem readToken_append {token : Token} {n : Nat} (h : Apart e d)
    (hLast : (c :: cs).getLast? = some e) (hRead : readToken c cs = .ok (token, n)) :
    readToken c (cs ++ d :: ds) = .ok (token, n) := by
  have hSigns := @readSign?_append c d e cs ds h hLast
  revert hRead
  fun_cases readToken c cs with
  | case1 sign double hSign =>
    rw [hSign] at hSigns
    rw [readToken, hSigns]
    exact id
  | case2 hSign hQuote text m hString =>
    rw [readToken_quote hQuote, readString_append (d :: ds) hString]
    exact id
  | case5 hSign hQuote hDollar name hName =>
    have hSome : cs ≠ [] := by
      rintro rfl
      exact hName rfl
    rw [hSign] at hSigns
    rw [readToken, hSigns, takeWhile_name_append h hLast (Or.inr hSome)]
    simp only [hQuote, hDollar, Bool.false_eq_true, if_false, if_true]
    rw [if_neg hName]
    exact id
  | case6 hSign hQuote hDollar hDigit =>
    have hNumber := @readNumber_append d e (c :: cs) ds h hLast
    rw [List.cons_append] at hNumber
    rw [hSign] at hSigns
    rw [readToken, hSigns, hNumber]
    simp only [hQuote, hDollar, hDigit, Bool.false_eq_true, if_false, if_true]
    exact id
  | case7 hSign hQuote hDollar hDigit hStart rest =>
    have hName := isNameChar_of_isNameStart hStart
    rw [hSign] at hSigns
    rw [readToken, hSigns, takeWhile_name_append h hLast (Or.inl hName)]
    simp only [hQuote, hDollar, hDigit, hStart, Bool.false_eq_true, if_false, if_true]
    exact id
  | case3 | case4 | case8 => rintro ⟨⟩

/-! ### All tokens -/

theorem byteWidth_append (cs ds : List Char) :
    byteWidth (cs ++ ds) = byteWidth cs + byteWidth ds := by
  induction cs with
  | nil => exact (Nat.zero_add _).symm
  | cons c cs ih => rw [List.cons_append, byteWidth, byteWidth, ih, Nat.add_assoc]

/-- The texts may stand side by side: no token of the first goes on in the second. -/
def Joins (cs rest : List Char) : Prop := ∀ e ∈ cs.getLast?, ∀ d ∈ rest.head?, Apart e d

theorem joins_cons (hd : d = '$' ∨ d = '<' ∨ d = '\'' ∨ d = '"') (cs rest : List Char) :
    Joins cs (d :: rest) := by
  rintro e _ _ ⟨⟩
  rcases hd with rfl | rfl | rfl | rfl <;>
  exact apart_of_ne (by decide) (by decide) (by decide) (by decide) (by decide) e

theorem Joins.drop (h : Joins (c :: cs) rest) (n : Nat) : Joins (cs.drop n) rest := by
  intro e he
  refine h e (List.mem_getLast?_cons ?_)
  rw [List.getLast?_drop] at he
  split at he
  · cases he
  · exact he

theorem readToken_joins {token : Token} {n : Nat} (h : Joins (c :: cs) rest)
    (hRead : readToken c cs = .ok (token, n)) : readToken c (cs ++ rest) = .ok (token, n) := by
  cases rest with
  | nil => rwa [List.append_nil]
  | cons d ds =>
    obtain ⟨e, hLast⟩ : ∃ e, (c :: cs).getLast? = some e :=
      Option.isSome_iff_exists.1 (by simp)
    exact readToken_append (h e hLast d rfl) hLast hRead

/-- **The tokens of a text and those of the next one stand one after the other.** -/
theorem scan_append : ∀ {cs : List Char} {offset : Nat} {lexemes : List Lexeme}, Joins cs rest →
    scan offset cs = .ok lexemes →
    scan offset (cs ++ rest) = (scan (offset + byteWidth cs) rest).map (lexemes ++ ·) := by
  intro cs
  induction hn : cs.length using Nat.strong_induction_on generalizing cs with
  | _ n ih =>
    intro offset lexemes hJoins h
    cases cs with
    | nil =>
      rw [scan] at h
      cases h
      show scan offset rest = (scan offset rest).map _
      cases scan offset rest <;> rfl
    | cons c cs =>
      rw [scan] at h
      rw [List.cons_append, scan]
      cases hBlank : Unicode.isBlank c with
      | true =>
        rw [hBlank, if_pos rfl] at h
        rw [if_pos rfl, ih cs.length (by simp [← hn]) rfl (hJoins.drop 0) h, byteWidth,
          Nat.add_assoc]
      | false =>
        rw [hBlank, if_neg Bool.false_ne_true] at h
        rw [if_neg Bool.false_ne_true]
        cases hToken : readToken c cs with
        | error fault => rw [hToken] at h; cases h
        | ok found =>
          obtain ⟨token, m⟩ := found
          rw [hToken] at h
          have hLe := readToken_le hToken
          have hShorter : (cs.drop m).length < n := by
            rw [← hn, List.length_drop, List.length_cons]
            omega
          rw [readToken_joins hJoins hToken]
          dsimp only at h ⊢
          rw [List.take_append_of_le_length hLe, List.drop_append_of_le_length hLe]
          have hWidth : offset + byteWidth (c :: cs.take m) + byteWidth (cs.drop m) =
              offset + byteWidth (c :: cs) := by
            rw [Nat.add_assoc, ← byteWidth_append, List.cons_append, List.take_append_drop]
          cases hMore : scan (offset + byteWidth (c :: cs.take m)) (cs.drop m) with
          | error e => rw [hMore] at h; cases h
          | ok more =>
            rw [hMore] at h
            cases h
            rw [ih _ hShorter rfl (hJoins.drop m) hMore, hWidth]
            cases scan (offset + byteWidth (c :: cs)) rest <;> rfl

theorem tokens_append {ts : List Token} (h : Joins cs rest) (hTokens : tokens cs = some ts) :
    tokens (cs ++ rest) = (tokens rest).map (ts ++ ·) := by
  obtain ⟨lexemes, hScan, rfl⟩ := tokens_eq_some_iff.1 hTokens
  rw [tokens, scan_append h hScan, tokens, ← scan_offset rest (0 + byteWidth cs) 0]
  cases scan (0 + byteWidth cs) rest <;> simp [Except.toOption, Except.map]

/-! ### Parameters and blanks -/

theorem takeWhile_run (hAll : ∀ c ∈ cs, p c = true) (hEnd : ∀ d ∈ rest.head?, p d = false) :
    (cs ++ rest).takeWhile p = cs := by
  rw [List.takeWhile_append_of_pos hAll]
  cases rest with
  | nil => exact List.append_nil cs
  | cons d ds => rw [List.takeWhile_cons_of_neg (by simp [hEnd d rfl]), List.append_nil]

theorem dropWhile_run (hAll : ∀ c ∈ cs, p c = true) (hEnd : ∀ d ∈ rest.head?, p d = false) :
    (cs ++ rest).dropWhile p = rest := by
  rw [List.dropWhile_append_of_pos hAll]
  cases rest with
  | nil => rfl
  | cons d ds => exact List.dropWhile_cons_of_neg (by simp [hEnd d rfl])

theorem tokens_blanks (hBlank : ∀ c ∈ cs, Unicode.isBlank c = true) (rest : List Char) :
    tokens (cs ++ rest) = tokens rest := by
  induction cs with
  | nil => rfl
  | cons c cs ih =>
    rw [List.cons_append, tokens_blank (hBlank c List.mem_cons_self),
      ih fun d hd => hBlank d (List.mem_cons_of_mem _ hd)]

/-- What a parameter is named by: one or more characters of a name. -/
structure IsWord (name : List Char) : Prop where
  nonempty : name ≠ []
  chars : ∀ c ∈ name, isNameChar c = true

theorem tokens_param {name : List Char} (hName : IsWord name)
    (hEnd : ∀ d ∈ rest.head?, isNameChar d = false) :
    tokens ('$' :: name ++ rest) = (tokens rest).map (.param (String.ofList name) :: ·) := by
  have hToken : readToken '$' (name ++ rest) = .ok (.param (String.ofList name), name.length) := by
    have hSign : readSign? '$' (name ++ rest).head? = none := rfl
    rw [readToken, hSign, takeWhile_run hName.chars hEnd]
    simp [hName.nonempty]
  rw [List.cons_append, tokens_cons (by decide) hToken, List.drop_left]

end CodeGraph.Query
