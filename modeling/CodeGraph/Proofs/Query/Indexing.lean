import CodeGraph.Proofs.Query.Spans

/-!
# Reading by index

A reader that moves an index over the characters, and looks them up one by one and in slices, could
look behind the end, or go on without one.  `scanAt` is this reader, where `none` stands for an
index out of range and for more turns of a loop than were granted.  Neither happens: with one turn
more than there are characters it finds what `scan` finds (`scanAt_eq`).
-/

namespace CodeGraph.Query

open Text (decimalValue)
open Unicode (isBlank)

variable {chars : List Char} {quote : Char} {turns i j : Nat}

/-! ### Slices -/

def sliceFrom? (chars : List Char) (i : Nat) : Option (List Char) :=
  if i ≤ chars.length then some (chars.drop i) else none

def slice? (chars : List Char) (i j : Nat) : Option (List Char) :=
  if i ≤ j ∧ j ≤ chars.length then some ((chars.drop i).take (j - i)) else none

theorem sliceFrom?_eq (h : i ≤ chars.length) : sliceFrom? chars i = some (chars.drop i) := if_pos h

theorem slice?_eq (hij : i ≤ j) (hj : j ≤ chars.length) :
    slice? chars i j = some ((chars.drop i).take (j - i)) := if_pos ⟨hij, hj⟩

/-! ### The reader -/

/-- Reads a literal from an index behind its opening quote. Gives its text and the index behind the
closing one. -/
def stringAt (chars : List Char) (quote : Char) :
    (turns i : Nat) → Option (Option (List Char × Nat))
  | 0, _ => none
  | turns + 1, i =>
    if i < chars.length then do
      let c ← chars[i]?
      match (if c == '\\' then chars[i + 1]? else none) with
      | some escaped =>
        let found ← stringAt chars quote turns (i + 2)
        some (found.map fun (text, stop) => (unescape escaped :: text, stop))
      | none =>
        if c == quote then some (some ([], i + 1))
        else
          let found ← stringAt chars quote turns (i + 1)
          some (found.map fun (text, stop) => (c :: text, stop))
    else some none

def digitsAt (chars : List Char) (i : Nat) : Option Nat := do
  let rest ← sliceFrom? chars i
  some (rest.takeWhile Char.isDigit).length

def numberAt (chars : List Char) (i : Nat) : Option (Except Fault (Token × Nat)) := do
  let whole ← digitsAt chars i
  if chars[i + whole]? = some '.' ∧ chars[i + whole + 1]?.any Char.isDigit = true then
    let fraction ← digitsAt chars (i + whole + 1)
    let source ← slice? chars i (i + (whole + 1 + fraction))
    let digits := source.take whole ++ source.drop (whole + 1)
    some (.ok (.float (.ofDecimal false (decimalValue digits) (-fraction)), whole + 1 + fraction))
  else
    let source ← slice? chars i (i + whole)
    some (if decimalValue source < 0x8000000000000000
      then .ok (.int (Int64.ofInt (decimalValue source)), whole)
      else .error (.integerTooLarge (String.ofList source)))

/-- Reads the token at an index. Gives it with the number of its characters. -/
def tokenAt (chars : List Char) (i : Nat) : Option (Except Fault (Token × Nat)) := do
  let c ← chars[i]?
  match readSign? c chars[i + 1]? with
  | some (token, double) => some (.ok (token, 1 + double.toNat))
  | none =>
    if c == '"' || c == '\'' then
      match ← stringAt chars c (chars.length + 1) (i + 1) with
      | some (text, stop) => some (.ok (.str (String.ofList text), stop - i))
      | none => some (.error .unterminatedString)
    else if c == '$' then
      let name := (← sliceFrom? chars (i + 1)).takeWhile isNameChar
      some (if name.isEmpty then .error .emptyParameterName
        else .ok (.param (String.ofList name), name.length + 1))
    else if c.isDigit then numberAt chars i
    else if isNameStart c then
      let name := (← sliceFrom? chars i).takeWhile isNameChar
      some (.ok (.ident (String.ofList name), name.length))
    else some (.error (.unexpectedCharacter c))

/-- Reads the tokens from an index on. A character starts at the bytes of those before it. -/
def scanAt (chars : List Char) : (turns i : Nat) → Option (Except ParseError (List Lexeme))
  | 0, _ => none
  | turns + 1, i =>
    if i < chars.length then do
      let c ← chars[i]?
      if isBlank c then scanAt chars turns (i + 1)
      else
        let offset := byteWidth (chars.take i)
        match ← tokenAt chars i with
        | .error fault => some (.error (.noToken fault offset))
        | .ok (token, length) =>
          let source ← slice? chars i (i + length)
          let rest ← scanAt chars turns (i + length)
          some (rest.map (⟨token, offset, source⟩ :: ·))
    else some (.ok [])

/-! ### What it finds -/

theorem getElem?_eq_head?_drop (chars : List Char) (i : Nat) : chars[i]? = (chars.drop i).head? :=
  List.head?_drop.symm

theorem exists_drop_eq_cons (h : i < chars.length) :
    ∃ c, chars[i]? = some c ∧ chars.drop i = c :: chars.drop (i + 1) :=
  ⟨chars[i], List.getElem?_eq_getElem h, List.drop_eq_getElem_cons h⟩

/-- **A literal is read by index as it is read off its characters**, in one turn for each. -/
theorem stringAt_eq (hQuote : quote ≠ '\\') (hi : i ≤ chars.length)
    (hTurns : chars.length < turns + i) :
    stringAt chars quote turns i =
      some ((readString quote (chars.drop i)).map fun (text, n) => (text, i + n)) := by
  induction turns generalizing i with
  | zero => omega
  | succ turns ih =>
    rw [stringAt]
    by_cases hEnd : i < chars.length
    · obtain ⟨c, hGet, hDrop⟩ := exists_drop_eq_cons hEnd
      have hNext := ih (i := i + 1) hEnd (by omega)
      rw [if_pos hEnd, hGet, hDrop]
      by_cases hc : c = '\\'
      · subst hc
        by_cases hLast : i + 1 < chars.length
        · -- an escape of two characters
          obtain ⟨d, hGet', hDrop'⟩ := exists_drop_eq_cons hLast
          have hMore := ih (i := i + 2) hLast (by omega)
          rw [hGet', hDrop', readString]
          simp only [beq_self_eq_true, if_true, Option.bind_eq_bind, Option.bind_some, hMore]
          cases readString quote (chars.drop (i + 2)) with
          | none => rfl
          | some found => simp [Nat.add_assoc, Nat.add_comm 2]
        · have hNone : chars.drop (i + 1) = [] := List.drop_eq_nil_of_le (Nat.le_of_not_lt hLast)
          rw [hNone] at hNext
          rw [getElem?_eq_head?_drop, hNone, readString]
          simp [hNext, readString, Ne.symm hQuote]
      · have hNot : (c == '\\') = false := beq_eq_false_iff_ne.2 hc
        rw [readString_cons hc]
        simp only [hNot, Bool.false_eq_true, if_false, Option.bind_eq_bind, Option.bind_some]
        by_cases hClose : (c == quote) = true
        · rw [if_pos hClose, if_pos hClose]
          rfl
        · rw [if_neg hClose, if_neg hClose, hNext]
          cases readString quote (chars.drop (i + 1)) with
          | none => rfl
          | some found => simp [Nat.add_assoc, Nat.add_comm 1]
    · rw [if_neg hEnd, List.drop_eq_nil_of_le (Nat.le_of_not_lt hEnd), readString]
      rfl

theorem digitsAt_eq (h : i ≤ chars.length) :
    digitsAt chars i = some ((chars.drop i).takeWhile Char.isDigit).length := by
  rw [digitsAt, sliceFrom?_eq h]
  rfl

theorem drop_length_takeWhile (p : Char → Bool) (cs : List Char) :
    cs.drop (cs.takeWhile p).length = cs.dropWhile p :=
  calc cs.drop (cs.takeWhile p).length
      = (cs.takeWhile p ++ cs.dropWhile p).drop (cs.takeWhile p).length := by
        rw [List.takeWhile_append_dropWhile]
    _ = cs.dropWhile p := List.drop_left

theorem take_length_takeWhile (p : Char → Bool) (cs : List Char) :
    cs.take (cs.takeWhile p).length = cs.takeWhile p :=
  (List.prefix_iff_eq_take.1 (List.takeWhile_prefix p)).symm

theorem readFraction_cases (cs : List Char) :
    (∃ rest, cs = '.' :: rest ∧ cs[1]?.any Char.isDigit = true ∧
        readFraction cs = rest.takeWhile Char.isDigit ∧ (readFraction cs).isEmpty = false) ∨
      ¬(cs[0]? = some '.' ∧ cs[1]?.any Char.isDigit = true) ∧ readFraction cs = [] := by
  fun_cases readFraction cs with
  | case1 rest =>
    cases rest with
    | nil => exact Or.inr ⟨by simp, rfl⟩
    | cons d rest =>
      cases hd : d.isDigit with
      | true => exact Or.inl ⟨d :: rest, rfl, hd, rfl, by simp [hd]⟩
      | false => exact Or.inr ⟨by simp [hd], by simp [hd]⟩
  | case2 cs hNe =>
    refine Or.inr ⟨?_, rfl⟩
    rintro ⟨hPoint, _⟩
    cases cs with
    | nil => cases hPoint
    | cons c rest => exact hNe rest (by rw [Option.some.inj hPoint])

theorem take_fraction {cs rest : List Char} (h : cs.dropWhile Char.isDigit = '.' :: rest) :
    cs.take ((cs.takeWhile Char.isDigit).length + 1 + (rest.takeWhile Char.isDigit).length) =
      cs.takeWhile Char.isDigit ++ '.' :: rest.takeWhile Char.isDigit := by
  obtain ⟨whole, hWhole⟩ : ∃ whole, whole = cs.takeWhile Char.isDigit := ⟨_, rfl⟩
  have hSplit : cs = whole ++ '.' :: rest := by
    rw [hWhole, ← h, List.takeWhile_append_dropWhile]
  rw [← hWhole, hSplit, Nat.add_assoc, List.take_length_add_append, Nat.add_comm 1,
    List.take_succ_cons, take_length_takeWhile]

/-- **A number is read by index as it is read off its characters.** -/
theorem numberAt_eq (hi : i ≤ chars.length) :
    numberAt chars i = some (readNumber (chars.drop i)) := by
  obtain ⟨cs, hcs⟩ : ∃ cs, cs = chars.drop i := ⟨_, rfl⟩
  have hLength : cs.length = chars.length - i := by rw [hcs, List.length_drop]
  have hLe := length_takeWhile_le (p := Char.isDigit) cs
  have hAfter := drop_length_takeWhile Char.isDigit cs
  have hDigits : digitsAt chars i = some (cs.takeWhile Char.isDigit).length := by
    rw [digitsAt_eq hi, hcs]
  have hPoint : chars[i + (cs.takeWhile Char.isDigit).length]? =
      (cs.dropWhile Char.isDigit)[0]? := by
    rw [← hAfter, List.getElem?_drop, hcs, List.getElem?_drop, Nat.add_zero]
  have hDigit : chars[i + (cs.takeWhile Char.isDigit).length + 1]? =
      (cs.dropWhile Char.isDigit)[1]? := by
    rw [← hAfter, List.getElem?_drop, hcs, List.getElem?_drop, Nat.add_assoc]
  rw [numberAt, hDigits, ← hcs, readNumber]
  simp only [Option.bind_eq_bind, Option.bind_some, hPoint, hDigit]
  rcases readFraction_cases (cs.dropWhile Char.isDigit) with
    ⟨rest, hRest, hAny, hFraction, hSome⟩ | ⟨hNot, hNone⟩
  · -- the digits behind the point start at an index within the text
    have hBehind : chars.drop (i + (cs.takeWhile Char.isDigit).length + 1) = rest := by
      rw [Nat.add_assoc, ← List.drop_drop, ← hcs, ← List.drop_drop, hAfter, hRest]
      rfl
    have hFits : (cs.takeWhile Char.isDigit).length + 1 + (rest.takeWhile Char.isDigit).length ≤
        cs.length := by
      have hSplit := congrArg List.length hAfter
      have hRestLe := length_takeWhile_le (p := Char.isDigit) rest
      rw [hRest, List.length_cons, List.length_drop] at hSplit
      omega
    have hMore : digitsAt chars (i + (cs.takeWhile Char.isDigit).length + 1) =
        some (rest.takeWhile Char.isDigit).length := by
      rw [digitsAt_eq (by omega), hBehind]
    rw [if_pos ⟨by rw [hRest]; rfl, hAny⟩, hMore, if_neg (by simp [hSome])]
    simp only [Option.bind_some]
    rw [slice?_eq (by omega) (by omega), ← hcs, Nat.add_sub_cancel_left, take_fraction hRest,
      hFraction]
    simp only [Option.bind_some, List.take_left, List.drop_length_add_append, List.drop_succ_cons,
      List.drop_zero]
  · rw [if_neg hNot, slice?_eq (by omega) (by omega), ← hcs, Nat.add_sub_cancel_left,
      take_length_takeWhile, if_pos (by rw [hNone]; rfl)]
    rfl

theorem readNumber_pos {c : Char} {cs : List Char} {token : Token} {n : Nat}
    (hDigit : c.isDigit = true) (h : readNumber (c :: cs) = .ok (token, n)) : 0 < n := by
  have hWhole : 0 < ((c :: cs).takeWhile Char.isDigit).length := by
    rw [List.takeWhile_cons_of_pos hDigit]
    exact Nat.succ_pos _
  revert h
  fun_cases readNumber (c :: cs) with
  | case1 =>
    rintro ⟨⟩
    exact hWhole
  | case2 => rintro ⟨⟩
  | case3 whole fraction =>
    rintro ⟨⟩
    exact Nat.add_pos_left (Nat.succ_pos _) _

/-- **A token is read by index as it is read off its characters.** -/
theorem tokenAt_eq {c : Char} {cs : List Char} (hi : i < chars.length)
    (hDrop : chars.drop i = c :: cs) :
    tokenAt chars i = some ((readToken c cs).map fun (token, n) => (token, n + 1)) := by
  have hGet : chars[i]? = some c := by rw [getElem?_eq_head?_drop, hDrop, List.head?_cons]
  have hRest : chars.drop (i + 1) = cs := by
    rw [← List.drop_drop, hDrop, List.drop_one, List.tail_cons]
  have hNext : chars[i + 1]? = cs.head? := by rw [getElem?_eq_head?_drop, hRest]
  have hBehind : sliceFrom? chars (i + 1) = some cs := by rw [sliceFrom?_eq hi, hRest]
  have hString : (c == '"' || c == '\'') = true → stringAt chars c (chars.length + 1) (i + 1) =
      some ((readString c cs).map fun (text, n) => (text, i + 1 + n)) := by
    intro hQuote
    rw [stringAt_eq (quote_ne_backslash (by simpa using hQuote)) hi (by omega), hRest]
  rw [tokenAt, hGet, Option.bind_eq_bind, Option.bind_some, hNext]
  fun_cases readToken c cs with
  | case1 token double hSign => simp [hSign, Except.map, Nat.add_comm]
  | case2 hSign hQuote text n hRead =>
    have hStop : i + 1 + n - i = n + 1 := by omega
    simp [hSign, hQuote, hString hQuote, hRead, hStop, Except.map]
  | case3 hSign hQuote hRead => simp [hSign, hQuote, hString hQuote, hRead, Except.map]
  | case4 hSign hQuote hDollar name hName =>
    simp only [hSign, hQuote, hDollar, hBehind, Bool.false_eq_true, if_false, if_true,
      Option.bind_eq_bind, Option.bind_some]
    rw [if_pos hName]
    rfl
  | case5 hSign hQuote hDollar name hName =>
    simp only [hSign, hQuote, hDollar, hBehind, Bool.false_eq_true, if_false, if_true,
      Option.bind_eq_bind, Option.bind_some]
    rw [if_neg hName]
    rfl
  | case6 hSign hQuote hDollar hDigit =>
    have hNumber := numberAt_eq (Nat.le_of_lt hi)
    rw [hDrop] at hNumber
    simp only [hSign, hQuote, hDollar, hDigit, Bool.false_eq_true, if_false, if_true, hNumber]
    cases hRead : readNumber (c :: cs) with
    | error fault => rfl
    | ok found =>
      have hPos := readNumber_pos hDigit hRead
      have hBack : found.2 - 1 + 1 = found.2 := by omega
      simp only [Except.map, hBack]
  | case7 hSign hQuote hDollar hDigit hStart name =>
    have hWhole : sliceFrom? chars i = some (c :: cs) := by
      rw [sliceFrom?_eq (Nat.le_of_lt hi), hDrop]
    have hName : (c :: cs).takeWhile isNameChar = c :: name :=
      List.takeWhile_cons_of_pos (isNameChar_of_isNameStart hStart)
    simp [hSign, hQuote, hDollar, hDigit, hStart, hWhole, hName, Except.map]
  | case8 hSign hQuote hDollar hDigit hStart =>
    simp [hSign, hQuote, hDollar, hDigit, hStart, Except.map]

/-- **The reader by index finds what is found off the characters.** No index is out of range, and
one turn for each character and one more are enough. -/
theorem scanAt_eq (hi : i ≤ chars.length) (hTurns : chars.length < turns + i) :
    scanAt chars turns i = some (scan (byteWidth (chars.take i)) (chars.drop i)) := by
  induction turns generalizing i with
  | zero => omega
  | succ turns ih =>
    rw [scanAt]
    by_cases hEnd : i < chars.length
    · obtain ⟨c, hGet, hDrop⟩ := exists_drop_eq_cons hEnd
      rw [if_pos hEnd, hGet, hDrop, scan, Option.bind_eq_bind, Option.bind_some]
      cases hBlank : isBlank c with
      | true =>
        rw [if_pos rfl, if_pos rfl, ih hEnd (by omega), List.take_add_one, hGet, byteWidth_append]
        rfl
      | false =>
        rw [if_neg Bool.false_ne_true, if_neg Bool.false_ne_true, tokenAt_eq hEnd hDrop]
        cases hToken : readToken c (chars.drop (i + 1)) with
        | error fault => rfl
        | ok found =>
          obtain ⟨token, n⟩ := found
          have hLe := readToken_le hToken
          rw [List.length_drop] at hLe
          have hSource : (chars.drop i).take (n + 1) = c :: (chars.drop (i + 1)).take n := by
            rw [hDrop, List.take_succ_cons]
          have hRest : chars.drop (i + (n + 1)) = (chars.drop (i + 1)).drop n := by
            rw [List.drop_drop, Nat.add_assoc, Nat.add_comm 1]
          have hTake : chars.take (i + (n + 1)) =
              chars.take i ++ c :: (chars.drop (i + 1)).take n := by
            rw [List.take_add, hSource]
          have hSlice : slice? chars i (i + (n + 1)) = some (c :: (chars.drop (i + 1)).take n) := by
            rw [slice?_eq (by omega) (by omega), Nat.add_sub_cancel_left, hSource]
          have hMore := ih (i := i + (n + 1)) (by omega) (by omega)
          rw [hTake, byteWidth_append, hRest] at hMore
          simp only [Except.map, Option.bind_eq_bind, Option.bind_some, hSlice, hMore]
          cases scan (byteWidth (chars.take i) + byteWidth (c :: (chars.drop (i + 1)).take n))
            ((chars.drop (i + 1)).drop n) <;> rfl
    · have hNone : chars.drop i = [] := List.drop_eq_nil_of_le (Nat.le_of_not_lt hEnd)
      rw [if_neg hEnd, hNone, scan]

/-- **The tokens of a text are found by index**, within the text and in as many turns. -/
theorem scanAt_eq_tokenize (text : String) :
    scanAt text.toList (text.length + 1) 0 = some (tokenize text) :=
  scanAt_eq (Nat.zero_le _) (by rw [String.length_toList]; omega)

end CodeGraph.Query
