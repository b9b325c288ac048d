import Mathlib.Data.List.DropRight
import Mathlib.Data.List.Forall2
import CodeGraph.Json.Writer
import CodeGraph.Proofs.Json.Numbers

/-!
# Reading what was written

Both texts of a value, the compact and the indented, are read again: `ofText?_compact` and
`ofText?_indented` hold of every value, and give `reread`, the value in which every number is
replaced by what its own text is read as.  A whole number of 64 bits is read as itself
(`reread_integer`), and so is a double that reads back (`reread_double`).

`Reads cs value` says that a text is read as a value in the midst of another text.  An array is
read item by item and an object field by field, with blanks between the parts, so that one lemma
for each (`reads_array`, `reads_object`) serves both layouts.
-/

namespace CodeGraph

namespace Json

open Text

-- the equations of the readers, made once for all proofs below
attribute [local simp] joinUnits readUnits readValue readItems readFields

/-! ### Blanks -/

def Blank (cs : List Char) : Prop := ∀ c ∈ cs, isSpace c = true

theorem skipSpace_skipSpace (cs : List Char) : skipSpace (skipSpace cs) = skipSpace cs :=
  List.dropWhile_idempotent _ _

theorem skipSpace_append {blanks : List Char} (h : Blank blanks) (cs : List Char) :
    skipSpace (blanks ++ cs) = skipSpace cs :=
  List.dropWhile_append_of_pos h

theorem skipSpace_cons {c : Char} (h : isSpace c = false) (cs : List Char) :
    skipSpace (c :: cs) = c :: cs :=
  List.dropWhile_cons_of_neg (by simp [h])

theorem readValue_skipSpace (fuel : Nat) (cs : List Char) :
    readValue fuel (skipSpace cs) = readValue fuel cs := by
  cases fuel with
  | zero => rfl
  | succ fuel => rw [readValue, readValue, skipSpace_skipSpace]

theorem readItems_skipSpace (fuel : Nat) (cs : List Char) :
    readItems fuel (skipSpace cs) = readItems fuel cs := by
  cases fuel with
  | zero => rfl
  | succ fuel => rw [readItems, readItems, readValue_skipSpace]

theorem readFields_skipSpace (fuel : Nat) (cs : List Char) :
    readFields fuel (skipSpace cs) = readFields fuel cs := by
  cases fuel with
  | zero => rfl
  | succ fuel => rw [readFields, readFields, skipSpace_skipSpace]

theorem ends_append {blanks rest : List Char} (h : Blank blanks) (hRest : Ends rest) :
    Ends (blanks ++ rest) := by
  cases blanks with
  | nil => exact hRest
  | cons c blanks =>
    have hSpace := h c List.mem_cons_self
    simp only [isSpace, Bool.or_eq_true, beq_iff_eq] at hSpace
    refine ends_cons ?_
    rcases hSpace with ((rfl | rfl) | rfl) | rfl <;> decide

/-! ### Quoted texts -/

/-- The part of a quoted text that a character is read as. -/
def unitOf (c : Char) : Unit16 :=
  if c ≠ '\n' ∧ c ≠ '\r' ∧ c ≠ '\t' ∧ c ≠ '\x08' ∧ c ≠ '\x0c' ∧ c.toNat < 0x20 then .unit c.toNat
  else .char c

theorem joinUnits_unit {n : Nat} (h : n < 0xd800) (units : List Unit16) :
    joinUnits (.unit n :: units) = (joinUnits units).map (Char.ofNat n :: ·) := by
  have hLeading : ¬((decide (0xd800 ≤ n) && decide (n < 0xdc00)) = true) := by
    simp only [Bool.and_eq_true, decide_eq_true_eq]
    omega
  have hTrailing : ¬((decide (0xdc00 ≤ n) && decide (n < 0xe000)) = true) := by
    simp only [Bool.and_eq_true, decide_eq_true_eq]
    omega
  by_cases hNext : ∃ m rest, units = .unit m :: rest
  · obtain ⟨m, rest, rfl⟩ := hNext
    rw [joinUnits.eq_3, if_neg hLeading, if_neg hTrailing]
  · rw [joinUnits.eq_4 _ _ fun m rest h => hNext ⟨m, rest, h⟩, if_neg hLeading, if_neg hTrailing]

theorem joinUnits_unitOf (c : Char) (units : List Unit16) :
    joinUnits (unitOf c :: units) = (joinUnits units).map (c :: ·) := by
  rw [unitOf]
  split
  · next h =>
    have hChar : Char.ofNat c.toNat = c := Char.ofNat_toNat c
    rw [joinUnits_unit (by omega), hChar]
  · rfl

theorem bind_units (found : Option (List Unit16 × List Char)) (u : Unit16) :
    (do let (units, rest) ← found; some (u :: units, rest)) =
      found.map fun f => (u :: f.1, f.2) := by
  cases found <;> rfl

theorem readUnits_char {c : Char} (hControl : 0x20 ≤ c.toNat) (hQuote : c ≠ '"')
    (hBackslash : c ≠ '\\') (cs : List Char) :
    readUnits (c :: cs) = (readUnits cs).map fun found => (.char c :: found.1, found.2) := by
  have hPlain : (decide (c.toNat < 0x20) || c == '\\') = false := by
    simp only [hBackslash, beq_eq_false_iff_ne.2, Bool.or_false, decide_eq_false_iff_not, ne_eq,
      not_false_eq_true]
    omega
  rw [readUnits]
  · simp only [hPlain, Bool.false_eq_true, if_false]
    exact bind_units _ _
  · exact hQuote
  · intros
    exact hBackslash ‹_›
  · intros
    exact hBackslash ‹_›

theorem hexValue?_paddedHex {n : Nat} (h : n < 0x20) : ∃ a b c d,
    paddedHex 4 n = [a, b, c, d] ∧ hexValue? [a, b, c, d] = some n := by
  have hAll : ∀ n < 0x20, hexValue? (paddedHex 4 n) = some n := by decide
  have hLength : (paddedHex 4 n).length = 4 :=
    length_paddedHex (by decide) (Nat.lt_trans h (by decide))
  obtain ⟨a, b, c, d, hDigits⟩ := List.length_eq_four.1 hLength
  exact ⟨a, b, c, d, hDigits, hDigits ▸ hAll n h⟩

theorem readUnits_control {n : Nat} (h : n < 0x20) (cs : List Char) :
    readUnits ('\\' :: 'u' :: (paddedHex 4 n ++ cs)) =
      (readUnits cs).map fun found => (.unit n :: found.1, found.2) := by
  obtain ⟨a, b, c, d, hDigits, hValue⟩ := hexValue?_paddedHex h
  rw [hDigits]
  show readUnits ('\\' :: 'u' :: a :: b :: c :: d :: cs) = _
  rw [readUnits, hValue]
  exact bind_units _ _

theorem readUnits_escapedChar (c : Char) (cs : List Char) :
    readUnits (escapedChar c ++ cs) =
      (readUnits cs).map fun found => (unitOf c :: found.1, found.2) := by
  unfold escapedChar
  split
  case h_8 hQuote hBackslash hLine hReturn hTab hBack hFeed =>
    split
    · next hControl =>
      rw [unitOf, if_pos ⟨hLine, hReturn, hTab, hBack, hFeed, hControl⟩]
      exact readUnits_control hControl cs
    · next hControl =>
      rw [unitOf, if_neg fun h => hControl h.2.2.2.2.2]
      exact readUnits_char (Nat.le_of_not_lt hControl) hQuote hBackslash cs
  -- the escapes of one letter
  all_goals
    show readUnits ('\\' :: _ :: cs) = _
    rw [readUnits]
    exact bind_units _ _

/-- **A quoted text is read as it was.** -/
theorem readQuoted_quoted (s : String) (rest : List Char) :
    ∃ cs, quoted s ++ rest = '"' :: cs ∧ readQuoted cs = some (some s, rest) := by
  have hUnits : ∀ cs : List Char, readUnits (cs.flatMap escapedChar ++ '"' :: rest) =
      some (cs.map unitOf, rest) := by
    intro cs
    induction cs with
    | nil => rw [List.flatMap_nil, List.nil_append, readUnits, List.map_nil]
    | cons c cs ih =>
      rw [List.flatMap_cons, List.append_assoc, readUnits_escapedChar, ih]
      rfl
  have hJoin : ∀ cs : List Char, joinUnits (cs.map unitOf) = some cs := by
    intro cs
    induction cs with
    | nil => rfl
    | cons c cs ih => rw [List.map_cons, joinUnits_unitOf, ih, Option.map_some]
  refine ⟨s.toList.flatMap escapedChar ++ '"' :: rest, by simp [quoted], ?_⟩
  rw [readQuoted, hUnits]
  simp [hJoin]

/-! ### Texts in the midst of others -/

/-- A text is read as a value, whatever stands after it that does not go on with a number. -/
def Reads (cs : List Char) (value : Json) : Prop :=
  ∀ fuel rest, 2 * cs.length ≤ fuel → Ends rest → readValue fuel (cs ++ rest) = some (value, rest)

def ReadsField (cs : List Char) (field : String × Json) : Prop :=
  ∃ text, cs = quoted field.1 ++ ':' :: text ∧ Reads text field.2

theorem exists_fuel {c : Char} {cs : List Char} {fuel : Nat} (h : 2 * (c :: cs).length ≤ fuel) :
    ∃ k, fuel = k + 1 := by
  rw [List.length_cons] at h
  exact Nat.exists_eq_succ_of_ne_zero (by omega)

theorem Reads.ofChars? {cs : List Char} {value : Json} (h : Reads cs value) :
    ofChars? cs = some value := by
  have hRead := h (2 * cs.length + 2) [] (by omega) ends_nil
  rw [List.append_nil] at hRead
  rw [Json.ofChars?, hRead]
  rfl

theorem Reads.blank {c : Char} {cs : List Char} {value : Json} (h : Reads cs value)
    (hBlank : isSpace c = true) : Reads (c :: cs) value := by
  intro fuel rest hFuel hRest
  rw [List.length_cons] at hFuel
  have hSkip : skipSpace (c :: cs ++ rest) = skipSpace (cs ++ rest) :=
    List.dropWhile_cons_of_pos hBlank
  rw [← readValue_skipSpace, hSkip, readValue_skipSpace]
  exact h fuel rest (by omega) hRest

/-! ### Values without parts -/

theorem isSpace_of_isDigit {c : Char} (h : c.isDigit = true) : isSpace c = false := by
  refine Bool.eq_false_iff.2 fun hSpace => ?_
  simp only [isSpace, Bool.or_eq_true, beq_iff_eq] at hSpace
  rcases hSpace with ((rfl | rfl) | rfl) | rfl <;> exact absurd h (by decide)

theorem readValue_digit {c : Char} (h : c.isDigit = true) (fuel : Nat) (cs : List Char) :
    readValue (fuel + 1) (c :: cs) = readNumber false (c :: cs) := by
  rw [readValue, skipSpace_cons (isSpace_of_isDigit h)]
  split <;> first | rfl | (rename_i hc; cases hc; exact absurd h (by decide))

theorem exists_digit_of_readNumber {negative : Bool} {cs : List Char} {found : Json × List Char}
    (h : readNumber negative cs = some found) : ∃ c rest, cs = c :: rest ∧ c.isDigit = true := by
  cases cs with
  | nil => cases h
  | cons c rest =>
    refine ⟨c, rest, rfl, ?_⟩
    by_cases hc : c.isDigit = true
    · exact hc
    · have hNone : readDigits (c :: rest) = none := by
        rw [readDigits, List.takeWhile_cons_of_neg hc]
        rfl
      rw [readNumber, hNone] at h
      cases h

def sign (negative : Bool) : List Char := if negative then ['-'] else []

theorem reads_number {negative : Bool} {cs : List Char} {value : Json}
    (h : ∀ rest, Ends rest → readNumber negative (cs ++ rest) = some (value, rest)) :
    Reads (sign negative ++ cs) value := by
  obtain ⟨c, tail, hHead, hDigit⟩ := exists_digit_of_readNumber (h [] ends_nil)
  rw [List.append_nil] at hHead
  intro fuel rest hFuel hRest
  obtain ⟨fuel, rfl⟩ : ∃ k, fuel = k + 1 := by
    refine Nat.exists_eq_succ_of_ne_zero ?_
    rw [List.length_append, hHead, List.length_cons] at hFuel
    omega
  cases negative with
  | true =>
    show readValue (fuel + 1) ('-' :: (cs ++ rest)) = _
    rw [readValue, skipSpace_cons (by decide)]
    exact h rest hRest
  | false =>
    have hRead := h rest hRest
    rw [hHead, List.cons_append] at hRead
    show readValue (fuel + 1) (cs ++ rest) = _
    rw [hHead, List.cons_append, readValue_digit hDigit, hRead]

theorem signedDecimal_eq (i : Int) :
    signedDecimal i = sign (decide (i < 0)) ++ decimal i.natAbs := by
  rw [signedDecimal, sign]
  by_cases h : i < 0 <;> simp [h]

/-- **The text of a whole number of 64 bits is read as that number.** -/
theorem reads_integer {i : Int} (h : InRange i) : Reads (integer i).compactChars (integer i) := by
  rw [compactChars, signedDecimal_eq]
  refine reads_number fun rest hRest => ?_
  rw [readNumber_integer _ (isWhole_decimal _) hRest, value_decimal h]

theorem reads_string (s : String) : Reads (string s).compactChars (string s) := by
  intro fuel rest hFuel _
  obtain ⟨cs, hText, hRead⟩ := readQuoted_quoted s rest
  obtain ⟨fuel, rfl⟩ := exists_fuel (show 2 * ('"' :: _).length ≤ fuel from hFuel)
  rw [compactChars, hText, readValue, skipSpace_cons (by decide)]
  simp only [hRead, Option.map_some, Option.getD_some]

theorem reads_word {word : List Char} {value : Json} (hWord : 0 < word.length)
    (h : ∀ fuel rest, readValue (fuel + 1) (word ++ rest) = some (value, rest)) :
    Reads word value := by
  intro fuel rest hFuel _
  obtain ⟨fuel, rfl⟩ : ∃ k, fuel = k + 1 := Nat.exists_eq_succ_of_ne_zero (by omega)
  exact h fuel rest

theorem reads_null : Reads null.compactChars null :=
  reads_word (by decide) fun fuel rest => by
    rw [readValue]
    rfl

theorem reads_bool (b : Bool) : Reads (bool b).compactChars (bool b) := by
  cases b <;> exact reads_word (by decide) fun fuel rest => by
    rw [readValue]
    rfl

/-! ### Arrays and objects -/

theorem skipSpace_blank {blanks : List Char} (h : Blank blanks) {c : Char} (hc : isSpace c = false)
    (cs : List Char) : skipSpace (blanks ++ c :: cs) = c :: cs := by
  rw [skipSpace_append h, skipSpace_cons hc]

theorem joined_cons_cons (separator part next : List Char) (parts : List (List Char)) :
    joined separator (part :: next :: parts) =
      part ++ separator ++ joined separator (next :: parts) := rfl

/-- A reader of parts, as the items of an array and the fields of an object are: it reads one part,
and then either the separator and the others or the end. -/
structure ReadsParts {α β : Type} (read : Nat → List Char → Option (List β × List Char))
    (IsPart : List Char → α → Prop) (give : α → β) (close : Char) : Prop where
  skip (fuel : Nat) (cs : List Char) : read fuel (skipSpace cs) = read fuel cs
  next {part after cs rest : List Char} {x : α} {found : List β} {fuel : Nat} :
    IsPart part x → 2 * part.length ≤ fuel → Ends after → skipSpace after = ',' :: cs →
      read fuel cs = some (found, rest) →
      read (fuel + 1) (part ++ after) = some (give x :: found, rest)
  last {part after cs : List Char} {x : α} {fuel : Nat} :
    IsPart part x → 2 * part.length ≤ fuel → Ends after → skipSpace after = close :: cs →
      read (fuel + 1) (part ++ after) = some ([give x], cs)
  isSpace_close : isSpace close = false
  ends_close (rest : List Char) : Ends (close :: rest)

section Parts

variable {α β : Type} {read : Nat → List Char → Option (List β × List Char)}
  {IsPart : List Char → α → Prop} {give : α → β} {close : Char} {pad tail : List Char}

theorem ReadsParts.read_joined_cons (hRead : ReadsParts read IsPart give close) (hPad : Blank pad)
    (hTail : Blank tail) {parts : List (List Char)} {xs : List α}
    (h : List.Forall₂ IsPart parts xs) (rest : List Char) :
    ∀ {part x}, IsPart part x → ∀ {fuel},
      2 * (joined (',' :: pad) (part :: parts)).length < fuel →
      read fuel (joined (',' :: pad) (part :: parts) ++ (tail ++ close :: rest)) =
        some ((x :: xs).map give, rest) := by
  induction h with
  | nil =>
    intro part x hPart fuel hFuel
    obtain ⟨fuel, rfl⟩ := Nat.exists_eq_succ_of_ne_zero (Nat.ne_zero_of_lt hFuel)
    rw [joined] at hFuel ⊢
    exact hRead.last hPart (by omega) (ends_append hTail (hRead.ends_close rest))
      (skipSpace_blank hTail hRead.isSpace_close rest)
  | @cons next x' parts xs hNext _ ih =>
    intro part x hPart fuel hFuel
    obtain ⟨fuel, rfl⟩ := Nat.exists_eq_succ_of_ne_zero (Nat.ne_zero_of_lt hFuel)
    rw [joined_cons_cons] at hFuel ⊢
    simp only [List.length_append, List.length_cons] at hFuel
    have hRest := ih hNext (show 2 * (joined (',' :: pad) (next :: parts)).length < fuel by omega)
    have hSkip : read fuel (pad ++ (joined (',' :: pad) (next :: parts) ++
        (tail ++ close :: rest))) = some ((x' :: xs).map give, rest) := by
      rw [← hRead.skip, skipSpace_append hPad, hRead.skip, hRest]
    simp only [List.append_assoc, List.cons_append]
    exact hRead.next hPart (by omega) (ends_cons (by decide)) (skipSpace_cons (by decide) _) hSkip

theorem ReadsParts.read_joined (hRead : ReadsParts read IsPart give close) (hPad : Blank pad)
    (hTail : Blank tail) {parts : List (List Char)} {xs : List α} (hParts : parts ≠ [])
    (h : List.Forall₂ IsPart parts xs) (rest : List Char) {fuel : Nat}
    (hFuel : 2 * (joined (',' :: pad) parts).length < fuel) :
    read fuel (pad ++ joined (',' :: pad) parts ++ tail ++ [close] ++ rest) =
      some (xs.map give, rest) := by
  cases h with
  | nil => exact absurd rfl hParts
  | cons hPart hRest =>
    simp only [List.append_assoc, List.cons_append, List.nil_append]
    rw [← hRead.skip, skipSpace_append hPad, hRead.skip]
    exact hRead.read_joined_cons hPad hTail hRest rest hPart hFuel

end Parts

section Items

variable {part after cs rest : List Char} {value : Json} {values : List Json} {fuel : Nat}

theorem readItems_next (h : Reads part value) (hFuel : 2 * part.length ≤ fuel) (hAfter : Ends after)
    (hNext : skipSpace after = ',' :: cs) (hRest : readItems fuel cs = some (values, rest)) :
    readItems (fuel + 1) (part ++ after) = some (value :: values, rest) := by
  rw [readItems, h fuel after hFuel hAfter]
  simp only [Option.bind_eq_bind, Option.bind_some, hNext, hRest]

theorem readItems_last (h : Reads part value) (hFuel : 2 * part.length ≤ fuel) (hAfter : Ends after)
    (hEnd : skipSpace after = ']' :: cs) :
    readItems (fuel + 1) (part ++ after) = some ([value], cs) := by
  rw [readItems, h fuel after hFuel hAfter]
  simp only [Option.bind_eq_bind, Option.bind_some, hEnd]

theorem readItems_close (fuel : Nat) (cs : List Char) : readItems fuel (']' :: cs) = none := by
  cases fuel with
  | zero => rfl
  | succ fuel =>
    cases fuel with
    | zero => rfl
    | succ fuel =>
      rw [readItems, readValue, skipSpace_cons (by decide)]
      rfl

theorem readValue_array (h : readItems fuel cs = some (values, rest)) :
    readValue (fuel + 1) ('[' :: cs) = some (array values, rest) := by
  have hItems : readItems fuel (skipSpace cs) = some (values, rest) := by
    rw [readItems_skipSpace, h]
  rw [readValue, skipSpace_cons (by decide)]
  split
  case h_5 _ hBracket =>
    cases hBracket
    split
    · next hClose =>
      rw [hClose, readItems_close] at hItems
      cases hItems
    · rw [hItems, Option.map_some]
  case h_8 hNot _ _ => exact absurd rfl (hNot cs)
  all_goals next h => cases h

end Items

theorem readsParts_items : ReadsParts readItems Reads id ']' where
  skip := readItems_skipSpace
  next := readItems_next
  last := readItems_last
  isSpace_close := by decide
  ends_close _ := ends_cons (by decide)

variable {pad tail : List Char}

/-- **An array is read item by item.** -/
theorem reads_array (hPad : Blank pad) (hTail : Blank tail) {parts : List (List Char)}
    {values : List Json} (hParts : parts ≠ []) (h : List.Forall₂ Reads parts values) :
    Reads ('[' :: (pad ++ joined (',' :: pad) parts ++ tail ++ [']'])) (array values) := by
  intro fuel rest hFuel _
  obtain ⟨fuel, rfl⟩ := exists_fuel hFuel
  simp only [List.length_cons, List.length_append] at hFuel
  have hItems : readItems fuel _ = some (values.map id, rest) :=
    readsParts_items.read_joined hPad hTail hParts h rest (by omega)
  rw [List.map_id] at hItems
  exact readValue_array hItems

theorem reads_empty_array : Reads ['[', ']'] (array []) :=
  reads_word (by decide) fun fuel rest => by
    show readValue (fuel + 1) ('[' :: ']' :: rest) = _
    rw [readValue, skipSpace_cons (by decide)]
    rfl

section Fields

variable {part after cs rest : List Char} {field : String × Json}
  {fields : List (Option String × Json)} {fuel : Nat}

theorem readField_parts (h : ReadsField part field) (hFuel : 2 * part.length ≤ fuel)
    (hAfter : Ends after) : ∃ name value, part ++ after = '"' :: name ∧
      readQuoted name = some (some field.1, ':' :: value) ∧
      readValue fuel value = some (field.2, after) := by
  obtain ⟨text, rfl, hText⟩ := h
  obtain ⟨name, hName, hRead⟩ := readQuoted_quoted field.1 (':' :: (text ++ after))
  refine ⟨name, text ++ after, ?_, hRead, hText fuel after ?_ hAfter⟩
  · rw [List.append_assoc, List.cons_append, hName]
  · simp only [List.length_append, List.length_cons] at hFuel
    omega

theorem readFields_next (h : ReadsField part field) (hFuel : 2 * part.length ≤ fuel)
    (hAfter : Ends after) (hNext : skipSpace after = ',' :: cs)
    (hRest : readFields fuel cs = some (fields, rest)) :
    readFields (fuel + 1) (part ++ after) = some ((some field.1, field.2) :: fields, rest) := by
  obtain ⟨name, value, hName, hColon, hValue⟩ := readField_parts h hFuel hAfter
  rw [hName, readFields, skipSpace_cons (by decide)]
  simp only [Option.bind_eq_bind, hColon, Option.bind_some, skipSpace_cons (c := ':') (by decide),
    hValue, hNext, hRest]

theorem readFields_last (h : ReadsField part field) (hFuel : 2 * part.length ≤ fuel)
    (hAfter : Ends after) (hEnd : skipSpace after = '\x7d' :: cs) :
    readFields (fuel + 1) (part ++ after) = some ([(some field.1, field.2)], cs) := by
  obtain ⟨name, value, hName, hColon, hValue⟩ := readField_parts h hFuel hAfter
  rw [hName, readFields, skipSpace_cons (by decide)]
  simp only [Option.bind_eq_bind, hColon, Option.bind_some, skipSpace_cons (c := ':') (by decide),
    hValue, hEnd]

theorem readFields_close (fuel : Nat) (cs : List Char) : readFields fuel ('\x7d' :: cs) = none := by
  cases fuel with
  | zero => rfl
  | succ fuel =>
    rw [readFields, skipSpace_cons (by decide)]
    rfl

theorem readValue_object (h : readFields fuel cs = some (fields, rest)) :
    readValue (fuel + 1) ('\x7b' :: cs) = some (ofFields fields, rest) := by
  have hFields : readFields fuel (skipSpace cs) = some (fields, rest) := by
    rw [readFields_skipSpace, h]
  rw [readValue, skipSpace_cons (by decide)]
  split
  case h_6 _ hBrace =>
    cases hBrace
    split
    · next hClose =>
      rw [hClose, readFields_close] at hFields
      cases hFields
    · rw [hFields, Option.map_some]
  case h_8 hNot _ => exact absurd rfl (hNot cs)
  all_goals next h => cases h

end Fields

def named (field : String × Json) : Option String × Json := (some field.1, field.2)

theorem ofFields_named (fields : List (String × Json)) :
    ofFields (fields.map named) = object fields := by
  have hNames : (fields.map named).mapM (fun field => field.1.map (·, field.2)) = some fields := by
    induction fields with
    | nil => rfl
    | cons field fields ih =>
      rw [List.map_cons, List.mapM_cons, ih]
      rfl
  rw [ofFields, hNames]

theorem readsParts_fields : ReadsParts readFields ReadsField named '\x7d' where
  skip := readFields_skipSpace
  next := readFields_next
  last := readFields_last
  isSpace_close := by decide
  ends_close _ := ends_cons (by decide)

/-- **An object is read field by field.** -/
theorem reads_object (hPad : Blank pad) (hTail : Blank tail) {parts : List (List Char)}
    {fields : List (String × Json)} (hParts : parts ≠ [])
    (h : List.Forall₂ ReadsField parts fields) :
    Reads ('\x7b' :: (pad ++ joined (',' :: pad) parts ++ tail ++ ['\x7d'])) (object fields) := by
  intro fuel rest hFuel _
  obtain ⟨fuel, rfl⟩ := exists_fuel hFuel
  simp only [List.length_cons, List.length_append] at hFuel
  have hFields : readFields fuel _ = some (fields.map named, rest) :=
    readsParts_fields.read_joined hPad hTail hParts h rest (by omega)
  rw [← ofFields_named]
  exact readValue_object hFields

theorem reads_empty_object : Reads ['\x7b', '\x7d'] (object []) :=
  reads_word (by decide) fun fuel rest => by
    show readValue (fuel + 1) ('\x7b' :: '\x7d' :: rest) = _
    rw [readValue, skipSpace_cons (by decide)]
    rfl

/-! ### Whole values -/

/-- What the text of a number is read as. -/
def readBack (value : Json) : Json := (ofChars? value.compactChars).getD broken

mutual

/-- The value with every number replaced by what its own text is read as. -/
def reread : Json → Json
  | integer i => readBack (integer i)
  | double x => readBack (double x)
  | array items => array (rereadItems items)
  | object fields => object (rereadFields fields)
  | broken => null
  | value => value

def rereadItems : List Json → List Json
  | [] => []
  | value :: rest => value.reread :: rereadItems rest

def rereadFields : List (String × Json) → List (String × Json)
  | [] => []
  | (name, value) :: rest => (name, value.reread) :: rereadFields rest

end

theorem reads_readBack {value value' : Json} (h : Reads value.compactChars value') :
    Reads value.compactChars value.readBack := by
  rw [readBack, h.ofChars?]
  exact h

theorem reads_sign_isNumber {cs : List Char} (h : IsNumber cs) (negative : Bool) :
    ∃ value, Reads (sign negative ++ cs) value := by
  obtain ⟨value, hRead⟩ := h negative
  exact ⟨value, reads_number hRead⟩

theorem reads_readBack_integer (i : Int) :
    Reads (integer i).compactChars (integer i).readBack := by
  obtain ⟨value, hRead⟩ := reads_sign_isNumber (isNumber_decimal i.natAbs) (decide (i < 0))
  refine @reads_readBack _ value ?_
  rw [compactChars, signedDecimal_eq]
  exact hRead

theorem reads_readBack_double (x : Double) : Reads (double x).compactChars (double x).readBack := by
  by_cases hFinite : x.isFinite = true
  · obtain ⟨cs, hNumber, hText⟩ := exists_isNumber hFinite
    obtain ⟨value, hRead⟩ := reads_sign_isNumber hNumber x.negative
    refine @reads_readBack _ value ?_
    rw [compactChars, hText]
    exact hRead
  · -- neither an infinity nor what is no number has a text of its own
    have hText : (double x).compactChars = null.compactChars := by
      show Double.Layout.json.chars x = _
      rw [Double.Layout.chars]
      by_cases hNumber : x.isNaN = true
      · rw [if_pos hNumber]
        rfl
      · rw [if_neg hNumber, if_pos (by simpa using hFinite)]
        rfl
    refine @reads_readBack _ null ?_
    rw [hText]
    exact reads_null

theorem readsField {name : String} {text : List Char} {value : Json} (h : Reads text value) :
    ReadsField (quoted name ++ ':' :: text) (name, value) := ⟨text, rfl, h⟩

theorem blank_nil : Blank [] := fun _ h => absurd h List.not_mem_nil

theorem blank_newline (depth : Nat) : Blank (newline depth) := by
  intro c h
  rcases List.mem_cons.1 h with rfl | h
  · rfl
  · rw [List.eq_of_mem_replicate h]
    rfl

mutual

/-- **The compact text of a value is read as the value reread.** -/
theorem reads_compact : ∀ value : Json, Reads value.compactChars value.reread
  | null => reads_null
  | bool b => reads_bool b
  | integer i => reads_readBack_integer i
  | double x => reads_readBack_double x
  | string s => reads_string s
  | broken => reads_null
  | array [] => reads_empty_array
  | array (value :: items) => by
    have hParts : compactItems (value :: items) ≠ [] := List.cons_ne_nil _ _
    have hRead := reads_array blank_nil blank_nil hParts (reads_compactItems (value :: items))
    rwa [List.nil_append, List.append_nil] at hRead
  | object [] => reads_empty_object
  | object (field :: fields) => by
    have hParts : compactFields (field :: fields) ≠ [] := List.cons_ne_nil _ _
    have hRead := reads_object blank_nil blank_nil hParts (reads_compactFields (field :: fields))
    rwa [List.nil_append, List.append_nil] at hRead

theorem reads_compactItems : ∀ items : List Json,
    List.Forall₂ Reads (compactItems items) (rereadItems items)
  | [] => .nil
  | value :: items => .cons (reads_compact value) (reads_compactItems items)

theorem reads_compactFields : ∀ fields : List (String × Json),
    List.Forall₂ ReadsField (compactFields fields) (rereadFields fields)
  | [] => .nil
  | (_, value) :: fields => .cons (readsField (reads_compact value)) (reads_compactFields fields)

end

theorem block_of_ne_nil (depth : Nat) (left right : Char) {parts : List (List Char)}
    (h : parts ≠ []) : block depth left right parts =
      left :: (newline (depth + 1) ++ joined (',' :: newline (depth + 1)) parts ++
        newline depth ++ [right]) := by
  rw [block, if_neg (by simpa using h)]

mutual

/-- **The indented text of a value is read as the value reread.** -/
theorem reads_indented : ∀ (depth : Nat) (value : Json),
    Reads (value.indentedChars depth) value.reread
  | _, null => reads_null
  | _, bool b => reads_bool b
  | _, integer i => reads_readBack_integer i
  | _, double x => reads_readBack_double x
  | _, string s => reads_string s
  | _, broken => reads_null
  | _, array [] => reads_empty_array
  | depth, array (value :: items) => by
    have hParts : indentedItems (depth + 1) (value :: items) ≠ [] := List.cons_ne_nil _ _
    have hRead := reads_array (blank_newline (depth + 1)) (blank_newline depth) hParts
      (reads_indentedItems (depth + 1) (value :: items))
    rw [← block_of_ne_nil depth '[' ']' hParts] at hRead
    exact hRead
  | _, object [] => reads_empty_object
  | depth, object (field :: fields) => by
    have hParts : indentedFields (depth + 1) (field :: fields) ≠ [] := List.cons_ne_nil _ _
    have hRead := reads_object (blank_newline (depth + 1)) (blank_newline depth) hParts
      (reads_indentedFields (depth + 1) (field :: fields))
    rw [← block_of_ne_nil depth '\x7b' '\x7d' hParts] at hRead
    exact hRead

theorem reads_indentedItems : ∀ (depth : Nat) (items : List Json),
    List.Forall₂ Reads (indentedItems depth items) (rereadItems items)
  | _, [] => .nil
  | depth, value :: items => .cons (reads_indented depth value) (reads_indentedItems depth items)

theorem reads_indentedFields : ∀ (depth : Nat) (fields : List (String × Json)),
    List.Forall₂ ReadsField (indentedFields depth fields) (rereadFields fields)
  | _, [] => .nil
  | depth, (_, value) :: fields =>
    .cons (readsField ((reads_indented depth value).blank rfl)) (reads_indentedFields depth fields)

end

theorem ofText?_compact (value : Json) : ofText? value.compact = some value.reread := by
  rw [ofText?, compact, String.toList_ofList]
  exact (reads_compact value).ofChars?

theorem ofText?_indented (value : Json) : ofText? value.indented = some value.reread := by
  rw [ofText?, indented, String.toList_ofList]
  exact (reads_indented 0 value).ofChars?

/-! ### Values that come back -/

@[simp] theorem reread_null : null.reread = null := rfl

@[simp] theorem reread_bool (b : Bool) : (bool b).reread = bool b := rfl

@[simp] theorem reread_string (s : String) : (string s).reread = string s := rfl

@[simp] theorem reread_array (items : List Json) :
    (array items).reread = array (items.map reread) := by
  have hItems : rereadItems items = items.map reread := by
    induction items with
    | nil => rfl
    | cons value items ih => rw [rereadItems, ih, List.map_cons]
  rw [reread, hItems]

@[simp] theorem reread_object (fields : List (String × Json)) :
    (object fields).reread = object (fields.map fun field => (field.1, field.2.reread)) := by
  have hFields : rereadFields fields = fields.map fun field => (field.1, field.2.reread) := by
    induction fields with
    | nil => rfl
    | cons field fields ih => rw [rereadFields, ih, List.map_cons]
  rw [reread, hFields]

theorem reread_integer {i : Int} (h : InRange i) : (integer i).reread = integer i := by
  rw [reread, readBack, (reads_integer h).ofChars?, Option.getD_some]

end Json

/-- A double that its own text is read as. -/
def Double.ReadsBack (x : Double) : Prop := Json.ofText? (Json.double x).compact = some (.double x)

/-- Only a double reads back as one, so that the double in the value can be compared. -/
theorem Double.readsBack_iff {x : Double} : x.ReadsBack ↔
    ((Json.ofChars? (Layout.json.chars x)).bind fun
      | .double y => some y
      | _ => none) = some x := by
  rw [ReadsBack, Json.ofText?, Json.compact, String.toList_ofList, Json.compactChars]
  constructor
  · intro h
    rw [h]
    rfl
  · intro h
    obtain ⟨value, hRead, hDouble⟩ := Option.bind_eq_some_iff.1 h
    cases value with
    | double y => rw [hRead, Option.some.inj hDouble]
    | _ => cases hDouble

instance (x : Double) : Decidable x.ReadsBack := decidable_of_iff _ Double.readsBack_iff.symm

theorem Json.reread_double {x : Double} (h : x.ReadsBack) : (double x).reread = double x := by
  rw [Double.ReadsBack, ofText?_compact] at h
  exact Option.some.inj h

end CodeGraph
