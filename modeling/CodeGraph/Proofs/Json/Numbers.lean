import CodeGraph.Double.Text
import CodeGraph.Json.Reader

/-!
# Texts of numbers

A number that is written is read again, whatever stands after it as long as that does not go on
with the number (`Ends`).  The text of a whole number is its digits, of which the first is no zero
unless it is the only one (`isWhole_decimal`).  The text of a finite double is laid out in one of
four ways; `exists_isNumber` says that all of them are texts of numbers, of which nothing is left
over.

What number is read is another question.  A whole number of 64 bits is read as itself
(`value_decimal`).  A double is put together in one step of arithmetic, and comes back only if that
step rounds the right way.
-/

namespace CodeGraph

namespace Text

theorem isDigit_of_mem_decimal {n : Nat} {c : Char} (h : c ∈ decimal n) : c.isDigit = true :=
  Nat.isDigit_of_mem_toDigits (by decide) (by decide) h

theorem decimal_ne_nil (n : Nat) : decimal n ≠ [] := Nat.toDigits_ne_nil

theorem eq_zero_of_head?_decimal {n : Nat} (h : (decimal n).head? = some '0') : n = 0 := by
  induction n using Nat.strongRecOn with
  | ind n ih =>
    rw [decimal, Nat.toDigits_eq_if (by decide)] at h
    split at h
    · simpa using h
    · next hLarge =>
      have hHead : (decimal (n / 10)).head? = some '0' := by
        rw [List.head?_append] at h
        cases hDigits : (decimal (n / 10)).head? with
        | none => exact absurd (List.head?_eq_none_iff.1 hDigits) (decimal_ne_nil _)
        | some c =>
          rw [decimal] at hDigits
          rwa [hDigits] at h
      have hZero := ih (n / 10) (by omega) hHead
      omega

end Text

namespace Json

open Text

/-! ### Parts of numbers -/

/-- What may stand after a number: nothing that goes on with it. -/
def Ends (rest : List Char) : Prop :=
  ∀ c, rest.head? = some c → c.isDigit = false ∧ c ≠ '.' ∧ c ≠ 'e' ∧ c ≠ 'E'

theorem ends_nil : Ends [] := by
  intro c h
  cases h

theorem ends_cons {c : Char} {rest : List Char}
    (h : c.isDigit = false ∧ c ≠ '.' ∧ c ≠ 'e' ∧ c ≠ 'E') : Ends (c :: rest) := by
  intro d hd
  cases hd
  exact h

theorem Ends.no_digit {rest : List Char} (h : Ends rest) :
    ∀ c, rest.head? = some c → c.isDigit = false := fun c hc => (h c hc).1

theorem no_digit_cons {c : Char} (h : c.isDigit = false) (rest : List Char) :
    ∀ d, (c :: rest).head? = some d → d.isDigit = false := by
  intro d hd
  cases hd
  exact h

/-- Digits, and at least one. -/
structure IsDigits (ds : List Char) : Prop where
  digit : ∀ c ∈ ds, c.isDigit = true
  ne_nil : ds ≠ []

/-- Digits that the whole part of a number may consist of: a zero does not stand before others. -/
structure IsWhole (ds : List Char) : Prop extends IsDigits ds where
  head : ds.head? = some '0' → ds.length = 1

theorem isDigits_decimal (n : Nat) : IsDigits (decimal n) :=
  ⟨fun _ h => isDigit_of_mem_decimal h, decimal_ne_nil n⟩

theorem isWhole_decimal (n : Nat) : IsWhole (decimal n) := by
  refine { isDigits_decimal n with head := fun h => ?_ }
  rw [eq_zero_of_head?_decimal h]
  rfl

theorem readDigits_append {ds rest : List Char} (h : IsDigits ds)
    (hEnd : ∀ c, rest.head? = some c → c.isDigit = false) :
    readDigits (ds ++ rest) = some (ds, rest) := by
  have hTake : rest.takeWhile Char.isDigit = [] := by
    cases rest with
    | nil => rfl
    | cons c rest => exact List.takeWhile_cons_of_neg (by simp [hEnd c rfl])
  have hDrop : rest.dropWhile Char.isDigit = rest := by
    cases rest with
    | nil => rfl
    | cons c rest => exact List.dropWhile_cons_of_neg (by simp [hEnd c rfl])
  have hNe : ds.isEmpty = false := by simpa using h.ne_nil
  rw [readDigits, List.takeWhile_append_of_pos h.digit, List.dropWhile_append_of_pos h.digit, hTake,
    hDrop, List.append_nil]
  simp only [hNe, Bool.false_eq_true, if_false]

theorem readFraction_of_ends {rest : List Char} (h : Ends rest) :
    readFraction rest = some ([], rest) := by
  rw [readFraction]
  rintro cs rfl
  exact (h '.' rfl).2.1 rfl

theorem readExponent_of_ends {rest : List Char} (h : Ends rest) :
    readExponent rest = some (none, rest) := by
  cases rest with
  | nil => rfl
  | cons c rest =>
    obtain ⟨_, _, he, hE⟩ := h c rfl
    have hMark : (c == 'e' || c == 'E') = false := by simp [he, hE]
    simp only [readExponent, hMark, Bool.false_eq_true, if_false]

def exponentSign (negative : Bool) : Char := if negative then '-' else '+'

theorem readExponent_mark {negative : Bool} {ds rest : List Char} (hDigits : IsDigits ds)
    (h : Ends rest) :
    readExponent ('e' :: exponentSign negative :: (ds ++ rest)) =
      some (some (negative, ds), rest) := by
  have hRead := readDigits_append hDigits h.no_digit
  cases negative <;> simp [readExponent, exponentSign, hRead]

variable (negative : Bool) {whole fraction exponent rest : List Char}

theorem readNumber_whole {cs : List Char} {f : List Char × List Char}
    {e : Option (Bool × List Char) × List Char} (hWhole : IsWhole whole)
    (hEnd : ∀ c, cs.head? = some c → c.isDigit = false) (hFraction : readFraction cs = some f)
    (hExponent : readExponent f.2 = some e) :
    readNumber negative (whole ++ cs) = some (Numeral.value ⟨negative, whole, f.1, e.1⟩, e.2) := by
  have hLeading : (whole.head? == some '0' && whole.length != 1) = false := by
    by_cases hZero : whole.head? = some '0'
    · simp [hWhole.head hZero]
    · simp [hZero]
  simp only [readNumber, readDigits_append hWhole.toIsDigits hEnd, hFraction, hExponent, hLeading,
    Option.bind_eq_bind, Option.bind_some, Bool.false_eq_true, if_false]

theorem readNumber_integer (hWhole : IsWhole whole) (h : Ends rest) :
    readNumber negative (whole ++ rest) =
      some (Numeral.value ⟨negative, whole, [], none⟩, rest) :=
  readNumber_whole negative hWhole h.no_digit (readFraction_of_ends h)
    (readExponent_of_ends h)

theorem readFraction_dot (hFraction : IsDigits fraction)
    (h : ∀ c, rest.head? = some c → c.isDigit = false) :
    readFraction ('.' :: (fraction ++ rest)) = some (fraction, rest) :=
  readDigits_append hFraction h

theorem readNumber_fraction (hWhole : IsWhole whole) (hFraction : IsDigits fraction)
    (h : Ends rest) :
    readNumber negative (whole ++ '.' :: (fraction ++ rest)) =
      some (Numeral.value ⟨negative, whole, fraction, none⟩, rest) :=
  readNumber_whole negative hWhole (no_digit_cons (by decide) _)
    (readFraction_dot hFraction h.no_digit) (readExponent_of_ends h)

theorem readNumber_exponent {sign : Bool} (hWhole : IsWhole whole) (hExponent : IsDigits exponent)
    (h : Ends rest) :
    readNumber negative (whole ++ 'e' :: exponentSign sign :: (exponent ++ rest)) =
      some (Numeral.value ⟨negative, whole, [], some (sign, exponent)⟩, rest) := by
  have hFraction : readFraction ('e' :: exponentSign sign :: (exponent ++ rest)) =
      some ([], 'e' :: exponentSign sign :: (exponent ++ rest)) := rfl
  exact readNumber_whole negative hWhole (no_digit_cons (by decide) _) hFraction
    (readExponent_mark hExponent h)

theorem readNumber_full {sign : Bool} (hWhole : IsWhole whole) (hFraction : IsDigits fraction)
    (hExponent : IsDigits exponent) (h : Ends rest) :
    readNumber negative
        (whole ++ '.' :: (fraction ++ 'e' :: exponentSign sign :: (exponent ++ rest))) =
      some (Numeral.value ⟨negative, whole, fraction, some (sign, exponent)⟩, rest) :=
  readNumber_whole negative hWhole (no_digit_cons (by decide) _)
    (readFraction_dot hFraction (no_digit_cons (by decide) _)) (readExponent_mark hExponent h)

/-! ### Whole numbers -/

/-- Digits whose number fits are taken in whole. -/
theorem extend_of_lt {ds : List Char} {s : Significand}
    (h : Nat.ofDigitChars 10 ds s.value < UInt64.size) :
    s.extend ds = { s with
      value := Nat.ofDigitChars 10 ds s.value
      kept := s.kept + ds.length } := by
  induction ds generalizing s with
  | nil => simp [Significand.extend]
  | cons c ds ih =>
    have hValue : Nat.ofDigitChars 10 (c :: ds) s.value =
        Nat.ofDigitChars 10 ds (10 * s.value + digitValue c) := Nat.ofDigitChars_cons
    rw [hValue] at h
    -- each digit that follows makes the number larger
    have hFits : 10 * s.value + digitValue c < UInt64.size := by
      rw [Nat.ofDigitChars_eq_ofDigitChars_zero] at h
      have hPower : 1 * (10 * s.value + digitValue c) ≤
          10 ^ ds.length * (10 * s.value + digitValue c) :=
        Nat.mul_le_mul_right _ (Nat.pow_pos (by decide))
      omega
    rw [Significand.extend, if_pos hFits, ih h, hValue]
    simp only [List.length_cons]
    congr 1
    omega

theorem ofDigits_decimal {n : Nat} (h : n < UInt64.size) :
    Significand.ofDigits (decimal n) = ⟨n, (decimal n).length, 0⟩ := by
  have hValue : Nat.ofDigitChars 10 (decimal n) 0 = n := Nat.ofDigitChars_ten_toDigits
  have hExtend := @extend_of_lt (decimal n) ⟨0, 0, 0⟩ (by rw [hValue]; exact h)
  rw [Significand.ofDigits, hExtend]
  simp only [hValue, Nat.zero_add]

/-- The range of the whole numbers that are read as such. -/
def InRange (i : Int) : Prop := -0x8000000000000000 ≤ i ∧ i < 0x10000000000000000

/-- **A whole number of 64 bits is read as itself.** -/
theorem value_decimal {i : Int} (h : InRange i) :
    Numeral.value ⟨decide (i < 0), decimal i.natAbs, [], none⟩ = integer i := by
  obtain ⟨hLow, hHigh⟩ := h
  have hSize : i.natAbs < UInt64.size := by
    have hUInt : UInt64.size = 0x10000000000000000 := rfl
    omega
  simp only [Numeral.value, ofDigits_decimal hSize, List.isEmpty_nil, Option.isNone_none,
    Bool.and_self, beq_self_eq_true, if_true]
  by_cases hNegative : i < 0
  · have hNot : ¬(i.natAbs = 0 ∨ 0x8000000000000000 < i.natAbs) := by omega
    simp only [hNegative, decide_true, Bool.not_true, Bool.false_eq_true, if_false, Bool.or_eq_true,
      decide_eq_true_eq, hNot]
    congr 1
    omega
  · simp only [hNegative, decide_false, Bool.not_false, if_true]
    congr 1
    omega

/-! ### Doubles -/

open Double

theorem unitsOf_pos {magnitude : Nat} (h : magnitude ≠ 0) : 0 < unitsOf magnitude := by
  rw [unitsOf]
  split
  · omega
  · rw [Nat.shiftLeft_eq]
    exact Nat.mul_pos (by rw [runLength]; omega) (Nat.two_pow_pos _)

theorem exists_interval (magnitude : Nat) : ∃ unit, 0 < unit ∧
    (Shortest.interval magnitude).low = (unitsOf (magnitude - 1) + unitsOf magnitude) * unit ∧
    (Shortest.interval magnitude).twice = 2 * unitsOf magnitude * unit := by
  have hPower : ∀ n, 0 < Nat.pow 5 n := fun n => Nat.pow_pos (by decide)
  exact ⟨Nat.pow 5 1074, hPower 1074, rfl, rfl⟩

theorem onGrid_pos {tie : Tie} {i : Shortest.Interval} {grid digits : Nat} (hLow : 0 < i.low)
    (h : Shortest.onGrid tie i grid = some digits) : 0 < digits := by
  -- zero lies below the interval, so that it is not taken for the neighbour below
  have hBelow : i.holds (2 * grid * (i.twice / (2 * grid))) = true →
      0 < i.twice / (2 * grid) := by
    intro hHolds
    refine Nat.pos_of_ne_zero fun hZero => ?_
    rw [hZero, Nat.mul_zero, Shortest.Interval.holds] at hHolds
    split at hHolds <;>
    · rw [Bool.and_eq_true, decide_eq_true_eq] at hHolds
      omega
  unfold Shortest.onGrid at h
  dsimp only at h
  split at h
  · cases h
  · next hHolds _ => cases h; exact hBelow hHolds
  · cases h; exact Nat.succ_pos _
  · next hHolds _ =>
    have hPos := hBelow hHolds
    split at h
    · cases h; exact hPos
    · split at h
      · cases h; exact Nat.succ_pos _
      · split at h
        · cases h; exact Nat.succ_pos _
        · split at h
          · cases h; exact hPos
          · cases h; exact Nat.succ_pos _

theorem search_pos {tie : Tie} {i : Shortest.Interval} (hLow : 0 < i.low) (hTwice : 2 ≤ i.twice)
    (place : Nat) : 0 < (Shortest.search tie i place).1 := by
  induction place with
  | zero =>
    rw [Shortest.search]
    dsimp only
    omega
  | succ place ih =>
    rw [Shortest.search]
    split
    · next digits hGrid => exact onGrid_pos hLow hGrid
    · exact ih

theorem dropZeros_pos {fuel digits places : Nat} (h : 0 < digits) :
    0 < (Shortest.dropZeros fuel digits places).1 := by
  induction fuel generalizing digits places with
  | zero => exact h
  | succ fuel ih =>
    rw [Shortest.dropZeros]
    split
    · next hTen =>
      have hMod : digits % 10 = 0 := by simpa using hTen
      exact ih (by omega)
    · exact h

theorem shortest_of_ne_zero (tie : Tie) {x : Double} (h : x.magnitude ≠ 0) : ∃ place exponent,
    x.shortest tie = ⟨(Shortest.dropZeros 20
      (Shortest.search tie (Shortest.interval x.magnitude) place).1
      (Shortest.search tie (Shortest.interval x.magnitude) place).2).1, exponent⟩ :=
  ⟨_, _, if_neg h⟩

/-- The shortest digits of a double are zero only for zero. -/
theorem shortest_cases (tie : Tie) (x : Double) :
    x.shortest tie = ⟨0, 0⟩ ∨ 0 < (x.shortest tie).digits := by
  by_cases hZero : x.magnitude = 0
  · exact Or.inl (if_pos hZero)
  · have hUnits := unitsOf_pos hZero
    obtain ⟨unit, hUnit, hLow, hTwice⟩ := exists_interval x.magnitude
    have hLowPos : 0 < (Shortest.interval x.magnitude).low := by
      rw [hLow]
      exact Nat.mul_pos (by omega) hUnit
    have hTwicePos : 2 ≤ (Shortest.interval x.magnitude).twice := by
      rw [hTwice]
      exact Nat.le_trans (by omega) (Nat.le_mul_of_pos_right _ hUnit)
    obtain ⟨place, exponent, hShortest⟩ := shortest_of_ne_zero tie hZero
    rw [hShortest]
    exact Or.inr (dropZeros_pos (search_pos hLowPos hTwicePos place))

/-- A text that is read as a number, with either sign and whatever stands after it. -/
def IsNumber (cs : List Char) : Prop :=
  ∀ negative, ∃ value, ∀ rest, Ends rest → readNumber negative (cs ++ rest) = some (value, rest)

theorem isNumber_decimal (n : Nat) : IsNumber (decimal n) := fun negative =>
  ⟨_, fun _ h => readNumber_integer negative (isWhole_decimal n) h⟩

theorem isDigit_of_mem_zeros {n : Nat} {c : Char} (h : c ∈ List.replicate n '0') :
    c.isDigit = true := by
  rw [List.eq_of_mem_replicate h]
  decide

theorem isDigits_zeros {n : Nat} (h : n ≠ 0) : IsDigits (List.replicate n '0') :=
  ⟨fun _ hc => isDigit_of_mem_zeros hc, by simpa using h⟩

theorem IsDigits.append {ds ds' : List Char} (h : ∀ c ∈ ds, c.isDigit = true) (h' : IsDigits ds') :
    IsDigits (ds ++ ds') := by
  refine ⟨fun c hc => ?_, by simp [h'.ne_nil]⟩
  rcases List.mem_append.1 hc with hc | hc
  · exact h c hc
  · exact h'.digit c hc

theorem isWhole_single {c : Char} (h : c.isDigit = true) : IsWhole [c] where
  digit d hd := by rwa [List.mem_singleton.1 hd]
  ne_nil := List.cons_ne_nil _ _
  head _ := rfl

theorem isWhole_decimal_append {n places : Nat} (h : n = 0 → places = 0) :
    IsWhole (decimal n ++ List.replicate places '0') := by
  by_cases hPlaces : places = 0
  · rw [hPlaces, List.replicate_zero, List.append_nil]
    exact isWhole_decimal n
  · have hDigits : IsDigits (decimal n ++ List.replicate places '0') :=
      .append (isDigits_decimal n).digit (isDigits_zeros hPlaces)
    refine { hDigits with head := fun hHead => ?_ }
    have hFirst : (decimal n).head? = some '0' := by
      cases hCases : decimal n with
      | nil => exact absurd hCases (decimal_ne_nil n)
      | cons c cs => rwa [hCases] at hHead
    exact absurd (h (eq_zero_of_head?_decimal hFirst)) hPlaces

theorem isWhole_take_decimal {n places : Nat} (h : places ≠ 0) :
    IsWhole ((decimal n).take places) := by
  obtain ⟨k, rfl⟩ := Nat.exists_eq_succ_of_ne_zero h
  cases hDigits : decimal n with
  | nil => exact absurd hDigits (decimal_ne_nil n)
  | cons c cs =>
    rw [List.take_succ_cons]
    refine { digit := ?_, ne_nil := List.cons_ne_nil _ _, head := ?_ }
    · intro d hd
      have hMem : d ∈ decimal n := by
        rw [hDigits]
        exact List.mem_of_mem_take (i := k + 1) (by rwa [List.take_succ_cons])
      exact isDigit_of_mem_decimal hMem
    · intro hHead
      have hZero : n = 0 := eq_zero_of_head?_decimal (by rwa [hDigits])
      have hNone : cs = [] := by
        rw [hZero] at hDigits
        cases hDigits
        rfl
      rw [hNone, List.take_nil]
      rfl

theorem isNumber_positional {n : Nat} {exponent : Int} (h : n = 0 → exponent = 0) :
    IsNumber (positionalText true (decimal n) exponent) := by
  -- in every case the digits before the point and those after it can be named
  have hParts : ∃ whole fraction, IsWhole whole ∧ IsDigits fraction ∧
      positionalText true (decimal n) exponent = whole ++ '.' :: fraction := by
    rw [positionalText]
    split
    · have hWhole : IsWhole (decimal n ++ List.replicate exponent.toNat '0') :=
        isWhole_decimal_append fun hn => by rw [h hn]; rfl
      have hFraction : IsDigits ['0'] := (isWhole_single (by decide)).toIsDigits
      exact ⟨_, _, hWhole, hFraction, rfl⟩
    · split
      · have hPlaces : ((decimal n).length + exponent).toNat ≠ 0 := by omega
        have hFraction : IsDigits ((decimal n).drop ((decimal n).length + exponent).toNat) := by
          refine ⟨fun c hc => isDigit_of_mem_decimal (List.mem_of_mem_drop hc), ?_⟩
          rw [ne_eq, List.drop_eq_nil_iff]
          omega
        exact ⟨_, _, isWhole_take_decimal hPlaces, hFraction, rfl⟩
      · exact ⟨['0'], _, isWhole_single (by decide),
          .append (fun _ hc => isDigit_of_mem_zeros hc) (isDigits_decimal n), rfl⟩
  obtain ⟨whole, fraction, hWhole, hFraction, hText⟩ := hParts
  intro negative
  refine ⟨Numeral.value ⟨negative, whole, fraction, none⟩, fun rest hRest => ?_⟩
  rw [hText, List.append_assoc, List.cons_append]
  exact readNumber_fraction negative hWhole hFraction hRest

theorem isNumber_scientific (n : Nat) (exponent : Int) :
    IsNumber (scientificText true (decimal n) exponent) := by
  intro negative
  have hExponent := isDigits_decimal exponent.natAbs
  have hSign : (if exponent < 0 then ['-'] else if true then ['+'] else []) =
      [exponentSign (decide (exponent < 0))] := by
    by_cases hNegative : exponent < 0 <;> simp [exponentSign, hNegative]
  have hDigit : ∀ c ∈ decimal n, c.isDigit = true := fun _ h => isDigit_of_mem_decimal h
  unfold scientificText
  rw [hSign]
  cases hDigits : decimal n with
  | nil => exact absurd hDigits (decimal_ne_nil n)
  | cons d ds =>
    rw [hDigits] at hDigit
    have hWhole := isWhole_single (hDigit d List.mem_cons_self)
    cases ds with
    | nil =>
      exact ⟨_, fun rest hRest => readNumber_exponent negative hWhole hExponent hRest⟩
    | cons d' ds' =>
      have hFraction : IsDigits (d' :: ds') :=
        ⟨fun c hc => hDigit c (List.mem_cons_of_mem _ hc), List.cons_ne_nil _ _⟩
      refine ⟨Numeral.value ⟨negative, [d], d' :: ds', some (decide (exponent < 0),
        decimal exponent.natAbs)⟩, fun rest hRest => ?_⟩
      have hRead := @readNumber_full negative [d] (d' :: ds') (decimal exponent.natAbs) rest
        (decide (exponent < 0)) hWhole hFraction hExponent hRest
      simpa [decimal] using hRead

/-- **The text of a finite double is that of a number.** -/
theorem exists_isNumber {x : Double} (h : x.isFinite = true) : ∃ cs, IsNumber cs ∧
    Layout.json.chars x = (if x.negative then ['-'] else []) ++ cs := by
  have hNumber : x.isNaN = false := by
    simp only [Double.isFinite, decide_eq_true_eq] at h
    simp only [Double.isNaN, decide_eq_false_iff_not]
    omega
  have hExponent : (x.shortest .toEven).digits = 0 → (x.shortest .toEven).exponent = 0 := by
    intro hZero
    rcases shortest_cases .toEven x with hShortest | hPos
    · rw [hShortest]
    · omega
  have hLaidOut : ∀ (inside : Bool) (leading : Int), IsNumber (if inside
      then positionalText true (decimal (x.shortest .toEven).digits) (x.shortest .toEven).exponent
      else scientificText true (decimal (x.shortest .toEven).digits) leading) := by
    intro inside leading
    split
    · exact isNumber_positional hExponent
    · exact isNumber_scientific _ _
  have hText : ∃ (inside : Bool) (leading : Int), Layout.json.chars x =
      (if x.negative then ['-'] else []) ++ (if inside
        then positionalText true (decimal (x.shortest .toEven).digits) (x.shortest .toEven).exponent
        else scientificText true (decimal (x.shortest .toEven).digits) leading) := by
    rw [Layout.chars, if_neg (by simp [hNumber]), if_neg (by simp [h])]
    exact ⟨_, _, rfl⟩
  obtain ⟨inside, leading, hText⟩ := hText
  exact ⟨_, hLaidOut inside leading, hText⟩

end Json

end CodeGraph
