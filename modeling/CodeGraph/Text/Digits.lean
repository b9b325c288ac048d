/-! # Digits

Runs of decimal and hexadecimal digits: their values, and numbers written with a given width.
-/

namespace CodeGraph.Text

def digitValue (c : Char) : Nat := c.toNat - '0'.toNat

def powerOfTen (n : Nat) : Nat := Nat.pow 10 n

/-- The number that a run of decimal digits denotes. -/
def decimalValue (cs : List Char) : Nat := cs.foldl (fun n c => 10 * n + digitValue c) 0

/-- The value of one hexadecimal digit in either case. -/
def hexDigit? (c : Char) : Option Nat :=
  if c.isDigit then some (c.toNat - 48)
  else if 'a' ≤ c && c ≤ 'f' then some (c.toNat - 87)
  else if 'A' ≤ c && c ≤ 'F' then some (c.toNat - 55)
  else none

def isHexDigit (c : Char) : Bool := (hexDigit? c).isSome

/-- The number that a run of hexadecimal digits denotes. -/
def hexValue? (cs : List Char) : Option Nat :=
  cs.foldlM (fun n c => (hexDigit? c).map (16 * n + ·)) 0

def decimal (n : Nat) : List Char := Nat.toDigits 10 n

def signedDecimal (i : Int) : List Char :=
  if i < 0 then '-' :: decimal i.natAbs else decimal i.natAbs

/-- At least `width` digits, filled up with zeros in front. -/
def padded (width n : Nat) : List Char :=
  List.replicate (width - (decimal n).length) '0' ++ decimal n

def hex (n : Nat) : List Char := Nat.toDigits 16 n

def paddedHex (width n : Nat) : List Char :=
  List.replicate (width - (hex n).length) '0' ++ hex n

theorem isHexDigit_of_mem_hex {n : Nat} {c : Char} (h : c ∈ hex n) : isHexDigit c = true := by
  induction n using Nat.strongRecOn with
  | ind n ih =>
    have hDigit : ∀ d < 16, isHexDigit (Nat.digitChar d) = true := by decide
    rw [hex, Nat.toDigits_eq_if (by decide)] at h
    split at h
    · next hlt =>
      rw [List.mem_singleton.1 h]
      exact hDigit n hlt
    · rcases List.mem_append.1 h with h | h
      · exact ih (n / 16) (by omega) h
      · rw [List.mem_singleton.1 h]
        exact hDigit (n % 16) (Nat.mod_lt _ (by decide))

theorem isHexDigit_of_mem_paddedHex {width n : Nat} {c : Char} (h : c ∈ paddedHex width n) :
    isHexDigit c = true := by
  rcases List.mem_append.1 h with h | h
  · rw [List.eq_of_mem_replicate h]
    decide
  · exact isHexDigit_of_mem_hex h

theorem length_paddedHex {width n : Nat} (hWidth : 0 < width) (h : n < Nat.pow 16 width) :
    (paddedHex width n).length = width := by
  have hLe : (hex n).length ≤ width := (Nat.length_toDigits_le_iff (by decide) hWidth).2 h
  rw [paddedHex, List.length_append, List.length_replicate]
  omega

def int? : List Char → Option Int
  | '-' :: cs => if cs.isEmpty || !cs.all Char.isDigit then none else some (-decimalValue cs)
  | '+' :: cs => if cs.isEmpty || !cs.all Char.isDigit then none else some (decimalValue cs)
  | cs => if cs.isEmpty || !cs.all Char.isDigit then none else some (decimalValue cs)

end CodeGraph.Text
