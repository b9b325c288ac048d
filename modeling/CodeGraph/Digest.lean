import CodeGraph.Text.Digits

/-! # Digests of texts

SHA-256 over the bytes of a text, and the short digest that stands for a text in keys.
-/

namespace CodeGraph.Digest

/-- The first 32 bits of the fractional parts of the cube roots of the first 64 primes. -/
def roundConstants : List UInt32 := [
  0x428a2f98, 0x71374491, 0xb5c0fbcf, 0xe9b5dba5, 0x3956c25b, 0x59f111f1, 0x923f82a4,
  0xab1c5ed5, 0xd807aa98, 0x12835b01, 0x243185be, 0x550c7dc3, 0x72be5d74, 0x80deb1fe,
  0x9bdc06a7, 0xc19bf174, 0xe49b69c1, 0xefbe4786, 0x0fc19dc6, 0x240ca1cc, 0x2de92c6f,
  0x4a7484aa, 0x5cb0a9dc, 0x76f988da, 0x983e5152, 0xa831c66d, 0xb00327c8, 0xbf597fc7,
  0xc6e00bf3, 0xd5a79147, 0x06ca6351, 0x14292967, 0x27b70a85, 0x2e1b2138, 0x4d2c6dfc,
  0x53380d13, 0x650a7354, 0x766a0abb, 0x81c2c92e, 0x92722c85, 0xa2bfe8a1, 0xa81a664b,
  0xc24b8b70, 0xc76c51a3, 0xd192e819, 0xd6990624, 0xf40e3585, 0x106aa070, 0x19a4c116,
  0x1e376c08, 0x2748774c, 0x34b0bcb5, 0x391c0cb3, 0x4ed8aa4a, 0x5b9cca4f, 0x682e6ff3,
  0x748f82ee, 0x78a5636f, 0x84c87814, 0x8cc70208, 0x90befffa, 0xa4506ceb, 0xbef9a3f7,
  0xc67178f2]

/-- The first 32 bits of the fractional parts of the square roots of the first eight primes. -/
def start : List UInt32 := [
  0x6a09e667, 0xbb67ae85, 0x3c6ef372, 0xa54ff53a, 0x510e527f, 0x9b05688c, 0x1f83d9ab,
  0x5be0cd19]

private def rotate (x n : UInt32) : UInt32 := (x >>> n) ||| (x <<< (32 - n))

/-- The word that follows sixteen words of the message schedule. -/
private def nextWord (window : List UInt32) : UInt32 :=
  let w (i : Nat) := window.getD i 0
  let s0 := rotate (w 1) 7 ^^^ rotate (w 1) 18 ^^^ (w 1 >>> 3)
  let s1 := rotate (w 14) 17 ^^^ rotate (w 14) 19 ^^^ (w 14 >>> 10)
  w 0 + s0 + w 9 + s1

/-- One round with a round constant and a word of the schedule. -/
private def round (state : List UInt32) (constant word : UInt32) : List UInt32 :=
  match state with
  | [a, b, c, d, e, f, g, h] =>
    let choice := (e &&& f) ^^^ ((e ^^^ 0xffffffff) &&& g)
    let t1 := h + (rotate e 6 ^^^ rotate e 11 ^^^ rotate e 25) + choice + constant + word
    let majority := (a &&& b) ^^^ (a &&& c) ^^^ (b &&& c)
    let t2 := (rotate a 2 ^^^ rotate a 13 ^^^ rotate a 22) + majority
    [t1 + t2, a, b, c, d + t1, e, f, g]
  | state => state

private def rounds (state window : List UInt32) : List UInt32 → List UInt32
  | [] => state
  | constant :: rest =>
    rounds (round state constant (window.headD 0)) (window.tail ++ [nextWord window]) rest

private theorem length_round (state : List UInt32) (constant word : UInt32) :
    (round state constant word).length = state.length := by
  unfold round
  split <;> rfl

private theorem length_rounds (state window constants : List UInt32) :
    (rounds state window constants).length = state.length := by
  induction constants generalizing state window with
  | nil => rfl
  | cons constant constants ih => rw [rounds, ih, length_round]

/-- Mixes a block of sixteen words into the state. -/
def absorb (state block : List UInt32) : List UInt32 :=
  List.zipWith (· + ·) state (rounds state block roundConstants)

theorem length_absorb (state block : List UInt32) :
    (absorb state block).length = state.length := by
  rw [absorb, List.length_zipWith, length_rounds, Nat.min_self]

private def words : List UInt8 → List UInt32
  | a :: b :: c :: d :: rest =>
    ((a.toUInt32 <<< 24) ||| (b.toUInt32 <<< 16) ||| (c.toUInt32 <<< 8) ||| d.toUInt32) ::
      words rest
  | _ => []

private def absorbAll (state : List UInt32) : Nat → List UInt32 → List UInt32
  | 0, _ => state
  | blocks + 1, ws => absorbAll (absorb state (ws.take 16)) blocks (ws.drop 16)

private theorem length_absorbAll (state : List UInt32) (blocks : Nat) (ws : List UInt32) :
    (absorbAll state blocks ws).length = state.length := by
  induction blocks generalizing state ws with
  | zero => rfl
  | succ blocks ih => rw [absorbAll, ih, length_absorb]

private def bytesOf (width n : Nat) : List UInt8 :=
  (List.range width).reverse.map fun i => UInt8.ofNat (n >>> (8 * i))

/-- The message followed by a one bit, zeros and its length in bits, in whole blocks. -/
def pad (message : List UInt8) : List UInt8 :=
  message ++ 0x80 :: List.replicate ((119 - message.length % 64) % 64) 0 ++
    bytesOf 8 (8 * message.length)

def sha256 (message : List UInt8) : List UInt32 :=
  let padded := pad message
  absorbAll start (padded.length / 64) (words padded)

theorem length_sha256 (message : List UInt8) : (sha256 message).length = 8 := length_absorbAll _ _ _

/-- The first eight bytes of the digest of a text in hexadecimal digits. -/
def short (s : String) : String :=
  String.ofList <|
    ((sha256 s.toUTF8.toList).take 2).flatMap fun word => Text.paddedHex 8 word.toNat

theorem length_short (s : String) : (short s).toList.length = 16 := by
  obtain ⟨a, b, rest, hWords⟩ : ∃ a b rest, sha256 s.toUTF8.toList = a :: b :: rest := by
    have hLength := length_sha256 s.toUTF8.toList
    match sha256 s.toUTF8.toList, hLength with
    | a :: b :: rest, _ => exact ⟨a, b, rest, rfl⟩
  rw [short, String.toList_ofList, hWords]
  simp only [List.take_succ_cons, List.take_zero, List.flatMap_cons, List.flatMap_nil,
    List.length_append, List.length_nil]
  rw [Text.length_paddedHex (by decide) a.toNat_lt, Text.length_paddedHex (by decide) b.toNat_lt]

theorem isHexDigit_of_mem_short {s : String} {c : Char} (h : c ∈ (short s).toList) :
    Text.isHexDigit c = true := by
  rw [short, String.toList_ofList] at h
  obtain ⟨word, _, hc⟩ := List.mem_flatMap.1 h
  exact Text.isHexDigit_of_mem_paddedHex hc

end CodeGraph.Digest
