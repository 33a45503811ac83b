/-
  Byte strings and the numbers they spell.

  A byte string is a list of bytes.  Numbers are written big-endian: `toNat` reads any byte
  string, and `ofNat` writes the shortest one (the number 0 has no bytes at all).  `Chunk n` is a
  byte string of exactly `n` bytes, the shape of hashes and addresses.
-/

namespace TxRelay

/-- A byte string. -/
abbrev Bytes := List UInt8

/-- A byte string of exactly `n` bytes. -/
abbrev Chunk (n : Nat) := { bs : Bytes // bs.length = n }

/-- A 20-byte account address. -/
abbrev Address := Chunk 20

/-- A 32-byte hash or storage key. -/
abbrev Hash := Chunk 32

namespace Bytes

/-- The number a byte string spells, first byte most significant. -/
def toNat (bs : Bytes) : Nat :=
  bs.foldl (fun n b => n * 256 + b.toNat) 0

/-- The least significant `k` bytes of `n`, put in front of `tail`. -/
def pushDigits : (k : Nat) → (n : Nat) → (tail : Bytes) → Bytes
  | 0, _, tail => tail
  | k + 1, n, tail => pushDigits k (n / 256) (UInt8.ofNat n :: tail)

/-- The last `k` bytes of the big-endian form of `n`. -/
def ofNatWidth (k n : Nat) : Bytes := pushDigits k n []

/-- How many bytes the shortest big-endian form of `n` has. -/
def width (n : Nat) : Nat :=
  if n = 0 then 0 else Nat.log2 n / 8 + 1

/-- The shortest big-endian form of `n`; 0 is the empty string. -/
def ofNat (n : Nat) : Bytes := ofNatWidth (width n) n

/-- The UTF-8 bytes of a text. -/
def ofString (s : String) : Bytes := s.toUTF8.toList

/-- The chunk of `n` bytes that spells `x`, higher digits dropped. -/
def chunk (n x : Nat) : Chunk n :=
  ⟨ofNatWidth n x, by
    have h : ∀ k x tail, (pushDigits k x tail).length = k + tail.length := by
      intro k
      induction k with
      | zero => intro x tail; simp [pushDigits]
      | succ k ih => intro x tail; simp only [pushDigits, ih, List.length_cons]; omega
    simp [ofNatWidth, h]⟩

example : toNat [1, 0] = 256 := by decide
example : ofNat 256 = [1, 0] := by decide
example : ofNat 0 = [] := by decide

end Bytes

end TxRelay
