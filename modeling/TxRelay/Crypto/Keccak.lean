/-
  The hash Keccak-256.

  The state is a 5 × 5 square of 64-bit lanes.  `permute` runs 24 rounds over it; a round mixes
  columns, turns and moves lanes, combines rows and adds a constant.  A message is padded to
  whole blocks of 136 bytes; each block is added to the first 17 lanes and the state is permuted.
  The hash is the first four lanes.
-/
import TxRelay.Bytes

namespace TxRelay.Keccak

/-- The state: the lane in column `x` and row `y` is the one of index `x + 5 y`. -/
abbrev State := Vector UInt64 25

/-- The lane in a column and a row, both taken modulo 5. -/
def lane (s : State) (x y : Nat) : UInt64 :=
  s.get ⟨x % 5 + 5 * (y % 5), by omega⟩

/-- The state with the lanes that a function gives. -/
def ofLanes (f : Nat → Nat → UInt64) : State :=
  Vector.ofFn fun i : Fin 25 => f (i.val % 5) (i.val / 5)

/-- Turn a lane to the left. -/
def rotate (w : UInt64) (n : Nat) : UInt64 :=
  if n = 0 then w else w <<< UInt64.ofNat n ||| w >>> UInt64.ofNat (64 - n)

/-- How far each lane is turned, by index. -/
def turns : Vector Nat 25 :=
  #v[0, 1, 62, 28, 27,
    36, 44, 6, 55, 20,
    3, 10, 43, 25, 39,
    41, 45, 15, 21, 8,
    18, 2, 61, 56, 14]

/-- Add to each lane the sums of the column before it and of the turned column after it. -/
def mixColumns (s : State) : State :=
  let sums : Vector UInt64 5 := Vector.ofFn fun x : Fin 5 =>
    lane s x 0 ^^^ lane s x 1 ^^^ lane s x 2 ^^^ lane s x 3 ^^^ lane s x 4
  let sum (x : Nat) : UInt64 := sums.get ⟨x % 5, by omega⟩
  ofLanes fun x y => lane s x y ^^^ sum (x + 4) ^^^ rotate (sum (x + 1)) 1

/-- Turn every lane by its own distance and move it to its new place. -/
def moveLanes (s : State) : State :=
  ofLanes fun x y =>
    let origin := (x + 3 * y) % 5
    rotate (lane s origin x) (turns.get ⟨origin + 5 * (x % 5), by omega⟩)

/-- Combine each lane with the two after it in its row. -/
def combineRows (s : State) : State :=
  ofLanes fun x y => lane s x y ^^^ (~~~ lane s (x + 1) y &&& lane s (x + 2) y)

/-- The constants of the rounds. -/
def constants : List UInt64 :=
  [0x0000000000000001, 0x0000000000008082, 0x800000000000808a, 0x8000000080008000,
    0x000000000000808b, 0x0000000080000001, 0x8000000080008081, 0x8000000000008009,
    0x000000000000008a, 0x0000000000000088, 0x0000000080008009, 0x000000008000000a,
    0x000000008000808b, 0x800000000000008b, 0x8000000000008089, 0x8000000000008003,
    0x8000000000008002, 0x8000000000000080, 0x000000000000800a, 0x800000008000000a,
    0x8000000080008081, 0x8000000000008080, 0x0000000080000001, 0x8000000080008008]

/-- One round. -/
def round (s : State) (constant : UInt64) : State :=
  let s := combineRows (moveLanes (mixColumns s))
  s.set 0 (s[0] ^^^ constant)

/-- All rounds. -/
def permute (s : State) : State := constants.foldl round s

/-! ## Messages -/

/-- Bytes in a block. -/
def rate : Nat := 136

/-- What is put behind a message of `n` bytes: a one, zeros, and a one in the highest bit. -/
def padding (n : Nat) : Bytes :=
  let missing := rate - n % rate
  if missing = 1 then [0x81] else 0x01 :: List.replicate (missing - 2) 0 ++ [0x80]

/-- The lane of eight bytes, least significant first. -/
def laneOfBytes (bs : Bytes) : UInt64 :=
  bs.foldr (fun b w => w <<< 8 ||| b.toUInt64) 0

/-- The eight bytes of a lane. -/
def bytesOfLane (w : UInt64) : Bytes :=
  (List.range 8).map fun i => (w >>> UInt64.ofNat (8 * i)).toUInt8

/-- The lanes of a block. -/
def lanesOfBlock : (count : Nat) → Bytes → List UInt64
  | 0, _ => []
  | k + 1, bs => laneOfBytes (bs.take 8) :: lanesOfBlock k (bs.drop 8)

/-- Add a block to the state and permute it. -/
def absorb (s : State) (block : Bytes) : State :=
  let lanes := (lanesOfBlock 17 block).toArray
  permute (Vector.ofFn fun i : Fin 25 => s[i] ^^^ lanes.getD i 0)

/-- Absorb so many blocks. -/
def absorbAll : (blocks : Nat) → State → Bytes → State
  | 0, s, _ => s
  | k + 1, s, bs => absorbAll k (absorb s (bs.take rate)) (bs.drop rate)

/-- The hash of a message. -/
def hash (message : Bytes) : Bytes :=
  let s := absorbAll (message.length / rate + 1) (Vector.replicate 25 0)
    (message ++ padding message.length)
  (List.range 4).flatMap fun i => bytesOfLane (lane s i 0)

end TxRelay.Keccak
