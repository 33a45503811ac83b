/-
  Reading recursive-length-prefix (RLP) items.

  A `Reader` runs on what is left of the input and says both its answer and what it left over,
  also when it fails: a reader that is tried after a failed one goes on from where the failed
  one stopped.  An item is a string of bytes or a list of items, announced by a header with its
  length.  Lengths and numbers have one spelling only; every other spelling is refused.

  A header's length is held against everything that is left of the input, not against the list
  around it; who reads a list checks afterwards that the items took as much as announced.
-/
import TxRelay.Bytes

namespace TxRelay.Rlp

/-- Why an item cannot be read. -/
inductive Error where
  /-- The number is larger than its field. -/
  | overflow
  /-- A number or a length starts with a zero byte. -/
  | leadingZero
  | inputTooShort
  /-- A byte below 0x80 stands for itself and takes no header. -/
  | nonCanonicalSingleByte
  /-- A length below 56 has a short header. -/
  | nonCanonicalSize
  /-- A field of fixed size has another size. -/
  | unexpectedLength
  | unexpectedString
  | unexpectedList
  /-- The items of a list took `got` bytes where its header announced `expected`. -/
  | listLength (got expected : Nat)
  /-- A yes-or-no field holds neither 0 nor 1. -/
  | notBool
  /-- The `v` of a signature tells no parity. -/
  | noParity
deriving DecidableEq, Repr

/-- The wording of an error. -/
def Error.message : Error → String
  | .overflow => "overflow"
  | .leadingZero => "leading zero"
  | .inputTooShort => "input too short"
  | .nonCanonicalSingleByte => "non-canonical single byte"
  | .nonCanonicalSize => "non-canonical size"
  | .unexpectedLength => "unexpected length"
  | .unexpectedString => "unexpected string"
  | .unexpectedList => "unexpected list"
  | .listLength got expected =>
      "unexpected list length (got " ++ toString got ++ ", expected " ++ toString expected ++ ")"
  | .notBool => "invalid bool value, must be 0 or 1"
  | .noParity => "invalid parity value"

/-- A reader of `α`: it takes its bytes off the front of the input and keeps the rest, whether
    it succeeds or fails. -/
abbrev Reader := ExceptT Error (StateM Bytes)

/-- Run a reader on `bs`: the answer, and what it left over. -/
def Reader.on {α : Type} (r : Reader α) (bs : Bytes) : Except Error α × Bytes :=
  r.run bs

/-! ## Headers -/

/-- What a header announces: a list or a string, and the length of what follows. -/
structure Header where
  isList : Bool
  length : Nat
deriving DecidableEq, Repr

/-- The header `h`, provided that its content is there. -/
def fits (h : Header) : Reader Header := do
  -- against all that is left, not against the list around it
  if (← get).length < h.length then throw .inputTooShort
  pure h

/-- The next byte, left in the input. -/
def peek : Reader UInt8 := do
  match ← get with
  | [] => throw .inputTooShort
  | b :: _ => pure b

/-- A header whose length takes `k` bytes of its own. -/
def longHeader (isList : Bool) (k : Nat) : Reader Header := do
  let bs ← get
  if bs.length < k then throw .inputTooShort
  set (bs.drop k)
  let digits := bs.take k
  if digits.head? = some 0 then throw .leadingZero
  let n := Bytes.toNat digits
  if n < 56 then throw .nonCanonicalSize
  fits ⟨isList, n⟩

/-- The header of the next item.  A byte below 0x80 is an item of its own and has none. -/
def header : Reader Header := do
  let b ← peek
  if b < 0x80 then
    fits ⟨false, 1⟩
  else
    modify (·.drop 1)
    if b < 0xb8 then
      let n := b.toNat - 0x80
      if n = 1 then
        if (← peek) < 0x80 then throw .nonCanonicalSingleByte
      fits ⟨false, n⟩
    else if b < 0xc0 then
      longHeader false (b.toNat - 0xb7)
    else if b < 0xf8 then
      fits ⟨true, b.toNat - 0xc0⟩
    else
      longHeader true (b.toNat - 0xf7)

/-- The length announced by the header of a list. -/
def listHeader : Reader Nat := do
  let h ← header
  if !h.isList then throw .unexpectedString
  pure h.length

/-- The next `n` bytes. -/
def take (n : Nat) : Reader Bytes := do
  let bs ← get
  set (bs.drop n)
  pure (bs.take n)

/-! ## Strings and numbers -/

/-- The content of a string. -/
def string : Reader Bytes := do
  let h ← header
  if h.isList then throw .unexpectedList
  take h.length

/-- A string of exactly `n` bytes. -/
def fixed (n : Nat) : Reader (Chunk n) := do
  let bs ← string
  if h : bs.length = n then pure ⟨bs, h⟩ else throw .unexpectedLength

/-- A number of at most `k` bytes: too many bytes are reported before a leading zero. -/
def uint (k : Nat) : Reader (BitVec (8 * k)) := do
  let bs ← string
  if k < bs.length then throw .overflow
  if bs.head? = some 0 then throw .leadingZero
  pure (BitVec.ofNat _ (Bytes.toNat bs))

/-- A number of at most 32 bytes: a leading zero is reported before too many bytes. -/
def uint256 : Reader (BitVec 256) := do
  let bs ← string
  if bs.head? = some 0 then throw .leadingZero
  if 32 < bs.length then throw .overflow
  pure (BitVec.ofNat _ (Bytes.toNat bs))

/-- A yes-or-no field: the number 0 or 1. -/
def bool : Reader Bool := do
  let n ← uint 1
  if n = 0 then pure false
  else if n = 1 then pure true
  else throw .notBool

/-! ## Lists -/

/-- Items until the bytes are used up.  Every item takes a byte, so as many rounds as there are
    bytes are enough. -/
def itemsFor {α : Type} (item : Reader α) : (rounds : Nat) → Bytes → Except Error (List α)
  | _, [] => .ok []
  | 0, _ :: _ => .error .inputTooShort
  | rounds + 1, b :: bs =>
    match item.on (b :: bs) with
    | (.error e, _) => .error e
    | (.ok a, rest) => (itemsFor item rounds rest).map (a :: ·)

/-- A list of items, read within its own content: nothing after the list is touched. -/
def listOf {α : Type} (item : Reader α) : Reader (List α) := do
  let n ← listHeader
  let bs ← take n
  match itemsFor item bs.length bs with
  | .ok as => pure as
  | .error e => throw e

/-- A list whose items are the fields that `fields` reads.  The fields may read past the end of
    the list; they must have taken exactly what the header announced. -/
def record {α : Type} (fields : Reader α) : Reader α := do
  let expected ← listHeader
  let before := (← get).length
  let a ← fields
  let got := before - (← get).length
  if got ≠ expected then throw (.listLength got expected)
  pure a

example : (string.on [0x82, 1, 2, 9]).2 = [9] := by decide

end TxRelay.Rlp
