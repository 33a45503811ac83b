/-
  Reading transaction envelopes.

  A first byte below 0x80 tells the kind and the body of that kind follows.  Any other first byte
  starts a body without a kind: the bodies are then tried in the order of their kinds, each where
  the one before it gave up, and the first that can be read wins.

  1. **Fields** are read by the readers of the prefix form, each with its own bound: a number of 64
     bits has at most eight bytes and no zero in front.

  2. **Bodies.**  One list for each kind, its fields in order and the signature behind them; the
     oldest kind has the parity and the chain id in one number (`splitV`).

  3. **Blobs.**  A blob transaction may come with its blobs: one list around the plain body and the
     sidecar.  That form is tried when a list starts right inside the outer list; if it cannot be
     read, the whole is read as a plain body.

  4. **Whole payloads.**  `decode` says what bytes start with, `ofBytes` what they are: nothing may
     be left over.

  A reader that fails has moved on all the same, and the next one is tried from there and not from
  the beginning (`firstBody`).  So a payload without a kind may be read by a body that starts in the
  middle of it.
-/
import TxRelay.Rlp.Reader
import TxRelay.Transaction

namespace TxRelay.Envelope

open Rlp

/-- Why bytes are no envelope. -/
inductive Error where
  | empty
  /-- The first byte tells no kind of transaction. -/
  | unknownKind
  /-- The body of the announced kind cannot be read. -/
  | body (e : Rlp.Error)
  /-- No kind is announced and no body can be read. -/
  | noBody
  /-- Bytes are left over after the envelope. -/
  | trailing (count : Nat)
deriving DecidableEq, Repr

/-- The wording of an error. -/
def Error.message : Error → String
  | .empty => "empty payload"
  | .unknownKind => "unexpected tx type"
  | .body e => e.message
  | .noBody => "Unexpected type flag. Got 0."
  | .trailing count => toString count ++ " trailing bytes after transaction envelope"

/-! ## Fields -/

/-- A number of 64 bits. -/
def word64 : Reader (BitVec 64) := uint 8

/-- A number of 128 bits. -/
def word128 : Reader (BitVec 128) := uint 16

/-- A recipient: the empty string creates a contract, anything else must be an address. -/
def recipient : Reader Recipient := do
  if (← peek) = 0x80 then
    let _ ← take 1
    pure .create
  else
    return .call (← fixed 20)

/-- One entry of an access list. -/
def accessItem : Reader AccessItem :=
  record do return ⟨← fixed 20, ← listOf (fixed 32)⟩

/-- One authorization. -/
def authorization : Reader Authorization :=
  record do
    return ⟨← uint256, ← fixed 20, ← word64, ← uint 1, ← uint256, ← uint256⟩

/-- A signature that starts with its parity. -/
def signature : Reader Signature := do
  return ⟨← bool, ← uint256, ← uint256⟩

/-- What `v` says: 27 and 28 give the parity alone, from 35 on `v` is 35 plus the parity plus
    twice the chain id. -/
def splitV (v : Nat) : Option (Bool × Option (BitVec 64)) :=
  if v = 27 then some (false, none)
  else if v = 28 then some (true, none)
  else if 35 ≤ v then
    let chainId := (v - 35) / 2
    if chainId < UInt64.size then some ((v - 35) % 2 ≠ 0, some (BitVec.ofNat 64 chainId)) else none
  else none

/-! ## Bodies -/

/-- The body of the oldest kind. -/
def legacyBody : Reader Envelope := record do
  let nonce ← word64
  let gasPrice ← word128
  let gasLimit ← word64
  let target ← recipient
  let value ← uint256
  let input ← string
  let v ← word128
  match splitV v.toNat with
  | none => throw .noParity
  | some (odd, chainId) =>
    return .legacy ⟨chainId, nonce, gasPrice, gasLimit, target, value, input⟩
      ⟨odd, ← uint256, ← uint256⟩

/-- The body of kind 1. -/
def accessListBody : Reader Envelope := record do
  let tx : AccessListTx := ⟨← word64, ← word64, ← word128, ← word64, ← recipient, ← uint256,
    ← string, ← listOf accessItem⟩
  return .accessList tx (← signature)

/-- The body of kind 2. -/
def dynamicFeeBody : Reader Envelope := record do
  let tx : DynamicFeeTx := ⟨← word64, ← word64, ← word128, ← word128, ← word64, ← recipient,
    ← uint256, ← string, ← listOf accessItem⟩
  return .dynamicFee tx (← signature)

/-- The plain body of kind 3. -/
def signedBlob : Reader (BlobTx × Signature) := record do
  let tx : BlobTx := ⟨← word64, ← word64, ← word128, ← word128, ← word64, ← fixed 20,
    ← uint256, ← string, ← listOf accessItem, ← word128, ← listOf (fixed 32)⟩
  return (tx, ← signature)

/-- A sidecar; its first byte is 1 if it proves cells. -/
def sidecar : Reader Sidecar := do
  if (← get).head? = some 1 then
    let _ ← uint 1
    return .cellProofs (← listOf (fixed blobSize)) (← listOf (fixed 48)) (← listOf (fixed 48))
  else
    return .blobProofs (← listOf (fixed blobSize)) (← listOf (fixed 48)) (← listOf (fixed 48))

/-- The body of kind 3 in one list with its sidecar. -/
def blobWithSidecar : Reader Envelope := record do
  let (tx, sig) ← signedBlob
  return .blob tx sig (some (← sidecar))

/-- Does a list start right inside the next item? -/
def startsWithList : Reader Bool := do
  let _ ← header
  let inner ← header
  pure inner.isList

/-- The body of kind 3, with or without a sidecar. -/
def blobBody : Reader Envelope := do
  let bs ← get
  let plain : Reader Envelope := do
    let (tx, sig) ← signedBlob
    pure (.blob tx sig none)
  match startsWithList.on bs with
  | (.ok true, _) =>
    match blobWithSidecar.on bs with
    | (.ok e, rest) => do set rest; pure e
    | (.error _, _) => plain
  | _ => plain

/-- The body of kind 4. -/
def delegationBody : Reader Envelope := record do
  let tx : DelegationTx := ⟨← word64, ← word64, ← word128, ← word128, ← word64, ← fixed 20,
    ← uint256, ← string, ← listOf accessItem, ← listOf authorization⟩
  return .delegation tx (← signature)

/-- The bodies in the order of their kinds, from kind 0 on. -/
def bodies : List (Reader Envelope) :=
  [legacyBody, accessListBody, dynamicFeeBody, blobBody, delegationBody]

/-! ## Envelopes -/

/-- The first of the bodies that can be read, each tried where the one before it gave up. -/
def firstBody : List (Reader Envelope) → Bytes → Option (Envelope × Bytes)
  | [], _ => none
  | body :: more, bs =>
    match body.on bs with
    | (.ok e, rest) => some (e, rest)
    -- not from `bs`: the reader that failed has used it up to `rest`
    | (.error _, rest) => firstBody more rest

/-- The envelope that `bs` starts with, and the bytes after it. -/
def decode : Bytes → Except Error (Envelope × Bytes)
  | [] => .error .empty
  | b :: bs =>
    if b < 0x80 then
      match bodies[b.toNat]? with
      | none => .error .unknownKind
      | some body =>
        match body.on bs with
        | (.ok e, rest) => .ok (e, rest)
        | (.error e, _) => .error (.body e)
    else
      match firstBody bodies (b :: bs) with
      | none => .error .noBody
      | some found => .ok found

/-- The envelope that the whole of `bs` is. -/
def ofBytes (bs : Bytes) : Except Error Envelope :=
  match decode bs with
  | .error e => .error e
  | .ok (e, []) => .ok e
  | .ok (_, rest) => .error (.trailing rest.length)

end TxRelay.Envelope
