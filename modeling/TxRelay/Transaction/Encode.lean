/-
  Writing transaction envelopes: the byte of the kind, then one list of the fields and the
  signature.  The oldest kind has no byte in front.
-/
import TxRelay.Rlp.Writer
import TxRelay.Transaction

namespace TxRelay

open Rlp

namespace Recipient

/-- A contract creation is the empty string. -/
def encode : Recipient → Bytes
  | create => writeString []
  | call account => writeString account.val

end Recipient

/-- A list of hashes, or of any chunks. -/
def encodeChunks {n : Nat} (cs : List (Chunk n)) : Bytes :=
  writeList (cs.map fun c => writeString c.val)

/-- An access list. -/
def encodeAccessList (items : List AccessItem) : Bytes :=
  writeList (items.map fun i => writeList [writeString i.account.val, encodeChunks i.keys])

/-- One authorization. -/
def Authorization.encode (a : Authorization) : Bytes :=
  writeList [writeNat a.chainId.toNat, writeString a.delegate.val, writeNat a.nonce.toNat,
    writeNat a.yParity.toNat, writeNat a.r.toNat, writeNat a.s.toNat]

namespace Signature

/-- The parity and both numbers. -/
def fields (g : Signature) : List Bytes :=
  [writeBool g.odd, writeNat g.r.toNat, writeNat g.s.toNat]

/-- The `v` of a signature that is bound to `chainId`, or to none. -/
def v (g : Signature) : Option (BitVec 64) → Nat
  | none => 27 + g.odd.toNat
  | some chainId => 35 + g.odd.toNat + 2 * chainId.toNat

end Signature

/-- The fields of the oldest kind, up to the signature. -/
def LegacyTx.fields (tx : LegacyTx) : List Bytes :=
  [writeNat tx.nonce.toNat, writeNat tx.gasPrice.toNat, writeNat tx.gasLimit.toNat,
    tx.recipient.encode, writeNat tx.value.toNat, writeString tx.input]

/-- The fields of kind 1. -/
def AccessListTx.fields (tx : AccessListTx) : List Bytes :=
  [writeNat tx.chainId.toNat, writeNat tx.nonce.toNat, writeNat tx.gasPrice.toNat,
    writeNat tx.gasLimit.toNat, tx.recipient.encode, writeNat tx.value.toNat, writeString tx.input,
    encodeAccessList tx.accessList]

/-- The fields of kind 2. -/
def DynamicFeeTx.fields (tx : DynamicFeeTx) : List Bytes :=
  [writeNat tx.chainId.toNat, writeNat tx.nonce.toNat, writeNat tx.maxPriorityFee.toNat,
    writeNat tx.maxFee.toNat, writeNat tx.gasLimit.toNat, tx.recipient.encode,
    writeNat tx.value.toNat, writeString tx.input, encodeAccessList tx.accessList]

/-- The fields of kind 3. -/
def BlobTx.fields (tx : BlobTx) : List Bytes :=
  [writeNat tx.chainId.toNat, writeNat tx.nonce.toNat, writeNat tx.maxPriorityFee.toNat,
    writeNat tx.maxFee.toNat, writeNat tx.gasLimit.toNat, writeString tx.recipient.val,
    writeNat tx.value.toNat, writeString tx.input, encodeAccessList tx.accessList,
    writeNat tx.maxBlobFee.toNat, encodeChunks tx.blobHashes]

/-- The fields of kind 4. -/
def DelegationTx.fields (tx : DelegationTx) : List Bytes :=
  [writeNat tx.chainId.toNat, writeNat tx.nonce.toNat, writeNat tx.maxPriorityFee.toNat,
    writeNat tx.maxFee.toNat, writeNat tx.gasLimit.toNat, writeString tx.recipient.val,
    writeNat tx.value.toNat, writeString tx.input, encodeAccessList tx.accessList,
    writeList (tx.authorizations.map Authorization.encode)]

/-- A sidecar, without a list around it. -/
def Sidecar.fields : Sidecar → List Bytes
  | blobProofs blobs commitments proofs =>
    [encodeChunks blobs, encodeChunks commitments, encodeChunks proofs]
  | cellProofs blobs commitments proofs =>
    [writeNat 1, encodeChunks blobs, encodeChunks commitments, encodeChunks proofs]

/-- The bytes of an envelope. -/
def Envelope.encode : Envelope → Bytes
  | .legacy tx g =>
    writeList (tx.fields ++ [writeNat (g.v tx.chainId), writeNat g.r.toNat, writeNat g.s.toNat])
  | .accessList tx g => 1 :: writeList (tx.fields ++ g.fields)
  | .dynamicFee tx g => 2 :: writeList (tx.fields ++ g.fields)
  | .blob tx g none => 3 :: writeList (tx.fields ++ g.fields)
  | .blob tx g (some sidecar) =>
    3 :: writeList (writeList (tx.fields ++ g.fields) :: sidecar.fields)
  | .delegation tx g => 4 :: writeList (tx.fields ++ g.fields)

end TxRelay
