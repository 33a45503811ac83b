/-
  Signed transactions, by kind.

  A transaction travels in an envelope: a byte that tells its kind, then one list with its
  fields and its signature.  The oldest kind has no such byte.  Field widths are those of the
  chain: 64 bits for counters and limits, 128 for fees, 256 for values and signatures.  The
  values of a signature are not constrained; whether it verifies is the node's business.
-/
import TxRelay.Bytes

namespace TxRelay

/-- Where a transaction goes: it creates a contract or calls an account. -/
inductive Recipient where
  | create
  | call (account : Address)
deriving DecidableEq

/-- An account and the storage keys of it that a transaction announces to touch. -/
structure AccessItem where
  account : Address
  keys : List Hash
deriving DecidableEq

/-- An account's permission to run the code of another account. -/
structure Authorization where
  chainId : BitVec 256
  delegate : Address
  nonce : BitVec 64
  yParity : BitVec 8
  r : BitVec 256
  s : BitVec 256
deriving DecidableEq

/-- A signature over a transaction: `odd` is the parity of the nonce point's y coordinate. -/
structure Signature where
  odd : Bool
  r : BitVec 256
  s : BitVec 256
deriving DecidableEq

/-- The oldest kind.  The chain it is bound to, if any, travels inside the signature's `v`. -/
structure LegacyTx where
  chainId : Option (BitVec 64)
  nonce : BitVec 64
  gasPrice : BitVec 128
  gasLimit : BitVec 64
  recipient : Recipient
  value : BitVec 256
  input : Bytes
deriving DecidableEq

/-- Kind 1: with an access list. -/
structure AccessListTx where
  chainId : BitVec 64
  nonce : BitVec 64
  gasPrice : BitVec 128
  gasLimit : BitVec 64
  recipient : Recipient
  value : BitVec 256
  input : Bytes
  accessList : List AccessItem
deriving DecidableEq

/-- Kind 2: with a priority fee and a fee cap. -/
structure DynamicFeeTx where
  chainId : BitVec 64
  nonce : BitVec 64
  maxPriorityFee : BitVec 128
  maxFee : BitVec 128
  gasLimit : BitVec 64
  recipient : Recipient
  value : BitVec 256
  input : Bytes
  accessList : List AccessItem
deriving DecidableEq

/-- Kind 3: pays for blobs that it names by hash.  It cannot create a contract. -/
structure BlobTx where
  chainId : BitVec 64
  nonce : BitVec 64
  maxPriorityFee : BitVec 128
  maxFee : BitVec 128
  gasLimit : BitVec 64
  recipient : Address
  value : BitVec 256
  input : Bytes
  accessList : List AccessItem
  maxBlobFee : BitVec 128
  blobHashes : List Hash
deriving DecidableEq

/-- Kind 4: carries permissions of other accounts.  It cannot create a contract. -/
structure DelegationTx where
  chainId : BitVec 64
  nonce : BitVec 64
  maxPriorityFee : BitVec 128
  maxFee : BitVec 128
  gasLimit : BitVec 64
  recipient : Address
  value : BitVec 256
  input : Bytes
  accessList : List AccessItem
  authorizations : List Authorization
deriving DecidableEq

/-- How many bytes a blob has. -/
abbrev blobSize : Nat := 131072

/-- The blobs of a blob transaction, with what proves that they are the ones named by hash. -/
inductive Sidecar where
  /-- One proof for each blob. -/
  | blobProofs (blobs : List (Chunk blobSize)) (commitments proofs : List (Chunk 48))
  /-- Proofs for the cells that blobs are cut into. -/
  | cellProofs (blobs : List (Chunk blobSize)) (commitments proofs : List (Chunk 48))

/-- A signed transaction of any kind. -/
inductive Envelope where
  | legacy (tx : LegacyTx) (signature : Signature)
  | accessList (tx : AccessListTx) (signature : Signature)
  | dynamicFee (tx : DynamicFeeTx) (signature : Signature)
  | blob (tx : BlobTx) (signature : Signature) (sidecar : Option Sidecar)
  | delegation (tx : DelegationTx) (signature : Signature)

end TxRelay
