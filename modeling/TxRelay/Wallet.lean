/-
  A wallet: one private key.

  The key is read from 64 hexadecimal digits; up to two `0x` may stand in front.  Payloads are
  signed as personal messages: a fixed text and the payload's length in decimal stand before the
  payload, so a signed payload is never a transaction.  The chain id belongs to the wallet but
  not to its signatures.
-/
import TxRelay.Account
import TxRelay.Crypto.Ecdsa
import TxRelay.Network.Outcome

namespace TxRelay

/-- The environment variable that holds the key. -/
def privateKeyVariable : String := "TX_RELAY_PRIVATE_KEY"

/-- A wallet with a key that the curve has. -/
structure Wallet where
  secret : Nat
  chainId : UInt64
  secret_pos : 0 < secret
  secret_lt : secret < Secp256k1.n
deriving DecidableEq, Repr

namespace Wallet

/-- What is wrong with a key. -/
def badKey (why : String) : NetworkError := .wallet ("Invalid private key format: " ++ why)

/-- A wallet of a secret number. -/
def ofSecret (secret : Nat) (chainId : UInt64) : Except NetworkError Wallet :=
  if h : 0 < secret ∧ secret < Secp256k1.n then .ok ⟨secret, chainId, h.1, h.2⟩
  else .error (badKey "signature error")

/-- The text without one `0x` in front. -/
def withoutMark (s : String) : String :=
  match s.toList with
  | '0' :: 'x' :: rest => String.ofList rest
  | _ => s

/-- The wallet of a key in hexadecimal digits. -/
def ofKey (key : String) (chainId : UInt64) : Except NetworkError Wallet :=
  match Hex.decodeChunk 32 (withoutMark key) with
  | .error e => .error (badKey e.message)
  | .ok bs => ofSecret (Bytes.toNat bs.val) chainId

/-- The wallet of the key in the environment. -/
def ofEnvironment (key : Option String) (chainId : UInt64) : Except NetworkError Wallet :=
  match key with
  | none => .error (.wallet ("Environment variable " ++ privateKeyVariable ++ " not set"))
  | some key => ofKey key chainId

/-- The address that belongs to a public key. -/
def addressOf : Secp256k1.Point → Address
  | .zero => Address.ofHash []
  | .affine x y => Address.ofHash (Keccak.hash (Bytes.ofNatWidth 32 x ++ Bytes.ofNatWidth 32 y))

/-- The wallet's address. -/
def address (w : Wallet) : Address :=
  addressOf (Secp256k1.Point.mul w.secret Secp256k1.Point.base)

/-- What is hashed for a payload. -/
def envelope (payload : Bytes) : Bytes :=
  0x19 :: Bytes.ofString ("Ethereum Signed Message:\n" ++ toString payload.length) ++ payload

/-- The hash of a payload that is signed. -/
def digest (payload : Bytes) : Bytes := Keccak.hash (envelope payload)

/-- The 65 bytes of a signature: `r`, `s` and 27 or 28. -/
def signatureBytes (s : Ecdsa.Signature) : Bytes :=
  Bytes.ofNatWidth 32 s.r ++ Bytes.ofNatWidth 32 s.s ++ [if s.odd then 28 else 27]

/-- A signature as its bytes, if there is one. -/
def signed : Option Ecdsa.Signature → Except NetworkError Bytes
  | some s => .ok (signatureBytes s)
  | none => .error (.wallet "Message signing failed: signature error")

/-- The signature of a payload. -/
def sign (w : Wallet) (payload : Bytes) : Except NetworkError Bytes :=
  -- the chain id has no part in it
  signed (Ecdsa.sign? w.secret (digest payload))

end Wallet

end TxRelay
