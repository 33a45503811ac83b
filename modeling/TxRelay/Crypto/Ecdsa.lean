/-
  Signatures over secp256k1.

  A signature is made with a nonce that is drawn from the key and the message digest alone, so
  the same message always gets the same signature.  Of the two values of `s` that verify, the
  lower one is kept, and one bit tells the parity of the nonce point's y-coordinate: with it the
  signer's public key can be recovered from the signature.
-/
import TxRelay.Crypto.Secp256k1
import TxRelay.Crypto.Sha256

namespace TxRelay.Ecdsa

open Secp256k1

/-- A signature; `odd` is the parity of the y-coordinate that belongs to `r`. -/
structure Signature where
  r : Nat
  s : Nat
  odd : Bool
deriving DecidableEq, Repr

/-! ## The nonce -/

/-- The generator of nonces: a key and a value, both of 32 bytes. -/
structure Generator where
  key : Bytes
  value : Bytes
deriving DecidableEq, Repr

namespace Generator

/-- Mix in a byte and a text. -/
def mix (g : Generator) (mark : UInt8) (text : Bytes) : Generator :=
  let key := Sha256.hmac g.key (g.value ++ mark :: text)
  ⟨key, Sha256.hmac key g.value⟩

/-- The generator for a secret key and a digest below the order. -/
def seed (secret digest : Nat) : Generator :=
  let text := Bytes.ofNatWidth 32 secret ++ Bytes.ofNatWidth 32 digest
  let g : Generator := ⟨List.replicate 32 0, List.replicate 32 1⟩
  (g.mix 0 text).mix 1 text

/-- The next value. -/
def next (g : Generator) : Nat × Generator :=
  let value := Sha256.hmac g.key g.value
  (Bytes.toNat value, { g with value := value })

/-- What is mixed in before another draw. -/
def again (g : Generator) : Generator := g.mix 0 []

end Generator

/-! ## Signing -/

/-- The signature with a given nonce, if the nonce gives one. -/
def signWith? (secret digest nonce : Nat) : Option Signature :=
  match Point.mul nonce Point.base with
  | .zero => none
  | .affine x y =>
    let r := x % n
    let s := inverse n nonce * ((digest + r * secret) % n) % n
    if r = 0 ∨ s = 0 then none
    else if s ≤ n / 2 then some ⟨r, s, y % 2 = 1⟩
    else some ⟨r, n - s, y % 2 = 0⟩

/-- Draw nonces until one lies in `1 … n - 1` and gives a signature.  One draw fails with a
    chance of 2⁻¹²⁷, so a few are plenty. -/
def signFrom : (draws : Nat) → (secret digest : Nat) → Generator → Option Signature
  | 0, _, _, _ => none
  | draws + 1, secret, digest, g =>
    let (nonce, g) := g.next
    -- a number out of range counts as a draw, too
    let found := if 0 < nonce ∧ nonce < n then signWith? secret digest nonce else none
    match found with
    | some signature => some signature
    | none => signFrom draws secret digest g.again

/-- The signature of a digest. -/
def sign? (secret : Nat) (digest : Bytes) : Option Signature :=
  -- the digest is reduced once, for the generator and for the equation alike
  let z := Bytes.toNat digest % n
  signFrom 16 secret z (Generator.seed secret z)

/-! ## Recovering the key -/

/-- The public key under which a signature of the digest verifies: `r⁻¹ (s R - z G)`, where `R`
    is the nonce point. -/
def recover? (digest : Bytes) (signature : Signature) : Option Point :=
  (Point.lift? signature.r signature.odd).map fun nonce =>
    let z := Bytes.toNat digest % n
    let inv := inverse n signature.r
    Point.add (Point.mul (inv * signature.s % n) nonce) (Point.mul (inv * (n - z) % n) Point.base)

end TxRelay.Ecdsa
