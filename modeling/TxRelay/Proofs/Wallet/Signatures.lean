/-
  Signatures belong to the wallet's address.

  Whoever has a payload and the 65 bytes of its signature computes an address from them, without the
  wallet: `recoveredAddress?`.  It is the wallet's address whenever `r` can be the x-coordinate of
  the nonce's point.

  1. **The bytes.**  `r` and `s` are below `n`, so each is read back from its 32 bytes, and the last
     byte is 27 or 28 by the parity: a signature is read back from its bytes
     (`signatureOf?_signatureBytes`).

  2. **The envelope.**  A signature is of the hash of an envelope.  In it the payload's length
     stands in decimal before the payload, and two payloads never have the same envelope
     (`envelope_injective`).

  3. **What belongs.**  `Belongs` lists what whoever has the bytes finds: the ranges, the low `s`,
     the last byte, and the address.  Everything that the wallet signs belongs to it
     (`belongs_of_sign`).

  4. **That it signs.**  A wallet signs a payload if the numbers drawn for its digest are ample
     (`exists_sign`); about these nothing else is known.

  The crux is the envelope.  Decimal digits are not marked off from a payload that begins with
  digits, so the length cannot be read back from the front.  What tells two payloads apart is the
  length of the whole: a longer payload has no fewer digits in front (`length_toDigits_mono`), so
  envelopes of one length have payloads of one length.
-/
import TxRelay.Proofs.Bytes
import TxRelay.Proofs.Crypto.Ecdsa
import TxRelay.Proofs.Wallet.Keys

namespace TxRelay.Wallet

open Secp256k1

/-! ## The bytes of a signature -/

/-- The number `r` of the bytes of a signature. -/
def rOf (bytes : Bytes) : Nat := Bytes.toNat (bytes.take 32)

/-- The number `s` of the bytes of a signature. -/
def sOf (bytes : Bytes) : Nat := Bytes.toNat ((bytes.drop 32).take 32)

/-- The signature that bytes spell. -/
def signatureOf? (bytes : Bytes) : Option Ecdsa.Signature :=
  if 0 < rOf bytes ∧ rOf bytes < n ∧ 0 < sOf bytes ∧ sOf bytes < n then
    match bytes.drop 64 with
    | [27] => some ⟨rOf bytes, sOf bytes, false⟩
    | [28] => some ⟨rOf bytes, sOf bytes, true⟩
    | _ => none
  else none

/-- The address that signed a payload, by the bytes of the signature alone. -/
def recoveredAddress? (payload bytes : Bytes) : Option Address :=
  (signatureOf? bytes).bind fun σ =>
    (Ecdsa.recover? (digest payload) σ).bind fun key =>
      if key = .zero then none else some (addressOf key)

theorem length_signatureBytes (σ : Ecdsa.Signature) : (signatureBytes σ).length = 65 := by
  rw [signatureBytes, List.length_append, List.length_append, Bytes.length_ofNatWidth,
    Bytes.length_ofNatWidth]
  rfl

theorem rOf_signatureBytes {σ : Ecdsa.Signature} (hr : σ.r < n) : rOf (signatureBytes σ) = σ.r := by
  have hfits : σ.r < 256 ^ 32 := hr.trans (by decide)
  rw [rOf, signatureBytes, List.append_assoc, List.take_left' (Bytes.length_ofNatWidth 32 _),
    Bytes.toNat_ofNatWidth hfits]

theorem sOf_signatureBytes {σ : Ecdsa.Signature} (hs : σ.s < n) : sOf (signatureBytes σ) = σ.s := by
  have hfits : σ.s < 256 ^ 32 := hs.trans (by decide)
  rw [sOf, signatureBytes, List.append_assoc, List.drop_left' (Bytes.length_ofNatWidth 32 _),
    List.take_left' (Bytes.length_ofNatWidth 32 _), Bytes.toNat_ofNatWidth hfits]

theorem drop_signatureBytes (σ : Ecdsa.Signature) :
    (signatureBytes σ).drop 64 = [if σ.odd then 28 else 27] := by
  have hlength : (Bytes.ofNatWidth 32 σ.r ++ Bytes.ofNatWidth 32 σ.s).length = 64 := by
    rw [List.length_append, Bytes.length_ofNatWidth, Bytes.length_ofNatWidth]
  rw [signatureBytes, List.drop_left' hlength]

/-- A signature is read back from its bytes. -/
theorem signatureOf?_signatureBytes {σ : Ecdsa.Signature} (hr : 0 < σ.r ∧ σ.r < n)
    (hs : 0 < σ.s ∧ σ.s < n) : signatureOf? (signatureBytes σ) = some σ := by
  rw [signatureOf?, rOf_signatureBytes hr.2, sOf_signatureBytes hs.2, drop_signatureBytes,
    if_pos ⟨hr.1, hr.2, hs⟩]
  obtain ⟨r, s, odd⟩ := σ
  cases odd
  · rfl
  · rfl

/-! ## The envelope -/

/-- A longer payload has no fewer digits in front. -/
theorem length_toDigits_mono {a b : Nat} (h : a ≤ b) :
    (Nat.toDigits 10 a).length ≤ (Nat.toDigits 10 b).length := by
  have hpos : 0 < (Nat.toDigits 10 b).length := List.length_pos_of_ne_nil Nat.toDigits_ne_nil
  rw [Nat.length_toDigits_le_iff (by decide) hpos]
  exact Nat.lt_of_le_of_lt h ((Nat.length_toDigits_le_iff (by decide) hpos).mp le_rfl)

/-- The bytes of a number in decimal digits. -/
def decimal (k : Nat) : Bytes := Bytes.encode (Nat.toDigits 10 k)

theorem length_decimal (k : Nat) : (decimal k).length = (Nat.toDigits 10 k).length := by
  have hone : ∀ c ∈ Nat.toDigits 10 k, (String.utf8EncodeChar c).length = 1 := by
    intro c hc
    have hdigit := Nat.isDigit_of_mem_toDigits (by decide) (by decide) hc
    rw [Bytes.encode_low]
    · rfl
    · simp only [Char.isDigit, Bool.and_eq_true, decide_eq_true_eq] at hdigit
      exact Nat.lt_of_le_of_lt (UInt32.le_iff_toNat_le.mp hdigit.2) (by decide)
  rw [decimal, Bytes.encode, List.length_flatMap, List.map_congr_left hone, List.map_const',
    List.sum_replicate, smul_eq_mul, mul_one]

theorem envelope_eq (payload : Bytes) :
    envelope payload = 0x19 :: (Bytes.ofString "Ethereum Signed Message:\n" ++
      (decimal payload.length ++ payload)) := by
  have hdigits : (toString payload.length).toList = Nat.toDigits 10 payload.length :=
    Nat.toList_repr
  rw [envelope, Bytes.ofString_eq, String.toList_append, hdigits, Bytes.encode, List.flatMap_append,
    Bytes.ofString_eq, List.cons_append, List.append_assoc]
  rfl

/-- **Two payloads never have the same envelope.** -/
theorem envelope_injective : Function.Injective envelope := by
  intro a b h
  rw [envelope_eq, envelope_eq] at h
  have hrest : decimal a.length ++ a = decimal b.length ++ b :=
    List.append_cancel_left (List.cons.inj h).2
  have hlength : (Nat.toDigits 10 a.length).length + a.length =
      (Nat.toDigits 10 b.length).length + b.length := by
    have htotal := congrArg List.length hrest
    rwa [List.length_append, List.length_append, length_decimal, length_decimal] at htotal
  have hsame : a.length = b.length := by
    rcases Nat.le_total a.length b.length with hle | hle
    · have hmono := length_toDigits_mono hle
      omega
    · have hmono := length_toDigits_mono hle
      omega
  rw [hsame] at hrest
  exact List.append_cancel_left hrest

/-! ## Signatures -/

theorem inRange_secret (w : Wallet) : Ecdsa.InRange w.secret := ⟨w.secret_pos, w.secret_lt⟩

/-- The key of a wallet is not the neutral point. -/
theorem publicKey_ne_zero (w : Wallet) : Point.mul w.secret Point.base ≠ .zero := by
  obtain ⟨x, y, h, hpoint⟩ := Ecdsa.exists_point w.secret_pos w.secret_lt
  rw [Point.mul_base, hpoint]
  exact Point.noConfusion

/-- The bytes are a signature of the payload that belongs to the wallet. -/
structure Belongs (w : Wallet) (payload bytes : Bytes) : Prop where
  length : bytes.length = 65
  r : 1 ≤ rOf bytes ∧ rOf bytes ≤ n - 1
  s : 1 ≤ sOf bytes ∧ sOf bytes ≤ n - 1
  low : sOf bytes ≤ n / 2
  v : bytes.drop 64 = [27] ∨ bytes.drop 64 = [28]
  /-- The nonce has a point, and if that point's x-coordinate is below `n`, then the address that
      is recovered is the wallet's. -/
  recovered : ∃ nonce x y, Ecdsa.nonce? w.secret (digest payload) = some nonce ∧
    Point.mul nonce Point.base = .affine x y ∧ rOf bytes = x % n ∧
      (x < n → recoveredAddress? payload bytes = some w.address)

theorem belongs_of_sign {w : Wallet} {payload bytes : Bytes} (h : w.sign payload = .ok bytes) :
    Belongs w payload bytes := by
  unfold sign at h
  cases hsign : Ecdsa.sign? w.secret (digest payload) with
  | none =>
    rw [hsign] at h
    cases h
  | some σ =>
    rw [hsign] at h
    obtain rfl := Except.ok.inj h
    obtain ⟨hrpos, hrlt, hspos, hslow, k, x, y, hnonce, hpoint, hr, hrecover⟩ :=
      Ecdsa.sign?_recovers hsign
    have hhalf : n / 2 < n := by decide
    have hslt : σ.s < n := Nat.lt_of_le_of_lt hslow hhalf
    refine ⟨length_signatureBytes σ, ?_, ?_, ?_, ?_, k, x, y, hnonce, hpoint, ?_, ?_⟩
    · rw [rOf_signatureBytes hrlt]
      exact ⟨hrpos, Nat.le_sub_one_of_lt hrlt⟩
    · rw [sOf_signatureBytes hslt]
      exact ⟨hspos, Nat.le_sub_one_of_lt hslt⟩
    · rw [sOf_signatureBytes hslt]
      exact hslow
    · rw [drop_signatureBytes]
      cases σ.odd
      · exact .inl rfl
      · exact .inr rfl
    · rw [rOf_signatureBytes hrlt, hr]
    · -- `r` is the x-coordinate of the point, so the point is found again
      intro hx
      rw [recoveredAddress?, signatureOf?_signatureBytes ⟨hrpos, hrlt⟩ ⟨hspos, hslt⟩,
        Option.bind_some, hrecover hx, Option.bind_some, if_neg (publicKey_ne_zero w)]
      rfl

theorem exists_sign {w : Wallet} {payload : Bytes}
    (ample : Ecdsa.Ample (Ecdsa.draws w.secret (digest payload))) :
    ∃ bytes, w.sign payload = .ok bytes := by
  obtain ⟨σ, hσ⟩ := Ecdsa.exists_sign? (inRange_secret w) ample
  exact ⟨signatureBytes σ, by rw [sign, hσ, signed]⟩

/-- A key opened with another chain id is the same wallet in all but that id. -/
theorem ofKey_other_chain {key : String} {chainId : UInt64} {w : Wallet}
    (h : ofKey key chainId = .ok w) (other : UInt64) :
    ∃ w', ofKey key other = .ok w' ∧ w'.secret = w.secret := by
  obtain ⟨hkey, -⟩ := ofKey_ok_iff.mp h
  exact ⟨⟨w.secret, other, w.secret_pos, w.secret_lt⟩, ofKey_ok_iff.mpr ⟨hkey, rfl⟩, rfl⟩

/-- **Signatures belong to the wallet's address.**  If the numbers drawn for a nonce are ample, a
    payload gets a signature, and whatever signature a payload gets has 65 bytes, numbers `r` and
    `s` in range with the lower `s`, and the mark 27 or 28, and recovers the wallet's address
    unless the x-coordinate of the nonce's point is `n` or more.  Addresses and signatures are the
    same for every chain id.  No other payload has the same envelope. -/
theorem signatures_belong (w : Wallet) (payload : Bytes) :
    (Ecdsa.Ample (Ecdsa.draws w.secret (digest payload)) → ∃ bytes, w.sign payload = .ok bytes) ∧
    (∀ bytes, w.sign payload = .ok bytes → Belongs w payload bytes) ∧
    (∀ key chainId other, ofKey key chainId = .ok w →
      ∃ w', ofKey key other = .ok w' ∧ w'.address = w.address ∧
        ∀ message, w'.sign message = w.sign message) ∧
    ∀ other, envelope other = envelope payload → other = payload := by
  refine ⟨exists_sign, fun bytes => belongs_of_sign, ?_, fun other h => envelope_injective h⟩
  intro key chainId other hkey
  obtain ⟨w', hopened, hsecret⟩ := ofKey_other_chain hkey other
  obtain ⟨haddress, hsign⟩ := same_secret hsecret
  exact ⟨w', hopened, haddress, hsign⟩

/-- A wallet and a payload for which the first five numbers drawn are in range and apart. -/
theorem signatures_belong_ample :
    let w : Wallet := ⟨0xac0974bec39a17e36ba4a6b4d238ff944bacb478cbed5efcae784d7bf4f2ff80, 1,
      by decide, by decide⟩
    Ecdsa.Ample (Ecdsa.draws w.secret (digest [1, 2, 3])) ∧
      ∃ bytes, w.sign [1, 2, 3] = .ok bytes ∧ Belongs w [1, 2, 3] bytes := by
  intro w
  let z := 85473327090657062027178804991842078516007351356771357195669865346350759455749
  have hdigest : Bytes.toNat (digest [1, 2, 3]) % n = z := by decide +kernel
  have hample : Ecdsa.Ample (Ecdsa.draws w.secret (digest [1, 2, 3])) := by
    rw [Ecdsa.draws, hdigest]
    exact ⟨(Ecdsa.Generator.draws 16 (Ecdsa.Generator.seed w.secret z)).take 5,
      List.take_subset 5 _, by decide +kernel⟩
  obtain ⟨hgives, hbelongs, -, -⟩ := signatures_belong w [1, 2, 3]
  obtain ⟨bytes, hsign⟩ := hgives hample
  exact ⟨hample, bytes, hsign, hbelongs bytes hsign⟩

end TxRelay.Wallet
