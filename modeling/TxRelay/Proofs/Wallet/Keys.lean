/-
  Which texts are keys.

      text     up to two `0x` in front, one removed by the wallet and one by the reader of digits,
               and then exactly 64 hexadecimal digits of either case
      number   what the digits spell; it must lie in `1 … n - 1`, where `n` is the curve's order

  `Denotes` says both without the reader.

  1. **Texts and numbers.**  A text gives a wallet exactly if it denotes the wallet's number
     (`ofKey_ok_iff`).  Both ways go through the reader of digits: 64 digits are 32 bytes that spell
     the same number, and only 64 digits are.

  2. **Numbers and wallets.**  A wallet is made of its number and its chain id alone
     (`ofSecret_self`).  So the spelling is forgotten, and with it the case of the digits and the
     marks (`ofKey_congr`).

  3. **Addresses and signatures.**  The chain id has no part in either (`same_secret`).

  4. **Errors.**  Whatever is wrong with a text, it is an error of the wallet (`ofKey_error`).

  The crux is that a number is denoted by many texts and no text denotes two: the digits are what
  `Hex.dropMark` leaves of the text twice, and the number is read off them.
-/
import TxRelay.Proofs.Hex
import TxRelay.Wallet

namespace TxRelay.Wallet

/-- The digits of a key: its text without one `0x` in front, and without one more. -/
def keyDigits (key : String) : List Char := Hex.dropMark (Hex.dropMark key.toList)

/-- The text is a key for the secret number. -/
structure Denotes (key : String) (secret : Nat) : Prop where
  length : (keyDigits key).length = 64
  digits : ∀ c ∈ keyDigits key, Hex.IsDigit c
  number : Hex.number (keyDigits key) = secret
  pos : 0 < secret
  lt : secret < Secp256k1.n

theorem toList_withoutMark (key : String) : (withoutMark key).toList = Hex.dropMark key.toList := by
  by_cases hmark : ∃ rest, key.toList = '0' :: 'x' :: rest
  · obtain ⟨rest, hrest⟩ := hmark
    have hkey : withoutMark key = String.ofList rest := by
      unfold withoutMark
      simp only [hrest]
    rw [hkey, hrest, String.toList_ofList]
    rfl
  · have hkey : withoutMark key = key := by
      unfold withoutMark
      split
      · exact absurd ⟨_, ‹_›⟩ hmark
      · rfl
    have hdrop : Hex.dropMark key.toList = key.toList := by
      unfold Hex.dropMark
      split
      · exact absurd ⟨_, ‹_›⟩ hmark
      · rfl
    rw [hkey, hdrop]

theorem ofSecret_ok {secret : Nat} {chainId : UInt64} {w : Wallet}
    (h : ofSecret secret chainId = .ok w) : w.secret = secret ∧ w.chainId = chainId := by
  unfold ofSecret at h
  split at h
  · obtain rfl := Except.ok.inj h
    exact ⟨rfl, rfl⟩
  · cases h

/-- A wallet is its secret number and its chain id. -/
theorem ofSecret_self (w : Wallet) : ofSecret w.secret w.chainId = .ok w :=
  dif_pos ⟨w.secret_pos, w.secret_lt⟩

/-- **When a text gives a wallet**: if it denotes the wallet's secret number. -/
theorem ofKey_ok_iff {key : String} {chainId : UInt64} {w : Wallet} :
    ofKey key chainId = .ok w ↔ Denotes key w.secret ∧ w.chainId = chainId := by
  -- two marks are dropped, by the wallet and by the reader of digits
  have hmarks : Hex.dropMark (withoutMark key).toList = keyDigits key :=
    congrArg Hex.dropMark (toList_withoutMark key)
  constructor
  · intro h
    unfold ofKey at h
    split at h
    · cases h
    · rename_i bs hread
      obtain ⟨hlength, hdigits⟩ := Hex.decodeChunk_ok hread
      obtain ⟨bs', hread', hnumber⟩ := Hex.decodeChunk_digits hlength hdigits
      obtain rfl := Except.ok.inj (hread.symm.trans hread')
      obtain ⟨hsecret, hchain⟩ := ofSecret_ok h
      rw [hmarks] at hlength hdigits hnumber
      exact ⟨⟨hlength, hdigits, hnumber.symm.trans hsecret.symm, w.secret_pos, w.secret_lt⟩, hchain⟩
  · rintro ⟨hkey, rfl⟩
    obtain ⟨bs, hread, hnumber⟩ := Hex.decodeChunk_digits (n := 32) (s := withoutMark key)
      (by rw [hmarks, hkey.length]) (by rw [hmarks]; exact hkey.digits)
    rw [hmarks, hkey.number] at hnumber
    rw [ofKey, hread]
    show ofSecret (Bytes.toNat bs.val) w.chainId = .ok w
    rw [hnumber]
    exact ofSecret_self w

theorem exists_ofKey_iff {key : String} {chainId : UInt64} :
    (∃ w, ofKey key chainId = .ok w) ↔ ∃ secret, Denotes key secret := by
  constructor
  · rintro ⟨w, h⟩
    exact ⟨w.secret, (ofKey_ok_iff.mp h).1⟩
  · rintro ⟨secret, h⟩
    exact ⟨⟨secret, chainId, h.pos, h.lt⟩, ofKey_ok_iff.mpr ⟨h, rfl⟩⟩

/-- Whatever is wrong with a key, it is an error of the wallet. -/
theorem ofKey_error {key : String} {chainId : UInt64} {e : NetworkError}
    (h : ofKey key chainId = .error e) : ∃ why, e = badKey why := by
  unfold ofKey at h
  split at h
  · exact ⟨_, (Except.error.inj h).symm⟩
  · unfold ofSecret at h
    split at h
    · cases h
    · exact ⟨_, (Except.error.inj h).symm⟩

/-- Two spellings of one number give the same wallet. -/
theorem ofKey_congr {key other : String} {secret : Nat} (hkey : Denotes key secret)
    (hother : Denotes other secret) (chainId : UInt64) :
    ofKey key chainId = ofKey other chainId := by
  let w : Wallet := ⟨secret, chainId, hkey.pos, hkey.lt⟩
  have hfirst : ofKey key chainId = .ok w := ofKey_ok_iff.mpr ⟨hkey, rfl⟩
  have hsecond : ofKey other chainId = .ok w := ofKey_ok_iff.mpr ⟨hother, rfl⟩
  rw [hfirst, hsecond]

/-- The chain id has no part in addresses and signatures. -/
theorem same_secret {w w' : Wallet} (h : w.secret = w'.secret) :
    w.address = w'.address ∧ ∀ payload, w.sign payload = w'.sign payload := by
  constructor
  · rw [address, address, h]
  · intro payload
    rw [sign, sign, h]

/-- **Key texts denote keys.**  A text gives a wallet exactly if it denotes a number, and then the
    wallet has that number as its secret.  Any other text gives an error of the wallet and none.
    Two texts for one number give the same wallet, and the key in the environment gives what its
    text gives.  Addresses and signatures depend on the secret number only. -/
theorem keys_denote (key : String) (chainId : UInt64) :
    ((∃ w, ofKey key chainId = .ok w) ↔ ∃ secret, Denotes key secret) ∧
    (∀ w, ofKey key chainId = .ok w ↔ Denotes key w.secret ∧ w.chainId = chainId) ∧
    ((¬ ∃ secret, Denotes key secret) →
      ∃ why, ofKey key chainId = .error (.wallet ("Invalid private key format: " ++ why))) ∧
    (∀ other secret, Denotes key secret → Denotes other secret →
      ofKey key chainId = ofKey other chainId) ∧
    ofEnvironment (some key) chainId = ofKey key chainId ∧
    ∀ w w' : Wallet, w.secret = w'.secret →
      w.address = w'.address ∧ ∀ payload, w.sign payload = w'.sign payload := by
  refine ⟨exists_ofKey_iff, fun w => ofKey_ok_iff, ?_,
    fun other secret hkey hother => ofKey_congr hkey hother chainId, rfl, fun w w' => same_secret⟩
  intro hnone
  cases hread : ofKey key chainId with
  | ok w => exact absurd (exists_ofKey_iff.mp ⟨w, hread⟩) hnone
  | error e =>
    obtain ⟨why, rfl⟩ := ofKey_error hread
    exact ⟨why, rfl⟩

/-- A key in lower case without a mark, and the same in upper case with two marks. -/
theorem keys_denote_spellings :
    let plain := "ac0974bec39a17e36ba4a6b4d238ff944bacb478cbed5efcae784d7bf4f2ff80"
    let marked := "0x0xAC0974BEC39A17E36BA4A6B4D238FF944BACB478CBED5EFCAE784D7BF4F2FF80"
    ofKey plain 1 = ofKey marked 1 ∧ (∃ w, ofKey marked 1 = .ok w) ∧
      ∃ why, ofKey ("0x" ++ marked) 1 =
        .error (.wallet ("Invalid private key format: " ++ why)) := by
  intro plain marked
  let secret := 0xac0974bec39a17e36ba4a6b4d238ff944bacb478cbed5efcae784d7bf4f2ff80
  have hplain : Denotes plain secret :=
    ⟨by decide +kernel, Hex.isDigit_of_all (by decide +kernel), by decide +kernel, by decide,
      by decide⟩
  have hmarked : Denotes marked secret :=
    ⟨by decide +kernel, Hex.isDigit_of_all (by decide +kernel), by decide +kernel, by decide,
      by decide⟩
  have hthird : ¬ ∃ secret, Denotes ("0x" ++ marked) secret := by
    rintro ⟨_, h⟩
    exact absurd h.length (by decide +kernel)
  obtain ⟨-, -, -, hsame, -, -⟩ := keys_denote plain 1
  obtain ⟨hgives, -⟩ := keys_denote marked 1
  obtain ⟨-, -, hrefused, -⟩ := keys_denote ("0x" ++ marked) 1
  exact ⟨hsame marked secret hplain hmarked, hgives.mpr ⟨secret, hmarked⟩, hrefused hthird⟩

end TxRelay.Wallet
