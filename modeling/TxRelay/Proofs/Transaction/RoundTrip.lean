/-
  Written envelopes read back, and are accepted.

  A signed transaction is written as an envelope: a byte for its kind, but for the oldest, and a
  list of fields.

  1. **Fields.**  Each field reads what its writer wrote.

  2. **The number of the oldest kind.**  It packs the parity and the chain id into one number, which
     is taken apart again up to the largest chain id (`splitV_v`).

  3. **Bodies.**  So each body reads back, field after field.

  4. **Blob transactions.**  They are first tried in the form with blobs.  A plain one is not
     mistaken for it, because behind the header of its list stands a number and no list
     (`reads_plainBlob`); one with blobs has a list there (`reads_fullBlob`).

  5. **Envelopes.**  The first byte leads to the body of the right kind (`decode_kind`,
     `decode_legacy`), since a list never begins with a byte below 0x80.

  6. **Acceptance.**  Nothing is left behind an envelope, so the network's check passes, and a
     submission is refused for its endpoint or for the engine's end, never for its payload
     (`check_encode`).

  The crux is part 4, the one place where a reader goes back: what it looked at must not count as
  read, and what it finds there must decide the form for good.
-/
import TxRelay.Network
import TxRelay.Proofs.Engine.Alone
import TxRelay.Proofs.Rlp.RoundTrip
import TxRelay.Transaction.Decode
import TxRelay.Transaction.Encode

namespace TxRelay

open Rlp

namespace Envelope

/-! ## Fields -/

theorem reads_word64 (x : BitVec 64) : Reads word64 (writeNat x.toNat) x := reads_word (k := 8) x

theorem reads_word128 (x : BitVec 128) : Reads word128 (writeNat x.toNat) x :=
  reads_word (k := 16) x

/-- An address is written behind one byte, which is not the one of a contract creation. -/
theorem writeString_address (account : Address) :
    writeString account.val = 0x94 :: account.val := by
  have hlength := account.property
  rw [writeString_of_length_ne (by omega), hlength]
  rfl

/-- The recipient reads back, whether there is one or a contract is made. -/
theorem reads_recipient (target : Recipient) : Reads recipient target.encode target := by
  cases target with
  | create => exact fun _ _ => rfl
  | call account =>
    intro short rest
    have hfixed := reads_fixed account short rest
    have hother : ¬ (0x94 : UInt8) = 0x80 := by decide
    rw [writeString_address] at hfixed
    unfold recipient
    rw [Recipient.encode, writeString_address, List.cons_append, on_bind (on_peek _ _)]
    simp only [hother, if_false]
    rw [List.cons_append] at hfixed
    rw [on_bind hfixed]
    rfl

theorem reads_chunks {n : Nat} (cs : List (Chunk n)) :
    Reads (listOf (fixed n)) (encodeChunks cs) cs := by
  apply reads_listOf
  intro c _
  exact ⟨reads_fixed c, writeString_ne_nil c.val⟩

theorem reads_accessItem (i : AccessItem) :
    Reads accessItem (writeList [writeString i.account.val, encodeChunks i.keys]) i := by
  apply reads_record
  apply (reads_fixed i.account).bind
  apply (reads_chunks i.keys).bind
  exact Reads.pure i

theorem reads_accessList (items : List AccessItem) :
    Reads (listOf accessItem) (encodeAccessList items) items := by
  apply reads_listOf
  intro i _
  exact ⟨reads_accessItem i, writeList_ne_nil _⟩

/-- An authorization reads back, with any chain id and any signature. -/
theorem reads_authorization (a : Authorization) : Reads authorization a.encode a := by
  apply reads_record
  apply (reads_uint256 a.chainId).bind
  apply (reads_fixed a.delegate).bind
  apply (reads_word64 a.nonce).bind
  apply (reads_word (k := 1) a.yParity).bind
  apply (reads_uint256 a.r).bind
  apply (reads_uint256 a.s).bind
  exact Reads.pure a

theorem reads_authorizations (as : List Authorization) :
    Reads (listOf authorization) (writeList (as.map Authorization.encode)) as := by
  apply reads_listOf
  intro a _
  exact ⟨reads_authorization a, writeList_ne_nil _⟩

theorem reads_signature (g : Signature) : Reads signature g.fields.flatten g := by
  apply (reads_bool g.odd).bind
  apply (reads_uint256 g.r).bind
  apply (reads_uint256 g.s).bind
  exact Reads.pure g

/-! ## The number of the oldest kind -/

/-- The number tells the parity and the chain id apart, up to the largest chain id. -/
theorem splitV_v (g : Signature) (chainId : Option (BitVec 64)) :
    splitV (g.v chainId) = some (g.odd, chainId) := by
  unfold splitV Signature.v
  cases chainId with
  | none => cases g.odd <;> rfl
  | some c =>
    have hc : c.toNat < UInt64.size := c.isLt
    have hodd : g.odd.toNat < 2 := by cases g.odd <;> decide
    have hbig : 35 ≤ 35 + g.odd.toNat + 2 * c.toNat := by omega
    have hchain : (35 + g.odd.toNat + 2 * c.toNat - 35) / 2 = c.toNat := by omega
    have hparity : (35 + g.odd.toNat + 2 * c.toNat - 35) % 2 = g.odd.toNat := by omega
    have hflag : decide (g.odd.toNat ≠ 0) = g.odd := by cases g.odd <;> rfl
    dsimp only
    rw [if_neg (by omega), if_neg (by omega), if_pos hbig, hchain, if_pos hc, hparity, hflag,
      BitVec.ofNat_toNat, BitVec.setWidth_eq]

/-- It fits into its field. -/
theorem v_lt (g : Signature) (chainId : Option (BitVec 64)) : g.v chainId < 256 ^ 16 := by
  have hodd : g.odd.toNat < 2 := by cases g.odd <;> decide
  cases chainId with
  | none =>
    show 27 + g.odd.toNat < 256 ^ 16
    omega
  | some c =>
    have hc : c.toNat < 2 ^ 64 := c.isLt
    show 35 + g.odd.toNat + 2 * c.toNat < 256 ^ 16
    omega

/-! ## Bodies -/

/-- The oldest kind reads back, with a chain id or without one. -/
theorem reads_legacyBody (tx : LegacyTx) (g : Signature) :
    Reads legacyBody
      (writeList (tx.fields ++ [writeNat (g.v tx.chainId), writeNat g.r.toNat, writeNat g.s.toNat]))
      (.legacy tx g) := by
  have hv := v_lt g tx.chainId
  have hnumber : (BitVec.ofNat (8 * 16) (g.v tx.chainId)).toNat = g.v tx.chainId :=
    Nat.mod_eq_of_lt hv
  apply reads_record
  apply (reads_word64 tx.nonce).bind
  apply (reads_word128 tx.gasPrice).bind
  apply (reads_word64 tx.gasLimit).bind
  apply (reads_recipient tx.recipient).bind
  apply (reads_uint256 tx.value).bind
  apply (reads_string tx.input).bind
  apply (reads_uint hv).bind
  rw [hnumber, splitV_v]
  apply (reads_uint256 g.r).bind
  apply (reads_uint256 g.s).bind
  exact Reads.pure _

theorem reads_accessListBody (tx : AccessListTx) (g : Signature) :
    Reads accessListBody (writeList (tx.fields ++ g.fields)) (.accessList tx g) := by
  apply reads_record
  apply (reads_word64 tx.chainId).bind
  apply (reads_word64 tx.nonce).bind
  apply (reads_word128 tx.gasPrice).bind
  apply (reads_word64 tx.gasLimit).bind
  apply (reads_recipient tx.recipient).bind
  apply (reads_uint256 tx.value).bind
  apply (reads_string tx.input).bind
  apply (reads_accessList tx.accessList).bind
  exact (reads_signature g).last fun _ => rfl

theorem reads_dynamicFeeBody (tx : DynamicFeeTx) (g : Signature) :
    Reads dynamicFeeBody (writeList (tx.fields ++ g.fields)) (.dynamicFee tx g) := by
  apply reads_record
  apply (reads_word64 tx.chainId).bind
  apply (reads_word64 tx.nonce).bind
  apply (reads_word128 tx.maxPriorityFee).bind
  apply (reads_word128 tx.maxFee).bind
  apply (reads_word64 tx.gasLimit).bind
  apply (reads_recipient tx.recipient).bind
  apply (reads_uint256 tx.value).bind
  apply (reads_string tx.input).bind
  apply (reads_accessList tx.accessList).bind
  exact (reads_signature g).last fun _ => rfl

theorem reads_signedBlob (tx : BlobTx) (g : Signature) :
    Reads signedBlob (writeList (tx.fields ++ g.fields)) (tx, g) := by
  apply reads_record
  apply (reads_word64 tx.chainId).bind
  apply (reads_word64 tx.nonce).bind
  apply (reads_word128 tx.maxPriorityFee).bind
  apply (reads_word128 tx.maxFee).bind
  apply (reads_word64 tx.gasLimit).bind
  apply (reads_fixed tx.recipient).bind
  apply (reads_uint256 tx.value).bind
  apply (reads_string tx.input).bind
  apply (reads_accessList tx.accessList).bind
  apply (reads_word128 tx.maxBlobFee).bind
  apply (reads_chunks tx.blobHashes).bind
  exact (reads_signature g).last fun _ => rfl

theorem reads_delegationBody (tx : DelegationTx) (g : Signature) :
    Reads delegationBody (writeList (tx.fields ++ g.fields)) (.delegation tx g) := by
  apply reads_record
  apply (reads_word64 tx.chainId).bind
  apply (reads_word64 tx.nonce).bind
  apply (reads_word128 tx.maxPriorityFee).bind
  apply (reads_word128 tx.maxFee).bind
  apply (reads_word64 tx.gasLimit).bind
  apply (reads_fixed tx.recipient).bind
  apply (reads_uint256 tx.value).bind
  apply (reads_string tx.input).bind
  apply (reads_accessList tx.accessList).bind
  apply (reads_authorizations tx.authorizations).bind
  exact (reads_signature g).last fun _ => rfl

/-! ## Blob transactions -/

/-- The three lists of a sidecar. -/
theorem reads_lists {α : Type} (f : List (Chunk blobSize) → List (Chunk 48) → List (Chunk 48) → α)
    (blobs : List (Chunk blobSize)) (commitments proofs : List (Chunk 48)) :
    Reads (do return f (← listOf (fixed blobSize)) (← listOf (fixed 48)) (← listOf (fixed 48)))
      [encodeChunks blobs, encodeChunks commitments, encodeChunks proofs].flatten
      (f blobs commitments proofs) := by
  apply (reads_chunks blobs).bind
  apply (reads_chunks commitments).bind
  apply (reads_chunks proofs).bind
  exact Reads.pure _

/-- The blobs read back, with their commitments and proofs. -/
theorem reads_sidecar (s : Sidecar) : Reads sidecar s.fields.flatten s := by
  intro short rest
  unfold sidecar
  rw [on_get_bind]
  cases s with
  | blobProofs blobs commitments proofs =>
    have hread := reads_lists Sidecar.blobProofs blobs commitments proofs short rest
    have hblobs : (encodeChunks blobs).length < UInt64.size := by
      refine Nat.lt_of_le_of_lt ?_ short
      simp [Sidecar.fields]
    obtain ⟨b, hb, hlist⟩ := head?_writeList (Nat.lt_of_le_of_lt (length_writeList _) hblobs)
    -- the older form begins with a list, and the newer one with its number
    have hfirst : ((Sidecar.blobProofs blobs commitments proofs).fields.flatten ++ rest).head? ≠
        some 1 := by
      show (encodeChunks blobs ++ _ ++ rest).head? ≠ some 1
      rw [List.append_assoc, List.head?_append, encodeChunks, hb]
      rintro hone
      obtain rfl := Option.some.inj hone
      exact absurd hlist (by decide)
    rw [if_neg hfirst]
    exact hread
  | cellProofs blobs commitments proofs =>
    have hkind : Reads (uint 1) (writeNat 1) (BitVec.ofNat (8 * 1) 1) := reads_uint (by decide)
    have hlists := reads_lists Sidecar.cellProofs blobs commitments proofs
    have hfirst : ((Sidecar.cellProofs blobs commitments proofs).fields.flatten ++ rest).head? =
        some 1 := rfl
    rw [if_pos hfirst]
    exact hkind.bind (f := fun _ => _) hlists short rest

/-- Whether the first item of a list is a list itself decides how a blob transaction is read. -/
theorem on_startsWithList {first inner : Bytes} {items : List Bytes} {h : Header}
    (headed : ∀ rest, header.on (first ++ rest) = (.ok h, inner ++ rest))
    (short : (writeList (first :: items)).length < UInt64.size) (rest : Bytes) :
    (startsWithList.on (writeList (first :: items) ++ rest)).1 = .ok h.isList := by
  have hshort := Nat.lt_of_le_of_lt (length_writeList (first :: items)) short
  unfold startsWithList
  rw [on_bind (header_writeList hshort rest), List.flatten_cons, List.append_assoc,
    on_bind (headed _)]
  rfl

/-- A plain body begins with a number, so it is not taken for one with blobs. -/
theorem reads_plainBlob (tx : BlobTx) (g : Signature) :
    Reads blobBody (writeList (tx.fields ++ g.fields)) (.blob tx g none) := by
  intro short rest
  have hchain : (Bytes.ofNat tx.chainId.toNat).length < UInt64.size := by
    have hle : (Bytes.ofNat tx.chainId.toNat).length ≤ 8 := Bytes.length_ofNat_le tx.chainId.isLt
    exact Nat.lt_of_le_of_lt hle (by decide)
  have hstart : (startsWithList.on (writeList (tx.fields ++ g.fields) ++ rest)).1 = .ok false :=
    on_startsWithList (header_writeString hchain) short rest
  have hplain := reads_signedBlob tx g short rest
  unfold blobBody
  rw [on_get_bind]
  generalize startsWithList.on (writeList (tx.fields ++ g.fields) ++ rest) = found at hstart ⊢
  obtain ⟨answer, left⟩ := found
  obtain rfl : answer = .ok false := hstart
  dsimp only
  rw [on_bind hplain]
  rfl

theorem reads_blobWithSidecar (tx : BlobTx) (g : Signature) (s : Sidecar) :
    Reads blobWithSidecar (writeList (writeList (tx.fields ++ g.fields) :: s.fields))
      (.blob tx g (some s)) := by
  apply reads_record
  apply (reads_signedBlob tx g).bind
  exact (reads_sidecar s).last fun _ => rfl

/-- A body with blobs begins with a list, and is read in that form. -/
theorem reads_fullBlob (tx : BlobTx) (g : Signature) (s : Sidecar) :
    Reads blobBody (writeList (writeList (tx.fields ++ g.fields) :: s.fields))
      (.blob tx g (some s)) := by
  intro short rest
  -- the inner list is shorter than the outer one
  have hinner : (tx.fields ++ g.fields).flatten.length < UInt64.size := by
    have houter := length_writeList (writeList (tx.fields ++ g.fields) :: s.fields)
    have hlist := length_writeList (tx.fields ++ g.fields)
    rw [List.flatten_cons, List.length_append] at houter
    omega
  have hstart : (startsWithList.on
      (writeList (writeList (tx.fields ++ g.fields) :: s.fields) ++ rest)).1 = .ok true :=
    on_startsWithList (header_writeList hinner) short rest
  have hfull := reads_blobWithSidecar tx g s short rest
  unfold blobBody
  rw [on_get_bind]
  generalize startsWithList.on
    (writeList (writeList (tx.fields ++ g.fields) :: s.fields) ++ rest) = found at hstart ⊢
  obtain ⟨answer, left⟩ := found
  obtain rfl : answer = .ok true := hstart
  dsimp only
  rw [hfull]
  rfl

/-! ## Envelopes -/

/-- The byte of a kind leads to the body of that kind. -/
theorem decode_kind {kind : UInt8} {body : Reader Envelope} {bs : Bytes} {e : Envelope}
    (low : kind < 0x80) (found : bodies[kind.toNat]? = some body) (read : Reads body bs e)
    (short : (kind :: bs).length < UInt64.size) (rest : Bytes) :
    decode (kind :: bs ++ rest) = .ok (e, rest) := by
  have hbody := read (Nat.lt_of_succ_lt short) rest
  rw [List.cons_append, decode, if_pos low, found]
  dsimp only
  rw [hbody]

/-- The oldest kind begins with a list at once, and its body is the first that is tried. -/
theorem decode_legacy {bs : Bytes} {items : List Bytes} {e : Envelope} (list : bs = writeList items)
    (read : Reads legacyBody bs e) (short : bs.length < UInt64.size) (rest : Bytes) :
    decode (bs ++ rest) = .ok (e, rest) := by
  have hbody := read short rest
  subst list
  obtain ⟨b, hb, hlist⟩ := head?_writeList (Nat.lt_of_le_of_lt (length_writeList items) short)
  obtain ⟨tail, hbs⟩ := List.head?_eq_some_iff.mp hb
  have hhigh : ¬ b < 0x80 := show ¬ b.toNat < 0x80 by omega
  rw [hbs, List.cons_append] at hbody ⊢
  rw [decode, if_neg hhigh, bodies, firstBody, hbody]

/-- **What was written is read back**, and nothing behind it is touched. -/
theorem decode_encode (e : Envelope) (short : e.encode.length < UInt64.size) (rest : Bytes) :
    decode (e.encode ++ rest) = .ok (e, rest) := by
  cases e with
  | legacy tx g => exact decode_legacy rfl (reads_legacyBody tx g) short rest
  | accessList tx g => exact decode_kind (by decide) rfl (reads_accessListBody tx g) short rest
  | dynamicFee tx g => exact decode_kind (by decide) rfl (reads_dynamicFeeBody tx g) short rest
  | blob tx g blobs =>
    cases blobs with
    | none => exact decode_kind (by decide) rfl (reads_plainBlob tx g) short rest
    | some s => exact decode_kind (by decide) rfl (reads_fullBlob tx g s) short rest
  | delegation tx g => exact decode_kind (by decide) rfl (reads_delegationBody tx g) short rest

/-- A written envelope is read to its end. -/
theorem ofBytes_encode (e : Envelope) (short : e.encode.length < UInt64.size) :
    ofBytes e.encode = .ok e := by
  have hread := decode_encode e short []
  rw [List.append_nil] at hread
  rw [ofBytes, hread]

/-! ## Acceptance -/

theorem encode_ne_nil (e : Envelope) : e.encode ≠ [] := by
  cases e with
  | legacy tx g => exact writeList_ne_nil _
  | blob tx g blobs => cases blobs <;> exact List.cons_ne_nil _ _
  | _ => exact List.cons_ne_nil _ _

/-- The network's check accepts it. -/
theorem validate_encode (e : Envelope) (short : e.encode.length < UInt64.size) :
    validateEnvelope e.encode = .ok () := by
  rw [validateEnvelope, ofBytes_encode e short]

/-- What is left of the checks of a request whose payload passes is the check of its endpoint. -/
theorem check_encode (e : Envelope) (short : e.encode.length < UInt64.size) (n : Rpc.Network)
    (endpoint : String) (jobId : JobId) :
    Engine.check (Network.nodes n).validate ⟨e.encode, endpoint, jobId⟩ =
      match Endpoint.parse endpoint with
      | .error why => .error (.invalidEndpoint endpoint why.reason)
      | .ok _ => .ok () := by
  have hpayload : e.encode.isEmpty = false := List.isEmpty_eq_false_iff.mpr (encode_ne_nil e)
  have hvalid : (Network.nodes n).validate e.encode = .ok () := validate_encode e short
  unfold Engine.check
  cases Endpoint.parse endpoint with
  | error why => simp only [hpayload, Bool.false_eq_true, if_false]
  | ok _ => simp only [hpayload, hvalid, Bool.false_eq_true, if_false]

/-- **Every signed transaction is accepted.**  Whatever the values of its fields and of its
    signature, whatever its kind, and with blobs or without: the network's check reads its
    envelope as that transaction and passes, and a submission of it is refused only by an engine
    that is gone or for an endpoint that is none.  An envelope in memory is `short`: no text there
    has more bytes than an address can count. -/
theorem signed_accepted (e : Envelope) (short : e.encode.length < UInt64.size) :
    ofBytes e.encode = .ok e ∧
    validateEnvelope e.encode = .ok () ∧
    ∀ (n : Rpc.Network) (engine : Engine) (endpoint : String) (jobId : JobId),
      (Engine.submit (Network.nodes n).validate ⟨e.encode, endpoint, jobId⟩ engine).1 =
        if engine.phase = .destroyed then .error .destroyed
        else
          match Endpoint.parse endpoint with
          | .error why => .error (.invalidEndpoint endpoint why.reason)
          | .ok _ => .ok () := by
  refine ⟨ofBytes_encode e short, validate_encode e short, ?_⟩
  intro n engine endpoint jobId
  have hcheck := check_encode e short n endpoint jobId
  by_cases hgone : engine.phase = .destroyed
  · rw [if_pos hgone, Engine.submit, hgone]
  · rw [if_neg hgone, ← hcheck]
    rcases @Engine.submit_live engine (Network.nodes n).validate ⟨e.encode, endpoint, jobId⟩ hgone
      with ⟨err, hbad, hsubmit⟩ | ⟨hok, hsubmit⟩
    · rw [hsubmit, hbad]
    · rw [hsubmit, hok]

/-- A transaction of the oldest kind with the largest value in each field, and a payload that
    takes a long header. -/
def widest : Envelope :=
  .legacy
    { chainId := some (BitVec.allOnes 64)
      nonce := BitVec.allOnes 64
      gasPrice := BitVec.allOnes 128
      gasLimit := BitVec.allOnes 64
      recipient := .call ⟨List.replicate 20 0xff, rfl⟩
      value := BitVec.allOnes 256
      input := List.replicate 300 0xff }
    ⟨true, BitVec.allOnes 256, BitVec.allOnes 256⟩

/-- A transaction with the largest numbers is accepted. -/
theorem signed_accepted_widest :
    widest.encode.length = 471 ∧
    widest.encode.length < UInt64.size ∧
    ofBytes widest.encode = .ok widest ∧
    validateEnvelope widest.encode = .ok () ∧
    ∀ (n : Rpc.Network) (engine : Engine) (endpoint : String) (jobId : JobId),
      (Engine.submit (Network.nodes n).validate ⟨widest.encode, endpoint, jobId⟩ engine).1 =
        if engine.phase = .destroyed then .error .destroyed
        else
          match Endpoint.parse endpoint with
          | .error why => .error (.invalidEndpoint endpoint why.reason)
          | .ok _ => .ok () := by
  have hlength : widest.encode.length = 471 := by decide +kernel
  have hshort : widest.encode.length < UInt64.size := by
    rw [hlength]
    decide
  exact ⟨hlength, hshort, signed_accepted widest hshort⟩

end Envelope

end TxRelay
