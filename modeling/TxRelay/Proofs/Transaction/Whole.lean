/-
  One whole envelope and nothing behind it.

  The check of a payload reads an envelope and asks that no bytes are left.  So what it accepts
  should stop being accepted when bytes are put behind it, with their number as the reason, and no
  accepted payload should begin another one.

  1. **Bodies.**  Every body is read by a steady reader: more bytes behind it change nothing.

  2. **Tries.**  A payload that announces its kind is read by one body alone.  One without a kind
     goes through the bodies one after the other, each where the one before it gave up (`tries`,
     `firstBody_tries`).

  3. **Envelopes.**  A body that gave up because the input ran out need not do so when there is more
     input, and then all that comes after it is read from another place.  So the law holds unless
     that happened (`Starved`): a payload that is read is read with more bytes behind it, too
     (`decode_append`), and those are left.

  4. **Acceptance.**  A payload with a kind is never starved (`not_starved_of_kind`), and neither is
     the oldest kind where its own body reads it (`not_starved_of_legacy`).

  5. **Where the law fails.**  There are payloads, accepted both, of which one begins the other
     (`accepted_prefix`).

  The crux is that a body that fails has moved the place from which the next one reads.  A failure
  that is not for want of bytes leaves the same place with more bytes, and this is what steadiness
  says of failures.
-/
import Mathlib.Control.Monad.Basic
import TxRelay.Network.StandIn
import TxRelay.Proofs.Rlp.Steady
import TxRelay.Transaction.Decode

namespace TxRelay.Envelope

open Rlp

/-! ## Bodies -/

theorem steady_recipient : Steady recipient := by
  intro bs more fed
  cases bs with
  | nil => exact absurd rfl fed
  | cons b bs =>
    unfold recipient at fed ⊢
    rw [List.cons_append]
    rw [on_bind (on_peek b bs)] at fed ⊢
    rw [on_bind (on_peek b (bs ++ more))]
    by_cases hcreate : b = 0x80
    · simp only [hcreate, if_true]
      rfl
    · simp only [hcreate, if_false] at fed ⊢
      exact ((steady_fixed 20).bind fun _ => steady_pure _) (b :: bs) more fed

theorem steady_signature : Steady signature :=
  steady_bool.bind fun _ => steady_uint256.bind fun _ => steady_uint256.bind fun _ => steady_pure _

/-- The oldest kind is read the same way. -/
theorem steady_legacyBody : Steady legacyBody := by
  refine steady_record ?_
  refine (steady_uint 8).bind fun nonce => ?_
  refine (steady_uint 16).bind fun gasPrice => ?_
  refine (steady_uint 8).bind fun gasLimit => ?_
  refine steady_recipient.bind fun target => ?_
  refine steady_uint256.bind fun value => ?_
  refine steady_string.bind fun input => ?_
  refine (steady_uint 16).bind fun v => ?_
  split
  · exact steady_throw _
  · exact steady_uint256.bind fun r => steady_uint256.bind fun s => steady_pure _

theorem steady_accessListBody : Steady accessListBody := by
  refine steady_record ?_
  refine (steady_uint 8).bind fun chainId => ?_
  refine (steady_uint 8).bind fun nonce => ?_
  refine (steady_uint 16).bind fun gasPrice => ?_
  refine (steady_uint 8).bind fun gasLimit => ?_
  refine steady_recipient.bind fun recipient => ?_
  refine steady_uint256.bind fun value => ?_
  refine steady_string.bind fun input => ?_
  refine (steady_listOf _).bind fun accessList => ?_
  exact steady_signature.bind fun sig => steady_pure _

theorem steady_dynamicFeeBody : Steady dynamicFeeBody := by
  refine steady_record ?_
  refine (steady_uint 8).bind fun chainId => ?_
  refine (steady_uint 8).bind fun nonce => ?_
  refine (steady_uint 16).bind fun priorityFee => ?_
  refine (steady_uint 16).bind fun maxFee => ?_
  refine (steady_uint 8).bind fun gasLimit => ?_
  refine steady_recipient.bind fun recipient => ?_
  refine steady_uint256.bind fun value => ?_
  refine steady_string.bind fun input => ?_
  refine (steady_listOf _).bind fun accessList => ?_
  exact steady_signature.bind fun sig => steady_pure _

theorem steady_signedBlob : Steady signedBlob := by
  refine steady_record ?_
  refine (steady_uint 8).bind fun chainId => ?_
  refine (steady_uint 8).bind fun nonce => ?_
  refine (steady_uint 16).bind fun priorityFee => ?_
  refine (steady_uint 16).bind fun maxFee => ?_
  refine (steady_uint 8).bind fun gasLimit => ?_
  refine (steady_fixed 20).bind fun recipient => ?_
  refine steady_uint256.bind fun value => ?_
  refine steady_string.bind fun input => ?_
  refine (steady_listOf _).bind fun accessList => ?_
  refine (steady_uint 16).bind fun blobFee => ?_
  refine (steady_listOf _).bind fun hashes => ?_
  exact steady_signature.bind fun sig => steady_pure _

theorem steady_delegationBody : Steady delegationBody := by
  refine steady_record ?_
  refine (steady_uint 8).bind fun chainId => ?_
  refine (steady_uint 8).bind fun nonce => ?_
  refine (steady_uint 16).bind fun priorityFee => ?_
  refine (steady_uint 16).bind fun maxFee => ?_
  refine (steady_uint 8).bind fun gasLimit => ?_
  refine (steady_fixed 20).bind fun recipient => ?_
  refine steady_uint256.bind fun value => ?_
  refine steady_string.bind fun input => ?_
  refine (steady_listOf _).bind fun accessList => ?_
  refine (steady_listOf _).bind fun authorizations => ?_
  exact steady_signature.bind fun sig => steady_pure _

/-- The three lists of a sidecar. -/
theorem steady_sidecar : Steady sidecar := by
  have hlists (f : List (Chunk blobSize) → List (Chunk 48) → List (Chunk 48) → Sidecar) :
      Steady (do
        return f (← listOf (fixed blobSize)) (← listOf (fixed 48)) (← listOf (fixed 48))) :=
    (steady_listOf _).bind fun _ => (steady_listOf _).bind fun _ => (steady_listOf _).bind fun _ =>
      steady_pure _
  intro bs more fed
  cases bs with
  | nil => exact absurd rfl fed
  | cons b bs =>
    -- the first byte decides the form, and it stays the first
    have hhead : (b :: bs ++ more).head? = (b :: bs).head? := rfl
    unfold sidecar at fed ⊢
    rw [on_get_bind] at fed ⊢
    rw [on_get_bind, hhead]
    by_cases hfirst : (b :: bs).head? = some 1
    · rw [if_pos hfirst] at fed ⊢
      exact ((steady_uint 1).bind fun _ => hlists .cellProofs) (b :: bs) more fed
    · rw [if_neg hfirst] at fed ⊢
      exact hlists .blobProofs (b :: bs) more fed

theorem steady_blobWithSidecar : Steady blobWithSidecar := by
  refine steady_record (steady_signedBlob.bind fun signed => ?_)
  exact steady_sidecar.bind fun s => steady_pure _

theorem steady_startsWithList : Steady startsWithList :=
  steady_header.bind fun _ => steady_header.bind fun _ => steady_pure _

/-! ## Tries -/

/-- The form with blobs: it is tried where a list starts right inside the outer list, and takes
    nothing if it fails. -/
def fullBlob : Reader Envelope := do
  let bs ← get
  match startsWithList.on bs with
  | (.ok true, _) =>
    match blobWithSidecar.on bs with
    | (.ok e, rest) => do set rest; pure e
    | (.error e, _) => throw e
  | (.ok false, _) => throw .unexpectedString
  | (.error e, _) => throw e

/-- The form without blobs. -/
def plainBlob : Reader Envelope := do
  let (tx, sig) ← signedBlob
  pure (.blob tx sig none)

/-- What is tried for a payload without a kind, one after the other. -/
def tries : List (Reader Envelope) :=
  [legacyBody, accessListBody, dynamicFeeBody, fullBlob, plainBlob, delegationBody]

/-- Why the readers before the first that succeeds gave up. -/
def failures : List (Reader Envelope) → Bytes → List Rlp.Error
  | [], _ => []
  | r :: more, bs =>
    match r.on bs with
    | (.ok _, _) => []
    | (.error e, rest) => e :: failures more rest

/-- The payload announces no kind, and something that was tried before its envelope was found gave
    up because the input ran out. -/
def Starved (bs : Bytes) : Prop :=
  ∃ b rest, bs = b :: rest ∧ ¬ b < 0x80 ∧ .inputTooShort ∈ failures tries bs

/-- The form with blobs, if a list stands first, and otherwise from the start again. -/
theorem on_fullBlob (bs : Bytes) :
    fullBlob.on bs =
      match startsWithList.on bs with
      | (.ok true, _) =>
        match blobWithSidecar.on bs with
        | (.ok e, rest) => (.ok e, rest)
        | (.error e, _) => (.error e, bs)
      | (.ok false, _) => (.error .unexpectedString, bs)
      | (.error e, _) => (.error e, bs) := by
  unfold fullBlob
  rw [on_get_bind]
  rcases startsWithList.on bs with ⟨answer, left⟩
  cases answer with
  | error e => rfl
  | ok list =>
    cases list with
    | false => rfl
    | true =>
      rcases blobWithSidecar.on bs with ⟨answer, rest⟩
      cases answer <;> rfl

/-- The body of kind 3 is the form with blobs and, failing that, the one without. -/
theorem on_blobBody (bs : Bytes) :
    blobBody.on bs =
      match fullBlob.on bs with
      | (.ok e, rest) => (.ok e, rest)
      | (.error _, _) => plainBlob.on bs := by
  unfold blobBody
  rw [on_get_bind, on_fullBlob]
  rcases startsWithList.on bs with ⟨answer, left⟩
  cases answer with
  | error e => rfl
  | ok list =>
    cases list with
    | false => rfl
    | true =>
      rcases blobWithSidecar.on bs with ⟨answer, rest⟩
      cases answer <;> rfl

/-- So is the form with blobs, and the way back from it. -/
theorem steady_fullBlob : Steady fullBlob := by
  intro bs more fed
  have hstart := steady_startsWithList bs
  have hfull := steady_blobWithSidecar bs
  rw [on_fullBlob] at fed
  rw [on_fullBlob, on_fullBlob]
  rcases hs : startsWithList.on bs with ⟨answer, left⟩
  rw [hs] at fed
  cases answer with
  | error e =>
    rw [hstart.error hs (fun h => fed (congrArg Except.error h)) more]
  | ok list =>
    rw [hstart.ok hs more]
    -- no list: the reader goes back to where it began
    cases list with
    | false => rfl
    | true =>
      rcases hb : blobWithSidecar.on bs with ⟨answer, rest⟩
      rw [hb] at fed
      cases answer with
      | error e => rw [hfull.error hb (fun h => fed (congrArg Except.error h)) more]
      | ok e => rw [hfull.ok hb more]

theorem steady_plainBlob : Steady plainBlob := steady_signedBlob.bind fun _ => steady_pure _

/-- A number stands first in a plain body, so no list starts there. -/
theorem plainBlob_starts {bs rest : Bytes} {e : Envelope} (h : plainBlob.on bs = (.ok e, rest)) :
    ∃ left, startsWithList.on bs = (.ok false, left) := by
  obtain ⟨signed, after, hsigned, -⟩ := bind_ok h
  -- down to the first field: the header of the list, then that of a number
  obtain ⟨expected, start, hlist, hfields⟩ := record_ok hsigned
  obtain ⟨outer, start', houter, hstart⟩ := bind_ok hlist
  obtain ⟨chainId, _, hchain, -⟩ := bind_ok hfields
  obtain ⟨digits, _, hstring, -⟩ := bind_ok hchain
  obtain ⟨inner, left, hinner, hcontent⟩ := bind_ok hstring
  obtain rfl : start' = start := by
    split at hstart
    · cases hstart
    · exact (Prod.mk.inj hstart).2
  have hnumber : inner.isList = false := by
    cases hkind : inner.isList with
    | false => rfl
    | true =>
      rw [hkind] at hcontent
      cases hcontent
  refine ⟨left, ?_⟩
  unfold startsWithList
  rw [on_bind houter, on_bind hinner, hnumber]
  rfl

/-- So a plain body that is read was not taken for one with blobs, and not for want of input. -/
theorem fullBlob_of_plain {bs rest : Bytes} {e : Envelope} (h : plainBlob.on bs = (.ok e, rest)) :
    fullBlob.on bs = (.error .unexpectedString, bs) := by
  obtain ⟨left, hstart⟩ := plainBlob_starts h
  rw [on_fullBlob, hstart]

/-- Each of the bodies that are tried is steady. -/
theorem steady_tries : ∀ r ∈ tries, Steady r := by
  intro r hr
  simp only [tries, List.mem_cons, List.not_mem_nil, or_false] at hr
  rcases hr with rfl | rfl | rfl | rfl | rfl | rfl
  · exact steady_legacyBody
  · exact steady_accessListBody
  · exact steady_dynamicFeeBody
  · exact steady_fullBlob
  · exact steady_plainBlob
  · exact steady_delegationBody

/-! ## Envelopes -/

/-- A form with blobs that cannot be read takes nothing. -/
theorem fullBlob_rest {bs rest : Bytes} {e : Rlp.Error} (h : fullBlob.on bs = (.error e, rest)) :
    rest = bs := by
  rw [on_fullBlob] at h
  split at h
  · split at h
    · cases h
    · exact (Prod.mk.inj h).2.symm
  · exact (Prod.mk.inj h).2.symm
  · exact (Prod.mk.inj h).2.symm

/-- What is tried later may be replaced by what does the same. -/
theorem firstBody_congr {rs rs' : List (Reader Envelope)}
    (h : ∀ bs, firstBody rs bs = firstBody rs' bs) (r : Reader Envelope) (bs : Bytes) :
    firstBody (r :: rs) bs = firstBody (r :: rs') bs := by
  unfold firstBody
  rcases r.on bs with ⟨answer, rest⟩
  cases answer with
  | ok e => rfl
  | error e => exact h rest

/-- To try the two forms of kind 3 one after the other is to try its body. -/
theorem firstBody_tries (bs : Bytes) : firstBody tries bs = firstBody bodies bs := by
  refine firstBody_congr (fun bs => firstBody_congr (fun bs => firstBody_congr ?_ _ bs) _ bs) _ bs
  intro bs
  rw [firstBody, firstBody, on_blobBody]
  rcases hfull : fullBlob.on bs with ⟨answer, rest⟩
  cases answer with
  | ok e => rfl
  | error e =>
    rw [fullBlob_rest hfull]
    rfl

/-- More bytes behind the input change nothing, if nothing that was tried ran out of it. -/
theorem firstBody_append {rs : List (Reader Envelope)} {bs rest : Bytes} {e : Envelope}
    (steady : ∀ r ∈ rs, Steady r) (found : firstBody rs bs = some (e, rest))
    (fed : .inputTooShort ∉ failures rs bs) (more : Bytes) :
    firstBody rs (bs ++ more) = some (e, rest ++ more) := by
  induction rs generalizing bs with
  | nil => cases found
  | cons r rs ih =>
    have hsteady := steady r List.mem_cons_self bs
    rcases hr : r.on bs with ⟨answer, left⟩
    rw [firstBody, hr] at found
    rw [failures, hr] at fed
    cases answer with
    | ok a =>
      obtain ⟨rfl, rfl⟩ := Prod.mk.inj (Option.some.inj found)
      rw [firstBody, hsteady.ok hr more]
    | error err =>
      rw [List.mem_cons, not_or] at fed
      rw [firstBody, hsteady.error hr (Ne.symm fed.1) more]
      exact ih (fun r hr => steady r (List.mem_cons_of_mem _ hr)) found fed.2

/-- A body that is read is read in the same way with more bytes behind it. -/
theorem body_append {body : Reader Envelope} (kind : body ∈ bodies) {bs rest : Bytes}
    {e : Envelope} (read : body.on bs = (.ok e, rest)) (more : Bytes) :
    body.on (bs ++ more) = (.ok e, rest ++ more) := by
  simp only [bodies, List.mem_cons, List.not_mem_nil, or_false] at kind
  rcases kind with rfl | rfl | rfl | rfl | rfl
  · exact (steady_legacyBody bs).ok read more
  · exact (steady_accessListBody bs).ok read more
  · exact (steady_dynamicFeeBody bs).ok read more
  · rw [on_blobBody] at read ⊢
    -- blobs are tried first, and with more bytes they fail in the same way
    rcases hfull : fullBlob.on bs with ⟨answer, left⟩
    rw [hfull] at read
    cases answer with
    | ok a =>
      obtain ⟨ha, rfl⟩ := Prod.mk.inj read
      rw [(steady_fullBlob bs).ok hfull more, ha]
    | error err =>
      have hplain := fullBlob_of_plain read
      rw [(steady_fullBlob bs).error hplain nofun more]
      exact (steady_plainBlob bs).ok read more
  · exact (steady_delegationBody bs).ok read more

/-- An envelope is read in the same way with more bytes behind it. -/
theorem decode_append {bs rest : Bytes} {e : Envelope} (read : decode bs = .ok (e, rest))
    (fed : ¬ Starved bs) (more : Bytes) : decode (bs ++ more) = .ok (e, rest ++ more) := by
  cases bs with
  | nil => cases read
  | cons b bs =>
    rw [decode] at read
    rw [List.cons_append, decode]
    by_cases hkind : b < 0x80
    · rw [if_pos hkind] at read ⊢
      cases hbody : bodies[b.toNat]? with
      | none =>
        rw [hbody] at read
        cases read
      | some body =>
        rw [hbody] at read
        dsimp only at read ⊢
        rcases hr : body.on bs with ⟨answer, left⟩
        rw [hr] at read
        cases answer with
        | error err => cases read
        | ok a =>
          obtain ⟨rfl, rfl⟩ := Prod.mk.inj (Except.ok.inj read)
          rw [body_append (List.mem_of_getElem? hbody) hr more]
    · rw [if_neg hkind, ← firstBody_tries] at read ⊢
      -- no body before the one that read gave up for want of bytes
      have hfed : .inputTooShort ∉ failures tries (b :: bs) :=
        fun hshort => fed ⟨b, bs, rfl, hkind, hshort⟩
      cases hfound : firstBody tries (b :: bs) with
      | none =>
        rw [hfound] at read
        cases read
      | some found =>
        rw [hfound] at read
        obtain rfl := Except.ok.inj read
        have happend := firstBody_append steady_tries hfound hfed more
        rw [List.cons_append] at happend
        rw [happend]

/-! ## Acceptance -/

/-- A payload is accepted if an envelope is read and nothing is left. -/
theorem validate_ok {bs : Bytes} :
    validateEnvelope bs = .ok () ↔ ∃ e, decode bs = .ok (e, []) := by
  unfold validateEnvelope ofBytes
  rcases decode bs with err | ⟨e, rest⟩
  · simp
  · cases rest <;> simp

/-- A payload that announces its kind is not starved. -/
theorem not_starved_of_kind {b : UInt8} (kind : b < 0x80) (bs : Bytes) : ¬ Starved (b :: bs) := by
  rintro ⟨b', rest, hbs, hhigh, -⟩
  obtain ⟨rfl, -⟩ := List.cons.inj hbs
  exact hhigh kind

/-- Neither is one that is read as a transaction of the oldest kind. -/
theorem not_starved_of_legacy {bs rest : Bytes} {e : Envelope}
    (legacy : legacyBody.on bs = (.ok e, rest)) : ¬ Starved bs := by
  rintro ⟨b, tail, -, -, hshort⟩
  rw [tries, failures, legacy] at hshort
  cases hshort

/-- **An accepted payload is one whole envelope.**  If the network's check accepts a payload, then
    with any bytes behind it the payload is refused for these bytes, which the refusal counts; so
    no accepted payload begins another one.  This holds of every payload that announces its kind,
    whatever the kind and with blobs or without, and of every transaction of the oldest kind.  A
    payload without a kind that is read as one of a later kind has to be such that nothing that was
    tried before ran out of input. -/
theorem whole_envelope (bs more : Bytes) (behind : more ≠ [])
    (accepted : validateEnvelope bs = .ok ()) :
    (¬ Starved bs → validateEnvelope (bs ++ more) =
      .error (.invalidPayload
        (toString more.length ++ " trailing bytes after transaction envelope"))) ∧
    (validateEnvelope (bs ++ more) = .ok () → Starved bs) ∧
    ((∃ b ∈ bs.head?, b < 0x80) ∨ (∃ e, legacyBody.on bs = (.ok e, [])) → ¬ Starved bs) := by
  have htrailing (fed : ¬ Starved bs) : validateEnvelope (bs ++ more) =
      .error (.invalidPayload
        (toString more.length ++ " trailing bytes after transaction envelope")) := by
    obtain ⟨e, hread⟩ := validate_ok.mp accepted
    have hmore := decode_append hread fed more
    obtain ⟨b, rest, rfl⟩ := List.exists_cons_of_ne_nil behind
    rw [List.nil_append] at hmore
    rw [validateEnvelope, ofBytes, hmore]
    rfl
  refine ⟨htrailing, ?_, ?_⟩
  · intro haccepted
    refine Classical.byContradiction fun hfed => ?_
    cases (htrailing hfed).symm.trans haccepted
  · rintro (⟨b, hb, hkind⟩ | ⟨e, hlegacy⟩)
    · obtain ⟨rest, rfl⟩ := List.head?_eq_some_iff.mp hb
      exact not_starved_of_kind hkind rest
    · exact not_starved_of_legacy hlegacy

/-- A transaction of kind 1 with nothing in it. -/
def barest : Bytes := [0x01, 0xcb, 0x80, 0x80, 0x80, 0x80, 0x80, 0x80, 0x80, 0xc0, 0x80, 0x80, 0x80]

/-- An envelope with nothing in it is accepted, and not with two bytes behind it. -/
theorem whole_envelope_barest :
    validateEnvelope barest = .ok () ∧
    validateEnvelope (barest ++ [0x01, 0xcb]) =
      .error (.invalidPayload "2 trailing bytes after transaction envelope") := by
  have haccepted : validateEnvelope barest = .ok () := by decide +kernel
  obtain ⟨htrailing, -, hfed⟩ := whole_envelope barest [0x01, 0xcb] (by decide) haccepted
  exact ⟨haccepted, htrailing (hfed (.inl ⟨0x01, rfl, by decide⟩))⟩

/-! ### Where the input ran out -/

/-- The transaction of kind 1 with nothing in it, with the header of a longer list in the place of
    its kind. -/
def overlong : Bytes :=
  [0xcd, 0xcb, 0x80, 0x80, 0x80, 0x80, 0x80, 0x80, 0x80, 0xc0, 0x80, 0x80, 0x80]

/-- Behind such a header, a transaction of kind 1 in whose fields one of kind 2 begins. -/
def entangled : Bytes :=
  [0xe7, 0xe5, 0x87, 0xe4, 0x80, 0x80, 0x80, 0x80, 0x80, 0x94, 0x80, 0x80, 0x80, 0x80, 0x80] ++
    0x93 :: List.replicate 14 0x00 ++ [0x80, 0x80, 0xc0, 0x80, 0x84, 0xc0, 0x80, 0x80, 0x80]

/-- The body of the oldest kind gives up at the overlong header, for want of input, and that of
    kind 1 is read behind it.  With one more byte the header is taken, and the payload is none, or
    another one. -/
theorem accepted_prefix :
    validateEnvelope overlong = .ok () ∧
    validateEnvelope (overlong ++ [0x00]) =
      .error (.invalidPayload "Unexpected type flag. Got 0.") ∧
    validateEnvelope entangled = .ok () ∧
    validateEnvelope (entangled ++ [0x80]) = .ok () ∧
    Starved overlong ∧ Starved entangled := by
  refine ⟨by decide +kernel, by decide +kernel, by decide +kernel, by decide +kernel, ?_, ?_⟩
  · exact ⟨0xcd, _, rfl, by decide, by decide +kernel⟩
  · exact ⟨0xe7, _, rfl, by decide, by decide +kernel⟩

end TxRelay.Envelope
