import KeliNative.Net.Io
import Mathlib.Data.List.Basic

/-!
# Mieru segments (`keli-net-core/src/mieru.rs`)

Sealed metadata followed by the sealed payload; each seal uses up a nonce.
-/

namespace KeliNative.Framing
open BigEndian List

abbrev MieruNonce := { nonce : Bytes // nonce.length = 24 }

/-- The carry runs from the last byte to the first; the flag says that it left the list. -/
def incrementBytes : Bytes → Bytes × Bool
  | [] => ([], true)
  | byte :: rest =>
    match incrementBytes rest with
    | (rest, true) => ((byte + 1) :: rest, byte = 255)
    | (rest, false) => (byte :: rest, false)

theorem incrementBytes_length (bytes : Bytes) : (incrementBytes bytes).1.length = bytes.length := by
  induction bytes with
  | nil => rfl
  | cons byte rest ih =>
    rw [incrementBytes]
    split
    all_goals
      next h =>
        rw [h] at ih
        exact congrArg Nat.succ ih

def incrementNonce (nonce : MieruNonce) : MieruNonce :=
  ⟨(incrementBytes nonce.1).1, (incrementBytes_length _).trans nonce.2⟩

structure MieruAead where
  encrypt : MieruNonce → Bytes → Bytes
  decrypt : MieruNonce → Bytes → Option Bytes
  encrypt_length : ∀ nonce plain, (encrypt nonce plain).length = plain.length + 16
  decrypt_encrypt : ∀ nonce plain, decrypt nonce (encrypt nonce plain) = some plain

namespace Mieru

def openSessionRequest : UInt8 := 2
def openSessionResponse : UInt8 := 3
def closeSessionRequest : UInt8 := 4
def closeSessionResponse : UInt8 := 5
def dataClientToServer : UInt8 := 6
def dataServerToClient : UInt8 := 7
def ackClientToServer : UInt8 := 8
def ackServerToClient : UInt8 := 9
def statusOk : UInt8 := 0

def isSessionType (protocolType : UInt8) : Bool :=
  protocolType = openSessionRequest || protocolType = openSessionResponse ||
    protocolType = closeSessionRequest || protocolType = closeSessionResponse

def isDataType (protocolType : UInt8) : Bool :=
  protocolType = dataClientToServer || protocolType = dataServerToClient ||
    protocolType = ackClientToServer || protocolType = ackServerToClient

def maxTcpFragmentLen : ℕ := 32768
def maxSessionPayloadLen : ℕ := 1024

end Mieru

open Mieru

structure MieruMetadata where
  protocolType : UInt8
  sessionId : UInt32
  sequence : UInt32
  statusCode : UInt8
  payloadLen : ℕ
  prefixLen : ℕ
  suffixLen : ℕ
  deriving DecidableEq

/-- The 32 bytes of `encode_metadata`, stamped with the minutes of the clock. -/
def metadataBytes (stamp : UInt32) (metadata : MieruMetadata) : Bytes :=
  [metadata.protocolType, 0] ++ be32 stamp ++ be32 metadata.sessionId ++ be32 metadata.sequence ++
    if isSessionType metadata.protocolType then
      [metadata.statusCode] ++ be16 (UInt16.ofNat metadata.payloadLen) ++
        [UInt8.ofNat metadata.suffixLen] ++ List.replicate 14 0
    else if isDataType metadata.protocolType then
      List.replicate 4 0 ++ be16 64 ++ [0, UInt8.ofNat metadata.prefixLen] ++
        be16 (UInt16.ofNat metadata.payloadLen) ++ [UInt8.ofNat metadata.suffixLen] ++
          List.replicate 7 0
    else List.replicate 18 0

def encodeMetadata (stamp : UInt32) (metadata : MieruMetadata) : Except IoError Bytes :=
  if 65535 < metadata.payloadLen then .error ⟨.invalidInput, "Mieru payload too large"⟩
  else .ok (metadataBytes stamp metadata)

def be16At (input : Bytes) (index : ℕ) : ℕ :=
  (ofBe16 (input.getD index 0) (input.getD (index + 1) 0)).toNat

def be32At (input : Bytes) (index : ℕ) : UInt32 :=
  ofBe32 (input.getD index 0) (input.getD (index + 1) 0) (input.getD (index + 2) 0)
    (input.getD (index + 3) 0)

def parseMetadata (close : UInt32 → Bool) (input : Bytes) : Option MieruMetadata :=
  let protocolType := input.getD 0 0
  if input.length ≠ 32 then none
  else if !(isSessionType protocolType || isDataType protocolType) then none
  else if !close (be32At input 2) then none
  else if isSessionType protocolType then
    if maxSessionPayloadLen < be16At input 15 then none
    else some {
      protocolType, sessionId := be32At input 6, sequence := be32At input 10
      statusCode := input.getD 14 0, payloadLen := be16At input 15, prefixLen := 0
      suffixLen := (input.getD 17 0).toNat }
  else
    if maxTcpFragmentLen < be16At input 22 then none
    else some {
      protocolType, sessionId := be32At input 6, sequence := be32At input 10
      statusCode := statusOk, payloadLen := be16At input 22, prefixLen := (input.getD 21 0).toNat
      suffixLen := (input.getD 24 0).toNat }

structure MieruSegment where
  metadata : MieruMetadata
  payload : Bytes
  deriving DecidableEq

inductive SegmentAttempt where
  | complete (segment : MieruSegment) (consumed : ℕ) (nextNonce : MieruNonce)
  | needMore
  | invalid
  deriving DecidableEq

def slice (input : Bytes) (start len : ℕ) : Bytes := (input.drop start).take len

def sealedLen (payloadLen : ℕ) : ℕ := if payloadLen = 0 then 0 else payloadLen + 16

def decodePayload (aead : MieruAead) (nonce : MieruNonce) (metadata : MieruMetadata) (consumed : ℕ)
    (encrypted : Bytes) : SegmentAttempt :=
  if metadata.payloadLen = 0 then .complete ⟨metadata, []⟩ consumed nonce
  else match aead.decrypt nonce encrypted with
    | none => .invalid
    | some payload =>
      if payload.length ≠ metadata.payloadLen then .invalid
      else .complete ⟨metadata, payload⟩ consumed (incrementNonce nonce)

def tryDecodeSegment (close : UInt32 → Bool) (aead : MieruAead) (input : Bytes) (hasNonce : Bool)
    (nonce : MieruNonce) : SegmentAttempt :=
  let metadataOffset := if hasNonce then 24 else 0
  if hasNonce ∧ input.length < 24 then .needMore
  else if input.length < metadataOffset + 48 then .needMore
  else match aead.decrypt nonce (slice input metadataOffset 48) with
    | none => .invalid
    | some metadataBytes =>
      match parseMetadata close metadataBytes with
      | none => .invalid
      | some metadata =>
        let payloadOffset := metadataOffset + 48 + metadata.prefixLen
        let consumed := payloadOffset + sealedLen metadata.payloadLen + metadata.suffixLen
        if input.length < consumed then .needMore
        else decodePayload aead (incrementNonce nonce) metadata consumed
          (slice input payloadOffset (sealedLen metadata.payloadLen))

def nonceAfter (nonce : MieruNonce) (payload : Bytes) : MieruNonce :=
  if payload = [] then incrementNonce nonce else incrementNonce (incrementNonce nonce)

def segmentBody (aead : MieruAead) (nonce : MieruNonce) (metadata payload : Bytes) : Bytes :=
  aead.encrypt nonce metadata ++
    if payload = [] then [] else aead.encrypt (incrementNonce nonce) payload

theorem metadataBytes_length (stamp : UInt32) (metadata : MieruMetadata) :
    (metadataBytes stamp metadata).length = 32 := by
  unfold metadataBytes
  split
  · rfl
  split
  · rfl
  · rfl

def payloadLimit (protocolType : UInt8) : ℕ :=
  if isSessionType protocolType then maxSessionPayloadLen else maxTcpFragmentLen

/-- Metadata its type has room for: a session segment has no padding before its payload, and only
a session segment has a status. -/
structure MieruMetadata.Written (metadata : MieruMetadata) : Prop where
  known : (isSessionType metadata.protocolType || isDataType metadata.protocolType) = true
  payloadLen : metadata.payloadLen ≤ payloadLimit metadata.protocolType
  prefixLen : metadata.prefixLen < 256
  suffixLen : metadata.suffixLen < 256
  ofSession : isSessionType metadata.protocolType = true → metadata.prefixLen = 0
  ofData : isSessionType metadata.protocolType = false → metadata.statusCode = statusOk

theorem byte_read {len : ℕ} (h : len < 256) : (UInt8.ofNat len).toNat = len := by
  rw [UInt8.toNat_ofNat', Nat.mod_eq_of_lt h]

theorem parseMetadata_metadataBytes {close : UInt32 → Bool} {stamp : UInt32}
    (hclose : close stamp = true) {metadata : MieruMetadata} (h : metadata.Written) :
    parseMetadata close (metadataBytes stamp metadata) = some metadata := by
  have hlength := metadataBytes_length stamp metadata
  obtain ⟨protocolType, sessionId, seq, statusCode, payloadLen, prefixLen, suffixLen⟩ := metadata
  obtain ⟨hknown, hpay, hpre, hsuf, hofSession, hofData⟩ := h
  dsimp only at hknown hpay hpre hsuf hofSession hofData
  generalize hin : metadataBytes stamp
    ⟨protocolType, sessionId, seq, statusCode, payloadLen, prefixLen, suffixLen⟩ = input
    at hlength ⊢
  have htype : input.getD 0 0 = protocolType := by
    rw [← hin]
    rfl
  have hstamp : be32At input 2 = stamp := by
    rw [← hin]
    exact ofBe32_digits stamp
  have hid : be32At input 6 = sessionId := by
    rw [← hin]
    exact ofBe32_digits sessionId
  have hseq : be32At input 10 = seq := by
    rw [← hin]
    exact ofBe32_digits seq
  cases hsess : isSessionType protocolType with
  | true =>
    rw [payloadLimit, hsess, if_pos rfl] at hpay
    rw [metadataBytes, hsess, if_pos rfl] at hin
    have hlen : be16At input 15 = payloadLen := by
      rw [← hin]
      exact be16_read (hpay.trans_lt (by decide))
    have hstat : input.getD 14 0 = statusCode := by
      rw [← hin]
      rfl
    have hpad : (input.getD 17 0).toNat = suffixLen := by
      rw [← hin]
      exact byte_read hsuf
    simp only [parseMetadata, htype, hstamp, hid, hseq, hlen, hlength, hsess, hclose, hstat,
      hpad, hofSession hsess, Nat.not_lt.mpr hpay, ne_eq, not_true_eq_false, ite_false, ite_true,
      Bool.true_or, Bool.not_true, Bool.false_eq_true]
  | false =>
    rw [hsess, Bool.false_or] at hknown
    rw [payloadLimit, hsess, if_neg Bool.false_ne_true] at hpay
    rw [metadataBytes, hsess, if_neg Bool.false_ne_true, if_pos hknown] at hin
    have hlen : be16At input 22 = payloadLen := by
      rw [← hin]
      exact be16_read (hpay.trans_lt (by decide))
    have hpadBefore : (input.getD 21 0).toNat = prefixLen := by
      rw [← hin]
      exact byte_read hpre
    have hpadAfter : (input.getD 24 0).toNat = suffixLen := by
      rw [← hin]
      exact byte_read hsuf
    simp only [parseMetadata, htype, hstamp, hid, hseq, hlen, hlength, hsess, hknown, hclose,
      hpadBefore, hpadAfter, hofData hsess, Nat.not_lt.mpr hpay, ne_eq, not_true_eq_false,
      ite_false, Bool.false_or, Bool.not_true, Bool.false_eq_true]

theorem slice_append {input tail : Bytes} {start len : ℕ} (h : start + len ≤ input.length) :
    slice (input ++ tail) start len = slice input start len := by
  unfold slice
  rw [drop_append_of_le_length (by omega), take_append_of_le_length]
  rw [length_drop]
  omega

theorem slice_middle (before middle after : Bytes) :
    slice (before ++ (middle ++ after)) before.length middle.length = middle := by
  unfold slice
  rw [drop_left, take_left]

/-- What is put before and after the sealed payload of a segment. -/
structure Padding where
  before : Bytes
  after : Bytes

def segmentBytes (aead : MieruAead) (stamp : UInt32) (segment : MieruSegment) (padding : Padding)
    (first : Bool) (nonce : MieruNonce) : Bytes :=
  (if first then nonce.1 else []) ++
    (aead.encrypt nonce (metadataBytes stamp segment.metadata) ++
      (padding.before ++
        ((if segment.payload = [] then [] else aead.encrypt (incrementNonce nonce) segment.payload) ++
          padding.after)))

variable (aead : MieruAead) (nonce : MieruNonce)

theorem segmentBytes_unpadded (stamp : UInt32) (seg : MieruSegment) (first : Bool)
    (nonce : MieruNonce) :
    segmentBytes aead stamp seg ⟨[], []⟩ first nonce = (if first then nonce.1 else []) ++
      segmentBody aead nonce (metadataBytes stamp seg.metadata) seg.payload := by
  rw [segmentBytes, segmentBody, nil_append, append_nil]

theorem nonce_length (first : Bool) (nonce : MieruNonce) :
    (if first then nonce.1 else []).length = if first then 24 else 0 := by
  cases first with
  | false => rfl
  | true => exact nonce.2

theorem sealedMetadata_length (stamp : UInt32) (metadata : MieruMetadata) :
    (aead.encrypt nonce (metadataBytes stamp metadata)).length = 48 := by
  rw [aead.encrypt_length, metadataBytes_length]

theorem sealedPayload_length (data : Bytes) :
    (if data = [] then [] else aead.encrypt nonce data).length = sealedLen data.length := by
  rw [sealedLen]
  by_cases hpay : data = []
  · simp only [hpay, ite_true, length_nil]
  · rw [if_neg hpay, if_neg (length_pos_iff.mpr hpay).ne', aead.encrypt_length]

theorem segmentBytes_length (stamp : UInt32) (seg : MieruSegment) (padding : Padding)
    (first : Bool) (nonce : MieruNonce) :
    (segmentBytes aead stamp seg padding first nonce).length =
      (if first then 24 else 0) + 48 + padding.before.length + sealedLen seg.payload.length +
        padding.after.length := by
  simp only [segmentBytes, length_append, nonce_length, sealedMetadata_length,
    sealedPayload_length]
  omega

theorem slice_arrived {input tail before middle after : Bytes}
    (h : input ++ tail = before ++ (middle ++ after))
    (hlen : before.length + middle.length ≤ input.length) :
    slice input before.length middle.length = middle := by
  rw [← slice_append hlen, h]
  exact slice_middle before middle after

theorem tryDecodeSegment_spec {close : UInt32 → Bool} {stamp : UInt32} (hclose : close stamp = true)
    {aead : MieruAead} {nonce : MieruNonce} {seg : MieruSegment} (h : seg.metadata.Written)
    (hlen : seg.metadata.payloadLen = seg.payload.length) {padding : Padding}
    (hbef : seg.metadata.prefixLen = padding.before.length)
    (hafter : seg.metadata.suffixLen = padding.after.length) {first : Bool}
    {input tail more : Bytes}
    (hin : input ++ tail = segmentBytes aead stamp seg padding first nonce ++ more)
    (hnonce : first = true → 24 ≤ input.length) :
    tryDecodeSegment close aead input first nonce =
      if input.length < (segmentBytes aead stamp seg padding first nonce).length then .needMore
      else .complete seg (segmentBytes aead stamp seg padding first nonce).length
        (nonceAfter nonce seg.payload) := by
  rw [segmentBytes_length]
  have hstart := nonce_length first nonce
  have hsealed := sealedMetadata_length aead nonce stamp seg.metadata
  have hsealedPayload := sealedPayload_length aead (incrementNonce nonce) seg.payload
  simp only [segmentBytes, append_assoc] at hin
  generalize hoff : (if first then 24 else 0) = off at *
  generalize (if first then nonce.1 else []) = start at *
  unfold tryDecodeSegment
  dsimp only
  rw [if_neg fun hshort => absurd (hnonce hshort.1) (Nat.not_le.mpr hshort.2), hoff]
  by_cases hmeta : input.length < off + 48
  · rw [if_pos hmeta, if_pos (by omega)]
  have hslice := slice_arrived hin (by omega)
  rw [hstart, hsealed] at hslice
  rw [if_neg hmeta, hslice, aead.decrypt_encrypt]
  simp only [parseMetadata_metadataBytes hclose h, hbef, hafter, hlen]
  by_cases hall : input.length <
      off + 48 + padding.before.length + sealedLen seg.payload.length + padding.after.length
  · rw [if_pos hall, if_pos hall]
  rw [if_neg hall, if_neg hall, decodePayload, hlen, nonceAfter]
  obtain ⟨metadata, data⟩ := seg
  dsimp only at *
  by_cases hpay : data = []
  · rw [hpay, if_pos rfl]
    exact if_pos rfl
  rw [if_neg hpay] at hin hsealedPayload
  have hfront : (start ++ (aead.encrypt nonce (metadataBytes stamp metadata) ++ padding.before)).length =
      off + 48 + padding.before.length := by
    rw [length_append, length_append, hstart, hsealed]
    omega
  have hpayloadSlice : slice input (off + 48 + padding.before.length) (sealedLen data.length) =
      aead.encrypt (incrementNonce nonce) data := by
    rw [← hfront, ← hsealedPayload]
    have hsplit : input ++ tail =
        (start ++ (aead.encrypt nonce (metadataBytes stamp metadata) ++ padding.before)) ++
          (aead.encrypt (incrementNonce nonce) data ++ (padding.after ++ more)) := by
      simpa only [append_assoc] using hin
    exact slice_arrived hsplit (by omega)
  rw [hpayloadSlice, aead.decrypt_encrypt, if_neg (length_pos_iff.mpr hpay).ne',
    if_neg hpay]
  simp only [ne_eq, not_true_eq_false, ite_false]

end KeliNative.Framing
