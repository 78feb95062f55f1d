import KeliNative.Dns.Wire
import KeliNative.Lib.DnsMessage
import KeliNative.Lib.Panic

/-!
# Hijacked questions as DNS messages (`dns.rs`)

A response decodes to the question that was accepted and the answers it was built of.
-/

namespace KeliNative.Dns
open BigEndian DnsMessage List

theorem isLabel_of_byte {labelLen : UInt8} {rest : Bytes} (hne : labelLen ≠ 0)
    (hhigh : labelLen &&& 0xc0 = 0) (hlen : labelLen.toNat ≤ rest.length) :
    IsLabel (rest.take labelLen.toNat) := by
  have hsmall : ∀ b : UInt8, b ≠ 0 → b &&& 0xc0 = 0 → 0 < b.toNat ∧ b.toNat < 64 := by decide +kernel
  obtain ⟨hpos, hlt⟩ := hsmall labelLen hne hhigh
  rw [IsLabel, length_take]
  omega

theorem parseLabels_eq_ok {fuel : ℕ} {body tail : Bytes} {labels : List String}
    (h : parseLabels fuel body = .ok (labels, tail)) :
    ∃ name, body = encodeName name ++ tail ∧ ∀ label ∈ name, IsLabel label := by
  induction fuel generalizing body labels with
  | zero => cases h
  | succ fuel ih =>
    cases body with
    | nil => cases h
    | cons labelLen rest =>
      rw [parseLabels] at h
      split_ifs at h with hzero hhigh hlen
      · have htail := (Prod.mk.inj (Except.ok.inj h)).2
        refine ⟨[], ?_, fun label hmem => absurd hmem not_mem_nil⟩
        rw [hzero, htail]
        rfl
      · have hle : labelLen.toNat ≤ rest.length := Nat.le_of_not_lt hlen
        cases htext : Text.fromUtf8 (rest.take labelLen.toNat) with
        | none =>
          rw [htext] at h
          cases h
        | some label =>
          rw [htext] at h
          dsimp only at h
          cases hrest : parseLabels fuel (rest.drop labelLen.toNat) with
          | error error =>
            rw [hrest] at h
            cases h
          | ok res =>
            rw [hrest] at h
            have htail := (Prod.mk.inj (Except.ok.inj h)).2
            obtain ⟨name, hbody, hname⟩ := ih (hrest.trans (congrArg Except.ok (Prod.ext rfl htail)))
            refine ⟨rest.take labelLen.toNat :: name, ?_, ?_⟩
            · rw [encodeName_cons, append_assoc, ← hbody, length_take, Nat.min_eq_left hle,
                UInt8.ofNat_toNat, cons_append, take_append_drop]
            · intro label hmem
              rcases mem_cons.mp hmem with rfl | hmem
              · exact isLabel_of_byte hzero (not_not.mp hhigh) hle
              · exact hname label hmem

theorem flag_eq (flags : UInt16) : flag flags 8 = (flags &&& 0x0100 != 0) := by
  have hand : (flags &&& 0x0100).toNat = (flag flags 8).toNat * 256 := by
    rw [UInt16.toNat_and]
    exact Nat.and_two_pow flags.toNat 8
  cases hflag : flag flags 8 with
  | false =>
    rw [hflag] at hand
    have hzero : flags &&& 0x0100 = 0 := UInt16.toNat_inj.mp hand
    rw [hzero]
    rfl
  | true =>
    rw [hflag] at hand
    refine (bne_iff_ne.mpr fun hzero => ?_).symm
    rw [hzero] at hand
    cases hand

def parseQuestion (id flags : UInt16) (body : Bytes) : Except DnsWireError DnsWireQuestion :=
  match parseLabels (body.length + 1) body with
  | .error error => .error error
  | .ok (labels, t0 :: t1 :: c0 :: c1 :: rest) =>
    if ofBe16 c0 c1 ≠ 1 then .error (.unsupportedClass (ofBe16 c0 c1))
    else .ok ⟨id, ".".intercalate labels, .fromCode (ofBe16 t0 t1),
      body.take (body.length - rest.length), flags &&& 0x0100 != 0⟩
  | .ok _ => .error .questionTooShort

theorem parseDnsQuery_eq (i0 i1 f0 f1 q0 q1 n0 n1 u0 u1 d0 d1 : UInt8) (body : Bytes) :
    parseDnsQuery (i0 :: i1 :: f0 :: f1 :: q0 :: q1 :: n0 :: n1 :: u0 :: u1 :: d0 :: d1 :: body) =
      if ofBe16 f0 f1 &&& 0x8000 ≠ 0 then .error .responsePacket
      else if (ofBe16 f0 f1 >>> 11) &&& 0x0f ≠ 0 then
        .error (.unsupportedOpcode ((ofBe16 f0 f1 >>> 11) &&& 0x0f))
      else if ofBe16 q0 q1 ≠ 1 then .error (.questionCount (ofBe16 q0 q1))
      else parseQuestion (ofBe16 i0 i1) (ofBe16 f0 f1) body := by
  unfold parseDnsQuery
  by_cases hresp : ofBe16 f0 f1 &&& 0x8000 = 0
  · by_cases hopcode : (ofBe16 f0 f1 >>> 11) &&& 0x0f = 0
    · by_cases hcnt : ofBe16 q0 q1 = 1
      · simp only [hresp, hopcode, hcnt, ne_eq, not_true_eq_false, if_false, parseQuestion]
        cases parseLabels (body.length + 1) body with
        | error error => rfl
        | ok res =>
          obtain ⟨labels, tail⟩ := res
          rcases tail with _ | ⟨t0, _ | ⟨t1, _ | ⟨c0, _ | ⟨c1, rest⟩⟩⟩⟩
          · rfl
          · rfl
          · rfl
          · rfl
          · by_cases hclass : ofBe16 c0 c1 = 1
            · simp [hclass, bind, Except.bind, pure, Except.pure]
            · simp [hclass, bind, Except.bind, throw, throwThe, MonadExceptOf.throw]
      · simp [hresp, hopcode, hcnt]
        rfl
    · simp [hresp, hopcode]
      rfl
  · simp [hresp]
    rfl

variable {packet : Bytes} {question : DnsWireQuestion}

theorem parseQuestion_eq_ok {id flags : UInt16} {body : Bytes}
    (h : parseQuestion id flags body = .ok question) :
    ∃ asked rest, body = encodeQuestion asked ++ rest ∧ (∀ label ∈ asked.name, IsLabel label) ∧
      asked.qclass = 1 ∧ question.id = id ∧ question.questionType = .fromCode asked.qtype ∧
      question.rawQuestion = encodeQuestion asked ∧
      question.recursionDesired = (flags &&& 0x0100 != 0) := by
  unfold parseQuestion at h
  split at h
  · cases h
  next labels t0 t1 c0 c1 rest hlabels =>
    split_ifs at h with hclass
    rw [← Except.ok.inj h]
    obtain ⟨name, hbody, hname⟩ := parseLabels_eq_ok hlabels
    have hsplit : body = encodeQuestion ⟨name, ofBe16 t0 t1, ofBe16 c0 c1⟩ ++ rest := by
      simp only [hbody, encodeQuestion, be16_ofBe16, append_assoc]
      rfl
    refine ⟨⟨name, ofBe16 t0 t1, ofBe16 c0 c1⟩, rest, hsplit, hname, not_not.mp hclass, rfl, rfl, ?_,
      rfl⟩
    have hlen : body.length - rest.length =
        (encodeQuestion ⟨name, ofBe16 t0 t1, ofBe16 c0 c1⟩).length := by
      rw [hsplit, length_append]
      omega
    rw [hlen]
    nth_rewrite 1 [hsplit]
    exact take_left
  next => cases h

structure Accepted (packet : Bytes) (question : DnsWireQuestion) (header : Header) (asked : Question)
    (front rest : Bytes) : Prop where
  packet_eq : packet = front ++ encodeQuestion asked ++ rest
  front_length : front.length = 12
  labels : ∀ label ∈ asked.name, IsLabel label
  decodeHeader_eq : decodeHeader packet = some header
  id : header.id = question.id
  recursionDesired : header.recursionDesired = question.recursionDesired
  qtype : question.questionType = .fromCode asked.qtype
  qclass : asked.qclass = 1
  rawQuestion : question.rawQuestion = encodeQuestion asked

theorem parseDnsQuery_accepted (h : parseDnsQuery packet = .ok question) :
    ∃ header asked front rest, Accepted packet question header asked front rest := by
  rcases packet with _ | ⟨i0, _ | ⟨i1, _ | ⟨f0, _ | ⟨f1, _ | ⟨q0, _ | ⟨q1, _ | ⟨n0, _ | ⟨n1, _ | ⟨u0,
    _ | ⟨u1, _ | ⟨d0, _ | ⟨d1, body⟩⟩⟩⟩⟩⟩⟩⟩⟩⟩⟩⟩
  all_goals try cases h
  rw [parseDnsQuery_eq] at h
  split_ifs at h with hresp hopcode hcnt
  obtain ⟨asked, rest, hbody, hlabels, hclass, hid, htype, hraw, hdesired⟩ := parseQuestion_eq_ok h
  refine ⟨_, asked, [i0, i1, f0, f1, q0, q1, n0, n1, u0, u1, d0, d1], rest, ?_, rfl, hlabels, rfl,
    hid.symm, ?_, htype, hclass, hraw⟩
  · rw [hbody]
    rfl
  · rw [hdesired, headerOf, flag_eq]

def ofRecordType (rtype : UInt16) : IpAddr → Bool
  | .v4 _ => rtype == 1
  | .v6 _ => rtype == 28

def addressRecord (asked : Question) (ttl : UInt32) (ip : IpAddr) : Record where
  owner := pointer 12
  name := asked.name
  rtype := asked.qtype
  rclass := 1
  ttl := ttl
  data := match ip with
    | .v4 ip => ip.octets
    | .v6 ip => ip.octets

theorem length_addressRecord_data (asked : Question) (ttl : UInt32) (ip : IpAddr) :
    (addressRecord asked ttl ip).data.length < 65536 := by
  cases ip with
  | v4 ip => exact (by decide : 4 < 65536)
  | v6 ip => exact ip.octets_length ▸ (by decide : 16 < 65536)

theorem dnsAnswer_eq {qtype : DnsQuestionType} {asked : Question}
    (h : qtype.code = asked.qtype) (ttl : UInt32) (ip : IpAddr) :
    dnsAnswer qtype ttl ip = encodeRecord 12 (addressRecord asked ttl ip) := by
  cases ip with
  | v4 ip =>
    simp only [dnsAnswer, encodeRecord, addressRecord, h, append_assoc]
    rfl
  | v6 ip =>
    simp only [dnsAnswer, encodeRecord, addressRecord, h, append_assoc, ip.octets_length]
    rfl

theorem code_eq_of_fromCode {code : UInt16} {qtype : DnsQuestionType}
    (h : qtype = .fromCode code) (hsupp : ∀ code, qtype ≠ .unsupported code) :
    qtype.code = code ∧ qtype.matchesIp = ofRecordType code := by
  unfold DnsQuestionType.fromCode at h
  split_ifs at h with ha haaaa
  · subst h ha
    refine ⟨rfl, funext fun ip => ?_⟩
    cases ip <;> rfl
  · subst h haaaa
    refine ⟨rfl, funext fun ip => ?_⟩
    cases ip <;> rfl
  · exact absurd h (hsupp code)

def responseHeader (header : Header) (answers : ℕ) : Header where
  id := header.id
  isResponse := true
  opcode := 0
  authoritative := false
  truncated := false
  recursionDesired := header.recursionDesired
  recursionAvailable := true
  rcode := 0
  questionCount := 1
  answerCount := UInt16.ofNat answers
  authorityCount := 0
  additionalCount := 0

theorem decodeHeader_dnsResponseHeader {header : Header} (hid : header.id = question.id)
    (hdesired : header.recursionDesired = question.recursionDesired) (answers : ℕ) (tail : Bytes) :
    decodeHeader (dnsResponseHeader question 0 (UInt16.ofNat answers) ++ tail) =
      some (responseHeader header answers) := by
  simp only [dnsResponseHeader, be16, cons_append, nil_append, decodeHeader, ofBe16_digits,
    headerOf, responseHeader, hid, hdesired]
  cases question.recursionDesired <;> rfl

theorem decode_buildDnsResponse {front rest : Bytes} {header : Header} {asked : Question}
    (h : Accepted packet question header asked front rest)
    (hsupp : ∀ code, question.questionType ≠ .unsupported code) {ips : List IpAddr}
    (hips : ips.length ≤ 65535) (ttl : UInt32) :
    decode (buildDnsResponse question ips ttl) = some
      { header := responseHeader header (ips.filter (ofRecordType asked.qtype)).length
        questions := [asked]
        questionSection := encodeQuestion asked
        answers := (ips.filter (ofRecordType asked.qtype)).map (addressRecord asked ttl)
        authorities := []
        additionals := []
        rest := [] } := by
  obtain ⟨hcode, hmatch⟩ := code_eq_of_fromCode h.qtype hsupp
  -- the response: header, question and one record for each address of the family
  obtain ⟨answers, hanswers⟩ : ∃ answers,
      (ips.filter (ofRecordType asked.qtype)).map (addressRecord asked ttl) = answers := ⟨_, rfl⟩
  have hcnt : answers.length = (ips.filter (ofRecordType asked.qtype)).length := by
    rw [← hanswers, length_map]
  have hbytes : (ips.filter (ofRecordType asked.qtype)).flatMap
      (dnsAnswer question.questionType ttl) = answers.flatMap (encodeRecord 12) := by
    rw [← hanswers, flatMap_map]
    exact flatMap_congr fun ip _ => dnsAnswer_eq hcode ttl ip
  have hlen : (UInt16.ofNat answers.length).toNat = answers.length := by
    apply UInt16.toNat_ofNat_of_lt'
    have hle := length_filter_le (ofRecordType asked.qtype) ips
    have hsize : UInt16.size = 65536 := rfl
    omega
  have hresp : buildDnsResponse question ips ttl =
      dnsResponseHeader question 0 (UInt16.ofNat answers.length) ++ encodeQuestion asked ++
        answers.flatMap (encodeRecord 12) := by
    simp only [buildDnsResponse, hmatch, hbytes, h.rawQuestion, hcnt]
  rw [hresp, hanswers, ← hcnt]
  obtain ⟨front, hfront⟩ : ∃ front,
      dnsResponseHeader question 0 (UInt16.ofNat answers.length) = front := ⟨_, rfl⟩
  have hfrontLength : front.length = 12 := by
    rw [← hfront]
    rfl
  have hhead : decodeHeader (front ++ encodeQuestion asked ++ answers.flatMap (encodeRecord 12)) =
      some (responseHeader header answers.length) := by
    rw [← hfront, append_assoc]
    exact decodeHeader_dnsResponseHeader h.id h.recursionDesired _ _
  have hquestion := decodeQuestion_encodeQuestion h.labels front (answers.flatMap (encodeRecord 12))
  have hrecord : ∀ record ∈ answers, ∀ middle tail : Bytes,
      decodeRecord (front ++ encodeName asked.name ++ middle ++ encodeRecord 12 record ++ tail)
          (front ++ encodeName asked.name ++ middle).length =
        some (record, (front ++ encodeName asked.name ++ middle).length +
          (encodeRecord 12 record).length) := by
    intro record hmem middle tail
    rw [← hanswers] at hmem
    obtain ⟨ip, -, rfl⟩ := mem_map.mp hmem
    have hlabels : ∀ label ∈ (addressRecord asked ttl ip).name, IsLabel label := h.labels
    have hdec := decodeRecord_encodeRecord hlabels front middle tail (by omega)
      (by rw [hfrontLength]; rfl) (length_addressRecord_data asked ttl ip)
    rw [hfrontLength] at hdec
    exact hdec
  have hrecords : decodeMany
      (decodeRecord (front ++ encodeQuestion asked ++ answers.flatMap (encodeRecord 12)))
      answers.length (front.length + (encodeQuestion asked).length) =
        some (answers, (front ++ encodeQuestion asked ++ answers.flatMap (encodeRecord 12)).length) := by
    have hmany := decodeMany_flatMap hrecord (be16 asked.qtype ++ be16 asked.qclass) []
    have hsplit : front ++ encodeName asked.name ++ (be16 asked.qtype ++ be16 asked.qclass) =
        front ++ encodeQuestion asked := by
      simp only [encodeQuestion, append_assoc]
    rw [hsplit, append_nil, ← length_append] at hmany
    rw [← length_append]
    exact hmany
  have hsection : bytesBetween (front ++ encodeQuestion asked ++ answers.flatMap (encodeRecord 12))
      front.length (front.length + (encodeQuestion asked).length) = encodeQuestion asked := by
    rw [bytesBetween, ← length_append, take_left, drop_left]
  rw [hfrontLength] at hquestion hrecords hsection
  rw [hfront, decode, hhead]
  simp only [Option.bind_eq_bind, Option.bind_some, responseHeader, hlen]
  rw [show (1 : UInt16).toNat = 1 from rfl, show (0 : UInt16).toNat = 0 from rfl]
  simp only [decodeMany, hquestion, Option.bind_eq_bind, Option.bind_some, hrecords, drop_length,
    hsection]

open Panicking

def getRange (packet : Bytes) (start stop : ℕ) : Option Bytes :=
  if start ≤ stop ∧ stop ≤ packet.length then some ((packet.take stop).drop start) else none

def labelLoop (packet : Bytes) (offset : ℕ) (labels : List String) :
    Except DnsWireError (List String × ℕ) :=
  if hoff : offset < packet.length then
    let labelLen := packet[offset]
    if labelLen = 0 then .ok (labels, offset + 1)
    else if labelLen &&& 0xc0 ≠ 0 then .error .compressedQuestionName
    else match getRange packet (offset + 1) (offset + 1 + labelLen.toNat) with
      | none => .error .labelOutOfBounds
      | some label => match Text.fromUtf8 label with
        | none => .error .invalidLabel
        | some label =>
          labelLoop packet (offset + 1 + labelLen.toNat) (labels ++ [toAsciiLowercase label])
  else .error .labelOutOfBounds
termination_by packet.length - offset

def parseQuestionIndexed (packet : Bytes) (id flags : UInt16) :
    Panicking DnsWireError DnsWireQuestion := do
  let (labels, offset) ← returned (labelLoop packet 12 [])
  match getRange packet offset (offset + 4) with
  | none => throw .questionTooShort
  | some tail =>
    let qtype := ofBe16 (← index tail 0) (← index tail 1)
    let qclass := ofBe16 (← index tail 2) (← index tail 3)
    if qclass ≠ 1 then throw (.unsupportedClass qclass)
    else
      return ⟨id, ".".intercalate labels, .fromCode qtype, ← slice packet 12 (offset + 4),
        flags &&& 0x0100 != 0⟩

def parseDnsQueryIndexed (packet : Bytes) : Panicking DnsWireError DnsWireQuestion :=
  if packet.length < 12 then throw .packetTooShort
  else do
    let id := ofBe16 (← index packet 0) (← index packet 1)
    let flags := ofBe16 (← index packet 2) (← index packet 3)
    if flags &&& 0x8000 ≠ 0 then throw .responsePacket
    else
      let opcode := (flags >>> 11) &&& 0x0f
      if opcode ≠ 0 then throw (.unsupportedOpcode opcode)
      else
        let count := ofBe16 (← index packet 4) (← index packet 5)
        if count ≠ 1 then throw (.questionCount count)
        else parseQuestionIndexed packet id flags

theorem getRange_eq {start count : ℕ} (h : count ≤ (packet.drop start).length)
    (hstart : start ≤ packet.length) :
    getRange packet start (start + count) = some ((packet.drop start).take count) := by
  rw [length_drop] at h
  rw [getRange, if_pos ⟨Nat.le_add_right _ _, by omega⟩, drop_take, Nat.add_sub_cancel_left]

theorem getRange_eq_none {start count : ℕ} (h : (packet.drop start).length < count) :
    getRange packet start (start + count) = none := by
  rw [length_drop] at h
  rw [getRange, if_neg (by omega)]

theorem labelLoop_eq {fuel : ℕ} {off : ℕ} (hfuel : packet.length - off < fuel)
    (labels : List String) :
    labelLoop packet off labels = (parseLabels fuel (packet.drop off)).map
      fun (more, tail) => (labels ++ more, packet.length - tail.length) := by
  induction fuel generalizing off labels with
  | zero => exact absurd hfuel (Nat.not_lt_zero _)
  | succ fuel ih =>
    rw [labelLoop]
    by_cases hoff : off < packet.length
    · rw [dif_pos hoff, drop_eq_getElem_cons hoff, parseLabels]
      generalize packet[off] = labelLen
      dsimp only
      split_ifs with hzero hhigh hlen
      · rw [Except.map, append_nil, length_drop]
        congr 2
        omega
      · rfl
      · rw [getRange_eq_none hlen]
        rfl
      · rw [getRange_eq (Nat.le_of_not_lt hlen) hoff]
        dsimp only
        cases Text.fromUtf8 ((packet.drop (off + 1)).take labelLen.toNat) with
        | none => rfl
        | some label =>
          dsimp only
          rw [ih (by omega), drop_drop]
          cases parseLabels fuel (packet.drop (off + 1 + labelLen.toNat)) with
          | error error => rfl
          | ok res => simp [Except.map]
    · rw [dif_neg hoff, drop_eq_nil_of_le (Nat.le_of_not_lt hoff)]
      rfl

theorem parseQuestionIndexed_eq {front : Bytes} (hfront : front.length = 12) (body : Bytes)
    (id flags : UInt16) :
    parseQuestionIndexed (front ++ body) id flags = returned (parseQuestion id flags body) := by
  have hlen : (front ++ body).length = 12 + body.length := by
    rw [length_append, hfront]
  have hdrop : (front ++ body).drop 12 = body := by
    rw [← hfront, drop_left]
  have hloop : labelLoop (front ++ body) 12 [] = (parseLabels (body.length + 1) body).map
      fun (labels, tail) => (labels, 12 + body.length - tail.length) := by
    rw [labelLoop_eq (by omega : (front ++ body).length - 12 < body.length + 1), hdrop, hlen]
    rfl
  rw [parseQuestionIndexed, hloop, parseQuestion]
  cases hlabels : parseLabels (body.length + 1) body with
  | error error => rfl
  | ok res =>
    obtain ⟨labels, tail⟩ := res
    obtain ⟨name, hbody, -⟩ := parseLabels_eq_ok hlabels
    have hoff : 12 + body.length - tail.length = (front ++ encodeName name).length := by
      rw [hbody, length_append, length_append, hfront]
      omega
    have htail : (front ++ body).drop (front ++ encodeName name).length = tail := by
      rw [hbody, ← append_assoc, drop_left]
    simp only [Except.map, returned_ok, pure_bind, hoff]
    -- four bytes must follow the name
    rcases tail with _ | ⟨t0, _ | ⟨t1, _ | ⟨c0, _ | ⟨c1, rest⟩⟩⟩⟩
    · rw [getRange_eq_none (htail ▸ (by decide : 0 < 4))]
      rfl
    · rw [getRange_eq_none (htail ▸ (by decide : 1 < 4))]
      rfl
    · rw [getRange_eq_none (htail ▸ (by decide : 2 < 4))]
      rfl
    · rw [getRange_eq_none (htail ▸ (by decide : 3 < 4))]
      rfl
    · have hbodyLength := congrArg List.length hbody
      simp only [length_append, length_cons] at hbodyLength hlen
      have hstop : (front ++ encodeName name).length + 4 ≤ (front ++ body).length := by
        rw [length_append, length_append]
        omega
      have hraw : ((front ++ body).take ((front ++ encodeName name).length + 4)).drop 12 =
          body.take (body.length - rest.length) := by
        rw [drop_take, hdrop, length_append, hfront]
        congr 1
        omega
      rw [getRange_eq (by rw [htail]; exact Nat.le_add_left 4 rest.length) (by omega), htail]
      simp only [take_succ_cons, take_zero]
      rw [index_eq (by simp), index_eq (by simp), index_eq (by simp), index_eq (by simp),
        slice_eq (by rw [length_append]; omega) hstop, hraw]
      simp only [pure_bind, getElem_cons_zero, getElem_cons_succ]
      split_ifs
      · rfl
      · rfl

theorem parseDnsQueryIndexed_eq (packet : Bytes) :
    parseDnsQueryIndexed packet = returned (parseDnsQuery packet) := by
  rcases packet with _ | ⟨i0, _ | ⟨i1, _ | ⟨f0, _ | ⟨f1, _ | ⟨q0, _ | ⟨q1, _ | ⟨n0, _ | ⟨n1, _ | ⟨u0,
    _ | ⟨u1, _ | ⟨d0, _ | ⟨d1, body⟩⟩⟩⟩⟩⟩⟩⟩⟩⟩⟩⟩
  all_goals try rfl
  have hfront : [i0, i1, f0, f1, q0, q1, n0, n1, u0, u1, d0, d1].length = 12 := rfl
  have hquestion := parseQuestionIndexed_eq hfront body (ofBe16 i0 i1) (ofBe16 f0 f1)
  rw [parseDnsQueryIndexed, if_neg (by simp), parseDnsQuery_eq]
  rw [index_eq (by simp), index_eq (by simp), index_eq (by simp), index_eq (by simp), index_eq (by simp),
    index_eq (by simp)]
  simp only [pure_bind, getElem_cons_zero, getElem_cons_succ]
  split_ifs
  · rfl
  · rfl
  · rfl
  · exact hquestion

/-- What is accepted is one question, and its response is a message with that question and the
answers. -/
theorem dns_response_decodes :
    (∀ packet, parseDnsQueryIndexed packet = returned (parseDnsQuery packet)) ∧
      ∀ packet question, parseDnsQuery packet = .ok question →
        (∀ code, question.questionType ≠ .unsupported code) →
        ∃ header asked stop, decodeHeader packet = some header ∧
          decodeQuestion packet 12 = some (asked, stop) ∧
          ∀ ips : List IpAddr, ips.length ≤ 65535 → ∀ ttl,
            decode (buildDnsResponse question ips ttl) = some
              { header := responseHeader header (ips.filter (ofRecordType asked.qtype)).length
                questions := [asked]
                questionSection := bytesBetween packet 12 stop
                answers := (ips.filter (ofRecordType asked.qtype)).map (addressRecord asked ttl)
                authorities := []
                additionals := []
                rest := [] } := by
  refine ⟨parseDnsQueryIndexed_eq, fun packet question h hsupp => ?_⟩
  obtain ⟨header, asked, front, rest, haccd⟩ := parseDnsQuery_accepted h
  have hquestion := decodeQuestion_encodeQuestion haccd.labels front rest
  rw [← haccd.packet_eq, haccd.front_length] at hquestion
  refine ⟨header, asked, 12 + (encodeQuestion asked).length, haccd.decodeHeader_eq, hquestion,
    fun ips hips ttl => ?_⟩
  have hsection : bytesBetween packet 12 (12 + (encodeQuestion asked).length) =
      encodeQuestion asked := by
    rw [haccd.packet_eq, ← haccd.front_length, bytesBetween, ← List.length_append,
      List.take_left, List.drop_left]
  rw [hsection]
  exact decode_buildDnsResponse haccd hsupp hips ttl

def someQuery : Bytes := [0, 7, 1, 0, 0, 1, 0, 0, 0, 0, 0, 0, 1, 97, 1, 98, 0, 0, 1, 0, 1]

theorem someQuery_accepted : ∃ question, parseDnsQuery someQuery = .ok question ∧
    (∀ code, question.questionType ≠ .unsupported code) ∧
    ∃ message, decode (buildDnsResponse question [.v4 .localhost, .v6 .localhost] 60) = some message ∧
      message.answers.length = 1 := by
  have hparse : parseDnsQuery someQuery =
      .ok ⟨7, "a.b", .a, [1, 97, 1, 98, 0, 0, 1, 0, 1], true⟩ := by decide +kernel
  have hsupp (code : UInt16) :
      (⟨7, "a.b", .a, [1, 97, 1, 98, 0, 0, 1, 0, 1], true⟩ : DnsWireQuestion).questionType ≠
        .unsupported code := nofun
  obtain ⟨header, asked, stop, -, hasked, hdec⟩ :=
    dns_response_decodes.2 someQuery _ hparse hsupp
  have htype : asked.qtype = 1 := by
    have hdecoded : decodeQuestion someQuery 12 = some (⟨[[97], [98]], 1, 1⟩, 21) := by decide +kernel
    rw [hdecoded] at hasked
    rw [← (Prod.mk.inj (Option.some.inj hasked)).1]
  refine ⟨_, hparse, hsupp, _, hdec [.v4 .localhost, .v6 .localhost] (by decide) 60, ?_⟩
  rw [htype]
  rfl

end KeliNative.Dns
