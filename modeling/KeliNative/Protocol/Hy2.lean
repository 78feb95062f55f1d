import KeliNative.Protocol.Tuic

/-!
# Hysteria 2 messages (`keli-protocol/src/lib.rs`, `keli-net-core/src/quic.rs`)

Messages carry their target as `host:port` text behind a QUIC varint.
-/

namespace KeliNative.Protocol
open BigEndian Cursor Outbound Text List
open String (ofList toList_ofList toList_inj ofList_toList)

/-! ### QUIC varints -/

def encodeQuicVarint (value : ℕ) : Bytes :=
  if value ≤ 63 then [UInt8.ofNat value]
  else if value ≤ 16383 then be16 (0x4000 ||| UInt16.ofNat value)
  else if value ≤ 1073741823 then be32 (0x80000000 ||| UInt32.ofNat value)
  else be64 (0xc000000000000000 ||| UInt64.ofNat value)

/- Six bits of the first byte and at most seven bytes more: the `u64` of the source does not
overflow. -/
def decodeQuicVarint : Decoder ℕ := do
  let first ← readU8
  let more ← readBytes ((1 <<< (first.toNat >>> 6)) - 1)
  return more.foldl (fun value byte => (value <<< 8) ||| byte.toNat) (first.toNat &&& 0x3f)

theorem foldl_shift (more : Bytes) (value : ℕ) :
    more.foldl (fun value byte => (value <<< 8) ||| byte.toNat) value =
      more.foldl (fun value byte => value * 256 + byte.toNat) value := by
  have hstep : ∀ (value : ℕ) (byte : UInt8),
      (value <<< 8) ||| byte.toNat = value * 256 + byte.toNat := by
    intro value byte
    rw [← Nat.shiftLeft_add_eq_or_of_lt byte.toNat_lt, Nat.shiftLeft_eq]
  simp only [hstep]

theorem foldl_be32 (value : ℕ) (word : UInt32) :
    (be32 word).foldl (fun value byte => value * 256 + byte.toNat) value =
      value * 4294967296 + word.toNat := by
  have hword := word.toNat_lt
  simp only [be32, List.foldl, UInt8.toNat_ofNat']
  omega

/-- The four bytes of a word whose two highest bits are `form`. -/
theorem masked_be32 {word : UInt32} {form value : ℕ} (hform : form < 4) (hval : value < 2 ^ 30)
    (hword : word.toNat = form * 2 ^ 30 + value) :
    ∃ first more, be32 word = first :: more ∧ more.length = 3 ∧ first.toNat / 64 = form ∧
      more.foldl (fun value byte => value * 256 + byte.toNat) (first.toNat % 64) = value := by
  refine ⟨_, _, rfl, rfl, ?_, ?_⟩
  · rw [UInt8.toNat_ofNat']
    omega
  · simp only [List.foldl, UInt8.toNat_ofNat']
    omega

section

variable {eof : ProtocolDecodingError → Prop} (heof : eof .unexpectedEof)

include heof

theorem reads_varint {first : UInt8} {more : Bytes} {form value : ℕ} (hform : first.toNat / 64 = form)
    (hlen : more.length = 2 ^ form - 1)
    (hval : more.foldl (fun value byte => value * 256 + byte.toNat) (first.toNat % 64) = value) :
    Reads eof decodeQuicVarint (first :: more) value := by
  have hamount : more.length = (1 <<< (first.toNat >>> 6)) - 1 := by
    rw [Nat.shiftRight_eq_div_pow, Nat.shiftLeft_eq, Nat.one_mul, hlen, ← hform]
  have hmask : first.toNat &&& 0x3f = first.toNat % 64 := Nat.and_two_pow_sub_one_eq_mod _ 6
  have hmore : Reads eof (readBytes ((1 <<< (first.toNat >>> 6)) - 1)) more more :=
    reads_take heof hamount
  have hres : more.foldl (fun value byte => (value <<< 8) ||| byte.toNat)
      (first.toNat &&& 0x3f) = value := by
    rw [foldl_shift, hmask, hval]
  refine (reads_readU8 heof first).bind ?_
  rw [← hres]
  exact hmore.map _

theorem reads_encodeQuicVarint {value : ℕ} (hval : value < 2 ^ 62) :
    Reads eof decodeQuicVarint (encodeQuicVarint value) value := by
  unfold encodeQuicVarint
  split_ifs with hone htwo hfour
  · have hbyte : (UInt8.ofNat value).toNat = value := by
      rw [UInt8.toNat_ofNat']
      omega
    have hform : (UInt8.ofNat value).toNat / 64 = 0 := by omega
    refine reads_varint heof hform rfl ?_
    simp only [List.foldl]
    omega
  · have hword : (0x4000 ||| UInt16.ofNat value).toNat = 2 ^ 14 * 1 + value := by
      rw [UInt16.toNat_or, UInt16.toNat_ofNat', Nat.mod_eq_of_lt (by omega)]
      exact (Nat.two_pow_add_eq_or_of_lt (i := 14) (by omega) 1).symm
    generalize 0x4000 ||| UInt16.ofNat value = word at hword
    have hform : (UInt8.ofNat (word.toNat / 256)).toNat / 64 = 1 := by
      rw [UInt8.toNat_ofNat']
      omega
    refine reads_varint heof hform rfl ?_
    simp only [List.foldl, UInt8.toNat_ofNat']
    omega
  · have hword : (0x80000000 ||| UInt32.ofNat value).toNat = 2 ^ 31 * 1 + value := by
      rw [UInt32.toNat_or, UInt32.toNat_ofNat', Nat.mod_eq_of_lt (by omega)]
      exact (Nat.two_pow_add_eq_or_of_lt (i := 31) (by omega) 1).symm
    generalize 0x80000000 ||| UInt32.ofNat value = word at hword
    have hmasked : word.toNat = 2 * 2 ^ 30 + value := by omega
    obtain ⟨first, more, hbytes, hlen, hform, hfold⟩ :=
      masked_be32 (by decide) (by omega) hmasked
    rw [hbytes]
    exact reads_varint heof hform hlen hfold
  · have hword : (0xc000000000000000 ||| UInt64.ofNat value).toNat = 2 ^ 62 * 3 + value := by
      rw [UInt64.toNat_or, UInt64.toNat_ofNat', Nat.mod_eq_of_lt (by omega)]
      exact (Nat.two_pow_add_eq_or_of_lt hval 3).symm
    generalize 0xc000000000000000 ||| UInt64.ofNat value = word at hword
    have hhigh : (UInt32.ofNat (word.toNat / 4294967296)).toNat =
        3 * 2 ^ 30 + value / 4294967296 := by
      rw [UInt32.toNat_ofNat']
      omega
    have hlow : (UInt32.ofNat word.toNat).toNat = value % 4294967296 := by
      rw [UInt32.toNat_ofNat']
      omega
    obtain ⟨first, more, hbytes, hlen, hform, hfold⟩ :=
      masked_be32 (by decide) (by omega) hhigh
    rw [be64, hbytes, cons_append]
    refine reads_varint heof hform (by rw [length_append, hlen]; rfl) ?_
    rw [foldl_append, hfold, foldl_be32, hlow]
    omega

theorem steady_decodeQuicVarint : Steady eof decodeQuicVarint :=
  (steady_next heof).bind fun _ => (steady_take heof _).bind fun _ => steady_pure _

end

/-! ### Addresses -/

def hostPort (host : String) (port : UInt16) : String := host ++ ":" ++ toString port.toNat

def hy2TcpAddress (target : Endpoint) : String := hostPort target.host target.port

def hy2UdpAddress (address : Endpoint) : String := hostPort (trim address.host) address.port

def encodeHy2TcpRequest (target : Endpoint) (padding : Bytes) : Except ProtocolEncodingError Bytes :=
  if trim target.host = "" then .error .invalidTargetHost
  else
    let address := utf8 (hy2TcpAddress target)
    .ok (encodeQuicVarint 0x401 ++ encodeQuicVarint address.length ++ address ++
      encodeQuicVarint padding.length ++ padding)

def parseHostPortEndpoint (value : String) : Except ProtocolDecodingError Endpoint :=
  match rsplitOnce ':' value with
  | none => .error .invalidEndpoint
  | some (host, port) =>
    let host := bareHost host
    if host = "" then .error .invalidEndpoint
    else match parseU16 port with
      | none => .error .invalidEndpoint
      | some port => .ok ⟨host, port⟩

theorem hostPort_eq (host : String) (port : UInt16) :
    hostPort host port = ofList (host.toList ++ ':' :: portDigits port) := by
  apply toList_inj.mp
  simp [hostPort, portDigits]

theorem hostPort_inj {host host' : String} {port : UInt16}
    (h : hostPort host port = hostPort host' port) : host = host' := by
  have hcs := congrArg String.toList h
  rw [hostPort_eq, hostPort_eq, toList_ofList, toList_ofList] at hcs
  exact toList_inj.mp (append_cancel_right hcs)

theorem parseHostPortEndpoint_hostPort {host : String} (hhost : bareHost host ≠ "")
    (port : UInt16) : parseHostPortEndpoint (hostPort host port) = .ok ⟨bareHost host, port⟩ := by
  have hsplit : rsplitOnce ':' (hostPort host port) =
      some (host, ofList (portDigits port)) := by
    rw [hostPort_eq, rsplitOnce_append (not_mem_portDigits rfl), ofList_toList]
  simp only [parseHostPortEndpoint, hsplit, if_neg hhost, parseU16_portDigits]

/-! ### UDP messages -/

structure Hy2UdpMessage where
  sessionId : UInt32
  packetId : UInt16
  fragmentId : UInt8
  fragmentCount : UInt8
  address : Endpoint
  payload : Bytes
  deriving DecidableEq

def encodeHy2UdpMessage (sessionId : UInt32) (packetId : UInt16) (fragmentId fragmentCount : UInt8)
    (address : Endpoint) (payload : Bytes) : Except ProtocolEncodingError Bytes :=
  if trim address.host = "" then .error .invalidTargetHost
  else
    let address := utf8 (hy2UdpAddress address)
    .ok (be32 sessionId ++ (be16 packetId ++ ([fragmentId] ++ ([fragmentCount] ++
      (encodeQuicVarint address.length ++ address)))) ++ payload)

/-- The message without its payload, which is all that follows. -/
def readHy2UdpHeader : Decoder (Bytes → Hy2UdpMessage) := do
  let sessionId ← readU32
  let packetId ← readU16
  let fragmentId ← readU8
  let fragmentCount ← readU8
  let addressLen ← decodeQuicVarint
  let addressBytes ← readBytes addressLen
  let address ← ofOption .invalidUtf8 (fromUtf8 addressBytes)
  let address ← Cursor.ofExcept (parseHostPortEndpoint address)
  return fun payload => ⟨sessionId, packetId, fragmentId, fragmentCount, address, payload⟩

def decodeHy2UdpMessage (input : Bytes) : Except ProtocolDecodingError Hy2UdpMessage :=
  (readHy2UdpHeader input).map fun (message, payload) => message payload

/-- A UDP message is read back with the trimmed host of its address, and so is a varint. -/
theorem hy2_udp_round_trip (sessionId : UInt32) (packetId : UInt16)
    (fragmentId fragmentCount : UInt8) (address : Endpoint) (payload : Bytes)
    (hhost : trim address.host ≠ "")
    (hfirst : ∀ c ∈ (trim address.host).toList.head?, c ≠ '[' ∧ c ≠ ']')
    (hlast : ∀ c ∈ (trim address.host).toList.getLast?, c ≠ '[' ∧ c ≠ ']')
    (hlen : (utf8 (hy2UdpAddress address)).length < 2 ^ 62) :
    (∃ message, encodeHy2UdpMessage sessionId packetId fragmentId fragmentCount address payload =
        .ok message ∧
      decodeHy2UdpMessage message = .ok ⟨sessionId, packetId, fragmentId, fragmentCount,
        ⟨trim address.host, address.port⟩, payload⟩) ∧
    ∀ value < 2 ^ 62, ∀ rest,
      decodeQuicVarint (encodeQuicVarint value ++ rest) = .ok (value, rest) := by
  have heof : ProtocolDecodingError.IsEof .unexpectedEof := rfl
  have hbare : bareHost (trim address.host) = trim address.host := by
    rw [bareHost, trim_trim]
    apply trimMatches_eq_self
    · intro c hc
      simpa using hfirst c hc
    · intro c hc
      simpa using hlast c hc
  have hparse : parseHostPortEndpoint (hy2UdpAddress address) =
      .ok ⟨trim address.host, address.port⟩ := by
    rw [hy2UdpAddress, parseHostPortEndpoint_hostPort (by rwa [hbare]), hbare]
  have hbytes := reads_readBytes heof (utf8 (hy2UdpAddress address))
  have hheader : Reads ProtocolDecodingError.IsEof readHy2UdpHeader
      (be32 sessionId ++ (be16 packetId ++ ([fragmentId] ++ ([fragmentCount] ++
        (encodeQuicVarint (utf8 (hy2UdpAddress address)).length ++ utf8 (hy2UdpAddress address))))))
      (fun payload => ⟨sessionId, packetId, fragmentId, fragmentCount,
        ⟨trim address.host, address.port⟩, payload⟩) := by
    refine (reads_readU32 heof sessionId).bind ((reads_readU16 heof packetId).bind ?_)
    refine (reads_readU8 heof fragmentId).bind ((reads_readU8 heof fragmentCount).bind ?_)
    refine (reads_encodeQuicVarint heof hlen).bind (hbytes.bind_nil ?_)
    exact (reads_ofOption _ (fromUtf8_utf8 _)).bind_nil ((reads_ofExcept hparse).map _)
  have hencoded : ∃ header,
      encodeHy2UdpMessage sessionId packetId fragmentId fragmentCount address payload =
        .ok (header ++ payload) ∧
      Reads ProtocolDecodingError.IsEof readHy2UdpHeader header
        (fun payload => ⟨sessionId, packetId, fragmentId, fragmentCount,
          ⟨trim address.host, address.port⟩, payload⟩) := by
    refine ⟨_, ?_, hheader⟩
    rw [encodeHy2UdpMessage, if_neg hhost]
  obtain ⟨header, henc, hread⟩ := hencoded
  refine ⟨⟨_, henc, ?_⟩, fun value hval rest =>
    (reads_encodeQuicVarint heof hval).whole rest⟩
  rw [decodeHy2UdpMessage, hread.whole]
  rfl

theorem hy2_udp_round_trip_ipv6 :
    ∃ message, encodeHy2UdpMessage 1 2 0 1 ⟨"::1", 443⟩ [7] = .ok message ∧
      decodeHy2UdpMessage message = .ok ⟨1, 2, 0, 1, ⟨trim "::1", 443⟩, [7]⟩ :=
  have htrim : trim "::1" = "::1" := by decide +kernel
  have hcs : (trim "::1").toList = [':', ':', '1'] := by
    rw [htrim]
    exact String.toList_ofList
  (hy2_udp_round_trip 1 2 0 1 ⟨"::1", 443⟩ [7] (by decide +kernel)
    (by rw [hcs]; rintro _ ⟨⟩; decide) (by rw [hcs]; rintro _ ⟨⟩; decide)
    (by decide +kernel)).1

/-! ### Authorities -/

/-- A `host:port` authority: an IPv6 address stands in brackets, and outside of them there is one
colon. -/
def splitAuthority (ipText : IpText) (text : String) : Option (String × UInt16) :=
  match stripped "[" text with
  | some rest =>
    match splitOnce ']' rest with
    | none => none
    | some (host, after) =>
      if (ipText.parse host).any IpAddr.isIpv6 then
        ((stripped ":" after).bind parseU16).map (Prod.mk host)
      else none
  | none =>
    match splitOnce ':' text with
    | none => none
    | some (host, port) => (parseU16 port).map (Prod.mk host)

theorem parseU16_colon (before after : List Char) :
    parseU16 (ofList (before ++ ':' :: after)) = none :=
  parseU16_of_not_digit (c := ':') rfl (by decide) (by simp)

theorem port_after (extra : List Char) (port : UInt16) :
    (stripped ":" (ofList (extra ++ ':' :: portDigits port))).bind parseU16 =
      if extra = [] then some port else none := by
  cases extra with
  | nil =>
    have hstripped : stripped ":" (ofList ([] ++ ':' :: portDigits port)) =
        some (ofList (portDigits port)) := by
      rw [stripped_eq_some_iff, toList_ofList, toList_ofList, toList_ofList]
      rfl
    rw [hstripped, Option.bind_some, parseU16_portDigits, if_pos rfl]
  | cons c extra =>
    rw [if_neg (cons_ne_nil c extra)]
    by_cases hc : c = ':'
    · subst hc
      have hstripped : stripped ":" (ofList (':' :: extra ++ ':' :: portDigits port)) =
          some (ofList (extra ++ ':' :: portDigits port)) := by
        rw [stripped_eq_some_iff, toList_ofList, toList_ofList, toList_ofList]
        rfl
      rw [hstripped, Option.bind_some, parseU16_colon]
    · have hnone : stripped ":" (ofList (c :: (extra ++ ':' :: portDigits port))) = none :=
        stripped_of_head (c := ':') toList_ofList (by simpa using hc)
      rw [cons_append, hnone, Option.bind_none]

theorem splitAuthority_bracketed (ipText : IpText) (chars : List Char) (port : UInt16)
    (host : String) :
    splitAuthority ipText (ofList ('[' :: chars ++ ':' :: portDigits port)) =
        some (host, port) ↔
      chars = host.toList ++ [']'] ∧ ']' ∉ host.toList ∧ (ipText.parse host).any IpAddr.isIpv6 := by
  have hstripped : stripped "[" (ofList ('[' :: chars ++ ':' :: portDigits port)) =
      some (ofList (chars ++ ':' :: portDigits port)) := by
    rw [stripped_eq_some_iff, toList_ofList, toList_ofList, toList_ofList]
    rfl
  simp only [splitAuthority, hstripped]
  by_cases hmem : ']' ∈ chars
  · obtain ⟨inner, extra, rfl, hinner⟩ := eq_append_cons_of_mem hmem
    have hsplit : splitOnce ']' (ofList (inner ++ ']' :: extra ++ ':' :: portDigits port)) =
        some (ofList inner, ofList (extra ++ ':' :: portDigits port)) := by
      rw [append_assoc, cons_append, splitOnce_append hinner]
    simp only [hsplit, port_after]
    constructor
    · intro h
      split_ifs at h with hv6 hextra
      · obtain ⟨rfl, _⟩ := Prod.mk.inj (Option.some.inj h)
        rw [toList_ofList, hextra]
        exact ⟨rfl, hinner, hv6⟩
      · cases h
    · rintro ⟨hcs, hhost, hv6⟩
      -- The first bracket ends the host on both sides.
      have hsame : inner = host.toList ∧ extra = [] := by
        have hfirst := span_ne_append hinner extra
        rw [hcs, span_ne_append hhost []] at hfirst
        obtain ⟨hhosts, hrest⟩ := Prod.mk.inj hfirst
        exact ⟨hhosts.symm, (List.cons.inj hrest).2.symm⟩
      obtain ⟨rfl, rfl⟩ := hsame
      rw [ofList_toList, if_pos hv6, if_pos rfl]
      rfl
  · have hnone : splitOnce ']' (ofList (chars ++ ':' :: portDigits port)) = none := by
      apply splitOnce_of_not_mem
      rw [toList_ofList]
      simp [hmem, not_mem_portDigits]
    simp only [hnone]
    constructor
    · intro h
      cases h
    · rintro ⟨rfl, _⟩
      exact absurd (by simp) hmem

theorem splitAuthority_plain (ipText : IpText) {chars : List Char} (hhead : '[' ∉ chars.head?)
    (hne : chars ≠ []) (port : UInt16) (host : String) :
    splitAuthority ipText (ofList (chars ++ ':' :: portDigits port)) = some (host, port) ↔
      chars = host.toList ∧ ':' ∉ chars := by
  have hstripped : stripped "[" (ofList (chars ++ ':' :: portDigits port)) = none := by
    apply stripped_of_head (c := '[') toList_ofList
    cases chars with
    | nil => exact absurd rfl hne
    | cons c chars => exact hhead
  simp only [splitAuthority, hstripped]
  by_cases hmem : ':' ∈ chars
  · obtain ⟨before, after, rfl, hbef⟩ := eq_append_cons_of_mem hmem
    rw [append_assoc, cons_append, splitOnce_append hbef]
    simp only [parseU16_colon, Option.map_none, hmem, not_true_eq_false, and_false, reduceCtorEq]
  · rw [splitOnce_append hmem]
    simp only [parseU16_portDigits, Option.map_some, Option.some.injEq, Prod.mk.injEq, and_true,
      hmem, not_false_eq_true]
    constructor
    · rintro rfl
      rw [toList_ofList]
    · intro h
      rw [h, ofList_toList]

structure Hy2TcpResponse where
  ok : Bool
  message : String
  deriving DecidableEq

def readHy2TcpResponse : Decoder Hy2TcpResponse := do
  let status ← readU8
  ensure (status = 0x00 || status = 0x01) (.invalidHy2Status status)
  let messageLen ← decodeQuicVarint
  let messageBytes ← readBytes messageLen
  let message ← ofOption .invalidUtf8 (fromUtf8 messageBytes)
  let paddingLen ← decodeQuicVarint
  let _ ← readBytes paddingLen
  return ⟨status = 0x00, message⟩

def decodeHy2TcpResponse (input : Bytes) : Except ProtocolDecodingError (Hy2TcpResponse × ℕ) :=
  (readHy2TcpResponse input).map fun (response, rest) => (response, input.length - rest.length)

def hy2TcpResponsePrefetchLimit : ℕ := 64 * 1024

/-- The reads are what the stream gives one after the other; those that are left are returned. -/
def readHy2TcpResponsePrefetch (buffer : Bytes) :
    List (Except IoError Bytes) → Except IoError Bytes × List (Except IoError Bytes)
  | [] => (.error ⟨.unexpectedEof, "HY2 TCP stream closed before response"⟩, [])
  | .error error :: reads => (.error error, reads)
  | .ok chunk :: reads =>
    let buffer := buffer ++ chunk
    match decodeHy2TcpResponse buffer with
    | .ok (response, consumed) =>
      if response.ok then (.ok (buffer.drop consumed), reads)
      else (.error ⟨.permissionDenied, "HY2 TCP connect failed: " ++ response.message⟩, reads)
    | .error error =>
      if error = .unexpectedEof ∧ buffer.length ≤ hy2TcpResponsePrefetchLimit then
        readHy2TcpResponsePrefetch buffer reads
      else (.error ⟨.invalidData, error.display⟩, reads)

theorem steady_readHy2TcpResponse : Steady ProtocolDecodingError.IsEof readHy2TcpResponse := by
  have heof : ProtocolDecodingError.IsEof .unexpectedEof := rfl
  refine (steady_next heof).bind fun status => (steady_ensure _ _).bind fun _ => ?_
  refine (steady_decodeQuicVarint heof).bind fun length => (steady_take heof _).bind fun bytes => ?_
  refine (steady_ofOption _ _).bind fun msg => (steady_decodeQuicVarint heof).bind fun padding => ?_
  exact (steady_take heof _).bind fun _ => steady_pure _

section

variable {used : Bytes} {response : Hy2TcpResponse}
  (hrds : Reads ProtocolDecodingError.IsEof readHy2TcpResponse used response)

include hrds

theorem decodeHy2TcpResponse_whole (rest : Bytes) :
    decodeHy2TcpResponse (used ++ rest) = .ok (response, used.length) := by
  have hlen : (used ++ rest).length - rest.length = used.length := by
    rw [length_append, Nat.add_sub_cancel]
  rw [decodeHy2TcpResponse, hrds.whole]
  simp only [Except.map, hlen]

theorem decodeHy2TcpResponse_cut {front : Bytes} (hfront : front <+: used) (hne : front ≠ used) :
    decodeHy2TcpResponse front = .error .unexpectedEof := by
  obtain ⟨error, heof, herr⟩ := hrds.cut front hfront hne
  rw [decodeHy2TcpResponse, herr, show error = .unexpectedEof from heof]
  rfl

/-- The outcome of the loop once the response is there, with `prefetched` behind it. -/
def responseOutcome (response : Hy2TcpResponse) (prefetched : Bytes) : Except IoError Bytes :=
  if response.ok then .ok prefetched
  else .error ⟨.permissionDenied, "HY2 TCP connect failed: " ++ response.message⟩

-- Induction on the chunks, for a buffer that is a strict prefix of the response.
theorem prefetch_run (hlim : used.length ≤ hy2TcpResponsePrefetchLimit) (chunks : List Bytes)
    (buf tail : Bytes) (hbuf : buf <+: used) (hshort : buf ≠ used)
    (hstr : buf ++ chunks.flatten = used ++ tail) :
    ∃ taken prefetched remaining, chunks = taken ++ remaining ∧
      buf ++ taken.flatten = used ++ prefetched ∧ prefetched ++ remaining.flatten = tail ∧
      (∀ fewer, fewer <+: taken → fewer ≠ taken →
        decodeHy2TcpResponse (buf ++ fewer.flatten) = .error .unexpectedEof) ∧
      readHy2TcpResponsePrefetch buf (chunks.map .ok) =
        (responseOutcome response prefetched, remaining.map .ok) := by
  have hcut : decodeHy2TcpResponse (buf ++ ([] : List Bytes).flatten) = .error .unexpectedEof := by
    rw [flatten_nil, append_nil]
    exact decodeHy2TcpResponse_cut hrds hbuf hshort
  induction chunks generalizing buf with
  | nil =>
    rw [flatten_nil, append_nil] at hstr
    exact absurd (hbuf.eq_of_length_le (by rw [hstr, length_append]; omega)) hshort
  | cons chunk chunks ih =>
    rw [flatten_cons, ← append_assoc] at hstr
    by_cases hdone : used <+: buf ++ chunk
    · obtain ⟨prefetched, hprefetched⟩ := hdone
      refine ⟨[chunk], prefetched, chunks, rfl, by simpa using hprefetched.symm, ?_, ?_, ?_⟩
      · rw [← hprefetched, append_assoc] at hstr
        exact append_cancel_left hstr
      · intro fewer hfewer hne
        rcases prefix_cons_iff.mp hfewer with rfl | ⟨fewer', rfl, hfewer'⟩
        · exact hcut
        · rw [prefix_nil.mp hfewer'] at hne
          exact absurd rfl hne
      · have hwhole := decodeHy2TcpResponse_whole hrds prefetched
        simp only [map_cons, readHy2TcpResponsePrefetch, ← hprefetched, hwhole, drop_left,
          responseOutcome]
        split_ifs <;> rfl
    · have hmore : buf ++ chunk <+: used := by
        have hfront : buf ++ chunk <+: used ++ tail := ⟨chunks.flatten, hstr⟩
        exact ( prefix_or_prefix_of_prefix hfront (prefix_append used tail)).resolve_right
          hdone
      have hshort' : buf ++ chunk ≠ used := by
        intro heq
        exact hdone (heq ▸ prefix_rfl)
      have hcut' := decodeHy2TcpResponse_cut hrds hmore hshort'
      obtain ⟨taken, prefetched, remaining, rfl, htaken, htail, hfirst, hrun⟩ :=
        ih (buf ++ chunk) hmore hshort' hstr (by simpa using hcut')
      have hwithin : (buf ++ chunk).length ≤ hy2TcpResponsePrefetchLimit :=
        hmore.length_le.trans hlim
      refine ⟨chunk :: taken, prefetched, remaining, rfl, ?_, htail, ?_, ?_⟩
      · rw [flatten_cons, ← append_assoc, htaken]
      · intro fewer hfewer hne
        rcases prefix_cons_iff.mp hfewer with rfl | ⟨fewer', rfl, hfewer'⟩
        · exact hcut
        · rw [flatten_cons, ← append_assoc]
          exact hfirst fewer' hfewer' fun heq => hne (by rw [heq])
      · simp only [map_cons, readHy2TcpResponsePrefetch, hcut', hwithin, and_self, if_true]
        exact hrun

end

/-- However the stream is cut into reads, the loop stops at the first one that completes the
response. -/
theorem hy2_response_chunking (used : Bytes) (response : Hy2TcpResponse)
    (hwhole : decodeHy2TcpResponse used = .ok (response, used.length)) :
    (∀ chunks tail, used.length ≤ 64 * 1024 → chunks.flatten = used ++ tail →
      ∃ taken prefetched remaining, chunks = taken ++ remaining ∧
        taken.flatten = used ++ prefetched ∧ prefetched ++ remaining.flatten = tail ∧
        (∀ fewer, fewer <+: taken → fewer ≠ taken →
          decodeHy2TcpResponse fewer.flatten = .error .unexpectedEof) ∧
        readHy2TcpResponsePrefetch [] (chunks.map .ok) =
          (responseOutcome response prefetched, remaining.map .ok)) ∧
    (∀ front, front <+: used → front ≠ used →
      decodeHy2TcpResponse front = .error .unexpectedEof) ∧
    ∀ input result more, decodeHy2TcpResponse input = .ok result →
      decodeHy2TcpResponse (input ++ more) = .ok result := by
  have hsteady : ∀ {input : Bytes} {result : Hy2TcpResponse × ℕ},
      decodeHy2TcpResponse input = .ok result → ∃ used rest, input = used ++ rest ∧
        result.2 = used.length ∧
        Reads ProtocolDecodingError.IsEof readHy2TcpResponse used result.1 := by
    intro input result h
    unfold decodeHy2TcpResponse at h
    cases hread : readHy2TcpResponse input with
    | error error =>
      rw [hread] at h
      cases h
    | ok pair =>
      obtain ⟨value, rest⟩ := pair
      rw [hread] at h
      cases h
      obtain ⟨used, rfl, hrds⟩ := steady_readHy2TcpResponse _ _ _ hread
      exact ⟨used, rest, rfl, by simp, hrds⟩
  obtain ⟨used', rest, hused, hlen, hrds⟩ := hsteady hwhole
  obtain rfl : rest = [] := by
    have hsizes := congrArg List.length hused
    rw [List.length_append] at hsizes
    exact List.length_eq_zero_iff.mp (by dsimp only at hlen; omega)
  rw [List.append_nil] at hused
  subst hused
  refine ⟨fun chunks tail hlim hstr => ?_, fun front hfront hne =>
    decodeHy2TcpResponse_cut hrds hfront hne, fun input result more h => ?_⟩
  · have hne : [] ≠ used := by
      rintro rfl
      cases hwhole
    exact prefetch_run hrds hlim chunks [] tail List.nil_prefix hne hstr
  · obtain ⟨front, rest, rfl, hconsumed, hfront⟩ := hsteady h
    rw [List.append_assoc, decodeHy2TcpResponse_whole hfront, ← hconsumed]

theorem hy2_response_chunking_ok :
    ∃ taken prefetched remaining, [[0], [0, 0, 9]] = taken ++ remaining ∧
      taken.flatten = [0, 0, 0] ++ prefetched ∧ prefetched ++ remaining.flatten = [9] ∧
      (∀ fewer, fewer <+: taken → fewer ≠ taken →
        decodeHy2TcpResponse fewer.flatten = .error .unexpectedEof) ∧
      readHy2TcpResponsePrefetch [] ([[0], [0, 0, 9]].map .ok) =
        (responseOutcome ⟨true, ""⟩ prefetched, remaining.map .ok) :=
  (hy2_response_chunking [0, 0, 0] ⟨true, ""⟩ (by decide +kernel)).1 _ [9] (by decide) rfl

end KeliNative.Protocol
