import KeliNative.Dns.Engine
import KeliNative.Lib.Text

/-!
# DNS messages (`dns.rs`)

The query parser and the response builders behind DNS hijacking.
-/

namespace KeliNative.Dns
open BigEndian

def DnsWireError.display : DnsWireError → String
  | .packetTooShort => "DNS packet is too short"
  | .responsePacket => "DNS packet is already a response"
  | .unsupportedOpcode opcode => "unsupported DNS opcode: " ++ toString opcode.toNat
  | .questionCount count => "unsupported DNS question count: " ++ toString count.toNat
  | .labelOutOfBounds => "DNS question label is out of bounds"
  | .compressedQuestionName => "compressed DNS question names are unsupported"
  | .invalidLabel => "DNS question label is invalid"
  | .questionTooShort => "DNS question is too short"
  | .unsupportedClass qclass => "unsupported DNS question class: " ++ toString qclass.toNat

/-- The labels of a question name, and what follows the name. -/
def parseLabels : ℕ → Bytes → Except DnsWireError (List String × Bytes)
  | 0, _ => .error .labelOutOfBounds
  | _ + 1, [] => .error .labelOutOfBounds
  | fuel + 1, labelLen :: rest =>
    if labelLen = 0 then .ok ([], rest)
    else if labelLen &&& 0xc0 ≠ 0 then .error .compressedQuestionName
    else if rest.length < labelLen.toNat then .error .labelOutOfBounds
    else match Text.fromUtf8 (rest.take labelLen.toNat) with
      | none => .error .invalidLabel
      | some label =>
        (parseLabels fuel (rest.drop labelLen.toNat)).map fun (labels, rest) =>
          (toAsciiLowercase label :: labels, rest)

def parseDnsQuery (packet : Bytes) : Except DnsWireError DnsWireQuestion :=
  match packet with
  | i0 :: i1 :: f0 :: f1 :: q0 :: q1 :: _ :: _ :: _ :: _ :: _ :: _ :: body => do
    let flags := ofBe16 f0 f1
    if flags &&& 0x8000 ≠ 0 then throw .responsePacket
    let opcode := (flags >>> 11) &&& 0x0f
    if opcode ≠ 0 then throw (.unsupportedOpcode opcode)
    let count := ofBe16 q0 q1
    if count ≠ 1 then throw (.questionCount count)
    let (labels, tail) ← parseLabels (body.length + 1) body
    match tail with
    | t0 :: t1 :: c0 :: c1 :: rest =>
      if ofBe16 c0 c1 ≠ 1 then throw (.unsupportedClass (ofBe16 c0 c1))
      return {
        id := ofBe16 i0 i1
        name := ".".intercalate labels
        questionType := .fromCode (ofBe16 t0 t1)
        rawQuestion := body.take (body.length - rest.length)
        recursionDesired := flags &&& 0x0100 != 0 }
    | _ => throw .questionTooShort
  | _ => .error .packetTooShort

def dnsResponseHeader (question : DnsWireQuestion) (rcode : UInt8) (answerCount : UInt16) : Bytes :=
  let flags := (0x8000 : UInt16) ||| 0x0080 ||| (rcode &&& 0x0f).toUInt16
  let flags := if question.recursionDesired then flags ||| 0x0100 else flags
  be16 question.id ++ be16 flags ++ be16 1 ++ be16 answerCount ++ be16 0 ++ be16 0

def dnsAnswer (questionType : DnsQuestionType) (ttlSeconds : UInt32) (ip : IpAddr) : Bytes :=
  [0xc0, 0x0c] ++ be16 questionType.code ++ be16 1 ++ be32 ttlSeconds ++
    match ip with
    | .v4 ip => be16 4 ++ ip.octets
    | .v6 ip => be16 16 ++ ip.octets

def buildDnsResponse (question : DnsWireQuestion) (ips : List IpAddr) (ttlSeconds : UInt32) : Bytes :=
  let answers := ips.filter question.questionType.matchesIp
  dnsResponseHeader question 0 (UInt16.ofNat answers.length) ++ question.rawQuestion ++
    answers.flatMap (dnsAnswer question.questionType ttlSeconds)

def buildDnsErrorResponse (question : DnsWireQuestion) (rcode : UInt8) : Bytes :=
  dnsResponseHeader question (rcode &&& 0x0f) 0 ++ question.rawQuestion

def hijackedPayload {σ : Type} (resolve : String → UInt16 → Program σ DnsError (List ResolvedAddress))
    (question : DnsWireQuestion) (ttlSeconds : UInt32) : Program σ DnsError (Bytes × UInt8) :=
  match question.questionType with
  | .unsupported _ => .pure (buildDnsErrorResponse question 4, 4)
  | _ => do
    match ← Program.attempt (resolve question.name 0) with
    | .ok addresses => return (buildDnsResponse question (addresses.map (·.ip)) ttlSeconds, 0)
    | .error (.resolveFailed host detail) => Program.fail (.resolveFailed host detail)
    | .error _ => return (buildDnsErrorResponse question 3, 3)

end KeliNative.Dns
