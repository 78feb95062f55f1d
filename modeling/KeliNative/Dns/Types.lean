import KeliNative.Net.Address

/-!
# DNS data types (`dns.rs`)

Policies, errors and the parsed question of the DNS module.
-/

namespace KeliNative.Dns

structure ResolvedAddress where
  ip : IpAddr
  port : UInt16
  deriving DecidableEq

inductive DnsLocalResolutionPolicy where
  | allowSystem
  | preventPublicLeak
  deriving DecidableEq

inductive DnsAddressFamilyPolicy where
  | dualStack
  | ipv4Only
  | ipv6Only
  deriving DecidableEq

inductive DnsError where
  | resolveFailed (host detail : String)
  | noRecords (host : String)
  | localResolutionBlocked (host : String) (policy : DnsLocalResolutionPolicy)
  | addressFamilyFiltered (host : String) (policy : DnsAddressFamilyPolicy)
  deriving DecidableEq

inductive DnsQuestionType where
  | a
  | aaaa
  | unsupported (code : UInt16)
  deriving DecidableEq

def DnsQuestionType.fromCode (code : UInt16) : DnsQuestionType :=
  if code = 1 then .a else if code = 28 then .aaaa else .unsupported code

def DnsQuestionType.code : DnsQuestionType → UInt16
  | .a => 1
  | .aaaa => 28
  | .unsupported code => code

def DnsQuestionType.matchesIp : DnsQuestionType → IpAddr → Bool
  | .a, ip => ip.isIpv4
  | .aaaa, ip => ip.isIpv6
  | .unsupported _, _ => false

structure DnsWireQuestion where
  id : UInt16
  name : String
  questionType : DnsQuestionType
  rawQuestion : Bytes
  recursionDesired : Bool
  deriving DecidableEq

inductive DnsWireError where
  | packetTooShort
  | responsePacket
  | unsupportedOpcode (opcode : UInt16)
  | questionCount (count : UInt16)
  | labelOutOfBounds
  | compressedQuestionName
  | invalidLabel
  | questionTooShort
  | unsupportedClass (qclass : UInt16)
  deriving DecidableEq

end KeliNative.Dns
