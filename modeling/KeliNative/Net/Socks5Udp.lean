import KeliNative.Lib.Text
import KeliNative.Net.IpText
import KeliNative.Net.Io

/-!
# SOCKS5 UDP datagrams (`socks5.rs`)

Two reserved bytes, the fragment number, the address and the port before the payload.
-/

namespace KeliNative
open BigEndian Route

inductive Socks5Address where
  | ipv4 (ip : Ipv4Addr)
  | domain (host : String)
  | ipv6 (ip : Ipv6Addr)
  deriving DecidableEq

structure Socks5UdpDatagram where
  address : Socks5Address
  port : UInt16
  payload : Bytes
  deriving DecidableEq

/-- The errors the datagram codec returns; `io` keeps the text of its `io::Error`. -/
inductive Socks5Error where
  | io (message : String)
  | unsupportedAddressType (addressType : UInt8)
  | emptyDomain
  | invalidDomain
  | fragmentedUdpDatagram
  | domainTooLong
  | truncatedUdpDatagram
  deriving DecidableEq

def Socks5Error.display : Socks5Error → String
  | .io error => "SOCKS5 I/O error: " ++ error
  | .unsupportedAddressType addressType =>
      "unsupported SOCKS5 address type: " ++ toString addressType.toNat
  | .emptyDomain => "SOCKS5 request has an empty domain"
  | .invalidDomain => "SOCKS5 request domain is not valid UTF-8"
  | .fragmentedUdpDatagram => "SOCKS5 fragmented UDP datagrams are not supported"
  | .domainTooLong => "SOCKS5 domain is too long"
  | .truncatedUdpDatagram => "SOCKS5 UDP datagram is truncated"

def Socks5Error.toIoError (error : Socks5Error) : IoError := ⟨.invalidData, error.display⟩

def readSlice (input : Bytes) (length : ℕ) : Except Socks5Error (Bytes × Bytes) :=
  if length ≤ input.length then .ok (input.take length, input.drop length)
  else .error .truncatedUdpDatagram

def parseSocks5UdpAddress (addressType : UInt8) (input : Bytes) :
    Except Socks5Error (Socks5Address × Bytes) := do
  if addressType = 0x01 then
    match ← readSlice input 4 with
    | ([a, b, c, d], rest) => return (.ipv4 ⟨a, b, c, d⟩, rest)
    | _ => throw .truncatedUdpDatagram
  else if addressType = 0x03 then
    match ← readSlice input 1 with
    | (length :: _, rest) =>
      if length = 0 then throw .emptyDomain
      let (bytes, rest) ← readSlice rest length.toNat
      match Text.fromUtf8 bytes with
      | none => throw .invalidDomain
      | some host => return (.domain host, rest)
    | _ => throw .truncatedUdpDatagram
  else if addressType = 0x04 then
    let (octets, rest) ← readSlice input 16
    if h : octets.length = 16 then return (.ipv6 ⟨octets, h⟩, rest)
    else throw .truncatedUdpDatagram
  else throw (.unsupportedAddressType addressType)

def parseSocks5UdpDatagram (input : Bytes) : Except Socks5Error Socks5UdpDatagram :=
  match input with
  | reserved :: reserved' :: fragment :: addressType :: rest => do
    if reserved ≠ 0 ∨ reserved' ≠ 0 then throw (.io "SOCKS5 UDP reserved bytes must be zero")
    if fragment ≠ 0 then throw .fragmentedUdpDatagram
    let (address, rest) ← parseSocks5UdpAddress addressType rest
    match ← readSlice rest 2 with
    | ([high, low], payload) => return ⟨address, ofBe16 high low, payload⟩
    | _ => throw .truncatedUdpDatagram
  | _ => .error .truncatedUdpDatagram

def encodeSocks5UdpAddress : Socks5Address → Except Socks5Error Bytes
  | .ipv4 ip => .ok (0x01 :: ip.octets)
  | .domain host =>
    let host := Text.utf8 (Text.trim host)
    if host = [] then .error .emptyDomain
    else if 255 < host.length then .error .domainTooLong
    else .ok (0x03 :: UInt8.ofNat host.length :: host)
  | .ipv6 ip => .ok (0x04 :: ip.octets)

def encodeSocks5UdpDatagram (address : Socks5Address) (port : UInt16) (payload : Bytes) :
    Except Socks5Error Bytes := do
  return [0x00, 0x00, 0x00] ++ (← encodeSocks5UdpAddress address) ++ be16 port ++ payload

def socks5AddressFromIp : IpAddr → Socks5Address
  | .v4 ip => .ipv4 ip
  | .v6 ip => .ipv6 ip

def outboundTargetFromSocks5Udp (ipText : IpText) (address : Socks5Address) (port : UInt16) :
    OutboundTarget :=
  match address with
  | .ipv4 ip => ⟨ipText.display (.v4 ip), port⟩
  | .domain host => ⟨host, port⟩
  | .ipv6 ip => ⟨ipText.display (.v6 ip), port⟩

theorem readSlice_append {slice : Bytes} (rest : Bytes) {length : ℕ} (h : slice.length = length) :
    readSlice (slice ++ rest) length = .ok (slice, rest) := by
  subst h
  rw [readSlice, if_pos (by rw [List.length_append]; omega), List.take_left, List.drop_left]

theorem parseSocks5UdpDatagram_of_address {addressType : UInt8} {input data : Bytes}
    {addr : Socks5Address} {port : UInt16}
    (h : parseSocks5UdpAddress addressType input = .ok (addr, be16 port ++ data)) :
    parseSocks5UdpDatagram (0 :: 0 :: 0 :: addressType :: input) = .ok ⟨addr, port, data⟩ := by
  have hport : readSlice (be16 port ++ data) 2 = .ok (be16 port, data) :=
    readSlice_append data rfl
  simp only [parseSocks5UdpDatagram, h, ne_eq, not_true_eq_false, or_self, ite_false, bind,
    Except.bind, hport]
  simp only [be16, ofBe16_digits]
  rfl

end KeliNative
