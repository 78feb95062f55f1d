import KeliNative.Lib.BigEndian

/-!
# Network addresses

The address types of the standard library, as the octets they hold.
-/

namespace KeliNative

abbrev Bytes := List UInt8

structure Ipv4Addr where
  a : UInt8
  b : UInt8
  c : UInt8
  d : UInt8
  deriving DecidableEq

structure Ipv6Addr where
  octets : List UInt8
  octets_length : octets.length = 16
  deriving DecidableEq

def Ipv4Addr.octets (ip : Ipv4Addr) : Bytes := [ip.a, ip.b, ip.c, ip.d]

inductive IpAddr where
  | v4 (ip : Ipv4Addr)
  | v6 (ip : Ipv6Addr)
  deriving DecidableEq

def IpAddr.isIpv4 : IpAddr → Bool
  | .v4 _ => true
  | .v6 _ => false

def IpAddr.isIpv6 (ip : IpAddr) : Bool := !ip.isIpv4

structure SocketAddr where
  ip : IpAddr
  port : UInt16
  deriving DecidableEq

def Ipv4Addr.localhost : Ipv4Addr := ⟨127, 0, 0, 1⟩

def Ipv6Addr.localhost : Ipv6Addr := ⟨[0, 0, 0, 0, 0, 0, 0, 0, 0, 0, 0, 0, 0, 0, 0, 1], rfl⟩

def octetsValue (octets : Bytes) : ℕ := octets.foldl (fun value octet => value * 256 + octet.toNat) 0

def valueOctets (value : ℕ) : ℕ → Bytes
  | 0 => []
  | n + 1 => valueOctets (value / 256) n ++ [UInt8.ofNat value]

theorem valueOctets_length (value n : ℕ) : (valueOctets value n).length = n := by
  induction n generalizing value with
  | zero => rfl
  | succ n ih => simp only [valueOctets, List.length_append, ih, List.length_singleton]

def Ipv4Addr.toBits (ip : Ipv4Addr) : BitVec 32 := BitVec.ofNat 32 (octetsValue ip.octets)

def Ipv4Addr.ofBits (bits : BitVec 32) : Ipv4Addr :=
  ⟨UInt8.ofNat (bits.toNat / 16777216), UInt8.ofNat (bits.toNat / 65536),
    UInt8.ofNat (bits.toNat / 256), UInt8.ofNat bits.toNat⟩

def Ipv6Addr.toBits (ip : Ipv6Addr) : BitVec 128 := BitVec.ofNat 128 (octetsValue ip.octets)

def Ipv6Addr.ofBits (bits : BitVec 128) : Ipv6Addr :=
  ⟨valueOctets bits.toNat 16, valueOctets_length _ _⟩

end KeliNative
