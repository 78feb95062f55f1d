import KeliNative.Net.Address

/-!
# Route engine (`keli-net-core/src/lib.rs`)

The first matching rule decides. Host names are compared without regard to ASCII case.
-/

namespace KeliNative.Route

structure OutboundTarget where
  host : String
  port : UInt16
  deriving DecidableEq

inductive RouteTarget where
  | domain (host : String)
  | ip (ip : IpAddr)
  deriving DecidableEq

structure RouteDestination where
  target : RouteTarget
  port : UInt16
  deriving DecidableEq

def ipv4PrefixMask (prefixLen : UInt8) : BitVec 32 :=
  if prefixLen = 0 then 0 else BitVec.allOnes 32 <<< (32 - prefixLen.toNat)

def ipv6PrefixMask (prefixLen : UInt8) : BitVec 128 :=
  if prefixLen = 0 then 0 else BitVec.allOnes 128 <<< (128 - prefixLen.toNat)

def maskIp (ip : IpAddr) (prefixLen : UInt8) : IpAddr :=
  match ip with
  | .v4 ip => .v4 (.ofBits (ip.toBits &&& ipv4PrefixMask prefixLen))
  | .v6 ip => .v6 (.ofBits (ip.toBits &&& ipv6PrefixMask prefixLen))

def maxPrefixLen : IpAddr → UInt8
  | .v4 _ => 32
  | .v6 _ => 128

/-- A CIDR block, as `RouteIpCidr::new` makes it: the prefix is not too long and the network is
masked. -/
structure RouteIpCidr where
  network : IpAddr
  prefixLen : UInt8
  prefix_le : prefixLen ≤ maxPrefixLen network
  masked : ∃ ip, network = maskIp ip prefixLen
  deriving DecidableEq

inductive RouteCidrError where
  | invalidPrefixLength (network : IpAddr) (prefixLen : UInt8)
  deriving DecidableEq

theorem maxPrefixLen_maskIp (ip : IpAddr) (prefixLen : UInt8) :
    maxPrefixLen (maskIp ip prefixLen) = maxPrefixLen ip := by
  cases ip <;> rfl

def RouteIpCidr.new (network : IpAddr) (prefixLen : UInt8) : Except RouteCidrError RouteIpCidr :=
  if h : prefixLen ≤ maxPrefixLen network then
    .ok ⟨maskIp network prefixLen, prefixLen, by rw [maxPrefixLen_maskIp]; exact h,
      ⟨network, rfl⟩⟩
  else .error (.invalidPrefixLength network prefixLen)

/- The standard library's `matches` on an address of the other family is false. -/
def RouteIpCidr.containsIp (cidr : RouteIpCidr) (ip : IpAddr) : Bool :=
  match cidr.network, ip with
  | .v4 network, .v4 ip => network.toBits == (ip.toBits &&& ipv4PrefixMask cidr.prefixLen)
  | .v6 network, .v6 ip => network.toBits == (ip.toBits &&& ipv6PrefixMask cidr.prefixLen)
  | _, _ => false

inductive RouteAction where
  | direct
  | block
  | outbound (tag : String)
  | hijackDns
  deriving DecidableEq

inductive RouteMatcher where
  | domainExact (expected : String)
  | domainKeyword (expected : String)
  | domainSuffix (expected : String)
  | ipExact (expected : IpAddr)
  | ipCidr (cidr : RouteIpCidr)
  | portExact (expected : UInt16)
  | portRange (start stop : UInt16)
  deriving DecidableEq

def asciiLowercase (text : String) : List Char := text.toList.map Char.toLower

def RouteMatcher.accepts (matcher : RouteMatcher) (destination : RouteDestination) : Bool :=
  match matcher, destination.target with
  | .domainExact expected, .domain actual => asciiLowercase expected == asciiLowercase actual
  | .domainKeyword expected, .domain actual =>
      decide (asciiLowercase expected <:+: asciiLowercase actual)
  | .domainSuffix expected, .domain actual =>
      let expected := (asciiLowercase expected).dropWhile (· == '.')
      asciiLowercase actual == expected || decide (('.' :: expected) <:+ asciiLowercase actual)
  | .ipExact expected, .ip actual => expected == actual
  | .ipCidr cidr, .ip actual => cidr.containsIp actual
  | .portExact expected, _ => destination.port == expected
  | .portRange start stop, _ => decide (start ≤ destination.port) && decide (destination.port ≤ stop)
  | _, _ => false

structure RouteRule where
  name : String
  matcher : RouteMatcher
  action : RouteAction
  deriving DecidableEq

structure RouteDecision where
  action : RouteAction
  matchedRule : Option String
  deriving DecidableEq

structure RouteEngine where
  rules : List RouteRule
  defaultAction : RouteAction
  deriving DecidableEq

def RouteEngine.decideDestination (routes : RouteEngine) (destination : RouteDestination) :
    RouteDecision :=
  match routes.rules.find? fun rule => rule.matcher.accepts destination with
  | some rule => ⟨rule.action, some rule.name⟩
  | none => ⟨routes.defaultAction, none⟩

end KeliNative.Route
