import KeliNative.Dns.Host
import KeliNative.Dns.Types
import KeliNative.Lib.KeyMap
import KeliNative.Net.Network

/-!
# The resolver (`DnsEngine`, `dns.rs`)

An engine answers address literals itself.
-/

namespace KeliNative.Dns

def DnsLocalResolutionPolicy.debug : DnsLocalResolutionPolicy → String
  | .allowSystem => "AllowSystem"
  | .preventPublicLeak => "PreventPublicLeak"

def DnsAddressFamilyPolicy.debug : DnsAddressFamilyPolicy → String
  | .dualStack => "DualStack"
  | .ipv4Only => "Ipv4Only"
  | .ipv6Only => "Ipv6Only"

def DnsError.display : DnsError → String
  | .resolveFailed host detail => "failed to resolve " ++ host ++ ": " ++ detail
  | .noRecords host => "DNS returned no records for " ++ host
  | .localResolutionBlocked host policy =>
      "local DNS resolution for " ++ host ++ " blocked by " ++ policy.debug
  | .addressFamilyFiltered host policy =>
      "DNS records for " ++ host ++ " were filtered by " ++ policy.debug

structure DnsCacheEntry where
  ips : List IpAddr
  expiresAt : Instant
  deriving DecidableEq

structure DnsCache where
  ttl : Duration
  entries : KeyMap String DnsCacheEntry

namespace DnsCache

def new (ttl : Duration) : DnsCache := ⟨ttl, ∅⟩

def get (cache : DnsCache) (host : String) (now : Instant) : Option (List IpAddr) :=
  (cache.entries.lookup (normalizeHost host)).bind fun entry =>
    if now < entry.expiresAt then some entry.ips else none

def insert (cache : DnsCache) (host : String) (ips : List IpAddr) (now : Instant) : DnsCache :=
  { cache with entries := cache.entries.insert (normalizeHost host) ⟨ips, now + cache.ttl⟩ }

end DnsCache

structure DnsPolicies where
  localResolution : DnsLocalResolutionPolicy
  addressFamily : DnsAddressFamilyPolicy
  deriving DecidableEq

structure DnsEngine where
  cache : DnsCache
  policies : DnsPolicies

def DnsEngine.system (ttl : Duration) : DnsEngine := ⟨.new ttl, .allowSystem, .dualStack⟩

def addressFamilyMatches (ip : IpAddr) : DnsAddressFamilyPolicy → Bool
  | .dualStack => true
  | .ipv4Only => ip.isIpv4
  | .ipv6Only => ip.isIpv6

def localhostIps : DnsAddressFamilyPolicy → List IpAddr
  | .dualStack => [.v4 .localhost, .v6 .localhost]
  | .ipv4Only => [.v4 .localhost]
  | .ipv6Only => [.v6 .localhost]

abbrev NetDns (ω ε α : Type) := Program (Logged ω NetEvent × DnsEngine) ε α

section

variable {ω κ : Type} (network : Network ω κ) (ipText : IpText)

/-- `SystemDnsResolver::resolve`; an address that is listed twice is kept once. -/
def systemResolve (host : String) : Net ω DnsError (List IpAddr) :=
  Program.bind ((network.lookup host 0).mapError fun error => .resolveFailed host error.message)
    fun addresses => .pure (addresses.foldl
      (fun ips address => if address.ip ∈ ips then ips else ips ++ [address.ip]) [])

/-- The addresses of a name: those cached, or those the system resolver lists. -/
def cachedIps (host : String) (now : Instant) : NetDns ω DnsError (List IpAddr) := fun (s, engine) =>
  match engine.cache.get host now with
  | some ips => (.ok ips, s, engine)
  | none =>
    match systemResolve network host s with
    | (.error error, s) => (.error error, s, engine)
    | (.ok [], s) => (.error (.noRecords host), s, engine)
    | (.ok (ip :: ips), s) =>
      (.ok (ip :: ips), s, { engine with cache := engine.cache.insert host (ip :: ips) now })

def familyFiltered (host : String) (port : UInt16) (policy : DnsAddressFamilyPolicy)
    (ips : List IpAddr) : Except DnsError (List ResolvedAddress) :=
  match ips.filter (addressFamilyMatches · policy) with
  | [] => .error (.addressFamilyFiltered host policy)
  | ip :: ips => .ok ((ip :: ips).map (⟨·, port⟩))

/-- What an engine answers without a lookup: a literal, and any name it may not look up. -/
def localAnswer (policies : DnsPolicies) (host : String) (port : UInt16) :
    Option (Except DnsError (List ResolvedAddress)) :=
  match ipText.parse host with
  | some ip =>
    if addressFamilyMatches ip policies.addressFamily then some (.ok [⟨ip, port⟩])
    else some (.error (.addressFamilyFiltered host policies.addressFamily))
  | none =>
    if policies.localResolution = .preventPublicLeak then
      if host = "localhost" then
        some (.ok ((localhostIps policies.addressFamily).map (⟨·, port⟩)))
      else some (.error (.localResolutionBlocked host policies.localResolution))
    else none

def resolve (host : String) (port : UInt16) : NetDns ω DnsError (List ResolvedAddress) := fun state =>
  let host := normalizeHost host
  match localAnswer ipText state.2.policies host port with
  | some answer => (answer, state)
  | none =>
    Program.bind (Program.outside network.instantNow) (fun now =>
      Program.bind (cachedIps network host now) fun ips => fun (s, engine) =>
        (familyFiltered host port engine.policies.addressFamily ips, s, engine)) state

def resolveSocketAddrs (host : String) (port : UInt16) : NetDns ω IoError (List SocketAddr) :=
  Program.bind ((resolve network ipText host port).mapError fun error =>
      ⟨.addrNotAvailable, error.display⟩)
    fun addresses => .pure (addresses.map fun address => ⟨address.ip, address.port⟩)

end

end KeliNative.Dns
