import KeliNative.Platform.TunDevice

/-!
# The system proxy (`keli-platform/src/lib.rs`)

A ctrl is anything that answers the two calls, each time as it likes.
-/

namespace KeliNative.Platform

inductive SystemProxyError where
  | unsupportedPlatform (platform : PlatformKind)
  | invalidProxyServer (server : String)
  | io (error : String)
  | commandFailed (program : String) (code : Option ℤ) (stderr : String)
  deriving DecidableEq

def SystemProxyError.display : SystemProxyError → String
  | .unsupportedPlatform platform => "system proxy is unsupported on " ++ platform.debug
  | .invalidProxyServer server => "invalid system proxy server: " ++ server
  | .io error => "system proxy command failed: " ++ error
  | .commandFailed program code stderr =>
      program ++ " exited with code " ++ (code.map toString).getD "unknown" ++ ": " ++ stderr

structure SystemProxyConfig where
  server : String
  bypass : List String
  deriving DecidableEq

structure SystemProxySnapshot where
  proxyEnable : Option UInt32
  proxyServer : Option String
  proxyOverride : Option String
  deriving DecidableEq

def isProxyServer (server : String) : Bool :=
  match Text.rsplitOnce ':' server with
  | none => false
  | some (host, port) =>
      !(Text.trimMatches (fun c => c = '[' || c = ']') host).isEmpty &&
        (Text.parseU16 port).any (· ≠ 0)

def validateProxyServer (server : String) : Except SystemProxyError Unit :=
  let trimmed := Text.trim server
  if trimmed.isEmpty || trimmed.toList.any Text.isWhitespace || !isProxyServer trimmed then
    .error (.invalidProxyServer server)
  else .ok ()

def SystemProxyConfig.new (server : String) : Except SystemProxyError SystemProxyConfig := do
  validateProxyServer server
  return ⟨server, []⟩

def SystemProxyConfig.withBypass (bypass : List String) (config : SystemProxyConfig) :
    SystemProxyConfig := { config with bypass }

structure SystemProxyController (σ : Type) where
  apply : SystemProxyConfig → Program σ SystemProxyError SystemProxySnapshot
  restore : SystemProxySnapshot → Program σ SystemProxyError Unit

end KeliNative.Platform
