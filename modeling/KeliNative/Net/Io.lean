import KeliNative.Lib.Program
import KeliNative.Net.Address

/-!
# Byte streams (`std::io`)

A stream is programs over a world that it may share with others.
-/

namespace KeliNative

abbrev Instant := ℕ
abbrev Duration := ℕ

/-- The kinds of `io::ErrorKind` the source names; `other` is any further kind. -/
inductive ErrorKind where
  | notFound
  | permissionDenied
  | connectionRefused
  | connectionReset
  | addrNotAvailable
  | wouldBlock
  | invalidInput
  | invalidData
  | timedOut
  | writeZero
  | interrupted
  | unsupported
  | unexpectedEof
  | other
  deriving DecidableEq

/-- An `io::Error`: its kind, and its text as `to_string` gives it. -/
structure IoError where
  kind : ErrorKind
  message : String
  deriving DecidableEq

def textContains (text needle : String) : Bool := decide (needle.toList <:+: text.toList)

abbrev Io (ω : Type) := Program ω IoError

/-- `Read + Write` with the calls of `OwnedRelayStream`. A read at the end of the stream returns
nothing. -/
structure ByteStream (ω : Type) where
  setNonblockingMode : Bool → Io ω Unit
  read : ℕ → Io ω Bytes
  write : Bytes → Io ω ℕ
  flush : Io ω Unit
  shutdownWrite : Io ω Unit
  shutdownBoth : Io ω Unit

def Program.ignored {ω ε ε' α : Type} (program : Program ω ε α) : Program ω ε' Unit := fun world =>
  (.ok (), (program world).2)

end KeliNative
