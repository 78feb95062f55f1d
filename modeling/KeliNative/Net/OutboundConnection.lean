import KeliNative.Net.Io

/-!
# Outbound connections (`OutboundConnection`, `keli-net-core/src/direct.rs`)

The type has two pairs of shutdown methods: its own, and those of `OwnedRelayStream`.
-/

namespace KeliNative

inductive Shutdown where
  | write
  | both
  deriving DecidableEq

/-- The calls of the standard library's `TcpStream` the source makes. -/
structure TcpStream (ω : Type) where
  setNonblocking : Bool → Io ω Unit
  read : ℕ → Io ω Bytes
  write : Bytes → Io ω ℕ
  flush : Io ω Unit
  shutdown : Shutdown → Io ω Unit

/-- A WebSocket client: two handles of one socket, and its `Read` and `Write`. -/
structure WebSocketClientStream (ω : Type) where
  reader : TcpStream ω
  writer : TcpStream ω
  read : ℕ → Io ω Bytes
  write : Bytes → Io ω ℕ

namespace WebSocketClientStream

variable {ω : Type} (stream : WebSocketClientStream ω)

def setNonblockingMode (nonblocking : Bool) : Io ω Unit := do
  stream.reader.setNonblocking nonblocking
  stream.writer.setNonblocking nonblocking

def shutdownWrite : Io ω Unit := stream.writer.shutdown .write

def shutdownBoth : Io ω Unit := do
  (stream.reader.shutdown .both).ignored
  stream.writer.shutdown .both

end WebSocketClientStream

inductive OutboundConnection (ω : Type) where
  | tcp (stream : TcpStream ω)
  | webSocket (stream : WebSocketClientStream ω)
  | owned (stream : ByteStream ω)

namespace OutboundConnection

variable {ω : Type}

def shutdownWrite : OutboundConnection ω → Io ω Unit
  | .tcp stream => stream.shutdown .write
  | .webSocket stream => stream.shutdownWrite
  | .owned _ => Program.pure ()

def shutdownBoth : OutboundConnection ω → Io ω Unit
  | .tcp stream => stream.shutdown .both
  | .webSocket stream => stream.shutdownBoth
  | .owned _ => Program.pure ()

def asOwnedRelayStream : OutboundConnection ω → ByteStream ω
  | .tcp stream =>
    { setNonblockingMode := stream.setNonblocking
      read := stream.read
      write := stream.write
      flush := stream.flush
      shutdownWrite := stream.shutdown .write
      shutdownBoth := stream.shutdown .both }
  | .webSocket stream =>
    { setNonblockingMode := stream.setNonblockingMode
      read := stream.read
      write := stream.write
      flush := stream.writer.flush
      shutdownWrite := stream.shutdownWrite
      shutdownBoth := stream.shutdownBoth }
  | .owned stream => stream

/-- The two methods of each name agree, for an owned stream only where its own do nothing. -/
theorem shutdown_agree_iff (conn : OutboundConnection ω) (world : ω) :
    ((conn.shutdownWrite world).2 = (conn.asOwnedRelayStream.shutdownWrite world).2 ↔
        ∀ stream, conn = .owned stream → (stream.shutdownWrite world).2 = world) ∧
      ((conn.shutdownBoth world).2 = (conn.asOwnedRelayStream.shutdownBoth world).2 ↔
        ∀ stream, conn = .owned stream → (stream.shutdownBoth world).2 = world) := by
  cases conn with
  | tcp stream => exact ⟨⟨fun _ => nofun, fun _ => rfl⟩, ⟨fun _ => nofun, fun _ => rfl⟩⟩
  | webSocket stream => exact ⟨⟨fun _ => nofun, fun _ => rfl⟩, ⟨fun _ => nofun, fun _ => rfl⟩⟩
  | owned stream =>
    have howned (prog : ByteStream ω → Io ω Unit) :
        world = (prog stream world).2 ↔
          ∀ s', owned stream = .owned s' → (prog s' world).2 = world := by
      constructor
      · rintro h s' ⟨⟩
        exact h.symm
      · intro h
        exact (h stream rfl).symm
    exact ⟨howned ByteStream.shutdownWrite, howned ByteStream.shutdownBoth⟩

end OutboundConnection

end KeliNative
