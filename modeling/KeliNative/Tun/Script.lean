import KeliNative.Tun.FlowMachine

/-!
# Scripted runs

A client and a relay for running the model on concrete inputs.
-/

namespace KeliNative.Tun

/-- The next reply of a script; a script that has run out has nothing to read. -/
def nextReply (replies : List TunTcpServerRead) :
    Except String TunTcpServerRead × List TunTcpServerRead :=
  (.ok (replies.headD .noPayload), replies.tail)

/-- The relay whose state is what is left of its script. It answers `establish` to every
connect, and every write, shutdown and close succeeds. -/
def scriptedRelay (establish : Except String Unit) : TunTcpSessionRelay (List TunTcpServerRead) where
  establishSession _ replies := (establish, replies)
  establishSessionWithPlan _ _ replies := (establish, replies)
  writeClientPayload _ replies := (.ok (), replies)
  shutdownClientWrite _ replies := (.ok (), replies)
  readServerEvent _ := nextReply
  pollServerEvent _ := nextReply
  closeSession _ replies := (.ok (), replies)

def clientFlow : TunPacketFlow :=
  ⟨.ipv4, .tcp, .v4 ⟨10, 0, 0, 2⟩, .v4 ⟨192, 0, 2, 1⟩, some 49152, some 443⟩

def clientKey : TunTcpSessionKey :=
  ⟨.v4 ⟨10, 0, 0, 2⟩, 49152, .v4 ⟨192, 0, 2, 1⟩, 443⟩

def clientSegment (sequenceNumber acknowledgmentNumber : UInt32) (flags : UInt16)
    (payload : Bytes) : TunTcpSegment :=
  ⟨clientFlow, sequenceNumber, acknowledgmentNumber, 20, .fromBits flags, 0x4000, payload⟩

def Arrival.ofClient (serverInitialSequenceNumber : UInt32) (segment : TunTcpSegment) : Arrival :=
  ⟨segment, none, serverInitialSequenceNumber, 0x4000, 0⟩

theorem fromFlow_clientFlow : TunTcpSessionKey.fromFlow clientFlow = .ok clientKey := by
  decide

end KeliNative.Tun
