import KeliNative.Framing.Delivery

/-!
# Streams that read from a channel (`GrpcTcpStream`, `Http2TcpStream`)

A task sends what it reads through a channel; an empty message is its word for the end.
-/

namespace KeliNative.Framing
open List

inductive Received where
  | message (found : Except IoError Bytes)
  | empty
  deriving DecidableEq

/-- The reading side: behind the messages that are still to come the task is gone. -/
structure ChannelStream where
  readRx : List Received
  readBuffer : Bytes
  readOffset : ℕ
  nonblocking : Bool
  eof : Bool
  deriving DecidableEq

namespace ChannelStream

def readFromBuffer (len : ℕ) (stream : ChannelStream) : Option Bytes × ChannelStream :=
  let cleared := { stream with readBuffer := [], readOffset := 0 }
  if stream.readBuffer.length ≤ stream.readOffset then (none, cleared)
  else
    let remaining := stream.readBuffer.drop stream.readOffset
    let amount := min remaining.length len
    let copied := { stream with readOffset := stream.readOffset + amount }
    (some (remaining.take amount),
      if stream.readBuffer.length ≤ stream.readOffset + amount then cleared else copied)

def pending (stream : ChannelStream) : List Received :=
  if stream.nonblocking then stream.readRx else stream.readRx.dropWhile (· = .empty)

def receiveNextReadChunk (noData : String) : Io ChannelStream Bool := fun stream =>
  if stream.eof then (.ok false, stream)
  else match stream.pending with
    | [] => (.ok false, { stream with readRx := [], eof := true })
    | .empty :: rest => (.error ⟨.wouldBlock, noData⟩, { stream with readRx := rest })
    | .message (.error error) :: rest => (.error error, { stream with readRx := rest })
    | .message (.ok received) :: rest =>
      if received = [] then (.ok false, { stream with readRx := rest, eof := true })
      else (.ok true, { stream with readRx := rest, readBuffer := received, readOffset := 0 })

def read (noData : String) (len : ℕ) : Io ChannelStream Bytes := fun stream =>
  if len = 0 then (.ok [], stream)
  else match readFromBuffer len stream with
    | (some bytes, stream) => (.ok bytes, stream)
    | (none, stream) =>
      match receiveNextReadChunk noData stream with
      | (.error error, stream) => (.error error, stream)
      | (.ok false, stream) => (.ok [], stream)
      | (.ok true, stream) =>
        let (bytes, stream) := readFromBuffer len stream
        (.ok (bytes.getD []), stream)

end ChannelStream

abbrev GrpcTcpStream := ChannelStream

def GrpcTcpStream.read : ℕ → Io GrpcTcpStream Bytes :=
  ChannelStream.read "gRPC stream has no data available"

abbrev Http2TcpStream := ChannelStream

def Http2TcpStream.read : ℕ → Io Http2TcpStream Bytes :=
  ChannelStream.read "h2 stream has no data available"

/-- The task of an HTTP/2 stream (`read_h2_data`): what it sends for the DATA frames it is given. -/
def readH2Data : List (Except String Bytes) → List (Except IoError Bytes)
  | [] => [.ok []]
  | .error text :: _ => [.error ⟨.other, text⟩]
  | .ok bytes :: chunks => .ok bytes :: readH2Data chunks

def Received.message? : Received → Option (Except IoError Bytes)
  | .message found => some found
  | .empty => none

def messagesOf (received : List Received) : List (Except IoError Bytes) :=
  received.filterMap Received.message?

def channelLayer : Layer (Except IoError Bytes) where
  meaning found := match found with
    | .ok [] => .ends true
    | .ok received => .data received
    | .error error => .failed error
  atEnd _ := .ok ()
  readsIntoEmpty := false

namespace ChannelStream

variable {noData : String}

def remaining (stream : ChannelStream) : Bytes := stream.readBuffer.drop stream.readOffset

/-- The stream holds what the plain stream has decoded, and the messages to come. -/
structure Holding (stream : ChannelStream) (plain : PlainStream (Except IoError Bytes)) : Prop where
  buffer : stream.remaining = plain.buffer
  ending : plain.ending = .eof
  messages : if stream.eof then plain.frames = [] else messagesOf stream.readRx = plain.frames
  errors : ∀ error, Except.error error ∈ messagesOf stream.readRx → error.kind ≠ .wouldBlock

def emptyLeft (stream : ChannelStream) : ℕ :=
  if stream.nonblocking then stream.readRx.countP (· = .empty) else 0

variable {stream : ChannelStream} {plain : PlainStream (Except IoError Bytes)}

theorem readFromBuffer_none (h : stream.remaining = []) (len : ℕ) :
    readFromBuffer len stream = (none, { stream with readBuffer := [], readOffset := 0 }) :=
  if_pos (drop_eq_nil_iff.mp h)

theorem readFromBuffer_some (h : stream.remaining ≠ []) (len : ℕ) :
    ∃ buf off, readFromBuffer len stream = (some (stream.remaining.take len),
        { stream with readBuffer := buf, readOffset := off }) ∧
      buf.drop off = stream.remaining.drop len := by
  have hnot : ¬stream.readBuffer.length ≤ stream.readOffset := fun hle =>
    h (drop_eq_nil_of_le hle)
  have hdrop : stream.readBuffer.drop (stream.readOffset + min stream.remaining.length len) =
      stream.remaining.drop len := by
    rw [← drop_drop]
    exact drop_min_length stream.remaining len
  have htake : (stream.readBuffer.drop stream.readOffset).take
      (min (stream.readBuffer.drop stream.readOffset).length len) = stream.remaining.take len :=
    take_min_length stream.remaining len
  unfold readFromBuffer
  dsimp only
  rw [if_neg hnot, htake]
  split
  next hused =>
    refine ⟨[], 0, rfl, ?_⟩
    rw [← hdrop]
    exact (drop_eq_nil_of_le hused).symm
  next => exact ⟨_, _, rfl, hdrop⟩

theorem messagesOf_pending (stream : ChannelStream) :
    messagesOf stream.pending = messagesOf stream.readRx := by
  unfold pending
  split_ifs
  · rfl
  · induction stream.readRx with
    | nil => rfl
    | cons found rest ih =>
      cases found with
      | message found => rfl
      | empty => exact ih

theorem pending_nonblocking {rest : List Received} (h : stream.pending = .empty :: rest) :
    stream.nonblocking = true ∧ stream.readRx = .empty :: rest := by
  unfold pending at h
  split_ifs at h with hmode
  · exact ⟨hmode, h⟩
  · have hhead := List.head?_dropWhile_not (· = Received.empty) stream.readRx
    rw [h] at hhead
    simp at hhead

theorem emptyLeft_pending {found : Received} {rest : List Received}
    (h : stream.pending = found :: rest) (buf : Bytes) (off : ℕ) (eof : Bool) :
    emptyLeft ⟨rest, buf, off, stream.nonblocking, eof⟩ ≤ emptyLeft stream := by
  unfold emptyLeft
  dsimp only
  split_ifs with hmode
  · rw [pending, if_pos hmode] at h
    rw [h, countP_cons]
    omega
  · exact Nat.le_refl _

theorem plainRead_fetch {len : ℕ} (hlen : len ≠ 0) (hbuf : plain.buffer = []) :
    channelLayer.read len plain =
      Layer.serve len (channelLayer.fetch plain.frames plain.ending) := by
  rw [Layer.read, if_neg fun h => hlen h.1, if_pos hbuf]

theorem read_message (stream : ChannelStream) (rest : List Received) (len : ℕ) {recv : Bytes}
    (hne : recv ≠ []) :
    ∃ buf off, (let (bytes, stream) := readFromBuffer len { stream with
          readRx := rest, readBuffer := recv, readOffset := 0 }
        ((.ok (bytes.getD []), stream) : Except IoError Bytes × ChannelStream)) =
        (.ok (recv.take len),
          { stream with readRx := rest, readBuffer := buf, readOffset := off }) ∧
      buf.drop off = recv.drop len := by
  have hrem : ChannelStream.remaining { stream with
      readRx := rest, readBuffer := recv, readOffset := 0 } ≠ [] := hne
  obtain ⟨buf, off, hrun, hdrop⟩ := readFromBuffer_some hrem len
  refine ⟨buf, off, ?_, hdrop⟩
  rw [hrun]
  rfl

theorem receive_follows {len : ℕ} (hlen : len ≠ 0) (h : Holding stream plain)
    (hempty : stream.remaining = []) :
    ReadStep channelLayer Holding emptyLeft len stream plain
      (match receiveNextReadChunk noData stream with
        | (.error error, stream) => (.error error, stream)
        | (.ok false, stream) => (.ok [], stream)
        | (.ok true, stream) =>
          let (bytes, stream) := readFromBuffer len stream
          (.ok (bytes.getD []), stream)) := by
  obtain ⟨hbuf, hend, hmsgs, herrors⟩ := h
  have hplain := plainRead_fetch hlen (hbuf.symm.trans hempty)
  rw [hend] at hplain
  unfold receiveNextReadChunk
  by_cases heof : stream.eof = true
  · rw [if_pos heof] at hmsgs ⊢
    rw [hmsgs] at hplain
    refine .plain hplain rfl le_rfl ⟨hempty, rfl, ?_, herrors⟩
    rw [if_pos heof]
  · rw [if_neg heof] at hmsgs ⊢
    rw [← messagesOf_pending] at hmsgs herrors
    cases hpend : stream.pending with
    | nil =>
      rw [hpend] at hmsgs
      rw [← hmsgs] at hplain
      refine .plain hplain rfl ?_ ⟨hempty, rfl, rfl, nofun⟩
      unfold emptyLeft
      split_ifs <;> exact Nat.zero_le _
    | cons found rest =>
      rw [hpend] at hmsgs herrors
      have hfewer := emptyLeft_pending hpend
      cases found with
      | empty =>
        obtain ⟨hmode, hrx⟩ := pending_nonblocking hpend
        have hholding : Holding { stream with readRx := rest } plain := by
          refine ⟨hbuf, hend, ?_, herrors⟩
          dsimp only
          rw [if_neg heof]
          exact hmsgs
        refine .wouldBlock rfl ?_ hholding (.refl _)
        unfold emptyLeft
        dsimp only
        rw [if_pos hmode, if_pos hmode, hrx, countP_cons_of_pos (by simp)]
        exact Nat.lt_succ_self _
      | message found =>
        have hlater : ∀ error, Except.error error ∈ messagesOf rest →
            error.kind ≠ .wouldBlock := fun error hmem =>
          herrors error (mem_cons_of_mem _ hmem)
        cases found with
        | error error =>
          have hfetch : channelLayer.fetch plain.frames .eof =
              (.error error, messagesOf rest, .eof) := by
            rw [← hmsgs]
            rfl
          rw [hfetch] at hplain
          have hkind : error.kind ≠ .wouldBlock := herrors error mem_cons_self
          refine .plain hplain (decide_eq_false hkind) (hfewer _ _ _) ⟨hempty, rfl, ?_, hlater⟩
          exact if_neg heof ▸ rfl
        | ok recv =>
          dsimp only
          by_cases hnil : recv = []
          · have hfetch : channelLayer.fetch plain.frames .eof = (.ok none, [], .eof) := by
              rw [← hmsgs, hnil]
              rfl
            rw [hfetch] at hplain
            rw [if_pos hnil]
            exact .plain hplain rfl (hfewer _ _ _) ⟨hempty, rfl, rfl, hlater⟩
          · have hfetch : channelLayer.fetch plain.frames .eof =
                (.ok (some recv), messagesOf rest, .eof) := by
              rw [← hmsgs]
              obtain ⟨byte, bytes, rfl⟩ := exists_cons_of_ne_nil hnil
              rfl
            rw [hfetch] at hplain
            rw [if_neg hnil]
            obtain ⟨buf, off, hrun, hdrop⟩ := read_message stream rest len hnil
            dsimp only at hrun ⊢
            rw [hrun]
            refine .plain hplain rfl (hfewer _ _ _) ⟨hdrop, rfl, ?_, hlater⟩
            exact if_neg heof ▸ rfl

theorem read_follows : FollowsPlain channelLayer Holding emptyLeft (read noData) := by
  intro len stream plain h
  by_cases hlen : len = 0
  · rw [read, if_pos hlen]
    refine .plain ?_ rfl le_rfl h
    rw [Layer.read, if_pos ⟨hlen, rfl⟩]
  rw [read, if_neg hlen]
  by_cases hempty : stream.remaining = []
  · have hbuf : plain.buffer = [] := h.buffer.symm.trans hempty
    rw [readFromBuffer_none hempty]
    have hcleared : Holding { stream with readBuffer := [], readOffset := 0 } plain :=
      ⟨hbuf.symm, h.ending, h.messages, h.errors⟩
    exact (receive_follows hlen hcleared rfl).of_failures_eq rfl
  · obtain ⟨buffer, off, hrun, hdrop⟩ := readFromBuffer_some hempty len
    rw [hrun]
    have hplain : channelLayer.read len plain =
        (.ok (plain.buffer.take len), { plain with buffer := plain.buffer.drop len }) := by
      rw [Layer.read, if_neg fun hzero => hlen hzero.1,
        if_neg fun hnil => hempty (h.buffer.trans hnil)]
    rw [h.buffer] at hdrop ⊢
    exact .plain hplain rfl le_rfl ⟨hdrop, h.ending, h.messages, h.errors⟩

end ChannelStream

end KeliNative.Framing
