import KeliNative.Framing.AnyTlsDemux
import KeliNative.Framing.ChannelStream
import KeliNative.Framing.Resumable
import KeliNative.Grpc.Reader

/-!
# Frames without data

A reader that takes an empty payload for the end loses what comes after it.
-/

namespace KeliNative.Framing
open List

section

variable {F S : Type} {layer : Layer F}

def succeeded (calls : List (ℕ × Except IoError Bytes)) : List (ℕ × Except IoError Bytes) :=
  calls.filter fun call => call.2.isOk

/-- Whatever lengths are asked for, the calls that succeed read out the bytes, and a call returns
nothing only where the stream was at its end. -/
def ReadsAll (read : ℕ → Io S Bytes) (atEnd : S → Prop) (s : S) (bytes : Bytes) : Prop :=
  ∀ lens : List ℕ, (∀ len ∈ lens, 0 < len) → ReadsOut bytes (succeeded (callReads read lens s)) ∧
    ∀ len, 0 < len → (read len (afterReads read lens s)).1 = .ok [] → atEnd (afterReads read lens s)

/-- Everything was read, no frame with data is left, and the peer has ended the stream. -/
def AtEnd (layer : Layer F) (related : S → PlainStream F → Prop) (s : S) : Prop :=
  ∃ frames ending ending', related s ⟨[], frames, ending⟩ ∧
    layer.fetch frames ending = (.ok none, [], ending')

/-- The payloads that are fetched one after the other, none of them empty. -/
inductive Layer.Shows (layer : Layer F) : List F → Ending → List Bytes → Prop
  | done {frames : List F} {ending ending' : Ending}
    (h : layer.fetch frames ending = layer.fetch [] ending') : Shows layer frames ending []
  | data {frames frames' : List F} {ending ending' : Ending} {payload : Bytes} {rest : List Bytes}
    (h : layer.fetch frames ending = (.ok (some payload), frames', ending')) (hne : payload ≠ [])
    (hrest : Shows layer frames' ending' rest) : Shows layer frames ending (payload :: rest)
  | failed {frames frames' : List F} {ending ending' : Ending} {payloads : List Bytes}
    {error : IoError} (h : layer.fetch frames ending = (.error error, frames', ending'))
    (hrest : Shows layer frames' ending' payloads) : Shows layer frames ending payloads

variable {payloads : List Bytes}

theorem Layer.Shows.of_fetch {frames frames' : List F} {ending ending' : Ending}
    (h : layer.Shows frames' ending' payloads)
    (hfetch : layer.fetch frames ending = layer.fetch frames' ending') :
    layer.Shows frames ending payloads := by
  cases h with
  | done h => exact .done (hfetch.trans h)
  | data h hne hrest => exact .data (hfetch.trans h) hne hrest
  | failed h hrest => exact .failed (hfetch.trans h) hrest

theorem Layer.Shows.read {plain plain' : PlainStream F} {out : Except IoError Bytes} {len : ℕ}
    (hlen : 0 < len) (h : layer.Shows plain.frames plain.ending payloads)
    (hread : layer.read len plain = (out, plain')) :
    ∃ payloads', layer.Shows plain'.frames plain'.ending payloads' ∧
      (∀ first, out = .ok first → first.length ≤ len ∧
        plain.buffer ++ payloads.flatten = first ++ (plain'.buffer ++ payloads'.flatten) ∧
        (first = [] → plain.buffer = [] ∧ payloads = [] ∧
          ∃ ending, layer.fetch plain.frames plain.ending = (.ok none, [], ending))) ∧
      (∀ error, out = .error error →
        plain.buffer ++ payloads.flatten = plain'.buffer ++ payloads'.flatten) := by
  have htake {bytes : Bytes} (hne : bytes ≠ []) : bytes.take len ≠ [] := fun hnil =>
    hne ((take_eq_nil_iff.mp hnil).resolve_left hlen.ne')
  have hsplit (bytes more : Bytes) : bytes ++ more = bytes.take len ++ (bytes.drop len ++ more) := by
    rw [← append_assoc, take_append_drop]
  rw [Layer.read, if_neg fun hand => hlen.ne' hand.1] at hread
  by_cases hbuf : plain.buffer = []
  · rw [if_pos hbuf] at hread
    rw [hbuf]
    cases h with
    | @done _ _ ending hfetch =>
      rw [hfetch, Layer.fetch] at hread
      cases hend : layer.atEnd ending with
      | ok =>
        rw [hend] at hread
        cases hread
        refine ⟨[], .done rfl, ?_, fun _ h => by cases h⟩
        rintro first ⟨⟩
        refine ⟨Nat.zero_le _, rfl, fun _ => ⟨rfl, rfl, ending, ?_⟩⟩
        rw [hfetch, Layer.fetch, hend]
        rfl
      | error =>
        rw [hend] at hread
        cases hread
        exact ⟨[], .done rfl, (fun _ h => by cases h), fun _ _ => rfl⟩
    | @data _ _ _ _ payload rest hfetch hne hrest =>
      rw [hfetch] at hread
      cases hread
      refine ⟨rest, hrest, ?_, fun _ h => by cases h⟩
      rintro first ⟨⟩
      exact ⟨length_take_le _ _, hsplit payload rest.flatten, fun hnil => absurd hnil (htake hne)⟩
    | failed hfetch hrest =>
      rw [hfetch] at hread
      cases hread
      exact ⟨payloads, hrest, (fun _ h => by cases h), fun _ _ => rfl⟩
  · rw [if_neg hbuf] at hread
    cases hread
    refine ⟨payloads, h, ?_, fun _ h => by cases h⟩
    rintro first ⟨⟩
    exact ⟨length_take_le _ _, hsplit _ _, fun hnil => absurd hnil (htake hbuf)⟩

variable {related : S → PlainStream F → Prop} {failures : S → ℕ} {read : ℕ → Io S Bytes}

theorem FollowsPlain.shows (hread : FollowsPlain layer related failures read) {lens : List ℕ}
    (hlens : ∀ len ∈ lens, 0 < len) {s : S} {plain : PlainStream F} (h : related s plain)
    (hshows : layer.Shows plain.frames plain.ending payloads) :
    ReadsOut (plain.buffer ++ payloads.flatten) (succeeded (callReads read lens s)) ∧
      ∃ plain' payloads', related (Framing.afterReads read lens s) plain' ∧
        layer.Shows plain'.frames plain'.ending payloads' := by
  induction lens generalizing s plain payloads with
  | nil => exact ⟨.done _, plain, payloads, h, hshows⟩
  | cons len lens ih =>
    obtain ⟨hlen, hlens⟩ := forall_mem_cons.mp hlens
    have hstep := hread len s plain h
    rw [callReads, Framing.afterReads]
    generalize read len s = run at hstep
    cases hstep with
    | wouldBlock _ _ hrel hsame =>
      rw [← hsame.1]
      exact ih hlens hrel (hshows.of_fetch hsame.2)
    | @plain out s' plain' hplain _ _ hrel =>
      obtain ⟨payloads', hshows', hok, herr⟩ := hshows.read hlen hplain
      obtain ⟨hlater, hafter⟩ := ih hlens hrel hshows'
      refine ⟨?_, hafter⟩
      cases out with
      | error error =>
        rw [herr error rfl]
        exact hlater
      | ok first =>
        obtain ⟨hshort, hbytes, hnil⟩ := hok first rfl
        by_cases hempty : first = []
        · obtain ⟨hbuf, hnone, -⟩ := hnil hempty
          subst hempty hnone
          rw [hbuf] at hbytes
          rw [hbuf]
          rw [show plain'.buffer ++ payloads'.flatten = [] from hbytes.symm] at hlater
          exact .ended hlater
        · rw [hbytes]
          exact .piece hempty hshort hlater

theorem FollowsPlain.readsAll (hread : FollowsPlain layer related failures read) {s : S}
    {frames : List F} {ending : Ending} (h : related s ⟨[], frames, ending⟩)
    (hshows : layer.Shows frames ending payloads) :
    ReadsAll read (AtEnd layer related) s payloads.flatten := by
  intro lens hlens
  obtain ⟨hrds, ⟨buf, frames', ending'⟩, payloads', hrel, hshows'⟩ :=
    hread.shows hlens h hshows
  refine ⟨hrds, fun len hlen hnil => ?_⟩
  have hstep := hread len _ _ hrel
  generalize read len (Framing.afterReads read lens s) = run at hstep hnil
  cases hstep with
  | wouldBlock => cases hnil
  | plain hplain =>
    obtain ⟨_, _, hok, -⟩ := hshows'.read hlen hplain
    obtain ⟨rfl, -, ending'', hfetch⟩ := (hok [] hnil).2.2 rfl
    exact ⟨frames', ending', ending'', hrel, hfetch⟩

end

theorem ShadowsocksTcpStream.shows_chunks {chunks : List ShadowsocksTcpStream.Chunk} (ending : Ending)
    (h : [] ∉ chunks.map Subtype.val) : layer.Shows chunks ending (chunks.map Subtype.val) := by
  induction chunks with
  | nil => exact .done rfl
  | cons chunk chunks ih =>
    obtain ⟨hne, hrest⟩ := not_or.mp (mt mem_cons.mpr h)
    exact .data rfl (Ne.symm hne) (ih hrest)

def AnyTlsTcpStream.ownPayloads (frames : List AnyTlsTcpStream.Frame) : List Bytes :=
  (frames.filter fun frame => frame.IsOwn AnyTlsTcpStream.cmdPsh).map AnyTlsTcpStream.Frame.data

namespace AnyTlsTcpStream

theorem ownPayloads_psh {frame : Frame} (h : frame.IsOwn cmdPsh) (frames : List Frame) :
    ownPayloads (frame :: frames) = frame.data :: ownPayloads frames := by
  rw [ownPayloads, filter_cons_of_pos (by exact decide_eq_true h)]
  rfl

theorem ownPayloads_other {frame : Frame} (h : ¬frame.IsOwn cmdPsh) (frames : List Frame) :
    ownPayloads (frame :: frames) = ownPayloads frames := by
  rw [ownPayloads, filter_cons_of_neg (by simpa using h)]
  rfl

theorem shows_ownPayloads {lossy : Bytes → String} {frames : List Frame} (ending : Ending)
    (h : [] ∉ ownPayloads (untilFin frames)) :
    (layer lossy).Shows frames ending (ownPayloads (untilFin frames)) := by
  induction frames with
  | nil => exact .done rfl
  | cons frame frames ih =>
    by_cases hfin : frame.IsOwn cmdFin
    · rw [untilFin_fin hfin, ownPayloads_other (not_psh_of_fin hfin)]
      have hfetch : (layer lossy).fetch (frame :: frames) ending = (layer lossy).fetch [] .eof := by
        simp only [Layer.fetch, meaning_fin hfin]
        rfl
      exact .done hfetch
    rw [untilFin_cons hfin] at h ⊢
    by_cases hpsh : frame.IsOwn cmdPsh
    · rw [ownPayloads_psh hpsh] at h ⊢
      obtain ⟨hne, hrest⟩ := not_or.mp (mt mem_cons.mpr h)
      refine .data ?_ (Ne.symm hne) (ih hrest)
      rw [Layer.fetch, meaning_psh hpsh]
    · rw [ownPayloads_other hpsh] at h ⊢
      by_cases halert : frame.cmd = cmdAlert
      · have hfetch := Layer.fetch.eq_2 (layer lossy) ending frame frames
        rw [meaning_alert halert] at hfetch
        exact .failed hfetch (ih h)
      · refine (ih h).of_fetch ?_
        rw [Layer.fetch, meaning_other hpsh hfin halert]

end AnyTlsTcpStream

namespace ChannelStream

structure Awaits (stream : ChannelStream) (messages : List (Except IoError Bytes)) : Prop where
  buffer : stream.remaining = []
  open_ : stream.eof = false
  messages : messagesOf stream.readRx = messages

theorem shows_messages {payloads : List Bytes} (h : [] ∉ payloads) :
    channelLayer.Shows (payloads.map .ok ++ [.ok []]) .eof payloads := by
  induction payloads with
  | nil => exact .done rfl
  | cons payload payloads ih =>
    obtain ⟨hne, hrest⟩ := not_or.mp (mt mem_cons.mpr h)
    cases payload with
    | nil => exact absurd rfl hne
    | cons byte bytes => exact .data rfl (Ne.symm hne) (ih hrest)

/-- Everything was read, and no message but the end marker of the task is left. -/
def MarkerLeft (stream : ChannelStream) : Prop :=
  stream.remaining = [] ∧ (stream.eof = false → messagesOf stream.readRx <:+ [.ok []])

theorem readFromBuffer_readRx (len : ℕ) (s : ChannelStream) :
    (readFromBuffer len s).2.readRx = s.readRx := by
  unfold readFromBuffer
  dsimp only
  split
  · rfl
  · split <;> rfl

theorem receive_suffix (noData : String) (s : ChannelStream) :
    messagesOf (receiveNextReadChunk noData s).2.readRx <:+ messagesOf s.readRx := by
  unfold receiveNextReadChunk
  split
  · exact suffix_refl _
  rw [← messagesOf_pending s]
  split
  next => exact nil_suffix
  next h =>
    rw [h]
    exact suffix_refl _
  next h =>
    rw [h]
    exact suffix_cons _ _
  next h =>
    rw [h]
    split <;> exact suffix_cons _ _

theorem read_suffix (noData : String) (len : ℕ) (s : ChannelStream) :
    messagesOf (read noData len s).2.readRx <:+ messagesOf s.readRx := by
  have hfirst := readFromBuffer_readRx len s
  unfold read
  split
  · exact suffix_refl _
  split
  next h =>
    rw [h] at hfirst
    exact hfirst ▸ suffix_refl _
  next stream' h =>
    rw [h] at hfirst
    have hrecv := receive_suffix noData stream'
    rw [show stream'.readRx = s.readRx from hfirst] at hrecv
    split
    next h =>
      rw [h] at hrecv
      exact hrecv
    next h =>
      rw [h] at hrecv
      exact hrecv
    next h =>
      rw [h] at hrecv
      dsimp only
      rw [readFromBuffer_readRx]
      exact hrecv

theorem afterReads_suffix (noData : String) (lens : List ℕ) (s : ChannelStream) :
    messagesOf (afterReads (read noData) lens s).readRx <:+ messagesOf s.readRx := by
  induction lens generalizing s with
  | nil => exact suffix_refl _
  | cons len lens ih => exact (ih _).trans (read_suffix noData len s)

theorem marker_of_fetch {payloads : List Bytes} (hne : [] ∉ payloads)
    {frames : List (Except IoError Bytes)} (hsuf : frames <:+ payloads.map .ok ++ [.ok []])
    {ending ending' : Ending} (h : channelLayer.fetch frames ending = (.ok none, [], ending')) :
    frames <:+ [.ok []] := by
  induction payloads with
  | nil => exact hsuf
  | cons data payloads ih =>
    obtain ⟨hpay, hrest⟩ := not_or.mp (mt mem_cons.mpr hne)
    rcases suffix_cons_iff.mp hsuf with rfl | hsuf
    · obtain ⟨byte, bytes, rfl⟩ := exists_cons_of_ne_nil (Ne.symm hpay)
      cases h
    · exact ih hrest hsuf

theorem readsAll {noData : String} {s : ChannelStream} {payloads : List Bytes}
    (h : s.Awaits (payloads.map .ok ++ [.ok []])) (hne : [] ∉ payloads) :
    ReadsAll (read noData) MarkerLeft s payloads.flatten := by
  have hholding : Holding s ⟨[], payloads.map .ok ++ [.ok []], .eof⟩ := by
    refine ⟨h.buffer, rfl, ?_, ?_⟩
    · rw [h.open_]
      exact h.messages
    · intro error hmem
      rw [h.messages] at hmem
      simp at hmem
  intro lens hlens
  have hafter := afterReads_suffix noData lens s
  rw [h.messages] at hafter
  obtain ⟨hrds, hend⟩ := read_follows.readsAll hholding (shows_messages hne) lens hlens
  refine ⟨hrds, fun len hlen hnil => ?_⟩
  obtain ⟨frames, ending, ending', hheld, hfetch⟩ := hend len hlen hnil
  refine ⟨hheld.buffer, fun hopen => ?_⟩
  have hmsgs := hheld.messages
  rw [hopen] at hmsgs
  rw [show messagesOf _ = frames from hmsgs] at hafter ⊢
  exact marker_of_fetch hne hafter hfetch

end ChannelStream

theorem readH2Data_ok (payloads : List Bytes) :
    readH2Data (payloads.map .ok) = payloads.map .ok ++ [.ok []] := by
  induction payloads with
  | nil => rfl
  | cons data payloads ih => exact congrArg (_ :: ·) ih

theorem AnyTlsTcpStream.flatten_ownPayloads (frames : List AnyTlsTcpStream.Frame) :
    (ownPayloads frames).flatten = ownData frames := by
  induction frames with
  | nil => rfl
  | cons frame frames ih =>
    rw [ownData_cons]
    by_cases h : frame.IsOwn cmdPsh
    · rw [ownPayloads_psh h, if_pos h, flatten_cons, ih]
    · rw [ownPayloads_other h, if_neg h, nil_append, ih]

def channelWith (messages : List (Except IoError Bytes)) : ChannelStream where
  readRx := messages.map .message
  readBuffer := []
  readOffset := 0
  nonblocking := false
  eof := false

end KeliNative.Framing
