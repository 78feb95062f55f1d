import KeliNative.Framing.Framed
import KeliNative.Relay.Pump
import Mathlib.Data.List.TakeWhile

/-!
# Writes that are retried

A framed write cuts its buffer into payloads and writes a frame for each.
-/

namespace KeliNative.Framing
open Relay List InnerStream

variable {R σ F S : Type}

/-- Only the replies and what was taken change, and all of `bytes` was taken. -/
def TookAll (bytes : Bytes) (inner inner' : InnerStream) : Prop :=
  ∃ writes, inner' = { inner with writes := writes, taken := inner.taken ++ bytes }

variable {bytes : Bytes}

theorem TookAll.trans {more : Bytes} {inner inner' inner'' : InnerStream}
    (h : TookAll bytes inner inner') (h' : TookAll more inner' inner'') :
    TookAll (bytes ++ more) inner inner'' := by
  obtain ⟨writes, rfl⟩ := h
  obtain ⟨writes', rfl⟩ := h'
  refine ⟨writes', ?_⟩
  rw [append_assoc]

/-- Replies are used up until `writes` are left, and bytes are taken by them, as long as some are
left. -/
def Used (inner : InnerStream) (writes : List WriteReply) (taken : Bytes) : Prop :=
  ∃ used, inner.writes = used ++ writes ∧
    (writes ≠ [] → (∀ reply ∈ used, reply.isFailed) → taken = inner.taken)

theorem write_ok {inner inner' : InnerStream} {count : ℕ}
    (h : write bytes inner = (.ok count, inner')) : TookAll (bytes.take count) inner inner' ∧
      Used inner inner'.writes inner'.taken ∧
      (bytes.drop count = [] ∨ inner'.writes.length < inner.writes.length) := by
  unfold write at h
  split at h
  next hnone =>
    obtain ⟨⟨⟩, rfl⟩ := Prod.mk.inj h
    refine ⟨⟨inner.writes, ?_⟩, ⟨[], rfl, fun hleft => absurd hnone hleft⟩, .inl drop_length⟩
    rw [take_length]
  next limit writes hwrs =>
    obtain ⟨⟨⟩, rfl⟩ := Prod.mk.inj h
    refine ⟨⟨writes, ?_⟩, ⟨[_], hwrs, fun _ hall => ?_⟩, .inr ?_⟩
    · rw [min_comm, take_min_length]
    · exact absurd (hall _ (mem_singleton_self _)) Bool.false_ne_true
    · rw [hwrs]
      exact Nat.lt_succ_self _
  next => cases h

theorem write_error {inner inner' : InnerStream} {error : IoError}
    (h : write bytes inner = (.error error, inner')) :
    ∃ writes, inner.writes = .failed error :: writes ∧ inner' = { inner with writes := writes } := by
  unfold write at h
  split at h
  · cases h
  · cases h
  next writes hwrs =>
    cases h
    exact ⟨writes, hwrs, rfl⟩

theorem writeAllLoop_ok {turns : ℕ} {inner inner' : InnerStream}
    (hturns : bytes = [] ∨ inner.writes.length < turns)
    (h : writeAllLoop turns bytes inner = (.ok (), inner')) : TookAll bytes inner inner' := by
  have hnil (inner : InnerStream) : TookAll [] inner inner :=
    ⟨inner.writes, by rw [append_nil]⟩
  induction turns generalizing bytes inner with
  | zero =>
    obtain rfl := hturns.resolve_right (Nat.not_lt_zero _)
    obtain rfl := (Prod.mk.inj h).2
    exact hnil inner
  | succ turns ih =>
    rw [writeAllLoop] at h
    split at h
    next hempty =>
      obtain rfl := (Prod.mk.inj h).2
      rw [hempty]
      exact hnil inner
    next hne =>
      replace hturns := hturns.resolve_left hne
      split at h
      next => cases h
      next count middle _ hrun =>
        obtain ⟨htook, -, hrest⟩ := write_ok hrun
        have hrest := ih (hrest.imp_right fun hless => by omega) h
        rw [← take_append_drop count bytes]
        exact htook.trans hrest
      next hrun =>
        obtain ⟨writes, hwrs, rfl⟩ := write_error hrun
        rw [hwrs] at hturns
        split at h
        · have hrest := ih (.inr (Nat.lt_of_succ_lt_succ hturns)) h
          exact hrest
        · cases h

theorem writeAll_ok {inner inner' : InnerStream} (h : writeAll bytes inner = (.ok (), inner')) :
    TookAll bytes inner inner' :=
  writeAllLoop_ok (.inr (by omega)) h

theorem onInner_eq {α : Type} {prog : Io InnerStream α} {stream stream' : Framed R}
    {out : Except IoError α} (h : Framed.onInner prog stream = (out, stream')) :
    ∃ inner, stream' = { stream with inner := inner } ∧ prog stream.inner = (out, inner) := by
  rcases hrun : prog stream.inner with ⟨_, inner⟩
  rw [Framed.onInner_run hrun] at h
  obtain ⟨rfl, rfl⟩ := Prod.mk.inj h
  exact ⟨inner, rfl, rfl⟩

theorem onInner_writeAll_ok {stream stream' : Framed R}
    (h : Framed.onInner (writeAll bytes) stream = (.ok (), stream')) :
    ∃ inner, stream' = { stream with inner := inner } ∧ TookAll bytes stream.inner inner := by
  obtain ⟨inner, rfl, hrun⟩ := onInner_eq h
  exact ⟨inner, rfl, writeAll_ok hrun⟩

def WriteReply.Blocks : WriteReply → Prop
  | .takes _ => False
  | .failed error => isNonblockingPause error = true ∧ error.kind ≠ .interrupted

/-- A pause is passed on from the last reply that was used. -/
def Answered {α : Type} (inner : InnerStream) : Except IoError α → InnerStream → Prop :=
  Program.Outcome (fun _ inner' => Used inner inner'.writes inner'.taken) fun error inner' =>
    isNonblockingPause error = true →
      error.kind ≠ .interrupted ∧ Used inner (.failed error :: inner'.writes) inner'.taken

def Answers {α : Type} (inner : S → InnerStream) (program : Io S α) : Prop :=
  ∀ s, Answered (inner s) (program s).1 (inner (program s).2)

theorem Used.refl (inner : InnerStream) : Used inner inner.writes inner.taken :=
  ⟨[], rfl, fun _ _ => rfl⟩

theorem Used.trans {inner middle : InnerStream} {writes : List WriteReply} {taken : Bytes}
    (h : Used inner middle.writes middle.taken) (h' : Used middle writes taken) :
    Used inner writes taken := by
  obtain ⟨used, hused, htaken⟩ := h
  obtain ⟨used', hused', htaken'⟩ := h'
  refine ⟨used ++ used', by rw [hused, hused', append_assoc], fun hleft hall => ?_⟩
  obtain ⟨hfirst, hsecond⟩ := forall_mem_append.mp hall
  have hmiddle : middle.writes ≠ [] := by
    rw [hused']
    exact append_ne_nil_of_right_ne_nil _ hleft
  rw [htaken' hleft hsecond, htaken hmiddle hfirst]

section

variable {α β : Type} {inner : S → InnerStream}

theorem Answered.after {inner middle inner' : InnerStream} {out : Except IoError α}
    (h : Used inner middle.writes middle.taken) (h' : Answered middle out inner') :
    Answered inner out inner' := by
  cases out with
  | ok => exact h.trans h'
  | error error => exact fun hpause => ⟨(h' hpause).1, h.trans (h' hpause).2⟩

theorem answers_pure (a : α) : Answers inner (Program.pure a) := fun s => .refl (inner s)

theorem Answers.bind {prog : Io S α} {next : α → Io S β} (h : Answers inner prog)
    (h' : ∀ a, Answers inner (next a)) : Answers inner (Program.bind prog next) := by
  intro s
  have hfirst := h s
  rcases hrun : prog s with ⟨out, s'⟩
  rw [hrun] at hfirst
  rw [Program.bind, hrun]
  cases out with
  | ok a => exact .after hfirst (h' a s')
  | error => exact hfirst

theorem Answers.writeEach {write : Bytes → Io S Unit} (h : ∀ bytes, Answers inner (write bytes))
    (parts : List Bytes) : Answers inner (Framing.writeEach write parts) := by
  induction parts with
  | nil => exact answers_pure ()
  | cons part parts ih => exact (h part).bind fun _ => ih

theorem writeAllLoop_answers (turns : ℕ) (bytes : Bytes) :
    Answers id (writeAllLoop turns bytes) := by
  induction turns generalizing bytes with
  | zero => exact answers_pure ()
  | succ turns ih =>
    intro inner
    rw [writeAllLoop]
    split
    · exact .refl inner
    split
    next => exact fun hpause => absurd hpause Bool.false_ne_true
    next hrun =>
      exact .after (write_ok hrun).2.1 (ih _ _)
    next hrun =>
      obtain ⟨writes, hwrs, rfl⟩ := write_error hrun
      split
      next =>
        refine .after ?_ (ih bytes _)
        exact ⟨[_], hwrs, fun _ _ => rfl⟩
      next hkind => exact fun _ => ⟨hkind, [], hwrs, fun _ _ => rfl⟩

theorem answers_writeAll (bytes : Bytes) : Answers id (writeAll bytes) := fun inner =>
  writeAllLoop_answers _ bytes inner

theorem answers_onInner {prog : Io InnerStream α} (h : Answers id prog) :
    Answers Framed.inner (Framed.onInner (R := R) prog) := fun stream => h stream.inner

theorem answered_writeAll {stream stream' : Framed R} {out : Except IoError Unit}
    (h : Framed.onInner (writeAll bytes) stream = (out, stream')) :
    Answered stream.inner out stream'.inner := by
  have hans := answers_onInner (answers_writeAll bytes) stream
  rwa [h] at hans

end

theorem flush_taken (inner : InnerStream) : inner.flush.2.taken = inner.taken := by
  unfold flush
  split <;> rfl

theorem flush_error {inner inner' : InnerStream} {error : IoError}
    (h : inner.flush = (.error error, inner')) : inner.flushes = some error :: inner'.flushes := by
  unfold flush at h
  split at h
  · cases h
  · cases h
  next hflushes =>
    cases h
    exact hflushes

theorem chunksLoop_spec {size turns : ℕ} (hsize : 0 < size) (hturns : bytes.length ≤ turns) :
    (chunksLoop size turns bytes).flatten = bytes ∧
      ∀ chunk ∈ chunksLoop size turns bytes, chunk ≠ [] ∧ chunk.length ≤ size := by
  induction turns generalizing bytes with
  | zero =>
    obtain rfl := eq_nil_of_length_eq_zero (Nat.le_zero.mp hturns)
    exact ⟨rfl, nofun⟩
  | succ turns ih =>
    rw [chunksLoop]
    split
    next hempty => exact ⟨hempty.symm, nofun⟩
    next hne =>
      have hpos : 0 < bytes.length := length_pos_iff.mpr hne
      have hrest : (bytes.drop size).length ≤ turns := by
        rw [length_drop]
        omega
      obtain ⟨hflat, hchs⟩ := ih hrest
      refine ⟨?_, ?_⟩
      · rw [flatten_cons, hflat, take_append_drop]
      · intro chunk hmem
        rcases mem_cons.mp hmem with rfl | hmem
        · refine ⟨?_, length_take_le _ _⟩
          rw [← length_pos_iff, length_take]
          omega
        · exact hchs chunk hmem

theorem chunks_spec {size : ℕ} (hsize : 0 < size) (bytes : Bytes) :
    (chunks size bytes).flatten = bytes ∧
      ∀ chunk ∈ chunks size bytes, chunk ≠ [] ∧ chunk.length ≤ size :=
  chunksLoop_spec hsize le_rfl

/-- The frames are data and nothing else, and their payloads make up `bytes`. -/
def Layer.Carry (layer : Layer F) (frames : List F) (bytes : Bytes) : Prop :=
  ∃ payloads : List Bytes, frames.map layer.meaning = payloads.map Meaning.data ∧
    (∀ payload ∈ payloads, payload ≠ []) ∧ payloads.flatten = bytes

theorem Layer.Carry.append {layer : Layer F} {frames more : List F} {rest : Bytes}
    (h : layer.Carry frames bytes) (h' : layer.Carry more rest) :
    layer.Carry (frames ++ more) (bytes ++ rest) := by
  obtain ⟨payloads, hmean, hne, rfl⟩ := h
  obtain ⟨payloads', hmean', hne', rfl⟩ := h'
  refine ⟨payloads ++ payloads', ?_, ?_, flatten_append⟩
  · rw [map_append, map_append, hmean, hmean']
  · intro data hmem
    rcases mem_append.mp hmem with hmem | hmem
    · exact hne data hmem
    · exact hne' data hmem

section

variable (codec : Codec σ F) (layer : Layer F) (state : Framed R → σ)

def Sent (frames : List F) (stream stream' : Framed R) : Prop :=
  stream'.inner.taken = stream.inner.taken ++ codec.encodeAll (state stream) frames ∧
    state stream' = codec.after (state stream) frames

def SendsFrame (size : ℕ) (write : Bytes → Io (Framed R) Unit) : Prop :=
  ∀ payload stream stream', payload ≠ [] → payload.length ≤ size →
    write payload stream = (.ok (), stream') →
    ∃ frame, layer.meaning frame = .data payload ∧ Sent codec state [frame] stream stream'

/-- Writing a buffer, where it succeeds, takes all of it and sends frames with it. -/
def SendsBuffer (limit : ℕ) (write : Bytes → Io (Framed R) ℕ) : Prop :=
  ∀ buffer stream count stream', buffer ≠ [] → buffer.length < limit →
    write buffer stream = (.ok count, stream') →
    count = buffer.length ∧
      ∃ frames, layer.Carry frames buffer ∧ Sent codec state frames stream stream'

variable {codec layer state}

theorem Sent.nil (stream : Framed R) : Sent codec state [] stream stream :=
  ⟨(append_nil _).symm, rfl⟩

theorem Sent.append {frames more : List F} {stream stream' s'' : Framed R}
    (h : Sent codec state frames stream stream') (h' : Sent codec state more stream' s'') :
    Sent codec state (frames ++ more) stream s'' := by
  obtain ⟨htaken, hst⟩ := h
  obtain ⟨htaken', hst'⟩ := h'
  refine ⟨?_, ?_⟩
  · rw [htaken', htaken, hst, codec.encodeAll_append, append_assoc]
  · rw [hst', hst, codec.after_append]

theorem SendsFrame.writeEach {size : ℕ} {write : Bytes → Io (Framed R) Unit}
    (hwrite : SendsFrame codec layer state size write) {parts : List Bytes}
    (hparts : ∀ part ∈ parts, part ≠ [] ∧ part.length ≤ size) {stream stream' : Framed R}
    (h : Framing.writeEach write parts stream = (.ok (), stream')) :
    ∃ frames, frames.map layer.meaning = parts.map Meaning.data ∧
      Sent codec state frames stream stream' := by
  induction parts generalizing stream with
  | nil =>
    obtain rfl := (Prod.mk.inj h).2
    exact ⟨[], rfl, .nil stream⟩
  | cons part parts ih =>
    obtain ⟨hpart, hrest⟩ := forall_mem_cons.mp hparts
    obtain ⟨_, middle, hrun, h⟩ := Program.bind_eq_ok h
    obtain ⟨frame, hmean, hsent⟩ := hwrite part stream middle hpart.1 hpart.2 hrun
    obtain ⟨frames, hmeanings, hsents⟩ := ih hrest h
    refine ⟨[frame] ++ frames, ?_, hsent.append hsents⟩
    rw [singleton_append, map_cons, map_cons, hmean, hmeanings]

theorem SendsFrame.sendsBuffer {size : ℕ} (hsize : 0 < size)
    {write : Bytes → Io (Framed R) Unit} (hwrite : SendsFrame codec layer state size write)
    (limit : ℕ) : SendsBuffer codec layer state limit fun buf =>
      Program.bind (Framing.writeEach write (chunks size buf)) fun _ =>
        Program.pure buf.length := by
  intro buf stream count stream' _ _ h
  obtain ⟨hflat, hchs⟩ := chunks_spec hsize buf
  obtain ⟨_, middle, hrun, h⟩ := Program.bind_eq_ok h
  obtain ⟨hcnt, rfl⟩ := Prod.mk.inj h
  obtain ⟨frames, hmean, hsent⟩ := hwrite.writeEach hchs hrun
  refine ⟨(Except.ok.inj hcnt).symm, frames, ⟨_, hmean, ?_, hflat⟩, hsent⟩
  exact fun chunk hmem => (hchs chunk hmem).1

end

def drain (read : ℕ → Io S Bytes) (len : ℕ) : ℕ → S → Bytes
  | 0, _ => []
  | turns + 1, s =>
    match read len s with
    | (.ok [], _) => []
    | (.ok bytes, s') => bytes ++ drain read len turns s'
    | (.error _, _) => []

inductive Layer.Holds (layer : Layer F) : List F → Ending → Bytes → Prop
  | nil {ending : Ending} (h : layer.atEnd ending = .ok ()) : Holds layer [] ending []
  | data {frame : F} {frames : List F} {ending : Ending} {payload rest : Bytes}
    (hmean : layer.meaning frame = .data payload) (hne : payload ≠ [])
    (h : Holds layer frames ending rest) : Holds layer (frame :: frames) ending (payload ++ rest)
  | skip {frame : F} {frames : List F} {ending : Ending} {bytes : Bytes}
    (hmean : layer.meaning frame = .skip) (h : Holds layer frames ending bytes) :
    Holds layer (frame :: frames) ending bytes
  | closed {frame : F} {frames : List F} {ending : Ending}
    (hmean : layer.meaning frame = .ends true) (h : layer.atEnd .eof = .ok ()) :
    Holds layer (frame :: frames) ending []

section

variable {layer : Layer F}

theorem Layer.Carry.holds {frames : List F} {bytes : Bytes} (h : layer.Carry frames bytes)
    {ending : Ending} (hend : layer.atEnd ending = .ok ()) : layer.Holds frames ending bytes := by
  obtain ⟨payloads, hmean, hne, rfl⟩ := h
  induction payloads generalizing frames with
  | nil =>
    rw [map_eq_nil_iff.mp hmean]
    exact .nil hend
  | cons payload payloads ih =>
    obtain ⟨frame, frames, rfl, hframe, hframes⟩ := map_eq_cons_iff.mp hmean
    obtain ⟨hfirst, hrest⟩ := forall_mem_cons.mp hne
    exact .data hframe hfirst (ih hframes hrest)

theorem Layer.Holds.unique {frames : List F} {ending ending' : Ending} {bytes bytes' : Bytes}
    (h : layer.Holds frames ending bytes) (h' : layer.Holds frames ending' bytes') :
    bytes = bytes' := by
  induction h generalizing bytes' with
  | nil => cases h' with | nil => rfl
  | data hmean _ _ ih =>
    cases h' with
    | data hmean' _ hrest =>
      obtain rfl := Meaning.data.inj (hmean.symm.trans hmean')
      rw [ih hrest]
    | skip hmean' => cases hmean.symm.trans hmean'
    | closed hmean' => cases hmean.symm.trans hmean'
  | skip hmean _ ih =>
    cases h' with
    | data hmean' => cases hmean.symm.trans hmean'
    | skip _ hrest => exact ih hrest
    | closed hmean' => cases hmean.symm.trans hmean'
  | closed hmean =>
    cases h' with
    | data hmean' => cases hmean.symm.trans hmean'
    | skip hmean' => cases hmean.symm.trans hmean'
    | closed => rfl

theorem Layer.Holds.fetch {frames : List F} {ending : Ending} {bytes : Bytes}
    (h : layer.Holds frames ending bytes) :
    (bytes = [] ∧ ∃ ending', layer.fetch frames ending = (.ok none, [], ending') ∧
      layer.Holds [] ending' []) ∨
    ∃ payload rest frames', bytes = payload ++ rest ∧ payload ≠ [] ∧
      layer.fetch frames ending = (.ok (some payload), frames', ending) ∧
      layer.Holds frames' ending rest ∧ frames' <:+ frames := by
  induction h with
  | nil hend =>
    refine .inl ⟨rfl, _, ?_, .nil hend⟩
    rw [Layer.fetch, hend]
    rfl
  | data hmean hne hrest =>
    refine .inr ⟨_, _, _, rfl, hne, ?_, hrest, suffix_cons _ _⟩
    rw [Layer.fetch, hmean]
  | skip hmean _ ih =>
    rw [Layer.fetch, hmean]
    rcases ih with hended | ⟨payload, rest, frames', hbytes, hne, hfetch, hrest, hsuf⟩
    · exact .inl hended
    · exact .inr ⟨payload, rest, frames', hbytes, hne, hfetch, hrest, hsuf.trans (suffix_cons _ _)⟩
  | closed hmean hend =>
    refine .inl ⟨rfl, .eof, ?_, .nil hend⟩
    rw [Layer.fetch, hmean]

theorem Layer.Holds.read {plain : PlainStream F} {bytes : Bytes}
    (h : layer.Holds plain.frames plain.ending bytes) {len : ℕ} (hlen : 0 < len) :
    ∃ first rest plain', layer.read len plain = (.ok first, plain') ∧
      plain.buffer ++ bytes = first ++ (plain'.buffer ++ rest) ∧ first.length ≤ len ∧
      (first = [] → plain.buffer ++ bytes = [] ∧ plain'.frames = []) ∧
      plain'.frames <:+ plain.frames ∧ layer.Holds plain'.frames plain'.ending rest := by
  have htake (data : Bytes) (hnil : data.take len = []) : data = [] :=
    (take_eq_nil_iff.mp hnil).resolve_left hlen.ne'
  have hnot : ¬(len = 0 ∧ layer.readsIntoEmpty = false) := fun hand => hlen.ne' hand.1
  by_cases hbuf : plain.buffer = []
  · have hread : layer.read len plain = Layer.serve len (layer.fetch plain.frames plain.ending) := by
      rw [Layer.read, if_neg hnot, if_pos hbuf]
    rcases h.fetch with ⟨rfl, ending', hfetch, hrest⟩ |
      ⟨data, rest, frames', rfl, hne, hfetch, hrest, hsuf⟩
    · rw [hfetch] at hread
      have hnone : plain.buffer ++ [] = [] := by rw [hbuf, append_nil]
      exact ⟨[], [], _, hread, hnone, Nat.zero_le _, fun _ => ⟨hnone, rfl⟩, nil_suffix, hrest⟩
    · rw [hfetch] at hread
      refine ⟨data.take len, rest, _, hread, ?_, length_take_le _ _, fun hnil => ?_, hsuf,
        hrest⟩
      · rw [hbuf, nil_append, ← append_assoc, take_append_drop]
      · exact absurd (htake data hnil) hne
  · refine ⟨plain.buffer.take len, bytes, { plain with buffer := plain.buffer.drop len }, ?_, ?_,
      length_take_le _ _, fun hnil => absurd (htake _ hnil) hbuf, suffix_refl _, h⟩
    · rw [Layer.read, if_neg hnot, if_neg hbuf]
    · rw [← append_assoc, take_append_drop]

end

theorem FollowsPlain.drain_eq {layer : Layer F} {related : S → PlainStream F → Prop}
    {failures : S → ℕ} {read : ℕ → Io S Bytes} (hread : FollowsPlain layer related failures read)
    {len turns : ℕ} (hlen : 0 < len) {s : S} {plain : PlainStream F} (h : related s plain)
    (hnone : failures s = 0) {bytes : Bytes} (hholds : layer.Holds plain.frames plain.ending bytes)
    (hturns : (plain.buffer ++ bytes).length < turns) :
    drain read len turns s = plain.buffer ++ bytes := by
  induction turns generalizing s plain bytes with
  | zero => exact absurd hturns (Nat.not_lt_zero _)
  | succ turns ih =>
    obtain ⟨first, rest, next, hfirst, hsplit, -, hempty, -, hrest⟩ := hholds.read hlen
    have hstep := hread len s plain h
    rw [drain]
    generalize read len s = run at hstep
    cases hstep with
    | wouldBlock _ hfewer => omega
    | @plain out s' plain' hplain _ hfewer hrel =>
      obtain ⟨rfl, rfl⟩ := Prod.mk.inj (hplain.symm.trans hfirst)
      cases first with
      | nil => exact (hempty rfl).1.symm
      | cons byte first =>
        rw [hsplit, length_append, length_cons] at hturns
        have hlater := ih hrel (by omega) hrest (by omega)
        simp only
        rw [hlater, hsplit]

def pumpRetried (write : Bytes → Io S ℕ) : ℕ → PendingWrite → Program S RelayError PendingWrite
  | 0, pending => Program.pure pending
  | tries + 1, pending => Program.bind (pumpWrite write pending) fun (_, pending) =>
    pumpRetried write tries pending

/-- Buffer after buffer is handed to `pump_write`, each with so many tries; the next one only
when nothing of the last is pending. -/
def pumpBuffers (write : Bytes → Io S ℕ) : List (Bytes × ℕ) → Program S RelayError Bool
  | [] => Program.pure true
  | (buffer, tries) :: rest => Program.bind (pumpRetried write tries (.set buffer)) fun pending =>
    if pending.isEmpty then pumpBuffers write rest else Program.pure false

structure WriteCall (S : Type) where
  before : S
  after : S

def watch (write : Bytes → Io S ℕ) (bytes : Bytes) : Io (S × List (WriteCall S)) ℕ :=
  fun (s, calls) =>
    let (outcome, s') := write bytes s
    (outcome, s', calls ++ [⟨s, s'⟩])

/-- The replies to the inner writes of a call. -/
def WriteCall.replies (call : WriteCall (Framed R)) : List WriteReply :=
  call.before.inner.writes.take
    (call.before.inner.writes.length - call.after.inner.writes.length)

def WriteCall.flushes (call : WriteCall (Framed R)) : List (Option IoError) :=
  call.before.inner.flushes.take
    (call.before.inner.flushes.length - call.after.inner.flushes.length)

def WriteCall.FlushNeverBlocked (call : WriteCall (Framed R)) : Prop :=
  ∀ error, some error ∈ call.flushes → isNonblockingPause error = false

def WriteCall.NeverBlocked (call : WriteCall (Framed R)) : Prop :=
  ∀ reply ∈ call.replies, ¬reply.Blocks

/-- No reply blocks after one that took bytes. -/
def WriteCall.BlockedAtStart (call : WriteCall (Framed R)) : Prop :=
  ∀ reply ∈ call.replies.dropWhile WriteReply.isFailed, ¬reply.Blocks

section

variable (codec : Codec σ F) (layer : Layer F) (state : Framed R → σ)
  (allowed : WriteCall (Framed R) → Prop)

/-- A call that pauses sent nothing and moved no counter, where it is as allowed. -/
def Undone (write : Bytes → Io (Framed R) ℕ) : Prop :=
  ∀ buffer stream error stream', write buffer stream = (.error error, stream') →
    isNonblockingPause error = true → allowed ⟨stream, stream'⟩ →
    stream'.inner.taken = stream.inner.taken ∧ state stream' = state stream

/-- From `s` to `s'` what is pending no more was sent, once and in order, if the calls were as
allowed. -/
def Pumped (s : Framed R × List (WriteCall (Framed R))) (pending : Bytes)
    (s' : Framed R × List (WriteCall (Framed R))) (pending' : Bytes) : Prop :=
  ∃ more, s'.2 = s.2 ++ more ∧ ((∀ call ∈ more, allowed call) → ∃ frames bytes,
    layer.Carry frames bytes ∧ Sent codec state frames s.1 s'.1 ∧ pending = bytes ++ pending')

def PumpedTo (s : Framed R × List (WriteCall (Framed R))) (pending pending' : PendingWrite)
    (s' : Framed R × List (WriteCall (Framed R))) : Prop :=
  pending'.remaining.length ≤ pending.remaining.length ∧
    Pumped codec layer state allowed s pending.remaining s' pending'.remaining

variable {codec layer state allowed}

section

variable {α : Type} {stream stream' : Framed R} {error : IoError}

theorem Answered.paused (h : Answered stream.inner (.error error : Except IoError α) stream'.inner)
    (hpause : isNonblockingPause error = true) : ∃ used,
      WriteCall.replies ⟨stream, stream'⟩ = used ++ [.failed error] ∧
      (WriteReply.failed error).Blocks ∧
      ((∀ reply ∈ used, reply.isFailed) → stream'.inner.taken = stream.inner.taken) := by
  obtain ⟨hkind, used, hused, htaken⟩ := h hpause
  refine ⟨used, ?_, ⟨hpause, hkind⟩, htaken (cons_ne_nil _ _)⟩
  rw [WriteCall.replies, hused, append_cons, length_append, Nat.add_sub_cancel, take_left]

theorem Answered.taken_eq (h : Answered stream.inner (.error error : Except IoError α) stream'.inner)
    (hpause : isNonblockingPause error = true) (hstart : WriteCall.BlockedAtStart ⟨stream, stream'⟩) :
    stream'.inner.taken = stream.inner.taken := by
  obtain ⟨used, hreps, hblocks, htaken⟩ := h.paused hpause
  refine htaken (dropWhile_eq_nil_iff.mp (by_contra fun hne => hstart _ ?_ hblocks))
  rw [hreps, dropWhile_append, if_neg (mt List.isEmpty_iff.mp hne)]
  exact mem_append_right _ (mem_singleton_self _)

theorem undone_of_neverBlocked {write : Bytes → Io (Framed R) ℕ}
    (h : ∀ buf, Answers Framed.inner (write buf)) :
    Undone state WriteCall.NeverBlocked write := by
  intro buf stream error stream' hrun hpause hnever
  have hans := h buf stream
  rw [hrun] at hans
  obtain ⟨used, hreps, hblocks, -⟩ := hans.paused hpause
  refine absurd hblocks (hnever _ ?_)
  rw [hreps]
  exact mem_append_right _ (mem_singleton_self _)

end

theorem Pumped.refl (s : Framed R × List (WriteCall (Framed R))) (pending : Bytes) :
    Pumped codec layer state allowed s pending s pending :=
  ⟨[], (append_nil _).symm, fun _ => ⟨[], [], ⟨[], rfl, nofun, rfl⟩, .nil _, rfl⟩⟩

variable {s' : Framed R × List (WriteCall (Framed R))} {write : Bytes → Io (Framed R) ℕ}

theorem Pumped.trans {s s'' : Framed R × List (WriteCall (Framed R))}
    {pending pending' pending'' : Bytes} (h : Pumped codec layer state allowed s pending s' pending')
    (h' : Pumped codec layer state allowed s' pending' s'' pending'') :
    Pumped codec layer state allowed s pending s'' pending'' := by
  obtain ⟨calls, hcalls, hsent⟩ := h
  obtain ⟨calls', hcalls', hsent'⟩ := h'
  refine ⟨calls ++ calls', by rw [hcalls', hcalls, append_assoc], fun hundone => ?_⟩
  obtain ⟨hfirst, hsecond⟩ := forall_mem_append.mp hundone
  obtain ⟨frames, bytes, hcarry, hframes, rfl⟩ := hsent hfirst
  obtain ⟨frames', bytes', hcarry', hframes', rfl⟩ := hsent' hsecond
  refine ⟨frames ++ frames', bytes ++ bytes', hcarry.append hcarry', hframes.append hframes', ?_⟩
  rw [append_assoc]

theorem Pumped.before {s : Framed R × List (WriteCall (Framed R))} {pending pending' : Bytes}
    (h : Pumped codec layer state allowed s pending s' pending') (more : Bytes) :
    Pumped codec layer state allowed s (pending ++ more) s' (pending' ++ more) := by
  obtain ⟨calls, hcalls, hsent⟩ := h
  refine ⟨calls, hcalls, fun hundone => ?_⟩
  obtain ⟨frames, bytes, hcarry, hframes, rfl⟩ := hsent hundone
  exact ⟨frames, bytes, hcarry, hframes, append_assoc _ _ _⟩

theorem isEmpty_iff_remaining (pending : PendingWrite) :
    pending.isEmpty = true ↔ pending.remaining = [] := by
  rw [PendingWrite.isEmpty, decide_eq_true_iff, PendingWrite.remaining, drop_eq_nil_iff]

theorem advance_remaining (pending : PendingWrite) :
    pending.advance pending.remaining.length = .new := by
  have hall : pending.bytes.length ≤ pending.offset + pending.remaining.length := by
    rw [PendingWrite.remaining, length_drop]
    omega
  exact if_pos (decide_eq_true hall)

section

variable {limit : ℕ} (hwrite : SendsBuffer codec layer state limit write)
  (hundone : Undone state allowed write)

include hwrite hundone

theorem pumpWriteLoop_pumped (turns : ℕ) {pending : PendingWrite}
    (hlim : pending.remaining.length < limit) (progressed : Bool)
    (s : Framed R × List (WriteCall (Framed R))) :
    Program.Ensures (pumpWriteLoop (watch write) turns pending progressed) s
      (Program.Outcome (fun res s' => PumpedTo codec layer state allowed s pending res.2 s')
        fun _ _ => True) := by
  induction turns generalizing pending progressed s with
  | zero => exact ⟨le_rfl, .refl _ _⟩
  | succ turns ih =>
    unfold Program.Ensures pumpWriteLoop
    split
    · exact ⟨le_rfl, .refl _ _⟩
    next hpend =>
      have hne : pending.remaining ≠ [] := fun hnil =>
        hpend ((isEmpty_iff_remaining pending).mpr hnil)
      rcases hrun : write pending.remaining s.1 with ⟨out, stream'⟩
      have hwatch : watch write pending.remaining s =
          (out, stream', s.2 ++ [⟨s.1, stream'⟩]) := by
        simp only [watch, hrun]
      rw [hwatch]
      cases out with
      | ok count =>
        obtain ⟨rfl, frames, hcarry, hsent⟩ := hwrite _ _ _ _ hne hlim hrun
        obtain ⟨count, hcnt⟩ := Nat.exists_eq_succ_of_ne_zero (length_pos_iff.mpr hne).ne'
        have hstep : Pumped codec layer state allowed s pending.remaining
            (stream', s.2 ++ [⟨s.1, stream'⟩]) [] :=
          ⟨_, rfl, fun _ => ⟨frames, _, hcarry, hsent, (append_nil _).symm⟩⟩
        have hnew : PendingWrite.new.remaining.length < limit := (Nat.zero_le _).trans_lt hlim
        have hrest := ih hnew true (stream', s.2 ++ [⟨s.1, stream'⟩])
        rw [hcnt]
        simp only
        rw [← hcnt, advance_remaining]
        exact hrest.onOk fun _ _ h => ⟨h.1.trans (Nat.zero_le _), hstep.trans h.2⟩
      | error error =>
        simp only
        split
        next hpause =>
          refine ⟨le_rfl, _, rfl, fun hall => ⟨[], [], ⟨[], rfl, nofun, rfl⟩, ?_, rfl⟩⟩
          obtain ⟨htaken, hst⟩ := hundone _ _ error _ hrun hpause
            (hall _ (mem_singleton_self _))
          exact ⟨htaken.trans (append_nil _).symm, hst⟩
        next => trivial

theorem pumpRetried_pumped (tries : ℕ) {pending : PendingWrite}
    (hlim : pending.remaining.length < limit) (s : Framed R × List (WriteCall (Framed R))) :
    Program.Ensures (pumpRetried (watch write) tries pending) s
      (Program.Outcome (fun res s' => PumpedTo codec layer state allowed s pending res s')
        fun _ _ => True) := by
  induction tries generalizing pending s with
  | zero => exact ⟨le_rfl, .refl _ _⟩
  | succ tries ih =>
    refine Program.ensures_bind (pumpWriteLoop_pumped hwrite hundone _ hlim false s) ?_ fun _ _ h => h
    intro res s' hstep
    obtain ⟨hless, hpumped⟩ := hstep
    exact (ih (hless.trans_lt hlim) s').onOk fun _ _ h => ⟨h.1.trans hless, hpumped.trans h.2⟩

theorem pumpBuffers_pumped {bufs : List (Bytes × ℕ)}
    (hlim : ∀ buf ∈ bufs, buf.1.length < limit)
    (s : Framed R × List (WriteCall (Framed R))) :
    Program.Ensures (pumpBuffers (watch write) bufs) s
      (Program.Outcome (fun written s' => written = true →
        Pumped codec layer state allowed s (bufs.map Prod.fst).flatten s' []) fun _ _ => True) := by
  induction bufs generalizing s with
  | nil => exact fun _ => Pumped.refl _ _
  | cons head bufs ih =>
    obtain ⟨buf, tries⟩ := head
    obtain ⟨hbuf, hbuffers⟩ := forall_mem_cons.mp hlim
    have hset : (PendingWrite.set buf).remaining.length < limit := hbuf
    refine Program.ensures_bind (pumpRetried_pumped hwrite hundone tries hset s) ?_ fun _ _ h => h
    intro pending s' hstep
    split
    next hempty =>
      have hpumped : Pumped codec layer state allowed s buf s' pending.remaining := hstep.2
      rw [(isEmpty_iff_remaining pending).mp hempty] at hpumped
      exact (ih hbuffers s').onOk fun _ _ h hwrote => (hpumped.before _).trans (h hwrote)
    next => exact nofun

theorem pumpBuffers_sent {bufs : List (Bytes × ℕ)}
    (hlim : ∀ buf ∈ bufs, buf.1.length < limit) {stream stream' : Framed R}
    {calls : List (WriteCall (Framed R))}
    (hrun : pumpBuffers (watch write) bufs (stream, []) = (.ok true, stream', calls))
    (hcalls : ∀ call ∈ calls, allowed call) :
    ∃ frames, layer.Carry frames (bufs.map Prod.fst).flatten ∧
      Sent codec state frames stream stream' := by
  have hpumped := pumpBuffers_pumped hwrite hundone hlim (stream, [])
  rw [Program.Ensures, hrun] at hpumped
  obtain ⟨more, rfl, hsent⟩ := hpumped rfl
  obtain ⟨frames, bytes, hcarry, hframes, hbytes⟩ := hsent hcalls
  rw [hbytes, append_nil]
  exact ⟨frames, hcarry, hframes⟩

end

end

end KeliNative.Framing
