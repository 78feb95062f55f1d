import KeliNative.Framing.Delivery

/-!
# Framed streams

A read copies out of the last decoded payload; a write cuts its buffer into chunks.
-/

namespace KeliNative.Framing

structure Framed (R : Type) where
  readBuffer : Bytes
  readOffset : ℕ
  own : R
  inner : InnerStream
  deriving DecidableEq

namespace Framed

variable {R α : Type}

def onInner (program : Io InnerStream α) : Io (Framed R) α := fun stream =>
  let (result, inner) := program stream.inner
  (result, { stream with inner := inner })

theorem onInner_run {prog : Io InnerStream α} {s : Framed R} {res : Except IoError α}
    {inner : InnerStream} (h : prog s.inner = (res, inner)) :
    onInner prog s = (res, { s with inner := inner }) := by
  rw [onInner, h]

def readTo (rest : List Arrival) (stream : Framed R) : Framed R :=
  { stream with inner := { stream.inner with arrivals := rest } }

@[simp] theorem readTo_own (rest : List Arrival) (s : Framed R) :
    (s.readTo rest).own = s.own := rfl

def remaining (stream : Framed R) : Bytes := stream.readBuffer.drop stream.readOffset

/-- The copy at the end of `read`. Some streams drop a payload as soon as it is used up. -/
def copyOut (clears : Bool) (len : ℕ) : Io (Framed R) Bytes := fun stream =>
  let amount := min stream.remaining.length len
  let copied := { stream with readOffset := stream.readOffset + amount }
  (.ok (stream.remaining.take amount),
    if clears ∧ copied.readBuffer.length ≤ copied.readOffset then
      { copied with readBuffer := [], readOffset := 0 }
    else copied)

def read (readsIntoEmpty clears : Bool) (readNext : Io (Framed R) Bool) (len : ℕ) :
    Io (Framed R) Bytes := fun stream =>
    if len = 0 ∧ readsIntoEmpty = false then (.ok [], stream)
    else if stream.readBuffer.length ≤ stream.readOffset then
      Program.bind readNext (fun
        | true => copyOut clears len
        | false => Program.pure []) stream
    else copyOut clears len stream

theorem copyOut_spec (clears : Bool) (len : ℕ) (s : Framed R) :
    ∃ buf off, copyOut clears len s = (.ok (s.remaining.take len),
        { s with readBuffer := buf, readOffset := off }) ∧
      buf.drop off = s.remaining.drop len := by
  have hdrop : s.readBuffer.drop (s.readOffset + min s.remaining.length len) =
      s.remaining.drop len := by
    rw [← List.drop_drop]
    exact drop_min_length s.remaining len
  unfold copyOut
  dsimp only
  rw [take_min_length]
  split
  next hused =>
    refine ⟨[], 0, rfl, ?_⟩
    rw [← hdrop, List.drop_of_length_le hused.2]
    rfl
  next => exact ⟨_, _, rfl, hdrop⟩

theorem remaining_eq_nil_iff (s : Framed R) :
    s.remaining = [] ↔ s.readBuffer.length ≤ s.readOffset := List.drop_eq_nil_iff

end Framed

def chunksLoop (size : ℕ) : ℕ → Bytes → List Bytes
  | 0, _ => []
  | turns + 1, bytes =>
    if bytes = [] then [] else bytes.take size :: chunksLoop size turns (bytes.drop size)

def chunks (size : ℕ) (bytes : Bytes) : List Bytes := chunksLoop size bytes.length bytes

def writeEach {S : Type} (write : Bytes → Io S Unit) : List Bytes → Io S Unit
  | [] => Program.pure ()
  | chunk :: rest => Program.bind (write chunk) fun _ => writeEach write rest

/-- A program of a framed stream that only writes: it may move the stream's counters. -/
def Framed.OnlyWrites {R : Type} (program : Io (Framed R) Unit) : Prop :=
  ∀ stream : Framed R, stream.inner.Accepting → ∃ own outcome inner,
    program stream = (outcome, { stream with own := own, inner := inner }) ∧
      WroteOrBlocked stream.inner (outcome, inner)

theorem Framed.onlyWrites_onInner {R : Type} {prog : Io InnerStream Unit}
    (h : Framing.OnlyWrites prog) : Framed.OnlyWrites (onInner (R := R) prog) :=
  fun s hacc => ⟨s.own, _, _, rfl, h s.inner hacc⟩

theorem Framed.onlyWrites_bind {R : Type} {prog program' : Io (Framed R) Unit}
    (h : Framed.OnlyWrites prog) (h' : Framed.OnlyWrites program') :
    Framed.OnlyWrites (Program.bind prog fun _ => program') := by
  intro s hacc
  obtain ⟨own, out, inner, hrun, hwrote⟩ := h s hacc
  rw [Program.bind, hrun]
  cases hwrote with
  | @wrote writes taken hacc' hfewer =>
    obtain ⟨own', out', inner', hrun', hwrote'⟩ := h' { s with
      own := own, inner := { s.inner with writes := writes, taken := taken } } hacc'
    exact ⟨own', out', inner', hrun', hwrote'.after hfewer⟩
  | blocked hkind hacc' hfewer =>
    exact ⟨own, _, _, rfl, .blocked hkind hacc' hfewer⟩

def Arrival.isFailed : Arrival → Bool
  | .byte _ _ => false
  | .failed _ => true

theorem Carries.countP_isFailed {arr : List Arrival} {bytes : Bytes} (h : Carries arr bytes) :
    arr.countP Arrival.isFailed = 0 := by
  induction bytes generalizing arr with
  | nil =>
    rw [h.eq_nil]
    rfl
  | cons byte bytes ih =>
    obtain ⟨stop, tail, rfl, htail⟩ := h.cons
    rw [List.countP_cons_of_neg (Bool.false_ne_true)]
    exact ih htail

def failuresLeft {R : Type} (stream : Framed R) : ℕ :=
  stream.inner.arrivals.countP Arrival.isFailed + stream.inner.failedWrites

section

variable {R F : Type} (layer : Layer F) (held : Framed R → List F → Ending → Prop)

/-- One `read_next` of a stream whose payload is used up: it meets `WouldBlock` between two
frames, or does what the plain stream's `fetch` does. -/
inductive NextStep (stream : Framed R) (frames : List F) (ending : Ending) :
    Except IoError Bool × Framed R → Prop
  | wouldBlock {error : IoError} {s' : Framed R} {frames' : List F}
    (hkind : error.kind = .wouldBlock) (hfewer : failuresLeft s' < failuresLeft stream)
    (hrem : s'.remaining = []) (hheld : held s' frames' ending)
    (hsame : layer.fetch frames' ending = layer.fetch frames ending) :
    NextStep stream frames ending (.error error, s')
  | payload {payload : Bytes} {s' : Framed R} {frames' : List F} {ending' : Ending}
    (hfetch : layer.fetch frames ending = (.ok (some payload), frames', ending'))
    (hfewer : failuresLeft s' ≤ failuresLeft stream) (hrem : s'.remaining = payload)
    (hheld : held s' frames' ending') : NextStep stream frames ending (.ok true, s')
  | ended {s' : Framed R} {frames' : List F} {ending' : Ending}
    (hfetch : layer.fetch frames ending = (.ok none, frames', ending'))
    (hfewer : failuresLeft s' ≤ failuresLeft stream) (hrem : s'.remaining = [])
    (hheld : held s' frames' ending') : NextStep stream frames ending (.ok false, s')
  | failed {error : IoError} {s' : Framed R} {frames' : List F} {ending' : Ending}
    (hkind : error.kind ≠ .wouldBlock)
    (hfetch : layer.fetch frames ending = (.error error, frames', ending'))
    (hfewer : failuresLeft s' ≤ failuresLeft stream) (hrem : s'.remaining = [])
    (hheld : held s' frames' ending') : NextStep stream frames ending (.error error, s')

/-- The stream holds what the plain stream has decoded, and the frames to come. -/
structure RelatedPlain (stream : Framed R) (plain : PlainStream F) : Prop where
  buffer : stream.remaining = plain.buffer
  held : held stream plain.frames plain.ending

variable {layer} {held}

theorem NextStep.behind {s middle : Framed R} {frames frames' : List F} {ending : Ending}
    {run : Except IoError Bool × Framed R} (h : NextStep layer held middle frames' ending run)
    (hfetch : layer.fetch frames' ending = layer.fetch frames ending)
    (hfewer : failuresLeft middle ≤ failuresLeft s) :
    NextStep layer held s frames ending run := by
  cases h with
  | wouldBlock hkind hless hrem hheld hsame =>
    exact .wouldBlock hkind (hless.trans_le hfewer) hrem hheld (hsame.trans hfetch)
  | payload hpay hless hrem hheld =>
    exact .payload (hfetch.symm.trans hpay) (hless.trans hfewer) hrem hheld
  | ended hended hless hrem hheld =>
    exact .ended (hfetch.symm.trans hended) (hless.trans hfewer) hrem hheld
  | failed hkind hfail hless hrem hheld =>
    exact .failed hkind (hfetch.symm.trans hfail) (hless.trans hfewer) hrem hheld

theorem failuresLeft_pause {s : Framed R} {error : IoError} {rest : List Arrival}
    (h : s.inner.arrivals = .failed error :: rest) :
    failuresLeft (s.readTo rest) < failuresLeft s := by
  change rest.countP Arrival.isFailed + s.inner.failedWrites < _
  rw [failuresLeft, h, List.countP_cons_of_pos rfl]
  omega

theorem failuresLeft_append {s : Framed R} {seg rest : List Arrival}
    (h : s.inner.arrivals = seg ++ rest) :
    failuresLeft (s.readTo rest) ≤ failuresLeft s := by
  change rest.countP Arrival.isFailed + s.inner.failedWrites ≤ _
  rw [failuresLeft, h, List.countP_append]
  omega

/-- A framed read follows the plain stream if its `read_next` does. -/
theorem Framed.read_follows {clears : Bool} {readNext : Io (Framed R) Bool}
    (hbuf : ∀ s frames ending buffer off, held s frames ending →
      held { s with readBuffer := buffer, readOffset := off } frames ending)
    (hnext : ∀ s frames ending, s.remaining = [] → held s frames ending →
      NextStep layer held s frames ending (readNext s)) :
    FollowsPlain layer (RelatedPlain held) failuresLeft
      (Framed.read layer.readsIntoEmpty clears readNext) := by
  intro len s plain h
  have hcopy (s' : Framed R) (frames : List F) (ending : Ending)
      (hheld : held s' frames ending) :
      ∃ s'', copyOut clears len s' = (.ok (s'.remaining.take len), s'') ∧
        failuresLeft s'' = failuresLeft s' ∧
        RelatedPlain held s'' ⟨s'.remaining.drop len, frames, ending⟩ := by
    obtain ⟨buffer, off, hrun, hrest⟩ := copyOut_spec clears len s'
    exact ⟨_, hrun, rfl, hrest, hbuf _ _ _ _ _ hheld⟩
  by_cases hnot : len = 0 ∧ layer.readsIntoEmpty = false
  · rw [Framed.read, if_pos hnot]
    refine .plain ?_ rfl le_rfl h
    rw [Layer.read, if_pos hnot]
  rw [Framed.read, if_neg hnot]
  by_cases hempty : s.remaining = []
  · have hplain : layer.read len plain =
        Layer.serve len (layer.fetch plain.frames plain.ending) := by
      rw [Layer.read, if_neg hnot, if_pos (h.buffer.symm.trans hempty)]
    rw [if_pos (s.remaining_eq_nil_iff.mp hempty), Program.bind]
    have hstep := hnext s plain.frames plain.ending hempty h.held
    generalize readNext s = run at hstep
    cases hstep with
    | @wouldBlock error s' frames' hkind hfewer hrem hheld hsame =>
      have hrel : RelatedPlain held s' ⟨plain.buffer, frames', plain.ending⟩ :=
        ⟨hrem.trans (hempty.symm.trans h.buffer), hheld⟩
      exact .wouldBlock hkind hfewer hrel ⟨rfl, hsame⟩
    | @payload data s' frames' ending' hfetch hfewer hrem hheld =>
      obtain ⟨s'', hrun, hfailures, hrel⟩ := hcopy s' frames' ending' hheld
      rw [hrem] at hrun hrel
      simp only [hrun]
      refine .plain ?_ rfl (hfailures.trans_le hfewer) hrel
      rw [hplain, hfetch]
      rfl
    | @ended s' frames' ending' hfetch hfewer hrem hheld =>
      have hrel : RelatedPlain held s' ⟨[], frames', ending'⟩ := ⟨hrem, hheld⟩
      refine .plain ?_ rfl hfewer hrel
      rw [hplain, hfetch]
      rfl
    | @failed error s' frames' ending' hkind hfetch hfewer hrem hheld =>
      have hrel : RelatedPlain held s' ⟨[], frames', ending'⟩ := ⟨hrem, hheld⟩
      refine .plain ?_ (decide_eq_false hkind) hfewer hrel
      rw [hplain, hfetch]
      rfl
  · have hplain : layer.read len plain =
        (.ok (plain.buffer.take len), { plain with buffer := plain.buffer.drop len }) := by
      rw [Layer.read, if_neg hnot, if_neg fun hnil => hempty (h.buffer.trans hnil)]
    obtain ⟨s'', hrun, hfailures, hrel⟩ := hcopy s plain.frames plain.ending h.held
    rw [h.buffer] at hrun hrel
    rw [if_neg fun hle => hempty (s.remaining_eq_nil_iff.mpr hle), hrun]
    exact .plain hplain rfl hfailures.le hrel

end

end KeliNative.Framing
