import KeliNative.Framing.Sending

/-!
# Reading out what was written

A reader that follows the plain stream gives the data of the frames, and then the end.
-/

namespace KeliNative.Framing
open List

variable {R σ F S : Type}

/-- Calls that read `bytes`: as long as any are left a call returns some of them, and afterwards
nothing. -/
inductive ReadsOut : Bytes → List (ℕ × Except IoError Bytes) → Prop
  | done (bytes : Bytes) : ReadsOut bytes []
  | piece {len : ℕ} {piece rest : Bytes} {calls : List (ℕ × Except IoError Bytes)} (hne : piece ≠ [])
    (hlen : piece.length ≤ len) (h : ReadsOut rest calls) :
    ReadsOut (piece ++ rest) ((len, .ok piece) :: calls)
  | ended {len : ℕ} {calls : List (ℕ × Except IoError Bytes)} (h : ReadsOut [] calls) :
    ReadsOut [] ((len, .ok []) :: calls)

def returnedBytes (calls : List (ℕ × Except IoError Bytes)) : Bytes :=
  calls.flatMap fun call => call.2.toOption.getD []

def afterReads (read : ℕ → Io S Bytes) : List ℕ → S → S
  | [], s => s
  | len :: lens, s => afterReads read lens (read len s).2

variable {layer : Layer F}

/-- Where a run of calls has led: to frames that hold what the calls have not given, and to their
end once a call has given nothing. -/
structure LedTo (layer : Layer F) (calls : List (ℕ × Except IoError Bytes)) (plain plain' : PlainStream F)
    (bytes rest : Bytes) : Prop where
  holds : layer.Holds plain'.frames plain'.ending rest
  bytes : plain.buffer ++ bytes = returnedBytes calls ++ (plain'.buffer ++ rest)
  suffix : plain'.frames <:+ plain.frames
  ended : (∃ len, (len, .ok []) ∈ calls) → plain'.frames = []

section

variable {related : S → PlainStream F → Prop} {failures : S → ℕ} {read : ℕ → Io S Bytes}
  {lens : List ℕ} {s : S} {plain : PlainStream F} {bytes : Bytes}

section

variable (hread : FollowsPlain layer related failures read) (hlens : ∀ len ∈ lens, 0 < len)
  (h : related s plain) (hnone : failures s = 0)
  (hholds : layer.Holds plain.frames plain.ending bytes)

include hread hlens h hnone hholds

theorem FollowsPlain.afterReads :
    ReadsOut (plain.buffer ++ bytes) (callReads read lens s) ∧
      ∃ plain' rest, related (Framing.afterReads read lens s) plain' ∧
        LedTo layer (callReads read lens s) plain plain' bytes rest := by
  induction lens generalizing s plain bytes with
  | nil =>
    refine ⟨.done _, plain, bytes, h, hholds, rfl, suffix_refl _, ?_⟩
    rintro ⟨len, hmem⟩
    cases hmem
  | cons len lens ih =>
    obtain ⟨hlen, hlens⟩ := forall_mem_cons.mp hlens
    obtain ⟨first, rest, next, hfirst, hsplit, hshort, hempty, hsuf, hrest⟩ := hholds.read hlen
    have hstep := hread len s plain h
    rw [callReads, Framing.afterReads]
    generalize read len s = run at hstep
    cases hstep with
    | wouldBlock _ hfewer => omega
    | @plain out s' plain' hplain _ hfewer hrel =>
      obtain ⟨rfl, rfl⟩ := Prod.mk.inj (hplain.symm.trans hfirst)
      obtain ⟨hlater, last, left, hlast, hled⟩ := ih hlens hrel (by omega) hrest
      have hbytes : plain.buffer ++ bytes =
          returnedBytes ((len, .ok first) :: callReads read lens s') ++ (last.buffer ++ left) := by
        rw [hsplit, hled.bytes, ← append_assoc]
        rfl
      refine ⟨?_, last, left, hlast, hled.holds, hbytes, hled.suffix.trans hsuf, ?_⟩
      · by_cases hnil : first = []
        · have hleft := (hempty hnil).1
          rw [hsplit, hnil, nil_append] at hleft
          rw [hleft] at hlater
          rw [(hempty hnil).1, hnil]
          exact .ended hlater
        · rw [hsplit]
          exact .piece hnil hshort hlater
      · rintro ⟨len', hmem⟩
        rcases mem_cons.mp hmem with hhere | hlater
        · have hnil : first = [] := (Except.ok.inj (Prod.mk.inj hhere).2).symm
          have hend := hled.suffix
          rw [(hempty hnil).2] at hend
          exact suffix_nil.mp hend
        · exact hled.ended ⟨len', hlater⟩

theorem FollowsPlain.readsOut : ReadsOut (plain.buffer ++ bytes) (callReads read lens s) :=
  (hread.afterReads hlens h hnone hholds).1

end

theorem FollowsPlain.related_afterReads (hread : FollowsPlain layer related failures read)
    (lens : List ℕ) (h : related s plain) (hnone : failures s = 0) :
    ∃ plain', related (Framing.afterReads read lens s) plain' := by
  induction lens generalizing s plain with
  | nil => exact ⟨plain, h⟩
  | cons len lens ih =>
    have hstep := hread len s plain h
    rw [Framing.afterReads]
    generalize read len s = run at hstep
    cases hstep with
    | wouldBlock _ hfewer => omega
    | @plain out s' _ _ _ hfewer hrel =>
      have hnone' : failures s' = 0 := by omega
      exact ih hrel hnone'

end

/-- Calls that read `bytes` and then meet an error: no call before it returns nothing. -/
inductive ReadsThenFails (errors : IoError → Prop) : Bytes → List (ℕ × Except IoError Bytes) → Prop
  | done (bytes : Bytes) : ReadsThenFails errors bytes []
  | piece {len : ℕ} {piece rest : Bytes} {calls : List (ℕ × Except IoError Bytes)} (hne : piece ≠ [])
    (hlen : piece.length ≤ len) (h : ReadsThenFails errors rest calls) :
    ReadsThenFails errors (piece ++ rest) ((len, .ok piece) :: calls)
  | failed {len : ℕ} {error : IoError} {calls : List (ℕ × Except IoError Bytes)}
    (herr : errors error) : ReadsThenFails errors [] ((len, .error error) :: calls)

inductive Layer.FailsAfter (layer : Layer F) (errors : IoError → Prop) :
    List F → Ending → Bytes → Prop
  | data {frame : F} {frames : List F} {ending : Ending} {payload rest : Bytes}
    (hmean : layer.meaning frame = .data payload) (hne : payload ≠ [])
    (h : FailsAfter layer errors frames ending rest) :
    FailsAfter layer errors (frame :: frames) ending (payload ++ rest)
  | skip {frame : F} {frames : List F} {ending : Ending} {bytes : Bytes}
    (hmean : layer.meaning frame = .skip) (h : FailsAfter layer errors frames ending bytes) :
    FailsAfter layer errors (frame :: frames) ending bytes
  | failed {frame : F} {frames : List F} {ending : Ending} {error : IoError}
    (hmean : layer.meaning frame = .failed error) (herr : errors error) :
    FailsAfter layer errors (frame :: frames) ending []

theorem Layer.FailsAfter.fetch {errors : IoError → Prop} {frames : List F} {ending : Ending}
    {bytes : Bytes} (h : layer.FailsAfter errors frames ending bytes) :
    (bytes = [] ∧ ∃ error frames', errors error ∧
      layer.fetch frames ending = (.error error, frames', ending)) ∨
    ∃ payload rest frames', bytes = payload ++ rest ∧ payload ≠ [] ∧
      layer.fetch frames ending = (.ok (some payload), frames', ending) ∧
      layer.FailsAfter errors frames' ending rest := by
  induction h with
  | data hmean hne hrest =>
    refine .inr ⟨_, _, _, rfl, hne, ?_, hrest⟩
    rw [Layer.fetch, hmean]
  | skip hmean _ ih =>
    rw [Layer.fetch, hmean]
    exact ih
  | @failed frame frames ending error hmean herr =>
    refine .inl ⟨rfl, error, frames, herr, ?_⟩
    rw [Layer.fetch, hmean]

theorem Layer.FailsAfter.read {errors : IoError → Prop} {plain : PlainStream F} {bytes : Bytes}
    (h : layer.FailsAfter errors plain.frames plain.ending bytes) {len : ℕ} (hlen : 0 < len) :
    (plain.buffer ++ bytes = [] ∧ ∃ error plain', errors error ∧
      layer.read len plain = (.error error, plain')) ∨
    ∃ first rest plain', layer.read len plain = (.ok first, plain') ∧
      plain.buffer ++ bytes = first ++ (plain'.buffer ++ rest) ∧ first ≠ [] ∧ first.length ≤ len ∧
      layer.FailsAfter errors plain'.frames plain'.ending rest := by
  have htake {data : Bytes} (hne : data ≠ []) : data.take len ≠ [] := fun hnil =>
    hne ((take_eq_nil_iff.mp hnil).resolve_left hlen.ne')
  have hnot : ¬(len = 0 ∧ layer.readsIntoEmpty = false) := fun hand => hlen.ne' hand.1
  by_cases hbuf : plain.buffer = []
  · have hread : layer.read len plain = Layer.serve len (layer.fetch plain.frames plain.ending) := by
      rw [Layer.read, if_neg hnot, if_pos hbuf]
    rw [hbuf, nil_append]
    rcases h.fetch with ⟨hnil, error, frames', herr, hfetch⟩ |
      ⟨data, rest, frames', rfl, hne, hfetch, hrest⟩
    · rw [hfetch] at hread
      exact .inl ⟨hnil, error, _, herr, hread⟩
    · rw [hfetch] at hread
      refine .inr ⟨data.take len, rest, _, hread, ?_, htake hne, length_take_le _ _, hrest⟩
      rw [← append_assoc, take_append_drop]
  · refine .inr ⟨plain.buffer.take len, bytes, { plain with buffer := plain.buffer.drop len }, ?_, ?_,
      htake hbuf, length_take_le _ _, h⟩
    · rw [Layer.read, if_neg hnot, if_neg hbuf]
    · rw [← append_assoc, take_append_drop]

theorem FollowsPlain.readsThenFails {related : S → PlainStream F → Prop} {failures : S → ℕ}
    {read : ℕ → Io S Bytes} (hread : FollowsPlain layer related failures read) {lens : List ℕ}
    (hlens : ∀ len ∈ lens, 0 < len) {s : S} {plain : PlainStream F} (h : related s plain)
    (hnone : failures s = 0) {errors : IoError → Prop} {bytes : Bytes}
    (hfails : layer.FailsAfter errors plain.frames plain.ending bytes) :
    ReadsThenFails errors (plain.buffer ++ bytes) (callReads read lens s) := by
  induction lens generalizing s plain bytes with
  | nil => exact .done _
  | cons len lens ih =>
    obtain ⟨hlen, hlens⟩ := forall_mem_cons.mp hlens
    have hstep := hread len s plain h
    rw [callReads]
    generalize read len s = run at hstep
    cases hstep with
    | wouldBlock _ hfewer => omega
    | @plain out s' plain' hplain _ hfewer hrel =>
      rcases hfails.read hlen with ⟨hnil, error, next, herr, herrored⟩ |
        ⟨first, rest, next, hfirst, hsplit, hne, hshort, hrest⟩
      · obtain ⟨rfl, rfl⟩ := Prod.mk.inj (hplain.symm.trans herrored)
        rw [hnil]
        exact .failed herr
      · obtain ⟨rfl, rfl⟩ := Prod.mk.inj (hplain.symm.trans hfirst)
        rw [hsplit]
        exact .piece hne hshort (ih hlens hrel (by omega) hrest)

theorem writeAll_takes {bytes : Bytes} {inner : InnerStream} (h : inner.writes = []) :
    writeAll bytes inner = (.ok (), { inner with taken := inner.taken ++ bytes }) := by
  obtain ⟨arr, ending, writes, flushes, taken⟩ := inner
  dsimp only at h
  subst h
  rw [writeAll, length_nil, Nat.zero_add, writeAllLoop]
  cases bytes with
  | nil => rw [if_pos rfl, append_nil]
  | cons byte bytes =>
    rw [if_neg (cons_ne_nil _ _)]
    simp only [InnerStream.write, length_cons]
    rw [writeAllLoop, if_pos (by simp)]

def chunkedWrite (size : ℕ) (write : Bytes → Io S Unit) (buffer : Bytes) : Io S ℕ :=
  Program.bind (writeEach write (chunks size buffer)) fun _ => Program.pure buffer.length

def writeBuffers (write : Bytes → Io S ℕ) : List Bytes → Io S Unit :=
  writeEach fun buffer => Program.bind (write buffer) fun _ => Program.pure ()

theorem SendsFrame.writeBuffers {codec : Codec σ F} {state : Framed R → σ} {size : ℕ} (hsize : 0 < size)
    {write : Bytes → Io (Framed R) Unit} (hwrite : SendsFrame codec layer state size write)
    {bufs : List Bytes} {stream stream' : Framed R}
    (h : Framing.writeBuffers (chunkedWrite size write) bufs stream = (.ok (), stream')) :
    ∃ frames, frames.map layer.meaning = (bufs.flatMap (chunks size)).map Meaning.data ∧
      Sent codec state frames stream stream' := by
  induction bufs generalizing stream with
  | nil =>
    obtain rfl := (Prod.mk.inj h).2
    exact ⟨[], rfl, .nil stream⟩
  | cons buf bufs ih =>
    obtain ⟨_, middle, hfirst, hrest⟩ := Program.bind_eq_ok h
    obtain ⟨count, middle', hbuf, hcnt⟩ := Program.bind_eq_ok hfirst
    obtain ⟨_, middle'', hchs, hpure⟩ := Program.bind_eq_ok hbuf
    obtain rfl := (Prod.mk.inj hcnt).2
    obtain rfl := (Prod.mk.inj hpure).2
    obtain ⟨frames, hmean, hsent⟩ := hwrite.writeEach (chunks_spec hsize buf).2 hchs
    obtain ⟨more, hmeanings, hsents⟩ := ih hrest
    refine ⟨frames ++ more, ?_, hsent.append hsents⟩
    rw [map_append, hmean, hmeanings, flatMap_cons, map_append]

theorem carry_chunks {size : ℕ} (hsize : 0 < size) {frames : List F} {bufs : List Bytes}
    (h : frames.map layer.meaning = (bufs.flatMap (chunks size)).map Meaning.data) :
    layer.Carry frames bufs.flatten := by
  refine ⟨_, h, fun payload hmem => ?_, ?_⟩
  · obtain ⟨buf, -, hchunk⟩ := mem_flatMap.mp hmem
    exact ((chunks_spec hsize buf).2 payload hchunk).1
  · clear h
    induction bufs with
    | nil => rfl
    | cons buf bufs ih =>
      rw [flatMap_cons, flatten_append, ih, (chunks_spec hsize buf).1, flatten_cons]

end KeliNative.Framing
