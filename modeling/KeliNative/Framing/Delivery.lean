import KeliNative.Framing.Inner

/-!
# Frames, and the reader that retries

A codec writes frames one after the other, its counters moving along.
-/

namespace KeliNative.Framing
open List

variable {σ F S : Type}

theorem take_min_length (bytes : Bytes) (len : ℕ) :
    bytes.take (min bytes.length len) = bytes.take len := by
  rcases Nat.le_total bytes.length len with h | h
  · rw [Nat.min_eq_left h, take_length, take_of_length_le h]
  · rw [Nat.min_eq_right h]

theorem drop_min_length (bytes : Bytes) (len : ℕ) :
    bytes.drop (min bytes.length len) = bytes.drop len := by
  rcases Nat.le_total bytes.length len with h | h
  · rw [Nat.min_eq_left h, drop_length, drop_of_length_le h]
  · rw [Nat.min_eq_right h]

/-- How a frame is written at a state of the counters, and the state after it. -/
structure Codec (σ F : Type) where
  encode : σ → F → Bytes
  next : σ → F → σ

namespace Codec

variable (codec : Codec σ F)

def encodeAll : σ → List F → Bytes
  | _, [] => []
  | state, frame :: frames => codec.encode state frame ++ encodeAll (codec.next state frame) frames

def after : σ → List F → σ
  | state, [] => state
  | state, frame :: frames => after (codec.next state frame) frames

theorem encodeAll_append (state : σ) (frames more : List F) :
    codec.encodeAll state (frames ++ more) =
      codec.encodeAll state frames ++ codec.encodeAll (codec.after state frames) more := by
  induction frames generalizing state with
  | nil => rfl
  | cons frame frames ih =>
    rw [cons_append, encodeAll, encodeAll, after, ih, append_assoc]

theorem after_append (state : σ) (frames more : List F) :
    codec.after state (frames ++ more) = codec.after (codec.after state frames) more := by
  induction frames generalizing state with
  | nil => rfl
  | cons frame frames ih => exact ih _

/-- The frames arrive, with `WouldBlock` only where no byte of a frame has been read. -/
inductive Delivers : σ → List F → List Arrival → Prop
  | done (state : σ) : Delivers state [] []
  | pause {state : σ} {frames : List F} {arrivals : List Arrival} {error : IoError}
    (hkind : error.kind = .wouldBlock) (h : Delivers state frames arrivals) :
    Delivers state frames (.failed error :: arrivals)
  | frame {state : σ} {frame : F} {frames : List F} {segment rest : List Arrival}
    (hseg : Carries segment (codec.encode state frame))
    (h : Delivers (codec.next state frame) frames rest) :
    Delivers state (frame :: frames) (segment ++ rest)

theorem delivers_of_carries {state : σ} {frames : List F} {arr : List Arrival}
    (h : Carries arr (codec.encodeAll state frames)) : codec.Delivers state frames arr := by
  induction frames generalizing state arr with
  | nil =>
    rw [h.eq_nil]
    exact .done state
  | cons frame frames ih =>
    obtain ⟨seg, rest, rfl, hseg, hrest⟩ := Carries.split h
    exact .frame hseg (ih hrest)

end Codec

inductive Meaning where
  | data (payload : Bytes)
  | skip
  | ends (closes : Bool)
  | failed (error : IoError)

/-- What a framing layer makes of frames and of the end of the inner stream. -/
structure Layer (F : Type) where
  meaning : F → Meaning
  atEnd : Ending → Except IoError Unit
  readsIntoEmpty : Bool

/-- The bytes that were decoded and not read, and the frames still to come. -/
structure PlainStream (F : Type) where
  buffer : Bytes
  frames : List F
  ending : Ending

namespace Layer

variable (layer : Layer F)

def fetch : List F → Ending → Except IoError (Option Bytes) × List F × Ending
  | [], ending => ((layer.atEnd ending).map fun _ => none, [], ending)
  | frame :: frames, ending =>
    match layer.meaning frame with
    | .data payload => (.ok (some payload), frames, ending)
    | .skip => fetch frames ending
    | .ends false => (.ok none, frames, ending)
    | .ends true => (.ok none, [], .eof)
    | .failed error => (.error error, frames, ending)

def serve (len : ℕ) :
    Except IoError (Option Bytes) × List F × Ending → Except IoError Bytes × PlainStream F
  | (.ok (some payload), frames, ending) =>
    (.ok (payload.take len), ⟨payload.drop len, frames, ending⟩)
  | (.ok none, frames, ending) => (.ok [], ⟨[], frames, ending⟩)
  | (.error error, frames, ending) => (.error error, ⟨[], frames, ending⟩)

def read (len : ℕ) (plain : PlainStream F) : Except IoError Bytes × PlainStream F :=
  if len = 0 ∧ layer.readsIntoEmpty = false then (.ok [], plain)
  else if plain.buffer = [] then serve len (layer.fetch plain.frames plain.ending)
  else (.ok (plain.buffer.take len), { plain with buffer := plain.buffer.drop len })

def Same (plain plain' : PlainStream F) : Prop :=
  plain.buffer = plain'.buffer ∧
    layer.fetch plain.frames plain.ending = layer.fetch plain'.frames plain'.ending

variable {layer}

theorem Same.refl (plain : PlainStream F) : layer.Same plain plain := ⟨rfl, rfl⟩

theorem read_same {plain plain' : PlainStream F} (h : layer.Same plain plain') (len : ℕ) :
    (layer.read len plain).1 = (layer.read len plain').1 ∧
      layer.Same (layer.read len plain).2 (layer.read len plain').2 := by
  unfold read
  split
  · exact ⟨rfl, h⟩
  · rw [h.1, h.2]
    split
    · exact ⟨rfl, Same.refl _⟩
    · exact ⟨rfl, rfl, h.2⟩

def calls (layer : Layer F) : List ℕ → PlainStream F → List (ℕ × Except IoError Bytes)
  | [], _ => []
  | len :: lens, plain =>
    (len, (layer.read len plain).1) :: calls layer lens (layer.read len plain).2

theorem calls_same {plain plain' : PlainStream F} (h : layer.Same plain plain') (lens : List ℕ) :
    layer.calls lens plain = layer.calls lens plain' := by
  induction lens generalizing plain plain' with
  | nil => rfl
  | cons len lens ih =>
    obtain ⟨hout, hsame⟩ := read_same h len
    rw [calls, calls, hout, ih hsame]

end Layer

def isWouldBlock : Except IoError Bytes → Bool
  | .error error => error.kind = .wouldBlock
  | .ok _ => false

def callReads (read : ℕ → Io S Bytes) : List ℕ → S → List (ℕ × Except IoError Bytes)
  | [], _ => []
  | len :: lens, s => (len, (read len s).1) :: callReads read lens (read len s).2

def answered (calls : List (ℕ × Except IoError Bytes)) : List (ℕ × Except IoError Bytes) :=
  calls.filter fun call => !isWouldBlock call.2

/-- One call of a reader: `WouldBlock` uses up a failure; any other outcome is the plain
stream's. -/
inductive ReadStep (layer : Layer F) (related : S → PlainStream F → Prop) (failures : S → ℕ)
    (len : ℕ) (s : S) (plain : PlainStream F) : Except IoError Bytes × S → Prop
  | wouldBlock {error : IoError} {s' : S} {plain' : PlainStream F}
    (hkind : error.kind = .wouldBlock) (hfewer : failures s' < failures s)
    (hrel : related s' plain') (hsame : layer.Same plain' plain) :
    ReadStep layer related failures len s plain (.error error, s')
  | plain {outcome : Except IoError Bytes} {s' : S} {plain' : PlainStream F}
    (hplain : layer.read len plain = (outcome, plain')) (hno : isWouldBlock outcome = false)
    (hfewer : failures s' ≤ failures s) (hrel : related s' plain') :
    ReadStep layer related failures len s plain (outcome, s')

theorem ReadStep.of_failures_eq {layer : Layer F} {related : S → PlainStream F → Prop}
    {failures : S → ℕ} {len : ℕ} {s t : S} {plain : PlainStream F} {run : Except IoError Bytes × S}
    (h : ReadStep layer related failures len s plain run) (hfailures : failures s = failures t) :
    ReadStep layer related failures len t plain run := by
  cases h with
  | wouldBlock hkind hfewer hrel hsame =>
    exact .wouldBlock hkind (hfailures ▸ hfewer) hrel hsame
  | plain hplain hno hfewer hrel =>
    exact .plain hplain hno (hfailures ▸ hfewer) hrel

def FollowsPlain (layer : Layer F) (related : S → PlainStream F → Prop) (failures : S → ℕ)
    (read : ℕ → Io S Bytes) : Prop :=
  ∀ len s plain, related s plain → ReadStep layer related failures len s plain (read len s)

section

variable {layer : Layer F} {related : S → PlainStream F → Prop} {failures : S → ℕ}
  {read : ℕ → Io S Bytes}

theorem answered_cons_of_wouldBlock {len : ℕ} {error : IoError} (hkind : error.kind = .wouldBlock)
    (calls : List (ℕ × Except IoError Bytes)) :
    answered ((len, .error error) :: calls) = answered calls := by
  simp [answered, isWouldBlock, hkind]

theorem answered_cons {call : ℕ × Except IoError Bytes} (h : isWouldBlock call.2 = false)
    (calls : List (ℕ × Except IoError Bytes)) : answered (call :: calls) = call :: answered calls := by
  simp [answered, h]

variable {plain : PlainStream F}

section

variable (hread : FollowsPlain layer related failures read) (lens : List ℕ) {s : S}
  (h : related s plain)

include hread lens h

theorem answered_callReads :
    answered (callReads read lens s) =
      layer.calls ((answered (callReads read lens s)).map Prod.fst) plain := by
  induction lens generalizing s plain with
  | nil => rfl
  | cons len lens ih =>
    rw [callReads]
    generalize hrun : read len s = run
    have hstep := hread len s plain h
    rw [hrun] at hstep
    cases hstep with
    | wouldBlock hkind _ hrel hsame =>
      have hrest := ih hrel
      rw [Layer.calls_same hsame] at hrest
      rw [answered_cons_of_wouldBlock hkind]
      exact hrest
    | plain hplain hno _ hrel =>
      rw [answered_cons hno, map_cons, Layer.calls, hplain, ← ih hrel]

theorem answered_of_no_failures (hnone : failures s = 0) :
    answered (callReads read lens s) = callReads read lens s := by
  induction lens generalizing s plain with
  | nil => rfl
  | cons len lens ih =>
    rw [callReads]
    generalize hrun : read len s = run
    have hstep := hread len s plain h
    rw [hrun] at hstep
    cases hstep with
    | wouldBlock _ hfewer => omega
    | plain _ hno hfewer hrel => rw [answered_cons hno, ih hrel (by omega)]

theorem length_le_answered :
    lens.length ≤ (answered (callReads read lens s)).length + failures s := by
  induction lens generalizing s plain with
  | nil => exact Nat.zero_le _
  | cons len lens ih =>
    rw [callReads]
    generalize hrun : read len s = run
    have hstep := hread len s plain h
    rw [hrun] at hstep
    cases hstep with
    | wouldBlock hkind hfewer hrel =>
      have hrest := ih hrel
      rw [answered_cons_of_wouldBlock hkind, length_cons]
      dsimp only
      omega
    | plain _ hno hfewer hrel =>
      have hrest := ih hrel
      rw [answered_cons hno, length_cons, length_cons]
      dsimp only
      omega

end

theorem map_fst_callReads (read : ℕ → Io S Bytes) (lens : List ℕ) (s : S) :
    (callReads read lens s).map Prod.fst = lens := by
  induction lens generalizing s with
  | nil => rfl
  | cons len lens ih => rw [callReads, map_cons, ih]

/-- A caller of `read` from `s` who retries after `WouldBlock` gets what the same calls give from
`t`. -/
def Resumes (read : ℕ → Io S Bytes) (failures : S → ℕ) (s t : S) : Prop :=
  ∀ lens : List ℕ, lens.length ≤ (answered (callReads read lens s)).length + failures s ∧
    answered (callReads read lens s) =
      callReads read ((answered (callReads read lens s)).map Prod.fst) t

theorem FollowsPlain.resumes (hread : FollowsPlain layer related failures read) {s t : S}
    (h : related s plain) (h' : related t plain) (hnone : failures t = 0) :
    Resumes read failures s t := by
  intro lens
  have hreference := answered_callReads hread ((answered (callReads read lens s)).map Prod.fst) h'
  rw [answered_of_no_failures hread _ h' hnone, map_fst_callReads] at hreference
  refine ⟨length_le_answered hread lens h, ?_⟩
  rw [hreference]
  exact answered_callReads hread lens h

end

end KeliNative.Framing
