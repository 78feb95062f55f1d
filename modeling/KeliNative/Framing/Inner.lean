import KeliNative.Net.Io
import Mathlib.Data.List.Basic

/-!
# The stream under a framing layer

A framed stream reads and writes an inner stream in pieces of known length.
-/

namespace KeliNative.Framing
open List

/-- What reads meet, in order. A read returns bytes up to its length, and none after a byte
marked `stop`. -/
inductive Arrival where
  | byte (value : UInt8) (stop : Bool)
  | failed (error : IoError)
  deriving DecidableEq

/-- What every read meets after the arrivals: the end of the stream, or an error that stays. -/
inductive Ending where
  | eof
  | failed (error : IoError)
      (stays : error.kind ≠ .interrupted ∧ error.kind ≠ .wouldBlock)
  deriving DecidableEq

inductive WriteReply where
  | takes (count : ℕ)
  | failed (error : IoError)
  deriving DecidableEq

/-- What is still to be met, and the bytes taken so far. Without a reply left, calls succeed. -/
structure InnerStream where
  arrivals : List Arrival
  ending : Ending
  writes : List WriteReply
  flushes : List (Option IoError)
  taken : Bytes
  deriving DecidableEq

def Ending.outcome : Ending → Except IoError Bytes
  | .eof => .ok []
  | .failed error _ => .error error

def takeRun : ℕ → List Arrival → Bytes × List Arrival
  | len + 1, .byte value stop :: arrivals =>
    if stop then ([value], arrivals)
    else (value :: (takeRun len arrivals).1, (takeRun len arrivals).2)
  | _, arrivals => ([], arrivals)

namespace InnerStream

def read (len : ℕ) : Io InnerStream Bytes := fun inner =>
  match inner.arrivals with
  | [] => (inner.ending.outcome, inner)
  | .failed error :: arrivals => (.error error, { inner with arrivals := arrivals })
  | .byte value stop :: arrivals =>
    let (bytes, arrivals) := takeRun len (.byte value stop :: arrivals)
    (.ok bytes, { inner with arrivals := arrivals })

def write (bytes : Bytes) : Io InnerStream ℕ := fun inner =>
  match inner.writes with
  | [] => (.ok bytes.length, { inner with taken := inner.taken ++ bytes })
  | .takes count :: writes =>
    (.ok (min count bytes.length), { inner with
      writes := writes, taken := inner.taken ++ bytes.take count })
  | .failed error :: writes => (.error error, { inner with writes := writes })

def flush : Io InnerStream Unit := fun inner =>
  match inner.flushes with
  | [] => (.ok (), inner)
  | none :: flushes => (.ok (), { inner with flushes := flushes })
  | some error :: flushes => (.error error, { inner with flushes := flushes })

end InnerStream

inductive Filled where
  | full (bytes : Bytes)
  | ended (got : Bytes)
  deriving DecidableEq

/- The loop both reads of a whole buffer are. Every turn collects a byte, leaves the loop or, if
interrupted reads are repeated, uses up an interruption. -/
def fillLoop (repeats : Bool) (len : ℕ) : ℕ → Bytes → InnerStream → Except IoError Filled × InnerStream
  | 0, got, inner => (.ok (.full got), inner)
  | turns + 1, got, inner =>
    if got.length < len then
      match InnerStream.read (len - got.length) inner with
      | (.ok [], inner) => (.ok (.ended got), inner)
      | (.ok bytes, inner) => fillLoop repeats len turns (got ++ bytes) inner
      | (.error error, inner) =>
        if repeats ∧ error.kind = .interrupted then fillLoop repeats len turns got inner
        else (.error error, inner)
    else (.ok (.full got), inner)

def fill (repeats : Bool) (len : ℕ) : Io InnerStream Filled := fun inner =>
  fillLoop repeats len (len + inner.arrivals.length) [] inner

def readExactOrCleanEof (len : ℕ) : Io InnerStream (Option Bytes) :=
  Program.bind (fill false len) fun
    | .full bytes => Program.pure (some bytes)
    | .ended [] => Program.pure none
    | .ended _ => Program.fail ⟨.unexpectedEof, "stream ended mid-frame"⟩

def readExact (len : ℕ) : Io InnerStream Bytes :=
  Program.bind (fill true len) fun
    | .full bytes => Program.pure bytes
    | .ended _ => Program.fail ⟨.unexpectedEof, "failed to fill whole buffer"⟩

/- A turn of `write_all` uses up a reply or takes everything. -/
def writeAllLoop : ℕ → Bytes → InnerStream → Except IoError Unit × InnerStream
  | 0, _, inner => (.ok (), inner)
  | turns + 1, bytes, inner =>
    if bytes = [] then (.ok (), inner)
    else match InnerStream.write bytes inner with
      | (.ok 0, inner) => (.error ⟨.writeZero, "failed to write whole buffer"⟩, inner)
      | (.ok count, inner) => writeAllLoop turns (bytes.drop count) inner
      | (.error error, inner) =>
        if error.kind = .interrupted then writeAllLoop turns bytes inner
        else (.error error, inner)

def writeAll (bytes : Bytes) : Io InnerStream Unit := fun inner =>
  writeAllLoop (inner.writes.length + 2) bytes inner

def WriteReply.isFailed : WriteReply → Bool
  | .takes _ => false
  | .failed _ => true

def WriteReply.Accepts : WriteReply → Prop
  | .takes count => 0 < count
  | .failed error => error.kind = .wouldBlock ∨ error.kind = .interrupted

def InnerStream.Accepting (inner : InnerStream) : Prop := ∀ reply ∈ inner.writes, reply.Accepts

def InnerStream.failedWrites (inner : InnerStream) : ℕ := inner.writes.countP WriteReply.isFailed

/-- How a program that only writes ends on such a stream: it is done, or blocked, and a failed
write is used up. -/
inductive WroteOrBlocked (inner : InnerStream) : Except IoError Unit × InnerStream → Prop
  | wrote {writes : List WriteReply} {taken : Bytes}
    (hacc : { inner with writes := writes, taken := taken }.Accepting)
    (hfewer : writes.countP WriteReply.isFailed ≤ inner.failedWrites) :
    WroteOrBlocked inner (.ok (), { inner with writes := writes, taken := taken })
  | blocked {error : IoError} {writes : List WriteReply} {taken : Bytes}
    (hkind : error.kind = .wouldBlock)
    (hacc : { inner with writes := writes, taken := taken }.Accepting)
    (hfewer : writes.countP WriteReply.isFailed < inner.failedWrites) :
    WroteOrBlocked inner (.error error, { inner with writes := writes, taken := taken })

variable {inner : InnerStream} {error : IoError}

theorem WroteOrBlocked.after {writes : List WriteReply} {taken : Bytes}
    {run : Except IoError Unit × InnerStream}
    (h : WroteOrBlocked { inner with writes := writes, taken := taken } run)
    (hfewer : writes.countP WriteReply.isFailed ≤ inner.failedWrites) : WroteOrBlocked inner run := by
  cases h with
  | wrote hacc hless => exact .wrote hacc (hless.trans hfewer)
  | blocked hkind hacc hless => exact .blocked hkind hacc (hless.trans_le hfewer)

def OnlyWrites (program : Io InnerStream Unit) : Prop :=
  ∀ inner : InnerStream, inner.Accepting → WroteOrBlocked inner (program inner)

theorem onlyWrites_bind {prog program' : Io InnerStream Unit} (h : OnlyWrites prog)
    (h' : OnlyWrites program') : OnlyWrites (Program.bind prog fun _ => program') := by
  intro inner hacc
  have hfirst := h inner hacc
  rw [Program.bind]
  generalize prog inner = run at hfirst
  cases hfirst with
  | wrote hacc' hfewer => exact (h' _ hacc').after hfewer
  | blocked hkind hacc' hfewer => exact .blocked hkind hacc' hfewer

theorem writeAllLoop_accepting (hacc : inner.Accepting) (turns : ℕ) (bytes : Bytes) :
    WroteOrBlocked inner (writeAllLoop turns bytes inner) := by
  induction turns generalizing bytes inner with
  | zero => exact .wrote hacc le_rfl
  | succ turns ih =>
    rw [writeAllLoop]
    split
    · exact .wrote hacc le_rfl
    next hne =>
      have hlength : 0 < bytes.length := length_pos_iff.mpr hne
      cases hwrs : inner.writes with
      | nil =>
        have hwrite : InnerStream.write bytes inner =
            (.ok bytes.length, { inner with taken := inner.taken ++ bytes }) := by
          rw [InnerStream.write, hwrs]
        obtain ⟨count, hcnt⟩ := Nat.exists_eq_succ_of_ne_zero hlength.ne'
        rw [hwrite, hcnt]
        have hrest : { inner with taken := inner.taken ++ bytes }.Accepting := hacc
        exact (ih hrest _).after le_rfl
      | cons reply writes =>
        have hall : ∀ reply ∈ inner.writes, reply.Accepts := hacc
        rw [hwrs] at hall
        obtain ⟨hreply, hacpt⟩ := forall_mem_cons.mp hall
        have hrest (taken : Bytes) : { inner with writes := writes, taken := taken }.Accepting :=
          hacpt
        have hfewer : writes.countP WriteReply.isFailed ≤ inner.failedWrites := by
          rw [InnerStream.failedWrites, hwrs, countP_cons]
          exact Nat.le_add_right _ _
        cases reply with
        | takes count =>
          have hwrite : InnerStream.write bytes inner = (.ok (min count bytes.length), { inner with
              writes := writes, taken := inner.taken ++ bytes.take count }) := by
            rw [InnerStream.write, hwrs]
          obtain ⟨amount, hamount⟩ :=
            Nat.exists_eq_succ_of_ne_zero (lt_min (show 0 < count from hreply) hlength).ne'
          rw [hwrite, hamount]
          exact (ih (hrest _) _).after hfewer
        | failed error =>
          have hwrite : InnerStream.write bytes inner =
              (.error error, { inner with writes := writes }) := by
            rw [InnerStream.write, hwrs]
          rw [hwrite]
          simp only
          split
          · exact (ih (hrest _) _).after hfewer
          next hkind =>
            refine .blocked (Or.resolve_right hreply hkind) (hrest _) ?_
            rw [InnerStream.failedWrites, hwrs, countP_cons_of_pos rfl]
            exact Nat.lt_succ_self _

theorem onlyWrites_pure : OnlyWrites (Program.pure ()) := fun _ hacc =>
  .wrote hacc le_rfl

theorem onlyWrites_writeAll (bytes : Bytes) : OnlyWrites (writeAll bytes) := fun _ hacc =>
  writeAllLoop_accepting hacc _ bytes

def Arrival.value? : Arrival → Option UInt8
  | .byte value _ => some value
  | .failed _ => none

/-- The arrivals are these bytes and nothing else, cut into reads in any way. -/
def Carries (segment : List Arrival) (bytes : Bytes) : Prop :=
  segment.map Arrival.value? = bytes.map some

variable {segment rest : List Arrival} {bytes more got : Bytes} {len turns : ℕ}

theorem Carries.eq_nil (h : Carries segment []) : segment = [] := map_eq_nil_iff.mp h

theorem Carries.split (h : Carries segment (bytes ++ more)) :
    ∃ first second, segment = first ++ second ∧ Carries first bytes ∧ Carries second more := by
  unfold Carries at h
  rw [map_append] at h
  exact map_eq_append_iff.mp h

theorem Carries.cons {byte : UInt8} (h : Carries segment (byte :: bytes)) :
    ∃ stop tail, segment = .byte byte stop :: tail ∧ Carries tail bytes := by
  cases segment with
  | nil => cases h
  | cons arrival tail =>
    obtain ⟨hval, htail⟩ := List.cons.inj h
    cases arrival with
    | failed error => cases hval
    | byte value stop =>
      cases hval
      exact ⟨stop, tail, rfl, htail⟩

theorem Carries.length_eq (h : Carries segment bytes) : segment.length = bytes.length := by
  have hlength := congrArg List.length h
  rwa [length_map, length_map] at hlength

theorem takeRun_carries (h : Carries segment bytes) (rest : List Arrival) :
    ∃ first second tail, takeRun bytes.length (segment ++ rest) = (first, tail ++ rest) ∧
      bytes = first ++ second ∧ (bytes ≠ [] → first ≠ []) ∧ Carries tail second := by
  induction bytes generalizing segment with
  | nil =>
    rw [h.eq_nil]
    exact ⟨[], [], [], by cases rest <;> rfl, rfl, nofun, rfl⟩
  | cons byte bytes ih =>
    obtain ⟨stop, tail, rfl, htail⟩ := h.cons
    cases stop with
    | true => exact ⟨[byte], bytes, tail, rfl, rfl, fun _ => cons_ne_nil _ _, htail⟩
    | false =>
      obtain ⟨first, second, tail', hrun, hbytes, -, htail'⟩ := ih htail
      refine ⟨byte :: first, second, tail', ?_, ?_, fun _ => cons_ne_nil _ _, htail'⟩
      · simp only [length_cons, cons_append, takeRun, hrun, Bool.false_eq_true, ite_false]
      · rw [hbytes, cons_append]

theorem takeRun_split (len : ℕ) (arrivals : List Arrival) :
    ∃ taken, arrivals = taken ++ (takeRun len arrivals).2 ∧ Carries taken (takeRun len arrivals).1 := by
  induction arrivals generalizing len with
  | nil => exact ⟨[], by cases len <;> rfl, by cases len <;> rfl⟩
  | cons arrival arrivals ih =>
    cases len with
    | zero => exact ⟨[], by cases arrival <;> rfl, by cases arrival <;> rfl⟩
    | succ len =>
      cases arrival with
      | failed error => exact ⟨[], rfl, rfl⟩
      | byte value stop =>
        cases stop with
        | true => exact ⟨[.byte value true], rfl, rfl⟩
        | false =>
          obtain ⟨taken, hsplit, hcar⟩ := ih len
          refine ⟨.byte value false :: taken, ?_, ?_⟩
          · exact congrArg (Arrival.byte value false :: ·) hsplit
          · exact congrArg (some value :: ·) hcar

theorem read_byte {value : UInt8} {stop : Bool}
    (harr : inner.arrivals = .byte value stop :: rest) (len : ℕ) :
    ∃ byte bytes taken arrivals, InnerStream.read (len + 1) inner =
        (.ok (byte :: bytes), { inner with arrivals := arrivals }) ∧
      inner.arrivals = taken ++ arrivals ∧ Carries taken (byte :: bytes) := by
  obtain ⟨taken, hsplit, hcar⟩ := takeRun_split (len + 1) (.byte value stop :: rest)
  obtain ⟨byte, bytes, hrun⟩ : ∃ byte bytes,
      (takeRun (len + 1) (.byte value stop :: rest)).1 = byte :: bytes := by
    cases stop with
    | true => exact ⟨value, [], rfl⟩
    | false => exact ⟨value, (takeRun len rest).1, rfl⟩
  rw [hrun] at hcar
  refine ⟨byte, bytes, taken, _, ?_, harr.trans hsplit, hcar⟩
  rw [InnerStream.read, harr]
  dsimp only
  rw [hrun]

theorem Carries.filterMap_eq (h : Carries segment bytes) : segment.filterMap Arrival.value? = bytes := by
  have hmap := congrArg (List.filterMap id) h
  rwa [filterMap_map, filterMap_map, Function.id_comp, Function.id_comp,
    filterMap_some] at hmap

theorem read_carries (h : Carries segment bytes) (hne : bytes ≠ []) (rest : List Arrival)
    (inner : InnerStream) :
    ∃ first second tail, bytes = first ++ second ∧ first ≠ [] ∧ Carries tail second ∧
      InnerStream.read bytes.length { inner with arrivals := segment ++ rest } =
        (.ok first, { inner with arrivals := tail ++ rest }) := by
  obtain ⟨first, second, tail, hrun, hbytes, hfirst, htail⟩ := takeRun_carries h rest
  refine ⟨first, second, tail, hbytes, hfirst hne, htail, ?_⟩
  obtain ⟨byte, bytes, rfl⟩ := exists_cons_of_ne_nil hne
  obtain ⟨stop, segment, rfl, -⟩ := h.cons
  rw [cons_append] at hrun
  simp only [InnerStream.read, cons_append, hrun]

theorem fillLoop_carries (repeats : Bool) (h : Carries segment bytes)
    (hlen : got.length + bytes.length = len) (hturns : bytes.length ≤ turns)
    (rest : List Arrival) (inner : InnerStream) :
    fillLoop repeats len turns got { inner with arrivals := segment ++ rest } =
      (.ok (.full (got ++ bytes)), { inner with arrivals := rest }) := by
  induction turns generalizing segment bytes got with
  | zero =>
    obtain rfl := eq_nil_of_length_eq_zero (Nat.le_zero.mp hturns)
    rw [h.eq_nil, append_nil]
    rfl
  | succ turns ih =>
    cases bytes with
    | nil =>
      rw [length_nil] at hlen
      rw [h.eq_nil, append_nil, fillLoop, if_neg (by omega)]
      rfl
    | cons byte bytes =>
      obtain ⟨first, second, tail, hbytes, hfirst, htail, hread⟩ :=
        read_carries h (cons_ne_nil _ _) rest inner
      obtain ⟨head, first, rfl⟩ := exists_cons_of_ne_nil hfirst
      have hlength := congrArg List.length hbytes
      simp only [length_cons, length_append] at hlength hlen hturns
      have hask : len - got.length = (byte :: bytes).length := by
        rw [length_cons]
        omega
      have hcollected : (got ++ head :: first).length + second.length = len := by
        rw [length_append, length_cons]
        omega
      have hrest := ih htail hcollected (by omega)
      rw [fillLoop, if_pos (by omega), hask, hread]
      simp only
      rw [hrest, hbytes, append_assoc]

section

variable (h : Carries segment bytes) (harr : inner.arrivals = segment ++ rest)

include h harr

theorem fill_carries {repeats : Bool} :
    fill repeats bytes.length inner = (.ok (.full bytes), { inner with arrivals := rest }) := by
  have hloop := fillLoop_carries repeats h
    (show ([] : Bytes).length + bytes.length = bytes.length from Nat.zero_add _)
    (Nat.le_add_right bytes.length inner.arrivals.length) rest inner
  rw [← harr] at hloop
  exact hloop

theorem readExactOrCleanEof_carries :
    readExactOrCleanEof bytes.length inner = (.ok (some bytes), { inner with arrivals := rest }) := by
  rw [readExactOrCleanEof, Program.bind, fill_carries h harr]
  rfl

theorem readExact_carries :
    readExact bytes.length inner = (.ok bytes, { inner with arrivals := rest }) := by
  rw [readExact, Program.bind, fill_carries h harr]
  rfl

end

theorem fill_failed {repeats : Bool} (hlen : 0 < len) (hkind : error.kind ≠ .interrupted)
    (harr : inner.arrivals = .failed error :: rest) :
    fill repeats len inner = (.error error, { inner with arrivals := rest }) := by
  obtain ⟨turns, hturns⟩ : ∃ turns, len + inner.arrivals.length = turns + 1 :=
    ⟨len + inner.arrivals.length - 1, by omega⟩
  rw [fill, hturns, fillLoop, if_pos (show ([] : Bytes).length < len from hlen)]
  simp only [InnerStream.read, harr]
  rw [if_neg fun h => hkind h.2]

theorem fill_ended {repeats : Bool} (hlen : 0 < len) (harr : inner.arrivals = []) :
    fill repeats len inner = (inner.ending.outcome.map fun _ => .ended [], inner) := by
  obtain ⟨turns, hturns⟩ : ∃ turns, len + inner.arrivals.length = turns + 1 :=
    ⟨len + inner.arrivals.length - 1, by omega⟩
  rw [fill, hturns, fillLoop, if_pos (show ([] : Bytes).length < len from hlen)]
  simp only [InnerStream.read, harr]
  cases inner.ending with
  | eof => rfl
  | failed error stays =>
    simp only [Ending.outcome]
    rw [if_neg fun h => stays.1 h.2]
    rfl

theorem readExactOrCleanEof_failed (hlen : 0 < len) (hkind : error.kind ≠ .interrupted)
    (harr : inner.arrivals = .failed error :: rest) :
    readExactOrCleanEof len inner = (.error error, { inner with arrivals := rest }) := by
  rw [readExactOrCleanEof, Program.bind, fill_failed hlen hkind harr]

theorem readExactOrCleanEof_ended (hlen : 0 < len) (harr : inner.arrivals = []) :
    readExactOrCleanEof len inner = (inner.ending.outcome.map fun _ => none, inner) := by
  rw [readExactOrCleanEof, Program.bind, fill_ended hlen harr]
  cases inner.ending <;> rfl

theorem readExact_failed (hlen : 0 < len) (hkind : error.kind ≠ .interrupted)
    (harr : inner.arrivals = .failed error :: rest) :
    readExact len inner = (.error error, { inner with arrivals := rest }) := by
  rw [readExact, Program.bind, fill_failed hlen hkind harr]

def Ending.exactError : Ending → IoError
  | .eof => ⟨.unexpectedEof, "failed to fill whole buffer"⟩
  | .failed error _ => error

theorem readExact_ended (hlen : 0 < len) (harr : inner.arrivals = []) :
    readExact len inner = (.error inner.ending.exactError, inner) := by
  rw [readExact, Program.bind, fill_ended hlen harr]
  cases inner.ending <;> rfl

theorem ne_interrupted_of_wouldBlock (h : error.kind = .wouldBlock) :
    error.kind ≠ .interrupted := by
  rw [h]
  nofun

end KeliNative.Framing
