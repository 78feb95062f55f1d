import KeliNative.Lib.Iteration
import KeliNative.Lib.Panic
import KeliNative.Net.Io

/-!
# gRPC hunks (`grpc.rs`)

A protobuf message with one field of bytes, behind the five bytes of a gRPC message.
-/

namespace KeliNative.Grpc
open BigEndian Panicking

def encodeVarint (value : ℕ) : Bytes :=
  if value < 0x80 then [UInt8.ofNat value]
  else (UInt8.ofNat value ||| 0x80) :: encodeVarint (value >>> 7)
termination_by value
decreasing_by
  rw [Nat.shiftRight_eq_div_pow]
  omega

def decodeVarintFrom : Bytes → ℕ → ℕ → ℕ → Except IoError (ℕ × ℕ)
  | [], _, _, _ => .error ⟨.invalidData, "invalid gRPC hunk varint"⟩
  | byte :: bytes, cursor, value, shift =>
    if shift < 64 then
      let value := value ||| (byte &&& 0x7f).toNat <<< shift % 2 ^ 64
      if byte &&& 0x80 = 0 then .ok (value, cursor + 1)
      else decodeVarintFrom bytes (cursor + 1) value (shift + 7)
    else .error ⟨.invalidData, "invalid gRPC hunk varint"⟩

def decodeVarint (input : Bytes) (cursor : ℕ) : Except IoError (ℕ × ℕ) :=
  decodeVarintFrom (input.drop cursor) cursor 0 0

theorem decodeVarintFrom_cursor {bytes : Bytes} {cursor value shift res stop : ℕ}
    (h : decodeVarintFrom bytes cursor value shift = .ok (res, stop)) :
    cursor < stop ∧ stop ≤ cursor + bytes.length := by
  induction bytes generalizing cursor value shift with
  | nil => cases h
  | cons byte bytes ih =>
    rw [decodeVarintFrom] at h
    rw [List.length_cons]
    split_ifs at h with hshift hlast
    · have hstop := (Prod.mk.inj (Except.ok.inj h)).2
      omega
    · have hrest := ih h
      omega

theorem decodeVarint_cursor {input : Bytes} {cursor value stop : ℕ}
    (h : decodeVarint input cursor = .ok (value, stop)) : cursor < stop ∧ stop ≤ input.length := by
  obtain ⟨hlt, hle⟩ := decodeVarintFrom_cursor h
  rw [List.length_drop] at hle
  omega

structure HunkCursor where
  cursor : ℕ
  data : Option Bytes
  deriving DecidableEq

def lengthDelimited (checks : OverflowChecks) (message : Bytes) (cursor : ℕ) (truncated : String) :
    Panicking IoError (ℕ × ℕ) := do
  let (len, cursor) ← returned (decodeVarint message cursor)
  let stop ← addUsize checks cursor len
  if stop > message.length then throw ⟨.unexpectedEof, truncated⟩
  else return (cursor, stop)

def hunkField (checks : OverflowChecks) (message : Bytes) (state : HunkCursor) :
    Panicking IoError HunkCursor := do
  let (key, cursor) ← returned (decodeVarint message state.cursor)
  let field := key >>> 3
  let wire := key &&& 0x07
  if field = 1 ∧ wire = 2 then
    let (cursor, stop) ← lengthDelimited checks message cursor "truncated gRPC hunk data"
    return ⟨stop, some (← slice message cursor stop)⟩
  else if wire = 0 then
    let (_, cursor) ← returned (decodeVarint message cursor)
    return { state with cursor := cursor }
  else if wire = 2 then
    let (_, stop) ← lengthDelimited checks message cursor "truncated gRPC hunk field"
    return { state with cursor := stop }
  else throw ⟨.invalidData, "unsupported gRPC hunk wire type"⟩

def hunkStep (checks : OverflowChecks) (message : Bytes) (state : HunkCursor) :
    Iteration HunkCursor (Except IoError Bytes) :=
  if state.cursor < message.length then
    match (hunkField checks message state).run with
    | none => .panicked
    | some (.error error) => .returned (.error error)
    | some (.ok state) => .next state
  else .returned (.ok (state.data.getD []))

def hunkStart : HunkCursor := ⟨0, none⟩

def decodeHunkMessage (checks : OverflowChecks) (fuel : ℕ) (message : Bytes) :
    Iteration HunkCursor (Except IoError Bytes) :=
  Iteration.iterate (hunkStep checks message) fuel hunkStart

variable (checks : OverflowChecks) {message : Bytes}

/-- The loop is at a field with a length: the length, and the cursor behind it. -/
def ReadsLength (message : Bytes) (state : HunkCursor) (len cursor : ℕ) : Prop :=
  ∃ key keyEnd, decodeVarint message state.cursor = .ok (key, keyEnd) ∧ key &&& 0x07 = 2 ∧
    decodeVarint message keyEnd = .ok (len, cursor)

theorem lengthDelimited_of_fits {keyEnd : ℕ} (truncated : String)
    (hfits : ∀ len cursor, decodeVarint message keyEnd = .ok (len, cursor) → cursor + len < 2 ^ 64) :
    ∃ out, lengthDelimited checks message keyEnd truncated = returned out ∧
      ∀ cursor stop, out = .ok (cursor, stop) →
        keyEnd < cursor ∧ cursor ≤ stop ∧ stop ≤ message.length := by
  unfold lengthDelimited
  cases hlen : decodeVarint message keyEnd with
  | error error => exact ⟨.error error, rfl, nofun⟩
  | ok res =>
    obtain ⟨len, cursor⟩ := res
    have hcursor := (decodeVarint_cursor hlen).1
    rw [returned_ok, pure_bind]
    dsimp only
    rw [addUsize_eq (hfits len cursor hlen), pure_bind]
    split_ifs with hshort
    · exact ⟨.error _, rfl, nofun⟩
    · refine ⟨.ok (cursor, cursor + len), rfl, fun cursor' stop heq => ?_⟩
      obtain ⟨rfl, rfl⟩ := Prod.mk.inj (Except.ok.inj heq)
      omega

theorem lengthDelimited_of_overflow {cursor len lenEnd : ℕ} (truncated : String)
    (h : decodeVarint message cursor = .ok (len, lenEnd)) (hover : 2 ^ 64 ≤ lenEnd + len) :
    lengthDelimited .on message cursor truncated = ExceptT.mk none := by
  rw [lengthDelimited, h, returned_ok, pure_bind]
  dsimp only
  rw [addUsize_overflow hover]
  rfl

variable {state : HunkCursor}

theorem hunkField_of_fits
    (hfits : ∀ len cursor, ReadsLength message state len cursor → cursor + len < 2 ^ 64) :
    ∃ out, hunkField checks message state = returned out ∧
      ∀ st', out = .ok st' → state.cursor < st'.cursor := by
  unfold hunkField
  cases hkey : decodeVarint message state.cursor with
  | error error => exact ⟨.error error, rfl, nofun⟩
  | ok res =>
    obtain ⟨key, keyEnd⟩ := res
    have hkeyEnd := (decodeVarint_cursor hkey).1
    rw [returned_ok, pure_bind]
    dsimp only
    split_ifs with hdata hvarint hskipped
    · obtain ⟨out, hout, hbounds⟩ := lengthDelimited_of_fits checks
        "truncated gRPC hunk data" fun len cursor hlen =>
          hfits len cursor ⟨key, keyEnd, hkey, hdata.2, hlen⟩
      rw [hout]
      cases out with
      | error error => exact ⟨.error error, rfl, nofun⟩
      | ok range =>
        obtain ⟨cursor, stop⟩ := range
        obtain ⟨hcursor, hle, hstop⟩ := hbounds cursor stop rfl
        rw [returned_ok, pure_bind]
        dsimp only
        rw [slice_eq hle hstop, pure_bind]
        refine ⟨.ok ⟨stop, _⟩, rfl, fun st' heq => ?_⟩
        rw [← Except.ok.inj heq]
        exact (hkeyEnd.trans hcursor).trans_le hle
    · cases hval : decodeVarint message keyEnd with
      | error error => exact ⟨.error error, rfl, nofun⟩
      | ok res =>
        obtain ⟨value, cursor⟩ := res
        refine ⟨.ok { state with cursor := cursor }, rfl, fun st' heq => ?_⟩
        rw [← Except.ok.inj heq]
        exact hkeyEnd.trans (decodeVarint_cursor hval).1
    · obtain ⟨out, hout, hbounds⟩ := lengthDelimited_of_fits checks
        "truncated gRPC hunk field" fun len cursor hlen =>
          hfits len cursor ⟨key, keyEnd, hkey, hskipped, hlen⟩
      rw [hout]
      cases out with
      | error error => exact ⟨.error error, rfl, nofun⟩
      | ok range =>
        obtain ⟨cursor, stop⟩ := range
        obtain ⟨hcursor, hle, -⟩ := hbounds cursor stop rfl
        refine ⟨.ok { state with cursor := stop }, rfl, fun st' heq => ?_⟩
        rw [← Except.ok.inj heq]
        exact (hkeyEnd.trans hcursor).trans_le hle
    · exact ⟨.error _, rfl, nofun⟩

theorem hunkField_of_overflow {len cursor : ℕ} (h : ReadsLength message state len cursor)
    (hover : 2 ^ 64 ≤ cursor + len) : hunkField .on message state = ExceptT.mk none := by
  obtain ⟨key, keyEnd, hkey, hwire, hlen⟩ := h
  rw [hunkField, hkey, returned_ok, pure_bind]
  dsimp only
  rw [lengthDelimited_of_overflow _ hlen hover, lengthDelimited_of_overflow _ hlen hover, hwire]
  by_cases hfield : key >>> 3 = 1
  · rw [if_pos ⟨hfield, rfl⟩]
    rfl
  · rw [if_neg (fun hdata => hfield hdata.1), if_neg (by decide), if_pos rfl]
    rfl

def LengthsFit (checks : OverflowChecks) (message : Bytes) : Prop :=
  ∀ state, Iteration.Reaches (hunkStep checks message) hunkStart state →
    ∀ len cursor, ReadsLength message state len cursor → cursor + len < 2 ^ 64

def DecodesTotally (checks : OverflowChecks) (message : Bytes) : Prop :=
  (∃ fuel outcome, decodeHunkMessage checks fuel message = .returned outcome) ∧
    ∀ state state', Iteration.Reaches (hunkStep checks message) hunkStart state →
      hunkStep checks message state = .next state' → state.cursor < state'.cursor

theorem hunkStep_of_fits
    (hfits : ∀ len cursor, ReadsLength message state len cursor → cursor + len < 2 ^ 64) :
    hunkStep checks message state ≠ .panicked ∧
      ∀ st', hunkStep checks message state = .next st' →
        state.cursor < st'.cursor ∧ state.cursor < message.length := by
  obtain ⟨out, hout, hcursor⟩ := hunkField_of_fits checks hfits
  rw [hunkStep, hout]
  split_ifs with hlt
  · cases out with
    | error error => exact ⟨nofun, nofun⟩
    | ok next =>
      refine ⟨nofun, fun st' heq => ?_⟩
      cases heq
      exact ⟨hcursor next rfl, hlt⟩
  · exact ⟨nofun, nofun⟩

theorem decodesTotally_of_fits (h : LengthsFit checks message) : DecodesTotally checks message := by
  have hstep := fun state hreach => hunkStep_of_fits checks (h state hreach)
  refine ⟨?_, fun state st' hreach hnext => ((hstep state hreach).2 st' hnext).1⟩
  have hstops : ∃ fuel, ∀ state,
      Iteration.iterate (hunkStep checks message) fuel hunkStart ≠ .next state := by
    apply Iteration.exists_stopped fun state => message.length - state.cursor
    intro state st' hreach hnext
    obtain ⟨hlt, hle⟩ := (hstep state hreach).2 st' hnext
    omega
  obtain ⟨fuel, hfuel⟩ := hstops
  cases hrun : Iteration.iterate (hunkStep checks message) fuel hunkStart with
  | next state => exact absurd hrun (hfuel state)
  | returned out => exact ⟨fuel, out, hrun⟩
  | panicked =>
    obtain ⟨state, hreach, hpanic⟩ := Iteration.panicked_of_iterate hrun
    exact absurd hpanic (hstep state hreach).1

theorem fits_of_decodesTotally (h : DecodesTotally .on message) : LengthsFit .on message := by
  intro state hreach len cursor hrds
  by_contra hover
  have hfield := hunkField_of_overflow hrds (Nat.le_of_not_lt hover)
  have hpanic : hunkStep .on message state = .panicked := by
    obtain ⟨key, keyEnd, hkey, -⟩ := hrds
    obtain ⟨hlt, hle⟩ := decodeVarint_cursor hkey
    rw [hunkStep, if_pos (hlt.trans_le hle), hfield]
    rfl
  obtain ⟨fuel, out, hret⟩ := h.1
  exact Iteration.not_returned_of_panicked hreach hpanic fuel out hret

/-- Where an overflow panics, the decoder is total exactly on the messages whose field lengths
fit; where it wraps, it is total on them too. -/
theorem decode_hunk_message_total_iff (message : Bytes) :
    (DecodesTotally .on message ↔ LengthsFit .on message) ∧
      (LengthsFit .off message → DecodesTotally .off message) :=
  ⟨⟨fits_of_decodesTotally, decodesTotally_of_fits .on⟩, decodesTotally_of_fits .off⟩

def oneByte : Bytes := [0x0a, 0x01, 0x05]

theorem oneByte_reaches (h : Iteration.Reaches (hunkStep checks oneByte) hunkStart state) :
    state = hunkStart ∨ state = ⟨3, some [5]⟩ := by
  have hfirst : hunkStep checks oneByte hunkStart = .next ⟨3, some [5]⟩ := by
    cases checks <;> decide +kernel
  have hsecond : hunkStep checks oneByte ⟨3, some [5]⟩ = .returned (.ok [5]) := by
    cases checks <;> decide +kernel
  induction h with
  | refl => exact .inl rfl
  | next _ hstep ih =>
    rcases ih with rfl | rfl
    · rw [hfirst] at hstep
      cases hstep
      exact .inr rfl
    · rw [hsecond] at hstep
      cases hstep

theorem oneByte_fits : LengthsFit checks oneByte := by
  intro state hreach len cursor hrds
  obtain ⟨key, keyEnd, hkey, -, hlen⟩ := hrds
  rcases oneByte_reaches checks hreach with rfl | rfl
  · have hkey' : decodeVarint oneByte 0 = .ok (10, 1) := by decide +kernel
    have hlen' : decodeVarint oneByte 1 = .ok (1, 2) := by decide +kernel
    obtain ⟨-, rfl⟩ := Prod.mk.inj (Except.ok.inj (hkey'.symm.trans hkey))
    obtain ⟨rfl, rfl⟩ := Prod.mk.inj (Except.ok.inj (hlen'.symm.trans hlen))
    decide
  · obtain ⟨hlt, hle⟩ := decodeVarint_cursor hkey
    exact absurd (hlt.trans_le hle) (by decide)

theorem oneByte_decodes : DecodesTotally .on oneByte ∧ DecodesTotally .off oneByte :=
  ⟨(decode_hunk_message_total_iff oneByte).1.mpr (oneByte_fits .on),
    (decode_hunk_message_total_iff oneByte).2 (oneByte_fits .off)⟩

/-- A field of `2 ^ 64 - 1` bytes of data, and a field of `2 ^ 64 - 11` bytes to skip. -/
def hugeData : Bytes := [0x0a, 0xff, 0xff, 0xff, 0xff, 0xff, 0xff, 0xff, 0xff, 0xff, 0x01]

def hugeSkip : Bytes := [0x12, 0xf5, 0xff, 0xff, 0xff, 0xff, 0xff, 0xff, 0xff, 0xff, 0x01]

/-- The addition panics, or it wraps: then the slice panics, or the loop starts again forever. -/
theorem crafted_length_crashes_or_hangs :
    decodeHunkMessage .on 1 hugeData = .panicked ∧
      decodeHunkMessage .off 1 hugeData = .panicked ∧
      ∀ fuel, decodeHunkMessage .off fuel hugeSkip = .next hunkStart := by
  have hnext : hunkStep .off hugeSkip hunkStart = .next hunkStart := by decide +kernel
  exact ⟨by decide +kernel, by decide +kernel, Iteration.iterate_of_next_self hnext⟩

end KeliNative.Grpc
