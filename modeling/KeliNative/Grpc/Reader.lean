import KeliNative.Grpc.Hunk
import KeliNative.Lib.Incremental

/-!
# The reader of gRPC hunks (`read_grpc_hunks`, `grpc.rs`)

The task that turns HTTP/2 DATA chunks into payloads.
-/

namespace KeliNative.Grpc
open BigEndian Panicking List

def maxGrpcMessageSize : ℕ := 16 * 1024 * 1024

def encodeHunkMessage (payload : Bytes) : Bytes := 0x0a :: encodeVarint payload.length ++ payload

def encodeGrpcHunk (payload : Bytes) : Bytes :=
  let message := encodeHunkMessage payload
  0 :: be32 (UInt32.ofNat message.length) ++ message

def takeGrpcMessage : Bytes → Except IoError (Option (Bytes × Bytes))
  | flags :: l0 :: l1 :: l2 :: l3 :: rest =>
    if flags ≠ 0 then .error ⟨.unsupported, "compressed gRPC hunk messages are not supported"⟩
    else
      let len := (ofBe32 l0 l1 l2 l3).toNat
      if len > maxGrpcMessageSize then .error ⟨.invalidData, "gRPC hunk message is too large"⟩
      else if rest.length < len then .ok none
      else .ok (some (rest.take len, rest.drop len))
  | _ => .ok none

inductive ReaderStop where
  | failed (error : IoError)
  | panicked
  | decoding (state : HunkCursor)
  deriving DecidableEq

def ReaderStop.sent : ReaderStop → List (Except IoError Bytes)
  | .failed error => [.error error]
  | .panicked => []
  | .decoding _ => []

def takeHunk (checks : OverflowChecks) (fuel : ℕ) (buffer : Bytes) :
    Except ReaderStop (Option (Bytes × Bytes)) :=
  match takeGrpcMessage buffer with
  | .error error => .error (.failed error)
  | .ok none => .ok none
  | .ok (some (message, rest)) =>
    match decodeHunkMessage checks fuel message with
    | .returned (.ok data) => .ok (some (data, rest))
    | .returned (.error error) => .error (.failed error)
    | .panicked => .error .panicked
    | .next state => .error (.decoding state)

/-- What the task sends for the chunks of a stream, and its buffer when the stream has ended; the
other end of the channel is there throughout. -/
def readGrpcHunks (checks : OverflowChecks) (fuel : ℕ) :
    Bytes → List (Except String Bytes) → List (Except IoError Bytes) × Except ReaderStop Bytes
  | buffer, [] => ([.ok []], .ok buffer)
  | _, .error text :: _ => ([.error ⟨.other, text⟩], .error (.failed ⟨.other, text⟩))
  | buffer, .ok bytes :: chunks =>
    -- a message has five bytes at least
    match Incremental.drain (takeHunk checks fuel) ((buffer ++ bytes).length + 1) (buffer ++ bytes) with
    | (items, .error stop) => (items.map .ok ++ stop.sent, .error stop)
    | (items, .ok rest) =>
      let (sent, outcome) := readGrpcHunks checks fuel rest chunks
      (items.map .ok ++ sent, outcome)

theorem low_bits_toNat (byte : UInt8) : (byte &&& 0x7f).toNat = byte.toNat % 128 := by
  rw [UInt8.toNat_and]
  exact Nat.and_two_pow_sub_one_eq_mod byte.toNat 7

theorem high_bit_eq_zero {n : ℕ} (h : n < 128) : UInt8.ofNat n &&& 0x80 = 0 := by
  have hall : ∀ n : Fin 128, UInt8.ofNat n &&& 0x80 = 0 := by decide +kernel
  exact hall ⟨n, h⟩

theorem continued_byte (n : ℕ) : (UInt8.ofNat n ||| 0x80) &&& 0x80 ≠ 0 ∧
    ((UInt8.ofNat n ||| 0x80) &&& 0x7f).toNat = n % 128 := by
  have hall : ∀ n : Fin 256, (UInt8.ofNat n ||| 0x80) &&& 0x80 ≠ 0 ∧
      ((UInt8.ofNat n ||| 0x80) &&& 0x7f).toNat = n % 128 := by decide +kernel
  have hbyte : UInt8.ofNat n = UInt8.ofNat (n % 256) := by
    apply UInt8.toNat_inj.mp
    rw [UInt8.toNat_ofNat', UInt8.toNat_ofNat']
    omega
  have hmod : n % 256 % 128 = n % 128 := by omega
  rw [hbyte, ← hmod]
  exact hall ⟨n % 256, Nat.mod_lt n (by decide)⟩

theorem or_shifted {low value shift : ℕ} (hlow : low < 2 ^ shift) (hfits : value * 2 ^ shift < 2 ^ 64) :
    low ||| value <<< shift % 2 ^ 64 = low + value * 2 ^ shift := by
  rw [Nat.shiftLeft_eq, Nat.mod_eq_of_lt hfits, ← Nat.shiftLeft_eq, Nat.or_comm,
    ← Nat.shiftLeft_add_eq_or_of_lt hlow, Nat.add_comm]

theorem decodeVarintFrom_encodeVarint (value : ℕ) :
    ∀ {low shift : ℕ}, low < 2 ^ shift → shift < 64 → value * 2 ^ shift < 2 ^ 64 →
      ∀ (rest : Bytes) (cursor : ℕ),
        decodeVarintFrom (encodeVarint value ++ rest) cursor low shift =
          .ok (low + value * 2 ^ shift, cursor + (encodeVarint value).length) := by
  induction value using Nat.strongRecOn with
  | ind value ih =>
    intro low shift hlow hshift hfits rest cursor
    rw [encodeVarint]
    split_ifs with hsmall
    · have hbits : (UInt8.ofNat value &&& 0x7f).toNat = value := by
        rw [low_bits_toNat, UInt8.toNat_ofNat']
        omega
      rw [singleton_append, decodeVarintFrom, if_pos hshift, hbits, or_shifted hlow hfits,
        if_pos (high_bit_eq_zero hsmall)]
      rfl
    · obtain ⟨hmore, hbits⟩ := continued_byte value
      have hdigit : value % 128 * 2 ^ shift + value / 128 * 2 ^ (shift + 7) = value * 2 ^ shift := by
        have hpow : (2 : ℕ) ^ (shift + 7) = 128 * 2 ^ shift := by
          rw [Nat.pow_add, Nat.mul_comm]
        rw [hpow, ← Nat.mul_assoc, ← Nat.add_mul, Nat.mod_add_div']
      have hshift' : shift + 7 < 64 := by
        have hle : 1 * 2 ^ (shift + 7) ≤ value / 128 * 2 ^ (shift + 7) :=
          Nat.mul_le_mul_right _ (by omega)
        exact (Nat.pow_lt_pow_iff_right (by decide)).mp (by omega : 2 ^ (shift + 7) < 2 ^ 64)
      have hlow' : low + value % 128 * 2 ^ shift < 2 ^ (shift + 7) := by
        have hdigitLe : value % 128 * 2 ^ shift ≤ 127 * 2 ^ shift :=
          Nat.mul_le_mul_right _ (by omega)
        have hpow : (2 : ℕ) ^ (shift + 7) = 128 * 2 ^ shift := by
          rw [Nat.pow_add, Nat.mul_comm]
        omega
      have hrest : value >>> 7 = value / 128 := Nat.shiftRight_eq_div_pow value 7
      rw [cons_append, decodeVarintFrom, if_pos hshift, hbits, or_shifted hlow (by omega)]
      dsimp only
      rw [if_neg hmore, hrest, ih (value / 128) (by omega) hlow' hshift' (by omega), length_cons]
      congr 2
      · omega
      · omega

theorem decodeVarint_encodeVarint {value : ℕ} (h : value < 2 ^ 64) (front rest : Bytes) :
    decodeVarint (front ++ encodeVarint value ++ rest) front.length =
      .ok (value, front.length + (encodeVarint value).length) := by
  rw [decodeVarint, append_assoc, drop_left,
    decodeVarintFrom_encodeVarint value (Nat.one_pos) (by decide) (by omega)]
  congr 2
  omega

variable {checks : OverflowChecks} {payload : Bytes}

theorem length_encodeHunkMessage (payload : Bytes) :
    (encodeHunkMessage payload).length = 1 + (encodeVarint payload.length).length + payload.length := by
  rw [encodeHunkMessage, length_append, length_cons]
  omega

theorem hunkStep_encodeHunkMessage (hsize : (encodeHunkMessage payload).length ≤ maxGrpcMessageSize) :
    hunkStep checks (encodeHunkMessage payload) hunkStart =
      .next ⟨(encodeHunkMessage payload).length, some payload⟩ := by
  have hlength := length_encodeHunkMessage payload
  have hmax : maxGrpcMessageSize < 2 ^ 64 := by decide
  have hkey : decodeVarint (encodeHunkMessage payload) 0 = .ok (10, 1) := rfl
  have hlen : decodeVarint (encodeHunkMessage payload) 1 =
      .ok (payload.length, 1 + (encodeVarint payload.length).length) :=
    decodeVarint_encodeVarint (by omega) [0x0a] payload
  have hslice : ((encodeHunkMessage payload).take (encodeHunkMessage payload).length).drop
      (1 + (encodeVarint payload.length).length) = payload := by
    rw [take_length, encodeHunkMessage, Nat.add_comm, ← length_cons, drop_left]
  have hfield : hunkField checks (encodeHunkMessage payload) hunkStart =
      pure ⟨(encodeHunkMessage payload).length, some payload⟩ := by
    rw [hunkField, hunkStart, hkey, returned_ok, pure_bind]
    dsimp only
    rw [if_pos (by decide), lengthDelimited, hlen, returned_ok, pure_bind]
    dsimp only
    rw [addUsize_eq (by omega), pure_bind, if_neg (by omega), pure_bind]
    dsimp only
    rw [← hlength, slice_eq (by omega) le_rfl, hslice, pure_bind]
  rw [hunkStep, if_pos (by rw [hlength]; exact Nat.lt_of_lt_of_le Nat.one_pos (by omega)), hfield]
  rfl

section

variable {fuel : ℕ} (hfuel : 2 ≤ fuel)
  (hsize : (encodeHunkMessage payload).length ≤ maxGrpcMessageSize)

include hfuel hsize

theorem decodeHunkMessage_encodeHunkMessage :
    decodeHunkMessage checks fuel (encodeHunkMessage payload) = .returned (.ok payload) := by
  obtain ⟨fuel, rfl⟩ := Nat.exists_eq_add_of_le' hfuel
  rw [decodeHunkMessage, Iteration.iterate_next (hunkStep_encodeHunkMessage hsize), Iteration.iterate,
    hunkStep, if_neg (Nat.lt_irrefl _)]
  rfl

theorem takes_encodeGrpcHunk : Incremental.Takes (takeHunk checks fuel) encodeGrpcHunk payload := by
  have hlength : (UInt32.ofNat (encodeHunkMessage payload).length).toNat =
      (encodeHunkMessage payload).length := by
    apply UInt32.toNat_ofNat_of_lt'
    exact Nat.lt_of_le_of_lt hsize (by decide)
  have hdec : decodeHunkMessage checks fuel (encodeHunkMessage payload) = .returned (.ok payload) :=
    decodeHunkMessage_encodeHunkMessage hfuel hsize
  generalize hmsg : encodeHunkMessage payload = message at hlength hdec hsize
  have henc : encodeGrpcHunk payload = 0 :: be32 (UInt32.ofNat message.length) ++ message := by
    rw [encodeGrpcHunk, hmsg]
  generalize UInt32.ofNat message.length = word at henc hlength
  rw [be32] at henc
  refine ⟨fun rest => ?_, fun front hfront hne => ?_⟩
  · have htake : takeGrpcMessage (encodeGrpcHunk payload ++ rest) = .ok (some (message, rest)) := by
      simp only [henc, cons_append, nil_append, takeGrpcMessage, ofBe32_digits]
      rw [hlength, if_neg (fun hflags => hflags rfl), if_neg (Nat.not_lt.mpr hsize),
        if_neg (by rw [length_append]; omega), take_left, drop_left]
    rw [takeHunk, htake]
    dsimp only
    rw [hdec]
  · have htake : takeGrpcMessage front = .ok none := by
      rw [henc] at hfront hne
      rcases front with _ | ⟨flags, _ | ⟨l0, _ | ⟨l1, _ | ⟨l2, _ | ⟨l3, body⟩⟩⟩⟩⟩
      · rfl
      · rfl
      · rfl
      · rfl
      · rfl
      · simp only [cons_append, nil_append, cons_prefix_cons] at hfront
        obtain ⟨rfl, rfl, rfl, rfl, rfl, hbody⟩ := hfront
        have hshort : body.length < message.length := by
          apply Nat.lt_of_le_of_ne hbody.length_le
          intro heq
          rw [hbody.eq_of_length heq] at hne
          exact hne rfl
        simp only [takeGrpcMessage, ofBe32_digits]
        rw [hlength, if_neg (fun hflags => hflags rfl), if_neg (Nat.not_lt.mpr hsize), if_pos hshort]
    rw [takeHunk, htake]

end

theorem readGrpcHunks_eq {fuel : ℕ} (hfuel : 2 ≤ fuel) (chunks : List Bytes) :
    ∀ {payloads : List Bytes} {buf : Bytes},
      (∀ payload ∈ payloads, (encodeHunkMessage payload).length ≤ maxGrpcMessageSize) →
      buf ++ chunks.flatten = payloads.flatMap encodeGrpcHunk → (chunks = [] → payloads = []) →
      readGrpcHunks checks fuel buf (chunks.map .ok) = (payloads.map .ok ++ [.ok []], .ok []) := by
  induction chunks with
  | nil =>
    intro payloads buf _ hin hdone
    rw [hdone rfl, flatten_nil, append_nil] at hin
    rw [hin, hdone rfl]
    rfl
  | cons chunk chunks ih =>
    intro payloads buf hsize hin _
    rw [flatten_cons, ← append_assoc] at hin
    have htakes : ∀ payload ∈ payloads,
        Incremental.Takes (takeHunk checks fuel) encodeGrpcHunk payload :=
      fun payload hmem => takes_encodeGrpcHunk hfuel (hsize payload hmem)
    obtain ⟨taken, left, rest, rfl, hdrain, hrest, hleft⟩ := Incremental.drain_eq rfl htakes
      (fun payload _ => cons_ne_nil _ _) (Nat.lt_succ_self _) hin
    have hlater := ih (fun payload hmem => hsize payload (mem_append_right _ hmem)) hrest
      (fun hnil => hleft (by rw [hnil]; rfl))
    rw [map_cons, readGrpcHunks, hdrain]
    dsimp only
    rw [hlater, map_append, append_assoc]

/-- Whatever the chunks, the reader sends the payloads that were encoded and then the end. -/
theorem grpc_hunks_round_trip (checks : OverflowChecks) {fuel : ℕ} (hfuel : 2 ≤ fuel) :
    (∀ payloads chunks : List Bytes,
      (∀ payload ∈ payloads, (encodeHunkMessage payload).length ≤ maxGrpcMessageSize) →
      chunks.flatten = payloads.flatMap encodeGrpcHunk →
      readGrpcHunks checks fuel [] (chunks.map .ok) = (payloads.map .ok ++ [.ok []], .ok [])) ∧
    ∀ value < 2 ^ 64, ∀ front rest : Bytes,
      decodeVarint (front ++ encodeVarint value ++ rest) front.length =
        .ok (value, front.length + (encodeVarint value).length) := by
  refine ⟨fun payloads chunks hsize hin => ?_, fun value hval front rest =>
    decodeVarint_encodeVarint hval front rest⟩
  apply readGrpcHunks_eq hfuel chunks hsize
  · rw [List.nil_append, hin]
  · intro hnil
    rw [hnil, List.flatten_nil] at hin
    cases payloads with
    | nil => rfl
    | cons payload payloads => cases hin

/-- Two hunks in three chunks. -/
theorem two_hunks_in_three_chunks :
    readGrpcHunks .on 2 [] ([[0, 0, 0], [0, 3, 10, 1, 5, 0, 0, 0, 0, 4], [10, 2, 6, 7]].map .ok) =
      ([.ok [5], .ok [6, 7], .ok []], .ok []) := by
  have hsize : ∀ payload ∈ ([[5], [6, 7]] : List Bytes),
      (encodeHunkMessage payload).length ≤ maxGrpcMessageSize := by decide +kernel
  exact (grpc_hunks_round_trip .on (Nat.le_refl 2)).1 [[5], [6, 7]] _ hsize (by decide +kernel)

end KeliNative.Grpc
