import KeliNative.Framing.Sending
import KeliNative.Quic.PacketSecurity

/-!
# Segments through sealing and opening

Sealed segments are found again by their size.
-/

namespace KeliNative.Quic
open Framing QuicPacketSecurity List OpenState

/-! ### Pieces of one size -/

def Uniform (size : ℕ) : List Bytes → Prop
  | [] => True
  | piece :: rest =>
    piece ≠ [] ∧ piece.length ≤ size ∧ (rest ≠ [] → piece.length = size) ∧ Uniform size rest

theorem chunksLoop_uniform {size turns : ℕ} (hsize : 0 < size) (bytes : Bytes) :
    Uniform size (chunksLoop size turns bytes) := by
  induction turns generalizing bytes with
  | zero => trivial
  | succ turns ih =>
    rw [chunksLoop]
    split_ifs with hempty
    · trivial
    · refine ⟨?_, length_take_le _ _, ?_, ih _⟩
      · simp [hempty, Nat.ne_of_gt hsize]
      · intro hrest
        rw [length_take]
        apply Nat.min_eq_left
        by_contra hshort
        apply hrest
        have hnil : bytes.drop size = [] := drop_eq_nil_of_le (by omega)
        rw [hnil]
        cases turns <;> rfl

theorem chunksLoop_flatten {size turns : ℕ} {pieces : List Bytes} (h : Uniform size pieces)
    (hturns : pieces.length ≤ turns) : chunksLoop size turns pieces.flatten = pieces := by
  induction pieces generalizing turns with
  | nil => cases turns <;> rfl
  | cons piece rest ih =>
    obtain ⟨hne, hle, hfull, hrest⟩ := h
    cases turns with
    | zero => simp at hturns
    | succ turns =>
      have hturns : rest.length ≤ turns := by simpa using hturns
      rw [flatten_cons, chunksLoop, if_neg (by simp [hne])]
      by_cases hlast : rest = []
      · subst hlast
        simp only [flatten_nil, append_nil]
        rw [take_of_length_le hle, drop_of_length_le hle]
        cases turns <;> rfl
      · rw [← hfull hlast, take_left, drop_left, hfull hlast, ih hrest hturns]

theorem length_le_flatten {size : ℕ} {pieces : List Bytes} (h : Uniform size pieces) :
    pieces.length ≤ pieces.flatten.length := by
  induction pieces with
  | nil => exact Nat.le_refl _
  | cons piece rest ih =>
    have hpos := length_pos_iff.mpr h.1
    have hrest := ih h.2.2.2
    simp only [length_cons, flatten_cons, length_append]
    omega

theorem chunks_flatten {size : ℕ} {pieces : List Bytes} (h : Uniform size pieces) :
    chunks size pieces.flatten = pieces := chunksLoop_flatten h (length_le_flatten h)

def Transmit.segments (transmit : Transmit) : List Bytes :=
  let size := transmit.segmentSize.getD transmit.contents.length
  if size = 0 then [transmit.contents] else chunks size transmit.contents

theorem chunks_whole {size : ℕ} {bytes : Bytes} (hne : bytes ≠ []) (hle : bytes.length ≤ size) :
    chunks size bytes = [bytes] := by
  have hunif : Uniform size [bytes] := ⟨hne, hle, fun h => absurd rfl h, trivial⟩
  have hchs := chunks_flatten hunif
  rw [flatten_singleton] at hchs
  exact hchs

theorem chunks_few {size : ℕ} {bytes : Bytes} (hsize : 0 < size) (hne : bytes ≠ [])
    (hfew : (chunks size bytes).length ≤ 1) : chunks size bytes = [bytes] := by
  have hflat := (chunks_spec hsize bytes).1
  cases hchs : chunks size bytes with
  | nil =>
    rw [hchs] at hflat
    exact absurd hflat.symm hne
  | cons chunk rest =>
    rw [hchs] at hflat hfew
    have hrest : rest = [] := eq_nil_of_length_eq_zero (by simpa using hfew)
    rw [hrest, flatten_singleton] at hflat
    rw [hrest, hflat]

/-! ### Sealing -/

section

variable {security : QuicPacketSecurity} {nonces : ℕ → Nonce} {nonce : Nonce}

theorem sealPacketInto_eq (input output : Bytes) :
    security.sealPacketInto nonce input output =
      (security.sealPacket nonce input).map fun piece => output ++ piece := by
  unfold sealPacket sealPacketInto
  cases security.cipher.encrypt nonce.bytes input with
  | none => rfl
  | some encrypted => simp [Except.map]

def sealedForms (security : QuicPacketSecurity) (nonces : ℕ → Nonce) :
    ℕ → List Bytes → Except IoError (List Bytes)
  | _, [] => .ok []
  | drawn, segment :: rest => do
    let piece ← security.sealPacket (nonces drawn) segment
    let pieces ← sealedForms security nonces (drawn + 1) rest
    return piece :: pieces

theorem sealEach_eq (drawn : ℕ) (segments : List Bytes) (pkt : Bytes) :
    sealEach security nonces drawn segments pkt =
      (sealedForms security nonces drawn segments).map fun pieces => pkt ++ pieces.flatten := by
  induction segments generalizing drawn pkt with
  | nil => simp [sealEach, sealedForms, Except.map]
  | cons seg rest ih =>
    rw [sealEach, sealPacketInto_eq, sealedForms]
    cases security.sealPacket (nonces drawn) seg with
    | error error => rfl
    | ok piece =>
      change sealEach security nonces (drawn + 1) rest (pkt ++ piece) =
        ((sealedForms security nonces (drawn + 1) rest).bind
          fun pieces => .ok (piece :: pieces)).map fun pieces => pkt ++ pieces.flatten
      rw [ih]
      cases sealedForms security nonces (drawn + 1) rest with
      | error error => rfl
      | ok pieces => simp [Except.map, Except.bind]

theorem sealPacket_ok {seg piece : Bytes} (h : security.sealPacket nonce seg = .ok piece) :
    piece.length = seg.length + security.packetOverhead ∧
      (seg ≠ [] → security.openPacket piece = some seg) := by
  unfold sealPacket sealPacketInto at h
  cases hencrypt : security.cipher.encrypt nonce.bytes seg with
  | none =>
    rw [hencrypt] at h
    cases h
  | some encrypted =>
    rw [hencrypt] at h
    have hpiece : nonce.bytes ++ encrypted = piece := by simpa using h
    have hdecrypt := security.cipher.decrypt_encrypt hencrypt
    have hencrypted := security.cipher.decrypt_length hdecrypt
    have hlength : piece.length = seg.length + security.packetOverhead := by
      rw [← hpiece, length_append, nonce.sized, hencrypted, packetOverhead, nonceSize, tagSize]
      omega
    refine ⟨hlength, fun hne => ?_⟩
    have hpos := length_pos_iff.mpr hne
    rw [openPacket, if_neg (by omega), ← hpiece, nonceSize, take_left' nonce.sized,
      drop_left' nonce.sized]
    exact hdecrypt

def Sealed (security : QuicPacketSecurity) (segment piece : Bytes) : Prop :=
  piece.length = segment.length + security.packetOverhead ∧
    security.openPacket piece = some segment

variable {buffer : Bytes} {received : RecvMeta} {segments pieces : List Bytes} {state : OpenState}

theorem sealedForms_ok {size drawn : ℕ} (hunif : Uniform size segments)
    (h : sealedForms security nonces drawn segments = .ok pieces) :
    List.Forall₂ (Sealed security) segments pieces := by
  induction segments generalizing drawn pieces with
  | nil =>
    cases h
    exact .nil
  | cons seg rest ih =>
    rw [sealedForms] at h
    cases hseg : security.sealPacket (nonces drawn) seg with
    | error error =>
      rw [hseg] at h
      cases h
    | ok piece =>
      rw [hseg] at h
      cases hrest : sealedForms security nonces (drawn + 1) rest with
      | error error =>
        rw [hrest] at h
        cases h
      | ok pieces' =>
        rw [hrest] at h
        cases h
        obtain ⟨hlength, hopen⟩ := sealPacket_ok hseg
        exact .cons ⟨hlength, hopen hunif.1⟩ (ih hunif.2.2.2 hrest)

theorem uniform_sealed {size : ℕ} (hunif : Uniform size segments)
    (h : List.Forall₂ (Sealed security) segments pieces) :
    Uniform (size + security.packetOverhead) pieces := by
  induction h with
  | nil => trivial
  | @cons seg piece segments pieces hsealed hrest ih =>
    obtain ⟨hne, hle, hfull, hmore⟩ := hunif
    have hpos := length_pos_iff.mpr hne
    refine ⟨?_, ?_, ?_, ih hmore⟩
    · apply ne_nil_of_length_pos
      rw [hsealed.1]
      omega
    · rw [hsealed.1]
      omega
    · intro hpieces
      have hsegs : segments ≠ [] := by
        rintro rfl
        exact hpieces (forall₂_nil_left_iff.mp hrest)
      rw [hsealed.1, hfull hsegs]

theorem wrapTransmit_eq {transmit : Transmit} (hne : transmit.contents ≠ []) :
    wrapTransmit security nonces transmit =
      (sealedForms security nonces 0 transmit.segments).map fun pieces =>
        { transmit with
          contents := pieces.flatten
          segmentSize :=
            if transmit.segments.length ≤ 1 then none
            else some (transmit.segmentSize.getD transmit.contents.length +
              security.packetOverhead) } := by
  unfold wrapTransmit Transmit.segments
  dsimp only
  generalize transmit.segmentSize.getD transmit.contents.length = size
  by_cases hone : size = 0 ∨ transmit.contents.length ≤ size
  · -- one segment, whatever size was asked for
    have hsegs : (if size = 0 then [transmit.contents] else chunks size transmit.contents) =
        [transmit.contents] := by
      split_ifs with hzero
      · rfl
      · exact chunks_whole hne (hone.resolve_left hzero)
    have hsingle : [transmit.contents].length ≤ 1 := Nat.le_refl 1
    rw [if_pos hone, hsegs, if_pos hsingle, sealedForms]
    cases security.sealPacket (nonces 0) transmit.contents with
    | error error => rfl
    | ok piece =>
      change Except.ok { transmit with contents := piece, segmentSize := none } =
        Except.ok { transmit with contents := [piece].flatten, segmentSize := none }
      rw [flatten_singleton]
  · have hpos : 0 < size := Nat.pos_of_ne_zero fun h => hone (.inl h)
    have hmany : ¬ (chunks size transmit.contents).length ≤ 1 := by
      intro hfew
      have hspec := (chunks_spec hpos transmit.contents).2
      rw [chunks_few hpos hne hfew] at hspec
      exact hone (.inr (hspec transmit.contents mem_cons_self).2)
    rw [if_neg hone, if_neg fun h => hone (.inl h), if_neg hmany, sealEach_eq]
    cases sealedForms security nonces 0 (chunks size transmit.contents) with
    | error error => rfl
    | ok pieces => rfl

theorem segments_uniform {transmit : Transmit} (hne : transmit.contents ≠ []) :
    transmit.segments.flatten = transmit.contents ∧
      Uniform (if transmit.segments.length ≤ 1 then transmit.contents.length
        else transmit.segmentSize.getD transmit.contents.length) transmit.segments := by
  have hwhole : Uniform transmit.contents.length [transmit.contents] :=
    ⟨hne, Nat.le_refl _, fun h => absurd rfl h, trivial⟩
  unfold Transmit.segments
  dsimp only
  generalize transmit.segmentSize.getD transmit.contents.length = size
  by_cases hzero : size = 0
  · have hsingle : [transmit.contents].length ≤ 1 := Nat.le_refl 1
    rw [if_pos hzero, if_pos hsingle]
    exact ⟨flatten_singleton, hwhole⟩
  · have hpos := Nat.pos_of_ne_zero hzero
    rw [if_neg hzero]
    refine ⟨(chunks_spec hpos transmit.contents).1, ?_⟩
    split_ifs with hfew
    · rw [chunks_few hpos hne hfew]
      exact hwhole
    · exact chunksLoop_uniform hpos transmit.contents

theorem sealedForms_error {drawn : ℕ} {error : IoError}
    (h : sealedForms security nonces drawn segments = .error error) :
    ∃ seg ∈ segments, ∃ i, security.cipher.encrypt (nonces i).bytes seg = none := by
  induction segments generalizing drawn error with
  | nil => cases h
  | cons seg rest ih =>
    rw [sealedForms] at h
    cases hencrypt : security.cipher.encrypt (nonces drawn).bytes seg with
    | none => exact ⟨seg, mem_cons_self, drawn, hencrypt⟩
    | some encrypted =>
      unfold sealPacket sealPacketInto at h
      rw [hencrypt] at h
      cases hrest : sealedForms security nonces (drawn + 1) rest with
      | error error' =>
        obtain ⟨other, hother, href⟩ := ih hrest
        exact ⟨other, mem_cons_of_mem _ hother, href⟩
      | ok pieces =>
        change (sealedForms security nonces (drawn + 1) rest).bind _ = _ at h
        rw [hrest] at h
        cases h

/-! ### Opening -/

theorem length_copyInto {bytes : Bytes} {off : ℕ} (h : off + bytes.length ≤ buffer.length) :
    (copyInto buffer off bytes).length = buffer.length := by
  unfold copyInto
  simp only [length_append, length_take, length_drop]
  omega

theorem drop_copyInto {bytes : Bytes} {off start : ℕ} (hstart : off + bytes.length ≤ start)
    (h : start ≤ buffer.length) :
    (copyInto buffer off bytes).drop start = buffer.drop start := by
  have hfront : (buffer.take off ++ bytes).length = off + bytes.length := by
    rw [length_append, length_take]
    omega
  have hsplit : off + bytes.length + (start - (off + bytes.length)) = start := by omega
  rw [copyInto, drop_append, hfront, drop_of_length_le (by omega), nil_append,
    drop_drop, hsplit]

theorem take_copyInto {bytes : Bytes} {off : ℕ} (h : off + bytes.length ≤ buffer.length) :
    (copyInto buffer off bytes).take (off + bytes.length) = buffer.take off ++ bytes := by
  have hfront : (buffer.take off ++ bytes).length = off + bytes.length := by
    rw [length_append, length_take]
    omega
  rw [copyInto, take_left' hfront]

theorem openPacket_length {input plain : Bytes} (h : security.openPacket input = some plain) :
    input.length = plain.length + security.packetOverhead := by
  unfold openPacket at h
  split_ifs at h with hshort
  have hdrop := security.cipher.decrypt_length h
  rw [length_drop] at hdrop
  unfold packetOverhead at hshort ⊢
  unfold nonceSize tagSize at *
  omega

/-- The bytes from the input offset on are still those that were received. -/
structure Intact (buffer : Bytes) (received : RecvMeta) (state : OpenState) : Prop where
  length : state.buffer.length = buffer.length
  behind : state.outputOffset ≤ state.inputOffset
  within : state.inputOffset ≤ received.len
  unopened : state.buffer.drop state.inputOffset = buffer.drop state.inputOffset

theorem Intact.start (buffer : Bytes) (received : RecvMeta) :
    Intact buffer received ⟨buffer, 0, 0, 0, 0⟩ :=
  ⟨rfl, Nat.le_refl _, Nat.zero_le _, rfl⟩

theorem Intact.step {stride : ℕ} (h : Intact buffer received state)
    (hlen : received.len ≤ buffer.length) :
    openSegment security stride received state ≠ .panicked ∧
      ∀ st', openSegment security stride received state = .next st' →
        Intact buffer received st' ∧ state.inputOffset < st'.inputOffset := by
  obtain ⟨hlength, hbehind, hwithin, hunopened⟩ := h
  unfold openSegment
  dsimp only
  by_cases hin : state.inputOffset < received.len
  · rw [if_pos hin]
    by_cases hshort : min stride (received.len - state.inputOffset) ≤ security.packetOverhead
    · rw [if_pos hshort]
      exact ⟨nofun, nofun⟩
    · rw [if_neg hshort, if_neg (by omega)]
      cases hopen : security.openPacket ((state.buffer.drop state.inputOffset).take
          (min stride (received.len - state.inputOffset))) with
      | none => exact ⟨nofun, nofun⟩
      | some plain =>
        have hplain := openPacket_length hopen
        rw [length_take, length_drop] at hplain
        dsimp only
        rw [if_neg (by omega)]
        refine ⟨nofun, ?_⟩
        rintro st' ⟨⟩
        refine ⟨⟨?_, ?_, ?_, ?_⟩, ?_⟩
        · rw [length_copyInto (by omega)]
          exact hlength
        · dsimp only
          omega
        · dsimp only
          omega
        · dsimp only
          rw [drop_copyInto (by omega) (by omega), ← drop_drop, hunopened, drop_drop]
        · dsimp only
          omega
  · rw [if_neg hin]
    exact ⟨nofun, nofun⟩

section

variable (hlen : received.len ≤ buffer.length)

include hlen

theorem Intact.of_reaches {stride : ℕ}
    (h : Iteration.Reaches (openSegment security stride received) ⟨buffer, 0, 0, 0, 0⟩ state) :
    Intact buffer received state := by
  induction h with
  | refl => exact Intact.start buffer received
  | next _ hstep ih => exact ((ih.step hlen).2 _ hstep).1

theorem iterate_ne_panicked {stride : ℕ} (turns : ℕ) :
    Iteration.iterate (openSegment security stride received) turns ⟨buffer, 0, 0, 0, 0⟩ ≠
      .panicked := by
  intro hpanicked
  obtain ⟨state, hreaches, hstep⟩ := Iteration.panicked_of_iterate hpanicked
  exact ((Intact.of_reaches hlen hreaches).step hlen).1 hstep

theorem iterate_stops {stride : ℕ} (state : OpenState) :
    Iteration.iterate (openSegment security stride received) (received.len + 1)
      ⟨buffer, 0, 0, 0, 0⟩ ≠ .next state := by
  refine Iteration.iterate_ne_next (fun state => received.len - state.inputOffset)
    (Intact buffer received) ?_ (Intact.start buffer received) (by simp) state
  intro state st' hintact hstep
  obtain ⟨hnext, hgrows⟩ := (hintact.step hlen).2 st' hstep
  have hwithin := hnext.within
  exact ⟨hnext, by omega⟩

theorem openMeta_returns : ∃ out, openMeta security buffer received = .returned out := by
  unfold openMeta
  split_ifs
  · exact ⟨_, rfl⟩
  · cases hrun : Iteration.iterate (openSegment security (openStride received) received)
        (received.len + 1) ⟨buffer, 0, 0, 0, 0⟩ with
    | next state => exact absurd hrun (iterate_stops hlen state)
    | returned out => exact ⟨out, rfl⟩
    | panicked => exact absurd hrun (iterate_ne_panicked hlen _)

end

/-! ### Opening what was sealed -/

def OpenState.behind (state : OpenState) (segment piece : Bytes) : OpenState where
  buffer := copyInto state.buffer state.outputOffset segment
  inputOffset := state.inputOffset + piece.length
  outputOffset := state.outputOffset + segment.length
  outputStride := if state.segmentCount = 0 then segment.length else state.outputStride
  segmentCount := state.segmentCount + 1

theorem openSegment_sealed {stride : ℕ} {seg piece rest : Bytes}
    (hsealed : Sealed security seg piece) (hne : seg ≠ [])
    (hdrop : state.buffer.drop state.inputOffset = piece ++ rest)
    (hpkt : min stride (received.len - state.inputOffset) = piece.length)
    (hbehind : state.outputOffset ≤ state.inputOffset) :
    openSegment security stride received state = .next (state.behind seg piece) := by
  obtain ⟨hlength, hopen⟩ := hsealed
  have hpos := length_pos_iff.mpr hne
  have hbuf := congrArg List.length hdrop
  rw [length_drop, length_append] at hbuf
  unfold openSegment
  dsimp only
  rw [hpkt, if_pos (by omega), if_neg (by omega), if_neg (by omega), hdrop, take_left, hopen]
  dsimp only
  rw [if_neg (by omega)]
  rfl

structure OpenedAll (start : OpenState) (segments : List Bytes) (last : OpenState) : Prop where
  output : last.outputOffset = start.outputOffset + segments.flatten.length
  buffer : last.buffer.take last.outputOffset =
    start.buffer.take start.outputOffset ++ segments.flatten
  count : last.segmentCount = start.segmentCount + segments.length
  stride : last.outputStride = if start.segmentCount = 0 then
      (segments.head?.map List.length).getD start.outputStride else start.outputStride

theorem opens_all {size : ℕ} {room : Bytes} (h : List.Forall₂ (Sealed security) segments pieces)
    (hunif : Uniform size segments)
    (hdrop : state.buffer.drop state.inputOffset = pieces.flatten ++ room)
    (hlen : state.inputOffset + pieces.flatten.length = received.len)
    (hbehind : state.outputOffset ≤ state.inputOffset) :
    ∃ last, Iteration.Reaches (openSegment security (size + security.packetOverhead) received)
        state last ∧
      last.inputOffset = received.len ∧ OpenedAll state segments last := by
  induction h generalizing state with
  | nil =>
    refine ⟨state, .refl, ?_, ?_, ?_, ?_, ?_⟩
    · simpa using hlen
    · simp
    · simp
    · simp
    · simp
  | @cons seg piece segments pieces hsealed hrest ih =>
    obtain ⟨hne, hle, hfull, hmore⟩ := hunif
    rw [flatten_cons, append_assoc] at hdrop
    rw [flatten_cons, length_append] at hlen
    have hsize := hsealed.1
    have hpkt : min (size + security.packetOverhead) (received.len - state.inputOffset) =
        piece.length := by
      by_cases hlast : segments = []
      · subst hlast
        cases hrest
        rw [flatten_nil, length_nil] at hlen
        omega
      · have hexact := hfull hlast
        omega
    have hbuf := congrArg List.length hdrop
    rw [length_drop, length_append] at hbuf
    have hpos := length_pos_iff.mpr hne
    have hroom : state.outputOffset + seg.length ≤ state.buffer.length := by omega
    have hstep := openSegment_sealed hsealed hne hdrop hpkt hbehind
    have hdrop' : (state.behind seg piece).buffer.drop (state.behind seg piece).inputOffset =
        pieces.flatten ++ room := by
      unfold behind
      dsimp only
      rw [drop_copyInto (by omega) (by omega), ← drop_drop, hdrop, drop_left]
    have hlen' : (state.behind seg piece).inputOffset + pieces.flatten.length =
        received.len := by
      unfold behind
      dsimp only
      omega
    have hbehind' : (state.behind seg piece).outputOffset ≤
        (state.behind seg piece).inputOffset := by
      unfold behind
      dsimp only
      omega
    obtain ⟨last, hreaches, hend, houtput, htake, hcnt, hstride⟩ :=
      ih hmore hdrop' hlen' hbehind'
    refine ⟨last, hreaches.head hstep, hend, ?_, ?_, ?_, ?_⟩
    · rw [houtput, flatten_cons, length_append, behind]
      dsimp only
      omega
    · rw [htake, flatten_cons, ← append_assoc, ← take_copyInto hroom]
      rfl
    · rw [hcnt, length_cons, behind]
      dsimp only
      omega
    · rw [hstride, behind]
      dsimp only
      rw [if_neg (Nat.succ_ne_zero _)]
      rfl

theorem openMeta_sealed {size : ℕ} (hne : segments ≠ [])
    (h : List.Forall₂ (Sealed security) segments pieces) (hunif : Uniform size segments)
    (room : Bytes) :
    ∃ buffer, openMeta security (pieces.flatten ++ room)
        ⟨pieces.flatten.length, size + security.packetOverhead⟩ =
          .returned ⟨true, buffer, segments.flatten.length,
            if segments.length ≤ 1 then segments.flatten.length else size⟩ ∧
      buffer.take segments.flatten.length = segments.flatten := by
  obtain ⟨seg, rest, rfl⟩ := exists_cons_of_ne_nil hne
  have hsize : 0 < size := by
    have hpos := length_pos_iff.mpr hunif.1
    have hle := hunif.2.1
    omega
  have hdrop : (mk (pieces.flatten ++ room) 0 0 0 0).buffer.drop
      (mk (pieces.flatten ++ room) 0 0 0 0).inputOffset = pieces.flatten ++ room := rfl
  have hlen : (mk (pieces.flatten ++ room) 0 0 0 0).inputOffset + pieces.flatten.length =
      (RecvMeta.mk pieces.flatten.length (size + security.packetOverhead)).len := Nat.zero_add _
  obtain ⟨last, hreaches, hend, houtput, htake, hcnt, hstride⟩ :=
    opens_all h hunif hdrop hlen (Nat.le_refl _)
  have hfits : (RecvMeta.mk pieces.flatten.length (size + security.packetOverhead)).len ≤
      (pieces.flatten ++ room).length := by simp
  have hopn : openSegment security (size + security.packetOverhead)
      ⟨pieces.flatten.length, size + security.packetOverhead⟩ last =
        .returned ⟨true, last.buffer, last.outputOffset,
          if last.segmentCount ≤ 1 then last.outputOffset else last.outputStride⟩ := by
    unfold openSegment
    rw [if_neg (by omega)]
  have hstridePos : openStride ⟨pieces.flatten.length, size + security.packetOverhead⟩ =
      size + security.packetOverhead := if_neg (by dsimp only; omega)
  have houtput' : last.outputOffset = (seg :: rest).flatten.length := by
    rw [houtput, Nat.zero_add]
  refine ⟨last.buffer, ?_, ?_⟩
  · unfold openMeta
    rw [hstridePos, if_neg (by omega),
      Iteration.iterate_eq_returned hreaches hopn (iterate_stops hfits), hcnt, houtput', hstride,
      Nat.zero_add]
    by_cases hone : (seg :: rest).length ≤ 1
    · rw [if_pos hone, if_pos hone]
    · -- every segment but the last has the full size
      have hrest : rest ≠ [] := by
        rintro rfl
        exact hone (Nat.le_refl _)
      rw [if_neg hone, if_neg hone, ← hunif.2.2.1 hrest]
      rfl
  · rw [← houtput', htake]
    rfl

end

/-- What is handed on splits into the sealed segments and is opened in place to the contents. -/
theorem sealed_transmit_opens (security : QuicPacketSecurity) (nonces : ℕ → Nonce)
    (transmit : Transmit) (hne : transmit.contents ≠ []) :
    (∀ wrapped, wrapTransmit security nonces transmit = .ok wrapped →
      (∀ inner, trySend inner security nonces transmit = inner wrapped) ∧
      transmit.segments.flatten = transmit.contents ∧
      sealedForms security nonces 0 transmit.segments = .ok wrapped.segments ∧
      ∀ room, ∃ buffer, openMeta security (wrapped.contents ++ room)
          ⟨wrapped.contents.length, wrapped.segmentSize.getD wrapped.contents.length⟩ =
            .returned ⟨true, buffer, transmit.contents.length,
              if transmit.segments.length ≤ 1 then transmit.contents.length
              else transmit.segmentSize.getD transmit.contents.length⟩ ∧
        buffer.take transmit.contents.length = transmit.contents) ∧
    (∀ error, wrapTransmit security nonces transmit = .error error →
      ∃ segment ∈ transmit.segments, ∃ i,
        security.cipher.encrypt (nonces i).bytes segment = none) ∧
    ∀ (buffer : Bytes) (received : RecvMeta), received.len ≤ buffer.length →
      (∃ outcome, openMeta security buffer received = .returned outcome) ∧
      ∀ state, Iteration.Reaches (openSegment security (openStride received) received)
        ⟨buffer, 0, 0, 0, 0⟩ state →
          state.outputOffset ≤ state.inputOffset ∧
          state.buffer.drop state.inputOffset = buffer.drop state.inputOffset := by
  obtain ⟨hflat, hunif⟩ := segments_uniform hne
  have hsegs : transmit.segments ≠ [] := by
    intro hnil
    rw [hnil] at hflat
    exact hne hflat.symm
  refine ⟨?_, ?_, ?_⟩
  · intro wrapped hwrapped
    have hhanded : ∀ inner, trySend inner security nonces transmit = inner wrapped := by
      intro inner
      rw [trySend, hwrapped]
      rfl
    rw [wrapTransmit_eq hne] at hwrapped
    cases hforms : sealedForms security nonces 0 transmit.segments with
    | error error =>
      rw [hforms] at hwrapped
      cases hwrapped
    | ok pieces =>
      rw [hforms] at hwrapped
      have hwrapped := Except.ok.inj hwrapped
      have hsealed := sealedForms_ok hunif hforms
      have hcontents : wrapped.contents = pieces.flatten := by rw [← hwrapped]
      have hstride : wrapped.segmentSize.getD wrapped.contents.length =
          (if transmit.segments.length ≤ 1 then transmit.contents.length
            else transmit.segmentSize.getD transmit.contents.length) +
              security.packetOverhead := by
        rw [← hwrapped]
        dsimp only
        split_ifs with hfew
        · obtain ⟨segment, hseg⟩ : ∃ segment, transmit.segments = [segment] :=
            List.length_eq_one_iff.mp
              (Nat.le_antisymm hfew (List.length_pos_iff.mpr hsegs))
          rw [hseg] at hflat hsealed
          rw [List.flatten_singleton] at hflat
          obtain ⟨piece, rest, hpiece, hrest, rfl⟩ := List.forall₂_cons_left_iff.mp hsealed
          rw [List.forall₂_nil_left_iff.mp hrest, Option.getD_none, List.flatten_singleton,
            hpiece.1, hflat]
        · rfl
      refine ⟨hhanded, hflat, ?_, ?_⟩
      · unfold Transmit.segments
        rw [hstride, if_neg (by rw [packetOverhead, nonceSize, tagSize]; omega), hcontents,
          chunks_flatten (uniform_sealed hunif hsealed)]
      · intro room
        have hopens := openMeta_sealed hsegs hsealed hunif room
        have hsame : (if transmit.segments.length ≤ 1 then transmit.contents.length
            else if transmit.segments.length ≤ 1 then transmit.contents.length
            else transmit.segmentSize.getD transmit.contents.length) =
              if transmit.segments.length ≤ 1 then transmit.contents.length
              else transmit.segmentSize.getD transmit.contents.length := by
          split_ifs <;> rfl
        rw [hflat, hsame] at hopens
        rw [hstride, hcontents]
        exact hopens
  · intro error herr
    rw [wrapTransmit_eq hne] at herr
    cases hforms : sealedForms security nonces 0 transmit.segments with
    | error error' => exact sealedForms_error hforms
    | ok pieces =>
      rw [hforms] at herr
      cases herr
  · intro buffer received hlen
    refine ⟨openMeta_returns hlen, fun state hreaches => ?_⟩
    have hintact := Intact.of_reaches hlen hreaches
    exact ⟨hintact.behind, hintact.unopened⟩

def addOneCipher : PacketCipher where
  encrypt _ plain := some (plain.map (· + 1) ++ List.replicate 16 7)
  decrypt _ encrypted :=
    if 16 ≤ encrypted.length ∧ encrypted.drop (encrypted.length - 16) = List.replicate 16 7 then
      some ((encrypted.take (encrypted.length - 16)).map (· - 1))
    else none
  decrypt_encrypt := by
    intro nonce plain encrypted h
    rw [← Option.some.inj h]
    simp [Function.comp_def]
  decrypt_length := by
    intro nonce encrypted plain h
    split_ifs at h with htag
    rw [← Option.some.inj h, List.length_map, List.length_take]
    omega

def sevenBytes : Transmit :=
  ⟨⟨.v4 .localhost, 443⟩, some .ect0, [1, 2, 3, 4, 5, 6, 7], some 3, none⟩

def zeroNonce : Nonce := ⟨List.replicate 12 0, by decide⟩

theorem sealed_transmit_opens_seven : ∃ wrapped buffer,
    wrapTransmit (.aes128Gcm addOneCipher) (fun _ => zeroNonce) sevenBytes = .ok wrapped ∧
      openMeta (.aes128Gcm addOneCipher) wrapped.contents
        ⟨wrapped.contents.length, wrapped.segmentSize.getD wrapped.contents.length⟩ =
          .returned ⟨true, buffer, 7, 3⟩ ∧
      buffer.take 7 = [1, 2, 3, 4, 5, 6, 7] := by
  have htheorem := sealed_transmit_opens (.aes128Gcm addOneCipher) (fun _ => zeroNonce) sevenBytes
    (by decide)
  cases hwrapped : wrapTransmit (.aes128Gcm addOneCipher) (fun _ => zeroNonce) sevenBytes with
  | error error =>
    obtain ⟨segment, -, i, href⟩ := htheorem.2.1 error hwrapped
    cases href
  | ok wrapped =>
    obtain ⟨buffer, hopn, hbuf⟩ := (htheorem.1 wrapped hwrapped).2.2.2 []
    rw [List.append_nil] at hopn
    exact ⟨wrapped, buffer, rfl, hopn, hbuf⟩

end KeliNative.Quic
