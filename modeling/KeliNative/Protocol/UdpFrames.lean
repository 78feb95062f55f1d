import KeliNative.Protocol.StreamDatagrams

/-!
# Mieru UDP frames out of a stream (`take_udp_frame`)

The bytes arrive in pieces, and noise before a frame is dropped as soon as it is seen.
-/

namespace KeliNative.Protocol
open BigEndian Framing List

/-- The buffer from the first start marker on. -/
abbrev fromMarker (buffer : Bytes) : Bytes := buffer.dropWhile (· != 0x00)

inductive UdpEvent where
  | arrive (piece : Bytes)
  | take

/-- What the calls return, up to the first error, and the buffer in the end. -/
def runUdp : Bytes → List UdpEvent → List (Except IoError (Option Bytes)) × Bytes
  | buffer, [] => ([], buffer)
  | buffer, .arrive piece :: events => runUdp (buffer ++ piece) events
  | buffer, .take :: events =>
    match takeUdpFrame buffer with
    | (.error error, rest) => ([.error error], rest)
    | (.ok packet, rest) => (.ok packet :: (runUdp rest events).1, (runUdp rest events).2)

def arrived : List UdpEvent → Bytes
  | [] => []
  | .arrive piece :: events => piece ++ arrived events
  | .take :: events => arrived events

/-- A packet with noise before it, as it goes over the stream. -/
def noisyFrame (item : Bytes × Bytes) : Bytes :=
  item.1 ++ (encodeUdpFrame item.2).toOption.getD []

/-- Noise has no start marker, and a packet is not longer than a frame can say. -/
structure Sendable (item : Bytes × Bytes) : Prop where
  noise : ∀ byte ∈ item.1, byte ≠ 0x00
  size : item.2.length ≤ 65535

/-- The receiver as it should be: a packet is taken when its frame is complete in `rest`. -/
def receive : List (Bytes × Bytes) → Bytes → List UdpEvent → List (Option Bytes) × Bytes
  | _, rest, [] => ([], rest)
  | left, rest, .arrive piece :: events => receive left (rest ++ piece) events
  | [], rest, .take :: events => (none :: (receive [] rest events).1, (receive [] rest events).2)
  | item :: left, rest, .take :: events =>
    if noisyFrame item <+: rest then
      let result := receive left (rest.drop (noisyFrame item).length) events
      (some item.2 :: result.1, result.2)
    else
      let result := receive (item :: left) rest events
      (none :: result.1, result.2)

theorem fromMarker_append {noise rest : Bytes} (h : ∀ byte ∈ noise, byte ≠ 0x00) :
    fromMarker (noise ++ rest) = fromMarker rest := by
  apply dropWhile_append_of_pos
  intro byte hbyte
  simpa using h byte hbyte

theorem fromMarker_fromMarker_append (front rest : Bytes) :
    fromMarker (fromMarker front ++ rest) = fromMarker (front ++ rest) := by
  induction front with
  | nil => rfl
  | cons byte front ih =>
    by_cases hbyte : (byte != 0x00) = true
    · simp only [fromMarker, cons_append, dropWhile_cons, hbyte, if_true]
      exact ih
    · simp only [fromMarker, dropWhile_cons, hbyte]
      rfl

theorem takeUdpFrame_congr {front buf : Bytes} (h : fromMarker front = fromMarker buf) :
    takeUdpFrame front = takeUdpFrame buf := by
  unfold fromMarker at h
  unfold takeUdpFrame
  rw [h]

/-- A call leaves the buffer from the next start marker on, without the frame it took. -/
theorem takeUdpFrame_left (buf : Bytes) :
    (takeUdpFrame buf).2 = match (takeUdpFrame buf).1 with
      | .ok (some pkt) => (fromMarker buf).drop (pkt.length + 4)
      | _ => fromMarker buf := by
  unfold takeUdpFrame
  dsimp only
  split_ifs with hshort hpart
  · rfl
  · rfl
  · rfl
  · dsimp only
    rw [length_take, length_drop, min_eq_left (by omega)]
    congr 1
    omega

variable {item : Bytes × Bytes}

theorem Sendable.frame (h : Sendable item) :
    noisyFrame item =
      item.1 ++ 0x00 :: (be16 (UInt16.ofNat item.2.length) ++ item.2 ++ [0xff]) := by
  simp only [noisyFrame, encodeUdpFrame, if_neg (Nat.not_lt.mpr h.size)]
  rfl

theorem Sendable.fromMarker_frame (h : Sendable item) (rest : Bytes) :
    fromMarker (noisyFrame item ++ rest) =
      0x00 :: (be16 (UInt16.ofNat item.2.length) ++ item.2 ++ 0xff :: rest) := by
  rw [h.frame, append_assoc, fromMarker_append h.noise]
  simp [fromMarker]

theorem Sendable.takes (h : Sendable item) (rest : Bytes) :
    takeUdpFrame (noisyFrame item ++ rest) = (.ok (some item.2), rest) := by
  have htake := takeUdpFrame_marker h.size (h.fromMarker_frame rest).symm
  rw [if_pos rfl] at htake
  rw [← htake]
  apply takeUdpFrame_congr
  rw [h.fromMarker_frame]
  rfl

theorem takeUdpFrame_short {buf : Bytes} (h : (fromMarker buf).length < 4) :
    takeUdpFrame buf = (.ok none, fromMarker buf) := by
  unfold takeUdpFrame
  exact if_pos h

/-- A part of a frame is not enough, whatever bytes the packet has. -/
theorem takeUdpFrame_part {size : UInt16} {pkt part later : Bytes}
    (hsize : size.toNat = pkt.length) (hlater : later ≠ [])
    (h : part ++ later = 0x00 :: (be16 size ++ pkt ++ [0xff])) :
    fromMarker part = part ∧ takeUdpFrame part = (.ok none, part) := by
  have hstart : fromMarker part = part := by
    cases part with
    | nil => rfl
    | cons byte part =>
      injection h with hbyte
      rw [hbyte]
      rfl
  refine ⟨hstart, ?_⟩
  by_cases hshort : part.length < 4
  · rw [takeUdpFrame_short (by rwa [hstart]), hstart]
  have hlen := congrArg List.length h
  have hpos := length_pos_of_ne_nil hlater
  simp only [length_append, length_cons, be16_length, length_nil] at hlen
  have hword : ofBe16 (part.getD 1 0) (part.getD 2 0) = size := by
    rw [← getD_append part later 0 1 (by omega), ← getD_append part later 0 2 (by omega),
      h]
    exact ofBe16_digits size
  unfold takeUdpFrame
  simp only [hstart, hword, hsize]
  rw [if_neg hshort, if_pos (by omega)]

theorem Sendable.part (h : Sendable item) {front : Bytes} (hpart : front <+: noisyFrame item)
    (hne : front ≠ noisyFrame item) : takeUdpFrame front = (.ok none, fromMarker front) := by
  obtain ⟨later, heq⟩ := hpart
  have hlater : later ≠ [] := by
    rintro rfl
    exact hne (by rw [← heq, append_nil])
  rw [h.frame] at heq
  rcases append_eq_append_iff.mp heq with ⟨left, hnoise, -⟩ | ⟨part, hfront, hframe⟩
  · -- only noise has arrived
    have hnil : fromMarker front = [] := by
      rw [← append_nil front, fromMarker_append]
      · rfl
      · intro byte hbyte
        exact h.noise byte (hnoise ▸ mem_append_left _ hbyte)
    exact takeUdpFrame_short (by rw [hnil]; decide)
  · have hsize : (UInt16.ofNat item.2.length).toNat = item.2.length := by
      have := h.size
      rw [UInt16.toNat_ofNat']
      omega
    obtain ⟨hstart, htake⟩ := takeUdpFrame_part hsize hlater hframe.symm
    have hfrom : fromMarker front = part := by
      rw [hfront, fromMarker_append h.noise, hstart]
    rw [takeUdpFrame_congr (hfrom.trans hstart.symm), htake, hfrom]

theorem runUdp_eq {evs : List UdpEvent} : ∀ {left : List (Bytes × Bytes)}
    {buf rest later : Bytes}, (∀ item ∈ left, Sendable item) →
      fromMarker buf = fromMarker rest →
      rest ++ (arrived evs ++ later) = left.flatMap noisyFrame →
      (runUdp buf evs).1 = (receive left rest evs).1.map .ok ∧
        fromMarker (runUdp buf evs).2 = fromMarker (receive left rest evs).2 := by
  induction evs with
  | nil => exact fun _ hbuf _ => ⟨rfl, hbuf⟩
  | cons ev evs ih =>
    intro left buf rest later hleft hbuf hstr
    cases ev with
    | arrive piece =>
      rw [runUdp, receive]
      refine ih hleft ?_ (by rw [← hstr, arrived, append_assoc, append_assoc])
      rw [← fromMarker_fromMarker_append buf, hbuf, fromMarker_fromMarker_append]
    | take =>
      rw [arrived] at hstr
      -- what is left of a frame stays in the buffer from its marker on
      have hwait : takeUdpFrame rest = (.ok none, fromMarker rest) →
          (runUdp buf (.take :: evs)).1 = .ok none :: (receive left rest evs).1.map .ok ∧
          fromMarker (runUdp buf (.take :: evs)).2 =
            fromMarker (receive left rest evs).2 := by
        intro hnone
        have hsame := fromMarker_fromMarker_append rest []
        rw [append_nil, append_nil] at hsame
        obtain ⟨hresults, hend⟩ := ih hleft hsame hstr
        rw [runUdp, takeUdpFrame_congr hbuf, hnone]
        exact ⟨congrArg (List.cons _) hresults, hend⟩
      cases left with
      | nil =>
        obtain ⟨rfl, -⟩ := append_eq_nil_iff.mp hstr
        exact hwait rfl
      | cons item left =>
        have hitem := hleft item mem_cons_self
        rw [receive]
        by_cases hwhole : noisyFrame item <+: rest
        · obtain ⟨rest, rfl⟩ := hwhole
          rw [flatMap_cons, append_assoc, append_cancel_left_eq] at hstr
          obtain ⟨hresults, hend⟩ := ih (fun item hmem => hleft item (mem_cons_of_mem _ hmem))
            (rfl : fromMarker rest = fromMarker rest) hstr
          rw [runUdp, takeUdpFrame_congr hbuf, hitem.takes, if_pos (prefix_append _ _),
            drop_left]
          exact ⟨congrArg (List.cons _) hresults, hend⟩
        · rw [if_neg hwhole]
          have hrest : rest <+: noisyFrame item ++ left.flatMap noisyFrame := ⟨_, hstr⟩
          refine hwait (hitem.part ?_ ?_)
          · exact ( prefix_or_prefix_of_prefix hrest (prefix_append _ _)).resolve_right hwhole
          · intro heq
            exact hwhole (heq ▸ prefix_refl _)

/-- However the stream is cut and whenever it is asked, the decoder returns what the receiver
should. -/
theorem udp_frames_extracted (items : List (Bytes × Bytes))
    (hitems : ∀ item ∈ items, Sendable item) (events : List UdpEvent) (later : Bytes)
    (hstr : arrived events ++ later = items.flatMap noisyFrame) :
    ((runUdp [] events).1 = (receive items [] events).1.map .ok ∧
      fromMarker (runUdp [] events).2 = fromMarker (receive items [] events).2) ∧
    (∀ item rest marker, Sendable item → marker ≠ 0xff →
      (takeUdpFrame ((noisyFrame item).dropLast ++ marker :: rest)).1 =
        .error ⟨.invalidData, "invalid Mieru UDP frame marker"⟩) ∧
    ∀ buffer, (takeUdpFrame buffer).2 = match (takeUdpFrame buffer).1 with
      | .ok (some packet) => (fromMarker buffer).drop (packet.length + 4)
      | _ => fromMarker buffer := by
  refine ⟨runUdp_eq hitems rfl hstr, fun item rest marker hitem hmarker => ?_, takeUdpFrame_left⟩
  have htake := takeUdpFrame_marker hitem.size
    (rfl : 0x00 :: (be16 (UInt16.ofNat item.2.length) ++ item.2 ++ marker :: rest) = _)
  rw [if_neg hmarker] at htake
  rw [hitem.frame]
  refine congrArg Prod.fst (Eq.trans (takeUdpFrame_congr ?_) htake)
  rw [← List.cons_append, ← List.append_assoc, List.dropLast_concat, List.append_assoc,
    fromMarker_append hitem.noise, List.cons_append]

/-- Two packets, the second with noise before it, arrive in two pieces. -/
theorem udp_frames_extracted_two :
    (∀ item ∈ [([], [5, 0]), ([7], [6])], Sendable item) ∧
      (runUdp [] [.arrive [0, 0, 2, 5, 0, 255, 7, 0], .take, .take, .arrive [0, 1, 6, 255],
        .take]).1 = [.ok (some [5, 0]), .ok none, .ok (some [6])] := by
  have hitems : ∀ item ∈ [(([], [5, 0]) : Bytes × Bytes), ([7], [6])], Sendable item := by
    intro item hmem
    simp only [List.mem_cons, List.not_mem_nil, or_false] at hmem
    rcases hmem with rfl | rfl <;> exact ⟨by simp, by decide⟩
  exact ⟨hitems, (udp_frames_extracted _ hitems _ [] (by decide)).1.1.trans (by decide)⟩

/-- A byte of noise that has arrived is not in the buffer any more. -/
theorem udp_noise_not_left :
    arrived [.arrive [7], .take] ++ [0, 0, 0, 255] = [(([7], []) : Bytes × Bytes)].flatMap noisyFrame ∧
      (receive [([7], [])] [] [.arrive [7], .take]).2 = [7] ∧
      (runUdp [] [.arrive [7], .take]).2 = [] := by
  decide

end KeliNative.Protocol
