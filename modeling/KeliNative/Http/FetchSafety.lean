import KeliNative.Http.SubscriptionFetch

/-!
# Panics of the subscription parser

Only the addition of the line end behind a chunk length is not checked.
-/

namespace KeliNative.Http
open Panicking List

section

variable (checks : OverflowChecks) (text : ResponseText) (source : SubscriptionFetchSource)

/-- What a turn does with a length that was read; `start` is where the chunk's data begins. -/
def readChunk (body : Bytes) (maxBytes : ℕ) (decoded : Bytes) (start length : ℕ) :
    Panicking SubscriptionFetchError (ChunkState ⊕ Bytes) :=
  if length = 0 then pure (.inr decoded)
  else if 2 ^ 64 ≤ start + length then
    invalidResponse source "chunked subscription response length overflowed"
  else if 2 ^ 64 ≤ start + length + 2 then ExceptT.mk none
  else if body.length < start + length + 2 then
    invalidResponse source "chunked subscription response is truncated"
  else if (body.drop (start + length)).take 2 ≠ crlf then
    invalidResponse source "chunked subscription response is truncated"
  else if maxBytes < min (decoded.length + length) (2 ^ 64 - 1) then
    throw ⟨.responseTooLarge,
      "decoded subscription body exceeded max-bytes limit: " ++ toString maxBytes, some source⟩
  else pure (.inl ⟨start + length + 2, decoded ++ (body.drop start).take length⟩)

theorem take_drop_eq {list : Bytes} {start length : ℕ} :
    (list.take (start + length)).drop start = (list.drop start).take length := by
  rw [drop_take, Nat.add_sub_cancel_left]

theorem slice_from {list : Bytes} {start : ℕ} (h : start ≤ list.length) :
    slice (ε := SubscriptionFetchError) list start list.length = pure (list.drop start) := by
  rw [slice_eq h (Nat.le_refl _), take_length]

theorem slice_length {list : Bytes} {start length : ℕ} (h : start + length ≤ list.length) :
    slice (ε := SubscriptionFetchError) list start (start + length) =
      pure ((list.drop start).take length) := by
  rw [slice_eq (Nat.le_add_right _ _) h, take_drop_eq]

variable {body : Bytes} {state : ChunkState}

theorem delimiter_overflow {chunkEnd : ℕ} (hbody : 2 ≤ body.length) (hfits : chunkEnd < 2 ^ 64)
    (hoverflow : 2 ^ 64 ≤ chunkEnd + 2)
    (next : ℕ → Bytes → Panicking SubscriptionFetchError (ChunkState ⊕ Bytes)) :
    (addUsize checks chunkEnd 2 >>= fun delimiterEnd =>
      if body.length < delimiterEnd then
        invalidResponse source "chunked subscription response is truncated"
      else slice body chunkEnd delimiterEnd >>= next delimiterEnd) = ExceptT.mk none := by
  cases checks with
  | on =>
    rw [addUsize_overflow hoverflow]
    rfl
  | off =>
    have hwraps : addUsize (ε := SubscriptionFetchError) .off chunkEnd 2 =
        pure ((chunkEnd + 2) % 2 ^ 64) := if_neg (by omega)
    have hpanics : slice (ε := SubscriptionFetchError) body chunkEnd ((chunkEnd + 2) % 2 ^ 64) =
        ExceptT.mk none := if_neg (by omega)
    rw [hwraps, pure_bind, if_neg (by omega), hpanics]
    rfl

theorem subscriptionChunk_eq (hbody : body.length < 2 ^ 63) (maxBytes : ℕ)
    (hoff : state.offset ≤ body.length) :
    subscriptionChunk checks text source body maxBytes state =
      match findMark crlf (body.drop state.offset) with
      | none => invalidResponse source "chunked subscription response is missing a chunk length"
      | some index =>
        match usizeFromHex
            (sizeText (text.lossy.read ((body.drop state.offset).take index))) with
        | .error _ =>
          invalidResponse source "chunked subscription response has an invalid chunk length"
        | .ok length =>
          readChunk source body maxBytes state.decoded (state.offset + index + 2) length := by
  unfold subscriptionChunk
  rw [slice_from hoff, pure_bind]
  cases hfound : findMark crlf (body.drop state.offset) with
  | none => rfl
  | some index =>
    have hindex : state.offset + index + 2 ≤ body.length := by
      have hle := (findMark_some hfound).1
      simp only [crlf, length_cons, length_nil, length_drop] at hle
      omega
    dsimp only
    rw [addUsize_eq (by omega), pure_bind, slice_length (by omega), pure_bind]
    cases usizeFromHex (sizeText (text.lossy.read ((body.drop state.offset).take index))) with
    | error error => rfl
    | ok length =>
      dsimp only
      rw [addUsize_eq (by omega), pure_bind]
      unfold readChunk
      by_cases hzero : length = 0
      · rw [if_pos hzero, if_pos hzero]
      rw [if_neg hzero, if_neg hzero]
      by_cases hoverflow : 2 ^ 64 ≤ state.offset + index + 2 + length
      · rw [if_pos hoverflow, if_pos hoverflow]
      rw [if_neg hoverflow, if_neg hoverflow]
      by_cases hdelim : 2 ^ 64 ≤ state.offset + index + 2 + length + 2
      · rw [if_pos hdelim]
        exact delimiter_overflow checks source (by omega) (by omega) hdelim _
      rw [if_neg hdelim, addUsize_eq (by omega), pure_bind]
      by_cases htruncated : body.length < state.offset + index + 2 + length + 2
      · rw [if_pos htruncated, if_pos htruncated]
      rw [if_neg htruncated, if_neg htruncated, slice_length (by omega), pure_bind]
      split_ifs
      · rfl
      · rfl
      · rw [slice_length (by omega), pure_bind, pure_bind]

def chunkAt (body : Bytes) (offset : ℕ) : Option (ℕ × ℕ) := do
  let index ← findMark crlf (body.drop offset)
  let length ← (usizeFromHex (sizeText (text.lossy.read ((body.drop offset).take index)))).toOption
  return (offset + index + 2, length)

/-- Behind the chunk at an offset there is no room for a line end in the word. -/
def Overfull (body : Bytes) (offset : ℕ) : Prop :=
  ∃ start length, chunkAt text body offset = some (start, length) ∧ length ≠ 0 ∧
    start + length < 2 ^ 64 ∧ 2 ^ 64 ≤ start + length + 2

theorem readChunk_run (body : Bytes) (maxBytes : ℕ) (decoded : Bytes) (start length : ℕ) :
    ((readChunk source body maxBytes decoded start length).run = none ↔
      length ≠ 0 ∧ start + length < 2 ^ 64 ∧ 2 ^ 64 ≤ start + length + 2) ∧
    ∀ state, (readChunk source body maxBytes decoded start length).run = some (.ok (.inl state)) →
      start < state.offset ∧ state.offset ≤ body.length := by
  unfold readChunk
  split_ifs with hzero hoverflow hdelim htruncated hcrlf hlarge
  · exact ⟨iff_of_false nofun fun h => h.1 hzero, nofun⟩
  · exact ⟨iff_of_false nofun fun h => Nat.not_lt.mpr hoverflow h.2.1, nofun⟩
  · exact ⟨iff_of_true rfl ⟨hzero, Nat.lt_of_not_le hoverflow, hdelim⟩, nofun⟩
  · exact ⟨iff_of_false nofun fun h => hdelim h.2.2, nofun⟩
  · exact ⟨iff_of_false nofun fun h => hdelim h.2.2, nofun⟩
  · exact ⟨iff_of_false nofun fun h => hdelim h.2.2, nofun⟩
  · refine ⟨iff_of_false nofun fun h => hdelim h.2.2, ?_⟩
    rintro state ⟨⟩
    dsimp only
    omega

theorem subscriptionChunk_run (hbody : body.length < 2 ^ 63) (maxBytes : ℕ)
    (hoff : state.offset ≤ body.length) :
    ((subscriptionChunk checks text source body maxBytes state).run = none ↔
      Overfull text body state.offset) ∧
    ∀ st', (subscriptionChunk checks text source body maxBytes state).run =
        some (.ok (.inl st')) →
      state.offset < st'.offset ∧ st'.offset ≤ body.length := by
  rw [subscriptionChunk_eq checks text source hbody maxBytes hoff]
  unfold Overfull chunkAt
  cases findMark crlf (body.drop state.offset) with
  | none => exact ⟨iff_of_false nofun nofun, nofun⟩
  | some index =>
    dsimp only
    cases hlen :
        usizeFromHex (sizeText (text.lossy.read ((body.drop state.offset).take index))) with
    | error error =>
      refine ⟨iff_of_false nofun ?_, nofun⟩
      rintro ⟨start, length, hchunk, -⟩
      simp [hlen, Except.toOption] at hchunk
    | ok length =>
      obtain ⟨hnone, hnext⟩ := readChunk_run source body maxBytes state.decoded
        (state.offset + index + 2) length
      constructor
      · rw [hnone]
        constructor
        · intro h
          exact ⟨state.offset + index + 2, length, by simp [hlen, Except.toOption], h⟩
        · rintro ⟨start, length', hchunk, h⟩
          simp only [hlen, Except.toOption, Option.bind_eq_bind, Option.bind_some,
            Option.pure_def, Option.some_inj, Prod.mk.injEq] at hchunk
          obtain ⟨rfl, rfl⟩ := hchunk
          exact h
      · intro st' hst'
        have hle := hnext st' hst'
        omega

variable {checks text source}

theorem subscriptionChunkStep_next {maxBytes : ℕ} {st' : ChunkState} :
    subscriptionChunkStep checks text source body maxBytes state = .next st' ↔
      (subscriptionChunk checks text source body maxBytes state).run = some (.ok (.inl st')) := by
  unfold subscriptionChunkStep
  rcases (subscriptionChunk checks text source body maxBytes state).run with
    _ | error | next | decoded
  · exact iff_of_false nofun nofun
  · exact iff_of_false nofun nofun
  · simp
  · exact iff_of_false nofun nofun

theorem subscriptionChunkStep_panicked {maxBytes : ℕ} :
    subscriptionChunkStep checks text source body maxBytes state = .panicked ↔
      (subscriptionChunk checks text source body maxBytes state).run = none := by
  unfold subscriptionChunkStep
  rcases (subscriptionChunk checks text source body maxBytes state).run with
    _ | error | next | decoded
  · exact iff_of_true rfl rfl
  · exact iff_of_false nofun nofun
  · exact iff_of_false nofun nofun
  · exact iff_of_false nofun nofun

theorem offset_le_of_reaches (hbody : body.length < 2 ^ 63) {maxBytes : ℕ} {st' : ChunkState}
    (hoff : state.offset ≤ body.length)
    (h : Iteration.Reaches (subscriptionChunkStep checks text source body maxBytes) state st') :
    st'.offset ≤ body.length := by
  induction h with
  | refl => exact hoff
  | next _ hstep ih =>
    exact ((subscriptionChunk_run checks text source hbody maxBytes ih).2 _
      (subscriptionChunkStep_next.mp hstep)).2

variable (checks text source) in
theorem decodeChunkedSubscriptionBody_stops (hbody : body.length < 2 ^ 63) (maxBytes : ℕ)
    (state : ChunkState) :
    decodeChunkedSubscriptionBody checks text source body maxBytes ≠ .next state := by
  -- one turn for every byte that is left, and one more, are enough
  refine Iteration.iterate_ne_next (fun state => body.length - state.offset)
    (fun state => state.offset ≤ body.length) ?_ (Nat.zero_le _) (by simp) state
  intro state st' hoff hstep
  obtain ⟨hgrows, hle⟩ := (subscriptionChunk_run checks text source hbody maxBytes hoff).2 st'
    (subscriptionChunkStep_next.mp hstep)
  exact ⟨hle, by omega⟩

variable (checks text source) in
theorem decodeChunkedSubscriptionBody_returns_iff (hbody : body.length < 2 ^ 63) (maxBytes : ℕ) :
    (∃ out, decodeChunkedSubscriptionBody checks text source body maxBytes =
        .returned out) ↔
      ∀ state, Iteration.Reaches (subscriptionChunkStep checks text source body maxBytes) ⟨0, []⟩
        state → ¬ Overfull text body state.offset := by
  have hzero : (ChunkState.mk 0 []).offset ≤ body.length := Nat.zero_le _
  constructor
  · rintro ⟨out, hout⟩ state hreaches hoverfull
    have hle := offset_le_of_reaches hbody hzero hreaches
    have hpanics := subscriptionChunkStep_panicked.mpr
      ((subscriptionChunk_run checks text source hbody maxBytes hle).1.mpr hoverfull)
    exact Iteration.not_returned_of_panicked hreaches hpanics _ out hout
  · intro h
    cases hrun : decodeChunkedSubscriptionBody checks text source body maxBytes with
    | next state =>
      exact absurd hrun (decodeChunkedSubscriptionBody_stops checks text source hbody maxBytes state)
    | returned out => exact ⟨out, rfl⟩
    | panicked =>
      obtain ⟨state, hreaches, hpanics⟩ := Iteration.panicked_of_iterate hrun
      have hle := offset_le_of_reaches hbody hzero hreaches
      exact absurd ((subscriptionChunk_run checks text source hbody maxBytes hle).1.mp
        (subscriptionChunkStep_panicked.mp hpanics)) (h state hreaches)

variable (checks text source) in
theorem subscriptionParts_returns {resp : Bytes} (hfits : resp.length < 2 ^ 63) :
    ∃ out, (subscriptionParts checks text source resp).run = some out ∧
      ∀ statusCode chunked body, out = .ok (statusCode, chunked, body) →
        body.length ≤ resp.length := by
  unfold subscriptionParts findHttpHeaderEnd
  cases hfound : findMark [13, 10, 13, 10] resp with
  | none => exact ⟨_, rfl, nofun⟩
  | some headerEnd =>
    have hend : headerEnd + 4 ≤ resp.length := (findMark_some hfound).1
    dsimp only
    rw [slice_eq (Nat.zero_le _) (by omega), pure_bind]
    split
    · exact ⟨_, rfl, nofun⟩
    · split_ifs
      · rw [addUsize_eq (by omega), pure_bind, slice_from hend, pure_bind]
        refine ⟨_, rfl, ?_⟩
        rintro statusCode chunked body ⟨⟩
        rw [length_drop]
        omega
      · exact ⟨_, rfl, nofun⟩

end

/-- The parser returns exactly if no chunk that it comes to is overfull, and it always comes to an
end. -/
theorem subscription_response_returns_iff (checks : OverflowChecks) (text : ResponseText)
    (source : SubscriptionFetchSource) (response : Bytes) (elapsed : Duration) (maxBytes : ℕ)
    (hfits : response.length < 2 ^ 63) :
    ((∃ outcome, parseSubscriptionFetchResponse checks text source response elapsed maxBytes =
        .returned outcome) ↔
      ∀ statusCode body, (subscriptionParts checks text source response).run =
          some (.ok (statusCode, true, body)) →
        ∀ state, Iteration.Reaches (subscriptionChunkStep checks text source body maxBytes) ⟨0, []⟩
          state → ¬ Overfull text body state.offset) ∧
    ∀ state, parseSubscriptionFetchResponse checks text source response elapsed maxBytes ≠
      .next state := by
  obtain ⟨outcome, hparts, hbody⟩ :=
    subscriptionParts_returns checks text source hfits
  unfold parseSubscriptionFetchResponse
  rw [hparts]
  rcases outcome with error | ⟨statusCode, chunked, body⟩
  · exact ⟨iff_of_true ⟨_, rfl⟩ nofun, nofun⟩
  · have hlen := hbody statusCode chunked body rfl
    have hsmall : body.length < 2 ^ 63 := by omega
    cases chunked with
    | false => exact ⟨iff_of_true ⟨_, rfl⟩ nofun, nofun⟩
    | true =>
      have hdecodes := decodeChunkedSubscriptionBody_returns_iff checks text source hsmall maxBytes
      dsimp only
      cases hdec : decodeChunkedSubscriptionBody checks text source body maxBytes with
      | next state =>
        exact absurd hdec
          (decodeChunkedSubscriptionBody_stops checks text source hsmall maxBytes state)
      | returned decoded =>
        have hsafe := hdecodes.mp ⟨decoded, hdec⟩
        refine ⟨iff_of_true ?_ ?_, ?_⟩
        · cases decoded with
          | error error => exact ⟨_, rfl⟩
          | ok body => exact ⟨_, rfl⟩
        · rintro statusCode' body' ⟨⟩
          exact hsafe
        · cases decoded with
          | error error => exact nofun
          | ok body => exact nofun
      | panicked =>
        refine ⟨iff_of_false nofun fun hsafe => ?_, nofun⟩
        obtain ⟨decoded, hret⟩ := hdecodes.mpr (hsafe statusCode body rfl)
        rw [hdec] at hret
        cases hret

def asciiLossy : LossyText where
  read bytes := String.ofList (bytes.map fun byte =>
    if byte < 128 then Char.ofNat byte.toNat else Char.ofNat 0xfffd)
  ascii := by
    intro text rest hascii
    simp only [String.toList_ofList, map_append, map_map]
    congr 1
    conv_rhs => rw [← map_id text]
    apply map_congr_left
    intro c hc
    have hc := hascii c hc
    have hbyte : (UInt8.ofNat c.toNat).toNat = c.toNat := by
      rw [UInt8.toNat_ofNat', Nat.mod_eq_of_lt (by omega)]
    have hlow : UInt8.ofNat c.toNat < 128 := by
      rw [UInt8.lt_iff_toNat_lt, hbyte]
      exact hc
    rw [Function.comp_apply, if_pos hlow, hbyte, Char.ofNat_toNat]
    rfl
  nil := rfl

def asciiText : ResponseText := ⟨asciiLossy, fun _ => "invalid utf-8 sequence"⟩

def exampleSource : SubscriptionFetchSource := ⟨"https", "example.com", 443, true, true, false⟩

def chunkedResponse (body : String) : Bytes :=
  Text.utf8 ("HTTP/1.1 200 OK\r\nTransfer-Encoding: chunked\r\n\r\n" ++ body)

theorem subscription_response_returns_short :
    parseSubscriptionFetchResponse .on asciiText exampleSource
        (chunkedResponse "1\r\na\r\n0\r\n\r\n") 5 100 =
      .returned (.ok ⟨exampleSource, 200, "a", 1, 5⟩) ∧
    ∀ statusCode body, (subscriptionParts .on asciiText exampleSource
        (chunkedResponse "1\r\na\r\n0\r\n\r\n")).run = some (.ok (statusCode, true, body)) →
      ∀ state, Iteration.Reaches (subscriptionChunkStep .on asciiText exampleSource body 100) ⟨0, []⟩
        state → ¬ Overfull asciiText body state.offset := by
  have hrun : parseSubscriptionFetchResponse .on asciiText exampleSource
      (chunkedResponse "1\r\na\r\n0\r\n\r\n") 5 100 =
        .returned (.ok ⟨exampleSource, 200, "a", 1, 5⟩) := by decide +kernel
  exact ⟨hrun, (subscription_response_returns_iff .on asciiText exampleSource _ 5 100
    (by decide +kernel)).1.mp ⟨_, hrun⟩⟩

/-- Eighteen bytes of line and a length of `2 ^ 64 - 19` leave no room for the line end. -/
theorem overfull_chunk_panics :
    parseSubscriptionFetchResponse .on asciiText exampleSource
        (chunkedResponse "ffffffffffffffed\r\n") 5 100 = .panicked ∧
      parseSubscriptionFetchResponse .off asciiText exampleSource
        (chunkedResponse "ffffffffffffffed\r\n") 5 100 = .panicked := by
  decide +kernel

end KeliNative.Http
