import Mathlib.Data.List.TakeDrop

/-!
# Slices of a stream

What a receiver has is a `take` of the stream; `streamSlice` is what a segment carries.
-/

namespace KeliNative

variable {α : Type}

def streamSlice (stream : List α) (offset len : ℕ) : List α := (stream.drop offset).take len

theorem take_append_slice (s : List α) (n len : ℕ) :
    s.take n ++ streamSlice s n len = s.take (n + len) := by
  rw [streamSlice, List.take_add]

theorem drop_slice (s : List α) (off len k : ℕ) :
    (streamSlice s off len).drop k = streamSlice s (off + k) (len - k) := by
  rw [streamSlice, streamSlice, List.drop_take, List.drop_drop]

theorem slice_append_left {s : List α} {off len : ℕ} (h : off + len ≤ s.length)
    (more : List α) : streamSlice (s ++ more) off len = streamSlice s off len := by
  rw [streamSlice, streamSlice, List.drop_append_of_le_length (by omega), List.take_append_of_le_length]
  rw [List.length_drop]
  omega

theorem slice_append_right (s more : List α) :
    streamSlice (s ++ more) s.length more.length = more := by
  rw [streamSlice, List.drop_left, List.take_length]

end KeliNative
