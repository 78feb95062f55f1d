import Mathlib.Data.List.Infix

/-!
# Reading from the front of a list

A cursor takes a value from the front of what is left of its input.
-/

namespace KeliNative
open List

abbrev Cursor (β ε α : Type) := StateT (List β) (Except ε) α

namespace Cursor

variable {β ε α γ : Type}

def next (eof : ε) : Cursor β ε β
  | [] => .error eof
  | item :: rest => .ok (item, rest)

def take (eof : ε) (amount : ℕ) : Cursor β ε (List β) := fun input =>
  if amount ≤ input.length then .ok (input.take amount, input.drop amount) else .error eof

def ensure (condition : Bool) (error : ε) : Cursor β ε Unit :=
  if condition then pure () else throw error

def ofOption (error : ε) : Option α → Cursor β ε α
  | some value => pure value
  | none => throw error

def ofExcept : Except ε α → Cursor β ε α
  | .ok value => pure value
  | .error error => throw error

variable {cursor : Cursor β ε α} {following : α → Cursor β ε γ}

theorem bind_ok (following : α → Cursor β ε γ) {input rest : List β} {value : α}
    (h : cursor input = .ok (value, rest)) :
    (cursor >>= following) input = following value rest := by
  simp only [bind, StateT.bind, h, Except.bind]

theorem bind_error (following : α → Cursor β ε γ) {input : List β} {error : ε}
    (h : cursor input = .error error) : (cursor >>= following) input = .error error := by
  simp only [bind, StateT.bind, h, Except.bind]

structure Reads (short : ε → Prop) (cursor : Cursor β ε α) (used : List β) (value : α) : Prop where
  whole : ∀ rest, cursor (used ++ rest) = .ok (value, rest)
  cut : ∀ front, front <+: used → front ≠ used → ∃ error, short error ∧ cursor front = .error error

def Steady (short : ε → Prop) (cursor : Cursor β ε α) : Prop :=
  ∀ input value rest, cursor input = .ok (value, rest) →
    ∃ used, input = used ++ rest ∧ Reads short cursor used value

variable {short : ε → Prop}

theorem reads_pure (value : α) : Reads short (pure value : Cursor β ε α) [] value where
  whole _ := rfl
  cut _ hfront hne := absurd (prefix_nil.mp hfront) hne

theorem reads_ensure {condition : Bool} (h : condition = true) (error : ε) :
    Reads short (ensure condition error : Cursor β ε Unit) [] () := by
  rw [ensure, if_pos h]
  exact reads_pure ()

theorem reads_ofOption (error : ε) {option : Option α} {value : α} (h : option = some value) :
    Reads short (ofOption error option : Cursor β ε α) [] value := by
  rw [h]
  exact reads_pure value

theorem reads_ofExcept {res : Except ε α} {value : α} (h : res = .ok value) :
    Reads short (ofExcept res : Cursor β ε α) [] value := by
  rw [h]
  exact reads_pure value

theorem reads_next {eof : ε} (heof : short eof) (item : β) :
    Reads short (next eof) [item] item where
  whole _ := rfl
  cut front hfront hne := by
    rcases prefix_cons_iff.mp hfront with rfl | ⟨front', rfl, hfront'⟩
    · exact ⟨eof, heof, rfl⟩
    · rw [prefix_nil.mp hfront'] at hne
      exact absurd rfl hne

theorem reads_take {eof : ε} (heof : short eof) {items : List β} {amount : ℕ}
    (hlen : items.length = amount) : Reads short (take eof amount) items items where
  whole rest := by
    have hle : amount ≤ (items ++ rest).length := by simp [hlen]
    rw [take, if_pos hle, ← hlen, take_left, drop_left]
  cut front hfront hne := by
    have hle := hfront.length_le
    have hlt : front.length ≠ items.length := fun heq => hne (hfront.eq_of_length heq)
    refine ⟨eof, heof, ?_⟩
    rw [take, if_neg (by omega)]

theorem Reads.bind {used used' : List β} {value : α} {value' : γ}
    (h : Reads short cursor used value) (h' : Reads short (following value) used' value') :
    Reads short (cursor >>= following) (used ++ used') value' where
  whole rest := by
    rw [append_assoc, bind_ok following (h.whole (used' ++ rest)), h'.whole]
  cut front hfront hne := by
    rcases prefix_or_prefix_of_prefix hfront (prefix_append used used') with hin | hover
    · by_cases heq : front = used
      · -- The first cursor is done, and the second one has nothing.
        have hnil : [] ≠ used' := fun hnil => hne (by rw [heq, ← hnil, append_nil])
        obtain ⟨error, hshort, herr⟩ := h'.cut [] nil_prefix hnil
        refine ⟨error, hshort, ?_⟩
        have hwhole := h.whole []
        rw [append_nil] at hwhole
        rw [heq, bind_ok following hwhole, herr]
      · obtain ⟨error, hshort, herr⟩ := h.cut front hin heq
        exact ⟨error, hshort, bind_error following herr⟩
    · obtain ⟨front', rfl⟩ := hover
      have hfront' : front' <+: used' := (prefix_append_right_inj used).mp hfront
      have hne' : front' ≠ used' := fun heq => hne (by rw [heq])
      obtain ⟨error, hshort, herr⟩ := h'.cut front' hfront' hne'
      exact ⟨error, hshort, by rw [bind_ok following (h.whole front'), herr]⟩

theorem Reads.bind_nil {used : List β} {value : α} {value' : γ} (h : Reads short cursor used value)
    (h' : Reads short (following value) [] value') :
    Reads short (cursor >>= following) used value' := by
  have hbound := h.bind h'
  rwa [append_nil] at hbound

theorem Reads.map {used : List β} {value : α} (h : Reads short cursor used value) (f : α → γ) :
    Reads short (cursor >>= fun value => pure (f value)) used (f value) :=
  h.bind_nil (reads_pure (f value))

theorem steady_pure (value : α) : Steady short (pure value : Cursor β ε α) := by
  intro input value' rest h
  cases h
  exact ⟨[], rfl, reads_pure value⟩

theorem steady_throw (error : ε) : Steady short (throw error : Cursor β ε α) := by
  intro input value rest h
  cases h

theorem steady_ensure (condition : Bool) (error : ε) :
    Steady short (ensure condition error : Cursor β ε Unit) := by
  cases condition with
  | true => exact steady_pure ()
  | false => exact steady_throw error

theorem steady_ofOption (error : ε) (option : Option α) :
    Steady short (ofOption error option : Cursor β ε α) := by
  cases option with
  | some value => exact steady_pure value
  | none => exact steady_throw error

theorem steady_next {eof : ε} (heof : short eof) : Steady short (next eof : Cursor β ε β) := by
  intro input value rest h
  cases input with
  | nil => cases h
  | cons item items =>
    cases h
    exact ⟨[value], rfl, reads_next heof value⟩

theorem steady_take {eof : ε} (heof : short eof) (amount : ℕ) :
    Steady short (take eof amount : Cursor β ε (List β)) := by
  intro input value rest h
  by_cases hle : amount ≤ input.length
  · rw [take, if_pos hle] at h
    cases h
    have hlen : (input.take amount).length = amount := by simp [hle]
    exact ⟨_, (take_append_drop amount input).symm, reads_take heof hlen⟩
  · rw [take, if_neg hle] at h
    cases h

theorem Steady.bind (h : Steady short cursor) (h' : ∀ value, Steady short (following value)) :
    Steady short (cursor >>= following) := by
  intro input value' rest hok
  cases hfirst : cursor input with
  | error error =>
    rw [bind_error following hfirst] at hok
    cases hok
  | ok first =>
    obtain ⟨value, middle⟩ := first
    rw [bind_ok following hfirst] at hok
    obtain ⟨used, rfl, hrds⟩ := h _ _ _ hfirst
    obtain ⟨used', rfl, hreads'⟩ := h' value _ _ _ hok
    exact ⟨used ++ used', by rw [append_assoc], hrds.bind hreads'⟩

end Cursor

end KeliNative
