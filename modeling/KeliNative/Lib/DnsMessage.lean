import KeliNative.Lib.BigEndian
import Mathlib.Data.List.Basic

/-!
# The DNS message format (RFC 1035, section 4.1)

A decoder for whole messages: header, questions and the three sections of resource records.
-/

namespace KeliNative.DnsMessage
open BigEndian List Option UInt8

structure Header where
  id : UInt16
  isResponse : Bool
  opcode : ℕ
  authoritative : Bool
  truncated : Bool
  recursionDesired : Bool
  recursionAvailable : Bool
  rcode : ℕ
  questionCount : UInt16
  answerCount : UInt16
  authorityCount : UInt16
  additionalCount : UInt16
  deriving DecidableEq

structure Question where
  name : List (List UInt8)
  qtype : UInt16
  qclass : UInt16
  deriving DecidableEq

/-- A resource record; `owner` is its name as it is written in the message. -/
structure Record where
  owner : List UInt8
  name : List (List UInt8)
  rtype : UInt16
  rclass : UInt16
  ttl : UInt32
  data : List UInt8
  deriving DecidableEq

structure Message where
  header : Header
  questions : List Question
  questionSection : List UInt8
  answers : List Record
  authorities : List Record
  additionals : List Record
  rest : List UInt8
  deriving DecidableEq

def bytesBetween (message : List UInt8) (start stop : ℕ) : List UInt8 :=
  (message.take stop).drop start

def flag (flags : UInt16) (bit : ℕ) : Bool := flags.toNat.testBit bit

def headerOf (id flags questions answers authorities additionals : UInt16) : Header where
  id := id
  isResponse := flag flags 15
  opcode := flags.toNat / 2048 % 16
  authoritative := flag flags 10
  truncated := flag flags 9
  recursionDesired := flag flags 8
  recursionAvailable := flag flags 7
  rcode := flags.toNat % 16
  questionCount := questions
  answerCount := answers
  authorityCount := authorities
  additionalCount := additionals

def decodeHeader : List UInt8 → Option Header
  | i0 :: i1 :: f0 :: f1 :: q0 :: q1 :: n0 :: n1 :: u0 :: u1 :: d0 :: d1 :: _ =>
    some (headerOf (ofBe16 i0 i1) (ofBe16 f0 f1) (ofBe16 q0 q1) (ofBe16 n0 n1) (ofBe16 u0 u1)
      (ofBe16 d0 d1))
  | _ => none

variable (message : List UInt8)

def decodeName : ℕ → ℕ → Option (List (List UInt8) × ℕ)
  | 0, _ => none
  | fuel + 1, offset =>
    match message.drop offset with
    | [] => none
    | length :: rest =>
      if length = 0 then some ([], offset + 1)
      else if length &&& 0xc0 = 0xc0 then
        match rest with
        | [] => none
        | low :: _ =>
          let target := (length &&& 0x3f).toNat * 256 + low.toNat
          if target < offset then
            (decodeName fuel target).map fun (labels, _) => (labels, offset + 2)
          else none
      else if length &&& 0xc0 ≠ 0 then none
      else if rest.length < length.toNat then none
      else
        (decodeName fuel (offset + 1 + length.toNat)).map fun (labels, stop) =>
          (rest.take length.toNat :: labels, stop)

def nameAt (offset : ℕ) : Option (List (List UInt8) × ℕ) := decodeName message message.length offset

def decodeQuestion (offset : ℕ) : Option (Question × ℕ) := do
  let (name, offset) ← nameAt message offset
  match message.drop offset with
  | t0 :: t1 :: c0 :: c1 :: _ => some (⟨name, ofBe16 t0 t1, ofBe16 c0 c1⟩, offset + 4)
  | _ => none

def decodeRecord (offset : ℕ) : Option (Record × ℕ) := do
  let (name, next) ← nameAt message offset
  match message.drop next with
  | t0 :: t1 :: c0 :: c1 :: l0 :: l1 :: l2 :: l3 :: d0 :: d1 :: rest =>
    let length := (ofBe16 d0 d1).toNat
    if rest.length < length then none
    else some (⟨bytesBetween message offset next, name, ofBe16 t0 t1, ofBe16 c0 c1,
      ofBe32 l0 l1 l2 l3, rest.take length⟩, next + 10 + length)
  | _ => none

def decodeMany {α : Type} (decode : ℕ → Option (α × ℕ)) : ℕ → ℕ → Option (List α × ℕ)
  | 0, offset => some ([], offset)
  | count + 1, offset => do
    let (item, offset) ← decode offset
    let (items, offset) ← decodeMany decode count offset
    some (item :: items, offset)

def decode : Option Message := do
  let header ← decodeHeader message
  let (questions, answersAt) ← decodeMany (decodeQuestion message) header.questionCount.toNat 12
  let (answers, offset) ← decodeMany (decodeRecord message) header.answerCount.toNat answersAt
  let (authorities, offset) ← decodeMany (decodeRecord message) header.authorityCount.toNat offset
  let (additionals, offset) ← decodeMany (decodeRecord message) header.additionalCount.toNat offset
  some ⟨header, questions, bytesBetween message 12 answersAt, answers, authorities, additionals,
    message.drop offset⟩

def IsLabel (label : List UInt8) : Prop := 0 < label.length ∧ label.length < 64

def encodeName (labels : List (List UInt8)) : List UInt8 :=
  labels.flatMap (fun label => UInt8.ofNat label.length :: label) ++ [0]

theorem encodeName_cons (label : List UInt8) (labels : List (List UInt8)) :
    encodeName (label :: labels) = ofNat label.length :: label ++ encodeName labels := by
  simp only [encodeName, flatMap_cons, append_assoc]

theorem length_encodeName_pos (labels : List (List UInt8)) : 0 < (encodeName labels).length := by
  simp [encodeName]

theorem labels_lt_length_encodeName (labels : List (List UInt8)) :
    labels.length < (encodeName labels).length := by
  induction labels with
  | nil => exact Nat.one_pos
  | cons label labels ih =>
    rw [encodeName_cons, length_append, length_cons, length_cons]
    omega

theorem and_c0_of_lt {n : ℕ} (h : n < 64) : ofNat n &&& 0xc0 = 0 := by
  have hall : ∀ n : Fin 64, ofNat n &&& 0xc0 = 0 := by decide
  exact hall ⟨n, h⟩

theorem decodeName_encodeName {labels : List (List UInt8)} (h : ∀ label ∈ labels, IsLabel label) :
    ∀ {fuel : ℕ}, labels.length < fuel → ∀ front tail : List UInt8,
      decodeName (front ++ encodeName labels ++ tail) fuel front.length =
        some (labels, front.length + (encodeName labels).length) := by
  induction labels with
  | nil =>
    intro fuel hfuel front tail
    obtain ⟨fuel, rfl⟩ := Nat.exists_eq_add_one_of_ne_zero (Nat.ne_zero_of_lt hfuel)
    rw [decodeName, append_assoc, drop_left]
    rfl
  | cons label labels ih =>
    intro fuel hfuel front tail
    obtain ⟨fuel, rfl⟩ := Nat.exists_eq_add_one_of_ne_zero (Nat.ne_zero_of_lt hfuel)
    obtain ⟨hpos, hlt⟩ := h label mem_cons_self
    have hlen : (ofNat label.length).toNat = label.length :=
      toNat_ofNat_of_lt' (hlt.trans (by decide))
    have hne : ofNat label.length ≠ 0 := by
      intro hzero
      rw [hzero] at hlen
      have : (0 : UInt8).toNat = 0 := rfl
      omega
    have hhigh := and_c0_of_lt hlt
    have hih := ih (fun label hmem => h label (mem_cons_of_mem _ hmem))
      (Nat.lt_of_succ_lt_succ hfuel) (front ++ ofNat label.length :: label) tail
    rw [length_append, length_cons] at hih
    have hmsg : front ++ encodeName (label :: labels) ++ tail =
        front ++ ofNat label.length :: label ++ encodeName labels ++ tail := by
      rw [encodeName_cons]
      simp only [append_assoc]
    rw [hmsg, decodeName]
    have hdrop : List.drop front.length
        (front ++ ofNat label.length :: label ++ encodeName labels ++ tail) =
          ofNat label.length :: (label ++ (encodeName labels ++ tail)) := by
      simp only [append_assoc, drop_left, cons_append]
    rw [hdrop]
    dsimp only
    rw [if_neg hne, hhigh, if_neg (by decide), if_neg (fun hn => hn rfl), hlen,
      if_neg (by rw [length_append]; omega), take_left,
      show front.length + 1 + label.length = front.length + (label.length + 1) by omega, hih,
      map_some, encodeName_cons, length_append, length_cons]
    congr 2
    omega

theorem nameAt_encodeName {labels : List (List UInt8)} (h : ∀ label ∈ labels, IsLabel label)
    (front tail : List UInt8) :
    nameAt (front ++ encodeName labels ++ tail) front.length =
      some (labels, front.length + (encodeName labels).length) := by
  have hfuel := labels_lt_length_encodeName labels
  apply decodeName_encodeName h
  rw [length_append, length_append]
  omega

def pointer (target : ℕ) : List UInt8 := [UInt8.ofNat (192 + target / 256), UInt8.ofNat target]

theorem pointer_bits {n : ℕ} (h : n < 64) :
    ofNat (192 + n) ≠ 0 ∧ ofNat (192 + n) &&& 0xc0 = 0xc0 ∧
      (ofNat (192 + n) &&& 0x3f).toNat = n := by
  have hall : ∀ n : Fin 64, ofNat (192 + n) ≠ 0 ∧ ofNat (192 + n) &&& 0xc0 = 0xc0 ∧
      (ofNat (192 + n) &&& 0x3f).toNat = n := by decide
  exact hall ⟨n, h⟩

theorem nameAt_pointer {labels : List (List UInt8)} (h : ∀ label ∈ labels, IsLabel label)
    (front middle tail : List UInt8) (hfront : front.length < 16384) :
    nameAt (front ++ encodeName labels ++ middle ++ pointer front.length ++ tail)
        (front ++ encodeName labels ++ middle).length =
      some (labels, (front ++ encodeName labels ++ middle).length + 2) := by
  obtain ⟨hne, hhigh, hlow⟩ := pointer_bits (Nat.div_lt_of_lt_mul hfront : front.length / 256 < 64)
  have hlen : (front ++ encodeName labels ++ middle ++ pointer front.length ++ tail).length =
      (front ++ encodeName labels ++ middle ++ pointer front.length ++ tail).length - 1 + 1 := by
    simp only [length_append, pointer, length_cons]
    omega
  have hback : decodeName (front ++ encodeName labels ++ middle ++ pointer front.length ++ tail)
      ((front ++ encodeName labels ++ middle ++ pointer front.length ++ tail).length - 1)
        front.length = some (labels, front.length + (encodeName labels).length) := by
    have hfuel := labels_lt_length_encodeName labels
    rw [append_assoc (front ++ encodeName labels), append_assoc (front ++ encodeName labels)]
    apply decodeName_encodeName h
    simp only [length_append, pointer, length_cons]
    omega
  have htarget : front.length / 256 * 256 + (ofNat front.length).toNat = front.length := by
    rw [toNat_ofNat']
    omega
  have hdrop : List.drop (front ++ encodeName labels ++ middle).length
      (front ++ encodeName labels ++ middle ++ pointer front.length ++ tail) =
        ofNat (192 + front.length / 256) :: ofNat front.length :: tail := by
    rw [append_assoc _ (pointer _), drop_left]
    rfl
  have hearlier : front.length < (front ++ encodeName labels ++ middle).length := by
    have hpos := length_encodeName_pos labels
    rw [length_append, length_append]
    omega
  rw [nameAt, hlen, decodeName, hdrop]
  dsimp only
  rw [if_neg hne, if_pos hhigh, hlow, htarget, if_pos hearlier, hback, map_some]

def encodeQuestion (question : Question) : List UInt8 :=
  encodeName question.name ++ be16 question.qtype ++ be16 question.qclass

theorem decodeQuestion_encodeQuestion {quest : Question}
    (h : ∀ label ∈ quest.name, IsLabel label) (front tail : List UInt8) :
    decodeQuestion (front ++ encodeQuestion quest ++ tail) front.length =
      some (quest, front.length + (encodeQuestion quest).length) := by
  have hmsg : front ++ encodeQuestion quest ++ tail =
      front ++ encodeName quest.name ++
        (be16 quest.qtype ++ be16 quest.qclass ++ tail) := by
    simp only [encodeQuestion, append_assoc]
  rw [decodeQuestion, hmsg, nameAt_encodeName h, ← length_append]
  simp only [bind_eq_bind, bind_some, drop_left, be16, cons_append,
    nil_append, ofBe16_digits]
  simp only [encodeQuestion, length_append, be16_length]
  rfl

def encodeRecord (target : ℕ) (record : Record) : List UInt8 :=
  pointer target ++ be16 record.rtype ++ be16 record.rclass ++ be32 record.ttl ++
    be16 (UInt16.ofNat record.data.length) ++ record.data

theorem length_encodeRecord (target : ℕ) (record : Record) :
    (encodeRecord target record).length = 12 + record.data.length := by
  simp only [encodeRecord, length_append, pointer, be16, be32, length_cons, length_nil]

theorem decodeRecord_encodeRecord {record : Record} (h : ∀ label ∈ record.name, IsLabel label)
    (front middle tail : List UInt8) (hfront : front.length < 16384)
    (howner : record.owner = pointer front.length) (hdata : record.data.length < 65536) :
    decodeRecord
        (front ++ encodeName record.name ++ middle ++ encodeRecord front.length record ++ tail)
        (front ++ encodeName record.name ++ middle).length =
      some (record, (front ++ encodeName record.name ++ middle).length +
        (encodeRecord front.length record).length) := by
  have hmsg :
      front ++ encodeName record.name ++ middle ++ encodeRecord front.length record ++ tail =
        front ++ encodeName record.name ++ middle ++ pointer front.length ++
          (be16 record.rtype ++ be16 record.rclass ++ be32 record.ttl ++
            be16 (UInt16.ofNat record.data.length) ++ record.data ++ tail) := by
    simp only [encodeRecord, append_assoc]
  have hlen : (UInt16.ofNat record.data.length).toNat = record.data.length :=
    UInt16.toNat_ofNat_of_lt' hdata
  have hnext : (front ++ encodeName record.name ++ middle).length + 2 =
      (front ++ encodeName record.name ++ middle ++ pointer front.length).length := by
    have hpointer : (pointer front.length).length = 2 := rfl
    simp only [length_append, hpointer]
  have hbytes : bytesBetween
      (front ++ encodeName record.name ++ middle ++ pointer front.length ++
          (be16 record.rtype ++ be16 record.rclass ++ be32 record.ttl ++
            be16 (UInt16.ofNat record.data.length) ++ record.data ++ tail))
      (front ++ encodeName record.name ++ middle).length
      (front ++ encodeName record.name ++ middle ++ pointer front.length).length = record.owner := by
    rw [bytesBetween, take_left, drop_left, howner]
  rw [decodeRecord, hmsg, nameAt_pointer h _ _ _ hfront, hnext]
  simp only [bind_eq_bind, bind_some, drop_left, hbytes]
  clear hmsg hbytes
  generalize UInt16.ofNat record.data.length = word at hlen ⊢
  simp only [be16, be32, cons_append, nil_append, ofBe16_digits, ofBe32_digits]
  rw [hlen, if_neg (by rw [length_append]; omega), take_left, length_encodeRecord, ← hnext]
  congr 2
  omega

theorem decodeMany_flatMap {α : Type} {encode : α → List UInt8} {front : List UInt8}
    {decodeAt : List UInt8 → ℕ → Option (α × ℕ)} {items : List α}
    (h : ∀ item ∈ items, ∀ middle tail,
      decodeAt (front ++ middle ++ encode item ++ tail) (front ++ middle).length =
        some (item, (front ++ middle).length + (encode item).length)) :
    ∀ middle tail,
      decodeMany (decodeAt (front ++ middle ++ items.flatMap encode ++ tail)) items.length
          (front ++ middle).length =
        some (items, (front ++ middle).length + (items.flatMap encode).length) := by
  induction items with
  | nil =>
    intro middle tail
    rfl
  | cons item items ih =>
    intro middle tail
    have hitem := h item mem_cons_self middle (items.flatMap encode ++ tail)
    have hitems := ih (fun item hmem => h item (mem_cons_of_mem _ hmem))
      (middle ++ encode item) tail
    have hmsg : front ++ middle ++ (item :: items).flatMap encode ++ tail =
        front ++ middle ++ encode item ++ (items.flatMap encode ++ tail) := by
      simp only [flatMap_cons, append_assoc]
    have hmsg' : front ++ (middle ++ encode item) ++ items.flatMap encode ++ tail =
        front ++ middle ++ encode item ++ (items.flatMap encode ++ tail) := by
      simp only [append_assoc]
    rw [hmsg', ← append_assoc front middle] at hitems
    rw [hmsg, length_cons, decodeMany, hitem]
    simp only [bind_eq_bind, bind_some]
    rw [← length_append, hitems]
    simp only [bind_some, flatMap_cons, length_append]
    congr 2
    omega

end KeliNative.DnsMessage
