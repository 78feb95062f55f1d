import Mathlib.Data.Nat.Basic
import Mathlib.Data.List.Basic

/-!
# Hexadecimal numbers

`usize::from_str_radix` with radix 16, for words of 64 bits.
-/

namespace KeliNative

inductive ParseIntError where
  | empty
  | invalidDigit
  | posOverflow
  deriving DecidableEq

def ParseIntError.display : ParseIntError → String
  | .empty => "cannot parse integer from empty string"
  | .invalidDigit => "invalid digit found in string"
  | .posOverflow => "number too large to fit in target type"

def hexDigit (c : Char) : Option ℕ :=
  if '0' ≤ c ∧ c ≤ '9' then some (c.toNat - '0'.toNat)
  else if 'a' ≤ c ∧ c ≤ 'f' then some (c.toNat - 'a'.toNat + 10)
  else if 'A' ≤ c ∧ c ≤ 'F' then some (c.toNat - 'A'.toNat + 10)
  else none

/-- The loop over the digits: a character that is no digit is found before its overflow. -/
def hexLoop : List Char → ℕ → Except ParseIntError ℕ
  | [], value => .ok value
  | c :: rest, value =>
    match hexDigit c with
    | none => .error .invalidDigit
    | some digit =>
      if value * 16 + digit < 2 ^ 64 then hexLoop rest (value * 16 + digit)
      else .error .posOverflow

def usizeFromHex (text : String) : Except ParseIntError ℕ :=
  match text.toList with
  | [] => .error .empty
  | ['+'] => .error .invalidDigit
  | '+' :: digits => hexLoop digits 0
  | digits => hexLoop digits 0

end KeliNative
