import Mathlib.Data.List.DropRight
import Mathlib.Data.List.Infix

/-!
# Texts

The `str` functions of the standard library that look at characters one by one.
-/

namespace KeliNative.Text

def isWhitespace (c : Char) : Bool :=
  let n := c.toNat
  (9 ≤ n && n ≤ 13) || n == 0x20 || n == 0x85 || n == 0xa0 || n == 0x1680 ||
    (0x2000 ≤ n && n ≤ 0x200a) || n == 0x2028 || n == 0x2029 || n == 0x202f || n == 0x205f ||
    n == 0x3000

def trimMatches (p : Char → Bool) (text : String) : String :=
  String.ofList ((text.toList.dropWhile p).rdropWhile p)

def trim (text : String) : String := trimMatches isWhitespace text

def trimStart (text : String) : String := String.ofList (text.toList.dropWhile isWhitespace)

def startsWith (start text : String) : Bool := start.toList.isPrefixOf text.toList

def stripped (start text : String) : Option String :=
  (start.toList.isPrefixOf? text.toList).map String.ofList

def contains (part text : String) : Bool := decide (part.toList <:+: text.toList)

def splitOnce (separator : Char) (text : String) : Option (String × String) :=
  match text.toList.span (· != separator) with
  | (_, []) => none
  | (before, _ :: after) => some (String.ofList before, String.ofList after)

def rsplitOnce (separator : Char) (text : String) : Option (String × String) :=
  match text.toList.reverse.span (· != separator) with
  | (_, []) => none
  | (after, _ :: before) => some (String.ofList before.reverse, String.ofList after.reverse)

def split (separator : Char) (text : String) : List String :=
  (text.toList.splitOn separator).map String.ofList

def splitOnceAt (separator : List Char) : List Char → Option (List Char × List Char)
  | [] => if separator = [] then some ([], []) else none
  | c :: rest =>
    match separator.isPrefixOf? (c :: rest) with
    | some after => some ([], after)
    | none => (splitOnceAt separator rest).map fun (before, after) => (c :: before, after)

def splitWhitespace (text : String) : List String :=
  ((text.toList.splitOnP isWhitespace).filter (· ≠ [])).map String.ofList

def splitCrlf : List Char → List (List Char)
  | [] => [[]]
  | '\r' :: '\n' :: rest => [] :: splitCrlf rest
  | c :: rest => (splitCrlf rest).modifyHead (c :: ·)

/-- `str::lines`. A carriage return goes with the line feed after it, and a text that ends in a
line feed has no empty line after it. -/
def lines (text : String) : List String :=
  let pieces := text.toList.splitOn '\n'
  let ended := pieces.dropLast.map fun piece =>
    if piece.getLast? = some '\r' then piece.dropLast else piece
  let last := pieces.getLast?.toList.filter (· ≠ [])
  (ended ++ last).map String.ofList

def parseBelow (bound : ℕ) (text : String) : Option ℕ :=
  let digits := match text.toList with
    | '+' :: digits => digits
    | digits => digits
  if digits ≠ [] ∧ digits.all Char.isDigit ∧ Nat.ofDigitChars 10 digits 0 < bound then
    some (Nat.ofDigitChars 10 digits 0)
  else none

def parseU16 (text : String) : Option UInt16 := (parseBelow 65536 text).map UInt16.ofNat

def fromUtf8 (bytes : List UInt8) : Option String := String.fromUTF8? (ByteArray.mk bytes.toArray)

def utf8 (text : String) : List UInt8 := text.toUTF8.toList

end KeliNative.Text
