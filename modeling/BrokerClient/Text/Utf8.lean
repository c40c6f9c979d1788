/-!
Bodies as UTF-8. A body is a list of bytes; its text replaces every maximal invalid subpart by
U+FFFD, the replacement character, as the Unicode standard recommends ("substitution of maximal
subparts"): a sequence that starts well and breaks off is replaced once as a whole, and the byte
that broke it starts afresh. The module also writes bytes as lowercase hexadecimal.
-/

namespace BrokerClient.Text.Utf8

/-- The replacement character U+FFFD. -/
def replacement : Char := '�'

/-- What a first byte opens: the number of continuation bytes it needs and the range that the
first of them must lie in; every later one lies in `0x80`–`0xBF`. `none` for a byte that no
well-formed sequence starts with. -/
def opening (b : Nat) : Option (Nat × Nat × Nat) :=
  if b ≤ 0x7F then some (0, 0x80, 0xBF)
  else if 0xC2 ≤ b ∧ b ≤ 0xDF then some (1, 0x80, 0xBF)
  else if b = 0xE0 then some (2, 0xA0, 0xBF)
  else if 0xE1 ≤ b ∧ b ≤ 0xEC then some (2, 0x80, 0xBF)
  else if b = 0xED then some (2, 0x80, 0x9F)
  else if 0xEE ≤ b ∧ b ≤ 0xEF then some (2, 0x80, 0xBF)
  else if b = 0xF0 then some (3, 0x90, 0xBF)
  else if 0xF1 ≤ b ∧ b ≤ 0xF3 then some (3, 0x80, 0xBF)
  else if b = 0xF4 then some (3, 0x80, 0x8F)
  else none

/-- How many of the next `n` bytes continue a sequence, the first in `lo`–`hi`. -/
def continued : List UInt8 → Nat → Nat → Nat → Nat
  | [], _, _, _ => 0
  | _, 0, _, _ => 0
  | b :: bs, n + 1, lo, hi =>
    if lo ≤ b.toNat ∧ b.toNat ≤ hi then continued bs n 0x80 0xBF + 1 else 0

/-- The code point of a first byte that opens `n` continuation bytes and those bytes. -/
def codePoint (b : Nat) (n : Nat) (tail : List UInt8) : Nat :=
  tail.foldl (fun v c => 64 * v + c.toNat % 64) (b % Nat.pow 2 (6 - n))

/-- One sequence from the front of `b :: rest`: the character, or `none` for a maximal invalid
subpart, and how many bytes of `rest` it took. -/
def front (b : UInt8) (rest : List UInt8) : Option Char × Nat :=
  match opening b.toNat with
  | none => (none, 0)
  | some (0, _, _) => (some (Char.ofNat b.toNat), 0)
  | some (n, lo, hi) =>
    let k := continued rest n lo hi
    if k = n then (some (Char.ofNat (codePoint b.toNat n (rest.take n))), n) else (none, k)

/-- The text of a body, each maximal invalid subpart replaced by U+FFFD. -/
def decodeLossy : List UInt8 → List Char
  | [] => []
  | b :: rest =>
    let r := front b rest
    r.1.getD replacement :: decodeLossy (rest.drop r.2)
termination_by bs => bs.length
decreasing_by simp only [List.length_drop, List.length_cons]; omega

/-- A body is valid UTF-8 when no part of it is replaced. -/
def isValid : List UInt8 → Bool
  | [] => true
  | b :: rest =>
    let r := front b rest
    r.1.isSome && isValid (rest.drop r.2)
termination_by bs => bs.length
decreasing_by simp only [List.length_drop, List.length_cons]; omega

/-- The number of bytes before the first maximal invalid subpart; the whole length when the body
is valid. -/
def validPrefix : List UInt8 → Nat
  | [] => 0
  | b :: rest =>
    let r := front b rest
    match r.1 with
    | some _ => 1 + r.2 + validPrefix (rest.drop r.2)
    | none => 0
termination_by bs => bs.length
decreasing_by simp only [List.length_drop, List.length_cons]; omega

/-- The text of a body as a string. -/
def lossyText (bs : List UInt8) : String := String.ofList (decodeLossy bs)

/-- The bytes of a text in UTF-8. -/
def encode (s : String) : List UInt8 := s.toUTF8.toList

/-- A digit of lowercase hexadecimal. -/
def hexDigit (n : Nat) : Char :=
  if n < 10 then Char.ofNat ('0'.toNat + n) else Char.ofNat ('a'.toNat + n - 10)

/-- Bytes as lowercase hexadecimal, two digits each. -/
def hex (bs : List UInt8) : String :=
  String.ofList (bs.flatMap fun b => [hexDigit (b.toNat / 16), hexDigit (b.toNat % 16)])

/-- The value of a hexadecimal digit of either case. -/
def hexValue? (c : Char) : Option Nat :=
  if c.isDigit then some (c.toNat - '0'.toNat)
  else if 'a' ≤ c ∧ c ≤ 'f' then some (c.toNat - 'a'.toNat + 10)
  else if 'A' ≤ c ∧ c ≤ 'F' then some (c.toNat - 'A'.toNat + 10)
  else none

/-- Bytes from hexadecimal of even length, or `none`. -/
def ofHex? : List Char → Option (List UInt8)
  | [] => some []
  | [_] => none
  | a :: b :: rest => do
    let hi ← hexValue? a
    let lo ← hexValue? b
    let tail ← ofHex? rest
    pure ((16 * hi + lo).toUInt8 :: tail)

example : decodeLossy [0xe0, 0x80, 0x80] = [replacement, replacement, replacement] := by
  decide +kernel
example : decodeLossy [0xf0, 0x9f, 0x98] = [replacement] := by decide +kernel

end BrokerClient.Text.Utf8
