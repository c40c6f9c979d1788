/-!
Decimal numerals of fixed-width integers. A numeral is an optional sign and one or more ASCII
digits, nothing else: no blank, no digit separator, no digit of another script. Its value must
fit the width; an unsigned numeral may carry a plus sign only, a signed one either sign.
-/

namespace BrokerClient.Text

/-- The value of a nonempty run of ASCII digits, or `none` when the run is empty or holds
another character. -/
def digitsValue? (cs : List Char) : Option Nat :=
  if cs.isEmpty then none
  else cs.foldl (fun acc c => acc.bind fun v =>
    if c.isDigit then some (10 * v + (c.toNat - '0'.toNat)) else none) (some 0)

/-- An unsigned numeral of `bits` bits: an optional plus sign and digits, below `2 ^ bits`. -/
def parseUnsigned? (bits : Nat) (s : String) : Option Nat :=
  let cs := match s.toList with
    | '+' :: rest => rest
    | cs => cs
  match digitsValue? cs with
  | some v => if v < Nat.pow 2 bits then some v else none
  | none => none

/-- A signed numeral of `bits` bits: an optional sign and digits, from `-2 ^ (bits - 1)` to
`2 ^ (bits - 1) - 1`. -/
def parseSigned? (bits : Nat) (s : String) : Option Int :=
  let (neg, cs) := match s.toList with
    | '+' :: rest => (false, rest)
    | '-' :: rest => (true, rest)
    | cs => (false, cs)
  match digitsValue? cs with
  | some v =>
    if neg then (if v ≤ Nat.pow 2 (bits - 1) then some (-(v : Int)) else none)
    else (if v < Nat.pow 2 (bits - 1) then some (v : Int) else none)
  | none => none

/-- The decimal text of an integer, with a minus sign when it is negative. -/
def intText (i : Int) : String :=
  match i with
  | .ofNat n => toString n
  | .negSucc n => "-" ++ toString (n + 1)

example : parseUnsigned? 64 "+5" = some 5 := by decide
example : parseUnsigned? 64 "1_000" = none := by decide
example : parseSigned? 64 "-9223372036854775808" = some (-9223372036854775808) := by decide

end BrokerClient.Text
