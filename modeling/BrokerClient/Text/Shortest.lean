/-!
The shortest decimal text of a double. A finite double is `m · 2 ^ q`; the reals that round to
it form an interval around it, closed when `m` is even. Its shortest text has the fewest
significant digits of any decimal in that interval, and of two such decimals the nearer one. The
text is laid out by the power of ten of its leading digit: positional, with at least one digit
after the point, while that power lies from -5 to 15 and no more than sixteen places are
written; otherwise the digits with a point after the first, `e` and that power with its sign.
-/

namespace BrokerClient.Text

/-- A double as a sign, an integer mantissa and a power of two, when it is finite. -/
structure Binary where
  negative : Bool
  mantissa : Nat
  exponent : Int
  /-- Whether the double below is nearer than the double above: the mantissa is a power of two
  that is not subnormal. -/
  narrowBelow : Bool

/-- The parts of a finite double, or `none` for an infinity or a NaN. -/
def Binary.ofFloat (x : Float) : Option Binary :=
  let bits : Nat := x.toBits.toNat
  let negative := bits / Nat.pow 2 63 == 1
  let e : Nat := bits / Nat.pow 2 52 % Nat.pow 2 11
  let f : Nat := bits % Nat.pow 2 52
  if e == 2047 then none
  else if e == 0 then some ⟨negative, f, -1074, false⟩
  else some ⟨negative, f + Nat.pow 2 52, (e : Int) - 1075, f == 0 && e > 1⟩

/-- `a · 2 ^ s` compared with `b · 10 ^ t`, all exact. -/
def compareScaled (a : Nat) (s : Int) (b : Nat) (t : Int) : Ordering :=
  let l := a * Nat.pow 2 s.toNat * Nat.pow 10 (-t).toNat
  let r := b * Nat.pow 10 t.toNat * Nat.pow 2 (-s).toNat
  compare l r

/-- The decimal exponent `E` with `10 ^ E ≤ m · 2 ^ q < 10 ^ (E + 1)`, for `m > 0`, searched
downwards from `hi` within `fuel` steps. -/
def decimalExponent (m : Nat) (q : Int) (hi : Int) : Nat → Int
  | 0 => hi
  | fuel + 1 =>
    if compareScaled m q 1 hi != .lt then hi else decimalExponent m q (hi - 1) fuel

/-- Whether `d · 10 ^ k` lies within the rounding interval of `m · 2 ^ q`, whose ends are
`(2m - 1) · 2 ^ (q - 1)` (or `(4m - 1) · 2 ^ (q - 2)` when narrow below) and
`(2m + 1) · 2 ^ (q - 1)`, taken when `m` is even. -/
def inInterval (b : Binary) (d : Nat) (k : Int) : Bool :=
  let closed := b.mantissa % 2 == 0
  let lowOk :=
    let c := if b.narrowBelow then compareScaled (4 * b.mantissa - 1) (b.exponent - 2) d k
      else compareScaled (2 * b.mantissa - 1) (b.exponent - 1) d k
    c == .lt || (closed && c == .eq)
  let highOk :=
    let c := compareScaled (2 * b.mantissa + 1) (b.exponent - 1) d k
    c == .gt || (closed && c == .eq)
  lowOk && highOk

/-- The largest `d` with `d · 10 ^ k ≤ m · 2 ^ q`. -/
def floorAt (m : Nat) (q : Int) (k : Int) : Nat :=
  let num := m * Nat.pow 2 q.toNat * Nat.pow 10 (-k).toNat
  let den := Nat.pow 2 (-q).toNat * Nat.pow 10 k.toNat
  num / den

/-- The shortest digits of a positive finite double and the power of ten of the last digit,
trying one to seventeen significant digits. -/
def shortestDigits (b : Binary) : Nat × Int :=
  let e := decimalExponent b.mantissa b.exponent 310 700
  let rec go : Nat → Nat → Nat × Int
    | 0, _ => (b.mantissa, 0)
    | fuel + 1, p =>
      let k := e - p + 1
      let lo := floorAt b.mantissa b.exponent k
      let hi := lo + 1
      let loIn := inInterval b lo k
      let hiIn := inInterval b hi k
      if loIn && hiIn then
        -- the nearer of the two; the value lies between them
        match compareScaled b.mantissa (b.exponent + 1) (lo + hi) k with
        | .lt => (lo, k)
        | .gt => (hi, k)
        | .eq => (if lo % 2 == 0 then lo else hi, k)
      else if loIn then (lo, k)
      else if hiIn then (hi, k)
      else go fuel (p + 1)
  go 17 1

/-- Digits without trailing zeros, the power of ten raised to match. -/
def stripZeros : Nat → Nat × Int → Nat × Int
  | 0, dk => dk
  | fuel + 1, (d, k) => if d % 10 == 0 && d > 0 then stripZeros fuel (d / 10, k + 1) else (d, k)

/-- Digits `d`, without trailing zeros, times `10 ^ k`. With `n` digits the leading one stands
for `10 ^ (n + k - 1)`: whole numbers of at most sixteen places get `.0`, a point inside the
first sixteen places splits the digits, up to four zeros may follow `0.`, and every other value
is written as a mantissa with one digit before its point (none after a lone digit) and an
exponent that always carries its sign. -/
def layout (d : Nat) (k : Int) : String :=
  let ds := (toString d).toList
  let lead : Int := ds.length + k
  if 0 ≤ k ∧ lead ≤ 16 then
    String.ofList ds ++ String.ofList (List.replicate k.toNat '0') ++ ".0"
  else if 0 < lead ∧ lead ≤ 16 then
    String.ofList (ds.take lead.toNat) ++ "." ++ String.ofList (ds.drop lead.toNat)
  else if -5 < lead ∧ lead ≤ 0 then
    "0." ++ String.ofList (List.replicate (-lead).toNat '0') ++ String.ofList ds
  else
    let mantissa := match ds with
      | c :: rest@(_ :: _) => c :: '.' :: rest
      | _ => ds
    String.ofList mantissa ++ "e" ++ (if 1 ≤ lead then "+" else "") ++ toString (lead - 1)

example : layout 15 (-1) = "1.5" ∧ layout 1 5 = "100000.0" ∧ layout 1 (-5) = "0.00001" ∧
    layout 1 (-6) = "1e-6" ∧ layout 18446744073709552 3 = "1.8446744073709552e+19" ∧
    layout 1 15 = "1000000000000000.0" ∧ layout 1 16 = "1e+16" := by decide

/-- The shortest text of a finite double, with a minus sign when it is negative (also for
negative zero, written `-0.0`); `none` for an infinity or a NaN. -/
def floatText (x : Float) : Option String :=
  match Binary.ofFloat x with
  | none => none
  | some b =>
    let sign := if b.negative then "-" else ""
    if b.mantissa == 0 then some (sign ++ "0.0")
    else
      let (d, k) := stripZeros 20 (shortestDigits b)
      some (sign ++ layout d k)

end BrokerClient.Text
