/-!
Punycode (RFC 3492), the encoding of a label of code points into letters, digits and hyphens
that `xn--` labels of domain names carry. The code points below U+0080 are copied first and
closed by a hyphen when there are any; the others follow in increasing order, each as the
distance from the last insertion written as a variable-length number in base 36 whose digit
thresholds adapt to the distances seen so far.

The decoder works in 32-bit words: a number, a weight or a position that leaves the word is an
error, and so is a text longer than 2000 characters. A hyphen that stands first and alone delimits
no basic part, so the decoder reads it as a digit and fails.

Each loop has a measure: the bias adaptation divides its delta by 35, a number written shrinks
by at least one digit's threshold, the encoder runs once for each distinct code point above the
basic ones, and the decoder consumes at least one digit per code point.
-/

namespace BrokerClient.Endpoint.Punycode

/-! ### Digits and thresholds -/

/-- The digit of a value below 36: `a` to `z` for 0 to 25, `0` to `9` for 26 to 35. -/
def digitChar (d : Nat) : Char :=
  if d < 26 then Char.ofNat ('a'.toNat + d) else Char.ofNat ('0'.toNat + d - 26)

/-- The value of a digit, capital letters included. -/
def digitValue? (c : Char) : Option Nat :=
  if 'a' ≤ c ∧ c ≤ 'z' then some (c.toNat - 'a'.toNat)
  else if 'A' ≤ c ∧ c ≤ 'Z' then some (c.toNat - 'A'.toNat)
  else if '0' ≤ c ∧ c ≤ '9' then some (c.toNat - '0'.toNat + 26)
  else none

/-- The threshold of the digit at position `k` under a bias: between 1 and 26. -/
def threshold (k bias : Nat) : Nat :=
  if k ≤ bias then 1 else if bias + 26 ≤ k then 26 else k - bias

theorem threshold_pos (k bias : Nat) : 1 ≤ threshold k bias := by
  unfold threshold
  split
  · omega
  · split <;> omega

theorem threshold_le (k bias : Nat) : threshold k bias ≤ 26 := by
  unfold threshold
  split
  · omega
  · split <;> omega

/-- Divides a delta by 35 until it is at most 455, counting 36 for each division. -/
def scaleDown (delta k : Nat) : Nat × Nat :=
  if 455 < delta then scaleDown (delta / 35) (k + 36) else (delta, k)
termination_by delta
decreasing_by omega

/-- The bias after a delta, over `points` code points so far, damped on the first delta. -/
def adapt (delta points : Nat) (first : Bool) : Nat :=
  let d := if first then delta / 700 else delta / 2
  let (d, k) := scaleDown (d + d / points) 0
  k + 36 * d / (d + 38)

/-! ### Decoding -/

/-- The bound of the decoder's words. -/
def wordBound : Nat := Nat.pow 2 32

/-- Reads one variable-length number that adds to `i` with weight `w` from position `k`:
the new value and the rest of the text, or `none` when the value or the next weight leaves the
word. -/
def readNumber (bias : Nat) : List Char → Nat → Nat → Nat → Option (Nat × List Char)
  | [], _, _, _ => none
  | c :: rest, k, w, i =>
    match digitValue? c with
    | none => none
    | some d =>
      let i' := i + d * w
      if wordBound ≤ i' then none
      else if d < threshold k bias then some (i', rest)
      else
        let w' := w * (36 - threshold k bias)
        if wordBound ≤ w' then none else readNumber bias rest (k + 36) w' i'

theorem readNumber_shorter : ∀ (bias : Nat) (s : List Char) (k w i : Nat) (r : Nat × List Char),
    readNumber bias s k w i = some r → r.2.length < s.length
  | _, [], _, _, _, _, h => by simp [readNumber] at h
  | bias, c :: rest, k, w, i, r, h => by
    rw [readNumber] at h
    split at h
    · simp at h
    · dsimp only at h
      split at h
      · simp at h
      · split at h
        · rw [← Option.some.inj h]; simp
        · split at h
          · simp at h
          · have := readNumber_shorter bias rest (k + 36) _ _ r h
            simp only [List.length_cons]; omega

/-- Inserts the code points of the extended part one by one into `out`. A code point past
U+10FFFF or a surrogate is refused. -/
def decodeFrom (bias n i : Nat) (out : List Char) : List Char → Option (List Char)
  | [] => some out
  | c :: rest =>
    match h : readNumber bias (c :: rest) 36 1 i with
    | none => none
    | some (i', more) =>
      let points := out.length + 1
      let n' := n + i' / points
      let pos := i' % points
      if n' < 0xD800 ∨ (0xDFFF < n' ∧ n' < 0x110000) then
        decodeFrom (adapt (i' - i) points (i == 0)) n' (pos + 1)
          (out.insertIdx pos (Char.ofNat n')) more
      else none
termination_by s => s.length
decreasing_by
  have := readNumber_shorter bias (c :: rest) 36 1 i (i', more) h
  simpa using this

/-- The basic part before the last hyphen and the extended part after it. Without a hyphen, or
with the last one first, nothing is basic and all is extended. -/
def splitLastHyphen (s : List Char) : List Char × List Char :=
  match s.reverse.span (· != '-') with
  | (tail, _ :: head@(_ :: _)) => (head.reverse, tail.reverse)
  | _ => ([], s)

/-- The longest text the decoder reads. -/
def decodeLimit : Nat := 2000

/-- Decodes the text of a label after `xn--`, or `none` when it is not valid Punycode. -/
def decode (s : List Char) : Option (List Char) :=
  if decodeLimit < s.length then none
  else
    let (basic, extended) := splitLastHyphen s
    if basic.any (fun c => 0x80 ≤ c.toNat) then none
    else decodeFrom 72 128 0 basic extended

/-! ### Encoding -/

/-- Writes `q` as a variable-length number from position `k`. -/
def writeNumber (bias k q : Nat) : List Char :=
  let t := threshold k bias
  if q < t then [digitChar q]
  else digitChar (t + (q - t) % (36 - t)) :: writeNumber bias (k + 36) ((q - t) / (36 - t))
termination_by q
decreasing_by
  have _h1 := threshold_pos k bias
  have _h2 := threshold_le k bias
  calc (q - threshold k bias) / (36 - threshold k bias)
      ≤ q - threshold k bias := Nat.div_le_self _ _
    _ < q := by omega

/-- The state of the encoder: the digits so far, the pending delta, the bias and the number of
code points handled. -/
structure Encoder where
  out : List Char
  delta : Nat
  bias : Nat
  handled : Nat

/-- Passes one code point of the label for the code point `m` being inserted: a smaller one
counts in the delta, `m` itself writes the delta. -/
def Encoder.pass (basicCount m : Nat) (e : Encoder) (c : Char) : Encoder :=
  if c.toNat < m then { e with delta := e.delta + 1 }
  else if c.toNat == m then
    { out := e.out ++ writeNumber e.bias 36 e.delta, delta := 0,
      bias := adapt e.delta (e.handled + 1) (e.handled == basicCount),
      handled := e.handled + 1 }
  else e

/-- Inserts the code points `ms`, in increasing order, each after the last inserted `n`. -/
def encodeFrom (label : List Char) (basicCount : Nat) : List Nat → Nat → Encoder → Encoder
  | [], _, e => e
  | m :: ms, n, e =>
    let e := { e with delta := e.delta + (m - n) * (e.handled + 1) }
    let e := label.foldl (Encoder.pass basicCount m) e
    encodeFrom label basicCount ms (m + 1) { e with delta := e.delta + 1 }

/-- The code points at or above U+0080 of a label, increasing and without repeats. -/
def extendedPoints (label : List Char) : List Nat :=
  ((label.map Char.toNat).filter (0x80 ≤ ·)).mergeSort (· ≤ ·) |>.eraseDups

/-- Encodes a label: its basic code points, a hyphen when there are any, then the rest. -/
def encode (label : List Char) : List Char :=
  let basic := label.filter (·.toNat < 0x80)
  let e := encodeFrom label basic.length (extendedPoints label) 128
    { out := [], delta := 0, bias := 72, handled := basic.length }
  basic ++ (if basic.isEmpty then [] else ['-']) ++ e.out

example : encode "bücher".toList = "bcher-kva".toList := by decide +kernel
example : decode "bcher-kva".toList = some "bücher".toList := by decide +kernel
example : decode "-tda".toList = none := by decide +kernel

end BrokerClient.Endpoint.Punycode
