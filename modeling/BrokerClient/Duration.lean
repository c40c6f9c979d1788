/-!
Durations of whole milliseconds and their text. The text names the largest unit that the span
reaches: nothing at all is `0ns`, less than a second is a count of `ms`, and a second or more is
seconds with the milliseconds as a decimal fraction, without trailing zeros (`1.5s`, `60s`).
-/

namespace BrokerClient

/-- A span of time in whole milliseconds. -/
structure Duration where
  /-- The length in milliseconds. -/
  millis : Nat
  deriving DecidableEq, Repr, Inhabited

namespace Duration

/-- The digits of a fraction of a second given in milliseconds, without trailing zeros. -/
def fractionDigits (ms : Nat) : List Char :=
  let ds := [ms / 100, ms / 10 % 10, ms % 10].map fun d => Char.ofNat ('0'.toNat + d)
  (ds.reverse.dropWhile (· == '0')).reverse

/-- The text of a duration: `0ns`, `{n}ms` below a second, otherwise seconds with the
fraction written out to its last nonzero digit. -/
def text (d : Duration) : String :=
  if d.millis = 0 then "0ns"
  else if d.millis < 1000 then toString d.millis ++ "ms"
  else
    let frac := fractionDigits (d.millis % 1000)
    toString (d.millis / 1000) ++ (if frac.isEmpty then "" else "." ++ String.ofList frac) ++ "s"

example : text ⟨0⟩ = "0ns" ∧ text ⟨999⟩ = "999ms" ∧ text ⟨1001⟩ = "1.001s" := by decide
example : text ⟨1500⟩ = "1.5s" ∧ text ⟨60000⟩ = "60s" := by decide

end Duration

end BrokerClient
