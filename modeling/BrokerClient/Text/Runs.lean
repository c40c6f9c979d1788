/-!
Unicode properties as runs: the code points from one start up to the next start share a value.
A table is written as lines of items, each item a start in uppercase hexadecimal followed by the
text of its value, and is read once into an array that a lookup searches by halving. A table whose
items stand for single code points is read the same way and looked up by exact start.
-/

namespace BrokerClient.Text

/-- A property given by runs: starts in increasing order, each with the value of the code points
from it up to the next start. -/
structure Runs (α : Type) where
  runs : Array (Nat × α)

namespace Runs

variable {α : Type}

/-- The value of an uppercase hexadecimal digit. -/
def upperHexDigit? (c : Char) : Option Nat :=
  if '0' ≤ c ∧ c ≤ '9' then some (c.toNat - '0'.toNat)
  else if 'A' ≤ c ∧ c ≤ 'F' then some (c.toNat - 'A'.toNat + 10)
  else none

/-- The number written by uppercase hexadecimal digits. -/
def upperHex (digits : List Char) : Nat :=
  digits.foldl (fun n c => 16 * n + (upperHexDigit? c).getD 0) 0

/-- The number written by a nonempty text of uppercase hexadecimal digits. -/
def upperHex? (s : String) : Option Nat :=
  let cs := s.toList
  if !cs.isEmpty && cs.all (fun c => (upperHexDigit? c).isSome) then some (upperHex cs) else none

/-- An item split into its start and the text of its value. -/
def item? (s : String) : Option (Nat × String) :=
  let cs := s.toList
  let digits := cs.takeWhile fun c => (upperHexDigit? c).isSome
  if digits.isEmpty then none else some (upperHex digits, String.ofList (cs.drop digits.length))

/-- Reads a table whose items are separated by spaces; an item whose value does not read is
left out. -/
def ofLines (value? : String → Option α) (lines : List String) : Runs α :=
  ⟨((lines.flatMap fun l => l.splitOn " ").filterMap fun it => do
      let (n, v) ← item? it
      pure (n, ← value? v)).toArray⟩

/-- The index of the last run in `[lo, hi)` that starts at or before `n`, or `lo` when none
after it does. -/
def findRun (t : Runs α) (n lo hi : Nat) : Nat :=
  if _h : lo + 1 < hi then
    let mid := (lo + hi) / 2
    if ((t.runs[mid]?.map (·.1)).getD 0) ≤ n then findRun t n mid hi else findRun t n lo mid
  else lo
termination_by hi - lo

/-- The value of a code point, none below the first start. -/
def get? (t : Runs α) (n : Nat) : Option α :=
  match t.runs[0]? with
  | some (s, _) => if n < s then none else (t.runs[t.findRun n 0 t.runs.size]?).map (·.2)
  | none => none

/-- The value of the item that starts at `n` itself, for a table whose items are single keys. -/
def at? (t : Runs α) (n : Nat) : Option α :=
  match t.runs[t.findRun n 0 t.runs.size]? with
  | some (s, v) => if s == n then some v else none
  | none => none

end Runs

end BrokerClient.Text
