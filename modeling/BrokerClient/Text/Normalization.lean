import BrokerClient.Text.CombiningClass
import BrokerClient.Text.Decomposition
/-!
Normalization form C: every code point is decomposed canonically, the combining marks after each
starter are put in the order of their combining classes, and then each mark that no mark between
blocks is composed with the starter before it whenever the two form a primary composite.

Decomposition recurses on a depth bound (no canonical decomposition nests deeper than three
levels); ordering and composition run once over the code points.
-/

namespace BrokerClient.Text

/-- The deepest nesting of canonical decompositions. -/
def decompositionDepth : Nat := 3

/-- The full canonical decomposition of a code point, taken `depth` levels deep. -/
def decomposeChar : Nat → Char → List Char
  | 0, c => [c]
  | depth + 1, c =>
    match canonicalParts? c with
    | some parts => parts.flatMap (decomposeChar depth)
    | none => [c]

/-- Marks in the order of their combining classes, equal classes in their order of writing. -/
def sortMarks (marks : List Char) : List Char :=
  marks.mergeSort fun a b => combiningClass a ≤ combiningClass b

/-- Puts each run of combining marks in canonical order; `pending` holds the marks of the current
run, last first. -/
def canonicalOrder (pending : List Char) : List Char → List Char
  | [] => sortMarks pending.reverse
  | c :: rest =>
    if combiningClass c == 0 then sortMarks pending.reverse ++ c :: canonicalOrder [] rest
    else canonicalOrder (c :: pending) rest

/-- Composition so far: the settled code points and, after the last starter, the marks that did
not compose with it, both last first. -/
structure Composer where
  settled : List Char
  starter : Option Char
  trail : List Char

/-- Takes the next code point: it composes with the starter when no mark of the trail blocks it
(the trail is empty, or its last mark has a lower class) and the two form a primary composite;
otherwise a starter begins a new trail and a mark joins the trail. -/
def Composer.push (s : Composer) (c : Char) : Composer :=
  match s.starter with
  | none =>
    if combiningClass c == 0 then { s with starter := some c }
    else { s with settled := c :: s.settled }
  | some first =>
    let unblocked :=
      match s.trail with
      | [] => true
      | last :: _ => combiningClass last < combiningClass c
    match (if unblocked then composePair? first c else none) with
    | some composite => { s with starter := some composite }
    | none =>
      if combiningClass c == 0 then
        { settled := s.trail ++ first :: s.settled, starter := some c, trail := [] }
      else { s with trail := c :: s.trail }

/-- The code points of a composition, in order. -/
def Composer.result (s : Composer) : List Char :=
  (s.trail ++ s.starter.toList ++ s.settled).reverse

/-- Composes a decomposed text in canonical order. -/
def compose (cs : List Char) : List Char :=
  (cs.foldl Composer.push ⟨[], none, []⟩).result

/-- The text in normalization form C. -/
def nfc (cs : List Char) : List Char :=
  compose (canonicalOrder [] (cs.flatMap (decomposeChar decompositionDepth)))

end BrokerClient.Text
