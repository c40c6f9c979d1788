import BrokerClient.Text.DomainMapping
import BrokerClient.Text.Normalization
import BrokerClient.Text.BidiClass
import BrokerClient.Text.Mark
import BrokerClient.Text.JoiningType
import BrokerClient.Text.Utf8
import BrokerClient.Endpoint.Punycode
/-!
Domains of urls with a special scheme, turned into their ASCII form the way international domain
names are processed for urls: nontransitional, without the STD3 restrictions, with the joiner and
right-to-left rules, and with the code points a url may not hold in a host refused.

A domain is mapped code point by code point, put in normalization form C and cut into labels at
its dots. A label written `xn--` must be ASCII and valid Punycode of a label that is not all ASCII,
is in normalization form C and holds only valid code points. No label may start with a combining
mark, a joiner must stand where its context rule allows it, and when any label holds a
right-to-left character every label must follow the rule for right-to-left labels. A label that
is not ASCII has at most 1000 code points; an ASCII label has no limit. The ASCII form writes each
label that is not ASCII as `xn--` and its Punycode.
-/

namespace BrokerClient.Endpoint

open Text

/-- Bytes of a host with every `%` and two hexadecimal digits replaced by the byte they name. -/
def percentDecode : List UInt8 → List UInt8
  | 0x25 :: a :: b :: rest =>
    match Text.Utf8.hexValue? (Char.ofNat a.toNat), Text.Utf8.hexValue? (Char.ofNat b.toNat) with
    | some hi, some lo => (16 * hi + lo).toUInt8 :: percentDecode rest
    | _, _ => 0x25 :: percentDecode (a :: b :: rest)
  | c :: rest => c :: percentDecode rest
  | [] => []

/-- The ASCII characters a domain may not hold: controls, space, DEL and the url delimiters. -/
def isDeniedAscii (c : Char) : Bool :=
  c.toNat ≤ 0x20 || c.toNat == 0x7F || "%#/:<>?@[\\]^|".toList.contains c

/-- The domain with every code point mapped, or `none` when one is disallowed. -/
def mapDomain (domain : List Char) : Option (List Char) :=
  (domain.mapM mapDomainChar).map List.flatten

/-- The labels of a domain: the texts between its dots. -/
def labels (domain : List Char) : List (List Char) :=
  domain.splitOn '.'

/-! ### Labels -/

/-- Whether a text is all ASCII. -/
def isAscii (cs : List Char) : Bool := cs.all (·.toNat < 0x80)

/-- A mapped label in code points: an `xn--` label decoded, which must be valid Punycode of a
label that is not all ASCII, is in normalization form C and holds valid code points only; any
other label as it is. -/
def unicodeLabel (label : List Char) : Option (List Char) :=
  match label with
  | 'x' :: 'n' :: '-' :: '-' :: rest =>
    if !isAscii rest then none
    else do
      let decoded ← Punycode.decode rest
      if isAscii decoded then none
      else if nfc decoded == decoded && decoded.all isDomainValid then some decoded
      else none
  | _ => some label

/-- Whether a label starts with a combining mark. -/
def startsWithMark : List Char → Bool
  | c :: _ => isMark c
  | [] => false

/-- Whether the first code point of a text, skipping transparent ones, joins on its left side
toward a following code point (left or dual joining). -/
def joinsForward (before : List Char) : Bool :=
  match before.dropWhile (joiningType · == .transparent) with
  | c :: _ => joiningType c == .left || joiningType c == .dual
  | [] => false

/-- Whether the first code point of a text, skipping transparent ones, joins toward a preceding
code point (right or dual joining). -/
def joinsBackward (after : List Char) : Bool :=
  match after.dropWhile (joiningType · == .transparent) with
  | c :: _ => joiningType c == .right || joiningType c == .dual
  | [] => false

/-- The zero width non-joiner. -/
def nonJoiner : Char := Char.ofNat 0x200C

/-- The zero width joiner. -/
def joiner : Char := Char.ofNat 0x200D

/-- Whether every joiner of a label stands where its context rule allows it; `before` holds the
code points already passed, nearest first. A joiner must follow a virama, except that a
non-joiner may also stand between a code point that joins forward and one that joins backward,
with transparent code points around it. -/
def joinersFit : List Char → List Char → Bool
  | _, [] => true
  | before, c :: after =>
    let fits :=
      if c == nonJoiner || c == joiner then
        match before with
        | b :: _ =>
          isVirama b || (c == nonJoiner && joinsForward before && joinsBackward after)
        | [] => false
      else true
    fits && joinersFit (c :: before) after

/-! ### Right-to-left labels -/

/-- Whether a code point makes a domain one with right-to-left text. -/
def isRightToLeft (c : Char) : Bool :=
  match bidiClass c with
  | .rightToLeft | .arabicNumber => true
  | _ => false

/-- The classes a left-to-right label may hold. -/
def leftToRightAllows : BidiClass → Bool
  | .leftToRight | .europeanNumber | .neutral | .nonspacingMark => true
  | _ => false

/-- The classes a right-to-left label may hold. -/
def rightToLeftAllows : BidiClass → Bool
  | .rightToLeft | .arabicNumber | .europeanNumber | .neutral | .nonspacingMark => true
  | _ => false

/-- The class of the last code point of a label that is not a nonspacing mark. -/
def lastClass (label : List Char) : Option BidiClass :=
  (label.reverse.map bidiClass).find? (· != .nonspacingMark)

/-- Whether a label follows the rule of labels in a domain with right-to-left text: it starts
with a left-to-right or right-to-left letter; a left-to-right label holds only left-to-right
letters, European numbers, separators, terminators, neutrals and marks, and ends in a letter or
number of its direction; a right-to-left label also admits Arabic numbers, ends in a letter or
number, and does not mix European and Arabic numbers. The empty label passes. -/
def bidiLabelFits (label : List Char) : Bool :=
  match label with
  | [] => true
  | first :: _ =>
    let classes := label.map bidiClass
    match bidiClass first with
    | .leftToRight =>
      classes.all leftToRightAllows &&
        (match lastClass label with
          | some .leftToRight | some .europeanNumber | none => true
          | _ => false)
    | .rightToLeft =>
      classes.all rightToLeftAllows &&
        (match lastClass label with
          | some .rightToLeft | some .europeanNumber | some .arabicNumber => true
          | _ => false) &&
        !(classes.contains .europeanNumber && classes.contains .arabicNumber)
    | _ => false

/-! ### Domains -/

/-- The most code points a label that is not ASCII may have. -/
def labelLimit : Nat := 1000

/-- Whether a label is too long to be written in ASCII. -/
def isOverlong (label : List Char) : Bool := !isAscii label && labelLimit < label.length

/-- The ASCII form of a label in code points. -/
def asciiLabel (label : List Char) : List Char :=
  if isAscii label then label
  else "xn--".toList ++ Punycode.encode label

/-- The ASCII form of a domain, or `none` when the domain is refused. -/
def domainToAscii (domain : List Char) : Option (List Char) := do
  let normal := nfc (← mapDomain domain)
  if normal.any isDeniedAscii then none
  let parts ← (labels normal).mapM unicodeLabel
  if parts.any startsWithMark then none
  if !(parts.all (joinersFit [])) then none
  if parts.any (·.any isRightToLeft) && !(parts.all bidiLabelFits) then none
  if parts.any isOverlong then none
  pure (['.'].intercalate (parts.map asciiLabel))

end BrokerClient.Endpoint
