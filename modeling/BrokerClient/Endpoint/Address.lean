/-!
Numeric hosts of urls. A host that ends in a number is an IPv4 address: up to four dot-separated
numbers, each decimal, octal after a leading zero or hexadecimal after `0x`, the last filling
the bytes that the others leave. A host in brackets is an IPv6 address: up to eight groups of
hexadecimal digits with at most one `::`, optionally ending in a dotted IPv4 address. These
functions say whether a text is such an address.
-/

namespace BrokerClient.Endpoint

/-! ### IPv4 -/

/-- The value of one part of an IPv4 address: `0x` or `0X` for hexadecimal, a leading zero for
octal, decimal otherwise; `some none` when it is a number too large for 32 bits, `none` when it
is no number. -/
def ipv4Number (s : List Char) : Option (Option Nat) :=
  if s.isEmpty then none
  else
    let (radix, digits) := match s with
      | '0' :: 'x' :: rest => (16, rest)
      | '0' :: 'X' :: rest => (16, rest)
      | '0' :: rest@(_ :: _) => (8, rest)
      | _ => (10, s)
    if digits.isEmpty then some (some 0)
    else
      let value? (c : Char) : Option Nat :=
        if radix == 8 then (if '0' ≤ c ∧ c ≤ '7' then some (c.toNat - 48) else none)
        else if radix == 10 then (if c.isDigit then some (c.toNat - 48) else none)
        else if c.isDigit then some (c.toNat - 48)
        else if 'a' ≤ c ∧ c ≤ 'f' then some (c.toNat - 87)
        else if 'A' ≤ c ∧ c ≤ 'F' then some (c.toNat - 55)
        else none
      if digits.all (fun c => (value? c).isSome) then
        let n := digits.foldl (fun v c => radix * v + (value? c).getD 0) 0
        some (if n < Nat.pow 2 32 then some n else none)
      else none

/-- Whether a host ends in a number: its last part, or the one before a final empty part, is
all digits or reads as an IPv4 number. -/
def endsInNumber (host : List Char) : Bool :=
  let parts := (String.ofList host).splitOn "."
  let last := match parts.reverse with
    | "" :: before :: _ => some before
    | "" :: [] => none
    | l :: _ => some l
    | [] => none
  match last with
  | none => false
  | some l =>
    (!l.isEmpty && l.toList.all Char.isDigit) || (ipv4Number l.toList).isSome

/-- Whether a host is a valid IPv4 address. -/
def isIpv4 (host : List Char) : Bool :=
  let parts := (String.ofList host).splitOn "."
  let parts := if parts.getLast? == some "" then parts.dropLast else parts
  if parts.length > 4 || parts.isEmpty then false
  else
    let numbers := parts.map fun p => ipv4Number p.toList
    if numbers.all fun n => match n with
      | some (some _) => true
      | _ => false
    then
      let values := numbers.map fun n => (n.getD none).getD 0
      let last := values.getLast?.getD 0
      let front := values.dropLast
      last < Nat.pow 2 (8 * (4 - front.length)) && front.all (· ≤ 255)
    else false

/-! ### IPv6 -/

/-- The value of a hexadecimal digit. -/
def hexValue? (c : Char) : Option Nat :=
  if c.isDigit then some (c.toNat - 48)
  else if 'a' ≤ c ∧ c ≤ 'f' then some (c.toNat - 87)
  else if 'A' ≤ c ∧ c ≤ 'F' then some (c.toNat - 55)
  else none

/-- The leading hexadecimal digits, at most four, and what follows them. -/
def hexGroup (s : List Char) : List Char × List Char :=
  let ds := (s.take 4).takeWhile fun c => (hexValue? c).isSome
  (ds, s.drop ds.length)

/-- Whether the rest of an address is a dotted IPv4 address of four decimal numbers, each at
most 255 and without a leading zero. -/
def isDottedQuad (s : List Char) : Bool :=
  let parts := (String.ofList s).splitOn "."
  parts.length == 4 && parts.all fun p =>
    let cs := p.toList
    !cs.isEmpty && cs.all Char.isDigit && (cs.length == 1 || cs.head? != some '0') &&
      cs.foldl (fun v c => 10 * v + (c.toNat - 48)) 0 ≤ 255

/-- Reads the groups of an IPv6 address: `pieces` groups read so far, whether a `::` was seen;
answers whether the address is valid. -/
def ipv6Groups : Nat → List Char → Nat → Bool → Bool
  | 0, _, _, _ => false
  | fuel + 1, s, pieces, compressed =>
    match s with
    | [] => compressed || pieces == 8
    | c :: rest =>
      if pieces == 8 then false
      else if c == ':' then
        if compressed then false else ipv6Groups fuel rest (pieces + 1) true
      else
        let (ds, after) := hexGroup s
        match after with
        | '.' :: _ =>
          if ds.isEmpty || pieces > 6 then false
          else isDottedQuad s && (compressed || pieces + 2 == 8)
        | ':' :: more =>
          if more.isEmpty then false else ipv6Groups fuel more (pieces + 1) compressed
        | [] => ipv6Groups fuel [] (pieces + 1) compressed
        | _ :: _ => false

/-- Whether the text between brackets is a valid IPv6 address. -/
def isIpv6 (s : List Char) : Bool :=
  match s with
  | ':' :: ':' :: rest => ipv6Groups (rest.length + 2) rest 1 true
  | ':' :: _ => false
  | _ => s.length ≥ 2 && ipv6Groups (s.length + 2) s 0 false

end BrokerClient.Endpoint
