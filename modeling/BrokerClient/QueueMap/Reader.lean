import BrokerClient.QueueMap
import BrokerClient.Text.Escaped
import BrokerClient.Text.Decimal
import BrokerClient.Text.Shortest
/-!
Reading a queue map back from JSON, with the diagnostics of a strict streaming reader. The
reader walks the bytes once. Where it stops it names the fault and the place: the line, counted
from one, and the column, which is the number of bytes read on that line. A fault found on the
byte ahead is placed as if that byte were read; a value of the wrong kind is placed after the
value. A string whose bytes, escapes decoded, are not UTF-8 is placed at its closing quote,
moved back over the decoded bytes from the first invalid one on, and then one byte on. Blanks
are space, tab, line feed and carriage return. A key given twice keeps its last value; names
given twice are one.
-/

namespace BrokerClient.QueueMap

/-! ### Faults -/

/-- A value that stands where another kind was expected. -/
inductive Found where
  | null
  | bool (b : Bool)
  | unsigned (n : Nat)
  | signed (i : Int)
  | float (text : String)
  | string (s : String)
  | sequence
  | map
  deriving DecidableEq, Repr

/-- How a found value is named in a diagnostic. -/
def Found.text : Found → String
  | .null => "null"
  | .bool b => "boolean `" ++ toString b ++ "`"
  | .unsigned n => "integer `" ++ toString n ++ "`"
  | .signed i => "integer `" ++ Text.intText i ++ "`"
  | .float t => "floating point `" ++ t ++ "`"
  | .string s => "string " ++ Text.quoted s
  | .sequence => "sequence"
  | .map => "map"

/-- The kinds of value a queue map is made of. -/
inductive Shape where
  | map
  | sequence
  | string
  deriving DecidableEq, Repr

/-- How an expected kind is named in a diagnostic. -/
def Shape.text : Shape → String
  | .map => "a map"
  | .sequence => "a sequence"
  | .string => "a string"

/-- Why reading stopped. -/
inductive Fault where
  | eofList
  | eofObject
  | eofString
  | eofValue
  | expectedColon
  | expectedListCommaOrEnd
  | expectedObjectCommaOrEnd
  | expectedIdent
  | expectedValue
  | invalidEscape
  | invalidNumber
  | numberOutOfRange
  | invalidCodePoint
  | controlCharacter
  | keyNotString
  | loneLeadingSurrogate
  | trailingComma
  | trailingCharacters
  | unexpectedEndOfHexEscape
  | invalidType (found : Found) (expected : Shape)
  deriving DecidableEq, Repr

/-- The text of a fault. -/
def Fault.text : Fault → String
  | .eofList => "EOF while parsing a list"
  | .eofObject => "EOF while parsing an object"
  | .eofString => "EOF while parsing a string"
  | .eofValue => "EOF while parsing a value"
  | .expectedColon => "expected `:`"
  | .expectedListCommaOrEnd => "expected `,` or `]`"
  | .expectedObjectCommaOrEnd => "expected `,` or `\x7d`"
  | .expectedIdent => "expected ident"
  | .expectedValue => "expected value"
  | .invalidEscape => "invalid escape"
  | .invalidNumber => "invalid number"
  | .numberOutOfRange => "number out of range"
  | .invalidCodePoint => "invalid unicode code point"
  | .controlCharacter => "control character (\\u0000-\\u001F) found while parsing a string"
  | .keyNotString => "key must be a string"
  | .loneLeadingSurrogate => "lone leading surrogate in hex escape"
  | .trailingComma => "trailing comma"
  | .trailingCharacters => "trailing characters"
  | .unexpectedEndOfHexEscape => "unexpected end of hex escape"
  | .invalidType found expected =>
    "invalid type: " ++ found.text ++ ", expected " ++ expected.text

/-- A fault and where it was found. -/
structure ReadError where
  fault : Fault
  line : Nat
  column : Nat
  deriving DecidableEq, Repr

/-- The diagnostic of a read error. -/
def ReadError.message (e : ReadError) : String :=
  e.fault.text ++ " at line " ++ toString e.line ++ " column " ++ toString e.column

/-! ### The cursor -/

/-- The bytes not yet read, and the place after the last byte read. -/
structure Cursor where
  rest : List UInt8
  line : Nat
  column : Nat

/-- The place after reading one more byte `b`. -/
def Cursor.advance (c : Cursor) (b : UInt8) (rest : List UInt8) : Cursor :=
  if b == 10 then ⟨rest, c.line + 1, 0⟩ else ⟨rest, c.line, c.column + 1⟩

/-- The cursor past the blanks ahead. -/
def Cursor.skipBlank (c : Cursor) : Cursor :=
  match h : c.rest with
  | [] => c
  | b :: rest =>
    if b == 0x20 || b == 0x0A || b == 0x09 || b == 0x0D then
      have : rest.length < c.rest.length := by simp [h]
      (c.advance b rest).skipBlank
    else c
termination_by c.rest.length
decreasing_by
  simp only [Cursor.advance]
  split <;> simpa using this

/-- The cursor past every byte left. -/
def Cursor.toEnd (c : Cursor) : Cursor :=
  match h : c.rest with
  | [] => c
  | b :: rest =>
    have : rest.length < c.rest.length := by simp [h]
    (c.advance b rest).toEnd
termination_by c.rest.length
decreasing_by
  simp only [Cursor.advance]
  split <;> simpa using this

/-- A reader of bytes that may stop with a read error. -/
abbrev Reader := StateT Cursor (Except ReadError)

/-- Stops with a fault at the place after the last byte read. -/
def failHere {α : Type} (f : Fault) : Reader α := do
  let c ← get
  throw ⟨f, c.line, c.column⟩

/-- Stops with a fault at the place after the byte ahead, if there is one. -/
def failAhead {α : Type} (f : Fault) : Reader α := do
  let c ← get
  match c.rest with
  | [] => throw ⟨f, c.line, c.column⟩
  | b :: rest => let c' := c.advance b rest; throw ⟨f, c'.line, c'.column⟩

/-- The byte ahead. -/
def peek : Reader (Option UInt8) := do return (← get).rest.head?

/-- Reads the byte ahead, if any. -/
def bump : Reader Unit :=
  modify fun c => match c.rest with
    | [] => c
    | b :: rest => c.advance b rest

/-- Reads and returns the byte ahead. -/
def next : Reader (Option UInt8) := do
  let b ← peek
  bump
  return b

/-- Skips blanks and returns the byte ahead. -/
def peekValue : Reader (Option UInt8) := do
  modify Cursor.skipBlank
  peek

/-- The number of bytes not yet read, a bound on every loop of the reader. -/
def remaining : Reader Nat := do return (← get).rest.length + 1

/-- Whether a byte is an ASCII digit. -/
def isDigit (b : UInt8) : Bool := 0x30 ≤ b && b ≤ 0x39

/-- The value of an ASCII digit. -/
def digitValue (b : UInt8) : Nat := b.toNat - 0x30

/-! ### Literals and numbers -/

/-- Reads the rest of a literal word, byte by byte. -/
def expectWord : List UInt8 → Reader Unit
  | [] => pure ()
  | w :: ws => do
    match ← next with
    | none => failHere .eofValue
    | some b => if b == w then expectWord ws else failHere .expectedIdent

/-- The largest unsigned 64-bit number. -/
def u64Max : Nat := Nat.pow 2 64 - 1

/-- The double of `sig · 10 ^ exponent`, scaled by a table of powers of ten; too large is out
of range, too small becomes zero. -/
def fromParts (positive : Bool) (sig : Nat) (exponent : Int) : Reader Float := do
  let rec go : Nat → Float → Int → Reader Float
    | 0, f, _ => pure f
    | fuel + 1, f, e =>
      if e.natAbs ≤ 308 then
        let pow := Float.ofScientific 1 false e.natAbs
        if e ≥ 0 then
          let g := f * pow
          if g.isInf then failHere .numberOutOfRange else pure g
        else pure (f / pow)
      else if f == 0 then pure f
      else if e ≥ 0 then failHere .numberOutOfRange
      else go fuel (f / Float.ofScientific 1 false 308) (e + 308)
  let f ← go 8 (Float.ofNat sig) exponent
  return if positive then f else -f

/-- Skips the digits ahead. -/
def skipDigits : Nat → Reader Unit
  | 0 => pure ()
  | fuel + 1 => do
    match ← peek with
    | some b => if isDigit b then do bump; skipDigits fuel else pure ()
    | none => pure ()

/-- Clamps to the 32-bit signed range. -/
def clampI32 (i : Int) : Int := max (-Int.pow 2 31) (min (Int.pow 2 31 - 1) i)

/-- Reads an exponent after `e` or `E`; the mark is ahead. -/
def readExponent (positive : Bool) (sig : Nat) (start : Int) : Reader Float := do
  bump
  let positiveExp ← do
    match ← peek with
    | some 0x2B => bump; pure true
    | some 0x2D => bump; pure false
    | _ => pure true
  match ← next with
  | none => failHere .eofValue
  | some b =>
    if !isDigit b then failHere .invalidNumber
    else
      let rec loop : Nat → Nat → Reader (Option Nat)
        | 0, e => pure (some e)
        | fuel + 1, e => do
          match ← peek with
          | some c =>
            if isDigit c then do
              bump
              let e' := e * 10 + digitValue c
              if e' > Nat.pow 2 31 - 1 then return none else loop fuel e'
            else pure (some e)
          | none => pure (some e)
      match ← loop (← remaining) (digitValue b) with
      | some e =>
        let final := clampI32 (if positiveExp then start + e else start - e)
        fromParts positive sig final
      | none =>
        if sig != 0 && positiveExp then failHere .numberOutOfRange
        else do
          skipDigits (← remaining)
          return if positive then 0.0 else -0.0

/-- Reads a fraction; the point is ahead. -/
def readFraction (positive : Bool) (sig : Nat) (before : Int) : Reader Float := do
  bump
  let rec loop : Nat → Nat → Int → Reader (Nat × Int × Bool)
    | 0, s, a => pure (s, a, false)
    | fuel + 1, s, a => do
      match ← peek with
      | some c =>
        if isDigit c then
          if s * 10 + digitValue c > u64Max then pure (s, a, true)
          else do bump; loop fuel (s * 10 + digitValue c) (a - 1)
        else pure (s, a, false)
      | none => pure (s, a, false)
  let (s, a, overflow) ← loop (← remaining) sig 0
  if overflow then
    skipDigits (← remaining)
    match ← peek with
    | some 0x65 | some 0x45 => readExponent positive s (before + a)
    | _ => fromParts positive s (before + a)
  else if a == 0 then
    match ← peek with
    | some _ => failAhead .invalidNumber
    | none => failAhead .eofValue
  else
    match ← peek with
    | some 0x65 | some 0x45 => readExponent positive s (before + a)
    | _ => fromParts positive s (before + a)

/-- A double found where another kind of value was expected, named by its shortest text. -/
def floatFound (f : Float) : Found :=
  .float ((Text.floatText f).getD "inf")

/-- What follows the integer digits of a number: a fraction, an exponent, or the end. -/
def readNumberTail (positive : Bool) (sig : Nat) : Reader Found := do
  match ← peek with
  | some 0x2E => return floatFound (← readFraction positive sig 0)
  | some 0x65 | some 0x45 => return floatFound (← readExponent positive sig 0)
  | _ =>
    if positive then return .unsigned sig
    else if 1 ≤ sig ∧ sig ≤ Nat.pow 2 63 then return .signed (-(sig : Int))
    else return floatFound (-(Float.ofNat sig))

/-- Digits past the range of 64 bits only raise the power of ten. -/
def readLongInteger (positive : Bool) (sig : Nat) : Reader Found := do
  let rec loop : Nat → Int → Reader Found
    | 0, e => return floatFound (← fromParts positive sig e)
    | fuel + 1, e => do
      match ← peek with
      | some 0x2E => return floatFound (← readFraction positive sig e)
      | some 0x65 | some 0x45 => return floatFound (← readExponent positive sig e)
      | some c =>
        if isDigit c then do bump; loop fuel (e + 1)
        else return floatFound (← fromParts positive sig e)
      | none => return floatFound (← fromParts positive sig e)
  loop (← remaining) 0

/-- Reads a number whose sign has been read. -/
def readNumber (positive : Bool) : Reader Found := do
  match ← next with
  | none => failHere .eofValue
  | some 0x30 =>
    match ← peek with
    | some c => if isDigit c then failAhead .invalidNumber else readNumberTail positive 0
    | none => readNumberTail positive 0
  | some b =>
    if isDigit b then
      let rec loop : Nat → Nat → Reader Found
        | 0, s => readNumberTail positive s
        | fuel + 1, s => do
          match ← peek with
          | some c =>
            if isDigit c then
              if s * 10 + digitValue c > u64Max then readLongInteger positive s
              else do bump; loop fuel (s * 10 + digitValue c)
            else readNumberTail positive s
          | none => readNumberTail positive s
      loop (← remaining) (digitValue b)
    else failHere .invalidNumber

/-! ### Strings -/

/-- Reads four hexadecimal digits of an escape. -/
def readHex4 : Reader Nat := do
  let c ← get
  match c.rest with
  | a :: b :: d :: e :: _ =>
    bump; bump; bump; bump
    let digits := [a, b, d, e].map fun x => Text.Utf8.hexValue? (Char.ofNat x.toNat)
    if digits.all Option.isSome then
      return digits.foldl (fun v x => 16 * v + x.getD 0) 0
    else failHere .invalidEscape
  | _ =>
    modify Cursor.toEnd
    failHere .eofString

/-- The UTF-8 bytes of a code point. -/
def codePointBytes (n : Nat) : List UInt8 := Text.Utf8.encode (String.singleton (Char.ofNat n))

/-- Reads an escape after its backslash. -/
def readEscape : Reader (List UInt8) := do
  match ← next with
  | none => failHere .eofString
  | some 0x22 => pure [0x22]
  | some 0x5C => pure [0x5C]
  | some 0x2F => pure [0x2F]
  | some 0x62 => pure [0x08]
  | some 0x66 => pure [0x0C]
  | some 0x6E => pure [0x0A]
  | some 0x72 => pure [0x0D]
  | some 0x74 => pure [0x09]
  | some 0x75 =>
    let n ← readHex4
    if 0xDC00 ≤ n ∧ n ≤ 0xDFFF then failHere .loneLeadingSurrogate
    else if 0xD800 ≤ n ∧ n ≤ 0xDBFF then
      match ← peek with
      | none => failHere .eofString
      | some 0x5C => bump
      | some _ => do bump; failHere .unexpectedEndOfHexEscape
      match ← peek with
      | none => failHere .eofString
      | some 0x75 => bump
      | some _ => do bump; failHere .unexpectedEndOfHexEscape
      let n2 ← readHex4
      if n2 < 0xDC00 ∨ n2 > 0xDFFF then failHere .loneLeadingSurrogate
      else pure (codePointBytes ((n - 0xD800) * 1024 + (n2 - 0xDC00) + 0x10000))
    else pure (codePointBytes n)
  | some _ => failHere .invalidEscape

/-- Reads the rest of a string after its opening quote. -/
def readString : Reader String := do
  let rec loop : Nat → List UInt8 → Reader String
    | 0, _ => failHere .eofString
    | fuel + 1, acc => do
      match ← peek with
      | none => failHere .eofString
      | some 0x22 =>
        let bytes := acc.reverse
        if Text.Utf8.isValid bytes then do
          bump
          return Text.Utf8.lossyText bytes
        else
          -- no line feed stands in a string, so the place is on the quote's line
          let c ← get
          throw ⟨.invalidCodePoint, c.line,
            c.column + 1 - (bytes.length - Text.Utf8.validPrefix bytes)⟩
      | some 0x5C => do
        bump
        let bs ← readEscape
        loop fuel (bs.reverse ++ acc)
      | some b =>
        bump
        if b < 0x20 then failHere .controlCharacter else loop fuel (b :: acc)
  loop (← remaining) []

/-! ### Values -/

/-- The fault for a value of another kind than `expected`, placed after that value; a value
that does not even read is its own fault. -/
def wrongKind {α : Type} (expected : Shape) : Reader α := do
  let found ← do
    match ← peek with
    | some 0x6E => bump; expectWord [0x75, 0x6C, 0x6C]; pure Found.null
    | some 0x74 => bump; expectWord [0x72, 0x75, 0x65]; pure (Found.bool true)
    | some 0x66 => bump; expectWord [0x61, 0x6C, 0x73, 0x65]; pure (Found.bool false)
    | some 0x2D => bump; readNumber false
    | some 0x22 => bump; pure (Found.string (← readString))
    | some 0x5B => pure Found.sequence
    | some 0x7B => pure Found.map
    | some b => if isDigit b then readNumber true else failAhead .expectedValue
    | none => failAhead .expectedValue
  failHere (.invalidType found expected)

/-- Reads a string value. -/
def readName : Reader String := do
  match ← peekValue with
  | none => failAhead .eofValue
  | some 0x22 => bump; readString
  | some _ => wrongKind .string

/-- Reads an array of names. -/
def readNames : Reader (List String) := do
  match ← peekValue with
  | none => failAhead .eofValue
  | some 0x5B =>
    bump
    let rec loop : Nat → Bool → List String → Reader (List String)
      | 0, _, acc => pure acc
      | fuel + 1, first, acc => do
        let ahead ← do
          match ← peekValue with
          | some 0x5D => pure none
          | some b =>
            if first then pure (some (some b))
            else if b == 0x2C then do bump; pure (some (← peekValue))
            else failAhead .expectedListCommaOrEnd
          | none => failAhead .eofList
        match ahead with
        | none => pure acc
        | some (some 0x5D) => failAhead .trailingComma
        | some (some _) => loop fuel false ((← readName) :: acc)
        | some none => failAhead .eofValue
    let names ← loop (← remaining) true []
    -- the closing bracket is ahead
    bump
    return names.reverse
  | some _ => wrongKind .sequence

/-- Reads a queue map and nothing after it but blanks. -/
def readMap : Reader QueueMap := do
  let m ← do
    match ← peekValue with
    | none => failAhead .eofValue
    | some 0x7B =>
      bump
      let rec loop : Nat → Bool → QueueMap → Reader QueueMap
        | 0, _, m => pure m
        | fuel + 1, first, m => do
          let ahead ← do
            match ← peekValue with
            | some 0x7D => pure none
            | some b =>
              if first then pure (some (some b))
              else if b == 0x2C then do bump; pure (some (← peekValue))
              else failAhead .expectedObjectCommaOrEnd
            | none => failAhead .eofObject
          match ahead with
          | none => pure m
          | some (some 0x22) =>
            bump
            let topic ← readString
            match ← peekValue with
            | some 0x3A => bump
            | some _ => failAhead .expectedColon
            | none => failAhead .eofObject
            let names ← readNames
            loop fuel false (m.set topic names)
          | some (some 0x7D) => failAhead .trailingComma
          | some (some _) => failAhead .keyNotString
          | some none => failAhead .eofValue
      let m ← loop (← remaining) true .empty
      bump
      pure m
    | some _ => wrongKind .map
  match ← peekValue with
  | some _ => failAhead .trailingCharacters
  | none => pure m

/-- Reads a queue map from the bytes of a body. -/
def ofJson? (bytes : List UInt8) : Except ReadError QueueMap :=
  (readMap.run ⟨bytes, 1, 0⟩).map Prod.fst

/-- Reads the queue map of a batched subscribe from its body by `read`. -/
def ofEntityWith? (read : List UInt8 → Except ReadError QueueMap) (e : Entity) :
    Except PayloadError QueueMap :=
  match read e.body with
  | .ok m => .ok m
  | .error err => .error (.deserialize err.message)

/-- Reads the queue map of a batched subscribe from its JSON body. -/
def ofEntity? (e : Entity) : Except PayloadError QueueMap := ofEntityWith? ofJson? e

end BrokerClient.QueueMap
