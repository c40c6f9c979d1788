/-!
Blank characters: the code points of the Unicode property White_Space, and trimming a text of
them at both ends. Settings, confirmation flags and quality-of-service flags are read after such
a trim, so a no-break space or an ideographic space around a number does not count.
-/

namespace BrokerClient.Text

/-- A character is blank when it has the Unicode property White_Space: tab, line feed, vertical
tab, form feed, carriage return and space, next line and no-break space, the Ogham space mark,
the spaces and separators of General Punctuation, and the ideographic space. -/
def isBlank (c : Char) : Bool :=
  let n := c.toNat
  (0x09 ≤ n && n ≤ 0x0D) || n == 0x20 || n == 0x85 || n == 0xA0 || n == 0x1680 ||
    (0x2000 ≤ n && n ≤ 0x200A) || n == 0x2028 || n == 0x2029 || n == 0x202F ||
    n == 0x205F || n == 0x3000

/-- The characters of a text without blank characters at either end. -/
def trimBlankChars (cs : List Char) : List Char :=
  ((cs.dropWhile isBlank).reverse.dropWhile isBlank).reverse

/-- A text without blank characters at either end. -/
def trimBlank (s : String) : String :=
  String.ofList (trimBlankChars s.toList)

end BrokerClient.Text
