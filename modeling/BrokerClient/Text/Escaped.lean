import BrokerClient.Text.Printable
import BrokerClient.Text.Utf8
/-!
Quoted texts, as diagnostics show them: the text between double quotes, with the quote and the
backslash escaped by a backslash, tab, carriage return, line feed and NUL by their short
escapes, and every other character that `isEscaped` names as `\u` followed by its code point in
lowercase hexadecimal between braces, without leading zeros.
-/

namespace BrokerClient.Text

/-- The hexadecimal digits of a number, lowercase, without leading zeros. -/
def hexDigits (n : Nat) : List Char :=
  if n < 16 then [Utf8.hexDigit n] else hexDigits (n / 16) ++ [Utf8.hexDigit (n % 16)]
termination_by n
decreasing_by omega

/-- How one character is written inside a quoted text. -/
def escapeChar (c : Char) : List Char :=
  if c = '"' then ['\\', '"']
  else if c = '\\' then ['\\', '\\']
  else if c = '\t' then ['\\', 't']
  else if c = '\r' then ['\\', 'r']
  else if c = '\n' then ['\\', 'n']
  else if c = '\x00' then ['\\', '0']
  else if isEscaped c then ['\\', 'u', '\x7b'] ++ hexDigits c.toNat ++ ['\x7d']
  else [c]

/-- A text between double quotes, escaped character by character. -/
def quoted (s : String) : String :=
  String.ofList ('"' :: s.toList.flatMap escapeChar ++ ['"'])

end BrokerClient.Text
