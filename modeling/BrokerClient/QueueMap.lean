import BrokerClient.Entity
import BrokerClient.Error
/-!
Queue maps: for each qualified topic, the set of queue names subscribed on it. A session that
opens is sent the whole map at once, as a compact JSON object of sorted topics whose values are
sorted arrays of names. The JSON escapes only the quote, the backslash and the control
characters below the space; the others, non-ASCII included, stand as they are.
-/

namespace BrokerClient

/-- Names by topic: topics sorted and distinct, each with a sorted list of distinct names. -/
structure QueueMap where
  /-- The topics with their names, in order of topics. -/
  entries : List (String × List String)
  deriving DecidableEq, Repr, Inhabited

namespace QueueMap

/-- Puts a name into a sorted list of distinct names. -/
def insertName (name : String) : List String → List String
  | [] => [name]
  | n :: rest =>
    if name < n then name :: n :: rest
    else if name = n then n :: rest
    else n :: insertName name rest

/-- Adds a name under a topic. -/
def addEntry (topic name : String) : List (String × List String) → List (String × List String)
  | [] => [(topic, [name])]
  | (t, ns) :: rest =>
    if topic < t then (topic, [name]) :: (t, ns) :: rest
    else if topic = t then (t, insertName name ns) :: rest
    else (t, ns) :: addEntry topic name rest

/-- Replaces the names under a topic. -/
def setEntry (topic : String) (names : List String) :
    List (String × List String) → List (String × List String)
  | [] => [(topic, names)]
  | (t, ns) :: rest =>
    if topic < t then (topic, names) :: (t, ns) :: rest
    else if topic = t then (topic, names) :: rest
    else (t, ns) :: setEntry topic names rest

/-- The empty map. -/
def empty : QueueMap := ⟨[]⟩

/-- The map with a name added under a topic. -/
def add (m : QueueMap) (topic name : String) : QueueMap := ⟨addEntry topic name m.entries⟩

/-- The map with the names under a topic replaced by the set of `names`. -/
def set (m : QueueMap) (topic : String) (names : List String) : QueueMap :=
  ⟨setEntry topic (names.foldl (fun acc n => insertName n acc) []) m.entries⟩

/-- The characters that stand for one character in a JSON string: the quote, the backslash and
the control characters escaped; backspace, tab, line feed, form feed and carriage return by their
short escapes, the other controls as `\u00` and two lowercase hexadecimal digits. -/
def escape (c : Char) : List Char :=
  if c = '"' then ['\\', '"']
  else if c = '\\' then ['\\', '\\']
  else if c = '\x08' then ['\\', 'b']
  else if c = '\t' then ['\\', 't']
  else if c = '\n' then ['\\', 'n']
  else if c = '\x0c' then ['\\', 'f']
  else if c = '\r' then ['\\', 'r']
  else if c.toNat < 0x20 then
    ['\\', 'u', '0', '0', Text.Utf8.hexDigit (c.toNat / 16), Text.Utf8.hexDigit (c.toNat % 16)]
  else [c]

/-- A JSON string: the text between quotes, each character escaped. -/
def jsonString (s : String) : String :=
  String.ofList ('"' :: s.toList.flatMap escape ++ ['"'])

/-- The map as compact JSON. -/
def toJson (m : QueueMap) : String :=
  let entry (e : String × List String) : String :=
    jsonString e.1 ++ ":[" ++ ",".intercalate (e.2.map jsonString) ++ "]"
  "\x7b" ++ ",".intercalate (m.entries.map entry) ++ "\x7d"

/-- The batched subscribe that carries the map as `write` writes it, addressed to the broker. -/
def subscribeEntityWith (write : QueueMap → String) (m : QueueMap) : Entity :=
  (Entity.ofText (write m)).put Meta.batch "1" |>.addressTo Meta.server

/-- The batched subscribe that carries the map as compact JSON. -/
def subscribeEntity (m : QueueMap) : Entity := subscribeEntityWith toJson m

end QueueMap

end BrokerClient
