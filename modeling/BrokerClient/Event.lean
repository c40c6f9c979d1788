import BrokerClient.Text.Blank
/-!
Frame events and quality of service. An event travels by its wire name, matched exactly; the
quality of service travels as a flag that means "at most once" only when it reads `0` after
trimming.
-/

namespace BrokerClient

/-- What a frame asks of its receiver. -/
inductive Event where
  | subscribe
  | unsubscribe
  | publish
  | unpublish
  | publish2
  | request
  | distribute
  deriving DecidableEq, Repr, Inhabited

namespace Event

/-- Every event, in protocol order. -/
def all : List Event := [.subscribe, .unsubscribe, .publish, .unpublish, .publish2, .request,
  .distribute]

/-- The name of an event on the wire. -/
def wireName : Event → String
  | .subscribe => "subscribe"
  | .unsubscribe => "unsubscribe"
  | .publish => "publish"
  | .unpublish => "unpublish"
  | .publish2 => "publish2"
  | .request => "request"
  | .distribute => "distribute"

/-- The event with this exact wire name. -/
def ofWireName? (s : String) : Option Event := all.find? (·.wireName == s)

theorem ofWireName?_wireName (e : Event) : ofWireName? e.wireName = some e := by
  cases e <;> decide

end Event

/-- Quality of service of a message. -/
inductive Qos where
  /-- Fire and forget. -/
  | atMostOnce
  /-- Confirmed by the receiver. -/
  | atLeastOnce
  deriving DecidableEq, Repr, Inhabited

namespace Qos

/-- The flag of a quality of service on the wire. -/
def flag : Qos → String
  | .atMostOnce => "0"
  | .atLeastOnce => "1"

/-- The quality of service a flag asks for: at most once exactly when the trimmed flag is `0`. -/
def ofFlag (s : String) : Qos :=
  if Text.trimBlank s == "0" then .atMostOnce else .atLeastOnce

/-- The number of a quality of service, as answers show it. -/
def level : Qos → Nat
  | .atMostOnce => 0
  | .atLeastOnce => 1

end Qos

end BrokerClient
