import BrokerClient.Session
import BrokerClient.Topic
import BrokerClient.Text.Decimal
import BrokerClient.Text.Escaped
/-!
Messages received on a session, as handlers see them. The quality of service is read from the
meta `q1`, confirmed when absent; the delivery count from `t2`, zero when it does not read as a
32-bit number; the other fields from their metas, empty when absent. Attributes are the metas
named with a leading `!`. A received message is acknowledged on its session: not at all when it
was sent at most once or the session is closed, otherwise with an alarm or with a reply entity
marked accepted or rejected.
-/

namespace BrokerClient

/-- A frame received on a session. -/
structure Inbound where
  /-- The id of the session it came on. -/
  sessionId : String
  /-- The frame. -/
  frame : Frame
  deriving DecidableEq, Repr

namespace Inbound

/-- A meta of the frame, empty when absent. -/
def field (m : Inbound) (name : String) : String := m.frame.entity.metaOr name ""

/-- The message id. -/
def tid (m : Inbound) : String := m.field Meta.tid
/-- The qualified topic. -/
def fullTopic (m : Inbound) : String := m.field Meta.topic
/-- The topic without namespace. -/
def topic (m : Inbound) : String := Topic.bare m.fullTopic
/-- The consumer group. -/
def group (m : Inbound) : String := m.field Meta.group
/-- The business key. -/
def key (m : Inbound) : String := m.field Meta.key
/-- The sender, when named. -/
def sender (m : Inbound) : Option String := m.frame.entity.meta? Meta.sender

/-- The transaction id, when nonempty. -/
def tmid (m : Inbound) : Option String :=
  match m.frame.entity.meta? Meta.transaction with
  | some t => if t.isEmpty then none else some t
  | none => none

/-- Whether the message belongs to a transaction. -/
def isTransaction (m : Inbound) : Bool := m.tmid.isSome

/-- The quality of service, confirmed unless the flag says otherwise. -/
def qos (m : Inbound) : Qos := Qos.ofFlag (m.frame.entity.metaOr Meta.qos "1")

/-- How often the broker delivered the message; zero when the count does not read. -/
def times (m : Inbound) : Nat :=
  (Text.parseUnsigned? 32 (m.frame.entity.metaOr Meta.times "0")).getD 0

/-- An attribute. -/
def attr? (m : Inbound) (name : String) : Option String :=
  m.frame.entity.meta? (Meta.attrPrefix ++ name)

/-- The attributes, in order of names. -/
def attrs (m : Inbound) : List (String × String) :=
  m.frame.entity.metas.entries.filterMap fun (n, v) =>
    match n.toList with
    | '!' :: rest => some (String.ofList rest, v)
    | _ => none

/-- The body. -/
def body (m : Inbound) : List UInt8 := m.frame.entity.body

/-- The body as text. -/
def bodyText (m : Inbound) : String := m.frame.entity.text

/-- The name of a quality of service in diagnostics. -/
def qosName : Qos → String
  | .atMostOnce => "AtMostOnce"
  | .atLeastOnce => "AtLeastOnce"

/-- The diagnostic text of a received message. -/
def describe (m : Inbound) : String :=
  "ReceivedMessage \x7b sid: " ++ Text.quoted m.frame.sid ++
    ", tid: " ++ Text.quoted m.tid ++
    ", full_topic: " ++ Text.quoted m.fullTopic ++
    ", consumer_group: " ++ Text.quoted m.group ++
    ", key: " ++ Text.quoted m.key ++
    ", qos: " ++ qosName m.qos ++
    ", times: " ++ toString m.times ++ ", .. \x7d"

/-- Acknowledges the message on its session with a reply: nothing for a message sent at most
once or a closed session, an alarm, or the reply entity with `mq.ack` set to `1` or `0`. -/
def acknowledgeWith (m : Inbound) (s : Session) (ok : Bool) (reply : Reply) :
    Session × Except TransportError Unit :=
  if m.qos == .atMostOnce then (s, .ok ())
  else if !s.valid then (s, .ok ())
  else match reply with
    | .alarm text => s.replyAlarm m.frame text
    | .plain e => s.replyAck m.frame (e.put Meta.ack (if ok then "1" else "0"))

/-- Acknowledges the message with an empty reply entity. -/
def acknowledge (m : Inbound) (s : Session) (ok : Bool) : Session × Except TransportError Unit :=
  m.acknowledgeWith s ok (.plain {})

end Inbound

end BrokerClient
