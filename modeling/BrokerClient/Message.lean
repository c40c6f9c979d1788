import BrokerClient.Entity
import BrokerClient.Event
import BrokerClient.Text.Decimal
/-!
Outgoing messages. A message is built from a body with a fresh message id, which is also its
key until one is given; it is confirmed by default. Its publish entity carries the id, the key,
the topic, the quality of service, the schedule, the ordering and transaction marks, the sender
and the attributes, addressed to the broker. Its routing key decides which session carries it:
the transaction id when it has one, the sharding key or the topic when it is ordered, none
otherwise.
-/

namespace BrokerClient

/-- A message on its way to the broker. -/
structure Message where
  /-- The message id. -/
  tid : String
  /-- The body. -/
  body : List UInt8
  /-- The business key. -/
  key : String
  /-- The quality of service. -/
  qos : Qos := .atLeastOnce
  /-- The transaction that holds the message. -/
  tmid : Option String := none
  /-- Whether the message is delivered in order. -/
  sequence : Bool := false
  /-- The key that orders the message within its topic. -/
  sharding : Option String := none
  /-- When the message is due, in epoch milliseconds. -/
  scheduled : Option Int := none
  /-- When the message expires, in epoch milliseconds. -/
  expiration : Option Int := none
  /-- The name of the sending client. -/
  sender : Option String := none
  /-- The attributes, by name. -/
  attrs : Metas := .empty
  deriving DecidableEq, Repr

namespace Message

/-- A confirmed message with id `tid`, keyed by that id. -/
def create (tid : String) (body : List UInt8) : Message :=
  { tid := tid, body := body, key := tid }

/-- The message with another key. -/
def withKey (m : Message) (key : String) : Message := { m with key := key }

/-- The message with another quality of service. -/
def withQos (m : Message) (qos : Qos) : Message := { m with qos := qos }

/-- The message ordered by a sharding key. -/
def ordered (m : Message) (sharding : String) : Message :=
  { m with sequence := true, sharding := some sharding }

/-- The message with the ordering mark set or cleared; the sharding key stays. -/
def withSequence (m : Message) (sequence : Bool) : Message := { m with sequence := sequence }

/-- The message due at an instant. -/
def scheduleAt (m : Message) (at_ : Int) : Message := { m with scheduled := some at_ }

/-- The message expiring at an instant. -/
def expireAt (m : Message) (at_ : Int) : Message := { m with expiration := some at_ }

/-- The message with an attribute set. -/
def withAttr (m : Message) (name value : String) : Message :=
  { m with attrs := m.attrs.put name value }

/-- The message held by a transaction. -/
def inTransaction (m : Message) (tmid : String) : Message := { m with tmid := some tmid }

/-- The message sent by a named client. -/
def sentBy (m : Message) (sender : String) : Message := { m with sender := some sender }

/-- One call of the message builder. -/
inductive Builder where
  | key (key : String)
  | qos (qos : Qos)
  | sequence (sequence : Bool)
  | sharding (sharding : String)
  | scheduled (at_ : Int)
  | expiration (at_ : Int)
  | attr (name value : String)
  | transaction (tmid : String)
  | sender (sender : String)
  deriving DecidableEq, Repr

/-- What a builder call does to a message. -/
def Builder.apply : Builder → Message → Message
  | .key k, m => m.withKey k
  | .qos q, m => m.withQos q
  | .sequence b, m => m.withSequence b
  | .sharding s, m => m.ordered s
  | .scheduled at_, m => m.scheduleAt at_
  | .expiration at_, m => m.expireAt at_
  | .attr n v, m => m.withAttr n v
  | .transaction t, m => m.inTransaction t
  | .sender s, m => m.sentBy s

/-- The message with id `tid` and a body, refined by builder calls in order. -/
def build (tid : String) (body : List UInt8) (calls : List Builder) : Message :=
  calls.foldl (fun m b => b.apply m) (create tid body)

/-- Whether the message is held by a transaction. -/
def isTransaction (m : Message) : Bool := m.tmid.isSome

/-- The key that routes the message to a session: its transaction id, else for an ordered
message its sharding key when nonempty or else the topic, else none. -/
def routingKey (m : Message) (fullTopic : String) : Option String :=
  match m.tmid with
  | some tmid => some tmid
  | none =>
    if m.sequence then
      match m.sharding with
      | some s => if s.isEmpty then some fullTopic else some s
      | none => some fullTopic
    else none

/-- The optional metas of a message, each when it applies. -/
def optionalMetas (m : Message) : List (String × String) :=
  (match m.expiration with
    | some e => [(Meta.expiration, Text.intText e)]
    | none => []) ++
  (if m.sequence then
    (Meta.sequence, "1") :: (match m.sharding with
      | some s => [(Meta.sharding, s)]
      | none => [])
  else []) ++
  (match m.tmid with
    | some t => [(Meta.transaction, t)]
    | none => []) ++
  (match m.sender with
    | some s => [(Meta.sender, s)]
    | none => []) ++
  m.attrs.entries.map fun (n, v) => (Meta.attrPrefix ++ n, v)

/-- The entity that publishes the message on a qualified topic, addressed to the broker. -/
def publishEntity (m : Message) (fullTopic : String) : Entity :=
  let base : Entity := { body := m.body }
  let base := base.put Meta.tid m.tid
    |>.put Meta.key m.key
    |>.put Meta.topic fullTopic
    |>.put Meta.qos m.qos.flag
    |>.put Meta.scheduled (match m.scheduled with
      | some s => Text.intText s
      | none => "0")
  let full := m.optionalMetas.foldl (fun e p => e.put p.1 p.2) base
  full.addressTo Meta.server

end Message

end BrokerClient
