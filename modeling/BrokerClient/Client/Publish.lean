import BrokerClient.Client.Basic
/-!
Publishing. A message goes to the session its routing key picks, or to one in turn: confirmed
messages as requests that must be confirmed within the request timeout, the others as plain
sends. Unpublish withdraws a message by key. A direct request to another client carries the
sender's name and is addressed to the other client; it fails only when the answer rejects it
with `mq.ack` set to `0`. A transaction collects the keys of its messages and settles them
with one two-phase publish that commits or rolls back.
-/

namespace BrokerClient

/-- A transaction: its id and the keys of the messages bound to it, in order. -/
structure Transaction where
  tmid : String
  keys : List String := []
  deriving DecidableEq, Repr

namespace Transaction

/-- Binds a message to the transaction, recording its key. -/
def bind (t : Transaction) (m : Message) : Transaction × Message :=
  let m := m.inTransaction t.tmid
  ({ t with keys := t.keys ++ [m.key] }, m)

end Transaction

namespace Op

/-- Publishes a message on a topic. -/
def publish (topic : String) (m : Message) : Op Unit := do
  check topic "topic"
  check m.key "key"
  let full ← qualify topic
  let (g, i) ← pickSession (m.routingKey full)
  let entity := m.publishEntity full
  match m.qos with
  | .atLeastOnce =>
    let answer ← request g i .publish entity (← attachedTimeout)
    confirmed "publish" answer
  | .atMostOnce => send g i .publish entity

/-- Withdraws the message of a key from a topic. -/
def unpublish (topic key : String) : Op Unit := do
  check topic "topic"
  check key "key"
  let full ← qualify topic
  let (g, i) ← pickSession none
  let entity := ({} : Entity).put Meta.topic full |>.put Meta.key key |>.addressTo Meta.serverAll
  let answer ← request g i .unpublish entity (← attachedTimeout)
  confirmed "unpublish" answer

/-- Sends a message straight to another client; a confirmed one waits for the answer, within
`timeout` or else the request timeout. -/
def sendTo (m : Message) (peer : String) (timeout : Option Duration) : Op (Option Entity) := do
  let name ← requireName
  check peer "toName"
  let (g, i) ← pickSession none
  let m := m.sentBy name
  let entity := (m.publishEntity "").put Meta.group peer |>.addressTo peer
  match m.qos with
  | .atLeastOnce =>
    let t ← match timeout with
      | some t => pure t
      | none => attachedTimeout
    let answer ← request g i .request entity t
    if answer.meta? Meta.ack == some "0" then throw (.confirmFailed "send" answer.text)
    pure (some answer)
  | .atMostOnce =>
    send g i .request entity
    pure none

/-- The entity that settles the keys of a transaction: the keys joined by commas, and whether
they are rolled back, addressed to the broker that settles transactions. -/
def settleEntity (keys : List String) (rollback : Bool) : Entity :=
  (Entity.ofText (",".intercalate keys)).put Meta.rollback (if rollback then "1" else "0")
    |>.addressTo Meta.serverHash

/-- Settles the keys of a transaction: one request on the session its id picks, committing or
rolling back; nothing at all without keys. -/
def settle (tmid : String) (keys : List String) (rollback : Bool) : Op Unit := do
  if keys.isEmpty then return
  let (g, i) ← pickSession (some tmid)
  let answer ← request g i .publish2 (settleEntity keys rollback) (← attachedTimeout)
  confirmed "publish2" answer

/-- Starts a transaction with a fresh id; the client must have a name. -/
def beginTransaction (tmid : String) : Op Transaction := do
  let _ ← requireName
  pure { tmid := tmid }

/-- Commits a transaction. -/
def commit (t : Transaction) : Op Unit := settle t.tmid t.keys false

/-- Rolls a transaction back. -/
def rollback (t : Transaction) : Op Unit := settle t.tmid t.keys true

/-- Sets the handler of direct requests; the client must have a name. -/
def listen (h : Handler) : Op Unit := do
  let _ ← requireName
  modify fun c => { c with listener := some h }

/-- Sets the handler of transaction checks. -/
def onCheckback (h : Handler) : Op Unit :=
  modify fun c => { c with checkback := some h }

end Op

end BrokerClient
