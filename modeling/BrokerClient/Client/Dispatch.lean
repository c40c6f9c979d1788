import BrokerClient.Client.Basic
import BrokerClient.Inbound
/-!
Inbound dispatch. A `distribute` frame goes to the subscription of its topic and consumer group:
without one it is rejected; with one its handler runs and, when the subscription acknowledges
automatically, the frame is accepted if the handler finished and rejected if it failed or
crashed. A `request` frame goes to the transaction check handler when it carries a transaction
id and to the request handler otherwise; without a handler it is answered with an alarm, and a
handler that fails while the session is open is reported by an alarm. Other frames are ignored.
Errors of acknowledgements and alarms made by the dispatcher itself are dropped.
-/

namespace BrokerClient

/-- One run of a handler: the message, the handler's label, and the outcome of each
acknowledgement it made, in order. -/
structure HandlerRun where
  message : Inbound
  label : String
  replies : List (Except TransportError Unit)
  deriving Repr

/-- The handler slot a request goes to, and the alarm raised when it is empty: the transaction
check handler for a request that carries a nonempty transaction id, the request handler
otherwise. -/
def Client.requestSlot (c : Client) (frame : Frame) : Option Handler × String :=
  if (frame.entity.meta? Meta.transaction).any (· != "") then
    (c.checkback, "Client no checkback handler!")
  else (c.listener, "Client no request handler!")

namespace Dispatch

/-- Acknowledges a message on its session, keeping the outcome. -/
def acknowledge (g i : Nat) (m : Inbound) (ok : Bool) (reply : Reply) :
    StateM Client (Except TransportError Unit) := do
  let c ← get
  match c.hub.session? g i with
  | none => pure (.error .closed)
  | some s =>
    let (s', r) := m.acknowledgeWith s ok reply
    set { c with hub := c.hub.updateSession g i fun _ => s' }
    pure r

/-- Sends an alarm for a message on its session, dropping any error. -/
def alarm (g i : Nat) (m : Inbound) (text : String) : StateM Client Unit := do
  let c ← get
  match c.hub.session? g i with
  | none => pure ()
  | some s =>
    let (s', _) := s.replyAlarm m.frame text
    set { c with hub := c.hub.updateSession g i fun _ => s' }

/-- Runs a handler's reactions on a message: the handler's outcome, an error text when it
failed, and the outcome of each acknowledgement; a failed acknowledgement ends the run. -/
def runScript (g i : Nat) (m : Inbound) :
    List Reaction → StateM Client (Except String Unit × List (Except TransportError Unit))
  | [] => pure (.ok (), [])
  | r :: rest => do
    let act (ok : Bool) (reply : Reply) := do
      match ← acknowledge g i m ok reply with
      | .ok () =>
        let (res, rs) ← runScript g i m rest
        pure (res, .ok () :: rs)
      | .error e => pure (.error e.message, [.error e])
    match r with
    | .finish => pure (.ok (), [])
    | .fail t => pure (.error t, [])
    | .crash note => pure (.error note.message, [])
    | .ack ok => act ok (.plain {})
    | .ackWith ok e => act ok (.plain e)
    | .alarm ok t => act ok (.alarm t)
    | .vote rejected => act (!rejected.contains m.key) (.plain {})

/-- Handles a delivery for the subscription it is routed to: without one it is rejected; with
one its handler runs and, when the subscription acknowledges automatically, the delivery is
accepted if the handler finished and rejected if it failed or crashed. -/
def consume (g i : Nat) (m : Inbound) : Option Subscription → StateM Client (List HandlerRun)
  | none => do
    let _ ← acknowledge g i m false (.plain {})
    pure []
  | some sub => do
    let (res, replies) ← runScript g i m sub.handler.script
    if sub.autoAck then
      let _ ← acknowledge g i m (match res with
        | .ok () => true
        | .error _ => false) (.plain {})
    pure [⟨m, sub.handler.label, replies⟩]

/-- Handles a `distribute` frame: the subscription of its topic and consumer group consumes it. -/
def onDistribute (g i : Nat) (m : Inbound) : StateM Client (List HandlerRun) := do
  consume g i m ((← get).registry.lookup m.fullTopic m.group)

/-- Handles a `request` frame. -/
def onRequest (g i : Nat) (m : Inbound) : StateM Client (List HandlerRun) := do
  let c ← get
  let (slot, missing) := c.requestSlot m.frame
  match slot with
  | none =>
    alarm g i m missing
    pure []
  | some h =>
    let (res, replies) ← runScript g i m h.script
    match res with
    | .ok () => pure ()
    | .error e =>
      if ((← get).hub.session? g i).any (·.valid) then
        alarm g i m ("Client request handle error: " ++ e)
    pure [⟨m, h.label, replies⟩]

/-- Dispatches a frame received on session `i` of group `g`. -/
def deliver (g i : Nat) (frame : Frame) : StateM Client (List HandlerRun) := do
  match (← get).hub.session? g i with
  | none => pure []
  | some s =>
    let m : Inbound := ⟨s.id, frame⟩
    match Event.ofWireName? frame.event with
    | some .distribute => onDistribute g i m
    | some .request => onRequest g i m
    | _ => pure []

end Dispatch

end BrokerClient
