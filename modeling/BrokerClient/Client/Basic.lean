import BrokerClient.Session.Hub
import BrokerClient.Registry
import BrokerClient.Settings
import BrokerClient.Message
import BrokerClient.Confirm
/-!
The client: its identity and settings, the registry of its subscriptions, its request handlers,
the session group it is attached to, and the in-memory broker it connects through. Operations
run in a state monad with errors that keeps what happened before an error, as frames sent and
subscriptions registered stay so.
-/

namespace BrokerClient

/-- The group a client is attached to, with the request timeout it was opened with. -/
structure Attachment where
  group : Nat
  requestTimeout : Duration
  deriving DecidableEq, Repr

/-- A message queue client over the in-memory broker. -/
structure Client where
  /-- The broker urls. -/
  urls : List String
  /-- The client name. -/
  name : Option String := none
  /-- The namespace of topics. -/
  space : Option String := none
  /-- Whether subscriptions acknowledge deliveries unless told otherwise. -/
  autoAck : Bool := true
  /-- How long requests wait. -/
  requestTimeout : Duration := ⟨10000⟩
  /-- How long subscribes and unsubscribes wait. -/
  subscribeTimeout : Duration := ⟨30000⟩
  /-- The heartbeat interval of sessions. -/
  heartbeat : Duration := ⟨6000⟩
  /-- Adjusts the session configuration on every connect. -/
  configure : SessionConfig → SessionConfig := id
  /-- The attached group. -/
  attached : Option Attachment := none
  /-- The subscriptions. -/
  registry : Registry := {}
  /-- The handler of direct requests. -/
  listener : Option Handler := none
  /-- The handler of transaction checks. -/
  checkback : Option Handler := none
  /-- The broker. -/
  hub : Hub

namespace Client

/-- A client with settings over a broker. -/
def ofSettings (s : Settings) (hub : Hub) : Client :=
  { urls := s.serverUrls, name := s.name, space := s.space, autoAck := s.autoAck,
    requestTimeout := s.requestTimeout, subscribeTimeout := s.subscribeTimeout,
    heartbeat := s.heartbeat, hub := hub }

/-- The client with a name; the empty name is none. -/
def withName (c : Client) (name : String) : Client :=
  { c with name := if name.isEmpty then none else some name }

/-- The client with a namespace; the empty namespace is none. -/
def withSpace (c : Client) (space : String) : Client :=
  { c with space := if space.isEmpty then none else some space }

/-- Whether the client is attached to a group. -/
def isConnected (c : Client) : Bool := c.attached.isSome

end Client

/-- An operation of the client: it changes the client and may fail, keeping its changes. -/
abbrev Op := ExceptT ClientError (StateM Client)

namespace Op

/-- Fails unless a parameter passes its check. -/
def check (value name : String) : Op Unit :=
  match Topic.checkParam value name with
  | .ok () => pure ()
  | .error e => throw (.invalid e.message)

/-- The namespace, which must pass the parameter check when set. -/
def checkedSpace : Op (Option String) := do
  match (← get).space with
  | some ns => check ns "namespace"; pure (some ns)
  | none => pure none

/-- A topic qualified by the namespace. -/
def qualify (topic : String) : Op String := do
  let ns ← checkedSpace
  pure (Topic.full (ns.getD "") topic)

/-- The client name, which some operations require. -/
def requireName : Op String := do
  match (← get).name with
  | some n => pure n
  | none => throw (.invalid "client name is required")

/-- Fails unless an answer confirms an operation. -/
def confirmed (operation : String) (answer : Entity) : Op Unit :=
  match ensureConfirmed operation answer with
  | .ok () => pure ()
  | .error e => throw e

/-- The request timeout of the attached group. -/
def attachedTimeout : Op Duration := do
  match (← get).attached with
  | some a => pure a.requestTimeout
  | none => throw .notConnected

/-- Picks a session of the attached group, by routing key or in turn. -/
def pickSession (routing : Option String) : Op (Nat × Nat) := do
  let c ← get
  match c.attached with
  | none => throw .notConnected
  | some a =>
    match c.hub.group? a.group with
    | none => throw .noSession
    | some grp =>
      let (grp', idx) := grp.pick routing
      set { c with hub := c.hub.updateGroup a.group fun _ => grp' }
      match idx with
      | some i => pure (a.group, i)
      | none => throw .noSession

/-- The open sessions of the attached group, none when detached. -/
def openSessions : Op (List (Nat × Nat)) := do
  let c ← get
  match c.attached with
  | none => pure []
  | some a => pure (((c.hub.group? a.group).map Group.openIndices).getD [] |>.map (a.group, ·))

/-- Runs a session action on a session of the broker. -/
def onSession {α : Type} (g i : Nat) (f : Session → Session × Except TransportError α) :
    Op α := do
  let c ← get
  match c.hub.session? g i with
  | none => throw (.transport .closed)
  | some s =>
    let (s', r) := f s
    set { c with hub := c.hub.updateSession g i fun _ => s' }
    match r with
    | .ok a => pure a
    | .error e => throw (.transport e)

/-- Sends a request on a session and waits for its answer. -/
def request (g i : Nat) (event : Event) (entity : Entity) (timeout : Duration) : Op Entity := do
  let rules := (← get).hub.rules
  onSession g i fun s => s.request rules event entity timeout

/-- Sends a frame on a session. -/
def send (g i : Nat) (event : Event) (entity : Entity) : Op Unit :=
  onSession g i fun s => s.send event entity

end Op

end BrokerClient
