import BrokerClient.Client.Basic
import BrokerClient.Endpoint
/-!
Connecting. A client connects once: it needs broker urls, a namespace that passes the parameter
check, and urls that all resolve to transport endpoints; the first url refused is the error. It
opens a group with a configuration that names the protocol version, the client and its
namespace, adjusted by the client's hook, and attaches with the request timeout of that
configuration. Every session that opens, or opens again, is sent the whole queue map as one
batched subscribe when the registry is not empty; a failure there is only noted, never raised.
-/

namespace BrokerClient

namespace Client

/-- The configuration of a new group: version, name and namespace metas, the heartbeat and
request timeout, then the hook. -/
def sessionConfig (c : Client) : SessionConfig :=
  let metas := Metas.empty.put Meta.version (toString Meta.protocolVersion)
  let metas := match c.name with
    | some n => metas.put Meta.target n
    | none => metas
  let metas := match c.space with
    | some ns => metas.put Meta.space ns
    | none => metas
  c.configure { metas := metas, heartbeat := c.heartbeat, requestTimeout := c.requestTimeout }

end Client

namespace Op

/-- Sends the registry's queue map to a session as one batched subscribe, when there is any
subscription, and requires its confirmation. -/
def resubscribe (g i : Nat) : Op Unit := do
  let c ← get
  if c.registry.isEmpty then return
  let answer ← request g i .subscribe c.registry.queues.subscribeEntity c.subscribeTimeout
  confirmed "subscribe" answer

/-- What a session that opens triggers: a resubscribe whose failure is dropped. -/
def sessionOpened (g i : Nat) : Op Unit :=
  tryCatch (resubscribe g i) fun _ => pure ()

/-- Opens a new group on the broker and lets each of its sessions resubscribe in order; a broker
without sessions is unreachable. -/
def openGroup (urls : List String) (config : SessionConfig) : Op Nat := do
  let c ← get
  if c.hub.width = 0 then throw (.transport (.connection "no server reachable"))
  let g := c.hub.groups.length
  set { c with hub := c.hub.openGroup urls config }
  for i in List.range c.hub.width do
    sessionOpened g i
  return g

/-- The transport endpoints of the broker urls, or the first refusal. -/
def endpoints (urls : List String) : Op (List String) :=
  urls.mapM fun u => match Endpoint.resolve u with
    | .ok e => pure e
    | .error err => throw (.invalid (err.message u))

/-- Connects the client, unless it is connected already. -/
def connect : Op Unit := do
  let c ← get
  if c.isConnected then return
  if c.urls.isEmpty then throw (.invalid "server urls can't be empty")
  let _ ← checkedSpace
  let eps ← endpoints c.urls
  let config := c.sessionConfig
  let g ← openGroup eps config
  modify fun c => { c with attached := some ⟨g, config.requestTimeout⟩ }

/-- Detaches the client and closes every session of its group. -/
def disconnect : Op Unit := do
  let c ← get
  match c.attached with
  | none => pure ()
  | some a =>
    set { c with attached := none, hub := c.hub.updateGroup a.group Group.close }

/-- Opens a session of a group again and lets it resubscribe. -/
def reopen (g i : Nat) : Op Unit := do
  modify fun c => { c with hub := c.hub.updateSession g i fun s => { s with valid := true } }
  sessionOpened g i

end Op

end BrokerClient
