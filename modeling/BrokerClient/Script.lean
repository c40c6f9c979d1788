import BrokerClient.Client.Connect
import BrokerClient.Client.Subscribe
import BrokerClient.Client.Publish
import BrokerClient.Client.Dispatch
/-!
Scripts: a client driven step by step against the in-memory broker, as an application and a
broker would drive it. Each step answers with a value or an error, the frames that sessions sent
during the step, listed by group, then session, then order of sending, and the handler runs it
caused. Steps that act for the broker side address a session by group and index; the group is
the latest opened unless named. A step that names a missing session or transaction makes the
whole script malformed.
-/

namespace BrokerClient

/-- Changes that a configuration hook makes: metas to add, and values to replace. -/
structure ConfigPatch where
  metas : List (String × String) := []
  requestTimeout : Option Duration := none
  heartbeat : Option Duration := none
  ioThreads : Option Nat := none
  deriving DecidableEq, Repr

/-- Applies a configuration patch. -/
def ConfigPatch.apply (p : ConfigPatch) (c : SessionConfig) : SessionConfig :=
  { c with
    metas := p.metas.foldl (fun m (n, v) => m.put n v) c.metas
    requestTimeout := p.requestTimeout.getD c.requestTimeout
    heartbeat := p.heartbeat.getD c.heartbeat
    ioThreads := p.ioThreads.getD c.ioThreads }

/-- A session addressed by index, in a named group or the latest. -/
structure SessionRef where
  session : Nat := 0
  group : Option Nat := none
  deriving DecidableEq, Repr

/-- One step of a script. -/
inductive Step where
  | connect
  | disconnect
  | isConnected
  | identity
  | setName (name : String)
  | setSpace (space : String)
  | subscribe (topic : String) (group : Option String) (autoAck : Option Bool) (handler : Handler)
  | unsubscribe (topic : String) (group : Option String)
  | subscriptions
  | publish (topic : String) (message : Message) (tran : Option String)
  | unpublish (topic key : String)
  | sendTo (peer : String) (message : Message) (timeout : Option Duration)
  | listen (handler : Handler)
  | checkback (handler : Handler)
  | newTransaction (tran : String)
  | bind (tran : String) (message : Message)
  | transactionKeys (tran : String)
  | commit (tran : String)
  | rollback (tran : String)
  | deliver (at_ : SessionRef) (frame : Frame)
  | reopen (at_ : SessionRef)
  | setValid (at_ : SessionRef) (valid : Bool)
  | failReplies (at_ : SessionRef) (fail : Bool)
  | sessionRules (at_ : SessionRef) (rules : List Rule)
  | rules (rules : List Rule)
  | busySessions
  | lastConfig

/-- What a step answers when it succeeds. -/
inductive Answer where
  | unit
  | flag (b : Bool)
  | identity (name space : Option String)
  | subscriptions (subs : List Subscription)
  | reply (e : Option Entity)
  | transaction (tmid : String)
  | message (m : Message)
  | keys (ks : List String)
  | count (n : Nat)
  | config (openCount : Nat) (last : Option Opening)

/-- A frame a session sent, with the place of the session. -/
structure Traffic where
  group : Nat
  session : Nat
  frame : Outbound
  deriving DecidableEq, Repr

/-- What a step gives: its outcome, the frames sent and the handler runs. -/
structure StepResult where
  outcome : Except ClientError Answer
  traffic : List Traffic
  runs : List HandlerRun

/-- The state of a script between steps. -/
structure ScriptState where
  client : Client
  transactions : List (String × Transaction) := []
  issued : Nat := 0
  busy : List (Nat × Nat) := []

namespace Script

/-- How many frames each session of each group has sent. -/
def sentCounts (h : Hub) : List (List Nat) := h.groups.map fun g => g.sessions.map (·.sent.length)

/-- The frames sent since the counts were taken, by group, session and order. -/
def newTraffic (h : Hub) (before : List (List Nat)) : List Traffic :=
  ((List.range h.groups.length).zip h.groups).flatMap fun (g, grp) =>
    ((List.range grp.sessions.length).zip grp.sessions).flatMap fun (i, s) =>
      let seen := (before[g]?.bind (·[i]?)).getD 0
      (s.sent.drop seen).map fun o => ⟨g, i, o⟩

/-- The group and index of a session reference, when the session exists. -/
def locate (c : Client) (r : SessionRef) : Except String (Nat × Nat) :=
  let g := r.group.getD (c.hub.groups.length - 1)
  match c.hub.session? g r.session with
  | some _ => .ok (g, r.session)
  | none => .error "session index out of range"

/-- Runs an operation on the client of the state. -/
def runOp {α : Type} (st : ScriptState) (op : Op α) : ScriptState × Except ClientError α :=
  let (r, c) := (op.run).run st.client
  ({ st with client := c }, r)

/-- A transaction by name. -/
def transaction (st : ScriptState) (name : String) : Except String Transaction :=
  match st.transactions.lookup name with
  | some t => .ok t
  | none => .error ("unknown transaction " ++ name)

/-- The state with a transaction stored under a name. -/
def storeTransaction (st : ScriptState) (name : String) (t : Transaction) : ScriptState :=
  { st with transactions := (name, t) :: st.transactions.filter (·.1 != name) }

/-- Changes a session of the broker. -/
def touch (st : ScriptState) (r : SessionRef) (f : Session → Session) :
    Except String ScriptState := do
  let (g, i) ← locate st.client r
  pure { st with client := { st.client with hub := st.client.hub.updateSession g i f } }

/-- Runs one step: the state after it, its outcome and its handler runs, or a malformed
script. `tmidOf n` is the id of the `n`-th transaction begun. -/
def step (tmidOf : Nat → String) (st : ScriptState) :
    Step → Except String (ScriptState × Except ClientError Answer × List HandlerRun)
  | .connect => let (st, r) := runOp st Op.connect; pure (st, r.map fun _ => .unit, [])
  | .disconnect => let (st, r) := runOp st Op.disconnect; pure (st, r.map fun _ => .unit, [])
  | .isConnected => pure (st, .ok (.flag st.client.isConnected), [])
  | .identity => pure (st, .ok (.identity st.client.name st.client.space), [])
  | .setName n => pure ({ st with client := st.client.withName n }, .ok .unit, [])
  | .setSpace ns => pure ({ st with client := st.client.withSpace ns }, .ok .unit, [])
  | .subscribe topic group autoAck h =>
    let (st, r) := runOp st (Op.subscribe topic group autoAck h)
    pure (st, r.map fun _ => .unit, [])
  | .unsubscribe topic group =>
    let (st, r) := runOp st (Op.unsubscribe topic group)
    pure (st, r.map fun _ => .unit, [])
  | .subscriptions => pure (st, .ok (.subscriptions st.client.registry.entries), [])
  | .publish topic m tran => do
    let (st, m) ← match tran with
      | none => pure (st, m)
      | some name => do
        let (t, m) := (← transaction st name).bind m
        pure (storeTransaction st name t, m)
    let (st, r) := runOp st (Op.publish topic m)
    pure (st, r.map fun _ => .unit, [])
  | .unpublish topic key =>
    let (st, r) := runOp st (Op.unpublish topic key)
    pure (st, r.map fun _ => .unit, [])
  | .sendTo peer m timeout =>
    let (st, r) := runOp st (Op.sendTo m peer timeout)
    pure (st, r.map .reply, [])
  | .listen h => let (st, r) := runOp st (Op.listen h); pure (st, r.map fun _ => .unit, [])
  | .checkback h => let (st, r) := runOp st (Op.onCheckback h); pure (st, r.map fun _ => .unit, [])
  | .newTransaction name =>
    let (st', r) := runOp st (Op.beginTransaction (tmidOf (st.issued + 1)))
    match r with
    | .ok t => pure ({ storeTransaction st' name t with issued := st.issued + 1 },
        .ok (.transaction t.tmid), [])
    | .error e => pure (st', .error e, [])
  | .bind name m => do
    let (t, m) := (← transaction st name).bind m
    pure (storeTransaction st name t, .ok (.message m), [])
  | .transactionKeys name => do pure (st, .ok (.keys (← transaction st name).keys), [])
  | .commit name => do
    let t ← transaction st name
    let st := { st with transactions := st.transactions.filter (·.1 != name) }
    let (st, r) := runOp st (Op.commit t)
    pure (st, r.map fun _ => .unit, [])
  | .rollback name => do
    let t ← transaction st name
    let st := { st with transactions := st.transactions.filter (·.1 != name) }
    let (st, r) := runOp st (Op.rollback t)
    pure (st, r.map fun _ => .unit, [])
  | .deliver r frame => do
    let (g, i) ← locate st.client r
    let (runs, c) := (Dispatch.deliver g i frame).run st.client
    pure ({ st with client := c }, .ok .unit, runs)
  | .reopen r => do
    let (g, i) ← locate st.client r
    let (st, _) := runOp st (Op.reopen g i)
    pure (st, .ok .unit, [])
  | .setValid r v => do pure (← touch st r fun s => { s with valid := v }, .ok .unit, [])
  | .failReplies r f => do pure (← touch st r fun s => { s with failReplies := f }, .ok .unit, [])
  | .sessionRules r rules => do
    pure (← touch st r fun s => { s with rules := some rules }, .ok .unit, [])
  | .rules rules =>
    pure ({ st with client := { st.client with hub := { st.client.hub with rules := rules } } },
      .ok .unit, [])
  | .busySessions => pure ({ st with busy := [] }, .ok (.count st.busy.length), [])
  | .lastConfig =>
    pure (st, .ok (.config st.client.hub.openings.length st.client.hub.openings.getLast?), [])

/-- Runs the steps of a script in order. -/
def run (tmidOf : Nat → String) (st : ScriptState) : List Step → Except String (List StepResult)
  | [] => pure []
  | s :: rest => do
    let before := sentCounts st.client.hub
    let (st', outcome, runs) ← step tmidOf st s
    let traffic := newTraffic st'.client.hub before
    let busy := traffic.foldl (fun acc t =>
      if acc.contains (t.group, t.session) then acc else acc ++ [(t.group, t.session)]) st'.busy
    let results ← run tmidOf { st' with busy := busy } rest
    pure (⟨outcome, traffic, runs⟩ :: results)

end Script

end BrokerClient
