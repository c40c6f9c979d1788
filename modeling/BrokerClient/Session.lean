import BrokerClient.Entity
import BrokerClient.Event
import BrokerClient.Error
/-!
Sessions of the in-memory broker. A session sends frames, records every frame it sends, and
answers requests by rules: the first rule whose event and metas match gives the answer, a rule
may give none so that the request times out, and without a matching rule the broker confirms.
A closed session sends nothing; a session told to fail replies refuses acknowledgements and
alarms with a connection error.
-/

namespace BrokerClient

/-- A frame received from the broker: its stream id, its event name and its entity. -/
structure Frame where
  sid : String
  event : String
  entity : Entity
  deriving DecidableEq, Repr

/-- A frame that a session sent. -/
inductive Outbound where
  /-- A frame that expects no answer. -/
  | send (event : Event) (entity : Entity)
  /-- A frame that expects an answer. -/
  | request (event : Event) (entity : Entity)
  /-- An acknowledgement of a received frame. -/
  | ack (sid : String) (entity : Entity)
  /-- An alarm in answer to a received frame. -/
  | alarm (sid : String) (text : String)
  deriving DecidableEq, Repr

/-- How the in-memory broker answers some requests. -/
structure Rule where
  /-- The event the rule is for, or every event. -/
  event : Option Event := none
  /-- Metas the request must carry with these values; `none` means the meta is absent. -/
  metas : List (String × Option String) := []
  /-- The answer, or none for a request that times out. -/
  reply : Option Entity
  deriving DecidableEq, Repr

/-- Whether a rule applies to a request. -/
def Rule.applies (r : Rule) (event : Event) (entity : Entity) : Bool :=
  (match r.event with
    | some e => e == event
    | none => true) &&
  r.metas.all fun (name, value) => entity.meta? name == value

/-- The confirmation the broker gives when no rule applies. -/
def confirmation : Entity := ({} : Entity).put Meta.confirm "1"

/-- The answer of the rules to a request: that of the first rule that applies, or a
confirmation. -/
def answerOf (rules : List Rule) (event : Event) (entity : Entity) : Option Entity :=
  match rules.find? (·.applies event entity) with
  | some r => r.reply
  | none => some confirmation

/-- The configuration a session group is opened with. -/
structure SessionConfig where
  metas : Metas := .empty
  heartbeat : Duration := ⟨6000⟩
  requestTimeout : Duration := ⟨10000⟩
  ioThreads : Nat := 1
  codecThreads : Nat := 1
  exchangeThreads : Nat := 1
  deriving DecidableEq, Repr

/-- A session of the in-memory broker. -/
structure Session where
  /-- The session id. -/
  id : String
  /-- Whether the session is open. -/
  valid : Bool := true
  /-- Whether acknowledgements and alarms are refused. -/
  failReplies : Bool := false
  /-- Rules of this session alone, in place of the broker's. -/
  rules : Option (List Rule) := none
  /-- Every frame the session sent, oldest first. -/
  sent : List Outbound := []
  deriving DecidableEq, Repr

namespace Session

/-- The session after recording a frame. -/
def record (s : Session) (o : Outbound) : Session := { s with sent := s.sent ++ [o] }

@[simp] theorem record_sent (s : Session) (o : Outbound) : (s.record o).sent = s.sent ++ [o] := rfl
@[simp] theorem record_valid (s : Session) (o : Outbound) : (s.record o).valid = s.valid := rfl
@[simp] theorem record_rules (s : Session) (o : Outbound) : (s.record o).rules = s.rules := rfl
@[simp] theorem record_failReplies (s : Session) (o : Outbound) :
    (s.record o).failReplies = s.failReplies := rfl
@[simp] theorem record_id (s : Session) (o : Outbound) : (s.record o).id = s.id := rfl

/-- Sends a frame that expects no answer; a closed session refuses it. -/
def send (s : Session) (event : Event) (entity : Entity) :
    Session × Except TransportError Unit :=
  if s.valid then (s.record (.send event entity), .ok ()) else (s, .error .closed)

/-- Sends a request and takes the answer of the rules, `shared` unless the session has its
own; without an answer the request times out. A closed session refuses it. -/
def request (s : Session) (shared : List Rule) (event : Event) (entity : Entity)
    (timeout : Duration) : Session × Except TransportError Entity :=
  if s.valid then
    let s' := s.record (.request event entity)
    match answerOf (s.rules.getD shared) event entity with
    | some answer => (s', .ok answer)
    | none => (s', .error (.timeout timeout))
  else (s, .error .closed)

/-- An open session records the request and answers by the rules that apply to it. -/
theorem request_of_valid {s : Session} (hv : s.valid = true) (shared : List Rule) (event : Event)
    (entity : Entity) (timeout : Duration) :
    s.request shared event entity timeout =
      (s.record (.request event entity),
        match answerOf (s.rules.getD shared) event entity with
        | some answer => .ok answer
        | none => .error (.timeout timeout)) := by
  simp only [request, hv, if_true]
  split <;> rfl

/-- A closed session refuses a request and stays as it is. -/
theorem request_of_not_valid {s : Session} (hv : s.valid = false) (shared : List Rule)
    (event : Event) (entity : Entity) (timeout : Duration) :
    s.request shared event entity timeout = (s, .error .closed) := by
  simp [request, hv]

/-- Whether the session may reply: it is open and does not fail replies. -/
def replyCheck (s : Session) : Except TransportError Unit :=
  if !s.valid then .error .closed
  else if s.failReplies then .error (.connection ("reply rejected by session " ++ s.id))
  else .ok ()

/-- Acknowledges a received frame with an entity. -/
def replyAck (s : Session) (frame : Frame) (entity : Entity) :
    Session × Except TransportError Unit :=
  match s.replyCheck with
  | .ok () => (s.record (.ack frame.sid entity), .ok ())
  | .error e => (s, .error e)

/-- Answers a received frame with an alarm. -/
def replyAlarm (s : Session) (frame : Frame) (text : String) :
    Session × Except TransportError Unit :=
  match s.replyCheck with
  | .ok () => (s.record (.alarm frame.sid text), .ok ())
  | .error e => (s, .error e)

end Session

end BrokerClient
