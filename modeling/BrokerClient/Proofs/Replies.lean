import BrokerClient.Proofs.Routing
/-!
# What the dispatcher answers

Run equations for the dispatcher, one per path a frame can take (`deliver_distribute`,
`deliver_request`, `deliver_other`, `consume_none`, `consume_some`, `onRequest_none`,
`onRequest_some`), each in the form `Dispatch.Leaves`: the handler runs reported, and the frames
recorded on the frame's session, which is all that changes. A reply is recorded only when the
session is open and does not fail replies (`Session.replied`).

Replies leave by two paths. An acknowledgement goes through `Inbound.acknowledgeWith`, which
drops it for a frame sent at most once; the alarms of an empty request slot and of a failed
request handler are sent by the dispatcher on the session directly, and do not look at the
quality of service. For a frame that expects a reply both paths answer
(`dispatch_replies_when_confirmed`); for a frame sent at most once the first path is silent and
the second is not (`dispatch_at_most_once_alarms`).
-/

namespace BrokerClient

/-! ### Sessions that reply -/

namespace Session

/-- Whether a session sends replies: it is open and does not fail them. -/
def mayReply (s : Session) : Bool := s.valid && !s.failReplies

/-- The session after recording frames, in order. -/
def recordAll (s : Session) (os : List Outbound) : Session := { s with sent := s.sent ++ os }

@[simp] theorem recordAll_nil (s : Session) : s.recordAll [] = s := by
  simp [recordAll]

/-- What a reply records: the reply, when the session sends replies, else nothing. -/
def replied (s : Session) (o : Outbound) : List Outbound := if s.mayReply then [o] else []

theorem replyAlarm_fst (s : Session) (frame : Frame) (text : String) :
    (s.replyAlarm frame text).1 = s.recordAll (s.replied (.alarm frame.sid text)) := by
  unfold replyAlarm replyCheck replied mayReply
  rcases s with ⟨id, _ | _, _ | _, rules, sent⟩ <;> simp [record, recordAll]

theorem replyAck_fst (s : Session) (frame : Frame) (e : Entity) :
    (s.replyAck frame e).1 = s.recordAll (s.replied (.ack frame.sid e)) := by
  unfold replyAck replyCheck replied mayReply
  rcases s with ⟨id, _ | _, _ | _, rules, sent⟩ <;> simp [record, recordAll]

/-- What a request handler's outcome records: an alarm that reports its failure, when the session
sends replies. -/
def failureAlarm (s : Session) (frame : Frame) : Except String Unit → List Outbound
  | .ok () => []
  | .error e => s.replied (.alarm frame.sid ("Client request handle error: " ++ e))

end Session

@[simp] theorem Hub.updateSession_recordAll_nil (h : Hub) (g i : Nat) :
    h.updateSession g i (·.recordAll []) = h := by
  simp only [Session.recordAll_nil]
  exact Hub.updateSession_id h g i

namespace Inbound

/-- The entity that accepts or rejects a delivery. -/
def ackEntity (ok : Bool) : Entity := ({} : Entity).put Meta.ack (if ok then "1" else "0")

theorem acknowledge_fst {m : Inbound} (hq : m.qos = .atLeastOnce) (s : Session) (ok : Bool) :
    (m.acknowledgeWith s ok (.plain {})).1 =
      s.recordAll (s.replied (.ack m.frame.sid (ackEntity ok))) := by
  unfold acknowledgeWith
  rw [hq]
  cases hv : s.valid
  · simp [hv, Session.replied, Session.mayReply]
  · exact Session.replyAck_fst s m.frame _

theorem qos_of_flag {m : Inbound}
    (h : ∀ q, m.frame.entity.meta? Meta.qos = some q → Text.trimBlank q ≠ "0") :
    m.qos = .atLeastOnce := by
  unfold qos Qos.ofFlag Entity.metaOr
  rcases hm : m.frame.entity.meta? Meta.qos with _ | q
  · rfl
  · simp [h q hm]

theorem qos_of_flag_zero {m : Inbound} {q : String} (h : m.frame.entity.meta? Meta.qos = some q)
    (h0 : Text.trimBlank q = "0") : m.qos = .atMostOnce := by
  simp [qos, Qos.ofFlag, Entity.metaOr, h, h0]

theorem acknowledgeWith_of_atMostOnce {m : Inbound} (hq : m.qos = .atMostOnce) (s : Session)
    (ok : Bool) (reply : Reply) : m.acknowledgeWith s ok reply = (s, .ok ()) := by
  simp [acknowledgeWith, hq]

end Inbound

/-! ### Scripts of handlers -/

namespace Reaction

/-- A script that sends no reply itself: it is empty, or it finishes, fails or crashes at its
first reaction. -/
def Quiet : List Reaction → Prop
  | [] => True
  | .finish :: _ => True
  | .fail _ :: _ => True
  | .crash _ :: _ => True
  | _ => False

/-- How a script ends when its acknowledgements change nothing: at its first reaction that
finishes, fails or crashes, or at its end. -/
def ending : List Reaction → Except String Unit
  | [] => .ok ()
  | .finish :: _ => .ok ()
  | .fail t :: _ => .error t
  | .crash note :: _ => .error note.message
  | _ :: rest => ending rest

end Reaction

namespace Dispatch

theorem run_bind {α β : Type} (x : StateM Client α) (f : α → StateM Client β) (c : Client) :
    (x >>= f).run c = (f (x.run c).1).run (x.run c).2 := rfl

theorem get_run (c : Client) : (get : StateM Client Client).run c = (c, c) := rfl

theorem acknowledge_run {c : Client} {g i : Nat} {s : Session} (hs : c.hub.session? g i = some s)
    (m : Inbound) (ok : Bool) (reply : Reply) :
    (acknowledge g i m ok reply).run c =
      ((m.acknowledgeWith s ok reply).2,
        { c with hub := c.hub.updateSession g i fun _ => (m.acknowledgeWith s ok reply).1 }) := by
  simp only [acknowledge, bind, StateT.bind, get, getThe, MonadStateOf.get, StateT.get, StateT.run,
    hs, pure]
  rfl

theorem alarm_run {c : Client} {g i : Nat} {s : Session} (hs : c.hub.session? g i = some s)
    (m : Inbound) (text : String) :
    (alarm g i m text).run c =
      ((), { c with hub := c.hub.updateSession g i fun _ => (s.replyAlarm m.frame text).1 }) := by
  simp only [alarm, bind, StateT.bind, get, getThe, MonadStateOf.get, StateT.get, StateT.run, hs,
    pure]
  rfl

theorem acknowledge_atMostOnce {c : Client} {g i : Nat} {s : Session}
    (hs : c.hub.session? g i = some s) {m : Inbound} (hq : m.qos = .atMostOnce) (ok : Bool)
    (reply : Reply) : (acknowledge g i m ok reply).run c = (.ok (), c) := by
  rw [acknowledge_run hs, Inbound.acknowledgeWith_of_atMostOnce hq,
    Hub.updateSession_of_session? hs]

theorem runScript_quiet (g i : Nat) (m : Inbound) {rs : List Reaction} (h : Reaction.Quiet rs)
    (c : Client) : (runScript g i m rs).run c = ((Reaction.ending rs, []), c) := by
  match rs, h with
  | [], _ => rfl
  | .finish :: _, _ => rfl
  | .fail _ :: _, _ => rfl
  | .crash _ :: _, _ => rfl

/-- For a message sent at most once, a script's acknowledgements all succeed and change nothing,
so the script leaves the client alone and reports how it ends. -/
theorem runScript_atMostOnce {c : Client} {g i : Nat} {s : Session}
    (hs : c.hub.session? g i = some s) {m : Inbound} (hq : m.qos = .atMostOnce) :
    ∀ rs, ∃ acks, (runScript g i m rs).run c = ((Reaction.ending rs, acks), c)
  | [] => ⟨[], rfl⟩
  | r :: rest => by
    obtain ⟨acks, ih⟩ := runScript_atMostOnce hs hq rest
    cases r with
    | finish | fail _ | crash _ => exact ⟨[], rfl⟩
    | ack _ | ackWith _ _ | alarm _ _ | vote _ =>
      -- the acknowledgement succeeds without a trace, and the script goes on
      refine ⟨.ok () :: acks, ?_⟩
      have hack := acknowledge_atMostOnce hs hq
      simp only [runScript, bind, StateT.bind, StateT.run] at ih hack ⊢
      rw [hack]
      simp only [StateT.bind, ih]
      rfl

theorem updateSession_recordAll {h : Hub} {g i : Nat} {s : Session} (hs : h.session? g i = some s)
    (os : List Outbound) : h.updateSession g i (fun _ => s.recordAll os) =
      h.updateSession g i (·.recordAll os) :=
  Hub.updateSession_congr hs rfl

theorem deliver_request {c : Client} {g i : Nat} {s : Session} (hs : c.hub.session? g i = some s)
    {frame : Frame} (he : Event.ofWireName? frame.event = some .request) :
    (deliver g i frame).run c = (onRequest g i ⟨s.id, frame⟩).run c := by
  simp only [deliver, bind, StateT.bind, get, getThe, MonadStateOf.get, StateT.get, StateT.run,
    hs, he, pure]

theorem deliver_other {c : Client} {g i : Nat} {s : Session} (hs : c.hub.session? g i = some s)
    {frame : Frame} (hd : Event.ofWireName? frame.event ≠ some .distribute)
    (hr : Event.ofWireName? frame.event ≠ some .request) :
    (deliver g i frame).run c = ([], c) := by
  simp only [deliver, bind, StateT.bind, get, getThe, MonadStateOf.get, StateT.get, StateT.run,
    hs, pure]
  rfl

theorem consume_none {c : Client} {g i : Nat} {s : Session} (hs : c.hub.session? g i = some s)
    {m : Inbound} (hq : m.qos = .atLeastOnce) :
    (consume g i m none).run c =
      ([], { c with hub := (c.hub.updateSession g i
        (·.recordAll (s.replied (.ack m.frame.sid (Inbound.ackEntity false))))) }) := by
  rw [consume, run_bind, acknowledge_run hs, Inbound.acknowledge_fst hq, updateSession_recordAll hs]
  rfl

/-- A subscription runs its handler once, and acknowledges by the handler's outcome when it
acknowledges automatically. -/
theorem consume_some {c : Client} {g i : Nat} {s : Session} (hs : c.hub.session? g i = some s)
    {m : Inbound} (hq : m.qos = .atLeastOnce) {sub : Subscription} {res : Except String Unit}
    {acks : List (Except TransportError Unit)}
    (hrun : (runScript g i m sub.handler.script).run c = ((res, acks), c)) :
    (consume g i m (some sub)).run c =
      ([⟨m, sub.handler.label, acks⟩], { c with hub := (c.hub.updateSession g i
        (·.recordAll (if sub.autoAck then
          s.replied (.ack m.frame.sid (Inbound.ackEntity res.isOk)) else []))) }) := by
  rw [consume, run_bind, hrun]
  cases ha : sub.autoAck
  · simp only [Bool.false_eq_true, if_false, Hub.updateSession_recordAll_nil]
    rfl
  · simp only [if_true]
    rw [run_bind, acknowledge_run hs, Inbound.acknowledge_fst hq, updateSession_recordAll hs]
    -- the code matches on the outcome where the statement asks whether it is a success
    cases res <;> rfl

/-- For a message sent at most once, a delivery leaves the client alone, whichever subscription
it goes to and whatever the handler does. -/
theorem consume_atMostOnce {c : Client} {g i : Nat} {s : Session} (hs : c.hub.session? g i = some s)
    {m : Inbound} (hq : m.qos = .atMostOnce) (sub? : Option Subscription) :
    ∃ runs, (consume g i m sub?).run c = (runs, c) := by
  rcases sub? with _ | sub
  · exact ⟨[], by rw [consume, run_bind, acknowledge_atMostOnce hs hq]; rfl⟩
  · obtain ⟨acks, hrun⟩ := runScript_atMostOnce hs hq sub.handler.script
    refine ⟨[⟨m, sub.handler.label, acks⟩], ?_⟩
    rw [consume, run_bind, hrun]
    cases sub.autoAck
    · rfl
    · simp only [if_true]
      rw [run_bind, acknowledge_atMostOnce hs hq]
      rfl

theorem onRequest_none {c : Client} {g i : Nat} {s : Session} (hs : c.hub.session? g i = some s)
    {frame : Frame} (hslot : (c.requestSlot frame).1 = none) :
    (onRequest g i ⟨s.id, frame⟩).run c =
      ([], { c with hub := (c.hub.updateSession g i
        (·.recordAll (s.replied (.alarm frame.sid (c.requestSlot frame).2)))) }) := by
  unfold onRequest
  rw [run_bind, get_run c]
  -- past the choice of slot, the two kinds of request are handled alike
  generalize c.requestSlot frame = p at hslot ⊢
  obtain ⟨slot, missing⟩ := p
  dsimp only at hslot ⊢
  subst hslot
  rw [run_bind, alarm_run hs, Session.replyAlarm_fst, updateSession_recordAll hs]
  rfl

/-- A request whose slot holds a handler runs it once, and raises an alarm when the handler
fails while its session is open, if the session sends replies. -/
theorem onRequest_some {c : Client} {g i : Nat} {s : Session} (hs : c.hub.session? g i = some s)
    {frame : Frame} {h : Handler} (hslot : (c.requestSlot frame).1 = some h)
    {res : Except String Unit} {acks : List (Except TransportError Unit)}
    (hrun : (runScript g i ⟨s.id, frame⟩ h.script).run c = ((res, acks), c)) :
    (onRequest g i ⟨s.id, frame⟩).run c =
      ([⟨⟨s.id, frame⟩, h.label, acks⟩], { c with hub := (c.hub.updateSession g i
        (·.recordAll (s.failureAlarm frame res))) }) := by
  unfold onRequest
  rw [run_bind, get_run c]
  generalize c.requestSlot frame = p at hslot ⊢
  obtain ⟨slot, missing⟩ := p
  dsimp only at hslot ⊢
  subst hslot
  rw [run_bind, hrun]
  cases res with
  | ok u =>
    simp only [Session.failureAlarm, Hub.updateSession_recordAll_nil]
    rfl
  | error e =>
    dsimp only
    rw [run_bind, get_run c]
    dsimp only
    rw [hs, Session.failureAlarm]
    -- the dispatcher checks that the session is open, the session that it sends replies
    cases hv : s.valid
    · simp only [Option.any_some, hv, Bool.false_eq_true, if_false, Session.replied,
        Session.mayReply, Bool.false_and, Session.recordAll_nil]
      rw [show (fun s : Session => s) = id from rfl, Hub.updateSession_id]
      rfl
    · simp only [Option.any_some, hv, if_true]
      rw [run_bind, alarm_run hs, Session.replyAlarm_fst, updateSession_recordAll hs]
      rfl

end Dispatch

/-- Dispatching a frame on the session at `(g, i)` reports the handler runs `runs` and records
`replies` on that session, and changes nothing else. -/
def Dispatch.Leaves (c : Client) (g i : Nat) (frame : Frame) (runs : List HandlerRun)
    (replies : List Outbound) : Prop :=
  (Dispatch.deliver g i frame).run c =
    (runs, { c with hub := c.hub.updateSession g i (·.recordAll replies) })

/-! ### Frames that expect a reply -/

/-- **Replies to confirmed frames.** A frame whose quality-of-service meta is absent or does not
trim to `0`, received on a session, with handlers that finish, fail or crash without replying
themselves: a delivery without a subscription is rejected; a subscription's handler runs once,
and an automatic acknowledgement accepts or rejects by its outcome; a request runs the handler
of its slot once, or raises the alarm of an empty slot, and a handler's failure raises an alarm
with its error; any other frame is ignored. Each reply is recorded exactly when the session is
open and does not fail replies, and nothing else changes. -/
theorem dispatch_replies_when_confirmed {c : Client} {g i : Nat} {s : Session}
    (hs : c.hub.session? g i = some s) (frame : Frame)
    (hq : ∀ q, frame.entity.meta? Meta.qos = some q → Text.trimBlank q ≠ "0") :
    (Event.ofWireName? frame.event = some .distribute →
      c.registry.lookup (frame.entity.metaOr Meta.topic "") (frame.entity.metaOr Meta.group "") =
        none →
      Dispatch.Leaves c g i frame [] (s.replied (.ack frame.sid (Inbound.ackEntity false)))) ∧
    (∀ sub, Event.ofWireName? frame.event = some .distribute →
      c.registry.lookup (frame.entity.metaOr Meta.topic "") (frame.entity.metaOr Meta.group "") =
        some sub →
      Reaction.Quiet sub.handler.script →
      Dispatch.Leaves c g i frame [⟨⟨s.id, frame⟩, sub.handler.label, []⟩]
        (if sub.autoAck then
          s.replied (.ack frame.sid (Inbound.ackEntity (Reaction.ending sub.handler.script).isOk))
        else [])) ∧
    (Event.ofWireName? frame.event = some .request → (c.requestSlot frame).1 = none →
      Dispatch.Leaves c g i frame [] (s.replied (.alarm frame.sid (c.requestSlot frame).2))) ∧
    (∀ h, Event.ofWireName? frame.event = some .request → (c.requestSlot frame).1 = some h →
      Reaction.Quiet h.script →
      Dispatch.Leaves c g i frame [⟨⟨s.id, frame⟩, h.label, []⟩]
        (s.failureAlarm frame (Reaction.ending h.script))) ∧
    (Event.ofWireName? frame.event ≠ some .distribute →
      Event.ofWireName? frame.event ≠ some .request → Dispatch.Leaves c g i frame [] []) := by
  have hq' : (⟨s.id, frame⟩ : Inbound).qos = .atLeastOnce := Inbound.qos_of_flag hq
  refine ⟨fun he hl => ?_, fun sub he hl hquiet => ?_, fun he hslot => ?_,
    fun h he hslot hquiet => ?_, fun hd hr => ?_⟩
  · rw [Dispatch.Leaves, Dispatch.deliver_distribute hs he, hl, Dispatch.consume_none hs hq']
  · rw [Dispatch.Leaves, Dispatch.deliver_distribute hs he, hl,
      Dispatch.consume_some hs hq' (Dispatch.runScript_quiet g i _ hquiet c)]
  · rw [Dispatch.Leaves, Dispatch.deliver_request hs he, Dispatch.onRequest_none hs hslot]
  · rw [Dispatch.Leaves, Dispatch.deliver_request hs he,
      Dispatch.onRequest_some hs hslot (Dispatch.runScript_quiet g i _ hquiet c)]
  · rw [Dispatch.Leaves, Dispatch.deliver_other hs hd hr, Hub.updateSession_recordAll_nil]

/-- A request on the only session of a broker, to a client without a request handler. -/
theorem dispatch_replies_when_confirmed_example :
    let c : Client := { urls := [], hub := { width := 1, groups := [⟨[{ id := "s0" }], 0⟩] } }
    let frame : Frame := { sid := "r1", event := "request", entity := {} }
    (c.hub.session? 0 0 = some { id := "s0" } ∧
      ∀ q, frame.entity.meta? Meta.qos = some q → Text.trimBlank q ≠ "0") ∧
    (Event.ofWireName? frame.event = some .request → (c.requestSlot frame).1 = none →
      Dispatch.Leaves c 0 0 frame []
        (({ id := "s0" } : Session).replied (.alarm frame.sid (c.requestSlot frame).2))) := by
  intro c frame
  have hs : c.hub.session? 0 0 = some { id := "s0" } := rfl
  have hq : ∀ q, frame.entity.meta? Meta.qos = some q → Text.trimBlank q ≠ "0" := by
    intro q h
    simp [frame, Entity.meta?, Metas.get?, Metas.empty] at h
  exact ⟨⟨hs, hq⟩, (dispatch_replies_when_confirmed hs frame hq).2.2.1⟩

/-! ### Frames sent at most once -/

/-- **Replies to frames sent at most once.** A frame whose quality-of-service meta trims to `0`,
received on a session, whatever its event and metas, the registry, the handler slots and what
the handlers do: no acknowledgement is ever recorded, neither by a handler nor by the
dispatcher. The dispatcher's own alarms still are: a request whose slot is empty, or whose
handler fails, records its alarm when the session is open and does not fail replies. Nothing
else is recorded and nothing else changes. -/
theorem dispatch_at_most_once_alarms {c : Client} {g i : Nat} {s : Session}
    (hs : c.hub.session? g i = some s) (frame : Frame) {q : String}
    (hq : frame.entity.meta? Meta.qos = some q) (h0 : Text.trimBlank q = "0") :
    ∃ runs, Dispatch.Leaves c g i frame runs
      (if Event.ofWireName? frame.event = some .request then
        match (c.requestSlot frame).1 with
        | none => s.replied (.alarm frame.sid (c.requestSlot frame).2)
        | some h => s.failureAlarm frame (Reaction.ending h.script)
      else []) := by
  have hq0 : (⟨s.id, frame⟩ : Inbound).qos = .atMostOnce := Inbound.qos_of_flag_zero hq h0
  by_cases hr : Event.ofWireName? frame.event = some .request
  · -- the alarms of the request path do not look at the quality of service
    rw [if_pos hr]
    rcases hslot : (c.requestSlot frame).1 with _ | h
    · exact ⟨[], by rw [Dispatch.Leaves, Dispatch.deliver_request hs hr,
        Dispatch.onRequest_none hs hslot]⟩
    · obtain ⟨acks, hrun⟩ := Dispatch.runScript_atMostOnce hs hq0 h.script
      exact ⟨_, by rw [Dispatch.Leaves, Dispatch.deliver_request hs hr,
        Dispatch.onRequest_some hs hslot hrun]⟩
  · simp only [if_neg hr, Dispatch.Leaves, Hub.updateSession_recordAll_nil]
    by_cases hd : Event.ofWireName? frame.event = some .distribute
    · rw [Dispatch.deliver_distribute hs hd]
      exact Dispatch.consume_atMostOnce hs hq0 _
    · exact ⟨[], Dispatch.deliver_other hs hd hr⟩

/-- A request sent at most once, to a client without a request handler, on an open session: the
alarm of the empty slot is recorded. -/
theorem dispatch_at_most_once_alarms_example :
    let c : Client := { urls := [], hub := { width := 1, groups := [⟨[{ id := "s0" }], 0⟩] } }
    let frame : Frame := { sid := "r1", event := "request", entity := ({} : Entity).put Meta.qos "0" }
    (c.hub.session? 0 0 = some { id := "s0" } ∧ frame.entity.meta? Meta.qos = some "0" ∧
      Text.trimBlank "0" = "0") ∧
    ∃ runs, Dispatch.Leaves c 0 0 frame runs
      (if Event.ofWireName? frame.event = some .request then
        match (c.requestSlot frame).1 with
        | none => ({ id := "s0" } : Session).replied (.alarm frame.sid (c.requestSlot frame).2)
        | some h => ({ id := "s0" } : Session).failureAlarm frame (Reaction.ending h.script)
      else []) := by
  intro c frame
  have hs : c.hub.session? 0 0 = some { id := "s0" } := rfl
  have hq : frame.entity.meta? Meta.qos = some "0" := rfl
  have h0 : Text.trimBlank "0" = "0" := by decide
  exact ⟨⟨hs, hq, h0⟩, dispatch_at_most_once_alarms hs frame hq h0⟩

end BrokerClient
