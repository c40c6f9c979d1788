import BrokerClient.Proofs.Replies
/-!
# Replies made by handlers

A handler may answer the frame it is handed itself, with an acknowledgement or an alarm, and the
dispatcher does not know that it did: after the handler, a subscription that acknowledges
automatically still accepts or rejects the delivery, and a request handler that fails is still
reported by an alarm. So a frame that expects a reply, given to a handler that replies at most
once, records the handler's reply, if it made one, and then the dispatcher's
(`dispatcher_replies_after_handler`): two replies for one frame when both reply and the session
sends replies.

A script whose first reaction replies and whose rest is quiet records that reply and ends as its
rest does (`Dispatch.runScript_replyFirst`). The dispatcher's two paths that run a handler are
then run from whatever the script left on the session (`Dispatch.consume_after`,
`Dispatch.onRequest_after`).
-/

namespace BrokerClient

/-! ### Sessions that record twice -/

namespace Session

@[simp] theorem recordAll_recordAll (s : Session) (a b : List Outbound) :
    (s.recordAll a).recordAll b = s.recordAll (a ++ b) := by
  simp [recordAll]

@[simp] theorem valid_recordAll (s : Session) (os : List Outbound) :
    (s.recordAll os).valid = s.valid := rfl

@[simp] theorem replied_recordAll (s : Session) (os : List Outbound) (o : Outbound) :
    (s.recordAll os).replied o = s.replied o := rfl

@[simp] theorem failureAlarm_recordAll (s : Session) (os : List Outbound) (frame : Frame)
    (res : Except String Unit) : (s.recordAll os).failureAlarm frame res = s.failureAlarm frame res := by
  cases res <;> rfl

theorem replied_of_not_mayReply {s : Session} (h : s.mayReply ≠ true) (o : Outbound) :
    s.replied o = [] := by
  simp [replied, h]

theorem failureAlarm_of_not_mayReply {s : Session} (h : s.mayReply ≠ true) (frame : Frame)
    (res : Except String Unit) : s.failureAlarm frame res = [] := by
  cases res <;> simp [failureAlarm, replied_of_not_mayReply h]

theorem recordAll_comp (a b : List Outbound) :
    ((fun s : Session => s.recordAll b) ∘ fun s : Session => s.recordAll a) =
      fun s : Session => s.recordAll (a ++ b) := by
  funext s
  simp

end Session

theorem Hub.updateSession_updateSession (h : Hub) (g i : Nat) (f k : Session → Session) :
    (h.updateSession g i f).updateSession g i k = h.updateSession g i (k ∘ f) := by
  simp only [Hub.updateSession, Hub.updateGroup, List.modify_modify_eq]
  congr 2
  funext grp
  simp only [Function.comp, Group.update, List.modify_modify_eq]

/-! ### Replies of reactions -/

namespace Reaction

/-- The reply a reaction makes to a message, with the flag it accepts or rejects by; none for a
reaction that finishes, fails or crashes. -/
def reply? (m : Inbound) : Reaction → Option (Bool × Reply)
  | .ack ok => some (ok, .plain {})
  | .ackWith ok e => some (ok, .plain e)
  | .alarm ok t => some (ok, .alarm t)
  | .vote rejected => some (!rejected.contains m.key, .plain {})
  | _ => none

/-- The reply a script makes with its first reaction, if that reaction replies. -/
def firstReply? (m : Inbound) : List Reaction → Option (Bool × Reply)
  | r :: _ => r.reply? m
  | [] => none

/-- A script that replies at most once: it makes no reply, or its first reaction replies and the
rest makes none. -/
def RepliesAtMostOnce (m : Inbound) (rs : List Reaction) : Prop :=
  Quiet rs ∨ ∃ r rest, rs = r :: rest ∧ (r.reply? m).isSome ∧ Quiet rest

theorem ending_cons_of_reply {m : Inbound} {r : Reaction} (h : (r.reply? m).isSome)
    (rest : List Reaction) : ending (r :: rest) = ending rest := by
  cases r <;> simp_all [reply?, ending]

theorem firstReply?_of_quiet (m : Inbound) {rs : List Reaction} (h : Quiet rs) :
    firstReply? m rs = none := by
  match rs, h with
  | [], _ => rfl
  | .finish :: _, _ => rfl
  | .fail _ :: _, _ => rfl
  | .crash _ :: _, _ => rfl

end Reaction

namespace Inbound

/-- The frame that answers a message with a reply: an alarm, or the reply entity marked accepted
or rejected. -/
def replyFrame (m : Inbound) (ok : Bool) : Reply → Outbound
  | .alarm text => .alarm m.frame.sid text
  | .plain e => .ack m.frame.sid (e.put Meta.ack (if ok then "1" else "0"))

theorem acknowledgeWith_fst {m : Inbound} (hq : m.qos = .atLeastOnce) (s : Session) (ok : Bool)
    (reply : Reply) :
    (m.acknowledgeWith s ok reply).1 = s.recordAll (s.replied (m.replyFrame ok reply)) := by
  unfold acknowledgeWith
  rw [hq]
  cases hv : s.valid
  · simp [hv, Session.replied, Session.mayReply]
  · cases reply with
    | alarm text => exact Session.replyAlarm_fst s m.frame text
    | plain e => exact Session.replyAck_fst s m.frame _

theorem acknowledgeWith_snd {m : Inbound} (hq : m.qos = .atLeastOnce) {s : Session}
    (h : s.mayReply = true) (ok : Bool) (reply : Reply) :
    (m.acknowledgeWith s ok reply).2 = .ok () := by
  obtain ⟨hv, hf⟩ : s.valid = true ∧ s.failReplies = false := by
    simpa [Session.mayReply] using h
  unfold acknowledgeWith
  rw [hq]
  cases reply <;> simp [hv, hf, Session.replyAlarm, Session.replyAck, Session.replyCheck]

end Inbound

/-- What a script's own first reply leaves on a session: the reply, when the script's first
reaction makes one and the session sends replies. -/
def Session.handlerReplies (s : Session) (m : Inbound) (rs : List Reaction) : List Outbound :=
  match Reaction.firstReply? m rs with
  | some (ok, reply) => s.replied (m.replyFrame ok reply)
  | none => []

namespace Dispatch

/-! ### Scripts that reply -/

theorem runScript_cons_of_reply {g i : Nat} {m : Inbound} {r : Reaction} {ok : Bool}
    {reply : Reply} (hr : r.reply? m = some (ok, reply)) (rest : List Reaction) (c : Client) :
    (runScript g i m (r :: rest)).run c =
      match (acknowledge g i m ok reply).run c with
      | (.ok (), c') =>
        let ((res, rs), c'') := (runScript g i m rest).run c'
        ((res, .ok () :: rs), c'')
      | (.error e, c') => ((.error e.message, [.error e]), c') := by
  cases r <;> simp only [Reaction.reply?, Option.some.injEq, Prod.mk.injEq, reduceCtorEq] at hr
  all_goals
    obtain ⟨rfl, rfl⟩ := hr
    simp only [runScript, bind, StateT.bind, StateT.run]
    rcases (acknowledge g i m _ _) c with ⟨_ | _, c'⟩ <;> rfl

/-- **A reply, then quiet.** A script whose first reaction replies to a message sent at least
once, and whose rest makes no reply, leaves that reply on the session when the session sends
replies, and then ends as its rest does. -/
theorem runScript_replyFirst {c : Client} {g i : Nat} {s : Session}
    (hs : c.hub.session? g i = some s) {m : Inbound} (hq : m.qos = .atLeastOnce) {r : Reaction}
    {ok : Bool} {reply : Reply} (hr : r.reply? m = some (ok, reply)) {rest : List Reaction}
    (hrest : Reaction.Quiet rest) :
    ∃ res acks, (runScript g i m (r :: rest)).run c =
        ((res, acks), { c with hub := (c.hub.updateSession g i
          (·.recordAll (s.replied (m.replyFrame ok reply)))) }) ∧
      (s.mayReply = true → res = Reaction.ending rest) := by
  have hack : (acknowledge g i m ok reply).run c = ((m.acknowledgeWith s ok reply).2,
      { c with hub := (c.hub.updateSession g i
        (·.recordAll (s.replied (m.replyFrame ok reply)))) }) := by
    rw [acknowledge_run hs, Inbound.acknowledgeWith_fst hq, updateSession_recordAll hs]
  rw [runScript_cons_of_reply hr, hack]
  cases h : (m.acknowledgeWith s ok reply).2 with
  | ok u =>
    -- the rest runs on the client the reply left, and changes nothing more
    refine ⟨Reaction.ending rest, [.ok ()], ?_, fun _ => rfl⟩
    dsimp only
    rw [runScript_quiet g i m hrest]
  | error e =>
    refine ⟨.error e.message, [.error e], rfl, fun hm => ?_⟩
    -- a session that sends replies does not refuse one
    rw [Inbound.acknowledgeWith_snd hq hm] at h
    cases h

/-- A script that replies at most once leaves its own reply, if any, on the session, and ends as
it ends when its acknowledgements go through, whenever the session sends replies. -/
theorem runScript_of_repliesAtMostOnce {c : Client} {g i : Nat} {s : Session}
    (hs : c.hub.session? g i = some s) {m : Inbound} (hq : m.qos = .atLeastOnce)
    {rs : List Reaction} (h : Reaction.RepliesAtMostOnce m rs) :
    ∃ res acks, (runScript g i m rs).run c =
        ((res, acks), { c with hub := c.hub.updateSession g i (·.recordAll (s.handlerReplies m rs)) }) ∧
      (s.mayReply = true → res = Reaction.ending rs) := by
  rcases h with hquiet | ⟨r, rest, rfl, hr, hrest⟩
  · -- a quiet script sends nothing of its own
    have hnone : s.handlerReplies m rs = [] := by
      simp [Session.handlerReplies, Reaction.firstReply?_of_quiet m hquiet]
    refine ⟨Reaction.ending rs, [], ?_, fun _ => rfl⟩
    rw [hnone, Hub.updateSession_recordAll_nil, runScript_quiet g i m hquiet]
  · obtain ⟨⟨ok, reply⟩, hreply⟩ := Option.isSome_iff_exists.1 hr
    obtain ⟨res, acks, hrun, hres⟩ := runScript_replyFirst hs hq hreply hrest
    have hown : s.handlerReplies m (r :: rest) = s.replied (m.replyFrame ok reply) := by
      simp [Session.handlerReplies, Reaction.firstReply?, hreply]
    refine ⟨res, acks, by rw [hown, hrun], fun hm => ?_⟩
    rw [hres hm, Reaction.ending_cons_of_reply hr]

/-! ### The dispatcher after a handler -/

theorem session?_recordAll {c : Client} {g i : Nat} {s : Session} (hs : c.hub.session? g i = some s)
    (os : List Outbound) :
    (c.hub.updateSession g i (·.recordAll os)).session? g i = some (s.recordAll os) := by
  simp [Hub.session?_updateSession, hs]

/-- A subscription's handler runs once and leaves what it sends on the session; then an
automatic acknowledgement accepts or rejects the delivery by the handler's outcome. -/
theorem consume_after {c : Client} {g i : Nat} {s : Session} (hs : c.hub.session? g i = some s)
    {m : Inbound} (hq : m.qos = .atLeastOnce) {sub : Subscription} {res : Except String Unit}
    {acks : List (Except TransportError Unit)} {own : List Outbound}
    (hrun : (runScript g i m sub.handler.script).run c =
      ((res, acks), { c with hub := c.hub.updateSession g i (·.recordAll own) })) :
    (consume g i m (some sub)).run c =
      ([⟨m, sub.handler.label, acks⟩], { c with hub := (c.hub.updateSession g i
        (·.recordAll (own ++ if sub.autoAck then
          s.replied (.ack m.frame.sid (Inbound.ackEntity res.isOk)) else []))) }) := by
  rw [consume, run_bind, hrun]
  cases ha : sub.autoAck
  · simp only [Bool.false_eq_true, if_false, List.append_nil]
    rfl
  · simp only [if_true]
    have hs' := session?_recordAll hs own
    rw [run_bind, acknowledge_run hs', Inbound.acknowledge_fst hq, updateSession_recordAll hs',
      Hub.updateSession_updateSession, Session.recordAll_comp, Session.replied_recordAll]
    -- the code matches on the outcome where the statement asks whether it is a success
    cases res <;> rfl

/-- A request handler runs once and leaves what it sends on the session; then its failure,
while the session is open, is reported by an alarm. -/
theorem onRequest_after {c : Client} {g i : Nat} {s : Session} (hs : c.hub.session? g i = some s)
    {frame : Frame} {h : Handler} (hslot : (c.requestSlot frame).1 = some h)
    {res : Except String Unit} {acks : List (Except TransportError Unit)} {own : List Outbound}
    (hrun : (runScript g i ⟨s.id, frame⟩ h.script).run c =
      ((res, acks), { c with hub := c.hub.updateSession g i (·.recordAll own) })) :
    (onRequest g i ⟨s.id, frame⟩).run c =
      ([⟨⟨s.id, frame⟩, h.label, acks⟩], { c with hub := (c.hub.updateSession g i
        (·.recordAll (own ++ s.failureAlarm frame res))) }) := by
  unfold onRequest
  rw [run_bind, get_run c]
  generalize c.requestSlot frame = p at hslot ⊢
  obtain ⟨slot, missing⟩ := p
  dsimp only at hslot ⊢
  subst hslot
  rw [run_bind, hrun]
  have hs' := session?_recordAll hs own
  cases res with
  | ok u =>
    simp only [Session.failureAlarm, List.append_nil]
    rfl
  | error e =>
    dsimp only
    rw [run_bind, get_run, hs', Session.failureAlarm]
    -- the dispatcher checks that the session is open, the session that it sends replies
    cases hv : s.valid
    · simp only [Option.any_some, Session.valid_recordAll, hv, Bool.false_eq_true, if_false,
        Session.replied, Session.mayReply, Bool.false_and, List.append_nil]
      rfl
    · simp only [Option.any_some, Session.valid_recordAll, hv, if_true]
      rw [run_bind, alarm_run hs', Session.replyAlarm_fst, updateSession_recordAll hs',
        Hub.updateSession_updateSession, Session.recordAll_comp, Session.replied_recordAll]
      rfl

end Dispatch

/-- **Handlers' replies come first.** A frame whose quality-of-service meta is absent or does not
trim to `0`, received on a session, handed to a handler that replies at most once (it finishes,
fails or crashes at once, or replies with its first reaction and then does so): the session
records the handler's reply, if it made one and the session sends replies, and after it the
dispatcher's own. A subscription that acknowledges automatically accepts or rejects the delivery
by how the handler ends; a request handler that ends in failure is reported by an alarm. The
dispatcher does not look at whether the handler replied, so a frame can be answered twice. -/
theorem dispatcher_replies_after_handler {c : Client} {g i : Nat} {s : Session}
    (hs : c.hub.session? g i = some s) (frame : Frame)
    (hq : ∀ q, frame.entity.meta? Meta.qos = some q → Text.trimBlank q ≠ "0") :
    (∀ sub, Event.ofWireName? frame.event = some .distribute →
      c.registry.lookup (frame.entity.metaOr Meta.topic "") (frame.entity.metaOr Meta.group "") =
        some sub →
      Reaction.RepliesAtMostOnce ⟨s.id, frame⟩ sub.handler.script →
      ∃ runs, Dispatch.Leaves c g i frame runs
        (s.handlerReplies ⟨s.id, frame⟩ sub.handler.script ++
          if sub.autoAck then
            s.replied (.ack frame.sid (Inbound.ackEntity (Reaction.ending sub.handler.script).isOk))
          else [])) ∧
    (∀ h, Event.ofWireName? frame.event = some .request → (c.requestSlot frame).1 = some h →
      Reaction.RepliesAtMostOnce ⟨s.id, frame⟩ h.script →
      ∃ runs, Dispatch.Leaves c g i frame runs
        (s.handlerReplies ⟨s.id, frame⟩ h.script ++
          s.failureAlarm frame (Reaction.ending h.script))) := by
  have hq' : (⟨s.id, frame⟩ : Inbound).qos = .atLeastOnce := Inbound.qos_of_flag hq
  refine ⟨fun sub he hl honce => ?_, fun h he hslot honce => ?_⟩
  · obtain ⟨res, acks, hrun, hres⟩ := Dispatch.runScript_of_repliesAtMostOnce hs hq' honce
    refine ⟨[⟨⟨s.id, frame⟩, sub.handler.label, acks⟩], ?_⟩
    rw [Dispatch.Leaves, Dispatch.deliver_distribute hs he, hl, Dispatch.consume_after hs hq' hrun]
    -- the outcome matters only on a session that sends replies, where it is the script's ending
    by_cases hm : s.mayReply = true
    · rw [hres hm]
    · simp only [Session.replied_of_not_mayReply hm]
  · obtain ⟨res, acks, hrun, hres⟩ := Dispatch.runScript_of_repliesAtMostOnce hs hq' honce
    refine ⟨[⟨⟨s.id, frame⟩, h.label, acks⟩], ?_⟩
    rw [Dispatch.Leaves, Dispatch.deliver_request hs he, Dispatch.onRequest_after hs hslot hrun]
    by_cases hm : s.mayReply = true
    · rw [hres hm]
    · rw [Session.failureAlarm_of_not_mayReply hm, Session.failureAlarm_of_not_mayReply hm]

/-- A delivery to a subscription that acknowledges automatically, whose handler accepts the
delivery itself and finishes, on an open session: the delivery is accepted twice. -/
theorem dispatcher_replies_after_handler_example :
    let sub : Subscription := ⟨"orders", "A", true, ⟨"h", [.ack true, .finish]⟩⟩
    let c : Client :=
      { urls := [], registry := ⟨[sub]⟩, hub := { width := 1, groups := [⟨[{ id := "s0" }], 0⟩] } }
    let frame : Frame :=
      { sid := "d1", event := "distribute",
        entity := (({} : Entity).put Meta.topic "orders").put Meta.group "A" }
    (c.hub.session? 0 0 = some { id := "s0" } ∧
      (∀ q, frame.entity.meta? Meta.qos = some q → Text.trimBlank q ≠ "0") ∧
      Event.ofWireName? frame.event = some .distribute ∧
      c.registry.lookup (frame.entity.metaOr Meta.topic "") (frame.entity.metaOr Meta.group "") =
        some sub ∧
      Reaction.RepliesAtMostOnce ⟨"s0", frame⟩ sub.handler.script) ∧
    ∃ runs, Dispatch.Leaves c 0 0 frame runs
      [.ack "d1" (Inbound.ackEntity true), .ack "d1" (Inbound.ackEntity true)] := by
  intro sub c frame
  have hs : c.hub.session? 0 0 = some { id := "s0" } := rfl
  have hq : ∀ q, frame.entity.meta? Meta.qos = some q → Text.trimBlank q ≠ "0" := by
    intro q h
    have hnone : frame.entity.meta? Meta.qos = none := rfl
    rw [hnone] at h
    cases h
  have he : Event.ofWireName? frame.event = some .distribute := rfl
  have hl : c.registry.lookup (frame.entity.metaOr Meta.topic "")
      (frame.entity.metaOr Meta.group "") = some sub := rfl
  have honce : Reaction.RepliesAtMostOnce ⟨"s0", frame⟩ sub.handler.script :=
    .inr ⟨.ack true, [.finish], rfl, rfl, trivial⟩
  exact ⟨⟨hs, hq, he, hl, honce⟩, (dispatcher_replies_after_handler hs frame hq).1 sub he hl honce⟩

end BrokerClient
