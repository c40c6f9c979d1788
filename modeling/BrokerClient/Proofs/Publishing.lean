import BrokerClient.Client.Connect
import BrokerClient.Client.Publish
import BrokerClient.Proofs.Operation
/-!
Publishing, run on a client. A session is picked in the attached group: by the hash of a routing
key among the open sessions, which leaves the group as it is, or in turn, which only moves the
cursor (`Group.pick_some`, `Group.pick_none`); either way the picked session is open and no session
changes (`Op.exec_pickSession_ok`). Once its parameters pass and a session is picked, each
operation that publishes records one frame on that session and nowhere else; a confirmed request
then comes to what its answer says (`Op.confirmOutcome`): success when the answer confirms, a
failed confirmation that carries the answer's body when it does not, a timeout when no answer
comes. The run equations `Op.exec_publish`, `Op.exec_unpublish`, `Op.exec_sendTo_atMostOnce`,
`Op.exec_sendTo_atLeastOnce` and `Op.exec_settle` say so for each operation.
-/

namespace BrokerClient

/-! ### Picking a session -/

namespace Group

theorem pick_some (g : Group) (key : String) :
    g.pick (some key) = (g, g.openIndices[(Hash.textHash key).toNat % g.openIndices.length]?) := by
  simp only [pick]
  by_cases h : g.openIndices.isEmpty
  · simp [List.isEmpty_iff.1 h]
  · simp [h]

theorem pick_none (g : Group) :
    g.pick none = if g.openIndices.isEmpty then (g, none)
      else ({ g with cursor := g.cursor + 1 },
        g.openIndices[g.cursor.toNat % g.openIndices.length]?) := by
  rfl

@[simp] theorem sessions_pick (g : Group) (r : Option String) : (g.pick r).1.sessions = g.sessions := by
  cases r with
  | some key => rw [pick_some]
  | none =>
    rw [pick_none]
    split <;> rfl

theorem session?_pick (g : Group) (r : Option String) (i : Nat) :
    (g.pick r).1.session? i = g.session? i := by
  simp [session?]

theorem openIndices_pick (g : Group) (r : Option String) :
    (g.pick r).1.openIndices = g.openIndices := by
  simp [openIndices]

theorem mem_openIndices_of_pick {g : Group} {r : Option String} {i : Nat}
    (h : (g.pick r).2 = some i) : i ∈ g.openIndices := by
  cases r with
  | some key =>
    rw [pick_some] at h
    exact List.mem_of_getElem? h
  | none =>
    rw [pick_none] at h
    split at h
    · cases h
    · exact List.mem_of_getElem? h

end Group

namespace Hub

theorem session?_updateGroup_of_sessions {h : Hub} {g : Nat} {grp grp' : Group}
    (hg : h.group? g = some grp) (hs : grp'.sessions = grp.sessions) (g' i : Nat) :
    (h.updateGroup g fun _ => grp').session? g' i = h.session? g' i := by
  rw [session?_updateGroup]
  split
  · rename_i hgg
    subst hgg
    simp [hg, session?, Group.session?, hs]
  · rfl

end Hub

/-- The client after the session at a place recorded a frame. -/
def Client.recordAt (c : Client) (g i : Nat) (o : Outbound) : Client :=
  { c with hub := c.hub.updateSession g i (·.record o) }

namespace Op

theorem exec_pickSession {r : Option String} {c : Client} {a : Attachment} {grp : Group}
    (ha : c.attached = some a) (hg : c.hub.group? a.group = some grp) :
    exec (pickSession r) c =
      ((match (grp.pick r).2 with
        | some i => .ok (a.group, i)
        | none => .error .noSession),
        { c with hub := c.hub.updateGroup a.group fun _ => (grp.pick r).1 }) := by
  unfold pickSession
  rw [exec_bind, exec_get]
  dsimp only
  rw [ha]
  dsimp only
  have hg' : c.hub.group? a.group = some grp := hg
  simp only [hg']
  rcases grp.pick r with ⟨grp', _ | i⟩ <;> rfl

/-- **Picks.** A pick that succeeds was made in the attached group: at an open session, changing
at most the cursor of the group, so every session stays where it was. -/
theorem exec_pickSession_ok {r : Option String} {c c₁ : Client} {g i : Nat}
    (h : exec (pickSession r) c = (.ok (g, i), c₁)) :
    ∃ a grp, c.attached = some a ∧ g = a.group ∧ c.hub.group? g = some grp ∧
      (grp.pick r).2 = some i ∧
      c₁ = { c with hub := c.hub.updateGroup g fun _ => (grp.pick r).1 } := by
  rcases ha : c.attached with _ | a
  · unfold pickSession at h
    rw [exec_bind, exec_get] at h
    simp [ha] at h
  rcases hg : c.hub.group? a.group with _ | grp
  · unfold pickSession at h
    rw [exec_bind, exec_get] at h
    simp only [ha] at h
    have hg' : c.hub.groups[a.group]? = none := hg
    simp [Hub.group?, hg'] at h
  rw [exec_pickSession ha hg] at h
  rcases hp : (grp.pick r).2 with _ | i'
  · simp [hp] at h
  · simp only [hp, Prod.mk.injEq, Except.ok.injEq] at h
    obtain ⟨⟨rfl, rfl⟩, rfl⟩ := h
    exact ⟨a, grp, rfl, rfl, hg, hp, by rw [ha]⟩

theorem session?_of_pickSession {r : Option String} {c c₁ : Client} {g i : Nat}
    (h : exec (pickSession r) c = (.ok (g, i), c₁)) (g' j : Nat) :
    c₁.hub.session? g' j = c.hub.session? g' j := by
  obtain ⟨a, grp, -, rfl, hg, -, rfl⟩ := exec_pickSession_ok h
  exact Hub.session?_updateGroup_of_sessions hg (Group.sessions_pick grp r) g' j

theorem valid_of_pickSession {r : Option String} {c c₁ : Client} {g i : Nat}
    (h : exec (pickSession r) c = (.ok (g, i), c₁)) :
    ∃ s, c.hub.session? g i = some s ∧ s.valid = true := by
  obtain ⟨a, grp, -, rfl, hg, hp, -⟩ := exec_pickSession_ok h
  obtain ⟨s, hs, hv⟩ := Group.mem_openIndices.1 (Group.mem_openIndices_of_pick hp)
  exact ⟨s, by simp [Hub.session?, hg, hs], hv⟩

theorem fields_of_pickSession {r : Option String} {c c₁ : Client} {g i : Nat}
    (h : exec (pickSession r) c = (.ok (g, i), c₁)) :
    c₁.attached = c.attached ∧ c₁.hub.rules = c.hub.rules ∧ c₁.space = c.space ∧
      c₁.registry = c.registry := by
  obtain ⟨a, grp, -, rfl, -, -, rfl⟩ := exec_pickSession_ok h
  exact ⟨rfl, rfl, rfl, rfl⟩

/-! ### Requests that must be confirmed -/

/-- What a confirmed request comes to by the answer it got: success when the answer confirms, a
failed confirmation that carries the answer's body when it does not, a timeout without an
answer. -/
def confirmOutcome (operation : String) (timeout : Duration) :
    Option Entity → Except ClientError Unit
  | some answer => if isConfirmed answer then .ok () else .error (.confirmFailed operation answer.text)
  | none => .error (.transport (.timeout timeout))

theorem exec_confirmedRequest {g i : Nat} {s : Session} {c : Client}
    (hs : c.hub.session? g i = some s) (hv : s.valid = true) (ev : Event) (e : Entity)
    (t : Duration) (op : String) :
    exec (do let a ← request g i ev e t; confirmed op a) c =
      (confirmOutcome op t (answerOf (s.rules.getD c.hub.rules) ev e),
        c.recordAt g i (.request ev e)) := by
  rw [exec_bind, exec_request hs hv]
  rcases answerOf (s.rules.getD c.hub.rules) ev e with _ | a
  · rfl
  · dsimp only
    rw [exec_confirmed, ensureConfirmed]
    split <;> simp_all [confirmOutcome, Client.recordAt]

theorem exec_send {g i : Nat} {s : Session} {c : Client} (hs : c.hub.session? g i = some s)
    (hv : s.valid = true) (ev : Event) (e : Entity) :
    exec (send g i ev e) c = (.ok (), c.recordAt g i (.send ev e)) := by
  unfold send
  rw [exec_onSession _ hs]
  simp only [Session.send, hv, if_true]
  rw [Hub.updateSession_congr (k := (·.record (.send ev e))) hs rfl]
  rfl

theorem exec_attachedTimeout {c : Client} {a : Attachment} (ha : c.attached = some a) :
    exec attachedTimeout c = (.ok a.requestTimeout, c) := by
  unfold attachedTimeout
  rw [exec_bind, exec_get]
  dsimp only
  rw [ha]
  rfl

theorem exec_check_valid {v : String} (n : String) (h : Topic.Valid v) (c : Client) :
    exec (check v n) c = (.ok (), c) := by
  rw [exec_check, Topic.checkParam_eq_ok_iff.2 h]
  rfl

theorem exec_qualify_valid (t : String) {c : Client} (hns : ∀ ns ∈ c.space, Topic.Valid ns) :
    exec (qualify t) c = (.ok (Topic.full (c.space.getD "") t), c) := by
  rw [exec_qualify]
  rcases hs : c.space with _ | ns
  · rfl
  · simp only [Topic.checkParam_eq_ok_iff.2 (hns ns hs)]
    rfl

theorem exec_checkTopicKey {β : Type} {t k : String} (f : String → Op β) {c : Client}
    (ht : Topic.Valid t) (hk : Topic.Valid k) (hns : ∀ ns ∈ c.space, Topic.Valid ns) :
    exec (do
      check t "topic"
      check k "key"
      let full ← qualify t
      f full) c = exec (f (Topic.full (c.space.getD "") t)) c := by
  rw [exec_bind, exec_check_valid _ ht]
  dsimp only
  rw [exec_bind, exec_check_valid _ hk]
  dsimp only
  rw [exec_bind, exec_qualify_valid t hns]

/-! ### Operations that publish -/

theorem picked_session {r : Option String} {c c₁ : Client} {g i : Nat} {s : Session}
    (hpick : exec (pickSession r) c = (.ok (g, i), c₁)) (hs : c.hub.session? g i = some s) :
    c₁.hub.session? g i = some s ∧ s.valid = true := by
  obtain ⟨s', hs', hv⟩ := valid_of_pickSession hpick
  rw [hs] at hs'
  cases hs'
  exact ⟨by rw [session?_of_pickSession hpick, hs], hv⟩

/-- **Publish.** A publish whose topic, key and namespace pass, on the session its routing key
picks: a confirmed message is one request there, which comes to what its answer says; a message
sent at most once is one send there, and succeeds. -/
theorem exec_publish {t : String} {m : Message} {c c₁ : Client} {a : Attachment} {g i : Nat}
    {s : Session} (ht : Topic.Valid t) (hk : Topic.Valid m.key)
    (hns : ∀ ns ∈ c.space, Topic.Valid ns) (ha : c.attached = some a)
    (hpick : exec (pickSession (m.routingKey (Topic.full (c.space.getD "") t))) c =
      (.ok (g, i), c₁))
    (hs : c.hub.session? g i = some s) :
    exec (publish t m) c =
      let e := m.publishEntity (Topic.full (c.space.getD "") t)
      match m.qos with
      | .atLeastOnce =>
        (confirmOutcome "publish" a.requestTimeout (answerOf (s.rules.getD c.hub.rules) .publish e),
          c₁.recordAt g i (.request .publish e))
      | .atMostOnce => (.ok (), c₁.recordAt g i (.send .publish e)) := by
  obtain ⟨hs₁, hv⟩ := picked_session hpick hs
  obtain ⟨ha₁, hr₁, -, -⟩ := fields_of_pickSession hpick
  unfold publish
  rw [exec_checkTopicKey _ ht hk hns, exec_bind, hpick]
  dsimp only
  cases m.qos with
  | atLeastOnce =>
    rw [exec_bind, exec_attachedTimeout (ha₁.trans ha)]
    dsimp only
    rw [exec_confirmedRequest hs₁ hv, hr₁]
  | atMostOnce => exact exec_send hs₁ hv _ _

/-- **Unpublish.** An unpublish whose topic, key and namespace pass is one request on the session
picked in turn, which comes to what its answer says. -/
theorem exec_unpublish {t key : String} {c c₁ : Client} {a : Attachment} {g i : Nat}
    {s : Session} (ht : Topic.Valid t) (hk : Topic.Valid key)
    (hns : ∀ ns ∈ c.space, Topic.Valid ns) (ha : c.attached = some a)
    (hpick : exec (pickSession none) c = (.ok (g, i), c₁)) (hs : c.hub.session? g i = some s) :
    exec (unpublish t key) c =
      let e := ({} : Entity).put Meta.topic (Topic.full (c.space.getD "") t) |>.put Meta.key key
        |>.addressTo Meta.serverAll
      (confirmOutcome "unpublish" a.requestTimeout (answerOf (s.rules.getD c.hub.rules) .unpublish e),
        c₁.recordAt g i (.request .unpublish e)) := by
  obtain ⟨hs₁, hv⟩ := picked_session hpick hs
  obtain ⟨ha₁, hr₁, -, -⟩ := fields_of_pickSession hpick
  unfold unpublish
  rw [exec_checkTopicKey _ ht hk hns, exec_bind, hpick]
  dsimp only
  rw [exec_bind, exec_attachedTimeout (ha₁.trans ha)]
  dsimp only
  rw [exec_confirmedRequest hs₁ hv, hr₁]

/-- **Direct sends at most once.** A message sent at most once to a valid peer by a named client
is one send on the session picked in turn, and succeeds without an answer. -/
theorem exec_sendTo_atMostOnce {m : Message} {peer : String} {timeout : Option Duration}
    {c c₁ : Client} {n : String} {g i : Nat} {s : Session} (hq : m.qos = .atMostOnce)
    (hn : c.name = some n) (hp : Topic.Valid peer)
    (hpick : exec (pickSession none) c = (.ok (g, i), c₁)) (hs : c.hub.session? g i = some s) :
    exec (sendTo m peer timeout) c =
      (.ok none, c₁.recordAt g i
        (.send .request (((m.sentBy n).publishEntity "").put Meta.group peer |>.addressTo peer))) := by
  obtain ⟨hs₁, hv⟩ := picked_session hpick hs
  unfold sendTo requireName
  simp only [exec_bind, exec_get, hn, exec_pure, exec_check_valid _ hp, hpick]
  have hq' : (m.sentBy n).qos = .atMostOnce := hq
  simp only [hq', exec_bind, exec_send hs₁ hv, exec_pure]

/-- What a confirmed send to another client comes to by the answer it got: the answer itself,
unless it rejects the message with `mq.ack` set to `0`; a timeout without an answer. -/
def sendOutcome (timeout : Duration) : Option Entity → Except ClientError (Option Entity)
  | some answer =>
    if answer.meta? Meta.ack == some "0" then .error (.confirmFailed "send" answer.text)
    else .ok (some answer)
  | none => .error (.transport (.timeout timeout))

theorem exec_directRequest {g i : Nat} {s : Session} {c : Client}
    (hs : c.hub.session? g i = some s) (hv : s.valid = true) (e : Entity) (t : Duration) :
    exec (request g i .request e t >>= fun answer =>
      if answer.meta? Meta.ack == some "0" then
        (throw (.confirmFailed "send" answer.text) : Op Unit) >>= fun _ => pure (some answer)
      else pure (some answer)) c =
      (sendOutcome t (answerOf (s.rules.getD c.hub.rules) .request e),
        c.recordAt g i (.request .request e)) := by
  rw [exec_bind, exec_request hs hv]
  rcases answerOf (s.rules.getD c.hub.rules) .request e with _ | answer
  · rfl
  · dsimp only
    split <;> simp_all [sendOutcome, Client.recordAt]

/-- **Confirmed direct sends.** A confirmed message to a valid peer from a named client is one
request on the session picked in turn, and comes to what its answer says, waited for within the
time given or else the request timeout. -/
theorem exec_sendTo_atLeastOnce {m : Message} {peer : String} {timeout : Option Duration}
    {c c₁ : Client} {n : String} {a : Attachment} {g i : Nat} {s : Session}
    (hq : m.qos = .atLeastOnce) (hn : c.name = some n) (hp : Topic.Valid peer)
    (ha : c.attached = some a) (hpick : exec (pickSession none) c = (.ok (g, i), c₁))
    (hs : c.hub.session? g i = some s) :
    exec (sendTo m peer timeout) c =
      let e := ((m.sentBy n).publishEntity "").put Meta.group peer |>.addressTo peer
      (sendOutcome (timeout.getD a.requestTimeout) (answerOf (s.rules.getD c.hub.rules) .request e),
        c₁.recordAt g i (.request .request e)) := by
  obtain ⟨hs₁, hv⟩ := picked_session hpick hs
  obtain ⟨ha₁, hr₁, -, -⟩ := fields_of_pickSession hpick
  unfold sendTo requireName
  simp only [exec_bind, exec_get, hn, exec_pure, exec_check_valid _ hp, hpick]
  have hq' : (m.sentBy n).qos = .atLeastOnce := hq
  simp only [hq']
  -- the time limit only reads the client
  cases timeout with
  | some t =>
    rw [exec_bind, exec_pure]
    dsimp only
    rw [exec_directRequest hs₁ hv, hr₁]
    rfl
  | none =>
    rw [exec_bind, exec_attachedTimeout (ha₁.trans ha)]
    dsimp only
    rw [exec_directRequest hs₁ hv, hr₁]
    rfl

/-- **Settling a transaction.** Committing or rolling back keys, when there are any, is one
request on the session that the transaction id picks, which comes to what its answer says. -/
theorem exec_settle {tmid : String} {keys : List String} (rollback : Bool) {c c₁ : Client}
    {a : Attachment} {g i : Nat} {s : Session} (hkeys : keys ≠ []) (ha : c.attached = some a)
    (hpick : exec (pickSession (some tmid)) c = (.ok (g, i), c₁))
    (hs : c.hub.session? g i = some s) :
    exec (settle tmid keys rollback) c =
      let e := settleEntity keys rollback
      (confirmOutcome "publish2" a.requestTimeout (answerOf (s.rules.getD c.hub.rules) .publish2 e),
        c₁.recordAt g i (.request .publish2 e)) := by
  obtain ⟨hs₁, hv⟩ := picked_session hpick hs
  obtain ⟨ha₁, hr₁, -, -⟩ := fields_of_pickSession hpick
  have hne : keys.isEmpty = false := by simpa using hkeys
  unfold settle
  simp only [hne, Bool.false_eq_true, if_false]
  rw [exec_bind, hpick]
  dsimp only
  rw [exec_bind, exec_attachedTimeout (ha₁.trans ha)]
  dsimp only
  rw [exec_confirmedRequest hs₁ hv, hr₁]

end Op

end BrokerClient
