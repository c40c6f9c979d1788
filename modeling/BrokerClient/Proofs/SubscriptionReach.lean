import BrokerClient.Proofs.Lifecycle
import BrokerClient.Proofs.Metas
import BrokerClient.Proofs.Utf8
/-!
# How far a subscription reaches

A subscribe or an unsubscribe asks the open sessions of the attached group one after another,
in their order, and stops at the first whose answer fails its confirmation: an answer that does not
confirm, or none within the timeout. `Op.AskedInTurn` says how such a call ends: every session up
to and including the first that fails has received the request once, the sessions after it have
received nothing, and the call fails as that session's answer did; or every answer confirms,
every open session has received the request once, and the call succeeds.

The core lemma is `Op.broadcast_asks_in_turn`, by induction on the sessions asked. Recording a
request changes neither the answers of the sessions nor the timeout, so each answer is the one
the session would have given at the start. Subscribing and unsubscribing are then broadcasts from
a client that differs only in its registry (`subscription_asks_in_turn`); a session that follows
a refusing one hears nothing of the subscription (`subscribe_skips_sessions_after_refusal`).
-/

namespace BrokerClient

/-! ## Requests recorded on several places -/

theorem Client.hub_foldl_recordAt (o : Outbound) :
    ∀ (ps : List (Nat × Nat)) (c : Client),
      (ps.foldl (fun c p => c.recordAt p.1 p.2 o) c).hub =
        ps.foldl (fun h p => h.updateSession p.1 p.2 (·.record o)) c.hub
  | [], _ => rfl
  | p :: ps, c => hub_foldl_recordAt o ps (c.recordAt p.1 p.2 o)

theorem Client.session?_foldl_recordAt (o : Outbound) {ps : List (Nat × Nat)} (hnd : ps.Nodup)
    (c : Client) (g i : Nat) :
    (ps.foldl (fun c p => c.recordAt p.1 p.2 o) c).hub.session? g i =
      if (g, i) ∈ ps then (c.hub.session? g i).map (·.record o) else c.hub.session? g i := by
  rw [hub_foldl_recordAt, Op.session?_foldl_updateSession _ ps hnd]

theorem Client.target?_of_name {c : Client} {t n : String} (hn : c.name = some n)
    (hs : c.space = none) (ht : Topic.Valid t) (hv : Topic.Valid n) :
    c.target? t none = some (t, n) := by
  simp [Client.target?, hn, hs, ht, hv, Topic.full]

namespace Op

/-! ## Asking sessions in turn -/

/-- How a request asked of the open sessions of `c` in turn ends, the client after it included:
each session up to and including the first whose answer fails receives the request once and the
call fails as that answer did, or every answer confirms, every open session receives the request
once, and the call succeeds. No other session receives anything. -/
def AskedInTurn (c : Client) (ev : Event) (e : Entity)
    (out : Except ClientError Unit × Client) : Prop :=
  let outcome := fun p => confirmOutcome ev.wireName c.subscribeTimeout (c.answerAt p ev e)
  let receivedBy := fun asked : List (Nat × Nat) => ∀ g i, out.2.hub.session? g i =
    if (g, i) ∈ asked then (c.hub.session? g i).map (·.record (.request ev e))
    else c.hub.session? g i
  ((∀ p ∈ c.openPlaces, outcome p = .ok ()) ∧ out.1 = .ok () ∧ receivedBy c.openPlaces) ∨
  ∃ done p rest err, c.openPlaces = done ++ p :: rest ∧ (∀ q ∈ done, outcome q = .ok ()) ∧
    outcome p = .error err ∧ out.1 = .error err ∧ receivedBy (done ++ [p])

/-- **Asking in turn.** A broadcast to open sessions either gets a confirmation from each and
records its request on all of them, or records it on those before the first failure and on that
one, and fails as it did. Answers are those of the client before the broadcast. -/
theorem broadcast_asks_in_turn (ev : Event) (topic group : String) :
    ∀ (ps : List (Nat × Nat)) (c : Client),
      (∀ p ∈ ps, ∃ s, c.hub.session? p.1 p.2 = some s ∧ s.valid = true) →
      let e := subscriptionEntity topic group
      let outcome := fun p => confirmOutcome ev.wireName c.subscribeTimeout (c.answerAt p ev e)
      let sent := fun asked : List (Nat × Nat) =>
        asked.foldl (fun c p => c.recordAt p.1 p.2 (.request ev e)) c
      ((∀ p ∈ ps, outcome p = .ok ()) ∧
        exec (broadcast ps ev topic group) c = (.ok (), sent ps)) ∨
      ∃ done p rest err, ps = done ++ p :: rest ∧ (∀ q ∈ done, outcome q = .ok ()) ∧
        outcome p = .error err ∧
        exec (broadcast ps ev topic group) c = (.error err, sent (done ++ [p]))
  | [], c, _ => .inl ⟨by simp, rfl⟩
  | (g, i) :: ps, c, hps => by
    intro e outcome sent
    obtain ⟨s, hs, hv⟩ := hps (g, i) List.mem_cons_self
    have hfirst : outcome (g, i) = confirmOutcome ev.wireName c.subscribeTimeout
        (answerOf (s.rules.getD c.hub.rules) ev e) := by
      simp only [outcome, c.answerAt_of_session? hs]
    rw [exec_broadcast_cons hs hv]
    dsimp only
    rw [← hfirst]
    cases hout : outcome (g, i) with
    | error err =>
      -- the first session refuses: it alone has the request
      exact .inr ⟨[], (g, i), ps, err, rfl, by simp, hout, rfl⟩
    | ok u =>
      -- the first session confirms, and the rest are asked from the client that recorded it
      let c' := c.recordAt g i (.request ev e)
      have hrest : ∀ p ∈ ps, ∃ s', c'.hub.session? p.1 p.2 = some s' ∧ s'.valid = true :=
        fun p hp => (c.sameOpen_recordAt g i _).open_of (hps p (List.mem_cons_of_mem _ hp))
      have hsame : (fun p => confirmOutcome ev.wireName c'.subscribeTimeout (c'.answerAt p ev e)) =
          outcome := by
        funext p
        simp only [c', Client.answerAt_recordAt, outcome]
        rfl
      rcases broadcast_asks_in_turn ev topic group ps c' hrest with
        ⟨hall, hrun⟩ | ⟨done, p, rest, err, hps', hdone, hp, hrun⟩
      · refine .inl ⟨?_, hrun⟩
        rw [hsame] at hall
        simpa [hout] using hall
      · rw [hsame] at hdone hp
        refine .inr ⟨(g, i) :: done, p, rest, err, by rw [hps']; rfl, ?_, hp, hrun⟩
        simpa [hout] using hdone

/-- A broadcast to the open sessions of the attached group, from a client that may have changed
its registry, is asked in turn. -/
theorem askedInTurn_broadcast (c : Client) (r : Registry) (ev : Event) (topic group : String) :
    AskedInTurn c ev (subscriptionEntity topic group)
      (exec (broadcast c.openPlaces ev topic group) { c with registry := r }) := by
  have hopen : ∀ p ∈ c.openPlaces,
      ∃ s, ({ c with registry := r } : Client).hub.session? p.1 p.2 = some s ∧ s.valid = true :=
    open_sessions_of_openPlaces c
  -- the registry is read by no answer, timeout or session
  have hsess : ∀ (asked : List (Nat × Nat)), asked.Sublist c.openPlaces → ∀ g i,
      (asked.foldl (fun (c' : Client) p =>
        c'.recordAt p.1 p.2 (.request ev (subscriptionEntity topic group)))
          { c with registry := r }).hub.session? g i =
        if (g, i) ∈ asked then (c.hub.session? g i).map (·.record (.request ev
          (subscriptionEntity topic group))) else c.hub.session? g i :=
    fun asked hsub g i =>
      Client.session?_foldl_recordAt _ ((openPlaces_nodup c).sublist hsub) _ g i
  rcases broadcast_asks_in_turn ev topic group c.openPlaces _ hopen with
    ⟨hall, hrun⟩ | ⟨done, p, rest, err, hps, hdone, hp, hrun⟩
  · exact .inl ⟨hall, by rw [hrun], fun g i => by rw [hrun]; exact hsess _ (.refl _) g i⟩
  · refine .inr ⟨done, p, rest, err, hps, hdone, hp, by rw [hrun], fun g i => ?_⟩
    rw [hrun]
    refine hsess _ ?_ g i
    rw [hps]
    exact (List.sublist_append_left _ rest).trans (by simp)

end Op

/-- **Reach of a subscription.** A subscribe or an unsubscribe whose topic, group and namespace
pass asks the open sessions of the attached group in turn, with a request that names the
qualified topic and the group and is addressed to every broker: each session up to and
including the first whose answer does not confirm, or that gives none in time, receives that
request once, the sessions after it receive nothing, and the call fails as that answer did; when
every answer confirms, every open session has received the request once and the call
succeeds. -/
theorem subscription_asks_in_turn :
    (∀ full grp : String,
      (subscriptionEntity full grp).meta? Meta.topic = some full ∧
      (subscriptionEntity full grp).meta? Meta.group = some grp ∧
      (subscriptionEntity full grp).meta? Meta.target = some Meta.serverAll) ∧
    (∀ (t : String) (g? : Option String) (a? : Option Bool) (hd : Handler) (c : Client)
      (full grp : String), c.target? t g? = some (full, grp) →
      Op.AskedInTurn c .subscribe (subscriptionEntity full grp)
        (Op.exec (Op.subscribe t g? a? hd) c)) ∧
    (∀ (t : String) (g? : Option String) (c : Client) (full grp : String),
      c.target? t g? = some (full, grp) →
      Op.AskedInTurn c .unsubscribe (subscriptionEntity full grp)
        (Op.exec (Op.unsubscribe t g?) c)) := by
  refine ⟨fun full grp => ?_, fun t g? a? hd c full grp h => ?_, fun t g? c full grp h => ?_⟩
  · simp [subscriptionEntity, Entity.addressTo, Entity.meta?_put, Meta.topic, Meta.group,
      Meta.target]
  · rw [Op.exec_subscribe_some a? hd h]
    exact Op.askedInTurn_broadcast c _ .subscribe full grp
  · rw [Op.exec_unsubscribe_some h]
    exact Op.askedInTurn_broadcast c _ .unsubscribe full grp

/-- A subscribe on one open session, by a client named by a valid name, names its target. -/
theorem subscription_asks_in_turn_example :
    let c : Client :=
      { urls := [], name := some "A", attached := some ⟨0, ⟨10000⟩⟩,
        hub := { width := 1, groups := [⟨[{ id := "s0" }], 0⟩] } }
    c.target? "orders" none = some ("orders", "A") ∧
      Op.AskedInTurn c .subscribe (subscriptionEntity "orders" "A")
        (Op.exec (Op.subscribe "orders" none none ⟨"h", []⟩) c) := by
  intro c
  have htarget : c.target? "orders" none = some ("orders", "A") :=
    Client.target?_of_name rfl rfl ⟨by simp, by simp [Topic.reserved]⟩
      ⟨by simp, by simp [Topic.reserved]⟩
  exact ⟨htarget,
    subscription_asks_in_turn.2.1 "orders" none none ⟨"h", []⟩ c "orders" "A" htarget⟩

/-- Two open sessions, the first of which refuses every request: a subscribe asks the first,
fails as it refused, and never asks the second. -/
theorem subscribe_skips_sessions_after_refusal :
    let refusal : Entity := (Entity.ofText "denied").put Meta.confirm "0"
    let c : Client :=
      { urls := [], name := some "A", attached := some ⟨0, ⟨10000⟩⟩,
        hub := { width := 2, groups :=
          [⟨[{ id := "s0", rules := some [{ reply := some refusal }] }, { id := "s1" }], 0⟩] } }
    let out := Op.exec (Op.subscribe "orders" none none ⟨"h", []⟩) c
    (0, 1) ∈ c.openPlaces ∧ out.1 = .error (.confirmFailed "subscribe" "denied") ∧
      out.2.hub.session? 0 1 = c.hub.session? 0 1 := by
  intro refusal c out
  have htarget : c.target? "orders" none = some ("orders", "A") :=
    Client.target?_of_name rfl rfl ⟨by simp, by simp [Topic.reserved]⟩
      ⟨by simp, by simp [Topic.reserved]⟩
  have hplaces : c.openPlaces = [(0, 0), (0, 1)] := rfl
  have hconf : isConfirmed refusal = false := by decide
  have htext : refusal.text = "denied" := by
    simp [refusal, Entity.text, Entity.ofText, Text.Utf8.lossyText_encode]
  -- the first session answers with the refusal, and the broadcast ends there
  have hrun : out = (.error (.confirmFailed "subscribe" "denied"),
      ({ c with registry := c.registry.add ⟨"orders", "A", true, ⟨"h", []⟩⟩ }).recordAt 0 0
        (.request .subscribe (subscriptionEntity "orders" "A"))) := by
    simp only [out]
    rw [Op.exec_subscribe_some none ⟨"h", []⟩ htarget, hplaces, Op.exec_broadcast_cons
      (s := { id := "s0", rules := some [{ reply := some refusal }] }) rfl rfl]
    dsimp only
    rw [Option.getD_some,
      show answerOf [{ reply := some refusal }] .subscribe (subscriptionEntity "orders" "A") =
      some refusal from rfl, (Op.confirmOutcome_of_not_confirmed hconf _ _).1, htext]
    rfl
  refine ⟨by rw [hplaces]; simp, by rw [hrun], ?_⟩
  rw [hrun]
  simp [Client.recordAt, Hub.session?_updateSession]

end BrokerClient
