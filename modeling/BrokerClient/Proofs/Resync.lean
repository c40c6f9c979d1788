import BrokerClient.Proofs.Connection
import BrokerClient.Proofs.ReadMap
import BrokerClient.Proofs.Registry
/-!
# Sessions stay in step with the registry

A session is told which queues the client listens on by the subscribe and unsubscribe requests it
is sent. `replay` reads those requests back as a set of queue names: a batched subscribe adds
every queue name of its decoded body, a single one adds the name of its topic and group, an
unsubscribe removes it.

Along a run of client operations (`Action`) we keep, for each place of a group, the length its
record had when the session last opened (`Observed.opened`). The invariant `Observed.Agrees`
says that, while the client is attached, every open session of its group replays, from that
mark, exactly the registry's queue names. Opening and reopening reset the mark and send the
registry as one batch (`replay_openingFrames`, which rests on the round trip of the queue map
through its JSON text); a subscribe or unsubscribe changes the registry and sends the same change
to every open session (`Op.exec_broadcast`). Every action keeps the invariant (`Agrees.step`), so
every run does (`Agrees.run`).
-/

namespace BrokerClient

/-! ### What a session has been told -/

/-- The queue names that a frame leaves subscribed, from those before it. -/
def replayFrame (names : Finset String) : Outbound → Finset String
  | .request .subscribe e =>
    if e.meta? Meta.batch = some "1" then
      match QueueMap.ofEntity? e with
      | .ok m => names ∪ m.names
      | .error _ => names
    else insert (Topic.queueName ((e.meta? Meta.topic).getD "") ((e.meta? Meta.group).getD "")) names
  | .request .unsubscribe e =>
    names.erase (Topic.queueName ((e.meta? Meta.topic).getD "") ((e.meta? Meta.group).getD ""))
  | _ => names

/-- The queue names that frames leave subscribed, from none. -/
def replay (frames : List Outbound) : Finset String := frames.foldl replayFrame ∅

theorem replay_append (l : List Outbound) (o : Outbound) :
    replay (l ++ [o]) = replayFrame (replay l) o := by
  simp [replay, List.foldl_append]

@[simp] theorem replayFrame_subscribe (names : Finset String) (t g : String) :
    replayFrame names (.request .subscribe (subscriptionEntity t g)) =
      insert (Topic.queueName t g) names := rfl

@[simp] theorem replayFrame_unsubscribe (names : Finset String) (t g : String) :
    replayFrame names (.request .unsubscribe (subscriptionEntity t g)) =
      names.erase (Topic.queueName t g) := rfl

/-- The frames of an opening tell a session the registry's queue names. -/
theorem replay_openingFrames (r : Registry) : replay r.openingFrames = r.names := by
  unfold Registry.openingFrames
  cases he : r.isEmpty
  · simp only [Bool.false_eq_true, if_false, replay, List.foldl_cons, List.foldl_nil]
    have hbatch : r.queues.subscribeEntity.meta? Meta.batch = some "1" := rfl
    rw [replayFrame, if_pos hbatch, QueueMap.ofEntity?_subscribeEntity (Registry.wellFormed_queues r)]
    simp [Registry.names_queues]
  · simp [replay, ((Registry.names_eq_empty_iff r).2 he)]

/-! ### Runs -/

/-- What a run is made of: the operations of the client, and the broker reopening a session or
losing one. -/
inductive Action where
  | subscribe (topic : String) (group : Option String) (autoAck : Option Bool) (handler : Handler)
  | unsubscribe (topic : String) (group : Option String)
  | setName (name : String)
  | setSpace (space : String)
  | connect
  | disconnect
  | reopen (g i : Nat)
  | lose (g i : Nat)

/-- The client after an action. -/
def Action.apply : Action → Client → Client
  | .subscribe t g a h, c => (Op.exec (Op.subscribe t g a h) c).2
  | .unsubscribe t g, c => (Op.exec (Op.unsubscribe t g) c).2
  | .setName n, c => c.withName n
  | .setSpace ns, c => c.withSpace ns
  | .connect, c => (Op.exec Op.connect c).2
  | .disconnect, c => (Op.exec Op.disconnect c).2
  | .reopen g i, c => (Op.exec (Op.reopen g i) c).2
  | .lose g i, c => { c with hub := c.hub.updateSession g i fun s => { s with valid := false } }

/-- A client in a run, with, for each place, how many frames its session had sent when it last
opened. -/
structure Observed where
  client : Client
  opened : Nat × Nat → Nat

/-- One action of a run: a reopened session starts over where it stands, and so do the sessions
of a group that a detached client opens. -/
def Observed.step (o : Observed) (a : Action) : Observed where
  client := a.apply o.client
  opened := match a with
    | .reopen g i => fun p =>
      if p = (g, i) then ((o.client.hub.session? g i).map (·.sent.length)).getD 0 else o.opened p
    | .connect => fun p =>
      if o.client.attached = none ∧ p.1 = o.client.hub.groups.length then 0 else o.opened p
    | _ => o.opened

/-- The run of a list of actions. -/
def Observed.run (o : Observed) (as : List Action) : Observed := as.foldl Observed.step o

/-! ### The invariant -/

/-- Every session of the attached group has no rules of its own, and every open one has been
told, since it last opened, exactly the queue names of the registry; the broker confirms every
request. -/
structure Observed.Agrees (o : Observed) : Prop where
  confirms : o.client.hub.ConfirmsAll
  sessions : ∀ a, o.client.attached = some a → ∀ i s, o.client.hub.session? a.group i = some s →
    s.rules = none ∧ (s.valid = true → o.opened (a.group, i) ≤ s.sent.length ∧
      replay (s.sent.drop (o.opened (a.group, i))) = o.client.registry.names)

theorem Hub.rules_foldl_updateSession (f : Session → Session) :
    ∀ (ps : List (Nat × Nat)) (h : Hub), (ps.foldl (fun h p => h.updateSession p.1 p.2 f) h).rules = h.rules
  | [], _ => rfl
  | p :: ps, h => by rw [List.foldl_cons, Hub.rules_foldl_updateSession f ps]; rfl

theorem Hub.rules_foldl_range (f : Session → Session) (g : Nat) (xs : List Nat) (h : Hub) :
    (xs.foldl (fun h i => h.updateSession g i f) h).rules = h.rules := by
  rw [← Hub.rules_foldl_updateSession f (xs.map (g, ·)) h, List.foldl_map]

theorem Hub.confirmsAll_of_rules {h h' : Hub} (hr : h'.rules = h.rules) (hc : h.ConfirmsAll) :
    h'.ConfirmsAll := by
  unfold Hub.ConfirmsAll
  rw [hr]
  exact hc

theorem Hub.session?_of_length_le {h : Hub} {g : Nat} (hg : h.groups.length ≤ g) (i : Nat) :
    h.session? g i = none := by
  simp [Hub.session?, Hub.group?, List.getElem?_eq_none hg]

namespace Observed

/-- A broadcast to the open sessions of the attached group, after a change of the registry that
the broadcast frame replays, keeps every open session in agreement with the registry. -/
theorem Agrees.broadcast {o : Observed} (h : o.Agrees) (r : Registry) (ev : Event)
    (t g : String) (hr : replayFrame o.client.registry.names (.request ev (subscriptionEntity t g)) =
      r.names) :
    (⟨(Op.exec (Op.broadcast o.client.openPlaces ev t g) { o.client with registry := r }).2,
      o.opened⟩ : Observed).Agrees := by
  have hps : ∀ p ∈ o.client.openPlaces, ∃ s, o.client.hub.session? p.1 p.2 = some s ∧
      s.valid = true ∧ s.rules = none := by
    intro p hp
    obtain ⟨a, ha, hpa, s, hs, hv⟩ := Op.mem_openPlaces.1 hp
    exact ⟨s, hpa ▸ hs, hv, (h.sessions a ha p.2 s hs).1⟩
  rw [Op.exec_broadcast ev t g o.client.openPlaces { o.client with registry := r } h.confirms hps]
  refine ⟨Hub.confirmsAll_of_rules (Hub.rules_foldl_updateSession _ _ _) h.confirms, ?_⟩
  intro a ha i s hs
  simp only at ha hs ⊢
  rw [Op.session?_foldl_updateSession _ _ (Op.openPlaces_nodup _)] at hs
  split at hs
  · -- an open session is sent the frame
    rename_i hmem
    obtain ⟨s0, hs0, rfl⟩ := Option.map_eq_some_iff.1 hs
    obtain ⟨hr0, hv0⟩ := h.sessions a ha i s0 hs0
    obtain ⟨a', ha', -, s', hs', hv'⟩ := Op.mem_openPlaces.1 hmem
    cases ha.symm.trans ha'
    rw [hs0] at hs'
    cases hs'
    obtain ⟨hle, hrep⟩ := hv0 hv'
    refine ⟨hr0, fun _ => ⟨by simp; omega, ?_⟩⟩
    rw [Session.record_sent, List.drop_append_of_le_length hle, replay_append, hrep, hr]
  · -- a session that is not open is left as it was
    rename_i hmem
    obtain ⟨hr0, hv0⟩ := h.sessions a ha i s hs
    refine ⟨hr0, fun hv => absurd (Op.mem_openPlaces.2 ⟨a, ha, rfl, s, hs, hv⟩) hmem⟩

theorem Agrees.of_same {o : Observed} (h : o.Agrees) {c : Client} (hh : c.hub = o.client.hub)
    (ha : c.attached = o.client.attached) (hr : c.registry = o.client.registry) :
    (⟨c, o.opened⟩ : Observed).Agrees := by
  obtain ⟨hconf, hs⟩ := h
  refine ⟨hh ▸ hconf, ?_⟩
  simp only [hh, ha, hr]
  exact hs

theorem Agrees.subscribe {o : Observed} (h : o.Agrees) (t : String) (g? : Option String)
    (a? : Option Bool) (hd : Handler) : (o.step (.subscribe t g? a? hd)).Agrees := by
  show (⟨(Op.exec (Op.subscribe t g? a? hd) o.client).2, o.opened⟩ : Observed).Agrees
  rcases ht : o.client.target? t g? with _ | ⟨full, grp⟩
  · obtain ⟨msg, hmsg⟩ := Op.exec_subscribe_none a? hd ht
    rw [hmsg]
    exact h.of_same rfl rfl rfl
  · rw [Op.exec_subscribe_some a? hd ht]
    exact h.broadcast _ _ _ _ (by rw [replayFrame_subscribe, Registry.names_add]; rfl)

theorem Agrees.unsubscribe {o : Observed} (h : o.Agrees) (t : String) (g? : Option String) :
    (o.step (.unsubscribe t g?)).Agrees := by
  show (⟨(Op.exec (Op.unsubscribe t g?) o.client).2, o.opened⟩ : Observed).Agrees
  rcases ht : o.client.target? t g? with _ | ⟨full, grp⟩
  · obtain ⟨msg, hmsg⟩ := Op.exec_unsubscribe_none ht
    rw [hmsg]
    exact h.of_same rfl rfl rfl
  · rw [Op.exec_unsubscribe_some ht]
    exact h.broadcast _ _ _ _ (by rw [replayFrame_unsubscribe, Registry.names_remove])

theorem Agrees.setName {o : Observed} (h : o.Agrees) (n : String) : (o.step (.setName n)).Agrees :=
  h.of_same rfl rfl rfl

theorem Agrees.setSpace {o : Observed} (h : o.Agrees) (ns : String) :
    (o.step (.setSpace ns)).Agrees :=
  h.of_same rfl rfl rfl

theorem Agrees.disconnect {o : Observed} (h : o.Agrees) : (o.step .disconnect).Agrees := by
  show (⟨(Op.exec Op.disconnect o.client).2, o.opened⟩ : Observed).Agrees
  rw [Op.exec_disconnect]
  rcases ha : o.client.attached with _ | a
  · exact h.of_same rfl rfl rfl
  · exact ⟨Hub.confirmsAll_of_rules rfl h.confirms, fun a' ha' => by cases ha'⟩

theorem Agrees.lose {o : Observed} (h : o.Agrees) (g i : Nat) : (o.step (.lose g i)).Agrees := by
  refine ⟨Hub.confirmsAll_of_rules rfl h.confirms, ?_⟩
  intro a ha j s hs
  simp only [Observed.step, Action.apply, Hub.session?_updateSession] at ha hs ⊢
  split at hs
  · obtain ⟨s0, hs0, rfl⟩ := Option.map_eq_some_iff.1 hs
    exact ⟨(h.sessions a ha j s0 hs0).1, fun hv => by cases hv⟩
  · exact h.sessions a ha j s hs

theorem Agrees.reopen {o : Observed} (h : o.Agrees) (g i : Nat) : (o.step (.reopen g i)).Agrees := by
  show (⟨(Op.exec (Op.reopen g i) o.client).2, _⟩ : Observed).Agrees
  rw [Op.exec_reopen]
  refine ⟨Hub.confirmsAll_of_rules rfl h.confirms, ?_⟩
  intro a ha j s hs
  simp only [Hub.session?_updateSession] at ha hs ⊢
  by_cases hp : g = a.group ∧ i = j
  · -- the reopened session starts over with the frames of an opening
    obtain ⟨rfl, rfl⟩ := hp
    simp only [and_self, if_true, Option.map_map] at hs
    obtain ⟨s0, hs0, rfl⟩ := Option.map_eq_some_iff.1 hs
    refine ⟨(h.sessions a ha i s0 hs0).1, fun _ => ?_⟩
    simp only [if_true, hs0, Option.map_some, Option.getD_some, Function.comp_apply,
      Session.resync_sent]
    refine ⟨by simp, ?_⟩
    rw [List.drop_left, replay_openingFrames]
  · simp only [hp, if_false] at hs
    have hne : (a.group, j) ≠ (g, i) := fun heq => hp ⟨(Prod.mk.inj heq).1.symm, (Prod.mk.inj heq).2.symm⟩
    simp only [hne, if_false]
    exact h.sessions a ha j s hs

theorem Agrees.connect {o : Observed} (h : o.Agrees) : (o.step .connect).Agrees := by
  show (⟨(Op.exec Op.connect o.client).2, _⟩ : Observed).Agrees
  rcases Op.exec_connect_cases o.client with hsame | ⟨hdet, eps, hnew⟩
  · -- nothing changed; the marks that start over belong to no session of an attached group
    rw [hsame]
    by_cases hatt : o.client.attached = none
    · exact ⟨h.confirms, fun a ha => by rw [hatt] at ha; cases ha⟩
    · simp only [hatt, false_and, if_false]
      exact h.of_same rfl rfl rfl
  · -- a new group: each of its sessions is fresh and has been sent the frames of an opening
    rw [hnew]
    refine ⟨Hub.confirmsAll_of_rules (Hub.rules_foldl_range _ _ _ _) h.confirms, ?_⟩
    intro a ha j s hs
    simp only [Option.some.injEq] at ha
    subst ha
    simp only [Hub.session?_foldl_range, Hub.session?_openGroup, true_and,
      Hub.session?_of_length_le (le_refl _)] at hs
    split at hs
    · simp only [Option.map_some, Option.some.injEq] at hs
      subst hs
      simp only [hdet, and_self, if_true]
      refine ⟨rfl, fun _ => ⟨Nat.zero_le _, ?_⟩⟩
      rw [List.drop_zero, Session.resync_sent, List.nil_append, replay_openingFrames]
    · cases hs

/-- Every action keeps the agreement. -/
theorem Agrees.step {o : Observed} (h : o.Agrees) : ∀ a, (o.step a).Agrees
  | .subscribe t g? a? hd => h.subscribe t g? a? hd
  | .unsubscribe t g? => h.unsubscribe t g?
  | .setName n => h.setName n
  | .setSpace ns => h.setSpace ns
  | .connect => h.connect
  | .disconnect => h.disconnect
  | .reopen g i => h.reopen g i
  | .lose g i => h.lose g i

/-- Every run keeps the agreement. -/
theorem Agrees.run {o : Observed} (h : o.Agrees) : ∀ as, (o.run as).Agrees
  | [] => h
  | a :: as => Agrees.run (h.step a) as

theorem agrees_start {c : Client} (hc : c.attached = none) (hconf : c.hub.ConfirmsAll) :
    (⟨c, fun _ => 0⟩ : Observed).Agrees :=
  ⟨hconf, fun a ha => by rw [hc] at ha; cases ha⟩

end Observed

/-! ### Openings -/

theorem session?_reopen {c : Client} {g i : Nat} {s : Session} (hs : c.hub.session? g i = some s) :
    (Op.exec (Op.reopen g i) c).2.hub.session? g i =
      some ({ s with valid := true }.resync c.registry) := by
  rw [Op.exec_reopen]
  simp [Hub.session?_updateSession, hs]

theorem session?_connect {c : Client} {a : Attachment} (hc : c.attached = none)
    (ha : (Op.exec Op.connect c).2.attached = some a) {i : Nat} (hi : i < c.hub.width) :
    ∃ s, (Op.exec Op.connect c).2.hub.session? a.group i = some s ∧ s.valid = true ∧
      s.sent = c.registry.openingFrames := by
  rcases Op.exec_connect_cases c with hsame | ⟨-, eps, hnew⟩
  · rw [hsame, hc] at ha
    cases ha
  · rw [hnew] at ha ⊢
    simp only [Option.some.injEq] at ha
    subst ha
    simp only [Hub.session?_foldl_range, Hub.session?_openGroup, hi, and_self, if_true,
      Option.map_some]
    exact ⟨_, rfl, rfl, by simp⟩

/-! ### Agreement over whole runs -/

/-- **Sessions agree with the registry.** From a detached client over a broker that confirms
every request, along every run of subscribes and unsubscribes (whatever their arguments and the
outcome of their checks), changes of name and namespace, connects, disconnects, and reopened or
lost sessions: whenever the client is attached, every open session of its group has been told,
since it last opened, exactly the queue names of the registry, replaying a batched subscribe as
the names of its decoded body. Each reopening, and each connect that attaches the client, sends
a session one batched subscribe when the registry is not empty and nothing otherwise; its body
decodes to the registry's queue map, which lists under each topic exactly the queue names of the
subscriptions on that topic. -/
theorem sessions_agree_with_registry (c₀ : Client) (hc : c₀.attached = none)
    (hconf : c₀.hub.ConfirmsAll) (as : List Action) :
    (∀ a, ((⟨c₀, fun _ => 0⟩ : Observed).run as).client.attached = some a →
      ∀ i s, ((⟨c₀, fun _ => 0⟩ : Observed).run as).client.hub.session? a.group i = some s →
        s.valid = true →
        replay (s.sent.drop (((⟨c₀, fun _ => 0⟩ : Observed).run as).opened (a.group, i))) =
          ((⟨c₀, fun _ => 0⟩ : Observed).run as).client.registry.names) ∧
    (∀ (c : Client) (g i : Nat) (s : Session), c.hub.session? g i = some s →
      ∃ s', (Op.exec (Op.reopen g i) c).2.hub.session? g i = some s' ∧ s'.valid = true ∧
        s'.sent = s.sent ++ (if c.registry.isEmpty then []
          else [.request .subscribe c.registry.queues.subscribeEntity])) ∧
    (∀ (c : Client) (a : Attachment), c.attached = none →
      (Op.exec Op.connect c).2.attached = some a → ∀ i < c.hub.width,
        ∃ s, (Op.exec Op.connect c).2.hub.session? a.group i = some s ∧ s.valid = true ∧
          s.sent = (if c.registry.isEmpty then []
            else [.request .subscribe c.registry.queues.subscribeEntity])) ∧
    (∀ r : Registry, r.queues.subscribeEntity.meta? Meta.batch = some "1" ∧
      QueueMap.ofEntity? r.queues.subscribeEntity = .ok r.queues ∧
      ∀ t q, r.queues.Listed t q ↔ ∃ s ∈ r.entries, s.topic = t ∧ s.queueName = q) := by
  refine ⟨?_, ?_, ?_, ?_⟩
  · intro a ha i s hs hv
    exact ((Observed.agrees_start hc hconf).run as |>.sessions a ha i s hs).2 hv |>.2
  · intro c g i s hs
    exact ⟨_, session?_reopen hs, rfl, rfl⟩
  · intro c a hc' ha i hi
    exact session?_connect hc' ha hi
  · intro r
    exact ⟨rfl, QueueMap.ofEntity?_subscribeEntity (Registry.wellFormed_queues r),
      Registry.listed_queues r⟩

/-- A client with no rules on its broker, which then confirms every request, subscribing and
connecting. -/
theorem sessions_agree_with_registry_example :
    let c₀ : Client :=
      { urls := ["folkmq://127.0.0.1:18602"], name := some "A", hub := ⟨2, [], [], []⟩ }
    let o := (⟨c₀, fun _ => 0⟩ : Observed).run [.subscribe "orders" none none ⟨"h", []⟩, .connect]
    (c₀.attached = none ∧ c₀.hub.ConfirmsAll) ∧
      ∀ a, o.client.attached = some a → ∀ i s, o.client.hub.session? a.group i = some s →
        s.valid = true → replay (s.sent.drop (o.opened (a.group, i))) = o.client.registry.names := by
  intro c₀ o
  have hconf : c₀.hub.ConfirmsAll := fun _ _ => ⟨confirmation, rfl, rfl⟩
  exact ⟨⟨rfl, hconf⟩, (sessions_agree_with_registry c₀ rfl hconf _).1⟩

end BrokerClient
