import Mathlib.Data.List.Find
import BrokerClient.Client.Dispatch
import BrokerClient.Proofs.Resync
/-!
# Deliveries follow the latest subscribe

The registry is keyed by queue names `topic#group`, and joining a topic and a group that way
is not injective: `a#b` with `c` and `a` with `b#c` make the same name. A `distribute` frame
may name any topic and group, checked by no one. Deliveries still reach the right
subscription, because every subscribe and unsubscribe checks its topic, group and namespace
free of `#`, so every registered pair is, and a pair free of `#` shares its queue name with no
other pair (`Topic.queueName_eq_iff`).

The specification is a log: a run makes a list of `Change`s, one per subscribe or unsubscribe
that passes its checks, and `Change.live` reads the subscription of a pair off the latest
change of that pair. The invariant `Registry.Routes` says the registry is sorted, free of `#`,
and looks up for every pair what the log says; each change keeps it, and no other action
touches the registry (`Action.registry_apply`, resting on `Op.KeepsRegistry` for the requests
of a broadcast).
-/

namespace BrokerClient

namespace Op

/-- An operation that leaves the registry of every client as it found it. -/
def KeepsRegistry {α : Type} (op : Op α) : Prop := ∀ c, (exec op c).2.registry = c.registry

theorem KeepsRegistry.bind {α β : Type} {x : Op α} {f : α → Op β} (hx : x.KeepsRegistry)
    (hf : ∀ a, (f a).KeepsRegistry) : (x >>= f).KeepsRegistry := by
  intro c
  rw [exec_bind]
  rcases hc : exec x c with ⟨r, c'⟩
  have h1 : c'.registry = c.registry := by simpa [hc] using hx c
  rcases r with e | a
  · exact h1
  · exact (hf a c').trans h1

theorem keepsRegistry_forIn {β : Type} (f : β → PUnit → Op (ForInStep PUnit))
    (hf : ∀ x, (f x PUnit.unit).KeepsRegistry) :
    ∀ xs : List β, (forIn xs PUnit.unit f).KeepsRegistry
  | [], _ => rfl
  | x :: xs, c => by
    rw [exec_forIn_cons]
    rcases hc : exec (f x PUnit.unit) c with ⟨r, c'⟩
    have h1 : c'.registry = c.registry := by simpa [hc] using hf x c
    rcases r with e | (⟨⟩ | ⟨⟩)
    · exact h1
    · exact h1
    · exact (keepsRegistry_forIn f hf xs c').trans h1

theorem keepsRegistry_onSession {α : Type} (g i : Nat) (f : Session → Session × Except TransportError α) :
    (onSession g i f).KeepsRegistry := by
  intro c
  rcases hs : c.hub.session? g i with _ | s
  · rw [exec_onSession_none f hs]
  · rw [exec_onSession f hs]

theorem keepsRegistry_request (g i : Nat) (ev : Event) (e : Entity) (t : Duration) :
    (request g i ev e t).KeepsRegistry := by
  intro c
  unfold request
  rw [exec_bind, exec_get]
  exact keepsRegistry_onSession g i _ c

theorem keepsRegistry_confirmed (op : String) (answer : Entity) :
    (confirmed op answer).KeepsRegistry := by
  intro c
  unfold confirmed
  cases ensureConfirmed op answer <;> rfl

theorem keepsRegistry_broadcast (ps : List (Nat × Nat)) (ev : Event) (t g : String) :
    (broadcast ps ev t g).KeepsRegistry := by
  unfold broadcast
  refine KeepsRegistry.bind (keepsRegistry_forIn _ ?_ ps) (fun _ _ => rfl)
  -- each round reads the client, sends a request and checks its answer
  rintro ⟨g, i⟩
  refine KeepsRegistry.bind (fun _ => rfl) fun _ => ?_
  refine KeepsRegistry.bind (keepsRegistry_request _ _ _ _ _) fun _ => ?_
  exact KeepsRegistry.bind (keepsRegistry_confirmed _ _) fun _ _ => rfl

end Op

/-! ### Changes to the registry -/

/-- What a subscribe or an unsubscribe that passes its checks does to the registry: install a
subscription, or withdraw the one of a topic and consumer group. -/
inductive Change where
  | install (s : Subscription)
  | withdraw (topic group : String)

namespace Change

/-- The topic and consumer group a change is about. -/
def pair : Change → String × String
  | install s => (s.topic, s.group)
  | withdraw t g => (t, g)

/-- The subscription a change leaves for its pair. -/
def result : Change → Option Subscription
  | install s => some s
  | withdraw _ _ => none

/-- The registry after a change. -/
def applyTo : Change → Registry → Registry
  | install s, r => r.add s
  | withdraw t g, r => r.remove t g

/-- The subscription that changes leave live for a topic and consumer group: the one installed
by the latest change of that pair, unless that change withdrew it. -/
def live (cs : List Change) (t g : String) : Option Subscription :=
  ((cs.filter (·.pair = (t, g))).getLast?).bind result

theorem live_append (cs : List Change) (ch : Change) (t g : String) :
    live (cs ++ [ch]) t g = if ch.pair = (t, g) then ch.result else live cs t g := by
  unfold live
  by_cases h : ch.pair = (t, g)
  · simp [List.filter_append, h]
  · simp [List.filter_append, h]

theorem pair_of_live {cs : List Change} {t g : String} {s : Subscription}
    (h : live cs t g = some s) : s.topic = t ∧ s.group = g := by
  unfold live at h
  obtain ⟨ch, hch, hr⟩ := Option.bind_eq_some_iff.1 h
  have hp : ch.pair = (t, g) := by simpa using (List.mem_filter.1 (List.mem_of_getLast? hch)).2
  cases ch with
  | install s' =>
    cases hr
    simpa [pair] using hp
  | withdraw _ _ => cases hr

end Change

theorem Topic.unhashed_of_valid {v : String} (h : Topic.Valid v) : '#' ∉ v.toList :=
  fun hm => h.2 '#' hm (by decide)

/-- The topic and group a subscribe or unsubscribe names hold no `#`: the checks refuse it in
the topic, the group and the namespace. -/
theorem Client.target?_unhashed {c : Client} {t : String} {g? : Option String} {full grp : String}
    (h : c.target? t g? = some (full, grp)) : '#' ∉ full.toList ∧ '#' ∉ grp.toList := by
  unfold Client.target? at h
  split at h
  · cases h
  · split_ifs at h with hv
    obtain ⟨ht, hg, hs⟩ := hv
    cases h
    refine ⟨?_, Topic.unhashed_of_valid hg⟩
    unfold Topic.full
    split
    · exact Topic.unhashed_of_valid ht
    · rename_i hne
      cases hsp : c.space with
      | none => simp [hsp] at hne
      | some ns =>
        simp only [Option.getD_some, String.toList_append, List.mem_append, not_or]
        exact ⟨⟨Topic.unhashed_of_valid (hs ns hsp), by decide⟩, Topic.unhashed_of_valid ht⟩

/-- The change an action makes to the registry of a client, if any: that of a subscribe or an
unsubscribe that passes its checks. -/
def Action.change (c : Client) : Action → Option Change
  | .subscribe t g? a? hd =>
    (c.target? t g?).map fun p => .install ⟨p.1, p.2, a?.getD c.autoAck, hd⟩
  | .unsubscribe t g? => (c.target? t g?).map fun p => .withdraw p.1 p.2
  | _ => none

theorem Action.change_unhashed {c : Client} {a : Action} {ch : Change} (h : a.change c = some ch) :
    '#' ∉ ch.pair.1.toList ∧ '#' ∉ ch.pair.2.toList := by
  cases a with
  | subscribe t g? a? hd =>
    obtain ⟨⟨full, grp⟩, ht, rfl⟩ := Option.map_eq_some_iff.1 h
    exact Client.target?_unhashed ht
  | unsubscribe t g? =>
    obtain ⟨⟨full, grp⟩, ht, rfl⟩ := Option.map_eq_some_iff.1 h
    exact Client.target?_unhashed ht
  | _ => cases h

theorem Action.registry_apply (c : Client) (a : Action) :
    (a.apply c).registry = match a.change c with
      | some ch => ch.applyTo c.registry
      | none => c.registry := by
  cases a with
  | subscribe t g? a? hd =>
    rcases ht : c.target? t g? with _ | ⟨full, grp⟩
    · obtain ⟨msg, hmsg⟩ := Op.exec_subscribe_none a? hd ht
      simp [Action.apply, Action.change, hmsg, ht]
    · simp only [Action.apply, Action.change, ht, Option.map_some]
      rw [Op.exec_subscribe_some a? hd ht, Op.keepsRegistry_broadcast]
      rfl
  | unsubscribe t g? =>
    rcases ht : c.target? t g? with _ | ⟨full, grp⟩
    · obtain ⟨msg, hmsg⟩ := Op.exec_unsubscribe_none ht
      simp [Action.apply, Action.change, hmsg, ht]
    · simp only [Action.apply, Action.change, ht, Option.map_some]
      rw [Op.exec_unsubscribe_some ht, Op.keepsRegistry_broadcast]
      rfl
  | setName n => rfl
  | setSpace ns => rfl
  | connect =>
    rcases Op.exec_connect_cases c with h | ⟨-, eps, h⟩ <;> simp [Action.apply, Action.change, h]
  | disconnect =>
    simp only [Action.apply, Action.change, Op.exec_disconnect]
    split <;> rfl
  | reopen g i => simp [Action.apply, Action.change, Op.exec_reopen]
  | lose g i => rfl

/-! ### Registries that route as their changes say -/

namespace Registry

/-- A registry routes as a list of changes says: its subscriptions are in order of queue names,
their topics and groups hold no `#`, and every topic and group looks up the subscription the
changes leave live for it. -/
structure Routes (r : Registry) (cs : List Change) : Prop where
  sorted : r.Sorted
  unhashed : ∀ s ∈ r.entries, '#' ∉ s.topic.toList ∧ '#' ∉ s.group.toList
  lookup : ∀ t g, r.lookup t g = Change.live cs t g

theorem routes_empty : ({} : Registry).Routes [] :=
  ⟨List.Pairwise.nil, fun _ h => (by cases h), fun _ _ => rfl⟩

theorem Routes.applyTo {r : Registry} {cs : List Change} (h : r.Routes cs) (ch : Change)
    (hch : '#' ∉ ch.pair.1.toList ∧ '#' ∉ ch.pair.2.toList) :
    (ch.applyTo r).Routes (cs ++ [ch]) := by
  cases ch with
  | install s =>
    refine ⟨h.sorted.add s, fun x hx => ?_, fun t g => ?_⟩
    · rcases (mem_add h.sorted).1 hx with rfl | ⟨hx, -⟩
      · exact hch
      · exact h.unhashed x hx
    · rw [Change.applyTo, lookup_add hch.1 hch.2, Change.live_append, h.lookup]
      simp [Change.pair, Change.result, eq_comm]
  | withdraw t' g' =>
    have hfree : '#' ∉ t'.toList ∧ '#' ∉ g'.toList := hch
    refine ⟨h.sorted.remove t' g', fun x hx => h.unhashed x (mem_remove.1 hx).1, fun t g => ?_⟩
    rw [Change.applyTo, lookup_remove hfree.1 hfree.2, Change.live_append, h.lookup]
    simp [Change.pair, Change.result, eq_comm]

/-- In a registry whose topics and groups hold no `#`, a lookup finds the subscription of that
very topic and group, whatever strings it is given: a pair that holds `#` may share its queue
name with no registered pair but its own. -/
theorem lookup_eq_find?_pair {r : Registry}
    (hu : ∀ s ∈ r.entries, '#' ∉ s.topic.toList ∧ '#' ∉ s.group.toList) (t g : String) :
    r.lookup t g = r.entries.find? (fun s => (s.topic, s.group) = (t, g)) := by
  unfold lookup find?
  refine List.find?_congr fun s hs => ?_
  have hq : Topic.queueName s.topic s.group = Topic.queueName t g ↔ s.topic = t ∧ s.group = g := by
    rw [eq_comm, Topic.queueName_eq_iff (hu s hs).1 (hu s hs).2, eq_comm (a := t), eq_comm (a := g)]
  simp only [Subscription.queueName, Prod.mk.injEq]
  rw [Bool.eq_iff_iff, decide_eq_true_iff, beq_iff_eq, hq]

theorem filter_eq_find?_toList {p : Subscription → Bool} {q : String}
    (hp : ∀ s, p s = true → s.queueName = q) :
    ∀ {l : List Subscription}, (l.map Subscription.queueName).Pairwise (· < ·) →
      l.filter p = (l.find? p).toList
  | [], _ => rfl
  | x :: xs, h => by
    rw [List.map_cons, List.pairwise_cons] at h
    by_cases hx : p x = true
    · rw [List.filter_cons_of_pos hx, List.find?_cons_of_pos hx, Option.toList_some,
        List.filter_eq_nil_iff.2]
      -- a later element passing the test would share the queue name of `x`
      intro y hy hpy
      have hlt := h.1 y.queueName (List.mem_map_of_mem hy)
      rw [hp x hx, hp y hpy] at hlt
      exact lt_irrefl _ hlt
    · rw [List.filter_cons_of_neg hx, List.find?_cons_of_neg hx]
      exact filter_eq_find?_toList hp h.2

/-- A registry that routes holds, for each topic and group, exactly the subscription its lookup
finds. -/
theorem Routes.filter_pair {r : Registry} {cs : List Change} (h : r.Routes cs) (t g : String) :
    r.entries.filter (fun s => (s.topic, s.group) = (t, g)) = (r.lookup t g).toList := by
  rw [lookup_eq_find?_pair h.unhashed]
  refine filter_eq_find?_toList (q := Topic.queueName t g) (fun s hs => ?_) h.sorted
  have hst : (s.topic, s.group) = (t, g) := by simpa using hs
  simp only [Prod.mk.injEq] at hst
  rw [Subscription.queueName, hst.1, hst.2]

end Registry

/-! ### Runs -/

/-- The client after a run. -/
def Action.run (c : Client) (as : List Action) : Client := as.foldl (fun c a => a.apply c) c

/-- The changes a run makes to the registry, in order. -/
def Action.changes : Client → List Action → List Change
  | _, [] => []
  | c, a :: as => (a.change c).toList ++ Action.changes (a.apply c) as

theorem Registry.Routes.step {c : Client} {cs : List Change} (h : c.registry.Routes cs)
    (a : Action) : (a.apply c).registry.Routes (cs ++ (a.change c).toList) := by
  rw [Action.registry_apply]
  rcases hch : a.change c with _ | ch
  · simpa using h
  · exact h.applyTo ch (Action.change_unhashed hch)

/-- Every run keeps the routing, with the changes it makes. -/
theorem Registry.Routes.run {c : Client} {cs : List Change} (h : c.registry.Routes cs) :
    ∀ as, (Action.run c as).registry.Routes (cs ++ Action.changes c as)
  | [] => by simpa [Action.run, Action.changes] using h
  | a :: as => by
    have hrun := (h.step a).run as
    rw [List.append_assoc] at hrun
    exact hrun

/-! ### Deliveries -/

/-- A `distribute` frame received on a session is consumed by the subscription that the
registry looks up for its topic and consumer group, each read as empty when absent. -/
theorem Dispatch.deliver_distribute {c : Client} {g i : Nat} {s : Session}
    (hs : c.hub.session? g i = some s) {frame : Frame}
    (he : Event.ofWireName? frame.event = some .distribute) :
    (Dispatch.deliver g i frame).run c =
      (Dispatch.consume g i ⟨s.id, frame⟩ (c.registry.lookup (frame.entity.metaOr Meta.topic "")
        (frame.entity.metaOr Meta.group ""))).run c := by
  simp only [Dispatch.deliver, Dispatch.onDistribute, bind, StateT.bind, get, getThe,
    MonadStateOf.get, StateT.get, StateT.run, hs, he, pure]
  rfl

/-! ### Routing over whole runs -/

/-- **Deliveries follow the latest subscribe.** Along every run from a client with no
subscriptions, of subscribes and unsubscribes with any arguments, whether their checks pass and
whatever the broker answers, changes of name and namespace, connects, disconnects and sessions
reopened or lost: a `distribute` frame received on a session, whatever its topic and consumer
group metas (each empty when absent), is consumed by the subscription that the latest checked
subscribe of exactly that topic and group installed, with that subscribe's handler and
acknowledgement mode, unless a checked unsubscribe of the pair came after it; and the registry
holds, for every topic and group, exactly that subscription, or nothing. -/
theorem deliveries_follow_latest_subscribe (c₀ : Client) (hr : c₀.registry = {})
    (as : List Action) :
    (∀ g i s frame, (Action.run c₀ as).hub.session? g i = some s →
      Event.ofWireName? frame.event = some .distribute →
      (Dispatch.deliver g i frame).run (Action.run c₀ as) =
        (Dispatch.consume g i ⟨s.id, frame⟩ (Change.live (Action.changes c₀ as)
          (frame.entity.metaOr Meta.topic "") (frame.entity.metaOr Meta.group ""))).run
          (Action.run c₀ as)) ∧
    (∀ t g sub, Change.live (Action.changes c₀ as) t g = some sub →
      sub.topic = t ∧ sub.group = g) ∧
    (∀ t g, (Action.run c₀ as).registry.entries.filter (fun s => (s.topic, s.group) = (t, g)) =
      (Change.live (Action.changes c₀ as) t g).toList) := by
  have h0 : c₀.registry.Routes [] := hr ▸ Registry.routes_empty
  have h := h0.run as
  rw [List.nil_append] at h
  refine ⟨fun g i s frame hs he => ?_, fun t g sub hl => Change.pair_of_live hl, fun t g => ?_⟩
  · rw [Dispatch.deliver_distribute hs he, h.lookup]
  · rw [h.filter_pair, h.lookup]

/-- A client named `billing` subscribes to `orders` under its own name, then unsubscribes
another group from it. -/
theorem deliveries_follow_latest_subscribe_example :
    let c₀ : Client :=
      { urls := ["folkmq://127.0.0.1:18602"], name := some "billing", hub := ⟨2, [], [], []⟩ }
    let as : List Action :=
      [.subscribe "orders" none (some true) ⟨"h", []⟩, .unsubscribe "orders" (some "audit")]
    c₀.registry = {} ∧
    (∀ g i s frame, (Action.run c₀ as).hub.session? g i = some s →
      Event.ofWireName? frame.event = some .distribute →
      (Dispatch.deliver g i frame).run (Action.run c₀ as) =
        (Dispatch.consume g i ⟨s.id, frame⟩ (Change.live (Action.changes c₀ as)
          (frame.entity.metaOr Meta.topic "") (frame.entity.metaOr Meta.group ""))).run
          (Action.run c₀ as)) ∧
    (∀ t g sub, Change.live (Action.changes c₀ as) t g = some sub →
      sub.topic = t ∧ sub.group = g) ∧
    (∀ t g, (Action.run c₀ as).registry.entries.filter (fun s => (s.topic, s.group) = (t, g)) =
      (Change.live (Action.changes c₀ as) t g).toList) := by
  intro c₀ as
  exact ⟨rfl, deliveries_follow_latest_subscribe c₀ rfl as⟩

end BrokerClient
