import Mathlib.Data.Finset.Card
import BrokerClient.Proofs.Routing
/-!
# Queue names grouped by topic

A session that opens is sent the registry's queue names grouped by topic (`Registry.queues`).
The grouping loses and duplicates nothing, whatever the topics and groups, `#` included
(`Registry.queues_partition_names`): its topics are those of the subscriptions, each lists some
name, two topics list no name in common, together they list the registry's queue names, as many
as there are subscriptions, and each name stands under the topic of its own subscription.

All of it rests on one invariant, that the registry is in order of queue names
(`Registry.Sorted`), which every change keeps; so a queue name belongs to one subscription
(`Registry.Sorted.eq_of_queueName_eq`), even where two pairs join to the same name and the later
one replaced the earlier.
-/

namespace BrokerClient

namespace QueueMap

theorem ne_nil_of_mem_add {m : QueueMap} (hm : ∀ e ∈ m.entries, e.2 ≠ []) (t n : String) :
    ∀ e ∈ (m.add t n).entries, e.2 ≠ [] := by
  intro e he
  rcases mem_addEntry he with rfl | ⟨ns, -, rfl⟩ | he
  · exact List.cons_ne_nil n []
  · exact List.ne_nil_of_mem (mem_insertName.2 (.inl rfl))
  · exact hm e he

end QueueMap

namespace Registry

/-- The registry that a run of changes builds from the empty one. -/
def ofChanges (cs : List Change) : Registry := cs.foldl (fun r ch => ch.applyTo r) {}

theorem Sorted.applyTo {r : Registry} (h : r.Sorted) : ∀ ch : Change, (ch.applyTo r).Sorted
  | .install s => h.add s
  | .withdraw t g => h.remove t g

/-- Every run of changes keeps the registry in order of queue names. -/
theorem sorted_ofChanges (cs : List Change) : (ofChanges cs).Sorted := by
  unfold ofChanges
  -- the order holds of the empty registry and each change keeps it
  suffices h : ∀ r : Registry, r.Sorted → (cs.foldl (fun r ch => ch.applyTo r) r).Sorted from
    h {} List.Pairwise.nil
  induction cs with
  | nil => exact fun r hr => hr
  | cons ch cs ih => exact fun r hr => ih _ (hr.applyTo ch)

theorem Sorted.eq_of_queueName_eq {r : Registry} (h : r.Sorted) {s s' : Subscription}
    (hs : s ∈ r.entries) (hs' : s' ∈ r.entries) (hq : s.queueName = s'.queueName) : s = s' :=
  List.inj_on_of_nodup_map h.nodup hs hs' hq

/-- The queue map groups the registry's queue names by topic: its topics are those of the
subscriptions, each lists some name, the names of two topics are apart, together they are the
registry's queue names, as many as its subscriptions, and each name is listed under the topic of
its subscription only. -/
structure GroupsQueues (r : Registry) : Prop where
  topics : ∀ t, t ∈ r.queues.entries.map Prod.fst ↔ ∃ s ∈ r.entries, s.topic = t
  nonempty : ∀ e ∈ r.queues.entries, e.2 ≠ []
  disjoint : ∀ t t' ns ns', (t, ns) ∈ r.queues.entries → (t', ns') ∈ r.queues.entries → t ≠ t' →
    ns.Disjoint ns'
  names : r.queues.names = r.names
  count : (r.queues.entries.map fun e => e.2.length).sum = r.size
  owner : ∀ s ∈ r.entries, ∀ t, r.queues.Listed t s.queueName ↔ t = s.topic

theorem ne_nil_of_mem_queues {r : Registry} {e : String × List String}
    (he : e ∈ r.queues.entries) : e.2 ≠ [] := by
  -- adding a name under a topic keeps every topic's names nonempty, so every prefix of the fold
  -- gives such a map
  suffices h : ∀ (l : List Subscription) (m : QueueMap), (∀ e ∈ m.entries, e.2 ≠ []) →
      ∀ e ∈ (l.foldl (fun m s => m.add s.topic s.queueName) m).entries, e.2 ≠ [] from
    h _ _ (by simp [QueueMap.empty]) e he
  intro l
  induction l with
  | nil => exact fun m hm => hm
  | cons s l ih => exact fun m hm => ih _ (QueueMap.ne_nil_of_mem_add hm s.topic s.queueName)

theorem mem_topics_queues (r : Registry) (t : String) :
    t ∈ r.queues.entries.map Prod.fst ↔ ∃ s ∈ r.entries, s.topic = t := by
  constructor
  · intro ht
    obtain ⟨⟨t', ns⟩, he, rfl⟩ := List.mem_map.1 ht
    obtain ⟨q, hq⟩ := List.exists_mem_of_ne_nil ns (ne_nil_of_mem_queues he)
    obtain ⟨s, hs, ht, -⟩ := (listed_queues r t' q).1 ⟨ns, he, hq⟩
    exact ⟨s, hs, ht⟩
  · rintro ⟨s, hs, rfl⟩
    obtain ⟨ns, he, -⟩ := (listed_queues r s.topic s.queueName).2 ⟨s, hs, rfl, rfl⟩
    exact List.mem_map.2 ⟨_, he, rfl⟩

theorem Sorted.listed_queueName_iff {r : Registry} (h : r.Sorted) {s : Subscription}
    (hs : s ∈ r.entries) (t : String) : r.queues.Listed t s.queueName ↔ t = s.topic := by
  rw [listed_queues]
  constructor
  · rintro ⟨s', hs', rfl, hq⟩
    rw [h.eq_of_queueName_eq hs' hs hq]
  · rintro rfl
    exact ⟨s, hs, rfl, rfl⟩

/-- In a registry in order of queue names, two topics of the queue map list no name in common. -/
theorem Sorted.disjoint_queues {r : Registry} (h : r.Sorted) {t t' : String}
    {ns ns' : List String} (he : (t, ns) ∈ r.queues.entries) (he' : (t', ns') ∈ r.queues.entries)
    (hne : t ≠ t') : ns.Disjoint ns' := by
  intro q hq hq'
  -- the name belongs to one subscription, whose topic both would be
  obtain ⟨s, hs, rfl, rfl⟩ := (listed_queues r t q).1 ⟨ns, he, hq⟩
  exact hne ((h.listed_queueName_iff hs t').1 ⟨ns', he', hq'⟩).symm

/-- In a registry in order of queue names, the queue map lists as many names as there are
subscriptions. -/
theorem Sorted.sum_length_queues {r : Registry} (h : r.Sorted) :
    (r.queues.entries.map fun e => e.2.length).sum = r.size := by
  have hwf := wellFormed_queues r
  -- the names listed under all topics are distinct: distinct under each topic, apart across
  -- topics, and the topics themselves distinct
  have hnodup : (r.queues.entries.flatMap Prod.snd).Nodup := by
    rw [List.nodup_flatMap]
    refine ⟨fun e he => (hwf.names_sorted e he).nodup, ?_⟩
    have htopics := List.pairwise_map.1 hwf.topics_sorted
    refine htopics.imp_of_mem fun {e e'} he he' hlt => ?_
    exact h.disjoint_queues he he' (ne_of_lt hlt)
  calc (r.queues.entries.map fun e => e.2.length).sum
      = (r.queues.entries.flatMap Prod.snd).length := by simp [List.length_flatMap]
    _ = r.queues.names.card := (List.toFinset_card_of_nodup hnodup).symm
    _ = r.names.card := by rw [names_queues]
    _ = r.size := by simp [names, size, List.toFinset_card_of_nodup h.nodup]

theorem Sorted.groupsQueues {r : Registry} (h : r.Sorted) : r.GroupsQueues where
  topics := mem_topics_queues r
  nonempty _ he := ne_nil_of_mem_queues he
  disjoint _ _ _ _ he he' hne := h.disjoint_queues he he' hne
  names := names_queues r
  count := h.sum_length_queues
  owner _ hs := h.listed_queueName_iff hs

/-- **The resync grouping loses and duplicates nothing.** After any run of changes with any
topics and groups, the queue map partitions the registry's queue names by the topics of their
subscriptions. -/
theorem queues_partition_names (cs : List Change) : (ofChanges cs).GroupsQueues :=
  (sorted_ofChanges cs).groupsQueues

/-- `a#b` with `c` and `a` with `b#c` share a queue name, so the later replaces the earlier, and
the map lists the name once, under the later topic. -/
example :
    (ofChanges [.install ⟨"a#b", "c", true, ⟨"h", []⟩⟩,
      .install ⟨"a", "b#c", true, ⟨"h", []⟩⟩]).queues = ⟨[("a", ["a#b#c"])]⟩ := by
  decide

end Registry

end BrokerClient
