import Mathlib.Data.Finset.Basic
import Mathlib.Data.String.Basic
import BrokerClient.Registry
import BrokerClient.Proofs.QueueMap

/-!
The registry seen three ways: as the set of its queue names (`Registry.names`), as the map that
`lookup` reads from a topic and a group to a subscription, and as its list of subscriptions. Adding
a subscription inserts its queue name and replaces the entry of that name; removing takes the
name out. When the topic and the group of a subscription hold no `#`, its queue name belongs to
no other pair, so the lookup of every other pair is unchanged. The queue map of the registry
lists under each topic exactly the queue names of the subscriptions on that topic.
-/

namespace BrokerClient

namespace Registry

/-! ### Queue names -/

/-- The queue names of the registry's subscriptions. -/
def names (r : Registry) : Finset String := (r.entries.map Subscription.queueName).toFinset

theorem queueNames_insertSub (s : Subscription) :
    ∀ l : List Subscription, ((insertSub s l).map Subscription.queueName).toFinset =
      insert s.queueName (l.map Subscription.queueName).toFinset
  | [] => by simp [insertSub]
  | t :: rest => by
    unfold insertSub
    split
    · simp
    · split
      · rename_i heq
        simp [heq]
      · simp only [List.map_cons, List.toFinset_cons, queueNames_insertSub s rest]
        exact Finset.insert_comm _ _ _

@[simp] theorem names_add (r : Registry) (s : Subscription) :
    (r.add s).names = insert s.queueName r.names :=
  queueNames_insertSub s r.entries

@[simp] theorem names_remove (r : Registry) (t g : String) :
    (r.remove t g).names = r.names.erase (Topic.queueName t g) := by
  ext q
  simp only [names, remove, List.mem_toFinset, List.mem_map, List.mem_filter, bne_iff_ne, ne_eq,
    Finset.mem_erase]
  constructor
  · rintro ⟨s, ⟨hs, hne⟩, rfl⟩
    exact ⟨hne, s, hs, rfl⟩
  · rintro ⟨hne, s, hs, rfl⟩
    exact ⟨s, ⟨hs, hne⟩, rfl⟩

theorem names_eq_empty_iff (r : Registry) : r.names = ∅ ↔ r.isEmpty = true := by
  simp [names, isEmpty, List.isEmpty_iff]

/-! ### Lookups -/

theorem find?_insertSub (s : Subscription) (q : String) :
    ∀ l : List Subscription, (insertSub s l).find? (·.queueName == q) =
      if s.queueName = q then some s else l.find? (·.queueName == q)
  | [] => by
    by_cases h : s.queueName = q <;> simp [insertSub, h]
  | t :: rest => by
    unfold insertSub
    split
    · by_cases h : s.queueName = q <;> simp [h]
    · split
      · rename_i heq
        by_cases h : s.queueName = q
        · simp [h]
        · have ht : ¬t.queueName = q := heq ▸ h
          simp [h, ht]
      · rename_i hne
        rw [List.find?_cons, find?_insertSub s q rest, List.find?_cons]
        by_cases ht : t.queueName = q
        · have h : ¬s.queueName = q := fun h => hne (h.trans ht.symm)
          simp [h, ht]
        · have hb : (t.queueName == q) = false := by simpa using ht
          simp only [hb]

/-- After adding a subscription whose topic and group hold no `#`, the lookup of its own pair
finds it, and the lookup of every other pair is as before. -/
theorem lookup_add {s : Subscription} (ht : '#' ∉ s.topic.toList) (hg : '#' ∉ s.group.toList)
    (r : Registry) (t g : String) :
    (r.add s).lookup t g = if t = s.topic ∧ g = s.group then some s else r.lookup t g := by
  simp only [lookup, find?, add, find?_insertSub]
  have hq : s.queueName = Topic.queueName t g ↔ t = s.topic ∧ g = s.group :=
    eq_comm.trans (Topic.queueName_eq_iff ht hg)
  by_cases h : t = s.topic ∧ g = s.group
  · simp [h, Subscription.queueName]
  · simp only [hq, h, if_false]

theorem lookup_remove {t' g' : String} (ht : '#' ∉ t'.toList) (hg : '#' ∉ g'.toList)
    (r : Registry) (t g : String) :
    (r.remove t' g').lookup t g = if t = t' ∧ g = g' then none else r.lookup t g := by
  simp only [lookup, find?, remove, List.find?_filter]
  by_cases h : t = t' ∧ g = g'
  · obtain ⟨rfl, rfl⟩ := h
    simp only [and_self, if_true, List.find?_eq_none]
    intro s _
    by_cases hs : s.queueName = Topic.queueName t g <;> simp [hs]
  · have hne : Topic.queueName t g ≠ Topic.queueName t' g' :=
      fun heq => h ((Topic.queueName_eq_iff ht hg).1 heq)
    simp only [h, if_false]
    congr 1
    funext s
    by_cases hs : s.queueName = Topic.queueName t g
    · simp [hs, hne]
    · simp [hs]

/-! ### Entries -/

/-- The registry lists its subscriptions in increasing order of queue names. -/
def Sorted (r : Registry) : Prop := (r.entries.map Subscription.queueName).Pairwise (· < ·)

theorem mem_of_mem_insertSub {s x : Subscription} :
    ∀ {l : List Subscription}, x ∈ insertSub s l → x = s ∨ x ∈ l
  | [], h => by simpa [insertSub] using h
  | t :: rest, h => by
    unfold insertSub at h
    split at h
    · simpa using h
    · split at h
      · simp only [List.mem_cons] at h
        rcases h with h | h
        · exact .inl h
        · exact .inr (List.mem_cons_of_mem t h)
      · simp only [List.mem_cons] at h
        rcases h with h | h
        · exact .inr (h ▸ List.mem_cons_self ..)
        · rcases mem_of_mem_insertSub h with h | h
          · exact .inl h
          · exact .inr (List.mem_cons_of_mem t h)

theorem sorted_insertSub (s : Subscription) :
    ∀ {l : List Subscription}, (l.map Subscription.queueName).Pairwise (· < ·) →
      ((insertSub s l).map Subscription.queueName).Pairwise (· < ·)
  | [], _ => by simp [insertSub]
  | t :: rest, hl => by
    simp only [List.map_cons, List.pairwise_cons, List.mem_map, forall_exists_index, and_imp,
      forall_apply_eq_imp_iff₂] at hl
    obtain ⟨hlt, hrest⟩ := hl
    unfold insertSub
    split
    · rename_i hst
      simp only [List.map_cons, List.pairwise_cons, List.mem_cons, List.mem_map,
        forall_eq_or_imp, forall_exists_index, and_imp, forall_apply_eq_imp_iff₂]
      exact ⟨⟨hst, fun y hy => lt_trans hst (hlt y hy)⟩, hlt, hrest⟩
    · split
      · rename_i heq
        simp only [List.map_cons, List.pairwise_cons, List.mem_map, forall_exists_index, and_imp,
          forall_apply_eq_imp_iff₂]
        exact ⟨fun y hy => heq ▸ hlt y hy, hrest⟩
      · rename_i hnlt hne
        have hts : t.queueName < s.queueName :=
          lt_of_le_of_ne (not_lt.1 hnlt) (Ne.symm hne)
        simp only [List.map_cons, List.pairwise_cons, List.mem_map, forall_exists_index, and_imp,
          forall_apply_eq_imp_iff₂]
        refine ⟨fun y hy => ?_, sorted_insertSub s hrest⟩
        rcases mem_of_mem_insertSub hy with rfl | hy
        · exact hts
        · exact hlt y hy

theorem mem_insertSub {s x : Subscription} :
    ∀ {l : List Subscription}, (l.map Subscription.queueName).Pairwise (· < ·) →
      (x ∈ insertSub s l ↔ x = s ∨ (x ∈ l ∧ x.queueName ≠ s.queueName))
  | [], _ => by simp [insertSub]
  | t :: rest, hl => by
    simp only [List.map_cons, List.pairwise_cons, List.mem_map, forall_exists_index, and_imp,
      forall_apply_eq_imp_iff₂] at hl
    obtain ⟨hlt, hrest⟩ := hl
    unfold insertSub
    split
    · rename_i hst
      simp only [List.mem_cons]
      constructor
      · rintro (rfl | rfl | hx)
        · exact .inl rfl
        · exact .inr ⟨.inl rfl, ne_of_gt hst⟩
        · exact .inr ⟨.inr hx, ne_of_gt (lt_trans hst (hlt x hx))⟩
      · rintro (rfl | ⟨rfl | hx, -⟩)
        · exact .inl rfl
        · exact .inr (.inl rfl)
        · exact .inr (.inr hx)
    · split
      · rename_i heq
        simp only [List.mem_cons]
        constructor
        · rintro (rfl | hx)
          · exact .inl rfl
          · exact .inr ⟨.inr hx, ne_of_gt (heq ▸ hlt x hx)⟩
        · rintro (rfl | ⟨rfl | hx, hne⟩)
          · exact .inl rfl
          · exact absurd heq.symm hne
          · exact .inr hx
      · rename_i hnlt hne
        have hts : t.queueName < s.queueName :=
          lt_of_le_of_ne (not_lt.1 hnlt) (Ne.symm hne)
        simp only [List.mem_cons, mem_insertSub hrest]
        constructor
        · rintro (rfl | rfl | ⟨hx, hxs⟩)
          · exact .inr ⟨.inl rfl, ne_of_lt hts⟩
          · exact .inl rfl
          · exact .inr ⟨.inr hx, hxs⟩
        · rintro (rfl | ⟨rfl | hx, hxs⟩)
          · exact .inr (.inl rfl)
          · exact .inl rfl
          · exact .inr (.inr ⟨hx, hxs⟩)

theorem Sorted.add {r : Registry} (h : r.Sorted) (s : Subscription) : (r.add s).Sorted :=
  sorted_insertSub s h

theorem Sorted.remove {r : Registry} (h : r.Sorted) (t g : String) : (r.remove t g).Sorted :=
  List.Pairwise.sublist (List.filter_sublist.map _) h

theorem mem_add {r : Registry} (h : r.Sorted) {s x : Subscription} :
    x ∈ (r.add s).entries ↔ x = s ∨ (x ∈ r.entries ∧ x.queueName ≠ s.queueName) :=
  mem_insertSub h

theorem mem_remove {r : Registry} {t g : String} {x : Subscription} :
    x ∈ (r.remove t g).entries ↔ x ∈ r.entries ∧ x.queueName ≠ Topic.queueName t g := by
  simp [Registry.remove]

/-! ### The queue map -/

theorem listed_foldl_add (t q : String) : ∀ (l : List Subscription) (m : QueueMap),
    (l.foldl (fun m s => m.add s.topic s.queueName) m).Listed t q ↔
      m.Listed t q ∨ ∃ s ∈ l, s.topic = t ∧ s.queueName = q
  | [], m => by simp
  | s :: l, m => by
    rw [List.foldl_cons, listed_foldl_add t q l, QueueMap.listed_add]
    constructor
    · rintro ((⟨rfl, rfl⟩ | h) | ⟨x, hx, hxt⟩)
      · exact .inr ⟨s, List.mem_cons_self, rfl, rfl⟩
      · exact .inl h
      · exact .inr ⟨x, List.mem_cons_of_mem s hx, hxt⟩
    · rintro (h | ⟨x, hx, rfl, rfl⟩)
      · exact .inl (.inr h)
      · rcases List.mem_cons.1 hx with rfl | hx
        · exact .inl (.inl ⟨rfl, rfl⟩)
        · exact .inr ⟨x, hx, rfl, rfl⟩

/-- The queue map of the registry lists under a topic exactly the queue names of the
subscriptions on that topic. -/
theorem listed_queues (r : Registry) (t q : String) :
    r.queues.Listed t q ↔ ∃ s ∈ r.entries, s.topic = t ∧ s.queueName = q := by
  rw [queues, listed_foldl_add]
  simp [QueueMap.Listed, QueueMap.empty]

theorem wellFormed_queues (r : Registry) : r.queues.WellFormed := by
  rw [queues]
  -- adding a name keeps a map well formed, so every prefix of the fold gives a well-formed map
  suffices h : ∀ (l : List Subscription) (m : QueueMap), m.WellFormed →
      (l.foldl (fun m s => m.add s.topic s.queueName) m).WellFormed from
    h _ _ QueueMap.wellFormed_empty
  intro l
  induction l with
  | nil => exact fun m hm => hm
  | cons s l ih => exact fun m hm => ih _ (hm.add _ _)

theorem names_queues (r : Registry) : r.queues.names = r.names := by
  ext q
  rw [QueueMap.mem_names, names, List.mem_toFinset, List.mem_map]
  simp only [listed_queues]
  constructor
  · rintro ⟨t, s, hs, -, rfl⟩
    exact ⟨s, hs, rfl⟩
  · rintro ⟨s, hs, rfl⟩
    exact ⟨s.topic, s, hs, rfl, rfl⟩

end Registry

end BrokerClient
