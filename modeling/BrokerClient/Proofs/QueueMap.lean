import Mathlib.Data.Finset.Basic
import Mathlib.Data.String.Basic
import BrokerClient.QueueMap
/-!
What a queue map lists, and when writing it out and reading it back gives it again. Adding a name
under a topic lists it there and nothing else (`listed_add`), and keeps the map well formed:
topics in increasing order, names under each topic in increasing order. The reader rebuilds a map
by setting each topic it reads to its names (`setAll`); on the entries of a well-formed map, each
topic and each name goes at the end, so the map comes back as it was
(`setAll_empty_of_wellFormed`).
-/

namespace BrokerClient.QueueMap

/-! ### Names -/

theorem mem_insertName {n x : String} : ∀ {l : List String}, x ∈ insertName n l ↔ x = n ∨ x ∈ l
  | [] => by simp [insertName]
  | a :: rest => by
    unfold insertName
    split
    · simp
    · split
      · rename_i heq
        subst heq
        simp only [List.mem_cons]
        constructor
        · rintro (rfl | h)
          · exact .inl rfl
          · exact .inr (.inr h)
        · rintro (rfl | rfl | h)
          · exact .inl rfl
          · exact .inl rfl
          · exact .inr h
      · simp only [List.mem_cons, mem_insertName]
        constructor
        · rintro (rfl | rfl | h)
          · exact .inr (.inl rfl)
          · exact .inl rfl
          · exact .inr (.inr h)
        · rintro (rfl | rfl | h)
          · exact .inr (.inl rfl)
          · exact .inl rfl
          · exact .inr (.inr h)

theorem sorted_insertName (n : String) :
    ∀ {l : List String}, l.Pairwise (· < ·) → (insertName n l).Pairwise (· < ·)
  | [], _ => by simp [insertName]
  | a :: rest, hl => by
    obtain ⟨hlt, hrest⟩ := List.pairwise_cons.1 hl
    unfold insertName
    split
    · rename_i hna
      exact List.pairwise_cons.2 ⟨fun y hy => by
        rcases List.mem_cons.1 hy with rfl | hy
        · exact hna
        · exact lt_trans hna (hlt y hy), hl⟩
    · split
      · exact hl
      · rename_i hnlt hne
        have han : a < n := lt_of_le_of_ne (not_lt.1 hnlt) (Ne.symm hne)
        refine List.pairwise_cons.2 ⟨fun y hy => ?_, sorted_insertName n hrest⟩
        rcases mem_insertName.1 hy with rfl | hy
        · exact han
        · exact hlt y hy

theorem insertName_of_lt {n : String} :
    ∀ {l : List String}, (∀ x ∈ l, x < n) → insertName n l = l ++ [n]
  | [], _ => rfl
  | a :: rest, h => by
    have han : a < n := h a List.mem_cons_self
    unfold insertName
    rw [if_neg (not_lt.2 han.le), if_neg (ne_of_gt han),
      insertName_of_lt (fun x hx => h x (List.mem_cons_of_mem a hx))]
    rfl

theorem foldl_insertName_of_sorted :
    ∀ (acc l : List String), (acc ++ l).Pairwise (· < ·) →
      l.foldl (fun acc n => insertName n acc) acc = acc ++ l
  | acc, [], _ => by simp
  | acc, n :: l, h => by
    have hn : ∀ x ∈ acc, x < n := fun x hx =>
      (List.pairwise_append.1 h).2.2 x hx n List.mem_cons_self
    rw [List.foldl_cons, insertName_of_lt hn,
      foldl_insertName_of_sorted (acc ++ [n]) l (by simpa using h)]
    simp

/-! ### Topics -/

theorem setEntry_of_lt {t : String} (ns : List String) :
    ∀ {es : List (String × List String)}, (∀ e ∈ es, e.1 < t) → setEntry t ns es = es ++ [(t, ns)]
  | [], _ => rfl
  | (a, ms) :: rest, h => by
    have hat : a < t := h (a, ms) List.mem_cons_self
    unfold setEntry
    rw [if_neg (not_lt.2 hat.le), if_neg (ne_of_gt hat),
      setEntry_of_lt ns (fun e he => h e (List.mem_cons_of_mem _ he))]
    rfl

theorem mem_addEntry {t n : String} {e : String × List String} :
    ∀ {es : List (String × List String)}, e ∈ addEntry t n es →
      e = (t, [n]) ∨ (∃ ns, (t, ns) ∈ es ∧ e = (t, insertName n ns)) ∨ e ∈ es
  | [], h => by simpa [addEntry] using h
  | (a, ms) :: rest, h => by
    unfold addEntry at h
    split at h
    · rcases List.mem_cons.1 h with rfl | h
      · exact .inl rfl
      · exact .inr (.inr h)
    · split at h
      · rename_i heq
        subst heq
        rcases List.mem_cons.1 h with rfl | h
        · exact .inr (.inl ⟨ms, List.mem_cons_self, rfl⟩)
        · exact .inr (.inr (List.mem_cons_of_mem _ h))
      · rcases List.mem_cons.1 h with rfl | h
        · exact .inr (.inr List.mem_cons_self)
        · rcases mem_addEntry h with h | ⟨ns, hns, rfl⟩ | h
          · exact .inl h
          · exact .inr (.inl ⟨ns, List.mem_cons_of_mem _ hns, rfl⟩)
          · exact .inr (.inr (List.mem_cons_of_mem _ h))

theorem sorted_addEntry (t n : String) :
    ∀ {es : List (String × List String)}, (es.map Prod.fst).Pairwise (· < ·) →
      ((addEntry t n es).map Prod.fst).Pairwise (· < ·)
  | [], _ => by simp [addEntry]
  | (a, ms) :: rest, hl => by
    simp only [List.map_cons, List.pairwise_cons, List.mem_map, forall_exists_index, and_imp,
      forall_apply_eq_imp_iff₂] at hl
    obtain ⟨hlt, hrest⟩ := hl
    unfold addEntry
    split
    · rename_i hta
      simp only [List.map_cons, List.pairwise_cons, List.mem_cons, List.mem_map,
        forall_eq_or_imp, forall_exists_index, and_imp, forall_apply_eq_imp_iff₂]
      exact ⟨⟨hta, fun e he => lt_trans hta (hlt e he)⟩, hlt, hrest⟩
    · split
      · simp only [List.map_cons, List.pairwise_cons, List.mem_map, forall_exists_index, and_imp,
          forall_apply_eq_imp_iff₂]
        exact ⟨hlt, hrest⟩
      · rename_i hnlt hne
        have hat : a < t := lt_of_le_of_ne (not_lt.1 hnlt) (Ne.symm hne)
        simp only [List.map_cons, List.pairwise_cons, List.mem_map, forall_exists_index, and_imp,
          forall_apply_eq_imp_iff₂]
        refine ⟨fun e he => ?_, sorted_addEntry t n hrest⟩
        rcases mem_addEntry he with rfl | ⟨ns, hns, rfl⟩ | he
        · exact hat
        · exact hat
        · exact hlt e he

theorem names_sorted_addEntry (t n : String) {es : List (String × List String)}
    (h : ∀ e ∈ es, e.2.Pairwise (· < ·)) : ∀ e ∈ addEntry t n es, e.2.Pairwise (· < ·) := by
  intro e he
  rcases mem_addEntry he with rfl | ⟨ns, hns, rfl⟩ | he
  · simp
  · exact sorted_insertName n (h _ hns)
  · exact h e he

theorem listed_addEntry {t n t' q : String} :
    ∀ {es : List (String × List String)},
      (∃ ns, (t', ns) ∈ addEntry t n es ∧ q ∈ ns) ↔ (t' = t ∧ q = n) ∨ ∃ ns, (t', ns) ∈ es ∧ q ∈ ns
  | [] => by simp [addEntry, and_comm]
  | (a, ms) :: rest => by
    unfold addEntry
    split
    · constructor
      · rintro ⟨ns, hmem, hq⟩
        rcases List.mem_cons.1 hmem with heq | hns
        · obtain ⟨rfl, rfl⟩ := Prod.mk.inj heq
          exact .inl ⟨rfl, List.mem_singleton.1 hq⟩
        · exact .inr ⟨ns, hns, hq⟩
      · rintro (⟨rfl, rfl⟩ | ⟨ns, hns, hq⟩)
        · exact ⟨[q], List.mem_cons_self, List.mem_singleton_self q⟩
        · exact ⟨ns, List.mem_cons_of_mem _ hns, hq⟩
    · split
      · rename_i heq
        subst heq
        constructor
        · rintro ⟨ns, hmem, hq⟩
          rcases List.mem_cons.1 hmem with heq | hns
          · obtain ⟨rfl, rfl⟩ := Prod.mk.inj heq
            rcases mem_insertName.1 hq with rfl | hq
            · exact .inl ⟨rfl, rfl⟩
            · exact .inr ⟨ms, List.mem_cons_self, hq⟩
          · exact .inr ⟨ns, List.mem_cons_of_mem _ hns, hq⟩
        · rintro (⟨rfl, rfl⟩ | ⟨ns, hmem, hq⟩)
          · exact ⟨_, List.mem_cons_self, mem_insertName.2 (.inl rfl)⟩
          · rcases List.mem_cons.1 hmem with heq | hns
            · obtain ⟨rfl, rfl⟩ := Prod.mk.inj heq
              exact ⟨_, List.mem_cons_self, mem_insertName.2 (.inr hq)⟩
            · exact ⟨ns, List.mem_cons_of_mem _ hns, hq⟩
      · constructor
        · rintro ⟨ns, hmem, hq⟩
          rcases List.mem_cons.1 hmem with heq | hns
          · exact .inr ⟨ns, heq ▸ List.mem_cons_self, hq⟩
          · rcases listed_addEntry.1 ⟨ns, hns, hq⟩ with h | ⟨ns', hns', hq'⟩
            · exact .inl h
            · exact .inr ⟨ns', List.mem_cons_of_mem _ hns', hq'⟩
        · rintro (h | ⟨ns, hmem, hq⟩)
          · obtain ⟨ns, hns, hq⟩ := listed_addEntry.2 (.inl h)
            exact ⟨ns, List.mem_cons_of_mem _ hns, hq⟩
          · rcases List.mem_cons.1 hmem with heq | hns
            · exact ⟨ns, heq ▸ List.mem_cons_self, hq⟩
            · obtain ⟨ns', hns', hq'⟩ := listed_addEntry.2 (.inr ⟨ns, hns, hq⟩)
              exact ⟨ns', List.mem_cons_of_mem _ hns', hq'⟩

/-! ### Well-formed maps -/

/-- Topics in increasing order, and the names under each topic in increasing order. -/
structure WellFormed (m : QueueMap) : Prop where
  topics_sorted : (m.entries.map Prod.fst).Pairwise (· < ·)
  names_sorted : ∀ e ∈ m.entries, e.2.Pairwise (· < ·)

theorem wellFormed_empty : empty.WellFormed := ⟨by simp [empty], by simp [empty]⟩

theorem WellFormed.add {m : QueueMap} (h : m.WellFormed) (t n : String) : (m.add t n).WellFormed :=
  ⟨sorted_addEntry t n h.topics_sorted, names_sorted_addEntry t n h.names_sorted⟩

/-- Name `q` is listed under topic `t`. -/
def Listed (m : QueueMap) (t q : String) : Prop := ∃ ns, (t, ns) ∈ m.entries ∧ q ∈ ns

theorem listed_add {m : QueueMap} {t n t' q : String} :
    (m.add t n).Listed t' q ↔ (t' = t ∧ q = n) ∨ m.Listed t' q :=
  listed_addEntry

/-- Every name the map lists, under whichever topic. -/
def names (m : QueueMap) : Finset String := (m.entries.flatMap Prod.snd).toFinset

theorem mem_names {m : QueueMap} {q : String} : q ∈ m.names ↔ ∃ t, m.Listed t q := by
  simp only [names, List.mem_toFinset, List.mem_flatMap, Listed]
  constructor
  · rintro ⟨⟨t, ns⟩, he, hq⟩
    exact ⟨t, ns, he, hq⟩
  · rintro ⟨t, ns, he, hq⟩
    exact ⟨(t, ns), he, hq⟩

/-! ### Setting topics one by one -/

/-- The map that reading topics and names builds: each topic set to its names, in order. -/
def setAll (m : QueueMap) (es : List (String × List String)) : QueueMap :=
  es.foldl (fun m e => m.set e.1 e.2) m

/-- Setting sorted topics with sorted names, one by one after topics below them, appends them. -/
theorem setAll_of_sorted :
    ∀ (acc es : List (String × List String)), ((acc ++ es).map Prod.fst).Pairwise (· < ·) →
      (∀ e ∈ es, e.2.Pairwise (· < ·)) → setAll ⟨acc⟩ es = ⟨acc ++ es⟩
  | acc, [], _, _ => by simp [setAll]
  | acc, e :: es, h, hns => by
    have ht : ∀ a ∈ acc, a.1 < e.1 := fun a ha =>
      (List.pairwise_append.1 (List.map_append ▸ h)).2.2 a.1 (List.mem_map_of_mem ha) e.1
        (by simp)
    have hset : (⟨acc⟩ : QueueMap).set e.1 e.2 = ⟨acc ++ [e]⟩ := by
      rw [set, foldl_insertName_of_sorted [] e.2 (by simpa using hns e List.mem_cons_self),
        List.nil_append, setEntry_of_lt _ ht]
    rw [setAll, List.foldl_cons, hset, ← setAll,
      setAll_of_sorted (acc ++ [e]) es (by simpa using h)
        (fun x hx => hns x (List.mem_cons_of_mem e hx))]
    simp

/-- A well-formed map is rebuilt by setting its topics one by one. -/
theorem setAll_empty_of_wellFormed {m : QueueMap} (h : m.WellFormed) : setAll empty m.entries = m :=
  setAll_of_sorted [] m.entries (by simpa using h.topics_sorted) h.names_sorted

end BrokerClient.QueueMap
