import Mathlib.Data.String.Basic
import BrokerClient.Entity
/-!
Metas as a finite map from names to values. Putting a value changes the value under its name
and no other (`get?_put`), and keeps the entries sorted by name, each name once (`Sorted.put`);
after a sequence of puts each name holds the value of the last put of it (`get?_foldl_put`).
Sorted metas are determined by the values they give: two that agree on every name are equal
(`Sorted.ext`). That is how a list of entries computed some other way, such as the attributes
of a received message, is shown to be the entries of some metas.
-/

namespace BrokerClient

namespace Metas

/-! ### Values under names -/

@[simp] theorem lookup_cons_of_ne {k n v : String} {l : List (String × String)} (h : k ≠ n) :
    ((n, v) :: l).lookup k = l.lookup k := by
  rw [List.lookup_cons, beq_false_of_ne h]

theorem get?_put (m : Metas) (name value k : String) :
    (m.put name value).get? k = if k = name then some value else m.get? k := by
  unfold put get?
  induction m.entries with
  | nil => by_cases h : k = name <;> simp [insertEntry, h]
  | cons p rest ih =>
    obtain ⟨n, v⟩ := p
    simp only [insertEntry]
    by_cases hlt : name < n
    · by_cases h : k = name <;> simp [hlt, h]
    · by_cases heq : name = n
      · subst heq
        by_cases h : k = name <;> simp [h]
      · -- the entry of `n` stays in front and the value goes further in
        rw [if_neg hlt, if_neg heq]
        by_cases h : k = name
        · subst h
          simp [heq, ih]
        · by_cases hn : k = n
          · subst hn
            simp [h]
          · simp [h, hn, ih]

/-- After a sequence of puts a name holds the value of the last put of it, or else its value
from before. -/
theorem get?_foldl_put (l : List (String × String)) (m : Metas) (k : String) :
    (l.foldl (fun m p => m.put p.1 p.2) m).get? k = (l.reverse.lookup k).or (m.get? k) := by
  induction l generalizing m with
  | nil => simp
  | cons p l ih =>
    rw [List.foldl_cons, ih, get?_put, List.reverse_cons, List.lookup_append, Option.or_assoc]
    obtain ⟨n, v⟩ := p
    by_cases h : k = n
    · subst h
      cases (l.reverse.lookup k) <;> simp
    · simp [h]

/-! ### Sorted entries -/

/-- The entries are in strictly increasing order of names, so no name is listed twice. -/
def Sorted (m : Metas) : Prop := (m.entries.map Prod.fst).Pairwise (· < ·)

theorem sorted_empty : empty.Sorted := List.Pairwise.nil

theorem mem_names_insertEntry {name value x : String} :
    ∀ {l : List (String × String)}, x ∈ (insertEntry name value l).map Prod.fst →
      x = name ∨ x ∈ l.map Prod.fst
  | [], h => by simpa [insertEntry] using h
  | (n, v) :: rest, h => by
    unfold insertEntry at h
    split at h
    · simpa using h
    · split at h
      · simp only [List.map_cons, List.mem_cons] at h
        rcases h with h | h
        · exact .inl h
        · exact .inr (List.mem_cons_of_mem n h)
      · simp only [List.map_cons, List.mem_cons] at h
        rcases h with h | h
        · exact .inr (h ▸ List.mem_cons_self ..)
        · rcases mem_names_insertEntry h with h | h
          · exact .inl h
          · exact .inr (List.mem_cons_of_mem n h)

theorem sorted_insertEntry (name value : String) :
    ∀ {l : List (String × String)}, (l.map Prod.fst).Pairwise (· < ·) →
      ((insertEntry name value l).map Prod.fst).Pairwise (· < ·)
  | [], _ => by simp [insertEntry]
  | (n, v) :: rest, hl => by
    simp only [List.map_cons, List.pairwise_cons] at hl
    obtain ⟨hlt, hrest⟩ := hl
    unfold insertEntry
    split
    · rename_i hn
      simp only [List.map_cons, List.pairwise_cons, List.mem_cons, forall_eq_or_imp]
      exact ⟨⟨hn, fun y hy => lt_trans hn (hlt y hy)⟩, hlt, hrest⟩
    · split
      · rename_i heq
        simp only [List.map_cons, List.pairwise_cons]
        exact ⟨fun y hy => heq ▸ hlt y hy, hrest⟩
      · rename_i hnlt hne
        -- the value goes behind `n`, which is the smaller name
        have hn : n < name := lt_of_le_of_ne (not_lt.1 hnlt) (Ne.symm hne)
        simp only [List.map_cons, List.pairwise_cons]
        refine ⟨fun y hy => ?_, sorted_insertEntry name value hrest⟩
        rcases mem_names_insertEntry hy with rfl | hy
        · exact hn
        · exact hlt y hy

theorem Sorted.put {m : Metas} (h : m.Sorted) (name value : String) : (m.put name value).Sorted :=
  sorted_insertEntry name value h

theorem Sorted.foldl_put {m : Metas} (h : m.Sorted) (l : List (String × String)) :
    (l.foldl (fun m p => m.put p.1 p.2) m).Sorted := by
  induction l generalizing m with
  | nil => exact h
  | cons p l ih => exact ih (h.put p.1 p.2)

theorem lookup_eq_none_of_lt {k : String} {l : List (String × String)}
    (h : ∀ x ∈ l.map Prod.fst, k < x) : l.lookup k = none := by
  rw [List.lookup_eq_none_iff]
  intro p hp
  have hk : k ≠ p.1 := ne_of_lt (h p.1 (List.mem_map_of_mem hp))
  simpa using hk

/-- In a list sorted strictly by name each name is listed once, so it is found alike from
either end. -/
theorem lookup_reverse_of_sorted {k : String} :
    ∀ {l : List (String × String)}, (l.map Prod.fst).Pairwise (· < ·) →
      l.reverse.lookup k = l.lookup k
  | [], _ => rfl
  | (n, v) :: r, hl => by
    simp only [List.map_cons, List.pairwise_cons] at hl
    rw [List.reverse_cons, List.lookup_append, lookup_reverse_of_sorted hl.2]
    by_cases hk : k = n
    · subst hk
      simp [lookup_eq_none_of_lt hl.1]
    · simp [hk]

theorem eq_of_lookup_eq :
    ∀ {l l' : List (String × String)}, (l.map Prod.fst).Pairwise (· < ·) →
      (l'.map Prod.fst).Pairwise (· < ·) → (∀ k, l.lookup k = l'.lookup k) → l = l'
  | [], [], _, _, _ => rfl
  | [], (k, v) :: _, _, _, h => by simpa using h k
  | (k, v) :: _, [], _, _, h => by simpa using h k
  | (k, v) :: r, (k', v') :: r', hl, hl', h => by
    simp only [List.map_cons, List.pairwise_cons] at hl hl'
    obtain ⟨hlt, hr⟩ := hl
    obtain ⟨hlt', hr'⟩ := hl'
    -- the two first names are the least names of the lists, so they agree
    rcases lt_trichotomy k k' with hkk | rfl | hkk
    · have hk : (List.lookup k ((k', v') :: r')) = none :=
        lookup_eq_none_of_lt (by
          simp only [List.map_cons, List.mem_cons, forall_eq_or_imp]
          exact ⟨hkk, fun x hx => lt_trans hkk (hlt' x hx)⟩)
      simpa [hk] using h k
    · have hv : v = v' := by simpa using h k
      have hrest : ∀ x, r.lookup x = r'.lookup x := by
        intro x
        by_cases hx : x = k
        · subst hx
          rw [lookup_eq_none_of_lt hlt, lookup_eq_none_of_lt hlt']
        · simpa [hx] using h x
      rw [hv, eq_of_lookup_eq hr hr' hrest]
    · have hk : (List.lookup k' ((k, v) :: r)) = none :=
        lookup_eq_none_of_lt (by
          simp only [List.map_cons, List.mem_cons, forall_eq_or_imp]
          exact ⟨hkk, fun x hx => lt_trans hkk (hlt x hx)⟩)
      simpa [hk] using (h k').symm

/-- **Extensionality.** Sorted metas that give every name the same value are equal. -/
theorem Sorted.ext {m m' : Metas} (h : m.Sorted) (h' : m'.Sorted)
    (heq : ∀ k, m.get? k = m'.get? k) : m = m' := by
  obtain ⟨l⟩ := m
  obtain ⟨l'⟩ := m'
  congr 1
  exact eq_of_lookup_eq h h' heq

end Metas

namespace Entity

theorem foldl_put (l : List (String × String)) (e : Entity) :
    l.foldl (fun e p => e.put p.1 p.2) e =
      { e with metas := l.foldl (fun m p => m.put p.1 p.2) e.metas } := by
  induction l generalizing e with
  | nil => rfl
  | cons p l ih => rw [List.foldl_cons, ih]; rfl

@[simp] theorem put_metas (e : Entity) (name value : String) :
    (e.put name value).metas = e.metas.put name value := rfl
@[simp] theorem put_body (e : Entity) (name value : String) :
    (e.put name value).body = e.body := rfl

theorem meta?_put (e : Entity) (name value k : String) :
    (e.put name value).meta? k = if k = name then some value else e.meta? k :=
  Metas.get?_put e.metas name value k

end Entity

end BrokerClient
