import Mathlib.Data.Nat.ModEq
import Mathlib.Data.List.Nodup
import Mathlib.Data.List.Perm.Subperm
import BrokerClient.Proofs.Publishing
import BrokerClient.Proofs.Transmission
/-!
# Picks in turn

A group picks in turn by a cursor that moves one step per pick without a routing key; picks by a
routing key leave it. The cursor is a 64-bit word, so `n` consecutive picks in turn, taken modulo
the `n` open sessions, walk `n` consecutive residues only while the cursor does not wrap; when it
wraps, the residues start again from `0`. The walk still covers every open session when `n`
divides the word size, and otherwise one session comes twice and another not at all
(`Group.turns_repeat_across_wrap`).

`Group.turns` reads off a run of picks what the picks in turn returned; `Group.turns_eq` says they
walk the open indices at the turn indices `Group.turnIndex`, and `Group.nodup_turnIndices_iff`
says exactly when a window of turn indices is free of repeats. Main statement:
`Group.picks_in_turn_fair_iff`.
-/

namespace BrokerClient

namespace Group

/-- What the picks in turn of a run of picks returned, in order. Picks by a routing key are made
too, and move nothing. -/
def turns (g : Group) : List (Option String) → List (Option Nat)
  | [] => []
  | none :: rs => (g.pick none).2 :: (g.pick none).1.turns rs
  | some key :: rs => (g.pick (some key)).1.turns rs

/-- The open index that the turn `k` after a cursor at `c` takes among `n` open sessions: the
cursor moves in a 64-bit word, and is then taken modulo `n`. -/
def turnIndex (c n k : Nat) : Nat := (c + k) % 2 ^ 64 % n

theorem turns_length (g : Group) (rs : List (Option String)) :
    (g.turns rs).length = rs.count none := by
  induction rs generalizing g with
  | nil => rfl
  | cons r rs ih =>
    cases r with
    | none => simp [turns, ih]
    | some key => simp [turns, ih]

/-- While some session is open, the picks in turn of a run walk the open indices from the cursor
on, one step per pick in turn. -/
theorem turns_eq {g : Group} (hne : g.openIndices ≠ []) (rs : List (Option String)) :
    g.turns rs = (List.range (rs.count none)).map fun k =>
      g.openIndices[turnIndex g.cursor.toNat g.openIndices.length k]? := by
  induction rs generalizing g with
  | nil => rfl
  | cons r rs ih =>
    cases r with
    | some key =>
      rw [turns, pick_some]
      simpa using ih hne
    | none =>
      have hpick : g.pick none = ({ g with cursor := g.cursor + 1 },
          g.openIndices[g.cursor.toNat % g.openIndices.length]?) := by
        rw [pick_none, if_neg (by simpa using hne)]
      have hc : (g.cursor + 1).toNat = (g.cursor.toNat + 1) % 2 ^ 64 := by
        rw [UInt64.toNat_add, UInt64.toNat_one]
      rw [turns, hpick, List.count_cons_self, List.range_succ_eq_map, List.map_cons, List.map_map,
        @ih { g with cursor := g.cursor + 1 } hne]
      -- the first turn is at the cursor, the rest one step further on, past any wrap
      congr 1
      · simp [turnIndex, Nat.mod_eq_of_lt (UInt64.toNat_lt g.cursor)]
      · refine List.map_congr_left fun k _ => ?_
        simp only [Function.comp, turnIndex, hc, Nat.mod_add_mod, Nat.add_assoc, Nat.add_comm 1 k]
        rfl

/-! ### A window of turns -/

/-- Without a wrap inside a window of `n` turns, or when `n` divides the word size, a turn index
is the cursor moved on, modulo `n`. -/
theorem turnIndex_eq_of_fits {c n k : Nat} (hk : k < n) (h : c + n ≤ 2 ^ 64 ∨ n ∣ 2 ^ 64) :
    turnIndex c n k = (c + k) % n := by
  unfold turnIndex
  rcases h with h | h
  · have hfit : (c + k) % 2 ^ 64 = c + k := Nat.mod_eq_of_lt (by omega)
    rw [hfit]
  · exact Nat.mod_mod_of_dvd _ h

theorem nodup_map_add_mod (c n : Nat) : ((List.range n).map fun k => (c + k) % n).Nodup := by
  refine List.Nodup.map_on (fun a ha b hb hab => ?_) List.nodup_range
  have h : a % n = b % n := Nat.ModEq.add_left_cancel' c hab
  rwa [Nat.mod_eq_of_lt (List.mem_range.1 ha), Nat.mod_eq_of_lt (List.mem_range.1 hb)] at h

/-- A window of `n` turns that stays below the word limit, or whose `n` divides the word size,
takes every index below `n` once. -/
theorem turnIndices_perm {c n : Nat} (h : c + n ≤ 2 ^ 64 ∨ n ∣ 2 ^ 64) :
    ((List.range n).map (turnIndex c n)).Perm (List.range n) := by
  have heq : (List.range n).map (turnIndex c n) = (List.range n).map fun k => (c + k) % n :=
    List.map_congr_left fun k hk => turnIndex_eq_of_fits (List.mem_range.1 hk) h
  rw [heq]
  apply List.Subperm.perm_of_length_le
  · refine List.subperm_of_subset (nodup_map_add_mod c n) fun x hx => ?_
    obtain ⟨k, hk, rfl⟩ := List.mem_map.1 hx
    exact List.mem_range.2 (Nat.mod_lt _ (Nat.zero_lt_of_lt (List.mem_range.1 hk)))
  · simp

/-- A window of `n` turns that crosses the word limit, with `n` not dividing the word size, takes
some index twice: the cursor's last value before the wrap leaves a remainder short of `n - 1`, and
the turns after the wrap start again from `0`. -/
theorem not_nodup_turnIndices {c n : Nat} (hc : c < 2 ^ 64) (hwrap : 2 ^ 64 < c + n)
    (hdvd : ¬n ∣ 2 ^ 64) : ¬((List.range n).map (turnIndex c n)).Nodup := by
  -- `w` turns come before the wrap, and the last of them leaves the remainder `r`
  obtain ⟨w, hw⟩ : ∃ w, w = 2 ^ 64 - c := ⟨_, rfl⟩
  obtain ⟨r, hr⟩ : ∃ r, r = (2 ^ 64 - 1) % n := ⟨_, rfl⟩
  obtain ⟨P, hP⟩ : ∃ P, P = n * ((2 ^ 64 - 1) / n) := ⟨_, rfl⟩
  have hdiv : P + r = 2 ^ 64 - 1 := by rw [hP, hr]; exact Nat.div_add_mod _ _
  have hPn : P % n = 0 := by rw [hP]; exact Nat.mul_mod_right _ _
  have hrn : r + 1 < n := by
    have hlt : r < n := hr ▸ Nat.mod_lt _ (by omega)
    -- a remainder of `n - 1` before the word size would make `n` divide it
    refine lt_of_le_of_ne hlt fun hr1 => hdvd (Nat.dvd_of_mod_eq_zero ?_)
    rw [show 2 ^ 64 = P + n by omega, Nat.add_mod_right, hPn]
  -- two turns land on `r - j`: one before the wrap, one after it
  obtain ⟨j, hj⟩ : ∃ j, j = min r (w - 1) := ⟨_, rfl⟩
  have h1 : turnIndex c n (w - 1 - j) = r - j := by
    have hsum : c + (w - 1 - j) = (r - j) + P := by omega
    have hfit : ((r - j) + P) % 2 ^ 64 = (r - j) + P := Nat.mod_eq_of_lt (by omega)
    unfold turnIndex
    rw [hsum, hfit, hP, Nat.add_mul_mod_self_left, Nat.mod_eq_of_lt (by omega)]
  have h2 : turnIndex c n (w + (r - j)) = r - j := by
    have hsum : c + (w + (r - j)) = (r - j) + 2 ^ 64 := by omega
    have hfit : (r - j) % 2 ^ 64 = r - j := Nat.mod_eq_of_lt (by omega)
    unfold turnIndex
    rw [hsum, Nat.add_mod_right, hfit, Nat.mod_eq_of_lt (by omega)]
  intro hnd
  have heq := List.inj_on_of_nodup_map hnd (List.mem_range.2 (by omega : w - 1 - j < n))
    (List.mem_range.2 (by omega : w + (r - j) < n)) (h1.trans h2.symm)
  omega

/-- A window of `n` turns takes `n` distinct indices exactly when it stays below the word limit
or `n` divides the word size. -/
theorem nodup_turnIndices_iff {c n : Nat} (hc : c < 2 ^ 64) :
    ((List.range n).map (turnIndex c n)).Nodup ↔ c + n ≤ 2 ^ 64 ∨ n ∣ 2 ^ 64 := by
  constructor
  · intro hnd
    by_contra hfits
    push Not at hfits
    exact not_nodup_turnIndices hc (by omega) hfits.2 hnd
  · exact fun h => (turnIndices_perm h).nodup_iff.2 List.nodup_range

/-! ### Picks in turn -/

theorem map_getElem?_range (l : List Nat) :
    (List.range l.length).map (fun i => l[i]?) = l.map some := by
  apply List.ext_getElem <;> simp

/-- `n` picks in turn, among any picks by a routing key, return each of the `n` open sessions
once exactly when the cursor does not wrap within them or `n` divides the word size. -/
theorem turns_perm_iff {g : Group} {rs : List (Option String)}
    (hn : rs.count none = g.openIndices.length) :
    (g.turns rs).Perm (g.openIndices.map some) ↔
      g.cursor.toNat + g.openIndices.length ≤ 2 ^ 64 ∨ g.openIndices.length ∣ 2 ^ 64 := by
  have hc := UInt64.toNat_lt g.cursor
  by_cases h0 : g.openIndices = []
  · -- with no open session there is no turn to take, and no wrap to fear
    have hturns : g.turns rs = [] :=
      List.eq_nil_of_length_eq_zero (by rw [turns_length, hn, h0]; rfl)
    simp only [hturns, h0, List.map_nil, List.Perm.refl, List.length_nil, Nat.add_zero, true_iff]
    exact .inl (Nat.le_of_lt hc)
  · have hnd : (g.openIndices.map some).Nodup := (openIndices_nodup g).map (Option.some_injective _)
    set L := g.openIndices
    set c := g.cursor.toNat
    -- the picks in turn read the open indices at the turn indices of the window
    have hmap : (List.range L.length).map (fun k => L[turnIndex c L.length k]?) =
        ((List.range L.length).map (turnIndex c L.length)).map fun i => L[i]? := by
      rw [List.map_map]
      rfl
    rw [turns_eq h0, hn, hmap, ← nodup_turnIndices_iff hc]
    constructor
    · -- the open indices are distinct, so a permutation of them has distinct turn indices
      exact fun hp => (hp.nodup_iff.2 hnd).of_map _
    · intro hidx
      rw [← map_getElem?_range]
      exact (turnIndices_perm ((nodup_turnIndices_iff hc).1 hidx)).map _

/-- Two open sessions divide the word size: past the wrap the turns still alternate. -/
example :
    ({ sessions := [{ id := "s0" }, { id := "s1" }], cursor := 0xFFFFFFFFFFFFFFFF } : Group).turns
      [none, some "tm-1", none] = [some 1, some 0] := by
  decide

/-- **Picks in turn are fair exactly away from the wrap of the cursor.** In every group, `n`
picks in turn, with any picks by a routing key among them, return every one of the `n` open
sessions once exactly when the cursor does not wrap within them or `n` divides the word size;
any pick returns no session exactly when none is open, and otherwise an open one. -/
theorem picks_in_turn_fair_iff (g : Group) :
    (∀ rs : List (Option String), rs.count none = g.openIndices.length →
      ((g.turns rs).Perm (g.openIndices.map some) ↔
        g.cursor.toNat + g.openIndices.length ≤ 2 ^ 64 ∨ g.openIndices.length ∣ 2 ^ 64)) ∧
    (∀ r, (g.pick r).2 = none ↔ g.openIndices = []) ∧
    (∀ r i, (g.pick r).2 = some i → i ∈ g.openIndices) :=
  ⟨fun _ hn => turns_perm_iff hn, fun _ => pick_snd_eq_none,
    fun _ _ h => mem_openIndices_of_pick h⟩

/-- Two open sessions around a closed one, the cursor at its start: two picks in turn with a
pick by a routing key between them. -/
theorem picks_in_turn_fair_iff_around_closed :
    let g : Group :=
      { sessions := [{ id := "s0" }, { id := "s1", valid := false }, { id := "s2" }] }
    [none, some "tm-1", none].count none = g.openIndices.length ∧
      ((g.turns [none, some "tm-1", none]).Perm (g.openIndices.map some) ↔
        g.cursor.toNat + g.openIndices.length ≤ 2 ^ 64 ∨ g.openIndices.length ∣ 2 ^ 64) := by
  intro g
  have hn : [none, some "tm-1", none].count none = g.openIndices.length := by decide
  exact ⟨hn, (picks_in_turn_fair_iff g).1 _ hn⟩

/-- Three open sessions and the cursor at the largest word: three picks in turn return the
first session twice and the third never, since `2 ^ 64 - 1` leaves remainder `0` and the cursor
then wraps to `0`. -/
theorem turns_repeat_across_wrap :
    let g : Group := { sessions := [{ id := "s0" }, { id := "s1" }, { id := "s2" }],
                       cursor := 0xFFFFFFFFFFFFFFFF }
    g.turns [none, none, none] = [some 0, some 0, some 1] ∧
      ¬(g.turns [none, none, none]).Perm (g.openIndices.map some) := by
  decide

end Group

end BrokerClient
