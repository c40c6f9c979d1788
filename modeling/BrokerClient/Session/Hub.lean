import BrokerClient.Session.Group
/-!
The in-memory broker: it opens session groups of a fixed width over the urls a client gives,
remembers each opening with its configuration, and answers requests by its shared rules unless a
session has rules of its own. Groups are numbered by the order of opening, and the sessions of
group `g` are called `mem-g-i`.
-/

namespace BrokerClient

/-- One opening of a session group: the endpoints and the configuration. -/
structure Opening where
  urls : List String
  config : SessionConfig
  deriving DecidableEq, Repr

/-- The in-memory broker. -/
structure Hub where
  /-- How many sessions a group has. -/
  width : Nat
  /-- The rules that answer requests. -/
  rules : List Rule := []
  /-- The groups opened, in order. -/
  groups : List Group := []
  /-- The openings, in order, one per group. -/
  openings : List Opening := []
  deriving DecidableEq, Repr

namespace Hub

/-- The sessions of a new group: `mem-g-0` to `mem-g-(width - 1)`. -/
def freshSessions (g width : Nat) : List Session :=
  (List.range width).map fun i => { id := "mem-" ++ toString g ++ "-" ++ toString i }

/-- The hub with a new group opened with these urls and configuration. -/
def openGroup (h : Hub) (urls : List String) (config : SessionConfig) : Hub :=
  { h with groups := h.groups ++ [{ sessions := freshSessions h.groups.length h.width }],
           openings := h.openings ++ [⟨urls, config⟩] }

/-- The group of a generation. -/
def group? (h : Hub) (g : Nat) : Option Group := h.groups[g]?

/-- A session of a group. -/
def session? (h : Hub) (g i : Nat) : Option Session := (h.group? g).bind (·.session? i)

/-- The hub with a group changed. -/
def updateGroup (h : Hub) (g : Nat) (f : Group → Group) : Hub :=
  { h with groups := h.groups.modify g f }

/-- The hub with a session changed. -/
def updateSession (h : Hub) (g i : Nat) (f : Session → Session) : Hub :=
  h.updateGroup g (·.update i f)

/-! ### Places of the groups and sessions -/

@[simp] theorem rules_updateGroup (h : Hub) (g : Nat) (f : Group → Group) :
    (h.updateGroup g f).rules = h.rules := rfl
@[simp] theorem width_updateGroup (h : Hub) (g : Nat) (f : Group → Group) :
    (h.updateGroup g f).width = h.width := rfl
@[simp] theorem groups_length_updateGroup (h : Hub) (g : Nat) (f : Group → Group) :
    (h.updateGroup g f).groups.length = h.groups.length := by
  simp [updateGroup]
@[simp] theorem rules_updateSession (h : Hub) (g i : Nat) (f : Session → Session) :
    (h.updateSession g i f).rules = h.rules := rfl
@[simp] theorem width_updateSession (h : Hub) (g i : Nat) (f : Session → Session) :
    (h.updateSession g i f).width = h.width := rfl
@[simp] theorem groups_length_updateSession (h : Hub) (g i : Nat) (f : Session → Session) :
    (h.updateSession g i f).groups.length = h.groups.length := by
  simp [updateSession]

theorem group?_updateGroup (h : Hub) (g g' : Nat) (f : Group → Group) :
    (h.updateGroup g f).group? g' = if g = g' then (h.group? g').map f else h.group? g' := by
  simp only [updateGroup, group?, List.getElem?_modify]
  split <;> simp

theorem session?_updateGroup (h : Hub) (g g' i : Nat) (f : Group → Group) :
    (h.updateGroup g f).session? g' i =
      if g = g' then ((h.group? g').map f).bind (·.session? i) else h.session? g' i := by
  simp only [session?, group?_updateGroup]
  split <;> rfl

/-- Changing one session leaves every other place as it was. -/
theorem session?_updateSession (h : Hub) (g i g' i' : Nat) (f : Session → Session) :
    (h.updateSession g i f).session? g' i' =
      if g = g' ∧ i = i' then (h.session? g' i').map f else h.session? g' i' := by
  simp only [updateSession, session?_updateGroup]
  by_cases hg : g = g'
  · subst hg
    cases hgr : h.group? g with
    | none => simp [session?, hgr]
    | some grp => by_cases hi : i = i' <;> simp [session?, hgr, hi]
  · simp [hg]

/-- Two changes that agree on the session standing at a place change the broker alike. -/
theorem updateSession_congr {h : Hub} {g i : Nat} {s : Session} {f k : Session → Session}
    (hs : h.session? g i = some s) (hf : f s = k s) :
    h.updateSession g i f = h.updateSession g i k := by
  obtain ⟨grp, hgrp, hsi⟩ := Option.bind_eq_some_iff.1 hs
  have hgrp' : h.groups[g]? = some grp := hgrp
  have hsi' : grp.sessions[i]? = some s := hsi
  have hgroup : grp.update i f = grp.update i k := by
    simp only [Group.update, Group.mk.injEq, and_true]
    apply List.ext_getElem?
    intro j
    rw [List.getElem?_modify, List.getElem?_modify]
    by_cases hij : i = j
    · subst hij; simp [hsi', hf]
    · cases grp.sessions[j]? <;> simp [hij]
  simp only [updateSession, updateGroup]
  congr 1
  apply List.ext_getElem?
  intro j
  rw [List.getElem?_modify, List.getElem?_modify]
  by_cases hgj : g = j
  · subst hgj; simp [hgrp', hgroup]
  · cases h.groups[j]? <;> simp [hgj]

@[simp] theorem updateSession_id (h : Hub) (g i : Nat) : h.updateSession g i id = h := by
  simp only [updateSession, updateGroup, Group.update, List.modify_id]
  congr 1
  apply List.ext_getElem?
  intro j
  rw [List.getElem?_modify]
  cases h.groups[j]? <;> simp

/-- Putting back the session that stands at a place changes nothing. -/
theorem updateSession_of_session? {h : Hub} {g i : Nat} {s : Session}
    (hs : h.session? g i = some s) : h.updateSession g i (fun _ => s) = h := by
  rw [updateSession_congr (f := fun _ => s) (k := id) hs rfl, updateSession_id]

/-- Changing a place where no session stands changes nothing. -/
theorem updateSession_of_session?_none {h : Hub} {g i : Nat} (f : Session → Session)
    (hs : h.session? g i = none) : h.updateSession g i f = h := by
  rw [← updateSession_id h g i]
  simp only [updateSession, updateGroup]
  congr 1
  apply List.ext_getElem?
  intro j
  rw [List.getElem?_modify, List.getElem?_modify]
  by_cases hgj : g = j
  · subst hgj
    cases hgr : h.groups[g]? with
    | none => simp
    | some grp =>
      have hsi : grp.sessions[i]? = none := by
        simpa [session?, group?, hgr, Group.session?] using hs
      simp only [Option.map_eq_map, Option.map_some, if_true, Option.some.injEq]
      simp only [Group.update, Group.mk.injEq, and_true]
      rw [List.modify_eq_self (List.getElem?_eq_none_iff.1 hsi),
        List.modify_eq_self (List.getElem?_eq_none_iff.1 hsi)]
  · cases h.groups[j]? <;> simp [hgj]

theorem group?_openGroup (h : Hub) (urls : List String) (config : SessionConfig) (g : Nat) :
    (h.openGroup urls config).group? g =
      if g = h.groups.length then some { sessions := freshSessions h.groups.length h.width }
      else h.group? g := by
  simp only [openGroup, group?, List.getElem?_append]
  by_cases hl : g < h.groups.length
  · simp [hl, Nat.ne_of_lt hl]
  · by_cases he : g = h.groups.length
    · simp [he]
    · have hnone : h.groups[g]? = none := List.getElem?_eq_none (by omega)
      simp [hl, he, List.getElem?_singleton]
      omega

@[simp] theorem groups_length_openGroup (h : Hub) (urls : List String) (config : SessionConfig) :
    (h.openGroup urls config).groups.length = h.groups.length + 1 := by
  simp [openGroup]
@[simp] theorem rules_openGroup (h : Hub) (urls : List String) (config : SessionConfig) :
    (h.openGroup urls config).rules = h.rules := rfl
@[simp] theorem width_openGroup (h : Hub) (urls : List String) (config : SessionConfig) :
    (h.openGroup urls config).width = h.width := rfl

/-- A place of a new group holds a fresh session: open, with its own rules none and nothing
sent. -/
theorem freshSessions_getElem? (g width i : Nat) :
    (freshSessions g width)[i]? =
      if i < width then some { id := "mem-" ++ toString g ++ "-" ++ toString i } else none := by
  by_cases hi : i < width
  · simp [freshSessions, hi]
  · simp [freshSessions, hi]

end Hub

end BrokerClient
