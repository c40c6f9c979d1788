import BrokerClient.Session
import BrokerClient.Hash.SipHash
/-!
Session groups: the sessions opened together over the broker urls. A group picks a session among
its open ones: by the hash of a routing key, so that equal keys meet on one session while the
open sessions stay the same, or else in turn, by a cursor that moves on each pick. The cursor is
a 64-bit word that wraps past its largest value, as an atomic `usize` does on a 64-bit target.
With no open session there is no pick, and the cursor stays.
-/

namespace BrokerClient

/-- Sessions opened together, and the cursor of picks in turn. -/
structure Group where
  sessions : List Session
  cursor : UInt64 := 0
  deriving DecidableEq, Repr

namespace Group

/-- The indices of the open sessions, in order. -/
def openIndices (g : Group) : List Nat :=
  ((List.range g.sessions.length).zip g.sessions).filterMap fun (i, s) =>
    if s.valid then some i else none

/-- The index of the session picked for a routing key, or in turn without one; `none` when no
session is open. -/
def pick (g : Group) (routing : Option String) : Group × Option Nat :=
  let open_ := g.openIndices
  if open_.isEmpty then (g, none)
  else match routing with
    | some key => (g, open_[(Hash.textHash key).toNat % open_.length]?)
    | none => ({ g with cursor := g.cursor + 1 }, open_[g.cursor.toNat % open_.length]?)

/-- The session at an index. -/
def session? (g : Group) (i : Nat) : Option Session := g.sessions[i]?

/-- The group with the session at an index changed. -/
def update (g : Group) (i : Nat) (f : Session → Session) : Group :=
  { g with sessions := g.sessions.modify i f }

/-- The group with every session closed. -/
def close (g : Group) : Group :=
  { g with sessions := g.sessions.map fun s => { s with valid := false } }

/-! ### Places of the sessions -/

@[simp] theorem session?_update (g : Group) (i j : Nat) (f : Session → Session) :
    (g.update i f).session? j = if i = j then (g.session? j).map f else g.session? j := by
  simp only [update, session?, List.getElem?_modify]
  split <;> simp

@[simp] theorem session?_close (g : Group) (i : Nat) :
    g.close.session? i = (g.session? i).map fun s => { s with valid := false } := by
  simp [close, session?]

theorem mem_range_zip {α : Type} {l : List α} {i : Nat} {a : α} :
    (i, a) ∈ (List.range l.length).zip l ↔ l[i]? = some a := by
  rw [List.mem_iff_getElem?]
  constructor
  · rintro ⟨k, hk⟩
    obtain ⟨h1, h2⟩ := List.getElem?_zip_eq_some.1 hk
    have hk : k < l.length := by simpa using (List.getElem?_eq_some_iff.1 h1).1
    rw [List.getElem?_range hk] at h1
    have hki : k = i := by simpa using h1
    simpa [hki] using h2
  · intro h
    have hi : i < l.length := (List.getElem?_eq_some_iff.1 h).1
    exact ⟨i, List.getElem?_zip_eq_some.2 ⟨List.getElem?_range hi, h⟩⟩

/-- The open indices are those of the sessions that are open. -/
theorem mem_openIndices {g : Group} {i : Nat} :
    i ∈ g.openIndices ↔ ∃ s, g.session? i = some s ∧ s.valid = true := by
  simp only [openIndices, session?, List.mem_filterMap, Prod.exists]
  constructor
  · rintro ⟨j, s, hm, hs⟩
    split at hs
    · cases hs
      exact ⟨s, mem_range_zip.1 hm, by assumption⟩
    · cases hs
  · rintro ⟨s, hs, hv⟩
    exact ⟨i, s, mem_range_zip.2 hs, by simp [hv]⟩

/-- Picking numbers out of a numbered list keeps them in order: a sublist of the numbers. -/
theorem filterMap_zip_sublist {α : Type} (f : Nat × α → Option Nat)
    (hf : ∀ p b, f p = some b → b = p.1) :
    ∀ (k : Nat) (l : List α),
      List.Sublist (((List.range' k l.length).zip l).filterMap f) (List.range' k l.length)
  | _, [] => by simp
  | k, a :: l => by
    rw [List.length_cons, List.range'_succ, List.zip_cons_cons, List.filterMap_cons]
    have ih := filterMap_zip_sublist f hf (k + 1) l
    cases h : f (k, a) with
    | none => exact ih.cons k
    | some b =>
      rw [hf _ _ h]
      exact ih.cons_cons k

/-- No open index is listed twice. -/
theorem openIndices_nodup (g : Group) : g.openIndices.Nodup := by
  have hsub : List.Sublist g.openIndices (List.range g.sessions.length) := by
    unfold openIndices
    rw [List.range_eq_range']
    refine filterMap_zip_sublist _ ?_ 0 g.sessions
    rintro ⟨i, s⟩ b h
    -- only an open session yields its index
    split at h
    simp_all
  exact hsub.nodup List.nodup_range

end Group

end BrokerClient
