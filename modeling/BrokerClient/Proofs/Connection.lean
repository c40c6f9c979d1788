import BrokerClient.Client.Connect
import BrokerClient.Proofs.Operation
/-!
Connecting, disconnecting and reopening, run on a client. A session that opens is sent the frames
of an opening (`Registry.openingFrames`): the whole queue map as one batched subscribe, or nothing
when the registry is empty, whatever the broker answers (`exec_sessionOpened`). Connecting either
changes nothing or attaches a detached client to a new group whose every session has been sent
those frames (`exec_connect_cases`); reopening a place opens its session and sends it the same
frames (`exec_reopen`).
-/


namespace BrokerClient

/-! ### Sessions of a new group -/

theorem Hub.session?_openGroup (h : Hub) (urls : List String) (config : SessionConfig) (g i : Nat) :
    (h.openGroup urls config).session? g i =
      if g = h.groups.length ∧ i < h.width then
        some { id := "mem-" ++ toString h.groups.length ++ "-" ++ toString i }
      else h.session? g i := by
  simp only [Hub.session?, Hub.group?_openGroup]
  by_cases hg : g = h.groups.length
  · simp only [hg, if_true, Option.bind_some, Group.session?, Hub.freshSessions_getElem?, true_and]
    split <;> simp_all [Hub.group?]
  · simp [hg]

theorem Hub.session?_foldl_range (f : Session → Session) (w g : Nat) (h : Hub) (g' i : Nat) :
    ((List.range w).foldl (fun h i => h.updateSession g i f) h).session? g' i =
      if g' = g ∧ i < w then (h.session? g' i).map f else h.session? g' i := by
  have hnd : ((List.range w).map (g, ·)).Nodup :=
    List.pairwise_map.2 (List.nodup_range.imp fun hne heq => hne (Prod.mk.inj heq).2)
  have hfold := Op.session?_foldl_updateSession f _ hnd h g' i
  rw [List.foldl_map] at hfold
  rw [hfold]
  have hmem : (g', i) ∈ (List.range w).map (g, ·) ↔ g' = g ∧ i < w := by
    simp only [List.mem_map, List.mem_range, Prod.mk.injEq]
    constructor
    · rintro ⟨j, hj, rfl, rfl⟩
      exact ⟨rfl, hj⟩
    · rintro ⟨rfl, hi⟩
      exact ⟨i, hi, rfl, rfl⟩
  simp only [hmem]

/-! ### Openings -/

/-- The frames a session sends when it opens: the registry's queue map as one batched subscribe,
unless the registry is empty. -/
def Registry.openingFrames (r : Registry) : List Outbound :=
  if r.isEmpty then [] else [.request .subscribe r.queues.subscribeEntity]

/-- A session after it has sent the frames of an opening. -/
def Session.resync (r : Registry) (s : Session) : Session :=
  { s with sent := s.sent ++ r.openingFrames }

namespace Session

@[simp] theorem resync_valid (r : Registry) (s : Session) : (s.resync r).valid = s.valid := rfl
@[simp] theorem resync_rules (r : Registry) (s : Session) : (s.resync r).rules = s.rules := rfl
@[simp] theorem resync_sent (r : Registry) (s : Session) :
    (s.resync r).sent = s.sent ++ r.openingFrames := rfl

theorem resync_of_isEmpty {r : Registry} (h : r.isEmpty = true) (s : Session) : s.resync r = s := by
  simp [resync, Registry.openingFrames, h]

theorem resync_of_not_isEmpty {r : Registry} (h : r.isEmpty = false) (s : Session) :
    s.resync r = s.record (.request .subscribe r.queues.subscribeEntity) := by
  simp [resync, record, Registry.openingFrames, h]

end Session

namespace Op

/-- A session that opens, if it stands open at its place, is sent the frames of an opening;
whether the broker answers or not, the operation succeeds. -/
theorem exec_sessionOpened {g i : Nat} {c : Client}
    (hv : ∀ s, c.hub.session? g i = some s → s.valid = true) :
    exec (sessionOpened g i) c =
      (.ok (), { c with hub := c.hub.updateSession g i (Session.resync c.registry) }) := by
  unfold sessionOpened resubscribe
  rw [exec_tryCatch, exec_bind, exec_get]
  dsimp only
  cases he : c.registry.isEmpty
  · simp only [Bool.false_eq_true, if_false]
    rcases hs : c.hub.session? g i with _ | s
    · rw [exec_bind, exec_request_none hs, Hub.updateSession_of_session?_none _ hs]
      rfl
    · have hr : Session.resync c.registry = (·.record (.request .subscribe c.registry.queues.subscribeEntity)) :=
        funext (Session.resync_of_not_isEmpty he)
      rw [exec_bind, exec_request hs (hv s hs), hr]
      -- refused, unanswered or confirmed, the request stays recorded and the failure is dropped
      rcases answerOf (s.rules.getD c.hub.rules) Event.subscribe c.registry.queues.subscribeEntity
        with _ | a
      · rfl
      · dsimp only
        rw [exec_confirmed]
        cases ensureConfirmed "subscribe" a <;> rfl
  · simp only [if_true, exec_pure]
    have hr : Session.resync c.registry = id := funext (Session.resync_of_isEmpty he)
    rw [hr, Hub.updateSession_id]

/-- Opening a group on a broker with sessions adds a group of fresh sessions, each sent the frames
of an opening, in order. -/
theorem exec_openGroup (urls : List String) (config : SessionConfig) {c : Client}
    (hw : c.hub.width ≠ 0) :
    exec (openGroup urls config) c =
      (.ok c.hub.groups.length, { c with hub := ((List.range c.hub.width).foldl
        (fun h i => h.updateSession c.hub.groups.length i (Session.resync c.registry))
        (c.hub.openGroup urls config)) }) := by
  unfold openGroup
  rw [exec_bind, exec_get]
  dsimp only
  rw [if_neg hw, exec_bind, exec_set]
  dsimp only
  rw [exec_bind, exec_forIn_updates (c.hub.groups.length, ·) (Session.resync c.registry)
    (fun s => s.valid = true) (fun c' => c'.registry = c.registry)]
  · rfl
  · intro s hs
    simpa using hs
  · intro c' g i hc
    exact hc
  · intro i c' s hs hv hreg
    rw [exec_bind, exec_sessionOpened (fun s' hs' => by rw [hs] at hs'; cases hs'; exact hv), hreg]
    rfl
  · rfl
  · intro i hi
    refine ⟨{ id := "mem-" ++ toString c.hub.groups.length ++ "-" ++ toString i }, ?_, rfl⟩
    simp only [Hub.session?_openGroup, List.mem_range.1 hi, and_self, if_true]

theorem exec_endpoints_client (urls : List String) (c : Client) : (exec (endpoints urls) c).2 = c := by
  unfold endpoints
  induction urls with
  | nil => rfl
  | cons u us ih =>
    rw [List.mapM_cons, exec_bind]
    rcases Endpoint.resolve u with err | e
    · rfl
    · simp only [exec_pure, exec_bind]
      rcases hr : exec (us.mapM _) c with ⟨r, c'⟩
      rw [hr] at ih
      cases ih
      cases r <;> rfl

theorem exec_checkedSpace_client (c : Client) : (exec checkedSpace c).2 = c := by
  unfold checkedSpace
  rw [exec_bind, exec_get]
  dsimp only
  split
  · rename_i ns _
    simp only [exec_bind, exec_check]
    cases Topic.checkParam ns "namespace" <;> rfl
  · rfl

/-- An attempt to connect leaves the client as it was, or, from a detached client, attaches it
to a new group of fresh sessions, each sent the frames of an opening. -/
theorem exec_connect_cases (c : Client) :
    (exec connect c).2 = c ∨
    (c.attached = none ∧ ∃ eps, (exec connect c).2 =
      { c with
        hub := ((List.range c.hub.width).foldl
          (fun h i => h.updateSession c.hub.groups.length i (Session.resync c.registry))
          (c.hub.openGroup eps c.sessionConfig))
        attached := some ⟨c.hub.groups.length, c.sessionConfig.requestTimeout⟩ }) := by
  unfold connect
  rw [exec_bind, exec_get]
  dsimp only
  by_cases hconn : c.isConnected = true
  · exact .inl (by rw [if_pos hconn]; rfl)
  have ha : c.attached = none := by simpa [Client.isConnected] using hconn
  rw [if_neg hconn]
  by_cases hu : c.urls.isEmpty = true
  · exact .inl (by rw [if_pos hu]; rfl)
  rw [if_neg hu, exec_bind]
  -- the namespace check and the resolution of the urls read the client and change nothing
  rcases hcs : exec checkedSpace c with ⟨r, c1⟩
  obtain rfl : c = c1 := by simpa [hcs] using (exec_checkedSpace_client c).symm
  rcases r with e | _
  · exact .inl rfl
  dsimp only
  rw [exec_bind]
  rcases hep : exec (endpoints c.urls) c with ⟨r, c2⟩
  obtain rfl : c = c2 := by simpa [hep] using (exec_endpoints_client c.urls c).symm
  rcases r with e | eps
  · exact .inl rfl
  dsimp only
  rw [exec_bind]
  by_cases hw : c.hub.width = 0
  · left
    unfold openGroup
    simp only [exec_bind, exec_get, hw, if_true, exec_throw]
  · right
    refine ⟨ha, eps, ?_⟩
    rw [exec_openGroup eps c.sessionConfig hw]
    rfl

theorem exec_disconnect (c : Client) :
    exec disconnect c = (.ok (), match c.attached with
      | none => c
      | some a => { c with attached := none, hub := c.hub.updateGroup a.group Group.close }) := by
  unfold disconnect
  rw [exec_bind, exec_get]
  dsimp only
  rcases c.attached with _ | a <;> rfl

theorem exec_reopen (g i : Nat) (c : Client) :
    exec (reopen g i) c =
      (.ok (), { c with hub := ((c.hub.updateSession g i fun s => { s with valid := true }).updateSession
        g i (Session.resync c.registry)) }) := by
  unfold reopen
  rw [exec_bind, exec_modify]
  dsimp only
  rw [exec_sessionOpened]
  intro s hs
  rw [Hub.session?_updateSession] at hs
  simp only [and_self, if_true] at hs
  obtain ⟨s', -, rfl⟩ := Option.map_eq_some_iff.1 hs
  rfl

end Op

end BrokerClient
