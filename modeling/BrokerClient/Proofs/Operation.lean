import BrokerClient.Client.Subscribe

/-!
Operations of the client, run on a client: their outcome and the client after them. The module
gives the run of each building block of the operation monad (`pure`, `throw`, reading and writing
the client, binding, catching, loops over a list), and then one lemma per operation that the
subscription traffic is made of: the parameter checks, which together say when a subscribe or an
unsubscribe names a qualified topic and a group (`Client.target?`), a request on one session, the
confirmation of its answer, and the broadcast of a subscribe or unsubscribe to the open sessions
of the attached group, which over a broker that confirms every request leaves one frame on each.
-/

namespace BrokerClient

/-! ### Parameters -/

namespace Topic

/-- A parameter that may travel as a meta: nonempty, and free of reserved characters. -/
def Valid (v : String) : Prop := v ≠ "" ∧ ∀ ch ∈ v.toList, ch ∉ reserved

instance (v : String) : Decidable (Valid v) := inferInstanceAs (Decidable (_ ∧ _))

theorem checkParam_eq_ok_iff {v n : String} : checkParam v n = .ok () ↔ Valid v := by
  unfold checkParam Valid
  by_cases he : v.isEmpty
  · simp_all
  · rw [if_neg he]
    have hne : v ≠ "" := by simpa using he
    cases hf : v.toList.find? (reserved.contains ·) with
    | none =>
      simp only [List.find?_eq_none] at hf
      simp_all
    | some ch =>
      have hm := List.mem_of_find?_eq_some hf
      have hr := List.find?_some hf
      simp only [reduceCtorEq, false_iff, not_and]
      intro _ hall
      exact hall ch hm (by simpa using hr)

theorem checkParam_error_of_not_valid {v n : String} (h : ¬Valid v) :
    ∃ e, checkParam v n = .error e := by
  cases hc : checkParam v n with
  | error e => exact ⟨e, rfl⟩
  | ok u => exact absurd (checkParam_eq_ok_iff.1 hc) h

end Topic

/-- The qualified topic and consumer group that a subscribe or unsubscribe names: the group
given, or else the client name, when the topic, the group and a namespace that is set are all
valid parameters. -/
def Client.target? (c : Client) (topic : String) (group? : Option String) :
    Option (String × String) :=
  match group?.or c.name with
  | none => none
  | some grp =>
    if Topic.Valid topic ∧ Topic.Valid grp ∧ ∀ ns ∈ c.space, Topic.Valid ns then
      some (Topic.full (c.space.getD "") topic, grp)
    else none

/-- The places `(group, index)` of the open sessions of the attached group; none when the
client is detached. -/
def Client.openPlaces (c : Client) : List (Nat × Nat) :=
  match c.attached with
  | none => []
  | some a => (((c.hub.group? a.group).map Group.openIndices).getD []).map (a.group, ·)

/-- The entity of a subscribe or unsubscribe request: the topic and the group, addressed to
every broker. -/
def subscriptionEntity (topic group : String) : Entity :=
  ({} : Entity).put Meta.topic topic |>.put Meta.group group |>.addressTo Meta.serverAll

/-- Every request that the broker answers by its shared rules is answered, and the answer
confirms. -/
def Hub.ConfirmsAll (h : Hub) : Prop :=
  ∀ ev e, ∃ a, answerOf h.rules ev e = some a ∧ isConfirmed a = true

@[simp] theorem Except.mapError_ok {ε ε' α : Type} (f : ε → ε') (a : α) :
    (Except.ok a : Except ε α).mapError f = .ok a := rfl

@[simp] theorem Except.mapError_error {ε ε' α : Type} (f : ε → ε') (e : ε) :
    (Except.error e : Except ε α).mapError f = .error (f e) := rfl

namespace Op

/-! ### Runs of operations -/

/-- An operation run on a client: its outcome, and the client after it. -/
def exec {α : Type} (op : Op α) (c : Client) : Except ClientError α × Client := op.run.run c

@[simp] theorem exec_pure {α : Type} (a : α) (c : Client) : exec (pure a) c = (.ok a, c) := rfl
@[simp] theorem exec_throw {α : Type} (e : ClientError) (c : Client) :
    exec (throw e : Op α) c = (.error e, c) := rfl
@[simp] theorem exec_get (c : Client) : exec (get : Op Client) c = (.ok c, c) := rfl
@[simp] theorem exec_set (c c' : Client) : exec (set c' : Op Unit) c = (.ok (), c') := rfl
@[simp] theorem exec_modify (f : Client → Client) (c : Client) :
    exec (modify f : Op Unit) c = (.ok (), f c) := rfl

theorem exec_bind {α β : Type} (x : Op α) (f : α → Op β) (c : Client) :
    exec (x >>= f) c = match exec x c with
      | (.ok a, c') => exec (f a) c'
      | (.error e, c') => (.error e, c') := by
  unfold exec
  rw [ExceptT.run_bind, StateT.run_bind]
  rcases x.run.run c with ⟨r, c'⟩
  cases r <;> rfl

theorem exec_tryCatch {α : Type} (x : Op α) (h : ClientError → Op α) (c : Client) :
    exec (tryCatch x h) c = match exec x c with
      | (.ok a, c') => (.ok a, c')
      | (.error e, c') => exec (h e) c' := by
  unfold exec
  simp only [MonadExcept.tryCatch, tryCatchThe, MonadExceptOf.tryCatch, ExceptT.tryCatch,
    ExceptT.mk, ExceptT.run, StateT.run, bind, StateT.bind]
  rcases x c with ⟨r, c'⟩
  cases r <;> rfl

theorem exec_forIn_cons {β : Type} (x : β) (xs : List β) (f : β → PUnit → Op (ForInStep PUnit))
    (c : Client) :
    exec (forIn (x :: xs) PUnit.unit f) c = match exec (f x PUnit.unit) c with
      | (.ok (.done u), c') => (.ok u, c')
      | (.ok (.yield u), c') => exec (forIn xs u f) c'
      | (.error e, c') => (.error e, c') := by
  rw [List.forIn_cons, exec_bind]
  rcases exec (f x PUnit.unit) c with ⟨r, c'⟩
  rcases r with e | (u | u) <;> rfl

/-! ### Checks of parameters -/

theorem exec_check (v n : String) (c : Client) :
    exec (check v n) c = ((Topic.checkParam v n).mapError fun e => .invalid e.message, c) := by
  unfold check
  cases Topic.checkParam v n <;> rfl

theorem exec_resolveGroup (g? : Option String) (c : Client) :
    exec (resolveGroup g?) c =
      ((g?.or c.name).elim (.error (.invalid "consumerGroup or client name is required")) .ok,
        c) := by
  unfold resolveGroup
  rcases g? with _ | g
  · rcases h : c.name with _ | n <;> simp [exec_bind, h]
  · rfl

theorem exec_qualify (t : String) (c : Client) :
    exec (qualify t) c = (match c.space with
      | some ns => ((Topic.checkParam ns "namespace").mapError fun e => .invalid e.message).map
          fun _ => Topic.full ns t
      | none => .ok (Topic.full "" t), c) := by
  unfold qualify checkedSpace
  rw [exec_bind, exec_bind, exec_get]
  dsimp only
  rcases c.space with _ | ns
  · rfl
  · simp only [exec_bind, exec_check]
    cases Topic.checkParam ns "namespace" <;> rfl

/-- The checks that open a subscribe or an unsubscribe pass when the call names a target, and
the operation goes on with it. -/
theorem exec_target_some {β : Type} {t full grp : String} {g? : Option String}
    (k : String → String → Op β) {c : Client} (h : c.target? t g? = some (full, grp)) :
    exec (do
      let group ← resolveGroup g?
      check t "topic"
      check group "consumerGroup"
      let full ← qualify t
      k full group) c = exec (k full grp) c := by
  unfold Client.target? at h
  rcases hg : g?.or c.name with _ | grp'
  · simp [hg] at h
  · simp only [hg] at h
    split at h
    · rename_i hv
      obtain ⟨ht, hgv, hns⟩ := hv
      cases h
      rw [exec_bind, exec_resolveGroup, hg]
      simp only [Option.elim, exec_bind, exec_check, Topic.checkParam_eq_ok_iff.2 ht,
        Topic.checkParam_eq_ok_iff.2 hgv, exec_qualify]
      rcases hs : c.space with _ | ns
      · simp only [Except.mapError_ok, hs]
        rfl
      · simp only [Except.mapError_ok, hs,
          Topic.checkParam_eq_ok_iff.2 (hns ns hs)]
        rfl
    · cases h

theorem exec_target_none {β : Type} {t : String} {g? : Option String}
    (k : String → String → Op β) {c : Client} (h : c.target? t g? = none) :
    ∃ msg, exec (do
      let group ← resolveGroup g?
      check t "topic"
      check group "consumerGroup"
      let full ← qualify t
      k full group) c = (.error (.invalid msg), c) := by
  unfold Client.target? at h
  rw [exec_bind, exec_resolveGroup]
  rcases hg : g?.or c.name with _ | grp
  · exact ⟨_, rfl⟩
  · simp only [hg, ite_eq_right_iff, reduceCtorEq, imp_false] at h
    simp only [Option.elim, exec_bind, exec_check]
    by_cases ht : Topic.Valid t
    · by_cases hgv : Topic.Valid grp
      · have hns : ¬∀ ns ∈ c.space, Topic.Valid ns := fun hns => h ⟨ht, hgv, hns⟩
        rcases hs : c.space with _ | ns
        · simp [hs] at hns
        · have hnv : ¬Topic.Valid ns := fun hv => hns (by simpa [hs] using hv)
          obtain ⟨e, he⟩ := Topic.checkParam_error_of_not_valid (n := "namespace") hnv
          simp only [Topic.checkParam_eq_ok_iff.2 ht, Topic.checkParam_eq_ok_iff.2 hgv,
            Except.mapError_ok, Except.mapError_error, exec_qualify, hs, he]
          exact ⟨_, rfl⟩
      · obtain ⟨e, he⟩ := Topic.checkParam_error_of_not_valid (n := "consumerGroup") hgv
        simp only [Topic.checkParam_eq_ok_iff.2 ht, Except.mapError_ok, Except.mapError_error, he]
        exact ⟨_, rfl⟩
    · obtain ⟨e, he⟩ := Topic.checkParam_error_of_not_valid (n := "topic") ht
      simp only [Except.mapError_error, he]
      exact ⟨_, rfl⟩

/-! ### Requests on a session -/

theorem exec_onSession {α : Type} {g i : Nat} {s : Session} (f : Session → Session × Except TransportError α)
    {c : Client} (hs : c.hub.session? g i = some s) :
    exec (onSession g i f) c =
      ((f s).2.mapError .transport, { c with hub := c.hub.updateSession g i fun _ => (f s).1 }) := by
  unfold onSession
  rw [exec_bind, exec_get]
  dsimp only
  rw [hs]
  dsimp only
  rcases f s with ⟨s', r⟩
  cases r <;> simp only [exec_bind, exec_set, exec_throw, exec_pure] <;> rfl

theorem exec_onSession_none {α : Type} {g i : Nat} (f : Session → Session × Except TransportError α)
    {c : Client} (hs : c.hub.session? g i = none) :
    exec (onSession g i f) c = (.error (.transport .closed), c) := by
  unfold onSession
  rw [exec_bind, exec_get]
  dsimp only
  rw [hs]
  rfl

/-- A request on an open session is recorded on it, and answered by the rules that apply. -/
theorem exec_request {g i : Nat} {s : Session} {c : Client} (hs : c.hub.session? g i = some s)
    (hv : s.valid = true) (ev : Event) (e : Entity) (t : Duration) :
    exec (request g i ev e t) c =
      ((match answerOf (s.rules.getD c.hub.rules) ev e with
        | some answer => .ok answer
        | none => .error (.transport (.timeout t))),
        { c with hub := c.hub.updateSession g i (·.record (.request ev e)) }) := by
  unfold request
  rw [exec_bind, exec_get]
  dsimp only
  rw [exec_onSession _ hs, Session.request_of_valid hv,
    Hub.updateSession_congr (k := (·.record (.request ev e))) hs rfl]
  dsimp only
  rcases answerOf (s.rules.getD c.hub.rules) ev e with _ | a <;> rfl

theorem exec_request_none {g i : Nat} {c : Client} (hs : c.hub.session? g i = none) (ev : Event)
    (e : Entity) (t : Duration) :
    exec (request g i ev e t) c = (.error (.transport .closed), c) := by
  unfold request
  rw [exec_bind, exec_get]
  exact exec_onSession_none _ hs

theorem exec_confirmed (op : String) (answer : Entity) (c : Client) :
    exec (confirmed op answer) c = (ensureConfirmed op answer, c) := by
  unfold confirmed
  cases ensureConfirmed op answer <;> rfl

theorem exec_request_confirmed {g i : Nat} {s : Session} {c : Client}
    (hs : c.hub.session? g i = some s) (hv : s.valid = true) (hr : s.rules = none)
    (hconf : c.hub.ConfirmsAll) (ev : Event) (e : Entity) (t : Duration) (op : String) :
    exec (do let a ← request g i ev e t; confirmed op a) c =
      (.ok (), { c with hub := c.hub.updateSession g i (·.record (.request ev e)) }) := by
  obtain ⟨a, ha, hca⟩ := hconf ev e
  rw [exec_bind, exec_request hs hv, hr, Option.getD_none, ha]
  dsimp only
  rw [exec_confirmed, ensureConfirmed, if_pos hca]

/-! ### Open sessions -/

theorem exec_openSessions (c : Client) : exec openSessions c = (.ok c.openPlaces, c) := by
  unfold openSessions Client.openPlaces
  rw [exec_bind, exec_get]
  dsimp only
  rcases c.attached with _ | a <;> rfl

theorem mem_openPlaces {c : Client} {p : Nat × Nat} :
    p ∈ c.openPlaces ↔ ∃ a, c.attached = some a ∧ p.1 = a.group ∧
      ∃ s, c.hub.session? a.group p.2 = some s ∧ s.valid = true := by
  unfold Client.openPlaces
  rcases ha : c.attached with _ | a
  · simp
  · rcases hg : c.hub.group? a.group with _ | grp
    · simp [Hub.session?, hg]
    · simp only [Option.map_some, Option.getD_some, List.mem_map, Option.some.injEq,
        exists_eq_left', Hub.session?, hg, Option.bind_some]
      constructor
      · rintro ⟨i, hi, rfl⟩
        exact ⟨rfl, Group.mem_openIndices.1 hi⟩
      · rintro ⟨h1, hs⟩
        exact ⟨p.2, Group.mem_openIndices.2 hs, by rw [← h1]⟩

theorem openPlaces_nodup (c : Client) : c.openPlaces.Nodup := by
  unfold Client.openPlaces
  split
  · exact List.nodup_nil
  · rename_i a _
    have hidx : (((c.hub.group? a.group).map Group.openIndices).getD []).Nodup := by
      rcases c.hub.group? a.group with _ | grp
      · exact List.nodup_nil
      · exact grp.openIndices_nodup
    exact List.pairwise_map.2 (hidx.imp fun hne heq => hne (by simpa using heq))

/-! ### Broadcasts -/

theorem session?_foldl_updateSession (f : Session → Session) :
    ∀ (ps : List (Nat × Nat)), ps.Nodup → ∀ (h : Hub) (g i : Nat),
      (ps.foldl (fun h p => h.updateSession p.1 p.2 f) h).session? g i =
        if (g, i) ∈ ps then (h.session? g i).map f else h.session? g i
  | [], _, h, g, i => by simp
  | p :: ps, hnd, h, g, i => by
    obtain ⟨hp, hps⟩ := List.nodup_cons.1 hnd
    rw [List.foldl_cons, session?_foldl_updateSession f ps hps, Hub.session?_updateSession]
    by_cases hgi : (g, i) = p
    · subst hgi
      simp [hp]
    · have hne : ¬(p.1 = g ∧ p.2 = i) := fun ⟨h1, h2⟩ => hgi (by rw [← h1, ← h2])
      simp [hne, hgi, List.mem_cons]

/-- **Loops of updates.** A loop whose every round changes the broker at one place by `u` and
goes on changes each place of its list by `u`, in order. A round needs a session at its place
that satisfies `P` and a client that satisfies `Q`; `u` keeps `P`, and changing a session by `u`
keeps `Q`. -/
theorem exec_forIn_updates {β : Type} (place : β → Nat × Nat) (u : Session → Session)
    (P : Session → Prop) (Q : Client → Prop) (hu : ∀ s, P s → P (u s))
    (hQ : ∀ c g i, Q c → Q { c with hub := c.hub.updateSession g i u })
    (body : β → PUnit → Op (ForInStep PUnit))
    (hbody : ∀ x c s, c.hub.session? (place x).1 (place x).2 = some s → P s → Q c →
      exec (body x PUnit.unit) c =
        (.ok (.yield PUnit.unit), { c with hub := c.hub.updateSession (place x).1 (place x).2 u })) :
    ∀ (xs : List β) (c : Client), Q c →
      (∀ x ∈ xs, ∃ s, c.hub.session? (place x).1 (place x).2 = some s ∧ P s) →
      exec (forIn xs PUnit.unit body) c =
        (.ok PUnit.unit,
          { c with hub := xs.foldl (fun h x => h.updateSession (place x).1 (place x).2 u) c.hub })
  | [], c, _, _ => rfl
  | x :: xs, c, hq, hxs => by
    obtain ⟨s, hs, hp⟩ := hxs x (by simp)
    rw [exec_forIn_cons, hbody x c s hs hp hq]
    dsimp only
    -- the rest of the list still finds sessions that satisfy `P`, changed by `u` or not
    have hrest : ∀ y ∈ xs, ∃ s', (c.hub.updateSession (place x).1 (place x).2 u).session?
        (place y).1 (place y).2 = some s' ∧ P s' := by
      intro y hy
      obtain ⟨s', hs', hp'⟩ := hxs y (by simp [hy])
      rw [Hub.session?_updateSession]
      split
      · exact ⟨u s', by rw [hs']; rfl, hu s' hp'⟩
      · exact ⟨s', hs', hp'⟩
    exact exec_forIn_updates place u P Q hu hQ body hbody xs _ (hQ c _ _ hq) hrest

/-- Over a broker that confirms every request, a broadcast to open sessions with no rules of
their own leaves the request on each of them, in order, and succeeds. -/
theorem exec_broadcast (ev : Event) (topic group : String) (ps : List (Nat × Nat)) (c : Client)
    (hconf : c.hub.ConfirmsAll)
    (hps : ∀ p ∈ ps, ∃ s, c.hub.session? p.1 p.2 = some s ∧ s.valid = true ∧ s.rules = none) :
    exec (broadcast ps ev topic group) c =
      (.ok (), { c with hub := ps.foldl (fun h p => h.updateSession p.1 p.2
        (·.record (.request ev (subscriptionEntity topic group)))) c.hub }) := by
  unfold broadcast
  rw [exec_bind]
  rw [exec_forIn_updates id (·.record (.request ev (subscriptionEntity topic group)))
    (fun s => s.valid = true ∧ s.rules = none) (fun c => c.hub.ConfirmsAll)
    (fun s hs => by simpa using hs) (fun c g i hc => by simpa [Hub.ConfirmsAll] using hc)]
  · rfl
  · -- each round is a confirmed request
    rintro ⟨g, i⟩ c' s hs ⟨hv, hr⟩ hc
    simp only [id] at hs
    rw [exec_bind, exec_get]
    dsimp only
    rw [← bind_assoc, exec_bind, exec_request_confirmed hs hv hr hc]
    rfl
  · exact hconf
  · intro p hp
    obtain ⟨s, hs, hv, hr⟩ := hps p hp
    exact ⟨s, hs, hv, hr⟩

/-! ### Subscribing -/

/-- A subscribe that names a target puts its subscription into the registry, replacing one of
the same queue name, and then asks the open sessions of the attached group to subscribe. -/
theorem exec_subscribe_some {t full grp : String} {g? : Option String} (a? : Option Bool)
    (hd : Handler) {c : Client} (h : c.target? t g? = some (full, grp)) :
    exec (subscribe t g? a? hd) c =
      exec (broadcast c.openPlaces .subscribe full grp)
        { c with registry := c.registry.add ⟨full, grp, a?.getD c.autoAck, hd⟩ } := by
  unfold subscribe
  rw [exec_target_some _ h]
  simp only [exec_bind, exec_get, exec_set, exec_openSessions]
  rfl

theorem exec_subscribe_none {t : String} {g? : Option String} (a? : Option Bool) (hd : Handler)
    {c : Client} (h : c.target? t g? = none) :
    ∃ msg, exec (subscribe t g? a? hd) c = (.error (.invalid msg), c) := by
  unfold subscribe
  exact exec_target_none _ h

theorem exec_unsubscribe_some {t full grp : String} {g? : Option String} {c : Client}
    (h : c.target? t g? = some (full, grp)) :
    exec (unsubscribe t g?) c =
      exec (broadcast c.openPlaces .unsubscribe full grp)
        { c with registry := c.registry.remove full grp } := by
  unfold unsubscribe
  rw [exec_target_some _ h]
  simp only [exec_bind, exec_modify, exec_openSessions]
  rfl

theorem exec_unsubscribe_none {t : String} {g? : Option String} {c : Client}
    (h : c.target? t g? = none) :
    ∃ msg, exec (unsubscribe t g?) c = (.error (.invalid msg), c) := by
  unfold unsubscribe
  exact exec_target_none _ h

end Op

end BrokerClient
