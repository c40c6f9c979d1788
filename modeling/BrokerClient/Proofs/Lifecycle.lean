import BrokerClient.Proofs.Transmission
/-!
# The connection's lifecycle

A client is attached to one group at a time, and every session outside that group is closed
(`Client.OnlyAttachedOpen`): connecting attaches a detached client to a group it has just opened,
disconnecting detaches it and closes its group, and no other call changes which sessions are open
or where the client is attached. So a whole run keeps it (`Call.onlyAttachedOpen_runAll`).

A call that sends one frame, its checks passed, fails as not connected exactly when the client is
detached, for want of a session exactly when the attached group has no open session, and
otherwise records its one frame on an open session of that group and changes no other session
(`Op.Transmits.sent_of_open`). A subscribe or an unsubscribe never fails for lack of a connection
(`Op.Subscription.result_ne`): detached, it succeeds once its checks pass, and attached, it fails
only by an answer.
-/

namespace BrokerClient

/-! ### What a call that sends comes to -/

namespace Op.Transmits

variable {c : Client} {r : Option String} {o : Outbound} {out : Except ClientError Unit × Client}

theorem notConnected_iff (h : Transmits c r o out) :
    out.1 = .error .notConnected ↔ c.attached = none := by
  cases h with
  | unpicked hpick =>
    rcases (exec_pickSession_error hpick).2 with ⟨rfl, ha⟩ | ⟨rfl, a, ha, -⟩
    · exact ⟨fun _ => ha, fun _ => rfl⟩
    · simp [ha]
  | sent hpick hnc _ =>
    obtain ⟨a, -, ha, -⟩ := exec_pickSession_ok hpick
    simp [hnc, ha]

theorem noSession_iff (h : Transmits c r o out) :
    out.1 = .error .noSession ↔ ∃ a, c.attached = some a ∧ c.hub.NoneOpen a.group := by
  cases h with
  | unpicked hpick =>
    rcases (exec_pickSession_error hpick).2 with ⟨rfl, ha⟩ | ⟨rfl, hopen⟩
    · simp [ha]
    · exact ⟨fun _ => hopen, fun _ => rfl⟩
  | sent hpick _ hns =>
    obtain ⟨a, -, ha, rfl, -⟩ := exec_pickSession_ok hpick
    obtain ⟨s, hs, hv⟩ := valid_of_pickSession hpick
    -- the picked session is open, so the attached group has one
    refine ⟨fun h => absurd h hns, fun ⟨a', ha', hn⟩ => ?_⟩
    rw [ha] at ha'
    cases ha'
    simp [hn _ _ hs] at hv

/-- **Sending on an open group.** A call that sends from a client attached to a group with an
open session records its frame on one open session of that group, and changes no other
session. -/
theorem sent_of_open (h : Transmits c r o out) {a : Attachment} (ha : c.attached = some a)
    (hn : ¬c.hub.NoneOpen a.group) :
    ∃ i s, c.hub.session? a.group i = some s ∧ s.valid = true ∧ ∀ g' i',
      out.2.hub.session? g' i' =
        if a.group = g' ∧ i = i' then (c.hub.session? g' i').map (·.record o)
        else c.hub.session? g' i' := by
  cases h with
  | unpicked hpick =>
    rcases (exec_pickSession_error hpick).2 with ⟨-, ha'⟩ | ⟨-, a', ha', hn'⟩
    · simp [ha] at ha'
    · rw [ha] at ha'
      cases ha'
      exact absurd hn' hn
  | @sent g i c₁ _ hpick _ _ =>
    obtain ⟨a', -, ha', rfl, -⟩ := exec_pickSession_ok hpick
    rw [ha] at ha'
    cases ha'
    obtain ⟨s, hs, hv⟩ := valid_of_pickSession hpick
    refine ⟨i, s, hs, hv, fun g' i' => ?_⟩
    simp only [Client.recordAt, Hub.session?_updateSession, session?_of_pickSession hpick]

end Op.Transmits

/-! ### Connecting and disconnecting -/

/-- The client once connected over endpoints `eps`: a new group opened with the client's
configuration, each of its sessions sent the frames of an opening, and the client attached to
it. -/
def Client.connectedOver (c : Client) (eps : List String) : Client :=
  { c with
    hub := (List.range c.hub.width).foldl
      (fun h i => h.updateSession c.hub.groups.length i (Session.resync c.registry))
      (c.hub.openGroup eps c.sessionConfig)
    attached := some ⟨c.hub.groups.length, c.sessionConfig.requestTimeout⟩ }

theorem Client.session?_connectedOver (c : Client) (eps : List String) (g i : Nat) :
    (c.connectedOver eps).hub.session? g i =
      if g = c.hub.groups.length ∧ i < c.hub.width then
        some (({ id := "mem-" ++ toString c.hub.groups.length ++ "-" ++ toString i } : Session).resync
          c.registry)
      else c.hub.session? g i := by
  simp only [connectedOver, Hub.session?_foldl_range, Hub.session?_openGroup]
  by_cases h : g = c.hub.groups.length ∧ i < c.hub.width <;> simp [h]

namespace Op

theorem exec_connect_attached {c : Client} {a : Attachment} (ha : c.attached = some a) :
    exec connect c = (.ok (), c) := by
  unfold connect
  rw [exec_bind, exec_get]
  dsimp only
  rw [if_pos (by simp [Client.isConnected, ha])]
  rfl

/-- **Connecting a detached client.** Once its checks pass, a connect from a detached client
fails with the transport's error and changes nothing when the broker has no sessions to open,
and otherwise opens one group, lets each of its sessions resubscribe, and attaches to it. -/
theorem exec_connect_detached {c : Client} (ha : c.attached = none)
    (hv : Call.connect.Valid c) :
    ∃ eps, exec connect c = if c.hub.width = 0 then
      (.error (.transport (.connection "no server reachable")), c)
      else (.ok (), c.connectedOver eps) := by
  have hnc : c.isConnected = false := by simp [Client.isConnected, ha]
  obtain ⟨hu, hns, heps⟩ := hv.resolve_left (by simp [hnc])
  obtain ⟨eps, hep⟩ := exec_endpoints_ok heps c
  refine ⟨eps, ?_⟩
  unfold connect
  rw [exec_bind, exec_get]
  dsimp only
  rw [if_neg (by simp [hnc]), if_neg (by simpa using hu), exec_bind, exec_checkedSpace_valid hns]
  dsimp only
  rw [exec_bind, hep]
  dsimp only
  rw [exec_bind]
  by_cases hw : c.hub.width = 0
  · rw [if_pos hw]
    unfold openGroup
    simp only [exec_bind, exec_get, hw, if_true, exec_throw]
  · rw [if_neg hw, exec_openGroup eps c.sessionConfig hw]
    rfl

end Op

theorem Hub.session?_updateGroup_close (h : Hub) (g g' i : Nat) :
    (h.updateGroup g Group.close).session? g' i =
      if g = g' then (h.session? g' i).map fun s => { s with valid := false }
      else h.session? g' i := by
  rw [session?_updateGroup]
  split
  · rename_i hg
    subst hg
    simp only [session?]
    rcases h.group? g with _ | grp
    · rfl
    · simp only [Option.map_some, Option.bind_some, Group.session?_close]
  · rfl

theorem Hub.noneOpen_updateGroup_close (h : Hub) (g : Nat) :
    (h.updateGroup g Group.close).NoneOpen g := by
  intro i s hs
  rw [session?_updateGroup_close, if_pos rfl] at hs
  obtain ⟨s', -, rfl⟩ := Option.map_eq_some_iff.1 hs
  rfl

/-! ### Subscriptions -/

namespace Client.SameOpen

theorem symm {c c' : Client} (h : c.SameOpen c') : c'.SameOpen c :=
  ⟨h.1.symm, h.2.1.symm, fun g i => (h.2.2 g i).symm⟩

theorem open_of {c c' : Client} (h : c.SameOpen c') {g i : Nat}
    (hs : ∃ s, c.hub.session? g i = some s ∧ s.valid = true) :
    ∃ s, c'.hub.session? g i = some s ∧ s.valid = true := by
  obtain ⟨s, hs, hv⟩ := hs
  have hflag := h.2.2 g i
  rw [hs] at hflag
  rcases hs' : c'.hub.session? g i with _ | s'
  · simp [hs'] at hflag
  · simp only [hs', Option.map_some, Option.some.injEq] at hflag
    exact ⟨s', rfl, hflag.trans hv⟩

end Client.SameOpen

theorem Client.sameOpen_foldl_recordAt (o : Outbound) :
    ∀ (ps : List (Nat × Nat)) (c : Client),
      c.SameOpen (ps.foldl (fun c p => c.recordAt p.1 p.2 o) c)
  | [], c => .refl c
  | p :: ps, c => (c.sameOpen_recordAt p.1 p.2 o).trans (sameOpen_foldl_recordAt o ps _)

namespace Op

theorem broadcast_state (ev : Event) (topic group : String) :
    ∀ (ps : List (Nat × Nat)) (c : Client),
      (∀ p ∈ ps, ∃ s, c.hub.session? p.1 p.2 = some s ∧ s.valid = true) →
      ∃ k, (exec (broadcast ps ev topic group) c).2 =
        (ps.take k).foldl (fun c p => c.recordAt p.1 p.2
          (.request ev (subscriptionEntity topic group))) c
  | [], c, _ => ⟨0, rfl⟩
  | (g, i) :: ps, c, hps => by
    obtain ⟨s, hs, hv⟩ := hps (g, i) List.mem_cons_self
    rw [exec_broadcast_cons hs hv]
    dsimp only
    cases confirmOutcome ev.wireName c.subscribeTimeout
      (answerOf (s.rules.getD c.hub.rules) ev (subscriptionEntity topic group)) with
    | error err => exact ⟨1, rfl⟩
    | ok u =>
      -- the places after the first are still open once the first has its request
      have hrest := fun p hp => (c.sameOpen_recordAt g i
        (.request ev (subscriptionEntity topic group))).open_of (hps p (List.mem_cons_of_mem _ hp))
      obtain ⟨k, hk⟩ := broadcast_state ev topic group ps _ hrest
      exact ⟨k + 1, hk⟩

theorem sameOpen_broadcast (ev : Event) (topic group : String) {ps : List (Nat × Nat)}
    {c : Client} (hps : ∀ p ∈ ps, ∃ s, c.hub.session? p.1 p.2 = some s ∧ s.valid = true) :
    c.SameOpen (exec (broadcast ps ev topic group) c).2 := by
  obtain ⟨k, hk⟩ := broadcast_state ev topic group ps c hps
  rw [hk]
  exact Client.sameOpen_foldl_recordAt _ _ c

theorem forM_ne_error {ε α : Type} {xs : List α} {f : α → Except ε Unit} {e : ε}
    (h : ∀ x ∈ xs, f x ≠ .error e) : xs.forM f ≠ .error e := by
  induction xs with
  | nil => simp [List.forM, pure, Except.pure]
  | cons x xs ih =>
    show (f x >>= fun _ => xs.forM f) ≠ _
    cases hx : f x with
    | error err =>
      have := h x List.mem_cons_self
      simpa [hx, bind, Except.bind] using this
    | ok u => simpa [bind, Except.bind] using ih fun y hy => h y (List.mem_cons_of_mem _ hy)

/-- An operation that runs as a subscribe or an unsubscribe does, by its target: without one it
is refused as invalid and changes nothing; with one it changes the registry and then broadcasts
its request to the open sessions of the attached group. -/
def Subscription (x : Op Unit) (c : Client) (target : Option (String × String)) (ev : Event) :
    Prop :=
  (target = none → ∃ msg, exec x c = (.error (.invalid msg), c)) ∧
    ∀ full grp, target = some (full, grp) →
      ∃ r : Registry, exec x c = exec (broadcast c.openPlaces ev full grp) { c with registry := r }

theorem subscription_subscribe (t : String) (g? : Option String) (a? : Option Bool) (hd : Handler)
    (c : Client) : Subscription (subscribe t g? a? hd) c (c.target? t g?) .subscribe :=
  ⟨exec_subscribe_none a? hd, fun _ _ h => ⟨_, exec_subscribe_some a? hd h⟩⟩

theorem subscription_unsubscribe (t : String) (g? : Option String) (c : Client) :
    Subscription (unsubscribe t g?) c (c.target? t g?) .unsubscribe :=
  ⟨exec_unsubscribe_none, fun _ _ h => ⟨_, exec_unsubscribe_some h⟩⟩

namespace Subscription

variable {x : Op Unit} {c : Client} {target : Option (String × String)} {ev : Event}

/-- A subscription changes the registry and the frames of open sessions, and nothing of which
sessions are open. -/
theorem sameOpen (h : Subscription x c target ev) : c.SameOpen (exec x c).2 := by
  rcases ht : target with _ | ⟨full, grp⟩
  · obtain ⟨msg, hmsg⟩ := h.1 ht
    rw [hmsg]
    exact .refl c
  · obtain ⟨r, hx⟩ := h.2 full grp ht
    rw [hx]
    exact Client.SameOpen.trans ⟨rfl, rfl, fun _ _ => rfl⟩
      (sameOpen_broadcast _ _ _ (open_sessions_of_openPlaces c))

/-- **Subscriptions need no connection.** A subscription never fails as not connected or for
want of a session: it is refused as invalid, or fails by the first answer that does not
confirm. -/
theorem result_ne (h : Subscription x c target ev) {e : ClientError}
    (he : e = .notConnected ∨ e = .noSession) : (exec x c).1 ≠ .error e := by
  rcases ht : target with _ | ⟨full, grp⟩
  · obtain ⟨msg, hmsg⟩ := h.1 ht
    rcases he with rfl | rfl <;> simp [hmsg]
  · obtain ⟨r, hx⟩ := h.2 full grp ht
    rw [hx, broadcast_result _ _ _ _ { c with registry := r } (open_sessions_of_openPlaces c)]
    refine forM_ne_error fun p _ => ?_
    rcases he with rfl | rfl
    · exact confirmOutcome_ne.1
    · exact confirmOutcome_ne.2

theorem ok_of_detached (h : Subscription x c target ev) (ha : c.attached = none)
    (ht : target.isSome = true) : (exec x c).1 = .ok () := by
  obtain ⟨⟨full, grp⟩, ht⟩ := Option.isSome_iff_exists.1 ht
  obtain ⟨r, hx⟩ := h.2 full grp ht
  have hnone : c.openPlaces = [] := by simp [Client.openPlaces, ha]
  rw [hx, hnone]
  exact broadcast_result _ _ _ [] _ (fun p hp => by cases hp)

end Subscription

end Op

/-! ### Only the attached group is open -/

/-- Every open session belongs to the group the client is attached to; a detached client has no
open session. -/
def Client.OnlyAttachedOpen (c : Client) : Prop :=
  ∀ g i s, c.hub.session? g i = some s → s.valid = true → ∃ a, c.attached = some a ∧ a.group = g

namespace Client.OnlyAttachedOpen

variable {c : Client}

theorem of_sameOpen {c' : Client} (h : c.OnlyAttachedOpen) (hsame : c.SameOpen c') :
    c'.OnlyAttachedOpen := by
  intro g i s hs hv
  obtain ⟨s₀, hs₀, hv₀⟩ := hsame.symm.open_of ⟨s, hs, hv⟩
  rw [hsame.1]
  exact h g i s₀ hs₀ hv₀

theorem of_groups_nil (h : c.hub.groups = []) : c.OnlyAttachedOpen := by
  intro g i s hs
  simp [Hub.session?, Hub.group?, h] at hs

/-- Connecting a detached client keeps it: the new group is the attached one, and every other
session is as it was, closed. -/
theorem connectedOver (h : c.OnlyAttachedOpen) (ha : c.attached = none) (eps : List String) :
    (c.connectedOver eps).OnlyAttachedOpen := by
  intro g i s hs hv
  rw [Client.session?_connectedOver] at hs
  split at hs
  · rename_i hg
    exact ⟨_, rfl, hg.1.symm⟩
  · obtain ⟨a, ha', -⟩ := h g i s hs hv
    simp [ha] at ha'

/-- Disconnecting keeps it: the attached group is closed and the client detached. -/
theorem disconnect (h : c.OnlyAttachedOpen) {a : Attachment} (ha : c.attached = some a) :
    ({ c with attached := none, hub := c.hub.updateGroup a.group Group.close } : Client).OnlyAttachedOpen := by
  intro g i s hs hv
  by_cases hg : a.group = g
  · subst hg
    rw [Hub.noneOpen_updateGroup_close c.hub a.group i s hs] at hv
    cases hv
  · -- outside the attached group no session was open to begin with
    rw [Hub.session?_updateGroup, if_neg hg] at hs
    obtain ⟨a', ha', hga⟩ := h g i s hs hv
    rw [ha] at ha'
    cases ha'
    exact absurd hga hg

end Client.OnlyAttachedOpen

namespace Op

theorem sameOpen_listen (hd : Handler) (c : Client) : c.SameOpen (exec (listen hd) c).2 := by
  unfold listen
  rw [exec_bind]
  rcases hn : c.name with _ | n
  · rw [exec_requireName_none hn]
    exact .refl c
  · rw [exec_requireName_some hn]
    exact ⟨rfl, rfl, fun _ _ => rfl⟩

theorem exec_beginTransaction_client (tmid : String) (c : Client) :
    (exec (beginTransaction tmid) c).2 = c := by
  unfold beginTransaction
  rw [exec_bind]
  rcases hn : c.name with _ | n
  · rw [exec_requireName_none hn]
  · rw [exec_requireName_some hn]
    rfl

end Op

namespace Call

theorem newTransaction_client (tmid : String) (c : Client) :
    (Op.exec (newTransaction tmid).op c).2 = c := by
  simp only [op, Op.exec_bind]
  have hb := Op.exec_beginTransaction_client tmid c
  rcases hx : Op.exec (Op.beginTransaction tmid) c with ⟨_ | _, c'⟩ <;> rw [hx] at hb <;> exact hb

/-- One call keeps every open session in the attached group. -/
theorem onlyAttachedOpen_step {c : Client} (h : c.OnlyAttachedOpen) (call : Call) :
    (Op.exec call.op c).2.OnlyAttachedOpen := by
  cases call with
  | connect =>
    show (Op.exec Op.connect c).2.OnlyAttachedOpen
    rcases Op.exec_connect_cases c with hc | ⟨ha, eps, hc⟩
    · rw [hc]
      exact h
    · rw [hc]
      exact h.connectedOver ha eps
  | disconnect =>
    rw [op, Op.exec_disconnect]
    rcases ha : c.attached with _ | a
    · exact h
    · exact h.disconnect ha
  | subscribe t g a hd => exact h.of_sameOpen (Op.subscription_subscribe t g a hd c).sameOpen
  | unsubscribe t g => exact h.of_sameOpen (Op.subscription_unsubscribe t g c).sameOpen
  | listen hd => exact h.of_sameOpen (Op.sameOpen_listen hd c)
  | checkback hd => exact h.of_sameOpen ⟨rfl, rfl, fun _ _ => rfl⟩
  | newTransaction tmid =>
    rw [newTransaction_client]
    exact h
  | publish t m => exact h.of_sameOpen (sendEffect (show Sends (publish t m) from trivial) c).sameOpen
  | unpublish t k => exact h.of_sameOpen (sendEffect (show Sends (unpublish t k) from trivial) c).sameOpen
  | sendTo p m t => exact h.of_sameOpen (sendEffect (show Sends (sendTo p m t) from trivial) c).sameOpen
  | commit tx => exact h.of_sameOpen (sendEffect (show Sends (commit tx) from trivial) c).sameOpen
  | rollback tx => exact h.of_sameOpen (sendEffect (show Sends (rollback tx) from trivial) c).sameOpen

/-- A whole run keeps every open session in the attached group. -/
theorem onlyAttachedOpen_runAll :
    ∀ (calls : List Call) {c : Client}, c.OnlyAttachedOpen → (runAll calls c).OnlyAttachedOpen
  | [], _, h => h
  | call :: calls, _, h => onlyAttachedOpen_runAll calls (onlyAttachedOpen_step h call)

end Call

/-- **The connection's lifecycle.** Over any run of calls from a client whose open sessions all
belong to the group it is attached to, that stays so after every call. A connect while attached
succeeds and changes nothing; a connect from a detached client whose checks pass either opens one
group, lets each of its sessions resubscribe and attaches to it, or, when the broker has no
session to open, fails with the transport's error and leaves the client as it was. A disconnect
detaches the client and closes every session of its group, and does nothing when detached. A
call that sends one frame and passes its checks fails as not connected exactly when the client is
detached, for want of a session exactly when the attached group has no open session, and
otherwise records its frame on one open session of that group and changes no other session. A
subscribe or an unsubscribe never fails as not connected or for want of a session. -/
theorem connection_lifecycle :
    (∀ (calls : List Call) (c : Client), c.OnlyAttachedOpen →
      (Call.runAll calls c).OnlyAttachedOpen) ∧
    (∀ (c : Client) (a : Attachment), c.attached = some a → Op.exec Op.connect c = (.ok (), c)) ∧
    (∀ c : Client, c.attached = none → Call.connect.Valid c →
      (c.hub.width = 0 ∧
        Op.exec Op.connect c = (.error (.transport (.connection "no server reachable")), c)) ∨
      (c.hub.width ≠ 0 ∧ ∃ eps, Op.exec Op.connect c = (.ok (), c.connectedOver eps))) ∧
    (∀ (c : Client) (a : Attachment), c.attached = some a →
      Op.exec Op.disconnect c =
        (.ok (), { c with attached := none, hub := c.hub.updateGroup a.group Group.close }) ∧
      (Op.exec Op.disconnect c).2.hub.NoneOpen a.group) ∧
    (∀ c : Client, c.attached = none → Op.exec Op.disconnect c = (.ok (), c)) ∧
    (∀ (call : Call) (c : Client), call.SendsOne → call.Valid c →
      ((Op.exec call.op c).1 = .error .notConnected ↔ c.attached = none) ∧
      ((Op.exec call.op c).1 = .error .noSession ↔
        ∃ a, c.attached = some a ∧ c.hub.NoneOpen a.group) ∧
      ∀ a, c.attached = some a → ¬c.hub.NoneOpen a.group →
        ∃ o i s, call.frame? c = some o ∧ c.hub.session? a.group i = some s ∧ s.valid = true ∧
          ∀ g' i', (Op.exec call.op c).2.hub.session? g' i' =
            if a.group = g' ∧ i = i' then (c.hub.session? g' i').map (·.record o)
            else c.hub.session? g' i') ∧
    (∀ (c : Client) t g? a? hd,
      (Op.exec (Op.subscribe t g? a? hd) c).1 ≠ .error .notConnected ∧
        (Op.exec (Op.subscribe t g? a? hd) c).1 ≠ .error .noSession) ∧
    (∀ (c : Client) t g?,
      (Op.exec (Op.unsubscribe t g?) c).1 ≠ .error .notConnected ∧
        (Op.exec (Op.unsubscribe t g?) c).1 ≠ .error .noSession) := by
  refine ⟨fun calls c h => Call.onlyAttachedOpen_runAll calls h,
    fun c a ha => Op.exec_connect_attached ha, fun c ha hv => ?_, fun c a ha => ?_,
    fun c ha => ?_, fun call c hs hv => ?_,
    fun c t g? a? hd => ⟨(Op.subscription_subscribe t g? a? hd c).result_ne (.inl rfl),
      (Op.subscription_subscribe t g? a? hd c).result_ne (.inr rfl)⟩,
    fun c t g? => ⟨(Op.subscription_unsubscribe t g? c).result_ne (.inl rfl),
      (Op.subscription_unsubscribe t g? c).result_ne (.inr rfl)⟩⟩
  · obtain ⟨eps, hc⟩ := Op.exec_connect_detached ha hv
    by_cases hw : c.hub.width = 0
    · exact .inl ⟨hw, by rw [hc, if_pos hw]⟩
    · exact .inr ⟨hw, eps, by rw [hc, if_neg hw]⟩
  · have hd : Op.exec Op.disconnect c =
        (.ok (), { c with attached := none, hub := c.hub.updateGroup a.group Group.close }) := by
      rw [Op.exec_disconnect, ha]
    exact ⟨hd, by rw [hd]; exact Hub.noneOpen_updateGroup_close c.hub a.group⟩
  · rw [Op.exec_disconnect, ha]
  · obtain ⟨o, ho, ht⟩ := Call.transmits hs hv
    refine ⟨ht.notConnected_iff, ht.noSession_iff, fun a ha hn => ?_⟩
    obtain ⟨i, s, hs, hv, hsess⟩ := ht.sent_of_open ha hn
    exact ⟨o, i, s, ho, hs, hv, hsess⟩

/-- A client that has opened no group connects, publishes, disconnects and connects again over a
broker of two sessions: every open session stays in the attached group, a publish before the
connect fails as not connected, and the connect opens a group and attaches to it. -/
theorem connection_lifecycle_example :
    let c : Client := { urls := ["folkmq://127.0.0.1:18602"], hub := { width := 2 } }
    let publish := Call.publish "orders" (Message.create "m1" [120])
    (Call.runAll [.connect, publish, .disconnect, .connect] c).OnlyAttachedOpen ∧
      (Op.exec publish.op c).1 = .error .notConnected ∧
      ∃ eps, Op.exec Op.connect c = (.ok (), c.connectedOver eps) := by
  intro c publish
  obtain ⟨hrun, -, hconnect, -, -, hsend, -⟩ := connection_lifecycle
  have hv : publish.Valid c := ⟨by simp [Topic.Valid, Topic.reserved],
    by simp [Topic.Valid, Topic.reserved, Message.create], by simp [c]⟩
  -- the one url resolves, to a TCP endpoint
  have hcv : Call.connect.Valid c := .inr ⟨by simp [c], by simp [c], fun u hu => by
    simp only [c, List.mem_singleton] at hu
    subst hu
    rfl⟩
  refine ⟨hrun _ c (Client.OnlyAttachedOpen.of_groups_nil rfl),
    ((hsend publish c trivial hv).1).2 rfl, ?_⟩
  rcases hconnect c rfl hcv with ⟨hw, -⟩ | ⟨-, hopen⟩
  · exact absurd hw (by decide)
  · exact hopen

end BrokerClient
