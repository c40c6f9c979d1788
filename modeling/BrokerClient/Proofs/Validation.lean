import BrokerClient.Proofs.Connection
import BrokerClient.Proofs.Confirmation
/-!
Checks come first. Every call of the client checks its parameters and the settings it reads
before it does anything else, and nothing after the checks refuses the call as invalid. So a
call is refused as invalid exactly when its checks fail (`Call.Valid`), and a refused call
leaves the client as it was: the registry, the handlers, the attachment, the groups of the broker
and every session's frames and cursor (`refused_exactly_when_invalid`). A refusal is reported
even where the call would otherwise fail as not connected or for want of a session.

The part of a call after its checks is shown never to fail as invalid by closure lemmas on
`Op.NeverInvalid`, one for each way an operation is built.
-/

namespace BrokerClient

namespace Op

/-- An operation that fails as invalid from no client. -/
def NeverInvalid {α : Type} (x : Op α) : Prop := ∀ c msg, (exec x c).1 ≠ .error (.invalid msg)

namespace NeverInvalid

variable {α β : Type}

protected theorem pure (a : α) : NeverInvalid (pure a : Op α) := by
  intro c msg
  simp

protected theorem get : NeverInvalid (get : Op Client) := by
  intro c msg
  simp

protected theorem set (c' : Client) : NeverInvalid (set c' : Op Unit) := by
  intro c msg
  simp

protected theorem modify (f : Client → Client) : NeverInvalid (modify f : Op Unit) := by
  intro c msg
  simp

protected theorem throw {e : ClientError} (h : ∀ msg, e ≠ .invalid msg) :
    NeverInvalid (throw e : Op α) := by
  intro c msg
  simpa using h msg

protected theorem bind {x : Op α} {f : α → Op β} (hx : NeverInvalid x)
    (hf : ∀ a, NeverInvalid (f a)) : NeverInvalid (x >>= f) := by
  intro c msg
  rw [exec_bind]
  rcases hr : exec x c with ⟨r, c'⟩
  cases r with
  | error e =>
    -- the failure of `x` is the failure of the whole, at another type
    have h := hx c msg
    rw [hr] at h
    simpa using h
  | ok a => exact hf a c' msg

protected theorem ite {p : Prop} [Decidable p] {x y : Op α} (hx : NeverInvalid x)
    (hy : NeverInvalid y) : NeverInvalid (if p then x else y) := by
  split
  · exact hx
  · exact hy

/-- A caught failure is replaced by the handler, so only the handler's failures count. -/
protected theorem tryCatch {x : Op α} {h : ClientError → Op α} (hh : ∀ e, NeverInvalid (h e)) :
    NeverInvalid (tryCatch x h) := by
  intro c msg
  rw [exec_tryCatch]
  rcases exec x c with ⟨r, c'⟩
  cases r with
  | error e => exact hh e c' msg
  | ok a => simp

protected theorem forIn {γ : Type} {f : γ → PUnit → Op (ForInStep PUnit)}
    (hf : ∀ b u, NeverInvalid (f b u)) : ∀ (xs : List γ), NeverInvalid (forIn xs PUnit.unit f)
  | [] => NeverInvalid.pure _
  | x :: xs => by
    intro c msg
    rw [exec_forIn_cons]
    rcases hr : exec (f x PUnit.unit) c with ⟨r, c'⟩
    rcases r with e | (u | u)
    · have h := hf x PUnit.unit c msg
      rw [hr] at h
      simpa using h
    · simp
    · exact NeverInvalid.forIn hf xs c' msg

end NeverInvalid

/-! ### What follows the checks -/

theorem neverInvalid_pickSession (r : Option String) : NeverInvalid (pickSession r) := by
  unfold pickSession
  refine .bind .get fun c => ?_
  split
  · exact .throw fun _ => nofun
  · split
    · exact .throw fun _ => nofun
    · split
      refine .bind (.set _) fun _ => ?_
      split
      · exact .pure _
      · exact .throw fun _ => nofun

theorem neverInvalid_attachedTimeout : NeverInvalid attachedTimeout := by
  unfold attachedTimeout
  refine .bind .get fun c => ?_
  split
  · exact .pure _
  · exact .throw fun _ => nofun

theorem neverInvalid_onSession {α : Type} (g i : Nat)
    (f : Session → Session × Except TransportError α) : NeverInvalid (onSession g i f) := by
  unfold onSession
  refine .bind .get fun c => ?_
  split
  · exact .throw fun _ => nofun
  · split
    refine .bind (.set _) fun _ => ?_
    split
    · exact .pure _
    · exact .throw fun _ => nofun

theorem neverInvalid_request (g i : Nat) (ev : Event) (e : Entity) (t : Duration) :
    NeverInvalid (request g i ev e t) :=
  .bind .get fun _ => neverInvalid_onSession g i _

theorem neverInvalid_send (g i : Nat) (ev : Event) (e : Entity) : NeverInvalid (send g i ev e) :=
  neverInvalid_onSession g i _

theorem neverInvalid_confirmed (op : String) (answer : Entity) :
    NeverInvalid (confirmed op answer) := by
  intro c msg
  rw [exec_confirmed, ensureConfirmed]
  split <;> simp

theorem neverInvalid_broadcast (ps : List (Nat × Nat)) (ev : Event) (topic group : String) :
    NeverInvalid (broadcast ps ev topic group) := by
  unfold broadcast
  refine .bind (.forIn (fun p _ => ?_) ps) fun _ => .pure _
  split
  exact .bind .get fun c => .bind (neverInvalid_request _ _ _ _ _) fun a =>
    .bind (neverInvalid_confirmed _ a) fun _ => .pure _

/-- Opening a group fails only when the broker has no server; what its sessions answer to
their resubscribe is caught. -/
theorem neverInvalid_openGroup (urls : List String) (config : SessionConfig) :
    NeverInvalid (openGroup urls config) := by
  unfold openGroup sessionOpened
  refine .bind .get fun c => ?_
  split
  · exact .throw fun _ => nofun
  · refine .bind (.set _) fun _ => .bind (.forIn (fun _ _ => ?_) _) fun _ => .pure _
    exact .bind (.tryCatch fun _ => .pure _) fun _ => .pure _

theorem neverInvalid_settle (tmid : String) (keys : List String) (rollback : Bool) :
    NeverInvalid (settle tmid keys rollback) := by
  unfold settle
  split
  · exact .pure _
  · refine .bind (neverInvalid_pickSession _) fun p => ?_
    split
    exact .bind neverInvalid_attachedTimeout fun t => .bind (neverInvalid_request _ _ _ _ t)
      fun a => neverInvalid_confirmed _ a

theorem neverInvalid_disconnect : NeverInvalid disconnect := by
  unfold disconnect
  refine .bind .get fun c => ?_
  split
  · exact .pure _
  · exact .set _

/-! ### Checks -/

theorem exec_check_refused {v : String} (n : String) (h : ¬Topic.Valid v) (c : Client) :
    ∃ msg, exec (check v n) c = (.error (.invalid msg), c) := by
  obtain ⟨e, he⟩ := Topic.checkParam_error_of_not_valid (n := n) h
  rw [exec_check, he]
  exact ⟨_, rfl⟩

theorem exec_checkedSpace_valid {c : Client} (hns : ∀ ns ∈ c.space, Topic.Valid ns) :
    exec checkedSpace c = (.ok c.space, c) := by
  unfold checkedSpace
  rw [exec_bind, exec_get]
  dsimp only
  split
  · rename_i ns hs
    rw [exec_bind, exec_check_valid _ (hns ns hs)]
    rw [hs]
    rfl
  · rename_i hs
    rw [hs]
    rfl

theorem exec_checkedSpace_refused {c : Client} (hns : ¬∀ ns ∈ c.space, Topic.Valid ns) :
    ∃ msg, exec checkedSpace c = (.error (.invalid msg), c) := by
  rcases hs : c.space with _ | ns
  · simp [hs] at hns
  · have hnv : ¬Topic.Valid ns := fun hv => hns (by simpa [hs] using hv)
    obtain ⟨msg, hm⟩ := exec_check_refused "namespace" hnv c
    unfold checkedSpace
    rw [exec_bind, exec_get]
    dsimp only
    rw [hs]
    dsimp only
    rw [exec_bind, hm]
    exact ⟨msg, rfl⟩

theorem exec_qualify_refused (t : String) {c : Client} (hns : ¬∀ ns ∈ c.space, Topic.Valid ns) :
    ∃ msg, exec (qualify t) c = (.error (.invalid msg), c) := by
  obtain ⟨msg, hm⟩ := exec_checkedSpace_refused hns
  unfold qualify
  rw [exec_bind, hm]
  exact ⟨msg, rfl⟩

theorem exec_requireName_some {c : Client} {n : String} (h : c.name = some n) :
    exec requireName c = (.ok n, c) := by
  unfold requireName
  rw [exec_bind, exec_get]
  dsimp only
  rw [h]
  rfl

theorem exec_requireName_none {c : Client} (h : c.name = none) :
    exec requireName c = (.error (.invalid "client name is required"), c) := by
  unfold requireName
  rw [exec_bind, exec_get]
  dsimp only
  rw [h]
  rfl

theorem exec_endpoints_ok {urls : List String} (h : ∀ u ∈ urls, (Endpoint.resolve u).isOk = true)
    (c : Client) : ∃ eps, exec (endpoints urls) c = (.ok eps, c) := by
  induction urls with
  | nil => exact ⟨[], rfl⟩
  | cons u us ih =>
    obtain ⟨ep, hep⟩ : ∃ ep, Endpoint.resolve u = .ok ep := by
      have hu := h u List.mem_cons_self
      cases hr : Endpoint.resolve u with
      | error err => simp [hr, Except.isOk, Except.toBool] at hu
      | ok ep => exact ⟨ep, rfl⟩
    obtain ⟨eps, heps⟩ := ih fun v hv => h v (List.mem_cons_of_mem u hv)
    unfold endpoints at heps ⊢
    rw [List.mapM_cons, exec_bind, hep]
    dsimp only
    rw [exec_pure]
    dsimp only
    rw [exec_bind, heps]
    exact ⟨ep :: eps, rfl⟩

theorem exec_endpoints_refused {urls : List String}
    (h : ¬∀ u ∈ urls, (Endpoint.resolve u).isOk = true) (c : Client) :
    ∃ msg, exec (endpoints urls) c = (.error (.invalid msg), c) := by
  induction urls with
  | nil => simp at h
  | cons u us ih =>
    unfold endpoints at ih ⊢
    rw [List.mapM_cons, exec_bind]
    cases hr : Endpoint.resolve u with
    | error err => exact ⟨_, rfl⟩
    | ok ep =>
      -- the first url resolves, so a later one does not
      have hus : ¬∀ v ∈ us, (Endpoint.resolve v).isOk = true := by
        intro hus
        apply h
        intro v hv
        rcases List.mem_cons.1 hv with rfl | hv
        · simp [hr, Except.isOk, Except.toBool]
        · exact hus v hv
      obtain ⟨msg, hm⟩ := ih hus
      dsimp only
      rw [exec_pure]
      dsimp only
      rw [exec_bind, hm]
      exact ⟨msg, rfl⟩

/-! ### Calls whose checks come first -/

/-- A call whose checks come first: when they pass (`P`), it goes on as an operation that never
fails as invalid; when they fail, it is refused as invalid and changes nothing. -/
def ChecksFirst {α : Type} (x : Op α) (c : Client) (P : Prop) : Prop :=
  (P → ∃ (y : Op α) (c' : Client), exec x c = exec y c' ∧ NeverInvalid y) ∧
    (¬P → ∃ msg, exec x c = (.error (.invalid msg), c))

namespace ChecksFirst

variable {α β : Type} {x : Op α} {c : Client} {P : Prop}

/-- **Checks first.** A call is refused as invalid exactly when its checks fail, and a refused
call leaves the client as it was. -/
theorem refused_iff (h : ChecksFirst x c P) :
    ((∃ msg, (exec x c).1 = .error (.invalid msg)) ↔ ¬P) ∧
      ∀ msg, (exec x c).1 = .error (.invalid msg) → (exec x c).2 = c := by
  by_cases hp : P
  · obtain ⟨y, c', hxy, hy⟩ := h.1 hp
    -- past the checks nothing refuses the call
    have hnone : ∀ msg, (exec x c).1 ≠ .error (.invalid msg) := fun msg => hxy ▸ hy c' msg
    exact ⟨⟨fun ⟨msg, hm⟩ => absurd hm (hnone msg), fun hn => absurd hp hn⟩,
      fun msg hm => absurd hm (hnone msg)⟩
  · obtain ⟨msg, hm⟩ := h.2 hp
    rw [hm]
    exact ⟨⟨fun _ => hp, fun _ => ⟨msg, rfl⟩⟩, fun _ _ => rfl⟩

theorem pass {y : Op α} {c' : Client} (hp : P) (h : exec x c = exec y c') (hy : NeverInvalid y) :
    ChecksFirst x c P :=
  ⟨fun _ => ⟨y, c', h, hy⟩, fun hn => absurd hp hn⟩

theorem of_neverInvalid (hp : P) (hx : NeverInvalid x) : ChecksFirst x c P := pass hp rfl hx

theorem refuse {msg : String} (hp : ¬P) (h : exec x c = (.error (.invalid msg), c)) :
    ChecksFirst x c P :=
  ⟨fun h' => absurd h' hp, fun _ => ⟨msg, h⟩⟩

theorem bind_ok {f : α → Op β} {a : α} (hx : exec x c = (.ok a, c))
    (hf : ChecksFirst (f a) c P) : ChecksFirst (x >>= f) c P := by
  have h : exec (x >>= f) c = exec (f a) c := by rw [exec_bind, hx]
  unfold ChecksFirst
  rw [h]
  exact hf

theorem bind_refused {f : α → Op β} {msg : String} (hp : ¬P)
    (hx : exec x c = (.error (.invalid msg), c)) : ChecksFirst (x >>= f) c P :=
  refuse hp (by rw [exec_bind, hx])

theorem bind_neverInvalid {f : α → Op β} (h : ChecksFirst x c P) (hf : ∀ a, NeverInvalid (f a)) :
    ChecksFirst (x >>= f) c P := by
  refine ⟨fun hp => ?_, fun hn => ?_⟩
  · obtain ⟨y, c', hxy, hy⟩ := h.1 hp
    exact ⟨y >>= f, c', by rw [exec_bind, exec_bind, hxy], .bind hy hf⟩
  · obtain ⟨msg, hm⟩ := h.2 hn
    exact ⟨msg, by rw [exec_bind, hm]⟩

end ChecksFirst

/-! ### The checks of each call -/

theorem checksFirst_connect (c : Client) :
    ChecksFirst connect c (c.isConnected = true ∨ (c.urls ≠ [] ∧
      (∀ ns ∈ c.space, Topic.Valid ns) ∧ ∀ u ∈ c.urls, (Endpoint.resolve u).isOk = true)) := by
  unfold connect
  refine .bind_ok (exec_get c) ?_
  dsimp only
  by_cases hconn : c.isConnected = true
  · -- a connected client has nothing to check
    rw [if_pos hconn]
    exact .of_neverInvalid (.inl hconn) (.pure _)
  rw [if_neg hconn]
  have hv : ∀ P : Prop, ¬P → ¬(c.isConnected = true ∨ P) := fun _ hp h => h.elim hconn hp
  by_cases hu : c.urls.isEmpty = true
  · rw [if_pos hu]
    exact .refuse (hv _ fun h => h.1 (List.isEmpty_iff.1 hu)) rfl
  rw [if_neg hu]
  by_cases hns : ∀ ns ∈ c.space, Topic.Valid ns
  · refine .bind_ok (exec_checkedSpace_valid hns) ?_
    by_cases hep : ∀ u ∈ c.urls, (Endpoint.resolve u).isOk = true
    · obtain ⟨eps, heps⟩ := exec_endpoints_ok hep c
      refine .bind_ok heps (.of_neverInvalid (.inr ⟨?_, hns, hep⟩) ?_)
      · simpa using hu
      · exact .bind (neverInvalid_openGroup _ _) fun _ => .modify _
    · obtain ⟨msg, hm⟩ := exec_endpoints_refused hep c
      exact .bind_refused (hv _ fun h => hep h.2.2) hm
  · obtain ⟨msg, hm⟩ := exec_checkedSpace_refused hns
    exact .bind_refused (hv _ fun h => hns h.2.1) hm

theorem checksFirst_subscribe (t : String) (g? : Option String) (a? : Option Bool) (hd : Handler)
    (c : Client) : ChecksFirst (subscribe t g? a? hd) c ((c.target? t g?).isSome = true) := by
  rcases h : c.target? t g? with _ | ⟨full, grp⟩
  · obtain ⟨msg, hm⟩ := exec_subscribe_none a? hd h
    exact .refuse (by simp) hm
  · exact .pass rfl (exec_subscribe_some a? hd h) (neverInvalid_broadcast _ _ _ _)

theorem checksFirst_unsubscribe (t : String) (g? : Option String) (c : Client) :
    ChecksFirst (unsubscribe t g?) c ((c.target? t g?).isSome = true) := by
  rcases h : c.target? t g? with _ | ⟨full, grp⟩
  · obtain ⟨msg, hm⟩ := exec_unsubscribe_none h
    exact .refuse (by simp) hm
  · exact .pass rfl (exec_unsubscribe_some h) (neverInvalid_broadcast _ _ _ _)

theorem checksFirst_checkTopicKey {β : Type} {t k : String} (f : String → Op β) {c : Client}
    (hf : NeverInvalid (f (Topic.full (c.space.getD "") t))) :
    ChecksFirst (do
      check t "topic"
      check k "key"
      let full ← qualify t
      f full) c (Topic.Valid t ∧ Topic.Valid k ∧ ∀ ns ∈ c.space, Topic.Valid ns) := by
  by_cases ht : Topic.Valid t
  · refine .bind_ok (exec_check_valid _ ht c) ?_
    by_cases hk : Topic.Valid k
    · refine .bind_ok (exec_check_valid _ hk c) ?_
      by_cases hns : ∀ ns ∈ c.space, Topic.Valid ns
      · exact .bind_ok (exec_qualify_valid t hns) (.of_neverInvalid ⟨ht, hk, hns⟩ hf)
      · obtain ⟨msg, hm⟩ := exec_qualify_refused t hns
        exact .bind_refused (fun h => hns h.2.2) hm
    · obtain ⟨msg, hm⟩ := exec_check_refused "key" hk c
      exact .bind_refused (fun h => hk h.2.1) hm
  · obtain ⟨msg, hm⟩ := exec_check_refused "topic" ht c
    exact .bind_refused (fun h => ht h.1) hm

theorem checksFirst_publish (t : String) (m : Message) (c : Client) :
    ChecksFirst (publish t m) c
      (Topic.Valid t ∧ Topic.Valid m.key ∧ ∀ ns ∈ c.space, Topic.Valid ns) := by
  unfold publish
  refine checksFirst_checkTopicKey _ ?_
  -- past the checks: a pick, then a confirmed request or a send
  refine .bind (neverInvalid_pickSession _) fun p => ?_
  split
  split
  · exact .bind neverInvalid_attachedTimeout fun _ => .bind (neverInvalid_request _ _ _ _ _)
      fun a => neverInvalid_confirmed _ a
  · exact neverInvalid_send _ _ _ _

theorem checksFirst_unpublish (t key : String) (c : Client) :
    ChecksFirst (unpublish t key) c
      (Topic.Valid t ∧ Topic.Valid key ∧ ∀ ns ∈ c.space, Topic.Valid ns) := by
  unfold unpublish
  refine checksFirst_checkTopicKey _ ?_
  refine .bind (neverInvalid_pickSession _) fun p => ?_
  split
  exact .bind neverInvalid_attachedTimeout fun _ => .bind (neverInvalid_request _ _ _ _ _)
    fun a => neverInvalid_confirmed _ a

/-- A send to another client needs the client's name and a valid addressee; past them, a failed
answer is a failed confirmation. -/
theorem checksFirst_sendTo (m : Message) (peer : String) (timeout : Option Duration)
    (c : Client) : ChecksFirst (sendTo m peer timeout) c (c.name.isSome = true ∧ Topic.Valid peer) := by
  unfold sendTo
  rcases hn : c.name with _ | n
  · exact .bind_refused (by simp) (exec_requireName_none hn)
  refine .bind_ok (exec_requireName_some hn) ?_
  by_cases hp : Topic.Valid peer
  · refine .bind_ok (exec_check_valid _ hp c) (.of_neverInvalid ⟨rfl, hp⟩ ?_)
    refine .bind (neverInvalid_pickSession _) fun p => ?_
    split
    dsimp only
    split
    · -- the time limit, the request, and the answer's acknowledgement
      split <;> refine .bind ?_ fun t => .bind (neverInvalid_request _ _ _ _ t) fun a =>
        .ite (.bind (.throw fun _ => nofun) fun _ => .pure _) (.pure _)
      · exact .pure _
      · exact neverInvalid_attachedTimeout
    · exact .bind (neverInvalid_send _ _ _ _) fun _ => .pure _
  · obtain ⟨msg, hm⟩ := exec_check_refused "toName" hp c
    exact .bind_refused (fun h => hp h.2) hm

theorem checksFirst_requireName {α : Type} {f : String → Op α} (hf : ∀ n, NeverInvalid (f n))
    (c : Client) : ChecksFirst (requireName >>= f) c (c.name.isSome = true) := by
  rcases hn : c.name with _ | n
  · exact .bind_refused (by simp) (exec_requireName_none hn)
  · exact .bind_ok (exec_requireName_some hn) (.of_neverInvalid rfl (hf n))

theorem checksFirst_listen (h : Handler) (c : Client) :
    ChecksFirst (listen h) c (c.name.isSome = true) :=
  checksFirst_requireName (fun _ => .modify _) c

theorem checksFirst_beginTransaction (tmid : String) (c : Client) :
    ChecksFirst (beginTransaction tmid) c (c.name.isSome = true) :=
  checksFirst_requireName (fun _ => .pure _) c

end Op

/-! ### Calls of the client -/

/-- A call of the client's interface, with its arguments. -/
inductive Call where
  | connect
  | disconnect
  | subscribe (topic : String) (group : Option String) (autoAck : Option Bool) (handler : Handler)
  | unsubscribe (topic : String) (group : Option String)
  | publish (topic : String) (message : Message)
  | unpublish (topic key : String)
  | sendTo (peer : String) (message : Message) (timeout : Option Duration)
  | listen (handler : Handler)
  | checkback (handler : Handler)
  | newTransaction (tmid : String)
  | commit (transaction : Transaction)
  | rollback (transaction : Transaction)

namespace Call

/-- The operation of a call, its result dropped. -/
def op : Call → Op Unit
  | .connect => Op.connect
  | .disconnect => Op.disconnect
  | .subscribe t g a h => Op.subscribe t g a h
  | .unsubscribe t g => Op.unsubscribe t g
  | .publish t m => Op.publish t m
  | .unpublish t k => Op.unpublish t k
  | .sendTo p m t => do
    let _ ← Op.sendTo m p t
    pure ()
  | .listen h => Op.listen h
  | .checkback h => Op.onCheckback h
  | .newTransaction tmid => do
    let _ ← Op.beginTransaction tmid
    pure ()
  | .commit t => Op.commit t
  | .rollback t => Op.rollback t

/-- What a call asks of its arguments and of the client before it does anything. A connect from
a detached client needs broker urls, a valid namespace and urls that all resolve; a subscribe or
an unsubscribe needs a target (`Client.target?`); a publish or an unpublish needs a valid topic,
key and namespace; a send needs the client's name and a valid addressee; a listen or a new
transaction needs the client's name. The other calls ask nothing. -/
def Valid (c : Client) : Call → Prop
  | .connect => c.isConnected = true ∨ (c.urls ≠ [] ∧ (∀ ns ∈ c.space, Topic.Valid ns) ∧
      ∀ u ∈ c.urls, (Endpoint.resolve u).isOk = true)
  | .disconnect => True
  | .subscribe t g _ _ => (c.target? t g).isSome = true
  | .unsubscribe t g => (c.target? t g).isSome = true
  | .publish t m => Topic.Valid t ∧ Topic.Valid m.key ∧ ∀ ns ∈ c.space, Topic.Valid ns
  | .unpublish t k => Topic.Valid t ∧ Topic.Valid k ∧ ∀ ns ∈ c.space, Topic.Valid ns
  | .sendTo p _ _ => c.name.isSome = true ∧ Topic.Valid p
  | .listen _ => c.name.isSome = true
  | .checkback _ => True
  | .newTransaction _ => c.name.isSome = true
  | .commit _ => True
  | .rollback _ => True

instance (c : Client) : (call : Call) → Decidable (call.Valid c)
  | .connect => inferInstanceAs (Decidable (_ ∨ _))
  | .disconnect => inferInstanceAs (Decidable True)
  | .subscribe _ _ _ _ => inferInstanceAs (Decidable (_ = true))
  | .unsubscribe _ _ => inferInstanceAs (Decidable (_ = true))
  | .publish _ _ => inferInstanceAs (Decidable (_ ∧ _))
  | .unpublish _ _ => inferInstanceAs (Decidable (_ ∧ _))
  | .sendTo _ _ _ => inferInstanceAs (Decidable (_ ∧ _))
  | .listen _ => inferInstanceAs (Decidable (_ = true))
  | .checkback _ => inferInstanceAs (Decidable True)
  | .newTransaction _ => inferInstanceAs (Decidable (_ = true))
  | .commit _ => inferInstanceAs (Decidable True)
  | .rollback _ => inferInstanceAs (Decidable True)

/-- Every call checks first, by its own checks. -/
theorem checksFirst (c : Client) : ∀ call : Call, Op.ChecksFirst call.op c (call.Valid c)
  | .connect => Op.checksFirst_connect c
  | .disconnect => .of_neverInvalid trivial Op.neverInvalid_disconnect
  | .subscribe t g a h => Op.checksFirst_subscribe t g a h c
  | .unsubscribe t g => Op.checksFirst_unsubscribe t g c
  | .publish t m => Op.checksFirst_publish t m c
  | .unpublish t k => Op.checksFirst_unpublish t k c
  | .sendTo p m t => (Op.checksFirst_sendTo m p t c).bind_neverInvalid fun _ => .pure _
  | .listen h => Op.checksFirst_listen h c
  | .checkback _ => .of_neverInvalid trivial (.modify _)
  | .newTransaction tmid => (Op.checksFirst_beginTransaction tmid c).bind_neverInvalid
      fun _ => .pure _
  | .commit _ => .of_neverInvalid trivial (Op.neverInvalid_settle _ _ _)
  | .rollback _ => .of_neverInvalid trivial (Op.neverInvalid_settle _ _ _)

end Call

/-- **Checks come first.** From any client, a call is refused as invalid exactly when its checks
fail, and a refused call leaves the client exactly as it was. -/
theorem refused_exactly_when_invalid (call : Call) (c : Client) :
    ((∃ msg, (Op.exec call.op c).1 = .error (.invalid msg)) ↔ ¬call.Valid c) ∧
      ∀ msg, (Op.exec call.op c).1 = .error (.invalid msg) → (Op.exec call.op c).2 = c :=
  (call.checksFirst c).refused_iff

/-- A publish on an empty topic from a detached client is refused as invalid, not for want of a
connection, and changes nothing. -/
theorem refused_exactly_when_invalid_example :
    let c : Client := { urls := [], hub := { width := 1, groups := [] } }
    let call := Call.publish "" (Message.create "m1" [])
    ¬call.Valid c ∧ ∃ msg, Op.exec call.op c = (.error (.invalid msg), c) := by
  intro c call
  have hn : ¬call.Valid c := by decide
  obtain ⟨msg, hm⟩ := (refused_exactly_when_invalid call c).1.2 hn
  exact ⟨hn, msg, Prod.ext hm ((refused_exactly_when_invalid call c).2 msg hm)⟩

end BrokerClient
