import BrokerClient.Proofs.Diversion
/-!
Transmission. A pick fails as not connected exactly when the client is detached, and for want of
a session exactly when the attached group has no open session; a failed pick leaves the client
as it was (`Op.exec_pickSession_error`).

A call that sends and passes its checks comes to one of two ends (`Op.Transmits`): its pick
fails, and the call fails as the pick did and changes nothing; or the pick finds an open session
of the attached group, and the call records its one frame there (`Call.frame?`) and ends in
success or in a failure about the answer, never in one about finding a session
(`Call.transmits`). Publishes, unpublishes, sends to another client, and commits and rollbacks
with keys all do so (`Call.SendsOne`).
-/

namespace BrokerClient

/-! ### Groups without an open session -/

/-- No session of group `g` is open. -/
def Hub.NoneOpen (h : Hub) (g : Nat) : Prop :=
  ∀ i s, h.session? g i = some s → s.valid = false

namespace Group

theorem pick_of_openIndices_nil {g : Group} (h : g.openIndices = []) (r : Option String) :
    g.pick r = (g, none) := by
  simp [pick, h]

theorem pick_snd_eq_none {g : Group} {r : Option String} :
    (g.pick r).2 = none ↔ g.openIndices = [] := by
  refine ⟨fun hp => Classical.byContradiction fun hne => ?_, fun h => by
    rw [pick_of_openIndices_nil h]⟩
  -- an index taken modulo the number of open sessions stands among them
  have hlt : ∀ k, k % g.openIndices.length < g.openIndices.length :=
    fun k => Nat.mod_lt _ (List.length_pos_iff.2 hne)
  cases r with
  | some key =>
    rw [pick_some, List.getElem?_eq_none_iff] at hp
    exact absurd hp (Nat.not_le.2 (hlt _))
  | none =>
    rw [pick_none, if_neg (by simpa using hne), List.getElem?_eq_none_iff] at hp
    exact absurd hp (Nat.not_le.2 (hlt _))

end Group

namespace Hub

theorem noneOpen_iff {h : Hub} {g : Nat} {grp : Group} (hg : h.group? g = some grp) :
    h.NoneOpen g ↔ grp.openIndices = [] := by
  rw [List.eq_nil_iff_forall_not_mem]
  simp only [NoneOpen, Group.mem_openIndices, session?, hg, Option.bind_some, not_exists,
    not_and, Bool.not_eq_true]

theorem noneOpen_of_group?_none {h : Hub} {g : Nat} (hg : h.group? g = none) : h.NoneOpen g := by
  intro i s hs
  simp [session?, hg] at hs

theorem updateGroup_of_group? {h : Hub} {g : Nat} {grp : Group} (hg : h.group? g = some grp) :
    h.updateGroup g (fun _ => grp) = h := by
  have hg' : h.groups[g]? = some grp := hg
  simp only [updateGroup]
  congr 1
  apply List.ext_getElem?
  intro j
  rw [List.getElem?_modify]
  by_cases hgj : g = j
  · subst hgj
    simp [hg']
  · simp [hgj]

end Hub

namespace Op

/-! ### Picks that fail -/

theorem exec_pickSession_detached (r : Option String) {c : Client} (ha : c.attached = none) :
    exec (pickSession r) c = (.error .notConnected, c) := by
  unfold pickSession
  rw [exec_bind, exec_get]
  simp [ha]

theorem exec_pickSession_noneOpen (r : Option String) {c : Client} {a : Attachment}
    (ha : c.attached = some a) (hn : c.hub.NoneOpen a.group) :
    exec (pickSession r) c = (.error .noSession, c) := by
  rcases hg : c.hub.group? a.group with _ | grp
  · unfold pickSession
    rw [exec_bind, exec_get]
    simp only [ha]
    have hg' : c.hub.groups[a.group]? = none := hg
    simp [Hub.group?, hg']
  · rw [exec_pickSession ha hg, Group.pick_of_openIndices_nil ((Hub.noneOpen_iff hg).1 hn),
      Hub.updateGroup_of_group? hg]

theorem exists_pickSession_ok (r : Option String) {c : Client} {a : Attachment}
    (ha : c.attached = some a) (hn : ¬c.hub.NoneOpen a.group) :
    ∃ i c₁, exec (pickSession r) c = (.ok (a.group, i), c₁) := by
  rcases hg : c.hub.group? a.group with _ | grp
  · exact absurd (Hub.noneOpen_of_group?_none hg) hn
  have hopen : grp.openIndices ≠ [] := fun h => hn ((Hub.noneOpen_iff hg).2 h)
  obtain ⟨i, hi⟩ := Option.ne_none_iff_exists'.1 (mt Group.pick_snd_eq_none.1 hopen)
  rw [exec_pickSession ha hg, hi]
  exact ⟨i, _, rfl⟩

/-- **Failed picks.** A pick fails as not connected exactly when the client is detached, and for
want of a session exactly when the attached group has no open session; a failed pick leaves the
client as it was. -/
theorem exec_pickSession_error {r : Option String} {c c₁ : Client} {e : ClientError}
    (h : exec (pickSession r) c = (.error e, c₁)) :
    c₁ = c ∧ (e = .notConnected ∧ c.attached = none ∨
      e = .noSession ∧ ∃ a, c.attached = some a ∧ c.hub.NoneOpen a.group) := by
  rcases ha : c.attached with _ | a
  · rw [exec_pickSession_detached r ha] at h
    simp only [Prod.mk.injEq, Except.error.injEq] at h
    exact ⟨h.2.symm, .inl ⟨h.1.symm, rfl⟩⟩
  by_cases hn : c.hub.NoneOpen a.group
  · rw [exec_pickSession_noneOpen r ha hn] at h
    simp only [Prod.mk.injEq, Except.error.injEq] at h
    exact ⟨h.2.symm, .inr ⟨h.1.symm, a, rfl, hn⟩⟩
  · obtain ⟨i, c', hok⟩ := exists_pickSession_ok r ha hn
    rw [hok] at h
    cases h

/-! ### Calls that send one frame -/

/-- What a call that sends, its checks passed, comes to when it picks by `r` and carries `o`:
either the pick fails, and the call fails as the pick did and leaves the client as it was; or the
pick finds a session, and the call records `o` there and ends in success or in a failure that is
not about finding a session. -/
inductive Transmits (c : Client) (r : Option String) (o : Outbound) :
    Except ClientError Unit × Client → Prop
  | unpicked {e : ClientError} :
      exec (pickSession r) c = (.error e, c) → Transmits c r o (.error e, c)
  | sent {g i : Nat} {c₁ : Client} {res : Except ClientError Unit} :
      exec (pickSession r) c = (.ok (g, i), c₁) → res ≠ .error .notConnected →
      res ≠ .error .noSession → Transmits c r o (res, c₁.recordAt g i o)

theorem confirmOutcome_ne {op : String} {t : Duration} {answer : Option Entity} :
    confirmOutcome op t answer ≠ .error .notConnected ∧
      confirmOutcome op t answer ≠ .error .noSession := by
  unfold confirmOutcome
  split
  · split <;> simp
  · simp

/-- An operation whose pick by `r` fails as the pick did, leaving the client as it was, and which
otherwise records `o` on the session picked with a result not about finding a session, transmits
`o`. -/
theorem Transmits.of_pick {x : Op Unit} {c : Client} {r : Option String} {o : Outbound}
    (herr : ∀ e, exec (pickSession r) c = (.error e, c) → exec x c = (.error e, c))
    (hok : ∀ g i c₁, exec (pickSession r) c = (.ok (g, i), c₁) →
      (exec x c).2 = c₁.recordAt g i o ∧ (exec x c).1 ≠ .error .notConnected ∧
        (exec x c).1 ≠ .error .noSession) :
    Transmits c r o (exec x c) := by
  rcases hpick : exec (pickSession r) c with ⟨e | ⟨g, i⟩, c₁⟩
  · obtain rfl := (exec_pickSession_error hpick).1
    rw [herr e hpick]
    exact .unpicked hpick
  · obtain ⟨hst, hnc, hns⟩ := hok g i c₁ hpick
    rcases hx : exec x c with ⟨res, c'⟩
    rw [hx] at hst hnc hns
    dsimp only at hst hnc hns
    rw [hst]
    exact .sent hpick hnc hns

end Op

/-- The frame of a quality of service: a request that waits for its answer when confirmed, a
plain send otherwise. -/
def Qos.frame : Qos → Event → Entity → Outbound
  | .atLeastOnce, ev, e => .request ev e
  | .atMostOnce, ev, e => .send ev e

namespace Op

theorem transmits_publish {t : String} {m : Message} {c : Client}
    (hv : Topic.Valid t ∧ Topic.Valid m.key ∧ ∀ ns ∈ c.space, Topic.Valid ns) :
    Transmits c (m.routingKey (Topic.full (c.space.getD "") t))
      (m.qos.frame .publish (m.publishEntity (Topic.full (c.space.getD "") t)))
      (exec (publish t m) c) := by
  refine Transmits.of_pick (fun e hpick => ?_) (fun g i c₁ hpick => ?_)
  · unfold publish
    rw [exec_checkTopicKey _ hv.1 hv.2.1 hv.2.2, exec_bind, hpick]
  · obtain ⟨a, -, ha, -⟩ := exec_pickSession_ok hpick
    obtain ⟨s, hs, -⟩ := valid_of_pickSession hpick
    rw [exec_publish hv.1 hv.2.1 hv.2.2 ha hpick hs]
    cases m.qos with
    | atLeastOnce => exact ⟨rfl, confirmOutcome_ne⟩
    | atMostOnce => exact ⟨rfl, by simp, by simp⟩

theorem transmits_unpublish {t key : String} {c : Client}
    (hv : Topic.Valid t ∧ Topic.Valid key ∧ ∀ ns ∈ c.space, Topic.Valid ns) :
    Transmits c none (.request .unpublish (({} : Entity).put Meta.topic
      (Topic.full (c.space.getD "") t) |>.put Meta.key key |>.addressTo Meta.serverAll))
      (exec (unpublish t key) c) := by
  refine Transmits.of_pick (fun e hpick => ?_) (fun g i c₁ hpick => ?_)
  · unfold unpublish
    rw [exec_checkTopicKey _ hv.1 hv.2.1 hv.2.2, exec_bind, hpick]
  · obtain ⟨a, -, ha, -⟩ := exec_pickSession_ok hpick
    obtain ⟨s, hs, -⟩ := valid_of_pickSession hpick
    rw [exec_unpublish hv.1 hv.2.1 hv.2.2 ha hpick hs]
    exact ⟨rfl, confirmOutcome_ne⟩

theorem sendOutcome_map_ne {t : Duration} {answer : Option Entity} (f : Option Entity → Unit) :
    (sendOutcome t answer).map f ≠ .error .notConnected ∧
      (sendOutcome t answer).map f ≠ .error .noSession := by
  unfold sendOutcome
  split
  · split <;> simp [Except.map]
  · simp [Except.map]

theorem transmits_settle {tmid : String} {keys : List String} (rollback : Bool) {c : Client}
    (hk : keys ≠ []) :
    Transmits c (some tmid) (.request .publish2 (settleEntity keys rollback))
      (exec (settle tmid keys rollback) c) := by
  refine Transmits.of_pick (fun e hpick => ?_) (fun g i c₁ hpick => ?_)
  · unfold settle
    rw [if_neg (by simpa using hk), exec_bind, hpick]
  · obtain ⟨a, -, ha, -⟩ := exec_pickSession_ok hpick
    obtain ⟨s, hs, -⟩ := valid_of_pickSession hpick
    rw [exec_settle rollback hk ha hpick hs]
    exact ⟨rfl, confirmOutcome_ne⟩

end Op

namespace Call

/-- The calls that send exactly one frame once their checks pass and a session is found:
publishes, unpublishes, sends to another client, and commits and rollbacks of transactions with
keys. -/
def SendsOne : Call → Prop
  | .publish _ _ | .unpublish _ _ | .sendTo _ _ _ => True
  | .commit tx | .rollback tx => tx.keys ≠ []
  | _ => False

/-- The frame a call that sends carries, made on client `c`; a send to another client needs the
client's name. -/
def frame? (c : Client) : Call → Option Outbound
  | .publish t m => some (m.qos.frame .publish (m.publishEntity (Topic.full (c.space.getD "") t)))
  | .unpublish t k => some (.request .unpublish (({} : Entity).put Meta.topic
      (Topic.full (c.space.getD "") t) |>.put Meta.key k |>.addressTo Meta.serverAll))
  | .sendTo p m _ => c.name.map fun n =>
      m.qos.frame .request (((m.sentBy n).publishEntity "").put Meta.group p |>.addressTo p)
  | .commit tx => some (.request .publish2 (Op.settleEntity tx.keys false))
  | .rollback tx => some (.request .publish2 (Op.settleEntity tx.keys true))
  | _ => none

theorem transmits_sendTo {p : String} {m : Message} {t : Option Duration} {c : Client}
    {n : String} (hn : c.name = some n) (hp : Topic.Valid p) :
    Op.Transmits c none
      (m.qos.frame .request (((m.sentBy n).publishEntity "").put Meta.group p |>.addressTo p))
      (Op.exec (sendTo p m t).op c) := by
  -- the answer of the send is dropped
  have hd : Op.exec (sendTo p m t).op c =
      ((Op.exec (Op.sendTo m p t) c).1.map fun _ => (), (Op.exec (Op.sendTo m p t) c).2) := by
    simp only [op, Op.exec_bind]
    rcases Op.exec (Op.sendTo m p t) c with ⟨_ | _, c'⟩ <;> rfl
  refine Op.Transmits.of_pick (fun e hpick => ?_) (fun g i c₁ hpick => ?_) <;> rw [hd]
  · unfold Op.sendTo Op.requireName
    simp only [Op.exec_bind, Op.exec_get, hn, Op.exec_pure, Op.exec_check_valid _ hp, hpick]
    rfl
  · obtain ⟨a, -, ha, -⟩ := Op.exec_pickSession_ok hpick
    obtain ⟨s, hs, -⟩ := Op.valid_of_pickSession hpick
    cases hq : m.qos with
    | atLeastOnce =>
      rw [Op.exec_sendTo_atLeastOnce hq hn hp ha hpick hs]
      exact ⟨rfl, Op.sendOutcome_map_ne _⟩
    | atMostOnce =>
      rw [Op.exec_sendTo_atMostOnce hq hn hp hpick hs]
      exact ⟨rfl, by simp [Except.map], by simp [Except.map]⟩

/-- **Transmission.** A call that sends one frame and passes its checks either fails as its pick
failed, leaving the client as it was, or records its frame on the session picked and ends in a
result that is not about finding a session. -/
theorem transmits {call : Call} (hs : call.SendsOne) {c : Client} (hv : call.Valid c) :
    ∃ o, call.frame? c = some o ∧ Op.Transmits c (call.pickKey c) o (Op.exec call.op c) := by
  cases call with
  | publish t m => exact ⟨_, rfl, Op.transmits_publish hv⟩
  | unpublish t k => exact ⟨_, rfl, Op.transmits_unpublish hv⟩
  | sendTo p m t =>
    obtain ⟨n, hn⟩ := Option.isSome_iff_exists.1 hv.1
    exact ⟨_, by simp [frame?, hn], transmits_sendTo hn hv.2⟩
  | commit tx => exact ⟨_, rfl, Op.transmits_settle false hs⟩
  | rollback tx => exact ⟨_, rfl, Op.transmits_settle true hs⟩
  | _ => cases hs

end Call

end BrokerClient
