import BrokerClient.Proofs.Transmission
import BrokerClient.Proofs.Metas
import BrokerClient.Proofs.Utf8
/-!
# Settling a transaction

A transaction records the key of every message bound to it, in the order of binding
(`Transaction.keys_bindAll`). Committing or rolling it back without keys does nothing at all,
attached or not (`Op.exec_settle_nil`); with keys it is one request on the session its id picks
in the attached group, and on no other (`Op.exec_settle_picked`). That request is addressed to
the copy of the broker that holds the transaction, says whether it rolls back, and carries the
keys joined by commas, which the broker reads back by splitting at the commas
(`Entity.settledKeys`). The split gives the keys exactly when none of them holds a comma
(`Op.settledKeys_settleEntity`), as no key that the parameter check accepts does; a key with a
comma is read as several (`settle_splits_comma_key`).
-/

namespace BrokerClient

/-! ## Binding messages -/

namespace Transaction

/-- The transaction after binding messages to it, one after another. -/
def bindAll (tx : Transaction) (ms : List Message) : Transaction :=
  ms.foldl (fun t m => (t.bind m).1) tx

@[simp] theorem tmid_bindAll (tx : Transaction) (ms : List Message) :
    (tx.bindAll ms).tmid = tx.tmid := by
  induction ms generalizing tx with
  | nil => rfl
  | cons m ms ih => exact ih _

/-- Binding keeps the keys bound before and adds each message's key, in order. -/
theorem keys_bindAll (tx : Transaction) (ms : List Message) :
    (tx.bindAll ms).keys = tx.keys ++ ms.map Message.key := by
  induction ms generalizing tx with
  | nil => simp [bindAll]
  | cons m ms ih =>
    rw [bindAll, List.foldl_cons, ← bindAll, ih]
    simp [bind, Message.inTransaction]

end Transaction

theorem Group.pick_some_of_openIndices {grp : Group} {i : Nat} (h : grp.openIndices = [i])
    (key : String) : (grp.pick (some key)).2 = some i := by
  rw [Group.pick_some, h, List.length_singleton, Nat.mod_one]
  rfl

/-- The keys a broker reads from a settling request: the text of its body, split at every
comma. -/
def Entity.settledKeys (e : Entity) : List String :=
  (e.text.split ',').toList.map String.Slice.copy

namespace Op

/-! ## The settling request -/

theorem text_settleEntity (keys : List String) (rollback : Bool) :
    (settleEntity keys rollback).text = ",".intercalate keys := by
  simp [settleEntity, Entity.addressTo, Entity.text, Entity.ofText, Text.Utf8.lossyText_encode]

/-- Splitting at the commas gives back keys free of commas. -/
theorem settledKeys_settleEntity {keys : List String} (rollback : Bool) (hk : keys ≠ [])
    (hc : ∀ k ∈ keys, ',' ∉ k.toList) :
    (settleEntity keys rollback).settledKeys = keys := by
  rw [Entity.settledKeys, text_settleEntity, show "," = String.singleton ',' from rfl,
    String.toList_split_intercalate hc, if_neg hk]

theorem meta?_settleEntity_rollback (keys : List String) (rollback : Bool) :
    (settleEntity keys rollback).meta? Meta.rollback = some (if rollback then "1" else "0") := by
  simp [settleEntity, Entity.addressTo, Entity.meta?_put, Meta.rollback, Meta.target]

theorem meta?_settleEntity_target (keys : List String) (rollback : Bool) :
    (settleEntity keys rollback).meta? Meta.target = some Meta.serverHash := by
  simp [settleEntity, Entity.addressTo, Entity.meta?_put]

/-! ## Runs of a settle -/

theorem exec_settle_nil (tmid : String) (rollback : Bool) (c : Client) :
    exec (settle tmid [] rollback) c = (.ok (), c) := by
  simp [settle]

theorem exec_pickSession_some {tmid : String} {c : Client} {a : Attachment} {grp : Group}
    (ha : c.attached = some a) (hg : c.hub.group? a.group = some grp) :
    exec (pickSession (some tmid)) c =
      ((match (grp.pick (some tmid)).2 with
        | some i => .ok (a.group, i)
        | none => .error .noSession), c) := by
  rw [exec_pickSession ha hg]
  -- the pick puts back the group as it was, so the state is the client itself
  refine Prod.ext rfl ?_
  dsimp only
  rw [Group.pick_some, Hub.updateGroup_of_group? hg]

/-- With keys, the request goes to the session the transaction's id picks in the attached
group, and nothing else changes. -/
theorem exec_settle_picked {tmid : String} {keys : List String} (rollback : Bool) {c : Client}
    {a : Attachment} {grp : Group} {i : Nat} (hk : keys ≠ []) (ha : c.attached = some a)
    (hg : c.hub.group? a.group = some grp) (hi : (grp.pick (some tmid)).2 = some i) :
    (exec (settle tmid keys rollback) c).2 =
      c.recordAt a.group i (.request .publish2 (settleEntity keys rollback)) := by
  have hpick : exec (pickSession (some tmid)) c = (.ok (a.group, i), c) := by
    rw [exec_pickSession_some ha hg, hi]
  obtain ⟨s, hs, -⟩ := valid_of_pickSession hpick
  rw [exec_settle rollback hk ha hpick hs]

theorem exec_settle_unpicked {tmid : String} {keys : List String} (rollback : Bool) {c : Client}
    {e : ClientError} (hk : keys ≠ [])
    (hpick : exec (pickSession (some tmid)) c = (.error e, c)) :
    exec (settle tmid keys rollback) c = (.error e, c) := by
  unfold settle
  rw [if_neg (by simpa using hk), exec_bind, hpick]

end Op

/-- **Settling.** Binding messages to a transaction records their keys in order. Committing or
rolling back without keys succeeds and changes nothing, attached or not. With keys, detached it
fails as not connected, and attached to a group with no open session for want of one, changing
nothing either way; otherwise it sends one request, on the session the transaction's id picks and
nowhere else, that says whether it rolls back, is addressed to the broker's hashed copy, and whose
body, split at the commas, is the list of keys in the order of binding, provided no key holds a
comma. -/
theorem settle_sends_bound_keys (tmid : String) (ms : List Message) (rollback : Bool) (c : Client)
    (hc : ∀ m ∈ ms, ',' ∉ m.key.toList) :
    let tx := ({ tmid := tmid } : Transaction).bindAll ms
    let x := if rollback then Op.rollback tx else Op.commit tx
    tx.keys = ms.map Message.key ∧
    (ms = [] → Op.exec x c = (.ok (), c)) ∧
    (ms ≠ [] → c.attached = none → Op.exec x c = (.error .notConnected, c)) ∧
    (ms ≠ [] → ∀ a grp, c.attached = some a → c.hub.group? a.group = some grp →
      ((grp.pick (some tmid)).2 = none → Op.exec x c = (.error .noSession, c)) ∧
      ∀ i, (grp.pick (some tmid)).2 = some i →
        ∃ e, (Op.exec x c).2 = c.recordAt a.group i (.request .publish2 e) ∧
          e.meta? Meta.rollback = some (if rollback then "1" else "0") ∧
          e.meta? Meta.target = some Meta.serverHash ∧ e.settledKeys = tx.keys) := by
  intro tx x
  have hkeys : tx.keys = ms.map Message.key := by simp [tx, Transaction.keys_bindAll]
  -- both calls settle the transaction's keys under its id, with the flag as given
  have hx : x = Op.settle tmid (ms.map Message.key) rollback := by
    cases rollback <;> simp [x, Op.commit, Op.rollback, hkeys, tx]
  have hne : ms ≠ [] → ms.map Message.key ≠ [] := by simp
  refine ⟨hkeys, fun hms => by rw [hx, hms]; exact Op.exec_settle_nil _ _ c, ?_, ?_⟩
  · intro hms ha
    rw [hx]
    exact Op.exec_settle_unpicked rollback (hne hms) (Op.exec_pickSession_detached _ ha)
  · intro hms a grp ha hg
    refine ⟨fun hi => ?_, fun i hi => ?_⟩
    · rw [hx]
      refine Op.exec_settle_unpicked rollback (hne hms) ?_
      rw [Op.exec_pickSession_some ha hg, hi]
    · refine ⟨_, by rw [hx]; exact Op.exec_settle_picked rollback (hne hms) ha hg hi,
        Op.meta?_settleEntity_rollback _ _, Op.meta?_settleEntity_target _ _, ?_⟩
      rw [hkeys]
      exact Op.settledKeys_settleEntity rollback (hne hms) (by simpa using hc)

/-- Two messages bound to a transaction and committed over one open session: the request goes
there and reads back as their two keys. -/
theorem settle_sends_bound_keys_example :
    let grp : Group := ⟨[{ id := "s0" }], 0⟩
    let c : Client :=
      { urls := [], attached := some ⟨0, ⟨10000⟩⟩, hub := { width := 1, groups := [grp] } }
    let ms := [(Message.create "m1" [120]).withKey "k1", (Message.create "m2" [121]).withKey "k2"]
    (∀ m ∈ ms, ',' ∉ m.key.toList) ∧
      ∃ e, (Op.exec (Op.commit (({ tmid := "tx1" } : Transaction).bindAll ms)) c).2 =
          c.recordAt 0 0 (.request .publish2 e) ∧ e.settledKeys = ["k1", "k2"] := by
  intro grp c ms
  have hc : ∀ m ∈ ms, ',' ∉ m.key.toList := by decide
  have hi : (grp.pick (some "tx1")).2 = some 0 := Group.pick_some_of_openIndices rfl _
  obtain ⟨-, -, -, h⟩ := settle_sends_bound_keys "tx1" ms false c hc
  obtain ⟨e, he, -, -, hk⟩ := (h (by simp [ms]) ⟨0, ⟨10000⟩⟩ grp rfl rfl).2 0 hi
  exact ⟨hc, e, he, hk.trans (by simp [ms, Transaction.keys_bindAll, Message.withKey])⟩

/-- A key that holds a comma, bound and committed over one open session, is read by the broker
as two keys. -/
theorem settle_splits_comma_key :
    let grp : Group := ⟨[{ id := "s0" }], 0⟩
    let c : Client :=
      { urls := [], attached := some ⟨0, ⟨10000⟩⟩, hub := { width := 1, groups := [grp] } }
    let tx := ({ tmid := "tx1" } : Transaction).bindAll [(Message.create "m1" [120]).withKey "a,b"]
    tx.keys = ["a,b"] ∧
      (Op.exec (Op.commit tx) c).2 =
        c.recordAt 0 0 (.request .publish2 (Op.settleEntity tx.keys false)) ∧
      (Op.settleEntity tx.keys false).settledKeys = ["a", "b"] := by
  intro grp c tx
  have hkeys : tx.keys = ["a,b"] := by simp [tx, Transaction.keys_bindAll, Message.withKey]
  have hi : (grp.pick (some "tx1")).2 = some 0 := Group.pick_some_of_openIndices rfl _
  have hstate : (Op.exec (Op.commit tx) c).2 =
      c.recordAt 0 0 (.request .publish2 (Op.settleEntity tx.keys false)) := by
    rw [Op.commit, show tx.tmid = "tx1" from Transaction.tmid_bindAll _ _]
    have hk : tx.keys ≠ [] := by simp [hkeys]
    have ha : c.attached = some ⟨0, ⟨10000⟩⟩ := rfl
    have hg : c.hub.group? 0 = some grp := rfl
    exact Op.exec_settle_picked false hk ha hg hi
  refine ⟨hkeys, hstate, ?_⟩
  rw [Entity.settledKeys, Op.text_settleEntity, hkeys, String.toList_split_char]
  decide

end BrokerClient
