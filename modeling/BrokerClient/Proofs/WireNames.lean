import BrokerClient.Proofs.Lifecycle
import BrokerClient.Proofs.MessageRoundTrip
/-!
# Names on the wire

Which values on a frame are names that must pass the parameter check (`Meta.NameValid`): the
consumer group `c1`, the key `k1`, the sender `s3` and the namespace `folkmq.namespace` always, the
addressee `@` unless it is one of the broker's own addresses, and a topic `t1` that is not empty
must be the qualified topic of a namespace and a topic that pass.

The client checks every name it takes from a call's arguments or from its namespace before it
puts it on a frame. Three reach the wire unchecked: the client's own name (on the configuration
of every group it opens, and as the sender of a direct send), the key of a direct send, and a
sender that a published message was built with. With those kept valid and a configuration hook
that keeps valid names valid (`Client.NamesChecked`, `Command.ChecksNames`), every frame sent or
requested on a session and every configuration a group is opened with carries valid names, over
any run of calls and changes of name and namespace (`names_on_the_wire_checked`).
-/

namespace BrokerClient

/-! ### Valid names -/

namespace Meta

/-- The broker's own addresses, which are not parameters. -/
def brokerTargets : List String := [server, serverAll, serverHash]

/-- The metas whose values are always parameters. -/
def checkedNames : List String := [group, key, sender, space]

/-- A meta carries a valid name: the value of a checked meta passes the parameter check, so does
an addressee that is not the broker, and a topic that is not empty is the qualified topic of a
namespace (empty for none) and a topic that pass. -/
def NameValid (name value : String) : Prop :=
  (name ∈ checkedNames → Topic.Valid value) ∧
  (name = target → value ∉ brokerTargets → Topic.Valid value) ∧
  (name = topic → value ≠ "" →
    ∃ ns t, (ns = "" ∨ Topic.Valid ns) ∧ Topic.Valid t ∧ value = Topic.full ns t)

namespace NameValid

variable {name value : String}

theorem of_unchecked (hc : name ∉ checkedNames) (ht : name ≠ target) (hp : name ≠ topic) :
    NameValid name value :=
  ⟨fun h => absurd h hc, fun h => absurd h ht, fun h => absurd h hp⟩

theorem of_valid (hv : Topic.Valid value) (hp : name ≠ topic) : NameValid name value :=
  ⟨fun _ => hv, fun _ _ => hv, fun h => absurd h hp⟩

theorem broker (hv : value ∈ brokerTargets) : NameValid target value :=
  ⟨fun h => by simp [checkedNames, target, group, key, sender, space] at h,
    fun _ h => absurd hv h, fun h => by simp [target, topic] at h⟩

theorem qualified {ns t : String} (hns : ns = "" ∨ Topic.Valid ns) (ht : Topic.Valid t) :
    NameValid topic (Topic.full ns t) :=
  ⟨fun h => by simp [checkedNames, topic, group, key, sender, space] at h,
    fun h => by simp [target, topic] at h, fun _ _ => ⟨ns, t, hns, ht, rfl⟩⟩

theorem topic_empty : NameValid topic "" :=
  ⟨fun h => by simp [checkedNames, topic, group, key, sender, space] at h,
    fun h => by simp [target, topic] at h, fun _ h => absurd rfl h⟩

theorem qualify {space : Option String} {t : String} (ht : Topic.Valid t)
    (hns : ∀ ns ∈ space, Topic.Valid ns) : NameValid topic (Topic.full (space.getD "") t) := by
  cases space with
  | none => exact qualified (.inl rfl) ht
  | some ns => exact qualified (.inr (hns ns rfl)) ht

/-- Metas that carry no names: ids, marks, times, flags and the protocol version. -/
theorem of_plain (hn : name ∈ [tid, qos, scheduled, expiration, sequence, sharding, transaction,
    rollback, batch, version]) : NameValid name value := by
  have hplain : ∀ n ∈ [tid, qos, scheduled, expiration, sequence, sharding, transaction, rollback,
      batch, version], n ∉ checkedNames ∧ n ≠ target ∧ n ≠ topic := by
    simp [checkedNames, tid, qos, scheduled, expiration, sequence, sharding, transaction, rollback,
      batch, version, group, key, sender, space, target, topic]
  obtain ⟨hc, ht, hp⟩ := hplain name hn
  exact of_unchecked hc ht hp

/-- Attribute metas are named with `!`, which no checked meta, addressee or topic is. -/
theorem attr (a : String) : NameValid (attrPrefix ++ a) value := by
  have hne : ∀ k : String, k.toList.head? ≠ some '!' → attrPrefix ++ a ≠ k :=
    fun k hk => BrokerClient.attr_ne_of_head hk a
  refine of_unchecked ?_ (hne _ (by simp [target])) (hne _ (by simp [topic]))
  simp only [checkedNames, List.mem_cons, List.not_mem_nil, or_false, not_or]
  exact ⟨hne _ (by simp [group]), hne _ (by simp [key]), hne _ (by simp [sender]),
    hne _ (by simp [space])⟩

end NameValid

end Meta

/-- Every meta carries a valid name. -/
def Metas.NamesValid (m : Metas) : Prop := ∀ n v, m.get? n = some v → Meta.NameValid n v

namespace Metas

theorem namesValid_empty : empty.NamesValid := by
  intro n v h
  simp [get?, empty] at h

theorem NamesValid.put {m : Metas} (h : m.NamesValid) {n v : String} (hv : Meta.NameValid n v) :
    (m.put n v).NamesValid := by
  intro k w hk
  rw [get?_put] at hk
  split at hk
  · rename_i hkn
    cases hk
    exact hkn ▸ hv
  · exact h k w hk

theorem NamesValid.foldl_put {m : Metas} (h : m.NamesValid) {l : List (String × String)}
    (hl : ∀ p ∈ l, Meta.NameValid p.1 p.2) : (l.foldl (fun m p => m.put p.1 p.2) m).NamesValid := by
  induction l generalizing m with
  | nil => exact h
  | cons p l ih =>
    exact ih (h.put (hl p List.mem_cons_self)) fun q hq => hl q (List.mem_cons_of_mem _ hq)

theorem namesValid_ofList {l : List (String × String)} (hl : ∀ p ∈ l, Meta.NameValid p.1 p.2) :
    (ofList l).NamesValid :=
  namesValid_empty.foldl_put hl

end Metas

/-- A frame sent or requested carries valid names; acknowledgements and alarms answer frames
received, with what their handlers give, and are not asked to. -/
def Outbound.NamesValid : Outbound → Prop
  | .send _ e | .request _ e => e.metas.NamesValid
  | .ack _ _ | .alarm _ _ => True

theorem Qos.namesValid_frame (q : Qos) (ev : Event) {e : Entity} (h : e.metas.NamesValid) :
    (q.frame ev e).NamesValid := by
  cases q <;> exact h

/-! ### The entities of the frames -/

section Entities

open Meta.NameValid

namespace Message

theorem sender_of_mem_optionalMetas {m : Message} {v : String}
    (h : (Meta.sender, v) ∈ m.optionalMetas) : m.sender = some v := by
  unfold optionalMetas at h
  simp only [List.mem_append] at h
  rcases h with (((h | h) | h) | h) | h
  · cases he : m.expiration <;> simp [he, Meta.sender, Meta.expiration] at h
  · split at h
    · cases hp : m.sharding <;> simp [hp, Meta.sender, Meta.sequence, Meta.sharding] at h
    · cases h
  · cases ht : m.tmid <;> simp [ht, Meta.sender, Meta.transaction] at h
  · cases hs : m.sender <;> simp [hs] at h
    rw [h]
  · obtain ⟨⟨a, w⟩, -, he⟩ := List.mem_map.1 h
    exact absurd (congrArg Prod.fst he) (attr_ne_of_head (by simp [Meta.sender]) a)

theorem nameValid_optionalMetas {m : Message} (hs : ∀ s, m.sender = some s → Topic.Valid s) :
    ∀ p ∈ m.optionalMetas, Meta.NameValid p.1 p.2 := by
  rintro ⟨n, v⟩ hp
  rcases name_mem_optionalMetas hp with hn | ⟨a, ha⟩
  · by_cases hsender : n = Meta.sender
    · subst hsender
      exact of_valid (hs v (sender_of_mem_optionalMetas hp)) (by simp [Meta.sender, Meta.topic])
    · -- the other metas it may add are marks and times
      refine of_plain ?_
      simp only [List.mem_cons, List.not_mem_nil, or_false] at hn ⊢
      rcases hn with h | h | h | h | h <;> simp_all
  · exact ha ▸ attr a

/-- A message published with a valid key and sender, if any, on a topic that is valid as a
topic meta, carries valid names. -/
theorem namesValid_publishEntity {m : Message} {full : String} (hk : Topic.Valid m.key)
    (hs : ∀ s, m.sender = some s → Topic.Valid s) (ht : Meta.NameValid Meta.topic full) :
    (m.publishEntity full).metas.NamesValid := by
  rw [publishEntity_eq]
  apply Metas.namesValid_ofList
  intro p hp
  simp only [List.mem_append, List.mem_singleton] at hp
  rcases hp with (hp | hp) | rfl
  · -- the header: id, key, topic, quality of service and schedule
    simp only [headerMetas, List.mem_cons, List.not_mem_nil, or_false] at hp
    rcases hp with rfl | rfl | rfl | rfl | rfl
    · exact of_plain (by simp)
    · exact of_valid hk (by simp [Meta.key, Meta.topic])
    · exact ht
    · exact of_plain (by simp)
    · exact of_plain (by simp)
  · exact nameValid_optionalMetas hs p hp
  · exact broker (by simp [Meta.brokerTargets])

end Message

theorem namesValid_subscriptionEntity {full grp : String} (ht : Meta.NameValid Meta.topic full)
    (hg : Topic.Valid grp) : (subscriptionEntity full grp).metas.NamesValid :=
  ((Metas.namesValid_empty.put ht).put (of_valid hg (by simp [Meta.group, Meta.topic]))).put
    (broker (by simp [Meta.brokerTargets]))

theorem Op.namesValid_settleEntity (keys : List String) (rollback : Bool) :
    (settleEntity keys rollback).metas.NamesValid :=
  (Metas.namesValid_empty.put (of_plain (by simp))).put (broker (by simp [Meta.brokerTargets]))

theorem Registry.namesValid_openingFrames (r : Registry) :
    ∀ o ∈ r.openingFrames, o.NamesValid := by
  unfold Registry.openingFrames
  split
  · simp
  · simp only [List.mem_singleton, forall_eq]
    exact (Metas.namesValid_empty.put (of_plain (by simp))).put
      (broker (by simp [Meta.brokerTargets]))

theorem Client.names_of_target? {c : Client} {t full grp : String} {g? : Option String}
    (h : c.target? t g? = some (full, grp)) :
    Meta.NameValid Meta.topic full ∧ Topic.Valid grp := by
  unfold Client.target? at h
  split at h
  · cases h
  · split at h
    · rename_i hv
      cases h
      exact ⟨qualify hv.1 hv.2.2, hv.2.1⟩
    · cases h

/-! ### The frames of calls -/

namespace Call

/-- What a call must bring that the client puts on the wire unchecked: the sender a published
message was built with, if any, and the key of a message sent to another client. -/
def ChecksNames : Call → Prop
  | .publish _ m => ∀ s, m.sender = some s → Topic.Valid s
  | .sendTo _ m _ => Topic.Valid m.key
  | _ => True

/-- The frame of a call that passes its checks carries valid names, when the call brings its
unchecked names valid and the client's name passes. -/
theorem namesValid_frame {call : Call} {c : Client} (hv : call.Valid c) (hc : call.ChecksNames)
    (hn : ∀ n, c.name = some n → Topic.Valid n) {o : Outbound} (ho : call.frame? c = some o) :
    o.NamesValid := by
  cases call with
  | publish t m =>
    cases ho
    exact Qos.namesValid_frame _ _
      (Message.namesValid_publishEntity hv.2.1 hc (qualify hv.1 hv.2.2))
  | unpublish t k =>
    cases ho
    exact ((Metas.namesValid_empty.put (qualify hv.1 hv.2.2)).put
      (of_valid hv.2.1 (by simp [Meta.key, Meta.topic]))).put
      (broker (by simp [Meta.brokerTargets]))
  | sendTo p m t =>
    obtain ⟨n, hname⟩ := Option.isSome_iff_exists.1 hv.1
    simp only [frame?, hname, Option.map_some, Option.some.injEq] at ho
    subst ho
    -- the client's name goes as the sender, the addressee as consumer group and address
    have hsender : ∀ s, (m.sentBy n).sender = some s → Topic.Valid s := by
      rintro s ⟨⟩
      exact hn n hname
    exact Qos.namesValid_frame _ _
      (((Message.namesValid_publishEntity (m := m.sentBy n) hc hsender topic_empty).put
        (of_valid hv.2 (by simp [Meta.group, Meta.topic]))).put
        (of_valid hv.2 (by simp [Meta.target, Meta.topic])))
  | commit tx =>
    cases ho
    exact Op.namesValid_settleEntity _ _
  | rollback tx =>
    cases ho
    exact Op.namesValid_settleEntity _ _
  | _ => cases ho

end Call

end Entities

/-! ### Clients whose names on the wire are checked -/

/-- A client whose names on the wire are checked: its own name passes, its configuration hook
keeps valid names valid, and every frame sent or requested on a session of the broker, and the
configuration of every group opened, carries valid names. -/
structure Client.NamesChecked (c : Client) : Prop where
  name : ∀ n, c.name = some n → Topic.Valid n
  configure : ∀ cfg : SessionConfig, cfg.metas.NamesValid → (c.configure cfg).metas.NamesValid
  sent : ∀ g i s, c.hub.session? g i = some s → ∀ o ∈ s.sent, o.NamesValid
  opened : ∀ op ∈ c.hub.openings, op.config.metas.NamesValid

section Openings

theorem Hub.openings_foldl_updateSession (g : Nat) (f : Session → Session) :
    ∀ (l : List Nat) (h : Hub), (l.foldl (fun h i => h.updateSession g i f) h).openings = h.openings
  | [], _ => rfl
  | i :: l, h => openings_foldl_updateSession g f l (h.updateSession g i f)

theorem Client.openings_connectedOver (c : Client) (eps : List String) :
    (c.connectedOver eps).hub.openings = c.hub.openings ++ [⟨eps, c.sessionConfig⟩] := by
  rw [connectedOver, Hub.openings_foldl_updateSession]
  rfl

theorem Client.namesValid_sessionConfig {c : Client} (h : c.NamesChecked)
    (hns : ∀ ns ∈ c.space, Topic.Valid ns) : c.sessionConfig.metas.NamesValid := by
  unfold sessionConfig
  apply h.configure
  have hbase : (Metas.empty.put Meta.version (toString Meta.protocolVersion)).NamesValid :=
    Metas.namesValid_empty.put (Meta.NameValid.of_plain (by simp))
  have htarget : ∀ n, c.name = some n → Meta.NameValid Meta.target n := fun n hn =>
    Meta.NameValid.of_valid (h.name n hn) (by simp [Meta.target, Meta.topic])
  have hspace : ∀ ns, c.space = some ns → Meta.NameValid Meta.space ns := fun ns hs =>
    Meta.NameValid.of_valid (hns ns hs) (by simp [Meta.space, Meta.topic])
  rcases hn : c.name with _ | n <;> rcases hs : c.space with _ | ns
  · exact hbase
  · exact hbase.put (hspace ns hs)
  · exact hbase.put (htarget n hn)
  · exact (hbase.put (htarget n hn)).put (hspace ns hs)

end Openings

namespace Client.NamesChecked

variable {c : Client}

/-- A client with the same name, hook and openings, whose sessions have sent the same frames. -/
theorem of_sameSent {c' : Client} (h : c.NamesChecked) (hname : c'.name = c.name)
    (hconf : c'.configure = c.configure) (hopen : c'.hub.openings = c.hub.openings)
    (hsent : ∀ g i, (c'.hub.session? g i).map (·.sent) = (c.hub.session? g i).map (·.sent)) :
    c'.NamesChecked where
  name := hname ▸ h.name
  configure := hconf ▸ h.configure
  sent := by
    intro g i s' hs' o ho
    have hsame := hsent g i
    rw [hs'] at hsame
    rcases hs : c.hub.session? g i with _ | s
    · rw [hs] at hsame
      cases hsame
    · rw [hs, Option.map_some, Option.map_some, Option.some.injEq] at hsame
      exact h.sent g i s hs o (hsame ▸ ho)
  opened := hopen ▸ h.opened

theorem recordAt (h : c.NamesChecked) {o : Outbound} (ho : o.NamesValid) (g i : Nat) :
    (c.recordAt g i o).NamesChecked where
  name := h.name
  configure := h.configure
  sent := by
    intro g' i' s hs o' ho'
    simp only [Client.recordAt, Hub.session?_updateSession] at hs
    split at hs
    · -- the session that records the frame has sent what it had, and the frame
      obtain ⟨s₀, hs₀, rfl⟩ := Option.map_eq_some_iff.1 hs
      rcases List.mem_append.1 ho' with ho' | ho'
      · exact h.sent g' i' s₀ hs₀ o' ho'
      · rw [List.mem_singleton.1 ho']
        exact ho
    · exact h.sent g' i' s hs o' ho'
  opened := h.opened

theorem foldl_recordAt {o : Outbound} (ho : o.NamesValid) :
    ∀ (ps : List (Nat × Nat)) {c : Client}, c.NamesChecked →
      (ps.foldl (fun c p => c.recordAt p.1 p.2 o) c).NamesChecked
  | [], _, h => h
  | p :: ps, _, h => foldl_recordAt ho ps (h.recordAt ho p.1 p.2)

theorem of_pickSession (h : c.NamesChecked) {r : Option String} {c₁ : Client} {g i : Nat}
    (hpick : Op.exec (Op.pickSession r) c = (.ok (g, i), c₁)) : c₁.NamesChecked := by
  have hsess := Op.session?_of_pickSession hpick
  obtain ⟨a, grp, -, -, -, -, rfl⟩ := Op.exec_pickSession_ok hpick
  exact h.of_sameSent rfl rfl rfl fun g' i' => by rw [hsess]

theorem connectedOver (h : c.NamesChecked) (hns : ∀ ns ∈ c.space, Topic.Valid ns)
    (eps : List String) : (c.connectedOver eps).NamesChecked where
  name := h.name
  configure := h.configure
  sent := by
    intro g i s hs o ho
    rw [Client.session?_connectedOver] at hs
    split at hs
    · cases hs
      simp only [Session.resync_sent, List.nil_append] at ho
      exact c.registry.namesValid_openingFrames o ho
    · exact h.sent g i s hs o ho
  opened := by
    rw [Client.openings_connectedOver]
    intro op hop
    rcases List.mem_append.1 hop with hop | hop
    · exact h.opened op hop
    · rw [List.mem_singleton.1 hop]
      exact Client.namesValid_sessionConfig h hns

theorem disconnect (h : c.NamesChecked) (g : Nat) :
    ({ c with attached := none, hub := c.hub.updateGroup g Group.close } : Client).NamesChecked := by
  refine h.of_sameSent rfl rfl rfl fun g' i => ?_
  rw [Hub.session?_updateGroup_close]
  split
  · rcases c.hub.session? g' i with _ | s <;> rfl
  · rfl

end Client.NamesChecked

theorem Op.Transmits.namesChecked {c : Client} {r : Option String} {o : Outbound}
    {out : Except ClientError Unit × Client} (ht : Transmits c r o out) (h : c.NamesChecked)
    (ho : o.NamesValid) : out.2.NamesChecked := by
  cases ht with
  | unpicked _ => exact h
  | sent hpick _ _ => exact (h.of_pickSession hpick).recordAt ho _ _

theorem Op.Subscription.namesChecked {x : Op Unit} {c : Client}
    {target : Option (String × String)} {ev : Event} (hx : Subscription x c target ev)
    (ht : ∀ full grp, target = some (full, grp) → Meta.NameValid Meta.topic full ∧ Topic.Valid grp)
    (h : c.NamesChecked) : (exec x c).2.NamesChecked := by
  rcases htarget : target with _ | ⟨full, grp⟩
  · obtain ⟨msg, hmsg⟩ := hx.1 htarget
    rw [hmsg]
    exact h
  · obtain ⟨r, hrun⟩ := hx.2 full grp htarget
    obtain ⟨htopic, hgrp⟩ := ht full grp htarget
    obtain ⟨k, hk⟩ := broadcast_state ev full grp c.openPlaces { c with registry := r }
      (open_sessions_of_openPlaces c)
    rw [hrun, hk]
    exact Client.NamesChecked.foldl_recordAt (o := .request ev (subscriptionEntity full grp))
      (namesValid_subscriptionEntity htopic hgrp) _ (h.of_sameSent rfl rfl rfl fun _ _ => rfl)

/-! ### Runs -/

namespace Call

/-- One call keeps the names on the wire checked, when it brings its unchecked names valid. -/
theorem namesChecked_step {call : Call} (hc : call.ChecksNames) {c : Client}
    (h : c.NamesChecked) : (Op.exec call.op c).2.NamesChecked := by
  by_cases hv : call.Valid c
  swap
  · -- a refused call changes nothing
    obtain ⟨msg, hm⟩ := (call.checksFirst c).2 hv
    rw [hm]
    exact h
  -- a call that sends one frame records a frame with valid names, or nothing
  have hsend : call.SendsOne → (Op.exec call.op c).2.NamesChecked := fun hs => by
    obtain ⟨o, ho, ht⟩ := call.transmits hs hv
    exact ht.namesChecked h (namesValid_frame hv hc h.name ho)
  cases call with
  | connect =>
    show (Op.exec Op.connect c).2.NamesChecked
    rcases ha : c.attached with _ | a
    · obtain ⟨eps, hcon⟩ := Op.exec_connect_detached ha hv
      rw [hcon]
      split
      · exact h
      · exact h.connectedOver (hv.resolve_left (by simp [Client.isConnected, ha])).2.1 eps
    · rw [Op.exec_connect_attached ha]
      exact h
  | disconnect =>
    show (Op.exec Op.disconnect c).2.NamesChecked
    rw [Op.exec_disconnect]
    rcases c.attached with _ | a
    · exact h
    · exact h.disconnect a.group
  | subscribe t g? a? hd =>
    exact (Op.subscription_subscribe t g? a? hd c).namesChecked
      (fun _ _ => Client.names_of_target?) h
  | unsubscribe t g? =>
    exact (Op.subscription_unsubscribe t g? c).namesChecked (fun _ _ => Client.names_of_target?) h
  | publish t m => exact hsend trivial
  | unpublish t k => exact hsend trivial
  | sendTo p m t => exact hsend trivial
  | listen hd =>
    obtain ⟨n, hn⟩ := Option.isSome_iff_exists.1 hv
    show (Op.exec (Op.listen hd) c).2.NamesChecked
    unfold Op.listen
    rw [Op.exec_bind, Op.exec_requireName_some hn]
    exact h.of_sameSent rfl rfl rfl fun _ _ => rfl
  | checkback hd => exact h.of_sameSent rfl rfl rfl fun _ _ => rfl
  | newTransaction tmid =>
    rw [newTransaction_client]
    exact h
  | commit tx =>
    by_cases hk : tx.keys = []
    · show (Op.exec (Op.settle tx.tmid tx.keys false) c).2.NamesChecked
      simp only [Op.settle, hk, List.isEmpty_nil, if_true]
      exact h
    · exact hsend hk
  | rollback tx =>
    by_cases hk : tx.keys = []
    · show (Op.exec (Op.settle tx.tmid tx.keys true) c).2.NamesChecked
      simp only [Op.settle, hk, List.isEmpty_nil, if_true]
      exact h
    · exact hsend hk

end Call

/-- A step of a run: a call of the client, or a change of its name or of its namespace. -/
inductive Command where
  | call (call : Call)
  | setName (name : String)
  | setSpace (space : String)

namespace Command

/-- The client after a step. -/
def apply : Command → Client → Client
  | .call x, c => (Op.exec x.op c).2
  | .setName n, c => c.withName n
  | .setSpace ns, c => c.withSpace ns

/-- The client after steps one after another. -/
def runAll (cmds : List Command) (c : Client) : Client := cmds.foldl (fun c cmd => cmd.apply c) c

/-- What a step must bring that goes on the wire unchecked: a name that is valid, or empty for
none; a call's own unchecked names (`Call.ChecksNames`). A namespace may be anything. -/
def ChecksNames : Command → Prop
  | .call x => x.ChecksNames
  | .setName n => n = "" ∨ Topic.Valid n
  | .setSpace _ => True

theorem namesChecked_apply {cmd : Command} (hc : cmd.ChecksNames) {c : Client}
    (h : c.NamesChecked) : (cmd.apply c).NamesChecked := by
  cases cmd with
  | call x => exact Call.namesChecked_step hc h
  | setName n =>
    -- the name set is the client's name unless it is empty
    refine ⟨fun n' hn' => ?_, h.configure, h.sent, h.opened⟩
    simp only [apply, Client.withName] at hn'
    split at hn'
    · cases hn'
    · rename_i hne
      cases hn'
      exact hc.resolve_left (by simpa using hne)
  | setSpace ns => exact h.of_sameSent rfl rfl rfl fun _ _ => rfl

theorem namesChecked_runAll : ∀ (cmds : List Command) {c : Client},
    (∀ cmd ∈ cmds, cmd.ChecksNames) → c.NamesChecked → (runAll cmds c).NamesChecked
  | [], _, _, h => h
  | cmd :: cmds, _, hc, h =>
    namesChecked_runAll cmds (fun x hx => hc x (List.mem_cons_of_mem _ hx))
      (namesChecked_apply (hc cmd List.mem_cons_self) h)

end Command

/-- **Names on the wire.** Over any run of calls and changes of name and namespace from a client
whose names on the wire are checked, in which every name set is valid or empty, every published
message's sender, if any, is valid and every message sent to another client has a valid key,
every frame sent or requested on a session of the broker carries valid names in its consumer
group, key, sender, namespace and addressee other than the broker, and a topic that is empty or
qualified from a valid namespace and topic; and so does the configuration of every group
opened. -/
theorem names_on_the_wire_checked (cmds : List Command) (c : Client) (h : c.NamesChecked)
    (hcmds : ∀ cmd ∈ cmds, cmd.ChecksNames) :
    (∀ g i s, (Command.runAll cmds c).hub.session? g i = some s → ∀ o ∈ s.sent, o.NamesValid) ∧
      ∀ op ∈ (Command.runAll cmds c).hub.openings, op.config.metas.NamesValid :=
  let h' := Command.namesChecked_runAll cmds hcmds h
  ⟨h'.sent, h'.opened⟩

/-- A client that has opened no group takes a name, connects, publishes, takes a namespace that
would not pass, subscribes and connects again: its frames and its configurations carry valid
names, the namespace never having reached the wire. -/
theorem names_on_the_wire_checked_example :
    let c : Client := { urls := ["folkmq://127.0.0.1:18602"], hub := { width := 2 } }
    let cmds := [Command.setName "A", .call .connect,
      .call (.publish "orders" (Message.create "m1" [120])), .setSpace "x,y",
      .call (.subscribe "orders" none none ⟨"h", []⟩), .call .disconnect, .call .connect]
    (∀ g i s, (Command.runAll cmds c).hub.session? g i = some s → ∀ o ∈ s.sent, o.NamesValid) ∧
      ∀ op ∈ (Command.runAll cmds c).hub.openings, op.config.metas.NamesValid := by
  intro c cmds
  have h : c.NamesChecked :=
    ⟨fun n hn => (by cases hn), fun _ hcfg => hcfg,
      fun g i s hs => (by simp [c, Hub.session?, Hub.group?] at hs),
      fun op hop => (by simp [c] at hop)⟩
  have hcmds : ∀ cmd ∈ cmds, cmd.ChecksNames := by
    intro cmd hcmd
    simp only [cmds, List.mem_cons, List.not_mem_nil, or_false] at hcmd
    rcases hcmd with rfl | rfl | rfl | rfl | rfl | rfl | rfl
    · exact .inr ⟨by simp, by simp [Topic.reserved]⟩
    · trivial
    · intro s hs
      cases hs
    · trivial
    · trivial
    · trivial
    · trivial
  exact names_on_the_wire_checked cmds c h hcmds

end BrokerClient
