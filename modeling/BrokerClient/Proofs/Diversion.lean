import BrokerClient.Proofs.Validation
/-!
Diversion. A call that picks its session by a key (a publish whose message has a routing key, a
commit or a rollback by its transaction id) sends on one session only: the one its key picks in
the attached group as it stood when the run began, whatever publishes, unpublishes and sends come
between (`diverted_calls_share_a_session`).

What a sending call can do is said once (`Op.SendEffect`): nothing, a pick alone, or a pick and
one frame on the picked session. Neither changes the attachment, the namespace or which sessions
are open (`Client.SameOpen`), so a whole run keeps them (`Call.sameOpen_runAll`), and a pick by a
key depends on nothing else (`Op.picked_of_sameOpen`). The messages bound to a transaction route
by its id whatever builder calls follow, save one that sets another transaction, so they meet
the transaction's commit or rollback on that one session.
-/

namespace BrokerClient

/-! ### Clients alike in their open sessions -/

/-- The same attachment and namespace, and an open session at the same places. -/
def Client.SameOpen (c c' : Client) : Prop :=
  c'.attached = c.attached ∧ c'.space = c.space ∧
    ∀ g i, (c'.hub.session? g i).map (·.valid) = (c.hub.session? g i).map (·.valid)

namespace Client.SameOpen

theorem refl (c : Client) : c.SameOpen c := ⟨rfl, rfl, fun _ _ => rfl⟩

theorem trans {c₁ c₂ c₃ : Client} (h₁ : c₁.SameOpen c₂) (h₂ : c₂.SameOpen c₃) : c₁.SameOpen c₃ :=
  ⟨h₂.1.trans h₁.1, h₂.2.1.trans h₁.2.1, fun g i => (h₂.2.2 g i).trans (h₁.2.2 g i)⟩

end Client.SameOpen

theorem Client.sameOpen_recordAt (c : Client) (g i : Nat) (o : Outbound) :
    c.SameOpen (c.recordAt g i o) := by
  refine ⟨rfl, rfl, fun g' i' => ?_⟩
  simp only [Client.recordAt, Hub.session?_updateSession]
  split
  · cases c.hub.session? g' i' <;> simp
  · rfl

/-- Every session whose frames differ between two clients stands in group `g` at index `i`; when
`i` is none, no session's frames differ. -/
def Client.FramesOnlyAt (c c' : Client) (g : Nat) (i : Option Nat) : Prop :=
  ∀ g' i', (c'.hub.session? g' i').map (·.sent) ≠ (c.hub.session? g' i').map (·.sent) →
    g' = g ∧ i = some i'

theorem Group.openIndices_eq_of_valid {g g' : Group}
    (h : ∀ i, (g'.session? i).map (·.valid) = (g.session? i).map (·.valid)) :
    g'.openIndices = g.openIndices := by
  have hflags : g'.sessions.map (·.valid) = g.sessions.map (·.valid) :=
    List.ext_getElem? fun i => by simpa [List.getElem?_map, Group.session?] using h i
  have hlen : g'.sessions.length = g.sessions.length := by
    simpa using congrArg List.length hflags
  -- the open indices, read off the list of open flags
  have hform : ∀ grp : Group, grp.openIndices =
      ((List.range grp.sessions.length).zip (grp.sessions.map (·.valid))).filterMap
        fun p => if p.2 then some p.1 else none := by
    intro grp
    simp only [Group.openIndices, List.zip_map_right, List.filterMap_map]
    rfl
  rw [hform, hform, hflags, hlen]

namespace Op

/-! ### Picks -/

theorem exec_pickSession_state (r : Option String) (c : Client) :
    (exec (pickSession r) c).2 = c ∨ ∃ a grp, c.attached = some a ∧
      c.hub.group? a.group = some grp ∧
      (exec (pickSession r) c).2 = { c with hub := c.hub.updateGroup a.group fun _ => (grp.pick r).1 } := by
  rcases Option.eq_none_or_eq_some c.attached with ha | ⟨a, ha⟩
  · left
    unfold pickSession
    rw [exec_bind, exec_get]
    simp [ha]
  rcases Option.eq_none_or_eq_some (c.hub.group? a.group) with hg | ⟨grp, hg⟩
  · left
    unfold pickSession
    rw [exec_bind, exec_get]
    have hg' : c.hub.groups[a.group]? = none := hg
    simp [ha, Hub.group?, hg']
  · exact .inr ⟨a, grp, ha, hg, by rw [exec_pickSession ha hg]⟩

theorem session?_pickSession (r : Option String) (c : Client) (g i : Nat) :
    (exec (pickSession r) c).2.hub.session? g i = c.hub.session? g i := by
  rcases exec_pickSession_state r c with h | ⟨a, grp, -, hg, h⟩
  · rw [h]
  · rw [h]
    exact Hub.session?_updateGroup_of_sessions hg (Group.sessions_pick grp r) g i

theorem sameOpen_pickSession (r : Option String) (c : Client) :
    c.SameOpen (exec (pickSession r) c).2 := by
  have hsessions := session?_pickSession r c
  rcases exec_pickSession_state r c with h | ⟨a, grp, -, -, h⟩ <;> rw [h] at hsessions ⊢
  · exact .refl c
  · exact ⟨rfl, rfl, fun g i => by rw [hsessions]⟩

/-- **Diverted picks.** From a client whose sessions are open where they were at the start, a
pick by a key that finds a session finds the one the key picks in the attached group as it was
at the start. -/
theorem picked_of_sameOpen {c₀ c c₁ : Client} {a : Attachment} {grp : Group}
    (ha : c₀.attached = some a) (hg : c₀.hub.group? a.group = some grp) (hsame : c₀.SameOpen c)
    {k : String} {g i : Nat} (hpick : exec (pickSession (some k)) c = (.ok (g, i), c₁)) :
    g = a.group ∧ (grp.pick (some k)).2 = some i := by
  obtain ⟨a', grp', ha', rfl, hg', hi, -⟩ := exec_pickSession_ok hpick
  obtain rfl : a' = a := by
    rw [hsame.1, ha] at ha'
    exact (Option.some.inj ha').symm
  refine ⟨rfl, ?_⟩
  -- the group is open at the same indices, so the key's hash picks the same one
  have hopen : grp'.openIndices = grp.openIndices := Group.openIndices_eq_of_valid fun j => by
    simpa [Hub.session?, hg, hg'] using hsame.2.2 a'.group j
  rw [Group.pick_some] at hi ⊢
  rw [← hopen]
  exact hi

/-! ### What a call that sends does -/

/-- What a call that sends can do to the client, picking by `r`: nothing, a pick that finds no
session, or a pick and one frame recorded on the session picked. -/
inductive SendEffect (c : Client) (r : Option String) : Client → Prop
  | none : SendEffect c r c
  | pickOnly {e : ClientError} {c₁ : Client} :
      exec (pickSession r) c = (.error e, c₁) → SendEffect c r c₁
  | frame {g i : Nat} {c₁ : Client} (o : Outbound) :
      exec (pickSession r) c = (.ok (g, i), c₁) → SendEffect c r (c₁.recordAt g i o)

namespace SendEffect

variable {c c' : Client} {r : Option String}

theorem sameOpen (h : SendEffect c r c') : c.SameOpen c' := by
  cases h with
  | none => exact .refl c
  | pickOnly hpick =>
    have hs := sameOpen_pickSession r c
    rw [hpick] at hs
    exact hs
  | frame o hpick =>
    have hs := sameOpen_pickSession r c
    rw [hpick] at hs
    exact hs.trans (Client.sameOpen_recordAt _ _ _ o)

/-- A call that picks by a key sends, if at all, on the session its key picks in the attached
group as it stood at the start. -/
theorem framesOnlyAt {c₀ : Client} {a : Attachment} {grp : Group} (ha : c₀.attached = some a)
    (hg : c₀.hub.group? a.group = some grp) (hsame : c₀.SameOpen c) {k : String}
    (h : SendEffect c (some k) c') : c.FramesOnlyAt c' a.group (grp.pick (some k)).2 := by
  intro g' i' hne
  cases h with
  | none => exact absurd rfl hne
  | pickOnly hpick =>
    have hs := session?_pickSession (some k) c g' i'
    rw [hpick] at hs
    exact absurd (by rw [hs]) hne
  | frame o hpick =>
    obtain ⟨rfl, hi⟩ := picked_of_sameOpen ha hg hsame hpick
    have hs := session?_pickSession (some k) c g' i'
    rw [hpick] at hs
    -- only the picked session records the frame
    simp only [Client.recordAt, Hub.session?_updateSession, hs] at hne
    split at hne
    · rename_i hgi
      exact ⟨hgi.1.symm, hgi.2 ▸ hi⟩
    · exact absurd rfl hne

end SendEffect

theorem SendEffect.of_pick {α : Type} {x : Op α} {c : Client} {r : Option String}
    (herr : ∀ e c₁, exec (pickSession r) c = (.error e, c₁) → (exec x c).2 = c₁)
    (hok : ∀ g i c₁, exec (pickSession r) c = (.ok (g, i), c₁) →
      ∃ o, (exec x c).2 = c₁.recordAt g i o) :
    SendEffect c r (exec x c).2 := by
  rcases hpick : exec (pickSession r) c with ⟨e | ⟨g, i⟩, c₁⟩
  · rw [herr e c₁ hpick]
    exact .pickOnly hpick
  · obtain ⟨o, ho⟩ := hok g i c₁ hpick
    rw [ho]
    exact .frame o hpick

theorem sendEffect_publish (t : String) (m : Message) (c : Client) :
    SendEffect c (m.routingKey (Topic.full (c.space.getD "") t)) (exec (publish t m) c).2 := by
  by_cases hv : Topic.Valid t ∧ Topic.Valid m.key ∧ ∀ ns ∈ c.space, Topic.Valid ns
  · refine .of_pick (fun e c₁ hpick => ?_) (fun g i c₁ hpick => ?_)
    · unfold publish
      rw [exec_checkTopicKey _ hv.1 hv.2.1 hv.2.2, exec_bind, hpick]
    · obtain ⟨a, -, ha, -⟩ := exec_pickSession_ok hpick
      obtain ⟨s, hs, -⟩ := valid_of_pickSession hpick
      rw [exec_publish hv.1 hv.2.1 hv.2.2 ha hpick hs]
      dsimp only
      split <;> exact ⟨_, rfl⟩
  · obtain ⟨msg, hm⟩ := (checksFirst_publish t m c).2 hv
    rw [hm]
    exact .none

theorem sendEffect_unpublish (t key : String) (c : Client) :
    SendEffect c none (exec (unpublish t key) c).2 := by
  by_cases hv : Topic.Valid t ∧ Topic.Valid key ∧ ∀ ns ∈ c.space, Topic.Valid ns
  · refine .of_pick (fun e c₁ hpick => ?_) (fun g i c₁ hpick => ?_)
    · unfold unpublish
      rw [exec_checkTopicKey _ hv.1 hv.2.1 hv.2.2, exec_bind, hpick]
    · obtain ⟨a, -, ha, -⟩ := exec_pickSession_ok hpick
      obtain ⟨s, hs, -⟩ := valid_of_pickSession hpick
      rw [exec_unpublish hv.1 hv.2.1 hv.2.2 ha hpick hs]
      exact ⟨_, rfl⟩
  · obtain ⟨msg, hm⟩ := (checksFirst_unpublish t key c).2 hv
    rw [hm]
    exact .none

theorem exec_sendTo_atLeastOnce_state {m : Message} {peer : String} {timeout : Option Duration}
    {c c₁ : Client} {n : String} {g i : Nat} (hq : m.qos = .atLeastOnce) (hn : c.name = some n)
    (hp : Topic.Valid peer) (hpick : exec (pickSession none) c = (.ok (g, i), c₁)) :
    (exec (sendTo m peer timeout) c).2 = c₁.recordAt g i
      (.request .request (((m.sentBy n).publishEntity "").put Meta.group peer |>.addressTo peer)) := by
  obtain ⟨s, hs, -⟩ := valid_of_pickSession hpick
  obtain ⟨a, -, ha, -⟩ := exec_pickSession_ok hpick
  rw [exec_sendTo_atLeastOnce hq hn hp ha hpick hs]

theorem sendEffect_sendTo (m : Message) (peer : String) (timeout : Option Duration) (c : Client) :
    SendEffect c none (exec (sendTo m peer timeout) c).2 := by
  by_cases hv : c.name.isSome = true ∧ Topic.Valid peer
  · obtain ⟨n, hn⟩ := Option.isSome_iff_exists.1 hv.1
    refine .of_pick (fun e c₁ hpick => ?_) (fun g i c₁ hpick => ?_)
    · unfold sendTo requireName
      simp only [exec_bind, exec_get, hn, exec_pure, exec_check_valid _ hv.2, hpick]
    · cases hq : m.qos with
      | atLeastOnce => exact ⟨_, exec_sendTo_atLeastOnce_state hq hn hv.2 hpick⟩
      | atMostOnce =>
        obtain ⟨s, hs, -⟩ := valid_of_pickSession hpick
        rw [exec_sendTo_atMostOnce hq hn hv.2 hpick hs]
        exact ⟨_, rfl⟩
  · obtain ⟨msg, hm⟩ := (checksFirst_sendTo m peer timeout c).2 hv
    rw [hm]
    exact .none

theorem sendEffect_settle (tmid : String) (keys : List String) (rollback : Bool) (c : Client) :
    SendEffect c (some tmid) (exec (settle tmid keys rollback) c).2 := by
  by_cases hk : keys = []
  · subst hk
    exact .none
  · refine .of_pick (fun e c₁ hpick => ?_) (fun g i c₁ hpick => ?_)
    · unfold settle
      rw [if_neg (by simpa using hk), exec_bind, hpick]
    · obtain ⟨a, -, ha, -⟩ := exec_pickSession_ok hpick
      obtain ⟨s, hs, -⟩ := valid_of_pickSession hpick
      rw [exec_settle rollback hk ha hpick hs]
      exact ⟨_, rfl⟩

end Op

/-! ### Messages of a transaction -/

namespace Message.Builder

/-- Whether a builder call sets the transaction of the message. -/
def setsTransaction : Builder → Bool
  | .transaction _ => true
  | _ => false

theorem tmid_apply {b : Builder} (h : b.setsTransaction = false) (m : Message) :
    (b.apply m).tmid = m.tmid := by
  cases b with
  | transaction t => cases h
  | _ => rfl

theorem tmid_foldl_apply {bs : List Builder} (h : ∀ b ∈ bs, b.setsTransaction = false)
    (m : Message) : (bs.foldl (fun m b => b.apply m) m).tmid = m.tmid := by
  induction bs generalizing m with
  | nil => rfl
  | cons b bs ih =>
    rw [List.foldl_cons, ih (fun b' hb' => h b' (List.mem_cons_of_mem b hb')),
      tmid_apply (h b List.mem_cons_self)]

end Message.Builder

/-- A message bound to a transaction routes by the transaction's id, whatever builder calls
follow that set no other transaction. -/
theorem routingKey_bound (tx : Transaction) (m : Message) {bs : List Message.Builder}
    (h : ∀ b ∈ bs, b.setsTransaction = false) (topic : String) :
    (bs.foldl (fun m b => b.apply m) (tx.bind m).2).routingKey topic = some tx.tmid := by
  rw [Message.routingKey, Message.Builder.tmid_foldl_apply h]
  rfl

/-! ### Runs of calls that send -/

namespace Call

/-- The calls that send on a session of the attached group: publishes, unpublishes, sends to
another client, commits and rollbacks. -/
def Sends : Call → Prop
  | .publish _ _ | .unpublish _ _ | .sendTo _ _ _ | .commit _ | .rollback _ => True
  | _ => False

/-- The key a call picks its session by: for a publish, the routing key of its message on the
qualified topic; for a commit or a rollback, the transaction id; none for a call that picks in
turn. -/
def pickKey (c : Client) : Call → Option String
  | .publish t m => m.routingKey (Topic.full (c.space.getD "") t)
  | .commit tx => some tx.tmid
  | .rollback tx => some tx.tmid
  | _ => none

theorem pickKey_of_space {c c' : Client} (h : c'.space = c.space) (call : Call) :
    call.pickKey c' = call.pickKey c := by
  cases call with
  | publish t m => simp only [pickKey, h]
  | _ => rfl

theorem sendEffect {call : Call} (h : call.Sends) (c : Client) :
    Op.SendEffect c (call.pickKey c) (Op.exec call.op c).2 := by
  cases call with
  | publish t m => exact Op.sendEffect_publish t m c
  | unpublish t k => exact Op.sendEffect_unpublish t k c
  | sendTo p m t =>
    -- the answer of the send is dropped, and the client is as the send left it
    have hd : (Op.exec (sendTo p m t).op c).2 = (Op.exec (Op.sendTo m p t) c).2 := by
      simp only [op, Op.exec_bind]
      rcases Op.exec (Op.sendTo m p t) c with ⟨_ | _, c'⟩ <;> rfl
    rw [hd]
    exact Op.sendEffect_sendTo m p t c
  | commit tx => exact Op.sendEffect_settle _ _ _ c
  | rollback tx => exact Op.sendEffect_settle _ _ _ c
  | _ => cases h

/-- The client after calls made one after another, each whatever the ones before returned. -/
def runAll : List Call → Client → Client
  | [], c => c
  | call :: calls, c => runAll calls (Op.exec call.op c).2

/-- A run of calls that send keeps the attachment, the namespace and the open sessions. -/
theorem sameOpen_runAll : ∀ (calls : List Call), (∀ call ∈ calls, call.Sends) →
    ∀ c : Client, c.SameOpen (runAll calls c)
  | [], _, c => .refl c
  | call :: calls, h, c =>
    (sendEffect (h call List.mem_cons_self) c).sameOpen.trans
      (sameOpen_runAll calls (fun x hx => h x (List.mem_cons_of_mem _ hx)) _)

/-- Within a run of calls that send from a client attached to a group, a call that picks by a key
sends only on the session that key picks in the group as it was at the start. -/
theorem framesOnlyAt_runAll {c : Client} {a : Attachment} {grp : Group}
    (ha : c.attached = some a) (hg : c.hub.group? a.group = some grp) {calls pre post : List Call}
    {call : Call} (hsends : ∀ x ∈ calls, x.Sends) (hcalls : calls = pre ++ call :: post)
    {k : String} (hk : call.pickKey c = some k) :
    (runAll pre c).FramesOnlyAt (Op.exec call.op (runAll pre c)).2 a.group (grp.pick (some k)).2 := by
  have hpre : ∀ x ∈ pre, x.Sends := fun x hx => hsends x (hcalls ▸ List.mem_append_left _ hx)
  have hcall : call.Sends := hsends call (hcalls ▸ List.mem_append_right _ List.mem_cons_self)
  -- the calls before it leave the sessions open where they were, and the namespace as it was
  have hsame := sameOpen_runAll pre hpre c
  have heff := sendEffect hcall (runAll pre c)
  rw [pickKey_of_space hsame.2.1, hk] at heff
  exact heff.framesOnlyAt ha hg hsame

/-- The calls of a transaction: a publish of a message bound to it, refined afterwards by builder
calls that set no other transaction, and its commit or its rollback. -/
inductive OfTransaction (tx : Transaction) : Call → Prop
  | publish (t : String) (m : Message) {bs : List Message.Builder} :
      (∀ b ∈ bs, b.setsTransaction = false) →
      OfTransaction tx (.publish t (bs.foldl (fun m b => b.apply m) (tx.bind m).2))
  | commit {tx' : Transaction} : tx'.tmid = tx.tmid → OfTransaction tx (.commit tx')
  | rollback {tx' : Transaction} : tx'.tmid = tx.tmid → OfTransaction tx (.rollback tx')

theorem OfTransaction.pickKey {tx : Transaction} {call : Call} (h : call.OfTransaction tx)
    (c : Client) : call.pickKey c = some tx.tmid := by
  cases h with
  | publish t m hbs => exact routingKey_bound tx m hbs _
  | commit h => rw [Call.pickKey, h]
  | rollback h => rw [Call.pickKey, h]

end Call

/-- **Diversion.** Over a run of publishes, unpublishes, sends, commits and rollbacks from a
client attached to a group, every call that picks its session by a key sends only on the session
that key picks in the group as it was at the start, whatever came before it: calls with one key
meet on one session, and picks in turn between them change nothing of that. In particular the
messages bound to a transaction, refined by builder calls that set no other transaction, and the
transaction's commit or rollback are all sent on the one session its id picks. -/
theorem diverted_calls_share_a_session {c : Client} {a : Attachment} {grp : Group}
    (ha : c.attached = some a) (hg : c.hub.group? a.group = some grp) (calls : List Call)
    (hsends : ∀ call ∈ calls, call.Sends) :
    (∀ pre call post k, calls = pre ++ call :: post → call.pickKey c = some k →
      (Call.runAll pre c).FramesOnlyAt (Op.exec call.op (Call.runAll pre c)).2 a.group
        (grp.pick (some k)).2) ∧
    (∀ (tx : Transaction) pre call post, calls = pre ++ call :: post → call.OfTransaction tx →
      (Call.runAll pre c).FramesOnlyAt (Op.exec call.op (Call.runAll pre c)).2 a.group
        (grp.pick (some tx.tmid)).2) :=
  ⟨fun _ _ _ _ hcalls hk => Call.framesOnlyAt_runAll ha hg hsends hcalls hk,
    fun _ _ _ _ hcalls htx => Call.framesOnlyAt_runAll ha hg hsends hcalls (htx.pickKey c)⟩

/-- A message bound to a transaction, an unpublish picked in turn, and the transaction's commit,
on a client attached to a group of two open sessions: the commit sends only on the session the
transaction id picks. -/
theorem diverted_calls_share_a_session_example :
    let grp : Group := ⟨[{ id := "s0" }, { id := "s1" }], 0⟩
    let c : Client :=
      { urls := [], attached := some ⟨0, ⟨10000⟩⟩, hub := { width := 2, groups := [grp] } }
    let tx : Transaction := { tmid := "tx1" }
    let bound := tx.bind (Message.create "m1" [120])
    let before := [Call.publish "orders" bound.2, Call.unpublish "orders" "k0"]
    (Call.runAll before c).FramesOnlyAt (Op.exec (Call.commit bound.1).op (Call.runAll before c)).2
      0 (grp.pick (some "tx1")).2 := by
  intro grp c tx bound before
  have hsends : ∀ call ∈ before ++ [Call.commit bound.1], call.Sends := by
    intro call hcall
    simp only [before, List.cons_append, List.nil_append, List.mem_cons, List.not_mem_nil,
      or_false] at hcall
    rcases hcall with rfl | rfl | rfl <;> trivial
  exact (diverted_calls_share_a_session (c := c) (a := ⟨0, ⟨10000⟩⟩) rfl rfl _ hsends).2 tx
    before _ [] rfl (.commit rfl)

end BrokerClient
