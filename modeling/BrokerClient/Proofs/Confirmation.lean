import BrokerClient.Proofs.Publishing
/-!
Confirmations. An answer confirms its request when its `mq.confirm` meta, trimmed, reads as the
signed 64-bit number 1, and the numerals of 1 are an optional plus sign, any number of zeros
and a final `1` (`Text.parseSigned?_eq_one`): a larger value only grows as digits are read
(`Text.le_of_foldl_digitStep`), so a numeral of 1 has nothing but zeros before its `1`.

Every request that the client must have confirmed comes to what its answer says
(`Op.confirmOutcome`): the request of a confirmed publish, of an unpublish, of a subscribe or an
unsubscribe on each open session in turn (`Op.exec_broadcast_cons`), of a commit or a rollback
with keys, and the batched subscribe sent to a session that opens (`Op.exec_resubscribe`).
A confirmation that fails is no connectivity error, and a request left unanswered is one. A
message sent at most once, published or sent to a peer, is one send and succeeds at once.
-/

namespace BrokerClient

/-! ### Numerals that read as one -/

namespace Text

/-- One more digit read into a decimal value. -/
def digitStep (acc : Option Nat) (c : Char) : Option Nat :=
  acc.bind fun v => if c.isDigit then some (10 * v + (c.toNat - '0'.toNat)) else none

theorem digitsValue?_eq (cs : List Char) :
    digitsValue? cs = if cs.isEmpty then none else cs.foldl digitStep (some 0) := rfl

theorem toNat_of_isDigit {c : Char} (h : c.isDigit = true) : 48 ≤ c.toNat ∧ c.toNat ≤ 57 := by
  simp only [Char.isDigit, Bool.and_eq_true, decide_eq_true_eq] at h
  exact ⟨UInt32.le_iff_toNat_le.1 h.1, UInt32.le_iff_toNat_le.1 h.2⟩

theorem foldl_digitStep_none (cs : List Char) : cs.foldl digitStep none = none := by
  induction cs with
  | nil => rfl
  | cons c cs ih => exact ih

theorem le_of_foldl_digitStep {cs : List Char} {v w : Nat}
    (h : cs.foldl digitStep (some v) = some w) : v ≤ w ∧ (cs ≠ [] → 10 * v ≤ w) := by
  induction cs generalizing v with
  | nil =>
    cases h
    exact ⟨Nat.le_refl _, fun h => absurd rfl h⟩
  | cons c cs ih =>
    rw [List.foldl_cons] at h
    by_cases hc : c.isDigit = true
    · have hv := (ih (by simpa [digitStep, hc] using h)).1
      exact ⟨by omega, fun _ => by omega⟩
    · simp [digitStep, hc, foldl_digitStep_none] at h

theorem foldl_digitStep_eq_one (cs : List Char) :
    cs.foldl digitStep (some 0) = some 1 ↔ ∃ k, cs = List.replicate k '0' ++ ['1'] := by
  induction cs with
  | nil =>
    constructor
    · intro h
      cases h
    · rintro ⟨k, hk⟩
      cases k <;> simp at hk
  | cons c cs ih =>
    rw [List.foldl_cons]
    by_cases hc : c.isDigit = true
    · have hb := toNat_of_isDigit hc
      have hstep : digitStep (some 0) c = some (c.toNat - 48) := by
        simp [digitStep, hc]
      rw [hstep]
      by_cases h0 : c.toNat = 48
      · -- a leading zero changes nothing
        have hc0 : c = '0' := Char.toNat_inj.1 h0
        subst hc0
        simp only [h0, Nat.sub_self, ih]
        constructor
        · rintro ⟨k, rfl⟩
          exact ⟨k + 1, rfl⟩
        · rintro ⟨k, hk⟩
          cases k with
          | zero => simp at hk
          | succ k => exact ⟨k, by simpa [List.replicate_succ] using hk⟩
      · by_cases h1 : c.toNat = 49
        · -- a `1` must be the last digit, since any further digit makes ten or more
          have hc1 : c = '1' := Char.toNat_inj.1 h1
          subst hc1
          simp only [h1]
          constructor
          · intro h
            cases cs with
            | nil => exact ⟨0, rfl⟩
            | cons d ds =>
              have := (le_of_foldl_digitStep h).2 (List.cons_ne_nil d ds)
              omega
          · rintro ⟨k, hk⟩
            cases k with
            | zero =>
              have hcs : cs = [] := by simpa using hk
              simp [hcs]
            | succ k => simp [List.replicate_succ] at hk
        · -- any other digit starts a value of two or more
          constructor
          · intro h
            have := (le_of_foldl_digitStep h).1
            omega
          · rintro ⟨k, hk⟩
            cases k with
            | zero =>
              simp only [List.replicate_zero, List.nil_append, List.cons.injEq] at hk
              exact absurd (hk.1 ▸ rfl) h1
            | succ k =>
              simp only [List.replicate_succ, List.cons_append, List.cons.injEq] at hk
              exact absurd (hk.1 ▸ rfl) h0
    · -- a character that is no digit ends the reading
      have hstep : digitStep (some 0) c = none := by simp [digitStep, hc]
      rw [hstep, foldl_digitStep_none]
      simp only [reduceCtorEq, false_iff, not_exists]
      intro k hk
      cases k with
      | zero =>
        simp only [List.replicate_zero, List.nil_append, List.cons.injEq] at hk
        exact hc (hk.1 ▸ rfl)
      | succ k =>
        simp only [List.replicate_succ, List.cons_append, List.cons.injEq] at hk
        exact hc (hk.1 ▸ rfl)

theorem digitsValue?_eq_one (cs : List Char) :
    digitsValue? cs = some 1 ↔ ∃ k, cs = List.replicate k '0' ++ ['1'] := by
  rw [digitsValue?_eq]
  by_cases he : cs.isEmpty = true
  · rw [if_pos he, List.isEmpty_iff.1 he]
    simp only [reduceCtorEq, false_iff, not_exists]
    intro k hk
    cases k <;> simp at hk
  · rw [if_neg he, foldl_digitStep_eq_one]

theorem cons_ne_zeros_one {c : Char} (hc0 : c ≠ '0') (hc1 : c ≠ '1') (rest : List Char)
    (k : Nat) : c :: rest ≠ List.replicate k '0' ++ ['1'] := by
  intro h
  cases k with
  | zero => exact hc1 (List.cons.inj h).1
  | succ k => exact hc0 (List.cons.inj h).1

/-- **Numerals of one.** A text reads as the signed 64-bit number 1 exactly when it is an
optional plus sign, any number of zeros and a final `1`. -/
theorem parseSigned?_eq_one (s : String) :
    parseSigned? 64 s = some 1 ↔
      ∃ k, s.toList = List.replicate k '0' ++ ['1'] ∨
        s.toList = '+' :: (List.replicate k '0' ++ ['1']) := by
  unfold parseSigned?
  split
  rename_i neg cs hsign
  -- such a text has no minus sign, and its digits are a numeral of one
  have hform : (∃ k, s.toList = List.replicate k '0' ++ ['1'] ∨
      s.toList = '+' :: (List.replicate k '0' ++ ['1'])) ↔
      neg = false ∧ ∃ k, cs = List.replicate k '0' ++ ['1'] := by
    split at hsign
    · rename_i hs
      cases hsign
      simp only [hs, List.cons.injEq, true_and]
      constructor
      · rintro ⟨k, h | h⟩
        · exact absurd h (cons_ne_zeros_one (by decide) (by decide) cs k)
        · exact ⟨k, h⟩
      · rintro ⟨k, h⟩
        exact ⟨k, .inr h⟩
    · rename_i hs
      cases hsign
      simp only [hs, Bool.true_eq_false, false_and, iff_false, not_exists, not_or]
      intro k
      exact ⟨cons_ne_zeros_one (by decide) (by decide) cs k, by simp⟩
    · rename_i hplus _
      cases hsign
      simp only [true_and]
      constructor
      · rintro ⟨k, h | h⟩
        · exact ⟨k, h⟩
        · exact absurd h (hplus _)
      · rintro ⟨k, h⟩
        exact ⟨k, .inl h⟩
  rw [hform, ← digitsValue?_eq_one]
  -- a negative value is never one, and a positive one is one only when its digits read one
  cases digitsValue? cs with
  | none => simp
  | some v =>
    cases neg
    · by_cases hv : v < Nat.pow 2 (64 - 1)
      · simp only [Bool.false_eq_true, if_false, if_pos hv, Option.some.injEq, true_and]
        omega
      · simp only [Bool.false_eq_true, if_false, if_neg hv, reduceCtorEq, true_and, false_iff,
          Option.some.injEq]
        rw [Nat.pow_eq] at hv
        omega
    · simp only [if_true, Bool.true_eq_false, false_and, iff_false]
      split
      · simp only [Option.some.injEq]
        omega
      · simp

end Text

/-- **Confirmations.** An answer confirms exactly when its trimmed `mq.confirm` meta, `0` when
absent, is an optional plus sign, any number of zeros and a final `1`. -/
theorem isConfirmed_iff (r : Entity) :
    isConfirmed r = true ↔
      ∃ k, (Text.trimBlank (r.metaOr Meta.confirm "0")).toList = List.replicate k '0' ++ ['1'] ∨
        (Text.trimBlank (r.metaOr Meta.confirm "0")).toList =
          '+' :: (List.replicate k '0' ++ ['1']) := by
  rw [isConfirmed, beq_iff_eq, Text.parseSigned?_eq_one]

/-- The answer the session at a place gives to a request, by its own rules or else the broker's;
none when no session stands there. -/
def Client.answerAt (c : Client) (p : Nat × Nat) (ev : Event) (e : Entity) : Option Entity :=
  (c.hub.session? p.1 p.2).bind fun s => answerOf (s.rules.getD c.hub.rules) ev e

theorem Client.answerAt_of_session? {c : Client} {g i : Nat} {s : Session}
    (hs : c.hub.session? g i = some s) (ev : Event) (e : Entity) :
    c.answerAt (g, i) ev e = answerOf (s.rules.getD c.hub.rules) ev e := by
  simp [Client.answerAt, hs]

@[simp] theorem Client.answerAt_recordAt (c : Client) (g i : Nat) (o : Outbound)
    (p : Nat × Nat) (ev : Event) (e : Entity) :
    (c.recordAt g i o).answerAt p ev e = c.answerAt p ev e := by
  simp only [Client.answerAt, Client.recordAt, Hub.session?_updateSession, Hub.rules_updateSession]
  split
  · cases c.hub.session? p.1 p.2 <;> rfl
  · rfl

theorem forM_eq_ok_iff {ε α : Type} {xs : List α} {f : α → Except ε Unit} :
    xs.forM f = .ok () ↔ ∀ x ∈ xs, f x = .ok () := by
  induction xs with
  | nil => simp [List.forM, pure, Except.pure]
  | cons x xs ih =>
    show (f x >>= fun _ => xs.forM f) = _ ↔ _
    cases hx : f x with
    | error err => simp [hx, bind, Except.bind]
    | ok u => simpa [hx, bind, Except.bind] using ih

namespace Op

/-! ### Outcomes of confirmed requests -/

theorem confirmOutcome_eq_ok_iff (op : String) (t : Duration) (r : Entity) :
    confirmOutcome op t (some r) = .ok () ↔ isConfirmed r = true := by
  unfold confirmOutcome
  cases h : isConfirmed r <;> simp [h]

theorem confirmOutcome_eq_ok (op : String) (t : Duration) (answer : Option Entity) :
    confirmOutcome op t answer = .ok () ↔ ∃ r, answer = some r ∧ isConfirmed r = true := by
  cases answer with
  | none => simp [confirmOutcome]
  | some r => simp [confirmOutcome_eq_ok_iff]

theorem confirmOutcome_of_not_confirmed {r : Entity} (h : isConfirmed r = false) (op : String)
    (t : Duration) :
    confirmOutcome op t (some r) = .error (.confirmFailed op r.text) ∧
      (ClientError.confirmFailed op r.text).isConnectivity = false := by
  simp [confirmOutcome, h, ClientError.isConnectivity]

theorem confirmOutcome_none (op : String) (t : Duration) :
    confirmOutcome op t none = .error (.transport (.timeout t)) ∧
      (ClientError.transport (.timeout t)).isConnectivity = true := ⟨rfl, rfl⟩

/-! ### Publishing, unpublishing and settling -/

/-- A confirmed publish comes to the answer of the session its routing key picks. -/
theorem publish_result {t : String} {m : Message} {c c₁ : Client} {a : Attachment} {g i : Nat}
    (hq : m.qos = .atLeastOnce) (ht : Topic.Valid t) (hk : Topic.Valid m.key)
    (hns : ∀ ns ∈ c.space, Topic.Valid ns) (ha : c.attached = some a)
    (hpick : exec (pickSession (m.routingKey (Topic.full (c.space.getD "") t))) c =
      (.ok (g, i), c₁)) :
    (exec (publish t m) c).1 = confirmOutcome "publish" a.requestTimeout
      (c.answerAt (g, i) .publish (m.publishEntity (Topic.full (c.space.getD "") t))) := by
  obtain ⟨s, hs, -⟩ := valid_of_pickSession hpick
  rw [exec_publish ht hk hns ha hpick hs, c.answerAt_of_session? hs]
  simp only [hq]

theorem unpublish_result {t key : String} {c c₁ : Client} {a : Attachment} {g i : Nat}
    (ht : Topic.Valid t) (hk : Topic.Valid key) (hns : ∀ ns ∈ c.space, Topic.Valid ns)
    (ha : c.attached = some a) (hpick : exec (pickSession none) c = (.ok (g, i), c₁)) :
    (exec (unpublish t key) c).1 = confirmOutcome "unpublish" a.requestTimeout
      (c.answerAt (g, i) .unpublish (({} : Entity).put Meta.topic (Topic.full (c.space.getD "") t)
        |>.put Meta.key key |>.addressTo Meta.serverAll)) := by
  obtain ⟨s, hs, -⟩ := valid_of_pickSession hpick
  rw [exec_unpublish ht hk hns ha hpick hs, c.answerAt_of_session? hs]

theorem settle_result {tmid : String} {keys : List String} (rollback : Bool) {c c₁ : Client}
    {a : Attachment} {g i : Nat} (hkeys : keys ≠ []) (ha : c.attached = some a)
    (hpick : exec (pickSession (some tmid)) c = (.ok (g, i), c₁)) :
    (exec (settle tmid keys rollback) c).1 = confirmOutcome "publish2" a.requestTimeout
      (c.answerAt (g, i) .publish2 (settleEntity keys rollback)) := by
  obtain ⟨s, hs, -⟩ := valid_of_pickSession hpick
  rw [exec_settle rollback hkeys ha hpick hs, c.answerAt_of_session? hs]

/-! ### Subscriptions and openings -/

/-- **Subscribing on each session.** A subscribe or an unsubscribe asks the first open session
of its list: when the answer confirms, it goes on with the rest; otherwise it ends there, with
the failure the answer makes. -/
theorem exec_broadcast_cons {g i : Nat} {s : Session} {c : Client}
    (hs : c.hub.session? g i = some s) (hv : s.valid = true) (ev : Event) (topic group : String)
    (ps : List (Nat × Nat)) :
    exec (broadcast ((g, i) :: ps) ev topic group) c =
      let e := subscriptionEntity topic group
      match confirmOutcome ev.wireName c.subscribeTimeout (answerOf (s.rules.getD c.hub.rules) ev e)
      with
      | .ok () => exec (broadcast ps ev topic group) (c.recordAt g i (.request ev e))
      | .error err => (.error err, c.recordAt g i (.request ev e)) := by
  unfold broadcast
  rw [exec_bind, exec_forIn_cons, exec_bind, exec_get]
  dsimp only
  rw [← bind_assoc, exec_bind, exec_confirmedRequest hs hv,
    show ((({} : Entity).put Meta.topic topic).put Meta.group group).addressTo Meta.serverAll =
      subscriptionEntity topic group from rfl]
  cases confirmOutcome ev.wireName c.subscribeTimeout
    (answerOf (s.rules.getD c.hub.rules) ev (subscriptionEntity topic group)) with
  | ok u => rw [exec_bind]; rfl
  | error err => rfl

/-- A subscribe or an unsubscribe on open sessions asks them in order and comes to the first
confirmation that fails, or succeeds when every one of them confirms. -/
theorem broadcast_result (ev : Event) (topic group : String) :
    ∀ (ps : List (Nat × Nat)) (c : Client),
      (∀ p ∈ ps, ∃ s, c.hub.session? p.1 p.2 = some s ∧ s.valid = true) →
      (exec (broadcast ps ev topic group) c).1 =
        ps.forM fun p => confirmOutcome ev.wireName c.subscribeTimeout
          (c.answerAt p ev (subscriptionEntity topic group))
  | [], _, _ => rfl
  | (g, i) :: ps, c, hps => by
    obtain ⟨s, hs, hv⟩ := hps (g, i) List.mem_cons_self
    rw [exec_broadcast_cons hs hv, List.forM, c.answerAt_of_session? hs]
    dsimp only
    cases confirmOutcome ev.wireName c.subscribeTimeout
      (answerOf (s.rules.getD c.hub.rules) ev (subscriptionEntity topic group)) with
    | error err => rfl
    | ok u =>
      -- the sessions after the first stay where they were, open
      have hrest : ∀ p ∈ ps, ∃ s', (c.recordAt g i (.request ev (subscriptionEntity topic group))).hub.session?
          p.1 p.2 = some s' ∧ s'.valid = true := by
        intro p hp
        obtain ⟨s', hs', hv'⟩ := hps p (List.mem_cons_of_mem _ hp)
        simp only [Client.recordAt, Hub.session?_updateSession]
        split
        · exact ⟨_, by rw [hs']; rfl, by simpa using hv'⟩
        · exact ⟨s', hs', hv'⟩
      rw [broadcast_result ev topic group ps _ hrest]
      simp only [Client.answerAt_recordAt]
      rfl

theorem broadcast_ok_iff (ev : Event) (topic group : String) {ps : List (Nat × Nat)}
    {c : Client} (hps : ∀ p ∈ ps, ∃ s, c.hub.session? p.1 p.2 = some s ∧ s.valid = true) :
    (exec (broadcast ps ev topic group) c).1 = .ok () ↔
      ∀ p ∈ ps, ∃ r, c.answerAt p ev (subscriptionEntity topic group) = some r ∧
        isConfirmed r = true := by
  rw [broadcast_result ev topic group ps c hps, forM_eq_ok_iff]
  simp only [confirmOutcome_eq_ok]

theorem open_sessions_of_openPlaces (c : Client) :
    ∀ p ∈ c.openPlaces, ∃ s, c.hub.session? p.1 p.2 = some s ∧ s.valid = true := by
  intro p hp
  obtain ⟨a, -, hpa, s, hs, hv⟩ := mem_openPlaces.1 hp
  exact ⟨s, hpa ▸ hs, hv⟩

theorem subscribe_result {t full grp : String} {g? : Option String} (a? : Option Bool)
    (hd : Handler) {c : Client} (h : c.target? t g? = some (full, grp)) :
    (exec (subscribe t g? a? hd) c).1 = c.openPlaces.forM fun p =>
      confirmOutcome "subscribe" c.subscribeTimeout
        (c.answerAt p .subscribe (subscriptionEntity full grp)) := by
  rw [exec_subscribe_some a? hd h]
  exact broadcast_result _ _ _ _ _ (open_sessions_of_openPlaces c)

theorem unsubscribe_result {t full grp : String} {g? : Option String} {c : Client}
    (h : c.target? t g? = some (full, grp)) :
    (exec (unsubscribe t g?) c).1 = c.openPlaces.forM fun p =>
      confirmOutcome "unsubscribe" c.subscribeTimeout
        (c.answerAt p .unsubscribe (subscriptionEntity full grp)) := by
  rw [exec_unsubscribe_some h]
  exact broadcast_result _ _ _ _ _ (open_sessions_of_openPlaces c)

/-- **Opening a session.** A session that opens while the registry holds subscriptions is sent
the whole queue map as one batched subscribe, which comes to what its answer says. -/
theorem exec_resubscribe {g i : Nat} {s : Session} {c : Client}
    (hs : c.hub.session? g i = some s) (hv : s.valid = true) (hr : c.registry.isEmpty = false) :
    exec (resubscribe g i) c =
      let e := c.registry.queues.subscribeEntity
      (confirmOutcome "subscribe" c.subscribeTimeout (answerOf (s.rules.getD c.hub.rules) .subscribe e),
        c.recordAt g i (.request .subscribe e)) := by
  unfold resubscribe
  rw [exec_bind, exec_get]
  dsimp only
  rw [hr, if_neg Bool.false_ne_true, exec_confirmedRequest hs hv]

theorem resubscribe_result {g i : Nat} {s : Session} {c : Client}
    (hs : c.hub.session? g i = some s) (hv : s.valid = true) (hr : c.registry.isEmpty = false) :
    (exec (resubscribe g i) c).1 = confirmOutcome "subscribe" c.subscribeTimeout
      (c.answerAt (g, i) .subscribe c.registry.queues.subscribeEntity) := by
  rw [exec_resubscribe hs hv hr, c.answerAt_of_session? hs]

end Op

/-- **Confirmed requests.** An answer confirms exactly when its trimmed `mq.confirm` meta is an
optional plus sign, zeros and a final `1`. A request the client must have confirmed comes to its
answer: success when the answer confirms, else a failed confirmation carrying the answer's body,
which is no connectivity error, and a timeout, which is one, when no answer comes. Such requests
are a confirmed publish, an unpublish, a subscribe and an unsubscribe asked of each open session
in turn, a commit or a rollback with keys (a settle), and the batched subscribe of a session that
opens. A publish or a send of a message sent at most once whose checks pass is one send on the
picked session, and succeeds. -/
theorem confirmed_requests_follow_answers :
    (∀ r : Entity, isConfirmed r = true ↔
      ∃ k, (Text.trimBlank (r.metaOr Meta.confirm "0")).toList = List.replicate k '0' ++ ['1'] ∨
        (Text.trimBlank (r.metaOr Meta.confirm "0")).toList =
          '+' :: (List.replicate k '0' ++ ['1'])) ∧
    (∀ (op : String) (t : Duration) (r : Entity),
      (Op.confirmOutcome op t (some r) = .ok () ↔ isConfirmed r = true) ∧
      (isConfirmed r = false → Op.confirmOutcome op t (some r) = .error (.confirmFailed op r.text) ∧
        (ClientError.confirmFailed op r.text).isConnectivity = false)) ∧
    (∀ (op : String) (t : Duration), Op.confirmOutcome op t none = .error (.transport (.timeout t)) ∧
      (ClientError.transport (.timeout t)).isConnectivity = true) ∧
    (∀ (t : String) (m : Message) (c c₁ : Client) (a : Attachment) (g i : Nat),
      m.qos = .atLeastOnce → Topic.Valid t → Topic.Valid m.key →
      (∀ ns ∈ c.space, Topic.Valid ns) → c.attached = some a →
      Op.exec (Op.pickSession (m.routingKey (Topic.full (c.space.getD "") t))) c =
        (.ok (g, i), c₁) →
      (Op.exec (Op.publish t m) c).1 = Op.confirmOutcome "publish" a.requestTimeout
        (c.answerAt (g, i) .publish (m.publishEntity (Topic.full (c.space.getD "") t)))) ∧
    (∀ (t key : String) (c c₁ : Client) (a : Attachment) (g i : Nat),
      Topic.Valid t → Topic.Valid key → (∀ ns ∈ c.space, Topic.Valid ns) → c.attached = some a →
      Op.exec (Op.pickSession none) c = (.ok (g, i), c₁) →
      (Op.exec (Op.unpublish t key) c).1 = Op.confirmOutcome "unpublish" a.requestTimeout
        (c.answerAt (g, i) .unpublish (({} : Entity).put Meta.topic
          (Topic.full (c.space.getD "") t) |>.put Meta.key key |>.addressTo Meta.serverAll))) ∧
    (∀ (t full grp : String) (g? : Option String) (a? : Option Bool) (hd : Handler) (c : Client),
      c.target? t g? = some (full, grp) →
      (Op.exec (Op.subscribe t g? a? hd) c).1 = c.openPlaces.forM fun p =>
        Op.confirmOutcome "subscribe" c.subscribeTimeout
          (c.answerAt p .subscribe (subscriptionEntity full grp))) ∧
    (∀ (t full grp : String) (g? : Option String) (c : Client),
      c.target? t g? = some (full, grp) →
      (Op.exec (Op.unsubscribe t g?) c).1 = c.openPlaces.forM fun p =>
        Op.confirmOutcome "unsubscribe" c.subscribeTimeout
          (c.answerAt p .unsubscribe (subscriptionEntity full grp))) ∧
    (∀ (tmid : String) (keys : List String) (rollback : Bool) (c c₁ : Client) (a : Attachment)
      (g i : Nat), keys ≠ [] → c.attached = some a →
      Op.exec (Op.pickSession (some tmid)) c = (.ok (g, i), c₁) →
      (Op.exec (Op.settle tmid keys rollback) c).1 = Op.confirmOutcome "publish2" a.requestTimeout
        (c.answerAt (g, i) .publish2 (Op.settleEntity keys rollback))) ∧
    (∀ (g i : Nat) (s : Session) (c : Client), c.hub.session? g i = some s → s.valid = true →
      c.registry.isEmpty = false →
      (Op.exec (Op.resubscribe g i) c).1 = Op.confirmOutcome "subscribe" c.subscribeTimeout
        (c.answerAt (g, i) .subscribe c.registry.queues.subscribeEntity)) ∧
    (∀ (t : String) (m : Message) (c c₁ : Client) (a : Attachment) (g i : Nat),
      m.qos = .atMostOnce → Topic.Valid t → Topic.Valid m.key →
      (∀ ns ∈ c.space, Topic.Valid ns) → c.attached = some a →
      Op.exec (Op.pickSession (m.routingKey (Topic.full (c.space.getD "") t))) c =
        (.ok (g, i), c₁) →
      Op.exec (Op.publish t m) c =
        (.ok (), c₁.recordAt g i (.send .publish (m.publishEntity (Topic.full (c.space.getD "") t))))) ∧
    (∀ (m : Message) (peer : String) (timeout : Option Duration) (c c₁ : Client) (n : String)
      (g i : Nat), m.qos = .atMostOnce → c.name = some n → Topic.Valid peer →
      Op.exec (Op.pickSession none) c = (.ok (g, i), c₁) →
      Op.exec (Op.sendTo m peer timeout) c = (.ok none, c₁.recordAt g i
        (.send .request (((m.sentBy n).publishEntity "").put Meta.group peer |>.addressTo peer)))) := by
  refine ⟨isConfirmed_iff, fun op t r => ⟨Op.confirmOutcome_eq_ok_iff op t r,
    fun h => Op.confirmOutcome_of_not_confirmed h op t⟩, Op.confirmOutcome_none, ?_, ?_, ?_, ?_, ?_,
    ?_, ?_, ?_⟩
  · intro t m c c₁ a g i hq ht hk hns ha hpick
    exact Op.publish_result hq ht hk hns ha hpick
  · intro t key c c₁ a g i ht hk hns ha hpick
    exact Op.unpublish_result ht hk hns ha hpick
  · intro t full grp g? a? hd c h
    exact Op.subscribe_result a? hd h
  · intro t full grp g? c h
    exact Op.unsubscribe_result h
  · intro tmid keys rollback c c₁ a g i hkeys ha hpick
    exact Op.settle_result rollback hkeys ha hpick
  · intro g i s c hs hv hr
    exact Op.resubscribe_result hs hv hr
  · intro t m c c₁ a g i hq ht hk hns ha hpick
    -- a message sent at most once picks its session as any other, then is only sent
    obtain ⟨s, hs, -⟩ := Op.valid_of_pickSession hpick
    rw [Op.exec_publish ht hk hns ha hpick hs]
    simp only [hq]
  · intro m peer timeout c c₁ n g i hq hn hp hpick
    obtain ⟨s, hs, -⟩ := Op.valid_of_pickSession hpick
    exact Op.exec_sendTo_atMostOnce hq hn hp hpick hs

/-- An unpublish on a client attached to one open session asks that session. -/
theorem confirmed_requests_follow_answers_example :
    let c : Client :=
      { urls := [], attached := some ⟨0, ⟨10000⟩⟩,
        hub := { width := 1, groups := [⟨[{ id := "s0" }], 0⟩] } }
    (Op.exec (Op.unpublish "orders" "k1") c).1 = Op.confirmOutcome "unpublish" ⟨10000⟩
      (c.answerAt (0, 0) .unpublish (({} : Entity).put Meta.topic "orders" |>.put Meta.key "k1"
        |>.addressTo Meta.serverAll)) := by
  intro c
  have ht : Topic.Valid "orders" := ⟨by simp, by simp [Topic.reserved]⟩
  have hk : Topic.Valid "k1" := ⟨by simp, by simp [Topic.reserved]⟩
  exact confirmed_requests_follow_answers.2.2.2.2.1 "orders" "k1" c _ ⟨0, ⟨10000⟩⟩ 0 0 ht hk
    (fun _ h => nomatch h) rfl rfl

end BrokerClient
