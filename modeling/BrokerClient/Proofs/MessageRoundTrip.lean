import BrokerClient.Proofs.Metas
import BrokerClient.Inbound
import BrokerClient.Message
/-!
A published message read back. The publish entity of a message is its header metas (id, key,
topic, quality of service, schedule), then the metas that apply to it (expiry, ordering,
transaction, sender, one per attribute, named with a leading `!`), then the address of the
broker, put in that order. No two of those names meet, so each meta reads back what the message
holds (`meta?_publishEntity_*`). A receiver of a frame with that entity therefore reports the
message's id, key, topic, quality of service, sender, body and attributes
(`received_publishEntity`); the attributes come back as the same sorted entries, because the
received list is sorted and gives every name the value the message gives it (`Metas.Sorted.ext`).
The transaction id comes back only when it is not empty: the receiver reads an empty one as no
transaction.
-/

namespace BrokerClient

/-! ### Names of metas -/

theorem attr_ne_of_head {k : String} (hk : k.toList.head? ≠ some '!') (n : String) :
    Meta.attrPrefix ++ n ≠ k := by
  rintro rfl
  exact hk (by simp [Meta.attrPrefix])

theorem attr_inj {a b : String} : Meta.attrPrefix ++ a = Meta.attrPrefix ++ b ↔ a = b := by
  constructor
  · intro h
    simpa [Meta.attrPrefix] using h
  · rintro rfl
    rfl

theorem lookup_attrMetas (l : List (String × String)) (n : String) :
    (l.map fun (a, v) => (Meta.attrPrefix ++ a, v)).lookup (Meta.attrPrefix ++ n) = l.lookup n := by
  induction l with
  | nil => rfl
  | cons p l ih =>
    obtain ⟨a, v⟩ := p
    by_cases h : n = a
    · subst h
      simp
    · have hne : Meta.attrPrefix ++ n ≠ Meta.attrPrefix ++ a := fun he => h (attr_inj.1 he)
      simp [h, hne, ih]

theorem lookup_attrMetas_of_head {k : String} (hk : k.toList.head? ≠ some '!')
    (l : List (String × String)) :
    (l.map fun (a, v) => (Meta.attrPrefix ++ a, v)).lookup k = none := by
  rw [List.lookup_eq_none_iff]
  rintro ⟨_, v⟩ hp
  obtain ⟨⟨a, w⟩, -, he⟩ := List.mem_map.1 hp
  cases he
  simpa using (attr_ne_of_head hk a).symm

namespace Message

/-! ### Built messages -/

theorem attrs_apply (b : Builder) (m : Message) :
    (b.apply m).attrs = m.attrs ∨ ∃ n v, (b.apply m).attrs = m.attrs.put n v := by
  cases b with
  | attr n v => exact .inr ⟨n, v, rfl⟩
  | _ => exact .inl rfl

/-- A built message lists its attributes sorted by name, each once. -/
theorem sorted_attrs_build (tid : String) (body : List UInt8) (calls : List Builder) :
    (build tid body calls).attrs.Sorted := by
  unfold build
  -- each call keeps the attributes or puts one, and putting keeps them sorted
  suffices h : ∀ (m : Message), m.attrs.Sorted →
      (calls.foldl (fun m b => b.apply m) m).attrs.Sorted from h _ Metas.sorted_empty
  induction calls with
  | nil => exact fun m hm => hm
  | cons b calls ih =>
    intro m hm
    apply ih
    rcases attrs_apply b m with h | ⟨n, v, h⟩
    · rwa [h]
    · rw [h]
      exact hm.put n v

/-! ### Metas of the publish entity -/

/-- The metas every publish entity carries, in the order they are put. -/
def headerMetas (m : Message) (fullTopic : String) : List (String × String) :=
  [(Meta.tid, m.tid), (Meta.key, m.key), (Meta.topic, fullTopic), (Meta.qos, m.qos.flag),
    (Meta.scheduled, match m.scheduled with
      | some s => Text.intText s
      | none => "0")]

/-- The publish entity puts the header metas, the metas that apply and the address, in order, on
the body. -/
theorem publishEntity_eq (m : Message) (t : String) :
    m.publishEntity t =
      { metas := Metas.ofList (m.headerMetas t ++ m.optionalMetas ++ [(Meta.target, Meta.server)]),
        body := m.body } := by
  simp only [publishEntity, Entity.addressTo, Entity.foldl_put, Metas.ofList, List.foldl_append]
  rfl

theorem meta?_publishEntity (m : Message) (t k : String) :
    (m.publishEntity t).meta? k =
      (((m.headerMetas t ++ m.optionalMetas ++ [(Meta.target, Meta.server)]).reverse).lookup k) := by
  rw [publishEntity_eq]
  simp only [Entity.meta?, Metas.ofList, Metas.get?_foldl_put]
  simp [Metas.get?, Metas.empty]

theorem body_publishEntity (m : Message) (t : String) : (m.publishEntity t).body = m.body := by
  rw [publishEntity_eq]

theorem name_mem_optionalMetas {m : Message} {p : String × String} (hp : p ∈ m.optionalMetas) :
    p.1 ∈ [Meta.expiration, Meta.sequence, Meta.sharding, Meta.transaction, Meta.sender] ∨
      ∃ a, p.1 = Meta.attrPrefix ++ a := by
  unfold optionalMetas at hp
  simp only [List.mem_append] at hp
  rcases hp with (((h | h) | h) | h) | h
  · cases he : m.expiration <;> simp_all
  · -- the ordering marks, with the sharding key when there is one
    cases hs : m.sequence
    · simp [hs] at h
    · cases hp : m.sharding with
      | none =>
        simp only [hs, hp, if_true, List.mem_singleton] at h
        simp [h]
      | some k =>
        simp only [hs, hp, if_true, List.mem_cons, List.not_mem_nil,
          or_false] at h
        rcases h with rfl | rfl <;> simp
  · cases ht : m.tmid <;> simp_all
  · cases hs : m.sender <;> simp_all
  · obtain ⟨⟨a, v⟩, -, rfl⟩ := List.mem_map.1 h
    exact .inr ⟨a, rfl⟩

theorem lookup_optional_header {m : Message} {k : String}
    (hk : k ∈ [Meta.tid, Meta.key, Meta.topic, Meta.qos, Meta.scheduled]) :
    ([(Meta.target, Meta.server)] ++ m.optionalMetas.reverse).lookup k = none := by
  simp only [List.mem_cons, List.not_mem_nil, or_false] at hk
  have hhead : k.toList.head? ≠ some '!' := by
    rcases hk with rfl | rfl | rfl | rfl | rfl <;> decide
  have hplain : ∀ x ∈ [Meta.expiration, Meta.sequence, Meta.sharding, Meta.transaction,
      Meta.sender], k ≠ x := by
    rcases hk with rfl | rfl | rfl | rfl | rfl <;> decide
  have htarget : k ≠ Meta.target := by
    rcases hk with rfl | rfl | rfl | rfl | rfl <;> decide
  rw [List.lookup_eq_none_iff]
  intro p hp
  rw [List.mem_append, List.mem_reverse, List.mem_singleton] at hp
  have hne : k ≠ p.1 := by
    rcases hp with rfl | hp
    · exact htarget
    · rcases name_mem_optionalMetas hp with hx | ⟨a, ha⟩
      · exact hplain p.1 hx
      · rw [ha]
        exact (attr_ne_of_head hhead a).symm
  simpa using hne

theorem meta?_publishEntity_header {m : Message} {t k : String}
    (hk : k ∈ [Meta.tid, Meta.key, Meta.topic, Meta.qos, Meta.scheduled]) :
    (m.publishEntity t).meta? k = (m.headerMetas t).reverse.lookup k := by
  rw [meta?_publishEntity, List.reverse_append, List.reverse_append, ← List.append_assoc,
    List.lookup_append, List.reverse_singleton, lookup_optional_header hk, Option.none_or]

theorem meta?_publishEntity_tid (m : Message) (t : String) :
    (m.publishEntity t).meta? Meta.tid = some m.tid := by
  rw [meta?_publishEntity_header (by simp)]
  simp [headerMetas, Meta.tid, Meta.key, Meta.topic, Meta.qos, Meta.scheduled]

theorem meta?_publishEntity_key (m : Message) (t : String) :
    (m.publishEntity t).meta? Meta.key = some m.key := by
  rw [meta?_publishEntity_header (by simp)]
  simp [headerMetas, Meta.key, Meta.topic, Meta.qos, Meta.scheduled]

theorem meta?_publishEntity_topic (m : Message) (t : String) :
    (m.publishEntity t).meta? Meta.topic = some t := by
  rw [meta?_publishEntity_header (by simp)]
  simp [headerMetas, Meta.topic, Meta.qos, Meta.scheduled]

theorem meta?_publishEntity_qos (m : Message) (t : String) :
    (m.publishEntity t).meta? Meta.qos = some m.qos.flag := by
  rw [meta?_publishEntity_header (by simp)]
  simp [headerMetas, Meta.qos, Meta.scheduled]

theorem meta?_publishEntity_optional {m : Message} {t k : String}
    (hk : k ∈ [Meta.transaction, Meta.sender]) :
    (m.publishEntity t).meta? k = m.optionalMetas.reverse.lookup k := by
  have hheader : (m.headerMetas t).reverse.lookup k = none := by
    simp only [List.mem_cons, List.not_mem_nil, or_false] at hk
    rcases hk with rfl | rfl <;>
      simp [headerMetas, Meta.transaction, Meta.sender, Meta.tid, Meta.key, Meta.topic, Meta.qos,
        Meta.scheduled]
  have htarget : k ≠ Meta.target := by
    simp only [List.mem_cons, List.not_mem_nil, or_false] at hk
    rcases hk with rfl | rfl <;> decide
  rw [meta?_publishEntity, List.reverse_append, List.reverse_append, List.lookup_append,
    List.lookup_append, hheader, Option.or_none]
  simp [htarget]

theorem lookup_optionalMetas_transaction (m : Message) :
    m.optionalMetas.reverse.lookup Meta.transaction = m.tmid := by
  unfold optionalMetas
  simp only [List.reverse_append, List.lookup_append, ← List.map_reverse,
    lookup_attrMetas_of_head (k := Meta.transaction) (by decide)]
  -- only the transaction mark has this name, whichever of the others apply
  cases m.expiration <;> cases m.sequence <;> cases m.sharding <;> cases m.tmid <;>
    cases m.sender <;>
    simp [Meta.transaction, Meta.sender, Meta.sequence, Meta.sharding, Meta.expiration]

theorem lookup_optionalMetas_sender (m : Message) :
    m.optionalMetas.reverse.lookup Meta.sender = m.sender := by
  unfold optionalMetas
  simp only [List.reverse_append, List.lookup_append, ← List.map_reverse,
    lookup_attrMetas_of_head (k := Meta.sender) (by decide)]
  cases m.expiration <;> cases m.sequence <;> cases m.sharding <;> cases m.tmid <;>
    cases m.sender <;>
    simp [Meta.transaction, Meta.sender, Meta.sequence, Meta.sharding, Meta.expiration]

theorem lookup_optionalMetas_attr {m : Message} (h : m.attrs.Sorted) (n : String) :
    m.optionalMetas.reverse.lookup (Meta.attrPrefix ++ n) = m.attrs.get? n := by
  have hplain : ∀ x ∈ [Meta.expiration, Meta.sequence, Meta.sharding, Meta.transaction,
      Meta.sender], Meta.attrPrefix ++ n ≠ x := by
    intro x hx
    exact attr_ne_of_head (by revert x; decide) n
  unfold optionalMetas
  simp only [List.reverse_append, List.lookup_append, ← List.map_reverse, lookup_attrMetas,
    Metas.lookup_reverse_of_sorted h]
  simp only [List.mem_cons, List.not_mem_nil, or_false, forall_eq_or_imp, forall_eq] at hplain
  obtain ⟨h1, h2, h3, h4, h5⟩ := hplain
  -- the other metas that apply have names of their own, which no attribute takes
  cases m.expiration <;> cases m.sequence <;> cases m.sharding <;> cases m.tmid <;>
    cases m.sender <;> simp [h1, h2, h3, h4, h5, Metas.get?]

theorem meta?_publishEntity_attr {m : Message} (h : m.attrs.Sorted) (t n : String) :
    (m.publishEntity t).meta? (Meta.attrPrefix ++ n) = m.attrs.get? n := by
  have hheader : (m.headerMetas t).reverse.lookup (Meta.attrPrefix ++ n) = none := by
    rw [List.lookup_eq_none_iff]
    intro p hp
    have hname : p.1 ∈ [Meta.tid, Meta.key, Meta.topic, Meta.qos, Meta.scheduled] :=
      List.mem_map_of_mem (f := Prod.fst) (List.mem_reverse.1 hp)
    have hheads : ∀ x ∈ [Meta.tid, Meta.key, Meta.topic, Meta.qos, Meta.scheduled],
        x.toList.head? ≠ some '!' := by decide
    have hne : Meta.attrPrefix ++ n ≠ p.1 := attr_ne_of_head (hheads p.1 hname) n
    simpa using hne
  have htarget : Meta.attrPrefix ++ n ≠ Meta.target := attr_ne_of_head (by decide) n
  rw [meta?_publishEntity, List.reverse_append, List.reverse_append, List.lookup_append,
    List.lookup_append, hheader, Option.or_none, lookup_optionalMetas_attr h]
  simp [htarget]

theorem sorted_publishEntity (m : Message) (t : String) : (m.publishEntity t).metas.Sorted := by
  rw [publishEntity_eq]
  exact Metas.sorted_empty.foldl_put _

end Message

theorem Qos.ofFlag_flag (q : Qos) : Qos.ofFlag q.flag = q := by
  cases q <;> decide

/-! ### Reading a message back -/

namespace Inbound

theorem attr_lt_attr {a b : String} : Meta.attrPrefix ++ a < Meta.attrPrefix ++ b ↔ a < b := by
  simp only [String.lt_iff_toList_lt, String.toList_append]
  show '!' :: a.toList < '!' :: b.toList ↔ _
  simp

theorem eq_attr_of_toList {k : String} {rest : List Char} (h : k.toList = '!' :: rest) :
    k = Meta.attrPrefix ++ String.ofList rest := by
  apply String.toList_inj.1
  simp [h, Meta.attrPrefix]

theorem lookup_attrs (m : Inbound) (n : String) : m.attrs.lookup n = m.attr? n := by
  unfold attrs attr? Entity.meta? Metas.get?
  induction m.frame.entity.metas.entries with
  | nil => rfl
  | cons p l ih =>
    obtain ⟨k, v⟩ := p
    cases hk : k.toList with
    | nil =>
      have hne : Meta.attrPrefix ++ n ≠ k := attr_ne_of_head (by simp [hk]) n
      simp [hk, hne, ih]
    | cons c rest =>
      by_cases hc : c = '!'
      · -- a meta named with `!`: it is the attribute named by the rest of its name
        subst hc
        simp only [List.filterMap_cons, hk]
        rw [eq_attr_of_toList hk]
        by_cases hn : n = String.ofList rest
        · subst hn
          simp
        · have hne : Meta.attrPrefix ++ n ≠ Meta.attrPrefix ++ String.ofList rest :=
            fun he => hn (attr_inj.1 he)
          simp [hn, hne, ih]
      · -- any other meta is no attribute
        have hne : Meta.attrPrefix ++ n ≠ k := attr_ne_of_head (by simp [hk, hc]) n
        simp [hk, hc, hne, ih]

theorem eq_attr_of_kept {k v a w : String}
    (hf : (match k.toList with
      | '!' :: rest => some (String.ofList rest, v)
      | _ => none) = some (a, w)) : k = Meta.attrPrefix ++ a := by
  cases hk : k.toList with
  | nil => simp [hk] at hf
  | cons c rest =>
    by_cases hc : c = '!'
    · subst hc
      simp only [hk, Option.some.injEq, Prod.mk.injEq] at hf
      rw [eq_attr_of_toList hk, hf.1]
    · simp [hk, hc] at hf

theorem sorted_attrs {m : Inbound} (h : m.frame.entity.metas.Sorted) :
    (m.attrs.map Prod.fst).Pairwise (· < ·) := by
  unfold attrs
  rw [List.pairwise_map]
  refine List.Pairwise.filterMap _ ?_ (List.pairwise_map.1 h)
  rintro ⟨k, v⟩ ⟨k', v'⟩ hlt ⟨a, w⟩ ha ⟨a', w'⟩ ha'
  -- both metas are named with `!`, and the rests of their names keep their order
  rw [eq_attr_of_kept ha, eq_attr_of_kept ha'] at hlt
  exact attr_lt_attr.1 hlt

end Inbound

theorem tmid_received (m : Message) (t sessionId sid event : String) :
    (⟨sessionId, ⟨sid, event, m.publishEntity t⟩⟩ : Inbound).tmid = m.tmid.filter (!·.isEmpty) := by
  simp only [Inbound.tmid, Message.meta?_publishEntity_optional (k := Meta.transaction) (by simp),
    Message.lookup_optionalMetas_transaction]
  cases m.tmid with
  | none => rfl
  | some x => by_cases hx : x.isEmpty <;> simp [hx, Option.filter]

/-- **Round trip.** A frame whose entity is the publish entity of a message with sorted
attributes reads back as that message: id, key, topic, quality of service, sender, body and
attributes; its transaction id comes back when it is not empty. -/
theorem received_of_sorted {m : Message} (h : m.attrs.Sorted) (t sessionId sid event : String) :
    let r : Inbound := ⟨sessionId, ⟨sid, event, m.publishEntity t⟩⟩
    r.tid = m.tid ∧ r.key = m.key ∧ r.fullTopic = t ∧ r.qos = m.qos ∧ r.sender = m.sender ∧
      r.body = m.body ∧ r.attrs = m.attrs.entries ∧ (∀ n, r.attr? n = m.attrs.get? n) ∧
      r.tmid = m.tmid.filter (!·.isEmpty) ∧
      r.isTransaction = (m.tmid.filter (!·.isEmpty)).isSome := by
  intro r
  have hattr : ∀ n, r.attr? n = m.attrs.get? n := Message.meta?_publishEntity_attr h t
  have htmid : r.tmid = m.tmid.filter (!·.isEmpty) := tmid_received m t sessionId sid event
  refine ⟨?_, ?_, ?_, ?_, ?_, ?_, ?_, hattr, htmid, by rw [Inbound.isTransaction, htmid]⟩
  · simp [r, Inbound.tid, Inbound.field, Entity.metaOr, Message.meta?_publishEntity_tid]
  · simp [r, Inbound.key, Inbound.field, Entity.metaOr, Message.meta?_publishEntity_key]
  · simp [r, Inbound.fullTopic, Inbound.field, Entity.metaOr, Message.meta?_publishEntity_topic]
  · simp [r, Inbound.qos, Entity.metaOr, Message.meta?_publishEntity_qos, Qos.ofFlag_flag]
  · simp only [r, Inbound.sender, Message.meta?_publishEntity_optional (k := Meta.sender) (by simp),
      Message.lookup_optionalMetas_sender]
  · exact Message.body_publishEntity m t
  · -- both lists are sorted by name and agree on every name
    apply Metas.eq_of_lookup_eq (Inbound.sorted_attrs (Message.sorted_publishEntity m t)) h
    intro n
    rw [Inbound.lookup_attrs, hattr]
    rfl

/-- A message built by any builder calls, published on a topic, reads back as it was built,
except that an empty transaction id reads back as none. -/
theorem received_publishEntity (tid : String) (body : List UInt8) (calls : List Message.Builder)
    (t sessionId sid event : String) :
    let m := Message.build tid body calls
    let r : Inbound := ⟨sessionId, ⟨sid, event, m.publishEntity t⟩⟩
    r.tid = m.tid ∧ r.key = m.key ∧ r.fullTopic = t ∧ r.qos = m.qos ∧ r.sender = m.sender ∧
      r.body = m.body ∧ r.attrs = m.attrs.entries ∧ (∀ n, r.attr? n = m.attrs.get? n) ∧
      r.tmid = m.tmid.filter (!·.isEmpty) ∧
      r.isTransaction = (m.tmid.filter (!·.isEmpty)).isSome :=
  received_of_sorted (Message.sorted_attrs_build tid body calls) t sessionId sid event

/-- A message in a transaction with the empty id reads back as in no transaction. -/
theorem received_drops_empty_tmid :
    let m := Message.build "m1" [120] [.transaction ""]
    let r : Inbound := ⟨"s0", ⟨"sid-1", "distribute", m.publishEntity "orders"⟩⟩
    m.tmid = some "" ∧ r.tmid = none ∧ m.isTransaction = true ∧ r.isTransaction = false := by
  intro m r
  have hm : m.tmid = some "" := rfl
  have hr : r.tmid = none := by
    rw [tmid_received, hm]
    rfl
  exact ⟨hm, hr, by rw [Message.isTransaction, hm]; rfl, by rw [Inbound.isTransaction, hr]; rfl⟩

end BrokerClient
