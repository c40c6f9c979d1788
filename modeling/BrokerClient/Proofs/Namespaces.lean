import BrokerClient.Proofs.Operation
import BrokerClient.Proofs.MessageRoundTrip
/-!
# Namespaces

A topic is qualified by its namespace and a colon (`Topic.full`) and stripped by dropping
everything up to its first colon, unless the colon comes first (`Topic.bare`). On the characters:

* `Topic.bareChars_sep`: a nonempty word free of colons, a colon, then any rest; stripping gives
  the rest;
* `Topic.bareChars_eq_self_iff`: stripping changes nothing exactly when there is no colon or the
  colon comes first.

So stripping undoes qualifying by every namespace the parameter check accepts, and a topic that
starts with a namespace is that namespace's qualification of its stripped form. A message that a
client with a valid namespace publishes on a valid topic is read, on receipt, as published on that
very topic (`namespace_qualification_inverts`).
-/

namespace BrokerClient

namespace Topic

/-! ## Stripping, on the characters -/

theorem bareChars_sep {pre : List Char} (post : List Char) (hne : pre ≠ []) (hc : ':' ∉ pre) :
    bareChars (pre ++ ':' :: post) = post := by
  obtain ⟨c, cs, rfl⟩ := List.exists_cons_of_ne_nil hne
  have hcc : c ≠ ':' := fun h => hc (h ▸ List.mem_cons_self)
  have hcs : ∀ x ∈ cs, (x != ':') = true := by
    intro x hx
    have : x ≠ ':' := fun h => hc (List.mem_cons_of_mem c (h ▸ hx))
    simpa using this
  simp [bareChars, hcc, List.dropWhile_append_of_pos hcs]

theorem bareChars_eq_self_iff (cs : List Char) :
    bareChars cs = cs ↔ ':' ∉ cs ∨ cs.head? = some ':' := by
  cases cs with
  | nil => simp [bareChars]
  | cons c cs =>
    by_cases hc : c = ':'
    · simp [bareChars, hc]
    by_cases hcs : ':' ∈ cs
    · -- stripping drops at least the first character
      have hshort : (cs.dropWhile (· != ':')).tail.length < (c :: cs).length := by
        have := (List.dropWhile_suffix (· != ':') (l := cs)).length_le
        simp only [List.length_tail, List.length_cons]
        omega
      have hne : (cs.dropWhile (· != ':')).tail ≠ c :: cs :=
        fun h => Nat.lt_irrefl _ (h ▸ hshort)
      simp [bareChars, hc, hcs, hne, Ne.symm hc]
    · simp [bareChars, hc, hcs, Ne.symm hc]

/-! ## Qualifying and stripping -/

theorem toList_full {ns : String} (hne : ns ≠ "") (t : String) :
    (full ns t).toList = ns.toList ++ ':' :: t.toList := by
  have he : ns.isEmpty = false := by simpa using hne
  simp [full, he]

theorem bare_full {ns : String} (hne : ns ≠ "") (hc : ':' ∉ ns.toList) (t : String) :
    bare (full ns t) = t := by
  rw [bare, toList_full hne, bareChars_sep _ (by simpa using hne) hc, String.ofList_toList]

theorem bare_eq_self_iff (t : String) :
    bare t = t ↔ ':' ∉ t.toList ∨ t.toList.head? = some ':' := by
  rw [← bareChars_eq_self_iff, bare]
  constructor
  · intro h
    simpa using congrArg String.toList h
  · intro h
    rw [h, String.ofList_toList]

theorem bare_of_valid {t : String} (h : Valid t) : bare t = t :=
  (bare_eq_self_iff t).2 (.inl fun hm => h.2 ':' hm (by decide))

theorem full_of_valid_space {space : Option String} (h : ∀ ns ∈ space, Valid ns) {t : String}
    (ht : Valid t) : bare (full (space.getD "") t) = t := by
  cases space with
  | none => exact bare_of_valid ht
  | some ns =>
    have hns := h ns rfl
    exact bare_full hns.1 (fun hm => hns.2 ':' hm (by decide)) t

end Topic

/-- **Namespaces.** Stripping undoes qualifying by every nonempty namespace free of colons,
whatever the topic; the empty namespace qualifies nothing; stripping leaves a topic as it is
exactly when it has no colon or starts with one, so it leaves every valid parameter alone; a topic
whose first colon follows a nonempty word is that word's qualification of its stripped form. A
frame carrying what a client with a valid namespace publishes on a valid topic is received on that
topic. -/
theorem namespace_qualification_inverts :
    (∀ ns t : String, ns ≠ "" → ':' ∉ ns.toList → Topic.bare (Topic.full ns t) = t) ∧
    (∀ t : String, Topic.full "" t = t) ∧
    (∀ t : String, Topic.bare t = t ↔ ':' ∉ t.toList ∨ t.toList.head? = some ':') ∧
    (∀ t : String, Topic.Valid t → Topic.bare t = t) ∧
    (∀ pre post : String, pre ≠ "" → ':' ∉ pre.toList →
      Topic.full pre (Topic.bare (pre ++ ":" ++ post)) = pre ++ ":" ++ post) ∧
    (∀ (c : Client) (t : String) (m : Message) (sessionId sid event : String),
      (∀ ns ∈ c.space, Topic.Valid ns) → Topic.Valid t →
      (⟨sessionId, ⟨sid, event, m.publishEntity (Topic.full (c.space.getD "") t)⟩⟩ :
        Inbound).topic = t) := by
  refine ⟨fun ns t hne hc => Topic.bare_full hne hc t, fun t => rfl, Topic.bare_eq_self_iff,
    fun t ht => Topic.bare_of_valid ht, ?_, ?_⟩
  · intro pre post hne hc
    -- the topic is the qualification of what follows its first colon
    have hs : pre ++ ":" ++ post = Topic.full pre post := by
      simp [Topic.full, show pre.isEmpty = false by simpa using hne]
    rw [hs, Topic.bare_full hne hc]
  · intro c t m sessionId sid event hns ht
    simp only [Inbound.topic, Inbound.fullTopic, Inbound.field, Entity.metaOr,
      Message.meta?_publishEntity_topic, Option.getD_some]
    exact Topic.full_of_valid_space hns ht

/-- A namespace qualifies a topic that holds colons of its own, and stripping gives it back. -/
theorem namespace_qualification_inverts_example :
    ("prod" ≠ "" ∧ ':' ∉ "prod".toList) ∧
      Topic.bare (Topic.full "prod" "a:b") = "a:b" :=
  ⟨⟨by decide, by decide⟩,
    namespace_qualification_inverts.1 "prod" "a:b" (by decide) (by decide)⟩

end BrokerClient
