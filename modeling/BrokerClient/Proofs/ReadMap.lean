import BrokerClient.Proofs.QueueMap
import BrokerClient.Proofs.ReadString
/-!
The JSON of a queue map reads back as the map. An array of names reads back as those names in
order (`readNames_run`), and the object of topics as the map that sets each topic to its names,
one after another (`ofJson?_toJson`); for a well-formed map that is the map itself. So the body
of a batched subscribe decodes to the map it was made from (`ofEntity?_subscribeEntity`), which
it carries marked as a batch and addressed to the broker (`batched_subscribe_reads_back`). The
batch asks only one law of its body codec, `RoundTrips`: the entity builder and reader take the
codec as a parameter, and the round trip holds of every codec that meets it.

As for strings, each reader lemma runs on a cursor whose bytes are given up to a rest `r`; the
loops over names and over topics are proved past their first element, for every number of
elements left, with the fuel bound that the bytes left give.
-/

namespace BrokerClient.QueueMap

open Text.Utf8

/-! ### The bytes of the JSON -/

theorem encode_append (a b : String) : encode (a ++ b) = encode a ++ encode b := by
  simp only [encode_eq_flatMap, String.toList_append, List.flatMap_append]

theorem encode_intercalate_cons {γ : Type} (f : γ → String) :
    ∀ (y : γ) (ys : List γ), encode (",".intercalate ((y :: ys).map f)) =
      encode (f y) ++ ys.flatMap fun z => 0x2C :: encode (f z)
  | y, [] => by simp
  | y, z :: zs => by
    have hcomma : encode "," = [0x2C] := by rw [encode_eq_flatMap]; rfl
    rw [List.map_cons, List.map_cons, String.intercalate_cons_cons, ← List.map_cons,
      encode_append, encode_append, encode_intercalate_cons f z zs, List.flatMap_cons, hcomma]
    simp only [List.append_assoc, List.cons_append, List.nil_append]

/-- The bytes of an array of names, between its brackets. -/
def namesBytes (ns : List String) : List UInt8 := encode (",".intercalate (ns.map jsonString))

/-- The JSON of one topic with its names. -/
def entryText (e : String × List String) : String :=
  jsonString e.1 ++ ":[" ++ ",".intercalate (e.2.map jsonString) ++ "]"

theorem encode_entryText (e : String × List String) (r : List UInt8) :
    encode (entryText e) ++ r =
      encode (jsonString e.1) ++ 0x3A :: 0x5B :: (namesBytes e.2 ++ 0x5D :: r) := by
  have hopen : encode ":[" = [0x3A, 0x5B] := by rw [encode_eq_flatMap]; rfl
  have hclose : encode "]" = [0x5D] := by rw [encode_eq_flatMap]; rfl
  simp only [entryText, encode_append, hopen, hclose, namesBytes, List.append_assoc,
    List.cons_append, List.nil_append]

theorem toJson_eq (m : QueueMap) :
    toJson m = "\x7b" ++ ",".intercalate (m.entries.map entryText) ++ "\x7d" := rfl

theorem length_le_flatMap_cons {γ : Type} (a : UInt8) (f : γ → List UInt8) :
    ∀ l : List γ, l.length ≤ (l.flatMap fun z => a :: f z).length
  | [] => by simp
  | z :: l => by
    have := length_le_flatMap_cons a f l
    simp only [List.flatMap_cons, List.length_cons, List.length_append]
    omega

/-! ### Arrays of names -/

theorem readNames_loop_close {fuel : Nat} {first : Bool} {acc : List String} {c : Cursor}
    {r : List UInt8} (h : c.rest = 0x5D :: r) :
    (readNames.loop (fuel + 1) first acc).run c = .ok (acc, c) := by
  rw [readNames.loop, run_bind_of_ok (peekValue_run_solid h rfl)]
  rfl

theorem readNames_loop_first (fuel : Nat) (acc : List String) {c : Cursor} {y : String}
    {r : List UInt8} (h : c.rest = encode (jsonString y) ++ r) :
    ∃ c', c'.rest = r ∧ (readNames.loop (fuel + 1) true acc).run c =
      (readNames.loop fuel false (y :: acc)).run c' := by
  obtain ⟨c', hc', hrun⟩ := readName_run y h
  refine ⟨c', hc', ?_⟩
  have h' := h.trans (encode_jsonString_append y r)
  have e : (readNames.loop (fuel + 1) true acc).run c =
      (readName >>= fun n => readNames.loop fuel false (n :: acc)).run c := by
    rw [readNames.loop, run_bind_of_ok (peekValue_run_solid h' rfl)]
    rfl
  rw [e, run_bind_of_ok hrun]

theorem readNames_loop_next (fuel : Nat) (acc : List String) {c : Cursor} {y : String}
    {r : List UInt8} (h : c.rest = 0x2C :: (encode (jsonString y) ++ r)) :
    ∃ c', c'.rest = r ∧ (readNames.loop (fuel + 1) false acc).run c =
      (readNames.loop fuel false (y :: acc)).run c' := by
  obtain ⟨c', hc', hrun⟩ := readName_run y (advance_rest c 0x2C _)
  refine ⟨c', hc', ?_⟩
  have h' := (advance_rest c 0x2C _).trans (encode_jsonString_append y r)
  have e : (readNames.loop (fuel + 1) false acc).run c =
      (readName >>= fun n => readNames.loop fuel false (n :: acc)).run
        (c.advance 0x2C (encode (jsonString y) ++ r)) := by
    rw [readNames.loop, run_bind_of_ok (peekValue_run_solid h rfl)]
    split
    · rename_i heq
      exact absurd heq (by decide)
    · rename_i heq
      cases heq
      simp only [Bool.false_eq_true, if_false, beq_self_eq_true, if_true]
      rw [run_bind_of_ok (bump_run_cons h), run_bind_of_ok (peekValue_run_solid h' rfl)]
      rfl
    · rename_i heq
      cases heq
  rw [e, run_bind_of_ok hrun]

/-- Past the first name, each round reads a comma and a name, until the closing bracket. -/
theorem readNames_loop_tail {r : List UInt8} :
    ∀ (xs : List String) (fuel : Nat) (acc : List String) (c : Cursor),
      c.rest = (xs.flatMap fun z => 0x2C :: encode (jsonString z)) ++ 0x5D :: r →
      xs.length < fuel →
      ∃ c', c'.rest = 0x5D :: r ∧
        (readNames.loop fuel false acc).run c = .ok (xs.reverse ++ acc, c')
  | [], fuel, acc, c, h, hfuel => by
    obtain ⟨f, rfl⟩ : ∃ f, fuel = f + 1 := ⟨fuel - 1, by simp at hfuel; omega⟩
    exact ⟨c, h, readNames_loop_close h⟩
  | y :: ys, fuel, acc, c, h, hfuel => by
    obtain ⟨f, rfl⟩ : ∃ f, fuel = f + 1 := ⟨fuel - 1, by simp at hfuel; omega⟩
    simp only [List.flatMap_cons, List.cons_append, List.append_assoc] at h
    obtain ⟨c1, hc1, hrun1⟩ := readNames_loop_next f acc h
    obtain ⟨c2, hc2, hrun2⟩ := readNames_loop_tail ys f (y :: acc) c1 hc1
      (by simp at hfuel; omega)
    refine ⟨c2, hc2, ?_⟩
    rw [hrun1, hrun2, List.reverse_cons, List.append_assoc, List.singleton_append]

/-- An array of names written as JSON reads back as those names, in order. -/
theorem readNames_run (ns : List String) {c : Cursor} {r : List UInt8}
    (h : c.rest = 0x5B :: (namesBytes ns ++ 0x5D :: r)) :
    ∃ c', c'.rest = r ∧ readNames.run c = .ok (ns, c') := by
  have e : readNames.run c = (bump >>= fun _ => remaining >>= fun n =>
      readNames.loop n true [] >>= fun names => bump >>= fun _ =>
        (pure names.reverse : Reader (List String))).run c := by
    rw [readNames, run_bind_of_ok (peekValue_run_solid h rfl)]
    rfl
  let c1 := c.advance 0x5B (namesBytes ns ++ 0x5D :: r)
  have hc1 : c1.rest = namesBytes ns ++ 0x5D :: r := advance_rest ..
  rw [e, run_bind_of_ok (bump_run_cons h), run_bind_of_ok (remaining_run c1)]
  cases ns with
  | nil =>
    have hnil : namesBytes [] = [] := by rw [namesBytes, encode_eq_flatMap]; rfl
    rw [hnil, List.nil_append] at hc1
    refine ⟨c1.advance 0x5D r, advance_rest .., ?_⟩
    rw [run_bind_of_ok (readNames_loop_close hc1), run_bind_of_ok (bump_run_cons hc1)]
    rfl
  | cons y ys =>
    rw [namesBytes, encode_intercalate_cons, List.append_assoc] at hc1
    obtain ⟨c2, hc2, hrun2⟩ := readNames_loop_first (c1.rest.length) [] hc1
    obtain ⟨c3, hc3, hrun3⟩ := readNames_loop_tail ys c1.rest.length [y] c2 hc2 (by
      rw [hc1]
      have := length_le_flatMap_cons 0x2C (fun z => encode (jsonString z)) ys
      simp only [List.length_append, List.length_cons]
      omega)
    refine ⟨c3.advance 0x5D r, advance_rest .., ?_⟩
    rw [run_bind_of_ok (hrun2.trans hrun3), run_bind_of_ok (bump_run_cons hc3)]
    simp only [List.reverse_append, List.reverse_cons, List.reverse_nil, List.nil_append,
      List.reverse_reverse, List.singleton_append]
    rfl

/-! ### Objects of topics -/

theorem readMap_entry_run (fuel : Nat) (m : QueueMap) (e : String × List String) {c : Cursor}
    {r : List UInt8} (h : c.rest = encode (entryText e) ++ r) :
    ∃ c', c'.rest = r ∧
      (bump >>= fun _ => readString >>= fun topic => peekValue >>= fun ahead =>
        match ahead with
        | some 0x3A => bump >>= fun _ => readNames >>= fun names =>
          readMap.loop fuel false (m.set topic names)
        | some _ => (failAhead .expectedColon : Reader Unit) >>= fun _ => readNames >>= fun names =>
          readMap.loop fuel false (m.set topic names)
        | none => (failAhead .eofObject : Reader Unit) >>= fun _ => readNames >>= fun names =>
          readMap.loop fuel false (m.set topic names)).run c =
      (readMap.loop fuel false (m.set e.1 e.2)).run c' := by
  rw [encode_entryText, encode_jsonString_append] at h
  obtain ⟨c2, hc2, hrun2⟩ :=
    readString_run e.1 (r := 0x3A :: 0x5B :: (namesBytes e.2 ++ 0x5D :: r)) (advance_rest c 0x22 _)
  obtain ⟨c4, hc4, hrun4⟩ := readNames_run e.2 (advance_rest c2 0x3A _)
  refine ⟨c4, hc4, ?_⟩
  rw [run_bind_of_ok (bump_run_cons h), run_bind_of_ok hrun2,
    run_bind_of_ok (peekValue_run_solid hc2 rfl)]
  split
  · rw [run_bind_of_ok (bump_run_cons hc2), run_bind_of_ok hrun4]
  · rename_i hne heq
    cases heq
    exact absurd rfl hne
  · rename_i heq
    cases heq

theorem readMap_loop_close {fuel : Nat} {first : Bool} {m : QueueMap} {c : Cursor}
    {r : List UInt8} (h : c.rest = 0x7D :: r) :
    (readMap.loop (fuel + 1) first m).run c = .ok (m, c) := by
  rw [readMap.loop, run_bind_of_ok (peekValue_run_solid h rfl)]
  rfl

theorem readMap_loop_first (fuel : Nat) (m : QueueMap) (e : String × List String) {c : Cursor}
    {r : List UInt8} (h : c.rest = encode (entryText e) ++ r) :
    ∃ c', c'.rest = r ∧ (readMap.loop (fuel + 1) true m).run c =
      (readMap.loop fuel false (m.set e.1 e.2)).run c' := by
  obtain ⟨c', hc', hrun⟩ := readMap_entry_run fuel m e h
  refine ⟨c', hc', Eq.trans ?_ hrun⟩
  rw [encode_entryText, encode_jsonString_append] at h
  rw [readMap.loop, run_bind_of_ok (peekValue_run_solid h rfl)]
  rfl

theorem readMap_loop_next (fuel : Nat) (m : QueueMap) (e : String × List String) {c : Cursor}
    {r : List UInt8} (h : c.rest = 0x2C :: (encode (entryText e) ++ r)) :
    ∃ c', c'.rest = r ∧ (readMap.loop (fuel + 1) false m).run c =
      (readMap.loop fuel false (m.set e.1 e.2)).run c' := by
  obtain ⟨c', hc', hrun⟩ := readMap_entry_run fuel m e (advance_rest c 0x2C _)
  refine ⟨c', hc', Eq.trans ?_ hrun⟩
  have h' := (advance_rest c 0x2C (encode (entryText e) ++ r)).trans
    ((encode_entryText e r).trans (encode_jsonString_append _ _))
  rw [readMap.loop, run_bind_of_ok (peekValue_run_solid h rfl)]
  split
  · rename_i heq
    exact absurd heq (by decide)
  · rename_i heq
    cases heq
    simp only [Bool.false_eq_true, if_false, beq_self_eq_true, if_true]
    rw [run_bind_of_ok (bump_run_cons h), run_bind_of_ok (peekValue_run_solid h' rfl)]
    rfl
  · rename_i heq
    cases heq

/-- Past the first topic, each round reads a comma, a topic and its names, until the closing
brace. -/
theorem readMap_loop_tail {r : List UInt8} :
    ∀ (es : List (String × List String)) (fuel : Nat) (m : QueueMap) (c : Cursor),
      c.rest = (es.flatMap fun e => 0x2C :: encode (entryText e)) ++ 0x7D :: r →
      es.length < fuel →
      ∃ c', c'.rest = 0x7D :: r ∧
        (readMap.loop fuel false m).run c = .ok (setAll m es, c')
  | [], fuel, m, c, h, hfuel => by
    obtain ⟨f, rfl⟩ : ∃ f, fuel = f + 1 := ⟨fuel - 1, by simp at hfuel; omega⟩
    exact ⟨c, h, readMap_loop_close h⟩
  | e :: es, fuel, m, c, h, hfuel => by
    obtain ⟨f, rfl⟩ : ∃ f, fuel = f + 1 := ⟨fuel - 1, by simp at hfuel; omega⟩
    simp only [List.flatMap_cons, List.cons_append, List.append_assoc] at h
    obtain ⟨c1, hc1, hrun1⟩ := readMap_loop_next f m e h
    obtain ⟨c2, hc2, hrun2⟩ := readMap_loop_tail es f _ c1 hc1 (by simp at hfuel; omega)
    exact ⟨c2, hc2, hrun1.trans hrun2⟩

theorem readMap_run_open {c : Cursor} {r : List UInt8} (h : c.rest = 0x7B :: r) :
    readMap.run c = (bump >>= fun _ => remaining >>= fun n =>
      readMap.loop n true .empty >>= fun m => bump >>= fun _ => peekValue >>= fun p =>
        match p with
        | some _ => (failAhead .trailingCharacters : Reader QueueMap)
        | none => pure m).run c := by
  rw [readMap, StateT.run_bind, peekValue_run_solid h rfl]
  rfl

/-- The JSON of a queue map reads back as the map that sets each of its topics to its names. -/
theorem ofJson?_toJson (m : QueueMap) : ofJson? (encode (toJson m)) = .ok (setAll .empty m.entries) := by
  have hopen : encode "\x7b" = [0x7B] := by rw [encode_eq_flatMap]; rfl
  have hclose : encode "\x7d" = [0x7D] := by rw [encode_eq_flatMap]; rfl
  let c : Cursor := ⟨encode (toJson m), 1, 0⟩
  have h : c.rest = 0x7B :: (encode (",".intercalate (m.entries.map entryText)) ++ [0x7D]) := by
    simp only [c, toJson_eq, encode_append, hopen, hclose, List.cons_append, List.nil_append]
  let c1 := c.advance 0x7B (encode (",".intercalate (m.entries.map entryText)) ++ [0x7D])
  have hc1 : c1.rest = encode (",".intercalate (m.entries.map entryText)) ++ [0x7D] :=
    advance_rest ..
  show (readMap.run c).map Prod.fst = _
  rw [readMap_run_open h, run_bind_of_ok (bump_run_cons h),
    run_bind_of_ok (remaining_run c1)]
  cases hm : m.entries with
  | nil =>
    have hnil : encode (",".intercalate (([] : List (String × List String)).map entryText)) = [] := by
      rw [List.map_nil, String.intercalate_nil, encode_eq_flatMap]; rfl
    rw [hm, hnil, List.nil_append] at hc1
    rw [run_bind_of_ok (readMap_loop_close hc1), run_bind_of_ok (bump_run_cons hc1),
      run_bind_of_ok (peekValue_run_nil (advance_rest ..))]
    rfl
  | cons e es =>
    rw [hm, encode_intercalate_cons, List.append_assoc] at hc1
    obtain ⟨c2, hc2, hrun2⟩ := readMap_loop_first c1.rest.length .empty e hc1
    obtain ⟨c3, hc3, hrun3⟩ := readMap_loop_tail es c1.rest.length _ c2 hc2 (by
      rw [hc1]
      have := length_le_flatMap_cons 0x2C (fun e => encode (entryText e)) es
      simp only [List.length_append, List.length_cons]
      omega)
    rw [run_bind_of_ok (hrun2.trans hrun3), run_bind_of_ok (bump_run_cons hc3),
      run_bind_of_ok (peekValue_run_nil (advance_rest ..))]
    rfl

/-! ### The batch round trip -/

/-- The law a body codec owes the batch: `read` takes the bytes of what `write` writes of a
well-formed map back to the map. -/
def RoundTrips (write : QueueMap → String) (read : List UInt8 → Except ReadError QueueMap) :
    Prop :=
  ∀ m : QueueMap, m.WellFormed → read (encode (write m)) = .ok m

/-- Whatever codec meets the law, the body of a batched subscribe reads back as the well-formed
map it carries. -/
theorem ofEntityWith?_subscribeEntityWith {write : QueueMap → String}
    {read : List UInt8 → Except ReadError QueueMap} (hcodec : RoundTrips write read)
    {m : QueueMap} (h : m.WellFormed) :
    ofEntityWith? read (subscribeEntityWith write m) = .ok m := by
  have hbody : (subscribeEntityWith write m).body = encode (write m) := rfl
  rw [ofEntityWith?, hbody, hcodec m h]

theorem roundTrips_json : RoundTrips toJson ofJson? := fun _ h => by
  rw [ofJson?_toJson, setAll_empty_of_wellFormed h]

theorem ofEntity?_subscribeEntity {m : QueueMap} (h : m.WellFormed) :
    ofEntity? m.subscribeEntity = .ok m :=
  ofEntityWith?_subscribeEntityWith roundTrips_json h

/-- **Batched subscribes read back.** A well-formed queue map, that is a map from topics to sets
of names, whatever characters its topics and names hold (quotes, backslashes, control
characters, delete, non-ASCII letters, the empty text) and with empty sets of names allowed, goes
out as a batched subscribe addressed to the broker whose body reads back as the map itself. -/
theorem batched_subscribe_reads_back {m : QueueMap} (h : m.WellFormed) :
    ofEntity? m.subscribeEntity = .ok m ∧ m.subscribeEntity.meta? Meta.batch = some "1" ∧
      m.subscribeEntity.meta? Meta.target = some Meta.server :=
  -- the metas are put on whatever body the map has, so they read back as they were put
  ⟨ofEntity?_subscribeEntity h, rfl, rfl⟩

/-- A map with an empty topic that has no names, and a name holding a quote, a backslash, a line
feed, a control character written as a hexadecimal escape, a delete and a non-ASCII letter. -/
theorem batched_subscribe_reads_back_example :
    let m : QueueMap := ⟨[("", []), ("orders", ["orders#a", "x\"\\\n\x01\x7fé"])]⟩
    m.WellFormed ∧ ofEntity? m.subscribeEntity = .ok m ∧
      m.subscribeEntity.meta? Meta.batch = some "1" ∧
      m.subscribeEntity.meta? Meta.target = some Meta.server := by
  intro m
  have h : m.WellFormed := ⟨by decide, by decide⟩
  exact ⟨h, batched_subscribe_reads_back h⟩

end BrokerClient.QueueMap
