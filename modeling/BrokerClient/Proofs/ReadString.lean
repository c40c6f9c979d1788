import Mathlib.Tactic.SplitIfs
import BrokerClient.QueueMap.Reader
import BrokerClient.Proofs.Utf8
/-!
The reader takes back what the writer wrote, one JSON string at a time. A character is written
in one of three ways (`escape_cases`): a short escape, a `\u00` escape of a control character,
or its own UTF-8 bytes; each is read back as that character's bytes (`readString_loop_char`), in
at most one round of the reader's loop per byte, so the loop's fuel, the number of bytes left,
always suffices. The bytes read are then the UTF-8 bytes of the string, which are valid and
decode to it (`readString_run`).

The lemmas run the reader on a cursor whose bytes are given up to some rest `r`, and say where it
stops; the line and column it counts are left open, as only a failed read reports them.
-/
namespace BrokerClient.QueueMap

open Text.Utf8

/-! ### Running the reader -/

variable {α β : Type}

theorem run_bind_of_ok {x : Reader α} {f : α → Reader β} {c c' : Cursor} {a : α}
    (h : x.run c = .ok (a, c')) : (x >>= f).run c = (f a).run c' := by
  rw [StateT.run_bind, h]
  rfl

@[simp] theorem advance_rest (c : Cursor) (b : UInt8) (r : List UInt8) : (c.advance b r).rest = r := by
  unfold Cursor.advance
  split <;> rfl

@[simp] theorem peek_run (c : Cursor) : peek.run c = .ok (c.rest.head?, c) := rfl

theorem bump_run_cons {c : Cursor} {b : UInt8} {r : List UInt8} (h : c.rest = b :: r) :
    bump.run c = .ok ((), c.advance b r) := by
  simp only [bump, modify, modifyGet, MonadStateOf.modifyGet, StateT.modifyGet, StateT.run, h]
  rfl

theorem next_run_cons {c : Cursor} {b : UInt8} {r : List UInt8} (h : c.rest = b :: r) :
    next.run c = .ok (some b, c.advance b r) := by
  rw [next, run_bind_of_ok (peek_run c), h, List.head?_cons, run_bind_of_ok (bump_run_cons h)]
  rfl

@[simp] theorem remaining_run (c : Cursor) : remaining.run c = .ok (c.rest.length + 1, c) := rfl

/-- A byte that is not a blank. -/
def Solid (b : UInt8) : Prop := (b == 0x20 || b == 0x0A || b == 0x09 || b == 0x0D) = false

theorem skipBlank_of_solid {c : Cursor} {b : UInt8} {r : List UInt8} (h : c.rest = b :: r)
    (hb : Solid b) : c.skipBlank = c := by
  rw [Cursor.skipBlank]
  split
  · rfl
  · rename_i b' r' heq
    rw [h] at heq
    cases heq
    simp only [Solid] at hb
    simp [hb]

theorem skipBlank_nil {c : Cursor} (h : c.rest = []) : c.skipBlank = c := by
  rw [Cursor.skipBlank]
  split
  · rfl
  · rename_i heq
    rw [h] at heq
    cases heq

theorem peekValue_run_solid {c : Cursor} {b : UInt8} {r : List UInt8} (h : c.rest = b :: r)
    (hb : Solid b) : peekValue.run c = .ok (some b, c) := by
  have hm : (modify Cursor.skipBlank : Reader PUnit).run c = .ok (PUnit.unit, c) := by
    simp only [modify, modifyGet, MonadStateOf.modifyGet, StateT.modifyGet, StateT.run,
      skipBlank_of_solid h hb]
    rfl
  rw [peekValue, run_bind_of_ok hm, peek_run, h]
  rfl

theorem peekValue_run_nil {c : Cursor} (h : c.rest = []) : peekValue.run c = .ok (none, c) := by
  have hm : (modify Cursor.skipBlank : Reader PUnit).run c = .ok (PUnit.unit, c) := by
    simp only [modify, modifyGet, MonadStateOf.modifyGet, StateT.modifyGet, StateT.run,
      skipBlank_nil h]
    rfl
  rw [peekValue, run_bind_of_ok hm, peek_run, h]
  rfl

/-! ### Writing a character -/

/-- The short escapes and the byte after their backslash. -/
def shortEscapes : List (Char × UInt8) :=
  [('"', 0x22), ('\\', 0x5C), ('\x08', 0x62), ('\t', 0x74), ('\n', 0x6E), ('\x0c', 0x66),
    ('\r', 0x72)]

/-- The bytes of a control character's `\u00` escape after its backslash. -/
def unicodeEscapeBytes (ch : Char) : List UInt8 :=
  [0x75, 0x30, 0x30, UInt8.ofNat (hexDigit (ch.toNat / 16)).toNat,
    UInt8.ofNat (hexDigit (ch.toNat % 16)).toNat]

/-- A byte that a string holds as it is. -/
def Plain (b : UInt8) : Prop := b.toNat ≠ 0x22 ∧ b.toNat ≠ 0x5C ∧ 0x20 ≤ b.toNat

theorem hexDigit_facts : ∀ k < 16, String.utf8EncodeChar (hexDigit k) =
    [UInt8.ofNat (hexDigit k).toNat] ∧
      hexValue? (Char.ofNat (UInt8.ofNat (hexDigit k).toNat).toNat) = some k := by
  decide

theorem plain_utf8EncodeChar {ch : Char} (h20 : 0x20 ≤ ch.toNat) (hq : ch ≠ '"')
    (hs : ch ≠ '\\') : ∀ b ∈ String.utf8EncodeChar ch, Plain b := by
  have hq' : ch.toNat ≠ 0x22 := fun h => hq (Char.toNat_inj.1 h)
  have hs' : ch.toNat ≠ 0x5C := fun h => hs (Char.toNat_inj.1 h)
  have hc : ch.val.toNat = ch.toNat := rfl
  have hmax : ch.toNat < 0x110000 := by have := ch.valid; simp [UInt32.isValidChar, Nat.isValidChar] at this; omega
  unfold String.utf8EncodeChar
  simp only [hc]
  split
  · simp only [List.mem_singleton, forall_eq, Plain]
    rw [toNat_ofNat_byte (by omega)]
    omega
  split
  · simp only [List.mem_cons, List.not_mem_nil, or_false, forall_eq_or_imp, forall_eq, Plain]
    rw [toNat_ofNat_byte (by omega), toNat_ofNat_byte (by omega)]
    omega
  split
  · simp only [List.mem_cons, List.not_mem_nil, or_false, forall_eq_or_imp, forall_eq, Plain]
    rw [toNat_ofNat_byte (by omega), toNat_ofNat_byte (by omega), toNat_ofNat_byte (by omega)]
    omega
  · simp only [List.mem_cons, List.not_mem_nil, or_false, forall_eq_or_imp, forall_eq, Plain]
    rw [toNat_ofNat_byte (by omega), toNat_ofNat_byte (by omega), toNat_ofNat_byte (by omega),
      toNat_ofNat_byte (by omega)]
    omega

/-- The three ways a character is written in a JSON string: a short escape, a `\u00` escape of a
control character, or its own bytes. -/
theorem escape_cases (ch : Char) :
    (∃ e, (ch, e) ∈ shortEscapes ∧ (escape ch).flatMap String.utf8EncodeChar = [0x5C, e]) ∨
    (ch.toNat < 0x20 ∧ (escape ch).flatMap String.utf8EncodeChar = 0x5C :: unicodeEscapeBytes ch) ∨
    ((0x20 ≤ ch.toNat ∧ ch ≠ '"' ∧ ch ≠ '\\') ∧
      (escape ch).flatMap String.utf8EncodeChar = String.utf8EncodeChar ch) := by
  unfold escape
  -- one `if` at a time, by rewriting: splitting the chain costs seconds
  by_cases h1 : ch = '"'
  · rw [if_pos h1]
    exact .inl ⟨0x22, by simp [shortEscapes, h1], by rfl⟩
  rw [if_neg h1]
  by_cases h2 : ch = '\\'
  · rw [if_pos h2]
    exact .inl ⟨0x5C, by simp [shortEscapes, h2], by rfl⟩
  rw [if_neg h2]
  by_cases h3 : ch = '\x08'
  · rw [if_pos h3]
    exact .inl ⟨0x62, by simp [shortEscapes, h3], by rfl⟩
  rw [if_neg h3]
  by_cases h4 : ch = '\t'
  · rw [if_pos h4]
    exact .inl ⟨0x74, by simp [shortEscapes, h4], by rfl⟩
  rw [if_neg h4]
  by_cases h5 : ch = '\n'
  · rw [if_pos h5]
    exact .inl ⟨0x6E, by simp [shortEscapes, h5], by rfl⟩
  rw [if_neg h5]
  by_cases h6 : ch = '\x0c'
  · rw [if_pos h6]
    exact .inl ⟨0x66, by simp [shortEscapes, h6], by rfl⟩
  rw [if_neg h6]
  by_cases h7 : ch = '\r'
  · rw [if_pos h7]
    exact .inl ⟨0x72, by simp [shortEscapes, h7], by rfl⟩
  rw [if_neg h7]
  by_cases h8 : ch.toNat < 0x20
  · rw [if_pos h8]
    refine .inr (.inl ⟨h8, ?_⟩)
    simp only [List.flatMap_cons, List.flatMap_nil, List.append_nil,
      (hexDigit_facts (ch.toNat / 16) (by omega)).1, (hexDigit_facts (ch.toNat % 16) (by omega)).1]
    rfl
  rw [if_neg h8]
  exact .inr (.inr ⟨⟨by omega, h1, h2⟩, by simp⟩)

/-! ### One round of the string loop -/

theorem readString_loop_plain {fuel : Nat} {acc : List UInt8} {c : Cursor} {b : UInt8}
    {r : List UInt8} (h : c.rest = b :: r) (hb : b.toNat ≠ 0x22 ∧ b.toNat ≠ 0x5C ∧ 0x20 ≤ b.toNat) :
    (readString.loop (fuel + 1) acc).run c =
      (readString.loop fuel (b :: acc)).run (c.advance b r) := by
  obtain ⟨hq, hs, hc⟩ := hb
  rw [readString.loop, run_bind_of_ok (peek_run c), h, List.head?_cons]
  split
  · rename_i heq
    cases heq
  · rename_i heq
    cases Option.some.inj heq
    exact absurd rfl hq
  · rename_i heq
    cases Option.some.inj heq
    exact absurd rfl hs
  · rename_i _ _ heq
    cases heq
    rw [run_bind_of_ok (bump_run_cons h), if_neg (by simpa [UInt8.lt_iff_toNat_lt] using hc)]

theorem readString_loop_quote {fuel : Nat} {acc : List UInt8} {c : Cursor} {r : List UInt8}
    (h : c.rest = 0x22 :: r) (hv : isValid acc.reverse = true) :
    (readString.loop (fuel + 1) acc).run c = .ok (lossyText acc.reverse, c.advance 0x22 r) := by
  rw [readString.loop, run_bind_of_ok (peek_run c), h, List.head?_cons]
  simp only [hv, if_true]
  rw [run_bind_of_ok (bump_run_cons h)]
  rfl

theorem readString_loop_escape {fuel : Nat} {acc : List UInt8} {c : Cursor} {r : List UInt8}
    (h : c.rest = 0x5C :: r) :
    (readString.loop (fuel + 1) acc).run c =
      (readEscape >>= fun bs => readString.loop fuel (bs.reverse ++ acc)).run (c.advance 0x5C r) := by
  rw [readString.loop, run_bind_of_ok (peek_run c), h, List.head?_cons]
  simp only
  rw [run_bind_of_ok (bump_run_cons h)]

theorem readEscape_short {ch : Char} {e : UInt8} (hch : (ch, e) ∈ shortEscapes) {c : Cursor}
    {r : List UInt8} (h : c.rest = e :: r) :
    readEscape.run c = .ok (String.utf8EncodeChar ch, c.advance e r) := by
  simp only [shortEscapes, List.mem_cons, Prod.mk.injEq, List.not_mem_nil, or_false] at hch
  rw [readEscape, run_bind_of_ok (next_run_cons h)]
  rcases hch with ⟨rfl, rfl⟩ | ⟨rfl, rfl⟩ | ⟨rfl, rfl⟩ | ⟨rfl, rfl⟩ | ⟨rfl, rfl⟩ | ⟨rfl, rfl⟩ |
    ⟨rfl, rfl⟩ <;> rfl

theorem readHex4_run {c : Cursor} {a b d e : UInt8} {r : List UInt8}
    (h : c.rest = a :: b :: d :: e :: r) {va vb vd ve : Nat}
    (ha : hexValue? (Char.ofNat a.toNat) = some va) (hb : hexValue? (Char.ofNat b.toNat) = some vb)
    (hd : hexValue? (Char.ofNat d.toNat) = some vd) (he : hexValue? (Char.ofNat e.toNat) = some ve) :
    ∃ c', c'.rest = r ∧ readHex4.run c = .ok (16 * (16 * (16 * va + vb) + vd) + ve, c') := by
  let c1 := c.advance a (b :: d :: e :: r)
  let c2 := c1.advance b (d :: e :: r)
  let c3 := c2.advance d (e :: r)
  refine ⟨c3.advance e r, advance_rest .., ?_⟩
  rw [readHex4, run_bind_of_ok (rfl : (get : Reader Cursor).run c = .ok (c, c))]
  simp only [h]
  rw [run_bind_of_ok (bump_run_cons h), run_bind_of_ok (bump_run_cons (advance_rest c a _)),
    run_bind_of_ok (bump_run_cons (advance_rest c1 b _)),
    run_bind_of_ok (bump_run_cons (advance_rest c2 d _))]
  simp only [List.map_cons, List.map_nil, ha, hb, hd, he, List.all_cons, Option.isSome_some,
    List.all_nil, Bool.and_true, if_true, List.foldl_cons, List.foldl_nil, Option.getD_some,
    Nat.mul_zero, Nat.zero_add]
  rfl

theorem codePointBytes_eq {ch : Char} {n : Nat} (h : n = ch.toNat) :
    codePointBytes n = String.utf8EncodeChar ch := by
  rw [codePointBytes, encode_eq_flatMap, ofNat_eq_of_toNat h]
  simp

theorem readEscape_unicode {ch : Char} (hch : ch.toNat < 0x20) {c : Cursor} {r : List UInt8}
    (h : c.rest = unicodeEscapeBytes ch ++ r) :
    ∃ c', c'.rest = r ∧ readEscape.run c = .ok (String.utf8EncodeChar ch, c') := by
  simp only [unicodeEscapeBytes, List.cons_append, List.nil_append] at h
  rw [readEscape, run_bind_of_ok (next_run_cons h)]
  have h0 : hexValue? (Char.ofNat (0x30 : UInt8).toNat) = some 0 := rfl
  obtain ⟨c', hc', hrun⟩ := readHex4_run (advance_rest c 0x75 _) h0 h0
    (hexDigit_facts (ch.toNat / 16) (by omega)).2 (hexDigit_facts (ch.toNat % 16) (by omega)).2
  refine ⟨c', hc', ?_⟩
  simp only
  rw [run_bind_of_ok hrun]
  have hn : 16 * (16 * (16 * 0 + 0) + ch.toNat / 16) + ch.toNat % 16 = ch.toNat := by omega
  rw [hn, if_neg (by omega), if_neg (by omega), codePointBytes_eq rfl]
  rfl

theorem readString_loop_plains {r : List UInt8} :
    ∀ (bs : List UInt8), (∀ b ∈ bs, Plain b) → ∀ (fuel : Nat) (acc : List UInt8) (c : Cursor),
      c.rest = bs ++ r → bs.length ≤ fuel →
      ∃ c', c'.rest = r ∧ (readString.loop fuel acc).run c =
        (readString.loop (fuel - bs.length) (bs.reverse ++ acc)).run c'
  | [], _, fuel, acc, c, h, _ => ⟨c, h, rfl⟩
  | b :: bs, hbs, fuel, acc, c, h, hfuel => by
    obtain ⟨f, rfl⟩ : ∃ f, fuel = f + 1 := ⟨fuel - 1, by simp at hfuel; omega⟩
    rw [List.cons_append] at h
    rw [readString_loop_plain h (hbs b List.mem_cons_self)]
    obtain ⟨c', hc', hrun⟩ := readString_loop_plains bs (fun x hx => hbs x (List.mem_cons_of_mem b hx))
      f (b :: acc) _ (advance_rest ..) (by simp at hfuel; omega)
    refine ⟨c', hc', ?_⟩
    rw [hrun, List.reverse_cons, List.append_assoc, List.length_cons, Nat.add_sub_add_right,
      List.singleton_append]

/-! ### The string loop -/

/-- Reading the bytes that stand for one character in a string adds that character's UTF-8 bytes
to those read, and takes at most one round of the loop per byte. -/
theorem readString_loop_char (ch : Char) {r : List UInt8} (fuel : Nat) (acc : List UInt8)
    (c : Cursor) (h : c.rest = (escape ch).flatMap String.utf8EncodeChar ++ r)
    (hfuel : ((escape ch).flatMap String.utf8EncodeChar).length ≤ fuel) :
    ∃ fuel' c', c'.rest = r ∧ fuel - ((escape ch).flatMap String.utf8EncodeChar).length ≤ fuel' ∧
      (readString.loop fuel acc).run c =
        (readString.loop fuel' ((String.utf8EncodeChar ch).reverse ++ acc)).run c' := by
  rcases escape_cases ch with ⟨e, he, hbytes⟩ | ⟨hlt, hbytes⟩ | ⟨hplain, hbytes⟩
  · rw [hbytes] at h hfuel ⊢
    obtain ⟨f, rfl⟩ : ∃ f, fuel = f + 1 := ⟨fuel - 1, by simp at hfuel; omega⟩
    simp only [List.cons_append, List.nil_append] at h
    have he' := readEscape_short he (advance_rest c 0x5C (e :: r))
    refine ⟨f, _, advance_rest (c.advance 0x5C (e :: r)) e r, by simp, ?_⟩
    rw [readString_loop_escape h, run_bind_of_ok he']
  · rw [hbytes] at h hfuel ⊢
    obtain ⟨f, rfl⟩ : ∃ f, fuel = f + 1 := ⟨fuel - 1, by simp at hfuel; omega⟩
    rw [List.cons_append] at h
    obtain ⟨c', hc', hrun⟩ := readEscape_unicode hlt (advance_rest c 0x5C _)
    refine ⟨f, c', hc', by simp, ?_⟩
    rw [readString_loop_escape h, run_bind_of_ok hrun]
  · rw [hbytes] at h hfuel ⊢
    obtain ⟨c', hc', hrun⟩ := readString_loop_plains _
      (plain_utf8EncodeChar hplain.1 hplain.2.1 hplain.2.2) fuel acc c h hfuel
    exact ⟨_, c', hc', Nat.le_refl _, hrun⟩

theorem readString_loop_chars {r : List UInt8} :
    ∀ (l : List Char) (fuel : Nat) (acc : List UInt8) (c : Cursor),
      c.rest = (l.flatMap escape).flatMap String.utf8EncodeChar ++ r →
      ((l.flatMap escape).flatMap String.utf8EncodeChar).length ≤ fuel →
      ∃ fuel' c', c'.rest = r ∧
        fuel - ((l.flatMap escape).flatMap String.utf8EncodeChar).length ≤ fuel' ∧
        (readString.loop fuel acc).run c =
          (readString.loop fuel' ((l.flatMap String.utf8EncodeChar).reverse ++ acc)).run c'
  | [], fuel, acc, c, h, _ => ⟨fuel, c, by simpa using h, by simp, by simp⟩
  | ch :: l, fuel, acc, c, h, hfuel => by
    simp only [List.flatMap_cons, List.flatMap_append, List.append_assoc, List.length_append]
      at h hfuel ⊢
    obtain ⟨f1, c1, hc1, hf1, hrun1⟩ := readString_loop_char ch fuel acc c h (by omega)
    obtain ⟨f2, c2, hc2, hf2, hrun2⟩ := readString_loop_chars l f1 _ c1 hc1 (by omega)
    refine ⟨f2, c2, hc2, by omega, ?_⟩
    rw [hrun1, hrun2, List.reverse_append, List.append_assoc]

/-! ### Strings -/

theorem encode_jsonString (s : String) :
    encode (jsonString s) =
      0x22 :: ((s.toList.flatMap escape).flatMap String.utf8EncodeChar ++ [0x22]) := by
  rw [jsonString, encode_eq_flatMap, String.toList_ofList, List.cons_append, List.flatMap_cons,
    List.flatMap_append]
  rfl

theorem encode_jsonString_append (s : String) (r : List UInt8) :
    encode (jsonString s) ++ r =
      0x22 :: ((s.toList.flatMap escape).flatMap String.utf8EncodeChar ++ 0x22 :: r) := by
  rw [encode_jsonString, List.cons_append, List.append_assoc, List.singleton_append]

/-- After its opening quote, the bytes of a JSON string read back as the string, and the reader
stops right after the closing quote. -/
theorem readString_run (s : String) {c : Cursor} {r : List UInt8}
    (h : c.rest = (s.toList.flatMap escape).flatMap String.utf8EncodeChar ++ 0x22 :: r) :
    ∃ c', c'.rest = r ∧ readString.run c = .ok (s, c') := by
  obtain ⟨fuel, c1, hc1, hfuel, hrun⟩ :=
    readString_loop_chars s.toList (c.rest.length + 1) [] c h (by rw [h]; simp; omega)
  obtain ⟨f, rfl⟩ : ∃ f, fuel = f + 1 := ⟨fuel - 1, by rw [h] at hfuel; simp at hfuel; omega⟩
  have hbytes : ((s.toList.flatMap String.utf8EncodeChar).reverse ++ []).reverse =
      s.toList.flatMap String.utf8EncodeChar := by simp
  refine ⟨c1.advance 0x22 r, advance_rest .., ?_⟩
  rw [readString, run_bind_of_ok (remaining_run c), hrun,
    readString_loop_quote hc1 (by rw [hbytes]; exact isValid_flatMap _), hbytes, lossyText,
    decodeLossy_flatMap, String.ofList_toList]

/-! ### Names -/

theorem readName_run (s : String) {c : Cursor} {r : List UInt8}
    (h : c.rest = encode (jsonString s) ++ r) :
    ∃ c', c'.rest = r ∧ readName.run c = .ok (s, c') := by
  rw [encode_jsonString_append] at h
  obtain ⟨c', hc', hrun⟩ := readString_run s (advance_rest c 0x22 _)
  refine ⟨c', hc', ?_⟩
  rw [readName, run_bind_of_ok (peekValue_run_solid h rfl)]
  simp only
  rw [run_bind_of_ok (bump_run_cons h), hrun]

end BrokerClient.QueueMap
