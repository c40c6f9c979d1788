import Mathlib.Tactic.IntervalCases
import Mathlib.Tactic.SplitIfs
import BrokerClient.Text.Utf8
/-!
The lossy UTF-8 decoder undoes the encoder. The bytes of a text are the UTF-8 sequences of its
characters, one after another (`encode_eq_flatMap`); `front` reads each well-formed sequence of
one to four bytes back as the character it encodes, whatever follows it
(`front_utf8EncodeChar`). So the bytes of a text are valid and decode to that text, without a
single replacement character.
-/

namespace BrokerClient.Text.Utf8

/-! ### The bytes of a text -/

theorem toList_loop (bs : ByteArray) (i : Nat) (r : List UInt8) :
    ByteArray.toList.loop bs i r = r.reverse ++ bs.data.toList.drop i := by
  fun_induction ByteArray.toList.loop bs i r with
  | case1 i r hi ih =>
    rw [ih, List.reverse_cons, List.append_assoc, List.singleton_append]
    congr 1
    symm
    rw [List.drop_eq_getElem_cons (by simpa using hi)]
    simp only [ByteArray.get!, List.cons.injEq, and_true]
    rw [getElem!_pos bs.data i (by simpa using hi), Array.getElem_toList]
  | case2 i r hi =>
    rw [List.drop_of_length_le (by simpa using hi), List.append_nil]

theorem encode_eq_flatMap (s : String) : encode s = s.toList.flatMap String.utf8EncodeChar := by
  simp only [encode, String.toUTF8_eq_toByteArray, ← String.utf8Encode_toList, List.utf8Encode,
    ByteArray.toList, toList_loop, List.reverse_nil, List.nil_append, List.drop_zero]
  exact List.toList_data_toByteArray

/-! ### Reading one sequence -/

@[simp] theorem continued_zero (bs : List UInt8) (lo hi : Nat) : continued bs 0 lo hi = 0 := by
  cases bs <;> rfl

theorem front_one {b : UInt8} (hb : b.toNat ≤ 0x7F) (rest : List UInt8) :
    front b rest = (some (Char.ofNat b.toNat), 0) := by
  simp only [front, opening, if_pos hb]

theorem front_two {b x : UInt8} (hb : 0xC2 ≤ b.toNat ∧ b.toNat ≤ 0xDF)
    (hx : 0x80 ≤ x.toNat ∧ x.toNat ≤ 0xBF) (rest : List UInt8) :
    front b (x :: rest) = (some (Char.ofNat (codePoint b.toNat 1 [x])), 1) := by
  simp only [front, opening, if_neg (show ¬b.toNat ≤ 0x7F by omega), if_pos hb, continued,
    if_pos hx, continued_zero]
  rfl

theorem opening_three {b : Nat} (hb : 0xE0 ≤ b ∧ b ≤ 0xEF) :
    opening b = some (2, if b = 0xE0 then 0xA0 else 0x80, if b = 0xED then 0x9F else 0xBF) := by
  obtain ⟨hlo, hhi⟩ := hb
  interval_cases b <;> rfl

theorem opening_four {b : Nat} (hb : 0xF0 ≤ b ∧ b ≤ 0xF4) :
    opening b = some (3, if b = 0xF0 then 0x90 else 0x80, if b = 0xF4 then 0x8F else 0xBF) := by
  obtain ⟨hlo, hhi⟩ := hb
  interval_cases b <;> rfl

theorem front_three {b x y : UInt8} (hb : 0xE0 ≤ b.toNat ∧ b.toNat ≤ 0xEF)
    (hx : 0x80 ≤ x.toNat ∧ x.toNat ≤ 0xBF) (hy : 0x80 ≤ y.toNat ∧ y.toNat ≤ 0xBF)
    (hE0 : b.toNat = 0xE0 → 0xA0 ≤ x.toNat) (hED : b.toNat = 0xED → x.toNat ≤ 0x9F)
    (rest : List UInt8) :
    front b (x :: y :: rest) = (some (Char.ofNat (codePoint b.toNat 2 [x, y])), 2) := by
  have hx' : (if b.toNat = 0xE0 then 0xA0 else 0x80) ≤ x.toNat ∧
      x.toNat ≤ (if b.toNat = 0xED then 0x9F else 0xBF) := by
    constructor <;> split_ifs <;> omega
  simp only [front, opening_three hb, continued, hx', hy, and_self, if_true, continued_zero]
  rfl

theorem front_four {b x y z : UInt8} (hb : 0xF0 ≤ b.toNat ∧ b.toNat ≤ 0xF4)
    (hx : 0x80 ≤ x.toNat ∧ x.toNat ≤ 0xBF) (hy : 0x80 ≤ y.toNat ∧ y.toNat ≤ 0xBF)
    (hz : 0x80 ≤ z.toNat ∧ z.toNat ≤ 0xBF)
    (hF0 : b.toNat = 0xF0 → 0x90 ≤ x.toNat) (hF4 : b.toNat = 0xF4 → x.toNat ≤ 0x8F)
    (rest : List UInt8) :
    front b (x :: y :: z :: rest) =
      (some (Char.ofNat (codePoint b.toNat 3 [x, y, z])), 3) := by
  have hx' : (if b.toNat = 0xF0 then 0x90 else 0x80) ≤ x.toNat ∧
      x.toNat ≤ (if b.toNat = 0xF4 then 0x8F else 0xBF) := by
    constructor <;> split_ifs <;> omega
  simp only [front, opening_four hb, continued, hx', hy, hz, and_self, if_true, continued_zero]
  rfl

theorem ofNat_eq_of_toNat {c : Char} {n : Nat} (h : n = c.toNat) : Char.ofNat n = c := by
  rw [h, Char.ofNat_toNat]

@[simp] theorem toNat_ofNat_byte {n : Nat} (h : n < 256) : (UInt8.ofNat n).toNat = n := by
  simp only [UInt8.toNat_ofNat']
  omega

/-- The UTF-8 sequence of a character reads back as that character, whatever follows it. The
cases are the four lengths of a sequence; a three-byte one never encodes a surrogate, which is
what the narrower range after `0xED` checks. -/
theorem front_utf8EncodeChar (c : Char) (rest : List UInt8) :
    ∃ b tail, String.utf8EncodeChar c = b :: tail ∧
      front b (tail ++ rest) = (some c, tail.length) := by
  have hc : c.val.toNat = c.toNat := rfl
  have hvalid : c.toNat < 0xD800 ∨ 0xDFFF < c.toNat ∧ c.toNat < 0x110000 := c.valid
  unfold String.utf8EncodeChar
  simp only [hc]
  split
  · refine ⟨_, _, rfl, ?_⟩
    rw [List.nil_append, front_one (by simp; omega)]
    exact congrArg (·, 0) (congrArg some (ofNat_eq_of_toNat (by simp; omega)))
  split
  · refine ⟨_, _, rfl, ?_⟩
    rw [List.cons_append, List.nil_append, front_two (by simp; omega) (by simp; omega)]
    exact congrArg (·, 1) (congrArg some (ofNat_eq_of_toNat (by simp [codePoint]; omega)))
  split
  · refine ⟨_, _, rfl, ?_⟩
    rw [List.cons_append, List.cons_append, List.nil_append, front_three (by simp; omega)
      (by simp; omega) (by simp; omega) (by simp; omega) (by simp; omega)]
    exact congrArg (·, 2) (congrArg some (ofNat_eq_of_toNat (by simp [codePoint]; omega)))
  · refine ⟨_, _, rfl, ?_⟩
    rw [List.cons_append, List.cons_append, List.cons_append, List.nil_append,
      front_four (by simp; omega) (by simp; omega) (by simp; omega) (by simp; omega)
        (by simp; omega) (by simp; omega)]
    exact congrArg (·, 3) (congrArg some (ofNat_eq_of_toNat (by simp [codePoint]; omega)))

/-! ### Decoding a text's bytes -/

theorem decodeLossy_utf8EncodeChar_append (c : Char) (rest : List UInt8) :
    decodeLossy (String.utf8EncodeChar c ++ rest) = c :: decodeLossy rest := by
  obtain ⟨b, tail, he, hf⟩ := front_utf8EncodeChar c rest
  rw [he, List.cons_append, decodeLossy, hf, List.drop_left]
  rfl

theorem isValid_utf8EncodeChar_append (c : Char) (rest : List UInt8) :
    isValid (String.utf8EncodeChar c ++ rest) = isValid rest := by
  obtain ⟨b, tail, he, hf⟩ := front_utf8EncodeChar c rest
  rw [he, List.cons_append, isValid, hf, List.drop_left]
  rfl

theorem decodeLossy_flatMap (l : List Char) :
    decodeLossy (l.flatMap String.utf8EncodeChar) = l := by
  induction l with
  | nil => simp [decodeLossy]
  | cons c l ih => rw [List.flatMap_cons, decodeLossy_utf8EncodeChar_append, ih]

theorem isValid_flatMap (l : List Char) : isValid (l.flatMap String.utf8EncodeChar) = true := by
  induction l with
  | nil => simp [isValid]
  | cons c l ih => rw [List.flatMap_cons, isValid_utf8EncodeChar_append, ih]

/-- The bytes of a text read back as the text. -/
theorem lossyText_encode (s : String) : lossyText (encode s) = s := by
  rw [lossyText, encode_eq_flatMap, decodeLossy_flatMap, String.ofList_toList]

end BrokerClient.Text.Utf8
