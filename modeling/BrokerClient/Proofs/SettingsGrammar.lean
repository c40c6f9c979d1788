import Mathlib.Data.Nat.Digits.Defs
import Mathlib.Tactic.Ring
import BrokerClient.Settings
import BrokerClient.Proofs.Confirmation
/-!
Loading settings accepts exactly its grammar. A count of milliseconds is, trimmed of blanks, an
optional plus sign and one or more ASCII digits whose value lies from 1 to `2 ^ 64 - 1`
(`Settings.parseMillis_eq_some_iff`, through `Text.parseUnsigned?_eq_some_iff`); a flag is,
trimmed of blanks and with ASCII letters lowered, one of `true`, `1`, `yes`, `false`, `0`, `no`
(`Settings.parseFlag_eq_some_iff`); a namespace is empty or a valid parameter. Five variables
can be refused, read in a fixed order (`Settings.Checked.order`); loading fails on the first of
them that holds a value it refuses, naming it with that value as given, and otherwise succeeds
with every setting read from its variable or left at its default
(`Settings.ofLookup_accepts_exactly_grammar`).

The code reads the namespace and the flag by matches that its `do` block continues inside;
`Settings.ofLookup_eq` restates it as a chain of stages, each with the lemmas of what it gives.
-/

namespace BrokerClient

namespace Text

/-- The value of a decimal numeral, most significant digit first. -/
def decimalValue (ds : List Char) : Nat :=
  Nat.ofDigits 10 (ds.reverse.map fun c => c.toNat - '0'.toNat)

theorem decimalValue_cons (c : Char) (ds : List Char) :
    decimalValue (c :: ds) = (c.toNat - '0'.toNat) * 10 ^ ds.length + decimalValue ds := by
  simp only [decimalValue, List.reverse_cons, List.map_append, Nat.ofDigits_append,
    List.length_map, List.length_reverse, List.map_cons, List.map_nil, Nat.ofDigits_singleton]
  ring

theorem foldl_digitStep_eq_some {v w : Nat} :
    ∀ {cs : List Char}, cs.foldl digitStep (some v) = some w ↔
      (∀ c ∈ cs, c.isDigit) ∧ w = v * 10 ^ cs.length + decimalValue cs
  | [] => by
    simp only [List.foldl_nil, Option.some.injEq, List.not_mem_nil, IsEmpty.forall_iff,
      implies_true, List.length_nil, pow_zero, mul_one, true_and]
    simp [decimalValue, eq_comm]
  | c :: cs => by
    rw [List.foldl_cons]
    by_cases hc : c.isDigit = true
    · have hstep : digitStep (some v) c = some (10 * v + (c.toNat - '0'.toNat)) := by
        simp [digitStep, hc]
      have hval : (10 * v + (c.toNat - '0'.toNat)) * 10 ^ cs.length + decimalValue cs =
          v * 10 ^ (c :: cs).length + decimalValue (c :: cs) := by
        rw [decimalValue_cons, List.length_cons, pow_succ]
        ring
      rw [hstep, foldl_digitStep_eq_some, hval]
      simp [hc]
    · have hstep : digitStep (some v) c = none := by simp [digitStep, hc]
      rw [hstep, foldl_digitStep_none]
      simp [hc]

/-- A run of characters has a value exactly when it is one or more ASCII digits. -/
theorem digitsValue?_eq_some_iff {cs : List Char} {v : Nat} :
    digitsValue? cs = some v ↔ cs ≠ [] ∧ (∀ c ∈ cs, c.isDigit) ∧ v = decimalValue cs := by
  rw [digitsValue?_eq]
  by_cases he : cs.isEmpty = true
  · simp [List.isEmpty_iff.1 he]
  · have hne : cs ≠ [] := by simpa [List.isEmpty_iff] using he
    rw [if_neg he, foldl_digitStep_eq_some]
    simp [hne]

/-- The digits of an unsigned numeral: what follows a leading plus sign, or the whole text. -/
def dropPlus : List Char → List Char
  | '+' :: rest => rest
  | cs => cs

theorem dropPlus_of_ne {cs : List Char} (h : ∀ rest, cs ≠ '+' :: rest) : dropPlus cs = cs := by
  unfold dropPlus
  split
  · exact absurd rfl (h _)
  · rfl

theorem dropPlus_eq_iff {cs ds : List Char} (hd : ∀ c ∈ ds, c.isDigit) :
    dropPlus cs = ds ↔ cs = ds ∨ cs = '+' :: ds := by
  -- a plus sign is no digit, so it heads at most one side
  have hplus : ∀ rest, ds ≠ '+' :: rest := fun rest h => by
    simpa using hd '+' (h ▸ List.mem_cons_self)
  by_cases hc : ∃ rest, cs = '+' :: rest
  · obtain ⟨rest, rfl⟩ := hc
    simp only [dropPlus, List.cons.injEq, true_and]
    rw [or_iff_right fun h => hplus rest h.symm]
  · simp only [not_exists] at hc
    rw [dropPlus_of_ne hc, or_iff_left (hc ds)]

theorem parseUnsigned?_eq (bits : Nat) (s : String) : parseUnsigned? bits s =
    (digitsValue? (dropPlus s.toList)).bind (fun w => if w < 2 ^ bits then some w else none) := by
  unfold parseUnsigned?
  split
  · rename_i rest h
    rw [h, dropPlus]
    dsimp only
    cases digitsValue? rest <;> rfl
  · rename_i h
    rw [dropPlus_of_ne h]
    dsimp only
    cases digitsValue? s.toList <;> rfl

/-- `s` is an unsigned numeral of `bits` bits for `v`: an optional plus sign and one or more
ASCII digits, whose value is below `2 ^ bits`. -/
def UnsignedNumeral (bits : Nat) (s : String) (v : Nat) : Prop :=
  ∃ ds : List Char, ds ≠ [] ∧ (∀ c ∈ ds, c.isDigit) ∧ (s.toList = ds ∨ s.toList = '+' :: ds) ∧
    v = decimalValue ds ∧ v < 2 ^ bits

/-- **Unsigned numerals.** The reader accepts exactly the unsigned numerals, with their value. -/
theorem parseUnsigned?_eq_some_iff {bits v : Nat} {s : String} :
    parseUnsigned? bits s = some v ↔ UnsignedNumeral bits s v := by
  simp only [parseUnsigned?_eq, Option.bind_eq_some_iff, Option.ite_none_right_eq_some,
    Option.some.injEq, digitsValue?_eq_some_iff, UnsignedNumeral]
  constructor
  · rintro ⟨w, ⟨hne, hd, rfl⟩, hlt, rfl⟩
    exact ⟨_, hne, hd, (dropPlus_eq_iff hd).1 rfl, rfl, hlt⟩
  · rintro ⟨ds, hne, hd, hs, rfl, hlt⟩
    rw [← dropPlus_eq_iff hd] at hs
    subst hs
    exact ⟨_, ⟨hne, hd, rfl⟩, hlt, rfl⟩

end Text

/-! ### Results of `Except` chains -/

theorem Except.bind_eq_error_iff {ε α β : Type} {m : Except ε α} {f : α → Except ε β} {e : ε} :
    m >>= f = .error e ↔ m = .error e ∨ ∃ a, m = .ok a ∧ f a = .error e := by
  cases m <;> simp [bind, Except.bind]

theorem Except.bind_eq_ok_iff {ε α β : Type} {m : Except ε α} {f : α → Except ε β} {b : β} :
    m >>= f = .ok b ↔ ∃ a, m = .ok a ∧ f a = .ok b := by
  cases m <;> simp [bind, Except.bind]

theorem Except.pure_ne_error {ε α : Type} (a : α) (e : ε) : (pure a : Except ε α) ≠ .error e := by
  simp [pure, Except.pure]

theorem Except.pure_eq_ok_iff {ε α : Type} {a b : α} : (pure a : Except ε α) = .ok b ↔ a = b := by
  simp [pure, Except.pure]

theorem exists_first_cons {α : Type} {P Q : α → Prop} {a : α} {l : List α} :
    (∃ pre x post, a :: l = pre ++ x :: post ∧ (∀ w ∈ pre, P w) ∧ Q x) ↔
      Q a ∨ (P a ∧ ∃ pre x post, l = pre ++ x :: post ∧ (∀ w ∈ pre, P w) ∧ Q x) := by
  constructor
  · rintro ⟨_ | ⟨b, pre⟩, x, post, h, hp, hq⟩
    · obtain ⟨rfl, -⟩ := List.cons.inj h
      exact .inl hq
    · obtain ⟨rfl, rfl⟩ := List.cons.inj h
      exact .inr ⟨hp _ List.mem_cons_self, pre, x, post, rfl,
        fun w hw => hp w (List.mem_cons_of_mem _ hw), hq⟩
  · rintro (hq | ⟨hpa, pre, x, post, rfl, hp, hq⟩)
    · exact ⟨[], a, l, rfl, by simp, hq⟩
    · refine ⟨a :: pre, x, post, rfl, ?_, hq⟩
      simpa [hpa] using hp

theorem exists_first_nil {α : Type} {P Q : α → Prop} :
    ¬∃ pre x post, ([] : List α) = pre ++ x :: post ∧ (∀ w ∈ pre, P w) ∧ Q x := by
  simp

namespace Settings

/-! ### What a variable may hold -/

/-- `raw` gives a count of `n` milliseconds: trimmed of blanks it is an unsigned 64-bit
numeral of `n`, and `n` is not zero. -/
def MillisText (raw : String) (n : Nat) : Prop :=
  Text.UnsignedNumeral 64 (Text.trimBlank raw) n ∧ 1 ≤ n

/-- `raw` gives the flag `b`: trimmed of blanks and with ASCII letters lowered it is `true`, `1`
or `yes` for true, `false`, `0` or `no` for false. -/
def FlagText (raw : String) (b : Bool) : Prop :=
  (Text.trimBlank raw).map Char.toLower ∈
    (if b then ["true", "1", "yes"] else ["false", "0", "no"])

theorem parseMillis_eq_some_iff {raw : String} {d : Duration} :
    parseMillis raw = some d ↔ MillisText raw d.millis := by
  unfold parseMillis MillisText
  rw [← Text.parseUnsigned?_eq_some_iff]
  split
  · rename_i n hn
    rw [hn]
    obtain ⟨m⟩ := d
    by_cases h0 : n > 0
    · simp only [h0, if_true, Option.some.injEq, Duration.mk.injEq]
      constructor
      · rintro rfl
        exact ⟨rfl, h0⟩
      · exact fun h => h.1
    · simp only [h0, if_false, reduceCtorEq, Option.some.injEq, false_iff, not_and]
      omega
  · rename_i hn
    rw [hn]
    simp

theorem parseFlag_eq_some_iff {raw : String} {b : Bool} :
    parseFlag raw = some b ↔ FlagText raw b := by
  unfold parseFlag FlagText
  generalize (Text.trimBlank raw).map Char.toLower = w
  simp only [Bool.or_eq_true, beq_iff_eq, or_assoc]
  by_cases ht : w = "true" ∨ w = "1" ∨ w = "yes"
  · rw [if_pos ht]
    cases b
    · -- no word of true is a word of false
      simp only [Option.some.injEq, Bool.true_eq_false, false_iff]
      rcases ht with rfl | rfl | rfl <;> decide
    · simpa using ht
  · rw [if_neg ht]
    cases b <;> by_cases hf : w = "false" ∨ w = "0" ∨ w = "no" <;> simp_all

theorem parseMillis_eq_none_iff {raw : String} :
    parseMillis raw = none ↔ ¬∃ n, MillisText raw n := by
  simp only [Option.eq_none_iff_forall_ne_some, ne_eq, parseMillis_eq_some_iff, not_exists]
  exact ⟨fun h n => h ⟨n⟩, fun h d => h d.millis⟩

theorem parseFlag_eq_none_iff {raw : String} : parseFlag raw = none ↔ ¬∃ b, FlagText raw b := by
  simp only [Option.eq_none_iff_forall_ne_some, ne_eq, parseFlag_eq_some_iff, not_exists]

/-! ### The variables that can be refused -/

/-- The variables that loading settings may refuse, in the order they are read. -/
inductive Checked where
  | space | requestTimeout | subscribeTimeout | heartbeat | autoAck
  deriving DecidableEq, Repr

namespace Checked

/-- The name of the variable. -/
def key : Checked → String
  | space => "FOLKMQ_NAMESPACE"
  | requestTimeout => "FOLKMQ_REQUEST_TIMEOUT_MS"
  | subscribeTimeout => "FOLKMQ_SUBSCRIBE_TIMEOUT_MS"
  | heartbeat => "FOLKMQ_HEARTBEAT_MS"
  | autoAck => "FOLKMQ_AUTO_ACK"

/-- The values a variable accepts: a namespace empty or a valid parameter, a count of
milliseconds, a flag. -/
def Accepts : Checked → String → Prop
  | space, raw => raw = "" ∨ Topic.Valid raw
  | autoAck, raw => ∃ b, FlagText raw b
  | _, raw => ∃ n, MillisText raw n

/-- The order in which the variables are read. -/
def order : List Checked := [space, requestTimeout, subscribeTimeout, heartbeat, autoAck]

end Checked

/-- The lookup gives the variable no value that it refuses. -/
def Admits (lookup : String → Option String) (v : Checked) : Prop :=
  ∀ raw, lookup v.key = some raw → v.Accepts raw

/-- The lookup gives the variable a value that it refuses, and `e` names the variable with
that value as it was given. -/
def Refuses (lookup : String → Option String) (v : Checked) (e : SettingError) : Prop :=
  ∃ raw, lookup v.key = some raw ∧ ¬v.Accepts raw ∧ e = ⟨v.key, raw⟩

/-- A duration read from a variable that may be unset: the default when it is, the count of
milliseconds it gives otherwise. -/
def MillisFrom (raw? : Option String) (default : Nat) (d : Duration) : Prop :=
  match raw? with
  | none => d.millis = default
  | some raw => MillisText raw d.millis

/-- A flag read from a variable that may be unset: the default when it is, the flag it gives
otherwise. -/
def FlagFrom (raw? : Option String) (default : Bool) (b : Bool) : Prop :=
  match raw? with
  | none => b = default
  | some raw => FlagText raw b

/-- The settings a lookup loads when it gives no refused value: each setting from its variable,
or its default when the variable is unset (or, for the name and the namespace, empty). -/
structure Loads (lookup : String → Option String) (s : Settings) : Prop where
  serverUrls : s.serverUrls = ((lookup "FOLKMQ_SERVER_URLS").map fun raw =>
    ((raw.splitOn ",").map Text.trimBlank).filter (· != "")).getD ["folkmq://127.0.0.1:18602"]
  name : s.name = (lookup "FOLKMQ_NAME").filter (· != "")
  space : s.space = (lookup "FOLKMQ_NAMESPACE").filter (· != "")
  requestTimeout : MillisFrom (lookup "FOLKMQ_REQUEST_TIMEOUT_MS") 10000 s.requestTimeout
  subscribeTimeout : MillisFrom (lookup "FOLKMQ_SUBSCRIBE_TIMEOUT_MS") 30000 s.subscribeTimeout
  heartbeat : MillisFrom (lookup "FOLKMQ_HEARTBEAT_MS") 6000 s.heartbeat
  autoAck : FlagFrom (lookup "FOLKMQ_AUTO_ACK") true s.autoAck

/-! ### Loading, stage by stage -/

/-- The settings that the urls and the name give over the defaults. -/
def named (lookup : String → Option String) : Settings :=
  let s : Settings := {}
  let s := match lookup "FOLKMQ_SERVER_URLS" with
    | some raw => { s with serverUrls := splitUrls raw }
    | none => s
  match lookup "FOLKMQ_NAME" with
    | some n => if n.isEmpty then s else { s with name := some n }
    | none => s

/-- Reading the namespace over settings: ignored when empty, refused unless a valid parameter. -/
def readSpace (lookup : String → Option String) (s : Settings) : Except SettingError Settings :=
  match lookup "FOLKMQ_NAMESPACE" with
  | some ns =>
    if ns.isEmpty then pure s
    else match Topic.checkParam ns "namespace" with
      | .ok () => pure { s with space := some ns }
      | .error _ => throw ⟨"FOLKMQ_NAMESPACE", ns⟩
  | none => pure s

/-- Reading the auto-acknowledge flag over its current value. -/
def readFlag (lookup : String → Option String) (current : Bool) : Except SettingError Bool :=
  match lookup "FOLKMQ_AUTO_ACK" with
  | some raw => match parseFlag raw with
    | some b => pure b
    | none => throw ⟨"FOLKMQ_AUTO_ACK", raw⟩
  | none => pure current

theorem readSpace_bind {β : Type} (lookup : String → Option String) (s : Settings)
    (k : Settings → Except SettingError β) :
    readSpace lookup s >>= k = match lookup "FOLKMQ_NAMESPACE" with
      | some ns =>
        if ns.isEmpty then k s
        else match Topic.checkParam ns "namespace" with
          | .ok () => k { s with space := some ns }
          | .error _ => .error ⟨"FOLKMQ_NAMESPACE", ns⟩
      | none => k s := by
  unfold readSpace
  rcases lookup "FOLKMQ_NAMESPACE" with _ | ns
  · rfl
  · by_cases he : ns.isEmpty = true
    · simp only [he, if_true]
      rfl
    · simp only [he]
      rcases Topic.checkParam ns "namespace" with _ | ⟨⟩ <;> rfl

theorem readFlag_bind {β : Type} (lookup : String → Option String) (current : Bool)
    (k : Bool → Except SettingError β) :
    readFlag lookup current >>= k = match lookup "FOLKMQ_AUTO_ACK" with
      | some raw => match parseFlag raw with
        | some b => k b
        | none => .error ⟨"FOLKMQ_AUTO_ACK", raw⟩
      | none => k current := by
  unfold readFlag
  rcases lookup "FOLKMQ_AUTO_ACK" with _ | raw
  · rfl
  · dsimp only
    rcases parseFlag raw with _ | b <;> rfl

/-- Loading settings is a chain of stages: the namespace over the urls and the name, the three
durations, the flag. -/
theorem ofLookup_eq (lookup : String → Option String) : ofLookup lookup = (do
    let s ← readSpace lookup (named lookup)
    let request ← readMillis lookup "FOLKMQ_REQUEST_TIMEOUT_MS" s.requestTimeout
    let subscribe ← readMillis lookup "FOLKMQ_SUBSCRIBE_TIMEOUT_MS" s.subscribeTimeout
    let heartbeat ← readMillis lookup "FOLKMQ_HEARTBEAT_MS" s.heartbeat
    let autoAck ← readFlag lookup s.autoAck
    return { s with requestTimeout := request, subscribeTimeout := subscribe,
                    heartbeat := heartbeat, autoAck := autoAck }) := by
  simp only [readSpace_bind, readFlag_bind]
  rfl

/-! ### What each stage gives -/

theorem readSpace_of_some {lookup : String → Option String} {ns : String}
    (h : lookup "FOLKMQ_NAMESPACE" = some ns) (s : Settings) :
    readSpace lookup s = if ns = "" then .ok s
      else if Topic.Valid ns then .ok { s with space := some ns }
      else .error ⟨"FOLKMQ_NAMESPACE", ns⟩ := by
  unfold readSpace
  rw [h]
  dsimp only
  by_cases he : ns = ""
  · simp [he, pure, Except.pure]
  · have hb : ns.isEmpty = false := by simpa using he
    rw [hb, if_neg he]
    by_cases hv : Topic.Valid ns
    · rw [Topic.checkParam_eq_ok_iff.2 hv, if_pos hv]
      rfl
    · obtain ⟨err, herr⟩ : ∃ err, Topic.checkParam ns "namespace" = .error err :=
        Topic.checkParam_error_of_not_valid hv
      rw [herr, if_neg hv]
      rfl

theorem readSpace_of_none {lookup : String → Option String}
    (h : lookup "FOLKMQ_NAMESPACE" = none) (s : Settings) : readSpace lookup s = .ok s := by
  unfold readSpace
  rw [h]
  rfl

theorem readSpace_eq_error_iff {lookup : String → Option String} {s : Settings}
    {e : SettingError} : readSpace lookup s = .error e ↔ Refuses lookup .space e := by
  simp only [Refuses, Checked.key, Checked.Accepts]
  rcases h : lookup "FOLKMQ_NAMESPACE" with _ | ns
  · simp [readSpace_of_none h]
  · rw [readSpace_of_some h]
    by_cases he : ns = ""
    · simp [he]
    · by_cases hv : Topic.Valid ns
      · simp [he, hv]
      · simp [he, hv, eq_comm]

theorem readSpace_eq_ok_iff {lookup : String → Option String} {s s' : Settings} :
    readSpace lookup s = .ok s' ↔
      s' = { s with space := ((lookup "FOLKMQ_NAMESPACE").filter (· != "")).or s.space } ∧
        Admits lookup .space := by
  simp only [Admits, Checked.key, Checked.Accepts]
  obtain ⟨urls, name, space, request, subscribe, heartbeat, autoAck⟩ := s
  rcases h : lookup "FOLKMQ_NAMESPACE" with _ | ns
  · simp [readSpace_of_none h, eq_comm]
  · rw [readSpace_of_some h]
    by_cases he : ns = ""
    · -- an empty namespace is ignored
      subst he
      have hf : (some "").filter (· != "") = none := rfl
      rw [if_pos rfl, hf, Option.none_or]
      constructor
      · rintro ⟨⟩
        exact ⟨rfl, fun raw hr => .inl (Option.some.inj hr).symm⟩
      · rintro ⟨rfl, -⟩
        rfl
    · have hf : (some ns).filter (· != "") = some ns := by simp [he]
      rw [if_neg he, hf, Option.some_or]
      by_cases hv : Topic.Valid ns
      · rw [if_pos hv]
        constructor
        · rintro ⟨⟩
          exact ⟨rfl, fun raw hr => .inr (Option.some.inj hr ▸ hv)⟩
        · rintro ⟨rfl, -⟩
          rfl
      · rw [if_neg hv]
        simp only [reduceCtorEq, false_iff, not_and]
        exact fun _ hadm => (hadm ns rfl).elim he hv

theorem readMillis_eq_error_iff {lookup : String → Option String} {key : String}
    {current : Duration} {e : SettingError} :
    readMillis lookup key current = .error e ↔
      ∃ raw, lookup key = some raw ∧ ¬(∃ n, MillisText raw n) ∧ e = ⟨key, raw⟩ := by
  unfold readMillis
  rcases lookup key with _ | raw
  · simp
  · dsimp only
    rcases hp : parseMillis raw with _ | d
    · simp only [Option.some.injEq, exists_eq_left', Except.error.injEq,
        parseMillis_eq_none_iff.1 hp, not_false_eq_true, true_and]
      exact eq_comm
    · have : ∃ n, MillisText raw n := ⟨d.millis, parseMillis_eq_some_iff.1 hp⟩
      simp [this]

theorem readMillis_eq_ok_iff {lookup : String → Option String} {key : String}
    {current d : Duration} :
    readMillis lookup key current = .ok d ↔ MillisFrom (lookup key) current.millis d := by
  unfold readMillis MillisFrom
  rcases lookup key with _ | raw
  · obtain ⟨m⟩ := current
    obtain ⟨m'⟩ := d
    simp [eq_comm]
  · dsimp only
    rw [← parseMillis_eq_some_iff]
    rcases parseMillis raw with _ | d' <;> simp

theorem exists_readMillis_eq_ok_iff {lookup : String → Option String} {key : String}
    {current : Duration} :
    (∃ d, readMillis lookup key current = .ok d) ↔
      ∀ raw, lookup key = some raw → ∃ n, MillisText raw n := by
  simp only [readMillis_eq_ok_iff, MillisFrom]
  rcases lookup key with _ | raw
  · simp
  · simp only [Option.some.injEq, forall_eq']
    exact ⟨fun ⟨d, hd⟩ => ⟨d.millis, hd⟩, fun ⟨n, hn⟩ => ⟨⟨n⟩, hn⟩⟩

theorem readFlag_eq_error_iff {lookup : String → Option String} {current : Bool}
    {e : SettingError} : readFlag lookup current = .error e ↔ Refuses lookup .autoAck e := by
  unfold readFlag
  simp only [Refuses, Checked.key, Checked.Accepts]
  rcases lookup "FOLKMQ_AUTO_ACK" with _ | raw
  · simp [pure, Except.pure]
  · dsimp only
    rcases hp : parseFlag raw with _ | b
    · simp only [Option.some.injEq, exists_eq_left', parseFlag_eq_none_iff.1 hp,
        not_false_eq_true, true_and]
      exact ⟨fun h => (Except.error.inj h).symm, fun h => h ▸ rfl⟩
    · have : ∃ b, FlagText raw b := ⟨b, parseFlag_eq_some_iff.1 hp⟩
      simp only [Option.some.injEq, exists_eq_left', this, not_true_eq_false, false_and,
        iff_false]
      exact Except.pure_ne_error b e

theorem readFlag_eq_ok_iff {lookup : String → Option String} {current b : Bool} :
    readFlag lookup current = .ok b ↔ FlagFrom (lookup "FOLKMQ_AUTO_ACK") current b := by
  unfold readFlag FlagFrom
  rcases lookup "FOLKMQ_AUTO_ACK" with _ | raw
  · simp [pure, Except.pure, eq_comm]
  · dsimp only
    rw [← parseFlag_eq_some_iff]
    rcases parseFlag raw with _ | b' <;>
      simp [pure, Except.pure, throw, throwThe, MonadExceptOf.throw]

theorem MillisFrom.admits {raw? : Option String} {default : Nat} {d : Duration}
    (h : MillisFrom raw? default d) : ∀ raw, raw? = some raw → ∃ n, MillisText raw n := by
  rintro raw rfl
  exact ⟨d.millis, h⟩

theorem FlagFrom.admits {raw? : Option String} {default b : Bool}
    (h : FlagFrom raw? default b) : ∀ raw, raw? = some raw → ∃ b, FlagText raw b := by
  rintro raw rfl
  exact ⟨b, h⟩

theorem splitUrls_eq :
    splitUrls = fun raw => ((raw.splitOn ",").map Text.trimBlank).filter (· != "") := by
  funext raw
  unfold splitUrls
  congr 1
  funext u
  cases h : u.isEmpty <;> simp_all

theorem named_eq (lookup : String → Option String) : named lookup =
    { serverUrls := ((lookup "FOLKMQ_SERVER_URLS").map splitUrls).getD ["folkmq://127.0.0.1:18602"]
      name := (lookup "FOLKMQ_NAME").filter (· != "") } := by
  unfold named
  rcases lookup "FOLKMQ_NAME" with _ | n
  · rcases lookup "FOLKMQ_SERVER_URLS" with _ | urls <;> rfl
  · -- an empty name is ignored
    by_cases h : n = ""
    · subst h
      rcases lookup "FOLKMQ_SERVER_URLS" with _ | urls <;> rfl
    · have hb : n.isEmpty = false := by simpa using h
      have hf : (some n).filter (· != "") = some n := by simp [h]
      rcases lookup "FOLKMQ_SERVER_URLS" with _ | urls <;> simp [hb, hf]

theorem ofLookup_eq_error_iff (lookup : String → Option String) (e : SettingError) :
    ofLookup lookup = .error e ↔
      ∃ pre v post, Checked.order = pre ++ v :: post ∧ (∀ w ∈ pre, Admits lookup w) ∧
        Refuses lookup v e := by
  -- the first refused variable, read off the order one variable at a time
  simp only [Checked.order, exists_first_cons, exists_first_nil]
  -- and the first stage that fails, read off the code one stage at a time
  rw [ofLookup_eq]
  simp only [Except.bind_eq_error_iff, readSpace_eq_error_iff, readSpace_eq_ok_iff, and_assoc,
    exists_eq_left, readMillis_eq_error_iff, exists_and_right, exists_readMillis_eq_ok_iff,
    readFlag_eq_error_iff, Except.pure_ne_error, and_false, exists_false, or_false]
  simp only [Refuses, Admits, Checked.key, Checked.Accepts]

theorem ofLookup_eq_ok_iff (lookup : String → Option String) (s : Settings) :
    ofLookup lookup = .ok s ↔ (∀ v ∈ Checked.order, Admits lookup v) ∧ Loads lookup s := by
  rw [ofLookup_eq]
  simp only [Except.bind_eq_ok_iff, readSpace_eq_ok_iff, and_assoc, exists_eq_left,
    readMillis_eq_ok_iff, readFlag_eq_ok_iff, Except.pure_eq_ok_iff, named_eq, Option.or_none,
    splitUrls_eq]
  constructor
  · rintro ⟨hsp, r, hr, sb, hsb, hb, hhb, b, hfl, rfl⟩
    refine ⟨?_, ⟨rfl, rfl, rfl, hr, hsb, hhb, hfl⟩⟩
    -- each variable that was read was admitted on the way
    simp only [Checked.order, List.forall_mem_cons, List.not_mem_nil, IsEmpty.forall_iff,
      implies_true, and_true]
    exact ⟨hsp, hr.admits, hsb.admits, hhb.admits, hfl.admits⟩
  · rintro ⟨hadm, hl⟩
    simp only [Checked.order, List.forall_mem_cons] at hadm
    refine ⟨hadm.1, s.requestTimeout, hl.requestTimeout, s.subscribeTimeout, hl.subscribeTimeout,
      s.heartbeat, hl.heartbeat, s.autoAck, hl.autoAck, ?_⟩
    rw [← hl.serverUrls, ← hl.name, ← hl.space]

example : parseMillis " +18446744073709551615\u3000" = some ⟨18446744073709551615⟩ ∧
    parseMillis "18446744073709551616" = none ∧ parseMillis "0" = none ∧
    parseMillis "\u200B5" = none := by decide

/-- **Loading settings accepts exactly its grammar.** Loading fails exactly on the first
variable, in the order of `Checked.order`, whose value it refuses, and names that variable with
the value as it was given; otherwise it succeeds, with every setting read from its variable or
left at its default. -/
theorem ofLookup_accepts_exactly_grammar (lookup : String → Option String) :
    (∀ e, ofLookup lookup = .error e ↔
      ∃ pre v post, Checked.order = pre ++ v :: post ∧ (∀ w ∈ pre, Admits lookup w) ∧
        Refuses lookup v e) ∧
    (∀ s, ofLookup lookup = .ok s ↔ (∀ v ∈ Checked.order, Admits lookup v) ∧ Loads lookup s) :=
  ⟨ofLookup_eq_error_iff lookup, ofLookup_eq_ok_iff lookup⟩

end Settings

end BrokerClient
