/-!
Topics and parameters. A topic is qualified by a namespace as `namespace:topic`, once, on the
client side; a subscription is known on the broker by its queue name `topic#group`. Names that
travel as metas may not be empty and may not hold a reserved character, because the broker
splits on those.
-/

namespace BrokerClient.Topic

/-- The topic qualified by a namespace; the empty namespace leaves it as it is. -/
def full (space topic : String) : String :=
  if space.isEmpty then topic else space ++ ":" ++ topic

/-- The characters after the first colon, when that colon is not the first character. -/
def bareChars : List Char → List Char
  | [] => []
  | c :: cs =>
    if c == ':' then c :: cs
    else if cs.contains ':' then (cs.dropWhile (· != ':')).drop 1
    else c :: cs

/-- The topic without its namespace: what follows the first colon, unless the colon comes
first or there is none. -/
def bare (fullTopic : String) : String :=
  String.ofList (bareChars fullTopic.toList)

/-- The queue name of a consumer group on a qualified topic. -/
def queueName (fullTopic group : String) : String :=
  fullTopic ++ "#" ++ group

/-- Two words joined by a separator that neither word of the right side holds are split back
at the first separator. -/
theorem append_sep_inj {sep : Char} :
    ∀ {a b a' b' : List Char}, sep ∉ a' → sep ∉ b' →
      a ++ sep :: b = a' ++ sep :: b' → a = a' ∧ b = b'
  | [], b, [], b', _, _, h => by simpa using h
  | x :: a, b, [], b', _, hb', h => by
    -- the separator would come back inside `b'`
    simp only [List.nil_append, List.cons_append, List.cons.injEq] at h
    exact absurd (h.2 ▸ List.mem_append_right a (List.mem_cons_self ..)) hb'
  | [], b, y :: a', b', ha', _, h => by
    simp only [List.nil_append, List.cons_append, List.cons.injEq] at h
    exact absurd (h.1 ▸ List.mem_cons_self ..) ha'
  | x :: a, b, y :: a', b', ha', hb', h => by
    simp only [List.cons_append, List.cons.injEq] at h
    obtain ⟨hxy, h⟩ := h
    obtain ⟨rfl, rfl⟩ := append_sep_inj (fun hm => ha' (List.mem_cons_of_mem y hm)) hb' h
    exact ⟨by rw [hxy], rfl⟩

/-- A queue name of a topic and group free of `#` is the queue name of no other pair. -/
theorem queueName_eq_iff {t g t' g' : String} (ht' : '#' ∉ t'.toList) (hg' : '#' ∉ g'.toList) :
    queueName t g = queueName t' g' ↔ t = t' ∧ g = g' := by
  constructor
  · intro h
    have hl := congrArg String.toList h
    simp only [queueName, String.toList_append] at hl
    have hsplit : t.toList ++ '#' :: g.toList = t'.toList ++ '#' :: g'.toList := by
      simpa using hl
    obtain ⟨h1, h2⟩ := append_sep_inj ht' hg' hsplit
    exact ⟨String.toList_inj.1 h1, String.toList_inj.1 h2⟩
  · rintro ⟨rfl, rfl⟩
    rfl

/-- The characters a parameter may not hold. -/
def reserved : List Char := ['@', ',', ';', ':', '#', '!']

/-- Why a parameter is refused: it is empty, or it holds a reserved character. -/
inductive ParamError where
  | empty (name : String)
  | reserved (name : String) (c : Char)
  deriving DecidableEq, Repr

/-- The text of a refusal. -/
def ParamError.message : ParamError → String
  | .empty name => "param '" ++ name ++ "' can't be empty"
  | .reserved name c => "param '" ++ name ++ "' can't contain '" ++ c.toString ++ "'"

/-- Checks a parameter called `name`: it must be nonempty, and its first reserved character,
if any, is the one named in the refusal. -/
def checkParam (value name : String) : Except ParamError Unit :=
  if value.isEmpty then .error (.empty name)
  else match value.toList.find? (reserved.contains ·) with
    | some c => .error (.reserved name c)
    | none => .ok ()

example : full "prod" "orders" = "prod:orders" ∧ bare "prod:orders" = "orders" := by decide
example : bare ":orders" = ":orders" ∧ bare "a:b:c" = "b:c" ∧ bare "::" = "::" := by decide

end BrokerClient.Topic
