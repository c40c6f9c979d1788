import BrokerClient.Meta
import BrokerClient.Text.Utf8
/-!
Entities, the payload of every frame: named texts called metas, and a body of bytes. Metas keep
one value per name and are listed in the order of their names' bytes, which for text is the
order of code points; writing a name again replaces its value.
-/

namespace BrokerClient

/-- Named texts, sorted by name, one value per name. -/
structure Metas where
  /-- The pairs of name and value, in order of names. -/
  entries : List (String × String)
  deriving DecidableEq, Repr, Inhabited

namespace Metas

/-- No metas. -/
def empty : Metas := ⟨[]⟩

/-- Puts a value under a name into a sorted list of pairs, replacing an earlier value. -/
def insertEntry (name value : String) : List (String × String) → List (String × String)
  | [] => [(name, value)]
  | (n, v) :: rest =>
    if name < n then (name, value) :: (n, v) :: rest
    else if name = n then (name, value) :: rest
    else (n, v) :: insertEntry name value rest

/-- The metas with `name` set to `value`. -/
def put (m : Metas) (name value : String) : Metas := ⟨insertEntry name value m.entries⟩

/-- The value under a name. -/
def get? (m : Metas) (name : String) : Option String := m.entries.lookup name

/-- The metas of a list of pairs, put in order, so a later pair replaces an earlier one. -/
def ofList (pairs : List (String × String)) : Metas :=
  pairs.foldl (fun m p => m.put p.1 p.2) empty

theorem get?_put_self (m : Metas) (name value : String) :
    (m.put name value).get? name = some value := by
  unfold put get?
  induction m.entries with
  | nil => simp [insertEntry]
  | cons p rest ih =>
    obtain ⟨n, v⟩ := p
    simp only [insertEntry]
    split
    · simp
    · split
      · simp
      · rename_i h₁ h₂
        have hne : (name == n) = false := by simpa using h₂
        simp [List.lookup_cons, hne, ih]

end Metas

/-- A frame's payload: metas and a body. -/
structure Entity where
  /-- The metas. -/
  metas : Metas := .empty
  /-- The body. -/
  body : List UInt8 := []
  deriving DecidableEq, Repr, Inhabited

namespace Entity

/-- The entity whose body is the UTF-8 of a text. -/
def ofText (s : String) : Entity := { body := Text.Utf8.encode s }

/-- The entity with a meta set. -/
def put (e : Entity) (name value : String) : Entity := { e with metas := e.metas.put name value }

/-- The entity addressed to `target`. -/
def addressTo (e : Entity) (target : String) : Entity := e.put Meta.target target

/-- The value of a meta. -/
def meta? (e : Entity) (name : String) : Option String := e.metas.get? name

/-- The value of a meta, or a default when it is absent. -/
def metaOr (e : Entity) (name dflt : String) : String := (e.meta? name).getD dflt

/-- The body as text, with invalid parts replaced. -/
def text (e : Entity) : String := Text.Utf8.lossyText e.body

end Entity

/-- What a consumer sends back for a frame: an entity, or an alarm with a text. -/
inductive Reply where
  | plain (e : Entity)
  | alarm (text : String)
  deriving DecidableEq, Repr

/-- The reply sent when none is given: an empty entity. -/
instance : Inhabited Reply := ⟨.plain {}⟩

end BrokerClient
