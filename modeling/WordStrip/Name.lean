import WordStrip.Text.Quoted

/-!
# Names of alternatives

Several types here are short lists of alternatives, each with a name. A name that none of them has
is refused, and the refusal shows it.
-/

namespace WordStrip

/-- A text that names none of the alternatives of a type. -/
structure UnknownName where
  name : String
  typeName : String
  deriving DecidableEq, Repr

/-- The wording of a refusal. -/
def UnknownName.message (e : UnknownName) : String :=
  s!"{Text.quoted e.name} is not a valid {e.typeName}"

/-- The alternative with a name, from a list of all. -/
def byName {α : Type} (typeName : String) (nameOf : α → String) (all : List α) (name : String) :
    Except UnknownName α :=
  match all.find? fun a => nameOf a == name with
  | some a => .ok a
  | none => .error ⟨name, typeName⟩

end WordStrip
