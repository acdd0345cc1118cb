import WordStrip.Number.Numeral
import WordStrip.Number.Shortest
import WordStrip.Text.Quoted

/-!
# JSON values

A document holds one value. Whole numbers and numbers with a point are kept apart, whole numbers
are exact, and the fields of an object keep the order of their names' first occurrence.

`Json.display` is the text by which a message shows a value: quoted texts, lists in brackets, a
list's items and an object's fields separated by a comma and a space. A value with a whole number of
too many digits cannot be shown.
-/

namespace WordStrip

/-- A JSON value. -/
inductive Json where
  | null
  | bool (b : Bool)
  | whole (n : Int)
  | real (x : Float)
  | text (s : String)
  | list (items : List Json)
  | object (fields : List (String × Json))
  deriving Inhabited

namespace Json

/-- What a message calls the kind of a value. -/
def typeName : Json → String
  | null => "NoneType"
  | bool _ => "bool"
  | whole _ => "int"
  | real _ => "float"
  | text _ => "str"
  | list _ => "list"
  | object _ => "dict"

mutual

/-- How a message shows a value. -/
def display : Json → String
  | null => "None"
  | bool b => Text.shownBool b
  | whole n => toString n
  | real x => Number.shortest x
  | text s => Text.quoted s
  | list items => "[" ++ ", ".intercalate (displayItems items) ++ "]"
  | object fields => "\x7b" ++ ", ".intercalate (displayFields fields) ++ "\x7d"

/-- How a message shows the items of a list. -/
def displayItems : List Json → List String
  | [] => []
  | item :: rest => display item :: displayItems rest

/-- How a message shows the fields of an object. -/
def displayFields : List (String × Json) → List String
  | [] => []
  | (name, value) :: rest => (Text.quoted name ++ ": " ++ display value) :: displayFields rest

end

mutual

/-- Whether a message can show a value. -/
def isShowable : Json → Bool
  | whole n => Number.isShowable n
  | list items => areShowable items
  | object fields => fieldsAreShowable fields
  | _ => true

/-- Whether a message can show the items of a list. -/
def areShowable : List Json → Bool
  | [] => true
  | item :: rest => isShowable item && areShowable rest

/-- Whether a message can show the fields of an object. -/
def fieldsAreShowable : List (String × Json) → Bool
  | [] => true
  | (_, value) :: rest => isShowable value && fieldsAreShowable rest

end

/-- How a value reads as a plain text: a text is itself, other values are displayed. -/
def plain : Json → String
  | text s => s
  | value => display value

/-- Whether a value counts as a yes: all do but null, false, zero and what is empty. -/
def isYes : Json → Bool
  | null => false
  | bool b => b
  | whole n => n ≠ 0
  | real x => x != 0
  | text s => !s.isEmpty
  | list items => !items.isEmpty
  | object fields => !fields.isEmpty

end Json

end WordStrip
