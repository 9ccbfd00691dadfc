/-
**JSON values.**

A `Json` value keeps the members of an object in their order of writing. A number is an integer or
a number with a fraction or exponent; of the latter only the text is kept, since nothing here
computes with it.
-/

namespace Aggregation

/-- A JSON value. -/
inductive Json where
  | null
  | bool (value : Bool)
  | int (value : Int)
  | real (text : String)
  | string (text : String)
  | array (items : List Json)
  | object (members : List (String × Json))
deriving Inhabited

namespace Json

/-- The value of a member, the last one under the name counting. -/
def member? (members : List (String × Json)) (name : String) : Option Json :=
  (members.reverse.find? fun entry => entry.1 == name).map Prod.snd

/-- An optional text: absent is null. -/
def ofText? : Option String → Json
  | none => null
  | some text => string text

/-- A natural number. -/
def nat (value : Nat) : Json := int value

end Json

end Aggregation
