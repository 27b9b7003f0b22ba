/-!
# JSON values

The values of JSON texts, with the members of objects in the order of the text. Keys may
repeat: what that means is up to the reader of an object. Integers that fit into 64 bits
are kept apart from other numbers.

Two values stand for trouble in a text. They make it possible to look at a text from left
to right and to tell whether it first deviates from JSON or from what is expected.
-/

namespace ColumnChain

/-- A JSON value. -/
inductive Json where
  | null
  | bool (value : Bool)
  | integer (value : Int)
  | real (value : Float)
  | text (value : String)
  | list (items : List Json)
  | object (members : List (String × Json))
  /-- A number or a text of the right form that denotes nothing: a number out of range, or
  a text with half of a surrogate pair. -/
  | void
  /-- The text stops being JSON here. Nothing comes after it. -/
  | broken
  deriving Inhabited

namespace Json

/-- The value of a key, at its first occurrence. -/
def member? (members : List (String × Json)) (key : String) : Option Json :=
  (members.find? fun (name, _) => name == key).map Prod.snd

mutual

/-- Whether the text stops being JSON in the value. -/
def isBroken : Json → Bool
  | broken => true
  | list items => anyBroken items
  | object members => anyMemberBroken members
  | null | bool _ | integer _ | real _ | text _ | void => false

/-- Whether one of the items is broken. -/
def anyBroken : List Json → Bool
  | [] => false
  | item :: rest => item.isBroken || anyBroken rest

/-- Whether the value of one of the members is broken. -/
def anyMemberBroken : List (String × Json) → Bool
  | [] => false
  | (_, value) :: rest => value.isBroken || anyMemberBroken rest

end

mutual

/-- Whether the value is free of trouble, and lists and objects are not nested deeper
than `depth`. -/
def isSound (depth : Nat) : Json → Bool
  | broken | void => false
  | list items => match depth with
    | 0 => false
    | depth + 1 => allSound depth items
  | object members => match depth with
    | 0 => false
    | depth + 1 => allMembersSound depth members
  | null | bool _ | integer _ | real _ | text _ => true

/-- `isSound` of items. -/
def allSound (depth : Nat) : List Json → Bool
  | [] => true
  | item :: rest => item.isSound depth && allSound depth rest

/-- `isSound` of the values of members. -/
def allMembersSound (depth : Nat) : List (String × Json) → Bool
  | [] => true
  | (_, value) :: rest => value.isSound depth && allMembersSound depth rest

end

end Json
end ColumnChain
