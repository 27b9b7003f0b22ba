import ColumnChain.Calendar.Instant
import ColumnChain.Json.Basic
import ColumnChain.Keyed

/-!
# Decoding JSON

What it takes for a JSON value to describe something else. There are two ways to fail:
the text may be no JSON, or the value may not be of the expected form. A value is looked
at in the order of the text, and the first trouble counts.

A record is described by an object with a member for each field, in any order, or by a
list of its fields in order. Members with other keys are passed over; a key that repeats
is trouble. Fields may have a default, and then they may be left out.
-/

namespace ColumnChain.Json

/-- Why a JSON text does not describe what it should. -/
inductive Misfit where
  | notJson
  | wrongForm
  deriving DecidableEq

/-- A way of understanding JSON values. -/
abbrev Decoder (α : Type) := Json → Except Misfit α

/-- The trouble with a value of another form than expected. A value that is itself in
trouble is no JSON. -/
def unexpected : Json → Misfit
  | void | broken => .notJson
  | null | bool _ | integer _ | real _ | text _ | list _ | object _ => .wrongForm

/-- A text. -/
def asText : Decoder String
  | text value => .ok value
  | other => .error (unexpected other)

/-- A truth value. -/
def asBool : Decoder Bool
  | bool value => .ok value
  | other => .error (unexpected other)

/-- A natural number below a bound. -/
def asNatural (bound : Nat) : Decoder Nat
  | integer value =>
      if 0 ≤ value ∧ value < bound then .ok value.toNat else .error .wrongForm
  | other => .error (unexpected other)

/-- A word that something is named by. It can also be given as an object whose only
member has the word as its key and nothing as its value. Any other value is taken for
the lack of a value. -/
def asWord {α : Type} (meaning : String → Option α) : Decoder α
  | text word =>
      match meaning word with
      | some value => .ok value
      | none => .error .wrongForm
  | object [(_, broken)] => .error .notJson
  | object ((word, content) :: rest) =>
      match meaning word, content with
      | none, _ => .error .wrongForm
      | some value, null => if rest.isEmpty then .ok value else .error .notJson
      | some _, other => .error (unexpected other)
  | object [] | null | bool _ | integer _ | real _ | list _ | void | broken =>
      .error .notJson

/-- Something that may be absent. -/
def asOptional {α : Type} (decode : Decoder α) : Decoder (Option α)
  | null => .ok none
  | other => (decode other).map some

/-- A list of things of one kind. -/
def asList {α : Type} (decode : Decoder α) : Decoder (List α)
  | list items => items.mapM decode
  | other => .error (unexpected other)

/-- A text with a meaning. -/
def asMeaning {α : Type} (meaning : List Char → Option α) : Decoder α
  | text value =>
      match meaning value.toList with
      | some meant => .ok meant
      | none => .error .wrongForm
  | other => .error (unexpected other)

/-- A date. -/
def asDate : Decoder Date :=
  asMeaning Date.read?

/-- A time stamp. -/
def asInstant : Decoder Instant :=
  asMeaning Instant.read?

/-- A field of a record. -/
structure Field where
  name : String
  /-- The trouble with the field's value, if any. -/
  check : Decoder Unit
  /-- Whether the field can be left out of a list. -/
  hasDefault : Bool

/-- A field whose value is understood in some way. -/
def field {α : Type} (name : String) (decode : Decoder α) : Field :=
  ⟨name, fun value => (decode value).map fun _ => (), false⟩

/-- A field that can be left out of a list. -/
def fieldOr {α : Type} (name : String) (decode : Decoder α) : Field :=
  ⟨name, fun value => (decode value).map fun _ => (), true⟩

/-- The fields of a record by name. -/
abbrev Fields := List (String × Json)

/-- Pick the members that are fields. `seen` are the names of those already picked. -/
def pickMembers (fields : List Field) (seen : List String) :
    List (String × Json) → Except Misfit Fields
  | [] => .ok []
  | (key, value) :: rest =>
      match fields.find? fun field => field.name == key with
      | none =>
          if value.isBroken then .error .notJson else pickMembers fields seen rest
      | some field => do
          if seen.contains key then throw .wrongForm
          field.check value
          return (key, value) :: (← pickMembers fields (key :: seen) rest)

/-- Give items to fields in order. Items that are too many are trouble of the given
kind. -/
def pickItems (excess : Misfit) : List Field → List Json → Except Misfit Fields
  | [], [] => .ok []
  | [], _ :: _ => .error excess
  | field :: fields, [] =>
      if field.hasDefault then pickItems excess fields [] else .error .wrongForm
  | field :: fields, item :: items => do
      field.check item
      return (field.name, item) :: (← pickItems excess fields items)

/-- The fields of a record. -/
def asRecord (fields : List Field) : Decoder Fields
  | object members => pickMembers fields [] members
  | list items => pickItems .notJson fields items
  | other => .error (unexpected other)

namespace Fields

/-- A field that has to be there. -/
def required {α : Type} (fields : Fields) (name : String) (decode : Decoder α) :
    Except Misfit α :=
  match member? fields name with
  | some value => decode value
  | none => .error .wrongForm

/-- A field that may be missing. -/
def withDefault {α : Type} (fields : Fields) (name : String) (decode : Decoder α)
    (value : α) : Except Misfit α :=
  match member? fields name with
  | some value => decode value
  | none => .ok value

end Fields

/-- How deep lists and objects may be nested in a value that is looked at as a whole. -/
def deepest : Nat := 127

/-- A value that is looked at as a whole before it is understood, within so many
containers. -/
def asWhole (within : Nat) : Decoder Json := fun value =>
  if value.isSound (deepest - within) then .ok value else .error .notJson

/-- A list of the fields of a record that has been looked at as a whole, or an object
with them. -/
def asWholeRecord (fields : List Field) : Decoder Fields
  | list items => pickItems .wrongForm fields items
  | other => asRecord fields other

/-- Split the tag off the members of an object, the others being looked at as wholes. -/
def splitTag {α : Type} (within : Nat) (key : String) (asTag : Decoder α) :
    Option α → List (String × Json) → Except Misfit (α × List (String × Json))
  | tag, [] =>
      match tag with
      | some tag => .ok (tag, [])
      | none => .error .wrongForm
  | tag, (name, value) :: rest =>
      if name = key then
        if tag.isSome then .error .wrongForm
        else do splitTag within key asTag (some (← asTag value)) rest
      else do
        let value ← asWhole (within + 1) value
        let (tag, others) ← splitTag within key asTag tag rest
        return (tag, (name, value) :: others)

/-- A choice between several forms: an object in which one member, the tag, says which
form the others have, or a list that starts with the tag. -/
def asTagged {α : Type} (within : Nat) (key : String) (asTag : Decoder α) :
    Decoder (α × Json)
  | object members => do
      let (tag, others) ← splitTag within key asTag none members
      return (tag, object others)
  | list [] => .error .wrongForm
  | list (first :: rest) => do
      let tag ← asTag first
      return (tag, list (← rest.mapM (asWhole (within + 1))))
  | other => .error (unexpected other)

/-- A word that is a tag. -/
def asTagWord {α : Type} (meaning : String → Option α) : Decoder α :=
  asMeaning fun word => meaning (String.ofList word)

end ColumnChain.Json
