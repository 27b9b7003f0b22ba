import ColumnChain.Calendar.Instant
import ColumnChain.Catalog

/-!
# Transformations

The records that attach expressions to the columns of datasets. A transformation has a
place in the chain of its column while its status is live; drafts and deleted records
have no effect on any row.
-/

namespace ColumnChain

/-- The stage of life of a transformation. -/
inductive Status where
  /-- Kept, but no part of the chain. -/
  | draft
  /-- Part of the chain. -/
  | active
  /-- Part of the chain, and its results are in use elsewhere. -/
  | applied
  /-- Marked as deleted. -/
  | deleted
  deriving DecidableEq, Inhabited

namespace Status

/-- The name under which a status is recorded and shown. -/
def label : Status → String
  | draft => "draft"
  | active => "active"
  | applied => "applied"
  | deleted => "deleted"

/-- Whether transformations of this status take part in the chain. -/
def isLive : Status → Bool
  | active | applied => true
  | draft | deleted => false

/-- Every status. -/
def all : List Status :=
  [draft, active, applied, deleted]

/-- The status with a name. -/
def ofLabel? (name : String) : Option Status :=
  all.find? fun status => status.label == name

theorem ofLabel?_label (status : Status) : ofLabel? status.label = some status := by
  cases status <;> rfl

/-- Read a status, whatever the letter case and the blanks around it; otherwise the text
that names none. -/
def read (text : String) : Except String Status :=
  let name := Text.lowercased (Text.trimmed text)
  match ofLabel? name with
  | some status => .ok status
  | none => .error ("unknown status '" ++ name ++ "'")

end Status

/-- Where a step of a chain writes. -/
inductive Output where
  /-- Over the column of the chain. -/
  | overwrite
  /-- Into another column; the chain goes on with the value it had. -/
  | column (name : String)
  deriving DecidableEq, Inhabited

namespace Output

/-- The column that is written, given the column of the chain. -/
def target (chainColumn : String) : Output → String
  | overwrite => chainColumn
  | column name => name

end Output

/-- An expression attached to a column of a dataset. -/
structure Transformation where
  id : String
  dataset : String
  column : String
  /-- The text of the expression, as given. -/
  expression : String
  category : Category
  status : Status
  /-- The place in the chain, from one. -/
  sequence : UInt32
  created : Instant
  output : Output
  updated : Option Instant
  deriving DecidableEq

namespace Transformation

/-- Whether the transformation takes part in the chain of its column. -/
def isLive (t : Transformation) : Bool :=
  t.status.isLive

/-- The upper-case name the expression starts with. On a column only one live
transformation may have it. -/
def functionName? (t : Transformation) : Option String :=
  Expression.leadingName? t.expression

/-- The order of a chain: by number, then by age, then by id. -/
def compare (left right : Transformation) : Ordering :=
  (Ord.compare left.sequence right.sequence).then <|
    (left.created.compare right.created).then <|
      Ord.compare left.id right.id

/-- Whether one transformation may come before another in a chain. -/
def precedes (left right : Transformation) : Bool :=
  (left.compare right).isLE

end Transformation

/-- What a user asks for when attaching an expression to a column. Without a status the
transformation is active, and without an output it overwrites. -/
structure Proposal where
  dataset : String
  column : String
  expression : String
  status : Option Status := none
  output : Option Output := none
  deriving DecidableEq

/-- A change of the number or the status of a transformation, or of both. -/
structure Change where
  sequence : Option UInt32 := none
  status : Option Status := none
  deriving DecidableEq

/-- Whether nothing is to be changed. -/
def Change.isEmpty (change : Change) : Bool :=
  change.sequence.isNone && change.status.isNone

/-- How a transformation is deleted. -/
inductive Deletion where
  /-- The record stays and is marked. -/
  | soft
  /-- The record goes. -/
  | hard
  deriving DecidableEq, Inhabited

end ColumnChain
