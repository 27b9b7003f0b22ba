import ColumnChain.Service.Target

/-!
# Routes

The paths that the service answers on, and the methods on each of them. A part of a path
that names a dataset, a column or a transformation is not empty.
-/

namespace ColumnChain.Service

/-- A path of the service. The names are as in the path, with their escapes. -/
inductive Route where
  | functions
  | datasets
  | transformations (dataset : List Char)
  | transformation (id : List Char)
  | order (dataset column : List Char)
  | cleanup (dataset : List Char)
  | preview (dataset : List Char)
  | derived (dataset : List Char)

/-- The route of the parts of a path. -/
def Route.ofParts? (parts : List (List Char)) : Option Route :=
  match parts.map String.ofList, parts with
  | ["api", "functions"], _ => some functions
  | ["api", "datasets"], _ => some datasets
  | ["api", "transformations", _], [_, _, id] => named id (transformation id)
  | ["api", "datasets", _, "transformations"], [_, _, dataset, _] =>
      named dataset (transformations dataset)
  | ["api", "datasets", _, "cleanup"], [_, _, dataset, _] => named dataset (cleanup dataset)
  | ["api", "datasets", _, "preview"], [_, _, dataset, _] => named dataset (preview dataset)
  | ["api", "datasets", _, "derived"], [_, _, dataset, _] => named dataset (derived dataset)
  | ["api", "datasets", _, "columns", _, "reorder"], [_, _, dataset, _, column, _] =>
      (named dataset (order dataset column)).bind (named column)
  | _, _ => none
where
  /-- The route, unless a name is empty. -/
  named (name : List Char) (route : Route) : Option Route :=
    if name.isEmpty then none else some route

/-- What is asked for on a route. -/
inductive Action where
  | listFunctions
  | listDatasets
  | listTransformations (dataset : List Char)
  | createTransformation (dataset : List Char)
  | updateTransformation (id : List Char)
  | deleteTransformation (id : List Char)
  | reorderColumn (dataset column : List Char)
  | cleanUp (dataset : List Char)
  | showPreview (dataset : List Char)
  | showDerived (dataset : List Char)

/-- The action of a method on a route, if there is one. -/
def Route.action? (method : String) : Route → Option Action
  | functions => if method = "GET" then some .listFunctions else none
  | datasets => if method = "GET" then some .listDatasets else none
  | transformations dataset =>
      if method = "GET" then some (.listTransformations dataset)
      else if method = "POST" then some (.createTransformation dataset)
      else none
  | transformation id =>
      if method = "PATCH" then some (.updateTransformation id)
      else if method = "DELETE" then some (.deleteTransformation id)
      else none
  | order dataset column =>
      if method = "POST" then some (.reorderColumn dataset column) else none
  | cleanup dataset => if method = "POST" then some (.cleanUp dataset) else none
  | preview dataset => if method = "POST" then some (.showPreview dataset) else none
  | derived dataset => if method = "GET" then some (.showDerived dataset) else none

end ColumnChain.Service
