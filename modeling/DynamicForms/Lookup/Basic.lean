import DynamicForms.Schema.Document
import DynamicForms.Schema.Walk

/-!
# `DynamicForms.Lookup.Basic` — lookups with resolved references

A lookup declaration refers to fields by identifier or by path. A reference with a dot is a path; any
other is the identifier of an item somewhere in the form, or else a name inside the scope of the
declaration: the group around a field, or the group itself.

## Contents
- `resolveReference`.
- `Reference`, `Lookup`, `Lookup.toValue`.
- `Item.lookups`: the lookups of a form.
-/

namespace DynamicForms

/-- The path that a reference means. -/
def resolveReference (reference scope : String) (pathsById : Entries String) : String :=
  if reference.toList.contains '.' then reference
  else
    match pathsById.get? reference with
    | some path => if path.isEmpty then Path.join scope reference else path
    | none => Path.join scope reference

/-- A reference as written, with the path that it means. -/
structure Reference where
  /-- The reference as written. -/
  key : String
  /-- The path. -/
  path : String
  deriving DecidableEq, Repr, Inhabited

/-- A lookup: which values are sent where, and which fields receive the answer. -/
structure Lookup where
  /-- The path of the item that declares it. -/
  key : String
  /-- Where the lookup is asked for. -/
  endpoint : String
  /-- The fields whose values are sent. -/
  dependsOn : List Reference
  /-- The fields that receive the answer. -/
  targets : List Reference
  deriving DecidableEq, Repr, Inhabited

/-- A reference as a value. -/
def Reference.toValue (r : Reference) : Value :=
  .object (entry "key" (.text r.key) ++ entry "path" (.text r.path))

/-- A lookup as a value. -/
def Lookup.toValue (l : Lookup) : Value :=
  .object (entry "key" (.text l.key) ++ entry "apiEndpoint" (.text l.endpoint)
    ++ entry "dependsOn" (.list (l.dependsOn.map Reference.toValue))
    ++ entry "targetFields" (.list (l.targets.map Reference.toValue)))

/-- The group inside which the references of an item are looked for. -/
def Node.scope (node : Node) : String :=
  if node.item.isField then node.parent else node.path

/-- The lookup that starts at a node. -/
def Node.lookup? (pathsById : Entries String) (node : Node) : Option Lookup :=
  node.item.autoFill.map fun declared =>
    let resolve (reference : String) : Reference :=
      ⟨reference, resolveReference reference node.scope pathsById⟩
    ⟨node.path, declared.endpoint, declared.dependsOn.map resolve, declared.targets.map resolve⟩

/-- The lookups of a form, in the order of the walk. -/
def Item.lookups (items : List Item) : List Lookup :=
  (Item.nodes items).filterMap (Node.lookup? (Item.pathsById items))

end DynamicForms
