import DynamicForms.Path.Basic
import DynamicForms.Value.Basic

/-!
# `DynamicForms.Path.Access` — reading, writing and deleting by path

Form data is an object of objects along the groups of the form. Reading prefers an entry whose whole
name is the path and otherwise goes down segment by segment; a path without segments names the data
itself. Writing goes down only, and puts an object in the place of whatever else is on the way.
Deleting leaves the objects on the way in place, even when they become empty.

## Contents
- `Path.find?`, `Path.read`: reading.
- `Path.write?`: writing; refused for a path without segments.
- `Path.delete?`: deleting; none if nothing is there.
-/

namespace DynamicForms.Path

open Value (Object)

/-! ## Reading -/

/-- Go down from a value along segments. -/
def descend? : Value → List String → Option Value
  | current, [] => some current
  | .object fields, segment :: rest =>
    match Entries.get? fields segment with
    | some child => descend? child rest
    | none => none
  | _, _ :: _ => none

/-- The value at a path, if there is one. -/
def find? (data : Value) (path : String) : Option Value :=
  if path.isEmpty then none
  else
    match data with
    | .object fields =>
      match Entries.get? fields path with
      | some flat => some flat
      | none => descend? data (segments path)
    | _ => none

/-- The value at a path, absent if there is none. -/
def read (data : Value) (path : String) : Value :=
  (find? data path).getD .absent

/-! ## Writing -/

/-- The entries of the object under a name; none if something else or nothing is there. -/
def childFields (fields : Object) (name : String) : Object :=
  match Entries.get? fields name with
  | some (.object inner) => inner
  | _ => []

/-- Write a value below an object along segments. -/
def place : Object → List String → Value → Object
  | fields, [], _ => fields
  | fields, [last], value => fields.put last value
  | fields, segment :: rest, value =>
    fields.put segment (.object (place (childFields fields segment) rest value))

/-- Write a value at a path; none for a path without segments. -/
def write? (data : Object) (path : String) (value : Value) : Option Object :=
  match segments path with
  | [] => none
  | way => some (place data way value)

/-! ## Deleting -/

/-- Delete below an object along segments; none if nothing is there. -/
def remove? : Object → List String → Option Object
  | _, [] => none
  | fields, [last] => if fields.contains last then some (fields.erase last) else none
  | fields, segment :: rest =>
    match Entries.get? fields segment with
    | some (.object inner) =>
      (remove? inner rest).map fun inner => fields.put segment (.object inner)
    | _ => none

/-- Delete the value at a path; none if nothing is there to go down to. -/
def delete? (data : Object) (path : String) : Option Object :=
  remove? data (segments path)

/-- The data with the value at a path deleted, or as it was if nothing is there. -/
def delete (data : Object) (path : String) : Object :=
  (delete? data path).getD data

theorem descend?_nil (v : Value) : descend? v [] = some v := by
  cases v <;> rfl

theorem place_singleton (fields : Object) (name : String) (value : Value) :
    place fields [name] value = fields.put name value := rfl

theorem descend?_place (fields : Object) (way : List String) (h : way ≠ []) (value : Value) :
    descend? (.object (place fields way value)) way = some value := by
  induction way generalizing fields with
  | nil => exact absurd rfl h
  | cons segment rest ih =>
    cases rest with
    | nil => simp [place, descend?]
    | cons next more =>
      have hnext := ih (childFields fields segment) (by simp)
      simp only [place, descend?, Entries.get?_put_self]
      exact hnext

end DynamicForms.Path
