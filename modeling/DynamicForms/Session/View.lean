import DynamicForms.Session.Life

/-!
# `DynamicForms.Session.View` — what a form shows

The view of a form has its headings, how far it has come, and its visible items in order, each with
its message; a field has its value, and a group its own items. An item that declares a lookup says so
while the lookup is loading or has failed.

## Contents
- `Session.fieldView`, `Session.groupView`, `Session.itemsView`.
- `Session.view`.
-/

namespace DynamicForms.Session

/-- The value at a path in a view: null if there is none. -/
def viewValue (data : Value.Object) (path : String) : Value :=
  match Path.read (.object data) path with
  | .absent => .null
  | v => v

/-- The part of a view that a lookup adds. -/
def lookupView (status : Option Status) : Value.Object :=
  match status with
  | some status =>
    if status.loading || status.error.isSome then
      entry "autoFill" (.object (entry "loading" (.bool status.loading)
        ++ entry "error" (Response.textOrNull status.error)))
    else []
  | none => []

/-- An option in a view. -/
def optionView (o : FieldOption) : Value :=
  .object (entry "label" (.text o.label) ++ entry "value" (.text o.value))

/-- The message at a path in a view. -/
def errorView (s : Session) (path : String) : Value :=
  Response.textOrNull (s.submission.errors.get? path)

/-- A field in a view. -/
def fieldView (s : Session) (data : Value.Object) (path : String) (f : Field) : Value :=
  .object (entry "path" (.text path) ++ entry "id" (.text f.id)
    ++ entry "type" (.text f.kind.name) ++ entry "label" (.text f.label)
    ++ entry "placeholder" (Response.textOrNull f.placeholder)
    ++ entry "options" (.list ((f.options.getD []).map optionView))
    ++ entry "value" (viewValue data path) ++ entry "error" (errorView s path)
    ++ lookupView ((s.engine.status data).get? path))

/-- A group in a view. -/
def groupView (s : Session) (data : Value.Object) (path : String) (g : GroupHeader)
    (items : List Value) : Value :=
  .object (entry "path" (.text path) ++ entry "id" (.text g.id)
    ++ entry "type" (.text groupTypeName) ++ entry "title" (.text g.title)
    ++ entry "description" (Response.textOrNull g.description)
    ++ entry "error" (errorView s path) ++ entry "items" (.list items)
    ++ lookupView ((s.engine.status data).get? path))

mutual

/-- An item in a view; nothing if it is not visible. -/
def itemView (s : Session) (data : Value.Object) (parent : String) : Item → List Value
  | .field f =>
    let path := Path.join parent f.id
    if s.tracker.isVisible path then [fieldView s data path f] else []
  | .group g items =>
    let path := Path.join parent g.id
    if s.tracker.isVisible path then
      [groupView s data path g (itemsView s data path items)]
    else []

/-- Items in a view. -/
def itemsView (s : Session) (data : Value.Object) (parent : String) : List Item → List Value
  | [] => []
  | item :: rest => itemView s data parent item ++ itemsView s data parent rest

end

/-- What a form shows. -/
def view (s : Session) (data : Value.Object) : Value :=
  .object (entry "title" (.text s.form.schema.title)
    ++ entry "description" (Response.textOrNull s.form.schema.description)
    ++ entry "items" (.list (itemsView s data "" s.form.schema.items))
    ++ entry "state" (.text s.submission.state.name)
    ++ entry "output" ((s.submission.output.map Value.object).getD .null))

end DynamicForms.Session
