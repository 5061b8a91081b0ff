/-
  Rulebook.Field.Visibility

  Which fields of a dialog are shown.  A field that is part of the dialog is shown if all its
  conditions pass; a condition on a field that the draft does not have is ignored.  If two fields
  have one name the later one decides.

  A change to a field can only change what is shown if some field depends on it; `hasDependents`
  tells, from an index that is made once.
-/
import Rulebook.Field.Basic

namespace Rulebook

/-- Which fields are shown, by name. -/
abbrev Visibility := Record Name Bool

namespace Field

/-- Whether a field is shown for a draft. -/
def isShown (f : Field Name) (draft : Entries) (isFinal : Bool) : Bool :=
  f.appliesTo isFinal &&
    f.conditions.all fun c =>
      match draft.get? c.on with
      | some v => c.passes v
      | none => true

end Field

namespace Visibility

/-- Which of the fields are shown for a draft. -/
def compute (fields : List (Field Name)) (draft : Entries) (isFinal : Bool) : Visibility :=
  Record.ofList (fields.map fun f => (f.name, f.isShown draft isFinal))

/-- Whether a field is shown; a name that is no field is not. -/
def isShown (v : Visibility) (name : Name) : Bool :=
  (v.get? name).getD false

/-! ## Dependencies -/

/-- The fields that depend on each field, by the name of that. -/
abbrev Index := Record Name (List Name)

/-- The index with one more dependence. -/
def Index.add (on name : Name) (index : Index) : Index :=
  let names := (index.get? on).getD []
  index.put on (if names.contains name then names else names ++ [name])

/-- The index of a list of fields. -/
def Index.ofFields (fields : List (Field Name)) : Index :=
  fields.foldl
    (fun index f => f.references.foldl (fun index on => index.add on f.name) index) []

/-- The fields that depend on one. -/
def Index.dependents (index : Index) (name : Name) : List Name :=
  (index.get? name).getD []

/-- Whether a field depends on one. -/
def Index.hasDependents (index : Index) (name : Name) : Bool :=
  index.has name

end Visibility

end Rulebook
