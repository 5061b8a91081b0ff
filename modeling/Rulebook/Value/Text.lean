/-
  Rulebook.Value.Text

  The text that shows a value.  A text shows itself; inside a list or a mapping it is quoted.
-/
import Rulebook.Decimal.Shortest
import Rulebook.Text.Quoted
import Rulebook.Value.Basic

namespace Rulebook.Value

/-- How shown values spell what is not a number. -/
def shownSpecial : Decimal.Special := ⟨"nan", "inf"⟩

/-- The text that shows a name, with quotes around a text. -/
def nameLiteral : Name → String
  | .null => "None"
  | .bool b => if b then "True" else "False"
  | .int n => toString n
  | .float x => x.text shownSpecial
  | .text s => Text.quoted s
  | .foreign => "<object>"

mutual

/-- The text that shows a value, with quotes around a text. -/
def literal : Value → String
  | .null => nameLiteral .null
  | .bool b => nameLiteral (.bool b)
  | .int n => nameLiteral (.int n)
  | .float x => nameLiteral (.float x)
  | .text s => nameLiteral (.text s)
  | .list items => "[" ++ ", ".intercalate (literals items) ++ "]"
  | .mapping entries => "\x7b" ++ ", ".intercalate (entryLiterals entries) ++ "\x7d"
  | .foreign => nameLiteral .foreign

/-- The texts of the items of a list. -/
def literals : List Value → List String
  | [] => []
  | v :: rest => literal v :: literals rest

/-- The texts of the entries of a mapping. -/
def entryLiterals : List (Name × Value) → List String
  | [] => []
  | (k, v) :: rest => (nameLiteral k ++ ": " ++ literal v) :: entryLiterals rest

end

/-- The text that shows a value. -/
def shown : Value → String
  | .text s => s
  | v => v.literal

/-- The text of an attribute that may be missing: nothing if the value does not count as given. -/
def shownOrEmpty (v : Value) : String :=
  if v.truth then v.shown else ""

@[simp] theorem shown_text (s : String) : (Value.text s).shown = s := rfl

@[simp] theorem shownOrEmpty_text (s : String) : (Value.text s).shownOrEmpty = s := by
  rw [shownOrEmpty, truth, shown_text]
  split
  · rfl
  · rename_i h_empty
    rw [Bool.not_eq_true, Bool.not_eq_false', String.isEmpty_iff] at h_empty
    exact h_empty.symm

end Rulebook.Value

/-- The text that shows a name. -/
def Rulebook.Name.shown (name : Rulebook.Name) : String :=
  (Rulebook.Value.ofName name).shown
