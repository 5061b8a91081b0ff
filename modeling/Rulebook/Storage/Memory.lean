/-
  Rulebook.Storage.Memory

  A place in memory that keeps every payload saved to it.
-/
import Rulebook.Value.Basic

namespace Rulebook.Storage

/-- A place in memory. -/
structure Memory where
  /-- whether saves fail -/
  fails : Bool := false
  /-- the payloads that were saved, the last one at the end -/
  saved : List Value := []
  /-- how many saves were tried -/
  attempts : Nat := 0
deriving DecidableEq, Repr

namespace Memory

/-- Saves a payload, and says whether it was saved. -/
def save (m : Memory) (payload : Value) : Memory × Bool :=
  let m := { m with attempts := m.attempts + 1 }
  if m.fails then (m, false) else ({ m with saved := m.saved ++ [payload] }, true)

/-- The payload that was saved last. -/
def load (m : Memory) : Option Value :=
  m.saved.getLast?

/-- Forgets what was saved and how often it was tried. -/
def clear (m : Memory) : Memory :=
  { m with saved := [], attempts := 0 }

@[simp]
theorem load_save (m : Memory) (payload : Value) (h : m.fails = false) :
    (m.save payload).1.load = some payload := by
  simp [save, load, h]

end Memory

end Rulebook.Storage
