/-
  Rulebook.Text.Encoding

  Bytes as text.  A file is UTF-8.  The body of an answer may be UTF-8, UTF-16 or UTF-32: a byte
  order mark decides, and without one the zeros among the first four bytes do, since a document
  starts with ASCII characters.  A body may spell surrogates that stand alone.
-/
import Rulebook.Text.Point

namespace Rulebook.Text

/-- The bytes of a text in UTF-8. -/
def utf8 (s : String) : List UInt8 :=
  (plain s).toUTF8.data.toList

/-- The text that bytes spell in UTF-8, if they do. -/
def ofUtf8? (bytes : List UInt8) : Option String :=
  (String.fromUTF8? ⟨bytes.toArray⟩).map ofPlain

/-- Bytes written in UTF-8 read back as the text they were written from. -/
theorem ofUtf8?_utf8 {s : String} (h : hasBytes s = true) : ofUtf8? (utf8 s) = some s := by
  have hs : (⟨(utf8 s).toArray⟩ : ByteArray) = (plain s).toUTF8 := by simp [utf8]
  have hp : String.fromUTF8? (plain s).toUTF8 = some (plain s) := by
    rw [String.fromUTF8?, String.toUTF8_eq_toByteArray, dif_pos (plain s).isValidUTF8]
    rfl
  rw [ofUtf8?, hs, hp, Option.map_some, ofPlain_plain h]

/-- In which order the bytes of a code unit stand. -/
inductive ByteOrder where
  | littleEndian
  | bigEndian
deriving DecidableEq, Repr

/-- The code unit that two bytes spell. -/
def ByteOrder.unit (order : ByteOrder) (a b : UInt8) : Nat :=
  match order with
  | .littleEndian => a.toNat + 0x100 * b.toNat
  | .bigEndian => 0x100 * a.toNat + b.toNat

/-- The code units of two bytes each; an odd byte at the end spells nothing. -/
def units16? (order : ByteOrder) : List UInt8 → Option (List Nat)
  | [] => some []
  | [_] => none
  | a :: b :: rest => (units16? order rest).map (order.unit a b :: ·)

/-- The code units of four bytes each. -/
def units32? (order : ByteOrder) : List UInt8 → Option (List Nat)
  | [] => some []
  | a :: b :: c :: d :: rest =>
    let u := order.unit a b
    let v := order.unit c d
    let n := match order with
      | .littleEndian => u + 0x10000 * v
      | .bigEndian => 0x10000 * u + v
    (units32? order rest).map (n :: ·)
  | _ => none

/-- The text of code points, unless one is too large. -/
def ofPoints? (ps : List Nat) : Option String :=
  if ps.all (· < 0x110000) then some (String.ofList (ofPoints ps)) else none

/-- The code points of 16-bit code units: a high surrogate joins the low one after it. -/
def points16 : List Nat → List Nat
  | [] => []
  | [u] => [u]
  | u :: v :: rest =>
    if 0xD800 ≤ u ∧ u < 0xDC00 ∧ 0xDC00 ≤ v ∧ v < 0xE000 then
      (0x10000 + 0x400 * (u - 0xD800) + (v - 0xDC00)) :: points16 rest
    else u :: points16 (v :: rest)

/-- The text that bytes spell in UTF-16. -/
def ofUtf16? (order : ByteOrder) (bytes : List UInt8) : Option String := do
  ofPoints? (points16 (← units16? order bytes))

/-- The text that bytes spell in UTF-32. -/
def ofUtf32? (order : ByteOrder) (bytes : List UInt8) : Option String := do
  ofPoints? (← units32? order bytes)

/-- The bytes in front of the first surrogate that three bytes spell, and all such surrogates with
the bytes behind each. -/
def splitSurrogates : List UInt8 → List UInt8 × List (Nat × List UInt8)
  | 0xED :: b :: c :: rest =>
    if 0xA0 ≤ b ∧ b < 0xC0 ∧ 0x80 ≤ c ∧ c < 0xC0 then
      let (front, more) := splitSurrogates rest
      ([], (0xD000 + 0x40 * (b.toNat - 0x80) + (c.toNat - 0x80), front) :: more)
    else
      let (front, more) := splitSurrogates (b :: c :: rest)
      (0xED :: front, more)
  | b :: rest =>
    let (front, more) := splitSurrogates rest
    (b :: front, more)
  | [] => ([], [])

/-- The text that bytes spell in UTF-8, which may have surrogates that stand alone. -/
def ofLooseUtf8? (bytes : List UInt8) : Option String := do
  let (front, more) := splitSurrogates bytes
  let rest ← more.mapM fun (n, bytes) => do
    return String.singleton (standIn n) ++ (← ofUtf8? bytes)
  return String.join ((← ofUtf8? front) :: rest)

/-- The text of an answer's body, whichever of the three encodings it is in. -/
def ofBody? (bytes : List UInt8) : Option String :=
  match bytes with
  | 0x00 :: 0x00 :: 0xFE :: 0xFF :: rest => ofUtf32? .bigEndian rest
  | 0xFF :: 0xFE :: 0x00 :: 0x00 :: rest => ofUtf32? .littleEndian rest
  | 0xFE :: 0xFF :: rest => ofUtf16? .bigEndian rest
  | 0xFF :: 0xFE :: rest => ofUtf16? .littleEndian rest
  | 0xEF :: 0xBB :: 0xBF :: rest => ofLooseUtf8? rest
  | a :: b :: c :: d :: _ =>
    if a = 0 then
      if b = 0 then ofUtf32? .bigEndian bytes else ofUtf16? .bigEndian bytes
    else if b = 0 then
      if c = 0 ∧ d = 0 then ofUtf32? .littleEndian bytes else ofUtf16? .littleEndian bytes
    else ofLooseUtf8? bytes
  | [a, b] =>
    if a = 0 then ofUtf16? .bigEndian bytes
    else if b = 0 then ofUtf16? .littleEndian bytes
    else ofLooseUtf8? bytes
  | _ => ofLooseUtf8? bytes

end Rulebook.Text
