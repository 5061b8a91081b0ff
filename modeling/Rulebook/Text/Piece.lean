/-
  Rulebook.Text.Piece

  Bytes in pieces: each piece spells a character in UTF-8 or is broken, and a broken piece goes on
  as long as some character starts with its bytes.  So bytes that are no text can still be read: a
  mark may take the place of what is broken, or a surrogate the place of each of its bytes.
-/
import Rulebook.Text.Point

namespace Rulebook.Text

/-- A piece of bytes and the character that it spells, if it spells one. -/
structure Piece where
  bytes : List UInt8
  character : Option Char
deriving DecidableEq, Repr

/-- The start of a character that is spelled by more than one byte. -/
structure Opened where
  /-- the bytes that have been read -/
  bytes : List UInt8
  /-- what the bits of these bytes come to -/
  value : Nat
  /-- how many bytes are missing -/
  owed : Nat
  /-- the smallest byte that may come next -/
  low : Nat
  /-- the largest byte that may come next -/
  high : Nat
deriving DecidableEq, Repr

/-- The start of a character that a byte makes, if it makes one.  Behind some bytes the next one is
bounded, for no character is spelled in a longer way than it needs, and no surrogate at all. -/
def Opened.ofByte? (b : UInt8) : Option Opened :=
  let n := b.toNat
  if 0xC2 ≤ n ∧ n < 0xE0 then some ⟨[b], n - 0xC0, 1, 0x80, 0xBF⟩
  else if 0xE0 ≤ n ∧ n < 0xF0 then
    some ⟨[b], n - 0xE0, 2, if n = 0xE0 then 0xA0 else 0x80, if n = 0xED then 0x9F else 0xBF⟩
  else if 0xF0 ≤ n ∧ n < 0xF5 then
    some ⟨[b], n - 0xF0, 3, if n = 0xF0 then 0x90 else 0x80, if n = 0xF4 then 0x8F else 0xBF⟩
  else none

/-- Reads a byte between two pieces: the piece that it is by itself, or the character that it
starts. -/
def readFirst (b : UInt8) : List Piece × Option Opened :=
  if b < 0x80 then ([⟨[b], some (Char.ofNat b.toNat)⟩], none)
  else
    match Opened.ofByte? b with
    | some o => ([], some o)
    | none => ([⟨[b], none⟩], none)

/-- Reads a byte behind the start of a character: the pieces that it ends, and the character that
is not complete yet. -/
def Opened.read (o : Opened) (b : UInt8) : List Piece × Option Opened :=
  if o.low ≤ b.toNat ∧ b.toNat ≤ o.high then
    let value := 0x40 * o.value + (b.toNat - 0x80)
    let bytes := o.bytes ++ [b]
    if o.owed = 1 then ([⟨bytes, some (Char.ofNat value)⟩], none)
    else ([], some ⟨bytes, value, o.owed - 1, 0x80, 0xBF⟩)
  else
    let (done, next) := readFirst b
    (⟨o.bytes, none⟩ :: done, next)

/-- The pieces of bytes, behind the start of a character if there is one. -/
def piecesBehind : Option Opened → List UInt8 → List Piece
  | none, [] => []
  | some o, [] => [⟨o.bytes, none⟩]
  | none, b :: rest =>
    let (done, next) := readFirst b
    done ++ piecesBehind next rest
  | some o, b :: rest =>
    let (done, next) := o.read b
    done ++ piecesBehind next rest

/-- The pieces of bytes. -/
def pieces (bytes : List UInt8) : List Piece :=
  piecesBehind none bytes

/-! ## Reading what is broken -/

/-- The mark in place of what is broken. -/
def brokenMark : Char := Char.ofNat 0xFFFD

/-- The characters of bytes, with a mark in place of each broken piece. -/
def markBroken (bytes : List UInt8) : List Char :=
  (pieces bytes).flatMap fun p => kept (p.character.getD brokenMark)

/-- The characters of bytes, with a surrogate in place of each broken byte. -/
def keepBroken (bytes : List UInt8) : List Char :=
  (pieces bytes).flatMap fun p =>
    match p.character with
    | some c => kept c
    | none => p.bytes.map fun b => standIn (0xDC00 + b.toNat)

end Rulebook.Text
