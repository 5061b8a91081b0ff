/-
  Rulebook.Text.Normal

  The composed normal form of texts.  One thing can often be written in several ways: with a
  composed character or with its parts, and with marks in several orders.  In the normal form all
  characters are composed that can be, and marks of different classes are in the order of their
  classes.  Some characters have no place in it at all: another character stands for them.
-/
import Rulebook.Text.Composite
import Rulebook.Text.Mark

namespace Rulebook.Text

/-- The runs of characters for which other ones stand. -/
def replacedRuns : Array Bounds := #[
  (0x340, 0x341), (0x343, 0x344), (0x374, 0x374), (0x37E, 0x37E), (0x387, 0x387), (0x958, 0x95F),
  (0x9DC, 0x9DD), (0x9DF, 0x9DF), (0xA33, 0xA33), (0xA36, 0xA36), (0xA59, 0xA5B), (0xA5E, 0xA5E),
  (0xB5C, 0xB5D), (0xF43, 0xF43), (0xF4D, 0xF4D), (0xF52, 0xF52), (0xF57, 0xF57), (0xF5C, 0xF5C),
  (0xF69, 0xF69), (0xF73, 0xF73), (0xF75, 0xF76), (0xF78, 0xF78), (0xF81, 0xF81), (0xF93, 0xF93),
  (0xF9D, 0xF9D), (0xFA2, 0xFA2), (0xFA7, 0xFA7), (0xFAC, 0xFAC), (0xFB9, 0xFB9), (0x1F71, 0x1F71),
  (0x1F73, 0x1F73), (0x1F75, 0x1F75), (0x1F77, 0x1F77), (0x1F79, 0x1F79), (0x1F7B, 0x1F7B),
  (0x1F7D, 0x1F7D), (0x1FBB, 0x1FBB), (0x1FBE, 0x1FBE), (0x1FC9, 0x1FC9), (0x1FCB, 0x1FCB),
  (0x1FD3, 0x1FD3), (0x1FDB, 0x1FDB), (0x1FE3, 0x1FE3), (0x1FEB, 0x1FEB), (0x1FEE, 0x1FEF),
  (0x1FF9, 0x1FF9), (0x1FFB, 0x1FFB), (0x1FFD, 0x1FFD), (0x2000, 0x2001), (0x2126, 0x2126),
  (0x212A, 0x212B), (0x2329, 0x232A), (0x2ADC, 0x2ADC), (0xF900, 0xFA0D), (0xFA10, 0xFA10),
  (0xFA12, 0xFA12), (0xFA15, 0xFA1E), (0xFA20, 0xFA20), (0xFA22, 0xFA22), (0xFA25, 0xFA26),
  (0xFA2A, 0xFA6D), (0xFA70, 0xFAD9), (0xFB1D, 0xFB1D), (0xFB1F, 0xFB1F), (0xFB2A, 0xFB36),
  (0xFB38, 0xFB3C), (0xFB3E, 0xFB3E), (0xFB40, 0xFB41), (0xFB43, 0xFB44), (0xFB46, 0xFB4E),
  (0x1D15E, 0x1D164), (0x1D1BB, 0x1D1C0), (0x2F800, 0x2FA1D)]

/-- How often the first part of a character can be composed itself. -/
def maxCompositions : Nat := 3

/-- A character in parts, the first of which are composed of further ones up to `depth` times. -/
def decomposed : (depth : Nat) → Char → List Char
  | 0, c => [c]
  | depth + 1, c =>
    match parts? c with
    | none => [c]
    | some (a, b) => decomposed depth a ++ [b]

/-- Puts a character in front of others: a mark goes behind those of smaller classes. -/
def placeMark (c : Char) : List Char → List Char
  | [] => [c]
  | d :: rest =>
    if 0 < combiningClass d ∧ combiningClass d < combiningClass c then d :: placeMark c rest
    else c :: d :: rest

/-- A text in parts, with its marks in order. -/
def inParts (cs : List Char) : List Char :=
  (cs.flatMap (decomposed (maxCompositions + 1))).foldr placeMark []

/-- Composes a character with those that follow it.  The `marks` behind it, the last one first,
could not be composed with it; a mark of the class of the last one, or of a smaller class, cannot
pass them. -/
def composedFrom (first : Char) (marks : List Char) : List Char → List Char
  | [] => first :: marks.reverse
  | c :: rest =>
    let passes := marks.all fun m => combiningClass m < combiningClass c
    match if passes then composed? first c else none with
    | some first => composedFrom first marks rest
    | none =>
      if combiningClass c = 0 then first :: marks.reverse ++ composedFrom c [] rest
      else composedFrom first (c :: marks) rest

/-- A text of parts with all characters composed that can be. -/
def recomposed : List Char → List Char
  | [] => []
  | c :: rest => if combiningClass c = 0 then composedFrom c [] rest else c :: recomposed rest

/-- Whether a text is in normal form. -/
def isNormal (cs : List Char) : Bool :=
  !cs.any (inRuns replacedRuns) && recomposed (inParts cs) == cs

end Rulebook.Text
