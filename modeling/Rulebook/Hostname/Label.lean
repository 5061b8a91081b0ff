/-
  Rulebook.Hostname.Label

  The labels of host names, which are what stands between the dots, and which texts can be one.
  A label is in normal form, neither starts nor ends with a hyphen and does not start with a mark.
  Its characters are letters, digits and marks; a few others may stand beside certain characters
  only.  Where letters run from right to left, a rule keeps the label readable in both directions.
-/
import Rulebook.Hostname.Classes
import Rulebook.Text.Normal
import Rulebook.Text.Punycode

namespace Rulebook.Hostname

open Text (isMark inRuns)

/-- Why a text is no host name. -/
inductive Error where
  /-- a label is empty, too long or not built like one -/
  | malformed
  /-- a label has a character that no label has -/
  | character
  /-- a label has a character that may not stand where it does -/
  | context
  /-- a label mixes the two directions of writing -/
  | direction
deriving DecidableEq, Repr

namespace Label

/-! ## Characters that need others beside them -/

/-- The class of the marks that take the vowel from a letter, behind which joiners may stand. -/
def viramaClass : Nat := 9

/-- Whether a mark that takes the vowel from a letter is the last one of the characters `before`,
whose last one comes first. -/
def followsVirama (before : List Char) : Bool :=
  before.head?.any fun c => Text.combiningClass c = viramaClass

/-- Whether the next letter, behind what letters are joined across, is one of a class. -/
def nextLetter (isOne : Char → Bool) (cs : List Char) : Bool :=
  (cs.dropWhile isJoinedAcross).head?.any isOne

/-- Whether one of the characters is a digit of the ten from `first` on. -/
def hasDigit (first : Nat) (cs : List Char) : Bool :=
  cs.any fun c => first ≤ c.toNat ∧ c.toNat < first + 10

/-- Whether a character is not a letter but says how the letters beside it are joined. -/
def isJoiner (c : Char) : Bool :=
  c.toNat = 0x200C || c.toNat = 0x200D

/-- Whether a character may stand between others, if it is one that not all characters may stand
beside.  Those `before` it are given with the last one first. -/
def fits? (before : List Char) (c : Char) (after : List Char) : Option Bool :=
  let rest := before ++ after
  match c.toNat with
  | 0x200C =>
    some (followsVirama before || nextLetter joinsAfter before && nextLetter joinsBefore after)
  | 0x200D => some (followsVirama before)
  | 0xB7 => some (before.head? = some 'l' && after.head? = some 'l')
  | 0x375 => some (after.head?.any (inRuns greekRuns))
  | 0x5F3 | 0x5F4 => some (before.head?.any (inRuns hebrewRuns))
  | 0x30FB => some (rest.any (inRuns japaneseRuns))
  | n =>
    if 0x660 ≤ n ∧ n ≤ 0x669 then some (!hasDigit 0x6F0 rest)
    else if 0x6F0 ≤ n ∧ n ≤ 0x6F9 then some (!hasDigit 0x660 rest)
    else none

/-- Checks the characters of a label; those `before` them are given with the last one first.
Nothing can be said of a joiner behind a character that is not known by name. -/
def checkCharacters (before : List Char) : List Char → Except Error Unit
  | [] => .ok ()
  | c :: after =>
    if isAllowed c then checkCharacters (c :: before) after
    else if isJoiner c && before.head?.any isNameless then .error .malformed
    else
      match fits? before c after with
      | none => .error .character
      | some false => .error .context
      | some true => checkCharacters (c :: before) after

/-! ## Directions -/

/-- Whether a direction is not that of a label that is written from left to right. -/
def Direction.isRight (d : Direction) : Bool :=
  d = .rightToLeft || d = .arabicNumber

/-- Whether the directions of the characters of a label are known and go together. -/
def areInOrder (ds : List Direction) : Bool :=
  if ds.contains .unknown then false
  else if ds.any Direction.isRight then
    let last := ds.reverse.dropWhile (· = .mark) |>.head?
    match ds.head? with
    | some .rightToLeft =>
      !ds.contains .leftToRight && !(ds.contains .arabicNumber && ds.contains .europeanNumber) &&
        last ≠ some .neutral
    | _ => false
  else true

/-! ## Checking -/

/-- How many characters a host name may have. -/
def maxNameLength : Nat := 253

/-- How many characters a label may have, as it is written with ASCII characters. -/
def maxLength : Nat := 63

/-- Whether the hyphens of a label are where they may be: not at an end, and not in the third and
the fourth place. -/
def hasPlainHyphens (cs : List Char) : Bool :=
  (cs.drop 2).take 2 ≠ ['-', '-'] && cs.head? ≠ some '-' && cs.getLast? ≠ some '-'

/-- Checks a label. -/
def check (cs : List Char) : Except Error Unit :=
  if cs.isEmpty || maxNameLength + 1 < cs.length || !Text.isNormal cs || !hasPlainHyphens cs ||
      cs.head?.any isMark then
    .error .malformed
  else
    match checkCharacters [] cs with
    | .error e => .error e
    | .ok () => if areInOrder (cs.map directionOf) then .ok () else .error .direction

/-! ## Labels in ASCII -/

/-- What a label starts with that writes another one with ASCII characters. -/
def encodedMark : List Char := ['x', 'n', '-', '-']

/-- The label that a label of ASCII characters writes.  One that starts with the mark ends in
a character that is no hyphen, and another one follows the mark: a label without ASCII characters
is written without the hyphen that ends them. -/
def decode (cs : List Char) : Except Error (List Char) :=
  let cs := cs.map Char.toLower
  if encodedMark.isPrefixOf cs then
    let rest := cs.drop encodedMark.length
    if rest.isEmpty || rest.head? = some '-' || rest.getLast? = some '-' then .error .malformed
    else
      match Text.Punycode.read? rest with
      | none => .error .malformed
      | some label => do
        check label
        return label
  else do
    check cs
    return cs

/-- A label, written with ASCII characters. -/
def encode (cs : List Char) : Except Error (List Char) := do
  let encoded ←
    if cs.all Text.Punycode.isAscii then do
      let _ ← decode cs
      pure cs
    else do
      check cs
      pure (encodedMark ++ Text.Punycode.write cs)
  if maxLength < encoded.length then throw .malformed
  return encoded

end Label

end Rulebook.Hostname
