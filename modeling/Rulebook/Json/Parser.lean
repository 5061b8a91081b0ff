/-
  Rulebook.Json.Parser

  JSON text as values.  Besides the standard, the names of the numbers that are not finite are
  read.  A number with a point or an exponent is a floating-point number, any other one a whole
  number.  Of several entries with one name the last value counts.

  A text is read from its front, and the first fault that is met is the answer, whatever follows.

  Every step says what is left of the text, which is always less than there was; that is why
  reading ends.
-/
import Rulebook.Text.Point
import Rulebook.Value.Parts

namespace Rulebook.Json

/-- What is left of a text after something has been read from it. -/
abbrev Left (s : List Char) := { r : List Char // r.length < s.length }

/-- What is left of a shorter text is left of the longer one. -/
def Left.mono {s t : List Char} (r : Left s) (h : s.length ≤ t.length) : Left t :=
  ⟨r.1, Nat.lt_of_lt_of_le r.2 h⟩

/-- The white space between tokens. -/
def isSpace (c : Char) : Bool :=
  c = ' ' || c = '\t' || c = '\n' || c = '\r'

/-- A text without the white space in front. -/
def skip (s : List Char) : List Char :=
  s.dropWhile isSpace

theorem length_skip_le (s : List Char) : (skip s).length ≤ s.length :=
  (List.dropWhile_sublist _).length_le

/-- What follows the first character after the white space is shorter. -/
theorem length_lt_of_skip {s r : List Char} {c : Char} (h : skip s = c :: r) :
    r.length < s.length := by
  have := length_skip_le s
  rw [h, List.length_cons] at this
  omega

/-- Reads one character, after white space. -/
def expect? (c : Char) (s : List Char) : Option (Left s) :=
  match h : skip s with
  | [] => none
  | d :: r =>
    if d = c then
      some ⟨r, length_lt_of_skip h⟩
    else none

/-- Reads a word. -/
def word? (w : List Char) (s : List Char) (h : w ≠ [] := by decide) : Option (Left s) :=
  if hw : w.isPrefixOf s then
    some ⟨s.drop w.length, by
      have hl := List.IsPrefix.length_le (List.isPrefixOf_iff_prefix.1 hw)
      have := List.length_pos_iff.2 h
      simp only [List.length_drop]; omega⟩
  else none

/-! ## Strings -/

/-- The value of a hexadecimal digit. -/
def hexValue? (c : Char) : Option Nat :=
  let n := c.toNat
  if 48 ≤ n ∧ n ≤ 57 then some (n - 48)
  else if 97 ≤ n ∧ n ≤ 102 then some (n - 87)
  else if 65 ≤ n ∧ n ≤ 70 then some (n - 55)
  else none

/-- The code unit that four hexadecimal digits name. -/
def unit? (a b c d : Char) : Option Nat := do
  let a ← hexValue? a
  let b ← hexValue? b
  let c ← hexValue? c
  let d ← hexValue? d
  return ((a * 16 + b) * 16 + c) * 16 + d

/-- The character that a letter after a backslash stands for. -/
def escape? (c : Char) : Option Nat :=
  match c with
  | '"' => some 0x22
  | '\\' => some 0x5C
  | '/' => some 0x2F
  | 'b' => some 8
  | 'f' => some 12
  | 'n' => some 10
  | 'r' => some 13
  | 't' => some 9
  | _ => none

/-- The code units of a string up to its closing quote, and what follows that. -/
def units? : List Char → Option (List Nat × List Char)
  | [] => none
  | '"' :: rest => some ([], rest)
  | '\\' :: 'u' :: a :: b :: c :: d :: rest =>
    match unit? a b c d, units? rest with
    | some u, some (us, r) => some (u :: us, r)
    | _, _ => none
  | '\\' :: c :: rest =>
    match escape? c, units? rest with
    | some u, some (us, r) => some (u :: us, r)
    | _, _ => none
  | c :: rest =>
    if c.toNat < 32 || c = '\\' then none
    else
      match units? rest with
      | some (us, r) => some (c.toNat :: us, r)
      | none => none

theorem length_lt_of_units? {s r : List Char} {us : List Nat} (h : units? s = some (us, r)) :
    r.length < s.length := by
  fun_induction units? s generalizing us r with
  | case1 => simp at h
  | case2 rest => simp only [Option.some.injEq, Prod.mk.injEq] at h; simp [h.2]
  | case3 a b c d rest u us' r' hr hu ih =>
    have := ih hr
    simp only [Option.some.injEq, Prod.mk.injEq] at h
    simp only [List.length_cons, ← h.2]; omega
  | case4 => simp at h
  | case5 c rest _ u us' r' hr hu ih =>
    have := ih hr
    simp only [Option.some.injEq, Prod.mk.injEq] at h
    simp only [List.length_cons, ← h.2]; omega
  | case6 => simp at h
  | case7 => simp at h
  | case8 c rest _ _ _ _ us' r' hr ih =>
    have := ih hr
    simp only [Option.some.injEq, Prod.mk.injEq] at h
    simp only [List.length_cons, ← h.2]; omega
  | case9 => simp at h

/-- The characters of code units, where two surrogates that belong together are one character. -/
def joined : List Nat → List Char
  | [] => []
  | u :: v :: rest =>
    if 0xD800 ≤ u ∧ u < 0xDC00 ∧ 0xDC00 ≤ v ∧ v < 0xE000 then
      Text.kept (Char.ofNat (0x10000 + 0x400 * (u - 0xD800) + (v - 0xDC00))) ++ joined rest
    else Text.charOfUnit u :: joined (v :: rest)
  | [u] => [Text.charOfUnit u]

/-- Reads a string after its opening quote. -/
def string? (s : List Char) : Option (String × Left s) :=
  match h : units? s with
  | some (us, r) => some (String.ofList (joined us), ⟨r, length_lt_of_units? h⟩)
  | none => none

/-! ## Numbers -/

/-- The digits at the front of a text, and what follows them. -/
def digits (s : List Char) : List Char × List Char :=
  (s.takeWhile Char.isDigit, s.dropWhile Char.isDigit)

/-- The number that decimal digits write. -/
def ofDigits (ds : List Char) : Nat :=
  ds.foldl (fun n d => 10 * n + (d.toNat - 48)) 0

/-- The digits before the point: a zero alone, or digits that start with none. -/
def wholePart? : List Char → Option (List Char × List Char)
  | '0' :: rest => some (['0'], rest)
  | s => if (digits s).1.isEmpty then none else some (digits s)

/-- The digits after a point, if a point and a digit follow. -/
def places : List Char → List Char × List Char
  | '.' :: rest => if (digits rest).1.isEmpty then ([], '.' :: rest) else digits rest
  | s => ([], s)

/-- A sign in front of an exponent, and what follows it. -/
def exponentSign : List Char → Bool × List Char
  | '-' :: rest => (true, rest)
  | '+' :: rest => (false, rest)
  | s => (false, s)

/-- The exponent, if a letter `e`, perhaps a sign, and a digit follow. -/
def exponent? : List Char → Option (Int × List Char)
  | c :: rest =>
    if c = 'e' || c = 'E' then
      let (negative, s) := exponentSign rest
      let (ds, r) := digits s
      if ds.isEmpty then none
      else some (if negative then -(ofDigits ds : Int) else ofDigits ds, r)
    else none
  | [] => none

/-- The number at the front of a text without a sign, and what follows it. -/
def unsigned? (negative : Bool) (s : List Char) : Option (Value × List Char) :=
  match wholePart? s with
  | none => none
  | some (whole, r) =>
    let (fraction, r) := places r
    match exponent? r, fraction with
    | none, [] => some (.int (if negative then -(ofDigits whole : Int) else ofDigits whole), r)
    | none, _ =>
      some (.float (.ofDecimal negative (ofDigits (whole ++ fraction)) (-fraction.length)), r)
    | some (e, r), _ =>
      some (.float (.ofDecimal negative (ofDigits (whole ++ fraction)) (e - fraction.length)), r)

theorem length_digits_le (s : List Char) : (digits s).2.length ≤ s.length :=
  (List.dropWhile_sublist _).length_le

theorem length_places_le (s : List Char) : (places s).2.length ≤ s.length := by
  unfold places
  split
  · split
    · simp
    · have := length_digits_le; simp only [List.length_cons]; exact Nat.le_succ_of_le (this _)
  · simp

theorem length_exponentSign_le (s : List Char) : (exponentSign s).2.length ≤ s.length := by
  unfold exponentSign; split <;> simp

theorem length_lt_of_exponent? {s r : List Char} {e : Int} (h : exponent? s = some (e, r)) :
    r.length < s.length := by
  unfold exponent? at h
  split at h
  · rename_i c rest
    have h1 := length_exponentSign_le rest
    have h2 := length_digits_le (exponentSign rest).2
    split at h
    · simp only at h
      split at h
      · simp at h
      · simp only [Option.some.injEq, Prod.mk.injEq] at h
        simp only [List.length_cons, ← h.2]; omega
    · simp at h
  · simp at h

theorem length_lt_of_wholePart? {s ds r : List Char} (h : wholePart? s = some (ds, r)) :
    r.length < s.length := by
  unfold wholePart? at h
  split at h
  · simp only [Option.some.injEq, Prod.mk.injEq] at h; simp [← h.2]
  · split at h
    · simp at h
    · rename_i hd
      simp only [Option.some.injEq] at h
      have hlen : (digits s).1.length + (digits s).2.length = s.length := by
        rw [← List.length_append]; simp [digits]
      have hpos : 0 < (digits s).1.length := by
        cases hc : (digits s).1 with
        | nil => simp [hc] at hd
        | cons => simp
      have : r = (digits s).2 := by rw [h]
      rw [this]; omega

theorem length_lt_of_unsigned? {negative : Bool} {s r : List Char} {v : Value}
    (h : unsigned? negative s = some (v, r)) : r.length < s.length := by
  unfold unsigned? at h
  split at h
  · simp at h
  · rename_i whole rest hw
    have h1 := length_lt_of_wholePart? hw
    have h2 := length_places_le rest
    simp only at h
    split at h
    · simp only [Option.some.injEq, Prod.mk.injEq] at h; rw [← h.2]; omega
    · simp only [Option.some.injEq, Prod.mk.injEq] at h; rw [← h.2]; omega
    · rename_i e r' he
      have h3 := length_lt_of_exponent? he
      simp only [Option.some.injEq, Prod.mk.injEq] at h; rw [← h.2]; omega

/-- Reads a number. -/
def number? (s : List Char) : Option (Value × Left s) :=
  match s with
  | '-' :: rest =>
    match h : unsigned? true rest with
    | some (v, r) => some (v, ⟨r, by have := length_lt_of_unsigned? h; simp; omega⟩)
    | none => none
  | s =>
    match h : unsigned? false s with
    | some (v, r) => some (v, ⟨r, length_lt_of_unsigned? h⟩)
    | none => none

/-- The most digits that a whole number may be written with. -/
def maxDigits : Nat := 4300

/-- How many digits a text starts with, after a sign. -/
def leadingDigits : List Char → Nat
  | '-' :: rest => (digits rest).1.length
  | s => (digits s).1.length

/-! ## Values -/

/-- Why a text cannot be read. -/
inductive Fault where
  /-- it is not JSON -/
  | malformed
  /-- it has a whole number of too many digits -/
  | tooLong (digits : Nat)
  /-- it has lists and mappings inside each other to too great a depth -/
  | tooDeep
deriving DecidableEq, Repr

/-- Reads the name of a value that has one. -/
def named? (s : List Char) : Option (Value × Left s) :=
  let attempt (w : List Char) (v : Value) (h : w ≠ []) : Option (Value × Left s) :=
    (word? w s h).map fun r => (v, r)
  attempt "null".toList .null (by decide)
    <|> attempt "true".toList (.bool true) (by decide)
    <|> attempt "false".toList (.bool false) (by decide)
    <|> attempt "NaN".toList (.float .nan) (by decide)
    <|> attempt "Infinity".toList (.float (.infinity false)) (by decide)
    <|> attempt "-Infinity".toList (.float (.infinity true)) (by decide)

/-- Reads a value that is neither a text nor a list nor a mapping. -/
def scalar (s : List Char) : Except Fault (Value × Left s) :=
  match named? s <|> number? s with
  | none => .error .malformed
  | some (.int n, r) =>
    if maxDigits < leadingDigits s then .error (.tooLong (leadingDigits s)) else .ok (.int n, r)
  | some (v, r) => .ok (v, r)

mutual

/-- Reads a value, after white space.  `room` is how many lists and mappings may still be inside
each other. -/
def value (room : Nat) (s : List Char) : Except Fault (Value × Left s) :=
  match h : skip s with
  | [] => .error .malformed
  | c :: rest =>
    have hlt : rest.length < s.length := length_lt_of_skip h
    if c = '"' then
      match string? rest with
      | none => .error .malformed
      | some (t, r) => .ok (.text t, r.mono (Nat.le_of_lt hlt))
    else if c = '[' then
      match room with
      | 0 => .error .tooDeep
      | room + 1 =>
        match expect? ']' rest with
        | some r => .ok (.list [], r.mono (Nat.le_of_lt hlt))
        | none => (items room rest).map fun (vs, r) => (.list vs, r.mono (Nat.le_of_lt hlt))
    else if c = '\x7b' then
      match room with
      | 0 => .error .tooDeep
      | room + 1 =>
        match expect? '\x7d' rest with
        | some r => .ok (.mapping [], r.mono (Nat.le_of_lt hlt))
        | none =>
          (members room rest).map fun (es, r) =>
            (.mapping (Record.ofList es), r.mono (Nat.le_of_lt hlt))
    else (scalar (c :: rest)).map fun (v, r) => (v, r.mono hlt)
termination_by 2 * s.length

/-- Reads the items of a list up to its closing bracket. -/
def items (room : Nat) (s : List Char) : Except Fault (List Value × Left s) :=
  match value room s with
  | .error e => .error e
  | .ok (v, r) =>
    match expect? ',' r.1 with
    | some q =>
      have := r.2
      have := q.2
      (items room q.1).map fun (vs, r') => (v :: vs, r'.mono (by omega))
    | none =>
      match expect? ']' r.1 with
      | some q => .ok ([v], q.mono (Nat.le_of_lt r.2))
      | none => .error .malformed
termination_by 2 * s.length + 1

/-- Reads the entries of a mapping up to its closing bracket. -/
def members (room : Nat) (s : List Char) : Except Fault (List (Name × Value) × Left s) :=
  match expect? '"' s with
  | none => .error .malformed
  | some q =>
    match string? q.1 with
    | none => .error .malformed
    | some (key, q') =>
      match expect? ':' q'.1 with
      | none => .error .malformed
      | some t =>
        have := q.2
        have := q'.2
        have := t.2
        match value room t.1 with
        | .error e => .error e
        | .ok (v, r) =>
          have := r.2
          match expect? ',' r.1 with
          | some u =>
            have := u.2
            (members room u.1).map fun (es, r') => ((↑key, v) :: es, r'.mono (by omega))
          | none =>
            match expect? '\x7d' r.1 with
            | some u => .ok ([(↑key, v)], u.mono (by omega))
            | none => .error .malformed
termination_by 2 * s.length + 1

end

/-- The value that a JSON text writes, if the text is nothing but that. -/
def parse (s : String) (room : Nat := Value.maxDepth) : Except Fault Value :=
  match value room s.toList with
  | .error e => .error e
  | .ok (v, r) => if (skip r.1).isEmpty then .ok v else .error .malformed

end Rulebook.Json
