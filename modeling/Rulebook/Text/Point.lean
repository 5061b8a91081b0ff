/-
  Rulebook.Text.Point

  Texts as sequences of code points.  A document can write a surrogate that stands alone by its
  number, and so can some encodings of a document, although it is no character.  A text keeps it as
  a stand-in, which is a character of the private-use planes; behind a mark such a character is
  meant as itself, and so is the mark.

  Main statement: `Text.eq_flatMap_kept_of_characters?`, a text without surrogates keeps characters
  in one way.
-/

namespace Rulebook.Text

/-! ## Stand-ins -/

/-- Whether a code point is a surrogate. -/
def isSurrogate (n : Nat) : Bool :=
  0xD800 ≤ n && n < 0xE000

/-- The first stand-in. -/
def firstStandIn : Nat := 0x10E800

/-- The character that keeps a surrogate. -/
def standIn (surrogate : Nat) : Char :=
  Char.ofNat (firstStandIn + (surrogate - 0xD800))

/-- Whether a character stands for a surrogate, unless it is behind the mark. -/
def isStandIn (c : Char) : Bool :=
  firstStandIn ≤ c.toNat && c.toNat < firstStandIn + 0x800

/-- The mark in front of characters that are meant as themselves. -/
def plainMark : Char := Char.ofNat (firstStandIn - 1)

/-- Whether a character has to be behind the mark if it is meant as itself. -/
def isReserved (c : Char) : Bool :=
  c = plainMark || isStandIn c

/-! ## Code points -/

/-- The character of a code point, or the one that keeps it if it is a surrogate. -/
def charOfUnit (n : Nat) : Char :=
  if isSurrogate n then standIn n else Char.ofNat n

/-- The characters that keep a character. -/
def kept (c : Char) : List Char :=
  if isReserved c then [plainMark, c] else [c]

/-- The characters that keep a code point. -/
def charsOfPoint (n : Nat) : List Char :=
  if isSurrogate n then [standIn n] else kept (Char.ofNat n)

/-- The characters that keep code points. -/
def ofPoints (ps : List Nat) : List Char :=
  ps.flatMap charsOfPoint

/-- The code point that a character keeps by itself. -/
def pointOf (c : Char) : Nat :=
  if isStandIn c then 0xD800 + (c.toNat - firstStandIn) else c.toNat

/-- The code points that characters keep. -/
def points : List Char → List Nat
  | [] => []
  | [c] => [pointOf c]
  | c :: d :: rest =>
    if c = plainMark && isReserved d then d.toNat :: points rest
    else pointOf c :: points (d :: rest)

/-- The number of code points of a text. -/
def size (s : String) : Nat :=
  (points s.toList).length

/-! ## Characters -/

/-- The characters that are kept, if there are no surrogates among them. -/
def characters? : List Char → Option (List Char)
  | [] => some []
  | [c] => if isReserved c then none else some [c]
  | c :: d :: rest =>
    if c = plainMark then
      if isReserved d then (characters? rest).map (d :: ·) else none
    else if isStandIn c then none
    else (characters? (d :: rest)).map (c :: ·)

/-- Whether a text has bytes: a surrogate has none. -/
def hasBytes (s : String) : Bool :=
  (characters? s.toList).isSome

/-- The text that keeps the characters of a string. -/
def ofPlain (s : String) : String :=
  String.ofList (s.toList.flatMap kept)

/-- The string of the characters that a text keeps.  Where it keeps surrogates, nothing is
changed. -/
def plain (s : String) : String :=
  String.ofList ((characters? s.toList).getD s.toList)

/-! ## Keeping and reading back -/

theorem isStandIn_eq_true_iff {c : Char} :
    isStandIn c = true ↔ firstStandIn ≤ c.toNat ∧ c.toNat < firstStandIn + 0x800 := by
  simp [isStandIn]

/-- A character that is kept is read back, whatever follows. -/
theorem characters?_kept_append (c : Char) (rest : List Char) :
    characters? (kept c ++ rest) = (characters? rest).map (c :: ·) := by
  unfold kept
  split
  · rename_i hr
    simp [characters?, hr]
  · rename_i hr
    have hr' := hr
    simp only [isReserved, Bool.or_eq_true, decide_eq_true_eq, not_or, Bool.not_eq_true] at hr'
    cases rest <;> simp [characters?, hr, hr']

/-- What is read back was kept. -/
theorem eq_flatMap_kept_of_characters? {cs ds : List Char} (h : characters? cs = some ds) :
    cs = ds.flatMap kept := by
  fun_induction characters? cs generalizing ds with
  | case1 => simp_all
  | case2 c hr => simp at h
  | case3 c hr => simp only [Option.some.injEq] at h; simp [← h, kept, hr]
  | case4 d rest hr ih =>
    obtain ⟨es, he, rfl⟩ := Option.map_eq_some_iff.1 h
    simp [kept, hr, ← ih he]
  | case5 => simp at h
  | case6 => simp at h
  | case7 c d rest hm hs ih =>
    obtain ⟨es, he, rfl⟩ := Option.map_eq_some_iff.1 h
    rw [List.flatMap_cons, ← ih he]
    simp [kept, isReserved, hm, hs]

/-- A text that has bytes keeps its string. -/
theorem ofPlain_plain {s : String} (h : hasBytes s = true) : ofPlain (plain s) = s := by
  obtain ⟨cs, hcs⟩ := Option.isSome_iff_exists.1 h
  rw [plain, hcs, Option.getD_some, ofPlain, String.toList_ofList,
    ← eq_flatMap_kept_of_characters? hcs, String.ofList_toList]

end Rulebook.Text
