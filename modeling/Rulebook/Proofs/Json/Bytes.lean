/-
  Rulebook.Proofs.Json.Bytes

  What is written of a value has bytes exactly if all texts in the value have
  (`Json.hasBytes_print`).  So it is known which values can be put down
  (`Json.exists_hasBytes_print_iff`).

  Nothing in front of a character that keeps itself can run into it, so a text that goes on with such
  a character has bytes if what is in front of it and what is behind have (`Text.hasBytes_append`).
  All that is written around the texts of a value keeps itself (`Text.Unmarked`), and a text is
  quoted character by character, which leaves those alone that are kept behind a mark
  (`Json.isSome_characters?_escaped`).
-/
import Rulebook.Proofs.Decimal.Characters
import Rulebook.Proofs.Json.Printer
import Rulebook.Proofs.Outcome

namespace Rulebook

namespace Text

/-! ## Characters that keep themselves -/

variable {c : Char} {cs l r : List Char} {s t : String}

/-- A character of ASCII keeps itself. -/
theorem isReserved_of_lt (h : c.toNat < 128) : isReserved c = false := by
  have h_mark : c ≠ plainMark := by
    rintro rfl
    revert h
    decide
  have h_standIn : isStandIn c = false := by
    rw [Bool.eq_false_iff, ne_eq, isStandIn_eq_true_iff]
    have h_first : firstStandIn = 0x10E800 := rfl
    omega
  rw [isReserved, h_standIn, decide_eq_false h_mark, Bool.or_false]

theorem not_isReserved_of_ascii (h : cs.all (·.toNat < 128) = true) :
    ∀ c ∈ cs, isReserved c = false :=
  fun c hc => isReserved_of_lt (of_decide_eq_true (List.all_eq_true.1 h c hc))

/-- A character that keeps itself makes no difference in front of a text. -/
theorem isSome_characters?_cons (hc : isReserved c = false) (r : List Char) :
    (characters? (c :: r)).isSome = (characters? r).isSome := by
  have h_kept : kept c = [c] := by rw [kept, hc, if_neg Bool.false_ne_true]
  have h_cons := characters?_kept_append c r
  rw [h_kept, List.singleton_append] at h_cons
  rw [h_cons, Option.isSome_map]

theorem isSome_characters?_append (h : ∀ c ∈ l, isReserved c = false) (r : List Char) :
    (characters? (l ++ r)).isSome = (characters? r).isSome := by
  induction l with
  | nil => rfl
  | cons c l ih =>
    obtain ⟨hc, h_rest⟩ := List.forall_mem_cons.1 h
    rw [List.cons_append, isSome_characters?_cons hc, ih h_rest]

/-- A character that keeps itself divides a text. -/
theorem isSome_characters?_append_cons (hc : isReserved c = false) (l r : List Char) :
    (characters? (l ++ c :: r)).isSome =
      ((characters? l).isSome && (characters? (c :: r)).isSome) := by
  fun_induction characters? l with
  | case1 => rfl
  | case2 d hd =>
    -- A mark with nothing behind it is not kept, and neither is a character that needs one.
    rw [List.singleton_append, characters?]
    split
    · rw [hc]
      rfl
    · rename_i h_mark
      rw [isReserved, decide_eq_false h_mark, Bool.false_or] at hd
      rw [hd]
      rfl
  | case3 d hd =>
    rw [List.singleton_append, isSome_characters?_cons (Bool.eq_false_iff.2 hd)]
    rfl
  | case4 d rest hd ih =>
    rw [List.cons_append, List.cons_append, characters?, if_pos rfl, if_pos hd, Option.isSome_map, ih,
      Option.isSome_map]
  | case5 d rest hd =>
    rw [List.cons_append, List.cons_append, characters?, if_pos rfl, if_neg hd]
    rfl
  | case6 d e rest h_mark h_standIn =>
    rw [List.cons_append, List.cons_append, characters?, if_neg h_mark, if_pos h_standIn]
    rfl
  | case7 d e rest h_mark h_standIn ih =>
    rw [List.cons_append] at ih
    rw [List.cons_append, List.cons_append, characters?, if_neg h_mark, if_neg h_standIn,
      Option.isSome_map, ih, Option.isSome_map]

/-! ## Texts -/

/-- Whether every character of a text keeps itself. -/
def Unmarked (s : String) : Prop :=
  ∀ c ∈ s.toList, isReserved c = false

theorem unmarked_of_ascii (h : s.toList.all (·.toNat < 128) = true) : Unmarked s :=
  not_isReserved_of_ascii h

theorem Unmarked.append (hs : Unmarked s) (ht : Unmarked t) : Unmarked (s ++ t) :=
  Consists.append hs ht

theorem Unmarked.ite {p : Prop} [Decidable p] (hs : Unmarked s) (ht : Unmarked t) :
    Unmarked (if p then s else t) :=
  Consists.ite hs ht

/-- What numbers are written with is of ASCII. -/
theorem ofNumerals_unmarked : OfNumerals fun c => isReserved c = false := by
  intro c hc
  refine isReserved_of_lt ?_
  rw [isNumeral, Bool.or_eq_true] at hc
  rcases hc with h_digit | h_other
  · have h_nine : '9'.toNat = 57 := rfl
    rw [Char.isDigit_iff_toNat] at h_digit
    omega
  · have h_ascii : (['+', '-', '.', 'e'].all fun d => d.toNat < 128) = true := rfl
    exact of_decide_eq_true (List.all_eq_true.1 h_ascii c (List.contains_iff_mem.1 h_other))

/-- A text that keeps itself makes no difference in front of another one. -/
theorem hasBytes_unmarked_append (hs : Unmarked s) (t : String) :
    hasBytes (s ++ t) = hasBytes t := by
  rw [hasBytes, String.toList_append, isSome_characters?_append hs, hasBytes]

theorem Unmarked.hasBytes (hs : Unmarked s) : hasBytes s = true := by
  rw [← String.append_empty (s := s), hasBytes_unmarked_append hs]
  rfl

/-- Whether a text begins with a character that keeps itself. -/
def Begins (s : String) : Prop :=
  ∃ c r, s.toList = c :: r ∧ isReserved c = false

theorem Begins.append (hs : Begins s) (t : String) : Begins (s ++ t) := by
  obtain ⟨c, r, h_list, hc⟩ := hs
  exact ⟨c, r ++ t.toList, by rw [String.toList_append, h_list, List.cons_append], hc⟩

theorem Begins.unmarked_append (ht : Begins t) (hs : Unmarked s) : Begins (s ++ t) := by
  cases h_list : s.toList with
  | nil =>
    obtain rfl := String.toList_eq_nil_iff.1 h_list
    rwa [String.empty_append]
  | cons c r =>
    have h_begins : Begins s := ⟨c, r, h_list, hs c (h_list ▸ List.mem_cons_self)⟩
    exact h_begins.append t

/-- **A text divides in front of a character that keeps itself.** -/
theorem hasBytes_append (ht : Begins t) (s : String) :
    hasBytes (s ++ t) = (hasBytes s && hasBytes t) := by
  obtain ⟨c, r, h_list, hc⟩ := ht
  rw [hasBytes, String.toList_append, h_list, isSome_characters?_append_cons hc, ← h_list, hasBytes,
    hasBytes]

/-- Texts that are set apart by a text that keeps itself all have to have bytes. -/
theorem hasBytes_intercalate (hs : Unmarked s) (h_begins : Begins s) (ts : List String) :
    hasBytes (s.intercalate ts) = ts.all hasBytes := by
  induction ts with
  | nil =>
    rw [String.intercalate_nil]
    rfl
  | cons t ts ih =>
    cases ts with
    | nil => rw [String.intercalate_singleton, List.all_cons, List.all_nil, Bool.and_true]
    | cons u ts =>
      rw [String.intercalate_cons_cons, String.append_assoc, hasBytes_append (h_begins.append _),
        hasBytes_unmarked_append hs, ih, ← List.all_cons]

end Text

namespace Json

open Text (Begins characters? hasBytes hasBytes_append hasBytes_intercalate hasBytes_unmarked_append
  isReserved isReserved_of_lt isSome_characters?_append isSome_characters?_append_cons
  isSome_characters?_cons not_isReserved_of_ascii ofNumerals_unmarked Unmarked unmarked_of_ascii)

/-! ## Quoted texts -/

/-- What is reserved is far beyond what is escaped. -/
theorem stringChar_of_isReserved {c : Char} (h : isReserved c = true) : stringChar c = [c] := by
  have h_large : 128 ≤ c.toNat := by
    by_contra h_small
    rw [isReserved_of_lt (Nat.lt_of_not_le h_small)] at h
    exact Bool.false_ne_true h
  have h_ne (d : Char) (h_small : d.toNat < 128) : c ≠ d := by
    rintro rfl
    omega
  rw [stringChar, if_neg (h_ne _ (by decide)), if_neg (h_ne _ (by decide)),
    if_neg (h_ne _ (by decide)), if_neg (h_ne _ (by decide)), if_neg (h_ne _ (by decide)),
    if_neg (h_ne _ (by decide)), if_neg (h_ne _ (by decide)), if_neg (by omega)]

theorem not_isReserved_of_mem_hexDigits {width n : Nat} {c : Char}
    (hc : c ∈ Text.hexDigits width n) : isReserved c = false := by
  have h_digit : ∀ k < 16, isReserved (Text.hexDigit k) = false := by decide
  induction width generalizing n with
  | zero => exact absurd hc List.not_mem_nil
  | succ width ih =>
    rw [Text.hexDigits, List.mem_append, List.mem_singleton] at hc
    rcases hc with hc | rfl
    · exact ih hc
    · exact h_digit _ (Nat.mod_lt n (by decide))

/-- A character that keeps itself is written with such characters. -/
theorem not_isReserved_of_mem_stringChar {c : Char} (h : isReserved c = false) :
    ∀ d ∈ stringChar c, isReserved d = false := by
  unfold stringChar
  split_ifs
  -- Most of what is escaped is escaped by a letter, and the rest by number.
  any_goals exact not_isReserved_of_ascii rfl
  · intro d hd
    rw [List.mem_cons, List.mem_cons] at hd
    rcases hd with rfl | rfl | hd
    · decide
    · decide
    · exact not_isReserved_of_mem_hexDigits hd
  · exact List.forall_mem_singleton.2 h

/-- Every character is written somehow. -/
theorem exists_stringChar_eq_cons (c : Char) : ∃ d ds, stringChar c = d :: ds := by
  unfold stringChar
  split_ifs <;> exact ⟨_, _, rfl⟩

/-- Escaping makes no difference to whether characters are kept. -/
theorem isSome_characters?_escaped (l : List Char) :
    (characters? (l.flatMap stringChar)).isSome = (characters? l).isSome := by
  have h_plain {c : Char} (hc : ¬ isReserved c = true) (r : List Char) :
      (characters? (stringChar c ++ r)).isSome = (characters? r).isSome :=
    isSome_characters?_append (not_isReserved_of_mem_stringChar (Bool.eq_false_iff.2 hc)) r
  fun_induction characters? l with
  | case1 => rfl
  | case2 c hc =>
    rw [List.flatMap_singleton, stringChar_of_isReserved hc, characters?, if_pos hc]
  | case3 c hc =>
    rw [List.flatMap_cons, h_plain hc]
    rfl
  | case4 d rest hd ih =>
    have h_mark : stringChar Text.plainMark = [Text.plainMark] := by decide
    rw [List.flatMap_cons, List.flatMap_cons, h_mark, stringChar_of_isReserved hd,
      List.singleton_append, List.singleton_append, characters?, if_pos rfl, if_pos hd,
      Option.isSome_map, ih, Option.isSome_map]
  | case5 d rest hd =>
    -- Behind the mark comes the first character of an escape, which needs no mark.
    have h_mark : stringChar Text.plainMark = [Text.plainMark] := by decide
    obtain ⟨e, es, h_escape⟩ := exists_stringChar_eq_cons d
    have he : isReserved e = false :=
      not_isReserved_of_mem_stringChar (Bool.eq_false_iff.2 hd) e (h_escape ▸ List.mem_cons_self)
    rw [List.flatMap_cons, List.flatMap_cons, h_mark, h_escape, List.singleton_append,
      List.cons_append, characters?, if_pos rfl, he, if_neg Bool.false_ne_true]
  | case6 c d rest h_mark h_standIn =>
    have hc : isReserved c = true := by rw [isReserved, h_standIn, Bool.or_true]
    obtain ⟨e, es, h_escape⟩ := exists_stringChar_eq_cons d
    rw [List.flatMap_cons, List.flatMap_cons, stringChar_of_isReserved hc, h_escape,
      List.singleton_append, List.cons_append, characters?, if_neg h_mark, if_pos h_standIn]
  | case7 c d rest h_mark h_standIn ih =>
    have hc : ¬ isReserved c = true := by
      rw [isReserved, decide_eq_false h_mark, Bool.false_or]
      exact h_standIn
    rw [List.flatMap_cons, h_plain hc, ih, Option.isSome_map]

theorem hasBytes_string (s : String) : hasBytes (string s) = hasBytes s := by
  have h_quote : isReserved '"' = false := by decide
  rw [hasBytes, string, String.toList_ofList, List.cons_append, isSome_characters?_cons h_quote,
    isSome_characters?_append_cons h_quote, isSome_characters?_escaped]
  exact Bool.and_true _

/-! ## Values -/

variable {w : Writer}

theorem unmarked_boolean (b : Bool) : Unmarked (if b then "true" else "false") :=
  .ite (unmarked_of_ascii rfl) (unmarked_of_ascii rfl)

theorem unmarked_number (x : Decimal.Binary64) : Unmarked (x.text special) :=
  Decimal.consists_text ofNumerals_unmarked (unmarked_of_ascii rfl) (unmarked_of_ascii rfl) x

theorem unmarked_toString_int (n : Int) : Unmarked (toString n) :=
  ofNumerals_unmarked.toString_int n

theorem hasBytes_nameText {k : Name} {text : String} (h : w.nameText k = .ok text) :
    hasBytes text = k.hasBytes := by
  unfold Writer.nameText at h
  split at h
  · cases h
    rfl
  · cases h
    exact (unmarked_boolean _).hasBytes
  · split at h
    · cases h
    · cases h
      exact (unmarked_toString_int _).hasBytes
  · split at h
    · cases h
      exact (unmarked_number _).hasBytes
    · cases h
  · split at h
    · cases h
      rfl
    · cases h
  · cases h

theorem unmarked_gap (layout : Layout) (depth : Nat) : Unmarked (layout.gap depth) := by
  have h_nothing : Unmarked "" := unmarked_of_ascii rfl
  have h_blank : Unmarked " " := unmarked_of_ascii rfl
  have h_break : Unmarked "\n" := unmarked_of_ascii rfl
  cases layout with
  | compact => exact h_nothing
  | line => exact h_blank
  | block => exact h_break.append (Text.consists_replicate (by decide) _)

theorem unmarked_edge (layout : Layout) (depth : Nat) : Unmarked (layout.edge depth) := by
  have h_nothing : Unmarked "" := unmarked_of_ascii rfl
  cases layout with
  | compact | line => exact h_nothing
  | block => exact unmarked_gap .block depth

/-- Members between brackets all have to have bytes. -/
theorem hasBytes_bracketed (layout : Layout) (depth : Nat) {opening closing : String}
    (h_opening : Unmarked opening) (h_closing : Unmarked closing) (h_begins : Begins closing)
    (members : List String) :
    hasBytes (bracketed layout depth opening closing members) = members.all hasBytes := by
  cases members with
  | nil =>
    rw [List.all_nil]
    exact (h_opening.append h_closing).hasBytes
  | cons text rest =>
    have h_comma : Unmarked "," := unmarked_of_ascii rfl
    have h_apart : Begins ("," ++ layout.gap (depth + 1)) :=
      Begins.append ⟨',', [], rfl, by decide⟩ _
    have h_end := h_begins.unmarked_append (unmarked_edge layout depth)
    rw [bracketed, String.append_assoc, hasBytes_append h_end,
      hasBytes_unmarked_append (h_opening.append (unmarked_edge layout (depth + 1))),
      hasBytes_intercalate (h_comma.append (unmarked_gap layout (depth + 1))) h_apart,
      ((unmarked_edge layout depth).append h_closing).hasBytes, Bool.and_true]
    exact List.cons_ne_nil text rest

/-- An entry has bytes if its name and its value have. -/
theorem hasBytes_entry (layout : Layout) (name text : String) :
    hasBytes (string name ++ layout.colon ++ text) = (hasBytes name && hasBytes text) := by
  have h_colon : Unmarked layout.colon ∧ Begins layout.colon := by
    cases layout <;> exact ⟨unmarked_of_ascii rfl, _, _, rfl, by decide⟩
  rw [String.append_assoc, hasBytes_append (h_colon.2.append text),
    hasBytes_unmarked_append h_colon.1, hasBytes_string]

/-- What is between brackets was written. -/
theorem exists_members {p : Prop} [Decidable p] {texts : Except Obstacle (List String)}
    {f : List String → String} {text : String}
    (h : (if p then texts.map f else .error .tooDeep) = .ok text) :
    ∃ members, texts = .ok members ∧ text = f members := by
  split at h
  · obtain ⟨members, h_members, rfl⟩ := map_eq_ok_iff.1 h
    exact ⟨members, h_members, rfl⟩
  · cases h

mutual

/-- What is written of a value has bytes if the texts in it have. -/
theorem hasBytes_write (w : Writer) (depth : Nat) :
    ∀ (v : Value) (text : String), write w depth v = .ok text →
      hasBytes text = v.scalars.all Name.hasBytes
  | .null, text, h | .bool _, text, h | .int _, text, h | .float _, text, h
  | .foreign, text, h => by
    rw [write] at h
    rw [hasBytes_nameText h, Value.scalars, List.all_cons, List.all_nil, Bool.and_true]
  | .text s, text, h => by
    rw [write] at h
    obtain ⟨name, h_name, rfl⟩ := map_eq_ok_iff.1 h
    rw [hasBytes_string, hasBytes_nameText h_name, Value.scalars, List.all_cons, List.all_nil,
      Bool.and_true]
  | .list items, text, h => by
    rw [write] at h
    obtain ⟨texts, h_texts, rfl⟩ := exists_members h
    rw [hasBytes_bracketed w.layout depth (unmarked_of_ascii rfl) (unmarked_of_ascii rfl)
      ⟨_, _, rfl, by decide⟩, hasBytes_writeItems w (depth + 1) items texts h_texts, Value.scalars]
  | .mapping entries, text, h => by
    rw [write] at h
    obtain ⟨texts, h_texts, rfl⟩ := exists_members h
    rw [hasBytes_bracketed w.layout depth (unmarked_of_ascii rfl) (unmarked_of_ascii rfl)
      ⟨_, _, rfl, by decide⟩, hasBytes_writeEntries w (depth + 1) entries texts h_texts,
      Value.scalars]

theorem hasBytes_writeItems (w : Writer) (depth : Nat) :
    ∀ (items : List Value) (texts : List String), writeItems w depth items = .ok texts →
      texts.all hasBytes = (Value.itemsScalars items).all Name.hasBytes
  | [], texts, h => by
    cases h
    rfl
  | v :: rest, texts, h => by
    rw [writeItems] at h
    obtain ⟨first, h_first, h⟩ := bind_eq_ok_iff.1 h
    obtain ⟨others, h_others, h⟩ := bind_eq_ok_iff.1 h
    obtain rfl := Except.ok.inj h
    rw [List.all_cons, hasBytes_write w depth v first h_first,
      hasBytes_writeItems w depth rest others h_others, Value.itemsScalars, List.all_append]

theorem hasBytes_writeEntries (w : Writer) (depth : Nat) :
    ∀ (entries : List (Name × Value)) (texts : List String),
      writeEntries w depth entries = .ok texts →
        texts.all hasBytes = (Value.entriesScalars entries).all Name.hasBytes
  | [], texts, h => by
    cases h
    rfl
  | (k, v) :: rest, texts, h => by
    rw [writeEntries] at h
    obtain ⟨name, h_name, h⟩ := bind_eq_ok_iff.1 h
    obtain ⟨first, h_first, h⟩ := bind_eq_ok_iff.1 h
    obtain ⟨others, h_others, h⟩ := bind_eq_ok_iff.1 h
    obtain rfl := Except.ok.inj h
    rw [List.all_cons, hasBytes_entry, hasBytes_nameText h_name,
      hasBytes_write w depth v first h_first, hasBytes_writeEntries w depth rest others h_others,
      Value.entriesScalars, List.all_cons, List.all_append, Bool.and_assoc]

end

variable {v : Value} {text : String}

/-- **What is written of a value has bytes exactly if all texts in it have.** -/
theorem hasBytes_print (h : print w v = .ok text) :
    hasBytes text = true ↔ ∀ k ∈ v.scalars, k.hasBytes = true := by
  rw [hasBytes_write w 0 v text h, List.all_eq_true]

/-- What a writer has written that puts texts into bytes at once has bytes. -/
theorem hasBytes_of_encodes (h_encodes : w.encodes = true) (h : print w v = .ok text) :
    hasBytes text = true := by
  refine (hasBytes_print h).2 fun k hk => ?_
  cases h_bytes : k.hasBytes with
  | true => rfl
  | false => exact absurd ⟨h_encodes, k, hk, h_bytes⟩ (exists_print_iff.1 ⟨text, h⟩ .noBytes)

/-- **Exactly the documents that are tame have a text with bytes**, if all numbers are written. -/
theorem exists_hasBytes_print_iff (h_special : w.special = true) :
    (∃ text, print w v = .ok text ∧ hasBytes text = true) ↔
      isDocument v = true ∧ v.Tame := by
  constructor
  · rintro ⟨text, h_text, h_bytes⟩
    have h_none := exists_print_iff.1 ⟨text, h_text⟩
    refine ⟨isDocument_iff.2 (h_none .foreign), (hasBytes_print h_text).1 h_bytes, fun k hk => ?_,
      Nat.le_of_not_lt (h_none .tooDeep)⟩
    cases h_short : k.isShort with
    | true => rfl
    | false => exact absurd ⟨k, hk, h_short⟩ (h_none .tooLong)
  · rintro ⟨h_document, h_tame⟩
    rcases print_of_tame h_tame h_special with ⟨-, text, h_text⟩ | ⟨h_foreign, -⟩
    · exact ⟨text, h_text, (hasBytes_print h_text).2 h_tame.hasBytes⟩
    · exact absurd (h_document.symm.trans h_foreign) (by decide)

end Json

end Rulebook
