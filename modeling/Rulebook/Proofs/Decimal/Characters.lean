/-
  Rulebook.Proofs.Decimal.Characters

  The characters that numbers are written with: digits, and what is written between them.

  A text is put together from parts, and what holds of the characters of the parts holds of those of
  the whole (`Text.Consists`).  So a number shares with its digits whatever holds of digits, signs,
  the point and the letter in front of an exponent; for the values that are no numbers it has to hold
  of the texts that stand for them.

  Main statements: `Text.OfNumerals.toString_int` and `Decimal.consists_text`.
-/
import Mathlib.Data.List.Basic
import Rulebook.Decimal.Shortest

namespace Rulebook

namespace Text

variable {kind : Char → Prop} {s t : String}

/-- Whether all characters of a text are of a kind. -/
def Consists (kind : Char → Prop) (s : String) : Prop :=
  ∀ c ∈ s.toList, kind c

-- There are instances that go through all characters there are, so this one is named.
instance [DecidablePred kind] : Decidable (Consists kind s) :=
  List.decidableBAll kind s.toList

theorem Consists.append (hs : Consists kind s) (ht : Consists kind t) :
    Consists kind (s ++ t) := by
  intro c hc
  rw [String.toList_append, List.mem_append] at hc
  exact hc.elim (hs c) (ht c)

theorem Consists.ite {p : Prop} [Decidable p] (hs : Consists kind s) (ht : Consists kind t) :
    Consists kind (if p then s else t) := by
  split
  · exact hs
  · exact ht

theorem consists_ofList {cs : List Char} (h : ∀ c ∈ cs, kind c) :
    Consists kind (String.ofList cs) := by
  intro c hc
  rw [String.toList_ofList] at hc
  exact h c hc

theorem consists_replicate {c : Char} (h : kind c) (n : Nat) :
    Consists kind (String.ofList (List.replicate n c)) :=
  consists_ofList fun _ hd => by rwa [(List.mem_replicate.1 hd).2]

/-- Whether a character may stand in a number. -/
def isNumeral (c : Char) : Bool :=
  c.isDigit || ['+', '-', '.', 'e'].contains c

/-- A kind of character that takes in all that may stand in a number. -/
def OfNumerals (kind : Char → Prop) : Prop :=
  ∀ c, isNumeral c = true → kind c

namespace OfNumerals

variable (h : OfNumerals kind)
include h

/-- A text that is given consists of such characters if it may stand in a number. -/
theorem consists (hs : s.toList.all isNumeral = true) : Consists kind s :=
  fun c hc => h c (List.all_eq_true.1 hs c hc)

theorem toString_nat (n : Nat) : Consists kind (toString n) := by
  intro c hc
  have h_digits : (toString n).toList = Nat.toDigits 10 n := by simp
  rw [h_digits] at hc
  have h_digit := Nat.isDigit_of_mem_toDigits (by decide) (by decide) hc
  exact h c (by rw [isNumeral, h_digit, Bool.true_or])

theorem toString_int (n : Int) : Consists kind (toString n) := by
  cases n with
  | ofNat n => exact h.toString_nat n
  | negSucc n =>
    have h_sign : Consists kind "-" := h.consists (by decide)
    exact h_sign.append (h.toString_nat (n + 1))

end OfNumerals

end Text

namespace Decimal

open Text (Consists OfNumerals consists_ofList consists_replicate)

variable {kind : Char → Prop} (h : OfNumerals kind)
include h

theorem consists_exponentText (e : Int) : Consists kind (exponentText e) := by
  have h_digits := h.toString_nat e.natAbs
  have h_sign : Consists kind (if e < 0 then "-" else "+") :=
    .ite (h.consists (by decide)) (h.consists (by decide))
  have h_zero : Consists kind "0" := h.consists (by decide)
  exact h_sign.append (.ite (h_zero.append h_digits) h_digits)

theorem consists_zeros (n : Nat) : Consists kind (zeros n) :=
  consists_replicate (h '0' (by decide)) n

/-- Decimal digits, however they are laid out. -/
theorem consists_decimalText (style : Style) (digits : Nat) (place : Int) :
    Consists kind (decimalText style digits place) := by
  unfold decimalText
  obtain ⟨digits, dropped⟩ := dropZeros 400 digits
  have h_text := h.toString_nat digits
  have h_point : Consists kind "." := h.consists (by decide)
  have h_take (n : Nat) : Consists kind (String.ofList ((toString digits).toList.take n)) :=
    consists_ofList fun c hc => h_text c (List.mem_of_mem_take hc)
  have h_drop (n : Nat) : Consists kind (String.ofList ((toString digits).toList.drop n)) :=
    consists_ofList fun c hc => h_text c (List.mem_of_mem_drop hc)
  refine .ite (.ite ?_ (.ite ?_ ?_)) (.append (.append (.append (h_take 1) ?_) ?_) ?_)
  · exact ((h.consists (by decide)).append (consists_zeros h _)).append h_text
  · exact ((h_take _).append h_point).append (h_drop _)
  · exact (h_text.append (consists_zeros h _)).append (h.consists (by decide))
  · exact .ite (h.consists (by decide))
      (h_point.append (.ite (h.consists (by decide)) (h_drop 1)))
  · exact h.consists (by decide)
  · exact consists_exponentText h _

/-- **The text of a floating-point number** consists of what numbers are written with, if the texts
do that stand for no number. -/
theorem consists_text {special : Special} (h_nan : Consists kind special.nan)
    (h_infinity : Consists kind special.infinity) (x : Binary64) :
    Consists kind (x.text special) := by
  have h_sign (negative : Bool) : Consists kind (if negative then "-" else "") :=
    .ite (h.consists (by decide)) (h.consists (by decide))
  unfold Binary64.text
  split
  · exact h_nan
  · exact (h_sign _).append h_infinity
  · exact (h_sign _).append (.ite (h.consists (by decide)) (consists_decimalText h _ _ _))

end Decimal

end Rulebook
