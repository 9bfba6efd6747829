/-!
# Numeral — decimal numerals

A numeral is one or more ASCII digits.  It has no sign, no separators and no bound: leading zeros
are read, and a numeral of any length is the number it denotes.  `value?_repr` reads back what is
written.
-/

namespace Reverb

/-- The text is one or more ASCII digits. -/
def IsNumeral (text : List Char) : Prop := text ≠ [] ∧ ∀ c ∈ text, c.isDigit = true

-- by a scan of the text, not by a search through all characters
instance (text : List Char) : Decidable (IsNumeral text) :=
  decidable_of_decidable_of_iff (p := text ≠ [] ∧ text.all Char.isDigit = true)
    (and_congr Iff.rfl List.all_eq_true)

namespace Numeral

/-- A digit stands for a number below 10. -/
theorem digit_lt {c : Char} (h : c.isDigit = true) : c.toNat - '0'.toNat < 10 := by
  have hle : c.toNat ≤ '9'.toNat := (Char.isDigit_iff_toNat.1 h).2
  rw [show '9'.toNat = 57 from rfl] at hle
  rw [show '0'.toNat = 48 from rfl]
  omega

/-- The number a numeral denotes; any other text denotes none. -/
def value? (text : List Char) : Option Nat :=
  if IsNumeral text then some (Nat.ofDigitChars 10 text 0) else none

@[simp] theorem value?_nil : value? [] = none := rfl

theorem value?_eq_some_iff {text : List Char} {n : Nat} :
    value? text = some n ↔ IsNumeral text ∧ Nat.ofDigitChars 10 text 0 = n := by
  rw [value?]
  split <;> simp_all

theorem isNumeral_repr (n : Nat) : IsNumeral n.repr.toList := by
  rw [Nat.repr_eq_ofList_toDigits, String.toList_ofList]
  exact ⟨Nat.toDigits_ne_nil, fun c hc => Nat.isDigit_of_mem_toDigits (by omega) (by omega) hc⟩

/-- **A written number reads back as itself.** -/
theorem value?_repr (n : Nat) : value? n.repr.toList = some n :=
  value?_eq_some_iff.2 ⟨isNumeral_repr n, by
    rw [Nat.repr_eq_ofList_toDigits, String.toList_ofList, Nat.ofDigitChars_ten_toDigits]⟩

end Numeral

end Reverb
