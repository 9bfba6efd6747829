import Reverb.Numeral

/-!
# Typed — the intensity that a typed line stands for

An empty line is 0, a backslash before a numeral gives the number modulo 256, and any other line
stands for the code point of its first character, which may well be more than a sound can carry.

A numeral has no bound, but all that counts of it is its remainder.  So it is read digit by digit
into a word of 32 bits that is cut to a byte behind every digit.  Nothing is ever carried out of the
word (`Typed.word_times_ten_lt`), and what it holds in the end is the remainder
(`typedIntensity_numeral`).
-/

namespace Reverb

namespace Typed

/-- The value of a digit. -/
def digit (c : Char) : UInt32 := UInt32.ofNat (c.toNat - '0'.toNat)

/-- A word with one more digit behind it, cut to a byte. -/
def push (word digit : UInt32) : UInt32 := (word * 10 + digit) % 256

/-- The word after some digits. -/
def word (digits : List Char) : UInt32 := digits.foldl (fun word c => push word (digit c)) 0

end Typed

/-- **The intensity of a typed line.** -/
def typedIntensity : List Char → Nat
  | [] => 0
  | c :: rest => if c = '\\' ∧ IsNumeral rest then (Typed.word rest).toNat else c.toNat

/-! ## The number behind the word -/

namespace Typed

/-- **A digit more** is a digit more of the number, modulo 256. -/
theorem push_ofNat (n : Nat) {d : Nat} (hd : d < 10) :
    push (UInt32.ofNat (n % 256)) (UInt32.ofNat d) = UInt32.ofNat ((10 * n + d) % 256) := by
  refine UInt32.toNat_inj.1 ?_
  rw [push, UInt32.toNat_mod, UInt32.toNat_add, UInt32.toNat_mul, UInt32.toNat_ofNat',
    UInt32.toNat_ofNat', UInt32.toNat_ofNat', show (10 : UInt32).toNat = 10 from rfl,
    show (256 : UInt32).toNat = 256 from rfl]
  omega

/-- Reading goes on from the remainder of the number that was read. -/
theorem foldl_push {digits : List Char} (h : ∀ c ∈ digits, c.isDigit = true) (n : Nat) :
    digits.foldl (fun word c => push word (digit c)) (UInt32.ofNat (n % 256))
      = UInt32.ofNat (Nat.ofDigitChars 10 digits n % 256) := by
  induction digits generalizing n with
  | nil => rfl
  | cons c rest ih =>
    obtain ⟨hc, hrest⟩ := List.forall_mem_cons.1 h
    rw [List.foldl_cons, digit, push_ofNat n (Numeral.digit_lt hc), ih hrest,
      Nat.ofDigitChars_cons]

/-- **What is read of some digits** is the remainder of the number that they denote. -/
theorem toNat_word {digits : List Char} (h : ∀ c ∈ digits, c.isDigit = true) :
    (word digits).toNat = Nat.ofDigitChars 10 digits 0 % 256 := by
  rw [word, show (0 : UInt32) = UInt32.ofNat (0 % 256) from rfl, foldl_push h, UInt32.toNat_ofNat']
  omega

/-- **A digit more never carries out of the word.** -/
theorem word_times_ten_lt {digits : List Char} {c : Char} (h : ∀ d ∈ digits, d.isDigit = true)
    (hc : c.isDigit = true) : (word digits).toNat * 10 + (digit c).toNat < UInt32.size := by
  have hd := Numeral.digit_lt hc
  rw [toNat_word h, digit, UInt32.toNat_ofNat', UInt32.size]
  omega

end Typed

/-- A backslash before a numeral gives the number modulo 256. -/
theorem typedIntensity_numeral {digits : List Char} {n : Nat} (h : Numeral.value? digits = some n) :
    typedIntensity ('\\' :: digits) = n % 256 := by
  obtain ⟨hnumeral, rfl⟩ := Numeral.value?_eq_some_iff.1 h
  rw [typedIntensity, if_pos ⟨rfl, hnumeral⟩, Typed.toNat_word hnumeral.2]

/-- Any other line gives the code point of its first character. -/
theorem typedIntensity_letter {c : Char} {rest : List Char} (h : ¬(c = '\\' ∧ IsNumeral rest)) :
    typedIntensity (c :: rest) = c.toNat := by
  rw [typedIntensity, if_neg h]

end Reverb
