import Reverb.Numeral

/-!
# Literal — a numeral in a machine word

A numeral has no bound, but it is read digit by digit into a word of 64 bits.  A number that
outgrows the word leaves its low bits there, and the literal is no longer exact: masks and parities
look at low bits only, and a literal that is not exact lies in no range.  `read?_eq` says that
nothing else gets lost on the way.
-/

namespace Reverb

/-- What a word keeps of a number: its low bits, and whether they are all of it. -/
structure Literal where
  value : UInt64
  exact : Bool
  deriving DecidableEq

namespace Literal

/-- The product of two words, if it is a word. -/
def times? (a b : UInt64) : Option UInt64 :=
  if a.toNat * b.toNat < UInt64.size then some (a * b) else none

/-- The sum of two words, if it is a word. -/
def plus? (a b : UInt64) : Option UInt64 :=
  if a.toNat + b.toNat < UInt64.size then some (a + b) else none

/-- The literal with one more digit behind it. -/
def push (literal : Literal) (digit : UInt64) : Literal :=
  match (times? literal.value 10).bind (plus? · digit) with
  | some value => { literal with value }
  | none => { value := literal.value * 10 + digit, exact := false }

/-- The value of a digit. -/
def digit (c : Char) : UInt64 := UInt64.ofNat (c.toNat - '0'.toNat)

/-- **Read a numeral;** no other text is a literal. -/
def read? (text : List Char) : Option Literal :=
  if IsNumeral text then some (text.foldl (fun literal c => literal.push (digit c)) ⟨0, true⟩)
  else none

/-- The number lies strictly between two bounds. -/
def inRange (literal : Literal) (low high : Int) : Bool :=
  literal.exact && decide (low < literal.value.toNat) && decide (literal.value.toNat < high)

/-! ## The number behind a literal -/

/-- What a word keeps of a number. -/
def ofNat (n : Nat) : Literal := ⟨UInt64.ofNat n, decide (n < UInt64.size)⟩

@[simp] theorem toNat_value_ofNat (n : Nat) : (ofNat n).value.toNat = n % UInt64.size :=
  UInt64.toNat_ofNat'

/-- The word goes on with its low bits, and stays exact as long as nothing is carried out of it. -/
theorem push_eq (literal : Literal) (digit : UInt64) :
    literal.push digit = ⟨literal.value * 10 + digit,
      literal.exact && decide (literal.value.toNat * 10 + digit.toNat < UInt64.size)⟩ := by
  have hten : (10 : UInt64).toNat = 10 := rfl
  rw [push, times?, hten]
  by_cases hproduct : literal.value.toNat * 10 < UInt64.size
  · have hvalue : (literal.value * 10).toNat = literal.value.toNat * 10 := by
      rw [UInt64.toNat_mul, hten]
      exact Nat.mod_eq_of_lt hproduct
    rw [if_pos hproduct, Option.bind_some, plus?, hvalue]
    by_cases hsum : literal.value.toNat * 10 + digit.toNat < UInt64.size
    · rw [if_pos hsum, decide_eq_true hsum, Bool.and_true]
    · rw [if_neg hsum, decide_eq_false hsum, Bool.and_false]
  · have hsum : ¬literal.value.toNat * 10 + digit.toNat < UInt64.size := by omega
    rw [if_neg hproduct, Option.bind_none, decide_eq_false hsum, Bool.and_false]

/-- **A digit more** is a digit more of the number. -/
theorem push_ofNat (n : Nat) {d : Nat} (hd : d < 10) :
    (ofNat n).push (UInt64.ofNat d) = ofNat (10 * n + d) := by
  have hvalue : UInt64.ofNat n * 10 + UInt64.ofNat d = UInt64.ofNat (10 * n + d) := by
    rw [UInt64.ofNat_add, UInt64.ofNat_mul, UInt64.mul_comm]
    rfl
  have hfits : (n < UInt64.size ∧ n % UInt64.size * 10 + d % UInt64.size < UInt64.size)
      ↔ 10 * n + d < UInt64.size := by
    rw [show UInt64.size = 18446744073709551616 from rfl]
    omega
  rw [push_eq]
  simp only [ofNat, hvalue, UInt64.toNat_ofNat', ← Bool.decide_and, hfits]

/-- Reading goes on from the number that was read. -/
theorem foldl_push {text : List Char} (h : ∀ c ∈ text, c.isDigit = true) (n : Nat) :
    text.foldl (fun literal c => literal.push (digit c)) (ofNat n)
      = ofNat (Nat.ofDigitChars 10 text n) := by
  induction text generalizing n with
  | nil => rfl
  | cons c rest ih =>
    obtain ⟨hc, hrest⟩ := List.forall_mem_cons.1 h
    rw [List.foldl_cons, digit, push_ofNat n (Numeral.digit_lt hc), ih hrest,
      Nat.ofDigitChars_cons]

/-- **A literal is what a word keeps of the number that its numeral denotes.** -/
theorem read?_eq (text : List Char) : read? text = (Numeral.value? text).map ofNat := by
  rw [read?, Numeral.value?]
  split
  · next h => exact congrArg some (foldl_push h.2 0)
  · rfl

/-- **A literal lies in a range of words** exactly if its number does. -/
theorem inRange_ofNat {n : Nat} {low high : Int} (hhigh : high ≤ UInt64.size) :
    (ofNat n).inRange low high = true ↔ low < n ∧ (n : Int) < high := by
  rw [show (UInt64.size : Int) = 18446744073709551616 from rfl] at hhigh
  simp only [inRange, ofNat, Bool.and_eq_true, decide_eq_true_eq, UInt64.toNat_ofNat']
  rw [show UInt64.size = 18446744073709551616 from rfl]
  omega

end Literal

end Reverb
