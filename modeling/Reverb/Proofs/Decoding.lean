import Mathlib.Data.List.Basic
import Reverb.Program.Command

/-!
# Proofs/Decoding — the table of commands

Every command has a name and a row of slots for its parameters (`Command.table`), and a slot says
which numbers may stand in it.  Numerals are taken for what they denote here, however long they are;
that a word of 64 bits is enough to judge them is the matter of `Literal.read?_eq`.

A line says a command exactly if its words fill the slots of that command (`decode_eq_ok_iff`).
Otherwise it has too many words, or no row of the table is for it, or one of its words does not fit
its slot; then the first of these is what is said against it (`decode_eq_error_iff`).
-/

namespace Reverb

/-- A sequence succeeds exactly if its parts do. -/
theorem bind_eq_ok_iff {ε α β : Type} {first : Except ε α} {next : α → Except ε β} {b : β} :
    first >>= next = .ok b ↔ ∃ a, first = .ok a ∧ next a = .ok b := by
  cases first with
  | error e =>
    simp only [reduceCtorEq, false_and, exists_false, iff_false]
    rintro ⟨⟩
  | ok a => exact ⟨fun h => ⟨a, rfl, h⟩, fun ⟨_, ha, h⟩ => Except.ok.inj ha ▸ h⟩

theorem pure_eq_ok_iff {ε α : Type} {a b : α} : (pure a : Except ε α) = .ok b ↔ a = b :=
  ⟨Except.ok.inj, congrArg Except.ok⟩

/-- A sequence fails where its first part does, or else its second. -/
theorem bind_eq_error_iff {ε α β : Type} {first : Except ε α} {next : α → Except ε β} {e : ε} :
    first >>= next = .error e ↔ first = .error e ∨ ∃ a, first = .ok a ∧ next a = .error e := by
  cases first with
  | error other =>
    simp only [reduceCtorEq, false_and, exists_false, or_false]
    exact ⟨fun h => congrArg _ (Except.error.inj h), fun h => congrArg _ (Except.error.inj h)⟩
  | ok a =>
    simp only [reduceCtorEq, false_or]
    exact ⟨fun h => ⟨a, rfl, h⟩, fun ⟨_, ha, h⟩ => Except.ok.inj ha ▸ h⟩

/-! ## The slots of a command -/

/-- What a parameter has to be. -/
inductive Slot where
  /-- From 1 to 255. -/
  | amount
  /-- From 1 to 255, or left out. -/
  | ticks
  /-- From 0 to 255. -/
  | level
  /-- A mask of directions. -/
  | directions
  /-- A mask of questions. -/
  | comparison
  /-- Any number, or left out. -/
  | parity
  deriving DecidableEq

/-- What stands in a slot. -/
inductive Argument where
  | amount (value : UInt8)
  | ticks (value : Option UInt8)
  | level (value : UInt8)
  | directions (value : Directions)
  | comparison (value : Comparison)
  | parity (value : Option UInt64)
  deriving DecidableEq

namespace Slot

/-- The slot may stay empty. -/
def isOptional : Slot → Bool
  | ticks => true
  | parity => true
  | _ => false

/-- The numbers that may stand in a slot. -/
def Admits : Slot → Nat → Prop
  | amount, n => 1 ≤ n ∧ n ≤ 255
  | ticks, n => 1 ≤ n ∧ n ≤ 255
  | level, n => n ≤ 255
  | directions, n => n % 16 ≠ 0
  | comparison, n => n % 8 ≠ 0
  | parity, _ => True

/-- What is said against any other number in the place of parameter `p`. -/
def reproach (p : Nat) : Slot → Reason
  | directions => .invalidDirections p
  | comparison => .invalidComparison p
  | _ => .invalidRange p

/-- **What is said against a word** in the place of parameter `p`, the empty text standing for a
word that is missing. -/
inductive Refuses (slot : Slot) (p : Nat) (word : String) : Reason → Prop
  /-- It is no numeral, and does not leave the slot empty. -/
  | notANumber (hnone : Numeral.value? word.toList = none)
      (hneeded : slot.isOptional = true → word ≠ "") : Refuses slot p word (.notANumber p)
  /-- It denotes a number that may not stand there. -/
  | inadmissible {n : Nat} (hn : Numeral.value? word.toList = some n) (hnot : ¬slot.Admits n) :
      Refuses slot p word (slot.reproach p)

end Slot

namespace Argument

/-- The slot that the argument stands in. -/
def slot : Argument → Slot
  | amount _ => .amount
  | ticks _ => .ticks
  | level _ => .level
  | directions _ => .directions
  | comparison _ => .comparison
  | parity _ => .parity

/-- **The argument holds what there is to keep of a number:** the number itself, or its low bits. -/
def Holds : Argument → Nat → Prop
  | amount value, n => value.toNat = n
  | ticks value, n => value.map UInt8.toNat = some n
  | level value, n => value.toNat = n
  | directions value, n => value.bits = n % 16
  | comparison value, n => value.bits = n % 16
  | parity value, n => value.map UInt64.toNat = some (n % UInt64.size)

/-- The slot was left empty. -/
def IsLeftOut (argument : Argument) : Prop := argument = ticks none ∨ argument = parity none

/-- **The argument is what a word says.** -/
inductive IsReadFrom (argument : Argument) (word : String) : Prop
  | number {n : Nat} (hn : Numeral.value? word.toList = some n) (hadmits : argument.slot.Admits n)
      (hholds : argument.Holds n)
  | leftOut (hempty : word = "") (hleft : argument.IsLeftOut)

/-- What a slot holds of a number is determined. -/
theorem eq_of_holds {argument other : Argument} {n : Nat} (hslot : other.slot = argument.slot)
    (h : argument.Holds n) (hother : other.Holds n) : other = argument := by
  cases argument with
  | amount value =>
    cases other <;> cases hslot
    exact congrArg _ (UInt8.toNat_inj.1 (hother.trans h.symm))
  | ticks value =>
    cases other <;> cases hslot
    exact congrArg _ (Option.map_injective (fun _ _ => UInt8.toNat_inj.1) (hother.trans h.symm))
  | level value =>
    cases other <;> cases hslot
    exact congrArg _ (UInt8.toNat_inj.1 (hother.trans h.symm))
  | directions value =>
    cases other <;> cases hslot
    exact congrArg _ (Directions.ext (hother.trans h.symm))
  | comparison value =>
    cases other <;> cases hslot
    exact congrArg _ (Comparison.ext (hother.trans h.symm))
  | parity value =>
    cases other <;> cases hslot
    exact congrArg _ (Option.map_injective (fun _ _ => UInt64.toNat_inj.1) (hother.trans h.symm))

/-- Only an optional slot is left out. -/
theorem IsLeftOut.isOptional {argument : Argument} (h : argument.IsLeftOut) :
    argument.slot.isOptional = true := by
  rcases h with rfl | rfl <;> rfl

theorem IsLeftOut.eq {argument other : Argument} (h : argument.IsLeftOut)
    (hother : other.IsLeftOut) (hslot : other.slot = argument.slot) : other = argument := by
  rcases h with rfl | rfl <;> rcases hother with rfl | rfl
  · rfl
  · cases hslot
  · cases hslot
  · rfl

end Argument

namespace Command

/-- The word that names a command. -/
def name : Command → String
  | op (.nop _) => "nop"
  | op (.send ..) => "send"
  | op (.wall ..) => "wall"
  | op (.redirect ..) => "redirect"
  | op (.predirect ..) => "predirect"
  | op .print => "print"
  | op (.condition ..) => "condition"
  | op (.pcondition ..) => "pcondition"
  | op (.input ..) => "input"
  | op .exit => "exit"
  | loop .. => "for"

/-- What stands in the slots of a command. -/
def arguments : Command → List Argument
  | op (.nop ticks) => [.ticks ticks]
  | op (.send directions distance intensity) =>
    [.directions directions, .amount distance, .amount intensity]
  | op (.wall directions distance) => [.directions directions, .amount distance]
  | op (.redirect directions distance parity) =>
    [.directions directions, .amount distance, .parity parity]
  | op (.predirect directions distance parity) =>
    [.directions directions, .amount distance, .parity parity]
  | op .print => []
  | op (.condition comparison value offset) =>
    [.comparison comparison, .level value, .amount offset]
  | op (.pcondition comparison value offset) =>
    [.comparison comparison, .level value, .amount offset]
  | op (.input directions distance) => [.directions directions, .amount distance]
  | op .exit => []
  | loop count length => [.amount count, .amount length]

/-- **The table of commands:** their names and their slots. -/
def table : List (String × List Slot) :=
  [("nop", [.ticks]),
    ("send", [.directions, .amount, .amount]),
    ("wall", [.directions, .amount]),
    ("redirect", [.directions, .amount, .parity]),
    ("predirect", [.directions, .amount, .parity]),
    ("print", []),
    ("condition", [.comparison, .level, .amount]),
    ("pcondition", [.comparison, .level, .amount]),
    ("for", [.amount, .amount]),
    ("input", [.directions, .amount]),
    ("exit", [])]

/-- The command with a name and arguments. -/
def ofArguments? : String → List Argument → Option Command
  | "nop", [.ticks ticks] => some (op (.nop ticks))
  | "send", [.directions directions, .amount distance, .amount intensity] =>
    some (op (.send directions distance intensity))
  | "wall", [.directions directions, .amount distance] => some (op (.wall directions distance))
  | "redirect", [.directions directions, .amount distance, .parity parity] =>
    some (op (.redirect directions distance parity))
  | "predirect", [.directions directions, .amount distance, .parity parity] =>
    some (op (.predirect directions distance parity))
  | "print", [] => some (op .print)
  | "condition", [.comparison comparison, .level value, .amount offset] =>
    some (op (.condition comparison value offset))
  | "pcondition", [.comparison comparison, .level value, .amount offset] =>
    some (op (.pcondition comparison value offset))
  | "for", [.amount count, .amount length] => some (loop count length)
  | "input", [.directions directions, .amount distance] => some (op (.input directions distance))
  | "exit", [] => some (op .exit)
  | _, _ => none

theorem ofArguments?_arguments (command : Command) :
    ofArguments? command.name command.arguments = some command := by
  cases command with
  | op instruction => cases instruction <;> rfl
  | loop count length => rfl

/-- **A command is its name and its arguments.** -/
theorem eq_of_arguments_eq {command other : Command} (hname : command.name = other.name)
    (harguments : command.arguments = other.arguments) : command = other := by
  refine Option.some.inj ?_
  rw [← ofArguments?_arguments, hname, harguments, ofArguments?_arguments]

/-- Every command has a row in the table. -/
theorem mem_table (command : Command) :
    (command.name, command.arguments.map Argument.slot) ∈ table := by
  cases command with
  | op instruction => cases instruction <;> simp [table, name, arguments, Argument.slot]
  | loop count length => simp [table, name, arguments, Argument.slot]

/-- A name has one row. -/
theorem slots_unique {name : String} {slots others : List Slot} (h : (name, slots) ∈ table)
    (hothers : (name, others) ∈ table) : slots = others := by
  have hrows : ∀ row ∈ table, ∀ other ∈ table, row.1 = other.1 → row = other := by decide
  exact congrArg Prod.snd (hrows _ h _ hothers rfl)

end Command

namespace Line

variable {line other : Line} {p n : Nat} {slot : Slot} {argument : Argument} {reason : Reason}

/-! ## One parameter -/

/-- The argument in the place of parameter `p`. -/
def argumentAt (line : Line) (p : Nat) : Slot → Except Reason Argument
  | .amount => (line.amount p).map .amount
  | .ticks => (line.amount? p).map .ticks
  | .level => (line.level p).map .level
  | .directions => (line.directions p).map .directions
  | .comparison => (line.comparison p).map .comparison
  | .parity => (line.parity? p).map .parity

theorem number_of_value (h : Numeral.value? (line.param p).toList = some n) :
    line.number p = .ok (Literal.ofNat n) := by
  rw [number, Literal.read?_eq, h]
  rfl

theorem number_of_none (h : Numeral.value? (line.param p).toList = none) :
    line.number p = .error (.notANumber p) := by
  rw [number, Literal.read?_eq, h]
  rfl

theorem number?_of_value (h : Numeral.value? (line.param p).toList = some n) :
    line.number? p = .ok (some (Literal.ofNat n)) := by
  have hne : line.param p ≠ "" := fun hempty => by
    rw [hempty] at h
    cases h
  rw [number?, if_neg hne, number_of_value h]
  rfl

theorem number?_of_none (h : Numeral.value? (line.param p).toList = none)
    (hne : line.param p ≠ "") : line.number? p = .error (.notANumber p) := by
  rw [number?, if_neg hne, number_of_none h]
  rfl

theorem number?_of_empty (h : line.param p = "") : line.number? p = .ok none := if_pos h

/-- A number in a range of bytes is kept as it is. -/
theorem ranged_of_mem (low : Int) (hlow : low < n) (hhigh : n < 256) (p : Nat) :
    ∃ value, ranged p low 256 (Literal.ofNat n) = .ok value ∧ value.toNat = n := by
  refine ⟨_, if_pos ((Literal.inRange_ofNat (by decide)).2 ⟨hlow, by omega⟩), ?_⟩
  rw [UInt64.toNat_toUInt8, Literal.toNat_value_ofNat, show UInt64.size = 2 ^ 64 from rfl]
  omega

theorem ranged_of_not_mem {low : Int} (h : ¬(low < n ∧ n < 256)) (p : Nat) :
    ranged p low 256 (Literal.ofNat n) = .error (.invalidRange p) := by
  refine if_neg fun hrange => h ?_
  have hmem := (Literal.inRange_ofNat (by decide)).1 hrange
  omega

/-- The low bits of a word are the low bits of its number. -/
theorem toNat_value_mod {m : Nat} (hdvd : m ∣ UInt64.size) (n : Nat) :
    (Literal.ofNat n).value.toNat % m = n % m := by
  rw [Literal.toNat_value_ofNat, Nat.mod_mod_of_dvd n hdvd]

/-- **A number that a slot admits** stands there. -/
theorem argumentAt_of_admits (hn : Numeral.value? (line.param p).toList = some n)
    (h : slot.Admits n) :
    ∃ argument, line.argumentAt p slot = .ok argument ∧ argument.slot = slot ∧
      argument.Holds n := by
  have hnumber := number_of_value hn
  have hnumber? := number?_of_value hn
  cases slot with
  | amount =>
    have hrange : 1 ≤ n ∧ n ≤ 255 := h
    obtain ⟨value, hvalue, hholds⟩ := ranged_of_mem (n := n) 0 (by omega) (by omega) p
    refine ⟨.amount value, ?_, rfl, hholds⟩
    rw [argumentAt, Line.amount, hnumber]
    exact congrArg (Except.map Argument.amount) hvalue
  | ticks =>
    have hrange : 1 ≤ n ∧ n ≤ 255 := h
    obtain ⟨value, hvalue, hholds⟩ := ranged_of_mem (n := n) 0 (by omega) (by omega) p
    refine ⟨.ticks (some value), ?_, rfl, congrArg some hholds⟩
    rw [argumentAt, Line.amount?, hnumber?]
    exact congrArg (fun result => (Except.map some result).map Argument.ticks) hvalue
  | level =>
    have hrange : n ≤ 255 := h
    obtain ⟨value, hvalue, hholds⟩ := ranged_of_mem (n := n) (-1) (by omega) (by omega) p
    refine ⟨.level value, ?_, rfl, hholds⟩
    rw [argumentAt, Line.level, hnumber]
    exact congrArg (Except.map Argument.level) hvalue
  | directions =>
    have hmask : n % 16 ≠ 0 := h
    have hlow : (Literal.ofNat n).value.toNat % 16 = n % 16 := toNat_value_mod (by decide) n
    cases hdirections : Directions.ofMask? (Literal.ofNat n).value.toNat with
    | none => exact absurd (hlow ▸ Directions.ofMask?_eq_none_iff.1 hdirections) hmask
    | some directions =>
      refine ⟨.directions directions, ?_, rfl,
        (Directions.bits_of_ofMask? hdirections).trans hlow⟩
      rw [argumentAt, Line.directions, hnumber]
      simp only [bind, Except.bind, hdirections, Except.map]
  | comparison =>
    have hmask : n % 8 ≠ 0 := h
    have hlow : (Literal.ofNat n).value.toNat % 8 = n % 8 := toNat_value_mod (by decide) n
    cases hcomparison : Comparison.ofMask? (Literal.ofNat n).value.toNat with
    | none => exact absurd (hlow ▸ Comparison.ofMask?_eq_none_iff.1 hcomparison) hmask
    | some comparison =>
      refine ⟨.comparison comparison, ?_, rfl,
        (Comparison.bits_of_ofMask? hcomparison).trans (toNat_value_mod (by decide) n)⟩
      rw [argumentAt, Line.comparison, hnumber]
      simp only [bind, Except.bind, hcomparison, Except.map]
  | parity =>
    refine ⟨.parity (some (Literal.ofNat n).value), ?_, rfl,
      congrArg some (Literal.toNat_value_ofNat n)⟩
    rw [argumentAt, Line.parity?, hnumber?]
    rfl

/-- Any other number is refused. -/
theorem argumentAt_of_not_admits (hn : Numeral.value? (line.param p).toList = some n)
    (h : ¬slot.Admits n) : line.argumentAt p slot = .error (slot.reproach p) := by
  have hnumber := number_of_value hn
  cases slot with
  | amount =>
    have hrange : ¬(1 ≤ n ∧ n ≤ 255) := h
    rw [argumentAt, Line.amount, hnumber]
    exact congrArg (Except.map Argument.amount) (ranged_of_not_mem (by omega) p)
  | ticks =>
    have hrange : ¬(1 ≤ n ∧ n ≤ 255) := h
    rw [argumentAt, Line.amount?, number?_of_value hn]
    exact congrArg (fun result => (Except.map some result).map Argument.ticks)
      (ranged_of_not_mem (by omega) p)
  | level =>
    have hrange : ¬n ≤ 255 := h
    rw [argumentAt, Line.level, hnumber]
    exact congrArg (Except.map Argument.level) (ranged_of_not_mem (by omega) p)
  | directions =>
    have hnone : Directions.ofMask? (Literal.ofNat n).value.toNat = none := by
      rw [Directions.ofMask?_eq_none_iff, toNat_value_mod (by decide)]
      exact not_not.1 h
    rw [argumentAt, Line.directions, hnumber]
    simp only [bind, Except.bind, hnone, Except.map, Slot.reproach]
  | comparison =>
    have hnone : Comparison.ofMask? (Literal.ofNat n).value.toNat = none := by
      rw [Comparison.ofMask?_eq_none_iff, toNat_value_mod (by decide)]
      exact not_not.1 h
    rw [argumentAt, Line.comparison, hnumber]
    simp only [bind, Except.bind, hnone, Except.map, Slot.reproach]
  | parity => exact absurd trivial h

/-- A word that is no numeral is refused, unless it leaves the slot empty. -/
theorem argumentAt_of_none (hnone : Numeral.value? (line.param p).toList = none)
    (hneeded : slot.isOptional = true → line.param p ≠ "") :
    line.argumentAt p slot = .error (.notANumber p) := by
  have hnumber := number_of_none hnone
  cases slot with
  | amount => rw [argumentAt, Line.amount, hnumber]; rfl
  | ticks => rw [argumentAt, Line.amount?, number?_of_none hnone (hneeded rfl)]; rfl
  | level => rw [argumentAt, Line.level, hnumber]; rfl
  | directions => rw [argumentAt, Line.directions, hnumber]; rfl
  | comparison => rw [argumentAt, Line.comparison, hnumber]; rfl
  | parity => rw [argumentAt, Line.parity?, number?_of_none hnone (hneeded rfl)]; rfl

/-- An optional slot may be left out. -/
theorem argumentAt_of_empty (hempty : line.param p = "") (hoptional : slot.isOptional = true) :
    ∃ argument, line.argumentAt p slot = .ok argument ∧ argument.slot = slot ∧
      argument.IsLeftOut := by
  have hnumber? := number?_of_empty hempty
  cases slot with
  | ticks => exact ⟨.ticks none, by rw [argumentAt, Line.amount?, hnumber?]; rfl, rfl, Or.inl rfl⟩
  | parity => exact ⟨.parity none, by rw [argumentAt, Line.parity?, hnumber?]; rfl, rfl, Or.inr rfl⟩
  | amount | level | directions | comparison => cases hoptional

/-- A word either stands in its slot or is refused. -/
theorem argumentAt_cases (line : Line) (p : Nat) (slot : Slot) :
    (∃ argument, line.argumentAt p slot = .ok argument ∧ argument.slot = slot ∧
        argument.IsReadFrom (line.param p)) ∨
      ∃ reason, line.argumentAt p slot = .error reason ∧ slot.Refuses p (line.param p) reason := by
  cases hvalue : Numeral.value? (line.param p).toList with
  | some n =>
    by_cases hadmits : slot.Admits n
    · obtain ⟨argument, hargument, rfl, hholds⟩ := argumentAt_of_admits hvalue hadmits
      exact Or.inl ⟨argument, hargument, rfl, .number hvalue hadmits hholds⟩
    · exact Or.inr ⟨_, argumentAt_of_not_admits hvalue hadmits, .inadmissible hvalue hadmits⟩
  | none =>
    by_cases hleft : slot.isOptional = true ∧ line.param p = ""
    · obtain ⟨argument, hargument, hslot, hout⟩ := argumentAt_of_empty hleft.2 hleft.1
      exact Or.inl ⟨argument, hargument, hslot, .leftOut hleft.2 hout⟩
    · have hneeded : slot.isOptional = true → line.param p ≠ "" := not_and.1 hleft
      exact Or.inr ⟨_, argumentAt_of_none hvalue hneeded, .notANumber hvalue hneeded⟩

/-- **An argument stands in a slot** exactly if it is what the word says. -/
theorem argumentAt_eq_ok_iff : line.argumentAt p slot = .ok argument ↔
    argument.slot = slot ∧ argument.IsReadFrom (line.param p) := by
  constructor
  · intro h
    obtain ⟨other, hother, hread⟩ | ⟨reason, hreason, -⟩ := line.argumentAt_cases p slot
    · obtain rfl := Except.ok.inj (hother.symm.trans h)
      exact hread
    · cases hreason.symm.trans h
  · rintro ⟨rfl, hread⟩
    cases hread with
    | number hn hadmits hholds =>
      obtain ⟨other, hother, hslot, hsame⟩ := argumentAt_of_admits hn hadmits
      rw [hother, Argument.eq_of_holds hslot hholds hsame]
    | leftOut hempty hleft =>
      obtain ⟨other, hother, hslot, hsame⟩ := argumentAt_of_empty hempty hleft.isOptional
      rw [hother, hleft.eq hsame hslot]

/-- **A word is refused** exactly for what is said against it. -/
theorem argumentAt_eq_error_iff :
    line.argumentAt p slot = .error reason ↔ slot.Refuses p (line.param p) reason := by
  constructor
  · intro h
    obtain ⟨other, hother, -⟩ | ⟨other, hother, hrefuses⟩ := line.argumentAt_cases p slot
    · cases hother.symm.trans h
    · obtain rfl := Except.error.inj (hother.symm.trans h)
      exact hrefuses
  · intro h
    cases h with
    | notANumber hnone hneeded => exact argumentAt_of_none hnone hneeded
    | inadmissible hn hnot => exact argumentAt_of_not_admits hn hnot

/-! ## All parameters, from left to right -/

/-- The arguments in the places of parameter `p` and those behind it. -/
def argumentsFrom (line : Line) (p : Nat) : List Slot → Except Reason (List Argument)
  | [] => .ok []
  | slot :: slots => do
    let argument ← line.argumentAt p slot
    let rest ← line.argumentsFrom (p + 1) slots
    return argument :: rest

variable {slots : List Slot} {arguments : List Argument}

/-- **Arguments stand in their slots** exactly if each of them is what its word says. -/
theorem argumentsFrom_eq_ok_iff : line.argumentsFrom p slots = .ok arguments ↔
    arguments.map Argument.slot = slots ∧ ∀ k (argument : Argument),
      arguments[k]? = some argument → argument.IsReadFrom (line.param (p + k)) := by
  induction slots generalizing p arguments with
  | nil =>
    rw [argumentsFrom, List.map_eq_nil_iff, Except.ok.injEq, eq_comm]
    exact ⟨fun h => ⟨h, by simp [h]⟩, And.left⟩
  | cons slot slots ih =>
    simp only [argumentsFrom, bind_eq_ok_iff, pure_eq_ok_iff, argumentAt_eq_ok_iff, ih]
    constructor
    · rintro ⟨first, ⟨rfl, hfirst⟩, rest, ⟨rfl, hrest⟩, rfl⟩
      refine ⟨rfl, fun k argument hk => ?_⟩
      cases k with
      | zero => exact Option.some.inj hk ▸ hfirst
      | succ k => exact Nat.add_right_comm p 1 k ▸ hrest k argument hk
    · rintro ⟨hslots, hreads⟩
      obtain ⟨first, rest, rfl, rfl, rfl⟩ := List.map_eq_cons_iff.1 hslots
      refine ⟨first, ⟨rfl, hreads 0 first rfl⟩, rest, ⟨rfl, fun k argument hk => ?_⟩, rfl⟩
      exact Nat.add_right_comm p k 1 ▸ hreads (k + 1) argument hk

/-- **The first word that is refused** is what is said against all of them. -/
theorem argumentsFrom_eq_error_iff : line.argumentsFrom p slots = .error reason ↔
    ∃ k, ∃ slot : Slot, slots[k]? = some slot ∧
      slot.Refuses (p + k) (line.param (p + k)) reason ∧
        ∀ j < k, ∀ earlier : Slot, slots[j]? = some earlier →
          ∀ other, ¬earlier.Refuses (p + j) (line.param (p + j)) other := by
  induction slots generalizing p with
  | nil => simp [argumentsFrom]
  | cons slot slots ih =>
    simp only [argumentsFrom, bind_eq_error_iff, pure, Except.pure, reduceCtorEq, and_false,
      exists_false, or_false, argumentAt_eq_error_iff, ih]
    constructor
    · rintro (hfirst | ⟨first, hfirst, k, other, hk, hother, hearlier⟩)
      · exact ⟨0, slot, rfl, hfirst, fun j hj => absurd hj (Nat.not_lt_zero j)⟩
      · refine ⟨k + 1, other, hk, Nat.add_right_comm p 1 k ▸ hother, fun j hj => ?_⟩
        cases j with
        | zero =>
          rintro earlier hslot refusal hrefuses
          obtain rfl := Option.some.inj hslot
          cases hfirst.symm.trans (argumentAt_eq_error_iff.2 hrefuses)
        | succ j => exact Nat.add_right_comm p 1 j ▸ hearlier j (Nat.lt_of_succ_lt_succ hj)
    · rintro ⟨k, other, hk, hother, hearlier⟩
      cases k with
      | zero => exact Or.inl (Option.some.inj hk ▸ hother)
      | succ k =>
        obtain ⟨first, hfirst, -⟩ | ⟨refusal, -, hrefuses⟩ := line.argumentAt_cases p slot
        · refine Or.inr ⟨first, hfirst, k, other, hk, Nat.add_right_comm p 1 k ▸ hother, ?_⟩
          intro j hj
          exact Nat.add_right_comm p 1 j ▸ hearlier (j + 1) (Nat.succ_lt_succ hj)
        · exact absurd hrefuses (hearlier 0 (Nat.succ_pos k) slot rfl refusal)

/-! ## The row of the operand -/

variable {done : List Argument} {command : Command}

/-- **A result follows from the parameters** from `p` on, the arguments before them being known. -/
inductive Follows (line : Line) (p : Nat) (slots : List Slot) (done : List Argument) :
    Except Reason Command → Prop
  | refused {reason : Reason} (h : line.argumentsFrom p slots = .error reason) :
      Follows line p slots done (.error reason)
  | said {arguments : List Argument} {command : Command}
      (h : line.argumentsFrom p slots = .ok arguments) (hname : command.name = line.operand)
      (harguments : command.arguments = done ++ arguments) : Follows line p slots done (.ok command)

/-- When no slot is left the command is said. -/
theorem Follows.nil (hname : command.name = line.operand) (harguments : command.arguments = done) :
    Follows line p [] done (.ok command) :=
  .said rfl hname (by rw [harguments, List.append_nil])

/-- One parameter more. -/
theorem Follows.cons {α : Type} {first : Except Reason α} {next : α → Except Reason Command}
    {make : α → Argument} (hfirst : line.argumentAt p slot = first.map make)
    (hnext : ∀ a, Follows line (p + 1) slots (done ++ [make a]) (next a)) :
    Follows line p (slot :: slots) done (first >>= next) := by
  cases first with
  | error reason => exact .refused (bind_eq_error_iff.2 (Or.inl hfirst))
  | ok a =>
    change Follows line p (slot :: slots) done (next a)
    have hargument : line.argumentAt p slot = .ok (make a) := hfirst
    have hfollows := hnext a
    generalize next a = result at hfollows ⊢
    cases hfollows with
    | refused h =>
      exact .refused (bind_eq_error_iff.2 (Or.inr ⟨_, hargument, bind_eq_error_iff.2 (Or.inl h)⟩))
    | said h hname harguments =>
      refine .said (bind_eq_ok_iff.2 ⟨_, hargument, bind_eq_ok_iff.2 ⟨_, h, rfl⟩⟩) hname ?_
      rw [harguments, List.append_assoc, List.singleton_append]

/-- **An operand that is in the table** has its parameters read in the order of its slots. -/
theorem decodeOperand_cases (line : Line) :
    (∃ slots, (line.operand, slots) ∈ Command.table ∧ Follows line 1 slots [] line.decodeOperand) ∨
      (∀ slots, (line.operand, slots) ∉ Command.table) ∧
        line.decodeOperand = .error .unknownCommand := by
  rw [decodeOperand]
  -- one case for each operand, in the order in which they are looked for
  split
  · next h => exact Or.inl ⟨[.ticks], by rw [h]; decide, .cons rfl fun ticks => .nil h.symm rfl⟩
  · next h =>
    exact Or.inl ⟨[.directions, .amount, .amount], by rw [h]; decide,
      .cons rfl fun directions => .cons rfl fun distance => .cons rfl fun intensity =>
        .nil h.symm rfl⟩
  · next h =>
    exact Or.inl ⟨[.directions, .amount], by rw [h]; decide,
      .cons rfl fun directions => .cons rfl fun distance => .nil h.symm rfl⟩
  · next h =>
    exact Or.inl ⟨[.directions, .amount, .parity], by rw [h]; decide,
      .cons rfl fun directions => .cons rfl fun distance => .cons rfl fun parity =>
        .nil h.symm rfl⟩
  · next h =>
    exact Or.inl ⟨[.directions, .amount, .parity], by rw [h]; decide,
      .cons rfl fun directions => .cons rfl fun distance => .cons rfl fun parity =>
        .nil h.symm rfl⟩
  · next h => exact Or.inl ⟨[], by rw [h]; decide, .nil h.symm rfl⟩
  · next h =>
    exact Or.inl ⟨[.comparison, .level, .amount], by rw [h]; decide,
      .cons rfl fun comparison => .cons rfl fun value => .cons rfl fun offset => .nil h.symm rfl⟩
  · next h =>
    exact Or.inl ⟨[.comparison, .level, .amount], by rw [h]; decide,
      .cons rfl fun comparison => .cons rfl fun value => .cons rfl fun offset => .nil h.symm rfl⟩
  · next h =>
    exact Or.inl ⟨[.amount, .amount], by rw [h]; decide,
      .cons rfl fun count => .cons rfl fun length => .nil h.symm rfl⟩
  · next h =>
    exact Or.inl ⟨[.directions, .amount], by rw [h]; decide,
      .cons rfl fun directions => .cons rfl fun distance => .nil h.symm rfl⟩
  · next h => exact Or.inl ⟨[], by rw [h]; decide, .nil h.symm rfl⟩
  · refine Or.inr ⟨fun slots hmem => ?_, rfl⟩
    simp_all [Command.table]

/-! ## What a line says, and what is said against it -/

/-- **The line says the command:** it has no more than four words, it names the command, and each
argument of the command is what the word in its place says. -/
structure Says (line : Line) (command : Command) : Prop where
  few : line.tokens.length ≤ 4
  named : line.operand = command.name
  read : ∀ k (argument : Argument), command.arguments[k]? = some argument →
    argument.IsReadFrom (line.param (k + 1))

/-- **What is said against a line:** it has too many words, or no row of the table is for it, or
there is a first parameter whose word its slot refuses. -/
inductive IsRefused (line : Line) : Reason → Prop
  | tooMany (hmany : 4 < line.tokens.length) : IsRefused line .tooManyParameters
  | unknown (hfew : line.tokens.length ≤ 4)
      (hunknown : ∀ slots, (line.operand, slots) ∉ Command.table) : IsRefused line .unknownCommand
  | parameter {slots : List Slot} {k : Nat} {slot : Slot} {reason : Reason}
      (hfew : line.tokens.length ≤ 4) (hrow : (line.operand, slots) ∈ Command.table)
      (hslot : slots[k]? = some slot) (hrefuses : slot.Refuses (k + 1) (line.param (k + 1)) reason)
      (hfirst : ∀ j < k, ∀ earlier : Slot, slots[j]? = some earlier →
        ∀ other, ¬earlier.Refuses (j + 1) (line.param (j + 1)) other) : IsRefused line reason

theorem argumentsFrom_one_eq_ok_iff : line.argumentsFrom 1 slots = .ok arguments ↔
    arguments.map Argument.slot = slots ∧ ∀ k (argument : Argument),
      arguments[k]? = some argument → argument.IsReadFrom (line.param (k + 1)) := by
  simp only [argumentsFrom_eq_ok_iff, Nat.add_comm 1]

theorem argumentsFrom_one_eq_error_iff : line.argumentsFrom 1 slots = .error reason ↔
    ∃ k, ∃ slot : Slot, slots[k]? = some slot ∧
      slot.Refuses (k + 1) (line.param (k + 1)) reason ∧
        ∀ j < k, ∀ earlier : Slot, slots[j]? = some earlier →
          ∀ other, ¬earlier.Refuses (j + 1) (line.param (j + 1)) other := by
  simp only [argumentsFrom_eq_error_iff, Nat.add_comm 1]

theorem decodeOperand_eq_ok_iff : line.decodeOperand = .ok command ↔
    line.operand = command.name ∧
      line.argumentsFrom 1 (command.arguments.map Argument.slot) = .ok command.arguments := by
  obtain ⟨slots, hrow, hfollows⟩ | ⟨hunknown, herror⟩ := line.decodeOperand_cases
  · generalize line.decodeOperand = result at hfollows ⊢
    constructor
    · rintro rfl
      obtain _ | ⟨h, hname, harguments⟩ := hfollows
      obtain rfl : command.arguments = _ := harguments
      obtain rfl := (argumentsFrom_one_eq_ok_iff.1 h).1
      exact ⟨hname.symm, h⟩
    · rintro ⟨hname, h⟩
      rw [hname] at hrow
      obtain rfl := Command.slots_unique hrow command.mem_table
      cases hfollows with
      | refused hrefused => cases h.symm.trans hrefused
      | said hsaid hsame harguments =>
        obtain rfl := Except.ok.inj (h.symm.trans hsaid)
        rw [Command.eq_of_arguments_eq (hsame.trans hname) harguments]
  · rw [herror]
    refine ⟨nofun, fun h => absurd ?_ (hunknown (command.arguments.map Argument.slot))⟩
    exact h.1 ▸ command.mem_table

theorem decodeOperand_eq_error_iff : line.decodeOperand = .error reason ↔
    ((∀ slots, (line.operand, slots) ∉ Command.table) ∧ reason = .unknownCommand) ∨
      ∃ slots, (line.operand, slots) ∈ Command.table ∧
        line.argumentsFrom 1 slots = .error reason := by
  obtain ⟨slots, hrow, hfollows⟩ | ⟨hunknown, herror⟩ := line.decodeOperand_cases
  · generalize line.decodeOperand = result at hfollows ⊢
    constructor
    · rintro rfl
      obtain h | _ := hfollows
      exact Or.inr ⟨slots, hrow, h⟩
    · rintro (⟨hunknown, -⟩ | ⟨others, hothers, h⟩)
      · exact absurd hrow (hunknown slots)
      obtain rfl := Command.slots_unique hrow hothers
      cases hfollows with
      | refused hrefused => exact congrArg _ (Except.error.inj (hrefused.symm.trans h))
      | said hsaid => cases h.symm.trans hsaid
  · rw [herror]
    constructor
    · intro h
      exact Or.inl ⟨hunknown, (Except.error.inj h).symm⟩
    · rintro (⟨-, rfl⟩ | ⟨slots, hrow, -⟩)
      · rfl
      · exact absurd hrow (hunknown slots)

/-- **A line says a command** exactly if its words fill the slots of the command. -/
theorem decode_eq_ok_iff : line.decode = .ok command ↔ line.Says command := by
  rw [decode]
  split
  · next hmany => exact ⟨nofun, fun h => absurd h.few (Nat.not_le.2 hmany)⟩
  · next hfew =>
    rw [decodeOperand_eq_ok_iff, argumentsFrom_one_eq_ok_iff]
    exact ⟨fun h => ⟨Nat.not_lt.1 hfew, h.1, h.2.2⟩, fun h => ⟨h.named, rfl, h.read⟩⟩

/-- **A line is refused** exactly for the first thing that is said against it. -/
theorem decode_eq_error_iff : line.decode = .error reason ↔ line.IsRefused reason := by
  rw [decode]
  split
  · next hmany =>
    constructor
    · intro h
      obtain rfl := Except.error.inj h
      exact .tooMany hmany
    · intro h
      cases h with
      | tooMany => rfl
      | unknown hfew => exact absurd hmany (Nat.not_lt.2 hfew)
      | parameter hfew => exact absurd hmany (Nat.not_lt.2 hfew)
  · next hnot =>
    have hfew := Nat.not_lt.1 hnot
    simp only [decodeOperand_eq_error_iff, argumentsFrom_one_eq_error_iff]
    constructor
    · rintro (⟨hunknown, rfl⟩ | ⟨slots, hrow, k, slot, hslot, hrefuses, hfirst⟩)
      · exact .unknown hfew hunknown
      · exact .parameter hfew hrow hslot hrefuses hfirst
    · intro h
      cases h with
      | tooMany hmany => exact absurd hmany hnot
      | unknown _ hunknown => exact Or.inl ⟨hunknown, rfl⟩
      | parameter _ hrow hslot hrefuses hfirst =>
        exact Or.inr ⟨_, hrow, _, _, hslot, hrefuses, hfirst⟩

/-- Words behind the parameters of the operand are not looked at. -/
theorem decode_congr (hfew : line.tokens.length ≤ 4) (hother : other.tokens.length ≤ 4)
    (hoperand : other.operand = line.operand)
    (hparams : ∀ slots, (line.operand, slots) ∈ Command.table →
      ∀ k < slots.length, other.param (k + 1) = line.param (k + 1)) :
    other.decode = line.decode := by
  cases hdecode : line.decode with
  | ok command =>
    have hline := decode_eq_ok_iff.1 hdecode
    refine decode_eq_ok_iff.2 ⟨hother, hoperand.trans hline.named, fun k argument hk => ?_⟩
    have hlt := (List.getElem?_eq_some_iff.1 hk).1
    have hparam := hparams _ (hline.named ▸ command.mem_table) k (by rwa [List.length_map])
    exact hparam ▸ hline.read k argument hk
  | error reason =>
    refine decode_eq_error_iff.2 ?_
    cases decode_eq_error_iff.1 hdecode with
    | tooMany hmany => exact absurd hmany (Nat.not_lt.2 hfew)
    | unknown _ hunknown => exact .unknown hother (hoperand ▸ hunknown)
    | @parameter slots k slot _ _ hrow hslot hrefuses hfirst =>
      have hlt := (List.getElem?_eq_some_iff.1 hslot).1
      refine .parameter hother (hoperand ▸ hrow) hslot (hparams slots hrow k hlt ▸ hrefuses) ?_
      intro j hj earlier hearlier
      exact hparams slots hrow j (Nat.lt_trans hj hlt) ▸ hfirst j hj earlier hearlier

/-- **The table says exactly which lines are commands,** what they say, and what is said against
all others; and words behind the parameters of an operand are not looked at. -/
theorem decode_exact (line : Line) :
    (∀ command, line.decode = .ok command ↔ line.Says command) ∧
      (∀ reason, line.decode = .error reason ↔ line.IsRefused reason) ∧
      ∀ other : Line, line.tokens.length ≤ 4 → other.tokens.length ≤ 4 →
        other.operand = line.operand →
          (∀ slots, (line.operand, slots) ∈ Command.table →
            ∀ k < slots.length, other.param (k + 1) = line.param (k + 1)) →
          other.decode = line.decode :=
  ⟨fun _ => decode_eq_ok_iff, fun _ => decode_eq_error_iff, fun _ => decode_congr⟩

/-- A mask and a distance that no word holds, the one read by its low bits and the other refused,
and a word that is not looked at. -/
theorem decode_exact_beyond_words :
    let line : Line := ⟨0, ["input", "18446744073709551633", "0003"]⟩
    let other : Line := ⟨3, ["input", "18446744073709551633", "0003", "x"]⟩
    let far : Line := ⟨0, ["wall", "1", "18446744073709551617", "-"]⟩
    line.Says (.op (.input ⟨1, by decide, by decide⟩ 3)) ∧ far.IsRefused (.invalidRange 2) ∧
      other.decode = line.decode := by
  intro line other far
  have hslots : ∀ slots, ("input", slots) ∈ Command.table →
      ∀ k < slots.length, other.param (k + 1) = line.param (k + 1) := by
    intro slots hrow
    have hinput : ("input", [Slot.directions, .amount]) ∈ Command.table := by decide
    obtain rfl := Command.slots_unique hrow hinput
    decide
  exact ⟨((decode_exact line).1 _).1 (by decide +kernel),
    ((decode_exact far).2.1 _).1 (by decide +kernel),
    (decode_exact line).2.2 other (by decide) (by decide) rfl hslots⟩

/-- **An optional slot may be left empty by an empty word,** which is no numeral. -/
theorem decode_nop_of_empty_word :
    let line : Line := ⟨0, ["nop", ""]⟩
    line.tokens[1]? = some "" ∧ line.decode = .ok (.op (.nop none)) ∧
      line.decode ≠ .error (.notANumber 1) := by
  decide

end Line

end Reverb
