import Reverb.Program.Compile
import Reverb.Proofs.Blocks
import Reverb.Proofs.Decoding
import Reverb.Proofs.Limits
import Reverb.Proofs.Tokens

/-!
# Proofs/Listing — a program reads back from its listing

The listing of a program is the list of the written forms of its instructions.  A written form is
cut into the words that it was put together from (`ofText?_text`), and these words say the
instruction (`decode_words`), as long as none of its amounts is 0.  Whatever a line says has no such
amount (`isWritable_of_decode`), so every compiled program reads back, and within the limits under
which it was compiled (`compile_listing`).
-/

namespace Reverb

namespace Instruction

/-! ## The words of an instruction say it -/

/-- The parameters of an instruction that have to lie between 1 and 255. -/
def amounts : Instruction → List UInt8
  | nop ticks => ticks.toList
  | send _ distance intensity => [distance, intensity]
  | wall _ distance => [distance]
  | redirect _ distance _ => [distance]
  | predirect _ distance _ => [distance]
  | print => []
  | condition _ _ offset => [offset]
  | pcondition _ _ offset => [offset]
  | input _ distance => [distance]
  | exit => []

/-- **An instruction that can be written:** none of its amounts is 0. -/
def IsWritable (instruction : Instruction) : Prop := ∀ amount ∈ instruction.amounts, 0 < amount

theorem length_words_le (instruction : Instruction) : instruction.words.length ≤ 4 := by
  cases instruction with
  | nop ticks => cases ticks <;> simp [words]
  | redirect directions distance parity => cases parity <;> simp [words]
  | predirect directions distance parity => cases parity <;> simp [words]
  | _ => simp [words]

end Instruction

namespace Argument

variable {argument : Argument}

/-- The word that an argument is written with, the empty text where it is left out. -/
def word : Argument → String
  | amount value => value.toNat.repr
  | ticks value => (value.map fun ticks => ticks.toNat.repr).getD ""
  | level value => value.toNat.repr
  | directions value => value.bits.repr
  | comparison value => value.bits.repr
  | parity value => (value.map fun parity => parity.toNat.repr).getD ""

/-- The values of an argument that have to lie between 1 and 255. -/
def amounts : Argument → List UInt8
  | amount value => [value]
  | ticks value => value.toList
  | _ => []

/-- **No amount that is read is 0.** -/
theorem IsReadFrom.pos {word : String} (h : argument.IsReadFrom word) {amount : UInt8}
    (hmem : amount ∈ argument.amounts) : 0 < amount := by
  rw [UInt8.lt_iff_toNat_lt]
  cases h with
  | number hn hadmits hholds =>
    cases argument with
    | amount value =>
      obtain rfl := List.mem_singleton.1 hmem
      exact (show amount.toNat = _ from hholds) ▸ hadmits.1
    | ticks value =>
      obtain rfl := Option.mem_toList.1 hmem
      exact Option.some.inj hholds ▸ hadmits.1
    | level | directions | comparison | parity => cases hmem
  | leftOut hempty hleft =>
    rcases hleft with rfl | rfl
    · cases hmem
    · cases hmem

/-- **A written argument is read as itself.** -/
theorem isReadFrom_word (h : ∀ amount ∈ argument.amounts, 0 < amount) :
    argument.IsReadFrom argument.word := by
  have hrange : ∀ value ∈ argument.amounts, 1 ≤ value.toNat ∧ value.toNat ≤ 255 :=
    fun value hmem => ⟨UInt8.lt_iff_toNat_lt.1 (h value hmem), Nat.le_of_lt_succ value.toNat_lt⟩
  cases argument with
  | amount value =>
    exact .number (Numeral.value?_repr _) (hrange value List.mem_cons_self) rfl
  | ticks value =>
    cases value with
    | none => exact .leftOut rfl (Or.inl rfl)
    | some ticks =>
      exact .number (Numeral.value?_repr _) (hrange ticks List.mem_cons_self) rfl
  | level value =>
    exact .number (Numeral.value?_repr _) (Nat.le_of_lt_succ value.toNat_lt) rfl
  | directions value =>
    have hlow := Nat.mod_eq_of_lt value.bits_lt
    exact .number (Numeral.value?_repr _) (hlow.trans_ne value.bits_pos.ne') hlow.symm
  | comparison value =>
    exact .number (Numeral.value?_repr _) value.asks.ne' (Nat.mod_eq_of_lt value.bits_lt).symm
  | parity value =>
    cases value with
    | none => exact .leftOut rfl (Or.inr rfl)
    | some parity =>
      have hlow := Nat.mod_eq_of_lt parity.toNat_lt_size
      exact .number (Numeral.value?_repr _) trivial (congrArg some hlow.symm)

end Argument

namespace Instruction

theorem amounts_eq_flatMap (instruction : Instruction) :
    instruction.amounts = (Command.op instruction).arguments.flatMap Argument.amounts := by
  cases instruction with
  | nop ticks => exact (List.append_nil _).symm
  | _ => rfl

/-- **What a line says can be written.** -/
theorem isWritable_of_decode {line : Line} {instruction : Instruction}
    (h : line.decode = .ok (.op instruction)) : instruction.IsWritable := by
  intro amount hmem
  rw [amounts_eq_flatMap] at hmem
  obtain ⟨argument, hargument, hamount⟩ := List.mem_flatMap.1 hmem
  obtain ⟨k, hk⟩ := List.mem_iff_getElem?.1 hargument
  exact ((Line.decode_eq_ok_iff.1 h).read k argument hk).pos hamount

/-- An instruction is written by its name first. -/
theorem operand_words (instruction : Instruction) (n : Nat) :
    Line.operand ⟨n, instruction.words⟩ = (Command.op instruction).name := by
  cases instruction with
  | nop ticks => cases ticks <;> rfl
  | _ => rfl

/-- The words of its arguments follow, up to one that is left out at the end. -/
theorem param_words (instruction : Instruction) (n k : Nat) :
    Line.param ⟨n, instruction.words⟩ (k + 1)
      = ((Command.op instruction).arguments.map Argument.word).getD k "" := by
  have hout : ∀ words : List String, (words ++ [""]).getD k "" = words.getD k "" := fun words => by
    simp only [List.getD_eq_getElem?_getD, List.getElem?_append]
    grind
  cases instruction with
  | nop ticks =>
    cases ticks with
    | none => exact (hout []).symm
    | some ticks => rfl
  | redirect directions distance parity =>
    cases parity with
    | none => exact (hout [_, _]).symm
    | some parity => rfl
  | predirect directions distance parity =>
    cases parity with
    | none => exact (hout [_, _]).symm
    | some parity => rfl
  | _ => rfl

/-- **The words of an instruction say it.** -/
theorem decode_words {instruction : Instruction} (h : instruction.IsWritable) (n : Nat) :
    Line.decode ⟨n, instruction.words⟩ = .ok (.op instruction) := by
  refine Line.decode_eq_ok_iff.2
    ⟨instruction.length_words_le, instruction.operand_words n, fun k argument hk => ?_⟩
  rw [param_words, List.getD_eq_getElem?_getD, List.getElem?_map, hk]
  refine Argument.isReadFrom_word fun amount hmem => h amount ?_
  rw [amounts_eq_flatMap]
  exact List.mem_flatMap.2 ⟨argument, List.mem_of_getElem? hk, hmem⟩

/-! ## A written form is cut into its words -/

/-- The words that name an instruction. -/
def names : List String :=
  ["nop", "send", "wall", "redirect", "predirect", "print", "condition", "pcondition", "input",
    "exit"]

/-- **An instruction is written as its name and some numbers.** -/
theorem exists_words_eq (instruction : Instruction) :
    ∃ name ∈ names, ∃ numbers : List Nat, instruction.words = name :: numbers.map Nat.repr := by
  cases instruction with
  | nop ticks =>
    exact ⟨"nop", by decide, ticks.toList.map UInt8.toNat, by cases ticks <;> rfl⟩
  | send directions distance intensity =>
    exact ⟨"send", by decide, [directions.bits, distance.toNat, intensity.toNat], rfl⟩
  | wall directions distance =>
    exact ⟨"wall", by decide, [directions.bits, distance.toNat], rfl⟩
  | redirect directions distance parity =>
    exact ⟨"redirect", by decide,
      [directions.bits, distance.toNat] ++ parity.toList.map UInt64.toNat, by cases parity <;> rfl⟩
  | predirect directions distance parity =>
    exact ⟨"predirect", by decide,
      [directions.bits, distance.toNat] ++ parity.toList.map UInt64.toNat, by cases parity <;> rfl⟩
  | print => exact ⟨"print", by decide, [], rfl⟩
  | condition comparison value offset =>
    exact ⟨"condition", by decide, [comparison.bits, value.toNat, offset.toNat], rfl⟩
  | pcondition comparison value offset =>
    exact ⟨"pcondition", by decide, [comparison.bits, value.toNat, offset.toNat], rfl⟩
  | input directions distance =>
    exact ⟨"input", by decide, [directions.bits, distance.toNat], rfl⟩
  | exit => exact ⟨"exit", by decide, [], rfl⟩

end Instruction

/-- No digit is a blank. -/
theorem isBlank_of_isDigit {c : Char} (h : c.isDigit = true) : Text.isBlank c = false := by
  have hfree : ∀ bound ∈ Text.blanks.bounds, bound.2 < 48 ∨ 57 < bound.1 := by decide
  have hdigit : 48 ≤ c.toNat ∧ c.toNat ≤ 57 := Char.isDigit_iff_toNat.1 h
  rw [← Bool.not_eq_true, Text.isBlank, Text.Ranges.has_iff]
  rintro ⟨bound, hbound, hle, hge⟩
  rcases hfree bound hbound with hbelow | habove
  · omega
  · omega

theorem isToken_repr (n : Nat) : IsToken n.repr := by
  obtain ⟨hne, hdigits⟩ := Numeral.isNumeral_repr n
  exact ⟨hne, fun c hc => isBlank_of_isDigit (hdigits c hc)⟩

/-- A name is a word that begins with a letter. -/
theorem isToken_name : ∀ name ∈ Instruction.names,
    IsToken name ∧ (name.toList.head?.any Text.isAlphabetic) = true := by
  decide

theorem ofText?_text (instruction : Instruction) (n : Nat) :
    Line.ofText? n instruction.text = some ⟨n, instruction.words⟩ := by
  obtain ⟨name, hname, numbers, hwords⟩ := instruction.exists_words_eq
  obtain ⟨htoken, hletter⟩ := isToken_name name hname
  rw [Instruction.text, hwords]
  refine Line.ofText?_intercalate ⟨List.forall_mem_cons.2 ⟨htoken, fun token hmem => ?_⟩, hletter⟩ n
  obtain ⟨number, -, rfl⟩ := List.mem_map.1 hmem
  exact isToken_repr number

/-! ## A listing is compiled to its program -/

variable {program : List Instruction} {commands : List Command} {limits : Limits}

/-- The lines of a listing are the words of its instructions. -/
theorem ofSource_listing (program : List Instruction) :
    Line.ofSource (program.map Instruction.text)
      = program.zipIdx.map fun numbered => ⟨numbered.2, numbered.1.words⟩ := by
  rw [Line.ofSource, List.zipIdx_map, List.filterMap_map, ← List.filterMap_eq_map]
  exact List.filterMap_congr fun numbered _ => ofText?_text numbered.1 numbered.2

/-- The lines of a listing say its instructions. -/
theorem map_decode_listing (h : ∀ instruction ∈ program, instruction.IsWritable) :
    (Line.ofSource (program.map Instruction.text)).map Line.decode
      = (program.map Command.op).map .ok := by
  have hdecode : ∀ numbered ∈ program.zipIdx,
      Line.decode ⟨numbered.2, numbered.1.words⟩ = .ok (.op numbered.1) := fun numbered hmem =>
    Instruction.decode_words (h _ (List.fst_mem_of_mem_zipIdx hmem)) numbered.2
  calc (Line.ofSource (program.map Instruction.text)).map Line.decode
      = program.zipIdx.map fun numbered => .ok (.op numbered.1) := by
        rw [ofSource_listing, List.map_map]
        exact List.map_congr_left hdecode
    _ = (program.zipIdx.map Prod.fst).map fun instruction => .ok (.op instruction) := by
        rw [List.map_map]
        rfl
    _ = (program.map Command.op).map .ok := by
        rw [List.zipIdx_map_fst, List.map_map]
        rfl

namespace Command

/-- **A listing is read as its instructions:** no line of it opens a block. -/
theorem read_listing (h : ∀ instruction ∈ program, instruction.IsWritable) :
    read (Line.ofSource (program.map Instruction.text)) = .ok (program.map op) := by
  have hcommands := map_decode_listing h
  refine read_eq_ok_iff.2 ⟨hcommands, fun place length hopens => ?_⟩
  obtain ⟨line, count, size, hline, hdecode, -⟩ := hopens
  have hmem : .ok (loop count size)
      ∈ (Line.ofSource (program.map Instruction.text)).map Line.decode :=
    hdecode ▸ List.mem_map_of_mem (List.mem_of_getElem? hline)
  rw [hcommands] at hmem
  simp at hmem

/-- Instructions are written one after the other as long as there is room. -/
theorem unrollOnto_map_op {index depth : Nat} {written : Array Instruction}
    (hroom : written.size + program.length ≤ limits.length) :
    unrollOnto limits index depth (program.map op) written
      = (.ok (), written ++ program.toArray) := by
  induction program generalizing index written with
  | nil => simp [unrollOnto]
  | cons instruction rest ih =>
    rw [List.length_cons] at hroom
    rw [List.map_cons, unrollOnto_op_iff]
    refine ⟨by omega, ?_⟩
    rw [ih (by rw [Array.size_push]; omega)]
    simp

/-- Instructions alone are unrolled to themselves. -/
theorem unroll_map_op (hroom : program.length ≤ limits.length) :
    unroll limits (program.map op) = .ok program.toArray := by
  rw [unroll_eq_ok_iff, unrollOnto_map_op (by simpa using hroom), Array.empty_append]

/-- **Every instruction of an unrolled program is a command of the program.** -/
theorem op_mem_of_mem_unrolled {instruction : Instruction} (h : instruction ∈ unrolled commands) :
    op instruction ∈ commands := by
  induction commands using unrolled.induct with
  | case1 => simp [unrolled] at h
  | case2 first rest ih =>
    rw [unrolled, List.mem_cons] at h
    rcases h with rfl | h
    · exact List.mem_cons_self
    · exact List.mem_cons_of_mem _ (ih h)
  | case3 count length rest ihbody ihrest =>
    rw [unrolled, List.mem_append, List.mem_flatten] at h
    rcases h with ⟨body, hbody, h⟩ | h
    · rw [List.eq_of_mem_replicate hbody] at h
      exact List.mem_cons_of_mem _ (List.mem_of_mem_take (ihbody h))
    · exact List.mem_cons_of_mem _ (List.mem_of_mem_drop (ihrest h))

/-- The commands of a program that was read can be written. -/
theorem isWritable_of_read {lines : List Line} (h : read lines = .ok commands)
    {instruction : Instruction} (hmem : op instruction ∈ commands) : instruction.IsWritable := by
  have hcommands := (read_eq_ok_iff.1 h).1
  have hok : Except.ok (op instruction) ∈ lines.map Line.decode := by
    rw [hcommands]
    exact List.mem_map_of_mem hmem
  obtain ⟨line, -, hdecode⟩ := List.mem_map.1 hok
  exact Instruction.isWritable_of_decode hdecode

end Command

theorem compile_eq_ok_iff {source : List String} {program : Array Instruction} :
    compile limits source = .ok program ↔ ∃ commands,
      Command.read (Line.ofSource source) = .ok commands ∧
        Command.unroll limits commands = .ok program := by
  rw [compile]
  cases Command.read (Line.ofSource source) with
  | error rejection => simp
  | ok commands => cases hunroll : Command.unroll limits commands <;> simp [hunroll]

/-- Every instruction of a compiled program can be written. -/
theorem isWritable_of_compile {source : List String} {limits : Limits}
    {program : Array Instruction} (h : compile limits source = .ok program) :
    ∀ instruction ∈ program, instruction.IsWritable := by
  intro instruction hmem
  obtain ⟨commands, hread, hunroll⟩ := compile_eq_ok_iff.1 h
  have hprogram : program.toList = Command.unrolled commands :=
    Command.toList_unrollOnto (Command.unroll_eq_ok_iff.1 hunroll)
  exact Command.isWritable_of_read hread (Command.op_mem_of_mem_unrolled (hprogram ▸ hmem.val))

/-- **A compiled program reads back from its listing,** under the limits under which it was
compiled. -/
theorem compile_listing {source : List String} {limits : Limits} {program : Array Instruction}
    (h : compile limits source = .ok program) :
    compile limits (program.toList.map Instruction.text) = .ok program := by
  obtain ⟨commands, hread, hunroll⟩ := compile_eq_ok_iff.1 h
  have hwritten := Command.unroll_eq_ok_iff.1 hunroll
  have hprogram : program.toList = Command.unrolled commands := Command.toList_unrollOnto hwritten
  have hwritable : ∀ instruction ∈ program.toList, instruction.IsWritable := fun instruction hmem =>
    Command.isWritable_of_read hread (Command.op_mem_of_mem_unrolled (hprogram ▸ hmem))
  have hroom : program.toList.length ≤ limits.length :=
    Command.size_le_of_unrollOnto (Nat.zero_le _) hwritten
  refine compile_eq_ok_iff.2 ⟨_, Command.read_listing hwritable, ?_⟩
  rw [Command.unroll_map_op hroom, Array.toArray_toList]

/-- Optional parameters, a mask and a parity that wrap, blocks, and a limit that is used up. -/
theorem compile_listing_wrapped :
    let source := ["# lines", " for 2 2", "redirect 17 003 18446744073709551619", "nop", "nop 255",
      "\tpcondition 1000000000000000000000009 0 1  "]
    let program : Array Instruction := #[.redirect ⟨1, by decide, by decide⟩ 3 (some 3), .nop none,
      .redirect ⟨1, by decide, by decide⟩ 3 (some 3), .nop none, .nop (some 255),
      .pcondition ⟨9, by decide, by decide⟩ 0 1]
    compile ⟨1, 6⟩ source = .ok program ∧
      compile ⟨1, 6⟩ ["redirect 1 3 3", "nop", "redirect 1 3 3", "nop", "nop 255",
        "pcondition 9 0 1"] = .ok program := by
  intro source program
  have h : compile ⟨1, 6⟩ source = .ok program := by decide +kernel
  exact ⟨h, compile_listing h⟩

end Reverb
