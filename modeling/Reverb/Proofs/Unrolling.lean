import Reverb.Program.Unrolling

/-!
# Proofs/Unrolling — the writer with limits writes the unrolled program

`Command.unrollOnto` copies what it has just written, `Command.unrolled` speaks of lists, and
`Command.expand` of places among the command lines.  Where the writer succeeds the three agree
(`toList_unrollOnto`, `expand_eq_unrolled`), and limits have no say in what it writes
(`unrollOnto_of_le`).
-/

namespace Reverb

namespace Command

variable {limits : Limits} {commands block rest : List Command} {index depth : Nat}
variable {count length : UInt8} {written result : Array Instruction}

/-! ## Writing a stretch several times -/

theorem toList_appendTimes (stretch : Array Instruction) (n : Nat) (written : Array Instruction) :
    (appendTimes stretch n written).toList
      = written.toList ++ (List.replicate n stretch.toList).flatten := by
  induction n generalizing written with
  | zero => simp [appendTimes]
  | succ n ih =>
    rw [appendTimes, ih, Array.toList_append, List.append_assoc, List.replicate_succ,
      List.flatten_cons]

/-- **What stood behind `start` stands there `count` times.** -/
theorem toList_repeatFrom {body : List Instruction}
    (h : result.toList = written.toList ++ body) (count : Nat) :
    (repeatFrom written.size count result).toList
      = written.toList ++ (List.replicate count body).flatten := by
  rw [repeatFrom]
  cases count with
  | zero =>
    rw [if_pos rfl, Array.take_eq_extract, Array.toList_extract, h]
    simp
  | succ n =>
    have hstretch : (result.extract written.size result.size).toList = body := by
      rw [Array.toList_extract, h, ← result.length_toList, h]
      simp
    rw [if_neg (Nat.succ_ne_zero n), toList_appendTimes, hstretch, h, List.append_assoc,
      Nat.add_sub_cancel, List.replicate_succ, List.flatten_cons]

/-! ## When the writer succeeds -/

theorem unrollOnto_nil_iff :
    unrollOnto limits index depth [] written = (.ok (), result) ↔ result = written := by
  rw [unrollOnto, Prod.mk.injEq, and_iff_right rfl, eq_comm]

theorem unrollOnto_op_iff {instruction : Instruction} :
    unrollOnto limits index depth (op instruction :: rest) written = (.ok (), result) ↔
      written.size < limits.length ∧
        unrollOnto limits (index + 1) depth rest (written.push instruction) = (.ok (), result) := by
  rw [unrollOnto]
  split
  · next hroom => rw [and_iff_right hroom]
  · next hroom => simp [hroom]

theorem unrollOnto_loop_iff :
    unrollOnto limits index depth (loop count length :: rest) written = (.ok (), result) ↔
      depth < limits.depth ∧ ∃ middle,
        unrollOnto limits (index + 1) (depth + 1) (rest.take length.toNat) written
          = (.ok (), middle) ∧
        written.size + (middle.size - written.size) * count.toNat ≤ limits.length ∧
        unrollOnto limits (index + 1 + length.toNat) depth (rest.drop length.toNat)
          (repeatFrom written.size count.toNat middle) = (.ok (), result) := by
  rw [unrollOnto]
  by_cases hdepth : depth < limits.depth
  · rcases hbody : unrollOnto limits (index + 1) (depth + 1) (rest.take length.toNat) written with
      ⟨error | ⟨⟨⟩⟩, middle⟩
    · simp [hdepth]
    · by_cases hroom : written.size + (middle.size - written.size) * count.toNat ≤ limits.length
      · simp [hdepth, hroom]
      · simp [hdepth, hroom]
  · simp [hdepth]

/-- **The writer writes the unrolled block** behind what is written. -/
theorem toList_unrollOnto
    (h : unrollOnto limits index depth block written = (.ok (), result)) :
    result.toList = written.toList ++ unrolled block := by
  induction block using unrolled.induct generalizing index depth written result with
  | case1 => rw [unrollOnto_nil_iff.1 h, unrolled, List.append_nil]
  | case2 instruction rest ih =>
    rw [ih (unrollOnto_op_iff.1 h).2, unrolled, Array.toList_push, List.append_assoc,
      List.singleton_append]
  | case3 count length rest ihbody ihrest =>
    obtain ⟨-, middle, hbody, -, hrest⟩ := unrollOnto_loop_iff.1 h
    rw [ihrest hrest, toList_repeatFrom (ihbody hbody), unrolled, List.append_assoc]

/-- **Larger limits change nothing** about a success. -/
theorem unrollOnto_of_le {larger : Limits} (hdepth : limits.depth ≤ larger.depth)
    (hlength : limits.length ≤ larger.length)
    (h : unrollOnto limits index depth block written = (.ok (), result)) :
    unrollOnto larger index depth block written = (.ok (), result) := by
  induction block using unrolled.induct generalizing index depth written result with
  | case1 => exact unrollOnto_nil_iff.2 (unrollOnto_nil_iff.1 h)
  | case2 instruction rest ih =>
    obtain ⟨hroom, hrest⟩ := unrollOnto_op_iff.1 h
    exact unrollOnto_op_iff.2 ⟨Nat.lt_of_lt_of_le hroom hlength, ih hrest⟩
  | case3 count length rest ihbody ihrest =>
    obtain ⟨hnested, middle, hbody, hroom, hrest⟩ := unrollOnto_loop_iff.1 h
    exact unrollOnto_loop_iff.2 ⟨Nat.lt_of_lt_of_le hnested hdepth, middle, ihbody hbody,
      Nat.le_trans hroom hlength, ihrest hrest⟩

theorem unroll_eq_ok_iff : unroll limits commands = .ok result ↔
    unrollOnto limits 0 0 commands #[] = (.ok (), result) := by
  rw [unroll]
  split
  · next hwritten => simp [hwritten]
  · next hwritten => simp [hwritten]

/-! ## The same by places -/

/-- **The expansion of a stretch of commands,** from the place `start` up to `stop`: an instruction
stands for itself, and a block head for the expansion of its body, `count` times.  The body ends
with the stretch at the latest, and what follows it goes on there. -/
def expand (commands : List Command) (start stop : Nat) : List Instruction :=
  if start < stop then
    match commands[start]? with
    | some (op instruction) => instruction :: expand commands (start + 1) stop
    | some (loop count length) =>
      let bodyStop := min (start + 1 + length.toNat) stop
      (List.replicate count.toNat (expand commands (start + 1) bodyStop)).flatten
        ++ expand commands bodyStop stop
    | none => []
  else []
termination_by stop - start

/-- A place of a stretch is its first command and what follows it. -/
theorem drop_take_of_getElem? {command : Command} {start stop : Nat} (hlt : start < stop)
    (h : commands[start]? = some command) :
    (commands.take stop).drop start = command :: (commands.take stop).drop (start + 1) := by
  have hget : (commands.take stop)[start]? = some command := by
    rw [List.getElem?_take_of_lt hlt, h]
  obtain ⟨hbound, heq⟩ := List.getElem?_eq_some_iff.1 hget
  rw [List.drop_eq_getElem_cons hbound, heq]

/-- What a head at a place of a stretch owns there is the stretch up to where its body is cut. -/
theorem take_behind_head (commands : List Command) (start length stop : Nat) :
    ((commands.take stop).drop (start + 1)).take length
      = (commands.take (min (start + 1 + length) stop)).drop (start + 1) := by
  rw [List.take_drop, List.take_take]

/-- Behind what a head owns of a stretch the stretch goes on where its body is cut. -/
theorem drop_behind_head (commands : List Command) (start length stop : Nat) :
    ((commands.take stop).drop (start + 1)).drop length
      = (commands.take stop).drop (min (start + 1 + length) stop) := by
  rw [List.drop_drop]
  rcases Nat.le_total (start + 1 + length) stop with hle | hcut
  · rw [Nat.min_eq_left hle]
  · -- the body is cut, and nothing follows it
    have hlength : (commands.take stop).length ≤ stop := List.length_take_le _ _
    rw [Nat.min_eq_right hcut, List.drop_eq_nil_of_le hlength, List.drop_eq_nil_of_le (by omega)]

/-- **Counting places or taking lists apart comes to the same.** -/
theorem expand_eq_unrolled (commands : List Command) (start stop : Nat) :
    expand commands start stop = unrolled ((commands.take stop).drop start) := by
  induction start, stop using expand.induct commands with
  | case1 start stop hlt instruction hcommand ih =>
    rw [expand, if_pos hlt, hcommand, drop_take_of_getElem? hlt hcommand, unrolled]
    exact congrArg _ ih
  | case2 start stop hlt count length hcommand bodyStop ihbody ihrest =>
    rw [expand, if_pos hlt, hcommand, drop_take_of_getElem? hlt hcommand, unrolled,
      take_behind_head, drop_behind_head, ← ihbody, ← ihrest]
  | case3 start stop hlt hcommand =>
    have hend : commands.length ≤ start := List.getElem?_eq_none_iff.1 hcommand
    rw [expand, if_pos hlt, hcommand, List.drop_eq_nil_of_le, unrolled]
    exact Nat.le_trans (List.length_take_le' _ _) hend
  | case4 start stop hlt =>
    rw [expand, if_neg hlt, List.drop_eq_nil_of_le, unrolled]
    exact Nat.le_trans (List.length_take_le _ _) (Nat.not_lt.1 hlt)

/-- **The writer with limits gives the expansion of the whole program,** and so it does under any
larger limits. -/
theorem unroll_eq_expand {program : Array Instruction} (h : unroll limits commands = .ok program) :
    program.toList = expand commands 0 commands.length ∧
      ∀ larger : Limits, limits.depth ≤ larger.depth → limits.length ≤ larger.length →
        unroll larger commands = .ok program := by
  have hwritten := unroll_eq_ok_iff.1 h
  constructor
  · rw [toList_unrollOnto hwritten, expand_eq_unrolled, List.take_length, List.drop_zero,
      List.nil_append]
  · intro larger hdepth hlength
    exact unroll_eq_ok_iff.2 (unrollOnto_of_le hdepth hlength hwritten)

/-- Blocks in a block: one without a turn, and one that is cut. -/
theorem unroll_eq_expand_nested :
    let commands : List Command := [.loop 2 9, .op .print, .loop 0 1, .op .exit, .loop 3 200,
      .op (.nop none)]
    let program : Array Instruction := #[.print, .nop none, .nop none, .nop none, .print,
      .nop none, .nop none, .nop none]
    unroll ⟨2, 8⟩ commands = .ok program ∧
      program.toList = expand commands 0 6 ∧ unroll ⟨16, 1048576⟩ commands = .ok program := by
  intro commands program
  have h : unroll ⟨2, 8⟩ commands = .ok program := by
    simp [commands, program, unroll, unrollOnto, repeatFrom, appendTimes]
  exact ⟨h, (unroll_eq_expand h).1, (unroll_eq_expand h).2 _ (by decide) (by decide)⟩

end Command

end Reverb
