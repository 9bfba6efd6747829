import Mathlib.Data.List.Infix
import Mathlib.Order.Bounds.Defs
import Reverb.Proofs.Unrolling

/-!
# Proofs/Limits — the limits of an unrolling are exact

The writer checks its limits while it writes: the depth when it meets a block head, the length
before each instruction and after each body.  `nesting` says by places alone in how many bodies a
command stands.  The writer fails exactly if some head stands in too many bodies or the whole
expansion is too long, although it has only seen a part of it (`unroll_limits_exact`): with
every body written at least once, what is written so far can only grow.
-/

namespace Reverb

namespace Command

/-! ## Bodies by places -/

/-- The command at a place is a block head. -/
def IsHead (commands : List Command) (place : Nat) : Prop :=
  ∃ count length, commands[place]? = some (loop count length)

/-- **A place lies in the body of a block head:** it is among the commands that the head owns, and
in every body in which the head itself lies, since bodies are cut at the end of those around them. -/
def isInBody (commands : List Command) (head place : Nat) : Bool :=
  match commands[head]? with
  | some (loop _ length) =>
    head < place && place ≤ head + length.toNat &&
      (List.range head).attach.all fun outer =>
        !isInBody commands outer head || isInBody commands outer place
  | _ => false
termination_by head
decreasing_by all_goals exact List.mem_range.1 outer.2

/-- **The number of bodies in which a place lies.** -/
def nesting (commands : List Command) (place : Nat) : Nat :=
  (List.range place).countP fun head => isInBody commands head place

theorem isInBody_iff {commands : List Command} {head place : Nat} {count length : UInt8}
    (h : commands[head]? = some (loop count length)) :
    isInBody commands head place = true ↔ head < place ∧ place ≤ head + length.toNat ∧
      ∀ outer < head, isInBody commands outer head = true →
        isInBody commands outer place = true := by
  have hcut : ∀ a b : Bool, a = false ∨ b = true ↔ (a = true → b = true) := by decide
  rw [isInBody, h]
  simp [and_assoc, hcut]

theorem isInBody_of_op {commands : List Command} {head : Nat} {instruction : Instruction}
    (h : commands[head]? = some (op instruction)) (place : Nat) :
    isInBody commands head place = false := by
  rw [isInBody, h]

/-- What lies in a body ends with it. -/
theorem isInBody_eq_false_of_behind {commands : List Command} {outer head place : Nat}
    (hhead : isInBody commands outer head = true) (hplace : isInBody commands outer place = false)
    (hlt : outer < head) : isInBody commands head place = false := by
  rw [← Bool.not_eq_true] at hplace ⊢
  intro hinner
  cases hcommand : commands[head]? with
  | none => simp [isInBody, hcommand] at hinner
  | some command =>
    cases command with
    | op instruction => simp [isInBody_of_op hcommand] at hinner
    | loop count length => exact hplace (((isInBody_iff hcommand).1 hinner).2.2 outer hlt hhead)

/-! ## Blocks -/

variable {limits : Limits} {commands block rest : List Command} {index depth place : Nat}
variable {count length : UInt8} {written result : Array Instruction}

/-- **A block of a program:** commands that stand there from a place on, all of them in the same of
the bodies that begin before that place. -/
structure IsBlock (commands : List Command) (index : Nat) (around : List Nat)
    (block : List Command) : Prop where
  stands : block <+: commands.drop index
  around_eq : ∀ place, index ≤ place → place < index + block.length →
    ((List.range index).filter fun head => isInBody commands head place) = around

theorem isBlock_program (commands : List Command) : IsBlock commands 0 [] commands :=
  ⟨List.prefix_refl _, fun _ _ _ => rfl⟩

namespace IsBlock

variable {around : List Nat} {command : Command}

/-- The bodies around a block are those in which any of its places lies. -/
theorem mem_around_iff (h : IsBlock commands index around block) {head : Nat}
    (hle : index ≤ place) (hlt : place < index + block.length) :
    head ∈ around ↔ head < index ∧ isInBody commands head place = true := by
  rw [← h.around_eq place hle hlt, List.mem_filter, List.mem_range]

theorem getElem? (h : IsBlock commands index around (command :: rest)) :
    commands[index]? = some command := by
  obtain ⟨tail, htail⟩ := h.stands
  rw [← List.head?_drop, ← htail]
  rfl

theorem nesting_eq (h : IsBlock commands index around (command :: rest)) :
    nesting commands index = around.length := by
  rw [nesting, List.countP_eq_length_filter, h.around_eq index (Nat.le_refl _) (by simp)]

theorem rest_stands (h : IsBlock commands index around (command :: rest)) :
    rest <+: commands.drop (index + 1) := by
  have hdrop := h.stands.drop 1
  rwa [List.drop_drop, List.drop_one, List.tail_cons] at hdrop

/-- Behind an instruction the block goes on. -/
theorem behind_op {instruction : Instruction}
    (h : IsBlock commands index around (op instruction :: rest)) :
    IsBlock commands (index + 1) around rest where
  stands := h.rest_stands
  around_eq place hle hlt := by
    rw [List.range_succ, List.filter_append, h.around_eq place (by omega) (by simp; omega)]
    simp [isInBody_of_op h.getElem?]

/-- What a head owns of its block lies in its body. -/
theorem isInBody_head (h : IsBlock commands index around (loop count length :: rest))
    (hle : index + 1 ≤ place) (hlt : place < index + 1 + (rest.take length.toNat).length) :
    isInBody commands index place = true := by
  rw [List.length_take] at hlt
  refine (isInBody_iff h.getElem?).2 ⟨hle, by omega, fun outer houter hin => ?_⟩
  have hmem := (h.mem_around_iff (Nat.le_refl _) (by simp)).2 ⟨houter, hin⟩
  exact ((h.mem_around_iff (Nat.le_of_succ_le hle) (by simp; omega)).1 hmem).2

/-- **The body of a head is a block,** inside one body more. -/
theorem body (h : IsBlock commands index around (loop count length :: rest)) :
    IsBlock commands (index + 1) (around ++ [index]) (rest.take length.toNat) where
  stands := (List.take_prefix _ _).trans h.rest_stands
  around_eq place hle hlt := by
    have hbody := h.isInBody_head hle hlt
    rw [List.length_take] at hlt
    rw [List.range_succ, List.filter_append, h.around_eq place (by omega) (by simp; omega)]
    simp [hbody]

/-- Behind the body of a head the block goes on. -/
theorem behind_body (h : IsBlock commands index around (loop count length :: rest)) :
    IsBlock commands (index + 1 + length.toNat) around (rest.drop length.toNat) where
  stands := by
    have hdrop := h.rest_stands.drop length.toNat
    rwa [List.drop_drop] at hdrop
  around_eq place hle hlt := by
    rw [List.length_drop] at hlt
    have hhead : isInBody commands index place = false := by
      rw [← Bool.not_eq_true, isInBody_iff h.getElem?]
      omega
    -- no head in the body reaches behind the body
    have hinner : ((List.range' (index + 1) length.toNat).filter
        fun head => isInBody commands head place) = [] := by
      refine List.filter_eq_nil_iff.2 fun inner hinner => ?_
      rw [List.mem_range'_1] at hinner
      have hin := h.isInBody_head hinner.1 (by rw [List.length_take]; omega)
      rw [Bool.not_eq_true]
      exact isInBody_eq_false_of_behind hin hhead hinner.1
    have hrange : List.range (index + 1 + length.toNat)
        = List.range (index + 1) ++ List.range' (index + 1) length.toNat := by
      rw [List.range_eq_range', List.range_eq_range', ← List.range'_append_1, Nat.zero_add]
    rw [hrange, List.filter_append, hinner, List.append_nil, List.range_succ, List.filter_append,
      h.around_eq place (by omega) (by simp; omega)]
    simp [hhead]

end IsBlock

/-! ## What an outcome of the writer says about a block -/

/-- No head of a stretch lies in too many bodies. -/
def IsShallow (limits : Limits) (commands : List Command) (start stop : Nat) : Prop :=
  ∀ place, start ≤ place → place < stop → IsHead commands place →
    nesting commands place < limits.depth

/-- **What an outcome says about a block:** a success, that none of its heads lies too deep; an
error of depth, that a head does and none before it; an error of length, that the block does not fit
behind the `size` instructions that were written before. -/
def Explains (limits : Limits) (commands : List Command) (index : Nat) (block : List Command)
    (size : Nat) : Except LimitError Unit → Prop
  | .ok () => IsShallow limits commands index (index + block.length)
  | .error (.nestingTooDeep place limit) =>
    limit = limits.depth ∧ index ≤ place ∧ place < index + block.length ∧
      IsHead commands place ∧ limits.depth ≤ nesting commands place ∧
      IsShallow limits commands index place
  | .error (.tooLong limit) =>
    limit = limits.length ∧ limits.length < size + (unrolled block).length

namespace Explains

variable {around : List Nat} {size : Nat} {outcome : Except LimitError Unit} {error : LimitError}

theorem behind_op {instruction : Instruction}
    (hb : IsBlock commands index around (op instruction :: rest))
    (h : Explains limits commands (index + 1) rest (size + 1) outcome) :
    Explains limits commands index (op instruction :: rest) size outcome := by
  have hop : ¬IsHead commands index := by
    rintro ⟨count, length, hhead⟩
    rw [hb.getElem?] at hhead
    cases hhead
  have hshallow {stop : Nat} (hrest : IsShallow limits commands (index + 1) stop) :
      IsShallow limits commands index stop := fun place hle hlt hhead => by
    refine hrest place (Nat.lt_of_le_of_ne hle fun heq => hop (heq ▸ hhead)) hlt hhead
  match outcome, h with
  | .ok (), h =>
    rw [Explains, List.length_cons, Nat.add_comm rest.length, ← Nat.add_assoc]
    exact hshallow h
  | .error (.nestingTooDeep place limit), ⟨hlimit, hle, hlt, hhead, hdeep, hrest⟩ =>
    exact ⟨hlimit, by omega, by simp; omega, hhead, hdeep, hshallow hrest⟩
  | .error (.tooLong limit), ⟨hlimit, hlong⟩ =>
    exact ⟨hlimit, by rw [unrolled, List.length_cons]; omega⟩

theorem length_unrolled_loop (count length : UInt8) (rest : List Command) :
    (unrolled (loop count length :: rest)).length
      = count.toNat * (unrolled (rest.take length.toNat)).length
        + (unrolled (rest.drop length.toNat)).length := by
  rw [unrolled, List.length_append, List.length_flatten, List.map_replicate, List.sum_replicate_nat]

/-- An error in a body is an error of the block, since the body is written at least once. -/
theorem of_body (hb : IsBlock commands index around (loop count length :: rest))
    (hcount : 0 < count.toNat) (hdepth : around.length < limits.depth)
    (h : Explains limits commands (index + 1) (rest.take length.toNat) size (.error error)) :
    Explains limits commands index (loop count length :: rest) size (.error error) := by
  match error, h with
  | .nestingTooDeep place limit, ⟨hlimit, hle, hlt, hhead, hdeep, hbody⟩ =>
    rw [List.length_take] at hlt
    refine ⟨hlimit, by omega, by simp; omega, hhead, hdeep, fun earlier hle' hlt' hhead' => ?_⟩
    rcases Nat.eq_or_lt_of_le hle' with rfl | hlt''
    · rwa [hb.nesting_eq]
    · exact hbody earlier hlt'' hlt' hhead'
  | .tooLong limit, ⟨hlimit, hlong⟩ =>
    have hturn := Nat.le_mul_of_pos_left (unrolled (rest.take length.toNat)).length hcount
    exact ⟨hlimit, by rw [length_unrolled_loop]; omega⟩

/-- An outcome behind a body is an outcome of the block. -/
theorem behind_body (hb : IsBlock commands index around (loop count length :: rest))
    (hdepth : around.length < limits.depth)
    (hbody : Explains limits commands (index + 1) (rest.take length.toNat) size (.ok ()))
    (h : Explains limits commands (index + 1 + length.toNat) (rest.drop length.toNat)
      (size + count.toNat * (unrolled (rest.take length.toNat)).length) outcome) :
    Explains limits commands index (loop count length :: rest) size outcome := by
  have hshallow {stop : Nat} (hstop : stop ≤ index + 1 + rest.length)
      (hrest : IsShallow limits commands (index + 1 + length.toNat) stop) :
      IsShallow limits commands index stop := fun place hle hlt hhead => by
    rcases Nat.eq_or_lt_of_le hle with rfl | hgt
    · rwa [hb.nesting_eq]
    by_cases hin : place < index + 1 + length.toNat
    · exact hbody place hgt (by rw [List.length_take]; omega) hhead
    · exact hrest place (Nat.not_lt.1 hin) hlt hhead
  match outcome, h with
  | .ok (), h =>
    rw [Explains, List.length_cons]
    refine hshallow (by omega) fun place hle hlt hhead => ?_
    exact h place hle (by rw [List.length_drop]; omega) hhead
  | .error (.nestingTooDeep place limit), ⟨hlimit, hle, hlt, hhead, hdeep, hrest⟩ =>
    rw [List.length_drop] at hlt
    exact ⟨hlimit, by omega, by simp; omega, hhead, hdeep, hshallow (by omega) hrest⟩
  | .error (.tooLong limit), ⟨hlimit, hlong⟩ =>
    exact ⟨hlimit, by rw [length_unrolled_loop]; omega⟩

end Explains

/-- The size of what stands after a block was written. -/
theorem size_of_unrollOnto (h : unrollOnto limits index depth block written = (.ok (), result)) :
    result.size = written.size + (unrolled block).length := by
  rw [← Array.length_toList, toList_unrollOnto h, List.length_append, Array.length_toList]

/-- The size of what stands after a body was written `count` times. -/
theorem size_repeatFrom {body : List Instruction}
    (h : result.toList = written.toList ++ body) (count : Nat) :
    (repeatFrom written.size count result).size = written.size + count * body.length := by
  rw [← Array.length_toList, toList_repeatFrom h, List.length_append, List.length_flatten,
    List.map_replicate, List.sum_replicate_nat, Array.length_toList]

/-- **Every outcome of the writer explains itself.** -/
theorem explains_unrollOnto (limits : Limits) {around : List Nat}
    (hb : IsBlock commands index around block)
    (hcounts : ∀ count length, loop count length ∈ block → 0 < count.toNat)
    (written : Array Instruction) :
    Explains limits commands index block written.size
      (unrollOnto limits index around.length block written).1 := by
  induction block using unrolled.induct generalizing index around written with
  | case1 =>
    rw [unrollOnto]
    exact fun place hle hlt => absurd hlt (by simpa using hle)
  | case2 instruction rest ih =>
    rw [unrollOnto]
    split
    · have hrest := ih hb.behind_op
        (fun count length hmem => hcounts count length (List.mem_cons_of_mem _ hmem))
        (written.push instruction)
      rw [Array.size_push] at hrest
      exact hrest.behind_op hb
    · next hfull => exact ⟨rfl, by rw [unrolled, List.length_cons]; omega⟩
  | case3 count length rest ihbody ihrest =>
    have hcount := hcounts count length List.mem_cons_self
    have hbody := ihbody hb.body (fun count length hmem =>
      hcounts count length (List.mem_cons_of_mem _ (List.mem_of_mem_take hmem))) written
    rw [List.length_append, List.length_singleton] at hbody
    rw [unrollOnto]
    by_cases hdepth : around.length < limits.depth
    · rcases hmiddle : unrollOnto limits (index + 1) (around.length + 1)
        (rest.take length.toNat) written with ⟨error | ⟨⟨⟩⟩, middle⟩
      · rw [hmiddle] at hbody
        simpa [hdepth] using Explains.of_body hb hcount hdepth hbody
      · rw [hmiddle] at hbody
        have hsize := size_of_unrollOnto hmiddle
        have hrest := ihrest hb.behind_body (fun count length hmem =>
          hcounts count length (List.mem_cons_of_mem _ (List.mem_of_mem_drop hmem)))
          (repeatFrom written.size count.toNat middle)
        rw [size_repeatFrom (toList_unrollOnto hmiddle)] at hrest
        by_cases hroom : written.size + (middle.size - written.size) * count.toNat ≤ limits.length
        · simpa [hdepth, hroom] using Explains.behind_body hb hdepth hbody hrest
        · have hlong : Explains limits commands index (loop count length :: rest) written.size
              (.error (.tooLong limits.length)) := by
            refine ⟨rfl, ?_⟩
            rw [Explains.length_unrolled_loop]
            rw [hsize, Nat.add_sub_cancel_left, Nat.mul_comm] at hroom
            omega
          simpa [hdepth, hroom] using hlong
    · rw [if_neg hdepth]
      refine ⟨rfl, Nat.le_refl _, by simp, ⟨count, length, hb.getElem?⟩, ?_, fun place hle hlt => ?_⟩
      · rw [hb.nesting_eq]
        omega
      · omega

/-- The writer keeps to its limit of length. -/
theorem size_le_of_unrollOnto (hsize : written.size ≤ limits.length)
    (h : unrollOnto limits index depth block written = (.ok (), result)) :
    result.size ≤ limits.length := by
  induction block using unrolled.induct generalizing index depth written result with
  | case1 => rwa [unrollOnto_nil_iff.1 h]
  | case2 instruction rest ih =>
    obtain ⟨hroom, hrest⟩ := unrollOnto_op_iff.1 h
    exact ih (by rwa [Array.size_push]) hrest
  | case3 count length rest ihbody ihrest =>
    obtain ⟨-, middle, hbody, hroom, hrest⟩ := unrollOnto_loop_iff.1 h
    refine ihrest ?_ hrest
    rwa [size_of_unrollOnto hbody, Nat.add_sub_cancel_left, Nat.mul_comm,
      ← size_repeatFrom (toList_unrollOnto hbody)] at hroom

/-! ## The limits of a whole program -/

theorem unroll_eq_error_iff {error : LimitError} : unroll limits commands = .error error ↔
    (unrollOnto limits 0 0 commands #[]).1 = .error error := by
  rw [unroll]
  split
  · next hwritten => simp [hwritten]
  · next hwritten => simp [hwritten]

theorem expand_program (commands : List Command) :
    expand commands 0 commands.length = unrolled commands := by
  rw [expand_eq_unrolled, List.take_length, List.drop_zero]

/-- The outcome for a whole program explains itself. -/
theorem explains_unroll (limits : Limits)
    (hcounts : ∀ count length, loop count length ∈ commands → 1 ≤ count) :
    Explains limits commands 0 commands 0 (unrollOnto limits 0 0 commands #[]).1 :=
  explains_unrollOnto limits (isBlock_program commands)
    (fun count length hmem => UInt8.le_iff_toNat_le.1 (hcounts count length hmem)) #[]

/-- An unrolled program is within the limits. -/
theorem within_limits_of_unroll {program : Array Instruction}
    (hcounts : ∀ count length, loop count length ∈ commands → 1 ≤ count)
    (h : unroll limits commands = .ok program) :
    (∀ place, IsHead commands place → nesting commands place < limits.depth) ∧
      (unrolled commands).length ≤ limits.length := by
  have hwritten := unroll_eq_ok_iff.1 h
  have hshallow := explains_unroll limits hcounts
  rw [hwritten] at hshallow
  refine ⟨fun place hhead => ?_, ?_⟩
  · obtain ⟨count, length, hcommand⟩ := id hhead
    obtain ⟨hlt, -⟩ := List.getElem?_eq_some_iff.1 hcommand
    exact hshallow place (Nat.zero_le _) (by omega) hhead
  · have hsize := size_le_of_unrollOnto (Nat.zero_le _) hwritten
    rwa [size_of_unrollOnto hwritten, Array.size_empty, Nat.zero_add] at hsize

/-- The head that an error of depth names is the first that lies too deep. -/
theorem isLeast_of_nestingTooDeep {limit : Nat}
    (hcounts : ∀ count length, loop count length ∈ commands → 1 ≤ count)
    (h : unroll limits commands = .error (.nestingTooDeep place limit)) :
    limit = limits.depth ∧
      IsLeast {head | IsHead commands head ∧ limits.depth ≤ nesting commands head} place := by
  have hexplains := explains_unroll limits hcounts
  rw [unroll_eq_error_iff.1 h] at hexplains
  obtain ⟨hlimit, -, -, hhead, hdeep, hfirst⟩ := hexplains
  refine ⟨hlimit, ⟨hhead, hdeep⟩, fun other hother => ?_⟩
  by_contra hlt
  have hshallow := hfirst other (Nat.zero_le _) (Nat.not_le.1 hlt) hother.1
  exact absurd hother.2 (Nat.not_le.2 hshallow)

/-- A program of which the writer finds a part too long is too long. -/
theorem length_lt_of_tooLong {limit : Nat}
    (hcounts : ∀ count length, loop count length ∈ commands → 1 ≤ count)
    (h : unroll limits commands = .error (.tooLong limit)) :
    limit = limits.length ∧ limits.length < (unrolled commands).length := by
  have hexplains := explains_unroll limits hcounts
  rw [unroll_eq_error_iff.1 h] at hexplains
  obtain ⟨hlimit, hlong⟩ := hexplains
  exact ⟨hlimit, by rwa [Nat.zero_add] at hlong⟩

/-- **The limits are exact.**  Where every block is written at least once, unrolling succeeds
exactly if each block head lies in fewer bodies than the limit allows and the whole expansion is
within the limit of length.  An error of depth names the first head that lies too deep; an error of
length means that the whole expansion is too long. -/
theorem unroll_limits_exact (limits : Limits) (commands : List Command)
    (hcounts : ∀ count length, loop count length ∈ commands → 1 ≤ count) :
    ((∃ program, unroll limits commands = .ok program) ↔
      (∀ place, IsHead commands place → nesting commands place < limits.depth) ∧
        (expand commands 0 commands.length).length ≤ limits.length) ∧
    (∀ place limit, unroll limits commands = .error (.nestingTooDeep place limit) →
      limit = limits.depth ∧
        IsLeast {head | IsHead commands head ∧ limits.depth ≤ nesting commands head} place) ∧
    (∀ limit, unroll limits commands = .error (.tooLong limit) →
      limit = limits.length ∧
        limits.length < (expand commands 0 commands.length).length) := by
  rw [expand_program]
  refine ⟨⟨?_, ?_⟩, fun place limit => isLeast_of_nestingTooDeep hcounts,
    fun limit => length_lt_of_tooLong hcounts⟩
  · rintro ⟨program, hprogram⟩
    exact within_limits_of_unroll hcounts hprogram
  · rintro ⟨hshallow, hlength⟩
    -- neither error can arise
    cases hunroll : unroll limits commands with
    | ok program => exact ⟨program, rfl⟩
    | error error =>
      cases error with
      | nestingTooDeep place limit =>
        obtain ⟨-, ⟨hhead, hdeep⟩, -⟩ := isLeast_of_nestingTooDeep hcounts hunroll
        exact absurd (hshallow place hhead) (Nat.not_lt.2 hdeep)
      | tooLong limit =>
        have hlong := (length_lt_of_tooLong hcounts hunroll).2
        exact absurd hlength (Nat.not_le.2 hlong)

/-- Three heads, the last in a body that is cut: two of depth and eight of length are too little
by one each. -/
theorem unroll_limits_exact_cut :
    let commands : List Command := [.loop 2 9, .loop 3 2, .op .print, .loop 1 200, .op .exit]
    (∀ count length, loop count length ∈ commands → 1 ≤ count) ∧
      ((∀ place, IsHead commands place → nesting commands place < 3) ∧
        (expand commands 0 5).length ≤ 8) ∧
      IsLeast {head | IsHead commands head ∧ 2 ≤ nesting commands head} 3 ∧
      7 < (expand commands 0 5).length := by
  intro commands
  have hcounts : ∀ count length, loop count length ∈ commands → 1 ≤ count := by
    intro count length hmem
    simp only [commands, List.mem_cons, loop.injEq, reduceCtorEq, List.not_mem_nil, or_false,
      false_or] at hmem
    rcases hmem with ⟨rfl, -⟩ | ⟨rfl, -⟩ | ⟨rfl, -⟩ <;> decide
  have hfits : unroll ⟨3, 8⟩ commands = .ok #[.print, .print, .print, .exit, .print, .print, .print,
      .exit] := by
    simp [commands, unroll, unrollOnto, repeatFrom, appendTimes]
  have hdeep : unroll ⟨2, 8⟩ commands = .error (.nestingTooDeep 3 2) := by
    simp [commands, unroll, unrollOnto]
  have hlong : unroll ⟨3, 7⟩ commands = .error (.tooLong 7) := by
    simp [commands, unroll, unrollOnto, repeatFrom, appendTimes]
  refine ⟨hcounts, ?_, ?_, ?_⟩
  · exact (unroll_limits_exact ⟨3, 8⟩ commands hcounts).1.1 ⟨_, hfits⟩
  · exact ((unroll_limits_exact ⟨2, 8⟩ commands hcounts).2.1 3 2 hdeep).2
  · exact ((unroll_limits_exact ⟨3, 7⟩ commands hcounts).2.2 7 hlong).2

end Command

end Reverb
