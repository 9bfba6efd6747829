import Mathlib.Logic.Function.Iterate
import Reverb.Proofs.Blocks

/-!
# Proofs/Moments — the writer at every moment

`Command.unrollOnto` says what the writer leaves.  Here it is taken apart into moments: the calls
that wait for the body of a head are a list, and `Moment.next` does one thing at a time, which is to
look at a command, to come back from a body, or to copy a body once.  The moments lead to what the
writer leaves (`exists_momentAt_eq`), and what holds of each of them is kept by the step
(`IsInBounds.next`): the instructions that were there first stay in front, there are never more than
the limit of length allows, no more calls wait than the limit of depth allows, and the places looked
at go up (`unrollOnto_in_bounds`).
-/

namespace Reverb

namespace Command

/-! ## Moments -/

/-- A call of the writer: the line it comes to next, the end of its block, and the number of bodies
that the block stands in. -/
structure Call where
  line : Nat
  stop : Nat
  depth : Nat
  deriving DecidableEq

/-- A call that waits for a body.  It goes on behind it, and what is written from `start` on is to
stand there `count` times. -/
structure Waiting where
  call : Call
  start : Nat
  count : Nat
  deriving DecidableEq

/-- What the writer is at. -/
inductive Stage where
  /-- A call goes through its block. -/
  | reading (call : Call)
  /-- A stretch is to be copied some more times before the call goes on. -/
  | copying (call : Call) (stretch : Array Instruction) (times : Nat)
  /-- All calls are over. -/
  | stopped (outcome : Except LimitError Unit)
  /-- A call looked for a command behind the end of the program. -/
  | lost
  deriving DecidableEq

/-- **A moment of the writer:** what it is at, the calls that wait, the innermost first, and what is
written. -/
structure Moment where
  stage : Stage
  waiting : List Waiting
  written : Array Instruction
  deriving DecidableEq

namespace Moment

/-- The place of the command that the writer looks at, where it looks at one. -/
def place? (moment : Moment) : Option Nat :=
  match moment.stage with
  | .reading call => if call.line < call.stop then some call.line else none
  | _ => none

/-- An error ends all calls. -/
def failed (error : LimitError) (written : Array Instruction) : Moment :=
  ⟨.stopped (.error error), [], written⟩

/-- The call looks at the command at its line. -/
def look (limits : Limits) (commands : List Command) (call : Call) (waiting : List Waiting)
    (written : Array Instruction) : Moment :=
  match commands[call.line]? with
  | some (op instruction) =>
    if written.size < limits.length then
      ⟨.reading { call with line := call.line + 1 }, waiting, written.push instruction⟩
    else failed (.tooLong limits.length) written
  | some (loop count length) =>
    if call.depth < limits.depth then
      let behind := bodyStop true call.line length.toNat call.stop
      ⟨.reading ⟨call.line + 1, behind, call.depth + 1⟩,
        ⟨{ call with line := behind }, written.size, count.toNat⟩ :: waiting, written⟩
    else failed (.nestingTooDeep call.line limits.depth) written
  | none => ⟨.lost, waiting, written⟩

/-- The innermost call is at the end of its block, and the one that waits for it takes over. -/
def comeBack (limits : Limits) (written : Array Instruction) : List Waiting → Moment
  | [] => ⟨.stopped (.ok ()), [], written⟩
  | ⟨call, start, count⟩ :: waiting =>
    if start + (written.size - start) * count ≤ limits.length then
      if count = 0 then ⟨.reading call, waiting, written.take start⟩
      else ⟨.copying call (written.extract start written.size) (count - 1), waiting, written⟩
    else failed (.tooLong limits.length) written

/-- **The next moment.** -/
def next (limits : Limits) (commands : List Command) (moment : Moment) : Moment :=
  match moment.stage with
  | .reading call =>
    if call.line < call.stop then look limits commands call moment.waiting moment.written
    else comeBack limits moment.written moment.waiting
  | .copying call stretch (times + 1) =>
    ⟨.copying call stretch times, moment.waiting, moment.written ++ stretch⟩
  | .copying call _ 0 => ⟨.reading call, moment.waiting, moment.written⟩
  | .stopped _ | .lost => moment

end Moment

variable {limits : Limits} {commands : List Command} {start stop depth : Nat} {call : Call}
variable {waiting : List Waiting} {written : Array Instruction} {moment : Moment}

namespace Moment

/-- In its block a call looks at the command at its line. -/
theorem next_of_lt (hlt : call.line < call.stop) :
    next limits commands ⟨.reading call, waiting, written⟩
      = look limits commands call waiting written :=
  if_pos hlt

/-- At the end of its block a call is over. -/
theorem next_of_le (hle : call.stop ≤ call.line) :
    next limits commands ⟨.reading call, waiting, written⟩ = comeBack limits written waiting :=
  if_neg (Nat.not_lt.2 hle)

theorem look_op {instruction : Instruction}
    (hcommand : commands[call.line]? = some (op instruction)) :
    look limits commands call waiting written =
      if written.size < limits.length then
        ⟨.reading { call with line := call.line + 1 }, waiting, written.push instruction⟩
      else failed (.tooLong limits.length) written := by
  rw [look, hcommand]

theorem look_loop {count length : UInt8}
    (hcommand : commands[call.line]? = some (loop count length)) :
    look limits commands call waiting written =
      if call.depth < limits.depth then
        ⟨.reading ⟨call.line + 1, bodyStop true call.line length.toNat call.stop, call.depth + 1⟩,
          ⟨{ call with line := bodyStop true call.line length.toNat call.stop }, written.size,
            count.toNat⟩ :: waiting, written⟩
      else failed (.nestingTooDeep call.line limits.depth) written := by
  rw [look, hcommand]

end Moment

/-! ## The moments lead to what the writer leaves -/

/-- The one moment comes after the other. -/
def LeadsTo (limits : Limits) (commands : List Command) (earlier later : Moment) : Prop :=
  ∃ n, (Moment.next limits commands)^[n] earlier = later

namespace LeadsTo

variable {earlier middle later : Moment}

theorem refl (moment : Moment) : LeadsTo limits commands moment moment := ⟨0, rfl⟩

theorem trans (h : LeadsTo limits commands earlier middle)
    (h' : LeadsTo limits commands middle later) : LeadsTo limits commands earlier later := by
  obtain ⟨m, rfl⟩ := h
  obtain ⟨n, rfl⟩ := h'
  exact ⟨n + m, Function.iterate_add_apply _ n m earlier⟩

theorem of_next (h : earlier.next limits commands = later) :
    LeadsTo limits commands earlier later :=
  ⟨1, h⟩

theorem look (hlt : call.line < call.stop) :
    LeadsTo limits commands ⟨.reading call, waiting, written⟩
      (.look limits commands call waiting written) :=
  .of_next (Moment.next_of_lt hlt)

theorem comeBack (hle : call.stop ≤ call.line) :
    LeadsTo limits commands ⟨.reading call, waiting, written⟩
      (.comeBack limits written waiting) :=
  .of_next (Moment.next_of_le hle)

end LeadsTo

/-- The copies are written one after the other. -/
theorem leadsTo_of_copying (call : Call) (waiting : List Waiting) (stretch : Array Instruction)
    (times : Nat) (written : Array Instruction) :
    LeadsTo limits commands ⟨.copying call stretch times, waiting, written⟩
      ⟨.reading call, waiting, appendTimes stretch times written⟩ := by
  induction times generalizing written with
  | zero => exact .of_next rfl
  | succ times ih => exact LeadsTo.trans (.of_next rfl) (ih (written ++ stretch))

/-- Behind a body that fits its call goes on, with the body written as often as the head says. -/
theorem leadsTo_of_fits {body : Call} {count size : Nat} (hend : body.stop ≤ body.line)
    (hfits : size + (written.size - size) * count ≤ limits.length) :
    LeadsTo limits commands ⟨.reading body, ⟨call, size, count⟩ :: waiting, written⟩
      ⟨.reading call, waiting, repeatFrom size count written⟩ := by
  refine (LeadsTo.comeBack hend).trans ?_
  rw [Moment.comeBack, if_pos hfits, repeatFrom]
  by_cases hcount : count = 0
  · rw [if_pos hcount, if_pos hcount]
    exact .refl _
  · rw [if_neg hcount, if_neg hcount]
    exact leadsTo_of_copying call waiting _ (count - 1) written

/-- **The moment at which a call is over,** by its outcome: it is at the end of its block, or all
calls have stopped. -/
inductive IsOver (stop depth : Nat) (waiting : List Waiting) :
    Except LimitError Unit × Array Instruction → Moment → Prop
  | ok {line : Nat} (written : Array Instruction) : stop ≤ line →
    IsOver stop depth waiting (.ok (), written) ⟨.reading ⟨line, stop, depth⟩, waiting, written⟩
  | error (error : LimitError) (written : Array Instruction) :
    IsOver stop depth waiting (.error error, written) (.failed error written)

/-- **A call leads to what the writer leaves of its block,** whatever waits for it. -/
theorem exists_isOver (limits : Limits) (commands : List Command) (start stop : Nat)
    (hstop : stop ≤ commands.length) : ∀ depth waiting written, ∃ moment,
      LeadsTo limits commands ⟨.reading ⟨start, stop, depth⟩, waiting, written⟩ moment ∧
        IsOver stop depth waiting
          (unrollOnto limits start depth ((commands.take stop).drop start) written) moment := by
  induction start, stop using expand.induct commands with
  | case1 start stop hlt instruction hcommand ih =>
    intro depth waiting written
    have hlook : LeadsTo limits commands ⟨.reading ⟨start, stop, depth⟩, waiting, written⟩
        (.look limits commands ⟨start, stop, depth⟩ waiting written) := .look hlt
    rw [Moment.look_op hcommand] at hlook
    rw [drop_take_of_getElem? hlt hcommand, unrollOnto]
    by_cases hroom : written.size < limits.length
    · rw [if_pos hroom] at hlook ⊢
      obtain ⟨moment, hleads, hover⟩ := ih hstop depth waiting (written.push instruction)
      exact ⟨moment, hlook.trans hleads, hover⟩
    · rw [if_neg hroom] at hlook ⊢
      exact ⟨_, hlook, .error _ _⟩
  | case2 start stop hlt count length hcommand behind ihbody ihrest =>
    intro depth waiting written
    have hlook : LeadsTo limits commands ⟨.reading ⟨start, stop, depth⟩, waiting, written⟩
        (.look limits commands ⟨start, stop, depth⟩ waiting written) := .look hlt
    rw [Moment.look_loop hcommand] at hlook
    rw [drop_take_of_getElem? hlt hcommand, unrollOnto, take_behind_head, drop_behind_head]
    by_cases hdepth : depth < limits.depth
    · rw [if_pos hdepth] at hlook ⊢
      have hbehind : behind ≤ commands.length := Nat.le_trans (Nat.min_le_right _ _) hstop
      obtain ⟨middle, hbody, hover⟩ := ihbody hbehind (depth + 1)
        (⟨⟨behind, stop, depth⟩, written.size, count.toNat⟩ :: waiting) written
      have hmiddle := hlook.trans hbody
      generalize unrollOnto limits (start + 1) (depth + 1) _ written = left at hover ⊢
      cases hover with
      | error error result => exact ⟨_, hmiddle, .error error result⟩
      | @ok line result hend =>
        dsimp only
        by_cases hfits : written.size + (result.size - written.size) * count.toNat ≤ limits.length
        · rw [if_pos hfits, unrollOnto_min]
          obtain ⟨moment, hrest, hover⟩ := ihrest hstop depth waiting
            (repeatFrom written.size count.toNat result)
          exact ⟨moment, hmiddle.trans ((leadsTo_of_fits hend hfits).trans hrest), hover⟩
        · have hback := hmiddle.trans (.comeBack hend)
          rw [Moment.comeBack, if_neg hfits] at hback
          rw [if_neg hfits]
          exact ⟨_, hback, .error _ result⟩
    · rw [if_neg hdepth] at hlook ⊢
      exact ⟨_, hlook, .error _ _⟩
  | case3 start stop hlt hcommand =>
    have := List.getElem?_eq_none_iff.1 hcommand
    omega
  | case4 start stop hlt =>
    intro depth waiting written
    have hend : stop ≤ start := Nat.not_lt.1 hlt
    rw [List.drop_eq_nil_of_le (Nat.le_trans (List.length_take_le _ _) hend), unrollOnto]
    exact ⟨_, .refl _, .ok written hend⟩

/-- The moments of one call for which none waits. -/
def momentAt (limits : Limits) (commands : List Command) (start stop depth : Nat)
    (written : Array Instruction) (n : Nat) : Moment :=
  (Moment.next limits commands)^[n] ⟨.reading ⟨start, stop, depth⟩, [], written⟩

theorem momentAt_succ (n : Nat) : momentAt limits commands start stop depth written (n + 1)
    = (momentAt limits commands start stop depth written n).next limits commands :=
  Function.iterate_succ_apply' _ n _

/-- **The last moment is what the writer leaves.** -/
theorem exists_momentAt_eq (limits : Limits) (commands : List Command) (start stop depth : Nat)
    (hstop : stop ≤ commands.length) (written : Array Instruction) : ∃ n,
      momentAt limits commands start stop depth written n
        = ⟨.stopped (unrollOnto limits start depth ((commands.take stop).drop start) written).1, [],
            (unrollOnto limits start depth ((commands.take stop).drop start) written).2⟩ := by
  obtain ⟨moment, hleads, hover⟩ :=
    exists_isOver limits commands start stop hstop depth [] written
  generalize unrollOnto limits start depth _ written = left at hover ⊢
  cases hover with
  | error error result => exact hleads
  | ok result hend => exact hleads.trans (.comeBack hend)

/-! ## What holds at every moment -/

/-- **A call where it belongs,** with `size` instructions written: the outermost call goes through
the block up to `stop` in `depth` bodies, behind `floor` instructions; a call in a body ends where
the one that waits for it goes on, in one body more and behind what was written before the head. -/
inductive Stands (stop depth floor : Nat) : Call → Nat → List Waiting → Prop
  | outermost {line size : Nat} : floor ≤ size → Stands stop depth floor ⟨line, stop, depth⟩ size []
  | inner {line size count start : Nat} {caller : Call} {waiting : List Waiting} :
    Stands stop depth floor caller start waiting → start ≤ size → line ≤ caller.line →
      caller.line ≤ caller.stop →
        Stands stop depth floor ⟨line, caller.line, caller.depth + 1⟩ size
          (⟨caller, start, count⟩ :: waiting)

namespace Stands

variable {floor size : Nat}

theorem floor_le (h : Stands stop depth floor call size waiting) : floor ≤ size := by
  induction h with
  | outermost hfloor => exact hfloor
  | inner _ hstart _ _ ih => exact Nat.le_trans ih hstart

/-- Each block lies in the outermost one. -/
theorem stop_le (h : Stands stop depth floor call size waiting) : call.stop ≤ stop := by
  induction h with
  | outermost => exact Nat.le_refl _
  | inner _ _ _ hcaller ih => exact Nat.le_trans hcaller ih

/-- The number of bodies around a block is told by the calls that wait. -/
theorem depth_eq (h : Stands stop depth floor call size waiting) :
    call.depth = depth + waiting.length := by
  induction h with
  | outermost => rfl
  | inner _ _ _ _ ih => rw [ih, List.length_cons, Nat.add_assoc]

/-- More is written. -/
theorem mono {larger : Nat} (h : Stands stop depth floor call size waiting) (hle : size ≤ larger) :
    Stands stop depth floor call larger waiting := by
  cases h with
  | outermost hfloor => exact .outermost (Nat.le_trans hfloor hle)
  | inner hcaller hstart hline hend => exact .inner hcaller (Nat.le_trans hstart hle) hline hend

/-- The call goes on within its block. -/
theorem goOn {line : Nat} (h : Stands stop depth floor call size waiting) (hle : line ≤ call.stop) :
    Stands stop depth floor { call with line } size waiting := by
  cases h with
  | outermost hfloor => exact .outermost hfloor
  | inner hcaller hstart _ hend => exact .inner hcaller hstart hle hend

end Stands

/-- What the writer is at is in order: a call stands where it belongs, what is still to be copied
fits, and no command was looked for in vain. -/
def Moment.IsInOrder (limits : Limits) (stop depth floor : Nat) (moment : Moment) : Prop :=
  match moment.stage with
  | .reading call => Stands stop depth floor call moment.written.size moment.waiting
  | .copying call stretch times =>
    Stands stop depth floor call moment.written.size moment.waiting ∧
      moment.written.size + times * stretch.size ≤ limits.length
  | .stopped _ => True
  | .lost => False

/-- **A moment within bounds** of a call for the block up to `stop` in `depth` bodies, behind the
instructions `front`. -/
structure IsInBounds (limits : Limits) (stop depth : Nat) (front : List Instruction)
    (moment : Moment) : Prop where
  isInOrder : moment.IsInOrder limits stop depth front.length
  front_stays : front <+: moment.written.toList
  size_le : moment.written.size ≤ limits.length
  waiting_le : moment.waiting.length ≤ limits.depth - depth

namespace IsInBounds

variable {front : List Instruction}

theorem failed (error : LimitError) (hfront : front <+: written.toList)
    (hsize : written.size ≤ limits.length) :
    IsInBounds limits stop depth front (.failed error written) where
  isInOrder := trivial
  front_stays := hfront
  size_le := hsize
  waiting_le := Nat.zero_le _

/-- To look at a command keeps within bounds. -/
theorem look (hstop : stop ≤ commands.length) (hlt : call.line < call.stop)
    (h : IsInBounds limits stop depth front ⟨.reading call, waiting, written⟩) :
    IsInBounds limits stop depth front (Moment.look limits commands call waiting written) := by
  obtain ⟨hstands, hfront, hsize, hwaiting⟩ := h
  have hstands : Stands stop depth front.length call written.size waiting := hstands
  rw [Moment.look]
  split
  · next instruction hcommand =>
    split
    · next hroom =>
      refine ⟨(hstands.goOn hlt).mono ?_, ?_, ?_, hwaiting⟩
      · simp
      · simpa using hfront.trans (List.prefix_append _ _)
      · rwa [Array.size_push]
    · exact failed _ hfront hsize
  · next count length hcommand =>
    split
    · next hdepth =>
      have hdepth_eq := hstands.depth_eq
      have hbehind : call.line + 1 ≤ bodyStop true call.line length.toNat call.stop :=
        lt_bodyStop hlt true length.toNat
      have hend : bodyStop true call.line length.toNat call.stop ≤ call.stop := Nat.min_le_right _ _
      refine ⟨.inner (hstands.goOn hend) (Nat.le_refl _) hbehind hend, hfront, hsize, ?_⟩
      simp only [List.length_cons] at hwaiting ⊢
      omega
    · exact failed _ hfront hsize
  · next hcommand =>
    have := hstands.stop_le
    have := List.getElem?_eq_none_iff.1 hcommand
    omega

/-- To come back from a body keeps within bounds. -/
theorem comeBack (h : IsInBounds limits stop depth front ⟨.reading call, waiting, written⟩) :
    IsInBounds limits stop depth front (Moment.comeBack limits written waiting) := by
  obtain ⟨hstands, hfront, hsize, hwaiting⟩ := h
  cases (hstands : Stands stop depth front.length call written.size waiting) with
  | outermost => exact ⟨trivial, hfront, hsize, Nat.zero_le _⟩
  | @inner line _ count start caller waiting hcaller hstart _ _ =>
    have hfewer : waiting.length ≤ limits.depth - depth := Nat.le_of_succ_le hwaiting
    rw [Moment.comeBack]
    split
    · next hfits =>
      cases count with
      | zero =>
        -- the body is taken away again, but nothing of what was there before it
        have hkept : (written.take start).size = start := by
          rw [Array.take_eq_extract, Array.size_extract, Nat.min_eq_left hstart, Nat.sub_zero]
        rw [if_pos rfl]
        refine ⟨hcaller.mono (Nat.le_of_eq hkept.symm), ?_, ?_, hfewer⟩
        · have hshorter := List.prefix_take_iff.2 ⟨hfront, hcaller.floor_le⟩
          simpa [Array.take_eq_extract] using hshorter
        · exact Nat.le_trans (Nat.le_of_eq hkept) (Nat.le_trans hstart hsize)
      | succ times =>
        -- one of the copies stands there already
        have hstretch : (written.extract start written.size).size = written.size - start := by simp
        rw [if_neg (Nat.succ_ne_zero times), Nat.add_sub_cancel]
        refine ⟨⟨hcaller.mono hstart, ?_⟩, hfront, hsize, hfewer⟩
        rw [Nat.mul_succ, Nat.mul_comm] at hfits
        dsimp only
        rw [hstretch]
        omega
    · exact failed _ hfront hsize

/-- To copy a body once more keeps within bounds. -/
theorem copy {stretch : Array Instruction} {times : Nat}
    (h : IsInBounds limits stop depth front ⟨.copying call stretch (times + 1), waiting, written⟩) :
    IsInBounds limits stop depth front
      ⟨.copying call stretch times, waiting, written ++ stretch⟩ := by
  obtain ⟨⟨hstands, hfits⟩, hfront, -, hwaiting⟩ := h
  have hfits : (written ++ stretch).size + times * stretch.size ≤ limits.length := by
    rw [Nat.succ_mul] at hfits
    rw [Array.size_append]
    dsimp only at hfits
    omega
  refine ⟨⟨hstands.mono ?_, hfits⟩, ?_, Nat.le_of_add_right_le hfits, hwaiting⟩
  · simp
  · simpa using hfront.trans (List.prefix_append _ _)

/-- **The next moment is within bounds** again. -/
theorem next (hstop : stop ≤ commands.length) (h : IsInBounds limits stop depth front moment) :
    IsInBounds limits stop depth front (moment.next limits commands) := by
  obtain ⟨stage, waiting, written⟩ := moment
  cases stage with
  | reading call =>
    by_cases hlt : call.line < call.stop
    · rw [Moment.next_of_lt hlt]
      exact h.look hstop hlt
    · rw [Moment.next_of_le (Nat.not_lt.1 hlt)]
      exact h.comeBack
  | copying call stretch times =>
    cases times with
    | zero => exact ⟨h.isInOrder.1, h.front_stays, h.size_le, h.waiting_le⟩
    | succ times => exact h.copy
  | stopped outcome => exact h
  | lost => exact h

end IsInBounds

/-- **Every moment is within bounds,** if the first one is. -/
theorem isInBounds_momentAt (hstop : stop ≤ commands.length) (start depth : Nat)
    (hsize : written.size ≤ limits.length) (n : Nat) :
    IsInBounds limits stop depth written.toList
      (momentAt limits commands start stop depth written n) := by
  induction n with
  | zero =>
    exact ⟨.outermost (Nat.le_refl _), List.prefix_refl _, hsize, Nat.zero_le _⟩
  | succ n ih =>
    rw [momentAt_succ]
    exact ih.next hstop

/-! ## The places go up -/

namespace Moment

/-- No call looks at a place before `place` any more. -/
def IsPast (place : Nat) (moment : Moment) : Prop :=
  match moment.stage with
  | .reading call => place ≤ call.line
  | .copying call _ _ => place ≤ call.line
  | .stopped _ => True
  | .lost => True

variable {place : Nat}

/-- Where the writer looks at a command, a call comes to it in its block. -/
theorem exists_of_place? (hplace : moment.place? = some place) :
    ∃ call : Call, moment.stage = .reading call ∧ call.line < call.stop ∧ call.line = place := by
  rw [place?] at hplace
  split at hplace
  · next call hstage => exact ⟨call, hstage, by simpa using hplace⟩
  · cases hplace

theorem IsPast.le_place {other : Nat} (h : moment.IsPast place)
    (hplace : moment.place? = some other) : place ≤ other := by
  obtain ⟨call, hstage, -, rfl⟩ := exists_of_place? hplace
  rwa [IsPast, hstage] at h

/-- Behind a command that was looked at. -/
theorem isPast_look (limits : Limits) (commands : List Command) (call : Call)
    (waiting : List Waiting) (written : Array Instruction) :
    (look limits commands call waiting written).IsPast (call.line + 1) := by
  rw [look]
  split
  · split
    · exact Nat.le_refl _
    · trivial
  · split
    · exact Nat.le_refl _
    · trivial
  · trivial

/-- The call that takes over is not before the one that is over. -/
theorem isPast_comeBack {floor size : Nat} (limits : Limits) (written : Array Instruction)
    (h : Stands stop depth floor call size waiting) :
    (comeBack limits written waiting).IsPast call.line := by
  cases h with
  | outermost => trivial
  | inner _ _ hline _ =>
    rw [comeBack]
    split
    · split
      · exact hline
      · exact hline
    · trivial

theorem IsPast.mono {later : Nat} (h : moment.IsPast later) (hle : place ≤ later) :
    moment.IsPast place := by
  obtain ⟨stage, waiting, written⟩ := moment
  cases stage with
  | reading call => exact Nat.le_trans hle h
  | copying call stretch times => exact Nat.le_trans hle h
  | stopped | lost => trivial

/-- No call goes back. -/
theorem IsPast.next {floor : Nat} (horder : moment.IsInOrder limits stop depth floor)
    (h : moment.IsPast place) : (moment.next limits commands).IsPast place := by
  obtain ⟨stage, waiting, written⟩ := moment
  cases stage with
  | reading call =>
    by_cases hlt : call.line < call.stop
    · rw [next_of_lt hlt]
      exact (isPast_look limits commands call waiting written).mono (Nat.le_succ_of_le h)
    · rw [next_of_le (Nat.not_lt.1 hlt)]
      exact (isPast_comeBack limits written horder).mono h
  | copying call stretch times => cases times <;> exact h
  | stopped outcome => trivial
  | lost => trivial

/-- **What was looked at lies behind** from then on. -/
theorem isPast_next (hplace : moment.place? = some place) :
    (moment.next limits commands).IsPast (place + 1) := by
  obtain ⟨call, hstage, hlt, rfl⟩ := exists_of_place? hplace
  obtain ⟨stage, waiting, written⟩ := moment
  obtain rfl : stage = .reading call := hstage
  rw [next_of_lt hlt]
  exact isPast_look limits commands call waiting written

/-- A call looks only at commands of the block. -/
theorem IsInOrder.place_lt {floor : Nat} (h : moment.IsInOrder limits stop depth floor)
    (hplace : moment.place? = some place) : place < stop := by
  obtain ⟨call, hstage, hlt, rfl⟩ := exists_of_place? hplace
  rw [IsInOrder, hstage] at h
  exact Nat.lt_of_lt_of_le hlt (Stands.stop_le h)

end Moment

/-- What lies behind at one moment lies behind at every later one. -/
theorem isPast_momentAt_add (hstop : stop ≤ commands.length) (hsize : written.size ≤ limits.length)
    {place m : Nat} (h : (momentAt limits commands start stop depth written m).IsPast place)
    (n : Nat) : (momentAt limits commands start stop depth written (m + n)).IsPast place := by
  induction n with
  | zero => exact h
  | succ n ih =>
    rw [← Nat.add_assoc, momentAt_succ]
    exact ih.next (isInBounds_momentAt hstop start depth hsize (m + n)).isInOrder

/-- **No command is looked at twice,** and none before one that was looked at earlier. -/
theorem place_lt_place (hstop : stop ≤ commands.length) (hsize : written.size ≤ limits.length)
    {m n place other : Nat} (hlt : m < n)
    (hplace : (momentAt limits commands start stop depth written m).place? = some place)
    (hother : (momentAt limits commands start stop depth written n).place? = some other) :
    place < other := by
  have hnext : (momentAt limits commands start stop depth written (m + 1)).IsPast (place + 1) := by
    rw [momentAt_succ]
    exact Moment.isPast_next hplace
  obtain ⟨more, rfl⟩ := Nat.exists_eq_add_of_le hlt
  exact (isPast_momentAt_add hstop hsize hnext more).le_place hother

/-- **The writer keeps within bounds at every moment.**  Take the call for the commands from `start`
up to `stop`, in `depth` bodies and behind what is written, with its moments up to the one at which
it has stopped, which is what the writer leaves.  It looks at commands of this stretch only, and at
each at most once, in order.  Whatever it is at, and whether it fails or not, what was written first
stays in front, the limit of length is kept, and no more calls wait than bodies may still be
opened. -/
theorem unrollOnto_in_bounds (limits : Limits) (commands : List Command) {start stop : Nat}
    (hstop : stop ≤ commands.length) (depth : Nat) {written : Array Instruction}
    (hsize : written.size ≤ limits.length) :
    let moment := momentAt limits commands start stop depth written
    let left := unrollOnto limits start depth ((commands.take stop).drop start) written
    (∃ n, moment n = ⟨.stopped left.1, [], left.2⟩) ∧
      (∀ n place, (moment n).place? = some place → start ≤ place ∧ place < stop) ∧
      (∀ m n place other, m < n → (moment m).place? = some place →
        (moment n).place? = some other → place < other) ∧
      (∀ n, (moment n).stage ≠ .lost ∧ written.toList <+: (moment n).written.toList ∧
        (moment n).written.size ≤ limits.length ∧
        (moment n).waiting.length ≤ limits.depth - depth) ∧
      written.toList <+: left.2.toList ∧ left.2.size ≤ limits.length := by
  intro moment left
  have hbounds : ∀ n, IsInBounds limits stop depth written.toList (moment n) :=
    isInBounds_momentAt hstop start depth hsize
  have hstopped : ∃ n, moment n = ⟨.stopped left.1, [], left.2⟩ :=
    exists_momentAt_eq limits commands start stop depth hstop written
  refine ⟨hstopped, fun n place hplace => ⟨?_, ?_⟩, ?_, fun n => ⟨?_, ?_, ?_, ?_⟩, ?_⟩
  · have hfirst : (moment 0).IsPast start := Nat.le_refl start
    have hpast := isPast_momentAt_add hstop hsize hfirst n
    rw [Nat.zero_add] at hpast
    exact hpast.le_place hplace
  · exact (hbounds n).isInOrder.place_lt hplace
  · exact fun m n place other hlt => place_lt_place hstop hsize hlt
  · intro hlost
    have horder := (hbounds n).isInOrder
    rwa [Moment.IsInOrder, hlost] at horder
  · exact (hbounds n).front_stays
  · exact (hbounds n).size_le
  · exact (hbounds n).waiting_le
  · obtain ⟨n, hn⟩ := hstopped
    have hlast := hbounds n
    rw [hn] at hlast
    exact ⟨hlast.front_stays, hlast.size_le⟩

/-- A body is written three times behind one instruction and fills the limit of length.  The
instruction behind it finds no room. -/
theorem unrollOnto_in_bounds_full :
    let commands : List Command := [.op .exit, .loop 3 1, .op .print, .op .exit]
    let moment := momentAt ⟨2, 4⟩ commands 1 4 1 #[.exit]
    4 ≤ commands.length ∧ (#[.exit] : Array Instruction).size ≤ 4 ∧
      (∃ n, moment n = ⟨.stopped (.error (.tooLong 4)), [], #[.exit, .print, .print, .print]⟩) ∧
      (∀ n place, (moment n).place? = some place → 1 ≤ place ∧ place < 4) ∧
      ∀ n, (moment n).stage ≠ .lost ∧ [.exit] <+: (moment n).written.toList ∧
        (moment n).written.size ≤ 4 ∧ (moment n).waiting.length ≤ 1 := by
  intro commands moment
  have hstop : 4 ≤ commands.length := by decide
  have hsize : (#[.exit] : Array Instruction).size ≤ 4 := by decide
  obtain ⟨⟨n, hn⟩, hplaces, -, hmoments, -⟩ := unrollOnto_in_bounds ⟨2, 4⟩ commands hstop 1 hsize
  have hleft : unrollOnto ⟨2, 4⟩ 1 1 ((commands.take 4).drop 1) #[.exit]
      = (.error (.tooLong 4), #[.exit, .print, .print, .print]) := by
    simp [commands, unrollOnto, repeatFrom, appendTimes]
  rw [hleft] at hn
  exact ⟨hstop, hsize, ⟨n, hn⟩, hplaces, hmoments⟩

end Command

end Reverb
