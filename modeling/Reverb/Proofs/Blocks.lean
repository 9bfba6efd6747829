import Reverb.Proofs.Nesting
import Reverb.Proofs.Unrolling

/-!
# Proofs/Blocks — reading and unrolling see the same blocks

Reading a program is one scan with a stack of stops, unrolling it a recursion that cuts a body at
the end of the block around it.  `Command.walk` goes through a program as the writer does, by
places, and keeps a record of the commands that it comes to; the writer is this walk without the
record (`output_walk`).  In a program that was read each body ends in the block around it
(`isNested_of_read`), so there is nothing to cut: the walk that cuts and the one that takes every
body whole are the same (`walk_eq_of_isClosed`).  The record misses no command
(`isComplete_of_walk`), and it has each one in the block in which it stands
(`endsBlock_of_mem_visits`).
-/

namespace Reverb

namespace Command

/-! ## A walk through a program -/

/-- A command that a walk comes to: its place, the place behind the block in which it is read, and
the number of bodies around it. -/
structure Visit where
  place : Nat
  stop : Nat
  depth : Nat
  deriving DecidableEq

/-- What a walk leaves: the outcome with what is written, and the commands it came to, in order. -/
structure Walk where
  output : Except LimitError Unit × Array Instruction
  visits : List Visit
  deriving DecidableEq

/-- The walk as part of a longer one that came to other commands before. -/
def Walk.after (visits : List Visit) (walk : Walk) : Walk :=
  { walk with visits := visits ++ walk.visits }

/-- The place behind the body of a head at `place`: behind the lines that it owns and, where bodies
are cut, behind the block around it at the latest. -/
def bodyStop (cuts : Bool) (place length stop : Nat) : Nat :=
  if cuts then min (place + 1 + length) stop else place + 1 + length

theorem lt_bodyStop {place stop : Nat} (hlt : place < stop) (cuts : Bool) (length : Nat) :
    place < bodyStop cuts place length stop := by
  rw [bodyStop]
  split <;> omega

/-- **The walk of the writer** through the commands from `start` up to `stop`.  It has no result
where it looks for a command behind the end of the program. -/
def walk (cuts : Bool) (limits : Limits) (commands : List Command) (start stop depth : Nat)
    (written : Array Instruction) : Option Walk :=
  if hlt : start < stop then
    if hbound : start < commands.length then
      let visit : Visit := ⟨start, stop, depth⟩
      match commands[start] with
      | op instruction =>
        if written.size < limits.length then
          (walk cuts limits commands (start + 1) stop depth (written.push instruction)).map
            (Walk.after [visit])
        else some ⟨(.error (.tooLong limits.length), written), [visit]⟩
      | loop count length =>
        if depth < limits.depth then
          let next := bodyStop cuts start length.toNat stop
          match walk cuts limits commands (start + 1) next (depth + 1) written with
          | none => none
          | some ⟨(.error e, written), visits⟩ => some ⟨(.error e, written), visit :: visits⟩
          | some ⟨(.ok (), middle), visits⟩ =>
            if written.size + (middle.size - written.size) * count.toNat ≤ limits.length then
              (walk cuts limits commands next stop depth
                (repeatFrom written.size count.toNat middle)).map (Walk.after (visit :: visits))
            else some ⟨(.error (.tooLong limits.length), middle), visit :: visits⟩
        else some ⟨(.error (.nestingTooDeep start limits.depth), written), [visit]⟩
    else none
  else some ⟨(.ok (), written), []⟩
termination_by commands.length - start
decreasing_by
  · omega
  · omega
  · have := lt_bodyStop hlt cuts length.toNat
    omega

/-- The program that a walk writes, or the limit that it hits. -/
def Walk.program (walk : Walk) : Except LimitError (Array Instruction) :=
  match walk.output with
  | (.ok (), written) => .ok written
  | (.error e, _) => .error e

/-- The outcome of a walk is told by its program. -/
theorem Walk.outcome_eq_of_program_eq {walk : Walk}
    {result : Except LimitError (Array Instruction)} (h : walk.program = result) :
    walk.output.1 = result.map fun _ => () := by
  subst h
  obtain ⟨⟨_ | ⟨⟨⟩⟩, _⟩, _⟩ := walk <;> rfl

variable {cuts : Bool} {limits : Limits} {commands : List Command} {start stop depth : Nat}
variable {count length : UInt8} {written : Array Instruction}

theorem walk_of_le (hle : stop ≤ start) :
    walk cuts limits commands start stop depth written = some ⟨(.ok (), written), []⟩ := by
  rw [walk, dif_neg (Nat.not_lt.2 hle)]

theorem walk_of_getElem?_eq_none (hlt : start < stop) (hcommand : commands[start]? = none) :
    walk cuts limits commands start stop depth written = none := by
  rw [walk, dif_pos hlt, dif_neg (Nat.not_lt.2 (List.getElem?_eq_none_iff.1 hcommand))]

theorem walk_op {instruction : Instruction} (hlt : start < stop)
    (hcommand : commands[start]? = some (op instruction)) :
    walk cuts limits commands start stop depth written =
      if written.size < limits.length then
        (walk cuts limits commands (start + 1) stop depth (written.push instruction)).map
          (Walk.after [⟨start, stop, depth⟩])
      else some ⟨(.error (.tooLong limits.length), written), [⟨start, stop, depth⟩]⟩ := by
  obtain ⟨hbound, heq⟩ := List.getElem?_eq_some_iff.1 hcommand
  rw [walk, dif_pos hlt, dif_pos hbound, heq]

theorem walk_loop (hlt : start < stop) (hcommand : commands[start]? = some (loop count length)) :
    walk cuts limits commands start stop depth written =
      if depth < limits.depth then
        match walk cuts limits commands (start + 1) (bodyStop cuts start length.toNat stop)
          (depth + 1) written with
        | none => none
        | some ⟨(.error e, written), visits⟩ =>
          some ⟨(.error e, written), ⟨start, stop, depth⟩ :: visits⟩
        | some ⟨(.ok (), middle), visits⟩ =>
          if written.size + (middle.size - written.size) * count.toNat ≤ limits.length then
            (walk cuts limits commands (bodyStop cuts start length.toNat stop) stop depth
              (repeatFrom written.size count.toNat middle)).map
                (Walk.after (⟨start, stop, depth⟩ :: visits))
          else some ⟨(.error (.tooLong limits.length), middle), ⟨start, stop, depth⟩ :: visits⟩
      else
        some ⟨(.error (.nestingTooDeep start limits.depth), written), [⟨start, stop, depth⟩]⟩ := by
  obtain ⟨hbound, heq⟩ := List.getElem?_eq_some_iff.1 hcommand
  rw [walk, dif_pos hlt, dif_pos hbound, heq]

/-! ## The walk that cuts is the writer -/

/-- Behind a body that is cut nothing is left to write, so the place there does not matter. -/
theorem unrollOnto_min (limits : Limits) (commands : List Command) (behind stop depth : Nat)
    (written : Array Instruction) :
    unrollOnto limits behind depth ((commands.take stop).drop (min behind stop)) written
      = unrollOnto limits (min behind stop) depth ((commands.take stop).drop (min behind stop))
        written := by
  rcases Nat.le_total behind stop with hle | hcut
  · rw [Nat.min_eq_left hle]
  · rw [Nat.min_eq_right hcut, List.drop_eq_nil_of_le (List.length_take_le _ _), unrollOnto,
      unrollOnto]

/-- **The writer is the walk that cuts,** without the record. -/
theorem output_walk (limits : Limits) (commands : List Command) (start stop : Nat)
    (hstop : stop ≤ commands.length) : ∀ depth written,
      (walk true limits commands start stop depth written).map Walk.output
        = some (unrollOnto limits start depth ((commands.take stop).drop start) written) := by
  induction start, stop using expand.induct commands with
  | case1 start stop hlt instruction hcommand ih =>
    intro depth written
    rw [walk_op hlt hcommand, drop_take_of_getElem? hlt hcommand, unrollOnto]
    split
    · rw [Option.map_map]
      exact ih hstop depth _
    · rfl
  | case2 start stop hlt count length hcommand next ihbody ihrest =>
    intro depth written
    have hbody := ihbody (Nat.le_trans (Nat.min_le_right _ _) hstop) (depth + 1) written
    rw [walk_loop hlt hcommand, drop_take_of_getElem? hlt hcommand, unrollOnto]
    by_cases hdepth : depth < limits.depth
    · obtain ⟨walked, hwalk, houtput⟩ := Option.map_eq_some_iff.1 hbody
      rw [if_pos hdepth, if_pos hdepth, take_behind_head, ← houtput, drop_behind_head]
      dsimp only
      rw [show bodyStop true start length.toNat stop = next from rfl, hwalk]
      obtain ⟨⟨error | ⟨⟨⟩⟩, middle⟩, visits⟩ := walked
      · rfl
      · dsimp only
        split
        · rw [Option.map_map, unrollOnto_min]
          exact ihrest hstop depth _
        · rfl
    · rw [if_neg hdepth, if_neg hdepth]
      rfl
  | case3 start stop hlt hcommand =>
    have := List.getElem?_eq_none_iff.1 hcommand
    omega
  | case4 start stop hlt =>
    intro depth written
    rw [walk_of_le (Nat.not_lt.1 hlt), List.drop_eq_nil_of_le, unrollOnto]
    · rfl
    · exact Nat.le_trans (List.length_take_le _ _) (Nat.not_lt.1 hlt)

/-! ## Blocks that end in the block around them -/

/-- **A closed stretch:** each block that opens in it ends in it. -/
def IsClosed (commands : List Command) (start stop : Nat) : Prop :=
  ∀ place count length, start ≤ place → place < stop →
    commands[place]? = some (loop count length) → place + 1 + length.toNat ≤ stop

/-- **A nested program:** it is closed, and so is the body of each of its blocks. -/
structure IsNested (commands : List Command) : Prop where
  program : IsClosed commands 0 commands.length
  bodies : ∀ head count length, commands[head]? = some (loop count length) →
    IsClosed commands (head + 1) (head + 1 + length.toNat)

theorem IsClosed.mono (h : IsClosed commands start stop) {later : Nat} (hle : start ≤ later) :
    IsClosed commands later stop :=
  fun place count length hplace => h place count length (Nat.le_trans hle hplace)

/-- In a closed stretch no body is cut. -/
theorem IsClosed.bodyStop_eq (h : IsClosed commands start stop) (hlt : start < stop)
    (hcommand : commands[start]? = some (loop count length)) (cuts : Bool) :
    bodyStop cuts start length.toNat stop = start + 1 + length.toNat := by
  rw [bodyStop]
  split
  · exact Nat.min_eq_left (h start count length (Nat.le_refl start) hlt hcommand)
  · rfl

variable {lines : List Line} {place : Nat}

/-- The heads of a program that was read are the lines that open a block. -/
theorem opens_of_getElem? (hcommands : lines.map Line.decode = commands.map .ok)
    (hhead : commands[place]? = some (loop count length)) : Opens lines place length.toNat := by
  have hdecode : (lines.map Line.decode)[place]? = some (.ok (loop count length)) := by
    rw [hcommands, List.getElem?_map, hhead, Option.map_some]
  rw [List.getElem?_map, Option.map_eq_some_iff] at hdecode
  obtain ⟨line, hline, hdecode⟩ := hdecode
  exact opens_of_loop hline hdecode

/-- **A program that was read is nested.** -/
theorem isNested_of_read (h : read lines = .ok commands) : IsNested commands := by
  obtain ⟨hcommands, hfits⟩ := read_eq_ok_iff.1 h
  have hlength : lines.length = commands.length := by simpa using congrArg List.length hcommands
  constructor
  · intro place count length _ hlt hhead
    have := (hfits place _ (opens_of_getElem? hcommands hhead)).in_program
    omega
  · intro head count length hhead place count' length' hbehind hlt hinner
    have := (hfits place _ (opens_of_getElem? hcommands hinner)).in_blocks head length.toNat
      hbehind (opens_of_getElem? hcommands hhead) (by omega)
    omega

/-! ## Nothing to cut -/

/-- **In a nested program the walk that cuts and the one that does not are the same.** -/
theorem walk_eq_of_isClosed (hnested : IsNested commands) (limits : Limits) (start stop : Nat)
    (hclosed : IsClosed commands start stop) : ∀ depth written,
      walk false limits commands start stop depth written
        = walk true limits commands start stop depth written := by
  induction start, stop using expand.induct commands with
  | case1 start stop hlt instruction hcommand ih =>
    intro depth written
    rw [walk_op hlt hcommand, walk_op hlt hcommand, ih (hclosed.mono (Nat.le_succ start))]
  | case2 start stop hlt count length hcommand next ihbody ihrest =>
    intro depth written
    have hnext : next = start + 1 + length.toNat := hclosed.bodyStop_eq hlt hcommand true
    have hbody := ihbody (hnext ▸ hnested.bodies start count length hcommand)
    have hrest := ihrest (hclosed.mono (by omega))
    rw [walk_loop hlt hcommand, walk_loop hlt hcommand, hclosed.bodyStop_eq hlt hcommand,
      hclosed.bodyStop_eq hlt hcommand, ← hnext]
    simp only [hbody, hrest]
  | case3 start stop hlt hcommand =>
    intro depth written
    rw [walk_of_getElem?_eq_none hlt hcommand, walk_of_getElem?_eq_none hlt hcommand]
  | case4 start stop hlt =>
    intro depth written
    rw [walk_of_le (Nat.not_lt.1 hlt), walk_of_le (Nat.not_lt.1 hlt)]

/-! ## What a walk comes to -/

variable {walked : Walk} {visit : Visit}

/-- From an instruction a walk goes on behind it. -/
theorem of_mem_visits_op {instruction : Instruction} (hlt : start < stop)
    (hcommand : commands[start]? = some (op instruction))
    (hwalk : walk cuts limits commands start stop depth written = some walked)
    (hvisit : visit ∈ walked.visits) : visit = ⟨start, stop, depth⟩ ∨
      ∃ rest, walk cuts limits commands (start + 1) stop depth (written.push instruction)
        = some rest ∧ visit ∈ rest.visits := by
  rw [walk_op hlt hcommand] at hwalk
  split at hwalk
  · obtain ⟨rest, hrest, rfl⟩ := Option.map_eq_some_iff.1 hwalk
    exact (List.mem_cons.1 hvisit).imp_right fun hmem => ⟨rest, hrest, hmem⟩
  · obtain rfl := Option.some.inj hwalk
    exact Or.inl (List.mem_singleton.1 hvisit)

/-- From a head a walk goes through the body, and on behind it. -/
theorem of_mem_visits_loop (hlt : start < stop)
    (hcommand : commands[start]? = some (loop count length))
    (hwalk : walk cuts limits commands start stop depth written = some walked)
    (hvisit : visit ∈ walked.visits) : visit = ⟨start, stop, depth⟩ ∨
      (∃ body, walk cuts limits commands (start + 1) (bodyStop cuts start length.toNat stop)
        (depth + 1) written = some body ∧ visit ∈ body.visits) ∨
      ∃ middle rest, walk cuts limits commands (bodyStop cuts start length.toNat stop) stop depth
        middle = some rest ∧ visit ∈ rest.visits := by
  rw [walk_loop hlt hcommand] at hwalk
  split at hwalk
  · split at hwalk
    · cases hwalk
    · next error middle visits hbody =>
      obtain rfl := Option.some.inj hwalk
      exact (List.mem_cons.1 hvisit).imp_right fun hmem => Or.inl ⟨_, hbody, hmem⟩
    · next middle visits hbody =>
      split at hwalk
      · obtain ⟨rest, hrest, rfl⟩ := Option.map_eq_some_iff.1 hwalk
        rcases List.mem_append.1 hvisit with hvisit | hvisit
        · exact (List.mem_cons.1 hvisit).imp_right fun hmem => Or.inl ⟨_, hbody, hmem⟩
        · exact Or.inr (Or.inr ⟨_, rest, hrest, hvisit⟩)
      · obtain rfl := Option.some.inj hwalk
        exact (List.mem_cons.1 hvisit).imp_right fun hmem => Or.inl ⟨_, hbody, hmem⟩
  · obtain rfl := Option.some.inj hwalk
    exact Or.inl (List.mem_singleton.1 hvisit)

/-- The visit finds the whole body of its head in the block in which it reads it. -/
def Visit.IsWhole (commands : List Command) (visit : Visit) : Prop :=
  ∀ count length, commands[visit.place]? = some (loop count length) →
    visit.place + 1 + length.toNat ≤ visit.stop

/-- **In a nested program a walk finds every body whole.** -/
theorem isWhole_of_mem_visits (hnested : IsNested commands) (limits : Limits) (start stop : Nat)
    (hclosed : IsClosed commands start stop) : ∀ depth written walked,
      walk true limits commands start stop depth written = some walked →
        ∀ visit ∈ walked.visits, visit.IsWhole commands := by
  induction start, stop using expand.induct commands with
  | case1 start stop hlt instruction hcommand ih =>
    intro depth written walked hwalk visit hvisit
    rcases of_mem_visits_op hlt hcommand hwalk hvisit with rfl | ⟨rest, hrest, hmem⟩
    · exact fun count length => hclosed start count length (Nat.le_refl start) hlt
    · exact ih (hclosed.mono (Nat.le_succ start)) depth _ rest hrest visit hmem
  | case2 start stop hlt count length hcommand next ihbody ihrest =>
    intro depth written walked hwalk visit hvisit
    have hnext : next = start + 1 + length.toNat := hclosed.bodyStop_eq hlt hcommand true
    rcases of_mem_visits_loop hlt hcommand hwalk hvisit with
      rfl | ⟨body, hbody, hmem⟩ | ⟨middle, rest, hrest, hmem⟩
    · exact fun count length => hclosed start count length (Nat.le_refl start) hlt
    · have hinner : IsClosed commands (start + 1) next :=
        hnext ▸ hnested.bodies start count length hcommand
      exact ihbody hinner (depth + 1) written body hbody visit hmem
    · exact ihrest (hclosed.mono (by omega)) depth middle rest hrest visit hmem
  | case3 start stop hlt hcommand =>
    intro depth written walked hwalk
    rw [walk_of_getElem?_eq_none hlt hcommand] at hwalk
    cases hwalk
  | case4 start stop hlt =>
    intro depth written walked hwalk
    rw [walk_of_le (Nat.not_lt.1 hlt)] at hwalk
    obtain rfl := Option.some.inj hwalk
    simp

/-! ## The record of a walk -/

/-- **The record of a walk from `start` to `stop` is complete:** it has the commands one after the
other, all of them if the walk succeeds, and up to a head that is refused. -/
structure Walk.IsComplete (walk : Walk) (start stop : Nat) : Prop where
  places : walk.visits.map Visit.place = List.range' start walk.visits.length
  all : walk.output.1 = .ok () → start + walk.visits.length = stop
  refused : ∀ index limit, walk.output.1 = .error (.nestingTooDeep index limit) →
    start + walk.visits.length = index + 1

namespace Walk.IsComplete

variable {walk front : Walk} {next : Nat}

/-- One more command in front of a walk; where the walk succeeds, it has come to `stop`. -/
theorem cons (h : walk.IsComplete (start + 1) next)
    (hstop : walk.output.1 = .ok () → next = stop) (block depth : Nat) :
    (walk.after [⟨start, block, depth⟩]).IsComplete start stop where
  places := by
    rw [Walk.after, List.singleton_append, List.map_cons, h.places, List.length_cons,
      List.range'_succ]
  all hok := by
    have hall := h.all hok
    have := hstop hok
    rw [Walk.after, List.singleton_append, List.length_cons]
    omega
  refused index limit herror := by
    have := h.refused index limit herror
    rw [Walk.after, List.singleton_append, List.length_cons]
    omega

/-- One walk behind another one that succeeds. -/
theorem append (hfront : front.IsComplete start next) (hok : front.output.1 = .ok ())
    (h : walk.IsComplete next stop) : (walk.after front.visits).IsComplete start stop where
  places := by
    rw [Walk.after, List.map_append, hfront.places, h.places, ← hfront.all hok,
      List.length_append, List.range'_append_1]
  all hall := by
    have := h.all hall
    have := hfront.all hok
    rw [Walk.after, List.length_append]
    omega
  refused index limit herror := by
    have := h.refused index limit herror
    have := hfront.all hok
    rw [Walk.after, List.length_append]
    omega

/-- A walk that breaks off because the program gets too long. -/
theorem of_tooLong {visits : List Visit} {limit : Nat}
    (hplaces : visits.map Visit.place = List.range' start visits.length) :
    (⟨(.error (.tooLong limit), written), visits⟩ : Walk).IsComplete start stop where
  places := hplaces
  all hok := by cases hok
  refused index limit herror := by cases herror

end Walk.IsComplete

/-- **A walk misses no command.** -/
theorem isComplete_of_walk (limits : Limits) (commands : List Command) (start stop : Nat)
    (hle : start ≤ stop) : ∀ depth written walked,
      walk true limits commands start stop depth written = some walked →
        walked.IsComplete start stop := by
  induction start, stop using expand.induct commands with
  | case1 start stop hlt instruction hcommand ih =>
    intro depth written walked hwalk
    rw [walk_op hlt hcommand] at hwalk
    split at hwalk
    · obtain ⟨rest, hrest, rfl⟩ := Option.map_eq_some_iff.1 hwalk
      exact (ih hlt depth _ rest hrest).cons (fun _ => rfl) stop depth
    · obtain rfl := Option.some.inj hwalk
      exact .of_tooLong rfl
  | case2 start stop hlt count length hcommand next ihbody ihrest =>
    intro depth written walked hwalk
    have hnext : start < next := lt_bodyStop hlt true length.toNat
    rw [walk_loop hlt hcommand, show bodyStop true start length.toNat stop = next from rfl] at hwalk
    split at hwalk
    · split at hwalk
      · cases hwalk
      · next error middle visits hbody =>
        obtain rfl := Option.some.inj hwalk
        have hcomplete := ihbody hnext (depth + 1) written _ hbody
        exact hcomplete.cons (fun hok => by cases hok) stop depth
      · next middle visits hbody =>
        have hcomplete := (ihbody hnext (depth + 1) written _ hbody).cons (fun _ => rfl) stop depth
        split at hwalk
        · obtain ⟨rest, hrest, rfl⟩ := Option.map_eq_some_iff.1 hwalk
          exact hcomplete.append rfl (ihrest (Nat.min_le_right _ _) depth _ rest hrest)
        · obtain rfl := Option.some.inj hwalk
          exact .of_tooLong hcomplete.places
    · obtain rfl := Option.some.inj hwalk
      constructor
      · rfl
      · intro hok
        cases hok
      · intro index limit herror
        cases herror
        rfl
  | case3 start stop hlt hcommand =>
    intro depth written walked hwalk
    rw [walk_of_getElem?_eq_none hlt hcommand] at hwalk
    cases hwalk
  | case4 start stop hlt =>
    intro depth written walked hwalk
    rw [walk_of_le (Nat.not_lt.1 hlt)] at hwalk
    obtain rfl := Option.some.inj hwalk
    constructor
    · rfl
    · exact fun _ => Nat.le_antisymm hle (Nat.not_lt.1 hlt)
    · intro index limit herror
      cases herror

/-- **The end of the block in which a place stands:** of the innermost body around it, or of the
program if there is none. -/
structure EndsBlock (commands : List Command) (place stop : Nat) : Prop where
  le_of_inside : ∀ head count length, commands[head]? = some (loop count length) → head < place →
    place < head + 1 + length.toNat → stop ≤ head + 1 + length.toNat
  eq_length_or : stop = commands.length ∨ ∃ head count length,
    commands[head]? = some (loop count length) ∧ head < place ∧ stop = head + 1 + length.toNat

namespace EndsBlock

/-- Behind an instruction the block goes on. -/
theorem behind_op {instruction : Instruction} (h : EndsBlock commands start stop)
    (hcommand : commands[start]? = some (op instruction)) :
    EndsBlock commands (start + 1) stop where
  le_of_inside head count length hhead hlt hinside := by
    rcases Nat.lt_succ_iff_lt_or_eq.1 hlt with hbefore | rfl
    · exact h.le_of_inside head count length hhead hbefore (by omega)
    · cases hcommand.symm.trans hhead
  eq_length_or := h.eq_length_or.imp_right fun ⟨head, count, length, hhead, hlt, heq⟩ =>
    ⟨head, count, length, hhead, Nat.lt_succ_of_lt hlt, heq⟩

/-- Behind a head its body begins. -/
theorem body (h : EndsBlock commands start stop)
    (hcommand : commands[start]? = some (loop count length))
    (hwhole : start + 1 + length.toNat ≤ stop) :
    EndsBlock commands (start + 1) (start + 1 + length.toNat) where
  le_of_inside head count' length' hhead hlt hinside := by
    rcases Nat.lt_succ_iff_lt_or_eq.1 hlt with hbefore | rfl
    · exact Nat.le_trans hwhole (h.le_of_inside head count' length' hhead hbefore (by omega))
    · cases hcommand.symm.trans hhead
      exact Nat.le_refl _
  eq_length_or := Or.inr ⟨start, count, length, hcommand, start.lt_succ_self, rfl⟩

/-- Behind the body the block goes on. -/
theorem behind_body (h : EndsBlock commands start stop) (hnested : IsNested commands)
    (hcommand : commands[start]? = some (loop count length)) :
    EndsBlock commands (start + 1 + length.toNat) stop where
  le_of_inside head count' length' hhead hlt hinside := by
    rcases Nat.lt_trichotomy head start with hbefore | rfl | hbehind
    · exact h.le_of_inside head count' length' hhead hbefore (by omega)
    · cases hcommand.symm.trans hhead
      omega
    · have := hnested.bodies start count length hcommand head count' length' hbehind hlt hhead
      omega
  eq_length_or := h.eq_length_or.imp_right fun ⟨head, count, length, hhead, hlt, heq⟩ =>
    ⟨head, count, length, hhead, by omega, heq⟩

end EndsBlock

/-- **In a nested program a walk keeps to the blocks:** each command is read in the block in which
it stands. -/
theorem endsBlock_of_mem_visits (hnested : IsNested commands) (limits : Limits) (start stop : Nat)
    (hclosed : IsClosed commands start stop) (hblock : EndsBlock commands start stop) :
    ∀ depth written walked,
      walk true limits commands start stop depth written = some walked →
        ∀ visit ∈ walked.visits, EndsBlock commands visit.place visit.stop := by
  induction start, stop using expand.induct commands with
  | case1 start stop hlt instruction hcommand ih =>
    intro depth written walked hwalk visit hvisit
    rcases of_mem_visits_op hlt hcommand hwalk hvisit with rfl | ⟨rest, hrest, hmem⟩
    · exact hblock
    · exact ih (hclosed.mono (Nat.le_succ start)) (hblock.behind_op hcommand) depth _ rest hrest
        visit hmem
  | case2 start stop hlt count length hcommand next ihbody ihrest =>
    intro depth written walked hwalk visit hvisit
    have hnext : next = start + 1 + length.toNat := hclosed.bodyStop_eq hlt hcommand true
    rcases of_mem_visits_loop hlt hcommand hwalk hvisit with
      rfl | ⟨body, hbody, hmem⟩ | ⟨middle, rest, hrest, hmem⟩
    · exact hblock
    · have hinner : IsClosed commands (start + 1) next :=
        hnext ▸ hnested.bodies start count length hcommand
      have hwhole := hclosed start count length (Nat.le_refl start) hlt hcommand
      exact ihbody hinner (hnext ▸ hblock.body hcommand hwhole) (depth + 1) written body hbody
        visit hmem
    · exact ihrest (hclosed.mono (by omega)) (hnext ▸ hblock.behind_body hnested hcommand) depth
        middle rest hrest visit hmem
  | case3 start stop hlt hcommand =>
    intro depth written walked hwalk
    rw [walk_of_getElem?_eq_none hlt hcommand] at hwalk
    cases hwalk
  | case4 start stop hlt =>
    intro depth written walked hwalk
    rw [walk_of_le (Nat.not_lt.1 hlt)] at hwalk
    obtain rfl := Option.some.inj hwalk
    simp

/-- The program is the block in which its first command stands. -/
theorem endsBlock_program (commands : List Command) : EndsBlock commands 0 commands.length where
  le_of_inside head _ _ _ hlt := absurd hlt head.not_lt_zero
  eq_length_or := Or.inl rfl

/-- The program of a walk through all commands is the unrolled one. -/
theorem exists_walk (limits : Limits) (commands : List Command) : ∃ walked,
    walk true limits commands 0 commands.length 0 #[] = some walked ∧
      walked.program = unroll limits commands := by
  have houtput := output_walk limits commands 0 commands.length (Nat.le_refl _) 0 #[]
  obtain ⟨walked, hwalk, hunroll⟩ := Option.map_eq_some_iff.1 houtput
  rw [List.take_length, List.drop_zero] at hunroll
  refine ⟨walked, hwalk, ?_⟩
  rw [Walk.program, hunroll]
  rfl

/-- **A program that was read is unrolled without a cut.**  Under any limits the writer comes to its
commands one after the other, each in the block in which it stands: to all of them if it succeeds,
and up to a head that it refuses.  Each head that it comes to finds all the lines that it owns in
its block, and to take exactly these lines for the body, wherever the block ends, makes no
difference. -/
theorem unroll_without_cuts {lines : List Line} {commands : List Command}
    (h : read lines = .ok commands) (limits : Limits) : ∃ walked,
      walk true limits commands 0 commands.length 0 #[] = some walked ∧
        walked.program = unroll limits commands ∧
        walked.visits.map Visit.place = List.range walked.visits.length ∧
        (∀ program, unroll limits commands = .ok program →
          walked.visits.length = commands.length) ∧
        (∀ index limit, unroll limits commands = .error (.nestingTooDeep index limit) →
          walked.visits.length = index + 1) ∧
        (∀ visit ∈ walked.visits, EndsBlock commands visit.place visit.stop) ∧
        (∀ visit ∈ walked.visits, ∀ count length,
          commands[visit.place]? = some (loop count length) →
            visit.place + 1 + length.toNat ≤ visit.stop) ∧
        walk false limits commands 0 commands.length 0 #[] = some walked := by
  have hnested := isNested_of_read h
  obtain ⟨walked, hwalk, hprogram⟩ := exists_walk limits commands
  have hcomplete := isComplete_of_walk limits commands 0 _ (Nat.zero_le _) 0 #[] walked hwalk
  refine ⟨walked, hwalk, hprogram, ?_, fun program hunroll => ?_, fun index limit hunroll => ?_,
    ?_, ?_, ?_⟩
  · rw [hcomplete.places, List.range_eq_range']
  · have hall := hcomplete.all (Walk.outcome_eq_of_program_eq (hprogram.trans hunroll))
    rwa [Nat.zero_add] at hall
  · have hhead := hcomplete.refused index limit
      (Walk.outcome_eq_of_program_eq (hprogram.trans hunroll))
    rwa [Nat.zero_add] at hhead
  · exact endsBlock_of_mem_visits hnested limits 0 _ hnested.program (endsBlock_program commands) 0
      #[] walked hwalk
  · exact isWhole_of_mem_visits hnested limits 0 _ hnested.program 0 #[] walked hwalk
  · rw [walk_eq_of_isClosed hnested limits 0 _ hnested.program, hwalk]

/-- Three blocks with two ends, under limits that are used up. -/
theorem unroll_without_cuts_nested :
    let lines : List Line := [⟨0, ["for", "2", "4"]⟩, ⟨2, ["nop"]⟩, ⟨3, ["for", "3", "2"]⟩,
      ⟨4, ["for", "1", "1"]⟩, ⟨5, ["print"]⟩, ⟨7, ["exit"]⟩]
    let commands : List Command := [.loop 2 4, .op (.nop none), .loop 3 2, .loop 1 1, .op .print,
      .op .exit]
    read lines = .ok commands ∧ ∃ walked,
      walk true ⟨3, 9⟩ commands 0 6 0 #[] = some walked ∧
        walked.program = unroll ⟨3, 9⟩ commands ∧
        walked.visits = [⟨0, 6, 0⟩, ⟨1, 5, 1⟩, ⟨2, 5, 1⟩, ⟨3, 5, 2⟩, ⟨4, 5, 3⟩, ⟨5, 6, 0⟩] ∧
        (∀ visit ∈ walked.visits, EndsBlock commands visit.place visit.stop) ∧
        (∀ visit ∈ walked.visits, visit.IsWhole commands) ∧
        walk false ⟨3, 9⟩ commands 0 6 0 #[] = some walked := by
  intro lines commands
  have h : read lines = .ok commands := by decide
  have hvisits : (walk true ⟨3, 9⟩ commands 0 6 0 #[]).map Walk.visits
      = some [⟨0, 6, 0⟩, ⟨1, 5, 1⟩, ⟨2, 5, 1⟩, ⟨3, 5, 2⟩, ⟨4, 5, 3⟩, ⟨5, 6, 0⟩] := by
    decide +kernel
  obtain ⟨walked, hwalk, hprogram, -, -, -, hblocks, hwhole, hsame⟩ := unroll_without_cuts h ⟨3, 9⟩
  have hwalk' : walk true ⟨3, 9⟩ commands 0 6 0 #[] = some walked := hwalk
  rw [hwalk'] at hvisits
  exact ⟨h, walked, hwalk, hprogram, Option.some.inj hvisits, hblocks, hwhole, hsame⟩

end Command

end Reverb
