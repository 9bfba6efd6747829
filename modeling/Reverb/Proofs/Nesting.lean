import Mathlib.Data.List.Basic
import Mathlib.Order.Bounds.Defs
import Reverb.Program.Nesting

/-!
# Proofs/Nesting — which programs are read

`Command.read` compares a block with the innermost of those that are open and with nothing else.
That is enough: the stops that it keeps stand in ascending order, and those behind the line it has
come to are the stops of exactly the blocks that reach this line (`Tracks`).  So a program is read
exactly if each block fits into every block around its head (`read_eq_ok_iff`), and otherwise the
first line that offends is refused (`read_eq_error_iff`).
-/

namespace Reverb

namespace Command

/-! ## Blocks of command lines, by places -/

variable {lines rest : List Line} {place length index : Nat} {stops : List Nat} {line : Line}
variable {commands : List Command} {count size : UInt8} {reason : Reason}

/-- The command line at a place opens a block, which owns the `length` lines behind it. -/
def Opens (lines : List Line) (place length : Nat) : Prop :=
  ∃ line count size, lines[place]? = some line ∧ line.decode = .ok (loop count size) ∧
    size.toNat = length

/-- **A block fits:** its last line lies in the program, and in every block that was opened before
and reaches its head. -/
structure Fits (lines : List Line) (place length : Nat) : Prop where
  in_program : place + length ≤ lines.length - 1
  in_blocks : ∀ outer around, outer < place → Opens lines outer around → place ≤ outer + around →
    place + length ≤ outer + around

/-- **What is to blame on a line:** it says no command, or it opens a block that does not fit. -/
inductive Offends (lines : List Line) (place : Nat) : Reason → Prop where
  | undecodable {line : Line} {reason : Reason} (hline : lines[place]? = some line)
      (hdecode : line.decode = .error reason) : Offends lines place reason
  | unfit {length : Nat} (hopens : Opens lines place length)
      (hfits : ¬Fits lines place length) : Offends lines place (.unclosedBlock 2)

theorem opens_of_loop (hline : lines[place]? = some line)
    (hdecode : line.decode = .ok (loop count size)) : Opens lines place size.toNat :=
  ⟨line, count, size, hline, hdecode, rfl⟩

theorem length_eq_of_opens (hline : lines[place]? = some line)
    (hdecode : line.decode = .ok (loop count size)) (h : Opens lines place length) :
    size.toNat = length := by
  obtain ⟨line', count', size', hline', hdecode', rfl⟩ := h
  obtain rfl := Option.some.inj (hline.symm.trans hline')
  cases hdecode.symm.trans hdecode'
  rfl

theorem not_opens_of_op {instruction : Instruction} (hline : lines[place]? = some line)
    (hdecode : line.decode = .ok (op instruction)) : ¬Opens lines place length := by
  rintro ⟨line', count', size', hline', hdecode', -⟩
  obtain rfl := Option.some.inj (hline.symm.trans hline')
  cases hdecode.symm.trans hdecode'

theorem not_opens_of_error (hline : lines[place]? = some line)
    (hdecode : line.decode = .error reason) : ¬Opens lines place length := by
  rintro ⟨line', count', size', hline', hdecode', -⟩
  obtain rfl := Option.some.inj (hline.symm.trans hline')
  cases hdecode.symm.trans hdecode'

theorem Offends.lt_length (h : Offends lines place reason) : place < lines.length := by
  cases h with
  | undecodable hline => exact (List.getElem?_eq_some_iff.1 hline).1
  | unfit hopens =>
    obtain ⟨line, count, size, hline, -⟩ := hopens
    exact (List.getElem?_eq_some_iff.1 hline).1

/-- A line has one reason to be refused at most. -/
theorem Offends.reason_eq {other : Reason} (h : Offends lines place reason)
    (h' : Offends lines place other) : reason = other := by
  cases h with
  | undecodable hline hdecode =>
    cases h' with
    | undecodable hline' hdecode' =>
      obtain rfl := Option.some.inj (hline.symm.trans hline')
      cases hdecode.symm.trans hdecode'
      rfl
    | unfit hopens => exact absurd hopens (not_opens_of_error hline hdecode)
  | unfit hopens =>
    cases h' with
    | undecodable hline' hdecode' => exact absurd hopens (not_opens_of_error hline' hdecode')
    | unfit => rfl

/-! ## The stops of the open blocks -/

/-- **The stops that reading keeps** before the line at `index`. -/
structure Tracks (lines : List Line) (index : Nat) (stops : List Nat) : Prop where
  /-- The innermost block comes first. -/
  sorted : stops.Pairwise (· ≤ ·)
  /-- No block reaches past the program. -/
  le_length : ∀ stop ∈ stops, stop ≤ lines.length
  /-- The stops behind this line are those of the blocks that reach it. -/
  mem_iff : ∀ stop, index < stop →
    (stop ∈ stops ↔ ∃ outer around, outer < index ∧ Opens lines outer around ∧
      outer + 1 + around = stop)

/-- In ascending order, to drop the stops up to a place is to keep those behind it. -/
theorem mem_dropWhile_iff (hsorted : stops.Pairwise (· ≤ ·)) {stop : Nat} :
    stop ∈ stops.dropWhile (· ≤ index) ↔ stop ∈ stops ∧ index < stop := by
  induction stops with
  | nil => simp
  | cons first others ih =>
    obtain ⟨hfirst, hothers⟩ := List.pairwise_cons.1 hsorted
    rw [List.dropWhile_cons]
    split
    · next hle =>
      rw [ih hothers, List.mem_cons, or_and_right]
      exact ⟨Or.inr, fun h => h.resolve_left fun ⟨heq, hlt⟩ => by
        rw [decide_eq_true_iff] at hle
        omega⟩
    · next hlt =>
      rw [decide_eq_true_iff] at hlt
      refine ⟨fun hmem => ⟨hmem, ?_⟩, And.left⟩
      rcases List.mem_cons.1 hmem with rfl | hmem
      · omega
      · exact Nat.lt_of_lt_of_le (Nat.not_le.1 hlt) (hfirst stop hmem)

namespace Tracks

theorem start (lines : List Line) : Tracks lines 0 [] where
  sorted := List.Pairwise.nil
  le_length := by simp
  mem_iff := by simp

theorem dropWhile_sorted (h : Tracks lines index stops) :
    (stops.dropWhile (· ≤ index)).Pairwise (· ≤ ·) :=
  h.sorted.sublist (List.dropWhile_sublist _)

/-- A place is within the innermost open block exactly if it is within all of them. -/
theorem le_headD_iff (h : Tracks lines index stops) {stop : Nat} :
    stop ≤ (stops.dropWhile (· ≤ index)).headD lines.length ↔
      stop ≤ lines.length ∧ ∀ other ∈ stops, index < other → stop ≤ other := by
  have hall : (∀ other ∈ stops, index < other → stop ≤ other) ↔
      ∀ other ∈ stops.dropWhile (· ≤ index), stop ≤ other :=
    forall_congr' fun other => by rw [mem_dropWhile_iff h.sorted, and_imp]
  have hbounded : ∀ other ∈ stops.dropWhile (· ≤ index), other ≤ lines.length := fun other hmem =>
    h.le_length other ((mem_dropWhile_iff h.sorted).1 hmem).1
  have hsorted := h.dropWhile_sorted
  rw [hall]
  cases hopen : stops.dropWhile (· ≤ index) with
  | nil => simp
  | cons first others =>
    rw [hopen] at hbounded hsorted
    have hfirst := (List.pairwise_cons.1 hsorted).1
    rw [List.headD_cons]
    constructor
    · intro hle
      refine ⟨Nat.le_trans hle (hbounded first List.mem_cons_self), fun other hmem => ?_⟩
      rcases List.mem_cons.1 hmem with rfl | hmem
      · exact hle
      · exact Nat.le_trans hle (hfirst other hmem)
    · exact fun hle => hle.2 first List.mem_cons_self

/-- **The innermost open block decides whether a block fits.** -/
theorem fits_iff (h : Tracks lines index stops) (hlt : index < lines.length) :
    Fits lines index length ↔
      index + 1 + length ≤ (stops.dropWhile (· ≤ index)).headD lines.length := by
  rw [h.le_headD_iff]
  constructor
  · rintro ⟨hprogram, hblocks⟩
    refine ⟨by omega, fun other hmem hbehind => ?_⟩
    obtain ⟨outer, around, houter, hopens, rfl⟩ := (h.mem_iff other hbehind).1 hmem
    have := hblocks outer around houter hopens (by omega)
    omega
  · rintro ⟨hprogram, hopen⟩
    refine ⟨by omega, fun outer around houter hopens hreach => ?_⟩
    have := hopen (outer + 1 + around)
      ((h.mem_iff _ (by omega)).2 ⟨outer, around, houter, hopens, rfl⟩) (by omega)
    omega

/-- Behind an instruction the same blocks are open. -/
theorem behind_op (h : Tracks lines index stops) (hop : ∀ length, ¬Opens lines index length) :
    Tracks lines (index + 1) (stops.dropWhile (· ≤ index)) where
  sorted := h.dropWhile_sorted
  le_length stop hmem := h.le_length stop ((mem_dropWhile_iff h.sorted).1 hmem).1
  mem_iff stop hlt := by
    rw [mem_dropWhile_iff h.sorted, and_iff_left (Nat.lt_of_succ_lt hlt),
      h.mem_iff stop (Nat.lt_of_succ_lt hlt)]
    refine exists_congr fun outer => exists_congr fun around => ⟨?_, ?_⟩
    · rintro ⟨houter, hopens, heq⟩
      exact ⟨Nat.lt_succ_of_lt houter, hopens, heq⟩
    · rintro ⟨houter, hopens, heq⟩
      refine ⟨Nat.lt_of_le_of_ne (Nat.le_of_lt_succ houter) ?_, hopens, heq⟩
      rintro rfl
      exact hop around hopens

/-- Behind the head of a block that fits this block is the innermost one. -/
theorem behind_head (h : Tracks lines index stops) (hhead : Opens lines index length)
    (hunique : ∀ other, Opens lines index other → length = other)
    (hfits : index + 1 + length ≤ (stops.dropWhile (· ≤ index)).headD lines.length) :
    Tracks lines (index + 1) ((index + 1 + length) :: stops.dropWhile (· ≤ index)) := by
  obtain ⟨hprogram, hopen⟩ := h.le_headD_iff.1 hfits
  refine ⟨List.pairwise_cons.2 ⟨fun stop hmem => ?_, h.dropWhile_sorted⟩, fun stop hmem => ?_,
    fun stop hlt => ?_⟩
  · obtain ⟨hstop, hlt⟩ := (mem_dropWhile_iff h.sorted).1 hmem
    exact hopen stop hstop hlt
  · rcases List.mem_cons.1 hmem with rfl | hmem
    · exact hprogram
    · exact h.le_length stop ((mem_dropWhile_iff h.sorted).1 hmem).1
  · rw [List.mem_cons, mem_dropWhile_iff h.sorted, and_iff_left (Nat.lt_of_succ_lt hlt),
      h.mem_iff stop (Nat.lt_of_succ_lt hlt)]
    constructor
    · rintro (rfl | ⟨outer, around, houter, hopens, heq⟩)
      · exact ⟨index, length, Nat.lt_succ_self index, hhead, rfl⟩
      · exact ⟨outer, around, Nat.lt_succ_of_lt houter, hopens, heq⟩
    · rintro ⟨outer, around, houter, hopens, rfl⟩
      rcases Nat.eq_or_lt_of_le (Nat.le_of_lt_succ houter) with rfl | houter
      · exact Or.inl (by rw [hunique around hopens])
      · exact Or.inr ⟨outer, around, houter, hopens, rfl⟩

end Tracks

/-! ## What an outcome of reading says about the lines -/

/-- **What an outcome says about the lines from a place on:** a success, that they say these
commands and none of them offends; a refusal, that this line offends and none of them before it. -/
def Judges (lines : List Line) (index : Nat) (rest : List Line) :
    Except Rejection (List Command) → Prop
  | .ok commands => rest.map Line.decode = commands.map .ok ∧
      ∀ place reason, index ≤ place → ¬Offends lines place reason
  | .error rejection => index ≤ rejection.index ∧ lines[rejection.index]? = some rejection.line ∧
      Offends lines rejection.index rejection.reason ∧
      ∀ place reason, index ≤ place → place < rejection.index → ¬Offends lines place reason

/-- A line that does not offend changes nothing about the outcome behind it. -/
theorem Judges.cons {command : Command} {outcome : Except Rejection (List Command)}
    (hdecode : line.decode = .ok command) (hgood : ∀ reason, ¬Offends lines index reason)
    (h : Judges lines (index + 1) rest outcome) :
    Judges lines index (line :: rest) (outcome.map (command :: ·)) := by
  have hbehind {place : Nat} {reason : Reason} (hle : index ≤ place)
      (hoffends : Offends lines place reason) : index + 1 ≤ place :=
    Nat.lt_of_le_of_ne hle fun heq => hgood reason (heq ▸ hoffends)
  match outcome, h with
  | .ok commands, ⟨hcommands, hgood'⟩ =>
    refine ⟨?_, fun place reason hle hoffends => ?_⟩
    · rw [List.map_cons, hcommands, hdecode, List.map_cons]
    · exact hgood' place reason (hbehind hle hoffends) hoffends
  | .error rejection, ⟨hle, hline, hoffends, hfirst⟩ =>
    refine ⟨Nat.le_of_succ_le hle, hline, hoffends, fun place reason hle' hlt hoffends' => ?_⟩
    exact hfirst place reason (hbehind hle' hoffends') hlt hoffends'

/-- The refusal of a line that offends. -/
theorem judges_refusal (hline : lines[index]? = some line)
    (hoffends : Offends lines index reason) :
    Judges lines index (line :: rest) (.error ⟨index, line, reason⟩) :=
  ⟨Nat.le_refl index, hline, hoffends, fun _ _ hle hlt => absurd hlt (Nat.not_lt.2 hle)⟩

/-- A line that says a command offends only by a block that does not fit. -/
theorem not_offends_of_ok {command : Command} (hline : lines[index]? = some line)
    (hdecode : line.decode = .ok command)
    (hfits : ∀ length, Opens lines index length → Fits lines index length) (reason : Reason) :
    ¬Offends lines index reason := by
  intro hoffends
  cases hoffends with
  | undecodable hline' hdecode' =>
    obtain rfl := Option.some.inj (hline.symm.trans hline')
    rw [hdecode] at hdecode'
    cases hdecode'
  | unfit hopens hunfit => exact hunfit (hfits _ hopens)

/-- **Every outcome of reading judges the lines right.** -/
theorem judges_readFrom (h : Tracks lines index stops) (hrest : lines.drop index = rest) :
    Judges lines index rest (readFrom lines.length index stops rest) := by
  induction rest generalizing index stops with
  | nil =>
    refine ⟨rfl, fun place reason hle hoffends => ?_⟩
    have := hoffends.lt_length
    have := List.drop_eq_nil_iff.1 hrest
    omega
  | cons line rest ih =>
    have hline : lines[index]? = some line := by rw [← List.head?_drop, hrest, List.head?_cons]
    have hlt : index < lines.length := (List.getElem?_eq_some_iff.1 hline).1
    have hbehind : lines.drop (index + 1) = rest := by rw [← List.tail_drop, hrest, List.tail_cons]
    rw [readFrom]
    cases hdecode : line.decode with
    | error reason => exact judges_refusal hline (.undecodable hline hdecode)
    | ok command =>
      cases command with
      | op instruction =>
        have hop : ∀ length, ¬Opens lines index length := fun _ => not_opens_of_op hline hdecode
        exact (ih (h.behind_op hop) hbehind).cons hdecode
          (not_offends_of_ok hline hdecode fun length hopens => absurd hopens (hop length))
      | loop count size =>
        have hhead := opens_of_loop hline hdecode
        have hunique : ∀ other, Opens lines index other → size.toNat = other := fun other =>
          length_eq_of_opens hline hdecode
        simp only [stop?]
        split
        · next hfits =>
          exact (ih (h.behind_head hhead hunique hfits) hbehind).cons hdecode
            (not_offends_of_ok hline hdecode fun length hopens =>
              hunique length hopens ▸ (h.fits_iff hlt).2 hfits)
        · next hunfit =>
          exact judges_refusal hline (.unfit hhead fun hfits => hunfit ((h.fits_iff hlt).1 hfits))

/-! ## Reading a whole program -/

theorem judges_read (lines : List Line) : Judges lines 0 lines (read lines) :=
  judges_readFrom (Tracks.start lines) rfl

/-- Where every line says a command, a line offends exactly if its block does not fit. -/
theorem not_offends_iff (hcommands : lines.map Line.decode = commands.map .ok) :
    (∀ place reason, ¬Offends lines place reason) ↔
      ∀ place length, Opens lines place length → Fits lines place length := by
  constructor
  · intro hgood place length hopens
    by_contra hunfit
    exact hgood place _ (.unfit hopens hunfit)
  · rintro hfits place reason hoffends
    cases hoffends with
    | undecodable hline hdecode =>
      have hmap : (lines.map Line.decode)[place]? = some (.error reason) := by
        rw [List.getElem?_map, hline, Option.map_some, hdecode]
      rw [hcommands, List.getElem?_map, Option.map_eq_some_iff] at hmap
      obtain ⟨command, -, heq⟩ := hmap
      cases heq
    | unfit hopens hunfit => exact hunfit (hfits place _ hopens)

/-- **A program is read exactly if every line says a command and every block fits.** -/
theorem read_eq_ok_iff : read lines = .ok commands ↔
    lines.map Line.decode = commands.map .ok ∧
      ∀ place length, Opens lines place length → Fits lines place length := by
  have hjudges := judges_read lines
  constructor
  · intro h
    rw [h] at hjudges
    obtain ⟨hcommands, hgood⟩ := hjudges
    exact ⟨hcommands, (not_offends_iff hcommands).1 fun place reason =>
      hgood place reason (Nat.zero_le place)⟩
  · rintro ⟨hcommands, hfits⟩
    have hgood := (not_offends_iff hcommands).2 hfits
    cases h : read lines with
    | ok others =>
      rw [h] at hjudges
      have hsame := List.map_injective_iff.2 (fun _ _ heq => Except.ok.inj heq)
        (hcommands.symm.trans hjudges.1)
      rw [hsame]
    | error rejection =>
      rw [h] at hjudges
      exact absurd hjudges.2.2.1 (hgood _ _)

/-- **A program is refused exactly for the first line that offends.** -/
theorem read_eq_error_iff {rejection : Rejection} : read lines = .error rejection ↔
    IsLeast {place | ∃ reason, Offends lines place reason} rejection.index ∧
      lines[rejection.index]? = some rejection.line ∧
      Offends lines rejection.index rejection.reason := by
  have hjudges := judges_read lines
  constructor
  · intro h
    rw [h] at hjudges
    obtain ⟨-, hline, hoffends, hfirst⟩ := hjudges
    refine ⟨⟨⟨_, hoffends⟩, ?_⟩, hline, hoffends⟩
    rintro place ⟨reason, hoffends'⟩
    exact Nat.not_lt.1 fun hlt => hfirst place reason (Nat.zero_le place) hlt hoffends'
  · rintro ⟨hleast, hline, hoffends⟩
    cases h : read lines with
    | ok commands =>
      rw [h] at hjudges
      exact absurd hoffends (hjudges.2 _ _ (Nat.zero_le _))
    | error other =>
      rw [h] at hjudges
      obtain ⟨-, hline', hoffends', hfirst⟩ := hjudges
      have hindex : rejection.index = other.index := by
        refine Nat.le_antisymm (hleast.2 ⟨_, hoffends'⟩) (Nat.not_lt.1 fun hlt => ?_)
        exact hfirst _ _ (Nat.zero_le _) hlt hoffends
      obtain ⟨index, line, reason⟩ := rejection
      obtain ⟨index', line', reason'⟩ := other
      obtain rfl : index = index' := hindex
      obtain rfl : line = line' := Option.some.inj (hline.symm.trans hline')
      obtain rfl : reason = reason' := hoffends.reason_eq hoffends'
      rfl

/-- **Reading is exact.**  It gives the commands that the lines say, if every line says one and
every block ends in the program and in each block that reaches its head.  Else it refuses the first
line that offends, with this line's words and its place in the source: for the reason why it says no
command, or else because of the second parameter of its block. -/
theorem read_exact (lines : List Line) :
    (∀ commands, read lines = .ok commands ↔
      lines.map Line.decode = commands.map .ok ∧
        ∀ place length, Opens lines place length → Fits lines place length) ∧
    ∀ rejection, read lines = .error rejection ↔
      IsLeast {place | ∃ reason, Offends lines place reason} rejection.index ∧
        lines[rejection.index]? = some rejection.line ∧
        Offends lines rejection.index rejection.reason :=
  ⟨fun _ => read_eq_ok_iff, fun _ => read_eq_error_iff⟩

end Command

end Reverb
