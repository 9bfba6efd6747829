import Mathlib.Algebra.BigOperators.Intervals
import Mathlib.Data.Nat.ModEq
import Reverb.Proofs.History
import Reverb.Proofs.SoundSum

/-!
# Proofs/DelayNetwork — without structural walls a program is a delay network

Where no structural wall was placed a sound is away for twice the distance of its own wall, whatever
else is under way (`Chamber.sum_after_of_free`).  A program that places no wall is therefore a
network of delays with feedback: each sound sum is, modulo 256, the sum of what the steps before
asked for, each after its own delay (`Machine.sum_stage_modEq`).
-/

namespace Reverb

open Reverb.Action

/-! ## Runs without structural walls -/

/-- The intensities that some actions bring home in one tick, if every sound is away for twice the
distance of its wall; `time` ticks went before. -/
def Action.arrivals (home : Nat) : Nat → List Action → Nat
  | _, [] => 0
  | time, .send _ intensity distance :: rest =>
    (if (0 < intensity ∧ intensity < 256) ∧ time + 2 * distance = home then intensity else 0)
      + arrivals home time rest
  | time, .place .. :: rest => arrivals home time rest
  | time, .tick :: rest => arrivals home (time + 1) rest

namespace Action

variable {home time : Nat}

theorem arrivals_append (first second : List Action) : arrivals home time (first ++ second)
    = arrivals home time first + arrivals home (time + tickCount first) second := by
  induction first generalizing time with
  | nil => rw [List.nil_append, arrivals, tickCount_nil, Nat.zero_add, Nat.add_zero]
  | cons action rest ih =>
    cases action with
    | send direction intensity distance =>
      rw [List.cons_append, arrivals, arrivals, ih, tickCount_send_cons, Nat.add_assoc]
    | place direction distance =>
      rw [List.cons_append, arrivals, arrivals, ih, tickCount_place_cons]
    | tick =>
      rw [List.cons_append, arrivals, arrivals, ih, tickCount_tick_cons, Nat.add_assoc time,
        Nat.add_comm 1]

theorem arrivals_places (directions : List Nat) (distance : Nat) : arrivals home time
    (directions.map fun direction => .place direction distance) = 0 := by
  induction directions with
  | nil => rfl
  | cons direction rest ih => exact ih

/-- What is sent in several directions comes home at once. -/
theorem arrivals_sends (directions : List Nat) (intensity distance : Nat) : arrivals home time
    (directions.map fun direction => .send direction intensity distance)
      = if time + 2 * distance = home then
          directions.length * if 0 < intensity ∧ intensity < 256 then intensity else 0
        else 0 := by
  induction directions with
  | nil => simp [arrivals]
  | cons direction rest ih =>
    rw [List.map_cons, arrivals, ih, List.length_cons]
    by_cases hhome : time + 2 * distance = home
    · simp only [hhome, and_true, if_true]
      rw [Nat.succ_mul, Nat.add_comm]
    · simp only [hhome, and_false, if_false]

end Action

namespace Chamber

variable {home time : Nat} {run : List Action}

/-- Flights of twice the distance of their wall bring home what the actions say. -/
theorem sum_flights_eq_arrivals (chamber : Chamber) (time : Nat) (actions : List Action) :
    (((chamber.flights time actions).filter fun flight =>
      flight.sentAt + 2 * flight.distance = home).map Flight.intensity).sum
        = arrivals home time actions := by
  induction actions generalizing chamber time with
  | nil => rfl
  | cons action actions ih =>
    cases action with
    | send direction intensity distance =>
      rw [flights, List.filter_append, List.map_append, List.sum_append, ih, arrivals]
      congr 1
      by_cases hrange : 0 < intensity ∧ intensity < 256
      · rw [flight?_of_in_range chamber time direction distance actions hrange]
        by_cases hhome : time + 2 * distance = home
        · simp [hrange, hhome]
        · simp [hhome]
      · rw [flight?_of_out_of_range chamber time direction distance actions hrange]
        simp [hrange]
    | place direction distance => exact ih _ time
    | tick => exact ih _ (time + 1)

/-- Without structural walls a flight ends in the last tick of a run exactly if it was sent twice
the distance of its wall before. -/
theorem homeAt_eq_tickCount_iff {flight : Flight} (hsends : sendCount run < 2 ^ 63)
    (hreach : ∀ direction intensity distance, .send direction intensity distance ∈ run →
      0 < distance ∧ distance ≤ maxDistance)
    (hfree : ∀ direction distance, .place direction distance ∉ run)
    (hflight : flight ∈ ({} : Chamber).flights 0 run) :
    flight.homeAt = some (tickCount run) ↔
      flight.sentAt + 2 * flight.distance = tickCount run := by
  obtain ⟨before, direction, intensity, distance, rest, rfl, hf⟩ := exists_of_mem_flights hflight
  obtain ⟨hpos, hmax⟩ := hreach direction intensity distance
    (List.mem_append_right _ List.mem_cons_self)
  have hturn (b : Nat) (hb : flight.turn = some b) : b = flight.distance := by
    rw [turn_eq_distance hsends hpos hmax hf (hfree direction) hb, (eq_of_flight? hf).2]
  rw [Flight.homeAt, Option.map_eq_some_iff]
  constructor
  · rintro ⟨b, hb, hhome⟩
    rwa [hturn b hb] at hhome
  · intro hhome
    -- the run lasts long enough for the flight to turn
    have hlong : flight.distance < tickCount rest := by
      rw [tickCount_append, tickCount_send_cons] at hhome
      rw [(eq_of_flight? hf).2] at hhome ⊢
      dsimp only at hhome ⊢
      omega
    obtain ⟨b, hb⟩ := Option.isSome_iff_exists.1
      ((isCarried_after hsends hpos hmax hf (List.prefix_refl rest)).isSome_turn hlong)
    exact ⟨b, hb, by rwa [hturn b hb]⟩

/-- **Without structural walls** the sound sum is what was sent twice its distance ago. -/
theorem sum_after_of_free (hsends : sendCount run < 2 ^ 63)
    (hreach : ∀ direction intensity distance, .send direction intensity distance ∈ run →
      0 < distance ∧ distance ≤ maxDistance)
    (hfree : ∀ direction distance, .place direction distance ∉ run) :
    (after run).sum = UInt8.ofNat (arrivals (tickCount run) 0 run) := by
  rw [sum_after hsends hreach run (List.prefix_refl run), ← sum_flights_eq_arrivals {} 0 run,
    List.filter_congr fun flight hflight =>
      decide_eq_decide.2 (homeAt_eq_tickCount_iff hsends hreach hfree hflight)]

end Chamber

/-! ## Echoes -/

/-- The number of directions in the set, which are the bits of its mask. -/
def Directions.count (directions : Directions) : Nat :=
  (List.range 4).countP fun direction => directions.bits.testBit direction

theorem Directions.length_toList (directions : Directions) :
    directions.toList.length = directions.count := List.countP_eq_length_filter.symm

namespace Instruction

/-- The distance of the sounds that an instruction sends. -/
def reach : Instruction → Option Nat
  | .send _ distance _ => some distance.toNat
  | .redirect _ distance _ => some distance.toNat
  | .predirect _ distance _ => some distance.toNat
  | .input _ distance => some distance.toNat
  | _ => none

/-- **The echo of an instruction:** what it adds to the sound sum that its sounds come home to,
modulo 256. -/
def echo (sum : UInt8) (typed : Nat) : Instruction → Nat
  | .send directions _ intensity => directions.count * intensity.toNat
  | .redirect directions _ none => directions.count * sum.toNat
  | .redirect directions _ (some parity) =>
    directions.count * if parity % 2 = 0 then sum.toNat else 256 - sum.toNat
  | .predirect directions _ _ => directions.count * sum.toNat
  | .input directions _ => directions.count * if 1 ≤ typed ∧ typed ≤ 255 then typed else 0
  | _ => 0

/-- What cannot be heard is a multiple of 256. -/
theorem audible_modEq {intensity : Nat} (h : intensity ≤ 256) (count : Nat) :
    count * (if 0 < intensity ∧ intensity < 256 then intensity else 0)
      ≡ count * intensity [MOD 256] := by
  refine Nat.ModEq.mul_left count ?_
  split
  · exact Nat.ModEq.refl _
  · obtain rfl | rfl : intensity = 0 ∨ intensity = 256 := by omega
    · rfl
    · rfl

/-- A parity is odd if it is not even. -/
theorem redirected_some (sum : UInt8) (parity : UInt64) : redirected sum (some parity)
    = if parity % 2 = 0 then sum.toNat else 256 - sum.toNat := by
  have hparity : parity % 2 = 0 ∨ parity % 2 = 1 := by
    have hlt : (parity % 2).toNat < 2 := by
      rw [UInt64.toNat_mod]
      exact Nat.mod_lt _ (by decide)
    rw [← UInt64.toNat_inj, ← UInt64.toNat_inj]
    simp only [UInt64.toNat_zero, UInt64.toNat_one]
    omega
  rw [redirected]
  rcases hparity with heven | hodd
  · rw [if_neg (by simp [heven]), if_pos heven]
  · rw [if_pos hodd, if_neg (by simp [hodd])]

/-- What an instruction sends makes up its echo. -/
theorem echo_of_emission {sum : UInt8} {heard : Nat} {instruction : Instruction}
    {directions : Directions} {intensity distance : Nat}
    (h : instruction.emission sum heard = some (directions, intensity, distance)) :
    instruction.reach = some distance ∧
      directions.count * (if 0 < intensity ∧ intensity < 256 then intensity else 0)
        ≡ instruction.echo sum heard [MOD 256] := by
  have hbyte := Nat.le_of_lt sum.toNat_lt
  cases instruction with
  | send directions distance intensity =>
    cases h
    exact ⟨rfl, audible_modEq (Nat.le_of_lt intensity.toNat_lt) _⟩
  | redirect directions distance parity =>
    cases h
    cases parity with
    | none => exact ⟨rfl, audible_modEq hbyte _⟩
    | some parity =>
      refine ⟨rfl, ?_⟩
      rw [redirected_some, echo]
      refine audible_modEq ?_ _
      split <;> omega
  | predirect directions distance parity =>
    cases h
    exact ⟨rfl, audible_modEq hbyte _⟩
  | input directions distance =>
    cases h
    refine ⟨rfl, ?_⟩
    rw [echo]
    refine Nat.ModEq.mul_left _ ?_
    split <;> split <;> first | rfl | omega
  | nop | wall | print | condition | pcondition | exit => cases h

theorem reach_eq_none {sum : UInt8} {heard : Nat} {instruction : Instruction}
    (h : instruction.emission sum heard = none) : instruction.reach = none := by
  cases instruction <;> first | rfl | cases h

/-- The actions of an instruction bring home its echo, twice its distance later. -/
theorem arrivals_actions (home time : Nat) (sum : UInt8) (heard : Nat) (instruction : Instruction) :
    arrivals home time (instruction.actions sum heard) ≡
      if instruction.reach.any fun distance => time + 2 * distance = home
      then instruction.echo sum heard else 0 [MOD 256] := by
  obtain ⟨directions, distance, rfl, hactions⟩ | ⟨directions, intensity, distance, hemission,
    hactions⟩ | ⟨hemission, hactions⟩ := instruction.actions_cases sum heard
  · rw [hactions, arrivals_places]
    rfl
  · obtain ⟨hreach, hecho⟩ := echo_of_emission hemission
    rw [hactions, arrivals_sends, directions.length_toList, hreach, Option.any_some]
    by_cases hhome : time + 2 * distance = home
    · simpa only [hhome, decide_true, if_true] using hecho
    · simp only [hhome, decide_false, Bool.false_eq_true, if_false]
      rfl
  · rw [hactions, reach_eq_none hemission]
    rfl

/-- The sounds of an instruction go as far as it says, which is a byte. -/
theorem reach_of_send_mem {sum : UInt8} {heard : Nat} {instruction : Instruction}
    {direction intensity distance : Nat}
    (h : .send direction intensity distance ∈ instruction.actions sum heard) :
    instruction.reach = some distance ∧ distance ≤ maxDistance := by
  obtain ⟨directions, cell, -, hactions⟩ | ⟨directions, i, cell, hemission, hactions⟩ |
    ⟨-, hactions⟩ := instruction.actions_cases sum heard
  · simp [hactions] at h
  · rw [hactions, List.mem_map] at h
    obtain ⟨d, -, hsend⟩ := h
    cases hsend
    have hreach := (echo_of_emission hemission).1
    refine ⟨hreach, ?_⟩
    obtain ⟨byte, hbyte⟩ : ∃ byte : UInt8, byte.toNat = distance := by
      cases instruction <;> cases hreach <;> exact ⟨_, rfl⟩
    have := byte.toNat_lt
    rw [maxDistance, UInt32.size]
    omega
  · simp [hactions] at h

/-- Only an instruction that places walls places walls. -/
theorem eq_wall_of_place_mem {sum : UInt8} {heard : Nat} {instruction : Instruction}
    {direction distance : Nat} (h : .place direction distance ∈ instruction.actions sum heard) :
    ∃ directions cell, instruction = .wall directions cell := by
  obtain ⟨directions, cell, hwall, -⟩ | ⟨_, _, _, -, hactions⟩ | ⟨-, hactions⟩ :=
    instruction.actions_cases sum heard
  · exact ⟨directions, cell, hwall⟩
  · simp [hactions] at h
  · simp [hactions] at h

end Instruction

namespace Machine

variable {σ ε : Type} {port : Port σ ε} {terminal : Terminal σ ε} {machine : Machine} {outside : σ}

/-- **What one step adds to a later sound sum,** if it carries out an instruction of the right
distance; `time` steps went before. -/
def echo (terminal : Terminal σ ε) (home time : Nat) (machine : Machine) (outside : σ) : Nat :=
  match machine.turn with
  | .dispatch instruction =>
    if instruction.reach.any fun distance => time + 2 * distance = home then
      instruction.echo machine.chamber.sum <|
        match (terminal.readLine outside).1 with
        | .ok line => typedIntensity line.toList
        | .error _ => 0
    else 0
  | _ => 0

/-- What is sent depends on what was heard, and that on the line that was read. -/
theorem echo_of_converse {instruction : Instruction} {sum : UInt8} {heard : Nat} {after : σ}
    (h : machine.converse terminal instruction outside = (.ok heard, after)) :
    instruction.echo sum heard = instruction.echo sum
      (match (terminal.readLine outside).1 with
        | .ok line => typedIntensity line.toList
        | .error _ => 0) := by
  cases instruction with
  | input directions distance =>
    rw [converse] at h
    split at h
    · next line world hread =>
      rw [hread]
      cases h
      rfl
    · cases h
  | redirect directions distance parity => cases parity <;> rfl
  | nop | send | wall | predirect | print | condition | pcondition | exit => rfl

/-- What a call asks for comes home as its echo, if it gives `true`. -/
theorem arrivals_actions (h : (machine.callOn port outside).1 = .ok true) (home time : Nat) :
    arrivals home time (machine.actions port.toTerminal outside)
      ≡ machine.echo port.toTerminal home time outside [MOD 256] := by
  obtain hturn | ⟨instruction, heard, after, hturn, hheard⟩ := turn_of_callOn_true h
  · rw [actions_of_waiting hturn, echo, hturn]
    rfl
  · rw [actions_of_dispatch hturn hheard, arrivals_append, echo, hturn]
    dsimp only
    rw [← echo_of_converse hheard]
    exact instruction.arrivals_actions home time machine.chamber.sum heard

/-- What a number of calls asks for comes home as their echoes. -/
theorem arrivals_history {n : Nat} (h : ∀ k < n, machine.result port outside k = .ok true)
    (home : Nat) :
    arrivals home 0 (machine.history port outside n) ≡ ∑ time ∈ Finset.range n,
      (machine.called port outside time).1.echo port.toTerminal home time
        (machine.called port outside time).2 [MOD 256] := by
  induction n with
  | zero => rfl
  | succ n ih =>
    have hbefore : ∀ k < n, machine.result port outside k = .ok true :=
      fun k hk => h k (hk.trans n.lt_succ_self)
    rw [history_succ, arrivals_append, tickCount_history hbefore, Nat.zero_add,
      Finset.sum_range_succ]
    exact (ih hbefore).add (arrivals_actions (h n n.lt_succ_self) home n)

/-- What a program without instructions of distance 0 sends goes at least to the first cell, and no
further than a distance can be. -/
theorem reach_of_send_mem_history {direction intensity distance n : Nat}
    (hreach : ∀ instruction ∈ machine.program, ∀ distance, instruction.reach = some distance →
      1 ≤ distance)
    (hsend : .send direction intensity distance ∈ machine.history port outside n) :
    0 < distance ∧ distance ≤ maxDistance := by
  rcases mem_history hsend with htick | ⟨instruction, hmem, sum, heard, hact⟩
  · cases htick
  · obtain ⟨hdistance, hmax⟩ := Instruction.reach_of_send_mem hact
    exact ⟨hreach instruction hmem distance hdistance, hmax⟩

/-- A program without walls places none. -/
theorem place_not_mem_history (hfree : ∀ directions distance, .wall directions distance ∉
    machine.program) (direction distance n : Nat) :
    .place direction distance ∉ machine.history port outside n := by
  intro hplace
  rcases mem_history hplace with htick | ⟨instruction, hmem, sum, heard, hact⟩
  · cases htick
  · obtain ⟨directions, cell, rfl⟩ := Instruction.eq_wall_of_place_mem hact
    exact hfree directions cell hmem

/-- **Programs without walls are delay networks,** on any port, however it draws.  After each call
the sound sum is, modulo 256, the sum of the echoes of the earlier calls whose delay ends with it.
The bound on the program keeps the ids of its sounds below `2 ^ 63`; no program that fits into
memory comes near it. -/
theorem sum_stage_modEq {program : Array Instruction} {settings : Settings}
    (hfree : ∀ directions distance, .wall directions distance ∉ program)
    (hreach : ∀ instruction ∈ program, ∀ distance, instruction.reach = some distance →
      1 ≤ distance)
    (hsize : program.size < 2 ^ 61) {home : Nat}
    (h : ∀ k < home, result port { program, settings } outside k = .ok true) :
    let stage := called port { program, settings } outside
    (stage home).1.chamber.sum.toNat ≡ ∑ time ∈ Finset.range home,
      (stage time).1.echo port.toTerminal home time (stage time).2 [MOD 256] := by
  intro stage
  have hsends := sendCount_history_le port { program, settings } outside home
  let history := Machine.history port { program, settings } outside home
  have hsum : (Chamber.after history).sum = UInt8.ofNat (arrivals (tickCount history) 0 history) :=
    Chamber.sum_after_of_free (Nat.lt_of_le_of_lt hsends (by dsimp only; omega))
      (fun _ _ _ => reach_of_send_mem_history hreach)
      fun direction distance => place_not_mem_history hfree direction distance home
  calc (stage home).1.chamber.sum.toNat
      = (Chamber.after history).sum.toNat := congrArg _ (congrArg _ (chamber_called ..))
    _ = arrivals home 0 history % 256 := by rw [hsum, tickCount_history h, UInt8.toNat_ofNat']
    _ ≡ arrivals home 0 history [MOD 256] := Nat.mod_modEq _ _
    _ ≡ _ [MOD 256] := arrivals_history h home

/-- A typed letter comes home from two directions, and what is missing to 256 is sent again, on a
port that draws empty frames. -/
theorem sum_stage_modEq_feedback :
    let program : Array Instruction := #[.input ⟨5, by decide, by decide⟩ 1, .nop none,
      .redirect ⟨2, by decide, by decide⟩ 1 (some 1), .nop (some 3)]
    let port : Port Unit Unit :=
      { readLine := fun _ => (.ok "A", ()), write := fun _ _ => (.ok (), ()),
        draw := fun _ _ => (some "", ()) }
    let stage := called port { program } ()
    (∀ k < 4, result port { program } () k = .ok true) ∧
      (stage 4).1.chamber.sum.toNat ≡ 256 - 2 * 65 [MOD 256] := by
  intro program port stage
  have hgoes : ∀ k < 4, result port { program } () k = .ok true := by decide +kernel
  refine ⟨hgoes, (sum_stage_modEq (fun directions distance hmem => ?_)
    (fun instruction hmem distance hdistance => ?_) (by decide) hgoes).trans ?_⟩
  · simp [program] at hmem
  · simp only [program, List.mem_toArray, List.mem_cons, List.not_mem_nil, or_false] at hmem
    rcases hmem with rfl | rfl | rfl | rfl <;> cases hdistance <;> decide
  · decide +kernel

end Machine

end Reverb
