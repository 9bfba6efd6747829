import Mathlib.Data.List.Induction
import Reverb.Proofs.Orderly

/-!
# Proofs/Flight — when a sound turns, and when it is home

A `Flight` is a sound followed from its sending on.  It turns in the first tick that finds it in a
cell with a wall that turns it, `Flight.turn` ticks after it was sent; its own wall sees to it that
this happens after `Flight.distance` ticks at the latest.  From then on its way back is as long as
its way out, so `Flight.at?` tells at any time where the sound is (`Flight.IsCarried.run`).  Nothing
that other sounds do comes into it: they can take away structural walls, and that is all.
-/

namespace Reverb

open Reverb.Action

/-! ## Flights -/

/-- A sound from its sending on: `sentAt` ticks went before, and after `turn` more it stands in the
cell where the next tick turns it. -/
structure Flight where
  id : Nat
  direction : Nat
  intensity : Nat
  distance : Nat
  sentAt : Nat
  turn : Option Nat
  deriving DecidableEq

namespace Flight

/-- The sound still moves outward after `k` ticks. -/
def IsOut (flight : Flight) (k : Nat) : Prop := ∀ b ∈ flight.turn, k ≤ b

/-- The sound after `k` ticks on its way out. -/
def outward (flight : Flight) (k : Nat) : Sound :=
  ⟨flight.id, flight.direction, UInt8.ofNat flight.intensity, max k 1, 1, k == 0⟩

/-- The sound on its way back, at a distance. -/
def homeward (flight : Flight) (distance : Nat) : Sound :=
  ⟨flight.id, flight.direction, UInt8.ofNat flight.intensity, distance, -1, false⟩

/-- **The sound after `k` ticks,** if it is not home yet. -/
def at? (flight : Flight) (k : Nat) : Option Sound :=
  match flight.turn with
  | none => some (flight.outward k)
  | some b =>
    if k ≤ b then some (flight.outward k)
    else if k < 2 * b then some (flight.homeward (2 * b - k))
    else none

/-- The tick in which the sound comes home. -/
def homeAt (flight : Flight) : Option Nat := flight.turn.map fun b => flight.sentAt + 2 * b

/-- The personal wall of the sound. -/
def wall (flight : Flight) : Wall := ⟨flight.id, flight.direction, flight.distance, false⟩

variable {flight : Flight} {k b : Nat}

theorem at?_of_isOut (h : flight.IsOut k) : flight.at? k = some (flight.outward k) := by
  rw [at?]
  split
  · rfl
  · next b hb => rw [if_pos (h b hb)]

theorem at?_of_turned (hb : flight.turn = some b) (hlt : b < k) (hhome : k < 2 * b) :
    flight.at? k = some (flight.homeward (2 * b - k)) := by
  rw [at?, hb]
  dsimp only
  rw [if_neg (by omega), if_pos hhome]

theorem at?_of_home (hb : flight.turn = some b) (hpos : 0 < b) (hhome : 2 * b ≤ k) :
    flight.at? k = none := by
  rw [at?, hb]
  dsimp only
  rw [if_neg (by omega), if_neg (by omega)]

end Flight

namespace Chamber

/-! ## Looking for a sound, and for the wall that turns it -/

/-- The sound with an id, if there is one. -/
def sound? (chamber : Chamber) (id : Nat) : Option Sound :=
  chamber.sounds.find? fun sound => sound.id == id

/-- In a cell stands a wall that turns the sound with an id. -/
def isBlocked (chamber : Chamber) (id direction distance : Nat) : Bool :=
  chamber.walls.any fun wall =>
    wall.direction == direction && wall.distance == distance && (wall.id < 0 || wall.id == id)

/-- The chamber at the start of the tick after `k` others, if the actions get that far. -/
def atTick (chamber : Chamber) : List Action → Nat → Option Chamber
  | [], _ => none
  | .tick :: _, 0 => some chamber
  | .tick :: rest, k + 1 => chamber.tick.atTick rest k
  | action :: rest, k => (chamber.act action).atTick rest k

/-- **The first tick that finds a sound in a blocked cell:** the least `c` from 1 to `distance` such
that after `c` ticks of the actions the next one finds cell `c` blocked. -/
def turn? (chamber : Chamber) (actions : List Action) (id direction distance : Nat) : Option Nat :=
  (List.range' 1 distance).find? fun c =>
    (chamber.atTick actions c).any fun found => found.isBlocked id direction c

/-- The flight of a sound that is sent after `time` ticks, before the remaining actions. -/
def flight? (chamber : Chamber) (time direction intensity distance : Nat) (rest : List Action) :
    Option Flight :=
  (chamber.send direction intensity distance).1.map fun id =>
    { id, direction, intensity, distance, sentAt := time
      turn := (chamber.send direction intensity distance).2.turn? rest id direction distance }

variable {chamber : Chamber} {actions part rest : List Action} {id direction distance b : Nat}

theorem turn?_eq_some_iff : chamber.turn? actions id direction distance = some b ↔
    (∃ found, chamber.atTick actions b = some found ∧ found.isBlocked id direction b = true) ∧
      1 ≤ b ∧ b ≤ distance ∧ ∀ c, 1 ≤ c → c < b → ∀ found, chamber.atTick actions c = some found →
        found.isBlocked id direction c = false := by
  rw [turn?, List.find?_range'_eq_some, List.mem_range'_1]
  simp only [Option.any_eq_true, Bool.not_eq_true', Option.any_eq_false]
  refine and_congr_right fun _ => ?_
  constructor
  · rintro ⟨⟨h1, h2⟩, h3⟩
    exact ⟨h1, by omega, h3⟩
  · rintro ⟨h1, h2, h3⟩
    exact ⟨⟨h1, by omega⟩, h3⟩

theorem atTick_append (chamber : Chamber) (part rest : List Action) (k : Nat) :
    chamber.atTick (part ++ rest) (tickCount part + k) = (chamber.run part).atTick rest k := by
  induction part generalizing chamber with
  | nil => rw [tickCount_nil, Nat.zero_add, run_nil, List.nil_append]
  | cons action part ih =>
    cases action with
    | send direction intensity distance =>
      rw [tickCount_send_cons]
      exact ih _
    | place direction distance =>
      rw [tickCount_place_cons]
      exact ih _
    | tick =>
      rw [tickCount_tick_cons, Nat.add_right_comm]
      exact ih _

theorem atTick_append_tick (chamber : Chamber) (part rest : List Action) :
    chamber.atTick (part ++ .tick :: rest) (tickCount part) = some (chamber.run part) :=
  chamber.atTick_append part (.tick :: rest) 0

/-- The start of a tick splits the actions. -/
theorem exists_of_atTick {found : Chamber} {k : Nat} (h : chamber.atTick actions k = some found) :
    ∃ part rest, actions = part ++ .tick :: rest ∧ tickCount part = k ∧
      chamber.run part = found := by
  induction actions generalizing chamber k with
  | nil => simp [atTick] at h
  | cons action actions ih =>
    cases action with
    | send direction intensity distance =>
      obtain ⟨part, rest, rfl, rfl, hrun⟩ := ih h
      exact ⟨.send direction intensity distance :: part, rest, rfl, tickCount_send_cons .., hrun⟩
    | place direction distance =>
      obtain ⟨part, rest, rfl, rfl, hrun⟩ := ih h
      exact ⟨.place direction distance :: part, rest, rfl, tickCount_place_cons .., hrun⟩
    | tick =>
      cases k with
      | zero => exact ⟨[], actions, rfl, rfl, Option.some.inj h⟩
      | succ k =>
        obtain ⟨part, rest, rfl, rfl, hrun⟩ := ih h
        exact ⟨.tick :: part, rest, rfl, tickCount_tick_cons .., hrun⟩

/-- Sending leaves the sounds with smaller ids as they are. -/
theorem sound?_send_of_lt (hlt : id < chamber.nextSoundId) (direction intensity distance : Nat) :
    (chamber.send direction intensity distance).2.sound? id = chamber.sound? id := by
  by_cases hrange : 0 < intensity ∧ intensity < 256
  · rw [send_of_in_range chamber direction distance hrange, sound?, List.find?_append]
    have hne : (chamber.nextSoundId == id) = false := beq_eq_false_iff_ne.2 (Nat.ne_of_gt hlt)
    simp [hne, sound?]
  · rw [send_of_out_of_range chamber direction distance hrange]

namespace Orderly

theorem sound?_eq_some_iff (h : chamber.Orderly) {sound : Sound} :
    chamber.sound? id = some sound ↔ sound ∈ chamber.sounds ∧ sound.id = id := by
  constructor
  · intro hfind
    exact ⟨List.mem_of_find?_eq_some hfind, by simpa using List.find?_some hfind⟩
  · rintro ⟨hmem, rfl⟩
    obtain ⟨found, hfound⟩ := Option.isSome_iff_exists.1
      (List.find?_isSome (p := fun s => s.id == sound.id) |>.2 ⟨sound, hmem, by simp⟩)
    have hid : found.id = sound.id := by simpa using List.find?_some hfound
    rw [sound?, hfound, h.sound_eq (List.mem_of_find?_eq_some hfound) hmem hid]

/-- **What a tick does to one sound:** it takes its step, and at home it is gone. -/
theorem sound?_tick (h : chamber.Orderly) (id : Nat) :
    chamber.tick.sound? id = ((chamber.sound? id).map fun sound =>
      sound.next chamber.walls).filter fun s => !s.isHome := by
  refine Option.ext fun sound => ?_
  simp only [h.tick.sound?_eq_some_iff, mem_sounds_tick, Option.filter_eq_some_iff,
    Option.map_eq_some_iff, h.sound?_eq_some_iff, Sound.isHome, Bool.not_eq_true',
    beq_eq_false_iff_ne]
  constructor
  · rintro ⟨⟨⟨before, hbefore, rfl⟩, hhome⟩, hid⟩
    exact ⟨⟨before, ⟨hbefore, by rwa [Sound.id_next] at hid⟩, rfl⟩, hhome⟩
  · rintro ⟨⟨before, ⟨hbefore, hid⟩, rfl⟩, hhome⟩
    exact ⟨⟨⟨before, hbefore, rfl⟩, hhome⟩, by rwa [Sound.id_next]⟩

/-- On its way out a sound turns where its cell is blocked. -/
theorem turns_outward (h : chamber.Orderly) {flight : Flight} {k : Nat}
    (hs : flight.outward k ∈ chamber.sounds) (hk : 0 < k) :
    (flight.outward k).turns chamber.walls = chamber.isBlocked flight.id flight.direction k := by
  have hmeets : ∀ wall, (flight.outward k).meets wall = (wall.direction == flight.direction
      && wall.distance == k && (wall.id < 0 || wall.id == flight.id)) := fun wall => by
    rw [Bool.eq_iff_iff, h.meets_iff hs]
    simp [Flight.outward, Nat.max_eq_left hk, and_assoc]
  have hfresh : (k == 0) = false := beq_eq_false_iff_ne.2 (Nat.ne_of_gt hk)
  rw [isBlocked, Sound.turns, funext hmeets]
  simp [Flight.outward, hfresh]

end Orderly

end Chamber

/-! ## One tick of a flight -/

namespace Flight

variable {flight : Flight} {walls : List Wall} {k distance : Nat}

/-- In the tick after its sending a sound stays where it is. -/
theorem next_outward_zero (flight : Flight) (walls : List Wall) :
    (flight.outward 0).next walls = flight.outward 1 := by
  rw [Sound.next_of_fresh rfl]
  rfl

theorem next_outward_of_turns (hk : 0 < k) (hmax : k ≤ maxDistance)
    (h : (flight.outward k).turns walls = true) :
    (flight.outward k).next walls = flight.homeward (k - 1) := by
  have hfresh : (k == 0) = false := beq_eq_false_iff_ne.2 (Nat.ne_of_gt hk)
  rw [Sound.next_of_turns h]
  simp [outward, homeward, hfresh, Nat.max_eq_left hk, Sound.moved_neg_one hmax]

theorem next_outward_of_not_turns (hk : 0 < k) (hmax : k < maxDistance)
    (h : (flight.outward k).turns walls = false) :
    (flight.outward k).next walls = flight.outward (k + 1) := by
  have hfresh : (k == 0) = false := beq_eq_false_iff_ne.2 (Nat.ne_of_gt hk)
  rw [Sound.next_of_not_turns hfresh h]
  simp [outward, hfresh, Nat.max_eq_left hk, Sound.moved_one hmax]

theorem next_homeward (hmax : distance ≤ maxDistance) (walls : List Wall) :
    (flight.homeward distance).next walls = flight.homeward (distance - 1) := by
  have hturns : (flight.homeward distance).turns walls = false := by
    simp [Sound.turns, homeward]
  rw [Sound.next_of_not_turns rfl hturns]
  simp [homeward, Sound.moved_neg_one hmax]

/-! ## A whole flight -/

/-- The wall of the flight is within reach, and the sound turns there at the latest. -/
structure IsInReach (flight : Flight) : Prop where
  distance_pos : 0 < flight.distance
  distance_le : flight.distance ≤ maxDistance
  turn_range : ∀ b ∈ flight.turn, 0 < b ∧ b ≤ flight.distance

/-- **A chamber carries a flight,** `k` ticks after the sending: the sound is where the flight says,
and while it moves outward its wall stands and is not passed. -/
structure IsCarried (flight : Flight) (chamber : Chamber) (k : Nat) : Prop where
  id_lt : flight.id < chamber.nextSoundId
  sound_eq : chamber.sound? flight.id = flight.at? k
  wall_mem : flight.IsOut k → flight.wall ∈ chamber.walls
  le_distance : flight.IsOut k → k ≤ flight.distance

namespace IsCarried

variable {chamber : Chamber}

/-- The sound of a flight on its way out is in the chamber. -/
theorem outward_mem (h : flight.IsCarried chamber k) (ho : chamber.Orderly)
    (hout : flight.IsOut k) : flight.outward k ∈ chamber.sounds :=
  (ho.sound?_eq_some_iff.1 (h.sound_eq.trans (at?_of_isOut hout))).1

/-- Where the wall of a flight stands, the cell is blocked. -/
theorem isBlocked_distance (h : flight.IsCarried chamber k) (hout : flight.IsOut k) :
    chamber.isBlocked flight.id flight.direction flight.distance = true :=
  List.any_eq_true.2 ⟨flight.wall, h.wall_mem hout, by simp [wall]⟩

/-- A tick of a flight on its way out that does not turn it. -/
theorem tick_onward (h : flight.IsCarried chamber k) (ho : chamber.Orderly)
    (hout : flight.IsOut (k + 1)) (hle : k + 1 ≤ flight.distance)
    (hturns : (flight.outward k).turns chamber.walls = false)
    (hnext : (flight.outward k).next chamber.walls = flight.outward (k + 1)) :
    flight.IsCarried chamber.tick (k + 1) := by
  have hout' : flight.IsOut k := fun b hb => Nat.le_of_succ_le (hout b hb)
  refine ⟨h.id_lt, ?_, fun _ => ?_, fun _ => hle⟩
  · rw [ho.sound?_tick, h.sound_eq, at?_of_isOut hout', Option.map_some, hnext, at?_of_isOut hout]
    simp [Sound.isHome, outward]
  · refine ho.own_wall_mem_tick (h.outward_mem ho hout') (h.wall_mem hout') rfl hturns ?_
    rw [hnext]
    simp [outward]

/-- The tick that turns a flight. -/
theorem tick_turning (h : flight.IsCarried chamber k) (ho : chamber.Orderly)
    (hr : flight.IsInReach) (hb : flight.turn = some k)
    (hturns : (flight.outward k).turns chamber.walls = true) :
    flight.IsCarried chamber.tick (k + 1) := by
  obtain ⟨hpos, hle⟩ := hr.turn_range k hb
  have hmax := hr.distance_le
  have hout : flight.IsOut k := fun b hb' => Nat.le_of_eq (Option.some.inj (hb.symm.trans hb'))
  have hnot : ¬flight.IsOut (k + 1) := fun hout' => by
    have := hout' k hb
    omega
  refine ⟨h.id_lt, ?_, fun hout' => absurd hout' hnot, fun hout' => absurd hout' hnot⟩
  rw [ho.sound?_tick, h.sound_eq, at?_of_isOut hout, Option.map_some,
    next_outward_of_turns hpos (by omega) hturns]
  by_cases hone : k = 1
  · rw [at?_of_home hb hpos (by omega)]
    simp [hone, Sound.isHome, homeward]
  · rw [at?_of_turned hb (Nat.lt_succ_self k) (by omega), show 2 * k - (k + 1) = k - 1 by omega]
    simp [Sound.isHome, homeward, show k - 1 ≠ 0 by omega]

/-- The tick of a flight on its way out. -/
theorem tick_of_isOut (h : flight.IsCarried chamber k) (ho : chamber.Orderly)
    (hr : flight.IsInReach) (hout : flight.IsOut k)
    (hblocked : 0 < k → k ≤ flight.distance →
      (chamber.isBlocked flight.id flight.direction k = true ↔ flight.turn = some k)) :
    flight.IsCarried chamber.tick (k + 1) := by
  have hle := h.le_distance hout
  have hmax := hr.distance_le
  rcases Nat.eq_zero_or_pos k with rfl | hpos
  · exact h.tick_onward ho (fun b hb => (hr.turn_range b hb).1) hr.distance_pos
      (Sound.turns_of_fresh rfl _) (next_outward_zero flight _)
  have hturns := ho.turns_outward (h.outward_mem ho hout) hpos
  by_cases hb : flight.turn = some k
  · exact h.tick_turning ho hr hb (hturns.trans ((hblocked hpos hle).2 hb))
  · have hfree : chamber.isBlocked flight.id flight.direction k = false := by
      rw [← Bool.not_eq_true, hblocked hpos hle]
      exact hb
    have hne : k ≠ flight.distance := fun heq => by
      rw [heq, h.isBlocked_distance hout] at hfree
      exact Bool.false_ne_true hfree.symm
    rw [hfree] at hturns
    refine h.tick_onward ho (fun b hb' => ?_) (by omega) hturns
      (next_outward_of_not_turns hpos (by omega) hturns)
    have hble := hout b hb'
    have hbne : b ≠ k := fun heq => hb (heq ▸ hb')
    omega

/-- The tick of a flight on its way back, or after its end. -/
theorem tick_of_not_isOut (h : flight.IsCarried chamber k) (ho : chamber.Orderly)
    (hr : flight.IsInReach) (hout : ¬flight.IsOut k) : flight.IsCarried chamber.tick (k + 1) := by
  obtain ⟨b, hb, hlt⟩ : ∃ b, flight.turn = some b ∧ b < k := by simpa [IsOut] using hout
  obtain ⟨hpos, hle⟩ := hr.turn_range b hb
  have hmax := hr.distance_le
  have hnot : ¬flight.IsOut (k + 1) := fun hout' => by
    have := hout' b hb
    omega
  refine ⟨h.id_lt, ?_, fun hout' => absurd hout' hnot, fun hout' => absurd hout' hnot⟩
  rw [ho.sound?_tick, h.sound_eq]
  by_cases hback : k < 2 * b
  · rw [at?_of_turned hb hlt hback, Option.map_some, next_homeward (by omega)]
    by_cases hlast : k + 1 = 2 * b
    · rw [at?_of_home hb hpos (by omega)]
      simp [Sound.isHome, homeward, show 2 * b - k - 1 = 0 by omega]
    · rw [at?_of_turned hb (by omega) (by omega), show 2 * b - (k + 1) = 2 * b - k - 1 by omega]
      simp [Sound.isHome, homeward, show 2 * b - k - 1 ≠ 0 by omega]
  · rw [at?_of_home hb hpos (by omega), at?_of_home hb hpos (by omega)]
    rfl

/-- Placing a wall changes nothing about a flight. -/
theorem placeWall (h : flight.IsCarried chamber k) (direction distance : Nat) :
    flight.IsCarried (chamber.placeWall direction distance).2 k :=
  ⟨h.id_lt, h.sound_eq, fun hout => List.mem_append_left _ (h.wall_mem hout), h.le_distance⟩

/-- Sending another sound changes nothing about a flight. -/
theorem send (h : flight.IsCarried chamber k) (direction intensity distance : Nat) :
    flight.IsCarried (chamber.send direction intensity distance).2 k where
  id_lt := by
    rw [Chamber.send]
    split
    · exact Nat.lt_succ_of_lt h.id_lt
    · exact h.id_lt
  sound_eq := (Chamber.sound?_send_of_lt h.id_lt ..).trans h.sound_eq
  wall_mem hout := by
    rw [Chamber.send]
    split
    · exact List.mem_append_left _ (h.wall_mem hout)
    · exact h.wall_mem hout
  le_distance := h.le_distance

/-- In a run the chamber blocks a flight exactly where the flight turns. -/
theorem isBlocked_iff_turn {sent : Chamber} {part rest : List Action}
    (hturn : flight.turn =
      sent.turn? (part ++ .tick :: rest) flight.id flight.direction flight.distance)
    (hout : flight.IsOut (tickCount part)) (hpos : 0 < tickCount part)
    (hle : tickCount part ≤ flight.distance) :
    (sent.run part).isBlocked flight.id flight.direction (tickCount part) = true ↔
      flight.turn = some (tickCount part) := by
  have hat := sent.atTick_append_tick part rest
  constructor
  · intro hblocked
    cases hb : flight.turn with
    | none =>
      have hnone := List.find?_eq_none.1 (hturn.symm.trans hb) (tickCount part)
        (List.mem_range'_1.2 ⟨hpos, by omega⟩)
      simp [hat, hblocked] at hnone
    | some b =>
      -- the flight turns at the first blocked cell, and here is one
      obtain ⟨-, -, -, hleast⟩ := Chamber.turn?_eq_some_iff.1 (hturn.symm.trans hb)
      have hfirst : ¬tickCount part < b := fun hlt => by
        rw [hleast _ hpos hlt _ hat] at hblocked
        exact Bool.false_ne_true hblocked
      have := hout b hb
      rw [show b = tickCount part by omega]
  · intro hb
    obtain ⟨⟨found, hfound, hblocked⟩, -⟩ := Chamber.turn?_eq_some_iff.1 (hturn.symm.trans hb)
    obtain rfl : sent.run part = found := Option.some.inj (hat.symm.trans hfound)
    exact hblocked

/-- **A run carries a flight to its end.** -/
theorem run {sent : Chamber} (h : flight.IsCarried sent 0) (ho : sent.Orderly)
    (hr : flight.IsInReach) {rest : List Action}
    (hroom : sent.nextSoundId + sendCount rest ≤ 2 ^ 63)
    (hturn : flight.turn = sent.turn? rest flight.id flight.direction flight.distance)
    (part : List Action) (hpart : part <+: rest) :
    flight.IsCarried (sent.run part) (tickCount part) := by
  induction part using List.reverseRecOn with
  | nil => exact h
  | append_singleton part action ih =>
    have hcarried := ih ((List.prefix_append part [action]).trans hpart)
    obtain ⟨after, rfl⟩ := hpart
    rw [List.append_assoc, List.singleton_append] at hroom hturn
    rw [Chamber.run_append, tickCount_append]
    cases action with
    | send direction intensity distance => exact hcarried.send direction intensity distance
    | place direction distance => exact hcarried.placeWall direction distance
    | tick =>
      have horderly : (sent.run part).Orderly := ho.run part (by
        rw [sendCount_append] at hroom
        omega)
      by_cases hout : flight.IsOut (tickCount part)
      · exact hcarried.tick_of_isOut horderly hr hout (isBlocked_iff_turn hturn hout)
      · exact hcarried.tick_of_not_isOut horderly hr hout

end IsCarried

end Flight

/-! ## Flights of a run -/

namespace Chamber

variable {chamber : Chamber} {time direction intensity distance : Nat} {rest : List Action}
variable {flight : Flight}

theorem flight?_of_in_range (chamber : Chamber) (time direction distance : Nat)
    (rest : List Action) (h : 0 < intensity ∧ intensity < 256) :
    chamber.flight? time direction intensity distance rest
      = some { id := chamber.nextSoundId, direction, intensity, distance, sentAt := time
               turn := (chamber.send direction intensity distance).2.turn? rest
                 chamber.nextSoundId direction distance } := by
  rw [flight?, send_of_in_range chamber direction distance h, Option.map_some]

theorem flight?_of_out_of_range (chamber : Chamber) (time direction distance : Nat)
    (rest : List Action) (h : ¬(0 < intensity ∧ intensity < 256)) :
    chamber.flight? time direction intensity distance rest = none := by
  rw [flight?, send_of_out_of_range chamber direction distance h, Option.map_none]

/-- The flight of a sound is what was said at its sending. -/
theorem eq_of_flight? (h : chamber.flight? time direction intensity distance rest = some flight) :
    (0 < intensity ∧ intensity < 256) ∧
      flight = { id := chamber.nextSoundId, direction, intensity, distance, sentAt := time
                 turn := (chamber.send direction intensity distance).2.turn? rest
                   chamber.nextSoundId direction distance } := by
  by_cases hrange : 0 < intensity ∧ intensity < 256
  · rw [flight?_of_in_range chamber time direction distance rest hrange, Option.some.injEq] at h
    exact ⟨hrange, h.symm⟩
  · simp [flight?_of_out_of_range chamber time direction distance rest hrange] at h

/-- A sound that is sent is carried from then on. -/
theorem isCarried_of_flight? (ho : chamber.Orderly) (hroom : chamber.nextSoundId < 2 ^ 63)
    (h : chamber.flight? time direction intensity distance rest = some flight) :
    flight.IsCarried (chamber.send direction intensity distance).2 0 := by
  obtain ⟨hrange, hflight⟩ := eq_of_flight? h
  have hsent := ho.send direction intensity distance hroom
  have hsend := congrArg Prod.snd (send_of_in_range chamber direction distance hrange)
  have hsounds := congrArg Chamber.sounds hsend
  have hwalls := congrArg Chamber.walls hsend
  have hnext := congrArg Chamber.nextSoundId hsend
  have hout : flight.IsOut 0 := fun b _ => Nat.zero_le b
  subst hflight
  refine ⟨hnext ▸ Nat.lt_succ_self _, ?_, fun _ => ?_, fun _ => Nat.zero_le _⟩
  · rw [Flight.at?_of_isOut hout, hsent.sound?_eq_some_iff, hsounds]
    exact ⟨List.mem_append_right _ (List.mem_singleton_self _), rfl⟩
  · rw [hwalls, Flight.wall, Wall.personalId_of_lt hroom]
    exact List.mem_append_right _ (List.mem_singleton_self _)

/-! ## The turn of a flight -/

/-- The wall of a flight is in reach if it was placed off the origin, at most at the greatest
distance. -/
theorem isInReach_of_flight? (hpos : 0 < distance) (hmax : distance ≤ maxDistance)
    (h : chamber.flight? time direction intensity distance rest = some flight) :
    flight.IsInReach := by
  obtain ⟨-, rfl⟩ := eq_of_flight? h
  refine ⟨hpos, hmax, fun b hb => ?_⟩
  obtain ⟨-, hb1, hb2, -⟩ := turn?_eq_some_iff.1 (Option.mem_def.1 hb)
  exact ⟨hb1, hb2⟩

/-- Only what was placed is structural. -/
theorem place_mem_of_structural {actions : List Action}
    (hroom : chamber.nextSoundId + sendCount actions ≤ 2 ^ 63) {wall : Wall}
    (hwall : wall ∈ (chamber.run actions).walls) (hid : wall.id < 0) :
    wall ∈ chamber.walls ∨ .place wall.direction wall.distance ∈ actions := by
  induction actions generalizing chamber with
  | nil => exact Or.inl hwall
  | cons action rest ih =>
    have hnext := chamber.nextSoundId_act_le action
    rw [sendCount_cons] at hroom
    rcases ih (by omega) hwall with hact | hrest
    case inr => exact Or.inr (List.mem_cons_of_mem _ hrest)
    cases action with
    | send direction intensity distance =>
      by_cases hrange : 0 < intensity ∧ intensity < 256
      case neg =>
        rw [act, send_of_out_of_range chamber direction distance hrange] at hact
        exact Or.inl hact
      simp only [isSend, if_true] at hroom
      rw [act, send_of_in_range chamber direction distance hrange,
        Wall.personalId_of_lt (by omega)] at hact
      rcases List.mem_append.1 hact with hold | hnew
      · exact Or.inl hold
      · obtain rfl := List.mem_singleton.1 hnew
        exact absurd hid (Int.not_lt.2 (Int.natCast_nonneg _))
    | place direction distance =>
      rcases List.mem_append.1 hact with hold | hnew
      · exact Or.inl hold
      · obtain rfl := List.mem_singleton.1 hnew
        exact Or.inr List.mem_cons_self
    | tick => exact Or.inl (of_mem_walls_tick hact).1

end Chamber

namespace Flight.IsCarried

variable {flight : Flight} {chamber : Chamber} {k b : Nat}

/-- **Every flight turns,** after as many ticks as its wall is away at the latest. -/
theorem isSome_turn (h : flight.IsCarried chamber k) (hlt : flight.distance < k) :
    flight.turn.isSome = true := by
  rw [Option.isSome_iff_ne_none]
  intro hnone
  have hout : flight.IsOut k := fun b hb => by simp [hnone] at hb
  have := h.le_distance hout
  omega

/-- Where only its own wall blocks a flight, it turns at that wall. -/
theorem eq_distance_of_isBlocked (h : flight.IsCarried chamber b) (ho : chamber.Orderly)
    (hout : flight.IsOut b) (hblocked : chamber.isBlocked flight.id flight.direction b = true)
    (hfree : ∀ wall ∈ chamber.walls, wall.id < 0 → wall.direction ≠ flight.direction) :
    b = flight.distance := by
  simp only [Chamber.isBlocked, List.any_eq_true, Bool.and_eq_true, Bool.or_eq_true, beq_iff_eq,
    decide_eq_true_eq] at hblocked
  obtain ⟨wall, hwall, ⟨hdirection, hdistance⟩, hstructural | hid⟩ := hblocked
  · exact absurd hdirection (hfree wall hwall hstructural)
  · rw [← hdistance, ho.wall_eq hwall (h.wall_mem hout) hid, Flight.wall]

end Flight.IsCarried

end Reverb
