import Mathlib.Algebra.BigOperators.Group.List.Basic
import Mathlib.Order.Bounds.Defs
import Reverb.Proofs.Flight

/-!
# Proofs/SoundSum — what a tick brings home

A run has a flight for each sound that it sends (`Chamber.flights`), and a sound comes home exactly
in the tick that its flight says.  So the sound sum after a tick is the sum of the intensities of
the flights that end in it (`Chamber.sum_after`).  The sounds of a chamber and the flights of a run
are two lists; they are compared through ids, which count the flights from 1 (`map_id_flights`).
-/

namespace Reverb

open Reverb.Action

/-! ## Sums through ids -/

/-- Among numbers without repetitions one is picked once. -/
theorem sum_map_pick {ids : List Nat} (hnodup : ids.Nodup) {a : Nat} (ha : a ∈ ids) (x : Nat) :
    (ids.map fun n => if n = a then x else 0).sum = x := by
  have hfilter : ids.filter (fun n => n = a) = [a] :=
    filter_eq_singleton hnodup ha fun n _ => decide_eq_true_iff
  rw [List.sum_map_ite, hfilter]
  simp

/-- **A sum over sounds is a sum over ids:** each sound is looked up by its own. -/
theorem sum_map_find? {sounds : List Sound} (g : Sound → Nat)
    (hpair : sounds.Pairwise fun earlier later => earlier.id < later.id) {ids : List Nat}
    (hnodup : ids.Nodup) (hmem : ∀ sound ∈ sounds, sound.id ∈ ids) :
    (ids.map fun n => ((sounds.find? fun sound => sound.id == n).map g).getD 0).sum
      = (sounds.map g).sum := by
  induction sounds with
  | nil => simp
  | cons sound rest ih =>
    obtain ⟨hlt, hrest⟩ := List.pairwise_cons.1 hpair
    have hsplit : ∀ n, (((sound :: rest).find? fun s => s.id == n).map g).getD 0
        = (if n = sound.id then g sound else 0)
          + ((rest.find? fun s => s.id == n).map g).getD 0 := fun n => by
      by_cases hn : n = sound.id
      · have hnone : rest.find? (fun s => s.id == n) = none := List.find?_eq_none.2 fun s hs => by
          have := hlt s hs
          simp only [beq_iff_eq]
          omega
        rw [hnone]
        simp [hn]
      · simp [hn, Ne.symm hn]
    rw [List.map_cons, List.sum_cons, funext hsplit, List.sum_map_add,
      sum_map_pick hnodup (hmem sound List.mem_cons_self),
      ih hrest fun s hs => hmem s (List.mem_cons_of_mem _ hs)]

namespace Chamber

/-! ## The flights of a run -/

/-- The flights of some actions that begin after `time` ticks. -/
def flights (chamber : Chamber) (time : Nat) : List Action → List Flight
  | [] => []
  | .send direction intensity distance :: rest =>
    (chamber.flight? time direction intensity distance rest).toList
      ++ flights (chamber.send direction intensity distance).2 time rest
  | .place direction distance :: rest => flights (chamber.placeWall direction distance).2 time rest
  | .tick :: rest => flights chamber.tick (time + 1) rest

variable {chamber : Chamber} {flight : Flight} {time : Nat} {actions part rest : List Action}

/-- A flight of a run begins with one of its sends. -/
theorem exists_of_mem_flights (h : flight ∈ chamber.flights time actions) :
    ∃ before direction intensity distance rest,
      actions = before ++ .send direction intensity distance :: rest ∧
        (chamber.run before).flight? (time + tickCount before) direction intensity distance rest
          = some flight := by
  induction actions generalizing chamber time with
  | nil => simp [flights] at h
  | cons action actions ih =>
    cases action with
    | send direction intensity distance =>
      rw [flights, List.mem_append, Option.mem_toList] at h
      rcases h with h | h
      · exact ⟨[], direction, intensity, distance, actions, rfl, h⟩
      · obtain ⟨before, d, i, D, rest, rfl, hf⟩ := ih h
        refine ⟨.send direction intensity distance :: before, d, i, D, rest, rfl, ?_⟩
        rwa [tickCount_send_cons]
    | place direction distance =>
      obtain ⟨before, d, i, D, rest, rfl, hf⟩ := ih h
      refine ⟨.place direction distance :: before, d, i, D, rest, rfl, ?_⟩
      rwa [tickCount_place_cons]
    | tick =>
      obtain ⟨before, d, i, D, rest, rfl, hf⟩ := ih h
      refine ⟨.tick :: before, d, i, D, rest, rfl, ?_⟩
      rwa [tickCount_tick_cons, Nat.add_comm (tickCount before), ← Nat.add_assoc]

/-- **The ids of the flights count on** from the next id. -/
theorem map_id_flights (chamber : Chamber) (time : Nat) (actions : List Action) :
    (chamber.flights time actions).map Flight.id
      = List.range' chamber.nextSoundId (chamber.flights time actions).length := by
  induction actions generalizing chamber time with
  | nil => rfl
  | cons action actions ih =>
    cases action with
    | send direction intensity distance =>
      by_cases hrange : 0 < intensity ∧ intensity < 256
      · have hnext : (chamber.send direction intensity distance).2.nextSoundId
            = chamber.nextSoundId + 1 := by
          rw [send_of_in_range chamber direction distance hrange]
        rw [flights, flight?_of_in_range chamber time direction distance actions hrange,
          Option.toList_some, List.singleton_append, List.map_cons, ih, hnext, List.length_cons,
          List.range'_succ]
      · rw [flights, flight?_of_out_of_range chamber time direction distance actions hrange,
          Option.toList_none, List.nil_append, ih,
          send_of_out_of_range chamber direction distance hrange]
    | place direction distance => exact ih _ time
    | tick => exact ih _ (time + 1)

/-- A run hands out an id for each flight. -/
theorem nextSoundId_run (chamber : Chamber) (time : Nat) (actions : List Action) :
    (chamber.run actions).nextSoundId
      = chamber.nextSoundId + (chamber.flights time actions).length := by
  induction actions generalizing chamber time with
  | nil => rfl
  | cons action actions ih =>
    cases action with
    | send direction intensity distance =>
      rw [run_cons, act, ih _ time]
      by_cases hrange : 0 < intensity ∧ intensity < 256
      · rw [flights, flight?_of_in_range chamber time direction distance actions hrange,
          send_of_in_range chamber direction distance hrange, Option.toList_some,
          List.singleton_append, List.length_cons]
        dsimp only
        omega
      · rw [flights, flight?_of_out_of_range chamber time direction distance actions hrange,
          send_of_out_of_range chamber direction distance hrange, Option.toList_none,
          List.nil_append]
    | place direction distance => exact ih _ time
    | tick => exact ih _ (time + 1)

/-! ## What one flight brings home -/

/-- What a sound adds to the sound sum in the next tick. -/
def homeIntensity (chamber : Chamber) (sound : Sound) : Nat :=
  if (sound.next chamber.walls).isHome then sound.intensity.toNat else 0

/-- The next sound sum is what the sounds add to it. -/
theorem sum_tick_eq (chamber : Chamber) :
    chamber.tick.sum = UInt8.ofNat (chamber.sounds.map chamber.homeIntensity).sum := by
  rw [sum_tick, homecoming]
  refine congrArg UInt8.ofNat ?_
  induction chamber.sounds with
  | nil => rfl
  | cons sound rest ih =>
    rw [List.map_cons, List.map_cons, List.sum_cons, ← ih, List.filter_cons, homeIntensity]
    split
    · rw [loudness, List.foldr_cons, Sound.intensity_next]
      rfl
    · rw [Nat.zero_add]

end Chamber

namespace Flight

variable {flight : Flight} {chamber : Chamber} {k : Nat}

theorem at?_eq_none_iff (hr : flight.IsInReach) :
    flight.at? k = none ↔ ∃ b, flight.turn = some b ∧ 2 * b ≤ k := by
  rw [at?]
  split
  · next hnone => simp [hnone]
  · next b hb =>
    have hpos := (hr.turn_range b hb).1
    split
    · simp [hb]
      omega
    · simp [hb]

theorem intensity_of_at? {sound : Sound} (h : flight.at? k = some sound) :
    sound.intensity = UInt8.ofNat flight.intensity := by
  rw [at?] at h
  split at h
  · rw [← Option.some.inj h]
    rfl
  · split at h
    · rw [← Option.some.inj h]
      rfl
    · split at h
      · rw [← Option.some.inj h]
        rfl
      · simp at h

/-- **A flight brings its intensity home in its last tick** and nothing in any other. -/
theorem IsCarried.homeIntensity_eq (h : flight.IsCarried chamber k)
    (hnext : flight.IsCarried chamber.tick (k + 1)) (ho : chamber.Orderly) (hr : flight.IsInReach)
    (hintensity : flight.intensity < 256) :
    ((chamber.sound? flight.id).map chamber.homeIntensity).getD 0
      = if flight.turn.map (2 * ·) = some (k + 1) then flight.intensity else 0 := by
  have hthen := (ho.sound?_tick flight.id).symm.trans hnext.sound_eq
  rw [h.sound_eq] at hthen ⊢
  have hgone := at?_eq_none_iff (k := k) hr
  have hgone' := at?_eq_none_iff (k := k + 1) hr
  cases hsound : flight.at? k with
  | none =>
    obtain ⟨b, hb, hle⟩ := hgone.1 hsound
    rw [hb, Option.map_some, if_neg (by simp; omega)]
    rfl
  | some sound =>
    have hlive : ¬∃ b, flight.turn = some b ∧ 2 * b ≤ k := fun hex => by
      rw [hgone.2 hex] at hsound
      exact Option.some_ne_none _ hsound.symm
    rw [hsound, Option.map_some, Option.filter_some] at hthen
    rw [Option.map_some, Option.getD_some, Chamber.homeIntensity, intensity_of_at? hsound,
      UInt8.toNat_ofNat_of_lt' hintensity]
    by_cases hhome : (sound.next chamber.walls).isHome = true
    · rw [hhome, Bool.not_true, if_neg Bool.false_ne_true] at hthen
      obtain ⟨b, hb, hle⟩ := hgone'.1 hthen.symm
      have hlast : 2 * b = k + 1 := by
        have : ¬2 * b ≤ k := fun hle' => hlive ⟨b, hb, hle'⟩
        omega
      rw [if_pos hhome, hb, Option.map_some, hlast, if_pos rfl]
    · have hstays : ¬∃ b, flight.turn = some b ∧ 2 * b ≤ k + 1 := fun hex => by
        rw [hgone'.2 hex, if_pos (by simp [hhome])] at hthen
        exact Option.some_ne_none _ hthen
      rw [if_neg hhome, if_neg]
      rw [Option.map_eq_some_iff]
      rintro ⟨b, hb, hlast⟩
      exact hstays ⟨b, hb, Nat.le_of_eq hlast⟩

end Flight

/-! ## What all flights bring home -/

namespace Chamber

variable {flight : Flight} {run before part rest : List Action}
variable {time direction intensity distance : Nat}

theorem after_append_send (before : List Action) (direction intensity distance : Nat)
    (part : List Action) : after (before ++ .send direction intensity distance :: part)
      = ((after before).send direction intensity distance).2.run part :=
  run_append _ _ _

theorem after_append_tick (actions : List Action) :
    after (actions ++ [.tick]) = (after actions).tick :=
  run_append _ _ _

/-- A run is orderly at any time. -/
theorem orderly_part (hsends : sendCount run < 2 ^ 63) (hpart : part <+: run) :
    (after part).Orderly :=
  orderly_after (Nat.lt_of_le_of_lt (sendCount_part_le hpart) hsends)

/-- What a run does after one of its sends. -/
theorem send_part (before : List Action) (direction intensity distance : Nat)
    (hpart : part <+: rest) : before ++ .send direction intensity distance :: part
      <+: before ++ .send direction intensity distance :: rest :=
  (List.prefix_append_right_inj before).2 (List.cons_prefix_cons.2 ⟨rfl, hpart⟩)

/-- **A run from the empty chamber carries each of its flights.** -/
theorem isCarried_after
    (hsends : sendCount (before ++ .send direction intensity distance :: rest) < 2 ^ 63)
    (hpos : 0 < distance) (hmax : distance ≤ maxDistance)
    (hf : (after before).flight? time direction intensity distance rest = some flight)
    (hpart : part <+: rest) :
    flight.IsCarried (after (before ++ .send direction intensity distance :: part))
      (tickCount part) := by
  simp only [sendCount_append, sendCount_cons, isSend, if_true] at hsends
  have hroom : (after before).nextSoundId < 2 ^ 63 := by
    have := nextSoundId_after_le before
    omega
  have hroom' : ((after before).send direction intensity distance).2.nextSoundId + sendCount rest
      ≤ 2 ^ 63 := by
    have := (after before).nextSoundId_act_le (.send direction intensity distance)
    simp only [isSend, if_true, act] at this
    have := nextSoundId_after_le before
    omega
  have ho : (after before).Orderly := orderly_after (by omega)
  rw [after_append_send]
  refine (isCarried_of_flight? ho hroom hf).run (ho.send direction intensity distance hroom)
    (isInReach_of_flight? hpos hmax hf) hroom' ?_ part hpart
  obtain ⟨-, rfl⟩ := eq_of_flight? hf
  rfl

/-- Before it was sent a flight brings nothing home. -/
theorem homeIntensity_eq_zero_of_part {flight : Flight} (hsends : sendCount before < 2 ^ 63)
    (hpart : part <+: before) (hid : (after before).nextSoundId ≤ flight.id) :
    (((after part).sound? flight.id).map (after part).homeIntensity).getD 0 = 0 := by
  have ho := orderly_part hsends hpart
  obtain ⟨rest, rfl⟩ := hpart
  have hnone : (after part).sound? flight.id = none := by
    refine Option.eq_none_iff_forall_ne_some.2 fun sound hsound => ?_
    obtain ⟨hmem, heq⟩ := ho.sound?_eq_some_iff.1 hsound
    have hlt := (ho.id_range sound hmem).2
    have hmono := (after part).nextSoundId_run 0 rest
    rw [after, run_append] at hid
    rw [after] at hlt hmono
    omega
  rw [hnone]
  rfl

/-- After it was sent a flight brings its intensity home in its last tick. -/
theorem homeIntensity_eq_of_sent
    (hsends : sendCount (before ++ .send direction intensity distance :: rest) < 2 ^ 63)
    (hpos : 0 < distance) (hmax : distance ≤ maxDistance)
    (hf : (after before).flight? time direction intensity distance rest = some flight)
    (hpart : part ++ [.tick] <+: rest) :
    let sent := after (before ++ .send direction intensity distance :: part)
    ((sent.sound? flight.id).map sent.homeIntensity).getD 0
      = if flight.turn.map (2 * ·) = some (tickCount part + 1) then flight.intensity else 0 := by
  intro sent
  have hbefore : part <+: rest := (List.prefix_append part _).trans hpart
  have hnow := isCarried_after hsends hpos hmax hf hbefore
  have hnext := isCarried_after hsends hpos hmax hf hpart
  rw [← List.cons_append, ← List.append_assoc, after_append_tick, tickCount_append] at hnext
  have ho : sent.Orderly := orderly_part hsends (send_part before _ _ _ hbefore)
  obtain ⟨hrange, heq⟩ := eq_of_flight? hf
  have hintensity : flight.intensity = intensity := congrArg Flight.intensity heq
  exact hnow.homeIntensity_eq hnext ho (isInReach_of_flight? hpos hmax hf)
    (hintensity ▸ hrange.2)

/-- **In the next tick each flight of a run adds its intensity if it is due,** and else nothing. -/
theorem homeIntensity_eq_of_mem_flights (hsends : sendCount run < 2 ^ 63)
    (hreach : ∀ direction intensity distance, .send direction intensity distance ∈ run →
      0 < distance ∧ distance ≤ maxDistance)
    (hflight : flight ∈ ({} : Chamber).flights 0 run) (hpart : part ++ [.tick] <+: run) :
    (((after part).sound? flight.id).map (after part).homeIntensity).getD 0
      = if flight.homeAt = some (tickCount part + 1) then flight.intensity else 0 := by
  obtain ⟨before, direction, intensity, distance, rest, rfl, hf⟩ := exists_of_mem_flights hflight
  obtain ⟨hpos, hmax⟩ := hreach direction intensity distance
    (List.mem_append_right _ List.mem_cons_self)
  have heq := (eq_of_flight? hf).2
  have hid : flight.id = (after before).nextSoundId := congrArg Flight.id heq
  have hsentAt : flight.sentAt = tickCount before :=
    (congrArg Flight.sentAt heq).trans (Nat.zero_add _)
  rw [Flight.homeAt, hsentAt]
  -- the run has either not come to the send yet, or it has passed it
  rcases List.prefix_or_prefix_of_prefix ((List.prefix_append part _).trans hpart)
    (List.prefix_append before _) with hbefore | ⟨part, rfl⟩
  · rw [sendCount_append] at hsends
    rw [homeIntensity_eq_zero_of_part (by omega) hbefore (Nat.le_of_eq hid.symm), if_neg]
    obtain ⟨between, rfl⟩ := hbefore
    rw [Option.map_eq_some_iff, tickCount_append]
    rintro ⟨b, hb, hhome⟩
    have := ((isInReach_of_flight? hpos hmax hf).turn_range b hb).1
    omega
  · rw [List.append_assoc, List.prefix_append_right_inj] at hpart
    cases part with
    | nil => simp at hpart
    | cons action part =>
      rw [List.cons_append, List.cons_prefix_cons] at hpart
      obtain ⟨rfl, hrest⟩ := hpart
      rw [homeIntensity_eq_of_sent hsends hpos hmax hf hrest, tickCount_append,
        tickCount_send_cons]
      refine if_congr ?_ rfl rfl
      simp only [Option.map_eq_some_iff]
      refine exists_congr fun b => and_congr_right fun _ => ?_
      omega

/-- Every sound of a run is the sound of a flight. -/
theorem id_mem_flights (hsends : sendCount run < 2 ^ 63) (hpart : part <+: run) :
    ∀ sound ∈ (after part).sounds, sound.id ∈ (({} : Chamber).flights 0 run).map Flight.id := by
  intro sound hsound
  have hrange := (orderly_part hsends hpart).id_range sound hsound
  have hlength := ({} : Chamber).nextSoundId_run 0 run
  obtain ⟨rest, rfl⟩ := hpart
  have hmono := (after part).nextSoundId_run 0 rest
  rw [run_append] at hlength
  rw [after] at hrange hmono
  rw [map_id_flights, List.mem_range'_1]
  dsimp only at hlength ⊢
  omega

/-- No flight ends before the first tick. -/
theorem homeAt_ne_zero
    (hreach : ∀ direction intensity distance, .send direction intensity distance ∈ run →
      0 < distance ∧ distance ≤ maxDistance)
    (hflight : flight ∈ ({} : Chamber).flights 0 run) : flight.homeAt ≠ some 0 := by
  obtain ⟨before, direction, intensity, distance, rest, rfl, hf⟩ := exists_of_mem_flights hflight
  obtain ⟨hpos, hmax⟩ := hreach direction intensity distance
    (List.mem_append_right _ List.mem_cons_self)
  rw [Flight.homeAt, Ne, Option.map_eq_some_iff]
  rintro ⟨b, hb, hhome⟩
  have := ((isInReach_of_flight? hpos hmax hf).turn_range b hb).1
  omega

/-- A tick brings home the intensities of the flights that end in it. -/
theorem sum_after_tick (hsends : sendCount run < 2 ^ 63)
    (hreach : ∀ direction intensity distance, .send direction intensity distance ∈ run →
      0 < distance ∧ distance ≤ maxDistance) (hpart : part ++ [.tick] <+: run) :
    (after (part ++ [.tick])).sum = UInt8.ofNat ((((({} : Chamber).flights 0 run).filter
      fun flight => flight.homeAt = some (tickCount part + 1)).map Flight.intensity).sum) := by
  have hbefore : part <+: run := (List.prefix_append part _).trans hpart
  have hnodup : ((({} : Chamber).flights 0 run).map Flight.id).Nodup := by
    rw [map_id_flights]
    exact List.nodup_range'
  rw [after_append_tick, sum_tick_eq]
  refine congrArg UInt8.ofNat ?_
  calc ((after part).sounds.map (after part).homeIntensity).sum
      = (((({} : Chamber).flights 0 run).map Flight.id).map fun n =>
          (((after part).sound? n).map (after part).homeIntensity).getD 0).sum :=
        (sum_map_find? _ (orderly_part hsends hbefore).ids_increase hnodup
          (id_mem_flights hsends hbefore)).symm
    _ = ((({} : Chamber).flights 0 run).map fun flight =>
          if flight.homeAt = some (tickCount part + 1) then flight.intensity else 0).sum := by
        rw [List.map_map]
        exact congrArg List.sum (List.map_congr_left fun flight hflight =>
          homeIntensity_eq_of_mem_flights hsends hreach hflight hpart)
    _ = _ := by
        rw [List.sum_map_ite]
        simp

/-- **The sound sum at any time of a run** is the sum of the intensities of the flights that ended
in the last tick. -/
theorem sum_after (hsends : sendCount run < 2 ^ 63)
    (hreach : ∀ direction intensity distance, .send direction intensity distance ∈ run →
      0 < distance ∧ distance ≤ maxDistance) (part : List Action) (hpart : part <+: run) :
    (after part).sum = UInt8.ofNat ((((({} : Chamber).flights 0 run).filter fun flight =>
      flight.homeAt = some (tickCount part)).map Flight.intensity).sum) := by
  induction part using List.reverseRecOn with
  | nil =>
    rw [tickCount_nil, List.filter_eq_nil_iff.2 fun flight hflight => by
      simpa using homeAt_ne_zero hreach hflight]
    rfl
  | append_singleton part action ih =>
    by_cases htick : action = .tick
    · subst htick
      rw [tickCount_append]
      exact sum_after_tick hsends hreach hpart
    · rw [tickCount_append_singleton htick, ← ih ((List.prefix_append part _).trans hpart), after,
        run_append]
      exact sum_act htick _

/-! ## The law of flights -/

/-- Without structural walls in its direction a flight turns at its own wall. -/
theorem turn_eq_distance {b : Nat}
    (hsends : sendCount (before ++ .send direction intensity distance :: rest) < 2 ^ 63)
    (hpos : 0 < distance) (hmax : distance ≤ maxDistance)
    (hf : (after before).flight? time direction intensity distance rest = some flight)
    (hfree : ∀ d, .place direction d ∉ before ++ .send direction intensity distance :: rest)
    (hb : flight.turn = some b) : b = distance := by
  obtain ⟨-, rfl⟩ := eq_of_flight? hf
  obtain ⟨⟨found, hfound, hblocked⟩, -⟩ := turn?_eq_some_iff.1 hb
  obtain ⟨part, tail, rfl, rfl, rfl⟩ := exists_of_atTick hfound
  have hpart : part <+: part ++ .tick :: tail := List.prefix_append part _
  have hrun := send_part before direction intensity distance hpart
  rw [← after_append_send] at hblocked
  refine (isCarried_after hsends hpos hmax hf hpart).eq_distance_of_isBlocked
    (orderly_part hsends hrun) (fun b hb' => ?_) hblocked fun wall hwall hid hdirection => ?_
  · exact Nat.le_of_eq (Option.some.inj (hb.symm.trans hb'))
  · have hroom : ({} : Chamber).nextSoundId
        + sendCount (before ++ .send direction intensity distance :: part) ≤ 2 ^ 63 := by
      have := sendCount_part_le hrun
      dsimp only
      omega
    rcases place_mem_of_structural hroom hwall hid with hempty | hplace
    · exact absurd hempty List.not_mem_nil
    · rw [hdirection] at hplace
      exact hfree _ (hrun.subset hplace)

/-- **The law of flights.**  In any run a sound turns after the least number `b` of ticks at whose
end its cell is blocked.  It is `max k 1` cells out after `k ≤ b` ticks, on its way back until
`2 * b`, and then gone; and each tick brings home the intensities of the flights that end in it. -/
theorem flight_law {run : List Action} (hsends : sendCount run < 2 ^ 63) :
    (∀ before direction intensity distance rest,
      run = before ++ .send direction intensity distance :: rest →
      0 < intensity → intensity < 256 → 0 < distance → distance ≤ maxDistance →
      ∃ flight,
        (after before).flight? (tickCount before) direction intensity distance rest = some flight ∧
        ((after before).send direction intensity distance).1 = some flight.id ∧
        (∀ b, flight.turn = some b ↔ IsLeast {c | 1 ≤ c ∧ c ≤ distance ∧
          ∃ found, ({} : Chamber).atTick run (tickCount before + c) = some found ∧
            found.isBlocked flight.id direction c = true} b) ∧
        (distance < tickCount rest → flight.turn.isSome) ∧
        (∀ b, flight.turn = some b → (∀ d, .place direction d ∉ run) → b = distance) ∧
        ∀ part, part <+: rest →
          let k := tickCount part
          let found :=
            (after (before ++ .send direction intensity distance :: part)).sound? flight.id
          ((∀ b, flight.turn = some b → k ≤ b) → found =
            some ⟨flight.id, direction, UInt8.ofNat intensity, max k 1, 1, k == 0⟩) ∧
          (∀ b, flight.turn = some b → b < k → k < 2 * b → found =
            some ⟨flight.id, direction, UInt8.ofNat intensity, 2 * b - k, -1, false⟩) ∧
          (∀ b, flight.turn = some b → 2 * b ≤ k → found = none)) ∧
    ((∀ direction intensity distance, .send direction intensity distance ∈ run →
        0 < distance ∧ distance ≤ maxDistance) →
      ∀ part, part <+: run →
        (after part).sum = UInt8.ofNat ((((({} : Chamber).flights 0 run).filter fun flight =>
          flight.homeAt = some (tickCount part)).map Flight.intensity).sum)) := by
  refine ⟨?_, sum_after hsends⟩
  rintro before direction intensity distance rest rfl hpos hlt hnear hmax
  have hf := (after before).flight?_of_in_range (tickCount before) direction distance rest
    ⟨hpos, hlt⟩
  refine ⟨_, hf, ?_, fun b => ?_, fun hlong => ?_, fun b hb hfree => ?_, fun part hpart => ?_⟩
  · rw [send_of_in_range _ direction distance ⟨hpos, hlt⟩]
  · have hat (c : Nat) := ({} : Chamber).atTick_append before
      (.send direction intensity distance :: rest) c
    constructor
    · intro hb
      obtain ⟨⟨found, hfound, hblocked⟩, hb1, hb2, hleast⟩ := turn?_eq_some_iff.1 hb
      refine ⟨⟨hb1, hb2, found, (hat b).trans hfound, hblocked⟩, ?_⟩
      rintro c ⟨hc1, -, early, hearly, hblocked'⟩
      refine Nat.not_lt.1 fun hcb => ?_
      rw [hleast c hc1 hcb early ((hat c).symm.trans hearly)] at hblocked'
      exact Bool.false_ne_true hblocked'
    · rintro ⟨⟨hb1, hb2, found, hfound, hblocked⟩, hleast⟩
      refine turn?_eq_some_iff.2
        ⟨⟨found, (hat b).symm.trans hfound, hblocked⟩, hb1, hb2, fun c hc1 hcb early hearly => ?_⟩
      rw [← Bool.not_eq_true]
      intro hblocked'
      have := hleast ⟨hc1, by omega, early, (hat c).trans hearly, hblocked'⟩
      omega
  · exact (isCarried_after hsends hnear hmax hf (List.prefix_refl rest)).isSome_turn hlong
  · exact turn_eq_distance hsends hnear hmax hf hfree hb
  · have hcarried := isCarried_after hsends hnear hmax hf hpart
    refine ⟨fun hout => ?_, fun b hb hback hhome => ?_, fun b hb hhome => ?_⟩
    · exact hcarried.sound_eq.trans (Flight.at?_of_isOut hout)
    · exact hcarried.sound_eq.trans (Flight.at?_of_turned hb hback hhome)
    · have hturn := ((isInReach_of_flight? hnear hmax hf).turn_range b hb).1
      exact hcarried.sound_eq.trans (Flight.at?_of_home hb hturn hhome)

/-- Two sounds share a direction, and the first to turn breaks the structural wall. -/
theorem flight_law_shared_wall :
    let run : List Action := [.place 0 2, .send 0 100 5, .send 0 60 9, .tick, .send 1 7 1, .tick,
      .tick, .tick]
    sendCount run < 2 ^ 63 ∧
      (after [.place 0 2, .send 0 100 5, .send 0 60 9, .tick, .send 1 7 1, .tick, .tick]).sound? 1
        = some ⟨1, 0, 100, 1, -1, false⟩ ∧
      (after run).sum = 160 := by
  intro run
  have hsends : sendCount run < 2 ^ 63 := by decide
  obtain ⟨hflights, hsum⟩ := flight_law hsends
  refine ⟨hsends, ?_, ?_⟩
  · obtain ⟨flight, hf, -, -, -, -, hwhere⟩ := hflights [.place 0 2] 0 100 5 _ rfl (by decide)
      (by decide) (by decide) (by decide)
    obtain rfl : (⟨1, 0, 100, 5, 0, some 2⟩ : Flight) = flight := Option.some.inj hf
    exact (hwhere [.send 0 60 9, .tick, .send 1 7 1, .tick, .tick] (by decide)).2.1 2 rfl
      (by decide) (by decide)
  · refine (hsum (fun direction intensity distance hmem => ?_) run (List.prefix_refl run)).trans rfl
    simp only [run, List.mem_cons, Action.send.injEq, reduceCtorEq, List.not_mem_nil, false_or,
      or_false] at hmem
    rw [maxDistance, UInt32.size]
    omega

end Chamber

end Reverb
