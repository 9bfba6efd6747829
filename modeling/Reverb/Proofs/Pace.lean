import Mathlib.Data.Finset.Prod
import Mathlib.Order.Interval.Finset.Nat
import Reverb.Proofs.Orderly

/-!
# Proofs/Pace — how many sounds can come home at once, and how many can be under way

If all walls stand within reach, a sound that ever comes home turned within reach, so the time of
its way tells where it turned.  If moreover at most one sound is sent in each direction between two
ticks, no two sounds that come home together from one direction turned in the same cell.  So at most
`4 * reach` sounds come home in a tick (`Paced.length_homecoming_le`), however many are under way.
And as long as none is out of reach, at most `4 * (2 * reach - 1)` are (`Paced.length_sounds_le`).

`Paced` carries this along: `since` tells for the id of each sound how many ticks went before it was
sent, and `taken` holds the directions in which sounds were sent since the last tick.
-/

namespace Reverb

open Reverb.Action

/-- A list that is told apart by what lies in a finite set is no longer than that set is large. -/
theorem length_le_card_of_nodup_map {α β : Type*} [DecidableEq β] {l : List α} {f : α → β}
    (cells : Finset β) (hnodup : (l.map f).Nodup) (hcells : ∀ a ∈ l, f a ∈ cells) :
    l.length ≤ cells.card := by
  have hsubset : (l.map f).toFinset ⊆ cells := fun cell hcell => by
    obtain ⟨a, ha, rfl⟩ := List.mem_map.1 (List.mem_toFinset.1 hcell)
    exact hcells a ha
  calc l.length = (l.map f).toFinset.card := by
        rw [List.toFinset_card_of_nodup hnodup, List.length_map]
    _ ≤ cells.card := Finset.card_le_card hsubset

/-! ## Where a sound can be -/

namespace Sound

variable {sound : Sound} {walls : List Wall} {reach time sent : Nat}

/-- **Where a sound can be** after `time` ticks if it was sent after `sent` of them: on its way out
as far as the time says, or out of reach of all walls; or on its way back from a cell in reach. -/
def IsUnderWay (reach time sent : Nat) (sound : Sound) : Prop :=
  (sound.velocity = 1 ∧ (sound.fresh = true ↔ sent = time) ∧
      (sound.distance = max (time - sent) 1 ∨ reach < sound.distance)) ∨
    (sound.velocity = -1 ∧ sound.fresh = false ∧
      ∃ turn, 1 ≤ turn ∧ turn ≤ reach ∧ sent + 2 * turn = time + sound.distance)

/-- A sound turns in reach. -/
theorem distance_le_of_turns (hwalls : ∀ wall ∈ walls, wall.distance ≤ reach)
    (h : sound.turns walls = true) : sound.distance ≤ reach := by
  simp only [turns, Bool.and_eq_true, List.any_eq_true, meets, beq_iff_eq] at h
  obtain ⟨-, wall, hwall, ⟨-, hdistance⟩, -⟩ := h
  rw [← hdistance]
  exact hwalls wall hwall

theorem turns_of_velocity_neg (h : sound.velocity = -1) (walls : List Wall) :
    sound.turns walls = false := by
  simp [turns, h]

/-- **A tick takes a sound to where it can be next.** -/
theorem IsUnderWay.next (h : sound.IsUnderWay reach time sent) (hsent : sent ≤ time)
    (hpos : 0 < sound.distance) (hwalls : ∀ wall ∈ walls, wall.distance ≤ reach)
    (hreach : 2 * reach ≤ maxDistance) : (sound.next walls).IsUnderWay reach (time + 1) sent := by
  have hlater : false = true ↔ sent = time + 1 := by
    simp only [Bool.false_eq_true, false_iff]
    omega
  rcases h with ⟨hv, hfresh, hout⟩ | ⟨hv, hfresh, turn, hturn, hle, hhome⟩
  · by_cases hnew : sound.fresh = true
    · rw [next_of_fresh hnew]
      obtain rfl := hfresh.1 hnew
      refine Or.inl ⟨hv, hlater, hout.imp_left fun hd => ?_⟩
      dsimp only
      omega
    have hlt : sent < time := Nat.lt_of_le_of_ne hsent fun heq => hnew (hfresh.2 heq)
    rw [Bool.not_eq_true] at hnew
    by_cases hturns : sound.turns walls = true
    · have hnear := distance_le_of_turns hwalls hturns
      rw [next_of_turns hturns]
      refine Or.inr ⟨rfl, hnew, sound.distance, hpos, hnear, ?_⟩
      dsimp only
      rw [moved_neg_one (by omega)]
      omega
    · rw [next_of_not_turns hnew (by simpa using hturns)]
      refine Or.inl ⟨hv, by rwa [hnew], ?_⟩
      have hmax : 0 < maxDistance := by decide
      simp only [hv]
      rw [moved]
      omega
  · rw [next_of_not_turns hfresh (turns_of_velocity_neg hv walls)]
    refine Or.inr ⟨hv, hfresh, turn, hturn, hle, ?_⟩
    simp only [hv]
    rw [moved_neg_one (by omega)]
    omega

/-- A sound that comes home turned in reach, after half of its way. -/
theorem IsUnderWay.turn_of_home (h : sound.IsUnderWay reach time sent) (hhome : sound.distance = 0) :
    ∃ turn, 1 ≤ turn ∧ turn ≤ reach ∧ sent + 2 * turn = time := by
  rcases h with ⟨-, -, hout⟩ | ⟨-, -, turn, hturn, hle, hback⟩
  · omega
  · exact ⟨turn, hturn, hle, by omega⟩

end Sound

/-! ## Rounds -/

namespace Action

/-- The direction in which an action sends. -/
def sendDirection? : Action → Option Nat
  | send direction _ _ => some direction
  | _ => none

/-- **A round:** what may be asked of a chamber between two ticks, if walls are to stand within reach
and sounds are to be sent in different directions. -/
structure IsRound (reach : Nat) (round : List Action) : Prop where
  tick_not_mem : tick ∉ round
  directions_nodup : (round.filterMap sendDirection?).Nodup
  of_send_mem : ∀ direction intensity distance, send direction intensity distance ∈ round →
    direction < 4 ∧ distance ≤ reach
  of_place_mem : ∀ direction distance, place direction distance ∈ round →
    direction < 4 ∧ distance ≤ reach

/-- Nothing may be asked in any round. -/
theorem isRound_nil (reach : Nat) : IsRound reach [] :=
  ⟨List.not_mem_nil, List.nodup_nil, by simp, by simp⟩

end Action

namespace Chamber

/-! ## Paced chambers -/

/-- **A paced chamber:** every sound is where its time says, walls stand within reach, and no two
sounds of one direction were sent between the same ticks. -/
structure Paced (chamber : Chamber) (reach time : Nat) (taken : List Nat) (since : Nat → Nat) :
    Prop where
  id_lt : ∀ sound ∈ chamber.sounds, sound.id < chamber.nextSoundId
  distance_pos : ∀ sound ∈ chamber.sounds, 0 < sound.distance
  sound_direction : ∀ sound ∈ chamber.sounds, sound.direction < 4
  since_le : ∀ sound ∈ chamber.sounds, since sound.id ≤ time
  taken_of_since : ∀ sound ∈ chamber.sounds, since sound.id = time → sound.direction ∈ taken
  under_way : ∀ sound ∈ chamber.sounds, sound.IsUnderWay reach time (since sound.id)
  apart : chamber.sounds.Pairwise fun one other =>
    one.direction = other.direction → since one.id ≠ since other.id
  wall_direction : ∀ wall ∈ chamber.walls, wall.direction < 4
  wall_distance : ∀ wall ∈ chamber.walls, wall.distance ≤ reach

theorem paced_empty (reach : Nat) : ({} : Chamber).Paced reach 0 [] id := by
  constructor <;> simp

namespace Paced

variable {chamber : Chamber} {reach time : Nat} {taken : List Nat} {since : Nat → Nat}
variable {direction distance : Nat}

/-- It only matters what `since` says of the sounds that are there. -/
theorem congr (h : chamber.Paced reach time taken since) (other : Nat → Nat)
    (hsince : ∀ sound ∈ chamber.sounds, other sound.id = since sound.id) :
    chamber.Paced reach time taken other where
  id_lt := h.id_lt
  distance_pos := h.distance_pos
  sound_direction := h.sound_direction
  since_le sound hs := (hsince sound hs).symm ▸ h.since_le sound hs
  taken_of_since sound hs := (hsince sound hs).symm ▸ h.taken_of_since sound hs
  under_way sound hs := (hsince sound hs).symm ▸ h.under_way sound hs
  apart := h.apart.imp_of_mem fun hone hother hne => by rwa [hsince _ hone, hsince _ hother]
  wall_direction := h.wall_direction
  wall_distance := h.wall_distance

theorem placeWall (h : chamber.Paced reach time taken since) (hdirection : direction < 4)
    (hdistance : distance ≤ reach) :
    (chamber.placeWall direction distance).2.Paced reach time taken since where
  id_lt := h.id_lt
  distance_pos := h.distance_pos
  sound_direction := h.sound_direction
  since_le := h.since_le
  taken_of_since := h.taken_of_since
  under_way := h.under_way
  apart := h.apart
  wall_direction := List.forall_mem_append.2
    ⟨h.wall_direction, List.forall_mem_singleton.2 hdirection⟩
  wall_distance := List.forall_mem_append.2
    ⟨h.wall_distance, List.forall_mem_singleton.2 hdistance⟩

/-- **Sending** takes a direction in which nothing was sent since the last tick. -/
theorem send (h : chamber.Paced reach time taken since) (hdirection : direction < 4)
    (hfree : direction ∉ taken) (hdistance : distance ≤ reach) (intensity : Nat) :
    ∃ since', (chamber.send direction intensity distance).2.Paced reach time
      (taken ++ [direction]) since' := by
  by_cases hrange : 0 < intensity ∧ intensity < 256
  case neg =>
    rw [send_of_out_of_range chamber direction distance hrange]
    exact ⟨since, { h with
      taken_of_since := fun sound hs heq => List.mem_append_left _ (h.taken_of_since sound hs heq) }⟩
  let since' := Function.update since chamber.nextSoundId time
  have hnew : since' chamber.nextSoundId = time := Function.update_self ..
  have hold := h.congr since' fun sound hs =>
    Function.update_of_ne (Nat.ne_of_lt (h.id_lt sound hs)) ..
  refine ⟨since', ?_⟩
  rw [send_of_in_range chamber direction distance hrange]
  exact {
    id_lt := List.forall_mem_append.2 ⟨fun sound hs => Nat.lt_succ_of_lt (h.id_lt sound hs),
      List.forall_mem_singleton.2 (Nat.lt_succ_self _)⟩
    distance_pos := List.forall_mem_append.2
      ⟨h.distance_pos, List.forall_mem_singleton.2 Nat.one_pos⟩
    sound_direction := List.forall_mem_append.2
      ⟨h.sound_direction, List.forall_mem_singleton.2 hdirection⟩
    since_le := List.forall_mem_append.2
      ⟨hold.since_le, List.forall_mem_singleton.2 (Nat.le_of_eq hnew)⟩
    taken_of_since := List.forall_mem_append.2
      ⟨fun sound hs heq => List.mem_append_left _ (hold.taken_of_since sound hs heq),
        List.forall_mem_singleton.2 fun _ => List.mem_append_right _ (List.mem_singleton_self _)⟩
    under_way := List.forall_mem_append.2 ⟨hold.under_way, List.forall_mem_singleton.2
      (Or.inl ⟨rfl, by simp [hnew], Or.inl (by simp [hnew])⟩)⟩
    apart := List.pairwise_append.2 ⟨hold.apart, List.pairwise_singleton _ _,
      fun sound hs new hnew' hsame heq => by
        obtain rfl := List.mem_singleton.1 hnew'
        have hdirection : sound.direction = direction := hsame
        exact hfree (hdirection ▸ hold.taken_of_since sound hs (heq.trans hnew))⟩
    wall_direction := List.forall_mem_append.2
      ⟨h.wall_direction, List.forall_mem_singleton.2 hdirection⟩
    wall_distance := List.forall_mem_append.2
      ⟨h.wall_distance, List.forall_mem_singleton.2 hdistance⟩ }

/-- A tick changes neither directions nor ids. -/
theorem apart_next (h : chamber.Paced reach time taken since) :
    (chamber.sounds.map fun sound => sound.next chamber.walls).Pairwise fun one other =>
      one.direction = other.direction → since one.id ≠ since other.id := by
  refine List.pairwise_map.2 (h.apart.imp fun hne => ?_)
  rwa [Sound.id_next, Sound.id_next, Sound.direction_next, Sound.direction_next]

/-- **A tick** frees all directions. -/
theorem tick (h : chamber.Paced reach time taken since) (hreach : 2 * reach ≤ maxDistance) :
    chamber.tick.Paced reach (time + 1) [] since where
  id_lt sound hs := by
    obtain ⟨⟨before, hbefore, rfl⟩, -⟩ := mem_sounds_tick.1 hs
    rw [Sound.id_next]
    exact h.id_lt before hbefore
  distance_pos sound hs := Nat.pos_of_ne_zero (mem_sounds_tick.1 hs).2
  sound_direction sound hs := by
    obtain ⟨⟨before, hbefore, rfl⟩, -⟩ := mem_sounds_tick.1 hs
    rw [Sound.direction_next]
    exact h.sound_direction before hbefore
  since_le sound hs := by
    obtain ⟨⟨before, hbefore, rfl⟩, -⟩ := mem_sounds_tick.1 hs
    rw [Sound.id_next]
    exact Nat.le_succ_of_le (h.since_le before hbefore)
  taken_of_since sound hs heq := by
    obtain ⟨⟨before, hbefore, rfl⟩, -⟩ := mem_sounds_tick.1 hs
    rw [Sound.id_next] at heq
    have := h.since_le before hbefore
    omega
  under_way sound hs := by
    obtain ⟨⟨before, hbefore, rfl⟩, -⟩ := mem_sounds_tick.1 hs
    rw [Sound.id_next]
    exact (h.under_way before hbefore).next (h.since_le before hbefore)
      (h.distance_pos before hbefore) h.wall_distance hreach
  apart := by
    rw [sounds_tick]
    exact h.apart_next.filter _
  wall_direction wall hw := h.wall_direction wall (of_mem_walls_tick hw).1
  wall_distance wall hw := h.wall_distance wall (of_mem_walls_tick hw).1

/-- **A chamber stays paced through a round,** and the directions of the sends so far are taken. -/
theorem run_part (h : chamber.Paced reach time [] since) {round : List Action}
    (hround : IsRound reach round) (part : List Action) (hpart : part <+: round) :
    ∃ since', (chamber.run part).Paced reach time (part.filterMap sendDirection?) since' := by
  induction part using List.reverseRecOn with
  | nil => exact ⟨since, h⟩
  | append_singleton part action ih =>
    obtain ⟨since', hpaced⟩ := ih ((List.prefix_append part [action]).trans hpart)
    have hmem : action ∈ round := hpart.subset (List.mem_append_right _ (List.mem_singleton_self _))
    have hnodup := hround.directions_nodup.sublist (hpart.sublist.filterMap sendDirection?)
    rw [List.filterMap_append] at hnodup
    rw [run_append, List.filterMap_append]
    cases action with
    | send direction intensity distance =>
      obtain ⟨hdirection, hdistance⟩ := hround.of_send_mem _ _ _ hmem
      refine hpaced.send hdirection (fun htaken => ?_) hdistance intensity
      exact (List.nodup_append.1 hnodup).2.2 _ htaken _ (List.mem_singleton_self _) rfl
    | place direction distance =>
      obtain ⟨hdirection, hdistance⟩ := hround.of_place_mem _ _ hmem
      rw [show [Action.place direction distance].filterMap sendDirection? = [] from rfl,
        List.append_nil]
      exact ⟨since', hpaced.placeWall hdirection hdistance⟩
    | tick => exact absurd hmem hround.tick_not_mem

/-! ## What comes home -/

/-- A sound that comes home turned in reach, and its way took twice as long as that cell is away. -/
theorem of_mem_homecoming (h : chamber.Paced reach time taken since)
    (hreach : 2 * reach ≤ maxDistance) {sound : Sound} (hs : sound ∈ chamber.homecoming) :
    sound.direction < 4 ∧
      ∃ turn, 1 ≤ turn ∧ turn ≤ reach ∧ since sound.id + 2 * turn = time + 1 := by
  simp only [homecoming, List.mem_filter, List.mem_map, Sound.isHome, beq_iff_eq] at hs
  obtain ⟨⟨before, hbefore, rfl⟩, hhome⟩ := hs
  have hnext := (h.under_way before hbefore).next (h.since_le before hbefore)
    (h.distance_pos before hbefore) h.wall_distance hreach
  rw [Sound.direction_next, Sound.id_next]
  exact ⟨h.sound_direction before hbefore, hnext.turn_of_home hhome⟩

/-- Sounds that come home together differ in their direction or in the cell where they turned. -/
theorem nodup_homecoming (h : chamber.Paced reach time taken since)
    (hreach : 2 * reach ≤ maxDistance) : (chamber.homecoming.map fun sound =>
      (sound.direction, (time + 1 - since sound.id) / 2)).Nodup := by
  refine List.pairwise_map.2 ((h.apart_next.filter _).imp_of_mem fun hone hother hne heq => ?_)
  obtain ⟨-, turn, -, -, hhome⟩ := h.of_mem_homecoming hreach hone
  obtain ⟨-, turn', -, -, hhome'⟩ := h.of_mem_homecoming hreach hother
  obtain ⟨hdirection, hturn⟩ := Prod.mk.inj heq
  exact hne hdirection (by omega)

/-- **In a tick at most `4 * reach` sounds come home.** -/
theorem length_homecoming_le (h : chamber.Paced reach time taken since)
    (hreach : 2 * reach ≤ maxDistance) : chamber.homecoming.length ≤ 4 * reach := by
  have hcells := length_le_card_of_nodup_map (Finset.range 4 ×ˢ Finset.Icc 1 reach)
    (h.nodup_homecoming hreach) fun sound hs => by
      obtain ⟨hdirection, turn, hturn, hle, hhome⟩ := h.of_mem_homecoming hreach hs
      rw [Finset.mem_product, Finset.mem_range, Finset.mem_Icc]
      exact ⟨hdirection, by omega⟩
  rwa [Finset.card_product, Finset.card_range, Nat.card_Icc, Nat.add_sub_cancel] at hcells

/-! ## What is under way -/

/-- **Between ticks at most four sounds for each tick of the longest way are under way,** as long as
none is out of reach. -/
theorem length_sounds_le (h : chamber.Paced reach time [] since)
    (hnear : ∀ sound ∈ chamber.sounds, sound.distance ≤ reach) :
    chamber.sounds.length ≤ 4 * (2 * reach - 1) := by
  have hnodup :
      (chamber.sounds.map fun sound => (sound.direction, time - since sound.id)).Nodup := by
    refine List.pairwise_map.2 (h.apart.imp_of_mem fun hone hother hne heq => ?_)
    obtain ⟨hdirection, hage⟩ := Prod.mk.inj heq
    have hone' := h.since_le _ hone
    have hother' := h.since_le _ hother
    exact hne hdirection (by omega)
  have hcells := length_le_card_of_nodup_map
    (Finset.range 4 ×ˢ Finset.Icc 1 (2 * reach - 1)) hnodup fun sound hs => by
      have hnew : since sound.id ≠ time := fun heq =>
        List.not_mem_nil (h.taken_of_since sound hs heq)
      have hsince := h.since_le sound hs
      have hpos := h.distance_pos sound hs
      have hle := hnear sound hs
      rw [Finset.mem_product, Finset.mem_range, Finset.mem_Icc]
      refine ⟨h.sound_direction sound hs, ?_⟩
      rcases h.under_way sound hs with ⟨-, -, hout⟩ | ⟨-, -, turn, hturn, hreach, hback⟩
      · dsimp only
        omega
      · dsimp only
        omega
  rwa [Finset.card_product, Finset.card_range, Nat.card_Icc, Nat.add_sub_cancel] at hcells

end Paced

/-- Every sound adds at most 255. -/
theorem loudness_le (sounds : List Sound) : loudness sounds ≤ 255 * sounds.length := by
  induction sounds with
  | nil => exact Nat.le_refl 0
  | cons sound rest ih =>
    have hbyte := sound.intensity.toNat_lt
    rw [loudness, List.foldr_cons, List.length_cons]
    rw [loudness] at ih
    omega

end Chamber

end Reverb
