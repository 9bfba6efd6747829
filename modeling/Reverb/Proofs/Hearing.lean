import Mathlib.Data.List.Induction
import Reverb.Proofs.Calls
import Reverb.Proofs.Orderly

/-!
# Proofs/Hearing — what a machine makes of a typed line

A line stands for one intensity (`Typed.StandsFor`), and what a line stands for may be no intensity
that a sound can have.  A machine that reads sends a volley of sounds of that intensity, or nothing
at all (`Machine.hears_exactly`).
-/

namespace Reverb

/-! ## What a line stands for -/

namespace Typed

/-- **What a line stands for.** -/
inductive StandsFor : List Char → Nat → Prop
  | nothing : StandsFor [] 0
  | number {digits : List Char} {n : Nat} (h : Numeral.value? digits = some n) :
      StandsFor ('\\' :: digits) (n % 256)
  | letter {c : Char} {rest : List Char} (h : c = '\\' → ¬IsNumeral rest) :
      StandsFor (c :: rest) c.toNat

/-- **Every line stands for its intensity,** and for nothing else. -/
theorem standsFor_iff {line : List Char} {v : Nat} : StandsFor line v ↔ v = typedIntensity line := by
  constructor
  · intro h
    cases h with
    | nothing => rfl
    | number h => exact (typedIntensity_numeral h).symm
    | letter h => exact (typedIntensity_letter fun ⟨hc, hrest⟩ => h hc hrest).symm
  · rintro rfl
    cases line with
    | nil => exact .nothing
    | cons c rest =>
      by_cases h : c = '\\' ∧ IsNumeral rest
      · obtain ⟨rfl, hrest⟩ := h
        have hvalue : Numeral.value? rest = some (Nat.ofDigitChars 10 rest 0) :=
          Numeral.value?_eq_some_iff.2 ⟨hrest, rfl⟩
        exact typedIntensity_numeral hvalue ▸ .number hvalue
      · exact typedIntensity_letter h ▸ .letter fun hc hrest => h ⟨hc, hrest⟩

end Typed

/-! ## Volleys -/

/-- The directions of a set stand in ascending order. -/
theorem Directions.pairwise_toList (directions : Directions) :
    directions.toList.Pairwise (· < ·) :=
  List.Pairwise.filter _ List.pairwise_lt_range

namespace Chamber

variable {chamber : Chamber} {directions : List Nat} {intensity distance : Nat}

/-- **A chamber after a volley:** one more sound and its personal wall in each of some directions,
under ids that are counted on. -/
def volley (chamber : Chamber) (directions : List Nat) (intensity distance : Nat) : Chamber :=
  { chamber with
    sounds := chamber.sounds ++ directions.mapIdx fun k direction =>
      ⟨chamber.nextSoundId + k, direction, UInt8.ofNat intensity, 1, 1, true⟩
    walls := chamber.walls ++ directions.mapIdx fun k direction =>
      ⟨Wall.personalId (chamber.nextSoundId + k), direction, distance, false⟩
    nextSoundId := chamber.nextSoundId + directions.length }

theorem sendAll_append_singleton (rest : List Nat) (direction : Nat) :
    chamber.sendAll (rest ++ [direction]) intensity distance
      = ((chamber.sendAll rest intensity distance).send direction intensity distance).2 :=
  List.foldl_append

/-- **To send in some directions** is to send a volley. -/
theorem sendAll_of_in_range (h : 0 < intensity ∧ intensity < 256) :
    chamber.sendAll directions intensity distance
      = chamber.volley directions intensity distance := by
  induction directions using List.reverseRecOn with
  | nil => simp [sendAll, volley]
  | append_singleton rest direction ih =>
    rw [sendAll_append_singleton, ih, send_of_in_range _ direction distance h]
    simp [volley, List.mapIdx_append, Nat.add_assoc]

/-- To send an intensity that no sound can have is to do nothing. -/
theorem sendAll_of_out_of_range (h : ¬(0 < intensity ∧ intensity < 256)) :
    chamber.sendAll directions intensity distance = chamber := by
  induction directions with
  | nil => rfl
  | cons direction rest ih =>
    rw [sendAll, List.foldl_cons, send_of_out_of_range chamber direction distance h]
    exact ih

end Chamber

namespace Machine

variable {σ ε : Type} {port : Port σ ε} {machine : Machine} {outside after : σ}
variable {directions : Directions} {distance : UInt8} {line : String}

/-- A call that reads sends what it hears, before its tick. -/
theorem chamber_callOn_input (hturn : machine.turn = .dispatch (.input directions distance))
    (hread : port.readLine outside = (.ok line, after)) :
    (machine.callOn port outside).2.1.chamber = (machine.chamber.sendAll directions.toList
      (typedIntensity line.toList) distance.toNat).tick := by
  have hheard : machine.converse port.toTerminal (.input directions distance) outside
      = (.ok (typedIntensity line.toList), after) := by
    rw [converse, hread]
  rw [callOn_of_heard hturn hheard]
  obtain ⟨film, hnext⟩ := next_recordOn port
    (machine.carriedOut (.input directions distance) (typedIntensity line.toList)) after
  rw [hnext]
  rfl

/-- **What a machine makes of a typed line.** -/
theorem hears_exactly (line : String) :
    (∀ v, Typed.StandsFor line.toList v ↔ v = typedIntensity line.toList) ∧
    (∀ read c rest, line.toList = '\\' :: (read ++ c :: rest) → IsNumeral (read ++ c :: rest) →
      (Typed.word read).toNat * 10 + (Typed.digit c).toNat < UInt32.size) ∧
    ∀ {σ ε : Type} (port : Port σ ε) (machine : Machine) (directions : Directions)
      (distance : UInt8) (outside after : σ),
      machine.turn = .dispatch (.input directions distance) →
      port.readLine outside = (.ok line, after) →
      let value := typedIntensity line.toList
      (machine.callOn port outside).2.1.chamber
        = (if 1 ≤ value ∧ value ≤ 255 then
            machine.chamber.volley directions.toList value distance.toNat
          else machine.chamber).tick ∧
      directions.toList.Pairwise (· < ·) ∧
      ∀ d, d ∈ directions.toList ↔ d < 4 ∧ directions.bits.testBit d = true := by
  refine ⟨fun v => Typed.standsFor_iff, fun read c rest _ hnumeral => ?_, ?_⟩
  · obtain ⟨hread, hrest⟩ := List.forall_mem_append.1 hnumeral.2
    exact Typed.word_times_ten_lt hread (hrest c List.mem_cons_self)
  · intro σ ε port machine directions distance outside after hturn hread value
    refine ⟨?_, directions.pairwise_toList, fun d => Directions.mem_toList⟩
    rw [chamber_callOn_input hturn hread]
    split
    · next h => rw [Chamber.sendAll_of_in_range (by omega)]
    · next h => rw [Chamber.sendAll_of_out_of_range (by omega)]

/-- A number above 255, heard by a machine that has sent sounds before. -/
theorem hears_exactly_numeral :
    let directions : Directions := ⟨5, by decide, by decide⟩
    let machine : Machine := { program := #[.input directions 3], chamber := { nextSoundId := 7 } }
    let port := (⟨fun _ => (.ok "\\300", ()), fun _ _ => (.ok (), ())⟩ : Terminal Unit Unit).port
    "\\300".toList = '\\' :: (['3', '0'] ++ '0' :: []) ∧ IsNumeral (['3', '0'] ++ '0' :: []) ∧
      (Typed.word ['3', '0']).toNat * 10 + (Typed.digit '0').toNat < UInt32.size ∧
      machine.turn = .dispatch (.input directions 3) ∧ port.readLine () = (.ok "\\300", ()) ∧
      (machine.callOn port ()).2.1.chamber = (machine.chamber.volley [0, 2] 44 3).tick := by
  intro directions machine port
  have hline : "\\300".toList = '\\' :: (['3', '0'] ++ '0' :: []) := by decide
  have hnumeral : IsNumeral (['3', '0'] ++ '0' :: []) := by decide
  obtain ⟨-, hword, hcall⟩ := hears_exactly "\\300"
  have hchamber := (hcall port machine directions 3 () () rfl rfl).1
  exact ⟨hline, hnumeral, hword _ _ _ hline hnumeral, rfl, rfl, hchamber.trans (by decide)⟩

end Machine

end Reverb
