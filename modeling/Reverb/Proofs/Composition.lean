import Reverb.Proofs.Retry
import Reverb.Proofs.Runs

/-!
# Proofs/Composition — one program behind another

A machine sees no more of its program than the instruction at its pointer, so it does not notice
when instructions are put behind its program, until it comes to its end (`Machine.followedBy`), or
before it (`Machine.precededBy`).  Hence a program in two parts runs as its front part does until
that stops.  If the front part failed or stopped at `exit` that was all; otherwise the rest is, call
for call, a run of the back part (`Machine.composes`).
-/

namespace Reverb

variable {σ ε : Type}

/-- One film behind another. -/
def Film.append (film rest : Film) : Film := ⟨film.frames ++ rest.frames⟩

theorem Film.append_push (film rest : Film) (frame : String) :
    (film.append rest).push frame = film.append (rest.push frame) := by
  simp [append, push]

namespace Machine

variable {port : Port σ ε} {machine : Machine} {instruction : Instruction} {outside after : σ}
variable {front back : Array Instruction} {film : Film} {n : Nat}

/-! ## Relocations -/

/-- The machine with more instructions behind its program. -/
def followedBy (machine : Machine) (back : Array Instruction) : Machine :=
  { machine with program := machine.program ++ back }

/-- The machine with more instructions before its program, and more frames before its own. -/
def precededBy (machine : Machine) (front : Array Instruction) (film : Film) : Machine :=
  { machine with
    program := front ++ machine.program
    pointer := front.size + machine.pointer
    film := film.append machine.film }

/-- **A relocation** puts a machine elsewhere without a change of what an instruction or a wait does
to it. -/
structure IsRelocation (move : Machine → Machine) : Prop where
  settings : ∀ machine, (move machine).settings = machine.settings
  chamber : ∀ machine, (move machine).chamber = machine.chamber
  waited : ∀ machine, (move machine).waited = move machine.waited
  carriedOut : ∀ machine instruction heard,
    (move machine).carriedOut instruction heard = move (machine.carriedOut instruction heard)
  last : ∀ machine, (move machine).last = machine.last
  noted : ∀ machine last, { move machine with last } = move { machine with last }
  filmed : ∀ machine text, { move machine with film := (move machine).film.push text }
    = move { machine with film := machine.film.push text }

theorem isRelocation_followedBy (back : Array Instruction) :
    IsRelocation fun machine => machine.followedBy back :=
  ⟨fun _ => rfl, fun _ => rfl, fun _ => rfl, fun _ _ _ => rfl, fun _ => rfl, fun _ _ => rfl,
    fun _ _ => rfl⟩

theorem isRelocation_precededBy (front : Array Instruction) (film : Film) :
    IsRelocation fun machine => machine.precededBy front film where
  settings _ := rfl
  chamber _ := rfl
  waited _ := rfl
  carriedOut machine instruction heard := by
    simp only [precededBy, Machine.carriedOut, perform, Nat.add_assoc]
  last _ := rfl
  noted _ _ := rfl
  filmed machine text := by
    simp only [precededBy, Film.append_push]

namespace IsRelocation

variable {move : Machine → Machine}

theorem converse (h : IsRelocation move) (terminal : Terminal σ ε) (machine : Machine)
    (instruction : Instruction) (outside : σ) :
    (move machine).converse terminal instruction outside
      = machine.converse terminal instruction outside := by
  rw [Machine.converse.eq_def, h.settings, h.chamber, ← Machine.converse.eq_def]

theorem frame (h : IsRelocation move) (machine : Machine) :
    (move machine).frame = machine.frame := by
  rw [Machine.frame, h.settings, h.chamber, h.last, Machine.frame]

theorem recordOn (h : IsRelocation move) (port : Port σ ε) (machine : Machine) (outside : σ) :
    (move machine).recordOn port outside
      = ((machine.recordOn port outside).1, move (machine.recordOn port outside).2.1,
          (machine.recordOn port outside).2.2) := by
  rw [Machine.recordOn, Machine.recordOn, h.frame, congrArg Settings.recordFrames (h.settings machine)]
  split
  · split
    · rw [h.filmed]
    · rfl
  · rfl

/-- **A call does not notice a relocation** that leaves the machine at the same instruction. -/
theorem callOn (h : IsRelocation move) (hturn : (move machine).turn = machine.turn)
    (port : Port σ ε) (outside : σ) :
    (move machine).callOn port outside
      = ((machine.callOn port outside).1, move (machine.callOn port outside).2.1,
          (machine.callOn port outside).2.2) := by
  match hnext : machine.turn with
  | .stopped => rw [callOn_of_stopped hnext, callOn_of_stopped (hturn.trans hnext)]
  | .waiting =>
    rw [callOn_of_waiting hnext, callOn_of_waiting (hturn.trans hnext), h.waited, h.recordOn]
  | .dispatch instruction =>
    rcases hheard : machine.converse port.toTerminal instruction outside with ⟨error | heard, world⟩
    · rw [callOn_of_unheard hnext hheard,
        callOn_of_unheard (hturn.trans hnext) ((h.converse ..).trans hheard), h.noted]
    · rw [callOn_of_heard hnext hheard,
        callOn_of_heard (hturn.trans hnext) ((h.converse ..).trans hheard), h.carriedOut,
        h.recordOn]

theorem requests (h : IsRelocation move) (hturn : (move machine).turn = machine.turn)
    (port : Port σ ε) (outside : σ) :
    (move machine).requests port outside = machine.requests port outside := by
  rw [Machine.requests, h.callOn hturn, Machine.requests]

end IsRelocation

/-- What stands behind its program makes no difference to a machine that has not stopped. -/
theorem turn_followedBy (h : machine.turn ≠ .stopped) (back : Array Instruction) :
    (machine.followedBy back).turn = machine.turn := by
  match hturn : machine.turn with
  | .stopped => exact absurd hturn h
  | .waiting =>
    obtain ⟨hgoes, hpending⟩ := turn_eq_waiting_iff.1 hturn
    exact turn_eq_waiting_iff.2 ⟨hgoes, hpending⟩
  | .dispatch instruction =>
    obtain ⟨hgoes, hpending, hinstruction⟩ := turn_eq_dispatch_iff.1 hturn
    obtain ⟨hlt, -⟩ := Array.getElem?_eq_some_iff.1 hinstruction
    exact turn_eq_dispatch_iff.2
      ⟨hgoes, hpending, (Array.getElem?_append_left hlt).trans hinstruction⟩

/-- What stands before its program makes no difference to a machine. -/
theorem turn_precededBy (machine : Machine) (front : Array Instruction) (film : Film) :
    (machine.precededBy front film).turn = machine.turn := by
  have hget : (front ++ machine.program)[front.size + machine.pointer]?
      = machine.program[machine.pointer]? := by
    rw [Array.getElem?_append_right (Nat.le_add_right _ _), Nat.add_sub_cancel_left]
  simp only [turn, precededBy, hget]

/-! ## The front part -/

/-- **A program runs as its front part does** as long as that has not stopped. -/
theorem called_followedBy (hgoes : ∀ k < n, (machine.called port outside k).1.turn ≠ .stopped)
    (back : Array Instruction) :
    (machine.followedBy back).called port outside n
      = ((machine.called port outside n).1.followedBy back, (machine.called port outside n).2) := by
  induction n with
  | zero => rfl
  | succ n ih =>
    have hturn := turn_followedBy (hgoes n n.lt_succ_self) back
    rw [called_succ, ih fun k hk => hgoes k (hk.trans n.lt_succ_self),
      (isRelocation_followedBy back).callOn hturn, called_succ]

/-! ## The back part -/

theorem called_precededBy (port : Port σ ε) (machine : Machine) (outside : σ)
    (front : Array Instruction) (film : Film) (n : Nat) :
    (machine.precededBy front film).called port outside n
      = ((machine.called port outside n).1.precededBy front film,
          (machine.called port outside n).2) := by
  induction n with
  | zero => rfl
  | succ n ih =>
    rw [called_succ, ih, (isRelocation_precededBy front film).callOn (turn_precededBy _ _ _),
      called_succ]

/-- The machines differ in their notes at most, and only where the next call writes the note anew
or is none. -/
def IsAlike (machine other : Machine) : Prop :=
  other = machine ∨ machine.turn ≠ .waiting ∧ ∃ last, other = { machine with last }

namespace IsAlike

variable {other : Machine}

theorem withoutNote_eq (h : IsAlike machine other) : other.withoutNote = machine.withoutNote := by
  obtain rfl | ⟨-, last, rfl⟩ := h
  · rfl
  · rfl

/-- **Calls do not tell machines apart that are alike.** -/
theorem callOn (h : IsAlike machine other) (port : Port σ ε) (outside : σ) :
    (other.callOn port outside).1 = (machine.callOn port outside).1 ∧
      IsAlike (machine.callOn port outside).2.1 (other.callOn port outside).2.1 ∧
      (other.callOn port outside).2.2 = (machine.callOn port outside).2.2 := by
  obtain rfl | ⟨hturn, last, rfl⟩ := h
  · exact ⟨rfl, Or.inl rfl, rfl⟩
  · match hnext : machine.turn with
    | .waiting => exact absurd hnext hturn
    | .dispatch instruction =>
      rw [callOn_note hnext]
      exact ⟨rfl, Or.inl rfl, rfl⟩
    | .stopped =>
      have hstopped : { machine with last }.turn = .stopped := hnext
      rw [callOn_of_stopped hnext, callOn_of_stopped hstopped]
      exact ⟨rfl, Or.inr ⟨hturn, last, rfl⟩, rfl⟩

theorem requests (h : IsAlike machine other) (port : Port σ ε) (outside : σ) :
    other.requests port outside = machine.requests port outside :=
  congrArg Prod.snd (h.callOn port.logged (outside, [])).2.2

theorem called (h : IsAlike machine other) (port : Port σ ε) (outside : σ) (n : Nat) :
    IsAlike (machine.called port outside n).1 (other.called port outside n).1 ∧
      (other.called port outside n).2 = (machine.called port outside n).2 := by
  induction n with
  | zero => exact ⟨h, rfl⟩
  | succ n ih =>
    obtain ⟨halike, houtside⟩ := ih
    rw [called_succ, called_succ, houtside]
    exact (halike.callOn port _).2

end IsAlike

/-- **After `n` calls a machine goes on as another one does,** with the instructions `front` before
the program and `film` before the frames of that. -/
structure GoesOnAs (port : Port σ ε) (machine : Machine) (outside : σ) (n : Nat) (rest : Machine)
    (after : σ) (front : Array Instruction) (film : Film) : Prop where
  result : ∀ k, machine.result port outside (n + k) = rest.result port after k
  requests : ∀ k,
    (machine.called port outside (n + k)).1.requests port (machine.called port outside (n + k)).2
      = (rest.called port after k).1.requests port (rest.called port after k).2
  /-- The machines are the same but for the place of the program and the film, and for the note
  before it is written for the first time. -/
  called : ∀ k, (machine.called port outside (n + k)).1.withoutNote
    = ((rest.called port after k).1.precededBy front film).withoutNote
  outside : ∀ k, (machine.called port outside (n + k)).2 = (rest.called port after k).2

theorem goesOnAs_of_isAlike {reached rest : Machine}
    (h : machine.called port outside n = (reached, after))
    (hrest : IsAlike (rest.precededBy front film) reached) :
    GoesOnAs port machine outside n rest after front film := by
  have hcalled (k : Nat) : machine.called port outside (n + k) = reached.called port after k := by
    rw [called_add, h]
  have halike (k : Nat) : IsAlike ((rest.called port after k).1.precededBy front film)
      (reached.called port after k).1 ∧
        (reached.called port after k).2 = (rest.called port after k).2 := by
    have halike := hrest.called port after k
    rwa [called_precededBy] at halike
  refine ⟨fun k => ?_, fun k => ?_, fun k => ?_, fun k => ?_⟩
  · rw [Machine.result, hcalled, (halike k).2, ((halike k).1.callOn _ _).1,
      (isRelocation_precededBy front film).callOn (turn_precededBy _ _ _), Machine.result]
  · rw [hcalled, (halike k).2, (halike k).1.requests,
      (isRelocation_precededBy front film).requests (turn_precededBy _ _ _)]
  · rw [hcalled, (halike k).1.withoutNote_eq]
  · rw [hcalled, (halike k).2]

namespace GoesOnAs

variable {rest : Machine}

theorem asked (h : GoesOnAs port machine outside n rest after front film) (k : Nat) :
    machine.asked port outside (n + k)
      = machine.asked port outside n ++ rest.asked port after k := by
  induction k with
  | zero => exact (List.append_nil _).symm
  | succ k ih =>
    rw [← Nat.add_assoc, asked_succ, ih, h.requests, asked_succ, List.append_assoc]

/-- The run ends where the other one does. -/
theorem endsAt (h : GoesOnAs port machine outside n rest after front film)
    (hgoes : ∀ k < n, machine.result port outside k = .ok true) {k : Nat}
    (hends : EndsAt port rest after k) : EndsAt port machine outside (n + k) where
  goes i hi := by
    rcases Nat.lt_or_ge i n with hlt | hge
    · exact hgoes i hlt
    · obtain ⟨i, rfl⟩ := Nat.exists_eq_add_of_le hge
      exact (h.result i).trans (hends.goes i (Nat.lt_of_add_lt_add_left hi))
  ends := (h.result k).trans_ne hends.ends

/-- **The run gives what the other one gives,** behind the film that was there before. -/
theorem runOn_eq (h : GoesOnAs port machine outside n rest after front film)
    (hgoes : ∀ k < n, machine.result port outside k = .ok true) :
    machine.runOn port outside
      = ((rest.runOn port after).1.map film.append, (rest.runOn port after).2) := by
  obtain ⟨k, hends⟩ := exists_endsAt port rest after
  have hfilm : (machine.called port outside (n + (k + 1))).1.film
      = film.append (rest.called port after (k + 1)).1.film :=
    congrArg Machine.film (h.called (k + 1))
  rw [(h.endsAt hgoes hends).runOn_eq, hends.runOn_eq, Nat.add_assoc, h.result, h.outside, hfilm]
  cases rest.result port after k <;> rfl

theorem transcript_eq (h : GoesOnAs port machine outside n rest after front film)
    (hgoes : ∀ k < n, machine.result port outside k = .ok true) :
    machine.transcript port outside
      = machine.asked port outside n ++ rest.transcript port after := by
  obtain ⟨k, hends⟩ := exists_endsAt port rest after
  rw [(h.endsAt hgoes hends).transcript_eq, hends.transcript_eq, Nat.add_assoc, h.asked]

end GoesOnAs

/-! ## Both parts -/

/-- **A program in two parts runs one part after the other.**  Here `first` is the machine for the
front part, `back` the other part, and `whole` the machine for both. -/
structure Composes (port : Port σ ε) (first whole : Machine) (back : Array Instruction)
    (outside : σ) : Prop where
  /-- As long as the front part runs, each call has its result and its requests, and leaves a
  machine that differs from its machine in the program alone. -/
  lockstep : ∀ n, (first.called port outside n).1.isRunning = true →
    whole.result port outside n = first.result port outside n ∧
    (whole.called port outside n).1.requests port (whole.called port outside n).2
      = (first.called port outside n).1.requests port (first.called port outside n).2 ∧
    ∀ k ≤ n + 1, whole.called port outside k
      = ((first.called port outside k).1.followedBy back, (first.called port outside k).2)
  /-- If the front part fails, so does the whole, and it has asked for the same. -/
  failed : ∀ fault after, first.runOn port outside = (.error fault, after) →
    whole.runOn port outside = (.error fault, after) ∧
      whole.transcript port outside = first.transcript port outside
  /-- If the front part ends with `exit`, that is all.  If it ends without, its pointer is at its
  end or further, and from there on the whole runs as the back part does in the chamber that is
  left, from a pointer that is as far behind its start. -/
  ended : ∀ film after, first.runOn port outside = (.ok film, after) →
    ∃ n last, EndsAt port first outside n ∧ first.called port outside n = (last, after) ∧
      last.film = film ∧
      (last.exited = true → whole.runOn port outside = (.ok film, after) ∧
        whole.transcript port outside = first.transcript port outside) ∧
      (last.exited = false → ∃ behind rest, last.pointer = first.program.size + behind ∧
        rest = { program := back
                 settings := first.settings
                 chamber := last.chamber
                 pointer := behind } ∧
        GoesOnAs port whole outside n rest after first.program film ∧
        whole.runOn port outside
          = ((rest.runOn port after).1.map film.append, (rest.runOn port after).2) ∧
        whole.transcript port outside
          = first.transcript port outside ++ rest.transcript port after)
  /-- If both succeed, the frames of the front part come first. -/
  frames : ∀ film after film' after', first.runOn port outside = (.ok film, after) →
    whole.runOn port outside = (.ok film', after') → film.frames.toList <+: film'.frames.toList
  /-- If the front part succeeds, what it asks for comes first, whether the whole fails or not. -/
  asked : ∀ film after, first.runOn port outside = (.ok film, after) →
    first.transcript port outside <+: whole.transcript port outside

theorem lockstep_followedBy (hgoes : (machine.called port outside n).1.turn ≠ .stopped)
    (back : Array Instruction) :
    (machine.followedBy back).result port outside n = machine.result port outside n ∧
    ((machine.followedBy back).called port outside n).1.requests port
        ((machine.followedBy back).called port outside n).2
      = (machine.called port outside n).1.requests port (machine.called port outside n).2 ∧
    ∀ k ≤ n + 1, (machine.followedBy back).called port outside k
      = ((machine.called port outside k).1.followedBy back,
          (machine.called port outside k).2) := by
  have hcalled (k : Nat) (hk : k ≤ n + 1) := called_followedBy (n := k) (fun i hi =>
    turn_ne_stopped_of_le hgoes (Nat.le_of_lt_succ (hi.trans_le hk))) back
  have hturn := turn_followedBy hgoes back
  refine ⟨?_, ?_, hcalled⟩
  · rw [result, hcalled n n.le_succ, (isRelocation_followedBy back).callOn hturn, result]
  · rw [hcalled n n.le_succ, (isRelocation_followedBy back).requests hturn]

/-- Where the calls of a run are the same up to its last one, the run is the same. -/
theorem runOn_followedBy (hn : EndsAt port machine outside n)
    (hresult : ∀ k ≤ n,
      (machine.followedBy back).result port outside k = machine.result port outside k)
    (hrequests : ∀ k ≤ n, ((machine.followedBy back).called port outside k).1.requests port
        ((machine.followedBy back).called port outside k).2
      = (machine.called port outside k).1.requests port (machine.called port outside k).2)
    (hcalled : (machine.followedBy back).called port outside (n + 1)
      = ((machine.called port outside (n + 1)).1.followedBy back,
          (machine.called port outside (n + 1)).2)) :
    (machine.followedBy back).runOn port outside = machine.runOn port outside ∧
      (machine.followedBy back).transcript port outside = machine.transcript port outside := by
  have hwhole := hn.congr hresult
  constructor
  · rw [hwhole.runOn_eq, hn.runOn_eq, hcalled, hresult n le_rfl]
    rfl
  · rw [hwhole.transcript_eq, hn.transcript_eq]
    exact asked_congr fun k hk => hrequests k (Nat.le_of_lt_succ hk)

/-- A machine that has not stopped yet when its run ends has failed, and does so with any
instructions behind its program. -/
theorem runOn_followedBy_of_failed (hn : EndsAt port machine outside n)
    (hgoes : (machine.called port outside n).1.turn ≠ .stopped) (back : Array Instruction) :
    (machine.followedBy back).runOn port outside = machine.runOn port outside ∧
      (machine.followedBy back).transcript port outside = machine.transcript port outside := by
  have hlockstep (k : Nat) (hk : k ≤ n) := lockstep_followedBy (turn_ne_stopped_of_le hgoes hk) back
  exact runOn_followedBy hn (fun k hk => (hlockstep k hk).1) (fun k hk => (hlockstep k hk).2.1)
    ((hlockstep n le_rfl).2.2 _ le_rfl)

/-- A machine that has stopped at `exit` has done so with any instructions behind its program. -/
theorem runOn_followedBy_of_exited (hn : EndsAt port machine outside n)
    (hcalled : (machine.followedBy back).called port outside n
      = ((machine.called port outside n).1.followedBy back, (machine.called port outside n).2))
    (hexited : (machine.called port outside n).1.exited = true) :
    (machine.followedBy back).runOn port outside = machine.runOn port outside ∧
      (machine.followedBy back).transcript port outside = machine.transcript port outside := by
  have hstopped := turn_of_exited hexited
  have hwhole : ((machine.followedBy back).called port outside n).1.turn = .stopped := by
    rw [hcalled]
    exact turn_of_exited hexited
  have hlockstep (k : Nat) (hk : k < n) := lockstep_followedBy (hn.turn_ne_stopped hk) back
  refine runOn_followedBy hn (fun k hk => ?_) (fun k hk => ?_) ?_
  · rcases Nat.lt_or_eq_of_le hk with hlt | rfl
    · exact (hlockstep k hlt).1
    · rw [result_of_stopped hwhole, result_of_stopped hstopped]
  · rcases Nat.lt_or_eq_of_le hk with hlt | rfl
    · exact (hlockstep k hlt).2.1
    · rw [requests_of_stopped hwhole, requests_of_stopped hstopped]
  · rw [called_of_stopped hwhole n.le_succ, called_of_stopped hstopped n.le_succ, hcalled]

/-- A machine at the end of its program, with instructions behind it, is a machine at the start of
those. -/
theorem followedBy_eq_precededBy (hpending : machine.pending = 0) (hexited : machine.exited = false)
    {behind : Nat} (hpointer : machine.pointer = machine.program.size + behind)
    (back : Array Instruction) :
    machine.followedBy back
      = { precededBy
            { program := back
              settings := machine.settings
              chamber := machine.chamber
              pointer := behind }
            machine.program machine.film with
          last := machine.last } := by
  simp only [followedBy, precededBy, Film.append, Array.append_empty, hpending, hexited, hpointer]

/-- **The rest of the whole is a run of the back part** where the front part has come to its
end. -/
theorem goesOnAs_of_stopped
    (hcalled : (machine.followedBy back).called port outside n
      = ((machine.called port outside n).1.followedBy back, (machine.called port outside n).2))
    (hstopped : (machine.called port outside n).1.turn = .stopped)
    (hexited : (machine.called port outside n).1.exited = false) :
    ∃ behind, (machine.called port outside n).1.pointer = machine.program.size + behind ∧
      GoesOnAs port (machine.followedBy back) outside n
        { program := back
          settings := machine.settings
          chamber := (machine.called port outside n).1.chamber
          pointer := behind }
        (machine.called port outside n).2 machine.program
        (machine.called port outside n).1.film := by
  obtain ⟨hprogram, hsettings⟩ := called_program_settings port machine outside n
  obtain ⟨hpending, hend⟩ := of_stopped hstopped hexited
  obtain ⟨behind, hpointer⟩ := Nat.exists_eq_add_of_le hend
  rw [← hprogram, ← hsettings]
  refine ⟨behind, hpointer, goesOnAs_of_isAlike hcalled (Or.inr ⟨?_, ?_⟩)⟩
  · rw [turn_precededBy]
    exact fun hwaiting => absurd (turn_eq_waiting_iff.1 hwaiting).2 (Nat.lt_irrefl 0)
  · exact ⟨_, followedBy_eq_precededBy hpending hexited hpointer back⟩

/-- What the whole asks for before the rest is what the front part asks for. -/
theorem asked_followedBy (hn : EndsAt port machine outside n)
    (hstopped : (machine.called port outside n).1.turn = .stopped) (back : Array Instruction) :
    (machine.followedBy back).asked port outside n = machine.transcript port outside := by
  rw [hn.transcript_eq, asked_succ, requests_of_stopped hstopped, List.append_nil]
  exact asked_congr fun k hk => (lockstep_followedBy (hn.turn_ne_stopped hk) back).2.1

/-- Where the run of the front part succeeds, the whole has succeeded too or goes on with the back
part. -/
theorem ended_followedBy (h : machine.runOn port outside = (.ok film, after))
    (back : Array Instruction) :
    ∃ n last, EndsAt port machine outside n ∧ machine.called port outside n = (last, after) ∧
      last.film = film ∧
      (last.exited = true → (machine.followedBy back).runOn port outside = (.ok film, after) ∧
        (machine.followedBy back).transcript port outside = machine.transcript port outside) ∧
      (last.exited = false → ∃ behind rest, last.pointer = machine.program.size + behind ∧
        rest = { program := back
                 settings := machine.settings
                 chamber := last.chamber
                 pointer := behind } ∧
        GoesOnAs port (machine.followedBy back) outside n rest after machine.program film ∧
        (machine.followedBy back).runOn port outside
          = ((rest.runOn port after).1.map film.append, (rest.runOn port after).2) ∧
        (machine.followedBy back).transcript port outside
          = machine.transcript port outside ++ rest.transcript port after) := by
  obtain ⟨n, hn, hstopped, hfilm, houtside⟩ := exists_of_runOn_ok h
  have hcalled := called_followedBy (fun k hk => hn.turn_ne_stopped hk) back
  refine ⟨n, _, hn, Prod.ext rfl houtside, hfilm, fun hexited => ?_, fun hexited => ?_⟩
  · rw [← h]
    exact runOn_followedBy_of_exited hn hcalled hexited
  · have hgoes (k : Nat) (hk : k < n) :
        (machine.followedBy back).result port outside k = .ok true :=
      (lockstep_followedBy (hn.turn_ne_stopped hk) back).1.trans (hn.goes k hk)
    obtain ⟨behind, hpointer, hrest⟩ := goesOnAs_of_stopped hcalled hstopped hexited
    rw [hfilm, houtside] at hrest
    refine ⟨behind, _, hpointer, rfl, hrest, hrest.runOn_eq hgoes, ?_⟩
    rw [hrest.transcript_eq hgoes, asked_followedBy hn hstopped]

/-- **Every program composes with every other,** on any port. -/
theorem composes (port : Port σ ε) (settings : Settings) (front back : Array Instruction)
    (outside : σ) :
    Composes port { program := front, settings } { program := front ++ back, settings } back
      outside where
  lockstep n hrunning := lockstep_followedBy (bne_iff_ne.1 hrunning) back
  failed fault after h := by
    obtain ⟨n, hn, hgoes⟩ := exists_of_runOn_error h
    rw [← h]
    exact runOn_followedBy_of_failed hn hgoes back
  ended film after h := ended_followedBy h back
  frames film after film' after' h h' := by
    obtain ⟨n, last, -, -, -, hexit, hend⟩ := ended_followedBy h back
    rcases hexited : last.exited with _ | _
    · obtain ⟨behind, rest, -, -, -, hwhole, -⟩ := hend hexited
      have hfilm := congrArg Prod.fst (hwhole.symm.trans h')
      rcases hrest : (rest.runOn port after).1 with fault | film''
      · rw [hrest] at hfilm
        cases hfilm
      · rw [hrest] at hfilm
        cases hfilm
        simp [Film.append]
    · cases (hexit hexited).1.symm.trans h'
      exact List.prefix_refl _
  asked film after h := by
    obtain ⟨n, last, -, -, -, hexit, hend⟩ := ended_followedBy h back
    rcases hexited : last.exited with _ | _
    · obtain ⟨behind, rest, -, -, -, -, hwhole⟩ := hend hexited
      exact ⟨_, hwhole.symm⟩
    · exact ⟨[], (List.append_nil _).trans (hexit hexited).2.symm⟩

/-- A jump over the end of the front part and over the first two instructions of the back part. -/
theorem composes_jump :
    let front : Array Instruction := #[.condition ⟨1, by decide, by decide⟩ 0 2]
    let back : Array Instruction := #[.print, .exit, .nop none, .print]
    let terminal : Terminal Unit Unit := ⟨fun _ => (.ok "", ()), fun _ _ => (.ok (), ())⟩
    Composes terminal.port { program := front } { program := front ++ back } back () ∧
      (called terminal.port { program := front } () 1).1.pointer = front.size + 2 ∧
      (dispatches terminal.port { program := front ++ back } () 3).map Dispatch.position
        = [0, 3, 4] := by
  intro front back terminal
  exact ⟨composes terminal.port {} front back (), by decide +kernel, by decide +kernel⟩

end Machine

end Reverb
