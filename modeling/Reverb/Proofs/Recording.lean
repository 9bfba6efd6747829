import Reverb.Proofs.Runs

/-!
# Proofs/Recording — to record frames is only to watch

A terminal draws without touching the outside world, and a machine within its bounds can always be
drawn.  So recording never fails there, and a call comes to the same with or without it
(`Machine.callOn_unfilmed`).  Machines whose settings agree on the print style therefore run in
lockstep, whatever they record (`Machine.recording_only_watches`).

The film of a machine has a frame for each call that did something.  It shows the chamber after the
tick and the instruction that was dispatched last, and this one was carried out: the note of a
failed attempt is never in a frame (`Machine.isFilmed_start`).
-/

namespace Reverb

variable {σ ε : Type}

namespace Machine

variable {terminal : Terminal σ ε} {program : Array Instruction} {machine : Machine}
variable {instruction : Instruction} {outside after : σ} {n : Nat}

/-! ## Calls on a terminal -/

/-- The machine with the text of its frame on the film, if frames are recorded. -/
def recorded (machine : Machine) : Machine :=
  if machine.settings.recordFrames then
    { machine with film := machine.film.push machine.frame.text }
  else machine

/-- Recording changes nothing but the film. -/
theorem recorded_eq (machine : Machine) : ∃ film, machine.recorded = { machine with film } := by
  rw [recorded]
  split
  · exact ⟨_, rfl⟩
  · exact ⟨_, rfl⟩

/-- The film is not in the frame. -/
theorem frame_recorded (machine : Machine) : machine.recorded.frame = machine.frame := by
  obtain ⟨film, h⟩ := machine.recorded_eq
  rw [h]
  rfl

theorem recordOn_port_of_isDrawable (h : machine.frame.isDrawable = true)
    (terminal : Terminal σ ε) (outside : σ) :
    machine.recordOn terminal.port outside = (.ok true, machine.recorded, outside) := by
  rw [recordOn, recorded]
  split
  · simp only [Terminal.port, Frame.render_of_isDrawable h]
  · rfl

theorem callOn_port_of_waiting (hin : machine.InBounds program) (h : machine.turn = .waiting)
    (terminal : Terminal σ ε) (outside : σ) :
    machine.callOn terminal.port outside = (.ok true, machine.waited.recorded, outside) := by
  rw [callOn_of_waiting h, recordOn_port_of_isDrawable hin.waited.isDrawable]

theorem callOn_port_of_heard {heard : Nat} (hin : machine.InBounds program)
    (h : machine.turn = .dispatch instruction)
    (hheard : machine.converse terminal.port.toTerminal instruction outside = (.ok heard, after)) :
    machine.callOn terminal.port outside
      = (.ok true, (machine.carriedOut instruction heard).recorded, after) := by
  rw [callOn_of_heard h hheard, recordOn_port_of_isDrawable (hin.carriedOut h heard).isDrawable]

theorem InBounds.called (h : machine.InBounds program) (port : Port σ ε) (outside : σ) (n : Nat) :
    (machine.called port outside n).1.InBounds program := by
  induction n with
  | zero => exact h
  | succ n ih =>
    rw [called_succ]
    exact ih.callOn port _

/-! ## Machines without a film -/

/-- The machine without its film, and without all settings but the print style. -/
def unfilmed (machine : Machine) : Machine :=
  { machine with
    settings := { style := machine.settings.style, minWidth := 0, recordFrames := false }
    film := {} }

theorem InBounds.unfilmed (h : machine.InBounds program) : machine.unfilmed.InBounds program :=
  ⟨h.program_eq, h.pointer_le, h.nextSoundId_le, h.le_nextWallId, h.paced⟩

theorem unfilmed_recorded (machine : Machine) : machine.recorded.unfilmed = machine.unfilmed := by
  rw [recorded]
  split <;> rfl

theorem turn_unfilmed (machine : Machine) : machine.unfilmed.turn = machine.turn := rfl

theorem converse_unfilmed (terminal : Terminal σ ε) (machine : Machine)
    (instruction : Instruction) (outside : σ) :
    machine.unfilmed.converse terminal instruction outside
      = machine.converse terminal instruction outside := rfl

/-- **On a terminal a call comes to the same without the film.** -/
theorem callOn_unfilmed (hin : machine.InBounds program) (terminal : Terminal σ ε) (outside : σ) :
    machine.unfilmed.callOn terminal.port outside
      = ((machine.callOn terminal.port outside).1,
          (machine.callOn terminal.port outside).2.1.unfilmed,
          (machine.callOn terminal.port outside).2.2) := by
  have hturn' := machine.turn_unfilmed
  match hturn : machine.turn with
  | .stopped => rw [callOn_of_stopped hturn, callOn_of_stopped (hturn'.trans hturn)]
  | .waiting =>
    rw [callOn_port_of_waiting hin hturn, callOn_port_of_waiting hin.unfilmed (hturn'.trans hturn),
      unfilmed_recorded]
    rfl
  | .dispatch instruction =>
    have hheard' := converse_unfilmed terminal.port.toTerminal machine instruction outside
    rcases hheard : machine.converse terminal.port.toTerminal instruction outside with
      ⟨error | heard, world⟩
    · rw [callOn_of_unheard hturn hheard,
        callOn_of_unheard (hturn'.trans hturn) (hheard'.trans hheard)]
      rfl
    · rw [callOn_port_of_heard hin hturn hheard,
        callOn_port_of_heard hin.unfilmed (hturn'.trans hturn) (hheard'.trans hheard),
        unfilmed_recorded]
      rfl

theorem called_unfilmed (hin : machine.InBounds program) (terminal : Terminal σ ε) (outside : σ)
    (n : Nat) :
    machine.unfilmed.called terminal.port outside n
      = ((machine.called terminal.port outside n).1.unfilmed,
          (machine.called terminal.port outside n).2) := by
  induction n with
  | zero => rfl
  | succ n ih =>
    rw [called_succ, ih, callOn_unfilmed (hin.called terminal.port outside n), called_succ]

theorem result_unfilmed (hin : machine.InBounds program) (terminal : Terminal σ ε) (outside : σ)
    (n : Nat) :
    machine.unfilmed.result terminal.port outside n = machine.result terminal.port outside n := by
  rw [result, called_unfilmed hin, callOn_unfilmed (hin.called terminal.port outside n), result]

/-- **A run comes to the same without the film.** -/
theorem run_unfilmed (hin : machine.InBounds program) (terminal : Terminal σ ε) (outside : σ) :
    machine.unfilmed.run terminal outside
      = ((machine.run terminal outside).1.map fun _ => {}, (machine.run terminal outside).2) := by
  obtain ⟨n, hn⟩ := exists_endsAt terminal.port machine outside
  have hunfilmed : EndsAt terminal.port machine.unfilmed outside n :=
    hn.congr fun k _ => result_unfilmed hin terminal outside k
  rw [← runOn_port, ← runOn_port, hn.runOn_eq, hunfilmed.runOn_eq, result_unfilmed hin,
    called_unfilmed hin]
  cases machine.result terminal.port outside n <;> rfl

/-- **No run breaks off in a drawing.** -/
theorem run_ne_undrawable (hin : machine.InBounds program) (terminal : Terminal σ ε) (outside : σ) :
    (machine.run terminal outside).1 ≠ .error .undrawable := by
  obtain ⟨n, hn⟩ := exists_endsAt terminal.port machine outside
  have hresult : machine.result terminal.port outside n ≠ .error .undrawable :=
    (hin.called terminal.port outside n).result_ne_undrawable terminal.drawsDrawable_port _
  rw [← runOn_port, hn.runOn_eq]
  cases h : machine.result terminal.port outside n with
  | error fault =>
    intro heq
    cases heq
    exact hresult h
  | ok more => exact nofun

/-- **Runs of one program in one print style** leave the outside world the same, whatever they
record and however wide they draw. -/
theorem snd_run_of_style_eq (program : Array Instruction) {settings other : Settings}
    (hstyle : other.style = settings.style) (terminal : Terminal σ ε) (outside : σ) :
    (run terminal { program, settings := other } outside).2
      = (run terminal { program, settings } outside).2 := by
  have hunfilmed : unfilmed { program, settings := other } = unfilmed { program, settings } := by
    rw [unfilmed, unfilmed, hstyle]
  have hrun := run_unfilmed (inBounds_start program settings) terminal outside
  have hrun' := run_unfilmed (inBounds_start program other) terminal outside
  rw [hunfilmed] at hrun'
  exact (Prod.mk.inj (hrun'.symm.trans hrun)).2

/-- Without the film a machine asks for the same lines and prints. -/
theorem requests_unfilmed (machine : Machine) (terminal : Terminal σ ε) (outside : σ) :
    machine.unfilmed.requests terminal.port outside
      = (machine.requests terminal.port outside).filter Request.isTalk := by
  have hturn' := machine.turn_unfilmed
  match hturn : machine.turn with
  | .stopped =>
    rw [requests_of_stopped hturn, requests_of_stopped (hturn'.trans hturn), List.filter_nil]
  | .waiting =>
    rw [requests_of_waiting hturn, requests_of_waiting (hturn'.trans hturn),
      filter_isTalk_showing]
    rfl
  | .dispatch instruction =>
    have hheard' := converse_unfilmed terminal.port.toTerminal machine instruction outside
    rcases hheard : machine.converse terminal.port.toTerminal instruction outside with
      ⟨error | heard, world⟩
    · rw [requests_of_unheard hturn hheard, filter_isTalk_talk,
        requests_of_unheard (hturn'.trans hturn) (hheard'.trans hheard)]
      rfl
    · rw [requests_of_heard hturn hheard, List.filter_append, filter_isTalk_talk,
        filter_isTalk_showing, requests_of_heard (hturn'.trans hturn) (hheard'.trans hheard)]
      rfl

/-! ## The instruction in a frame -/

/-- The call after `k` calls does something and succeeds. -/
def succeeds (port : Port σ ε) (machine : Machine) (outside : σ) (k : Nat) : Bool :=
  (machine.result port outside k).toOption == some true

/-- The instruction that was dispatched last in `n` calls. -/
def latest (port : Port σ ε) (machine : Machine) (outside : σ) (n : Nat) : Option Instruction :=
  (machine.dispatches port outside n).getLast?.map Dispatch.instruction

/-- The instructions that are carried out in `n` calls: dispatched, and with success. -/
def performed (port : Port σ ε) (machine : Machine) (outside : σ) (n : Nat) : List Instruction :=
  ((List.range n).filter (machine.succeeds port outside)).filterMap fun k =>
    (machine.called port outside k).1.dispatch?.map Dispatch.instruction

theorem latest_succ (port : Port σ ε) (machine : Machine) (outside : σ) (n : Nat) :
    machine.latest port outside (n + 1)
      = ((machine.called port outside n).1.dispatch?.map Dispatch.instruction).or
          (machine.latest port outside n) := by
  rw [latest, dispatches_succ, List.getLast?_append, latest]
  cases (machine.called port outside n).1.dispatch? <;> rfl

theorem performed_succ_of_succeeds {port : Port σ ε} (h : machine.succeeds port outside n = true) :
    machine.performed port outside (n + 1) = machine.performed port outside n ++
      ((machine.called port outside n).1.dispatch?.map Dispatch.instruction).toList := by
  rw [performed, List.range_succ, List.filter_append, List.filterMap_append, performed]
  cases hdispatch : (machine.called port outside n).1.dispatch? <;> simp [h, hdispatch]

theorem performed_succ_of_not_succeeds {port : Port σ ε}
    (h : machine.succeeds port outside n = false) :
    machine.performed port outside (n + 1) = machine.performed port outside n := by
  rw [performed, List.range_succ, List.filter_append, List.filterMap_append, performed]
  simp [h]

theorem dispatch?_of_dispatch (h : machine.turn = .dispatch instruction) :
    machine.dispatch?.map Dispatch.instruction = some instruction := by
  rw [dispatch?, h]
  rfl

theorem dispatch?_of_waiting (h : machine.turn = .waiting) : machine.dispatch? = none := by
  rw [dispatch?, h]

theorem last_recordOn (port : Port σ ε) (machine : Machine) (outside : σ) :
    (machine.recordOn port outside).2.1.last = machine.last := by
  obtain ⟨film, h⟩ := next_recordOn port machine outside
  rw [h]

/-- **The note of a machine is the instruction that it dispatched last,** with success or not. -/
theorem last_called (h : machine.last = none) (port : Port σ ε) (outside : σ) (n : Nat) :
    (machine.called port outside n).1.last = machine.latest port outside n := by
  induction n with
  | zero => exact h
  | succ n ih =>
    rw [called_succ, latest_succ, ← ih]
    match hturn : (machine.called port outside n).1.turn with
    | .stopped =>
      rw [callOn_of_stopped hturn, dispatch?, hturn]
      rfl
    | .waiting =>
      rw [callOn_of_waiting hturn, last_recordOn, dispatch?_of_waiting hturn]
      rfl
    | .dispatch instruction =>
      rw [dispatch?_of_dispatch hturn]
      rcases hheard : (machine.called port outside n).1.converse port.toTerminal instruction
        (machine.called port outside n).2 with ⟨error | heard, world⟩
      · rw [callOn_of_unheard hturn hheard]
        rfl
      · rw [callOn_of_heard hturn hheard, last_recordOn]
        rfl

theorem succeeds_of_callOn {port : Port σ ε} {result : Except (Fault ε) Bool} {next : Machine × σ}
    (h : (machine.called port outside n).1.callOn port (machine.called port outside n).2
      = (result, next)) :
    machine.succeeds port outside n = (result.toOption == some true) := by
  rw [succeeds, Machine.result, h]

/-- One call keeps the note of a machine that waits, or that has just shown a frame, to what was
carried out. -/
theorem last_called_succ_eq_performed (hin : machine.InBounds program)
    (hbefore : 0 < (machine.called terminal.port outside n).1.pending →
      (machine.called terminal.port outside n).1.last
        = (machine.performed terminal.port outside n).getLast?)
    (h : machine.succeeds terminal.port outside n = true ∨
      0 < (machine.called terminal.port outside (n + 1)).1.pending) :
    (machine.called terminal.port outside (n + 1)).1.last
      = (machine.performed terminal.port outside (n + 1)).getLast? := by
  have hreached := hin.called terminal.port outside n
  rw [called_succ] at h ⊢
  match hturn : (machine.called terminal.port outside n).1.turn with
  | .stopped =>
    have hcall := callOn_of_stopped hturn terminal.port (machine.called terminal.port outside n).2
    rw [performed_succ_of_not_succeeds (succeeds_of_callOn hcall)]
    rw [succeeds_of_callOn hcall, hcall] at h
    rw [hcall]
    exact hbefore (h.resolve_left Bool.false_ne_true)
  | .waiting =>
    have hcall := callOn_port_of_waiting hreached hturn terminal
      (machine.called terminal.port outside n).2
    rw [performed_succ_of_succeeds (succeeds_of_callOn hcall), dispatch?_of_waiting hturn, hcall]
    obtain ⟨film, hfilm⟩ := recorded_eq (machine.called terminal.port outside n).1.waited
    rw [hfilm, Option.map_none, Option.toList_none, List.append_nil]
    exact hbefore (turn_eq_waiting_iff.1 hturn).2
  | .dispatch instruction =>
    rcases hheard : (machine.called terminal.port outside n).1.converse terminal.port.toTerminal
      instruction (machine.called terminal.port outside n).2 with ⟨error | heard, world⟩
    · -- a failed attempt leaves no tick pending, so it is not this note that the next frame shows
      have hcall := callOn_of_unheard hturn hheard
      rw [succeeds_of_callOn hcall, hcall] at h
      have hpending := (turn_eq_dispatch_iff.1 hturn).2.1
      exact absurd (h.resolve_left Bool.false_ne_true) (Nat.not_lt.2 hpending.le)
    · have hcall := callOn_port_of_heard hreached hturn hheard
      rw [performed_succ_of_succeeds (succeeds_of_callOn hcall), dispatch?_of_dispatch hturn, hcall,
        Option.toList_some, List.getLast?_concat]
      obtain ⟨film, hfilm⟩ :=
        recorded_eq ((machine.called terminal.port outside n).1.carriedOut instruction heard)
      rw [hfilm]
      rfl

theorem last_called_eq_performed (hin : machine.InBounds program) (hstart : machine.pending = 0)
    (h : 0 < (machine.called terminal.port outside n).1.pending) :
    (machine.called terminal.port outside n).1.last
      = (machine.performed terminal.port outside n).getLast? := by
  induction n with
  | zero => exact absurd h (Nat.not_lt.2 hstart.le)
  | succ n ih => exact last_called_succ_eq_performed hin ih (Or.inr h)

/-! ## The frames of a film -/

/-- What the call after `k` calls has to show: the chamber after its tick, and the instruction that
was dispatched last, in this call or before. -/
def shown (port : Port σ ε) (machine : Machine) (outside : σ) (k : Nat) : Frame where
  instruction := machine.latest port outside (k + 1)
  sounds := (machine.called port outside (k + 1)).1.chamber.sounds
  walls := (machine.called port outside (k + 1)).1.chamber.walls
  sum := (machine.called port outside (k + 1)).1.chamber.sum
  minWidth := machine.settings.minWidth

theorem shown_eq_frame (h : machine.last = none) (port : Port σ ε) (outside : σ) (k : Nat) :
    machine.shown port outside k = (machine.called port outside (k + 1)).1.frame := by
  rw [frame, last_called h, (called_program_settings port machine outside (k + 1)).2, shown]

theorem film_callOn_of_off (h : machine.settings.recordFrames = false) (port : Port σ ε)
    (outside : σ) : (machine.callOn port outside).2.1.film = machine.film := by
  match hturn : machine.turn with
  | .stopped => rw [callOn_of_stopped hturn]
  | .waiting =>
    rw [callOn_of_waiting hturn, recordOn]
    simp [Machine.waited, h]
  | .dispatch instruction =>
    rcases hheard : machine.converse port.toTerminal instruction outside with ⟨error | heard, world⟩
    · rw [callOn_of_unheard hturn hheard]
    · rw [callOn_of_heard hturn hheard, recordOn]
      simp [Machine.carriedOut, perform, h]

/-- A call that succeeds adds its frame to the film, if frames are recorded. -/
theorem film_callOn_of_on (hin : machine.InBounds program)
    (h : machine.settings.recordFrames = true) (terminal : Terminal σ ε) (outside : σ) :
    (machine.callOn terminal.port outside).2.1.film.frames.toList
      = machine.film.frames.toList ++
        if machine.succeeds terminal.port outside 0 then
          [(machine.callOn terminal.port outside).2.1.frame.text]
        else [] := by
  have hrecorded {machine : Machine} (h : machine.settings.recordFrames = true) :
      machine.recorded.film.frames.toList
        = machine.film.frames.toList ++ [machine.recorded.frame.text] := by
    rw [frame_recorded, recorded, if_pos h, Film.toList_push]
  match hturn : machine.turn with
  | .stopped =>
    have hcall := callOn_of_stopped hturn terminal.port outside
    rw [succeeds_of_callOn (n := 0) hcall, hcall]
    exact (List.append_nil _).symm
  | .waiting =>
    have hcall := callOn_port_of_waiting hin hturn terminal outside
    rw [succeeds_of_callOn (n := 0) hcall, hcall]
    exact hrecorded h
  | .dispatch instruction =>
    rcases hheard : machine.converse terminal.port.toTerminal instruction outside with
      ⟨error | heard, world⟩
    · have hcall := callOn_of_unheard hturn hheard
      rw [succeeds_of_callOn (n := 0) hcall, hcall]
      exact (List.append_nil _).symm
    · have hcall := callOn_port_of_heard hin hturn hheard
      rw [succeeds_of_callOn (n := 0) hcall, hcall]
      exact hrecorded h

/-- With recording, the call after `n` calls adds what it has to show, if it succeeds. -/
theorem film_called_succ (hin : machine.InBounds program) (hlast : machine.last = none)
    (hon : machine.settings.recordFrames = true) (terminal : Terminal σ ε) (outside : σ) (n : Nat) :
    (machine.called terminal.port outside (n + 1)).1.film.frames.toList.map some
      = (machine.called terminal.port outside n).1.film.frames.toList.map some ++
        if machine.succeeds terminal.port outside n then
          [(machine.shown terminal.port outside n).render]
        else [] := by
  have hreached := hin.called terminal.port outside n
  have hsettings := (called_program_settings terminal.port machine outside n).2
  have hframe := shown_eq_frame hlast terminal.port outside n
  have hrender : (machine.shown terminal.port outside n).render
      = some (machine.shown terminal.port outside n).text :=
    Frame.render_of_isDrawable (by
      rw [hframe]
      exact (hin.called terminal.port outside (n + 1)).isDrawable)
  rw [hrender, hframe, called_succ, film_callOn_of_on hreached (by rw [hsettings, hon]),
    List.map_append]
  refine congrArg _ (apply_ite (List.map some) _ _ _)

/-- **The film of a machine:** without recording it stays empty, and with it there is a frame for
each call that succeeded, drawn from what the call had to show. -/
structure IsFilmed (terminal : Terminal σ ε) (machine : Machine) (outside : σ) (n : Nat) :
    Prop where
  off : machine.settings.recordFrames = false →
    (machine.called terminal.port outside n).1.film.frames = #[]
  on : machine.settings.recordFrames = true →
    (machine.called terminal.port outside n).1.film.frames.toList.map some
      = ((List.range n).filter (machine.succeeds terminal.port outside)).map fun k =>
          (machine.shown terminal.port outside k).render
  /-- An attempt that failed is in no frame: what a frame shows was carried out. -/
  fresh : ∀ k, machine.succeeds terminal.port outside k = true →
    (machine.shown terminal.port outside k).instruction
      = (machine.performed terminal.port outside (k + 1)).getLast?

/-- **Every machine is filmed,** from the start of its program. -/
theorem isFilmed_start (terminal : Terminal σ ε) (program : Array Instruction) (settings : Settings)
    (outside : σ) (n : Nat) : IsFilmed terminal { program, settings } outside n := by
  have hin := inBounds_start program settings
  refine ⟨fun hoff => ?_, fun hon => ?_, fun k hk => ?_⟩
  · induction n with
    | zero => rfl
    | succ n ih =>
      have hsettings := (called_program_settings terminal.port { program, settings } outside n).2
      rw [called_succ, film_callOn_of_off (by rw [hsettings, hoff]), ih]
  · induction n with
    | zero => rfl
    | succ n ih =>
      rw [film_called_succ hin rfl hon, ih, List.range_succ, List.filter_append, List.map_append,
        List.filter_singleton]
      cases succeeds terminal.port { program, settings } outside n <;> rfl
  · have hstart : ({ program, settings } : Machine).last = none := rfl
    rw [shown, ← last_called hstart]
    exact last_called_succ_eq_performed hin (last_called_eq_performed hin rfl) (Or.inl hk)

/-! ## Two machines -/

/-- **In lockstep** after `n` calls: the machines are in step, and they differ in their films and in
their settings at most. -/
structure InLockstep (terminal : Terminal σ ε) (machine other : Machine) (outside : σ) (n : Nat) :
    Prop extends InStep terminal.port machine other outside n where
  pointer : (other.called terminal.port outside n).1.pointer
    = (machine.called terminal.port outside n).1.pointer
  pending : (other.called terminal.port outside n).1.pending
    = (machine.called terminal.port outside n).1.pending
  exited : (other.called terminal.port outside n).1.exited
    = (machine.called terminal.port outside n).1.exited
  last : (other.called terminal.port outside n).1.last
    = (machine.called terminal.port outside n).1.last

/-- Machines that are the same without their films run in lockstep. -/
theorem inLockstep_of_unfilmed {other : Machine} (hin : machine.InBounds program)
    (hin' : other.InBounds program) (h : other.unfilmed = machine.unfilmed)
    (terminal : Terminal σ ε) (outside : σ) (n : Nat) :
    InLockstep terminal machine other outside n := by
  have hcalled := called_unfilmed hin terminal outside n
  rw [← h, called_unfilmed hin' terminal outside n] at hcalled
  obtain ⟨hmachine, hworld⟩ := Prod.mk.inj hcalled
  have hfield {α : Type} (field : Machine → α) :
      field (other.called terminal.port outside n).1.unfilmed
        = field (machine.called terminal.port outside n).1.unfilmed := congrArg field hmachine
  refine ⟨⟨?_, hworld, hfield Machine.chamber, ?_⟩, hfield Machine.pointer, hfield Machine.pending,
    hfield Machine.exited, hfield Machine.last⟩
  · rw [← result_unfilmed hin', h, result_unfilmed hin]
  · rw [← requests_unfilmed, ← requests_unfilmed, hmachine, hworld]

/-- **To record frames is only to watch.**  Machines whose settings print in the same style run in
lockstep, whatever they record and however wide they draw, and the film shows what they do. -/
theorem recording_only_watches (program : Array Instruction) (settings other : Settings)
    (hstyle : other.style = settings.style) (terminal : Terminal σ ε) (outside : σ) (n : Nat) :
    InLockstep terminal { program, settings } { program, settings := other } outside n ∧
      IsFilmed terminal { program, settings } outside n := by
  refine ⟨inLockstep_of_unfilmed (inBounds_start program settings) (inBounds_start program other)
    ?_ terminal outside n, isFilmed_start terminal program settings outside n⟩
  rw [unfilmed, unfilmed, hstyle]

/-- A print that fails once and a wait: the second and the third of three frames show the wait. -/
theorem recording_only_watches_retry :
    let terminal : Terminal Bool Unit :=
      ⟨fun full => (.ok "", full), fun _ full => (if full then .error () else .ok (), false)⟩
    let program : Array Instruction := #[.print, .nop (some 2)]
    let hidden : Settings := ⟨.ascii, 0, false⟩
    InLockstep terminal { program } { program, settings := hidden } true 4 ∧
      IsFilmed terminal { program } true 4 ∧
      (List.range 4).map (fun k => (shown terminal.port { program } true k).instruction)
        = [some .print, some .print, some (.nop (some 2)), some (.nop (some 2))] ∧
      (List.range 4).map (succeeds terminal.port { program } true)
        = [false, true, true, true] := by
  intro terminal program hidden
  have h := recording_only_watches program {} hidden rfl terminal true 4
  exact ⟨h.1, h.2, by decide +kernel, by decide +kernel⟩

end Machine

end Reverb
