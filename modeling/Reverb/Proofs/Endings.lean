import Reverb.CommandLine.Folder
import Reverb.CommandLine.Session
import Reverb.Proofs.Printing

/-!
# Proofs/Endings — how a session ends

A session ends in one of six ways (`Ending`): it has no program, its run fails, it keeps no frames,
their path cannot be opened, they are written there, or they are cut short.  This is so on every
host.  What a session then leaves behind is read off its ending by the laws of the host
(`keepsWord_perform`).

What a run prints does not depend on what becomes of the frames (`Machine.run_unfilmed`), so options
that differ in nothing else leave the same output, unless the path of the frames leads to the output
itself.  What stands there then depends on the output: a stream has taken the frames behind what was
printed, and a plain file was emptied before they came.
-/

namespace Reverb

namespace CommandLine

variable {σ δ ι : Type} {host : Host σ δ} {view : View σ δ ι}

/-! ## What a session reads and runs -/

/-- The lines of a source text, in lower case. -/
def lowerLines (text : String) : List String :=
  (Text.lines (Text.lowercase text.toList)).map String.ofList

/-- **The session has a program:** its file holds a text whose lines in lower case are compiled to
the program, and the host is then in the state `here`. -/
def Loads (host : Host σ δ) (options : Options) (state : σ) (program : Array Instruction)
    (here : σ) : Prop :=
  ∃ text, host.read options.file state = (some (utf8 text), here) ∧
    compile options.limits (lowerLines text) = .ok program

/-- **The session runs its program** on the input, with this result and these bytes printed, and the
host is then in the state `after`. -/
def Runs (host : Host σ δ) (options : Options) (state : σ)
    (result : Except (Fault StreamError) Film) (printed : List UInt8) (after : σ) : Prop :=
  ∃ program here console, Loads host options state program here ∧
    Machine.run Console.terminal { program, settings := options.settings }
      { input := host.input here } = (result, console) ∧
    printed = console.output.bytes.toList ∧ after = host.print printed here

/-- The path can be opened, and the film can be written there. -/
def Host.Takes (host : Host σ δ) (path : String) (film : Film) (state : σ) : Prop :=
  ∃ file opened, host.create path state = (.ok file, opened) ∧
    (host.write file (utf8 film.text) opened).1 = .ok ()

/-- The path can be opened, and it leads to the place. -/
def View.Leads (view : View σ δ ι) (host : Host σ δ) (path : String) (state : σ) (place : ι) :
    Prop :=
  ∃ file opened, host.create path state = (.ok file, opened) ∧ view.place file = place

/-- The run of the session succeeds, and the frames go to a place. -/
def Delivers (host : Host σ δ) (view : View σ δ ι) (options : Options) (state : σ) (film : Film)
    (place : ι) : Prop :=
  options.settings.recordFrames = true ∧ ∃ printed after,
    Runs host options state (.ok film) printed after ∧
      view.Leads host options.framesPath after place

/-- **Bytes arrive at a place:** a plain file then holds nothing else, and a stream has taken them
behind what it had taken before. -/
structure View.Receives (view : View σ δ ι) (place : ι) (bytes : List UInt8) (before after : σ) :
    Prop where
  content_file : view.IsFile place → view.content after place = some bytes
  content_stream : ¬view.IsFile place →
    view.content after place = (view.content before place).map (· ++ bytes)

variable {options other : Options} {state here after : σ} {program : Array Instruction}
variable {result : Except (Fault StreamError) Film} {film : Film} {printed : List UInt8}

theorem sourceLines?_eq_some_iff {content : List UInt8} {lines : List String} :
    sourceLines? content = some lines ↔ ∃ text, utf8 text = content ∧ lowerLines text = lines := by
  rw [sourceLines?, Option.map_eq_some_iff]
  exact exists_congr fun text => and_congr_left fun _ => fromUTF8?_eq_some_iff

/-- A program is loaded exactly if the session has it. -/
theorem load_eq_ok_iff :
    load options (host.read options.file state).1 = .ok program ↔
      Loads host options state program (host.read options.file state).2 := by
  rw [load]
  constructor
  · intro h
    split at h
    · cases h
    · next lines hlines =>
      obtain ⟨content, hcontent, htext⟩ := Option.bind_eq_some_iff.1 hlines
      obtain ⟨text, rfl, rfl⟩ := sourceLines?_eq_some_iff.1 htext
      split at h
      · cases h
      · next hcompile =>
        obtain rfl := Except.ok.inj h
        exact ⟨text, Prod.ext hcontent rfl, hcompile⟩
  · rintro ⟨text, hread, hcompile⟩
    rw [congrArg Prod.fst hread, Option.bind_some, sourceLines?_eq_some_iff.2 ⟨text, rfl, rfl⟩]
    dsimp only
    rw [hcompile]

theorem Loads.here_eq (h : Loads host options state program here) :
    here = (host.read options.file state).2 := by
  obtain ⟨text, hread, -⟩ := h
  rw [hread]

/-- A session has no more than one program. -/
theorem Loads.unique {program' : Array Instruction} {here' : σ}
    (h : Loads host options state program here) (h' : Loads host options state program' here') :
    program = program' ∧ here = here' := by
  obtain rfl := h.here_eq
  obtain rfl := h'.here_eq
  exact ⟨Except.ok.inj ((load_eq_ok_iff.2 h).symm.trans (load_eq_ok_iff.2 h')), rfl⟩

/-- Without a program there is no run. -/
theorem not_runs (h : ∀ program here, ¬Loads host options state program here) :
    ¬Runs host options state result printed after :=
  fun ⟨program, here, _, hloads, _⟩ => h program here hloads

/-- A session that has a program runs it. -/
theorem exists_runs (h : Loads host options state program here) :
    ∃ result printed after, Runs host options state result printed after :=
  ⟨_, _, _, program, here, _, h, rfl, rfl, rfl⟩

/-- A session runs its program once. -/
theorem Runs.unique {result' : Except (Fault StreamError) Film} {printed' : List UInt8} {after' : σ}
    (h : Runs host options state result printed after)
    (h' : Runs host options state result' printed' after') :
    result = result' ∧ printed = printed' ∧ after = after' := by
  obtain ⟨program, here, console, hloads, hrun, rfl, rfl⟩ := h
  obtain ⟨program', here', console', hloads', hrun', rfl, rfl⟩ := h'
  obtain ⟨rfl, rfl⟩ := hloads.unique hloads'
  obtain ⟨rfl, rfl⟩ := Prod.mk.inj (hrun.symm.trans hrun')
  exact ⟨rfl, rfl, rfl⟩

/-- A run that succeeds does so with one film, and leaves one state. -/
theorem Runs.film_eq {film' : Film} {printed' : List UInt8} {after' : σ}
    (h : Runs host options state (.ok film) printed after)
    (h' : Runs host options state (.ok film') printed' after') : film = film' ∧ after = after' :=
  have hunique := h.unique h'
  ⟨Except.ok.inj hunique.1, hunique.2.2⟩

/-- **A run that fails does so in reading or printing.** -/
theorem Runs.ne_undrawable (h : Runs host options state result printed after) :
    result ≠ .error .undrawable := by
  obtain ⟨program, here, console, -, hrun, -⟩ := h
  have hdrawn := Machine.run_ne_undrawable (Machine.inBounds_start program options.settings)
    Console.terminal { input := host.input here }
  rwa [hrun] at hdrawn

/-- **Options that make the same run,** whatever they say of the frames. -/
structure SameRun (options other : Options) : Prop where
  file : other.file = options.file
  limits : other.limits = options.limits
  style : other.settings.style = options.settings.style

theorem Loads.sameRun (h : Loads host options state program here) (hsame : SameRun options other) :
    Loads host other state program here := by
  obtain ⟨text, hread, hcompile⟩ := h
  exact ⟨text, by rwa [hsame.file], by rwa [hsame.limits]⟩

theorem SameRun.symm (h : SameRun options other) : SameRun other options :=
  ⟨h.file.symm, h.limits.symm, h.style.symm⟩

/-- **What becomes of the frames does not change what a run prints.** -/
theorem Runs.sameRun (h : Runs host options state result printed after)
    (hsame : SameRun options other) : ∃ result', Runs host other state result' printed after := by
  obtain ⟨program, here, console, hloads, hrun, hprinted, hafter⟩ := h
  have hconsole := Machine.snd_run_of_style_eq program hsame.style Console.terminal
    { input := host.input here }
  rw [hrun] at hconsole
  exact ⟨_, program, here, console, hloads.sameRun hsame, Prod.ext rfl hconsole, hprinted, hafter⟩

/-! ## The ending of a session -/

/-- **How a session ends.** -/
inductive Ending (host : Host σ δ) (options : Options) (state : σ) : Outcome σ → Prop
  /-- It has no program. -/
  | unloaded {stderr : String} : (∀ program here, ¬Loads host options state program here) →
    Ending host options state { code := 1, stderr, state := (host.read options.file state).2 }
  /-- Its run fails. -/
  | broken {fault : Fault StreamError} {printed : List UInt8} {after : σ} {stderr : String} :
    Runs host options state (.error fault) printed after →
      Ending host options state { code := 1, stderr, state := after }
  /-- Its run succeeds, and no frames are recorded. -/
  | quiet {film : Film} {printed : List UInt8} {after : σ} :
    Runs host options state (.ok film) printed after → options.settings.recordFrames = false →
      Ending host options state { code := 0, state := after }
  /-- The path of the frames cannot be opened. -/
  | unopened {film : Film} {printed : List UInt8} {after left : σ} {error : FileError}
    {stderr : String} :
    Runs host options state (.ok film) printed after → options.settings.recordFrames = true →
      host.create options.framesPath after = (.error error, left) →
        Ending host options state { code := 1, stderr, state := left }
  /-- The frames are written. -/
  | written {film : Film} {printed : List UInt8} {after opened left : σ} {file : δ} :
    Runs host options state (.ok film) printed after → options.settings.recordFrames = true →
      host.create options.framesPath after = (.ok file, opened) →
        host.write file (utf8 film.text) opened = (.ok (), left) →
          Ending host options state { code := 0, state := left }
  /-- The frames are not all written. -/
  | cut {film : Film} {printed : List UInt8} {after opened left : σ} {file : δ} {error : FileError}
    {stderr : String} :
    Runs host options state (.ok film) printed after → options.settings.recordFrames = true →
      host.create options.framesPath after = (.ok file, opened) →
        host.write file (utf8 film.text) opened = (.error error, left) →
          Ending host options state { code := 1, stderr, state := left }

/-- What a session plays is its run. -/
theorem exists_play_eq (h : Loads host options state program here) :
    ∃ result printed, play options program (host.input here)
        = (result.mapError Failure.ofFault, printed) ∧
      Runs host options state result printed (host.print printed here) :=
  ⟨_, _, rfl, program, here, _, h, rfl, rfl, rfl⟩

/-- A film is gathered as its text. -/
theorem bytes_gathered (film : Film) : (film.writeTo {}).2.bytes.toList = utf8 film.text := by
  rw [film.writeTo_eq, Sink.writeText, Sink.write_of_unlimited rfl, Array.toList_appendList]
  rfl

/-- **The frames are written or cut short,** or their path cannot be opened. -/
theorem ending_save (hruns : Runs host options state (.ok film) printed after)
    (hrecord : options.settings.recordFrames = true) :
    Ending host options state
      (match host.save options.framesPath film after with
        | (.error e, state) => .ofFailure (.unwritable e) state
        | (.ok (), state) => { code := 0, state }) := by
  rw [Host.save, bytes_gathered]
  rcases hopen : host.create options.framesPath after with ⟨_ | file, opened⟩
  · exact .unopened hruns hrecord hopen
  · dsimp only
    rcases hwrite : host.write file (utf8 film.text) opened with ⟨_ | ⟨⟩, left⟩
    · exact .cut hruns hrecord hopen hwrite
    · exact .written hruns hrecord hopen hwrite

/-- **Every session ends in one of these ways.** -/
theorem ending_perform (host : Host σ δ) (options : Options) (state : σ) :
    Ending host options state (perform host options state) := by
  rw [perform]
  dsimp only
  cases hload : load options (host.read options.file state).1 with
  | error failure =>
    refine .unloaded fun program here hloads => ?_
    obtain rfl := hloads.here_eq
    cases hload.symm.trans (load_eq_ok_iff.2 hloads)
  | ok program =>
    obtain ⟨result, printed, hplay, hruns⟩ := exists_play_eq (load_eq_ok_iff.1 hload)
    dsimp only
    rw [hplay]
    cases result with
    | error fault => exact .broken hruns
    | ok film =>
      dsimp only [Except.mapError]
      split
      · next hrecord => exact ending_save hruns hrecord
      · next hquiet => exact .quiet hruns (Bool.eq_false_iff.2 hquiet)

/-! ## What a session leaves at the places of its host -/

namespace Host.Lawful

variable {path : String} {file : δ} {opened : σ} {place : ι}

/-- A run prints on the output what it prints. -/
theorem content_output_runs (hlaws : host.Lawful view)
    (hruns : Runs host options state result printed after) :
    view.content after view.output = (view.content state view.output).map (· ++ printed) := by
  obtain ⟨program, here, console, hloads, -, -, rfl⟩ := hruns
  obtain rfl := hloads.here_eq
  rw [hlaws.content_print, hlaws.content_read]

/-- A run writes nowhere else. -/
theorem content_runs_of_ne (hlaws : host.Lawful view)
    (hruns : Runs host options state result printed after) (hne : place ≠ view.output) :
    view.content after place = view.content state place := by
  obtain ⟨program, here, console, hloads, -, -, rfl⟩ := hruns
  obtain rfl := hloads.here_eq
  rw [hlaws.content_print_of_ne _ _ _ hne, hlaws.content_read]

/-- What is written to a path changes only the place to which it leads. -/
theorem content_write_create_of_ne (hlaws : host.Lawful view)
    (hopen : host.create path state = (.ok file, opened)) (bytes : List UInt8)
    (hne : place ≠ view.place file) :
    view.content (host.write file bytes opened).2 place = view.content state place := by
  rw [hlaws.content_write_of_ne _ _ _ _ bytes _ hopen hne,
    hlaws.content_create_of_ne _ _ _ _ _ hopen hne]

/-- **A first part of what is written to a path arrives there,** and all of it unless there is an
error. -/
theorem exists_receives (hlaws : host.Lawful view)
    (hopen : host.create path state = (.ok file, opened)) (bytes : List UInt8) :
    ∃ part, part <+: bytes ∧ ((host.write file bytes opened).1 = .ok () → part = bytes) ∧
      view.Receives (view.place file) part state (host.write file bytes opened).2 := by
  obtain ⟨part, hpart, hall, hcontent⟩ := hlaws.content_write _ _ _ _ bytes hopen
  refine ⟨part, hpart, hall, ⟨fun hfile => ?_, fun hstream => ?_⟩⟩
  · rw [hcontent, hlaws.content_file _ _ _ _ hopen hfile, Option.map_some, List.nil_append]
  · rw [hcontent, hlaws.content_stream _ _ _ _ hopen hstream]

end Host.Lawful

namespace Ending

variable {outcome : Outcome σ} {place : ι}

/-- The exit code is one of two. -/
theorem code_eq (h : Ending host options state outcome) : outcome.code = 0 ∨ outcome.code = 1 := by
  cases h with
  | unloaded | broken | unopened | cut => exact Or.inr rfl
  | quiet | written => exact Or.inl rfl

/-- **The exit code is 0 exactly if all goes well.** -/
theorem code_eq_zero_iff (h : Ending host options state outcome) : outcome.code = 0 ↔
    ∃ film printed after, Runs host options state (.ok film) printed after ∧
      (options.settings.recordFrames = false ∨ host.Takes options.framesPath film after) := by
  cases h with
  | unloaded hunloaded =>
    refine iff_of_false Nat.one_ne_zero ?_
    rintro ⟨film, printed, after, hruns, -⟩
    exact not_runs hunloaded hruns
  | broken hruns =>
    refine iff_of_false Nat.one_ne_zero ?_
    rintro ⟨film, printed, after, hruns', -⟩
    cases (hruns.unique hruns').1
  | quiet hruns hquiet => exact iff_of_true rfl ⟨_, _, _, hruns, Or.inl hquiet⟩
  | unopened hruns hrecord hopen =>
    refine iff_of_false Nat.one_ne_zero ?_
    rintro ⟨film, printed, after, hruns', hquiet | ⟨file, opened, hopen', -⟩⟩
    · exact Bool.false_ne_true (hquiet.symm.trans hrecord)
    · obtain ⟨-, rfl⟩ := hruns.film_eq hruns'
      cases hopen.symm.trans hopen'
  | written hruns _ hopen hwrite =>
    exact iff_of_true rfl ⟨_, _, _, hruns, Or.inr ⟨_, _, hopen, congrArg Prod.fst hwrite⟩⟩
  | cut hruns hrecord hopen hwrite =>
    refine iff_of_false Nat.one_ne_zero ?_
    rintro ⟨film, printed, after, hruns', hquiet | ⟨file, opened, hopen', htaken⟩⟩
    · exact Bool.false_ne_true (hquiet.symm.trans hrecord)
    · obtain ⟨rfl, rfl⟩ := hruns.film_eq hruns'
      cases hopen.symm.trans hopen'
      rw [hwrite] at htaken
      cases htaken

/-- Without a program nothing is written. -/
theorem content_eq (hlaws : host.Lawful view) (h : Ending host options state outcome)
    (hunloaded : ∀ program here, ¬Loads host options state program here) :
    view.content outcome.state = view.content state := by
  cases h with
  | unloaded => exact hlaws.content_read _ _
  | broken hruns | quiet hruns | unopened hruns | written hruns | cut hruns =>
    exact absurd hruns (not_runs hunloaded)

/-- **Beside the output, only where the frames go something is created or changed.** -/
theorem exists_delivers (hlaws : host.Lawful view) (h : Ending host options state outcome)
    (hne : place ≠ view.output)
    (hchanged : view.content outcome.state place ≠ view.content state place) :
    ∃ film, Delivers host view options state film place := by
  -- What is written to the path of the frames changes no other place.
  have hplace {film : Film} {printed : List UInt8} {after opened : σ} {file : δ}
      (hruns : Runs host options state (.ok film) printed after)
      (hrecord : options.settings.recordFrames = true)
      (hopen : host.create options.framesPath after = (.ok file, opened))
      (hleft : (host.write file (utf8 film.text) opened).2 = outcome.state) :
      ∃ film, Delivers host view options state film place := by
    by_cases hthere : place = view.place file
    · exact ⟨film, hrecord, _, _, hruns, _, _, hopen, hthere.symm⟩
    · refine absurd ?_ hchanged
      rw [← hleft, hlaws.content_write_create_of_ne hopen _ hthere,
        hlaws.content_runs_of_ne hruns hne]
  cases h with
  | unloaded => exact absurd (congrFun (hlaws.content_read _ _) place) hchanged
  | broken hruns | quiet hruns => exact absurd (hlaws.content_runs_of_ne hruns hne) hchanged
  | unopened hruns hrecord hopen =>
    refine absurd ?_ hchanged
    rw [hlaws.content_refused _ _ _ _ hopen, hlaws.content_runs_of_ne hruns hne]
  | written hruns hrecord hopen hwrite | cut hruns hrecord hopen hwrite =>
    exact hplace hruns hrecord hopen (congrArg Prod.snd hwrite)

/-- **Where the frames go a first part of them arrives,** and all of them if the exit code is 0. -/
theorem exists_receives (hlaws : host.Lawful view) (h : Ending host options state outcome)
    (hruns : Runs host options state (.ok film) printed after)
    (hrecord : options.settings.recordFrames = true)
    (hleads : view.Leads host options.framesPath after place) :
    ∃ part, part <+: utf8 film.text ∧ (outcome.code = 0 → part = utf8 film.text) ∧
      view.Receives place part after outcome.state := by
  obtain ⟨file, opened, hopen, rfl⟩ := hleads
  cases h with
  | unloaded hunloaded => exact absurd hruns (not_runs hunloaded)
  | broken hruns' => cases (hruns.unique hruns').1
  | quiet _ hquiet => exact absurd (hquiet.symm.trans hrecord) Bool.false_ne_true
  | unopened hruns' _ hopen' =>
    obtain ⟨-, rfl⟩ := hruns.film_eq hruns'
    cases hopen.symm.trans hopen'
  | written hruns' _ hopen' hwrite =>
    obtain ⟨rfl, rfl⟩ := hruns.film_eq hruns'
    cases hopen.symm.trans hopen'
    obtain ⟨part, hpart, hall, hreceives⟩ := hlaws.exists_receives hopen (utf8 film.text)
    rw [hwrite] at hall hreceives
    exact ⟨part, hpart, fun _ => hall rfl, hreceives⟩
  | cut hruns' _ hopen' hwrite =>
    obtain ⟨rfl, rfl⟩ := hruns.film_eq hruns'
    cases hopen.symm.trans hopen'
    obtain ⟨part, hpart, -, hreceives⟩ := hlaws.exists_receives hopen (utf8 film.text)
    rw [hwrite] at hreceives
    exact ⟨part, hpart, fun hcode => absurd hcode Nat.one_ne_zero, hreceives⟩

/-- A session whose frames go elsewhere leaves on the output what its run prints. -/
theorem content_output (hlaws : host.Lawful view) (h : Ending host options state outcome)
    (hruns : Runs host options state result printed after)
    (helsewhere : ∀ film, ¬Delivers host view options state film view.output) :
    view.content outcome.state view.output
      = (view.content state view.output).map (· ++ printed) := by
  have hplace {film' : Film} {printed' : List UInt8} {after' opened : σ} {file : δ}
      (hruns' : Runs host options state (.ok film') printed' after')
      (hrecord : options.settings.recordFrames = true)
      (hopen : host.create options.framesPath after' = (.ok file, opened)) :
      view.output ≠ view.place file := fun heq =>
    helsewhere film' ⟨hrecord, _, _, hruns', _, _, hopen, heq.symm⟩
  cases h with
  | unloaded hunloaded => exact absurd hruns (not_runs hunloaded)
  | broken hruns' | quiet hruns' =>
    rw [(hruns.unique hruns').2.1]
    exact hlaws.content_output_runs hruns'
  | unopened hruns' hrecord hopen =>
    rw [hlaws.content_refused _ _ _ _ hopen, (hruns.unique hruns').2.1]
    exact hlaws.content_output_runs hruns'
  | written hruns' hrecord hopen hwrite | cut hruns' hrecord hopen hwrite =>
    rw [(hruns.unique hruns').2.1, ← hlaws.content_output_runs hruns',
      ← hlaws.content_write_create_of_ne hopen _ (hplace hruns' hrecord hopen), hwrite]

end Ending

/-! ## Sessions -/

/-- **A session keeps its word** about its exit code, its output and the place of its frames. -/
structure KeepsWord (host : Host σ δ) (view : View σ δ ι) (options : Options) (state : σ)
    (outcome : Outcome σ) : Prop where
  /-- The exit code is 0 exactly if the run succeeds and the frames are not wanted or can be
  written. -/
  code_eq_zero_iff : outcome.code = 0 ↔
    ∃ film printed after, Runs host options state (.ok film) printed after ∧
      (options.settings.recordFrames = false ∨ host.Takes options.framesPath film after)
  /-- Else it is 1. -/
  code_eq_one : outcome.code ≠ 0 → outcome.code = 1
  /-- No run breaks off in a drawing, so the code 1 stands for an error with a message. -/
  ne_undrawable : ∀ result printed after, Runs host options state result printed after →
    result ≠ .error .undrawable
  /-- If the file cannot be read or compiled, nothing is printed, nor written anywhere else. -/
  content_eq : (∀ program here, ¬Loads host options state program here) →
    view.content outcome.state = view.content state
  /-- Beside the output, only the place of the frames is created or changed, and only after a run
  that succeeded. -/
  exists_delivers : ∀ place, place ≠ view.output →
    view.content outcome.state place ≠ view.content state place →
      ∃ film, Delivers host view options state film place
  /-- This place receives the frames, joined by line feeds, or a first part of that; if the exit
  code is 0 it is all. -/
  exists_receives : ∀ film printed after place,
    Runs host options state (.ok film) printed after → options.settings.recordFrames = true →
      view.Leads host options.framesPath after place →
        ∃ part, part <+: utf8 ("\n".intercalate film.frames.toList) ∧
          (outcome.code = 0 → part = utf8 ("\n".intercalate film.frames.toList)) ∧
            view.Receives place part after outcome.state
  /-- Unless frames go to the output, what the run prints stands there behind what stood there
  before. -/
  content_output : ∀ result printed after, Runs host options state result printed after →
    (∀ film, ¬Delivers host view options state film view.output) →
      view.content outcome.state view.output
        = (view.content state view.output).map (· ++ printed)
  /-- Options that make the same run leave the same output, unless frames go there. -/
  content_output_eq : ∀ other, SameRun options other →
    (∀ film, ¬Delivers host view options state film view.output) →
      (∀ film, ¬Delivers host view other state film view.output) →
        view.content (perform host other state).state view.output
          = view.content outcome.state view.output
  /-- Frames that go there come to what is printed without them: behind it if the output is a
  stream, and in its place if it is a plain file. -/
  exists_output_receives : ∀ film other, SameRun options other →
    Delivers host view options state film view.output →
      (∀ film, ¬Delivers host view other state film view.output) →
        ∃ part, part <+: utf8 ("\n".intercalate film.frames.toList) ∧
          (outcome.code = 0 → part = utf8 ("\n".intercalate film.frames.toList)) ∧
            view.Receives view.output part (perform host other state).state outcome.state

/-- **What is made of the frames does not change the output,** unless they go there. -/
theorem content_output_of_sameRun (hlaws : host.Lawful view) (hsame : SameRun options other)
    (helsewhere : ∀ film, ¬Delivers host view options state film view.output)
    (helsewhere' : ∀ film, ¬Delivers host view other state film view.output) :
    view.content (perform host other state).state view.output
      = view.content (perform host options state).state view.output := by
  have hending := ending_perform host options state
  have hending' := ending_perform host other state
  by_cases hloads : ∃ program here, Loads host options state program here
  · obtain ⟨program, here, hloads⟩ := hloads
    obtain ⟨result, printed, after, hruns⟩ := exists_runs hloads
    obtain ⟨result', hruns'⟩ := hruns.sameRun hsame
    rw [hending.content_output hlaws hruns helsewhere,
      hending'.content_output hlaws hruns' helsewhere']
  · have hunloaded : ∀ program here, ¬Loads host options state program here :=
      fun program here h => hloads ⟨program, here, h⟩
    rw [hending.content_eq hlaws hunloaded, hending'.content_eq hlaws fun program here h =>
      hunloaded program here (h.sameRun hsame.symm)]

/-- Frames that go to the output come to what is printed without them. -/
theorem exists_output_receives_of_sameRun (hlaws : host.Lawful view) (hsame : SameRun options other)
    (hdelivers : Delivers host view options state film view.output)
    (helsewhere : ∀ film, ¬Delivers host view other state film view.output) :
    ∃ part, part <+: utf8 film.text ∧
      ((perform host options state).code = 0 → part = utf8 film.text) ∧
        view.Receives view.output part (perform host other state).state
          (perform host options state).state := by
  obtain ⟨hrecord, printed, after, hruns, hleads⟩ := hdelivers
  obtain ⟨part, hpart, hall, hreceives⟩ :=
    (ending_perform host options state).exists_receives hlaws hruns hrecord hleads
  obtain ⟨result', hruns'⟩ := hruns.sameRun hsame
  have hbefore : view.content after view.output
      = view.content (perform host other state).state view.output := by
    rw [hlaws.content_output_runs hruns,
      (ending_perform host other state).content_output hlaws hruns' helsewhere]
  exact ⟨part, hpart, hall, hreceives.content_file,
    fun hstream => hbefore ▸ hreceives.content_stream hstream⟩

/-- **On every host that can be relied on, every session keeps its word.** -/
theorem keepsWord_perform (hlaws : host.Lawful view) (options : Options) (state : σ) :
    KeepsWord host view options state (perform host options state) := by
  have hending := ending_perform host options state
  exact {
    code_eq_zero_iff := hending.code_eq_zero_iff
    code_eq_one := hending.code_eq.resolve_left
    ne_undrawable := fun _ _ _ => Runs.ne_undrawable
    content_eq := hending.content_eq hlaws
    exists_delivers := fun _ => hending.exists_delivers hlaws
    exists_receives := fun _ _ _ _ => hending.exists_receives hlaws
    content_output := fun _ _ _ => hending.content_output hlaws
    content_output_eq := fun _ => content_output_of_sameRun hlaws
    exists_output_receives := fun _ _ => exists_output_receives_of_sameRun hlaws }

/-- Two sessions in a folder whose frames go to the output.  A stream has taken them behind the one
byte that is printed, and a plain file holds them alone. -/
theorem keepsWord_perform_folder :
    let options : Options :=
      { file := "prog.txt", framesPath := "/dev/stdout", settings := { minWidth := 0 } }
    let folder : Folder := { files := [("out.txt", []), ("prog.txt", utf8 "print")] }
    let frame := "================= print\n0\n \n1\nX   Sound sum : 0\n2\n \n3\n================="
    let outcome (output : Folder.Place) := perform (Folder.host output) options folder
    (∀ output, (Folder.host output).Lawful (Folder.view output) ∧
      KeepsWord (Folder.host output) (Folder.view output) options folder (outcome output)) ∧
    (∀ output ∈ [.stream, .file "out.txt"], (outcome output).code = 0 ∧
      ∃ film, Delivers (Folder.host output) (Folder.view output) options folder film output) ∧
    (outcome .stream).state.content .stream = some (0 :: utf8 frame) ∧
    (outcome (.file "out.txt")).state.content (.file "out.txt") = some (utf8 frame) := by
  intro options folder frame outcome
  have hkeeps (output : Folder.Place) :=
    keepsWord_perform (Folder.lawful output) options folder
  have hcode : ∀ output ∈ [.stream, .file "out.txt"], (outcome output).code = 0 := by
    decide +kernel
  refine ⟨fun output => ⟨Folder.lawful output, hkeeps output⟩, fun output hmem => ?_, ?_, ?_⟩
  · obtain ⟨film, printed, after, hruns, -⟩ :=
      (hkeeps output).code_eq_zero_iff.1 (hcode output hmem)
    exact ⟨hcode output hmem, film, rfl, printed, after, hruns, output, _, rfl, rfl⟩
  · decide +kernel
  · decide +kernel

/-- **The frames can go to the output:** an option that names a path for them changes what stands
there. -/
theorem stdout_ne_of_frames_on_output :
    let folder : Folder := { files := [("prog.txt", utf8 "print")] }
    let quiet := session (Folder.host .stream) ["prog.txt"] folder
    let shown := session (Folder.host .stream) ["prog.txt", "--frames", "/dev/stdout"] folder
    quiet.code = 0 ∧ shown.code = 0 ∧ quiet.state.shown = [0] ∧
      shown.state.shown ≠ quiet.state.shown := by
  decide +kernel

end CommandLine

end Reverb
