import Reverb.Numeral
import Reverb.Proofs.Recording

/-!
# Proofs/Printing — the print style is an encoding

What a machine prints are the sound sums that its printing instructions find, each in the style of
its settings (`Machine.output_eq`).  Both styles are encodings: what is printed tells the sums
(`PrintStyle.output_injective`).

A machine that never reads hears nothing from outside but whether its prints succeed.  If they do, a
call is a function of the machine alone (`Machine.advance`), and this does not look at the style.
So the style changes nothing but the encoding (`Machine.style_only_encodes`).
-/

namespace Reverb

variable {σ ε : Type}

/-! ## Texts as bytes -/

/-- The bytes of a text in UTF-8. -/
def utf8 (text : String) : List UInt8 := text.toUTF8.data.toList

theorem utf8_injective : Function.Injective utf8 := fun _ _ h =>
  String.toByteArray_inj.1 (ByteArray.ext (Array.toList_inj.1 h))

theorem utf8_append (text other : String) : utf8 (text ++ other) = utf8 text ++ utf8 other := by
  simp [utf8]

/-- Bytes are read as a text exactly if they are its bytes. -/
theorem fromUTF8?_eq_some_iff {bytes : List UInt8} {text : String} :
    String.fromUTF8? ⟨bytes.toArray⟩ = some text ↔ utf8 text = bytes := by
  rw [String.fromUTF8?, Option.dite_none_right_eq_some]
  constructor
  · rintro ⟨hvalid, h⟩
    obtain rfl := Option.some.inj h
    rfl
  · rintro rfl
    exact ⟨text.isValidUTF8, congrArg some (String.toByteArray_inj.1 rfl)⟩

namespace PrintStyle

/-- **The output for a list of sums:** the characters with these code points, or each sum in decimal
on a line of its own. -/
def output : PrintStyle → List UInt8 → List UInt8
  | ascii, sums => utf8 (String.ofList (sums.map fun sum => Char.ofNat sum.toNat))
  | numbers, sums => utf8 (String.join (sums.map fun sum => sum.toNat.repr ++ "\n"))

@[simp] theorem output_nil (style : PrintStyle) : style.output [] = [] := by
  cases style <;> rfl

theorem output_singleton (style : PrintStyle) (sum : UInt8) :
    style.output [sum] = utf8 (style.text sum) := by
  cases style with
  | ascii => rfl
  | numbers => simp [output, text, String.join]

theorem output_append (style : PrintStyle) (sums more : List UInt8) :
    style.output (sums ++ more) = style.output sums ++ style.output more := by
  cases style with
  | ascii => rw [output, List.map_append, String.ofList_append, utf8_append, output, output]
  | numbers => rw [output, List.map_append, String.join_append, utf8_append, output, output]

/-! ## Both styles are encodings -/

theorem toNat_ofNat_toNat (sum : UInt8) : (Char.ofNat sum.toNat).toNat = sum.toNat := by
  rw [Char.ofNat, dif_pos (Or.inl (sum.toNat_lt.trans (by decide)))]
  rfl

theorem ofNat_toNat_injective : Function.Injective fun sum : UInt8 => Char.ofNat sum.toNat := by
  intro sum other h
  have htoNat := congrArg Char.toNat h
  exact UInt8.toNat_inj.1 (by rwa [toNat_ofNat_toNat, toNat_ofNat_toNat] at htoNat)

/-- A numeral on a line of its own tells the number, whatever follows. -/
theorem line_inj {m n : Nat} {rest more : List Char}
    (h : (m.repr ++ "\n").toList ++ rest = (n.repr ++ "\n").toList ++ more) :
    m = n ∧ rest = more := by
  have hdigits (n : Nat) (rest : List Char) :
      ((n.repr ++ "\n").toList ++ rest).takeWhile Char.isDigit = n.repr.toList := by
    rw [String.toList_append, List.append_assoc,
      List.takeWhile_append_of_pos (Numeral.isNumeral_repr n).2]
    exact List.append_nil _
  obtain rfl : m = n := Option.some.inj (by
    rw [← Numeral.value?_repr, ← hdigits m rest, h, hdigits, Numeral.value?_repr])
  exact ⟨rfl, List.append_cancel_left h⟩

theorem lines_injective : Function.Injective fun sums : List UInt8 =>
    sums.flatMap fun sum => (sum.toNat.repr ++ "\n").toList := by
  intro sums
  induction sums with
  | nil =>
    rintro (_ | ⟨sum, others⟩) h
    · rfl
    · simp at h
  | cons sum rest ih =>
    rintro (_ | ⟨other, others⟩) h
    · simp at h
    · obtain ⟨hsum, hrest⟩ := line_inj h
      rw [UInt8.toNat_inj.1 hsum, ih hrest]

/-- **What is printed tells the sums,** in either style. -/
theorem output_injective (style : PrintStyle) : Function.Injective style.output := by
  intro sums others h
  cases style with
  | ascii =>
    have hcharacters := String.ofList_injective (utf8_injective h)
    exact List.map_injective_iff.2 ofNat_toNat_injective hcharacters
  | numbers =>
    have hlines := congrArg String.toList (utf8_injective h)
    rw [String.toList_join, String.toList_join, List.flatMap_map, List.flatMap_map] at hlines
    exact lines_injective hlines

end PrintStyle

/-! ## What a machine prints -/

/-- The bytes that a request asks to print. -/
def Request.bytes : Request → List UInt8
  | write text => utf8 text
  | _ => []

namespace Machine

variable {terminal : Terminal σ ε} {program : Array Instruction} {machine : Machine}
variable {instruction : Instruction} {outside after : σ} {n : Nat}

/-- The bytes that the machine prints in `n` calls. -/
def output (port : Port σ ε) (machine : Machine) (outside : σ) (n : Nat) : List UInt8 :=
  (machine.asked port outside n).flatMap Request.bytes

/-- The sums that the machine prints in `n` calls: for each dispatched instruction that prints, the
sum of the tick before. -/
def printed (port : Port σ ε) (machine : Machine) (outside : σ) (n : Nat) : List UInt8 :=
  ((machine.dispatches port outside n).filter fun dispatch => dispatch.instruction.prints).map
    Dispatch.sum

theorem bytes_showing (machine : Machine) : machine.showing.flatMap Request.bytes = [] := by
  rw [showing]
  split <;> rfl

theorem bytes_talk (machine : Machine) (instruction : Instruction) :
    (machine.talk instruction).flatMap Request.bytes
      = if instruction.prints then utf8 (machine.settings.style.text machine.chamber.sum)
        else [] := by
  cases instruction <;> simp [talk, Instruction.prints, Request.bytes]

/-- A call prints the sum that its instruction finds, if this prints. -/
theorem bytes_requests (port : Port σ ε) (machine : Machine) (outside : σ) :
    (machine.requests port outside).flatMap Request.bytes
      = machine.settings.style.output ((machine.dispatch?.toList.filter fun dispatch =>
          dispatch.instruction.prints).map Dispatch.sum) := by
  match hturn : machine.turn with
  | .stopped =>
    rw [requests_of_stopped hturn, dispatch?, hturn]
    simp
  | .waiting =>
    rw [requests_of_waiting hturn, bytes_showing, dispatch?_of_waiting hturn]
    simp
  | .dispatch instruction =>
    have hsum : machine.settings.style.output ((machine.dispatch?.toList.filter fun dispatch =>
        dispatch.instruction.prints).map Dispatch.sum)
          = (machine.talk instruction).flatMap Request.bytes := by
      rw [bytes_talk, dispatch?, hturn, Option.toList_some, List.filter_singleton]
      cases instruction.prints <;> simp [PrintStyle.output_singleton]
    rcases hheard : machine.converse port.toTerminal instruction outside with ⟨error | heard, world⟩
    · rw [requests_of_unheard hturn hheard, hsum]
    · rw [requests_of_heard hturn hheard, List.flatMap_append, bytes_showing, List.append_nil, hsum]

/-- **A machine prints the sums that its printing instructions find,** in its style. -/
theorem output_eq (port : Port σ ε) (machine : Machine) (outside : σ) (n : Nat) :
    machine.output port outside n
      = machine.settings.style.output (machine.printed port outside n) := by
  induction n with
  | zero => exact (PrintStyle.output_nil _).symm
  | succ n ih =>
    rw [output] at ih
    rw [output, printed, asked_succ, dispatches_succ, List.flatMap_append, List.filter_append,
      List.map_append, PrintStyle.output_append, ih, bytes_requests,
      (called_program_settings port machine outside n).2, printed]

/-! ## Machines that never read -/

/-- Whenever the machine prints, it can. -/
def WritesSucceed (terminal : Terminal σ ε) (machine : Machine) (outside : σ) : Prop :=
  ∀ n instruction, (machine.called terminal.port outside n).1.turn = .dispatch instruction →
    instruction.prints = true →
    ∃ after, terminal.write
      (machine.settings.style.text (machine.called terminal.port outside n).1.chamber.sum)
      (machine.called terminal.port outside n).2 = (.ok (), after)

/-- What a call makes of a machine that reads nothing and prints with success. -/
def advance (machine : Machine) : Machine :=
  match machine.turn with
  | .stopped => machine
  | .waiting => machine.waited.recorded
  | .dispatch instruction => (machine.carriedOut instruction 0).recorded

theorem converse_eq_zero (hreads : ∀ directions distance, instruction ≠ .input directions distance)
    (hwrites : instruction.prints = true → ∃ after,
      terminal.write (machine.settings.style.text machine.chamber.sum) outside = (.ok (), after)) :
    ∃ after, machine.converse terminal instruction outside = (.ok 0, after) := by
  cases instruction with
  | input directions distance => exact absurd rfl (hreads directions distance)
  | predirect | print | pcondition =>
    obtain ⟨after, hafter⟩ := hwrites rfl
    exact ⟨after, by simp [converse, Instruction.prints, hafter]⟩
  | nop | send | wall | redirect | condition | exit => exact ⟨outside, rfl⟩

theorem callOn_eq_advance (hin : machine.InBounds program)
    (hheard : ∀ instruction, machine.turn = .dispatch instruction →
      ∃ after, machine.converse terminal.port.toTerminal instruction outside = (.ok 0, after)) :
    ∃ after, machine.callOn terminal.port outside
      = (.ok machine.isRunning, machine.advance, after) := by
  match hturn : machine.turn with
  | .stopped =>
    rw [callOn_of_stopped hturn, isRunning, advance, hturn]
    exact ⟨outside, rfl⟩
  | .waiting =>
    rw [callOn_port_of_waiting hin hturn, isRunning, advance, hturn]
    exact ⟨outside, rfl⟩
  | .dispatch instruction =>
    obtain ⟨after, hafter⟩ := hheard instruction hturn
    rw [callOn_port_of_heard hin hturn hafter, isRunning, advance, hturn]
    exact ⟨after, rfl⟩

/-- **A machine that reads nothing and prints with success** goes its own way. -/
theorem called_eq_advance (hin : machine.InBounds program)
    (hreads : ∀ directions distance, Instruction.input directions distance ∉ machine.program)
    (hwrites : WritesSucceed terminal machine outside) (n : Nat) :
    (machine.called terminal.port outside n).1 = advance^[n] machine ∧
      machine.result terminal.port outside n = .ok (advance^[n] machine).isRunning := by
  have hstep (n : Nat) : ∃ after,
      (machine.called terminal.port outside n).1.callOn terminal.port
        (machine.called terminal.port outside n).2
      = (.ok (machine.called terminal.port outside n).1.isRunning,
          (machine.called terminal.port outside n).1.advance, after) := by
    obtain ⟨hprogram, hsettings⟩ := called_program_settings terminal.port machine outside n
    refine callOn_eq_advance (hin.called terminal.port outside n) fun instruction hturn => ?_
    have hmem := mem_program_of_dispatch hturn
    rw [hprogram] at hmem
    refine converse_eq_zero (fun directions distance h => ?_) fun hprints => ?_
    · exact hreads directions distance (h ▸ hmem)
    · rw [hsettings]
      exact hwrites n instruction hturn hprints
  have hcalled : (machine.called terminal.port outside n).1 = advance^[n] machine := by
    induction n with
    | zero => rfl
    | succ n ih =>
      obtain ⟨after, hafter⟩ := hstep n
      rw [called_succ, hafter, ih, Function.iterate_succ_apply']
  obtain ⟨after, hafter⟩ := hstep n
  exact ⟨hcalled, by rw [result, hafter, hcalled]⟩

/-! ## The same machine in another style -/

/-- The machine that prints in another style. -/
def withStyle (machine : Machine) (style : PrintStyle) : Machine :=
  { machine with settings := { machine.settings with style } }

theorem withStyle_recorded (machine : Machine) (style : PrintStyle) :
    (machine.withStyle style).recorded = machine.recorded.withStyle style := by
  rw [recorded, recorded, apply_ite (withStyle · style)]
  rfl

/-- **To go its own way a machine does not look at its style.** -/
theorem advance_withStyle (machine : Machine) (style : PrintStyle) :
    (machine.withStyle style).advance = machine.advance.withStyle style := by
  have hturn' : (machine.withStyle style).turn = machine.turn := rfl
  rw [advance, hturn', advance]
  match machine.turn with
  | .stopped => rfl
  | .waiting => exact withStyle_recorded machine.waited style
  | .dispatch instruction => exact withStyle_recorded (machine.carriedOut instruction 0) style

theorem iterate_advance_withStyle (machine : Machine) (style : PrintStyle) (n : Nat) :
    advance^[n] (machine.withStyle style) = (advance^[n] machine).withStyle style := by
  have hcommutes : Function.Semiconj (withStyle · style) advance advance := fun machine =>
    (advance_withStyle machine style).symm
  exact (hcommutes.iterate_right n machine).symm

/-- **The style only encodes:** in any style, the machine goes the same way with the same success
and prints the same sums. -/
structure OnlyEncodes (terminal : Terminal σ ε) (machine : Machine) (outside : σ) : Prop where
  /-- After any calls the machine is the same in every style: its chamber, its pointer, its film. -/
  called : ∀ style n, ((machine.withStyle style).called terminal.port outside n).1
    = (machine.called terminal.port outside n).1.withStyle style
  /-- No call fails, and each does something for as long as the machine has not stopped. -/
  result : ∀ style n, (machine.withStyle style).result terminal.port outside n
    = .ok (machine.called terminal.port outside n).1.isRunning
  /-- The same instructions are dispatched at the same sums, -/
  dispatches : ∀ style n, (machine.withStyle style).dispatches terminal.port outside n
    = machine.dispatches terminal.port outside n
  /-- and what is printed are the sums that those among them that print have found. -/
  output : ∀ style n, (machine.withStyle style).output terminal.port outside n
    = style.output (machine.printed terminal.port outside n)
  /-- The whole run succeeds too, after the same calls and with the same film. -/
  run : ∃ n film, ∀ style, EndsAt terminal.port (machine.withStyle style) outside n ∧
    (∃ after, (machine.withStyle style).run terminal outside = (.ok film, after)) ∧
    ((machine.withStyle style).transcript terminal.port outside).flatMap Request.bytes
      = style.output (machine.printed terminal.port outside (n + 1))
  /-- Different sums are never printed alike. -/
  injective : ∀ style : PrintStyle, Function.Injective style.output

theorem InBounds.withStyle (h : machine.InBounds program) (style : PrintStyle) :
    (machine.withStyle style).InBounds program :=
  ⟨h.program_eq, h.pointer_le, h.nextSoundId_le, h.le_nextWallId, h.paced⟩

theorem called_withStyle (hin : machine.InBounds program)
    (hreads : ∀ directions distance, Instruction.input directions distance ∉ machine.program)
    (hwrites : ∀ style, WritesSucceed terminal (machine.withStyle style) outside)
    (style : PrintStyle) (n : Nat) :
    ((machine.withStyle style).called terminal.port outside n).1
        = (machine.called terminal.port outside n).1.withStyle style ∧
      (machine.withStyle style).result terminal.port outside n
        = .ok (machine.called terminal.port outside n).1.isRunning := by
  obtain ⟨hcalled, -⟩ := called_eq_advance hin hreads (hwrites machine.settings.style) n
  obtain ⟨hcalled', hresult'⟩ :=
    called_eq_advance (hin.withStyle style) hreads (hwrites style) n
  rw [hcalled', hresult', hcalled, iterate_advance_withStyle]
  exact ⟨rfl, rfl⟩

/-- **To print in another style is only to encode the output in another way,** for a machine that
reads nothing and prints with success. -/
theorem style_only_encodes (program : Array Instruction) (settings : Settings)
    (terminal : Terminal σ ε) (outside : σ)
    (hreads : ∀ directions distance, Instruction.input directions distance ∉ program)
    (hwrites : ∀ style, WritesSucceed terminal (withStyle { program, settings } style) outside) :
    OnlyEncodes terminal { program, settings } outside := by
  have hlockstep := called_withStyle (inBounds_start program settings) hreads hwrites
  have hdispatches (style : PrintStyle) (n : Nat) :
      dispatches terminal.port (withStyle { program, settings } style) outside n
        = dispatches terminal.port { program, settings } outside n :=
    List.filterMap_congr fun k _ => by
      rw [(hlockstep style k).1]
      rfl
  have houtput (style : PrintStyle) (n : Nat) :
      output terminal.port (withStyle { program, settings } style) outside n
        = style.output (printed terminal.port { program, settings } outside n) := by
    rw [output_eq, printed, hdispatches, printed]
    rfl
  obtain ⟨n, hn⟩ := exists_endsAt terminal.port { program, settings } outside
  let film := (called terminal.port { program, settings } outside (n + 1)).1.film
  refine ⟨fun style n => (hlockstep style n).1, fun style n => (hlockstep style n).2, hdispatches,
    houtput, ⟨n, film, fun style => ?_⟩, PrintStyle.output_injective⟩
  have hends : EndsAt terminal.port (withStyle { program, settings } style) outside n :=
    hn.congr fun k _ => (hlockstep style k).2.trans (hlockstep settings.style k).2.symm
  refine ⟨hends, ?_, ?_⟩
  · rw [← runOn_port, hends.runOn_eq, (hlockstep style n).2, (hlockstep style (n + 1)).1]
    exact ⟨_, rfl⟩
  · rw [hends.transcript_eq]
    exact houtput style (n + 1)

/-- A print that finds the sum 0 and one that finds 200, a character of two bytes. -/
theorem style_only_encodes_echo :
    let program : Array Instruction :=
      #[.send ⟨1, by decide, by decide⟩ 1 200, .print, .predirect ⟨2, by decide, by decide⟩ 1 none]
    let terminal : Terminal Unit Unit := ⟨fun _ => (.ok "", ()), fun _ _ => (.ok (), ())⟩
    OnlyEncodes terminal { program } () ∧ printed terminal.port { program } () 3 = [0, 200] ∧
      output terminal.port (withStyle { program } .ascii) () 3 = [0, 195, 136] ∧
      output terminal.port (withStyle { program } .numbers) () 3 = [48, 10, 50, 48, 48, 10] := by
  intro program terminal
  have hreads : ∀ directions distance, Instruction.input directions distance ∉ program := by
    simp [program]
  exact ⟨style_only_encodes program {} terminal () hreads fun _ _ _ _ _ => ⟨(), rfl⟩,
    by decide +kernel, by decide +kernel, by decide +kernel⟩

end Machine

end Reverb
