import Mathlib.Data.Fin.VecNotation
import Mathlib.Data.List.Forall2
import Mathlib.Data.List.Sort
import Mathlib.Order.Hom.Basic
import Reverb.Program.Compile

/-!
# Proofs/Layout — comments and blanks do not matter

A source can be laid out anew: comments and blank lines come in between its lines, and the words of
a line move apart or together.  `Relayout` is such a change, and what compiling gives is the same
before and after it (`Relayout.compile_same`); only a refusal names the new place of its line.

The words of a text are found in it exactly if the text lays them out (`words_eq_iff`), a line is
left out exactly if no letter begins it (`ofText?_eq_none_iff`), and from there on only the words
of the lines count, except for the place that a refusal names.
-/

namespace Reverb

/-! ## Layouts of words -/

namespace Text

/-- **The text lays out the words:** blanks may stand around each of them, and behind a word comes
a blank if anything comes. -/
inductive LaysOut : List (List Char) → List Char → Prop
  /-- No word. -/
  | blank {text : List Char} : (∀ c ∈ text, isBlank c = true) → LaysOut [] text
  /-- A word, perhaps behind blanks. -/
  | word {lead word rest : List Char} {words : List (List Char)} :
    (∀ c ∈ lead, isBlank c = true) → word ≠ [] → (∀ c ∈ word, isBlank c = false) →
      (∀ c ∈ rest.head?, isBlank c = true) → LaysOut words rest →
        LaysOut (word :: words) (lead ++ word ++ rest)

/-- Blanks at the front belong to no word. -/
theorem words_append_of_blanks {lead : List Char} (hlead : ∀ c ∈ lead, isBlank c = true)
    (text : List Char) : words (lead ++ text) = words text := by
  induction lead with
  | nil => rfl
  | cons c lead ih =>
    obtain ⟨hc, hrest⟩ := List.forall_mem_cons.1 hlead
    rw [List.cons_append, words_cons_blank hc, ih hrest]

/-- A word that ends at a blank or with the text is the first one. -/
theorem words_append_of_word {word rest : List Char} (hne : word ≠ [])
    (hword : ∀ c ∈ word, isBlank c = false) (hrest : ∀ c ∈ rest.head?, isBlank c = true) :
    words (word ++ rest) = word :: words rest := by
  cases rest with
  | nil => rw [List.append_nil, words_of_none hne hword, words_nil]
  | cons c rest =>
    have hc : isBlank c = true := hrest c rfl
    rw [words_append_blank hc, words_of_none hne hword, words_cons_blank hc, List.singleton_append]

namespace LaysOut

variable {text : List Char} {tokens : List (List Char)}

/-- **The words that a text lays out are found in it.** -/
theorem words_eq (h : LaysOut tokens text) : words text = tokens := by
  induction h with
  | blank hblank => exact words_of_blanks hblank
  | word hlead hne hword hrest _ ih =>
    rw [List.append_assoc, words_append_of_blanks hlead, words_append_of_word hne hword hrest, ih]

/-- One blank more at the front. -/
theorem cons_blank (h : LaysOut tokens text) {c : Char} (hc : isBlank c = true) :
    LaysOut tokens (c :: text) := by
  cases h with
  | blank hblank => exact .blank (List.forall_mem_cons.2 ⟨hc, hblank⟩)
  | @word lead word rest words hlead hne hword hrest hwords =>
    have hlonger : ∀ b ∈ c :: lead, isBlank b = true := List.forall_mem_cons.2 ⟨hc, hlead⟩
    exact .word hlonger hne hword hrest hwords

/-- The first character that is not blank begins the first word. -/
theorem find?_eq (h : LaysOut tokens text) :
    (text.find? fun c => !isBlank c) = tokens.head?.bind List.head? := by
  cases h with
  | blank hblank =>
    refine List.find?_eq_none.2 fun c hc => ?_
    simp [hblank c hc]
  | @word lead word rest words hlead hne hword hrest hwords =>
    have hnone : (lead.find? fun c => !isBlank c) = none :=
      List.find?_eq_none.2 fun c hc => by simp [hlead c hc]
    cases word with
    | nil => exact absurd rfl hne
    | cons c word =>
      rw [List.append_assoc, List.find?_append, hnone, Option.none_or, List.cons_append,
        List.find?_cons_of_pos (by simp [hword c List.mem_cons_self])]
      rfl

end LaysOut

/-- Every text lays out some words. -/
theorem exists_laysOut (text : List Char) : ∃ tokens, LaysOut tokens text := by
  induction text with
  | nil => exact ⟨[], .blank (List.forall_mem_nil _)⟩
  | cons c text ih =>
    obtain ⟨tokens, h⟩ := ih
    by_cases hc : isBlank c = true
    · exact ⟨tokens, h.cons_blank hc⟩
    have hsingle : ∀ d ∈ [c], isBlank d = false :=
      List.forall_mem_singleton.2 (Bool.eq_false_iff.2 hc)
    -- the character is a word of its own, or the first one of the word that stood at the front
    cases h with
    | blank hblank =>
      refine ⟨[[c]], .word (List.forall_mem_nil _) (List.cons_ne_nil c []) hsingle ?_
        (.blank hblank)⟩
      exact fun d hd => hblank d (List.mem_of_head? hd)
    | @word lead word rest words hlead hne hword hrest hwords =>
      cases lead with
      | nil =>
        refine ⟨(c :: word) :: words, .word (List.forall_mem_nil _) (List.cons_ne_nil c word) ?_
          hrest hwords⟩
        exact List.forall_mem_cons.2 ⟨Bool.eq_false_iff.2 hc, hword⟩
      | cons b lead =>
        refine ⟨[c] :: word :: words, .word (List.forall_mem_nil _) (List.cons_ne_nil c []) hsingle
          ?_ (.word hlead hne hword hrest hwords)⟩
        rintro d ⟨⟩
        exact hlead b List.mem_cons_self

/-- **The words of a text are those that it lays out.** -/
theorem words_eq_iff {text : List Char} {tokens : List (List Char)} :
    words text = tokens ↔ LaysOut tokens text := by
  refine ⟨?_, LaysOut.words_eq⟩
  rintro rfl
  obtain ⟨tokens, h⟩ := exists_laysOut text
  rwa [h.words_eq]

end Text

/-! ## Lines that are left out -/

namespace Line

/-- The text is blank, or its first character that is not blank is no letter. -/
def IsLeftOut (text : String) : Prop :=
  ∀ c ∈ text.toList.find? fun c => !Text.isBlank c, Text.isAlphabetic c = false

/-- The texts lay out the same words. -/
def SameWords (text other : String) : Prop :=
  ∃ words, Text.LaysOut words text.toList ∧ Text.LaysOut words other.toList

/-- A command line is told by its first character that is not blank. -/
theorem commandWords?_eq (text : List Char) : commandWords? text =
    if (text.find? fun c => !Text.isBlank c).any Text.isAlphabetic then some (Text.words text)
    else none := by
  have hlaid := Text.words_eq_iff.1 (rfl : Text.words text = _)
  rw [hlaid.find?_eq, commandWords?]
  cases hwords : Text.words text with
  | nil => rfl
  | cons word rest =>
    cases word with
    | nil => exact absurd rfl (Text.of_mem_words (hwords ▸ List.mem_cons_self)).1
    | cons c word => rfl

/-- **Exactly these texts are no command lines.** -/
theorem ofText?_eq_none_iff {n : Nat} {text : String} : ofText? n text = none ↔ IsLeftOut text := by
  rw [IsLeftOut, ofText?, Option.map_eq_none_iff, commandWords?_eq]
  cases text.toList.find? fun c => !Text.isBlank c with
  | none => simp
  | some c => simp

theorem sameWords_iff {text other : String} :
    SameWords text other ↔ Text.words text.toList = Text.words other.toList := by
  constructor
  · rintro ⟨words, htext, hother⟩
    rw [htext.words_eq, hother.words_eq]
  · exact fun h => ⟨_, Text.words_eq_iff.1 h, Text.words_eq_iff.1 rfl⟩

instance (text other : String) : Decidable (SameWords text other) :=
  decidable_of_iff _ sameWords_iff.symm

instance (text : String) : Decidable (IsLeftOut text) :=
  decidable_of_iff (ofText? 0 text = none) ofText?_eq_none_iff

/-- Texts of the same words are the same command line, but for its place. -/
theorem ofText?_of_sameWords {text other : String} (h : SameWords text other) (n m : Nat) :
    ofText? m other = (ofText? n text).map fun line => { line with sourceLine := m } := by
  rw [ofText?, ofText?, commandWords?, commandWords?, sameWords_iff.1 h, Option.map_map]
  rfl

/-- The source line of a command line is its place. -/
theorem sourceLine_of_ofText? {n : Nat} {text : String} {line : Line}
    (h : ofText? n text = some line) : line.sourceLine = n := by
  obtain ⟨words, -, rfl⟩ := Option.map_eq_some_iff.1 h
  rfl

/-- What a line says depends on its words alone. -/
theorem decode_eq (line : Line) (n : Nat) :
    decode { line with sourceLine := n } = line.decode := rfl

/-- The command lines of a source, by the places of its lines. -/
theorem ofSource_eq (source : List String) :
    ofSource source =
      (List.finRange source.length).filterMap fun i : Fin source.length => ofText? i source[i] := by
  have hplaces : source.zipIdx =
      (List.finRange source.length).map fun i : Fin source.length => (source[i], i.val) :=
    List.ext_getElem (by simp) (by simp)
  rw [ofSource, hplaces, List.filterMap_map]
  rfl

end Line

/-! ## A source laid out anew -/

/-- **A new layout of a source:** its lines in their order, each with its words, and between them
lines that are left out. -/
structure Relayout (source laid : List String) where
  /-- Where a line of the source stands now. -/
  place : Fin source.length ↪o Fin laid.length
  /-- Every line has its words. -/
  sameWords : ∀ i, Line.SameWords source[i] laid[place i]
  /-- Whatever line is new is left out. -/
  isLeftOut : ∀ j, (∀ i, place i ≠ j) → Line.IsLeftOut laid[j]

namespace Relayout

variable {source laid : List String} (relayout : Relayout source laid)

/-- **A command line and the same one in the new layout.** -/
inductive Moves : Line → Line → Prop
  | of_place (i : Fin source.length) (tokens : List String) :
    Line.ofText? i source[i] = some ⟨i, tokens⟩ → Moves ⟨i, tokens⟩ ⟨relayout.place i, tokens⟩

/-- **The same reading of the command lines:** the same commands, or the refusal of the same line
for the same reason. -/
inductive SameReading :
    Except Rejection (List Command) → Except Rejection (List Command) → Prop
  | commands (commands : List Command) : SameReading (.ok commands) (.ok commands)
  | refusal (index : Nat) {line moved : Line} (reason : Reason) : relayout.Moves line moved →
    SameReading (.error ⟨index, line, reason⟩) (.error ⟨index, moved, reason⟩)

/-- **The same outcome of compiling:** the same program, the same limit, or the refusal of the same
line for the same reason. -/
inductive SameOutcome :
    Except CompileError (Array Instruction) → Except CompileError (Array Instruction) → Prop
  | program (program : Array Instruction) : SameOutcome (.ok program) (.ok program)
  | limit (error : LimitError) : SameOutcome (.error (.limit error)) (.error (.limit error))
  | refusal (index : Nat) {line moved : Line} (reason : Reason) : relayout.Moves line moved →
    SameOutcome (.error (.rejected ⟨index, line, reason⟩))
      (.error (.rejected ⟨index, moved, reason⟩))

/-- The places of the lines of the source, among all places in order. -/
theorem filter_finRange : (List.finRange laid.length).filter (fun j => ∃ i, relayout.place i = j) =
    (List.finRange source.length).map relayout.place := by
  refine List.SortedLT.eq_of_mem_iff ?_ ?_ fun j => by simp
  · exact ((List.pairwise_lt_finRange _).filter _).sortedLT
  · exact (List.pairwise_map.2 ((List.pairwise_lt_finRange _).imp
      fun hlt => relayout.place.lt_iff_lt.2 hlt)).sortedLT

/-- The command lines of the new layout, by the places of the lines of the source. -/
theorem ofSource_laid : Line.ofSource laid = (List.finRange source.length).filterMap fun i =>
    Line.ofText? (relayout.place i) laid[relayout.place i] := by
  have hkept : ∀ j : Fin laid.length, Line.ofText? j laid[j] =
      if ∃ i, relayout.place i = j then Line.ofText? j laid[j] else none := fun j => by
    split
    · rfl
    · next hnew =>
      exact Line.ofText?_eq_none_iff.2 (relayout.isLeftOut j fun i heq => hnew ⟨i, heq⟩)
  calc Line.ofSource laid
      = (List.finRange laid.length).filterMap fun j : Fin laid.length => Line.ofText? j laid[j] :=
        Line.ofSource_eq laid
    _ = ((List.finRange laid.length).filter fun j => ∃ i, relayout.place i = j).filterMap
          fun j : Fin laid.length => Line.ofText? j laid[j] := by
        rw [List.filterMap_filter]
        refine List.filterMap_congr fun j _ => ?_
        simpa using hkept j
    _ = _ := by
        rw [filter_finRange, List.filterMap_map]
        rfl

/-- **The command lines move one by one.** -/
theorem forall₂_moves :
    List.Forall₂ relayout.Moves (Line.ofSource source) (Line.ofSource laid) := by
  have hplaces : List.Forall₂ Eq (List.finRange source.length) (List.finRange source.length) :=
    List.forall₂_refl _
  rw [Line.ofSource_eq, relayout.ofSource_laid]
  refine List.rel_filterMap ?_ hplaces
  rintro i _ rfl
  dsimp only
  rw [Line.ofText?_of_sameWords (relayout.sameWords i) i (relayout.place i)]
  cases hline : Line.ofText? i source[i] with
  | none => exact .none
  | some line =>
    obtain ⟨n, tokens⟩ := line
    obtain rfl : n = i := Line.sourceLine_of_ofText? hline
    exact .some (.of_place i tokens hline)

variable {relayout}

theorem Moves.decode_eq {line moved : Line} (h : relayout.Moves line moved) :
    moved.decode = line.decode := by
  obtain ⟨i, tokens, -⟩ := h
  exact Line.decode_eq ⟨i, tokens⟩ _

/-- One more command in front. -/
theorem SameReading.cons {reading moved : Except Rejection (List Command)}
    (h : relayout.SameReading reading moved) (command : Command) :
    relayout.SameReading (reading.map (command :: ·)) (moved.map (command :: ·)) := by
  cases h with
  | commands commands => exact .commands (command :: commands)
  | refusal index reason hmoves => exact .refusal index reason hmoves

/-- **Reading looks at the words of the lines only.** -/
theorem sameReading_readFrom {lines moved : List Line} (h : List.Forall₂ relayout.Moves lines moved)
    (size index : Nat) (stops : List Nat) : relayout.SameReading
      (Command.readFrom size index stops lines) (Command.readFrom size index stops moved) := by
  induction h generalizing index stops with
  | nil => exact .commands []
  | @cons line movedLine lines moved hmoves _ ih =>
    rw [Command.readFrom, Command.readFrom, hmoves.decode_eq]
    cases line.decode with
    | error reason => exact .refusal index reason hmoves
    | ok command =>
      dsimp only
      split
      · exact (ih (index + 1) _).cons command
      · split
        · exact (ih (index + 1) _).cons command
        · exact .refusal index _ hmoves

/-- **Comments and blanks do not matter:** within any limits a new layout compiles to the same
program, or it hits the same limit, or the same line is refused for the same reason, at its new
place. -/
theorem compile_same (relayout : Relayout source laid) (limits : Limits) :
    relayout.SameOutcome (compile limits source) (compile limits laid) := by
  have hmoves : List.Forall₂ relayout.Moves (Line.ofSource source) (Line.ofSource laid) :=
    relayout.forall₂_moves
  have hreading : relayout.SameReading (Command.read (Line.ofSource source))
      (Command.read (Line.ofSource laid)) := by
    rw [Command.read, Command.read, ← hmoves.length_eq]
    exact sameReading_readFrom hmoves _ 0 []
  rw [compile, compile]
  generalize Command.read (Line.ofSource source) = reading at hreading ⊢
  generalize Command.read (Line.ofSource laid) = moved at hreading ⊢
  cases hreading with
  | commands commands =>
    dsimp only
    cases Command.unroll limits commands with
    | error error => exact .limit error
    | ok program => exact .program program
  | refusal index reason hmoves => exact .refusal index reason hmoves

/-- A block reaches past the program.  Its head is refused where it now stands. -/
theorem compile_same_refusal :
    let source := ["send 1 1 1", "for 2 9", "print"]
    let laid := ["(an echo)", "\tsend  1 1\u00a01 ", "", " 9 lives", "for 2\u30009", "print", "-"]
    ∃ relayout : Relayout source laid,
      compile {} source =
        .error (.rejected ⟨1, ⟨1, ["for", "2", "9"]⟩, .unclosedBlock 2⟩) ∧
      compile {} laid =
        .error (.rejected ⟨1, ⟨4, ["for", "2", "9"]⟩, .unclosedBlock 2⟩) ∧
      relayout.SameOutcome (compile {} source) (compile {} laid) := by
  intro source laid
  let place : Fin source.length ↪o Fin laid.length :=
    OrderEmbedding.ofStrictMono ![1, 4, 5] (by decide +kernel)
  have hsame : ∀ i, Line.SameWords source[i] laid[place i] := by decide +kernel
  have hnew : ∀ j, (∀ i, place i ≠ j) → Line.IsLeftOut laid[j] := by decide +kernel
  let relayout : Relayout source laid := ⟨place, hsame, hnew⟩
  exact ⟨relayout, by decide +kernel, by decide +kernel, relayout.compile_same {}⟩

end Relayout

end Reverb
