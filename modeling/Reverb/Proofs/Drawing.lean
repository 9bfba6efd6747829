import Reverb.Proofs.Canvas
import Reverb.Proofs.Listing
import Reverb.Text.Lines

/-!
# Proofs/Drawing — what is read off a drawn frame

`Frame.IsDrawing` says of a text that it is a drawing of a frame, without drawing one.  The text is
cut into nine lines.  Each cell is told by the sounds and walls that belong there, the width by what
needs a cell, and the rule by the lines that it has to span.  Nothing in a line breaks it
(`Frame.isUnbroken_of_mem_lines`), so the lines of a drawn frame are found again, and exactly one
text is its drawing (`Frame.render_exact`).
-/

namespace Reverb

/-! ## Texts without a line feed -/

/-- The text stays on its line. -/
def IsUnbroken (text : String) : Prop := ∀ c ∈ text.toList, Text.isLineFeed c = false

-- by a scan of the text, not by a search through all characters
instance (text : String) : Decidable (IsUnbroken text) :=
  decidable_of_decidable_of_iff (p := (text.toList.all fun c => !Text.isLineFeed c) = true)
    (by simp [IsUnbroken])

variable {first second separator text : String} {texts : List String}

theorem IsUnbroken.append (hfirst : IsUnbroken first) (hsecond : IsUnbroken second) :
    IsUnbroken (first ++ second) := by
  intro c hc
  rw [String.toList_append, List.mem_append] at hc
  exact hc.elim (hfirst c) (hsecond c)

theorem isUnbroken_ofList {chars : List Char} (h : ∀ c ∈ chars, Text.isLineFeed c = false) :
    IsUnbroken (String.ofList chars) := by
  rwa [IsUnbroken, String.toList_ofList]

theorem isUnbroken_intercalate (hseparator : IsUnbroken separator) : ∀ {texts : List String},
    (∀ text ∈ texts, IsUnbroken text) → IsUnbroken (separator.intercalate texts)
  | [], _ => by simp [IsUnbroken]
  | [text], h => by
    rw [String.intercalate_singleton]
    exact h text List.mem_cons_self
  | text :: next :: rest, h => by
    rw [String.intercalate_cons_cons]
    refine ((h text List.mem_cons_self).append hseparator).append ?_
    exact isUnbroken_intercalate hseparator fun other hother =>
      h other (List.mem_cons_of_mem text hother)

/-- A word stays on its line. -/
theorem IsToken.isUnbroken (h : IsToken text) : IsUnbroken text := by
  intro c hc
  have hfeed : Text.isBlank '\n' = true := by decide
  rw [Text.isLineFeed, beq_eq_false_iff_ne]
  rintro rfl
  exact Bool.noConfusion (hfeed.symm.trans (h.2 _ hc))

theorem isUnbroken_repr (n : Nat) : IsUnbroken n.repr := (isToken_repr n).isUnbroken

/-- **The written form of an instruction stays on its line.** -/
theorem Instruction.isUnbroken_text (instruction : Instruction) : IsUnbroken instruction.text := by
  obtain ⟨name, hname, numbers, hwords⟩ := instruction.exists_words_eq
  rw [Instruction.text, hwords]
  refine isUnbroken_intercalate (by decide) (List.forall_mem_cons.2 ⟨?_, fun token htoken => ?_⟩)
  · exact (isToken_name name hname).1.isUnbroken
  · obtain ⟨number, -, rfl⟩ := List.mem_map.1 htoken
    exact isUnbroken_repr number

/-- **Lines that are joined by line feeds** are found again. -/
theorem pieces_intercalate_newline (hne : texts ≠ []) (h : ∀ text ∈ texts, IsUnbroken text) :
    Text.pieces Text.isLineFeed ("\n".intercalate texts).toList = texts.map String.toList := by
  rw [String.toList_intercalate]
  refine Text.pieces_intercalate rfl (by simpa using hne) fun line hline => ?_
  obtain ⟨text, htext, rfl⟩ := List.mem_map.1 hline
  exact h text htext

/-- The place of the last item that passes a test. -/
theorem find?_reverse_zipIdx {α : Type} (test : α → Bool) {items : List α} {item : α} {k : Nat} :
    (items.zipIdx.reverse.find? fun numbered => test numbered.1) = some (item, k) ↔
      items[k]? = some item ∧ test item = true ∧
        ∀ later > k, ∀ other, items[later]? = some other → test other = false := by
  induction items using List.reverseRecOn with
  | nil => simp
  | append_singleton items last ih =>
    have hreverse : (items ++ [last]).zipIdx.reverse
        = (last, items.length) :: items.zipIdx.reverse := by
      simp [List.zipIdx_append]
    have hlength : (items ++ [last])[items.length]? = some last := List.getElem?_concat_length
    rw [hreverse, List.find?_cons]
    cases htest : test last with
    | true =>
      rw [Option.some.injEq, Prod.mk.injEq]
      constructor
      · rintro ⟨rfl, rfl⟩
        refine ⟨hlength, htest, fun later hlater other hother => ?_⟩
        have hle : (items ++ [last]).length ≤ later := by simp; omega
        simp [List.getElem?_eq_none hle] at hother
      · rintro ⟨hitem, -, hlast⟩
        have hk : k < (items ++ [last]).length := (List.getElem?_eq_some_iff.1 hitem).1
        have hle : items.length ≤ k := by
          refine Nat.not_lt.1 fun hlt => ?_
          cases htest.symm.trans (hlast items.length hlt last hlength)
        have heq : items.length = k := by simp at hk; omega
        subst heq
        exact ⟨Option.some.inj (hlength.symm.trans hitem), rfl⟩
    | false =>
      rw [ih]
      constructor
      · rintro ⟨hitem, hpass, hlast⟩
        have hk := (List.getElem?_eq_some_iff.1 hitem).1
        refine ⟨by rwa [List.getElem?_append_left hk], hpass, fun later hlater other hother => ?_⟩
        rw [List.getElem?_append] at hother
        split at hother
        · exact hlast later hlater other hother
        · have hmem := List.mem_of_getElem? hother
          rwa [List.mem_singleton.1 hmem]
      · rintro ⟨hitem, hpass, hlast⟩
        rw [List.getElem?_append] at hitem
        split at hitem
        · refine ⟨hitem, hpass, fun later hlater other hother => hlast later hlater other ?_⟩
          rwa [List.getElem?_append_left (List.getElem?_eq_some_iff.1 hother).1]
        · have hmem := List.mem_of_getElem? hitem
          rw [List.mem_singleton.1 hmem, htest] at hpass
          cases hpass

namespace Frame

variable {frame : Frame} {direction place width length : Nat} {c : Char} {line : String}

/-! ## Cells -/

/-- **What a cell of a row shows:** the letter of the last sound that is one cell further out, or
else a wall, or else nothing. -/
inductive Shows (frame : Frame) (direction place : Nat) : Char → Prop
  | sound {k : Nat} {sound : Sound} (hsound : (soundsIn direction frame.sounds)[k]? = some sound)
      (hplace : sound.distance = place + 1)
      (hlast : ∀ later > k, ∀ other, (soundsIn direction frame.sounds)[later]? = some other →
        other.distance ≠ place + 1) : Shows frame direction place (letter k)
  | wall {wall : Wall}
      (hnone : ∀ sound ∈ soundsIn direction frame.sounds, sound.distance ≠ place + 1)
      (hwall : wall ∈ frame.walls) (hdirection : wall.direction = direction)
      (hplace : wall.distance = place) : Shows frame direction place '|'
  | nothing (hnone : ∀ sound ∈ soundsIn direction frame.sounds, sound.distance ≠ place + 1)
      (hopen : ∀ wall ∈ frame.walls, wall.direction = direction → wall.distance ≠ place) :
      Shows frame direction place ' '

theorem mark?_eq_find? (direction : Nat) (sounds : List Sound) (place : Nat) :
    mark? direction sounds place = ((soundsIn direction sounds).zipIdx.reverse.find?
      fun numbered => numbered.1.distance == place + 1).map fun numbered => letter numbered.2 := by
  simp [mark?, lettered, ← List.map_reverse, List.find?_map, Function.comp_def]

theorem mark?_eq_some_iff {sounds : List Sound} : mark? direction sounds place = some c ↔
    ∃ sound k, ((soundsIn direction sounds)[k]? = some sound ∧ sound.distance = place + 1 ∧
      ∀ later > k, ∀ other, (soundsIn direction sounds)[later]? = some other →
        other.distance ≠ place + 1) ∧ letter k = c := by
  simp only [mark?_eq_find?, Option.map_eq_some_iff, Prod.exists,
    find?_reverse_zipIdx (fun sound : Sound => sound.distance == place + 1), beq_iff_eq,
    beq_eq_false_iff_ne]

theorem mark?_eq_none_iff {sounds : List Sound} : mark? direction sounds place = none ↔
    ∀ sound ∈ soundsIn direction sounds, sound.distance ≠ place + 1 := by
  simp only [mark?_eq_find?, Option.map_eq_none_iff, List.find?_eq_none, List.mem_reverse,
    Prod.forall, beq_iff_eq]
  constructor
  · intro h sound hmem
    obtain ⟨k, hk⟩ := List.mem_iff_getElem?.1 hmem
    exact h sound k (List.mk_mem_zipIdx_iff_getElem?.2 hk)
  · intro h sound k hmem
    exact h sound (List.fst_mem_of_mem_zipIdx hmem)

/-- **A drawn cell shows what belongs there,** and nothing else does. -/
theorem shows_iff :
    frame.Shows direction place c ↔ cellAt direction frame.walls frame.sounds place = c := by
  constructor
  · intro h
    cases h with
    | sound hsound hplace hlast =>
      rw [cellAt, mark?_eq_some_iff.2 ⟨_, _, ⟨hsound, hplace, hlast⟩, rfl⟩]
      rfl
    | wall hnone hwall hdirection hplace =>
      have hwalled : isWalled direction frame.walls place = true := by
        simp only [isWalled, List.any_eq_true, Bool.and_eq_true, beq_iff_eq]
        exact ⟨_, hwall, hdirection, hplace⟩
      rw [cellAt, mark?_eq_none_iff.2 hnone, hwalled]
      rfl
    | nothing hnone hopen =>
      have hwalled : isWalled direction frame.walls place = false := by
        simp only [isWalled, List.any_eq_false, Bool.and_eq_true, beq_iff_eq, not_and]
        exact hopen
      rw [cellAt, mark?_eq_none_iff.2 hnone, hwalled]
      rfl
  · rintro rfl
    rw [cellAt]
    cases hmark : mark? direction frame.sounds place with
    | some c =>
      obtain ⟨sound, k, ⟨hsound, hplace, hlast⟩, rfl⟩ := mark?_eq_some_iff.1 hmark
      exact .sound hsound hplace hlast
    | none =>
      have hnone := mark?_eq_none_iff.1 hmark
      rw [Option.getD_none]
      split
      · next hwalled =>
        simp only [isWalled, List.any_eq_true, Bool.and_eq_true, beq_iff_eq] at hwalled
        obtain ⟨wall, hwall, hdirection, hplace⟩ := hwalled
        exact .wall hnone hwall hdirection hplace
      · next hwalled =>
        refine .nothing hnone fun wall hwall hdirection hplace => hwalled ?_
        simp only [isWalled, List.any_eq_true, Bool.and_eq_true, beq_iff_eq]
        exact ⟨wall, hwall, hdirection, hplace⟩

/-! ## Rows -/

/-- **What stands behind the cells of a row:** the letters of its sounds with their intensities. -/
inductive IsLegend (frame : Frame) (direction : Nat) : String → Prop
  | silent (h : soundsIn direction frame.sounds = []) : IsLegend frame direction ""
  | listed (h : soundsIn direction frame.sounds ≠ []) : IsLegend frame direction
      ("  " ++ ", ".intercalate ((soundsIn direction frame.sounds).mapIdx fun k sound =>
        String.ofList [letter k] ++ " = " ++ sound.intensity.toNat.repr))

theorem legendOf_eq_mapIdx (direction : Nat) (sounds : List Sound) : legendOf direction sounds
    = (soundsIn direction sounds).mapIdx fun k sound => Row.entry (letter k) sound := by
  simp [legendOf, lettered, List.mapIdx_eq_zipIdx_map]

theorem isLegend_iff {legend : String} :
    frame.IsLegend direction legend ↔
      Row.legendText (legendOf direction frame.sounds) = legend := by
  have hlisted (h : soundsIn direction frame.sounds ≠ []) :
      Row.legendText (legendOf direction frame.sounds)
        = "  " ++ ", ".intercalate ((soundsIn direction frame.sounds).mapIdx fun k sound =>
            String.ofList [letter k] ++ " = " ++ sound.intensity.toNat.repr) := by
    obtain ⟨first, rest, hlist⟩ := List.exists_cons_of_ne_nil h
    rw [legendOf_eq_mapIdx, hlist]
    simp only [List.mapIdx_cons, Row.legendText, Row.entry]
  have hsilent (h : soundsIn direction frame.sounds = []) :
      Row.legendText (legendOf direction frame.sounds) = "" := by
    rw [legendOf_eq_mapIdx, h]
    rfl
  constructor
  · intro h
    cases h with
    | silent h => exact hsilent h
    | listed h => exact hlisted h
  · rintro rfl
    by_cases h : soundsIn direction frame.sounds = []
    · exact hsilent h ▸ .silent h
    · exact hlisted h ▸ .listed h

/-- **The line is the row of a direction:** its digit, a cell for each place, and the legend. -/
def IsRow (frame : Frame) (width direction : Nat) (line : String) : Prop :=
  ∃ (cells : List Char) (legend : String), cells.length = width ∧
    (∀ place c, cells[place]? = some c → frame.Shows direction place c) ∧
      frame.IsLegend direction legend ∧ line = direction.repr ++ String.ofList cells ++ legend

theorem isRow_iff : frame.IsRow width direction line ↔
    line = (rowOf width direction frame.walls frame.sounds).text direction := by
  constructor
  · rintro ⟨cells, legend, hlength, hshows, hlegend, rfl⟩
    have hcells : cells = (rowOf width direction frame.walls frame.sounds).cells.toList := by
      refine List.ext_getElem (by simp [hlength]) fun place hplace _ => ?_
      have hcell := shows_iff.1 (hshows place _ (List.getElem?_eq_getElem hplace))
      simp [rowOf, hcell]
    rw [Row.text, ← hcells, ← isLegend_iff.1 hlegend, rowOf]
  · rintro rfl
    refine ⟨_, _, Vector.length_toList, fun place c hc => ?_, isLegend_iff.2 rfl, rfl⟩
    rw [Vector.getElem?_toList, Vector.getElem?_eq_some_iff] at hc
    obtain ⟨hplace, rfl⟩ := hc
    exact shows_iff.2 (by simp [rowOf])

/-! ## No line is broken -/

theorem letter_mem (k : Nat) : letter k ∈ letters := by
  have hk : k % letters.length < letters.length := Nat.mod_lt k (by decide)
  rw [letter, List.getD_eq_getElem?_getD, List.getElem?_eq_getElem hk, Option.getD_some]
  exact List.getElem_mem hk

theorem isLineFeed_letter (k : Nat) : Text.isLineFeed (letter k) = false := by
  have hletters : (letters.all fun c => !Text.isLineFeed c) = true := by decide
  simpa using List.all_eq_true.1 hletters _ (letter_mem k)

theorem Shows.isLineFeed (h : frame.Shows direction place c) : Text.isLineFeed c = false := by
  cases h with
  | sound => exact isLineFeed_letter _
  | wall => rfl
  | nothing => rfl

theorem IsLegend.isUnbroken {legend : String} (h : frame.IsLegend direction legend) :
    IsUnbroken legend := by
  cases h with
  | silent => exact (by decide : IsUnbroken "")
  | listed =>
    have hblank : IsUnbroken "  " := by decide
    refine hblank.append (isUnbroken_intercalate (by decide) fun entry hentry => ?_)
    obtain ⟨k, hk, rfl⟩ := List.mem_mapIdx.1 hentry
    have hletter : IsUnbroken (String.ofList [letter k]) :=
      isUnbroken_ofList (List.forall_mem_singleton.2 (isLineFeed_letter k))
    have hequals : IsUnbroken " = " := by decide
    exact (hletter.append hequals).append (isUnbroken_repr _)

theorem IsRow.isUnbroken (h : frame.IsRow width direction line) : IsUnbroken line := by
  obtain ⟨cells, legend, -, hshows, hlegend, rfl⟩ := h
  refine ((isUnbroken_repr direction).append (isUnbroken_ofList fun c hc => ?_)).append
    hlegend.isUnbroken
  obtain ⟨place, hplace⟩ := List.mem_iff_getElem?.1 hc
  exact (hshows place c hplace).isLineFeed

theorem isRow_row (frame : Frame) (direction : Nat) :
    frame.IsRow frame.width direction (frame.row direction) := isRow_iff.2 rfl

theorem isUnbroken_title (frame : Frame) : IsUnbroken frame.title := by
  rw [title]
  cases frame.instruction with
  | none => exact (by decide : IsUnbroken "")
  | some instruction => exact instruction.isUnbroken_text

/-- **No line of a frame is broken.** -/
theorem isUnbroken_of_mem_lines : ∀ line ∈ frame.lines, IsUnbroken line := by
  have hrow (direction : Nat) : IsUnbroken (frame.row direction) :=
    (frame.isRow_row direction).isUnbroken
  have hdots : IsUnbroken frame.dots :=
    isUnbroken_ofList (List.forall_mem_cons.2
      ⟨by decide, fun c hc => by rw [List.eq_of_mem_replicate hc]; decide⟩)
  have hsum : IsUnbroken frame.sumRow :=
    (by decide : IsUnbroken "X   Sound sum : ").append (isUnbroken_repr _)
  have hrows : ∀ line ∈ frame.rows, IsUnbroken line := by
    simp only [rows, layout, List.forall_mem_cons]
    exact ⟨hrow 0, hdots, hrow 1, hsum, hrow 2, hdots, hrow 3, List.forall_mem_nil _⟩
  have hrule : IsUnbroken (rule frame.rows) :=
    isUnbroken_ofList fun c hc => by rw [List.eq_of_mem_replicate hc]; decide
  have htitle : IsUnbroken (rule frame.rows ++ " " ++ frame.title) :=
    (hrule.append (by decide)).append frame.isUnbroken_title
  exact List.forall_mem_append.2
    ⟨List.forall_mem_cons.2 ⟨htitle, hrows⟩, List.forall_mem_singleton.2 hrule⟩

/-- **The lines of a drawn frame** are found again. -/
theorem pieces_text (frame : Frame) :
    Text.pieces Text.isLineFeed frame.text.toList = frame.lines.map String.toList :=
  pieces_intercalate_newline (List.cons_ne_nil _ _) isUnbroken_of_mem_lines

/-! ## The whole drawing -/

/-- The seven lines between the rules. -/
def between (frame : Frame) (width : Nat) (row : Nat → String) : List String :=
  let dots := String.ofList (' ' :: List.replicate width '·')
  [row 0, dots, row 1, "X   Sound sum : " ++ frame.sum.toNat.repr, row 2, dots, row 3]

/-- **The text is a drawing of the frame,** with `width` cells in each row and rules of `length`. -/
structure IsDrawing (frame : Frame) (width : Nat) (row : Nat → String) (length : Nat)
    (text : String) : Prop where
  /-- There are as many cells as something in the frame asks for. -/
  fits : IsGreatest frame.extents width
  drawn : ∀ direction < 4, frame.IsRow width direction (row direction)
  /-- A rule is as long as the longest line between the rules. -/
  spans : IsGreatest {n | ∃ line ∈ frame.between width row, n = line.length} length
  /-- There are nine lines. -/
  cut : Text.pieces Text.isLineFeed text.toList =
    ((String.ofList (List.replicate length '=') ++ " " ++ frame.title) ::
      (frame.between width row ++ [String.ofList (List.replicate length '=')])).map String.toList

theorem isGreatest_rule {rows : List String} (h : rows ≠ []) :
    IsGreatest {n | ∃ line ∈ rows, n = line.length} ((rows.map String.length).foldl max 0) := by
  obtain ⟨hmem, hupper⟩ := isGreatest_foldl_max (rows.map String.length) 0
  have hle : ∀ line ∈ rows, line.length ≤ (rows.map String.length).foldl max 0 :=
    fun line hline => hupper (Or.inr (List.mem_map_of_mem hline))
  refine ⟨?_, by rintro n ⟨line, hline, rfl⟩; exact hle line hline⟩
  rcases hmem with hzero | hmem
  · obtain ⟨first, rest, rfl⟩ := List.exists_cons_of_ne_nil h
    have hfirst := hle first List.mem_cons_self
    exact ⟨first, List.mem_cons_self, by omega⟩
  · obtain ⟨line, hline, heq⟩ := List.mem_map.1 hmem
    exact ⟨line, hline, heq.symm⟩

theorem between_row (frame : Frame) : frame.between frame.width frame.row = frame.rows := rfl

/-- The text of a frame is a drawing of it. -/
theorem isDrawing_text (frame : Frame) :
    frame.IsDrawing frame.width frame.row ((frame.rows.map String.length).foldl max 0)
      frame.text where
  fits := frame.isGreatest_width
  drawn direction _ := frame.isRow_row direction
  spans := by
    rw [between_row]
    exact isGreatest_rule (List.cons_ne_nil _ _)
  cut := by
    rw [between_row, pieces_text, lines, ruled, rule, List.cons_append]

/-- **Exactly one text is a drawing of the frame.** -/
theorem exists_isDrawing_iff {text : String} :
    (∃ width row length, frame.IsDrawing width row length text) ↔ text = frame.text := by
  constructor
  · rintro ⟨width, row, length, hdrawing⟩
    obtain rfl := hdrawing.fits.unique frame.isGreatest_width
    have hrow : ∀ direction < 4, row direction = frame.row direction :=
      fun direction hdirection => isRow_iff.1 (hdrawing.drawn direction hdirection)
    have hbetween : frame.between frame.width row = frame.between frame.width frame.row := by
      simp only [between, hrow 0 (by decide), hrow 1 (by decide), hrow 2 (by decide),
        hrow 3 (by decide)]
    have hspans := hdrawing.spans
    have hcut := hdrawing.cut
    have htext := frame.isDrawing_text
    rw [hbetween] at hspans hcut
    have hpieces : Text.pieces Text.isLineFeed text.toList
        = Text.pieces Text.isLineFeed frame.text.toList := by
      rw [hcut, htext.cut, hspans.unique htext.spans]
    have hback (other : List Char) :
        ['\n'].intercalate (Text.pieces Text.isLineFeed other) = other :=
      Text.intercalate_pieces (fun d => beq_iff_eq) other
    rw [← String.toList_inj, ← hback text.toList, hpieces, hback]
  · rintro rfl
    exact ⟨_, _, _, frame.isDrawing_text⟩

/-- **Exactly the drawing is drawn,** and nothing if a sound or a wall has no row. -/
theorem render_exact (frame : Frame) :
    (frame.render = none ↔ (∃ sound ∈ frame.sounds, 3 < sound.direction) ∨
      ∃ wall ∈ frame.walls, 3 < wall.direction) ∧
    ∀ text, frame.render = some text ↔ (∀ sound ∈ frame.sounds, sound.direction ≤ 3) ∧
      (∀ wall ∈ frame.walls, wall.direction ≤ 3) ∧
        ∃ width row length, frame.IsDrawing width row length text := by
  have hrows : ((∀ sound ∈ frame.sounds, sound.direction ≤ 3) ∧
      ∀ wall ∈ frame.walls, wall.direction ≤ 3) ↔ frame.isDrawable = true := by
    simp only [isDrawable_iff, Nat.lt_succ_iff]
  simp only [exists_isDrawing_iff, ← and_assoc, hrows]
  cases hdrawable : frame.isDrawable with
  | true =>
    rw [render_of_isDrawable hdrawable]
    obtain ⟨hsounds, hwalls⟩ := hrows.2 hdrawable
    refine ⟨⟨nofun, ?_⟩, fun text => by simp [eq_comm]⟩
    rintro (⟨sound, hmem, hsound⟩ | ⟨wall, hmem, hwall⟩)
    · exact absurd hsound (Nat.not_lt.2 (hsounds sound hmem))
    · exact absurd hwall (Nat.not_lt.2 (hwalls wall hmem))
  | false =>
    rw [render_eq_none_iff.2 hdrawable]
    refine ⟨⟨fun _ => ?_, fun _ => rfl⟩, fun text => by simp⟩
    rw [← Bool.not_eq_true, ← hrows, not_and_or] at hdrawable
    simpa using hdrawable

/-- A wall under a sound, a sound over a sound, and a sound that is home. -/
example :
    let frame : Frame :=
      { instruction := some .print, sum := 7, minWidth := 0
        sounds := [⟨0, 1, 5, 3, 1, false⟩, ⟨1, 1, 6, 3, 1, false⟩, ⟨2, 1, 7, 0, 1, false⟩]
        walls := [⟨0, 1, 2, false⟩, ⟨-1, 1, 3, true⟩] }
    frame.render = some ("\n".intercalate ["========================== print", "0    ", " ····",
      "1  u|  o = 5, u = 6, a = 7", "X   Sound sum : 7", "2    ", " ····", "3    ",
      "=========================="]) := by
  decide +kernel

end Frame

end Reverb
