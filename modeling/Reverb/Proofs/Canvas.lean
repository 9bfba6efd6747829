import Mathlib.Data.List.Induction
import Mathlib.Order.Bounds.Basic
import Reverb.Frame

/-!
# Proofs/Canvas — what a drawing shows

A canvas is drawn step by step, and what is drawn later covers what was there.  Cell by cell the
result is told by the whole lists alone: a cell shows the last sound that stands there, or else a
wall, or else nothing (`Frame.cellAt`).  As long as every sound and every wall has a row, each step
draws exactly that (`Frame.canvas?_of_isDrawable`), for there is a cell for everything; otherwise
there is no drawing (`Frame.render_eq_none_iff`).
-/

namespace Reverb

section Folds

variable {α β : Type} {step : β → α → Option β} {items : List α}

/-- **Steps that add one item at a time** come to what all the items are. -/
theorem foldlM_eq_some (state : List α → β)
    (hstep : ∀ done, ∀ item ∈ items, step (state done) item = some (state (done ++ [item]))) :
    items.foldlM step (state []) = some (state items) := by
  induction items using List.reverseRecOn with
  | nil => rfl
  | append_singleton items item ih =>
    have hitems := ih fun done earlier hmem => hstep done earlier (List.mem_append_left _ hmem)
    rw [List.foldlM_append, hitems]
    simp [hstep items item (by simp)]

/-- An item that no state can take spoils all. -/
theorem foldlM_eq_none {item : α} (hmem : item ∈ items) (hstep : ∀ state, step state item = none)
    (state : β) : items.foldlM step state = none := by
  induction items generalizing state with
  | nil => cases hmem
  | cons first rest ih =>
    rw [List.foldlM_cons]
    cases hfirst : step state first with
    | none => rfl
    | some next =>
      obtain rfl | hrest := List.mem_cons.1 hmem
      · cases (hstep state).symm.trans hfirst
      · exact ih hrest next

end Folds

namespace Frame

/-! ## The width -/

/-- The largest of some numbers. -/
theorem isGreatest_foldl_max (l : List Nat) (init : Nat) :
    IsGreatest {n | n = init ∨ n ∈ l} (l.foldl max init) := by
  induction l generalizing init with
  | nil => simp [isGreatest_singleton]
  | cons m rest ih =>
    obtain ⟨hmem, hupper⟩ := ih (max init m)
    refine ⟨?_, ?_⟩
    · rcases hmem with hmax | hrest
      · rcases Nat.le_total m init with hle | hle
        · exact Or.inl (hmax.trans (Nat.max_eq_left hle))
        · exact Or.inr (List.mem_cons.2 (Or.inl (hmax.trans (Nat.max_eq_right hle))))
      · exact Or.inr (List.mem_cons_of_mem m hrest)
    · have hinit := hupper (Or.inl rfl)
      rintro n (rfl | hn)
      · exact Nat.le_trans (Nat.le_max_left n m) hinit
      · rcases List.mem_cons.1 hn with rfl | hrest
        · exact Nat.le_trans (Nat.le_max_right init n) hinit
        · exact hupper (Or.inr hrest)

/-- The numbers of cells that are asked for. -/
def extents (frame : Frame) : Set Nat :=
  {n | n = frame.minWidth ∨ (∃ wall ∈ frame.walls, n = wall.distance + 1) ∨
    ∃ sound ∈ frame.sounds, n = sound.distance + 1}

/-- **The width is the largest number of cells that is asked for.** -/
theorem isGreatest_width (frame : Frame) : IsGreatest frame.extents frame.width := by
  have hextents : frame.extents = {n | n = frame.minWidth ∨
      n ∈ (frame.walls.map fun wall => wall.distance + 1) ++
        frame.sounds.map fun sound => sound.distance + 1} := by
    ext n
    simp [extents, eq_comm]
  rw [hextents]
  exact isGreatest_foldl_max _ _

/-- There is a cell for every wall. -/
theorem wall_lt_width {frame : Frame} {wall : Wall} (h : wall ∈ frame.walls) :
    wall.distance < frame.width :=
  frame.isGreatest_width.2 (Or.inr (Or.inl ⟨wall, h, rfl⟩))

/-- There is a cell for every sound. -/
theorem sound_lt_width {frame : Frame} {sound : Sound} (h : sound ∈ frame.sounds) :
    sound.distance < frame.width :=
  frame.isGreatest_width.2 (Or.inr (Or.inr ⟨sound, h, rfl⟩))

/-! ## What stands in a row -/

/-- The sounds of a direction. -/
def soundsIn (direction : Nat) (sounds : List Sound) : List Sound :=
  sounds.filter fun sound => sound.direction == direction

/-- The sounds of a direction with their letters. -/
def lettered (direction : Nat) (sounds : List Sound) : List (Sound × Char) :=
  (soundsIn direction sounds).zipIdx.map fun (sound, k) => (sound, letter k)

/-- What the legend of a direction says. -/
def legendOf (direction : Nat) (sounds : List Sound) : List String :=
  (lettered direction sounds).map fun (sound, mark) => Row.entry mark sound

/-- The letter in a cell: that of the last sound that is drawn there. -/
def mark? (direction : Nat) (sounds : List Sound) (place : Nat) : Option Char :=
  ((lettered direction sounds).reverse.find? fun lettered => lettered.1.distance == place + 1).map
    Prod.snd

/-- A wall of a direction stands in a cell. -/
def isWalled (direction : Nat) (walls : List Wall) (place : Nat) : Bool :=
  walls.any fun wall => wall.direction == direction && wall.distance == place

/-- **What a cell shows.** -/
def cellAt (direction : Nat) (walls : List Wall) (sounds : List Sound) (place : Nat) : Char :=
  (mark? direction sounds place).getD (if isWalled direction walls place then '|' else ' ')

/-- The row of a direction. -/
def rowOf (width direction : Nat) (walls : List Wall) (sounds : List Sound) : Row width where
  cells := .ofFn fun place => cellAt direction walls sounds place
  legend := (legendOf direction sounds).toArray

variable {direction place : Nat} {walls : List Wall} {sounds : List Sound} {wall : Wall}
variable {sound : Sound}

theorem length_legendOf :
    (legendOf direction sounds).length = (soundsIn direction sounds).length := by
  simp [legendOf, lettered]

theorem lettered_append_singleton : lettered direction (sounds ++ [sound])
    = lettered direction sounds ++ if sound.direction = direction then
        [(sound, letter (soundsIn direction sounds).length)] else [] := by
  split
  · next h => simp [lettered, soundsIn, h, List.zipIdx_append]
  · next h => simp [lettered, soundsIn, h]

/-- One sound more shows in the cell before its own. -/
theorem mark?_append_singleton : mark? direction (sounds ++ [sound]) place
    = if sound.direction = direction ∧ sound.distance = place + 1 then
        some (letter (soundsIn direction sounds).length)
      else mark? direction sounds place := by
  rw [mark?, lettered_append_singleton]
  by_cases hdirection : sound.direction = direction
  · by_cases hplace : sound.distance = place + 1
    · simp [hdirection, hplace]
    · simp [hdirection, hplace, mark?]
  · simp [hdirection, mark?]

theorem isWalled_append_singleton : isWalled direction (walls ++ [wall]) place
    = (isWalled direction walls place ||
        (wall.direction == direction && wall.distance == place)) := by
  simp [isWalled]

/-! ## One step -/

variable {width : Nat}

/-- A row stays as it is when a wall of another direction is drawn. -/
theorem rowOf_append_wall_of_ne (h : wall.direction ≠ direction) :
    rowOf width direction (walls ++ [wall]) sounds = rowOf width direction walls sounds := by
  simp [rowOf, cellAt, isWalled_append_singleton, h]

/-- A row stays as it is when a sound of another direction is drawn. -/
theorem rowOf_append_sound_of_ne (h : sound.direction ≠ direction) :
    rowOf width direction walls (sounds ++ [sound]) = rowOf width direction walls sounds := by
  simp [rowOf, cellAt, legendOf, mark?_append_singleton, lettered_append_singleton, h]

theorem drawWall?_rowOf (h : wall.distance < width) :
    Row.drawWall? wall (rowOf width wall.direction walls [])
      = some (rowOf width wall.direction (walls ++ [wall]) []) := by
  rw [Row.drawWall?, Row.write?, dif_pos h]
  refine congrArg some (Row.ext (Vector.ext fun place hplace => ?_) rfl)
  simp only [rowOf, Vector.getElem_set, Vector.getElem_ofFn, cellAt, isWalled_append_singleton]
  by_cases hhere : wall.distance = place
  · simp [hhere, mark?, lettered, soundsIn]
  · simp [hhere]

theorem drawSound?_rowOf (h : sound.distance < width) :
    Row.drawSound? sound (rowOf width sound.direction walls sounds)
      = some (rowOf width sound.direction walls (sounds ++ [sound])) := by
  have hmark : letter (rowOf width sound.direction walls sounds).legend.size
      = letter (soundsIn sound.direction sounds).length := by
    simp [rowOf, length_legendOf]
  have hlegend : legendOf sound.direction (sounds ++ [sound])
      = legendOf sound.direction sounds ++
          [Row.entry (letter (soundsIn sound.direction sounds).length) sound] := by
    simp [legendOf, lettered_append_singleton]
  rw [Row.drawSound?, hmark]
  by_cases hhome : sound.distance = 0
  · rw [if_pos hhome]
    refine congrArg some (Row.ext (Vector.ext fun place hplace => ?_) ?_)
    · simp [rowOf, cellAt, mark?_append_singleton, hhome]
    · simp [rowOf, hlegend]
  · rw [if_neg hhome, Row.write?, dif_pos (by omega)]
    refine congrArg some (Row.ext (Vector.ext fun place hplace => ?_) ?_)
    · have hhere : sound.distance - 1 = place ↔ sound.distance = place + 1 := by omega
      simp only [rowOf, Vector.getElem_set, Vector.getElem_ofFn, cellAt, mark?_append_singleton,
        hhere, true_and]
      split
      · rfl
      · rfl
    · simp [rowOf, hlegend]

/-- A step changes the row of its direction only. -/
theorem drawIn?_ofFn {draw : Row width → Option (Row width)} (rows drawn : Nat → Row width)
    (h : direction < 4) (hdraw : draw (rows direction) = some (drawn direction))
    (hothers : ∀ other ≠ direction, drawn other = rows other) :
    drawIn? direction draw (.ofFn fun other => rows other)
      = some (.ofFn fun other => drawn other) := by
  rw [drawIn?, dif_pos h, Vector.getElem_ofFn, hdraw, Option.map_some]
  refine congrArg some (Vector.ext fun other hother => ?_)
  rw [Vector.getElem_set, Vector.getElem_ofFn, Vector.getElem_ofFn]
  split
  · next heq => rw [heq]
  · next hne => rw [hothers other (Ne.symm hne)]

/-! ## The whole canvas -/

/-- The canvas that shows some walls and sounds. -/
def canvasOf (width : Nat) (walls : List Wall) (sounds : List Sound) : Vector (Row width) 4 :=
  .ofFn fun direction => rowOf width direction walls sounds

theorem drawWall?_canvasOf (hdirection : wall.direction < 4) (hdistance : wall.distance < width) :
    drawWall? (canvasOf width walls []) wall = some (canvasOf width (walls ++ [wall]) []) :=
  drawIn?_ofFn (rowOf width · walls []) (rowOf width · (walls ++ [wall]) []) hdirection
    (drawWall?_rowOf hdistance)
    fun _ hne => rowOf_append_wall_of_ne (Ne.symm hne)

theorem drawSound?_canvasOf (hdirection : sound.direction < 4)
    (hdistance : sound.distance < width) :
    drawSound? (canvasOf width walls sounds) sound
      = some (canvasOf width walls (sounds ++ [sound])) :=
  drawIn?_ofFn (rowOf width · walls sounds) (rowOf width · walls (sounds ++ [sound])) hdirection
    (drawSound?_rowOf hdistance)
    fun _ hne => rowOf_append_sound_of_ne (Ne.symm hne)

/-- Nothing is drawn in the beginning. -/
theorem canvasOf_nil : canvasOf width [] [] = .replicate 4 (.empty width) := by
  refine Vector.ext fun direction hdirection => ?_
  rw [canvasOf, Vector.getElem_ofFn, Vector.getElem_replicate]
  refine Row.ext (Vector.ext fun place hplace => ?_) rfl
  simp [rowOf, Row.empty, cellAt, mark?, lettered, soundsIn, isWalled]

variable {frame : Frame}

/-- Every sound and every wall has a row. -/
def isDrawable (frame : Frame) : Bool :=
  (frame.sounds.all fun sound => sound.direction < 4) &&
    frame.walls.all fun wall => wall.direction < 4

theorem isDrawable_iff : frame.isDrawable = true ↔
    (∀ sound ∈ frame.sounds, sound.direction < 4) ∧ ∀ wall ∈ frame.walls, wall.direction < 4 := by
  simp [isDrawable]

/-- **A drawing shows everything in its place,** and no step of it misses the canvas. -/
theorem canvas?_of_isDrawable (h : frame.isDrawable = true) :
    frame.canvas? = some (canvasOf frame.width frame.walls frame.sounds) := by
  obtain ⟨hsounds, hwalls⟩ := isDrawable_iff.1 h
  have hwalled : frame.walls.foldlM drawWall? (canvasOf frame.width [] [])
      = some (canvasOf frame.width frame.walls []) :=
    foldlM_eq_some (canvasOf frame.width · [])
      fun _ wall hmem => drawWall?_canvasOf (hwalls wall hmem) (wall_lt_width hmem)
  rw [canvas?, ← canvasOf_nil, hwalled]
  exact foldlM_eq_some (canvasOf frame.width frame.walls) fun _ sound hmem =>
    drawSound?_canvasOf (hsounds sound hmem) (sound_lt_width hmem)

/-- Without a row there is no drawing. -/
theorem canvas?_of_not_isDrawable (h : ¬frame.isDrawable = true) : frame.canvas? = none := by
  rw [isDrawable_iff, not_and_or] at h
  rw [canvas?]
  cases hwalled : frame.walls.foldlM drawWall? (.replicate 4 (.empty frame.width)) with
  | none => rfl
  | some walled =>
    obtain hsounds | hwalls := h
    · obtain ⟨sound, hmem, hdirection⟩ := by simpa using hsounds
      exact foldlM_eq_none hmem (fun canvas => dif_neg (Nat.not_lt.2 hdirection)) walled
    · obtain ⟨wall, hmem, hdirection⟩ := by simpa using hwalls
      rw [foldlM_eq_none hmem fun canvas => dif_neg (Nat.not_lt.2 hdirection)] at hwalled
      cases hwalled

/-! ## The text of a drawing -/

/-- The row of a direction as text. -/
def row (frame : Frame) (direction : Nat) : String :=
  (rowOf frame.width direction frame.walls frame.sounds).text direction

/-- The seven lines between the rules. -/
def rows (frame : Frame) : List String := frame.layout fun direction => frame.row direction

/-- The nine lines of a frame. -/
def lines (frame : Frame) : List String := frame.ruled frame.rows

/-- The text of a drawn frame. -/
def text (frame : Frame) : String := "\n".intercalate frame.lines

/-- **A frame is drawn** if everything in it has a row. -/
theorem render_of_isDrawable (h : frame.isDrawable = true) : frame.render = some frame.text := by
  rw [render, canvas?_of_isDrawable h]
  simp only [canvasOf, Option.bind_eq_bind, Option.bind_some, Fin.getElem_fin, Vector.getElem_ofFn]
  rfl

/-- **A frame is not drawn** exactly if something in it has no row. -/
theorem render_eq_none_iff : frame.render = none ↔ frame.isDrawable = false := by
  cases h : frame.isDrawable with
  | false =>
    have hnone : frame.canvas? = none := canvas?_of_not_isDrawable (by simp [h])
    simp [render, hnone]
  | true => simp [render_of_isDrawable h]

end Frame

end Reverb
