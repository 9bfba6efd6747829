import Reverb.Proofs.Drawing
import Reverb.Proofs.Reading

/-!
# Proofs/FilmText — what is written of a film, and what it tells

A film is written piece by piece, but what arrives depends on its text alone (`Film.writeTo_eq`):
below a limit the text is cut where the room ends, be that inside a frame, between two frames or
inside a character, and writing fails exactly if something is missing (`Film.writeTo_cut`).

A text that was not cut tells the frames.  No line of a drawn frame is broken, so every frame has
nine lines in it, and the frames are found again by counting lines (`Film.framesIn_written`).
-/

namespace Reverb

/-! ## Groups -/

section Groups

variable {α : Type} {size : Nat}

/-- A list cut into groups of a size; what does not fill a group is left out. -/
def groups (size : Nat) (items : List α) : List (List α) :=
  (List.range (items.length / size)).map fun k => (items.drop (size * k)).take size

theorem groups_append (hpos : 0 < size) {first : List α} (hfirst : first.length = size)
    (rest : List α) : groups size (first ++ rest) = first :: groups size rest := by
  subst hfirst
  have hcount : (first ++ rest).length / first.length = rest.length / first.length + 1 := by
    rw [List.length_append, Nat.add_comm, Nat.add_div_right _ hpos]
  rw [groups, hcount, List.range_succ_eq_map, List.map_cons, List.map_map]
  refine congrArg₂ List.cons (by simp) (List.map_congr_left fun k _ => ?_)
  rw [Function.comp_apply, Nat.succ_eq_add_one, Nat.mul_succ, Nat.add_comm,
    List.drop_length_add_append]

/-- **Parts of one size** are found again. -/
theorem groups_flatMap {β : Type} (hpos : 0 < size) {items : List β} {part : β → List α}
    (h : ∀ item ∈ items, (part item).length = size) :
    groups size (items.flatMap part) = items.map part := by
  induction items with
  | nil => simp [groups]
  | cons item rest ih =>
    obtain ⟨hitem, hrest⟩ := List.forall_mem_cons.1 h
    rw [List.flatMap_cons, groups_append hpos hitem, ih hrest, List.map_cons]

theorem length_flatMap_of_length_eq {β : Type} {items : List β} {part : β → List α}
    (h : ∀ item ∈ items, (part item).length = size) :
    (items.flatMap part).length = size * items.length := by
  rw [List.length_flatMap, List.map_congr_left h, List.map_const', List.sum_replicate_nat,
    Nat.mul_comm]

end Groups

/-! ## Lines -/

/-- The lines of a text, cut at every line feed. -/
def splitLines (text : String) : List String :=
  (Text.pieces Text.isLineFeed text.toList).map String.ofList

/-- A text is its lines, joined by line feeds. -/
theorem intercalate_splitLines (text : String) : "\n".intercalate (splitLines text) = text := by
  have htexts : (splitLines text).map String.toList
      = Text.pieces Text.isLineFeed text.toList := by
    rw [splitLines, List.map_map]
    exact List.map_id'' (fun _ => String.toList_ofList) _
  rw [← String.toList_inj, String.toList_intercalate, htexts]
  exact Text.intercalate_pieces (fun d => beq_iff_eq) text.toList

/-- **The lines of joined texts** are the lines of one text after the other. -/
theorem splitLines_intercalate {texts : List String} (h : texts ≠ []) :
    splitLines ("\n".intercalate texts) = texts.flatMap splitLines := by
  have hne : texts.map String.toList ≠ [] := by simpa using h
  rw [splitLines, String.toList_intercalate]
  refine (congrArg (List.map String.ofList)
    (Text.pieces_intercalate_eq_flatMap (c := '\n') rfl hne)).trans ?_
  rw [List.flatMap_map, List.map_flatMap]
  rfl

/-- A drawn frame has nine lines. -/
theorem Frame.length_splitLines {frame : Frame} {text : String} (h : frame.render = some text) :
    (splitLines text).length = 9 := by
  cases hdrawable : frame.isDrawable with
  | false => cases (render_eq_none_iff.2 hdrawable).symm.trans h
  | true =>
    obtain rfl := Option.some.inj ((render_of_isDrawable hdrawable).symm.trans h)
    rw [splitLines, pieces_text, List.length_map, List.length_map]
    rfl

/-- The bytes of joined texts are their bytes, joined by those of the separator. -/
theorem utf8_intercalate (separator : String) : ∀ texts : List String,
    utf8 (separator.intercalate texts) = (utf8 separator).intercalate (texts.map utf8)
  | [] => rfl
  | [text] => by
    rw [String.intercalate_singleton, List.map_singleton, List.intercalate_singleton]
  | text :: next :: rest => by
    rw [String.intercalate_cons_cons, utf8_append, utf8_append,
      utf8_intercalate separator (next :: rest)]
    simp only [List.map_cons, List.intercalate_cons_cons]

namespace Film

/-! ## Films below a limit -/

/-- The bytes of the frames, joined by line feeds. -/
theorem utf8_text (film : Film) :
    utf8 film.text = [Console.lineFeed].intercalate (film.frames.toList.map utf8) :=
  utf8_intercalate "\n" film.frames.toList

/-- **A film is cut where the room ends,** and writing it fails if something is missing. -/
theorem writeTo_cut (film : Film) (limit : Nat) :
    let joined := [Console.lineFeed].intercalate (film.frames.toList.map utf8)
    let written := film.writeTo { limit := some limit }
    written.2.bytes.toList = joined.take (min limit joined.length) ∧
      (written.1 = .error .outputFull ↔ limit < joined.length) ∧
        (written.1 = .ok () ↔ joined.length ≤ limit) := by
  intro joined written
  let empty : Sink := { limit := some limit }
  have hwritten : written = empty.write joined :=
    (film.writeTo_eq empty).trans (congrArg empty.write film.utf8_text)
  have hbytes : (empty.write joined).2.bytes.toList = joined.take limit :=
    Sink.toList_bytes_write (show empty.bytes.toList = Sink.clip empty.limit [] from
      List.take_nil.symm) joined
  have htake : joined.take (min limit joined.length) = joined.take limit := by
    rw [List.take_eq_take_iff]
    omega
  have hroom : empty.room joined.length = min joined.length limit := rfl
  rw [hwritten, htake]
  refine ⟨hbytes, ?_⟩
  rcases Nat.lt_or_ge limit joined.length with hcut | hfits
  · rw [Sink.write_of_room_lt (by omega)]
    simp [hcut]
  · rw [Sink.write_of_fits (by omega)]
    simp [hfits]

/-- A film that is cut behind the line feed of an empty frame. -/
example : Film.writeTo ⟨#["a\nb", "", "c"]⟩ { limit := some 4 }
    = (.error .outputFull, { limit := some 4, bytes := #[97, 10, 98, 10] }) := by
  decide +kernel

/-! ## Frames in a text -/

/-- The frames in a text, nine lines each. -/
def framesIn (text : String) : List String :=
  if text = "" then [] else (groups 9 (splitLines text)).map "\n".intercalate

variable {film : Film}

section NineLines

variable (hne : film.frames.toList ≠ [])
  (hnine : ∀ text ∈ film.frames.toList, (splitLines text).length = 9)

include hne hnine

/-- A film of nine-line frames has nine lines for each of them. -/
theorem length_splitLines_text : (splitLines film.text).length = 9 * film.length := by
  rw [text, splitLines_intercalate hne, length_flatMap_of_length_eq hnine, Array.length_toList]
  rfl

/-- **Nine-line frames** are found again by counting lines. -/
theorem groups_splitLines_text :
    (groups 9 (splitLines film.text)).map "\n".intercalate = film.frames.toList := by
  rw [text, splitLines_intercalate hne, groups_flatMap (by decide) hnine, List.map_map]
  exact List.map_id'' intercalate_splitLines _

/-- A film with nine-line frames in it has a text. -/
theorem text_ne_empty : film.text ≠ "" := by
  intro hempty
  have hlength := length_splitLines_text hne hnine
  rw [hempty, show (splitLines "").length = 1 from rfl] at hlength
  omega

end NineLines

/-- **The text of a film of drawn frames tells the frames.** -/
theorem framesIn_written
    (h : ∀ text ∈ film.frames.toList, ∃ frame : Frame, frame.render = some text)
    (bytes : Array UInt8) :
    ∃ text, film.writeTo ⟨none, bytes⟩ = (.ok (), ⟨none, bytes ++ utf8 text⟩) ∧
      (film.length = 0 → text = "") ∧
      (0 < film.length → (splitLines text).length = 9 * film.length) ∧
      framesIn text = film.frames.toList := by
  have hwritten : film.writeTo ⟨none, bytes⟩ = (.ok (), ⟨none, bytes ++ utf8 film.text⟩) :=
    (film.writeTo_eq _).trans (Sink.write_of_unlimited rfl _)
  have hnine : ∀ text ∈ film.frames.toList, (splitLines text).length = 9 := fun text htext =>
    (h text htext).elim fun frame hframe => frame.length_splitLines hframe
  have hlength : film.frames.toList.length = film.length := Array.length_toList
  by_cases hne : film.frames.toList = []
  · have hempty : film.text = "" := by rw [text, hne, String.intercalate_nil]
    rw [hne, List.length_nil] at hlength
    exact ⟨film.text, hwritten, fun _ => hempty, fun hsome => by omega,
      by rw [framesIn, if_pos hempty, hne]⟩
  · have hpos := List.length_pos_iff.2 hne
    exact ⟨film.text, hwritten, fun hempty => by omega,
      fun _ => length_splitLines_text hne hnine,
      by rw [framesIn, if_neg (text_ne_empty hne hnine), groups_splitLines_text hne hnine]⟩

/-- Two frames, one with a wall and a legend and one with nothing in it. -/
theorem framesIn_written_two :
    let busy : Frame := { instruction := some (.nop (some 3)), sum := 7, minWidth := 2
                          sounds := [⟨1, 0, 5, 2, 1, false⟩, ⟨2, 0, 6, 1, -1, false⟩]
                          walls := [⟨-1, 3, 4, false⟩] }
    let still : Frame := { instruction := none, sounds := [], walls := [], sum := 0, minWidth := 0 }
    let film : Film := ⟨#[busy.text, still.text]⟩
    (∀ text ∈ film.frames.toList, ∃ frame : Frame, frame.render = some text) ∧
      ∃ text, film.writeTo {} = (.ok (), { bytes := (#[] : Array UInt8) ++ utf8 text }) ∧
        (splitLines text).length = 18 ∧ framesIn text = [busy.text, still.text] := by
  intro busy still film
  have hdrawn : ∀ text ∈ film.frames.toList, ∃ frame : Frame, frame.render = some text :=
    List.forall_mem_cons.2 ⟨⟨busy, Frame.render_of_isDrawable (by decide)⟩,
      List.forall_mem_singleton.2 ⟨still, Frame.render_of_isDrawable (by decide)⟩⟩
  obtain ⟨text, hwritten, -, hlength, hframes⟩ := framesIn_written hdrawn #[]
  exact ⟨hdrawn, text, hwritten, hlength (by decide), hframes⟩

end Film

end Reverb
