/-!
# Text/Pieces — a text cut at its separators

`pieces sep text` are the stretches between the separators, the empty ones included, so a text with
`n` separators has `n + 1` pieces.  Two equations say everything: a text without separators is one
piece (`pieces_of_none`), and the pieces around a separator are the pieces on its two sides
(`pieces_append_cons`).
-/

namespace Reverb.Text

variable {sep : Char → Bool}

/-- A separator opens a new piece; any other character joins the first one. -/
def joinPiece (sep : Char → Bool) (c : Char) : List (List Char) → List (List Char)
  | [] => if sep c then [[], []] else [[c]]
  | piece :: rest => if sep c then [] :: piece :: rest else (c :: piece) :: rest

/-- The stretches of a text between its separators. -/
def pieces (sep : Char → Bool) (text : List Char) : List (List Char) :=
  text.foldr (joinPiece sep) [[]]

@[simp] theorem pieces_nil : pieces sep [] = [[]] := rfl

theorem pieces_cons (c : Char) (text : List Char) :
    pieces sep (c :: text) = joinPiece sep c (pieces sep text) := rfl

/-- There is always a first piece. -/
theorem exists_pieces_eq_cons (sep : Char → Bool) :
    ∀ text : List Char, ∃ piece rest, pieces sep text = piece :: rest
  | [] => ⟨[], [], rfl⟩
  | c :: text => by
    obtain ⟨piece, rest, h⟩ := exists_pieces_eq_cons sep text
    rw [pieces_cons, h, joinPiece]
    split
    · exact ⟨[], piece :: rest, rfl⟩
    · exact ⟨c :: piece, rest, rfl⟩

theorem pieces_cons_of_sep {c : Char} (hc : sep c = true) (text : List Char) :
    pieces sep (c :: text) = [] :: pieces sep text := by
  obtain ⟨piece, rest, h⟩ := exists_pieces_eq_cons sep text
  rw [pieces_cons, h, joinPiece, if_pos hc]

/-- **The pieces around a separator are the pieces on its two sides.** -/
theorem pieces_append_cons {c : Char} (hc : sep c = true) (rest : List Char) :
    ∀ text : List Char, pieces sep (text ++ c :: rest) = pieces sep text ++ pieces sep rest
  | [] => by rw [List.nil_append, pieces_cons_of_sep hc, pieces_nil, List.singleton_append]
  | d :: text => by
    obtain ⟨piece, more, h⟩ := exists_pieces_eq_cons sep text
    rw [List.cons_append, pieces_cons, pieces_append_cons hc rest text, pieces_cons, h]
    simp only [List.cons_append, joinPiece]
    split <;> rfl

/-- **A text without separators is one piece.** -/
theorem pieces_of_none : ∀ {text : List Char}, (∀ c ∈ text, sep c = false) →
    pieces sep text = [text]
  | [], _ => rfl
  | c :: text, h => by
    rw [pieces_cons, pieces_of_none fun d hd => h d (List.mem_cons_of_mem c hd), joinPiece,
      if_neg (by simp [h c List.mem_cons_self])]

/-- **The pieces of joined texts** are the pieces of one text after the other. -/
theorem pieces_intercalate_eq_flatMap {c : Char} (hc : sep c = true) : ∀ {texts : List (List Char)},
    texts ≠ [] → pieces sep ([c].intercalate texts) = texts.flatMap (pieces sep)
  | [], h => absurd rfl h
  | [text], _ => by rw [List.intercalate_singleton, List.flatMap_singleton]
  | text :: next :: rest, _ => by
    rw [List.intercalate_cons_cons, List.append_assoc, List.singleton_append,
      pieces_append_cons hc, pieces_intercalate_eq_flatMap hc (List.cons_ne_nil next rest)]
    rfl

/-- **Pieces joined by separators** are found again. -/
theorem pieces_intercalate {c : Char} (hc : sep c = true) {texts : List (List Char)}
    (hne : texts ≠ []) (h : ∀ text ∈ texts, ∀ d ∈ text, sep d = false) :
    pieces sep ([c].intercalate texts) = texts := by
  have hpieces : texts.map (pieces sep) = texts.map fun text => [text] :=
    List.map_congr_left fun text htext => pieces_of_none (h text htext)
  rw [pieces_intercalate_eq_flatMap hc hne, List.flatMap_def, hpieces, ← List.flatMap_def,
    List.flatMap_singleton']

/-- Where there is only one separator a text is its pieces, joined by it. -/
theorem intercalate_pieces {c : Char} (hc : ∀ d, sep d = true ↔ d = c) :
    ∀ text : List Char, [c].intercalate (pieces sep text) = text
  | [] => List.intercalate_singleton
  | d :: text => by
    obtain ⟨piece, rest, h⟩ := exists_pieces_eq_cons sep text
    have htext : [c].intercalate (piece :: rest) = text := h ▸ intercalate_pieces hc text
    rw [pieces_cons, h, joinPiece]
    split
    · next hd => rw [List.intercalate_cons_cons, htext, (hc d).1 hd, List.nil_append]; rfl
    · cases rest with
      | nil =>
        rw [List.intercalate_singleton] at htext ⊢
        rw [htext]
      | cons next rest =>
        rw [List.intercalate_cons_cons] at htext ⊢
        rw [← htext]
        rfl

/-- No piece holds a separator. -/
theorem not_sep_of_mem_pieces : ∀ {text piece : List Char}, piece ∈ pieces sep text →
    ∀ c ∈ piece, sep c = false
  | [], piece, hp, c, hc => by
    rw [pieces_nil, List.mem_singleton] at hp
    simp [hp] at hc
  | d :: text, piece, hp, c, hc => by
    obtain ⟨first, rest, h⟩ := exists_pieces_eq_cons sep text
    have of_mem {q : List Char} (hq : q ∈ first :: rest) : ∀ e ∈ q, sep e = false :=
      not_sep_of_mem_pieces (h ▸ hq)
    rw [pieces_cons, h, joinPiece] at hp
    by_cases hd : sep d = true
    · rw [if_pos hd, List.mem_cons] at hp
      rcases hp with rfl | hp
      · simp at hc
      · exact of_mem hp c hc
    · rw [if_neg hd, List.mem_cons] at hp
      rcases hp with rfl | hp
      · rcases List.mem_cons.1 hc with rfl | hc
        · simpa using hd
        · exact of_mem List.mem_cons_self c hc
      · exact of_mem (List.mem_cons_of_mem first hp) c hc

end Reverb.Text
