import Reverb.Text.Blank
import Reverb.Text.Pieces

/-!
# Text/Words — the words of a line

Words are the nonempty pieces between blanks.  Everything about them follows from one equation: the
words around a blank are the words on its two sides (`words_append_blank`).
-/

namespace Reverb.Text

/-- The maximal stretches of characters that are not blank. -/
def words (text : List Char) : List (List Char) :=
  (pieces isBlank text).filter fun piece => !piece.isEmpty

@[simp] theorem words_nil : words [] = [] := rfl

/-- **The words around a blank are the words on its two sides.** -/
theorem words_append_blank {c : Char} (hc : isBlank c = true) (text rest : List Char) :
    words (text ++ c :: rest) = words text ++ words rest := by
  rw [words, pieces_append_cons hc, List.filter_append]
  rfl

/-- A blank at the front belongs to no word. -/
theorem words_cons_blank {c : Char} (hc : isBlank c = true) (text : List Char) :
    words (c :: text) = words text :=
  words_append_blank hc [] text

/-- A text of blanks has no words. -/
theorem words_of_blanks : ∀ {text : List Char}, (∀ c ∈ text, isBlank c = true) → words text = []
  | [], _ => rfl
  | c :: text, h => by
    rw [words_cons_blank (h c List.mem_cons_self)]
    exact words_of_blanks fun d hd => h d (List.mem_cons_of_mem c hd)

/-- A stretch without blanks is one word. -/
theorem words_of_none {word : List Char} (hne : word ≠ []) (h : ∀ c ∈ word, isBlank c = false) :
    words word = [word] := by
  rw [words, pieces_of_none h]
  simp [hne]

/-- A word is not empty and holds no blank. -/
theorem of_mem_words {text word : List Char} (h : word ∈ words text) :
    word ≠ [] ∧ ∀ c ∈ word, isBlank c = false := by
  rw [words, List.mem_filter] at h
  exact ⟨by simpa using h.2, not_sep_of_mem_pieces h.1⟩

end Reverb.Text
