import Mathlib.Data.List.DropRight
import Mathlib.Data.List.TakeWhile
import Reverb.Proofs.Layout

/-!
# Proofs/Tokens — the words of a line are the words it was put together from

A line that is put together from words and blanks is a `Spacing`.  If its first word begins with a
letter, it is a command line of exactly these words; and every command line of a source comes from a
spacing of its words, at the place that it names.  No line of the source that begins with a letter
is left out (`ofSource_round_trip`).

A command line is found in one scan for its words.  To trim it first, to look at the first character
that is left, and to cut only then comes to the same, since all three take the same characters for
blanks (`commandWords?_eq_trimmed`).
-/

namespace Reverb

/-! ## Three scans for one -/

namespace Text

/-- The text without the blanks at its two ends. -/
def trimmed (text : List Char) : List Char := (text.dropWhile isBlank).rdropWhile isBlank

/-- Blanks at the end belong to no word. -/
theorem words_append_blanks {trail : List Char} (htrail : ∀ c ∈ trail, isBlank c = true)
    (text : List Char) : words (text ++ trail) = words text := by
  cases trail with
  | nil => rw [List.append_nil]
  | cons c trail =>
    obtain ⟨hc, hrest⟩ := List.forall_mem_cons.1 htrail
    rw [words_append_blank hc, words_of_blanks hrest, List.append_nil]

theorem words_trimmed (text : List Char) : words (trimmed text) = words text := by
  have hlead : ∀ c ∈ text.takeWhile isBlank, isBlank c = true := fun c => List.mem_takeWhile_imp
  have htrail : ∀ c ∈ (text.dropWhile isBlank).rtakeWhile isBlank, isBlank c = true := fun c =>
    List.mem_rtakeWhile_imp
  calc words (trimmed text)
      = words (trimmed text ++ (text.dropWhile isBlank).rtakeWhile isBlank) :=
        (words_append_blanks htrail _).symm
    _ = words (text.dropWhile isBlank) := by rw [trimmed, List.rdropWhile_append_rtakeWhile]
    _ = words (text.takeWhile isBlank ++ text.dropWhile isBlank) :=
        (words_append_of_blanks hlead _).symm
    _ = words text := by rw [List.takeWhile_append_dropWhile]

/-- What is left begins with the first character that is not blank. -/
theorem head?_trimmed (text : List Char) :
    (trimmed text).head? = text.find? fun c => !isBlank c := by
  rw [List.find?_not_eq_head?_dropWhile, trimmed]
  cases hrest : text.dropWhile isBlank with
  | nil => rfl
  | cons c rest =>
    have hc : isBlank c = false := by
      have hhead := List.head?_dropWhile_not isBlank text
      rwa [hrest] at hhead
    obtain ⟨trail, htrail⟩ := List.rdropWhile_prefix isBlank (l := c :: rest)
    cases hkept : (c :: rest).rdropWhile isBlank with
    | nil =>
      have hblank := List.rdropWhile_eq_nil_iff.1 hkept c List.mem_cons_self
      simp [hc] at hblank
    | cons d kept =>
      rw [hkept, List.cons_append] at htrail
      rw [List.head?_cons, List.head?_cons, (List.cons.inj htrail).1]

end Text

/-- The text is a word: it is not empty and holds no blank. -/
def IsToken (token : String) : Prop :=
  token.toList ≠ [] ∧ ∀ c ∈ token.toList, Text.isBlank c = false

instance (token : String) : Decidable (IsToken token) :=
  decidable_of_iff (token.toList ≠ [] ∧ token.toList.any Text.isBlank = false) (by simp [IsToken])

namespace Line

/-- The first character of the text that is not blank is a letter. -/
def BeginsWithLetter (text : String) : Prop :=
  (text.toList.find? fun c => !Text.isBlank c).any Text.isAlphabetic = true

instance (text : String) : Decidable (BeginsWithLetter text) :=
  inferInstanceAs (Decidable (_ = true))

/-- **The scans agree:** a line may as well be trimmed, told by the first character that is left,
and cut then. -/
theorem commandWords?_eq_trimmed (text : List Char) : commandWords? text =
    if (Text.trimmed text).head?.any Text.isAlphabetic then some (Text.words (Text.trimmed text))
    else none := by
  rw [Text.head?_trimmed, Text.words_trimmed, commandWords?_eq]

/-! ## Lines put together from words -/

/-- **The words of a command line:** no blank is in them, and the first begins with a letter. -/
structure IsCommandLine (tokens : List String) : Prop where
  isToken : ∀ token ∈ tokens, IsToken token
  isAlphabetic : (tokens.head?.bind fun first => first.toList.head?).any Text.isAlphabetic = true

/-- The text is empty or blank. -/
def IsBlank (text : String) : Prop := ∀ c ∈ text.toList, Text.isBlank c = true

instance (text : String) : Decidable (IsBlank text) :=
  decidable_of_iff (text.toList.all Text.isBlank = true) List.all_eq_true

/-- **Words set apart by blanks:** at least one blank stands before each word but the first, and any
number of them at the two ends. -/
structure Spacing where
  lead : String
  first : String
  /-- The other words, each behind the blanks before it. -/
  others : List (String × String)
  trail : String
  isBlank_lead : IsBlank lead
  isBlank_gap : ∀ other ∈ others, other.1 ≠ "" ∧ IsBlank other.1
  isBlank_trail : IsBlank trail

namespace Spacing

/-- The words in order. -/
def tokens (spacing : Spacing) : List String := spacing.first :: spacing.others.map Prod.snd

/-- The line with its blanks. -/
def text (spacing : Spacing) : String :=
  spacing.lead ++ spacing.first ++ String.join (spacing.others.map fun other => other.1 ++ other.2)
    ++ spacing.trail

/-- One space between any two words, and nothing at the ends. -/
def joined (first : String) (others : List String) : Spacing where
  lead := ""
  first := first
  others := others.map fun token => (" ", token)
  trail := ""
  isBlank_lead := by decide
  isBlank_gap other hmem := by
    have hspace : " " ≠ "" ∧ IsBlank " " := by decide
    obtain ⟨token, -, rfl⟩ := List.mem_map.1 hmem
    exact hspace
  isBlank_trail := by decide

theorem tokens_joined (first : String) (others : List String) :
    (joined first others).tokens = first :: others := by
  simp [tokens, joined]

theorem text_joined (first : String) (others : List String) :
    (joined first others).text = " ".intercalate (first :: others) := by
  induction others generalizing first with
  | nil => simp [text, joined]
  | cons next others ih =>
    rw [String.intercalate_cons_cons, ← ih next]
    simp [text, joined, String.append_assoc]

/-- The characters of a line: its first word with the blanks before it, and what follows. -/
theorem toList_text (spacing : Spacing) :
    spacing.text.toList = spacing.lead.toList ++ spacing.first.toList
      ++ ((spacing.others.flatMap fun other => other.1.toList ++ other.2.toList)
        ++ spacing.trail.toList) := by
  simp [text, List.flatMap_map]

/-- One more word in front of a line that begins with a blank. -/
def behind (lead first : String) (hlead : IsBlank lead) (spacing : Spacing)
    (hgap : spacing.lead ≠ "") : Spacing where
  lead := lead
  first := first
  others := (spacing.lead, spacing.first) :: spacing.others
  trail := spacing.trail
  isBlank_lead := hlead
  isBlank_gap := List.forall_mem_cons.2 ⟨⟨hgap, spacing.isBlank_lead⟩, spacing.isBlank_gap⟩
  isBlank_trail := spacing.isBlank_trail

section Behind

variable {lead first : String} (hlead : IsBlank lead) (spacing : Spacing) (hgap : spacing.lead ≠ "")

@[simp] theorem tokens_behind :
    (behind lead first hlead spacing hgap).tokens = first :: spacing.tokens := rfl

theorem toList_text_behind : (behind lead first hlead spacing hgap).text.toList
    = lead.toList ++ first.toList ++ spacing.text.toList := by
  simp [toList_text, behind]

end Behind

/-- A line begins with a blank exactly if there are any before its first word. -/
theorem isBlank_head_iff {spacing : Spacing} (hfirst : IsToken spacing.first) :
    (∀ c ∈ spacing.text.toList.head?, Text.isBlank c = true) ↔ spacing.lead ≠ "" := by
  obtain ⟨hne, hword⟩ := hfirst
  rw [toList_text, List.append_assoc, List.head?_append, List.head?_append, ne_eq,
    ← String.toList_eq_nil_iff]
  cases hlead : spacing.lead.toList with
  | nil =>
    cases hchars : spacing.first.toList with
    | nil => exact absurd hchars hne
    | cons c word => simp [hword c (hchars ▸ List.mem_cons_self)]
  | cons b lead => simp [spacing.isBlank_lead b (hlead ▸ List.mem_cons_self)]

/-- **The line lays out its words.** -/
theorem laysOut_text (spacing : Spacing) (h : ∀ token ∈ spacing.tokens, IsToken token) :
    Text.LaysOut (spacing.tokens.map String.toList) spacing.text.toList := by
  obtain ⟨lead, first, others, trail, hlead, hgap, htrail⟩ := spacing
  induction others generalizing lead first with
  | nil =>
    obtain ⟨hne, hword⟩ := h first List.mem_cons_self
    rw [toList_text]
    exact .word hlead hne hword (fun c hc => htrail c (List.mem_of_head? hc)) (.blank htrail)
  | cons other others ih =>
    obtain ⟨⟨hgap_ne, hgap_blank⟩, hothers⟩ := List.forall_mem_cons.1 hgap
    obtain ⟨⟨hne, hword⟩, htokens⟩ := List.forall_mem_cons.1 h
    let rest : Spacing := ⟨other.1, other.2, others, trail, hgap_blank, hothers, htrail⟩
    have hrest : Text.LaysOut (rest.tokens.map String.toList) rest.text.toList :=
      ih other.1 other.2 hgap_blank hothers htokens
    have hblank := (isBlank_head_iff (htokens rest.first List.mem_cons_self)).2 hgap_ne
    have htext : (behind lead first hlead rest hgap_ne).text.toList
        = lead.toList ++ first.toList ++ rest.text.toList := toList_text_behind hlead rest hgap_ne
    exact htext ▸ .word hlead hne hword hblank hrest

/-- **Every line that lays out some words is put together from them.** -/
theorem exists_of_laysOut {words : List (List Char)} {text : List Char}
    (h : Text.LaysOut words text) (hne : words ≠ []) :
    ∃ spacing : Spacing, spacing.tokens.map String.toList = words ∧
      spacing.text.toList = text := by
  induction h with
  | blank => exact absurd rfl hne
  | @word lead word rest words hlead hword_ne hword hrest hwords ih =>
    have hlead : IsBlank (String.ofList lead) := by simpa [IsBlank] using hlead
    cases hwords with
    | blank hblank =>
      have htrail : IsBlank (String.ofList rest) := by simpa [IsBlank] using hblank
      let spacing : Spacing :=
        ⟨String.ofList lead, String.ofList word, [], String.ofList rest, hlead,
          List.forall_mem_nil _, htrail⟩
      refine ⟨spacing, ?_, ?_⟩
      · simp [spacing, tokens]
      · simp [spacing, toList_text]
    | @word inner next behindNext words hinner hnext_ne hnext hbehind hwords =>
      obtain ⟨spacing, htokens, htext⟩ := ih (List.cons_ne_nil next words)
      have hfirst : IsToken spacing.first := by
        obtain ⟨hchars, -⟩ := List.cons.inj (htokens : _ :: _ = _)
        rw [IsToken, hchars]
        exact ⟨hnext_ne, hnext⟩
      have hgap : spacing.lead ≠ "" := (isBlank_head_iff hfirst).1 (htext ▸ hrest)
      refine ⟨behind (String.ofList lead) (String.ofList word) hlead spacing hgap, ?_, ?_⟩
      · rw [tokens_behind, List.map_cons, String.toList_ofList, htokens]
      · rw [toList_text_behind, String.toList_ofList, String.toList_ofList, htext]

end Spacing

/-- The first character of the first word, by the characters of the words. -/
theorem head?_map_toList (tokens : List String) : (tokens.map String.toList).head?.bind List.head?
    = tokens.head?.bind fun first => first.toList.head? := by
  cases tokens <;> rfl

/-- **A command line is put together from its words,** and every line put together from the words of
a command line is one. -/
theorem ofText?_eq_some_iff {n : Nat} {text : String} {line : Line} :
    ofText? n text = some line ↔ line.sourceLine = n ∧ IsCommandLine line.tokens ∧
      ∃ spacing : Spacing, spacing.tokens = line.tokens ∧ spacing.text = text := by
  rw [ofText?, commandWords?_eq]
  constructor
  · intro h
    obtain ⟨words, hwords, rfl⟩ := Option.map_eq_some_iff.1 h
    obtain ⟨hletter, hwords⟩ := Option.ite_none_right_eq_some.1 hwords
    obtain rfl := Option.some.inj hwords
    have hlaid := Text.words_eq_iff.1 (rfl : Text.words text.toList = _)
    rw [hlaid.find?_eq] at hletter
    have hne : Text.words text.toList ≠ [] := by
      intro hnone
      simp [hnone] at hletter
    obtain ⟨spacing, htokens, htext⟩ := Spacing.exists_of_laysOut hlaid hne
    have htokens' : spacing.tokens = (Text.words text.toList).map String.ofList := by
      rw [← htokens, List.map_map]
      simp
    refine ⟨rfl, ?_, spacing, htokens', String.toList_inj.1 htext⟩
    rw [← htokens']
    refine ⟨fun token htoken => ?_, ?_⟩
    · exact Text.of_mem_words (htokens ▸ List.mem_map_of_mem htoken)
    · rwa [← head?_map_toList, htokens]
  · rintro ⟨rfl, ⟨hisToken, hletter⟩, spacing, htokens, rfl⟩
    rw [← htokens] at hisToken hletter
    have hlaid := spacing.laysOut_text hisToken
    rw [hlaid.find?_eq, hlaid.words_eq, head?_map_toList, if_pos hletter, Option.map_some,
      List.map_map]
    simp [htokens]

/-- **The words of a command line, joined by spaces,** are one. -/
theorem ofText?_intercalate {tokens : List String} (h : IsCommandLine tokens) (n : Nat) :
    ofText? n (" ".intercalate tokens) = some ⟨n, tokens⟩ := by
  cases tokens with
  | nil => cases h.isAlphabetic
  | cons first others =>
    exact ofText?_eq_some_iff.2 ⟨rfl, h, .joined first others, Spacing.tokens_joined first others,
      Spacing.text_joined first others⟩

/-! ## The command lines of a source -/

theorem isSome_ofText?_iff {n : Nat} {text : String} :
    (ofText? n text).isSome = true ↔ BeginsWithLetter text := by
  rw [ofText?, Option.isSome_map, commandWords?_eq, BeginsWithLetter]
  split
  · next hletter => simp [hletter]
  · next hletter => simp [hletter]

/-- A command line of a source is found in the line that it names. -/
theorem mem_ofSource_iff {source : List String} {line : Line} : line ∈ ofSource source ↔
    ∃ text, source[line.sourceLine]? = some text ∧
      ofText? line.sourceLine text = some line := by
  rw [ofSource, List.mem_filterMap]
  constructor
  · rintro ⟨⟨text, n⟩, hmem, hline⟩
    obtain rfl := sourceLine_of_ofText? hline
    exact ⟨text, List.mem_zipIdx_iff_getElem?.1 hmem, hline⟩
  · rintro ⟨text, htext, hline⟩
    exact ⟨(text, line.sourceLine), List.mem_zipIdx_iff_getElem?.2 htext, hline⟩

theorem ofSource_singleton (text : String) : ofSource [text] = (ofText? 0 text).toList := by
  rw [ofSource, List.zipIdx_singleton]
  cases h : ofText? 0 text <;> simp [h]

/-- The command lines of a source are in the order of their places. -/
theorem pairwise_ofSource (source : List String) :
    (ofSource source).Pairwise fun line later => line.sourceLine < later.sourceLine := by
  rw [ofSource_eq]
  refine (List.pairwise_lt_finRange source.length).filterMap _ ?_
  intro place other hlt line hline later hlater
  rw [sourceLine_of_ofText? hline, sourceLine_of_ofText? hlater]
  exact hlt

/-- **The command lines of a source, one by one:** in order, each put together from its words, none
left out. -/
structure AreCutFrom (source : List String) (lines : List Line) : Prop where
  increasing : lines.Pairwise fun line later => line.sourceLine < later.sourceLine
  /-- The places are those of the lines that begin with a letter. -/
  mem_places_iff : ∀ n, n ∈ lines.map Line.sourceLine ↔
    ∃ text, source[n]? = some text ∧ BeginsWithLetter text
  isCommandLine : ∀ line ∈ lines, IsCommandLine line.tokens
  /-- The line at the place is put together from the words. -/
  spacing : ∀ line ∈ lines, ∃ spacing : Spacing, spacing.tokens = line.tokens ∧
    source[line.sourceLine]? = some spacing.text
  /-- Joined by spaces the words are cut apart again. -/
  joined : ∀ line ∈ lines, ofSource [" ".intercalate line.tokens] = [⟨0, line.tokens⟩]

theorem areCutFrom_ofSource (source : List String) : AreCutFrom source (ofSource source) where
  increasing := pairwise_ofSource source
  mem_places_iff n := by
    rw [List.mem_map]
    constructor
    · rintro ⟨line, hmem, rfl⟩
      obtain ⟨text, htext, hline⟩ := mem_ofSource_iff.1 hmem
      exact ⟨text, htext, isSome_ofText?_iff.1 (Option.isSome_iff_exists.2 ⟨line, hline⟩)⟩
    · rintro ⟨text, htext, hletter⟩
      obtain ⟨line, hline⟩ := Option.isSome_iff_exists.1 (isSome_ofText?_iff (n := n).2 hletter)
      obtain rfl := sourceLine_of_ofText? hline
      exact ⟨line, mem_ofSource_iff.2 ⟨text, htext, hline⟩, rfl⟩
  isCommandLine line hmem := by
    obtain ⟨text, -, hline⟩ := mem_ofSource_iff.1 hmem
    exact (ofText?_eq_some_iff.1 hline).2.1
  spacing line hmem := by
    obtain ⟨text, htext, hline⟩ := mem_ofSource_iff.1 hmem
    obtain ⟨-, -, spacing, htokens, rfl⟩ := ofText?_eq_some_iff.1 hline
    exact ⟨spacing, htokens, htext⟩
  joined line hmem := by
    obtain ⟨text, -, hline⟩ := mem_ofSource_iff.1 hmem
    rw [ofSource_singleton, ofText?_intercalate (ofText?_eq_some_iff.1 hline).2.1]
    rfl

/-- **Words are put together and cut apart again.**  A line that is put together from the words of a
command line, with any blanks around them, is cut into exactly these words.  The other way round,
the command lines of any source stand in order at the places of all its lines that begin with a
letter, and each is put together from the words that it is cut into. -/
theorem ofSource_round_trip :
    (∀ tokens : List String, IsCommandLine tokens →
      ∀ spacing : Spacing, spacing.tokens = tokens → ofSource [spacing.text] = [⟨0, tokens⟩]) ∧
    ∀ source : List String, AreCutFrom source (ofSource source) := by
  refine ⟨fun tokens htokens spacing heq => ?_, areCutFrom_ofSource⟩
  have hline : ofText? 0 spacing.text = some ⟨0, tokens⟩ :=
    ofText?_eq_some_iff.2 ⟨rfl, htokens, spacing, heq, rfl⟩
  rw [ofSource_singleton, hline]
  rfl

/-- Four kinds of blanks around three words, and the same line below a comment. -/
theorem ofSource_round_trip_blanks :
    let spacing : Spacing := ⟨"\t", "send", [(" \u3000", "1"), ("\u00a0", "[2]")], "\r",
      by decide, by decide, by decide⟩
    IsCommandLine ["send", "1", "[2]"] ∧ spacing.tokens = ["send", "1", "[2]"] ∧
      ofSource [spacing.text] = [⟨0, ["send", "1", "[2]"]⟩] ∧
      AreCutFrom ["# three words", spacing.text] (ofSource ["# three words", spacing.text]) := by
  intro spacing
  have htokens : IsCommandLine ["send", "1", "[2]"] := ⟨by decide, by decide⟩
  exact ⟨htokens, rfl, ofSource_round_trip.1 _ htokens spacing rfl, ofSource_round_trip.2 _⟩

end Line

end Reverb
