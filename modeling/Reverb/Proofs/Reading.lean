import Mathlib.Data.List.Induction
import Reverb.Console
import Reverb.Proofs.Printing

/-!
# Proofs/Reading — an input is read segment by segment

Cut behind each of its line feeds, an input falls into segments.  A read that gets its prompt out
takes the next segment as a whole, whether it is a text or not, and no other call takes anything
(`Console.isAt_after`).  So what is left of the input is what is left of the segments, and bytes
that are no text do not spoil the read behind them.  What the next call does, whatever was called
before, is told by the number of segments taken (`Console.serves_after`).

No other character has the byte of a line feed in it (`eq_newline_of_mem_utf8EncodeChar`).  So the
segments of a text are the same in bytes and in characters, and what is read are its lines
(`Text.lines_eq_map_dropEnding`).
-/

namespace Reverb

/-! ## Segments -/

section Segments

variable {α : Type} {mark : α → Bool}

/-- Put a stretch in front of the first segment. -/
def grow (front : List α) : List (List α) → List (List α)
  | [] => [front]
  | segment :: rest => (front ++ segment) :: rest

/-- **The segments of a list:** it is cut behind each mark. -/
def segments (mark : α → Bool) : List α → List (List α)
  | [] => []
  | a :: rest => if mark a then [a] :: segments mark rest else grow [a] (segments mark rest)

theorem segments_cons_of_mark {a : α} (h : mark a = true) (rest : List α) :
    segments mark (a :: rest) = [a] :: segments mark rest := if_pos h

theorem segments_cons_of_not_mark {a : α} (h : mark a = false) (rest : List α) :
    segments mark (a :: rest) = grow [a] (segments mark rest) := by
  rw [segments, h]
  rfl

theorem grow_append (front more : List α) (stretches : List (List α)) :
    grow (front ++ more) stretches = grow front (grow more stretches) := by
  cases stretches with
  | nil => rfl
  | cons segment rest => exact congrArg (· :: rest) (List.append_assoc front more segment)

theorem flatten_grow (front : List α) (stretches : List (List α)) :
    (grow front stretches).flatten = front ++ stretches.flatten := by
  cases stretches with
  | nil => rfl
  | cons segment rest => exact List.append_assoc front segment rest.flatten

/-- To cut loses nothing. -/
theorem flatten_segments (mark : α → Bool) (items : List α) :
    (segments mark items).flatten = items := by
  induction items with
  | nil => rfl
  | cons a rest ih =>
    rw [segments]
    split
    · exact congrArg (a :: ·) ih
    · rw [flatten_grow, ih]
      rfl

/-- A stretch without marks belongs to what is behind it. -/
theorem segments_append_of_none {front : List α} (hne : front ≠ [])
    (h : ∀ a ∈ front, mark a = false) (rest : List α) :
    segments mark (front ++ rest) = grow front (segments mark rest) := by
  induction front with
  | nil => exact absurd rfl hne
  | cons a front ih =>
    obtain ⟨ha, hfront⟩ := List.forall_mem_cons.1 h
    rw [List.cons_append, segments_cons_of_not_mark ha]
    by_cases hend : front = []
    · rw [hend, List.nil_append]
    · rw [ih hend hfront, ← grow_append]
      rfl

/-- Behind the first segment the others are found again. -/
theorem segments_flatten_tail (mark : α → Bool) (items : List α) :
    segments mark (segments mark items).tail.flatten = (segments mark items).tail := by
  induction items with
  | nil => rfl
  | cons a rest ih =>
    rw [segments]
    split
    · rw [List.tail_cons, flatten_segments]
    · cases hrest : segments mark rest with
      | nil => rfl
      | cons segment others => rwa [hrest] at ih

/-- Behind any number of segments the others are found again. -/
theorem segments_flatten_drop (mark : α → Bool) (items : List α) (n : Nat) :
    segments mark ((segments mark items).drop n).flatten = (segments mark items).drop n := by
  induction n with
  | zero => rw [List.drop_zero, flatten_segments]
  | succ n ih =>
    have hnext := segments_flatten_tail mark ((segments mark items).drop n).flatten
    rwa [ih, List.tail_drop] at hnext

end Segments

theorem Console.dropEnding_append_newline (line : List Char) :
    Console.dropEnding (line ++ ['\n']) = Text.dropReturn line := by
  simp [Console.dropEnding]

namespace Text

/-- The segments of a text are its pieces, with the line feeds between them. -/
theorem segments_eq_pieces (text : List Char) : segments isLineFeed text
    = (pieces isLineFeed text).dropLast.map (· ++ ['\n']) ++
        (pieces isLineFeed text).getLast?.toList.filter fun rest => !rest.isEmpty := by
  induction text with
  | nil => rfl
  | cons c text ih =>
    obtain ⟨piece, rest, hpieces⟩ := exists_pieces_eq_cons isLineFeed text
    rw [hpieces] at ih
    rw [pieces_cons, hpieces, joinPiece]
    split
    · next hc =>
      rw [segments_cons_of_mark hc, ih, beq_iff_eq.1 hc, List.dropLast_cons_cons,
        List.getLast?_cons_cons]
      rfl
    · next hc =>
      rw [segments_cons_of_not_mark (by simpa using hc), ih]
      cases rest with
      | nil => cases piece <;> rfl
      | cons next rest =>
        rw [List.dropLast_cons_cons, List.dropLast_cons_cons, List.getLast?_cons_cons,
          List.getLast?_cons_cons]
        rfl

/-- **The lines of a text are its segments** without their endings. -/
theorem lines_eq_map_dropEnding (text : List Char) :
    lines text = (segments isLineFeed text).map Console.dropEnding := by
  have hlast : ∀ rest ∈ (pieces isLineFeed text).getLast?, Console.dropEnding rest = rest := by
    intro rest hrest
    refine if_neg fun hfeed => ?_
    have hmem : '\n' ∈ rest := List.mem_of_getLast? hfeed
    cases not_sep_of_mem_pieces (List.mem_of_getLast? hrest) '\n' hmem
  rw [lines, segments_eq_pieces, List.map_append, List.map_map]
  congr 1
  · exact List.map_congr_left fun line _ => (Console.dropEnding_append_newline line).symm
  · refine ((List.map_congr_left fun rest hrest => ?_).trans (List.map_id _)).symm
    exact hlast rest (Option.mem_toList.1 (List.mem_filter.1 hrest).1)

end Text

/-! ## Segments of bytes -/

/-- **No other character has the byte of a line feed in it.** -/
theorem eq_newline_of_mem_utf8EncodeChar {c : Char}
    (h : Console.lineFeed ∈ String.utf8EncodeChar c) : c = '\n' := by
  obtain ⟨i, hi, hbyte⟩ := List.mem_iff_getElem.1 h
  -- only the first byte of a character can be a first byte
  have hfirst : (String.utf8EncodeChar c)[i].IsUTF8FirstByte := by
    rw [hbyte]
    decide
  obtain rfl : i = 0 := UInt8.isUTF8FirstByte_getElem_utf8EncodeChar.1 hfirst
  obtain ⟨byte, rest, hbytes⟩ := List.exists_cons_of_ne_nil (String.utf8EncodeChar_ne_nil (c := c))
  simp only [hbytes, List.getElem_cons_zero] at hbyte
  -- and from there the line feed is read off
  have hencode : (String.utf8EncodeChar c).toByteArray
      = (String.utf8EncodeChar '\n').toByteArray ++ rest.toByteArray := by
    rw [hbytes, hbyte, ← List.toByteArray_append]
    rfl
  have hchar : ((String.utf8EncodeChar c).toByteArray ++ .empty).utf8DecodeChar? 0 = some c :=
    ByteArray.utf8DecodeChar?_utf8EncodeChar_append
  rw [ByteArray.append_empty, hencode, ByteArray.utf8DecodeChar?_utf8EncodeChar_append] at hchar
  exact (Option.some.inj hchar).symm

theorem utf8_ofList_cons (c : Char) (text : List Char) :
    utf8 (String.ofList (c :: text)) = String.utf8EncodeChar c ++ utf8 (String.ofList text) := by
  rw [← List.singleton_append, String.ofList_append, utf8_append]
  simp [utf8, List.utf8Encode_singleton]

/-- The byte ends a segment. -/
def isLineFeed (byte : UInt8) : Bool := byte == Console.lineFeed

/-- **A text has the same segments in bytes and in characters.** -/
theorem segments_utf8 (text : List Char) : segments isLineFeed (utf8 (String.ofList text))
    = (segments Text.isLineFeed text).map fun segment => utf8 (String.ofList segment) := by
  induction text with
  | nil => rfl
  | cons c rest ih =>
    rw [utf8_ofList_cons]
    by_cases hc : c = '\n'
    · subst hc
      rw [segments_cons_of_mark rfl, List.map_cons, ← ih]
      exact segments_cons_of_mark rfl _
    · have hbytes : ∀ byte ∈ String.utf8EncodeChar c, isLineFeed byte = false := by
        intro byte hmem
        rw [isLineFeed, beq_eq_false_iff_ne]
        rintro rfl
        exact hc (eq_newline_of_mem_utf8EncodeChar hmem)
      have hmark : Text.isLineFeed c = false := beq_eq_false_iff_ne.2 hc
      rw [segments_append_of_none String.utf8EncodeChar_ne_nil hbytes, ih,
        segments_cons_of_not_mark hmark]
      cases segments Text.isLineFeed rest with
      | nil => exact congrArg ([·]) ((List.append_nil _).symm.trans (utf8_ofList_cons c []).symm)
      | cons segment others => exact congrArg (· :: _) (utf8_ofList_cons c segment).symm

/-! ## Writes below a limit -/

namespace Sink

/-- The bytes fit below a limit. -/
def Fits (limit : Option Nat) (data : List UInt8) : Prop := ∀ most ∈ limit, data.length ≤ most

instance : ∀ (limit : Option Nat) (data : List UInt8), Decidable (Fits limit data)
  | none, _ => .isTrue nofun
  | some most, data => decidable_of_iff (data.length ≤ most) (by simp [Fits])

/-- What is stored of some bytes below a limit. -/
def clip : Option Nat → List UInt8 → List UInt8
  | none, data => data
  | some most, data => data.take most

variable {sink : Sink} {data more : List UInt8}

theorem writeText_eq (sink : Sink) (text : String) :
    sink.writeText text = sink.write (utf8 text) := rfl

/-- **What is stored** is what fits of all that was written. -/
theorem toList_bytes_write (h : sink.bytes.toList = clip sink.limit data) (more : List UInt8) :
    (sink.write more).2.bytes.toList = clip sink.limit (data ++ more) := by
  change (sink.bytes ++ more.take (sink.room more.length)).toList = _
  rw [Array.toList_appendList, h, room, ← Array.length_toList, h]
  cases sink.limit with
  | none => rw [clip, List.take_length, clip]
  | some most =>
    rw [clip, clip, List.take_append, List.length_take]
    refine congrArg _ (List.take_eq_take_iff.2 ?_)
    dsimp only
    omega

/-- A write has room exactly if all that was written fits with it. -/
theorem room_eq_iff_fits (h : sink.bytes.toList = clip sink.limit data) (hne : more ≠ []) :
    sink.room more.length = more.length ↔ Fits sink.limit (data ++ more) := by
  have hpos : 0 < more.length := List.length_pos_iff.2 hne
  rw [room, ← Array.length_toList, h]
  cases sink.limit with
  | none => simp [Fits]
  | some most =>
    simp only [clip, List.length_take, Fits, Option.mem_some_iff, forall_eq', List.length_append]
    omega

end Sink

namespace Console

open Sink

/-! ## Calls -/

/-- A call of a console. -/
inductive Call where
  | read
  | write (text : String)
  deriving DecidableEq

/-- What the calls ask to print. -/
def printed (calls : List Call) : List UInt8 :=
  calls.flatMap fun
    | .read => utf8 prompt
    | .write text => utf8 text

/-- The console after one call. -/
def called (console : Console) : Call → Console
  | .read => console.readLine.2
  | .write text => (console.write text).2

/-- The console after some calls. -/
def after (console : Console) (calls : List Call) : Console := calls.foldl called console

/-- A console that has not been called. -/
def fresh (input : List UInt8) (limit : Option Nat) : Console := { input, output := { limit } }

/-- **The number of reads whose prompt is written in full:** all that was to be printed up to there
fits. -/
def taken (limit : Option Nat) (calls : List Call) : Nat :=
  (List.range calls.length).countP fun n =>
    calls[n]? = some .read ∧ Fits limit (printed (calls.take (n + 1)))

variable {calls : List Call} {call : Call} {limit : Option Nat}

theorem printed_append_singleton (calls : List Call) (call : Call) :
    printed (calls ++ [call]) = printed calls ++ printed [call] := List.flatMap_append

theorem taken_append_singleton (limit : Option Nat) (calls : List Call) (call : Call) :
    taken limit (calls ++ [call]) = taken limit calls +
      if call = .read ∧ Fits limit (printed (calls ++ [call])) then 1 else 0 := by
  have hearlier : ∀ n ∈ List.range calls.length,
      decide ((calls ++ [call])[n]? = some .read ∧
          Fits limit (printed ((calls ++ [call]).take (n + 1))))
        = decide (calls[n]? = some .read ∧ Fits limit (printed (calls.take (n + 1)))) := by
    intro n hn
    have hlt := List.mem_range.1 hn
    rw [List.getElem?_append_left hlt, List.take_append_of_le_length hlt]
  rw [taken, List.length_append, List.length_singleton, List.range_succ, List.countP_append,
    List.countP_congr fun n hn => by rw [hearlier n hn], List.countP_singleton,
    List.getElem?_concat_length, List.take_of_length_le (by simp)]
  simp [taken]

/-! ## What a read answers -/

/-- **The line of a text:** a line feed at its end is left out, and a carriage return before it. -/
inductive IsLineOf : List Char → List Char → Prop
  | returned (line : List Char) : IsLineOf line (line ++ ['\r', '\n'])
  | fed {line : List Char} (h : line.getLast? ≠ some '\r') : IsLineOf line (line ++ ['\n'])
  | unended {line : List Char} (h : line.getLast? ≠ some '\n') : IsLineOf line line

/-- **What a read of a segment answers:** its line, if it is a text. -/
inductive Answers (segment : List UInt8) : Except StreamError String → Prop
  | line {text line : String} (htext : utf8 text = segment)
      (hline : IsLineOf line.toList text.toList) : Answers segment (.ok line)
  | invalid (h : ∀ text, utf8 text ≠ segment) : Answers segment (.error .invalidText)

theorem isLineOf_dropEnding (text : List Char) : IsLineOf (dropEnding text) text := by
  rw [dropEnding]
  split
  · next hfeed =>
    obtain ⟨line, rfl⟩ := List.getLast?_eq_some_iff.1 hfeed
    rw [List.dropLast_concat, Text.dropReturn]
    split
    · next hreturn =>
      obtain ⟨line, rfl⟩ := List.getLast?_eq_some_iff.1 hreturn
      rw [List.dropLast_concat, List.append_assoc]
      exact .returned line
    · next hreturn => exact .fed hreturn
  · next hfeed => exact .unended hfeed

/-- The answer to a read of a segment. -/
def answer (segment : List UInt8) : Except StreamError String :=
  match lineText? segment with
  | some line => .ok line
  | none => .error .invalidText

theorem answers_answer (segment : List UInt8) : Answers segment (answer segment) := by
  rw [answer, lineText?]
  cases htext : String.fromUTF8? ⟨segment.toArray⟩ with
  | some text =>
    refine .line (fromUTF8?_eq_some_iff.1 htext) ?_
    rw [String.toList_ofList]
    exact isLineOf_dropEnding text.toList
  | none =>
    refine .invalid fun text hbytes => ?_
    cases htext.symm.trans (fromUTF8?_eq_some_iff.2 hbytes)

/-- The segment of the next line is a text with that line. -/
theorem answer_utf8 (text : List Char) :
    answer (utf8 (String.ofList text)) = .ok (String.ofList (dropEnding text)) := by
  rw [answer, lineText?, fromUTF8?_eq_some_iff.2 rfl, Option.map_some, String.toList_ofList]

/-! ## One call -/

variable {console : Console} {data : List UInt8}

/-- **The next segment** is what is cut off the input, and the others are left. -/
theorem cutLine_eq (input : List UInt8) : cutLine input
    = ((segments isLineFeed input).headD [], (segments isLineFeed input).tail.flatten) := by
  induction input with
  | nil => rfl
  | cons byte rest ih =>
    by_cases hbyte : byte = lineFeed
    · have hmark : isLineFeed byte = true := beq_iff_eq.2 hbyte
      rw [segments_cons_of_mark hmark, List.headD_cons, List.tail_cons, flatten_segments, cutLine]
      simp [hbyte]
    · have hmark : isLineFeed byte = false := beq_eq_false_iff_ne.2 hbyte
      have hcons : cutLine (byte :: rest) = (byte :: (cutLine rest).1, (cutLine rest).2) := by
        rw [cutLine, cutLine]
        simp only [List.dropWhile_cons, List.takeWhile_cons, bne_iff_ne.2 hbyte, if_true]
        split <;> rfl
      rw [hcons, ih, segments_cons_of_not_mark hmark]
      cases segments isLineFeed rest <;> rfl

theorem prompt_ne_nil : utf8 prompt ≠ [] := by decide

/-- A read that gets its prompt out. -/
theorem readLine_of_fits (h : console.output.bytes.toList = clip console.output.limit data)
    (hfits : Fits console.output.limit (data ++ utf8 prompt)) :
    console.readLine = (answer (cutLine console.input).1,
      { input := (cutLine console.input).2
        consumed := console.consumed + (cutLine console.input).1.length
        output := (console.output.write (utf8 prompt)).2 }) := by
  have hroom := (room_eq_iff_fits h prompt_ne_nil).2 hfits
  have hwrite : console.output.writeText prompt
      = (.ok (), (console.output.write (utf8 prompt)).2) := by
    rw [writeText_eq, write_of_fits hroom]
  rw [readLine, hwrite, answer]
  dsimp only
  cases lineText? (cutLine console.input).1 <;> rfl

/-- Any other read. -/
theorem readLine_of_not_fits (h : console.output.bytes.toList = clip console.output.limit data)
    (hfits : ¬Fits console.output.limit (data ++ utf8 prompt)) :
    console.readLine = (.error .outputFull,
      { console with output := (console.output.write (utf8 prompt)).2 }) := by
  have hroom : console.output.room (utf8 prompt).length < (utf8 prompt).length :=
    Nat.lt_of_le_of_ne (console.output.room_le _) (mt (room_eq_iff_fits h prompt_ne_nil).1 hfits)
  have hwrite : console.output.writeText prompt
      = (.error .outputFull, (console.output.write (utf8 prompt)).2) := by
    rw [writeText_eq, write_of_room_lt hroom]
  rw [readLine, hwrite]

/-! ## Any calls -/

variable {input : List UInt8}

/-- **Where some calls lead:** all reads that got their prompt out have taken a segment each. -/
structure IsAt (input : List UInt8) (limit : Option Nat) (calls : List Call) (console : Console) :
    Prop where
  left : console.input = ((segments isLineFeed input).drop (taken limit calls)).flatten
  consumed : console.consumed
    = ((segments isLineFeed input).take (taken limit calls)).flatten.length
  limited : console.output.limit = limit
  stored : console.output.bytes.toList = clip limit (printed calls)

theorem isAt_fresh (input : List UInt8) (limit : Option Nat) :
    IsAt input limit [] (fresh input limit) where
  left := (flatten_segments isLineFeed input).symm
  consumed := rfl
  limited := rfl
  stored := by cases limit <;> simp [fresh, clip, printed]

namespace IsAt

/-- What was printed and what is printed next are stored as far as they fit. -/
theorem write (h : IsAt input limit calls console) (more : List UInt8) :
    (console.output.write more).2.bytes.toList = clip limit (printed calls ++ more) ∧
      (console.output.write more).2.limit = limit := by
  obtain rfl := h.limited
  exact ⟨toList_bytes_write h.stored more, rfl⟩

/-- What is cut off next is the next segment. -/
theorem cutLine_eq (h : IsAt input limit calls console) : cutLine console.input
    = ((segments isLineFeed input).getD (taken limit calls) [],
      ((segments isLineFeed input).drop (taken limit calls + 1)).flatten) := by
  rw [Console.cutLine_eq, h.left, segments_flatten_drop, List.tail_drop, List.headD_eq_head?_getD,
    List.head?_drop, List.getD_eq_getElem?_getD]

/-- A read whose prompt is written in full takes the next segment. -/
theorem readLine_of_fits (h : IsAt input limit calls console)
    (hfits : Fits limit (printed calls ++ utf8 prompt)) : console.readLine
      = (answer ((segments isLineFeed input).getD (taken limit calls) []),
        { input := ((segments isLineFeed input).drop (taken limit calls + 1)).flatten
          consumed := console.consumed +
            ((segments isLineFeed input).getD (taken limit calls) []).length
          output := (console.output.write (utf8 prompt)).2 }) := by
  obtain rfl := h.limited
  rw [Console.readLine_of_fits h.stored hfits, h.cutLine_eq]

/-- Any other read takes nothing. -/
theorem readLine_of_not_fits (h : IsAt input limit calls console)
    (hfits : ¬Fits limit (printed calls ++ utf8 prompt)) : console.readLine
      = (.error .outputFull,
        { console with output := (console.output.write (utf8 prompt)).2 }) := by
  obtain rfl := h.limited
  exact Console.readLine_of_not_fits h.stored hfits

/-- A write fails unless it fits. -/
theorem fst_write (h : IsAt input limit calls console) (text : String) :
    (console.write text).1 = .ok () ↔ text = "" ∨ Fits limit (printed calls ++ utf8 text) := by
  obtain rfl := h.limited
  by_cases hempty : text = ""
  · subst hempty
    exact iff_of_true (congrArg Prod.fst (write_nil _)) (Or.inl rfl)
  · have hne : utf8 text ≠ [] := fun hnil => hempty (utf8_injective hnil)
    rw [or_iff_right hempty, ← room_eq_iff_fits h.stored hne]
    rcases Nat.lt_or_eq_of_le (console.output.room_le (utf8 text).length) with hcut | hroom
    · rw [Console.write, writeText_eq, write_of_room_lt hcut]
      exact iff_of_false nofun hcut.ne
    · rw [Console.write, writeText_eq, write_of_fits hroom]
      exact iff_of_true rfl hroom

/-- **One more call.** -/
theorem called (h : IsAt input limit calls console) (call : Call) :
    IsAt input limit (calls ++ [call]) (console.called call) := by
  have htaken := taken_append_singleton limit calls call
  have hprinted := printed_append_singleton calls call
  cases call with
  | read =>
    have hprompt : printed [.read] = utf8 prompt := List.flatMap_singleton _ _
    rw [hprompt] at hprinted
    obtain ⟨hbytes, hlimit⟩ := h.write (utf8 prompt)
    rw [← hprinted] at hbytes
    by_cases hfits : Fits limit (printed calls ++ utf8 prompt)
    · rw [hprinted, if_pos ⟨rfl, hfits⟩] at htaken
      rw [Console.called, h.readLine_of_fits hfits]
      refine ⟨by rw [htaken], ?_, hlimit, hbytes⟩
      rw [htaken, List.take_add_one, List.flatten_append, List.length_append, ← h.consumed,
        List.getD_eq_getElem?_getD]
      cases (segments isLineFeed input)[taken limit calls]? <;> simp
    · rw [hprinted, if_neg fun hread => hfits hread.2, Nat.add_zero] at htaken
      rw [Console.called, h.readLine_of_not_fits hfits]
      exact ⟨htaken ▸ h.left, htaken ▸ h.consumed, hlimit, hbytes⟩
  | write text =>
    have htext : printed [.write text] = utf8 text := List.flatMap_singleton _ _
    rw [htext] at hprinted
    obtain ⟨hbytes, hlimit⟩ := h.write (utf8 text)
    rw [← hprinted] at hbytes
    rw [if_neg fun hread => Call.noConfusion hread.1, Nat.add_zero] at htaken
    exact ⟨htaken ▸ h.left, htaken ▸ h.consumed, hlimit, hbytes⟩

end IsAt

/-- **Any calls take whole segments,** one for each prompt that is written in full. -/
theorem isAt_after (input : List UInt8) (limit : Option Nat) (calls : List Call) :
    IsAt input limit calls ((fresh input limit).after calls) := by
  induction calls using List.reverseRecOn with
  | nil => exact isAt_fresh input limit
  | append_singleton calls call ih =>
    rw [after, List.foldl_append]
    exact ih.called call

/-! ## What the next call does -/

/-- Without a limit every prompt is written in full. -/
theorem taken_none (calls : List Call) : taken none calls = calls.count .read := by
  induction calls using List.reverseRecOn with
  | nil => rfl
  | append_singleton calls call ih =>
    have hfits : Fits none (printed (calls ++ [call])) := nofun
    rw [taken_append_singleton, ih, List.count_append, List.count_singleton]
    simp [hfits]

/-- **A text is read line by line,** and behind its lines there are empty ones. -/
theorem answer_segments_utf8 (text : String) (k : Nat) :
    answer ((segments isLineFeed (utf8 text)).getD k [])
      = .ok (((Text.lines text.toList).map String.ofList).getD k "") := by
  have hsegments : segments isLineFeed (utf8 text)
      = (segments Text.isLineFeed text.toList).map fun segment => utf8 (String.ofList segment) := by
    rw [← segments_utf8, String.ofList_toList]
  rw [hsegments, Text.lines_eq_map_dropEnding, List.map_map, List.getD_eq_getElem?_getD,
    List.getD_eq_getElem?_getD, List.getElem?_map, List.getElem?_map]
  cases (segments Text.isLineFeed text.toList)[k]? with
  | none => exact answer_utf8 []
  | some segment => exact answer_utf8 segment

/-- **How a console serves its next call,** after some calls and with some segments taken. -/
structure Serves (input : List UInt8) (limit : Option Nat) (calls : List Call) (console : Console) :
    Prop where
  /-- Whole segments are consumed. -/
  place : IsAt input limit calls console
  /-- A read whose prompt is written in full consumes the next segment and answers with its line. -/
  reads : Fits limit (printed calls ++ utf8 prompt) →
    let segment := (segments isLineFeed input).getD (taken limit calls) []
    console.input = segment ++ console.readLine.2.input ∧
      console.readLine.2.consumed = console.consumed + segment.length ∧
        Answers segment console.readLine.1
  /-- Any other read fails and consumes nothing. -/
  refuses : ¬Fits limit (printed calls ++ utf8 prompt) →
    console.readLine.1 = .error .outputFull ∧ console.readLine.2.input = console.input ∧
      console.readLine.2.consumed = console.consumed
  /-- Behind the last segment there are empty lines. -/
  ended : Fits limit (printed calls ++ utf8 prompt) →
    (segments isLineFeed input).length ≤ taken limit calls → console.readLine.1 = .ok ""
  /-- A write consumes nothing, and it fails unless it fits. -/
  writes : ∀ text, (console.write text).2.input = console.input ∧
    (console.write text).2.consumed = console.consumed ∧
      ((console.write text).1 = .ok () ↔ text = "" ∨ Fits limit (printed calls ++ utf8 text))
  /-- Without a limit the lines of a text are read, whatever is written between. -/
  lines : ∀ text, input = utf8 text → limit = none → console.readLine.1
    = .ok (((Text.lines text.toList).map String.ofList).getD (calls.count .read) "")

/-- **A console serves any calls:** each read that gets its prompt out takes the next segment of the
input, however calls and failures went before. -/
theorem serves_after (input : List UInt8) (limit : Option Nat) (calls : List Call) :
    Serves input limit calls ((fresh input limit).after calls) := by
  have h := isAt_after input limit calls
  generalize (fresh input limit).after calls = console at h ⊢
  exact {
    place := h
    reads := fun hfits => by
      have hinput := append_cutLine console.input
      rw [h.cutLine_eq] at hinput
      rw [h.readLine_of_fits hfits]
      exact ⟨hinput.symm, rfl, answers_answer _⟩
    refuses := fun hfits => by
      rw [h.readLine_of_not_fits hfits]
      exact ⟨rfl, rfl, rfl⟩
    ended := fun hfits hended => by
      rw [h.readLine_of_fits hfits, List.getD_eq_getElem?_getD, List.getElem?_eq_none hended]
      exact answer_utf8 []
    writes := fun text => ⟨rfl, rfl, h.fst_write text⟩
    lines := by
      rintro text rfl rfl
      have hfits : Fits none (printed calls ++ utf8 prompt) := nofun
      rw [h.readLine_of_fits hfits, taken_none, answer_segments_utf8] }

/-- Bytes that are no text between two lines, and a carriage return that ends none. -/
example :
    let input := [97, 13, 10, 255, 10, 13, 98, 13]
    let console := (fresh input none).after [.read, .write "x"]
    console.consumed = 3 ∧ console.readLine.1 = .error .invalidText ∧
      console.readLine.2.readLine.1 = .ok "\rb\r" ∧ console.readLine.2.readLine.2.input = [] := by
  decide +kernel

end Console

end Reverb
