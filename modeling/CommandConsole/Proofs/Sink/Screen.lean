import CommandConsole.Proofs.Sink.Printed
import CommandConsole.Proofs.Text.Mark

/-!
# What the stream to a terminal shows

A terminal keeps a transcript beside the stream that it writes; neither is made from the other.  Yet
the stream alone is enough to tell what is shown.  A clear sequence empties the screen, and colours
do not show: what stands in the stream after the last clear sequence, with the colour sequences
deleted, is the transcript (`screen_eq_content`).

The stream is the codes of the calls, one after the other (`written_receiveAll`), and it is read call
by call: a clear sequence begins where the code of a clear begins and nowhere else
(`fromEach_code_append`), and deleting colours leaves the text of a print and its line feed
(`without_code_append`).  This takes texts without the escape character.  A text may look like the
rest of a sequence, but no sequence begins without that character.
-/
namespace CommandConsole

namespace Terminal

/-- The byte that every sequence begins with. -/
def escape : UInt8 := 0x1b

/-- The bytes that empty a screen. -/
def clearMark : Bytes := Text.encode "\x1b[2J\x1b[H"

/-- The bytes that switch colours on and off. -/
def colourMarks : List Bytes :=
  [Text.encode "\x1b[38;5;246m", Text.encode "\x1b[31m", Text.encode "\x1b[0m"]

/-- The bytes that are to be seen on a screen which has got a stream. -/
def screen (stream : Bytes) : Bytes := Text.without colourMarks (Text.afterLast clearMark stream)

/-- What may stand in front of a text and behind it: a sequence for a colour, or nothing. -/
def colours : List String := ["", echoSequence, errorSequence, resetSequence]

theorem clearMark_eq : clearMark = escape :: [0x5b, 0x32, 0x4a, 0x1b, 0x5b, 0x48] := rfl

theorem head?_of_mem_colourMarks : ∀ mark ∈ colourMarks, mark.head? = some escape := by decide

/-- A text without the escape character has no byte in it that a sequence begins with. -/
theorem escape_notMem_encode {text : String} (h : '\x1b' ∉ text.toList) :
    escape ∉ Text.encode text := Text.notMem_encode (c := '\x1b') (by decide) (by decide) h

/-! ## Parts of a line in front of a stream -/

theorem fromEach_text_append {text : String} (h : '\x1b' ∉ text.toList) (rest : Bytes) :
    Text.fromEach clearMark (Text.encode text ++ rest) = Text.fromEach clearMark rest := by
  rw [clearMark_eq, Text.fromEach_append_of_notMem (escape_notMem_encode h)]

theorem fromEach_colour_append {colour : String} (h : colour ∈ colours) (rest : Bytes) :
    Text.fromEach clearMark (Text.encode colour ++ rest) = Text.fromEach clearMark rest := by
  simp only [colours, List.mem_cons, List.not_mem_nil, or_false] at h
  -- a colour sequence differs from the clear sequence in its third byte
  rcases h with rfl | rfl | rfl | rfl <;> rfl

theorem without_text_append {text : String} (h : '\x1b' ∉ text.toList) (rest : Bytes) :
    Text.without colourMarks (Text.encode text ++ rest) =
      Text.encode text ++ Text.without colourMarks rest :=
  Text.without_append_of_notMem head?_of_mem_colourMarks (escape_notMem_encode h)

theorem without_colour_append {colour : String} (h : colour ∈ colours) (rest : Bytes) :
    Text.without colourMarks (Text.encode colour ++ rest) = Text.without colourMarks rest := by
  simp only [colours, List.mem_cons, List.not_mem_nil, or_false] at h
  rcases h with rfl | rfl | rfl | rfl <;> rfl

end Terminal

open Terminal (clearMark colourMarks colours screen)

namespace SinkCall

/-! ## The codes of calls -/

/-- The bytes that a terminal writes on a call. -/
def code : SinkCall → Bytes
  | print text => Text.encode (Terminal.render text .normal ++ "\n")
  | printStyled text style => Text.encode (Terminal.render text style ++ "\n")
  | clear => Text.encode Terminal.clearSequence

/-- The bytes that a terminal writes on calls. -/
def codes (calls : List SinkCall) : Bytes := calls.flatMap code

/-- No text that the calls print has the escape character in it. -/
def Plain (calls : List SinkCall) : Prop := ∀ text ∈ calls.filterMap text?, '\x1b' ∉ text.toList

variable {call : SinkCall} {calls : List SinkCall} {text : String}

/-- The code of a print is the text between two colours, and a line feed. -/
theorem exists_code_eq (h : call.text? = some text) :
    ∃ front ∈ colours, ∃ back ∈ colours, call.code = Text.encode front ++
      (Text.encode text ++ (Text.encode back ++ Text.encode "\n")) := by
  have hcoloured (front back : String) : Text.encode (front ++ text ++ back ++ "\n") =
      Text.encode front ++ (Text.encode text ++ (Text.encode back ++ Text.encode "\n")) := by
    rw [Text.encode_append, Text.encode_append, Text.encode_append, List.append_assoc,
      List.append_assoc]
  have hplain := Text.encode_append text "\n"
  cases call with
  | print own =>
    obtain rfl := Option.some.inj h
    exact ⟨"", by decide, "", by decide, hplain⟩
  | printStyled own style =>
    obtain rfl := Option.some.inj h
    cases style with
    | normal => exact ⟨"", by decide, "", by decide, hplain⟩
    | echo => exact ⟨Terminal.echoSequence, by decide, Terminal.resetSequence, by decide,
        hcoloured _ _⟩
    | error => exact ⟨Terminal.errorSequence, by decide, Terminal.resetSequence, by decide,
        hcoloured _ _⟩
  | clear => cases h

/-- No clear sequence begins in the code of a print. -/
theorem fromEach_code_append (h : call.text? = some text) (hplain : '\x1b' ∉ text.toList)
    (rest : Bytes) :
    Text.fromEach clearMark (call.code ++ rest) = Text.fromEach clearMark rest := by
  obtain ⟨front, hfront, back, hback, hcode⟩ := exists_code_eq h
  rw [hcode, List.append_assoc, List.append_assoc, List.append_assoc,
    Terminal.fromEach_colour_append hfront, Terminal.fromEach_text_append hplain,
    Terminal.fromEach_colour_append hback, Terminal.fromEach_text_append (by decide)]

/-- In the code of a clear one begins, at the start. -/
theorem fromEach_code_clear_append (rest : Bytes) :
    Text.fromEach clearMark (clear.code ++ rest) =
      (clear.code ++ rest) :: Text.fromEach clearMark rest := rfl

/-- Without its colours, the code of a print is its text and a line feed. -/
theorem without_code_append (h : call.text? = some text) (hplain : '\x1b' ∉ text.toList)
    (rest : Bytes) :
    Text.without colourMarks (call.code ++ rest) =
      Text.encode text ++ (Text.encode "\n" ++ Text.without colourMarks rest) := by
  obtain ⟨front, hfront, back, hback, hcode⟩ := exists_code_eq h
  rw [hcode, List.append_assoc, List.append_assoc, List.append_assoc,
    Terminal.without_colour_append hfront, Terminal.without_text_append hplain,
    Terminal.without_colour_append hback, Terminal.without_text_append (by decide)]

theorem Plain.mono {others : List SinkCall} (h : Plain calls) (hothers : others ⊆ calls) :
    Plain others := by
  intro text htext
  obtain ⟨call, hcall, heq⟩ := List.mem_filterMap.mp htext
  exact h text (List.mem_filterMap.mpr ⟨call, hothers hcall, heq⟩)

theorem Plain.head (h : Plain (call :: calls)) (htext : call.text? = some text) :
    '\x1b' ∉ text.toList :=
  h text (List.mem_filterMap.mpr ⟨call, List.mem_cons_self, htext⟩)

theorem Plain.tail (h : Plain (call :: calls)) : Plain calls := h.mono (List.subset_cons_self _ _)

/-- There are as many clear sequences in the stream as there are clears. -/
theorem length_fromEach_codes (h : Plain calls) :
    (Text.fromEach clearMark (codes calls)).length = calls.count .clear := by
  induction calls with
  | nil => rfl
  | cons call calls ih =>
    rw [codes, List.flatMap_cons, ← codes]
    cases htext : call.text? with
    | none =>
      obtain rfl := text?_eq_none_iff.mp htext
      rw [fromEach_code_clear_append, List.length_cons, ih h.tail, List.count_cons_self]
    | some text =>
      have hne : call ≠ .clear := fun hclear => by simp [hclear, text?] at htext
      rw [fromEach_code_append htext (h.head htext), ih h.tail, List.count_cons_of_ne hne]

/-- Without colours, the codes of prints are their texts, each with a line feed after it. -/
theorem without_codes (h : Plain calls) (hclear : .clear ∉ calls) :
    Text.without colourMarks (codes calls) = Text.encode (Text.ofLines (calls.filterMap text?)) := by
  induction calls with
  | nil => rfl
  | cons call calls ih =>
    obtain ⟨hne, hothers⟩ := not_or.mp (mt List.mem_cons.mpr hclear)
    cases htext : call.text? with
    | none => exact absurd (text?_eq_none_iff.mp htext).symm hne
    | some text =>
      rw [codes, List.flatMap_cons, ← codes, without_code_append htext (h.head htext),
        ih h.tail hothers, List.filterMap_cons, htext, Text.ofLines_cons, Text.encode_append,
        Text.encode_append, List.append_assoc]

/-- What stands in the stream after the last clear sequence was written since the last clear. -/
theorem afterLast_codes (h : Plain calls) :
    Text.afterLast clearMark (codes calls) = codes (sinceClear calls) := by
  have hnone : Text.fromEach clearMark (codes (sinceClear calls)) = [] := by
    rw [← List.length_eq_zero_iff, length_fromEach_codes (h.mono (sinceClear_subset calls)),
      List.count_eq_zero_of_not_mem (clear_notMem_sinceClear calls)]
  rcases eq_append_sinceClear calls with hall | ⟨before, hbefore⟩
  · rw [← hall] at hnone ⊢
    exact Text.afterLast_of_fromEach_eq_nil hnone
  · have hcodes : codes calls = codes before ++ (clearMark ++ codes (sinceClear calls)) := by
      refine (congrArg codes hbefore).trans ?_
      rw [codes, List.flatMap_append, List.flatMap_cons]
      rfl
    have hlast := fromEach_code_clear_append (codes (sinceClear calls))
    rw [hnone] at hlast
    rw [hcodes, Text.afterLast_append hlast]

end SinkCall

/-! ## The stream -/

namespace Terminal

theorem out_receive (t : Terminal) (call : SinkCall) :
    ∃ text, (Sink.receive t call).out = t.out.write text ∧ call.code = Text.encode text := by
  cases call with
  | print text | printStyled text style | clear => exact ⟨_, rfl, rfl⟩

/-- As long as its writer takes everything, a terminal writes the codes of its calls. -/
theorem written_receiveAll {t : Terminal} (h : t.out.room = none) (calls : List SinkCall) :
    (Sink.receiveAll t calls).out.written = t.out.written ++ SinkCall.codes calls := by
  induction calls generalizing t with
  | nil => exact (List.append_nil _).symm
  | cons call calls ih =>
    obtain ⟨text, hout, hcode⟩ := t.out_receive call
    have hroom : (Sink.receive t call).out.room = none := by
      rw [hout]
      exact Writer.room_write h text
    rw [Sink.receiveAll_cons, ih hroom, hout, Writer.written_write_of_room_eq_none h, ← hcode,
      List.append_assoc]
    rfl

/-- **The stream to a terminal shows its transcript.**  Print and clear in any order, with any
styles and with any texts that do not have the escape character in them, on a terminal whose writer
takes everything: what stands in the stream after the last clear sequence (all of the stream, if
there is none) is the content of the terminal once the colour sequences are deleted, and the stream
has one clear sequence for every clear. -/
theorem screen_eq_content (calls : List SinkCall)
    (h : ∀ text ∈ calls.filterMap SinkCall.text?, '\x1b' ∉ text.toList) :
    let t := Sink.receiveAll ({} : Terminal) calls
    screen t.out.written = Text.encode (Sink.content t) ∧
      (Text.fromEach clearMark t.out.written).length = calls.count .clear := by
  intro t
  have hplain : SinkCall.Plain calls := h
  have hwritten : t.out.written = SinkCall.codes calls := written_receiveAll rfl calls
  have hcontent : Sink.content t = Text.ofLines (SinkCall.standing calls) :=
    Sink.content_receiveAll (σ := Terminal) rfl calls
  refine ⟨?_, ?_⟩
  · rw [screen, hwritten, SinkCall.afterLast_codes hplain,
      SinkCall.without_codes (hplain.mono (SinkCall.sinceClear_subset calls))
        (SinkCall.clear_notMem_sinceClear calls), hcontent, SinkCall.standing]
  · rw [hwritten, SinkCall.length_fromEach_codes hplain]

/-- An echoed line that is cleared, and then a line in red, an empty one, and one that looks like the
rest of a clear sequence. -/
def repainted : List SinkCall :=
  [.printStyled "clear" .echo, .clear, .printStyled "né\n" .error, .print "", .print "[2J[0m"]

theorem screen_repainted :
    let t := Sink.receiveAll ({} : Terminal) repainted
    screen t.out.written = Text.encode "né\n\n\n[2J[0m\n" ∧
      (Text.fromEach clearMark t.out.written).length = 1 := by
  intro t
  obtain ⟨hscreen, hclears⟩ := screen_eq_content repainted (by decide)
  exact ⟨hscreen, hclears⟩

end Terminal
end CommandConsole
