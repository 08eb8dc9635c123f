import CommandConsole.Builtin
import CommandConsole.Transcript
import CommandConsole.Proofs.Dispatch.LetterCase
import CommandConsole.Proofs.Line.FirstWord

/-!
# The text that `echo` gives back

`echo` gets its text as parameters and joins them by single spaces.  What stands after the first
word of a line and a space is cut at spaces only and comes out of the join as it was, down to spaces
at its start and runs of them, which are empty parameters (`Line.intercalate_parameters_parse`).
Only its end is lost, since the line was trimmed before it was cut; if all of the text is white
space, there are no parameters, and nothing is all that is left of it.
-/
namespace CommandConsole

namespace Line

/-- The pieces of a text between spaces, joined by spaces again, are the text. -/
theorem intercalate_map_splitOn (text : String) :
    " ".intercalate ((text.toList.splitOn ' ').map String.ofList) = text := by
  have hinverse : String.toList ∘ String.ofList = id := funext fun _ => String.toList_ofList
  have hspace : " ".toList = [' '] := rfl
  rw [← String.toList_inj, String.toList_intercalate, List.map_map, hinverse, List.map_id, hspace,
    List.intercalate_splitOn]

/-- What follows a word and a space is cut into the parameters, up to white space at its end. -/
theorem intercalate_parameters_parse {word s text : String} (hword : CanLead word)
    (htrimmed : Text.IsTrimmed word) (h : Text.TrimsEndTo s text) :
    (parse (word ++ " " ++ s)).command = word ∧
      " ".intercalate (parse (word ++ " " ++ s)).parameters = text := by
  obtain ⟨hfinish, after, hafter, hs⟩ := h
  by_cases hempty : text = ""
  · -- nothing but white space follows the word, and all of it is trimmed off
    have htail : Text.AllBlank (" " ++ s) := by
      have hspace : Text.AllBlank " " := by decide
      rw [hs, hempty, String.empty_append]
      exact hspace.append hafter
    rw [String.append_assoc, parse_append_of_allBlank hword htail, hempty]
    exact ⟨Text.trim_eq_self_iff.mpr htrimmed, rfl⟩
  · have hpieces : (text.toList.splitOn ' ').map String.ofList ≠ [] := by
      rw [Ne, List.map_eq_nil_iff]
      exact List.splitOn_ne_nil ' ' _
    have hparse : parse (word ++ " " ++ s) =
        ⟨word, (text.toList.splitOn ' ').map String.ofList⟩ := by
      refine ext_tokens (tokens_parse_eq_iff.mpr ⟨List.cons_ne_nil _ _, ?_, ?_⟩)
      · refine List.forall_mem_cons.mpr ⟨hword.noSpace, fun token htoken => ?_⟩
        obtain ⟨piece, hpiece, rfl⟩ := List.mem_map.mp htoken
        rw [String.toList_ofList]
        exact Text.notMem_of_mem_splitOn hpiece
      · have hjoin : " ".intercalate (word :: (text.toList.splitOn ' ').map String.ofList) =
            word ++ " " ++ text := by
          rw [String.intercalate_cons_of_ne_nil hpieces, intercalate_map_splitOn]
        rw [tokens, hjoin]
        refine ⟨Text.isTrimmed_append htrimmed.start hfinish hword.ne_empty hempty " ", "", after,
          Text.allBlank_empty, hafter, ?_⟩
        rw [hs, String.empty_append, String.append_assoc, String.append_assoc, String.append_assoc]
    rw [hparse]
    exact ⟨rfl, intercalate_map_splitOn text⟩

end Line

namespace Console

variable {σ η : Type} [Sink σ] {c : Console σ η}

/-- A line that calls `echo` is executed, and prints its parameters. -/
theorem handled_echo {raw : String}
    (hecho : c.registry.resolve (Line.parse raw).command = some Builtin.echo)
    (hblank : Text.trim raw ≠ "") :
    Handled c raw .executed
      [.printStyled raw .echo, .print (" ".intercalate (Line.parse raw).parameters)] := by
  obtain ⟨i, hfirst⟩ := Registry.resolve_eq_some_iff.mp hecho
  exact Handled.executed i Builtin.echo hblank hfirst rfl

/-- **`echo` gives its text back.**  Where the name `echo` belongs to the built-in command, a line
that spells it with any capitals and goes on with a space and a text is executed.  The sink gets two
prints, the line as it was typed and then the text, from which nothing is missing but the white
space at its end. -/
theorem echo_gives_text_back (hecho : c.registry.resolve "echo" = some Builtin.echo) {e : String}
    (he : e.toLower = "echo") (s : String) :
    ∃ text, Text.TrimsEndTo s text ∧
      (c.handleInput (e ++ " " ++ s)).1 = .executed ∧
      c.inputCalls (e ++ " " ++ s) = [.printStyled (e ++ " " ++ s) .echo, .print text] ∧
      (c.handleInput (e ++ " " ++ s)).2.sink =
        Sink.print (Sink.printStyled c.sink (e ++ " " ++ s) .echo) text := by
  have hname : "echo".toLower = "echo" := Text.toLower_eq_iff.mpr (by decide)
  have hlower := Text.lowercase_eq_of_toLower_eq (hname.trans he.symm)
  have hplain : Text.IsTrimmed "echo" := by decide
  have hlead : Line.CanLead e :=
    (Line.canLead_of_start (by decide) (by decide) hplain.start).of_lowercase_eq hlower
  have htrimmed : Text.IsTrimmed e := by
    rw [← Text.isTrimmed_toLower_iff, he]
    exact hplain
  obtain ⟨text, htext⟩ := Text.exists_trimsEndTo s
  obtain ⟨hcommand, hjoin⟩ := Line.intercalate_parameters_parse hlead htrimmed htext
  have hblank : Text.trim (e ++ " " ++ s) ≠ "" := by
    rw [Ne, ← Line.command_parse_eq_empty_iff, hcommand]
    exact hlead.ne_empty
  have hresolve : c.registry.resolve (Line.parse (e ++ " " ++ s)).command = some Builtin.echo := by
    rw [hcommand, ← c.registry.resolve_congr hlower, hecho]
  obtain ⟨hexecuted, hcalls⟩ := (handled_echo hresolve hblank).sound
  rw [hjoin] at hcalls
  refine ⟨text, htext, hexecuted, hcalls, ?_⟩
  rw [sink_handleInput, ← Action.receiveAll_calls]
  exact congrArg (Sink.receiveAll c.sink) hcalls

/-- A console with the built-in commands. -/
def parrot : Console Transcript Unit where
  registry := (Registry.registerAll {} (Builtin.all ".")).1
  sink := {}
  hooks := ()
  world := { files := { nodes := [] }, clock := fun _ => .epoch }

/-- A tab and spaces within the text are kept, a no-break space at its end is not. -/
theorem echo_of_paddedText :
    (parrot.handleInput ("eChO" ++ " " ++ "\t  a  b \u00a0\t")).1 = .executed ∧
      parrot.inputCalls ("eChO" ++ " " ++ "\t  a  b \u00a0\t") =
        [.printStyled "eChO \t  a  b \u00a0\t" .echo, .print "\t  a  b"] ∧
      (parrot.handleInput ("ECHO" ++ " " ++ " \u3000")).2.content = "ECHO  \u3000\n\n" := by
  have hcase : "eChO".toLower = "echo" := Text.toLower_eq_iff.mpr (by decide)
  have hcapitals : "ECHO".toLower = "echo" := Text.toLower_eq_iff.mpr (by decide)
  obtain ⟨text, htext, hexecuted, hcalls, -⟩ :=
    echo_gives_text_back (c := parrot) rfl hcase "\t  a  b \u00a0\t"
  have hkept : Text.TrimsEndTo "\t  a  b \u00a0\t" "\t  a  b" := by
    refine ⟨fun c hc => ?_, " \u00a0\t", by decide, by decide⟩
    obtain rfl : 'b' = c := Option.some.inj hc
    rfl
  obtain rfl := hkept.unique htext
  obtain ⟨none, hnone, -, -, hsink⟩ := echo_gives_text_back (c := parrot) rfl hcapitals " \u3000"
  have hempty : Text.TrimsEndTo " \u3000" "" :=
    ⟨fun c hc => absurd hc (by simp), " \u3000", by decide, by decide⟩
  obtain rfl := hempty.unique hnone
  refine ⟨hexecuted, hcalls, ?_⟩
  rw [content, hsink]
  rfl

end Console
end CommandConsole
