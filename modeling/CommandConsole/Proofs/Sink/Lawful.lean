import CommandConsole.Terminal

/-!
# Sinks that show a transcript

Of a sink in general nothing is known: what it shows may have little to do with what was printed.  A
lawful sink shows what a transcript shows, the lines printed since it was last cleared, in plain
text and each followed by a line feed.  A transcript is lawful, and so is a terminal, whatever its
writer takes: colours go to the writer only.
-/
namespace CommandConsole

/-- A sink that shows the lines printed since it was last cleared. -/
class LawfulSink (σ : Type) [Sink σ] : Prop where
  content_print : ∀ (sink : σ) (text : String),
    Sink.content (Sink.print sink text) = Sink.content sink ++ text ++ "\n"
  content_printStyled : ∀ (sink : σ) (text : String) (style : Style),
    Sink.content (Sink.printStyled sink text style) = Sink.content sink ++ text ++ "\n"
  content_clear : ∀ sink : σ, Sink.content (Sink.clear sink) = ""

instance : LawfulSink Transcript where
  content_print _ _ := rfl
  content_printStyled _ _ _ := rfl
  content_clear _ := rfl

instance : LawfulSink Terminal where
  content_print _ _ := rfl
  content_printStyled _ _ _ := rfl
  content_clear _ := rfl

end CommandConsole
