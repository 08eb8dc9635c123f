import CommandConsole.Style

/-!
# Display sinks

A console shows nothing itself. All that it prints goes to a sink, which the host provides; whether
lines are kept, styled or sent somewhere else is up to the sink.
-/
namespace CommandConsole

/-- Where a console prints. A sink that cannot style lines prints them plain. -/
class Sink (σ : Type) where
  /-- Shows a line of text. -/
  print : σ → String → σ
  /-- Shows a line of text as what it is. -/
  printStyled : σ → String → Style → σ := fun sink text _ => print sink text
  /-- Takes everything off the display. -/
  clear : σ → σ
  /-- Everything on the display. -/
  content : σ → String

end CommandConsole
