import CommandConsole.Sink
import CommandConsole.World

/-!
# Actions

What a command does is a tree: at each node it asks for one thing, and it goes on with the answer
it gets. An action can print, clear, look at the display, write a file, read the clock and log an
event, and nothing else. `run` carries an action out on a sink in a world.
-/
namespace CommandConsole

/-- A course of action that ends with a result. -/
inductive Action (α : Type) : Type where
  | done (result : α)
  | print (text : String) (next : Action α)
  | printStyled (text : String) (style : Style) (next : Action α)
  | clear (next : Action α)
  /-- Goes on with everything that the display shows. -/
  | content (next : String → Action α)
  /-- Writes a text to a file and goes on with whether that succeeded. -/
  | write (path text : String) (next : Except FileError Unit → Action α)
  /-- Goes on with a reading of the clock. -/
  | now (next : DateTime → Action α)
  | log (event : Event) (next : Action α)

namespace Action

variable {α β σ : Type}

/-- One action after the other; the second is chosen by the result of the first. -/
def bind : Action α → (α → Action β) → Action β
  | done a, f => f a
  | print text next, f => print text (next.bind f)
  | printStyled text style next, f => printStyled text style (next.bind f)
  | clear next, f => clear (next.bind f)
  | content next, f => content fun shown => (next shown).bind f
  | write path text next, f => write path text fun answer => (next answer).bind f
  | now next, f => now fun moment => (next moment).bind f
  | log event next, f => log event (next.bind f)

instance : Monad Action where
  pure := done
  bind := bind

/-- Carries an action out. -/
def run [Sink σ] : Action α → σ → World → α × σ × World
  | done a, sink, world => (a, sink, world)
  | print text next, sink, world => next.run (Sink.print sink text) world
  | printStyled text style next, sink, world => next.run (Sink.printStyled sink text style) world
  | clear next, sink, world => next.run (Sink.clear sink) world
  | content next, sink, world => (next (Sink.content sink)).run sink world
  | write path text next, sink, world =>
    let after := world.write path text
    (next after.1).run sink after.2
  | now next, sink, world =>
    let after := world.now
    (next after.1).run sink after.2
  | log event next, sink, world => next.run sink (world.record event)

/-- Prints a line. -/
def say (text : String) : Action Unit := print text (done ())

/-- Prints a line as what it is. -/
def sayStyled (text : String) (style : Style) : Action Unit := printStyled text style (done ())

/-- Takes everything off the display. -/
def wipe : Action Unit := clear (done ())

/-- Everything that the display shows. -/
def shown : Action String := content done

/-- Writes a text to a file. -/
def save (path text : String) : Action (Except FileError Unit) := write path text done

/-- A reading of the clock. -/
def moment : Action DateTime := now done

/-- Logs an event. -/
def tell (event : Event) : Action Unit := log event (done ())

@[simp] theorem bind_eq (a : Action α) (f : α → Action β) : a >>= f = a.bind f := rfl

theorem bind_assoc {γ : Type} (a : Action α) (f : α → Action β) (g : β → Action γ) :
    (a.bind f).bind g = a.bind fun result => (f result).bind g := by
  induction a with
  | done => rfl
  | print text _ ih => exact congrArg (print text) ih
  | printStyled text style _ ih => exact congrArg (printStyled text style) ih
  | clear _ ih => exact congrArg clear ih
  | content _ ih => exact congrArg content (funext ih)
  | write path text _ ih => exact congrArg (write path text) (funext ih)
  | now _ ih => exact congrArg now (funext ih)
  | log event _ ih => exact congrArg (log event) ih

/-- To carry out one action after the other is to carry out the second where the first ended. -/
theorem run_bind [Sink σ] (a : Action α) (f : α → Action β) (sink : σ) (world : World) :
    (a.bind f).run sink world =
      (f (a.run sink world).1).run (a.run sink world).2.1 (a.run sink world).2.2 := by
  induction a generalizing sink world with
  | done => rfl
  | print _ _ ih => exact ih _ _
  | printStyled _ _ _ ih => exact ih _ _
  | clear _ ih => exact ih _ _
  | content _ ih => exact ih _ _ _
  | write _ _ _ ih => exact ih _ _ _
  | now _ ih => exact ih _ _ _
  | log _ _ ih => exact ih _ _

end Action
end CommandConsole
