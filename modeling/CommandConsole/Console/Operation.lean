import CommandConsole.Console

/-!
# Operations on a console

Everything that a host may do with a console and its sink, as data, so that a course of events is a
list of operations and can be carried out on consoles over different sinks.
-/
namespace CommandConsole

/-- Something that a host does with a console. -/
inductive Operation
  | reveal
  | hide
  | toggle
  | print (text : String)
  | clear
  /-- Handles a raw line. -/
  | input (raw : String)
  /-- Prints to the sink directly. -/
  | sinkPrint (text : String)
  | sinkPrintStyled (text : String) (style : Style)
  | sinkClear
  deriving DecidableEq, Repr

namespace Console

variable {σ η : Type} [Sink σ] [Hooks η]

/-- Carries out an operation; a line of input also tells what became of it. -/
def perform (c : Console σ η) : Operation → Option Dispatch × Console σ η
  | .reveal => (none, c.reveal)
  | .hide => (none, c.hide)
  | .toggle => (none, c.toggle)
  | .print text => (none, c.print text)
  | .clear => (none, c.clear)
  | .input raw =>
    let after := c.handleInput raw
    (some after.1, after.2)
  | .sinkPrint text => (none, { c with sink := Sink.print c.sink text })
  | .sinkPrintStyled text style => (none, { c with sink := Sink.printStyled c.sink text style })
  | .sinkClear => (none, { c with sink := Sink.clear c.sink })

/-- Carries out operations one after the other. -/
def performAll (c : Console σ η) : List Operation → List (Option Dispatch) × Console σ η
  | [] => ([], c)
  | op :: ops =>
    let first := c.perform op
    let later := performAll first.2 ops
    (first.1 :: later.1, later.2)

@[simp] theorem performAll_cons (c : Console σ η) (op : Operation) (ops : List Operation) :
    c.performAll (op :: ops) =
      ((c.perform op).1 :: ((c.perform op).2.performAll ops).1,
        ((c.perform op).2.performAll ops).2) := rfl

@[simp] theorem registry_perform (c : Console σ η) (op : Operation) :
    (c.perform op).2.registry = c.registry := by
  cases op with
  | toggle =>
    show c.toggle.registry = c.registry
    unfold toggle
    split <;> rfl
  | input raw => exact registry_handleInput c raw
  | reveal | hide | print _ | clear | sinkPrint _ | sinkPrintStyled _ _ | sinkClear => rfl

@[simp] theorem registry_performAll (c : Console σ η) (ops : List Operation) :
    (c.performAll ops).2.registry = c.registry := by
  induction ops generalizing c with
  | nil => rfl
  | cons op ops ih => rw [performAll_cons, ih, registry_perform]

end Console
end CommandConsole
