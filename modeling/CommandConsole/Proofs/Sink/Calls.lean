import CommandConsole.Action

/-!
# The calls that a sink receives

What an action does to a sink is a list of calls, read off the action while it runs. The list is all
there is to it: the sink ends where these calls, made one after the other, take it
(`receiveAll_calls`), and two actions in a row make the calls of the first and then those of the
second (`calls_bind`).
-/
namespace CommandConsole

variable {α β σ : Type}

/-- A call that changes what a sink shows. -/
inductive SinkCall
  | print (text : String)
  | printStyled (text : String) (style : Style)
  | clear
  deriving DecidableEq, Repr

variable [Sink σ]

/-- The sink after a call. -/
def Sink.receive (sink : σ) : SinkCall → σ
  | .print text => Sink.print sink text
  | .printStyled text style => Sink.printStyled sink text style
  | .clear => Sink.clear sink

/-- The sink after some calls, one after the other. -/
def Sink.receiveAll (sink : σ) (calls : List SinkCall) : σ := calls.foldl Sink.receive sink

@[simp] theorem Sink.receiveAll_nil (sink : σ) : Sink.receiveAll sink [] = sink := rfl

@[simp] theorem Sink.receiveAll_cons (sink : σ) (call : SinkCall) (calls : List SinkCall) :
    Sink.receiveAll sink (call :: calls) = Sink.receiveAll (Sink.receive sink call) calls := rfl

@[simp] theorem Sink.receiveAll_append (sink : σ) (first second : List SinkCall) :
    Sink.receiveAll sink (first ++ second) =
      Sink.receiveAll (Sink.receiveAll sink first) second :=
  List.foldl_append

namespace Action

/-- The calls that an action makes on a sink while it is carried out. -/
def calls : Action α → σ → World → List SinkCall
  | done _, _, _ => []
  | print text next, sink, world => .print text :: next.calls (Sink.print sink text) world
  | printStyled text style next, sink, world =>
    .printStyled text style :: next.calls (Sink.printStyled sink text style) world
  | clear next, sink, world => .clear :: next.calls (Sink.clear sink) world
  | content next, sink, world => (next (Sink.content sink)).calls sink world
  | write path text next, sink, world =>
    let after := world.write path text
    (next after.1).calls sink after.2
  | now next, sink, world =>
    let after := world.now
    (next after.1).calls sink after.2
  | log event next, sink, world => next.calls sink (world.record event)

/-- An action takes a sink exactly where its calls take it. -/
theorem receiveAll_calls (a : Action α) (sink : σ) (world : World) :
    Sink.receiveAll sink (a.calls sink world) = (a.run sink world).2.1 := by
  induction a generalizing sink world with
  | done => rfl
  | print _ _ ih => exact ih _ _
  | printStyled _ _ _ ih => exact ih _ _
  | clear _ ih => exact ih _ _
  | content _ ih => exact ih _ _ _
  | write _ _ _ ih => exact ih _ _ _
  | now _ ih => exact ih _ _ _
  | log _ _ ih => exact ih _ _

/-- The calls of one action after the other are those of the first, then those of the second. -/
theorem calls_bind (a : Action α) (f : α → Action β) (sink : σ) (world : World) :
    (a.bind f).calls sink world =
      a.calls sink world ++
        (f (a.run sink world).1).calls (a.run sink world).2.1 (a.run sink world).2.2 := by
  induction a generalizing sink world with
  | done => rfl
  | print text _ ih => exact congrArg (SinkCall.print text :: ·) (ih _ _)
  | printStyled text style _ ih => exact congrArg (SinkCall.printStyled text style :: ·) (ih _ _)
  | clear _ ih => exact congrArg (SinkCall.clear :: ·) (ih _ _)
  | content _ ih => exact ih _ _ _
  | write _ _ _ ih => exact ih _ _ _
  | now _ ih => exact ih _ _ _
  | log _ _ ih => exact ih _ _

end Action
end CommandConsole
