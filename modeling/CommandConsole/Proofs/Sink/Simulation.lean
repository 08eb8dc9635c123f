import CommandConsole.Console.Operation

/-!
# Sinks in step

Two sinks of different kinds may hold different things and still look alike: a relation between
their states keeps them in step if no call breaks it and sinks so related show the same. Nothing
that is done through the sink interface can tell such sinks apart. An action on the one side and on
the other has the same result and leaves the same world (`Action.run_inStep`), an operation on a
console leads to the same dispatch (`Console.perform_inStep`), and whoever looks at the two consoles
after every operation sees the same (`Console.observations_inStep`).
-/
namespace CommandConsole

variable {α σ τ η : Type} [Sink σ] [Sink τ]

/-- Sinks related by `R` show the same, and every call keeps them related. -/
structure Sink.InStep (R : σ → τ → Prop) : Prop where
  content : ∀ {s : σ} {t : τ}, R s t → Sink.content s = Sink.content t
  print : ∀ {s : σ} {t : τ} (text : String), R s t → R (Sink.print s text) (Sink.print t text)
  printStyled : ∀ {s : σ} {t : τ} (text : String) (style : Style), R s t →
    R (Sink.printStyled s text style) (Sink.printStyled t text style)
  clear : ∀ {s : σ} {t : τ}, R s t → R (Sink.clear s) (Sink.clear t)

/-- An action cannot tell sinks in step apart: it comes to the same result in the same world, and
leaves them in step. -/
theorem Action.run_inStep {R : σ → τ → Prop} (hR : Sink.InStep R) (a : Action α) {s : σ} {t : τ}
    (h : R s t) (world : World) :
    (a.run s world).1 = (a.run t world).1 ∧
      R (a.run s world).2.1 (a.run t world).2.1 ∧
      (a.run s world).2.2 = (a.run t world).2.2 := by
  induction a generalizing s t world with
  | done result => exact ⟨rfl, h, rfl⟩
  | print text next ih => exact ih (hR.print text h) world
  | printStyled text style next ih => exact ih (hR.printStyled text style h) world
  | clear next ih => exact ih (hR.clear h) world
  | content next ih =>
    -- the only place where an action looks at the sink
    simp only [run]
    rw [hR.content h]
    exact ih _ h world
  | write path text next ih => exact ih _ h _
  | now next ih => exact ih _ h _
  | log event next ih => exact ih h _

namespace Console

/-- Two consoles that differ in their sinks only, which `R` relates. -/
structure InStep (R : σ → τ → Prop) (c : Console σ η) (d : Console τ η) : Prop where
  registry : c.registry = d.registry
  hooks : c.hooks = d.hooks
  world : c.world = d.world
  isOpen : c.isOpen = d.isOpen
  sink : R c.sink d.sink

variable {R : σ → τ → Prop} {c : Console σ η} {d : Console τ η}

/-- A line of input comes to the same end on consoles in step. -/
theorem handleInput_inStep (hR : Sink.InStep R) (h : InStep R c d) (raw : String) :
    (c.handleInput raw).1 = (d.handleInput raw).1 ∧
      InStep R (c.handleInput raw).2 (d.handleInput raw).2 := by
  obtain ⟨hresult, hsink, hworld⟩ :=
    Action.run_inStep hR (d.registry.dispatch raw) h.sink d.world
  refine ⟨?_, ?_, ?_, ?_, ?_, ?_⟩
  · rw [dispatch_handleInput, dispatch_handleInput, h.registry, h.world, hresult]
  · rw [registry_handleInput, registry_handleInput, h.registry]
  · rw [hooks_handleInput, hooks_handleInput, h.hooks]
  · rw [world_handleInput, world_handleInput, h.registry, h.world, hworld]
  · rw [isOpen_handleInput, isOpen_handleInput, h.isOpen]
  · rw [sink_handleInput, sink_handleInput, h.registry, h.world]
    exact hsink

variable [Hooks η]

omit [Sink σ] [Sink τ] in
theorem reveal_inStep (h : InStep R c d) : InStep R c.reveal d.reveal where
  registry := h.registry
  hooks := by simp only [reveal, h.hooks, h.world]
  world := by simp only [reveal, h.hooks, h.world]
  isOpen := rfl
  sink := h.sink

omit [Sink σ] [Sink τ] in
theorem hide_inStep (h : InStep R c d) : InStep R c.hide d.hide where
  registry := h.registry
  hooks := by simp only [hide, h.hooks, h.world]
  world := by simp only [hide, h.hooks, h.world]
  isOpen := rfl
  sink := h.sink

omit [Sink σ] [Sink τ] in
theorem toggle_inStep (h : InStep R c d) : InStep R c.toggle d.toggle := by
  unfold toggle
  rw [h.isOpen]
  split
  · exact hide_inStep h
  · exact reveal_inStep h

/-- An operation tells the same on consoles in step, and leaves them in step. -/
theorem perform_inStep (hR : Sink.InStep R) (h : InStep R c d) (op : Operation) :
    (c.perform op).1 = (d.perform op).1 ∧ InStep R (c.perform op).2 (d.perform op).2 := by
  cases op with
  | reveal => exact ⟨rfl, reveal_inStep h⟩
  | hide => exact ⟨rfl, hide_inStep h⟩
  | toggle => exact ⟨rfl, toggle_inStep h⟩
  | input raw =>
    obtain ⟨hdispatch, hafter⟩ := handleInput_inStep hR h raw
    exact ⟨congrArg some hdispatch, hafter⟩
  | print text | sinkPrint text => exact ⟨rfl, { h with sink := hR.print text h.sink }⟩
  | clear | sinkClear => exact ⟨rfl, { h with sink := hR.clear h.sink }⟩
  | sinkPrintStyled text style =>
    exact ⟨rfl, { h with sink := hR.printStyled text style h.sink }⟩

/-- Consoles in step are in step after any course of events. -/
theorem performAll_inStep (hR : Sink.InStep R) (h : InStep R c d) (ops : List Operation) :
    InStep R (c.performAll ops).2 (d.performAll ops).2 := by
  induction ops generalizing c d with
  | nil => exact h
  | cons op ops ih => exact ih (perform_inStep hR h op).2

/-! ## What is seen from outside -/

/-- What can be seen of a console right after an operation. -/
structure Observation (η : Type) where
  /-- What became of the line, if the operation was one of input. -/
  dispatch : Option Dispatch
  content : String
  isOpen : Bool
  /-- The host's hooks, with all that the calls to them have left there. -/
  hooks : η
  /-- The files, the clock and the log. -/
  world : World

/-- What is seen of a console that has just performed an operation. -/
def observe (after : Option Dispatch × Console σ η) : Observation η where
  dispatch := after.1
  content := after.2.content
  isOpen := after.2.isOpen
  hooks := after.2.hooks
  world := after.2.world

/-- What is seen after each of some operations. -/
def observations (c : Console σ η) : List Operation → List (Observation η)
  | [] => []
  | op :: ops => observe (c.perform op) :: observations (c.perform op).2 ops

/-- **Consoles in step look alike after every operation.** -/
theorem observations_inStep (hR : Sink.InStep R) (h : InStep R c d) (ops : List Operation) :
    c.observations ops = d.observations ops := by
  induction ops generalizing c d with
  | nil => rfl
  | cons op ops ih =>
    obtain ⟨hdispatch, hafter⟩ := perform_inStep hR h op
    have hseen : observe (c.perform op) = observe (d.perform op) := by
      simp only [observe, content, hdispatch, hR.content hafter.sink, hafter.isOpen,
        hafter.hooks, hafter.world]
    simp only [observations, hseen, ih hafter]

end Console
end CommandConsole
