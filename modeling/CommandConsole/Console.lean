import CommandConsole.Dispatch

/-!
# The console

A console owns the commands, a sink and the flag that tells whether it is open. Opening and closing
it calls a hook of the host, once each time, even if nothing changes. A line is handled whether the
console is open or not: to keep lines away from a closed console is up to the host.
-/
namespace CommandConsole

/-- What a host does when the console is shown or hidden; by default nothing. -/
class Hooks (η : Type) where
  /-- Called when the console has become open. -/
  onShow : η → World → η × World := fun hooks world => (hooks, world)
  /-- Called when the console has become closed. -/
  onHide : η → World → η × World := fun hooks world => (hooks, world)

/-- No hooks. -/
instance : Hooks Unit where

/-- A call of a hook. -/
inductive HookCall
  | onShow
  | onHide
  deriving DecidableEq, Repr

/-- Hooks that keep the calls made to them. -/
structure HookCalls where
  calls : List HookCall := []
  deriving DecidableEq, Repr

instance : Hooks HookCalls where
  onShow hooks world := (⟨hooks.calls ++ [.onShow]⟩, world)
  onHide hooks world := (⟨hooks.calls ++ [.onHide]⟩, world)

/-- Hooks that log the calls made to them. -/
structure HookLog where
  deriving DecidableEq, Repr

instance : Hooks HookLog where
  onShow hooks world := (hooks, world.record .shown)
  onHide hooks world := (hooks, world.record .hidden)

/-- A console with a sink of type `σ` and hooks of type `η`. -/
structure Console (σ η : Type) where
  registry : Registry
  sink : σ
  hooks : η
  world : World
  isOpen : Bool := false

namespace Console

variable {σ η : Type}

section Visibility

variable [Hooks η]

/-- Opens the console. -/
def reveal (c : Console σ η) : Console σ η :=
  let after := Hooks.onShow c.hooks c.world
  { c with isOpen := true, hooks := after.1, world := after.2 }

/-- Closes the console. -/
def hide (c : Console σ η) : Console σ η :=
  let after := Hooks.onHide c.hooks c.world
  { c with isOpen := false, hooks := after.1, world := after.2 }

/-- Closes an open console and opens a closed one. -/
def toggle (c : Console σ η) : Console σ η := if c.isOpen then c.hide else c.reveal

@[simp] theorem isOpen_reveal (c : Console σ η) : c.reveal.isOpen = true := rfl

@[simp] theorem isOpen_hide (c : Console σ η) : c.hide.isOpen = false := rfl

@[simp] theorem isOpen_toggle (c : Console σ η) : c.toggle.isOpen = !c.isOpen := by
  cases h : c.isOpen <;> simp [toggle, h]

end Visibility

section Display

variable [Sink σ]

/-- Prints a line. -/
def print (c : Console σ η) (text : String) : Console σ η :=
  { c with sink := Sink.print c.sink text }

/-- Takes everything off the display. -/
def clear (c : Console σ η) : Console σ η := { c with sink := Sink.clear c.sink }

/-- Everything on the display. -/
def content (c : Console σ η) : String := Sink.content c.sink

/-- Handles a raw line of input. -/
def handleInput (c : Console σ η) (raw : String) : Dispatch × Console σ η :=
  let after := (c.registry.dispatch raw).run c.sink c.world
  (after.1, { c with sink := after.2.1, world := after.2.2 })

theorem dispatch_handleInput (c : Console σ η) (raw : String) :
    (c.handleInput raw).1 = ((c.registry.dispatch raw).run c.sink c.world).1 := by
  simp only [handleInput]

theorem sink_handleInput (c : Console σ η) (raw : String) :
    (c.handleInput raw).2.sink = ((c.registry.dispatch raw).run c.sink c.world).2.1 := by
  simp only [handleInput]

theorem world_handleInput (c : Console σ η) (raw : String) :
    (c.handleInput raw).2.world = ((c.registry.dispatch raw).run c.sink c.world).2.2 := by
  simp only [handleInput]

@[simp] theorem isOpen_handleInput (c : Console σ η) (raw : String) :
    (c.handleInput raw).2.isOpen = c.isOpen := by simp only [handleInput]

@[simp] theorem hooks_handleInput (c : Console σ η) (raw : String) :
    (c.handleInput raw).2.hooks = c.hooks := by simp only [handleInput]

@[simp] theorem registry_handleInput (c : Console σ η) (raw : String) :
    (c.handleInput raw).2.registry = c.registry := by simp only [handleInput]

end Display

end Console
end CommandConsole
