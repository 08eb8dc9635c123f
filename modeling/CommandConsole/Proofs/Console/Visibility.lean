import CommandConsole.Console.Operation
import CommandConsole.Transcript
import Mathlib.Data.List.Induction

/-!
# A console as seen by its hooks

The open flag and the calls to the hooks are two records of the same course of events.  Each of the
operations that open or close a console calls one hook, the one for the state that the operation
leaves behind (`calls_perform`); nothing else calls a hook or touches the flag, a command least of
all, since an action cannot get at either.  So both the flag after a run and the calls made on the
way can be computed from the operations alone (`isOpen_performAll`, `calls_performAll`), and what
the two records have to do with each other is a matter of these computations: the last call always
tells what the flag is (`foldl_visibility_eq`).
-/
namespace CommandConsole

/-- The hook that is called when the console was left open, or closed. -/
def HookCall.of (isOpen : Bool) : HookCall := if isOpen then .onShow else .onHide

namespace Operation

/-- The operation opens or closes the console. -/
def changesVisibility : Operation → Bool
  | reveal | hide | toggle => true
  | print _ | clear | input _ | sinkPrint _ | sinkPrintStyled _ _ | sinkClear => false

/-- Whether a console is open after an operation. -/
def visibility (isOpen : Bool) : Operation → Bool
  | reveal => true
  | hide => false
  | toggle => !isOpen
  | print _ | clear | input _ | sinkPrint _ | sinkPrintStyled _ _ | sinkClear => isOpen

/-- The call that an operation makes to the hooks of a console, if it makes one. -/
def hookCall? (isOpen : Bool) (op : Operation) : Option HookCall :=
  if op.changesVisibility then some (.of (op.visibility isOpen)) else none

/-- The calls that operations make one after the other. -/
def hookCalls (isOpen : Bool) : List Operation → List HookCall
  | [] => []
  | op :: ops => (op.hookCall? isOpen).toList ++ hookCalls (op.visibility isOpen) ops

theorem hookCall?_of_changes {op : Operation} (h : op.changesVisibility = true) (isOpen : Bool) :
    op.hookCall? isOpen = some (.of (op.visibility isOpen)) := if_pos h

/-- An operation that calls no hook leaves the flag as it is. -/
theorem visibility_of_hookCall?_eq_none {op : Operation} {isOpen : Bool}
    (h : op.hookCall? isOpen = none) : op.visibility isOpen = isOpen := by
  cases op with
  | reveal | hide | toggle => cases h
  | print _ | clear | input _ | sinkPrint _ | sinkPrintStyled _ _ | sinkClear => rfl

theorem hookCalls_append (isOpen : Bool) (first second : List Operation) :
    hookCalls isOpen (first ++ second) =
      hookCalls isOpen first ++ hookCalls (first.foldl visibility isOpen) second := by
  induction first generalizing isOpen with
  | nil => rfl
  | cons op ops ih =>
    rw [List.cons_append, hookCalls, ih, hookCalls, List.foldl_cons, List.append_assoc]

theorem hookCalls_concat (isOpen : Bool) (ops : List Operation) (op : Operation) :
    hookCalls isOpen (ops ++ [op]) =
      hookCalls isOpen ops ++ (op.hookCall? (ops.foldl visibility isOpen)).toList := by
  rw [hookCalls_append, hookCalls, hookCalls, List.append_nil]

/-- There is one call for each operation that opens or closes the console. -/
theorem length_hookCalls (isOpen : Bool) (ops : List Operation) :
    (hookCalls isOpen ops).length = ops.countP changesVisibility := by
  induction ops generalizing isOpen with
  | nil => rfl
  | cons op ops ih =>
    rw [hookCalls, List.length_append, ih, List.countP_cons, hookCall?]
    split
    · exact Nat.add_comm _ _
    · exact Nat.zero_add _

/-- The call of an operation is found after those of the operations before it. -/
theorem getElem?_hookCalls (isOpen : Bool) (before : List Operation) {op : Operation}
    (hop : op.changesVisibility = true) (after : List Operation) :
    (hookCalls isOpen (before ++ op :: after))[before.countP changesVisibility]? =
      some (.of ((before ++ [op]).foldl visibility isOpen)) := by
  have hlength := length_hookCalls isOpen before
  rw [hookCalls_append, hookCalls, hookCall?_of_changes hop,
    List.getElem?_append_right (Nat.le_of_eq hlength), hlength, Nat.sub_self, List.foldl_append]
  rfl

/-- The last call tells whether the console is open; without one, it is as it was. -/
theorem foldl_visibility_eq (isOpen : Bool) (ops : List Operation) :
    ops.foldl visibility isOpen =
      ((hookCalls isOpen ops).getLast?.map (· == .onShow)).getD isOpen := by
  induction ops using List.reverseRecOn with
  | nil => rfl
  | append_singleton ops op ih =>
    rw [hookCalls_concat, List.foldl_append, List.foldl_cons, List.foldl_nil, List.getLast?_append]
    cases hcall : op.hookCall? (ops.foldl visibility isOpen) with
    | none => exact (visibility_of_hookCall?_eq_none hcall).trans ih
    | some call =>
      obtain rfl : HookCall.of (op.visibility (ops.foldl visibility isOpen)) = call := by
        rw [hookCall?] at hcall
        split at hcall
        · exact Option.some.inj hcall
        · cases hcall
      rw [Option.toList_some, List.getLast?_singleton, Option.some_or, Option.map_some,
        Option.getD_some]
      cases op.visibility (ops.foldl visibility isOpen) <;> rfl

end Operation

namespace Console

variable {σ η : Type} [Sink σ]

theorem isOpen_perform [Hooks η] (c : Console σ η) (op : Operation) :
    (c.perform op).2.isOpen = op.visibility c.isOpen := by
  cases op with
  | toggle => exact isOpen_toggle c
  | input raw => exact isOpen_handleInput c raw
  | reveal | hide | print _ | clear | sinkPrint _ | sinkPrintStyled _ _ | sinkClear => rfl

theorem isOpen_performAll [Hooks η] (c : Console σ η) (ops : List Operation) :
    (c.performAll ops).2.isOpen = ops.foldl Operation.visibility c.isOpen := by
  induction ops generalizing c with
  | nil => rfl
  | cons op ops ih => rw [performAll_cons, ih, isOpen_perform, List.foldl_cons]

/-- An operation makes its call, or none. -/
theorem calls_perform (c : Console σ HookCalls) (op : Operation) :
    (c.perform op).2.hooks.calls = c.hooks.calls ++ (op.hookCall? c.isOpen).toList := by
  cases op with
  | toggle =>
    show c.toggle.hooks.calls = _
    rw [toggle]
    cases c.isOpen <;> rfl
  | input raw =>
    show (c.handleInput raw).2.hooks.calls = _
    rw [hooks_handleInput]
    exact (List.append_nil _).symm
  | reveal | hide => rfl
  | print _ | clear | sinkPrint _ | sinkPrintStyled _ _ | sinkClear =>
    exact (List.append_nil _).symm

theorem calls_performAll (c : Console σ HookCalls) (ops : List Operation) :
    (c.performAll ops).2.hooks.calls =
      c.hooks.calls ++ Operation.hookCalls c.isOpen ops := by
  induction ops generalizing c with
  | nil => exact (List.append_nil _).symm
  | cons op ops ih =>
    rw [performAll_cons, ih, calls_perform, isOpen_perform, Operation.hookCalls, List.append_assoc]

/-- **The hooks are told what happens to the flag, once each time.**  After any course of events an
operation that opens or closes the console makes one call, any other operation makes none.  Of the
calls made in the course itself there are as many as operations of the first kind; the call of each
stands at its place among them and is for the state which that operation has left behind, and the
last one tells whether the console is open.  Two toggles in a row, wherever they come, make no
difference to that. -/
theorem visibility_performAll (c : Console σ HookCalls) (ops : List Operation) :
    (∀ op, ((c.performAll ops).2.perform op).2.hooks.calls =
      (c.performAll ops).2.hooks.calls ++
        if op.changesVisibility then [.of ((c.performAll ops).2.perform op).2.isOpen] else []) ∧
    (∃ made, (c.performAll ops).2.hooks.calls = c.hooks.calls ++ made ∧
      made.length = ops.countP Operation.changesVisibility ∧
      (∀ before op after, ops = before ++ op :: after → op.changesVisibility = true →
        made[before.countP Operation.changesVisibility]? =
          some (.of (c.performAll (before ++ [op])).2.isOpen)) ∧
      (∀ call, made.getLast? = some call →
        ((c.performAll ops).2.isOpen = true ↔ call = .onShow)) ∧
      (made = [] → (c.performAll ops).2.isOpen = c.isOpen)) ∧
    (c.performAll ops).2.isOpen = ops.foldl Operation.visibility c.isOpen ∧
    ∀ before after, ops = before ++ after →
      (c.performAll (before ++ .toggle :: .toggle :: after)).2.isOpen =
        (c.performAll ops).2.isOpen := by
  have hlast := Operation.foldl_visibility_eq c.isOpen ops
  rw [← isOpen_performAll c ops] at hlast
  refine ⟨fun op => ?_, ⟨Operation.hookCalls c.isOpen ops, calls_performAll c ops,
    Operation.length_hookCalls c.isOpen ops, ?_, ?_, ?_⟩, isOpen_performAll c ops, ?_⟩
  · rw [calls_perform, isOpen_perform, Operation.hookCall?]
    split
    · rfl
    · rfl
  · rintro before op after rfl hop
    rw [isOpen_performAll]
    exact Operation.getElem?_hookCalls c.isOpen before hop after
  · intro call hcall
    rw [hlast, hcall]
    exact beq_iff_eq
  · intro hnone
    rw [hlast, hnone]
    rfl
  · rintro before after rfl
    rw [isOpen_performAll, isOpen_performAll, List.foldl_append, List.foldl_append]
    show after.foldl _ (!!_) = _
    rw [Bool.not_not]

/-- A closed console without commands. -/
def bare : Console Transcript HookCalls where
  registry := {}
  sink := {}
  hooks := {}
  world := { files := { nodes := [] }, clock := fun _ => .epoch }

/-- A line for no command, between operations that hide the console twice. -/
def flicker : List Operation := [.toggle, .input "lights", .hide, .hide, .toggle]

theorem performAll_flicker :
    (bare.performAll flicker).2.hooks.calls[1]? = some .onHide ∧
      (bare.performAll flicker).2.isOpen = true ∧
      (bare.performAll [.clear]).2.isOpen = false ∧
      (bare.performAll (.toggle :: .toggle :: flicker)).2.isOpen = true := by
  obtain ⟨-, ⟨made, hmade, -, hplace, hlast, -⟩, -, htwice⟩ := visibility_performAll bare flicker
  obtain ⟨-, ⟨none, hnone, -, -, -, hkept⟩, -, -⟩ := visibility_performAll bare [.clear]
  obtain rfl : (bare.performAll flicker).2.hooks.calls = made := hmade
  obtain rfl : [] = none := hnone
  have hopen : (bare.performAll flicker).2.isOpen = true := (hlast .onShow (by rfl)).mpr rfl
  refine ⟨?_, hopen, hkept rfl, (htwice [] flicker rfl).trans hopen⟩
  exact (hplace [.toggle, .input "lights"] .hide [.hide, .toggle] rfl rfl).trans (by rfl)

end Console
end CommandConsole
