import CommandConsole.Dispatch

/-!
# What an action never asks for

Whether an action may ask for one kind of thing is read off its tree: it avoids the kind if no node
on any branch asks for it, whatever the answers are.  That is a matter of the tree alone, so it is
settled without carrying the action out, and one action after the other avoids what both avoid
(`Avoids.bind`).  What it means for the run is shown once for each kind: an action that avoids
writing leaves the files as they are (`files_run_of_avoids`).

To handle a line takes printing and logging.  Whatever else it may ask for is asked for by the
command that the line calls (`Registry.avoids_dispatch`).
-/
namespace CommandConsole

namespace Action

/-- The kinds of things that an action may ask for. -/
inductive Request
  | print
  | clear
  | content
  | write
  | now
  | log
  deriving DecidableEq, Repr

variable {α β σ : Type} {request : Request}

/-- The action never asks for a thing of this kind, whatever answers it gets. -/
inductive Avoids (request : Request) : Action α → Prop
  | done (result : α) : Avoids request (.done result)
  | print {text : String} {next : Action α} : request ≠ .print → Avoids request next →
      Avoids request (.print text next)
  | printStyled {text : String} {style : Style} {next : Action α} : request ≠ .print →
      Avoids request next → Avoids request (.printStyled text style next)
  | clear {next : Action α} : request ≠ .clear → Avoids request next → Avoids request (.clear next)
  | content {next : String → Action α} : request ≠ .content →
      (∀ shown, Avoids request (next shown)) → Avoids request (.content next)
  | write {path text : String} {next : Except FileError Unit → Action α} : request ≠ .write →
      (∀ answer, Avoids request (next answer)) → Avoids request (.write path text next)
  | now {next : DateTime → Action α} : request ≠ .now →
      (∀ moment, Avoids request (next moment)) → Avoids request (.now next)
  | log {event : Event} {next : Action α} : request ≠ .log → Avoids request next →
      Avoids request (.log event next)

theorem Avoids.bind {a : Action α} {f : α → Action β} (ha : a.Avoids request)
    (hf : ∀ result, (f result).Avoids request) : (a.bind f).Avoids request := by
  induction ha with
  | done result => exact hf result
  | print hrequest _ ih => exact .print hrequest ih
  | printStyled hrequest _ ih => exact .printStyled hrequest ih
  | clear hrequest _ ih => exact .clear hrequest ih
  | content hrequest _ ih => exact .content hrequest ih
  | write hrequest _ ih => exact .write hrequest ih
  | now hrequest _ ih => exact .now hrequest ih
  | log hrequest _ ih => exact .log hrequest ih

/-- Files change by writing only. -/
theorem files_run_of_avoids [Sink σ] {a : Action α} (h : a.Avoids .write) (sink : σ)
    (world : World) : (a.run sink world).2.2.files = world.files := by
  induction h generalizing sink world with
  | done result => rfl
  | print _ _ ih | printStyled _ _ ih | clear _ _ ih | log _ _ ih => exact ih _ _
  | content _ _ ih | now _ _ ih => exact ih _ _ _
  | write hrequest => exact absurd rfl hrequest

end Action

namespace Registry

variable {r : Registry} {raw : String} {request : Action.Request}

theorem avoids_report (hprint : request ≠ .print) (hlog : request ≠ .log) (token : String)
    (outcome : Outcome) : (report token outcome).Avoids request := by
  rw [report]
  cases outcome.reason? with
  | none => exact .done _
  | some reason => exact .log hlog (.printStyled hprint (.done _))

/-- What a line asks for, besides printing and logging, its command asks for. -/
theorem avoids_dispatch (hprint : request ≠ .print) (hlog : request ≠ .log)
    (haction : ∀ command, r.resolve (Line.parse raw).command = some command →
      (command.action r.entries (Line.parse raw).parameters).Avoids request) :
    (r.dispatch raw).Avoids request := by
  by_cases hblank : Text.trim raw = ""
  · rw [dispatch_of_blank hblank]
    exact .print hprint (.done _)
  cases hresolve : r.resolve (Line.parse raw).command with
  | none =>
    rw [dispatch_of_resolve_eq_none hblank hresolve]
    exact .log hlog (.printStyled hprint (.done _))
  | some command =>
    rw [dispatch_of_resolve_eq_some hblank hresolve]
    exact .printStyled hprint
      ((haction command hresolve).bind fun outcome => avoids_report hprint hlog _ outcome)

end Registry
end CommandConsole
