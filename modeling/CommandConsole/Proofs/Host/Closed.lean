import CommandConsole.Builtin
import CommandConsole.Proofs.Host.Submission
import Mathlib.Data.List.ReduceOption

/-!
# Lines for a closed console

A closed console hears the toggle line and no other.  What it does not hear leaves one trace only, a
report in the log, and the log is written but never read.  So the lines that were not heard may as
well not have been entered.

Which lines these are depends on the run itself, since it is the run that opens and closes the
console.  Two runs are therefore compared step by step, one with all lines and one with those that
were heard.  Between the two hosts there are at most the reports on ignored lines
(`SameButIgnored`); a line that is heard is submitted to both and leaves them so
(`SameButIgnored.submit`), a line that is not heard is submitted to one of them only, and leaves
them so as well (`SameButIgnored.submit_ignored`).
-/
namespace CommandConsole

/-! ## Worlds -/

/-- Two worlds that differ at most in what the log tells of lines that were ignored. -/
structure World.SameButIgnored (w v : World) : Prop where
  files : w.files = v.files
  clock : w.clock = v.clock
  readings : w.readings = v.readings
  log : w.log.filter (· ≠ .inputIgnored) = v.log.filter (· ≠ .inputIgnored)

namespace World.SameButIgnored

variable {w v : World}

theorem refl (w : World) : w.SameButIgnored w := ⟨rfl, rfl, rfl, rfl⟩

theorem record (h : w.SameButIgnored v) (event : Event) :
    (w.record event).SameButIgnored (v.record event) :=
  { h with log := by rw [log_record, log_record, List.filter_append, List.filter_append, h.log] }

/-- A report on an ignored line makes no difference. -/
theorem record_ignored (h : w.SameButIgnored v) : (w.record .inputIgnored).SameButIgnored v :=
  { h with
    log := by
      rw [log_record, List.filter_append, h.log]
      exact List.append_nil _ }

theorem write (h : w.SameButIgnored v) (path text : String) :
    (w.write path text).1 = (v.write path text).1 ∧
      (w.write path text).2.SameButIgnored (v.write path text).2 := by
  rw [World.write, World.write, h.files]
  cases v.files.write path text with
  | ok files => exact ⟨rfl, { h with files := rfl }⟩
  | error cause => exact ⟨rfl, h⟩

theorem now (h : w.SameButIgnored v) :
    w.now.1 = v.now.1 ∧ w.now.2.SameButIgnored v.now.2 := by
  refine ⟨?_, { h with readings := congrArg (· + 1) h.readings }⟩
  rw [World.now, World.now, h.clock, h.readings]

end World.SameButIgnored

/-- No action looks at the log, so it does the same whatever was ignored before. -/
theorem Action.run_sameButIgnored {α σ : Type} [Sink σ] (a : Action α) (sink : σ) {w v : World}
    (h : w.SameButIgnored v) :
    (a.run sink w).1 = (a.run sink v).1 ∧ (a.run sink w).2.1 = (a.run sink v).2.1 ∧
      (a.run sink w).2.2.SameButIgnored (a.run sink v).2.2 := by
  induction a generalizing sink w v with
  | done result => exact ⟨rfl, rfl, h⟩
  | print text next ih => exact ih _ h
  | printStyled text style next ih => exact ih _ h
  | clear next ih => exact ih _ h
  | content next ih => exact ih _ _ h
  | write path text next ih =>
    obtain ⟨hanswer, hafter⟩ := h.write path text
    simp only [run]
    rw [hanswer]
    exact ih _ _ hafter
  | now next ih =>
    obtain ⟨hmoment, hafter⟩ := h.now
    simp only [run]
    rw [hmoment]
    exact ih _ _ hafter
  | log event next ih => exact ih _ (h.record event)

/-! ## Consoles -/

/-- Two consoles that differ at most in what the log tells of lines that were ignored. -/
structure Console.SameButIgnored {σ : Type} (c d : Console σ HookLog) : Prop where
  registry : c.registry = d.registry
  sink : c.sink = d.sink
  isOpen : c.isOpen = d.isOpen
  world : c.world.SameButIgnored d.world

namespace Console.SameButIgnored

variable {σ : Type} {c d : Console σ HookLog}

theorem toggle (h : c.SameButIgnored d) : c.toggle.SameButIgnored d.toggle := by
  unfold Console.toggle
  rw [h.isOpen]
  split
  · exact { h with isOpen := rfl, world := h.world.record .hidden }
  · exact { h with isOpen := rfl, world := h.world.record .shown }

theorem handleInput [Sink σ] (h : c.SameButIgnored d) (raw : String) :
    (c.handleInput raw).1 = (d.handleInput raw).1 ∧
      (c.handleInput raw).2.SameButIgnored (d.handleInput raw).2 := by
  obtain ⟨hdispatch, hsink, hworld⟩ :=
    Action.run_sameButIgnored (d.registry.dispatch raw) d.sink h.world
  refine ⟨?_, ?_, ?_, ?_, ?_⟩
  · rw [dispatch_handleInput, dispatch_handleInput, h.registry, h.sink, hdispatch]
  · rw [registry_handleInput, registry_handleInput, h.registry]
  · rw [sink_handleInput, sink_handleInput, h.registry, h.sink, hsink]
  · rw [isOpen_handleInput, isOpen_handleInput, h.isOpen]
  · rw [world_handleInput, world_handleInput, h.registry, h.sink]
    exact hworld

end Console.SameButIgnored

namespace Host

/-! ## Hosts -/

variable {ε : Type}

/-- Two hosts that differ at most in what the log tells of lines that were ignored: their editors
remember the same lines, and their terminals show the same and have got the same bytes. -/
structure SameButIgnored (h g : Host ε) : Prop where
  editor : h.editor = g.editor
  config : h.config = g.config
  stdout : h.stdout = g.stdout
  console : h.console.SameButIgnored g.console

variable [LineEditor ε] {h g : Host ε} {line : String}

omit [LineEditor ε] in
theorem SameButIgnored.refl (h : Host ε) : h.SameButIgnored h :=
  ⟨rfl, rfl, rfl, rfl, rfl, rfl, .refl _⟩

/-- A line that is submitted to both hosts. -/
theorem SameButIgnored.submit (hsame : h.SameButIgnored g) (line : String) :
    (h.submit line).1 = (g.submit line).1 ∧
      (h.submit line).2.SameButIgnored (g.submit line).2 := by
  have hopen := hsame.console.isOpen
  rcases submit_cases g line with ht | ⟨ht, ho⟩ | ⟨ht, ho⟩
  · rw [submit_of_isToggle ht, submit_of_isToggle (hsame.config ▸ ht)]
    exact ⟨rfl, { hsame with console := hsame.console.toggle }⟩
  · rw [submit_of_closed ht ho, submit_of_closed (hsame.config ▸ ht) (hopen ▸ ho)]
    have hworld := hsame.console.world.record .inputIgnored
    exact ⟨rfl, { hsame with console := { hsame.console with world := hworld } }⟩
  · rw [submit_of_open ht ho, submit_of_open (hsame.config ▸ ht) (hopen ▸ ho), hsame.editor]
    obtain ⟨hdispatch, hafter⟩ := hsame.console.handleInput line
    exact ⟨congrArg some hdispatch, { hsame with editor := rfl, console := hafter }⟩

/-- A line that is submitted to one of the hosts, whose console is closed and does not hear it. -/
theorem SameButIgnored.submit_ignored (hsame : h.SameButIgnored g)
    (ht : h.config.isToggle line = false) (ho : h.console.isOpen = false) :
    (h.submit line).1 = none ∧ (h.submit line).2.SameButIgnored g := by
  rw [submit_of_closed ht ho]
  have hworld := hsame.console.world.record_ignored
  exact ⟨rfl, { hsame with console := { hsame.console with world := hworld } }⟩

/-! ## Lines that are heard -/

/-- The lines that are heard when some are submitted one after the other.  A line that comes while
the console is closed is not, unless it is the toggle line. -/
def heard (h : Host ε) : List String → List String
  | [] => []
  | line :: lines =>
    let later := (h.submit line).2.heard lines
    if h.config.isToggle line || h.console.isOpen then line :: later else later

theorem heard_cons_of_ignored (ht : h.config.isToggle line = false)
    (ho : h.console.isOpen = false) (lines : List String) :
    h.heard (line :: lines) = (h.submit line).2.heard lines := by
  rw [heard, ht, ho, Bool.or_false]
  exact if_neg Bool.false_ne_true

theorem heard_cons_of_heard (hheard : (h.config.isToggle line || h.console.isOpen) = true)
    (lines : List String) : h.heard (line :: lines) = line :: (h.submit line).2.heard lines := by
  rw [heard, hheard]
  exact if_pos rfl

/-- A closed console hears no line of a run without the toggle line. -/
theorem submitAll_of_closed (ho : h.console.isOpen = false) {lines : List String}
    (hlines : ∀ line ∈ lines, h.config.isToggle line = false) :
    h.submitAll lines =
      (List.replicate lines.length none,
        { h with
          console.world.log :=
            h.console.world.log ++ List.replicate lines.length .inputIgnored }) := by
  induction lines generalizing h with
  | nil =>
    rw [List.length_nil, List.replicate_zero, List.replicate_zero, List.append_nil]
    rfl
  | cons line lines ih =>
    obtain ⟨hline, hothers⟩ := List.forall_mem_cons.mp hlines
    let next : Host ε := { h with console.world := h.console.world.record .inputIgnored }
    have hnext : h.submit line = (none, next) := submit_of_closed hline ho
    have hlater := ih (h := next) ho hothers
    have hlog : next.console.world.log ++ List.replicate lines.length .inputIgnored =
        h.console.world.log ++ List.replicate (line :: lines).length .inputIgnored := by
      rw [World.log_record, List.append_assoc, List.length_cons, List.replicate_succ]
      rfl
    rw [submitAll_cons, hnext, hlater, hlog]
    rfl

theorem SameButIgnored.submitAll_heard (hsame : h.SameButIgnored g) (lines : List String) :
    (h.submitAll lines).1.reduceOption = (g.submitAll (h.heard lines)).1.reduceOption ∧
      (h.submitAll lines).2.SameButIgnored (g.submitAll (h.heard lines)).2 := by
  induction lines generalizing h g with
  | nil => exact ⟨rfl, hsame⟩
  | cons line lines ih =>
    -- the host of the full run decides; the other one is open if it is
    cases hheard : h.config.isToggle line || h.console.isOpen with
    | true =>
      obtain ⟨hdispatch, hafter⟩ := hsame.submit line
      obtain ⟨hlater, hfinal⟩ := ih hafter
      rw [heard_cons_of_heard hheard, submitAll_cons, submitAll_cons]
      refine ⟨?_, hfinal⟩
      rw [hdispatch]
      cases (g.submit line).1 with
      | none => rw [List.reduceOption_cons_of_none, List.reduceOption_cons_of_none, hlater]
      | some dispatch => rw [List.reduceOption_cons_of_some, List.reduceOption_cons_of_some, hlater]
    | false =>
      obtain ⟨ht, ho⟩ := Bool.or_eq_false_iff.mp hheard
      obtain ⟨hnone, hafter⟩ := hsame.submit_ignored ht ho
      obtain ⟨hlater, hfinal⟩ := ih hafter
      rw [heard_cons_of_ignored ht ho, submitAll_cons, hnone, List.reduceOption_cons_of_none]
      exact ⟨hlater, hfinal⟩

/-- **What a closed console is told makes no difference.**  Lines without a toggle line among them
are not passed on to a closed console, and nothing changes but that the log tells so.  Among any
lines, those that come while the console is closed can be left out, toggle lines excepted: the host
ends in the same state, with the same history, the same bytes on the terminal and the same files,
and the same became of the lines that were passed on. -/
theorem submitAll_eq_heard (h : Host ε) (lines : List String) :
    (h.console.isOpen = false → (∀ line ∈ lines, h.config.isToggle line = false) →
      h.submitAll lines =
        (List.replicate lines.length none,
          { h with
            console.world.log :=
              h.console.world.log ++ List.replicate lines.length .inputIgnored })) ∧
    (h.submitAll lines).1.reduceOption = (h.submitAll (h.heard lines)).1.reduceOption ∧
    (h.submitAll lines).2.SameButIgnored (h.submitAll (h.heard lines)).2 := by
  obtain ⟨hdispatches, hfinal⟩ := (SameButIgnored.refl h).submitAll_heard lines
  exact ⟨fun ho hlines => submitAll_of_closed ho hlines, hdispatches, hfinal⟩

/-- A host with the built-in commands whose console is closed. -/
def shut : Host EditorRecord :=
  start {} (Registry.registerAll {} (Builtin.all ".")).1 {}
    { files := { nodes := [] }, clock := fun _ => .epoch } {} (.separate [])

/-- The console is opened by the second of these lines and closed by the fourth, and the first and
the last one are not heard. -/
def visit : List String := ["echo early", " ` ", "echo hello", "`", "dump late"]

theorem submitAll_visit :
    (shut.submitAll ["help", "", "dump late"]).1 = [none, none, none] ∧
      shut.heard visit = [" ` ", "echo hello", "`"] ∧
      (shut.submitAll visit).1.reduceOption = [.executed] := by
  obtain ⟨hnone, -, -⟩ := submitAll_eq_heard shut ["help", "", "dump late"]
  obtain ⟨-, hdispatches, -⟩ := submitAll_eq_heard shut visit
  have hheard : shut.heard visit = [" ` ", "echo hello", "`"] := by rfl
  refine ⟨?_, hheard, ?_⟩
  · rw [hnone rfl (by decide)]
    rfl
  · rw [hdispatches, hheard]
    rfl

end Host
end CommandConsole
