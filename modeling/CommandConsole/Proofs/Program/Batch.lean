import CommandConsole.Program
import CommandConsole.Proofs.Dispatch.Boundary

/-!
# Batch runs

A batch run reads its script files in order, each when its turn comes, from the files as the scripts
before it have left them (`Console.Ran`).  Lines that hold a command are handled one after the
other, whatever comes of them; only a file that cannot be read ends the run, and then what ran
before stays done.

The run succeeds if every line was executed.  The program counts failures instead, and a blank line
is no failure; but no line that holds a command is blank (`Console.Ran.ne_blank`).  Handling a line
does not look at the open flag, so a run over a closed console is the same but for the flag
(`Console.Ran.withOpen`).
-/
namespace CommandConsole

/-- The line holds a command: white space aside, there is something on it, and it does not start
with a number sign. -/
def Script.HoldsCommand (line : String) : Prop :=
  Text.trim line ≠ "" ∧ (Text.trim line).toList.head? ≠ some '#'

instance (line : String) : Decidable (Script.HoldsCommand line) :=
  inferInstanceAs (Decidable (_ ∧ _))

theorem Script.isCommand_iff {line : String} : isCommand line = true ↔ HoldsCommand line := by
  have htrim : Text.trim line = "" ↔ Text.strip line.toList = [] := by
    rw [← String.toList_inj, Text.toList_trim, String.toList_empty]
  rw [HoldsCommand, Ne, htrim, Text.toList_trim, isCommand]
  cases Text.strip line.toList with
  | nil => simp
  | cons c cs => simp

theorem Script.commands_eq (source : String) :
    commands source = (Text.lines source).filter (HoldsCommand ·) :=
  List.filter_congr fun line _ => Bool.eq_iff_iff.mpr (by simpa using isCommand_iff)

namespace Console

section Lines

variable {σ η : Type} [Sink σ]

/-- Handles lines one after the other; what became of each of them. -/
def handleAll (c : Console σ η) : List String → List Dispatch × Console σ η
  | [] => ([], c)
  | line :: lines =>
    let first := c.handleInput line
    let later := first.2.handleAll lines
    (first.1 :: later.1, later.2)

/-- Handles the lines of a script that hold a command. -/
def handleScript (c : Console σ η) (source : String) : List Dispatch × Console σ η :=
  c.handleAll ((Text.lines source).filter (Script.HoldsCommand ·))

/-- A line that is not blank is not taken for one. -/
theorem handleInput_ne_blank (c : Console σ η) {raw : String} (h : Text.trim raw ≠ "") :
    (c.handleInput raw).1 ≠ .blank := by
  obtain ⟨dispatch, calls, hhandled⟩ := exists_handled c raw
  rw [hhandled.sound.1]
  cases hhandled with
  | blank hblank => exact absurd hblank h
  | notFound | executed | failed => simp

theorem ne_blank_of_mem_handleScript (c : Console σ η) (source : String) :
    ∀ dispatch ∈ (c.handleScript source).1, dispatch ≠ .blank := by
  have hlines : ∀ line ∈ (Text.lines source).filter (Script.HoldsCommand ·), Text.trim line ≠ "" :=
    fun line hline => (of_decide_eq_true (List.mem_filter.mp hline).2).1
  rw [handleScript]
  generalize (Text.lines source).filter (Script.HoldsCommand ·) = lines at hlines ⊢
  induction lines generalizing c with
  | nil => simp [handleAll]
  | cons line lines ih =>
    obtain ⟨hline, hothers⟩ := List.forall_mem_cons.mp hlines
    exact List.forall_mem_cons.mpr ⟨handleInput_ne_blank c hline, ih _ hothers⟩

/-- Handling lines does not look at the open flag. -/
theorem handleAll_withOpen (c : Console σ η) (isOpen : Bool) (lines : List String) :
    ({ c with isOpen } : Console σ η).handleAll lines =
      ((c.handleAll lines).1, { (c.handleAll lines).2 with isOpen }) := by
  induction lines generalizing c with
  | nil => rfl
  | cons line lines ih =>
    have hfirst : ({ c with isOpen } : Console σ η).handleInput line =
        ((c.handleInput line).1, { (c.handleInput line).2 with isOpen }) := by
      simp only [handleInput]
    simp only [handleAll, hfirst, ih]

end Lines

/-! ## Files in their turn -/

variable {σ η : Type} [Sink σ]

/-- Script files ran one after the other.  Each was read from the files that the scripts before it
had left, and all its lines that hold a command were handled. -/
inductive Ran : Console σ η → List String → List Dispatch → Console σ η → Prop
  | nil (c : Console σ η) : Ran c [] [] c
  | cons {c final : Console σ η} {path source : String} {paths : List String}
      {later : List Dispatch} : c.world.files.readText path = .ok source →
      Ran (c.handleScript source).2 paths later final →
      Ran c (path :: paths) ((c.handleScript source).1 ++ later) final

variable {c final : Console σ η} {paths : List String} {dispatches : List Dispatch}

/-- Either all files can be read, each in its turn, or there is a first one that cannot. -/
theorem exists_ran (c : Console σ η) (paths : List String) :
    (∃ dispatches final, Ran c paths dispatches final) ∨
      ∃ before path after cause dispatches final, paths = before ++ path :: after ∧
        Ran c before dispatches final ∧ final.world.files.readText path = .error cause := by
  induction paths generalizing c with
  | nil => exact .inl ⟨[], c, .nil c⟩
  | cons path paths ih =>
    cases hread : c.world.files.readText path with
    | error cause => exact .inr ⟨[], path, paths, cause, [], c, rfl, .nil c, hread⟩
    | ok source =>
      rcases ih (c.handleScript source).2 with
        ⟨later, final, hran⟩ | ⟨before, bad, after, cause, later, final, rfl, hran, hbad⟩
      · exact .inl ⟨_, final, .cons hread hran⟩
      · exact .inr ⟨path :: before, bad, after, cause, _, final, rfl, .cons hread hran, hbad⟩

theorem Ran.ne_blank (h : Ran c paths dispatches final) :
    ∀ dispatch ∈ dispatches, dispatch ≠ .blank := by
  induction h with
  | nil c => simp
  | @cons c final path source paths later hread hran ih =>
    exact List.forall_mem_append.mpr ⟨ne_blank_of_mem_handleScript c source, ih⟩

theorem Ran.withOpen (h : Ran c paths dispatches final) (isOpen : Bool) :
    Ran { c with isOpen } paths dispatches { final with isOpen } := by
  induction h with
  | nil c => exact .nil _
  | @cons c final path source paths later hread hran ih =>
    have hscript : ({ c with isOpen } : Console σ η).handleScript source =
        ((c.handleScript source).1, { (c.handleScript source).2 with isOpen }) :=
      handleAll_withOpen c isOpen _
    have hcons : Ran { c with isOpen } (path :: paths)
        ((({ c with isOpen } : Console σ η).handleScript source).1 ++ later)
        { final with isOpen } := by
      refine .cons hread ?_
      rw [hscript]
      exact ih
    rw [hscript] at hcons
    exact hcons

end Console

namespace Host

variable {ε : Type}

theorem runLines_eq (h : Host ε) (lines : List String) :
    h.runLines lines =
      ((h.console.handleAll lines).1.countP Dispatch.isFailure,
        { h with console := (h.console.handleAll lines).2 }) := by
  induction lines generalizing h with
  | nil => rfl
  | cons line lines ih =>
    rw [runLines, ih]
    simp only [Console.handleAll, List.countP_cons, Nat.add_comm]

theorem runScript_eq (h : Host ε) (source : String) :
    h.runScript source =
      ((h.console.handleScript source).1.countP Dispatch.isFailure,
        { h with console := (h.console.handleScript source).2 }) := by
  rw [runScript, runLines_eq, Script.commands_eq, Console.handleScript]

end Host

namespace Program

open Console (Ran)

theorem commands_registry (directory : String) :
    (registry directory).1.commands = Builtin.all directory ++ [helloWorld] := rfl

section Files

variable {h : Host Editor} {paths : List String} {dispatches : List Dispatch}
  {final : Console Terminal HookLog}

/-- A file that can be read is run, and its failures are counted in. -/
theorem runFiles_cons_of_readText {path source : String}
    (hread : h.console.world.files.readText path = .ok source) (others : List String) :
    runFiles h (path :: others) =
      let rest := runFiles { h with console := (h.console.handleScript source).2 } others
      (rest.1.map ((h.console.handleScript source).1.countP Dispatch.isFailure + ·), rest.2) := by
  have hfile : h.runFile path = (.ok (h.runScript source).1, (h.runScript source).2) := by
    rw [Host.runFile, hread]
  rw [runFiles, hfile, Host.runScript_eq]

/-- Files run one after the other go on where the files before them have ended. -/
theorem runFiles_append_of_ran (hran : Ran h.console paths dispatches final)
    (others : List String) :
    runFiles h (paths ++ others) =
      let rest := runFiles { h with console := final } others
      (rest.1.map (dispatches.countP Dispatch.isFailure + ·), rest.2) := by
  generalize hconsole : h.console = c at hran
  induction hran generalizing h with
  | nil c =>
    obtain rfl := hconsole
    change runFiles h others = ((runFiles h others).1.map (0 + ·), (runFiles h others).2)
    rcases runFiles h others with ⟨_ | failures, after⟩
    · rfl
    · rw [Except.map, Nat.zero_add]
  | @cons c final path source paths later hread hran ih =>
    obtain rfl := hconsole
    rw [List.cons_append, runFiles_cons_of_readText hread,
      ih (h := { h with console := (h.console.handleScript source).2 }) rfl]
    rcases runFiles { h with console := final } others with ⟨_ | failures, after⟩
    · rfl
    · simp only [Except.map, List.countP_append, Nat.add_assoc]

theorem runFiles_of_ran (hran : Ran h.console paths dispatches final) :
    runFiles h paths =
      (.ok (dispatches.countP Dispatch.isFailure), { h with console := final }) := by
  have h := runFiles_append_of_ran hran []
  rw [List.append_nil] at h
  exact h

theorem runFiles_of_unreadable (hran : Ran h.console paths dispatches final) {path : String}
    {cause : FileError} (hread : final.world.files.readText path = .error cause)
    (after : List String) :
    runFiles h (paths ++ path :: after) =
      (.error (.file path cause), { h with console := final }) := by
  rw [runFiles_append_of_ran hran]
  simp only [runFiles, Host.runFile, hread]
  rfl

end Files

/-- No failures were counted if every line was executed. -/
theorem countP_isFailure_eq_zero_iff {dispatches : List Dispatch}
    (hblank : ∀ dispatch ∈ dispatches, dispatch ≠ .blank) :
    dispatches.countP Dispatch.isFailure = 0 ↔ ∀ dispatch ∈ dispatches, dispatch = .executed := by
  rw [List.countP_eq_zero]
  refine forall₂_congr fun dispatch hdispatch => ?_
  have := hblank dispatch hdispatch
  cases dispatch <;> simp_all [Dispatch.isFailure]

/-- What a console leaves behind when the program ends with a result. -/
def runOf (result : Except ProgramError Bool) (final : Console Terminal HookLog) : Run where
  result := result
  output := final.sink.out.written
  world := final.world

section Runs

variable {arguments : List String} {o : Options} {input : Bytes} {world : World}
  {paths : List String} {dispatches : List Dispatch} {final : Console Terminal HookLog}

theorem run_of_parse (hparse : Options.parse arguments = .ok o) (hhelp : o.help = false)
    (hversion : o.version = false) : run arguments input world = runWith o input world := by
  simp [run, hparse, hhelp, hversion]

theorem runWith_of_ran (hbatch : o.batch = true)
    (hran : Ran (host o world).console o.scripts dispatches final) :
    runWith o input world =
      runOf (.ok (decide (∀ dispatch ∈ dispatches, dispatch = .executed))) final := by
  have hcount : (dispatches.countP Dispatch.isFailure == 0) =
      decide (∀ dispatch ∈ dispatches, dispatch = .executed) := by
    rw [Bool.eq_iff_iff, beq_iff_eq, decide_eq_true_eq]
    exact countP_isFailure_eq_zero_iff hran.ne_blank
  rw [runWith, runFiles_of_ran hran]
  simp only [hbatch, if_true, hcount]
  rfl

theorem runWith_of_unreadable (hran : Ran (host o world).console paths dispatches final)
    {path : String} {cause : FileError} {after : List String}
    (hread : final.world.files.readText path = .error cause)
    (hscripts : o.scripts = paths ++ path :: after) :
    runWith o input world = runOf (.error (.console (.file path cause))) final := by
  rw [runWith, hscripts, runFiles_of_unreadable hran hread]
  rfl

/-- Whether the console is closed, and what its prompt is, makes no difference to a batch run. -/
theorem runWith_congr {other : Options}
    (hother : other = { o with closed := other.closed, prompt := other.prompt })
    (hbatch : o.batch = true) : runWith other input world = runWith o input world := by
  have hbatch' : other.batch = true := by
    rw [hother]
    exact hbatch
  have hscripts : other.scripts = o.scripts := by rw [hother]
  have hconsole : (host other world).console =
      { (host o world).console with isOpen := !other.closed } := by
    rw [hother]
    rfl
  rcases (host o world).console.exists_ran o.scripts with
    ⟨dispatches, final, hran⟩ | ⟨before, path, after, cause, dispatches, final, hpaths, hran, hread⟩
  · have hran' : Ran (host other world).console other.scripts dispatches
        { final with isOpen := !other.closed } := by
      rw [hconsole, hscripts]
      exact hran.withOpen _
    rw [runWith_of_ran hbatch hran, runWith_of_ran hbatch' hran']
    rfl
  · have hran' : Ran (host other world).console before dispatches
        { final with isOpen := !other.closed } := by
      rw [hconsole]
      exact hran.withOpen _
    rw [runWith_of_unreadable hran hread hpaths,
      runWith_of_unreadable hran' hread (hscripts.trans hpaths)]
    rfl

/-- **A batch run reads and runs its files in order, each when its turn comes, and succeeds if every
line that holds a command was executed.**  The first file that cannot be read at its turn ends the
run with its error; then the output and the files are what the scripts before it have left.  Whether
the console is closed, and what its prompt is, makes no difference. -/
theorem run_batch (hparse : Options.parse arguments = .ok o) (hhelp : o.help = false)
    (hversion : o.version = false) (hbatch : o.batch = true) (input : Bytes) (world : World) :
    ((∃ dispatches final, Ran (host o world).console o.scripts dispatches final) ∨
      ∃ before path after cause dispatches final, o.scripts = before ++ path :: after ∧
        Ran (host o world).console before dispatches final ∧
        final.world.files.readText path = .error cause) ∧
    (∀ dispatches final, Ran (host o world).console o.scripts dispatches final →
      run arguments input world =
        runOf (.ok (decide (∀ dispatch ∈ dispatches, dispatch = .executed))) final) ∧
    (∀ before path after cause dispatches final, o.scripts = before ++ path :: after →
      Ran (host o world).console before dispatches final →
      final.world.files.readText path = .error cause →
      run arguments input world = runOf (.error (.console (.file path cause))) final) ∧
    ∀ others other, Options.parse others = .ok other →
      other = { o with closed := other.closed, prompt := other.prompt } →
      run others input world = run arguments input world := by
  have hrun : run arguments input world = runWith o input world :=
    run_of_parse hparse hhelp hversion
  refine ⟨(host o world).console.exists_ran o.scripts, ?_, ?_, ?_⟩
  · intro dispatches final hran
    rw [hrun, runWith_of_ran hbatch hran]
  · intro before path after cause dispatches final hscripts hran hread
    rw [hrun, runWith_of_unreadable hran hread hscripts]
  · intro others other hparse' hother
    have hhelp' : other.help = false := by
      rw [hother]
      exact hhelp
    have hversion' : other.version = false := by
      rw [hother]
      exact hversion
    rw [run_of_parse hparse' hhelp' hversion', runWith_congr hother hbatch, hrun]

/-- A world with one script, which makes another one out of what the display shows. -/
def dumping : World where
  files := { nodes := [(["a"], .file (Text.encode "dump b"))] }
  clock _ := .epoch

/-- The one script, the one that it makes, and one that is missing. -/
def dumpingOptions : Options where
  scripts := ["a", "b", "c"]
  batch := true

/-- The console before the scripts. -/
def dumpingConsole : Console Terminal HookLog := (host dumpingOptions dumping).console

theorem run_dumping :
    (run ["-b", "a", "b", "c"] [] dumping).result = .error (.console (.file "c" .notFound)) ∧
      run ["--closed", "a", "b", "c", "--batch", "--prompt", "?"] [] dumping =
        run ["-b", "a", "b", "c"] [] dumping := by
  have hparse : Options.parse ["-b", "a", "b", "c"] = .ok dumpingOptions := by rfl
  obtain ⟨-, -, hstops, hsame⟩ := run_batch hparse rfl rfl rfl [] dumping
  have hlines : (Text.lines "dump b").filter (Script.HoldsCommand ·) = ["dump b"] := by decide
  have hlines' : (Text.lines "dump b\n").filter (Script.HoldsCommand ·) = ["dump b"] := by decide
  have ha : dumpingConsole.world.files.readText "a" = .ok "dump b" := by rfl
  have hb : (dumpingConsole.handleScript "dump b").2.world.files.readText "b" =
      .ok "dump b\n" := by
    rw [Console.handleScript, hlines]
    rfl
  have hc : ((dumpingConsole.handleScript "dump b").2.handleScript
      "dump b\n").2.world.files.readText "c" = .error .notFound := by
    rw [Console.handleScript, Console.handleScript, hlines, hlines']
    rfl
  refine ⟨?_, hsame _ _ (by rfl) rfl⟩
  rw [hstops ["a", "b"] "c" [] _ _ _ rfl (.cons ha (.cons hb (.nil _))) hc]
  rfl

end Runs

end Program
end CommandConsole
