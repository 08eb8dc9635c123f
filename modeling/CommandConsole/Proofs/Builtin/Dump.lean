import CommandConsole.Builtin
import CommandConsole.Console.Operation
import CommandConsole.Proofs.Action.Avoidance
import CommandConsole.Proofs.Dispatch.Boundary
import CommandConsole.Proofs.Line.Tokens
import CommandConsole.Proofs.Registry.Resolution
import CommandConsole.Proofs.Sink.Lawful

/-!
# What dumps leave in the files

Of the built-in commands only `dump` ever asks for a file to be written, so with these commands and
no others a file changes only if a line calls `dump` (`files_perform`).  Such a line is echoed first;
then the display is looked at, then the file is written, and only then comes the report
(`run_dump`).  So what is written is the transcript with the line itself and without the report, and
a path that cannot be written changes the report and nothing else.

Each dump replaces the file it writes and leaves the others, so at the end of a course of events a
file is what the last dump to it has made of it (`node?_performAll`).  Which file a dump writes is
known from the line, the clock and the files as they are then (`Console.dump?`).
-/
namespace CommandConsole

/-! ## Hooks -/

/-- Hooks that leave the files alone. -/
class Hooks.LeaveFiles (η : Type) [Hooks η] : Prop where
  files_onShow : ∀ (hooks : η) (world : World), (Hooks.onShow hooks world).2.files = world.files
  files_onHide : ∀ (hooks : η) (world : World), (Hooks.onHide hooks world).2.files = world.files

instance : Hooks.LeaveFiles Unit := ⟨fun _ _ => rfl, fun _ _ => rfl⟩

instance : Hooks.LeaveFiles HookCalls := ⟨fun _ _ => rfl, fun _ _ => rfl⟩

instance : Hooks.LeaveFiles HookLog := ⟨fun _ _ => rfl, fun _ _ => rfl⟩

/-! ## The built-in commands -/

namespace Builtin

variable {request : Action.Request} (entries : List Entry) (parameters : List String)

theorem avoids_sayAll (h : request ≠ .print) (lines : List String) :
    (sayAll lines).Avoids request := by
  induction lines with
  | nil => exact .done ()
  | cons line lines ih => exact .print h ih

theorem avoids_echo (h : request ≠ .print) : (echo.action entries parameters).Avoids request :=
  .print h (.done _)

theorem avoids_help (h : request ≠ .print) : (help.action entries parameters).Avoids request := by
  cases parameters with
  | nil => exact (avoids_sayAll h _).bind fun _ => .done _
  | cons name rest =>
    simp only [help]
    cases Entry.find? entries name with
    | none => exact .printStyled h (.done _)
    | some entry => exact .print h (.done _)

theorem avoids_clear (h : request ≠ .clear) : (clear.action entries parameters).Avoids request :=
  .clear h (.done _)

/-- The file name that a dump takes: the first parameter, or a name after the clock if there is none
or if it is empty. -/
def dumpName (moment : DateTime) : String :=
  (parameters.head?.filter (· ≠ "")).getD (DumpName.byDefault moment)

/-- What is reported on a dump to a path. -/
def dumpReport (path : String) : Except FileError Location → String
  | .ok _ => "Console content dumped to " ++ path
  | .error cause => "Failed to dump console content to " ++ path ++ ": " ++ cause.message

theorem dumpName_cons {name : String} (h : name ≠ "") (rest : List String) (moment : DateTime) :
    dumpName (name :: rest) moment = name := by
  rw [dumpName, List.head?_cons, Option.filter_some, decide_eq_true h]
  rfl

/-- Choosing a name changes nothing but that the clock may be read. -/
theorem run_dumpFile {σ : Type} [Sink σ] (sink : σ) (world : World) :
    ∃ after : World, after.files = world.files ∧
      (dumpFile parameters).run sink world =
        (dumpName parameters (world.clock world.readings), sink, after) := by
  cases parameters with
  | nil => exact ⟨world.now.2, rfl, rfl⟩
  | cons name rest =>
    by_cases hname : name = ""
    · subst hname
      exact ⟨world.now.2, rfl, rfl⟩
    · refine ⟨world, rfl, ?_⟩
      rw [dumpName_cons hname, dumpFile, if_neg hname]
      rfl

theorem avoids_dumpFile (h : request ≠ .now) : (dumpFile parameters).Avoids request := by
  cases parameters with
  | nil => exact .now h fun _ => .done _
  | cons name rest =>
    rw [dumpFile]
    split
    · exact .now h fun _ => .done _
    · exact .done _

/-- What is done once it is known whether the file could be written. -/
def closing (path : String) : Except FileError Unit → Action Outcome
  | .ok () => .log (.dumped path) (.print ("Console content dumped to " ++ path) (.done .completed))
  | .error cause =>
    .log (.notDumped (.file path cause))
      (.printStyled ("Failed to dump console content to " ++ path ++ ": " ++ cause.message) .error
        (.done .completed))

/-- A dump chooses a name, looks at the display, writes and reports, in this order. -/
theorem action_dump (directory : String) :
    (dump directory).action entries parameters =
      (dumpFile parameters).bind fun file =>
        .content fun text =>
          .write (Path.join directory file) text (closing (Path.join directory file)) := by
  simp only [dump, Action.bind_eq, Action.shown, Action.save, Action.bind]
  -- up to the answer both trees are the same, so only the two ways to close are compared
  refine congrArg (dumpFile parameters).bind (funext fun file => congrArg Action.content
    (funext fun text => congrArg (Action.write _ text) (funext fun answer => ?_)))
  cases answer with
  | ok written => rfl
  | error cause => rfl

/-- A dump writes what is shown, if the file can be written, and reports on it; it never fails. -/
theorem run_dump {σ : Type} [Sink σ] [LawfulSink σ] (directory : String) (sink : σ)
    (world : World) :
    let path := Path.join directory (dumpName parameters (world.clock world.readings))
    let after := ((dump directory).action entries parameters).run sink world
    after.1 = .completed ∧
      Sink.content after.2.1 =
        Sink.content sink ++ dumpReport path (world.files.target path) ++ "\n" ∧
      after.2.2.files = match world.files.target path with
        | .ok place => world.files.put place (Text.encode (Sink.content sink))
        | .error _ => world.files := by
  intro path after
  obtain ⟨named, hfiles, hname⟩ := run_dumpFile parameters sink world
  have hafter : after = (closing path (named.write path (Sink.content sink)).1).run sink
      (named.write path (Sink.content sink)).2 := by
    simp only [after]
    rw [action_dump, Action.run_bind, hname]
    rfl
  rw [hafter, World.write, FileSystem.write, hfiles]
  cases world.files.target path with
  | ok place => exact ⟨rfl, LawfulSink.content_print _ _, rfl⟩
  | error cause => exact ⟨rfl, LawfulSink.content_printStyled _ _ _, hfiles⟩

end Builtin

/-! ## Lines -/

/-- The line calls `dump`, in whatever case. -/
def Line.CallsDump (raw : String) : Prop := Text.lowercase (Line.parse raw).command = "dump"

instance (raw : String) : Decidable (Line.CallsDump raw) :=
  inferInstanceAs (Decidable (Text.lowercase (Line.parse raw).command = "dump"))

/-- A line that calls `dump` is not blank. -/
theorem Line.trim_ne_empty_of_callsDump {raw : String} (h : CallsDump raw) :
    Text.trim raw ≠ "" := by
  intro hblank
  rw [CallsDump, command_parse_eq_empty_iff.mpr hblank] at h
  exact absurd h (by decide)

namespace Registry

variable {r : Registry} {directory raw : String}

theorem resolve_of_callsDump (hr : r.commands = Builtin.all directory) (h : Line.CallsDump raw) :
    r.resolve (Line.parse raw).command = some (Builtin.dump directory) := by
  rw [Line.CallsDump] at h
  rw [resolve, hr]
  simp only [Card.answersTo, h]
  rfl

/-- With the built-in commands, only a line that calls `dump` asks for a file to be written. -/
theorem avoids_write_dispatch (hr : r.commands = Builtin.all directory)
    (h : ¬ Line.CallsDump raw) : (r.dispatch raw).Avoids .write := by
  refine avoids_dispatch (by decide) (by decide) fun command hresolve => ?_
  have hmem : command ∈ Builtin.all directory := hr ▸ List.mem_of_find?_eq_some hresolve
  simp only [Builtin.all, List.mem_cons, List.not_mem_nil, or_false] at hmem
  rcases hmem with rfl | rfl | rfl | rfl
  · exact Builtin.avoids_echo _ _ (by decide)
  · exact Builtin.avoids_help _ _ (by decide)
  · exact Builtin.avoids_clear _ _ (by decide)
  · -- the line would have called `dump`
    obtain ⟨i, hfirst⟩ := resolve_eq_some_iff.mp hresolve
    obtain ⟨own, hown, hlower⟩ := hfirst.claims
    obtain rfl : own = "dump" := List.mem_singleton.mp hown
    have hdump : Text.lowercase "dump" = "dump" := by decide
    exact absurd (hlower.symm.trans hdump) h

end Registry

/-! ## Consoles -/

namespace Console

variable {σ η : Type} [Sink σ] {directory : String} {c : Console σ η} {raw : String}

/-- The path that a line leads to if it calls `dump`. -/
def dumpPath (directory : String) (c : Console σ η) (raw : String) : String :=
  Path.join directory
    (Builtin.dumpName (Line.parse raw).parameters (c.world.clock c.world.readings))

/-- The file that an operation dumps to, if it dumps, and the text that it leaves there: what the
display shows once the line was echoed. -/
def dump? (directory : String) (c : Console σ η) : Operation → Option (Location × String)
  | .input raw =>
    if Line.CallsDump raw then
      match c.world.files.target (c.dumpPath directory raw) with
      | .ok place => some (place, c.content ++ raw ++ "\n")
      | .error _ => none
    else none
  | .reveal | .hide | .toggle | .print _ | .clear | .sinkPrint _ | .sinkPrintStyled _ _
  | .sinkClear => none

/-- The files after a dump, or as they were. -/
def filesAfter (files : FileSystem) : Option (Location × String) → FileSystem
  | some (place, text) => files.put place (Text.encode text)
  | none => files

/-- A line that calls `dump` is executed, whatever comes of the dump.  The display shows the line and
then the report. -/
theorem handleInput_of_callsDump [LawfulSink σ] (hc : c.registry.commands = Builtin.all directory)
    (h : Line.CallsDump raw) :
    (c.handleInput raw).1 = .executed ∧
      (c.handleInput raw).2.content = c.content ++ raw ++ "\n" ++
        Builtin.dumpReport (c.dumpPath directory raw)
          (c.world.files.target (c.dumpPath directory raw)) ++ "\n" ∧
      (c.handleInput raw).2.world.files =
        filesAfter c.world.files (c.dump? directory (.input raw)) := by
  have hecho : Sink.content (Sink.printStyled c.sink raw .echo) = c.content ++ raw ++ "\n" :=
    LawfulSink.content_printStyled c.sink raw .echo
  obtain ⟨hcompleted, hcontent, hfiles⟩ := Builtin.run_dump c.registry.entries
    (Line.parse raw).parameters directory (Sink.printStyled c.sink raw .echo) c.world
  have hrun : (c.registry.dispatch raw).run c.sink c.world =
      (.executed, (((Builtin.dump directory).action c.registry.entries
        (Line.parse raw).parameters).run (Sink.printStyled c.sink raw .echo) c.world).2) := by
    rw [Registry.dispatch_of_resolve_eq_some (Line.trim_ne_empty_of_callsDump h)
      (Registry.resolve_of_callsDump hc h), Action.run, Action.run_bind, hcompleted,
      Registry.report_completed, Action.run]
  refine ⟨?_, ?_, ?_⟩
  · rw [dispatch_handleInput, hrun]
  · rw [content, sink_handleInput, hrun, hcontent, hecho, dumpPath]
  · rw [world_handleInput, hrun, hfiles, hecho, dump?, if_pos h]
    unfold dumpPath
    split <;> rfl

variable [Hooks η]

/-- The dumps that are made in a course of events, in order. -/
def dumps (directory : String) (c : Console σ η) : List Operation → List (Location × String)
  | [] => []
  | op :: ops => (c.dump? directory op).toList ++ (c.perform op).2.dumps directory ops

variable [LawfulSink σ] [Hooks.LeaveFiles η]

/-- With the built-in commands, files change by dumps only. -/
theorem files_perform (hc : c.registry.commands = Builtin.all directory) (op : Operation) :
    (c.perform op).2.world.files = filesAfter c.world.files (c.dump? directory op) := by
  cases op with
  | reveal => exact Hooks.LeaveFiles.files_onShow c.hooks c.world
  | hide => exact Hooks.LeaveFiles.files_onHide c.hooks c.world
  | toggle =>
    show c.toggle.world.files = c.world.files
    unfold toggle
    split
    · exact Hooks.LeaveFiles.files_onHide c.hooks c.world
    · exact Hooks.LeaveFiles.files_onShow c.hooks c.world
  | input raw =>
    by_cases h : Line.CallsDump raw
    · exact (handleInput_of_callsDump hc h).2.2
    · show (c.handleInput raw).2.world.files = _
      rw [world_handleInput, Action.files_run_of_avoids (Registry.avoids_write_dispatch hc h), dump?,
        if_neg h]
      rfl
  | print _ | clear | sinkPrint _ | sinkPrintStyled _ _ | sinkClear => rfl

omit [LawfulSink σ] [Hooks η] [Hooks.LeaveFiles η] in
theorem ne_nil_of_dump? {op : Operation} {place : Location} {text : String}
    (h : c.dump? directory op = some (place, text)) : place ≠ [] := by
  cases op with
  | input raw =>
    rw [dump?] at h
    split at h
    · cases hfound : c.world.files.target (c.dumpPath directory raw) with
      | ok found =>
        rw [hfound] at h
        obtain ⟨rfl, -⟩ := Prod.mk.inj (Option.some.inj h)
        exact FileSystem.ne_nil_of_target hfound
      | error cause =>
        rw [hfound] at h
        cases h
    · cases h
  | reveal | hide | toggle | print _ | clear | sinkPrint _ | sinkPrintStyled _ _ | sinkClear =>
    cases h

omit [LawfulSink σ] [Hooks η] [Hooks.LeaveFiles η] in
theorem node?_filesAfter_dump? (c : Console σ η) (op : Operation) (place : Location) :
    (filesAfter c.world.files (c.dump? directory op)).node? place =
      (((c.dump? directory op).toList.lookup place).map fun text => .file (Text.encode text)).or
        (c.world.files.node? place) := by
  cases hdump : c.dump? directory op with
  | none => rfl
  | some dump =>
    obtain ⟨target, text⟩ := dump
    rw [filesAfter, FileSystem.node?_put _ _ (ne_nil_of_dump? hdump), Option.toList_some,
      List.lookup_cons]
    by_cases hplace : place = target
    · rw [if_pos hplace, hplace, beq_self_eq_true]
      rfl
    · rw [if_neg hplace, beq_false_of_ne hplace]
      rfl

/-- A file is what the last dump to it has made of it. -/
theorem node?_performAll (hc : c.registry.commands = Builtin.all directory) (ops : List Operation)
    (place : Location) :
    (c.performAll ops).2.world.files.node? place =
      (((c.dumps directory ops).reverse.lookup place).map fun text => .file (Text.encode text)).or
        (c.world.files.node? place) := by
  -- from the front, so that what the rest dumps is looked up first and this operation's dump last
  induction ops generalizing c with
  | nil => rfl
  | cons op ops ih =>
    have hnext : (c.perform op).2.registry.commands = Builtin.all directory := by
      rw [registry_perform, hc]
    have hone : (c.dump? directory op).toList.reverse = (c.dump? directory op).toList := by
      cases c.dump? directory op <;> rfl
    rw [performAll_cons, ih hnext, files_perform hc, node?_filesAfter_dump?, dumps,
      List.reverse_append, List.lookup_append, hone, Option.map_or, Option.or_assoc]

theorem workingDirectory_performAll (hc : c.registry.commands = Builtin.all directory)
    (ops : List Operation) :
    (c.performAll ops).2.world.files.workingDirectory = c.world.files.workingDirectory := by
  induction ops generalizing c with
  | nil => rfl
  | cons op ops ih =>
    have hnext : (c.perform op).2.registry.commands = Builtin.all directory := by
      rw [registry_perform, hc]
    rw [performAll_cons, ih hnext, files_perform hc]
    cases c.dump? directory op <;> rfl

/-- **Files hold what was dumped to them last.**  After any course of events over the built-in
commands, a file that was dumped to holds the text of the last dump to it, the transcript up to and
including the line that called for it; whatever else there was is there still.  Operations that dump
nothing, among them lines whose file cannot be written, change no file.  Every line that calls
`dump` is executed and adds itself and one report to the display. -/
theorem files_hold_lastDump (hc : c.registry.commands = Builtin.all directory)
    (ops : List Operation) :
    let final := (c.performAll ops).2
    (∀ place, final.world.files.node? place =
      match (c.dumps directory ops).reverse.lookup place with
      | some text => some (.file (Text.encode text))
      | none => c.world.files.node? place) ∧
    final.world.files.workingDirectory = c.world.files.workingDirectory ∧
    (∀ op, final.dump? directory op = none →
      (final.perform op).2.world.files = final.world.files) ∧
    ∀ raw, Line.CallsDump raw →
      (final.handleInput raw).1 = .executed ∧
        (final.handleInput raw).2.content = final.content ++ raw ++ "\n" ++
          Builtin.dumpReport (final.dumpPath directory raw)
            (final.world.files.target (final.dumpPath directory raw)) ++ "\n" := by
  intro final
  have hfinal : final.registry.commands = Builtin.all directory := by
    rw [registry_performAll, hc]
  refine ⟨fun place => ?_, workingDirectory_performAll hc ops, fun op hop => ?_, fun raw hraw => ?_⟩
  · rw [node?_performAll hc ops place]
    cases (c.dumps directory ops).reverse.lookup place <;> rfl
  · rw [files_perform hfinal, hop]
    rfl
  · obtain ⟨hexecuted, hcontent, -⟩ := handleInput_of_callsDump hfinal hraw
    exact ⟨hexecuted, hcontent⟩

/-- A terminal with the built-in commands, over files of which one is named `kept`. -/
def desk : Console Terminal HookCalls where
  registry := (Registry.registerAll {} (Builtin.all ".")).1
  sink := {}
  hooks := {}
  world := { files := { nodes := [(["kept"], .file [0x21])] }, clock := fun _ => .epoch }

/-- Two dumps to one file, and one to a directory that is missing. -/
def saves : List Operation :=
  [.input "dump a", .clear, .print "x", .input " DUMP a", .input "dump no/b", .clear]

theorem performAll_saves :
    (desk.performAll saves).2.world.files.node? ["a"] =
        some (.file (Text.encode "x\n DUMP a\n")) ∧
      (desk.performAll saves).2.world.files.node? ["kept"] = some (.file [0x21]) ∧
      (desk.performAll saves).2.world.files.node? ["no", "b"] = none ∧
      ((desk.performAll saves).2.handleInput "dump no/b").1 = .executed := by
  have hdesk : desk.registry.commands = Builtin.all "." := by rfl
  obtain ⟨hfiles, -, -, hcalls⟩ := files_hold_lastDump hdesk saves
  refine ⟨(hfiles ["a"]).trans rfl, (hfiles ["kept"]).trans rfl, (hfiles ["no", "b"]).trans rfl, ?_⟩
  obtain ⟨hexecuted, -⟩ := hcalls "dump no/b" (by decide)
  exact hexecuted

end Console
end CommandConsole
