import CommandConsole.Proofs.Dispatch.Telling
import CommandConsole.Proofs.Host.Remembering

/-!
# What the log tells of the lines that a host gets

A host passes lines on to its console when they are submitted, if the console is open, and from
scripts and script files.  Lines can also be handed to the console past the host.  Whichever way is
taken, either the console handles the lines that are passed on and nothing else happens to its log,
or none is passed on and the host tells of itself: that it was opened, closed, or left a line alone
(`console_feed`).  Such events tell of no line, so step by step the log keeps to the lines that were
handled (`tells_feedAll`).

A script counts the lines that were not carried out, and hence the events that they leave.
-/
namespace CommandConsole

namespace Host

/-- A way for lines to get to the console of a host. -/
inductive Feed
  /-- The console is handed the line as it is. -/
  | direct (line : String)
  /-- Something is done with the host. -/
  | step (step : Step)
  deriving DecidableEq, Repr

variable {ε : Type}

/-- The console gets the line if it is submitted. -/
def PassesOn (h : Host ε) (line : String) : Prop :=
  h.config.isToggle line = false ∧ h.console.isOpen = true

instance (h : Host ε) (line : String) : Decidable (h.PassesOn line) :=
  inferInstanceAs (Decidable (_ ∧ _))

/-- The lines that the console gets. -/
def passedOn (h : Host ε) : Feed → List String
  | .direct line => [line]
  | .step (.submit line) => if h.PassesOn line then [line] else []
  | .step (.runScript source) => (Text.lines source).filter (Script.HoldsCommand ·)
  | .step (.runFile path) =>
    match h.console.world.files.readText path with
    | .ok source => (Text.lines source).filter (Script.HoldsCommand ·)
    | .error _ => []
  | .step .reveal | .step .hide | .step .toggle => []

/-- What handling the lines that the console gets comes to for each of them. -/
def handled (h : Host ε) (feed : Feed) : List Handling := h.console.handlings (h.passedOn feed)

section Feeding

variable [LineEditor ε]

/-- The host after a feed. -/
def feed (h : Host ε) : Feed → Host ε
  | .direct line => { h with console := (h.console.handleInput line).2 }
  | .step step => (h.perform step).2

/-- The host after feeds, one after the other. -/
def feedAll (h : Host ε) : List Feed → Host ε
  | [] => h
  | feed :: feeds => (h.feed feed).feedAll feeds

/-- What handling comes to for each line that the console gets, feed after feed. -/
def handledAll (h : Host ε) : List Feed → List Handling
  | [] => []
  | feed :: feeds => h.handled feed ++ (h.feed feed).handledAll feeds

end Feeding

/-! ## One feed -/

/-- One event was logged, and it tells of no line. -/
def TellsOfItself (before after : Console Terminal HookLog) : Prop :=
  after.registry = before.registry ∧
    ∃ event : Event, ¬ event.TellsDispatch ∧ after.world = before.world.record event

theorem tellsOfItself_reveal (c : Console Terminal HookLog) : TellsOfItself c c.reveal :=
  ⟨rfl, .shown, by decide, rfl⟩

theorem tellsOfItself_hide (c : Console Terminal HookLog) : TellsOfItself c c.hide :=
  ⟨rfl, .hidden, by decide, rfl⟩

theorem tellsOfItself_toggle (c : Console Terminal HookLog) : TellsOfItself c c.toggle := by
  rw [Console.toggle]
  split
  · exact tellsOfItself_hide c
  · exact tellsOfItself_reveal c

section OneFeed

variable [LineEditor ε]

/-- A line that is submitted is either handled, or it is not passed on. -/
theorem submit_passes_or_tells (h : Host ε) (line : String) :
    h.passedOn (.step (.submit line)) = [line] ∧
        (h.submit line).1 = some (h.console.handleInput line).1 ∧
        (h.submit line).2.console = (h.console.handleInput line).2 ∨
      h.passedOn (.step (.submit line)) = [] ∧ (h.submit line).1 = none ∧
        TellsOfItself h.console (h.submit line).2.console := by
  rw [passedOn]
  rcases submit_cases h line with ht | ⟨ht, ho⟩ | ⟨ht, ho⟩
  · rw [if_neg fun hpasses => Bool.false_ne_true (hpasses.1.symm.trans ht), submit_of_isToggle ht]
    exact .inr ⟨rfl, rfl, tellsOfItself_toggle h.console⟩
  · rw [if_neg fun hpasses => Bool.false_ne_true (ho.symm.trans hpasses.2),
      submit_of_closed ht ho]
    exact .inr ⟨rfl, rfl, rfl, .inputIgnored, by decide, rfl⟩
  · rw [if_pos ⟨ht, ho⟩, submit_of_open ht ho]
    exact .inl ⟨rfl, rfl, rfl⟩

/-- A line that is submitted is answered by what became of it, if it was passed on. -/
theorem fst_submit_eq_head? (h : Host ε) (line : String) :
    (h.submit line).1 = (h.handled (.step (.submit line))).head?.map (·.dispatch) := by
  rw [handled]
  rcases submit_passes_or_tells h line with ⟨hone, hanswer, -⟩ | ⟨hnone, hanswer, -⟩
  · rw [hone, hanswer, Console.handlings, List.head?_cons, Option.map_some,
      Console.dispatch_handling]
  · rw [hnone, hanswer]
    rfl

/-- Either the console handles the lines that it gets, or it gets none and the host tells of
itself. -/
theorem console_feed (h : Host ε) (feed : Feed) :
    (h.feed feed).console = (h.console.handleAll (h.passedOn feed)).2 ∨
      h.passedOn feed = [] ∧ TellsOfItself h.console (h.feed feed).console := by
  cases feed with
  | direct line => exact .inl rfl
  | step step =>
    cases step with
    | submit line =>
      rw [feed, perform_submit]
      rcases submit_passes_or_tells h line with ⟨hone, -, hconsole⟩ | ⟨hnone, -, htells⟩
      · rw [hone, hconsole]
        exact .inl rfl
      · exact .inr ⟨hnone, htells⟩
    | runScript source =>
      refine .inl ?_
      show (h.runScript source).2.console = _
      rw [runScript_eq, passedOn, Console.handleScript]
    | runFile path =>
      refine .inl ?_
      show (h.runFile path).2.console = _
      rw [runFile, passedOn]
      cases h.console.world.files.readText path with
      | ok source =>
        show (h.runScript source).2.console = _
        rw [runScript_eq, Console.handleScript]
      | error cause => rfl
    | reveal => exact .inr ⟨rfl, tellsOfItself_reveal _⟩
    | hide => exact .inr ⟨rfl, tellsOfItself_hide _⟩
    | toggle => exact .inr ⟨rfl, tellsOfItself_toggle _⟩

theorem registry_feed (h : Host ε) (feed : Feed) :
    (h.feed feed).console.registry = h.console.registry := by
  rcases console_feed h feed with hconsole | ⟨-, hregistry, -⟩
  · rw [hconsole, Console.registry_handleAll]
  · exact hregistry

/-- What the log tells agrees with what became of the lines that the console got. -/
theorem tells_feed {h : Host ε} (hd : h.console.registry.Discreet) (feed : Feed) :
    ∃ told, World.Tells h.console.world (h.feed feed).console.world (h.handled feed) told := by
  rw [handled]
  rcases console_feed h feed with hconsole | ⟨hnone, -, event, hevent, hworld⟩
  · rw [hconsole]
    exact Console.tells_handleAll hd _
  · rw [hnone, hworld]
    exact ⟨[event], .of_quiet (World.log_record ..) (List.forall_mem_singleton.mpr hevent)
      (List.forall_mem_nil _)⟩

end OneFeed

/-! ## Feeds one after the other -/

section Feeds

variable [LineEditor ε]

theorem tells_feedAll {h : Host ε} (hd : h.console.registry.Discreet) (feeds : List Feed) :
    ∃ told,
      World.Tells h.console.world (h.feedAll feeds).console.world (h.handledAll feeds) told := by
  induction feeds generalizing h with
  | nil => exact ⟨[], .of_quiet (List.append_nil _).symm (by simp) (List.forall_mem_nil _)⟩
  | cons feed feeds ih =>
    obtain ⟨told, hfirst⟩ := tells_feed hd feed
    have hnext : (h.feed feed).console.registry.Discreet := by
      rw [registry_feed]
      exact hd
    obtain ⟨more, hothers⟩ := ih hnext
    exact ⟨told ++ more, hfirst.append hothers⟩

end Feeds

/-- A script counts the lines that were not carried out. -/
theorem fst_runScript_eq_countP (h : Host ε) (source : String) :
    (h.runScript source).1 =
      (h.handled (.step (.runScript source))).countP (·.isFailure) := by
  rw [runScript_eq, Console.handleScript, ← Console.map_dispatch_handlings, List.countP_map]
  rfl

/-- **Every line that was not carried out is told of by one event, and no other line is.**  On any
console, for lines handed to it one after the other, the events that tell of a line and the lines
that named no command or whose command failed belong together in order, each to each; the event
names what the line named, as it was typed, and gives the reason that was printed.  It is the same
for lines that get to a console by way of a host, submitted or in scripts, whatever else is done
with the host; and the number that a script comes to is the number of such events that it adds to
the log. -/
theorem tells_of_discreet {σ η : Type} [Sink σ] [LineEditor ε] {r : Registry} (hr : r.Discreet) :
    (∀ c : Console σ η, c.registry = r → ∀ lines,
      (c.handlings lines).map (·.dispatch) = (c.handleAll lines).1 ∧
      ∃ told, World.Tells c.world (c.handleAll lines).2.world (c.handlings lines) told) ∧
    ∀ h : Host ε, h.console.registry = r →
      (∀ feeds, ∃ told,
        World.Tells h.console.world (h.feedAll feeds).console.world (h.handledAll feeds) told) ∧
      (∀ line, (h.submit line).1 = (h.handled (.step (.submit line))).head?.map (·.dispatch)) ∧
      ∀ source, ∃ told,
        World.Tells h.console.world (h.runScript source).2.console.world
          (h.handled (.step (.runScript source))) told ∧
        (h.runScript source).1 = (told.filter (·.TellsDispatch)).length := by
  refine ⟨?_, ?_⟩
  · rintro c rfl lines
    exact ⟨c.map_dispatch_handlings lines, Console.tells_handleAll hr lines⟩
  · rintro h rfl
    refine ⟨fun feeds => tells_feedAll hr feeds, fst_submit_eq_head? h, fun source => ?_⟩
    obtain ⟨told, htells⟩ := tells_feed hr (.step (.runScript source))
    refine ⟨told, htells, ?_⟩
    rw [htells.length_eq, fst_runScript_eq_countP]

/-- A command that crashes. -/
def boom : Command where
  names := ["boom"]
  help := "Crashes."
  action := fun _ _ => .done (.crashed (some "out of order"))

/-- A command that runs the one that its first parameter names, on the others. -/
def relay : Command where
  names := ["relay"]
  help := "Runs a command."
  action := fun entries parameters =>
    match parameters with
    | [] => .done .completed
    | name :: others =>
      match Entry.find? entries name with
      | some entry => entry.execute others
      | none => .done (.failed (.commandNotFound name))

/-- The built-in commands, one that crashes and one that runs others. -/
def relaying : Registry := (Registry.registerAll {} (Builtin.all "." ++ [boom, relay])).1

theorem discreet_relaying : relaying.Discreet := by
  have hcommands : relaying.commands = Builtin.all "." ++ [boom, relay] := by rfl
  refine Registry.discreet_of_tellsOnly ?_
  rw [hcommands]
  refine List.forall_mem_append.mpr ⟨fun _ => Builtin.discreet_of_mem_all,
    List.forall_mem_cons.mpr ⟨?_, List.forall_mem_singleton.mpr ?_⟩⟩
  · intro entries _ parameters
    exact .of_avoids (.done _)
  · intro entries hentries parameters
    rw [relay]
    dsimp only
    split
    · exact .of_avoids (.done _)
    · split
      · rename_i entry hfind
        exact hentries entry (List.mem_of_find?_eq_some hfind) _
      · exact .of_avoids (.done _)

/-- A closed console with these commands. -/
def relayed : Host EditorRecord := start {} relaying {} idle {} (.separate [])

/-- A line past the host, one for the closed console, and then one for the open one. -/
def threeWays : List Feed :=
  [.direct "Nope 1", .step (.submit "boom"), .step .toggle, .step (.submit "RELAY boom"),
    .step (.submit " "), .step (.runScript "# twice\nrelay gone\n\nrelay echo hi\nboom")]

theorem tells_relayed :
    (relayed.handledAll threeWays).map (fun handling => (handling.token, handling.dispatch)) =
        [("Nope", .notFound), ("RELAY", .failed), ("", .blank), ("relay", .failed),
          ("relay", .executed), ("boom", .failed)] ∧
      ∃ told,
        World.Tells idle (relayed.feedAll threeWays).console.world (relayed.handledAll threeWays)
          told ∧
        (told.filter (·.TellsDispatch)).length = 4 := by
  obtain ⟨-, hhosts⟩ := tells_of_discreet (σ := Terminal) (η := HookLog) (ε := EditorRecord)
    discreet_relaying
  obtain ⟨hfeeds, -, -⟩ := hhosts relayed rfl
  obtain ⟨told, htells⟩ := hfeeds threeWays
  refine ⟨by rfl, told, htells, ?_⟩
  rw [htells.length_eq]
  rfl

end Host
end CommandConsole
