import CommandConsole.Builtin
import CommandConsole.Transcript
import CommandConsole.Proofs.Dispatch.Depth
import CommandConsole.Proofs.Dispatch.Reachability
import CommandConsole.Proofs.Line.Joining

/-!
# Help on commands

`help` looks a name up among the commands as a running command sees them, dispatch looks it up in
the registry.  Both go through the same cards in the same order (`Registry.map_toCard_entries`), so
they find the same card.  A token that makes up a line of its own is the command of that line and
the first parameter of the line in which `help ` stands before it.  So `help` tells about the
command that the token would run by itself, and where it would run none, `help` says in the same
words that there is none.
-/
namespace CommandConsole

namespace Registry

/-- The card that a name leads to is that of the command it belongs to. -/
theorem find?_cards (r : Registry) (name : String) :
    (r.commands.map Command.toCard).find? (·.answersTo name) =
      (r.resolve name).map Command.toCard := List.find?_map

end Registry

namespace Builtin

variable {σ : Type} [Sink σ]

theorem calls_sayAll (lines : List String) (sink : σ) (world : World) :
    (sayAll lines).calls sink world = lines.map .print := by
  induction lines generalizing sink with
  | nil => rfl
  | cons line lines ih => exact congrArg (SinkCall.print line :: ·) (ih _)

/-- What `help` prints, given what the name it is asked about belongs to, if it is asked about one.
-/
def helpCalls (cards : List Card) : List String → List SinkCall
  | [] => cards.map fun card => .print (summary card)
  | name :: _ =>
    match cards.find? (·.answersTo name) with
    | some card => [.print card.help]
    | none => [.printStyled (ConsoleError.commandNotFound name).message .error]

/-- `help` always completes, and it knows no more of the commands than their cards. -/
theorem run_help (entries : List Entry) (parameters : List String) (sink : σ) (world : World) :
    ((help.action entries parameters).run sink world).1 = .completed ∧
      (help.action entries parameters).calls sink world =
        helpCalls (entries.map Entry.toCard) parameters := by
  cases parameters with
  | nil =>
    simp only [help, Action.bind_eq]
    rw [Action.run_bind, Action.calls_bind, calls_sayAll, helpCalls, List.map_map, List.map_map]
    exact ⟨rfl, List.append_nil _⟩
  | cons name rest =>
    have hfind : (entries.map Entry.toCard).find? (·.answersTo name) =
        (Entry.find? entries name).map Entry.toCard := List.find?_map
    simp only [help, helpCalls, hfind]
    cases Entry.find? entries name with
    | none => exact ⟨rfl, rfl⟩
    | some entry => exact ⟨rfl, rfl⟩

end Builtin

namespace Line

/-- A token that makes up a line. -/
theorem parse_token {token : String} (hspace : ' ' ∉ token.toList) (h : Text.IsTrimmed token) :
    parse token = ⟨token, []⟩ := by
  refine ext_tokens (tokens_parse_eq_iff.mpr ⟨List.cons_ne_nil _ _, ?_, ?_⟩)
  · exact List.forall_mem_singleton.mpr hspace
  · exact Text.trimsTo_iff.mpr (Text.trim_eq_self_iff.mpr h)

/-- A token that stands after another one. -/
theorem parse_append_token {command token : String} (hcommand : ' ' ∉ command.toList)
    (hspace : ' ' ∉ token.toList) (h : Text.IsTrimmed (command ++ " " ++ token)) :
    parse (command ++ " " ++ token) = ⟨command, [token]⟩ := by
  refine ext_tokens (tokens_parse_eq_iff.mpr ⟨List.cons_ne_nil _ _, ?_, ?_⟩)
  · exact List.forall_mem_cons.mpr ⟨hcommand, List.forall_mem_singleton.mpr hspace⟩
  · exact Text.trimsTo_iff.mpr (Text.trim_eq_self_iff.mpr h)

/-- The line that asks for help on a token. -/
theorem parse_help_token {token : String} (hne : token ≠ "") (hspace : ' ' ∉ token.toList)
    (h : Text.IsTrimmed token) : parse ("help " ++ token) = ⟨"help", [token]⟩ := by
  have hhelp : "help " = "help" ++ " " := by decide
  have htrimmed : Text.IsTrimmed "help" := by decide
  rw [hhelp]
  exact parse_append_token (by decide) hspace
    (Text.isTrimmed_append htrimmed.start h.finish (by decide) hne " ")

end Line

namespace Console

variable {σ η : Type} [Sink σ] {c : Console σ η}

/-- A line that calls `help` is executed. -/
theorem handled_help (hhelp : c.registry.resolve "help" = some Builtin.help) {raw : String}
    (hraw : (Line.parse raw).command = "help") :
    Handled c raw .executed
      (.printStyled raw .echo :: Builtin.helpCalls (c.registry.commands.map Command.toCard)
        (Line.parse raw).parameters) := by
  obtain ⟨i, hfirst⟩ := Registry.resolve_eq_some_iff.mp hhelp
  rw [← hraw] at hfirst
  have hblank : Text.trim raw ≠ "" := by
    rw [Ne, ← Line.command_parse_eq_empty_iff, hraw]
    decide
  obtain ⟨hcompleted, hcalls⟩ := Builtin.run_help c.registry.entries (Line.parse raw).parameters
    (Sink.printStyled c.sink raw .echo) c.world
  have hexecuted := Handled.executed i Builtin.help hblank hfirst hcompleted
  rw [ownCalls, actionOf, hcalls, Registry.map_toCard_entries] at hexecuted
  exact hexecuted

/-- What `help` prints about a token goes by the command that the token belongs to. -/
theorem handled_help_token (hhelp : c.registry.resolve "help" = some Builtin.help) {token : String}
    (hne : token ≠ "") (hspace : ' ' ∉ token.toList) (htrimmed : Text.IsTrimmed token) :
    Handled c ("help " ++ token) .executed
      [.printStyled ("help " ++ token) .echo,
        match c.registry.resolve token with
        | some command => .print command.help
        | none => .printStyled (ConsoleError.commandNotFound token).message .error] := by
  have hparse := Line.parse_help_token hne hspace htrimmed
  have handled := handled_help hhelp (congrArg Line.command hparse)
  rw [hparse, Builtin.helpCalls, Registry.find?_cards] at handled
  cases hresolve : c.registry.resolve token with
  | none =>
    rw [hresolve] at handled
    exact handled
  | some command =>
    rw [hresolve] at handled
    exact handled

/-- **`help` agrees with dispatch.**  Where the name `help` belongs to the built-in command, asking
it about a token that can make up a line is always carried out, and after the echo it prints one
thing: the help of the command that the token runs by itself, or, exactly if it names none, the
words in which that is reported.  Without a token it prints one line for every command in the order
of registration, also for those that no name leads to. -/
theorem help_agrees_with_dispatch (hhelp : c.registry.resolve "help" = some Builtin.help) :
    (∀ token : String, token ≠ "" → ' ' ∉ token.toList → Text.IsTrimmed token →
      (c.handleInput ("help " ++ token)).1 = .executed ∧
      ((c.handleInput token).1 = .notFound ∧
          (∃ text, c.inputCalls token = [.printStyled text .error] ∧
            c.inputCalls ("help " ++ token) =
              [.printStyled ("help " ++ token) .echo, .printStyled text .error]) ∨
        (c.handleInput token).1 ≠ .notFound ∧
          ∃ i command, c.registry.Executes token i ∧ c.registry.commands[i]? = some command ∧
            c.inputCalls ("help " ++ token) =
              [.printStyled ("help " ++ token) .echo, .print command.help])) ∧
    (c.handleInput "help").1 = .executed ∧
    c.inputCalls "help" =
      .printStyled "help" .echo :: c.registry.commands.map fun command =>
        .print (", ".intercalate command.names ++ " --> " ++ command.help) := by
  refine ⟨fun token hne hspace htrimmed => ?_, ?_⟩
  · obtain ⟨hexecuted, hcalls⟩ := (handled_help_token hhelp hne hspace htrimmed).sound
    refine ⟨hexecuted, ?_⟩
    have htoken : (Line.parse token).command = token :=
      congrArg Line.command (Line.parse_token hspace htrimmed)
    have hblank : Text.trim token ≠ "" := by
      rw [Ne, ← Line.command_parse_eq_empty_iff, htoken]
      exact hne
    cases hresolve : c.registry.resolve token with
    | none =>
      left
      rw [hresolve] at hcalls
      rw [← htoken] at hresolve
      have hreported := (Handled.notFound hblank (Registry.resolve_eq_none_iff.mp hresolve)).sound
      rw [htoken] at hreported
      exact ⟨hreported.1, _, hreported.2, hcalls⟩
    | some command =>
      right
      rw [hresolve] at hcalls
      obtain ⟨i, hfirst⟩ := Registry.resolve_eq_some_iff.mp hresolve
      refine ⟨?_, i, command, ?_, hfirst.atPosition, hcalls⟩
      · rw [Ne, handleInput_eq_notFound_iff hblank, htoken, hresolve]
        exact Option.some_ne_none command
      · rw [← htoken] at hfirst
        exact Registry.executes_iff.mpr ⟨hblank, command, hfirst⟩
  · have hparse : Line.parse "help" = ⟨"help", []⟩ := Line.parse_token (by decide) (by decide)
    obtain ⟨hexecuted, hcalls⟩ := (handled_help hhelp (congrArg Line.command hparse)).sound
    rw [hparse, Builtin.helpCalls, List.map_map] at hcalls
    exact ⟨hexecuted, hcalls⟩

/-- The built-in commands, and one of the host that shares a name with `echo`. -/
def reception : Console Transcript Unit where
  registry := (Registry.registerAll {} (Builtin.all "." ++
    [{ names := ["ECHO", "Gruß"], help := "Greets.", action := fun _ _ => .done .completed }])).1
  sink := {}
  hooks := ()
  world := { files := { nodes := [] }, clock := fun _ => .epoch }

/-- The help of a command, the report on a name of nobody, and the list with the shared name. -/
theorem help_of_sharedName :
    (∃ i command, reception.registry.Executes "ECHO" i ∧
      reception.registry.commands[i]? = some command ∧
      reception.inputCalls ("help " ++ "ECHO") =
        [.printStyled ("help " ++ "ECHO") .echo, .print command.help]) ∧
    (∃ text, reception.inputCalls "Gruss" = [.printStyled text .error] ∧
      reception.inputCalls ("help " ++ "Gruss") =
        [.printStyled ("help " ++ "Gruss") .echo, .printStyled text .error]) ∧
    .print "ECHO, Gruß --> Greets." ∈ reception.inputCalls "help" := by
  obtain ⟨htoken, -, hlist⟩ := help_agrees_with_dispatch (c := reception) rfl
  refine ⟨?_, ?_, ?_⟩
  · obtain ⟨-, ⟨hnone, -⟩ | ⟨-, hcommand⟩⟩ :=
      htoken "ECHO" (by decide) (by decide) (by decide)
    · exact absurd hnone (by decide)
    · exact hcommand
  · obtain ⟨-, ⟨-, hreport⟩ | ⟨hsome, -⟩⟩ :=
      htoken "Gruss" (by decide) (by decide) (by decide)
    · exact hreport
    · exact absurd (by decide) hsome
  · rw [hlist]
    decide

end Console
end CommandConsole
