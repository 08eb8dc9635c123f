import CommandConsole.Proofs.Host.Submission
import CommandConsole.Proofs.Sink.Independence
import Mathlib.Data.List.Infix

/-!
# A session is a fold over the lines that were read

The host asks for one line after the other until the input ends. Up to there its run is nothing but
the submission of the lines, in order, to the host it started as: interruptions are passed over,
what comes after the end is not looked at, and what the run returns is how the input ended
(`run_eq_submitAll`). For each reading it asked for, the host showed the prompt that goes with the
number of toggle lines read by then.

The host speaks before the first line and after the last one. On a stream of its own that touches
nothing else. On the terminal its words stand in the same stream as what the lines print, in front
of that and behind it; the lines print the same as if nothing were in front, since no console can
look at the stream (`submitAll_inStep`).

The editor is one that keeps what it is told, so the prompts and the remembered lines can be read
off it.
-/
namespace CommandConsole

namespace Reading

/-- How the input ends with a reading, if it does. -/
def end? : Reading → Option (Except Breakdown Unit)
  | line _ | interrupted => none
  | endOfInput => some (.ok ())
  | failed e => some (.error (.failed e))
  | crashed => some (.error .crashed)

/-- The line that was read, if one was. -/
def line? : Reading → Option String
  | line text => some text
  | interrupted | endOfInput | failed _ | crashed => none

/-- The readings before the first with which the input ends. -/
def beforeEnd (readings : List Reading) : List Reading :=
  readings.takeWhile fun reading => reading.end?.isNone

/-- How the input ends. After the last reading there is only the end of the input. -/
def ending (readings : List Reading) : Except Breakdown Unit :=
  (readings.findSome? end?).getD (.ok ())

/-- The lines among some readings. -/
def lines (readings : List Reading) : List String := readings.filterMap line?

theorem beforeEnd_line (text : String) (readings : List Reading) :
    beforeEnd (line text :: readings) = line text :: beforeEnd readings := rfl

theorem beforeEnd_interrupted (readings : List Reading) :
    beforeEnd (interrupted :: readings) = interrupted :: beforeEnd readings := rfl

theorem lines_line (text : String) (readings : List Reading) :
    lines (line text :: readings) = text :: lines readings := rfl

theorem lines_interrupted (readings : List Reading) :
    lines (interrupted :: readings) = lines readings := rfl

/-- Readings after the one with which the input ends do not change how it ends, nor what was read
before. -/
theorem take_beforeEnd (readings : List Reading) :
    beforeEnd (readings.take ((beforeEnd readings).length + 1)) = beforeEnd readings ∧
      ending (readings.take ((beforeEnd readings).length + 1)) = ending readings := by
  induction readings with
  | nil => exact ⟨rfl, rfl⟩
  | cons reading readings ih =>
    unfold beforeEnd ending at ih ⊢
    -- the reading ends the input, or it counts and the rest is cut one place earlier
    cases hend : reading.end? with
    | none =>
      simp only [List.takeWhile_cons, hend, Option.isNone_none, if_true, List.length_cons,
        List.take_succ_cons, List.findSome?_cons]
      exact ⟨congrArg (reading :: ·) ih.1, ih.2⟩
    | some how =>
      simp only [List.takeWhile_cons, hend, Option.isNone_some, Bool.false_eq_true, if_false,
        List.length_nil, List.take_succ_cons, List.findSome?_cons, and_self]

end Reading

/-- The prompts that go with some readings and the one after them: before each of these, the console
is open or closed by the number of toggle lines read so far. -/
def Config.promptsFor (config : Config) (isOpen : Bool) (readings : List Reading) : List String :=
  readings.inits.map fun earlier =>
    config.promptFor (config.openAfter isOpen (Reading.lines earlier))

theorem Config.promptsFor_line (config : Config) (isOpen : Bool) (text : String)
    (readings : List Reading) :
    config.promptsFor isOpen (.line text :: readings) =
      config.promptFor isOpen ::
        config.promptsFor (if config.isToggle text then !isOpen else isOpen) readings := by
  unfold promptsFor
  rw [List.inits_cons, List.map_cons, List.map_map]
  refine congrArg₂ List.cons rfl (List.map_congr_left fun earlier _ => ?_)
  rw [Function.comp_apply, ← openAfter_cons]
  rfl

theorem Config.promptsFor_interrupted (config : Config) (isOpen : Bool)
    (readings : List Reading) :
    config.promptsFor isOpen (.interrupted :: readings) =
      config.promptFor isOpen :: config.promptsFor isOpen readings := by
  unfold promptsFor
  rw [List.inits_cons, List.map_cons, List.map_map]
  exact congrArg₂ List.cons rfl (List.map_congr_left fun _ _ => rfl)

namespace Host

/-- The words that a session starts with. -/
def greeting (config : Config) : String := if config.showBanner then banner config else ""

/-- The words that a session ends with. -/
def farewell : Except Breakdown Unit → String
  | .ok () => goodbye
  | .error _ => ""

section AnyEditor

variable {ε : Type} [LineEditor ε]

omit [LineEditor ε] in
/-- Saying nothing leaves the host as it is. -/
theorem say_empty (h : Host ε) : h.say "" = h := by
  obtain ⟨editor, console, config, stdout⟩ := h
  cases stdout with
  | separate written => simp [say, Text.encode]
  | terminal =>
    obtain ⟨registry, ⟨⟨written, room⟩, transcript⟩, hooks, world, isOpen⟩ := console
    cases room <;> simp [say, Writer.write, Text.encode]

/-- A run is reading lines between the first words and the last ones. -/
theorem run_eq_readLines (h : Host ε) (readings : List Reading) :
    h.run readings =
      (((h.say (greeting h.config)).readLines readings).1,
        ((h.say (greeting h.config)).readLines readings).2.say
          (farewell ((h.say (greeting h.config)).readLines readings).1)) := by
  have hgreeted : (if h.config.showBanner then h.say (banner h.config) else h) =
      h.say (greeting h.config) := by
    unfold greeting
    split
    · rfl
    · exact (say_empty h).symm
  rw [run, hgreeted]
  rcases (h.say (greeting h.config)).readLines readings with ⟨result | result, after⟩
  · exact congrArg (Prod.mk _) (say_empty after).symm
  · rfl

omit [LineEditor ε] in
/-- The host's words change nothing that the host acts on. -/
theorem say_frame (h : Host ε) (text : String) :
    (h.say text).editor = h.editor ∧ (h.say text).config = h.config ∧
      (h.say text).console.isOpen = h.console.isOpen := by
  obtain ⟨editor, console, config, written | _⟩ := h
  · exact ⟨rfl, rfl, rfl⟩
  · exact ⟨rfl, rfl, rfl⟩

omit [LineEditor ε] in
/-- What is said to a stream of its own reaches neither the console nor the configuration. -/
theorem say_of_separate {h : Host ε} {written : Bytes} (hseparate : h.stdout = .separate written)
    (text : String) :
    h.say text = { h with stdout := .separate (written ++ Text.encode text) } := by
  rw [say, hseparate]

theorem ask_of_separate {h : Host ε} {written : Bytes} (hseparate : h.stdout = .separate written) :
    h.ask = { h with
      editor := (LineEditor.showPrompt h.editor h.prompt).1
      stdout := .separate
        (written ++ Text.encode (LineEditor.showPrompt h.editor h.prompt).2) } :=
  say_of_separate (h := { h with editor := (LineEditor.showPrompt h.editor h.prompt).1 })
    hseparate _

/-- With a stream of its own for the host's words, the console goes through the same lines whatever
the editor is. -/
theorem readLines_of_separate {h : Host ε} {written : Bytes}
    (hseparate : h.stdout = .separate written) (readings : List Reading) :
    (h.readLines readings).1 = Reading.ending readings ∧
      (h.readLines readings).2.console =
        (h.submitAll (Reading.lines (Reading.beforeEnd readings))).2.console ∧
      ∃ later, (h.readLines readings).2.stdout = .separate later := by
  induction readings generalizing h written with
  | nil =>
    have hask := ask_of_separate hseparate
    exact ⟨rfl, congrArg (·.console) hask, _, congrArg (·.stdout) hask⟩
  | cons reading readings ih =>
    -- asking leaves its traces with the editor and on the host's own stream only
    have hask : h.ask.console = h.console ∧ h.ask.config = h.config := by
      rw [ask_of_separate hseparate]
      exact ⟨rfl, rfl⟩
    obtain ⟨shown, hshown⟩ : ∃ shown, h.ask.stdout = .separate shown := by
      rw [ask_of_separate hseparate]
      exact ⟨_, rfl⟩
    cases reading with
    | line text =>
      have hsubmitted : (h.ask.submit text).2.stdout = .separate shown := by
        rw [stdout_submit, hshown]
      have hconsole : (h.ask.submit text).2.console = (h.submit text).2.console :=
        (submit_congr hask.1 hask.2 text).2
      have hconfig : (h.ask.submit text).2.config = (h.submit text).2.config := by
        rw [config_submit, config_submit, hask.2]
      obtain ⟨hending, hafter, hstdout⟩ := ih hsubmitted
      rw [readLines, Reading.beforeEnd_line, Reading.lines_line, submitAll_cons]
      exact ⟨hending, hafter.trans (submitAll_congr hconsole hconfig _).2, hstdout⟩
    | interrupted =>
      obtain ⟨hending, hafter, hstdout⟩ := ih hshown
      rw [readLines, Reading.beforeEnd_interrupted, Reading.lines_interrupted]
      exact ⟨hending, hafter.trans (submitAll_congr hask.1 hask.2 _).2, hstdout⟩
    | endOfInput => exact ⟨rfl, hask.1, shown, hshown⟩
    | failed e => exact ⟨rfl, hask.1, shown, hshown⟩
    | crashed => exact ⟨rfl, hask.1, shown, hshown⟩

theorem console_run_of_separate {h : Host ε} {written : Bytes}
    (hseparate : h.stdout = .separate written) (readings : List Reading) :
    (h.run readings).1 = Reading.ending readings ∧
      (h.run readings).2.console =
        (h.submitAll (Reading.lines (Reading.beforeEnd readings))).2.console := by
  have hgreeted := say_of_separate hseparate (greeting h.config)
  obtain ⟨hending, hconsole, later, hstdout⟩ := readLines_of_separate
    (congrArg (·.stdout) hgreeted) readings
  rw [run_eq_readLines, say_of_separate hstdout, hending]
  exact ⟨rfl, hconsole.trans (submitAll_congr (congrArg (·.console) hgreeted)
    (congrArg (·.config) hgreeted) _).2⟩

end AnyEditor

/-! ## Prompts and the host's own words change nothing else -/

/-- The host with other prompts on record and another standard output. -/
def withWords (h : Host EditorRecord) (prompts : List String) (stdout : StandardOutput) :
    Host EditorRecord :=
  { h with editor.prompts := prompts, stdout := stdout }

theorem submit_withWords (h : Host EditorRecord) (prompts : List String) (stdout : StandardOutput)
    (line : String) :
    (h.withWords prompts stdout).submit line =
      ((h.submit line).1, (h.submit line).2.withWords prompts stdout) := by
  rcases submit_cases h line with ht | ⟨ht, ho⟩ | ⟨ht, ho⟩
  · have hleft := submit_of_isToggle (h := h.withWords prompts stdout) ht
    rw [hleft, submit_of_isToggle ht]
    rfl
  · have hleft := submit_of_closed (h := h.withWords prompts stdout) ht ho
    rw [hleft, submit_of_closed ht ho]
    rfl
  · have hleft := submit_of_open (h := h.withWords prompts stdout) ht ho
    rw [hleft, submit_of_open ht ho]
    dsimp only [withWords]
    split
    · rfl
    · rfl

theorem submitAll_withWords (h : Host EditorRecord) (prompts : List String)
    (stdout : StandardOutput) (lines : List String) :
    (h.withWords prompts stdout).submitAll lines =
      ((h.submitAll lines).1, (h.submitAll lines).2.withWords prompts stdout) := by
  induction lines generalizing h with
  | nil => rfl
  | cons line lines ih => simp only [submitAll_cons, submit_withWords, ih]

theorem say_withWords (h : Host EditorRecord) (prompts : List String) (text : String) :
    (h.withWords prompts h.stdout).say text =
      (h.say text).withWords prompts (h.say text).stdout := by
  obtain ⟨editor, console, config, written | _⟩ := h
  · rfl
  · rfl

theorem ask_eq (h : Host EditorRecord) :
    h.ask = h.withWords (h.editor.prompts ++ [h.prompt]) h.stdout :=
  say_empty _

/-! ## The loop -/

/-- Reading lines submits those before the end of the input, and shows one prompt for each reading
asked for. -/
theorem readLines_eq (h : Host EditorRecord) (readings : List Reading) :
    h.readLines readings =
      (Reading.ending readings,
        (h.submitAll (Reading.lines (Reading.beforeEnd readings))).2.withWords
          (h.editor.prompts ++
            h.config.promptsFor h.console.isOpen (Reading.beforeEnd readings))
          h.stdout) := by
  induction readings generalizing h with
  | nil =>
    rw [readLines, ask_eq]
    rfl
  | cons reading readings ih =>
    cases reading with
    | line text =>
      rw [readLines, ask_eq, submit_withWords, ih, submitAll_withWords, Reading.beforeEnd_line,
        Reading.lines_line, submitAll_cons, Config.promptsFor_line]
      simp only [withWords, config_submit, isOpen_submit, List.append_assoc, List.cons_append,
        List.nil_append]
      rfl
    | interrupted =>
      rw [readLines, ask_eq, ih, submitAll_withWords, Reading.beforeEnd_interrupted,
        Reading.lines_interrupted, Config.promptsFor_interrupted]
      simp only [withWords, List.append_assoc, List.cons_append, List.nil_append]
      rfl
    | endOfInput =>
      rw [readLines, ask_eq]
      rfl
    | failed e =>
      rw [readLines, ask_eq]
      rfl
    | crashed =>
      rw [readLines, ask_eq]
      rfl

/-- A run is the submission of the lines that were read, between the first words and the last
ones. -/
theorem run_eq_say (h : Host EditorRecord) (readings : List Reading) :
    h.run readings =
      (Reading.ending readings,
        { ((h.say (greeting h.config)).submitAll (Reading.lines (Reading.beforeEnd readings))).2.say
            (farewell (Reading.ending readings)) with
          editor.prompts := h.editor.prompts ++
            h.config.promptsFor h.console.isOpen (Reading.beforeEnd readings) }) := by
  obtain ⟨heditor, hconfig, hopen⟩ := say_frame h (greeting h.config)
  have hstdout := stdout_submitAll (h.say (greeting h.config))
    (Reading.lines (Reading.beforeEnd readings))
  rw [run_eq_readLines, readLines_eq, heditor, hconfig, hopen, ← hstdout, say_withWords]
  rfl

theorem run_take (h : Host EditorRecord) (readings : List Reading) :
    h.run (readings.take ((Reading.beforeEnd readings).length + 1)) = h.run readings := by
  obtain ⟨hbefore, hending⟩ := Reading.take_beforeEnd readings
  rw [run_eq_say, hbefore, hending, ← run_eq_say]

/-! ## Hosts in step -/

section InStep

variable {ε : Type}

/-- Two hosts that differ in their terminals only, which `R` relates. -/
structure InStep (R : Terminal → Terminal → Prop) (h other : Host ε) : Prop where
  editor : h.editor = other.editor
  console : Console.InStep R h.console other.console
  config : h.config = other.config
  stdout : h.stdout = other.stdout

variable {R : Terminal → Terminal → Prop} {h other : Host ε}

/-- A host in step with another one whose stream lacks what is in front is that host over the longer
stream. -/
theorem eq_of_inStep_behind {front : Bytes} (hs : InStep (Terminal.Behind front) h other) :
    h = { other with
      console.sink.out := { written := front ++ other.console.sink.out.written } } := by
  obtain ⟨editor, ⟨registry, ⟨⟨written, room⟩, transcript⟩, hooks, world, isOpen⟩, config, stdout⟩ :=
    h
  obtain ⟨heditor, ⟨hregistry, hhooks, hworld, hopen, ⟨⟨hwritten, hroom, -⟩, htranscript⟩⟩, hconfig,
    hstdout⟩ := hs
  dsimp only at heditor hregistry hhooks hworld hopen hwritten hroom htranscript hconfig hstdout
  subst heditor hregistry hhooks hworld hopen hwritten hroom htranscript hconfig hstdout
  rfl

variable [LineEditor ε]

/-- A line comes to the same on hosts in step. -/
theorem submit_inStep (hR : Sink.InStep R) (hs : InStep R h other) (line : String) :
    (h.submit line).1 = (other.submit line).1 ∧
      InStep R (h.submit line).2 (other.submit line).2 := by
  rcases submit_cases other line with ht | ⟨ht, ho⟩ | ⟨ht, ho⟩
  · have ht' : h.config.isToggle line = true := hs.config ▸ ht
    rw [submit_of_isToggle ht, submit_of_isToggle ht']
    exact ⟨rfl, { hs with console := Console.toggle_inStep hs.console }⟩
  · have ht' : h.config.isToggle line = false := hs.config ▸ ht
    rw [submit_of_closed ht ho, submit_of_closed ht' (hs.console.isOpen.trans ho)]
    have hworld := congrArg (·.record .inputIgnored) hs.console.world
    exact ⟨rfl, { hs with console := { hs.console with world := hworld } }⟩
  · have ht' : h.config.isToggle line = false := hs.config ▸ ht
    obtain ⟨hdispatch, hafter⟩ := Console.handleInput_inStep hR hs.console line
    rw [submit_of_open ht ho, submit_of_open ht' (hs.console.isOpen.trans ho), hs.editor]
    exact ⟨congrArg some hdispatch, { hs with editor := rfl, console := hafter }⟩

theorem submitAll_inStep (hR : Sink.InStep R) (hs : InStep R h other) (lines : List String) :
    InStep R (h.submitAll lines).2 (other.submitAll lines).2 := by
  induction lines generalizing h other with
  | nil => exact hs
  | cons line lines ih =>
    rw [submitAll_cons, submitAll_cons]
    exact ih (submit_inStep hR hs line).2

end InStep

/-! ## On the host's own stream and on the terminal's -/

/-- With a stream of its own for the host's words, the lines are submitted to the host as it
started. -/
theorem run_of_separate (h : Host EditorRecord) (written : Bytes) (readings : List Reading) :
    { h with stdout := .separate written }.run readings =
      (Reading.ending readings,
        { (h.submitAll (Reading.lines (Reading.beforeEnd readings))).2 with
          editor.prompts := h.editor.prompts ++
            h.config.promptsFor h.console.isOpen (Reading.beforeEnd readings)
          stdout := .separate (written ++ Text.encode (greeting h.config) ++
            Text.encode (farewell (Reading.ending readings))) }) := by
  have hgreeted : ({ h with stdout := .separate written } : Host EditorRecord).say
      (greeting h.config) =
        h.withWords h.editor.prompts (.separate (written ++ Text.encode (greeting h.config))) := rfl
  rw [run_eq_say, hgreeted, submitAll_withWords]
  rfl

/-- On a terminal that takes everything, what the lines print stands between the host's words. -/
theorem run_of_terminal (h : Host EditorRecord) (written : Bytes) (readings : List Reading) :
    let heard := (({ h with console.sink.out := {} } : Host EditorRecord).submitAll
      (Reading.lines (Reading.beforeEnd readings))).2
    ({ h with stdout := .terminal, console.sink.out := { written } } : Host EditorRecord).run
        readings =
      (Reading.ending readings,
        { heard with
          editor.prompts := h.editor.prompts ++
            h.config.promptsFor h.console.isOpen (Reading.beforeEnd readings)
          stdout := .terminal
          console.sink.out := {
            written := written ++ Text.encode (greeting h.config) ++
              heard.console.sink.out.written ++
              Text.encode (farewell (Reading.ending readings)) } }) := by
  intro heard
  let front := written ++ Text.encode (greeting h.config)
  let silent : Host EditorRecord := { h with stdout := .terminal, console.sink.out := {} }
  let spoken : Host EditorRecord :=
    { h with stdout := .terminal, console.sink.out := { written := front } }
  have hsteps : InStep (Terminal.Behind front) spoken silent :=
    ⟨rfl, ⟨rfl, rfl, rfl, rfl, ⟨(List.append_nil _).symm, rfl, rfl⟩, rfl⟩, rfl, rfl⟩
  have hspoken := eq_of_inStep_behind
    (submitAll_inStep (Terminal.inStep_behind front) hsteps
      (Reading.lines (Reading.beforeEnd readings)))
  have hsilent : (silent.submitAll (Reading.lines (Reading.beforeEnd readings))).2 =
      heard.withWords h.editor.prompts .terminal := by
    rw [show silent = ({ h with console.sink.out := {} } : Host EditorRecord).withWords
      h.editor.prompts .terminal from rfl, submitAll_withWords]
  rw [hsilent] at hspoken
  have hgreeted : ({ h with stdout := .terminal, console.sink.out := { written } } :
      Host EditorRecord).say (greeting h.config) = spoken := rfl
  rw [run_eq_say, hgreeted, hspoken]
  rfl

/-- **A run submits the lines that are read before the input ends, and nothing else.** Besides, it
says the first words and the last ones, to a stream of its own or to the terminal, in front of all
that the lines print there and behind it, and shows one prompt for each reading that it takes, as
the toggle lines before it have left the console open or closed. What comes after the reading that
ends the input is not looked at, and what the editor does with the lines and the prompts makes no
difference to the console. -/
theorem run_eq_submitAll (h : Host EditorRecord) (readings : List Reading) :
    let heard := Reading.beforeEnd readings
    let ending := Reading.ending readings
    let first := if h.config.showBanner then
        "\x1b[1;36mdevconsole v0.1.0\x1b[0m\n" ++
          "Type `help` to list commands, `" ++ h.config.toggleLine ++
          "` to open or close the console, Ctrl+D to exit.\n\n"
      else ""
    let last := match ending with
      | .ok () => "\nGoodbye!\n"
      | .error _ => ""
    let prompts := heard.inits.map fun earlier =>
      if h.config.openAfter h.console.isOpen (Reading.lines earlier) then h.config.prompt
      else h.config.closedPrompt
    (h.run readings =
      (ending,
        { ((h.say first).submitAll (Reading.lines heard)).2.say last with
          editor.prompts := h.editor.prompts ++ prompts })) ∧
    (∀ written, { h with stdout := .separate written }.run readings =
      (ending,
        { (h.submitAll (Reading.lines heard)).2 with
          editor.prompts := h.editor.prompts ++ prompts
          stdout := .separate (written ++ Text.encode first ++ Text.encode last) })) ∧
    (∀ written,
      let silent : Host EditorRecord := { h with console.sink.out := {} }
      { h with stdout := .terminal, console.sink.out := { written } }.run readings =
        (ending,
          { (silent.submitAll (Reading.lines heard)).2 with
            editor.prompts := h.editor.prompts ++ prompts
            stdout := .terminal
            console.sink.out := {
              written := written ++ Text.encode first ++
                (silent.submitAll (Reading.lines heard)).2.console.sink.out.written ++
                Text.encode last } })) ∧
    (∀ {ε : Type} [LineEditor ε] (editor : ε) (written : Bytes),
      (Host.run ⟨editor, h.console, h.config, .separate written⟩ readings).1 = ending ∧
        (Host.run ⟨editor, h.console, h.config, .separate written⟩ readings).2.console =
          (h.submitAll (Reading.lines heard)).2.console) ∧
    h.run (readings.take (heard.length + 1)) = h.run readings ∧
    ∀ lines, (h.submitAll lines).2.console.isOpen = h.config.openAfter h.console.isOpen lines := by
  intro heard ending first last prompts
  have hfirst : greeting h.config = first := rfl
  have hlast : farewell ending = last := rfl
  have hprompts : h.config.promptsFor h.console.isOpen heard = prompts := rfl
  rw [← hfirst, ← hlast, ← hprompts]
  refine ⟨run_eq_say h readings, fun written => run_of_separate h written readings,
    fun written => run_of_terminal h written readings, fun editor written => ?_,
    run_take h readings, isOpen_submitAll h⟩
  let other : Host _ := ⟨editor, h.console, h.config, .separate written⟩
  obtain ⟨hending, hconsole⟩ := console_run_of_separate (h := other) rfl readings
  have hsame : other.console = h.console ∧ other.config = h.config := ⟨rfl, rfl⟩
  exact ⟨hending, hconsole.trans (submitAll_congr hsame.1 hsame.2 _).2⟩

end Host
end CommandConsole
