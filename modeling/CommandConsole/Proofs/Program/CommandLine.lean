import CommandConsole.Program
import CommandConsole.Proofs.Options.Grammar
import Mathlib.Data.List.Induction

/-!
# What the arguments of the program ask for

Options add up argument by argument, the later ones on top of the earlier ones.  What they come to
is said without the order in which that is done: a switch is set if its argument is there, a value
is the one of the last argument that gives it, and the scripts are in the order in which they are
given (`Options.Gathers`).  None of this depends on where arguments of different kinds stand to each
other, so these may change places (`Options.Gathers.congr`).

Arguments that do not follow the grammar end the program before it has done anything.
-/
namespace CommandConsole

namespace Argument

/-- What an argument is about. -/
inductive Kind
  | help
  | version
  | batch
  | closed
  | dumpDirectory
  | prompt
  | script
  deriving DecidableEq, Repr

/-- What the argument is about. -/
def kind : Argument → Kind
  | help => .help
  | version => .version
  | batch => .batch
  | closed => .closed
  | dumpDirectory _ => .dumpDirectory
  | prompt _ => .prompt
  | script _ => .script

/-- The text that the argument gives, if it gives one. -/
def text? : Argument → Option String
  | help | version | batch | closed => none
  | dumpDirectory text | prompt text | script text => some text

/-- The texts that the arguments of one kind give, in order. -/
def textsOf (kind : Kind) (arguments : List Argument) : List String :=
  (arguments.filter (·.kind = kind)).filterMap text?

/-- The arguments are the same up to an order between arguments of different kinds. -/
def SameByKind (arguments others : List Argument) : Prop :=
  ∀ kind : Kind, arguments.filter (·.kind = kind) = others.filter (·.kind = kind)

theorem SameByKind.mem_iff {arguments others : List Argument}
    (hsame : SameByKind arguments others) (argument : Argument) :
    argument ∈ arguments ↔ argument ∈ others := by
  have hmem (list : List Argument) :
      argument ∈ list.filter (·.kind = argument.kind) ↔ argument ∈ list := by
    rw [List.mem_filter, decide_eq_true rfl]
    exact and_iff_left rfl
  rw [← hmem arguments, hsame argument.kind, hmem others]

end Argument

namespace Options

open Argument (WrittenAs SplitInto StopsAt SameByKind)

/-- What options come to that arguments give. -/
structure Gathers (o : Options) (arguments : List Argument) : Prop where
  help : o.help = true ↔ .help ∈ arguments
  version : o.version = true ↔ .version ∈ arguments
  batch : o.batch = true ↔ .batch ∈ arguments
  closed : o.closed = true ↔ .closed ∈ arguments
  /-- Of several directories the last one counts. -/
  dumpDirectory : o.dumpDirectory = (Argument.textsOf .dumpDirectory arguments).getLast?
  prompt : o.prompt = (Argument.textsOf .prompt arguments).getLast?
  scripts : o.scripts = Argument.textsOf .script arguments

variable {o other : Options} {arguments others : List Argument}

/-- One more argument. -/
theorem Gathers.add (h : o.Gathers arguments) (argument : Argument) :
    (o.add argument).Gathers (arguments ++ [argument]) := by
  obtain ⟨hhelp, hversion, hbatch, hclosed, hdirectory, hprompt, hscripts⟩ := h
  cases argument <;> constructor <;>
    simp [Options.add, Argument.textsOf, Argument.kind, Argument.text?, *]

theorem gathers_ofArguments (arguments : List Argument) :
    (ofArguments arguments).Gathers arguments := by
  induction arguments using List.reverseRecOn with
  | nil => constructor <;> simp [ofArguments, Argument.textsOf]
  | append_singleton arguments argument ih =>
    rw [ofArguments, List.foldl_append]
    exact ih.add argument

/-- Arguments that are cut into units are added up. -/
theorem parse_flatten {units : List (List String)} (h : List.Forall₂ WrittenAs arguments units) :
    parse units.flatten = .ok (ofArguments arguments) := by
  rw [parse, Argument.ofTexts_flatten h]
  rfl

theorem parse_of_stopsAt {texts rest : List String} {text : String}
    (h : StopsAt texts text rest) : parse texts = .error (Argument.refusal text) := by
  rw [parse, Argument.ofTexts_of_stopsAt h]
  rfl

/-- Arguments are accepted if they can be cut into units. -/
theorem exists_parse_eq_ok_iff {texts : List String} :
    (∃ o, parse texts = .ok o) ↔ ∃ units, SplitInto texts units := by
  constructor
  · rintro ⟨o, ho⟩
    rcases Argument.exists_splitInto_or_stopsAt texts with hunits | ⟨text, rest, hstop⟩
    · exact hunits
    · rw [parse_of_stopsAt hstop] at ho
      cases ho
  · rintro ⟨units, hunits⟩
    obtain ⟨⟨arguments, harguments⟩, rfl⟩ := Argument.splitInto_iff.mp hunits
    exact ⟨_, parse_flatten harguments⟩

/-- Arguments of different kinds may change places. -/
theorem Gathers.congr (h : o.Gathers arguments) (hsame : SameByKind arguments others) :
    o.Gathers others where
  help := h.help.trans (hsame.mem_iff _)
  version := h.version.trans (hsame.mem_iff _)
  batch := h.batch.trans (hsame.mem_iff _)
  closed := h.closed.trans (hsame.mem_iff _)
  dumpDirectory := by rw [h.dumpDirectory, Argument.textsOf, hsame, ← Argument.textsOf]
  prompt := by rw [h.prompt, Argument.textsOf, hsame, ← Argument.textsOf]
  scripts := by rw [h.scripts, Argument.textsOf, hsame, ← Argument.textsOf]

/-- The arguments leave no choice. -/
theorem Gathers.eq (h : o.Gathers arguments) (h' : other.Gathers arguments) : o = other := by
  have hhelp := Bool.eq_iff_iff.mpr (h.help.trans h'.help.symm)
  have hversion := Bool.eq_iff_iff.mpr (h.version.trans h'.version.symm)
  have hbatch := Bool.eq_iff_iff.mpr (h.batch.trans h'.batch.symm)
  have hclosed := Bool.eq_iff_iff.mpr (h.closed.trans h'.closed.symm)
  have hdirectory := h.dumpDirectory.trans h'.dumpDirectory.symm
  have hprompt := h.prompt.trans h'.prompt.symm
  have hscripts := h.scripts.trans h'.scripts.symm
  cases o
  cases other
  rw [mk.injEq]
  exact ⟨hscripts, hbatch, hhelp, hversion, hclosed, hdirectory, hprompt⟩

end Options

namespace Program

open Argument (WrittenAs SplitInto StopsAt SameByKind)

/-- **The arguments of the program follow a grammar.**  They are accepted exactly if they can be cut
into units, and that can be done in one way only.  Then every switch is set whose unit occurs, the
directory and the prompt are those of the last unit that gives one, the scripts are in order, and
units of different kinds can change places.  Arguments that cannot be cut are refused for the first
text that stands where a unit should and starts none: an option that comes last and needs a value,
or an option that is unknown.  The program does nothing then, whatever its input and its world are.
-/
theorem run_follows_grammar (texts : List String) :
    ((∃ o, Options.parse texts = .ok o) ↔ ∃ units, SplitInto texts units) ∧
    (∀ units others, SplitInto texts units → SplitInto texts others → units = others) ∧
    (∀ arguments units, List.Forall₂ WrittenAs arguments units → units.flatten = texts →
      ∃ o, Options.parse texts = .ok o ∧ o.Gathers arguments ∧
        ∀ others otherUnits, SameByKind arguments others →
          List.Forall₂ WrittenAs others otherUnits → Options.parse otherUnits.flatten = .ok o) ∧
    ((¬ ∃ units, SplitInto texts units) ↔ ∃ text rest, StopsAt texts text rest) ∧
    ∀ text rest, StopsAt texts text rest →
      (Argument.IsValued text → rest = []) ∧
      ∃ e : UsageError, Options.parse texts = .error e ∧
        e.message = (if Argument.IsValued text then text ++ " requires a value"
          else "unknown option: " ++ text) ∧
        ∀ input world, run texts input world = ⟨.error (.usage e), [], world⟩ := by
  refine ⟨Options.exists_parse_eq_ok_iff, ?_, ?_, ?_, ?_⟩
  · intro units others hunits hothers
    exact Argument.eq_of_flatten_eq hunits.isUnit hothers.isUnit
      (hunits.flatten_eq.trans hothers.flatten_eq.symm)
  · rintro arguments units hunits rfl
    have hgathers := Options.gathers_ofArguments arguments
    refine ⟨_, Options.parse_flatten hunits, hgathers, ?_⟩
    intro others otherUnits hsame hothers
    rw [Options.parse_flatten hothers,
      (Options.gathers_ofArguments others).eq (hgathers.congr hsame)]
  · rw [← Options.exists_parse_eq_ok_iff]
    constructor
    · intro hnone
      rcases Argument.exists_splitInto_or_stopsAt texts with hunits | hstop
      · exact absurd (Options.exists_parse_eq_ok_iff.mpr hunits) hnone
      · exact hstop
    · rintro ⟨text, rest, hstop⟩ ⟨o, ho⟩
      rw [Options.parse_of_stopsAt hstop] at ho
      cases ho
  · intro text rest hstop
    have herror := Options.parse_of_stopsAt hstop
    obtain ⟨-, -, -, -, hstart⟩ := hstop
    refine ⟨hstart.eq_nil, Argument.refusal text, herror, ?_, fun input world => ?_⟩
    · rw [Argument.refusal]
      split
      · rfl
      · rfl
    · rw [run, herror]

/-- The arguments `-b --prompt -b "" --prompt ""`, among them an option that is taken for a value.
-/
def greedy : List Argument := [.batch, .prompt "-b", .script "", .prompt ""]

/-- The same arguments with the script in front, and with the other name for a batch run. -/
def reordered : List Argument := [.script "", .prompt "-b", .prompt "", .batch]

theorem run_of_greedy :
    (∃ o, Options.parse ["-b", "--prompt", "-b", "", "--prompt", ""] = .ok o ∧
        o.prompt = some "" ∧
        Options.parse ["", "--prompt", "-b", "--prompt", "", "--batch"] = .ok o) ∧
      ∀ input world, (run ["-b", "", "--dump-dir"] input world).world = world := by
  obtain ⟨-, -, haccepted, -, -⟩ :=
    run_follows_grammar ["-b", "--prompt", "-b", "", "--prompt", ""]
  obtain ⟨-, -, -, -, hrefused⟩ := run_follows_grammar ["-b", "", "--dump-dir"]
  have hscript : "".toList.head? ≠ some '-' := by decide
  have hsame : SameByKind greedy reordered := by
    intro kind
    cases kind <;> rfl
  constructor
  · obtain ⟨o, ho, hgathers, hothers⟩ := haccepted greedy
      [["-b"], ["--prompt", "-b"], [""], ["--prompt", ""]]
      (.cons .shortBatch (.cons (.prompt _) (.cons (.script _ hscript) (.cons (.prompt _) .nil))))
      rfl
    refine ⟨o, ho, hgathers.prompt, ?_⟩
    exact hothers reordered [[""], ["--prompt", "-b"], ["--prompt", ""], ["--batch"]] hsame
      (.cons (.script _ hscript) (.cons (.prompt _) (.cons (.prompt _) (.cons .longBatch .nil))))
  · intro input world
    have hfront : SplitInto ["-b", ""] [["-b"], [""]] :=
      Argument.splitInto_iff.mpr
        ⟨⟨[.batch, .script ""], .cons .shortBatch (.cons (.script _ hscript) .nil)⟩, rfl⟩
    have hstart : Argument.StartsNoUnit ["--dump-dir"] :=
      Argument.startsNoUnit_singleton (.inl rfl)
    obtain ⟨-, e, -, -, hrun⟩ :=
      hrefused "--dump-dir" [] ⟨["-b", ""], [["-b"], [""]], hfront, rfl, hstart⟩
    rw [hrun]

end Program
end CommandConsole
