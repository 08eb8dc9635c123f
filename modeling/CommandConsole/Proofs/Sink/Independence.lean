import CommandConsole.Proofs.Sink.Simulation
import CommandConsole.Terminal

/-!
# The run does not depend on the sink

A transcript and a terminal take opposite ways: the one drops styles and prints, the other prints by
way of a style. What they show is the same all the same, since a terminal keeps a transcript of its
own beside the stream. Nor does it matter how much the stream takes: a writer with room for `n`
bytes gets the first `n` of the bytes that one without a limit gets, and what is shown never comes
from the stream. So consoles over these sinks go through one and the same run
(`observations_eq_of_sinks`).

For the same reason it does not matter what a stream holds already: it stays in front of what comes
(`Terminal.inStep_behind`).
-/
namespace CommandConsole

/-! ## Writers -/

/-- A writer with room for `n` bytes beside one without a limit that was offered the same. -/
structure Writer.CutAt (n : Nat) (limited full : Writer) : Prop where
  full_room : full.room = none
  written : limited.written = full.written.take n
  room : limited.room = some (n - full.written.length)

/-- A text that is offered to both leaves the one with the first `n` bytes of the other. -/
theorem Writer.cutAt_write {n : Nat} {limited full : Writer} (h : CutAt n limited full)
    (text : String) : CutAt n (limited.write text) (full.write text) := by
  have hfull := written_write_of_room_eq_none h.full_room text
  refine ⟨?_, ?_, ?_⟩
  · simp only [write, h.full_room]
  · rw [written_write_of_room_eq_some h.room, hfull, h.written, List.take_append]
  · rw [hfull]
    simp only [write, h.room, List.length_append]
    rw [Nat.sub_sub]

/-- A writer that had got some bytes before it was offered what the other one was; neither has a
limit. -/
structure Writer.Behind (front : Bytes) (w other : Writer) : Prop where
  written : w.written = front ++ other.written
  room : w.room = none
  other_room : other.room = none

theorem Writer.behind_write {front : Bytes} {w other : Writer} (h : Behind front w other)
    (text : String) : Behind front (w.write text) (other.write text) where
  written := by
    rw [written_write_of_room_eq_none h.room, written_write_of_room_eq_none h.other_room, h.written,
      List.append_assoc]
  room := room_write h.room text
  other_room := room_write h.other_room text

/-! ## Terminals -/

namespace Terminal

/-- The terminal has the transcript beside its stream. -/
def Keeps (t : Transcript) (terminal : Terminal) : Prop := terminal.transcript = t

/-- A terminal is in step with the transcript it keeps. -/
theorem inStep_keeps : Sink.InStep Keeps where
  content h := congrArg Transcript.text h.symm
  print text h := congrArg (Transcript.print · text) h
  printStyled text _ h := congrArg (Transcript.print · text) h
  clear _ := rfl

/-- Two terminals that show the same, the first over a writer with room for `n` bytes. -/
structure CutAt (n : Nat) (limited full : Terminal) : Prop where
  out : Writer.CutAt n limited.out full.out
  transcript : limited.transcript = full.transcript

/-- A terminal cannot be told from one whose writer takes only so much. -/
theorem inStep_cutAt (n : Nat) : Sink.InStep (CutAt n) where
  content h := congrArg Transcript.text h.transcript
  print text h := ⟨Writer.cutAt_write h.out _, congrArg (·.print text) h.transcript⟩
  printStyled text _ h := ⟨Writer.cutAt_write h.out _, congrArg (·.print text) h.transcript⟩
  clear h := ⟨Writer.cutAt_write h.out _, rfl⟩

/-- Two terminals that show the same, the first over a stream that holds more in front. -/
structure Behind (front : Bytes) (t other : Terminal) : Prop where
  out : Writer.Behind front t.out other.out
  transcript : t.transcript = other.transcript

/-- A terminal cannot be told from one over a stream that holds nothing yet. -/
theorem inStep_behind (front : Bytes) : Sink.InStep (Behind front) where
  content h := congrArg Transcript.text h.transcript
  print text h := ⟨Writer.behind_write h.out _, congrArg (·.print text) h.transcript⟩
  printStyled text _ h := ⟨Writer.behind_write h.out _, congrArg (·.print text) h.transcript⟩
  clear h := ⟨Writer.behind_write h.out _, rfl⟩

/-- A terminal over a writer with room for `n` bytes. -/
def withRoom (n : Nat) : Terminal where
  out := { room := some n }

theorem cutAt_withRoom (n : Nat) : CutAt n (withRoom n) {} where
  out := ⟨rfl, List.take_nil.symm, rfl⟩
  transcript := rfl

end Terminal

/-! ## Consoles -/

namespace Console

variable {η σ : Type}

/-- A console over a sink, everything else being given. -/
def onSink (registry : Registry) (hooks : η) (world : World) (isOpen : Bool) (sink : σ) :
    Console σ η :=
  { registry, sink, hooks, world, isOpen }

variable [Hooks η]

/-- **A console goes through the same run whatever sink it prints to.**  After every operation a
console over a transcript, one over a terminal and one over a terminal whose writer fails after `n`
bytes are seen to be the same: the dispatch of the line, the content, the open flag, the calls that
the hooks have got, the files and the log.  The writer that fails has got the first `n` of the bytes
that the other has got. -/
theorem observations_eq_of_sinks (registry : Registry) (hooks : η) (world : World) (isOpen : Bool)
    (n : Nat) (ops : List Operation) :
    let buffer := onSink registry hooks world isOpen ({} : Transcript)
    let terminal := onSink registry hooks world isOpen ({} : Terminal)
    let limited := onSink registry hooks world isOpen (Terminal.withRoom n)
    buffer.observations ops = terminal.observations ops ∧
      limited.observations ops = terminal.observations ops ∧
      (limited.performAll ops).2.sink.out.written =
        (terminal.performAll ops).2.sink.out.written.take n := by
  intro buffer terminal limited
  have hbuffer : InStep Terminal.Keeps buffer terminal := ⟨rfl, rfl, rfl, rfl, rfl⟩
  have hlimited : InStep (Terminal.CutAt n) limited terminal :=
    ⟨rfl, rfl, rfl, rfl, Terminal.cutAt_withRoom n⟩
  refine ⟨observations_inStep Terminal.inStep_keeps hbuffer ops,
    observations_inStep (Terminal.inStep_cutAt n) hlimited ops, ?_⟩
  exact (performAll_inStep (Terminal.inStep_cutAt n) hlimited ops).sink.out.written

end Console
end CommandConsole
