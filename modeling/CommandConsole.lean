import CommandConsole.Action
import CommandConsole.Builtin
import CommandConsole.Calendar
import CommandConsole.Command
import CommandConsole.Completion
import CommandConsole.Config
import CommandConsole.Config.Document
import CommandConsole.Console
import CommandConsole.Console.Operation
import CommandConsole.Dispatch
import CommandConsole.DumpName
import CommandConsole.Editor
import CommandConsole.Error
import CommandConsole.Event
import CommandConsole.FileSystem
import CommandConsole.History
import CommandConsole.Host
import CommandConsole.Json.Token
import CommandConsole.Json.Value
import CommandConsole.Line
import CommandConsole.Main
import CommandConsole.Options
import CommandConsole.Path
import CommandConsole.Program
import CommandConsole.Registry
import CommandConsole.Script
import CommandConsole.Sink
import CommandConsole.Style
import CommandConsole.Terminal
import CommandConsole.Text.Backspace
import CommandConsole.Text.Blank
import CommandConsole.Text.Cluster
import CommandConsole.Text.ClusterClass
import CommandConsole.Text.CodeRange
import CommandConsole.Text.Escaped
import CommandConsole.Text.LetterCase
import CommandConsole.Text.Lines
import CommandConsole.Text.Lowercase
import CommandConsole.Text.Quoted
import CommandConsole.Text.Utf8
import CommandConsole.Transcript
import CommandConsole.World
import CommandConsole.Proofs.Sink.Simulation
import CommandConsole.Proofs.Sink.Independence
import CommandConsole.Proofs.Registry.Resolution
import CommandConsole.Proofs.Sink.Calls
import CommandConsole.Proofs.Dispatch.Boundary
import CommandConsole.Proofs.Line.Tokens
import CommandConsole.Proofs.Dispatch.Reachability
import CommandConsole.Proofs.Host.Session
import CommandConsole.Proofs.Json.Layout
import CommandConsole.Proofs.Json.Document
import CommandConsole.Proofs.Config.Setting
import CommandConsole.Proofs.Config.Reading
import CommandConsole.Proofs.Program.Batch
import CommandConsole.Proofs.Registry.Registration
import CommandConsole.Proofs.Action.Avoidance
import CommandConsole.Proofs.Console.Visibility
import CommandConsole.Proofs.Host.Closed
import CommandConsole.Proofs.Line.Joining
import CommandConsole.Proofs.Sink.Lawful
import CommandConsole.Proofs.Builtin.Dump
import CommandConsole.Proofs.Completion.Offering
import CommandConsole.Proofs.Completion.Agreement
import CommandConsole.Proofs.Completion.Acceptance
import CommandConsole.Proofs.Host.ToggleLine
import CommandConsole.Proofs.Text.Idempotence
import CommandConsole.Proofs.Text.Lines
import CommandConsole.Proofs.Host.Scripting
import CommandConsole.Proofs.Registry.Shadowing
import CommandConsole.Proofs.Registry.Reporting
import CommandConsole.Proofs.Dispatch.LetterCase
import CommandConsole.Proofs.Program.CommandLine
import CommandConsole.Proofs.Host.Remembering
import CommandConsole.Proofs.Builtin.Help
import CommandConsole.Proofs.Builtin.Echo
import CommandConsole.Proofs.Action.Course
import CommandConsole.Proofs.Program.Clearing
import CommandConsole.Proofs.Builtin.DumpName
import CommandConsole.Proofs.Builtin.DumpPlace
import CommandConsole.Proofs.Sink.Printed
import CommandConsole.Proofs.Text.Mark
import CommandConsole.Proofs.Sink.Screen
import CommandConsole.Proofs.Action.Telling
import CommandConsole.Proofs.Dispatch.Telling
import CommandConsole.Proofs.Host.Telling
import CommandConsole.Proofs.Dispatch.Depth
