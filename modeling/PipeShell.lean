import PipeShell.Alias
import PipeShell.Builtin
import PipeShell.Builtin.Files
import PipeShell.Builtin.Listing
import PipeShell.Builtin.Names
import PipeShell.Builtin.Outcome
import PipeShell.Builtin.Record
import PipeShell.Builtin.Words
import PipeShell.CommandLine
import PipeShell.Console
import PipeShell.Decimal.Binary64
import PipeShell.Decimal.Numeral
import PipeShell.Disk
import PipeShell.Disk.Access
import PipeShell.Duration
import PipeShell.Environment
import PipeShell.Event
import PipeShell.Execution
import PipeShell.Execution.Result
import PipeShell.Execution.Stage
import PipeShell.Fault
import PipeShell.History
import PipeShell.History.File
import PipeShell.History.Line
import PipeShell.LogFile
import PipeShell.Main
import PipeShell.NameMap
import PipeShell.NameTree
import PipeShell.Options
import PipeShell.Path
import PipeShell.Pipeline
import PipeShell.Program
import PipeShell.Program.Launch
import PipeShell.Program.Search
import PipeShell.Session
import PipeShell.Shell
import PipeShell.ShellError
import PipeShell.Startup
import PipeShell.State
import PipeShell.StateError
import PipeShell.Style
import PipeShell.SyntaxError
import PipeShell.Text.Backspace
import PipeShell.Text.Blank
import PipeShell.Text.Bond
import PipeShell.Text.Cluster
import PipeShell.Text.Field
import PipeShell.Text.Quoted
import PipeShell.Text.Unprintable
import PipeShell.Text.Utf8
import PipeShell.Token
import PipeShell.Token.Mode
import PipeShell.Token.Scan
import PipeShell.Toolbox
import PipeShell.Toolbox.Arguments
import PipeShell.Toolbox.Copy
import PipeShell.Toolbox.Count
import PipeShell.Toolbox.Format
import PipeShell.Toolbox.Job
import PipeShell.Toolbox.Notation
import PipeShell.Toolbox.Octets
import PipeShell.Toolbox.Order
import PipeShell.Toolbox.Order.Key
import PipeShell.Toolbox.Order.Version
import PipeShell.Toolbox.Quoting
import PipeShell.Toolbox.Remove
import PipeShell.Toolbox.Replace
import PipeShell.Toolbox.Script.Arithmetic
import PipeShell.Toolbox.Script.Builtin
import PipeShell.Toolbox.Script.Builtin.Places
import PipeShell.Toolbox.Script.Builtin.Processes
import PipeShell.Toolbox.Script.Builtin.Texts
import PipeShell.Toolbox.Script.Builtin.Variables
import PipeShell.Toolbox.Script.Call
import PipeShell.Toolbox.Script.Command
import PipeShell.Toolbox.Script.Expansion
import PipeShell.Toolbox.Script.Field
import PipeShell.Toolbox.Script.Interpreter
import PipeShell.Toolbox.Script.Launch
import PipeShell.Toolbox.Script.Lexeme
import PipeShell.Toolbox.Script.Machine
import PipeShell.Toolbox.Script.Pattern
import PipeShell.Toolbox.Script.Pipe
import PipeShell.Toolbox.Script.Redirection
import PipeShell.Toolbox.Script.Search
import PipeShell.Toolbox.Script.Signal
import PipeShell.Toolbox.Script.Test
import PipeShell.Toolbox.Script.World
import PipeShell.Toolbox.Tool
import PipeShell.Variable.Name
import PipeShell.Variable.Overlay
import PipeShell.Variable.SearchPath
import PipeShell.Proofs.Alias.Expansion
import PipeShell.Proofs.Alias.Names
import PipeShell.Proofs.Builtin.Change
import PipeShell.Proofs.Builtin.Disk
import PipeShell.Proofs.Builtin.Input
import PipeShell.Proofs.Builtin.Listing
import PipeShell.Proofs.Builtin.Log
import PipeShell.Proofs.Builtin.Type
import PipeShell.Proofs.Disk.Canonical
import PipeShell.Proofs.Disk.Edit
import PipeShell.Proofs.Disk.Grown
import PipeShell.Proofs.Disk.Spelling
import PipeShell.Proofs.Disk.Target
import PipeShell.Proofs.Disk.Written
import PipeShell.Proofs.Execution.Accounting
import PipeShell.Proofs.Execution.Completion
import PipeShell.Proofs.Execution.Cutoff
import PipeShell.Proofs.Execution.Directory
import PipeShell.Proofs.Execution.Line
import PipeShell.Proofs.Execution.Log
import PipeShell.Proofs.Execution.OwnFiles
import PipeShell.Proofs.Execution.Redirection
import PipeShell.Proofs.Execution.Refusal
import PipeShell.Proofs.Execution.Resolution
import PipeShell.Proofs.Execution.Separate
import PipeShell.Proofs.Execution.Transparent
import PipeShell.Proofs.Execution.Waiting
import PipeShell.Proofs.History.Escaping
import PipeShell.Proofs.History.Exchange
import PipeShell.Proofs.History.Mirror
import PipeShell.Proofs.History.Navigation
import PipeShell.Proofs.History.Operations
import PipeShell.Proofs.History.OwnFile
import PipeShell.Proofs.History.Reload
import PipeShell.Proofs.History.Rewrite
import PipeShell.Proofs.History.Unfinished
import PipeShell.Proofs.Options.Items
import PipeShell.Proofs.Options.Timeout
import PipeShell.Proofs.Path.Resolution
import PipeShell.Proofs.Pipeline.Grammar
import PipeShell.Proofs.Pipeline.Refusal
import PipeShell.Proofs.Program.CleanPath
import PipeShell.Proofs.Session.Blank
import PipeShell.Proofs.Startup.Agreement
import PipeShell.Proofs.Startup.Definition
import PipeShell.Proofs.State.Change
import PipeShell.Proofs.Text.Blank
import PipeShell.Proofs.Text.Utf8
import PipeShell.Proofs.Token.Agreement
import PipeShell.Proofs.Token.Boundary
import PipeShell.Proofs.Token.Braces
import PipeShell.Proofs.Token.Expansion
import PipeShell.Proofs.Token.Reading
import PipeShell.Proofs.Token.RoundTrip
import PipeShell.Proofs.Token.Substitution
import PipeShell.Proofs.Token.Values
import PipeShell.Proofs.Token.WellFormed
import PipeShell.Proofs.Variable.Child
import PipeShell.Proofs.Variable.Expansion
import PipeShell.Proofs.Variable.Export
import PipeShell.Proofs.Variable.StoredPath
