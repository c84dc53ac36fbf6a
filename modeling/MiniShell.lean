import MiniShell.Main
import MiniShell.Tokens.Operation
import MiniShell.Proofs.Input.Content
import MiniShell.Proofs.Input.Delivery
import MiniShell.Proofs.Shell.Line
import MiniShell.Proofs.System.Similar
import MiniShell.Proofs.System.Undisturbed
import MiniShell.Proofs.Session.Commands
import MiniShell.Proofs.Session.Reading
import MiniShell.Proofs.Child.Fate
import MiniShell.Proofs.Child.Decision
import MiniShell.Proofs.Child.Launch
import MiniShell.Proofs.Shell.Redirection
import MiniShell.Proofs.Shell.Containment
import MiniShell.Proofs.Session.Status
import MiniShell.Proofs.Session.Modes
import MiniShell.Proofs.Session.Reports
import MiniShell.Proofs.Tokens.Words
import MiniShell.Proofs.Session.Arguments
import MiniShell.Proofs.Host.Directories
import MiniShell.Proofs.Host.OpenFiles
import MiniShell.Proofs.Tokens.Grammar
import MiniShell.Proofs.Shell.Builtins
import MiniShell.Proofs.Session.CommandLine
import MiniShell.Proofs.Input.Cut
import MiniShell.Proofs.Tokens.History
import MiniShell.Proofs.Shell.Dispatch
import MiniShell.Proofs.Child.Lookup
import MiniShell.Proofs.Session.Reading
