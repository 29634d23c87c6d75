import SettingsStore.Log.Template
import SettingsStore.Main
import SettingsStore.Program.Workspace
import SettingsStore.Proofs.Config.Precedence
import SettingsStore.Proofs.Manager.Crashing
import SettingsStore.Proofs.Manager.Errors
import SettingsStore.Proofs.Manager.Furnishing
import SettingsStore.Proofs.Manager.Isolation
import SettingsStore.Proofs.Manager.Restoring
import SettingsStore.Proofs.Files.Spelling
import SettingsStore.Proofs.Files.Resolving
import SettingsStore.Proofs.Host.Answers
import SettingsStore.Proofs.Files.Overwriting
import SettingsStore.Proofs.Number.Rounding
import SettingsStore.Proofs.Number.Shortest
import SettingsStore.Proofs.Json.Doubles
import SettingsStore.Proofs.Json.Parsed
import SettingsStore.Proofs.Manager.Normalising
import SettingsStore.Proofs.Files.Canonical
import SettingsStore.Proofs.Host.Depending
import SettingsStore.Proofs.Manager.Restarting
import SettingsStore.Proofs.Json.Paths
import SettingsStore.Proofs.Json.Premerging
import SettingsStore.Proofs.Host.Blank
import SettingsStore.Proofs.Program.Writing
import SettingsStore.Proofs.Log.Opening
import SettingsStore.Proofs.CommandLine.Ending
import SettingsStore.Proofs.Json.Remerging
import SettingsStore.Proofs.Manager.Unsaved
import SettingsStore.Proofs.Host.Precedence
import SettingsStore.Proofs.Manager.Constructing
import SettingsStore.Proofs.Config.Schema
import SettingsStore.Proofs.CommandLine.Options
import SettingsStore.Proofs.Log.Lines
import SettingsStore.Proofs.CommandLine.Showing
import SettingsStore.Proofs.Json.Ordering
