import HomeLedger.Main
import HomeLedger.Proofs.Calendar.Count
import HomeLedger.Proofs.Calendar.Reading
import HomeLedger.Proofs.Calendar.Stamp
import HomeLedger.Proofs.Calendar.Trimmed
import HomeLedger.Proofs.Command.Completion
import HomeLedger.Proofs.Command.Format
import HomeLedger.Proofs.Command.Json
import HomeLedger.Proofs.Command.Slot
import HomeLedger.Proofs.Command.Spelling
import HomeLedger.Proofs.Config
import HomeLedger.Proofs.Config.Fields
import HomeLedger.Proofs.Config.File
import HomeLedger.Proofs.Decimal.Overflow
import HomeLedger.Proofs.Decimal.PlainNumber
import HomeLedger.Proofs.Formatting.Fallback
import HomeLedger.Proofs.Formatting.Layout
import HomeLedger.Proofs.Formatting.Mark
import HomeLedger.Proofs.Formatting.PlainNumber
import HomeLedger.Proofs.Formatting.Relative
import HomeLedger.Proofs.Ledger.Balance
import HomeLedger.Proofs.Ledger.Exchange
import HomeLedger.Proofs.Ledger.File
import HomeLedger.Proofs.Ledger.History
import HomeLedger.Proofs.Ledger.Names
import HomeLedger.Proofs.Ledger.Overflow
import HomeLedger.Proofs.Ledger.Payment
import HomeLedger.Proofs.Ledger.Recording
import HomeLedger.Proofs.Ledger.Renaming
import HomeLedger.Proofs.Ledger.Request
import HomeLedger.Proofs.Ledger.Reread
import HomeLedger.Proofs.Ledger.Selection
import HomeLedger.Proofs.Ledger.Solvency
import HomeLedger.Proofs.Ledger.Ticking
import HomeLedger.Proofs.Ledger.WellFormed
import HomeLedger.Proofs.Message.Command
import HomeLedger.Proofs.Message.Order
import HomeLedger.Proofs.Message.Response
import HomeLedger.Proofs.Parameter.Binding
import HomeLedger.Proofs.Parameter.Display
import HomeLedger.Proofs.Shell.Draws
import HomeLedger.Proofs.Shell.Files
import HomeLedger.Proofs.Shell.Lines
import HomeLedger.Proofs.Shell.Sessions
import HomeLedger.Proofs.Storage.Names
import HomeLedger.Proofs.Text.PlainNumber
import HomeLedger.Proofs.Text.Words
import HomeLedger.Proofs.Token.Closed
import HomeLedger.Proofs.Toml.File
