import WalletRows.Main
import WalletRows.Screen
import WalletRows.Text.Shorten
import WalletRows.Proofs.Row.Dependence
import WalletRows.Proofs.Settings.Uses
import WalletRows.Proofs.Snapshot.RoundTrip
import WalletRows.Proofs.Status.Priority
import WalletRows.Proofs.Row.FailedLookups
import WalletRows.Proofs.Template
import WalletRows.Proofs.Binary64.Nearest
import WalletRows.Proofs.Binary64.Shortest
import WalletRows.Proofs.Asset.ExactAmounts
import WalletRows.Proofs.Json.Grammar
import WalletRows.Proofs.Json.Scanning
import WalletRows.Proofs.Json.NumberScanning
import WalletRows.Proofs.Json.BracketScanning
import WalletRows.Proofs.Json.Skipping
import WalletRows.Proofs.Json.RegularReaders
import WalletRows.Proofs.Json.RegularRecords
import WalletRows.Proofs.Json.MembersThatCount
import WalletRows.Proofs.Json.FirstFields
import WalletRows.Proofs.StoredRecords
import WalletRows.Proofs.Json.LastBracket
import WalletRows.Proofs.TornFiles
import WalletRows.Proofs.Overview
import WalletRows.Proofs.Snapshot.Rows
import WalletRows.Proofs.Snapshot.Dropdowns
import WalletRows.Proofs.Snapshot.Stages
import WalletRows.Proofs.Snapshot.Changes
import WalletRows.Proofs.Row.Lines
import WalletRows.Proofs.Row.StakingWords
import WalletRows.Proofs.Calendar.Gregorian
import WalletRows.Proofs.Calendar.ConfirmedText
import WalletRows.Proofs.Calendar.DateOrTimeAgo
import WalletRows.Proofs.Confirmation
import WalletRows.Proofs.Row.SignedAmounts
import WalletRows.Proofs.Row.Rewards
import WalletRows.Proofs.Duration.DaysAndClock
import WalletRows.Proofs.Duration.TimeAgo
import WalletRows.Proofs.Duration.WholeUnits
import WalletRows.Proofs.Snapshot.Events
import WalletRows.Proofs.Palette
import WalletRows.Proofs.Text.Shorten
import WalletRows.Proofs.StoredValues
import WalletRows.Proofs.Json.PartByPart
