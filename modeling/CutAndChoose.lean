import CutAndChoose.Main
import CutAndChoose.Proofs.Binary64.Near
import CutAndChoose.Proofs.Binary64.Power
import CutAndChoose.Proofs.Soundness.Binomial
import CutAndChoose.Proofs.Soundness.Ratio
import CutAndChoose.Proofs.Soundness.ExactRatio
import CutAndChoose.Proofs.Soundness.Term
import CutAndChoose.Proofs.Soundness.Probability
import CutAndChoose.Proofs.Soundness.MoreExecutions
import CutAndChoose.Proofs.Search.Config
import CutAndChoose.Proofs.Search.Check
import CutAndChoose.Proofs.Search.Walk
import CutAndChoose.Proofs.Search.Grid
import CutAndChoose.Proofs.Search.Outcome
import CutAndChoose.Proofs.Search.Acceptance
import CutAndChoose.Proofs.Search.Best
import CutAndChoose.Proofs.Soundness.Words
import CutAndChoose.Proofs.Search.Visits
import CutAndChoose.Proofs.Search.Overflow
import CutAndChoose.Proofs.Search.Result
import CutAndChoose.Proofs.Search.SecurityFloor
import CutAndChoose.Proofs.Search.UpwardClosed
import CutAndChoose.Proofs.Search.Loosening
import CutAndChoose.Proofs.Bench.LineValue
import CutAndChoose.Proofs.Bench.Grammar
import CutAndChoose.Proofs.Bench.TableReader
import CutAndChoose.Proofs.Bench.TableNumber
import CutAndChoose.Proofs.Decimal.Positional
import CutAndChoose.Proofs.Decimal.Value
import CutAndChoose.Proofs.Decimal.Shortest
import CutAndChoose.Proofs.Files.Script
import CutAndChoose.Proofs.Json.Input
import CutAndChoose.Proofs.Json.Number
import CutAndChoose.Proofs.Json.Record
import CutAndChoose.Proofs.Search.OutcomeFile
import CutAndChoose.Proofs.Bench.TableFile
import CutAndChoose.Proofs.Command.Show
import CutAndChoose.Proofs.CommandLine.Command
import CutAndChoose.Proofs.CommandLine.SecurityBits
import CutAndChoose.Proofs.CommandLine.Setting
import CutAndChoose.Proofs.CommandLine.Repeated
import CutAndChoose.Proofs.CommandLine.SearchOptions
import CutAndChoose.Proofs.Text.Lines
import CutAndChoose.Proofs.Bench.DurationText
import CutAndChoose.Proofs.Bench.Timing
import CutAndChoose.Proofs.Bench.RenderedLog
import CutAndChoose.Proofs.Bench.FirstFault
import CutAndChoose.Proofs.Bench.LineEndings
import CutAndChoose.Proofs.Bench.NamesFile
import CutAndChoose.Proofs.Text.Trim
import CutAndChoose.Proofs.Text.Columns
import CutAndChoose.Proofs.Search.Listing
import CutAndChoose.Proofs.Files.Ends
import CutAndChoose.Proofs.Command.Documents
import CutAndChoose.Proofs.CommandLine.Export
import CutAndChoose.Proofs.Command.Effects
