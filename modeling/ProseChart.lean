import ProseChart.Assistant.Supervisor
import ProseChart.Description
import ProseChart.Main
import ProseChart.Page
import ProseChart.Proofs.Chart.Branching
import ProseChart.Proofs.Chart.Orderly
import ProseChart.Proofs.Step.Layout
import ProseChart.Proofs.Chart.Mermaid
import ProseChart.Proofs.Chart.Extension
import ProseChart.Proofs.Review.Preview
import ProseChart.Proofs.Fault.Lineage
import ProseChart.Proofs.Tool.Calls
import ProseChart.Proofs.Assistant.Agreement
import ProseChart.Proofs.Answer.Fence
import ProseChart.Proofs.Chart.Label
import ProseChart.Proofs.Text.Case
import ProseChart.Proofs.Tool.Isolation
import ProseChart.Proofs.Text.Fold
import ProseChart.Proofs.Chart.LetterCase
import ProseChart.Proofs.Review.Composition
import ProseChart.Proofs.Review.Decisions
import ProseChart.Proofs.Quotation.Normal
import ProseChart.Proofs.Tool.Malformed
import ProseChart.Proofs.Answer.Reading
import ProseChart.Proofs.Record
import ProseChart.Proofs.Command.Input
import ProseChart.Proofs.Command.Pipeline
import ProseChart.Proofs.Settings.Loading
import ProseChart.Proofs.Step.Deletion
