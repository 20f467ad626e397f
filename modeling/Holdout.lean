import Holdout.Decimal.Layout
import Holdout.Decimal.Numeral
import Holdout.Text.Blank
import Holdout.Table
import Holdout.ItemList.Ranking
import Holdout.Metric.Ranking
import Holdout.Metric.Coverage
import Holdout.Analysis
import Holdout.Candidates
import Holdout.Scorer.Popularity
import Holdout.Scorer.Random
import Holdout.Json.Writer
import Holdout.Json.Reader
import Holdout.Codec.Dataset
import Holdout.Toml.Document
import Holdout.Settings.Document
import Holdout.Settings.Environment
import Holdout.Codec.Summary
import Holdout.Budget
import Holdout.Batch.Run
import Holdout.RunId
import Holdout.Experiment.Evaluator
import Holdout.Logging
import Holdout.Codec.Report
import Holdout.Proofs.Batch.Completeness
import Holdout.Proofs.Failure
import Holdout.Proofs.ItemList.History
import Holdout.Proofs.ItemList.Ranking
import Holdout.Proofs.ItemList.Views
import Holdout.Proofs.ItemList.Chains
import Holdout.Proofs.ItemList.Equality
import Holdout.Proofs.Table
import Holdout.Proofs.HeldOut
import Holdout.Proofs.Popularity
import Holdout.Proofs.Scorer.Popularity
import Holdout.Proofs.Plan
import Holdout.Proofs.Log
import Holdout.Proofs.Report
import Holdout.Proofs.Summaries
import Holdout.Proofs.Isolation
import Holdout.Proofs.Delivery
import Holdout.Proofs.Budget
import Holdout.Proofs.Concurrency
import Holdout.Proofs.Baselines
import Holdout.Proofs.Metric.Gain
import Holdout.Proofs.Json.Strings
import Holdout.Proofs.Decimal
import Holdout.Proofs.Json.Numerals
import Holdout.Proofs.Json.Documents
import Holdout.Proofs.Json.Values
import Holdout.Proofs.JsonLines
import Holdout.Proofs.ItemList.Json
import Holdout.Proofs.Csv.Reader
import Holdout.Proofs.Csv.Rows
import Holdout.Proofs.Double.Zeros
import Holdout.Proofs.Double.Shares
import Holdout.Proofs.Metric.EmptyReference
import Holdout.Proofs.Metric.Popularity
import Holdout.Proofs.Metric.Depth
import Holdout.Proofs.Metric.Patience
import Holdout.Proofs.Metric.Growth
import Holdout.Proofs.Metric.Order
import Holdout.Proofs.Metric.Refusal
import Holdout.Proofs.Metric.Coverage
import Holdout.Proofs.Batch.Views
import Holdout.Proofs.Settings.Timeout
import Holdout.Proofs.ItemList.Parts
import Holdout.Proofs.Metric.Grading
import Holdout.Proofs.Settings.Environment
