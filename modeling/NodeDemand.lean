import NodeDemand.Main
import NodeDemand.Session
import NodeDemand.Table.Writer
import NodeDemand.Proofs.Lookup
import NodeDemand.Proofs.Result
import NodeDemand.Proofs.Requirement.LeastNodes
import NodeDemand.Proofs.Requirement.FixedPoint
import NodeDemand.Proofs.Requirement.Confluence
import NodeDemand.Proofs.Requirement.Arithmetic
import NodeDemand.Proofs.Requirement.CpuCount
import NodeDemand.Proofs.Requirement.Monotone
import NodeDemand.Proofs.Requirement.Raises
import NodeDemand.Proofs.Table.Policies
import NodeDemand.Proofs.Table.Cells
import NodeDemand.Proofs.Text.Lines
import NodeDemand.Proofs.Text.UpperCase
import NodeDemand.Proofs.Text.Utf8
import NodeDemand.Proofs.Text.WellFormed
import NodeDemand.Proofs.Tres.Map
import NodeDemand.Proofs.Tres.Grammar
import NodeDemand.Proofs.Text.ByteOrder
import NodeDemand.Proofs.Tres.RoundTrip
import NodeDemand.Proofs.Tres.Canonical
import NodeDemand.Proofs.Tres.Rejection
import NodeDemand.Proofs.Job.State
import NodeDemand.Proofs.Job.StateList
import NodeDemand.Proofs.Job.StateSpelling
import NodeDemand.Proofs.Table.RoundTrip
import NodeDemand.Proofs.Table.Layout
import NodeDemand.Proofs.Table.ColumnOrder
import NodeDemand.Proofs.Table.Spacing
import NodeDemand.Proofs.Table.Cutting
import NodeDemand.Proofs.Table.Counts
import NodeDemand.Proofs.Pending
import NodeDemand.Proofs.Requirement.TotalNodes
import NodeDemand.Proofs.Loosening
import NodeDemand.Proofs.Session
import NodeDemand.Proofs.Source.StateFilter
import NodeDemand.Proofs.Source.Agreement
import NodeDemand.Proofs.Source.StateSelection
import NodeDemand.Proofs.Source.Gateway
import NodeDemand.Proofs.Toml.DistinctKeys
import NodeDemand.Proofs.Cluster.Settings
import NodeDemand.Proofs.Options.Limits
import NodeDemand.Proofs.Cluster.Effective
import NodeDemand.Proofs.Criteria.Refusals
import NodeDemand.Proofs.Criteria.Conjunction
import NodeDemand.Proofs.Table.Warnings
import NodeDemand.Proofs.Accounting
import NodeDemand.Proofs.Json.Reordering
import NodeDemand.Proofs.Report.JsonRoundTrip
import NodeDemand.Proofs.Report.BriefLines
