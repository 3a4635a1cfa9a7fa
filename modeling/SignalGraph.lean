import SignalGraph.Files.Disk
import SignalGraph.Main
import SignalGraph.NodeId
import SignalGraph.Poll.Unread
import SignalGraph.Session.Export
import SignalGraph.Store.Memory
import SignalGraph.Store.Table
import SignalGraph.Store.Unavailable
import SignalGraph.Proofs.Catalog.BuiltIn
import SignalGraph.Proofs.Catalog.Conforming
import SignalGraph.Proofs.Catalog.Integers
import SignalGraph.Proofs.Catalog.Layout
import SignalGraph.Proofs.Catalog.Overlay
import SignalGraph.Proofs.Catalog.Reentry
import SignalGraph.Proofs.Graph.Admission
import SignalGraph.Proofs.Graph.EdgeName
import SignalGraph.Proofs.Graph.Edited
import SignalGraph.Proofs.Graph.Equality
import SignalGraph.Proofs.Graph.LooseEnds
import SignalGraph.Proofs.Graph.Order
import SignalGraph.Proofs.Graph.Replacement
import SignalGraph.Proofs.Graph.Structure
import SignalGraph.Proofs.Graph.Entering
import SignalGraph.Proofs.KeyMap
import SignalGraph.Proofs.NodeId
import SignalGraph.Proofs.Document.Accounting
import SignalGraph.Proofs.Document.Export
import SignalGraph.Proofs.Document.FreshIds
import SignalGraph.Proofs.Document.Report
import SignalGraph.Proofs.Document.Restore
import SignalGraph.Proofs.Document.Stable
import SignalGraph.Proofs.Document.Text
import SignalGraph.Proofs.History
import SignalGraph.Proofs.History.Pointed
import SignalGraph.Proofs.Json.Embedding
import SignalGraph.Proofs.Json.Equality
import SignalGraph.Proofs.Json.Number
import SignalGraph.Proofs.Json.Record
import SignalGraph.Proofs.Json.Text
import SignalGraph.Proofs.Number.Decimal
import SignalGraph.Proofs.Number.Integer
import SignalGraph.Proofs.Number.Numeral
import SignalGraph.Proofs.Session.Run
import SignalGraph.Proofs.Session.Edges
import SignalGraph.Proofs.Session.Conforming
import SignalGraph.Proofs.Session.Filed
import SignalGraph.Proofs.Session.Graphs
import SignalGraph.Proofs.Session.Neighbours
import SignalGraph.Proofs.Session.Parked
import SignalGraph.Proofs.Session.Reentry
import SignalGraph.Proofs.Session.Refusal
import SignalGraph.Proofs.Session.RoundTrip
import SignalGraph.Proofs.Session.Saving
import SignalGraph.Proofs.Session.Sinks
import SignalGraph.Proofs.Session.Timeline
import SignalGraph.Proofs.Session.Unsaved
import SignalGraph.Proofs.Store.Calls
import SignalGraph.Proofs.Store.Table
import SignalGraph.Proofs.Store.Records
import SignalGraph.Proofs.Session.Loading
import SignalGraph.Proofs.Session.Transfer
import SignalGraph.Proofs.Json.Range
import SignalGraph.Proofs.Json.Written
import SignalGraph.Proofs.Catalog.Written
import SignalGraph.Proofs.Session.Written
import SignalGraph.Proofs.Wire
import SignalGraph.Proofs.Json.Ordinary
import SignalGraph.Proofs.Document.Written
import SignalGraph.Proofs.Document.Nulls
import SignalGraph.Proofs.Title.Leftmost
import SignalGraph.Proofs.ExportName
import SignalGraph.Proofs.Poll
import SignalGraph.Proofs.Session.Reporting
