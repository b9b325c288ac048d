import CodeGraph.Engine
import CodeGraph.Settings.Layers
import CodeGraph.Proofs.Query.Tokens
import CodeGraph.Proofs.Query.Places
import CodeGraph.Proofs.Cache.NormalForm
import CodeGraph.Proofs.Cache.Change
import CodeGraph.Proofs.Cache.Keys
import CodeGraph.Proofs.Cache.Answers
import CodeGraph.Proofs.Cache.Runs
import CodeGraph.Proofs.Engine.Runs
import CodeGraph.Proofs.Engine.Transparency
import CodeGraph.Proofs.Double.Rounding
import CodeGraph.Proofs.Value.Order
import CodeGraph.Proofs.Query.Sorting
import CodeGraph.Proofs.Query.Conditions
import CodeGraph.Proofs.Query.Reference
import CodeGraph.Proofs.Cache.Storing
import CodeGraph.Proofs.Query.Grammar
import CodeGraph.Proofs.Query.Reading
import CodeGraph.Proofs.Query.Parsing
import CodeGraph.Proofs.Cache.Count
import CodeGraph.Proofs.Json.Numbers
import CodeGraph.Proofs.Json.Texts
import CodeGraph.Proofs.Double.Range
import CodeGraph.Proofs.Fields
import CodeGraph.Proofs.Json.Range
import CodeGraph.Proofs.Json.Decoding
import CodeGraph.Proofs.Graph.RoundTrip
import CodeGraph.Proofs.Saved.RoundTrip
import CodeGraph.Proofs.Saved.Runs
import CodeGraph.Proofs.Saved.Mirror
import CodeGraph.Proofs.Saved.Loss
import CodeGraph.Proofs.Cache.History
import CodeGraph.Proofs.Cache.Removal
import CodeGraph.Proofs.Cache.Eviction
import CodeGraph.Proofs.Cache.Accounts
import CodeGraph.Proofs.Graph.History
import CodeGraph.Proofs.Query.Parameters
import CodeGraph.Proofs.Query.Filters
import CodeGraph.Proofs.Value.Comparison
import CodeGraph.Proofs.Double.Exact
import CodeGraph.Proofs.Value.Equality
import CodeGraph.Proofs.Cache.Outcome
import CodeGraph.Proofs.Cache.Sweeping
import CodeGraph.Proofs.Engine.Failure
import CodeGraph.Proofs.Query.Joining
import CodeGraph.Proofs.Query.Exchange
import CodeGraph.Proofs.Query.Strings
import CodeGraph.Proofs.Query.Integers
import CodeGraph.Proofs.Unicode.LowerCase
import CodeGraph.Proofs.Query.LetterCase
import CodeGraph.Proofs.Query.Projection
import CodeGraph.Proofs.Cache.Candidates
import CodeGraph.Proofs.Cache.WarmUp
import CodeGraph.Proofs.Cache.Warmed
import CodeGraph.Proofs.Cache.Frequency
import CodeGraph.Proofs.Cache.Frequent
import CodeGraph.Proofs.Cache.Similarity
import CodeGraph.Proofs.Cache.Filling
import CodeGraph.Proofs.Double.Halfway
import CodeGraph.Proofs.Double.Arithmetic
import CodeGraph.Proofs.Json.Same
import CodeGraph.Proofs.Cache.Words
import CodeGraph.Proofs.Cache.FileNames
import CodeGraph.Proofs.Cache.Stays
import CodeGraph.Proofs.Cache.Wanted
import CodeGraph.Proofs.Query.Spans
import CodeGraph.Proofs.Query.Indexing
import CodeGraph.Proofs.Query.Tiling
import CodeGraph.Proofs.Settings.Layers
