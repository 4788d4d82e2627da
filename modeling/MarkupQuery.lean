import MarkupQuery.Document.Image
import MarkupQuery.Proofs.Query.Keys
import MarkupQuery.Proofs.Selector.Session
import MarkupQuery.Selector
import MarkupQuery.Proofs.Document.Attributes
import MarkupQuery.Proofs.Document.Content
import MarkupQuery.Proofs.Document.Walk
import MarkupQuery.Proofs.Document.Load
import MarkupQuery.Proofs.Document.Places
import MarkupQuery.Proofs.Document.Rows
import MarkupQuery.Proofs.Query.Tokens
import MarkupQuery.Proofs.Query.Reading
import MarkupQuery.Proofs.Document.Distinct
import MarkupQuery.Proofs.XPath.NodeSets
import MarkupQuery.Proofs.XPath.Stepping
import MarkupQuery.Proofs.Query.Evaluation
import MarkupQuery.Proofs.Query.Chains
import MarkupQuery.Proofs.Selector.Chain
import MarkupQuery.Proofs.Query.Decoding
import MarkupQuery.Proofs.Selector.OwnNames
import MarkupQuery.Proofs.XPath.Order
import MarkupQuery.Proofs.Selector.Order
import MarkupQuery.Proofs.XPath.Soundness
import MarkupQuery.Proofs.XPath.SoundReading
import MarkupQuery.Proofs.XPath.Progress
import MarkupQuery.Proofs.Selector.Quotes
import MarkupQuery.Proofs.Query.Writing
import MarkupQuery.Proofs.Selector.Terminals
import MarkupQuery.Proofs.Query.Changes
import MarkupQuery.Proofs.Selector.Changes
import MarkupQuery.Proofs.Document.Likeness
import MarkupQuery.Proofs.Document.Pairing
import MarkupQuery.Proofs.Query.Likeness
import MarkupQuery.Proofs.Selector.Options
import MarkupQuery.Proofs.Query.Collisions
import MarkupQuery.Proofs.Query.Frame
import MarkupQuery.Proofs.Document.Accounting
import MarkupQuery.Proofs.Document.Elements
import MarkupQuery.Proofs.Selector.Elements
import MarkupQuery.Proofs.Document.Comments
import MarkupQuery.Proofs.Selector.Comments
import MarkupQuery.Proofs.Failure
import MarkupQuery.Proofs.Document.Normal
import MarkupQuery.Proofs.Document.Nodes
import MarkupQuery.Proofs.Selector.Results
import MarkupQuery.Proofs.Selector.Accessors
