import PortGrid.BatchRename
import PortGrid.Equipment
import PortGrid.Filter
import PortGrid.Grid
import PortGrid.Identifier
import PortGrid.Identifier.Fresh
import PortGrid.Json.Decimal
import PortGrid.Json.Fault
import PortGrid.Json.Number
import PortGrid.Json.Reader
import PortGrid.Json.Shape
import PortGrid.Json.Skip
import PortGrid.Json.Writer
import PortGrid.Language
import PortGrid.Main
import PortGrid.Moment
import PortGrid.Naming.Assignment
import PortGrid.Naming.Pattern
import PortGrid.Port
import PortGrid.Snapshot
import PortGrid.Snapshot.Codes
import PortGrid.Snapshot.Reader
import PortGrid.Snapshot.Writer
import PortGrid.Storage
import PortGrid.Storage.Directory
import PortGrid.Storage.Guarded
import PortGrid.Storage.Memory
import PortGrid.Storage.Tree
import PortGrid.Store
import PortGrid.Text.Blank
import PortGrid.Text.Cased
import PortGrid.Text.Digit
import PortGrid.Text.Letter
import PortGrid.Text.Lowercase
import PortGrid.Text.Printable
import PortGrid.Text.Quoted
import PortGrid.Text.Ranges
import PortGrid.Text.Search
import PortGrid.Text.Size
import PortGrid.Timestamp
import PortGrid.Timestamp.Clock
import PortGrid.Timestamp.Reader
import PortGrid.Timestamp.Writer
import PortGrid.Proofs.Json.Spelling
import PortGrid.Proofs.Json.Record
import PortGrid.Proofs.Timestamp
import PortGrid.Proofs.Snapshot
import PortGrid.Proofs.Storage.Laws
import PortGrid.Proofs.Store.Run
import PortGrid.Proofs.Store.Durability
import PortGrid.Proofs.Equipment
import PortGrid.Proofs.Equipment.Reconciliation
import PortGrid.Proofs.Equipment.Resizing
import PortGrid.Proofs.Store.Atomicity
import PortGrid.Proofs.Store.Goodness
import PortGrid.Proofs.Naming.Grammar
import PortGrid.Proofs.Storage.Directory
import PortGrid.Proofs.Storage.Refinement
import PortGrid.Proofs.Naming.Names
import PortGrid.Proofs.Naming.Distinctness
import PortGrid.Proofs.Store.Permanence
import PortGrid.Proofs.Store.History
import PortGrid.Proofs.Naming.Tidiness
import PortGrid.Proofs.Store.Tidiness
import PortGrid.Proofs.Store.Independence
import PortGrid.Proofs.Json.Document
import PortGrid.Proofs.Snapshot.Tolerance
import PortGrid.Proofs.Naming.Invariance
import PortGrid.Proofs.Naming.Range
import PortGrid.Proofs.Naming.Increment
import PortGrid.Proofs.Naming.Substitution
import PortGrid.Proofs.Store.Edits
import PortGrid.Proofs.Store.Commutation
import PortGrid.Proofs.Store.Renaming
import PortGrid.Proofs.BatchRename
import PortGrid.Proofs.Equipment.Consistency
import PortGrid.Proofs.Equipment.Numbering
import PortGrid.Proofs.Store.NamesOnly
import PortGrid.Proofs.Store.Repetition
import PortGrid.Proofs.Naming.Extension
import PortGrid.Proofs.Naming.Continuation
import PortGrid.Proofs.Store.Growth
import PortGrid.Proofs.Storage.Interruption
import PortGrid.Proofs.Text.Lowercase
import PortGrid.Proofs.Filter
import PortGrid.Proofs.Text.ByteOrder
import PortGrid.Proofs.Store.Offers
import PortGrid.Proofs.Store.RowMajor
import PortGrid.Proofs.BatchRename.Printing
import PortGrid.Proofs.Naming.Words
import PortGrid.Proofs.Storage.Paths
