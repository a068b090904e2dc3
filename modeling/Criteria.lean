import Criteria.Text.Quoted
import Criteria.Text.Blank
import Criteria.Text.DecimalDigit
import Criteria.Text.LetterCase
import Criteria.Number.Shortest
import Criteria.Time.Timestamp
import Criteria.Value.Display
import Criteria.Value.Commas
import Criteria.Value.Reading
import Criteria.Value.Writing
import Criteria.Pattern
import Criteria.Path
import Criteria.Criterion.Checking
import Criteria.Document.Compile
import Criteria.Relational.Compile
import Criteria.Relational.Orders
import Criteria.Relational.Statement
import Criteria.Settings.EnvFile
import Criteria.Session.Run
import Criteria.Settings.Basic
import Criteria.Settings.Load
import Criteria.Proofs.Text.LetterCase
import Criteria.Proofs.Number.Numeral
import Criteria.Proofs.Number.Rounding
import Criteria.Proofs.Number.Shortest
import Criteria.Proofs.Number.Reading
import Criteria.Proofs.Number.Writing
import Criteria.Proofs.Time.Timestamp
import Criteria.Proofs.Value.Commas
import Criteria.Proofs.Value.Splitting
import Criteria.Proofs.Value.Reading
import Criteria.Proofs.Value.Items
import Criteria.Proofs.Value.Writing
import Criteria.Proofs.Value.Rereading
import Criteria.Proofs.Value.Canonical
import Criteria.Proofs.Value.Lists
import Criteria.Proofs.Document.Matching
import Criteria.Proofs.Document.Membership
import Criteria.Proofs.Compilation
import Criteria.Proofs.Relational.Statement
import Criteria.Proofs.Relational.Navigation
import Criteria.Proofs.Relational.Ordering
import Criteria.Proofs.Relational.Injection
import Criteria.Proofs.Conjunction
import Criteria.Proofs.Relational.Questions
import Criteria.Proofs.Relational.Endings
import Criteria.Proofs.Relational.Placeholders
import Criteria.Proofs.Relational.Parameters
import Criteria.Proofs.Document.Endings
import Criteria.Proofs.Path
import Criteria.Proofs.Faults
import Criteria.Proofs.Document.Hedging
import Criteria.Proofs.Session.Configuration
import Criteria.Proofs.Document.Rendering
import Criteria.Proofs.Session.Logging
import Criteria.Proofs.Value.Nesting
import Criteria.Proofs.Number.Head
import Criteria.Proofs.Number.Overflow
import Criteria.Proofs.Number.Refusal
import Criteria.Proofs.Value.Numbers
import Criteria.Proofs.Number.Pieces
import Criteria.Proofs.Number.Sign
import Criteria.Proofs.Number.Integrality
import Criteria.Proofs.Time.Shape
import Criteria.Proofs.Time.Order
import Criteria.Proofs.Value.Moments
import Criteria.Proofs.Relational.Chronology
import Criteria.Proofs.Document.Patterns
