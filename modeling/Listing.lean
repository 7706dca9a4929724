import Listing.Text.Blank
import Listing.Text.LetterCase
import Listing.Text.Display
import Listing.Binary64.Shortest
import Listing.Number.Parser
import Listing.Json.Parser
import Listing.Json.Printer
import Listing.Base64
import Listing.Error
import Listing.Operator
import Listing.Value.Json
import Listing.Filter.Json
import Listing.Calendar.Iso8601
import Listing.Selector.Json
import Listing.Coercion
import Listing.Plugin.Stock
import Listing.Plugin.Template
import Listing.Plugin.Registry
import Listing.Config.Json
import Listing.Sort.Json
import Listing.Row
import Listing.Cursor
import Listing.OrderBy
import Listing.Predicate
import Listing.Request.Json
import Listing.Query
import Listing.Proofs.Trimming
import Listing.Proofs.Base64
import Listing.Proofs.JsonStrings
import Listing.Proofs.JsonTexts
import Listing.Proofs.Cursor
import Listing.Proofs.Runs
import Listing.Proofs.Occurrence
import Listing.Proofs.Rendering
import Listing.Proofs.Ordering
import Listing.Proofs.BuiltIn
import Listing.Proofs.Rollback
import Listing.Proofs.Acceptance
import Listing.Proofs.Stock
import Listing.Proofs.Stateless
import Listing.Proofs.Noninterference
import Listing.Proofs.Paging
import Listing.Proofs.Placeholders
import Listing.Proofs.Numbering
import Listing.Proofs.Session
import Listing.Proofs.Sql.Token
import Listing.Proofs.Sql.Grammar
import Listing.Proofs.Meaning
import Listing.Proofs.Faults
import Listing.Proofs.Typing
import Listing.Proofs.Joining
import Listing.Proofs.Registration
import Listing.Proofs.Frame
import Listing.Proofs.LaxMode
import Listing.Proofs.Squeezing
import Listing.Proofs.Spelling
import Listing.Proofs.ReadBack.Request
import Listing.Proofs.ReadBack.Config
import Listing.Proofs.ReadBack.Params
import Listing.Proofs.ListMode
import Listing.Proofs.FirstFault
import Listing.Proofs.Outcome
import Listing.Proofs.Sql.Rows
import Listing.Proofs.Seeking
import Listing.Proofs.Canonical
import Listing.Proofs.Literals
import Listing.Proofs.Numbers
import Listing.Proofs.Rounding
import Listing.Proofs.Integers
import Listing.Proofs.Likeness
import Listing.Proofs.Days
import Listing.Proofs.Beginnings
import Listing.Proofs.SortLists
import Listing.Proofs.Sortability
import Listing.Proofs.Flags
import Listing.Proofs.BooleanWords
