import SlideMerge.Main
import SlideMerge.Mapping.TableData
import SlideMerge.Proofs.Markup
import SlideMerge.Proofs.Preservation
import SlideMerge.Proofs.Refilling
import SlideMerge.Web.Service
import SlideMerge.Proofs.Ordering
import SlideMerge.Proofs.Influence
import SlideMerge.Proofs.Failure
import SlideMerge.Proofs.Double
import SlideMerge.Proofs.NumberCode
import SlideMerge.Proofs.Display
import SlideMerge.Proofs.Reference
import SlideMerge.Proofs.Snapshot
import SlideMerge.Proofs.Resolving
import SlideMerge.Proofs.Calendar
import SlideMerge.Proofs.Serial
import SlideMerge.Proofs.DateForms
import SlideMerge.Proofs.Rounding
import SlideMerge.Proofs.Formats
import SlideMerge.Proofs.Generation
import SlideMerge.Proofs.Simultaneous
import SlideMerge.Proofs.LiteralPieces
import SlideMerge.Proofs.Layout
import SlideMerge.Proofs.Sections
import SlideMerge.Proofs.Lexemes
import SlideMerge.Proofs.Separators
import SlideMerge.Proofs.Search
import SlideMerge.Proofs.Currency
import SlideMerge.Proofs.FixedPlaces
import SlideMerge.Proofs.Placeholders
import SlideMerge.Proofs.Zero
import SlideMerge.Proofs.Exact
import SlideMerge.Proofs.Integral
import SlideMerge.Proofs.Arithmetic
import SlideMerge.Proofs.DigitBody
import SlideMerge.Proofs.Grouping
import SlideMerge.Proofs.Scaling
import SlideMerge.Proofs.Storage
import SlideMerge.Proofs.Scientific
import SlideMerge.Proofs.GeneralFormat
import SlideMerge.Proofs.DateSystems
import SlideMerge.Proofs.Minutes
import SlideMerge.Proofs.QuotedText
import SlideMerge.Proofs.Midnight
import SlideMerge.Proofs.DateText
import SlideMerge.Proofs.NormalForm
import SlideMerge.Proofs.Escaping
import SlideMerge.Proofs.Joining
import SlideMerge.Proofs.ExtraField
import SlideMerge.Proofs.WrittenInteger
import SlideMerge.Proofs.Checking
import SlideMerge.Proofs.SpecChecks
import SlideMerge.Proofs.TableChecks
import SlideMerge.Proofs.TableWriting
import SlideMerge.Proofs.Columns
import SlideMerge.Proofs.InStep
import SlideMerge.Proofs.Counting
import SlideMerge.Proofs.Image
