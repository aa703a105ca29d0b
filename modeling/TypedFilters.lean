import TypedFilters.Files.Tree
import TypedFilters.Main
import TypedFilters.Proofs.Text.Trimming
import TypedFilters.Proofs.Text.Digits
import TypedFilters.Proofs.Time.Calendar
import TypedFilters.Proofs.Time.Instant
import TypedFilters.Proofs.Time.UtcText
import TypedFilters.Proofs.Intake.Batch
import TypedFilters.Proofs.Intake.Resolve
import TypedFilters.Proofs.Json.Reading
import TypedFilters.Proofs.Filter.WellTyped
import TypedFilters.Proofs.Intake.Soundness
import TypedFilters.Proofs.Text.Octets
import TypedFilters.Proofs.Transport.Base64
import TypedFilters.Proofs.Transport.Form
import TypedFilters.Proofs.Intake.Transparency
import TypedFilters.Proofs.Json.Integers
import TypedFilters.Proofs.Json.Strings
import TypedFilters.Proofs.Json.RoundTrip
import TypedFilters.Proofs.Catalogue
import TypedFilters.Proofs.Intake.FeedBack
import TypedFilters.Proofs.Transport.Base64Exact
import TypedFilters.Proofs.Intake.Acceptance
import TypedFilters.Proofs.Json.Objects
import TypedFilters.Proofs.Descriptor
import TypedFilters.Proofs.Intake.Agreement
import TypedFilters.Proofs.Text.Numerals
import TypedFilters.Proofs.Time.Clock
import TypedFilters.Proofs.Time.Timestamp
import TypedFilters.Proofs.Time.Spelling
import TypedFilters.Proofs.Time.Conversion
import TypedFilters.Proofs.Filter.Rebuilding
import TypedFilters.Proofs.Intake.DateTimes
import TypedFilters.Proofs.Settings.File
import TypedFilters.Proofs.Settings.Layering
import TypedFilters.Proofs.Time.LocalOffsets
import TypedFilters.Proofs.Time.Zone
import TypedFilters.Proofs.Time.Skeleton
import TypedFilters.Proofs.Time.Local
import TypedFilters.Proofs.Time.Earliest
import TypedFilters.Proofs.Time.SameMoment
import TypedFilters.Proofs.Transport.Utf8
import TypedFilters.Proofs.Transport.FormReading
import TypedFilters.Proofs.Decimal.Literal
import TypedFilters.Proofs.Decimal.Overflow
import TypedFilters.Proofs.Filter.Numbers
import TypedFilters.Proofs.Time.LocalForms
import TypedFilters.Proofs.Intake.LocalDateTimes
import TypedFilters.Proofs.Decimal.Rounding
import TypedFilters.Proofs.Decimal.Shortest
import TypedFilters.Proofs.Json.Numbers
import TypedFilters.Proofs.Json.Skipping
import TypedFilters.Proofs.Json.Typed
import TypedFilters.Proofs.Json.Values
import TypedFilters.Proofs.Json.NumberText
import TypedFilters.Proofs.Descriptor.Forms
import TypedFilters.Proofs.Intake.JsonNumbers
import TypedFilters.Proofs.Intake.NumberTransport
import TypedFilters.Proofs.Intake.Shapes
import TypedFilters.Proofs.Files.Path
import TypedFilters.Proofs.Intake.Variants
import TypedFilters.Proofs.Intake.FieldNames
import TypedFilters.Proofs.Settings.Sizes
import TypedFilters.Proofs.Session
import TypedFilters.Proofs.FirstMatch
import TypedFilters.Proofs.Time.Readers
import TypedFilters.Proofs.Intake.SharedFields
import TypedFilters.Proofs.Intake.FreeText
import TypedFilters.Proofs.Session.Fields
import TypedFilters.Proofs.Session.Log
