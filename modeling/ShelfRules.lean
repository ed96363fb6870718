import ShelfRules.Double
import ShelfRules.Double.Decimal
import ShelfRules.Double.Text
import ShelfRules.Text.Character
import ShelfRules.Text.Quoted
import ShelfRules.Text.LowercaseTable
import ShelfRules.Text.Lowercase
import ShelfRules.Text.Half
import ShelfRules.Calendar.Date
import ShelfRules.Calendar.Moment
import ShelfRules.Calendar.Written
import ShelfRules.Calendar.Iso
import ShelfRules.Calendar.Pattern
import ShelfRules.ReadStatus
import ShelfRules.Value
import ShelfRules.Value.Equality
import ShelfRules.Text.Utf8
import ShelfRules.Json.Error
import ShelfRules.Json.Parser
import ShelfRules.Fault
import ShelfRules.Value.Written
import ShelfRules.Json.Printer
import ShelfRules.Json.Pieces
import ShelfRules.Value.Number
import ShelfRules.Value.Part
import ShelfRules.Value.Normal
import ShelfRules.Field
import ShelfRules.Operator
import ShelfRules.Filter.Operand
import ShelfRules.Filter.Rule
import ShelfRules.Notice
import ShelfRules.Filter.Tree
import ShelfRules.Filter.Verdict
import ShelfRules.Filter.Test
import ShelfRules.Book
import ShelfRules.Book.Subject
import ShelfRules.Filter.Evaluation
import ShelfRules.Value.Typed
import ShelfRules.Filter.Stored
import ShelfRules.Shelf
import ShelfRules.Shelf.Stored
import ShelfRules.Path
import ShelfRules.Disk
import ShelfRules.Disk.Document
import ShelfRules.Shelf.Portable
import ShelfRules.Catalogue
import ShelfRules.Log.Level
import ShelfRules.Log.Logger
import ShelfRules.Log.Session
import ShelfRules.Settings
import ShelfRules.CommandLine
import ShelfRules.Main
import ShelfRules.Proofs.DecimalReading
import ShelfRules.Proofs.WrittenNumbers
import ShelfRules.Proofs.WrittenBytes
import ShelfRules.Proofs.JsonText
import ShelfRules.Proofs.JsonDocuments
import ShelfRules.Proofs.JsonLayout
import ShelfRules.Proofs.DoubleIntegers
import ShelfRules.Proofs.OperandReading
import ShelfRules.Proofs.LoadedFilters
import ShelfRules.Proofs.StoredShelves
import ShelfRules.Proofs.WrittenFilters
import ShelfRules.Proofs.WrittenDocuments
import ShelfRules.Proofs.RereadTrees
import ShelfRules.Proofs.OrdinaryFilters
import ShelfRules.Proofs.WrittenDays
import ShelfRules.Proofs.AlikeOperands
import ShelfRules.Proofs.CanonicalFilters
import ShelfRules.Proofs.FilterLetters
import ShelfRules.Proofs.ClashingRules
import ShelfRules.Proofs.AnsweredFilters
import ShelfRules.Proofs.DualFilters
import ShelfRules.Proofs.SavedShelves
import ShelfRules.Proofs.ListedShelves
import ShelfRules.Proofs.CountedShelves
import ShelfRules.Proofs.BrokenShelves
import ShelfRules.Proofs.CarriedShelves
import ShelfRules.Proofs.ResavedFilters
import ShelfRules.Proofs.TypedOperands
import ShelfRules.Proofs.LoweredTexts
import ShelfRules.Proofs.MarkedTexts
import ShelfRules.Proofs.LoweredTimes
import ShelfRules.Proofs.LoweredDates
import ShelfRules.Proofs.NormalizedAgain
import ShelfRules.Proofs.CountedDays
import ShelfRules.Proofs.QuotedTexts
import ShelfRules.Proofs.QuotedParts
import ShelfRules.Proofs.WellFormedDocuments
import ShelfRules.Proofs.KeptSkeletons
import ShelfRules.Proofs.MentionedFields
import ShelfRules.Proofs.LooseBooks
import ShelfRules.Proofs.AgreeingViews
import ShelfRules.Proofs.ImportedEntries
import ShelfRules.Proofs.LoggedRecords
import ShelfRules.Proofs.CountedBooks
import ShelfRules.Proofs.LoadedDocuments
import ShelfRules.Proofs.IncompleteRules
import ShelfRules.Proofs.PatternReading
import ShelfRules.Proofs.RegroupedFilters
import ShelfRules.Proofs.StoredDays
import ShelfRules.Proofs.WrittenTimes
import ShelfRules.Proofs.SpelledInstants
import ShelfRules.Proofs.SetElements
import ShelfRules.Proofs.NumericTexts
import ShelfRules.Proofs.OrderedValues
import ShelfRules.Proofs.NumericDates
import ShelfRules.Proofs.SpelledPieces
import ShelfRules.Proofs.SpelledIntegers
import ShelfRules.Proofs.SpelledDays
import ShelfRules.Proofs.SavedSettings
import ShelfRules.Proofs.PrunedNulls
