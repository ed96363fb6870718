import ShelfRules.Book
import ShelfRules.Field
import ShelfRules.Value.Normal

/-!
# Subjects

What a rule tests: the value that a field has in a record, and the texts in lower case that it stands
for when it is taken as a set. Each field is read from one attribute, in one of seven ways. A field
that is not known is looked up by its name, among the attributes first and then in what the record
keeps aside.

Results:
* `Record.subject?_known`: the value of a known field depends on its attribute alone.
-/

namespace ShelfRules

/-! ## Readings of a value -/

/-- The text behind the last of the given characters, if there is one. -/
def Text.behindLast (c : Char) (s : List Char) : Option (List Char) :=
  if s.contains c then some (s.reverse.takeWhile (· != c)).reverse else none

/-- The extension of a file name: the text behind its last dot, none when it has no dot or counts as
    nothing. -/
def fileExtension? (v : Value) : Except Fault (Option String) :=
  if v.truthy then
    match v with
    | .text s => .ok ((Text.behindLast '.' s.toList).map String.ofList)
    | v => .error (.notText v.kind)
  else .ok none

namespace Value

/-- A text in lower case; null for any other value. -/
def loweredText : Value → Value
  | .text s => .text (Text.lowered s)
  | _ => .null

/-- The texts in lower case of the items of a value: a text is its own item, an object has its
    keys, and what counts as nothing has none. -/
def itemTexts? (v : Value) : Except Fault (List String) :=
  if v.truthy then
    match v with
    | .text s => .ok [Text.lowered s]
    | .list items => lowerItems? items
    | .tuple items => lowerItems? items
    | .object entries => .ok (entries.map fun entry => Text.lowered entry.1)
    | v => .error (.notIterable v.kind)
  else .ok []

/-- The timestamp that a value is or that its text reads as; null for any other value. -/
def dateRead? (v : Value) : Except Fault Value :=
  match v with
  | .stamp t => .ok (.stamp t)
  | v =>
    if v.truthy then v.webText?.map fun s => ((Moment.ofText? s).map moment).getD .null
    else .ok .null

/-- The name of a state of reading, null standing for no state; any other value is kept. -/
def statusRead : Value → Value
  | .null => .text ReadStatus.unset.name
  | .status s => .text s.name
  | v => v

/-- The text in lower case of a value as a set of one, null being the blank text. -/
def single? : Value → Except Fault (List String)
  | .null => .ok [""]
  | v => v.webText?.map fun s => [Text.lowered s]

end Value

/-! ## Fields -/

/-- The attribute that a field is read from. -/
inductive FieldSource where
  | ofBook (key : BookKey)
  | ofMetadata (key : MetadataKey)
deriving DecidableEq, Repr

/-- How the value of a field is read from its attribute. -/
inductive FieldReading where
  /-- As it is, with no set of texts. -/
  | number
  /-- As it is. -/
  | identifier
  | text
  | items
  | date
  | fileType
  | status
deriving DecidableEq, Repr

namespace Field

/-- The attribute that a field is read from. -/
def source : Field → FieldSource
  | .library => .ofBook .libraryId
  | .title => .ofMetadata .title
  | .subtitle => .ofMetadata .subtitle
  | .authors => .ofMetadata .authors
  | .categories => .ofMetadata .categories
  | .publisher => .ofMetadata .publisher
  | .publishedDate => .ofMetadata .publishedDate
  | .seriesName => .ofMetadata .seriesName
  | .seriesNumber => .ofMetadata .seriesNumber
  | .seriesTotal => .ofMetadata .seriesTotal
  | .pageCount => .ofMetadata .pageCount
  | .language => .ofMetadata .language
  | .amazonRating => .ofMetadata .amazonRating
  | .amazonReviewCount => .ofMetadata .amazonReviewCount
  | .goodreadsRating => .ofMetadata .goodreadsRating
  | .goodreadsReviewCount => .ofMetadata .goodreadsReviewCount
  | .hardcoverRating => .ofMetadata .hardcoverRating
  | .hardcoverReviewCount => .ofMetadata .hardcoverReviewCount
  | .personalRating => .ofBook .personalRating
  | .fileType => .ofBook .fileName
  | .fileSize => .ofBook .fileSize
  | .readStatus => .ofBook .readStatus
  | .dateFinished => .ofBook .dateFinished
  | .lastReadTime => .ofBook .lastReadTime
  | .metadataScore => .ofBook .matchScore
  | .moods => .ofMetadata .moods
  | .tags => .ofMetadata .tags

/-- How the value of a field is read from its attribute. -/
def reading : Field → FieldReading
  | .library => .identifier
  | .title | .subtitle | .publisher | .seriesName | .language => .text
  | .authors | .categories | .moods | .tags => .items
  | .publishedDate | .dateFinished | .lastReadTime => .date
  | .fileType => .fileType
  | .readStatus => .status
  | .seriesNumber | .seriesTotal | .pageCount | .amazonRating | .amazonReviewCount
  | .goodreadsRating | .goodreadsReviewCount | .hardcoverRating | .hardcoverReviewCount
  | .personalRating | .fileSize | .metadataScore => .number

end Field

namespace FieldReading

/-- The value that a field has, from its attribute. -/
def value? (reading : FieldReading) (v : Value) : Except Fault Value :=
  match reading with
  | .number => .ok v
  | .identifier => .ok v
  | .text => .ok v.loweredText
  | .items => v.itemTexts?.map Value.texts
  | .date => v.dateRead?
  | .fileType =>
    (fileExtension? v).map fun ext => (ext.map fun s => Value.text (Text.lowered s)).getD .null
  | .status => .ok v.statusRead

/-- The set of texts that a field stands for, from its attribute. -/
def texts? (reading : FieldReading) (v : Value) : Except Fault (List String) :=
  match reading with
  | .number => .ok []
  | .identifier => v.single?
  | .text => v.single?
  | .items => v.itemTexts?
  | .date => .ok []
  | .fileType => (fileExtension? v).map fun ext => [Text.lowered (ext.getD "")]
  | .status => v.statusRead.single?

end FieldReading

/-! ## Records -/

namespace Record

/-- The value of the attribute that a field is read from. -/
def fieldValue (r : Record) (field : Field) : Value :=
  match field.source with
  | .ofBook key => r.value key
  | .ofMetadata key => r.metadata key

/-- The value of a field. -/
def subject? (r : Record) : FieldName → Except Fault Value
  | .known field => field.reading.value? (r.fieldValue field)
  | .unknown raw _ =>
    if raw = "" then .ok .null
    else
      match r.get raw with
      | .null => .ok ((r.get Book.extraKey).part raw)
      | v => .ok v

/-- The set of texts that a field stands for. -/
def texts? (r : Record) : FieldName → Except Fault (List String)
  | .known field => field.reading.texts? (r.fieldValue field)
  | .unknown .. => .ok []

theorem subject?_known (r : Record) (field : Field) :
    r.subject? (.known field) = field.reading.value? (r.fieldValue field) := rfl

end Record

end ShelfRules
