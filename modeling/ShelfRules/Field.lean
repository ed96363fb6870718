import ShelfRules.Value.Written

/-!
# Fields

The attributes of a book that a rule can test, with what is known about each: the type of its values,
and which families of operators it takes. A rule may also name a field that is not among them; such a
name is kept as it is written.

Results:
* `Field.ofName?_name`: a field is found by its name.
* `FieldName.ofText_text`: a field name is read back from its text.
-/

namespace ShelfRules

/-! ## Types of fields -/

/-- The type of a field's values. A field without one holds text. -/
inductive FieldType where
  | number
  | decimal
  | date
deriving DecidableEq, Repr

namespace FieldType

/-- All types, in the order in which they are listed. -/
def all : List FieldType := [.number, .decimal, .date]

/-- The name of a type. -/
def name : FieldType → String
  | .number => "number"
  | .decimal => "decimal"
  | .date => "date"

/-- The type with a name. -/
def ofName? (s : String) : Option FieldType := all.find? fun type => type.name == s

theorem ofName?_name (type : FieldType) : ofName? type.name = some type := by
  cases type <;> rfl

end FieldType

/-! ## Fields -/

/-- An attribute of a book that a rule can test. -/
inductive Field where
  | library
  | title
  | subtitle
  | authors
  | categories
  | publisher
  | publishedDate
  | seriesName
  | seriesNumber
  | seriesTotal
  | pageCount
  | language
  | amazonRating
  | amazonReviewCount
  | goodreadsRating
  | goodreadsReviewCount
  | hardcoverRating
  | hardcoverReviewCount
  | personalRating
  | fileType
  | fileSize
  | readStatus
  | dateFinished
  | lastReadTime
  | metadataScore
  | moods
  | tags
deriving DecidableEq, Repr

/-- What is known about a field. -/
structure Descriptor where
  /-- The type of the values; none for text. -/
  type : Option FieldType
  /-- The field takes the operators on sets. -/
  multiValued : Bool
  /-- The field takes the operators on text. -/
  textEligible : Bool
deriving DecidableEq, Repr

namespace Descriptor

/-- A field of text that takes the operators on sets and on text. -/
def text : Descriptor := ⟨none, true, true⟩

/-- A field of fixed words, which takes the operators on sets alone. -/
def word : Descriptor := ⟨none, true, false⟩

/-- A field of a type, which takes the comparisons. -/
def typed (type : FieldType) : Descriptor := ⟨some type, false, false⟩

/-- The field takes the comparisons. -/
def isComparable (d : Descriptor) : Bool := d.type.isSome

end Descriptor

namespace Field

/-- All fields, in the order in which they are listed. -/
def all : List Field := [
  .library, .title, .subtitle, .authors, .categories, .publisher, .publishedDate, .seriesName,
  .seriesNumber, .seriesTotal, .pageCount, .language, .amazonRating, .amazonReviewCount,
  .goodreadsRating, .goodreadsReviewCount, .hardcoverRating, .hardcoverReviewCount,
  .personalRating, .fileType, .fileSize, .readStatus, .dateFinished, .lastReadTime,
  .metadataScore, .moods, .tags]

/-- The name of a field in rules. -/
def name : Field → String
  | .library => "library"
  | .title => "title"
  | .subtitle => "subtitle"
  | .authors => "authors"
  | .categories => "categories"
  | .publisher => "publisher"
  | .publishedDate => "publishedDate"
  | .seriesName => "seriesName"
  | .seriesNumber => "seriesNumber"
  | .seriesTotal => "seriesTotal"
  | .pageCount => "pageCount"
  | .language => "language"
  | .amazonRating => "amazonRating"
  | .amazonReviewCount => "amazonReviewCount"
  | .goodreadsRating => "goodreadsRating"
  | .goodreadsReviewCount => "goodreadsReviewCount"
  | .hardcoverRating => "hardcoverRating"
  | .hardcoverReviewCount => "hardcoverReviewCount"
  | .personalRating => "personalRating"
  | .fileType => "fileType"
  | .fileSize => "fileSize"
  | .readStatus => "readStatus"
  | .dateFinished => "dateFinished"
  | .lastReadTime => "lastReadTime"
  | .metadataScore => "metadataScore"
  | .moods => "moods"
  | .tags => "tags"

/-- The field with a name. -/
def ofName? (s : String) : Option Field := all.find? fun field => field.name == s

theorem ofName?_name (field : Field) : ofName? field.name = some field := by
  cases field <;> rfl

/-- What is known about a field. -/
def descriptor : Field → Descriptor
  | .library => .word
  | .title => .text
  | .subtitle => .text
  | .authors => .text
  | .categories => .text
  | .publisher => .text
  | .publishedDate => .typed .date
  | .seriesName => .text
  | .seriesNumber => .typed .number
  | .seriesTotal => .typed .number
  | .pageCount => .typed .number
  | .language => .text
  | .amazonRating => .typed .decimal
  | .amazonReviewCount => .typed .number
  | .goodreadsRating => .typed .decimal
  | .goodreadsReviewCount => .typed .number
  | .hardcoverRating => .typed .decimal
  | .hardcoverReviewCount => .typed .number
  | .personalRating => .typed .decimal
  | .fileType => .word
  | .fileSize => .typed .number
  | .readStatus => .word
  | .dateFinished => .typed .date
  | .lastReadTime => .typed .date
  | .metadataScore => .typed .decimal
  | .moods => .text
  | .tags => .text

end Field

/-! ## Names of fields -/

/-- The field of a rule: a known one, or another text. -/
inductive FieldName where
  | known (field : Field)
  | unknown (raw : String) (fresh : Field.ofName? raw = none)
deriving DecidableEq, Repr

namespace FieldName

/-- The field that a text names. -/
def ofText (s : String) : FieldName :=
  match h : Field.ofName? s with
  | some field => .known field
  | none => .unknown s h

/-- The field that a value names: null names the blank field, and a value that is no text is taken
    by its text. -/
def ofValue? : Value → Except Fault FieldName
  | .null => .ok (ofText "")
  | .text s => .ok (ofText s)
  | v => v.text?.map ofText

/-- The text of a field name. -/
def text : FieldName → String
  | .known field => field.name
  | .unknown raw _ => raw

/-- No field is named. -/
def isBlank (name : FieldName) : Bool := name.text == ""

/-- The type of the field's values; none for text and for fields that are not known. -/
def type : FieldName → Option FieldType
  | .known field => field.descriptor.type
  | .unknown .. => none

theorem ofText_text (name : FieldName) : ofText name.text = name := by
  cases name with
  | known field =>
    unfold ofText text
    split
    · rename_i other h
      rw [Field.ofName?_name] at h
      exact congrArg known (Option.some.inj h).symm
    · rename_i h
      rw [Field.ofName?_name] at h
      cases h
  | unknown raw fresh =>
    unfold ofText text
    split
    · rename_i other h
      rw [fresh] at h
      cases h
    · rfl

theorem text_ofText (s : String) : (ofText s).text = s := by
  unfold ofText
  split
  · rename_i field h
    have := List.find?_some h
    simpa [text] using this
  · rfl

end FieldName

end ShelfRules
