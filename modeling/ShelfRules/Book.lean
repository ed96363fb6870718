import ShelfRules.Value.Part

/-!
# Books

A book has attributes, and metadata with attributes of their own; each attribute is a value. The API
delivers a book as an object with keys of its own; what has no attribute is kept aside. A record is
a book, or any value that has the same names as a book has.

Results:
* `BookKey.ofName?_name`, `MetadataKey.ofName?_name`: an attribute is found by its name.
* `Book.ofPayload?_eq_none_iff`: exactly the objects are payloads of books.
-/

namespace ShelfRules

/-! ## Attributes -/

/-- An attribute of a book. -/
inductive BookKey where
  | bookId
  | libraryId
  | libraryName
  | fileName
  | fileSize
  | readStatus
  | personalRating
  | matchScore
  | dateFinished
  | lastReadTime
  | addedOn
deriving DecidableEq, Repr

namespace BookKey

/-- All attributes. -/
def all : List BookKey := [
  .bookId, .libraryId, .libraryName, .fileName, .fileSize, .readStatus, .personalRating,
  .matchScore, .dateFinished, .lastReadTime, .addedOn]

/-- The name of an attribute in records. -/
def name : BookKey → String
  | .bookId => "book_id"
  | .libraryId => "library_id"
  | .libraryName => "library_name"
  | .fileName => "file_name"
  | .fileSize => "file_size_kb"
  | .readStatus => "read_status"
  | .personalRating => "personal_rating"
  | .matchScore => "metadata_match_score"
  | .dateFinished => "date_finished"
  | .lastReadTime => "last_read_time"
  | .addedOn => "added_on"

/-- The key of an attribute in payloads. -/
def payloadKey : BookKey → String
  | .bookId => "id"
  | .libraryId => "libraryId"
  | .libraryName => "libraryName"
  | .fileName => "fileName"
  | .fileSize => "fileSizeKb"
  | .readStatus => "readStatus"
  | .personalRating => "personalRating"
  | .matchScore => "metadataMatchScore"
  | .dateFinished => "dateFinished"
  | .lastReadTime => "lastReadTime"
  | .addedOn => "addedOn"

/-- The attribute with a name. -/
def ofName? (s : String) : Option BookKey := all.find? fun key => key.name == s

/-- What a payload without the attribute stands for. -/
def absent : BookKey → Value
  | .bookId => .int 0
  | .libraryName => .text ""
  | _ => .null

theorem ofName?_name (key : BookKey) : ofName? key.name = some key := by
  cases key <;> rfl

end BookKey

/-- An attribute of the metadata of a book. -/
inductive MetadataKey where
  | title
  | subtitle
  | publisher
  | publishedDate
  | seriesName
  | seriesNumber
  | seriesTotal
  | pageCount
  | language
  | amazonRating
  | amazonReviewCount
  | goodreadsRating
  | goodreadsReviewCount
  | hardcoverRating
  | hardcoverReviewCount
  | authors
  | categories
  | moods
  | tags
deriving DecidableEq, Repr

namespace MetadataKey

/-- All attributes. -/
def all : List MetadataKey := [
  .title, .subtitle, .publisher, .publishedDate, .seriesName, .seriesNumber, .seriesTotal,
  .pageCount, .language, .amazonRating, .amazonReviewCount, .goodreadsRating,
  .goodreadsReviewCount, .hardcoverRating, .hardcoverReviewCount, .authors, .categories, .moods,
  .tags]

/-- The name of an attribute in records. -/
def name : MetadataKey → String
  | .title => "title"
  | .subtitle => "subtitle"
  | .publisher => "publisher"
  | .publishedDate => "published_date"
  | .seriesName => "series_name"
  | .seriesNumber => "series_number"
  | .seriesTotal => "series_total"
  | .pageCount => "page_count"
  | .language => "language"
  | .amazonRating => "amazon_rating"
  | .amazonReviewCount => "amazon_review_count"
  | .goodreadsRating => "goodreads_rating"
  | .goodreadsReviewCount => "goodreads_review_count"
  | .hardcoverRating => "hardcover_rating"
  | .hardcoverReviewCount => "hardcover_review_count"
  | .authors => "authors"
  | .categories => "categories"
  | .moods => "moods"
  | .tags => "tags"

/-- The key of an attribute in payloads. -/
def payloadKey : MetadataKey → String
  | .title => "title"
  | .subtitle => "subtitle"
  | .publisher => "publisher"
  | .publishedDate => "publishedDate"
  | .seriesName => "seriesName"
  | .seriesNumber => "seriesNumber"
  | .seriesTotal => "seriesTotal"
  | .pageCount => "pageCount"
  | .language => "language"
  | .amazonRating => "amazonRating"
  | .amazonReviewCount => "amazonReviewCount"
  | .goodreadsRating => "goodreadsRating"
  | .goodreadsReviewCount => "goodreadsReviewCount"
  | .hardcoverRating => "hardcoverRating"
  | .hardcoverReviewCount => "hardcoverReviewCount"
  | .authors => "authors"
  | .categories => "categories"
  | .moods => "moods"
  | .tags => "tags"

/-- The attribute with a name. -/
def ofName? (s : String) : Option MetadataKey := all.find? fun key => key.name == s

theorem ofName?_name (key : MetadataKey) : ofName? key.name = some key := by
  cases key <;> rfl

end MetadataKey

/-! ## Books -/

/-- What describes a book: a value for each attribute, null when it is not known. -/
structure Metadata where
  value : MetadataKey → Value

namespace Metadata

/-- The metadata in the entries of a payload. -/
def ofPayload (entries : Entries) : Metadata := ⟨fun key => entries.get key.payloadKey⟩

/-- The metadata as an object with the names of records. -/
def toValue (m : Metadata) : Value :=
  .object (MetadataKey.all.map fun key => (key.name, m.value key))

theorem part_toValue (m : Metadata) (key : MetadataKey) : m.toValue.part key.name = m.value key := by
  cases key <;> rfl

end Metadata

/-- A book: a value for each attribute, metadata when they are known, and what else was delivered. -/
structure Book where
  value : BookKey → Value
  metadata : Option Metadata
  extra : Value

namespace Book

/-- The key of the metadata in payloads and records. -/
def metadataKey : String := "metadata"

/-- The key under which a record keeps what has no attribute. -/
def extraKey : String := "extra"

/-- The key of a payload becomes an attribute. -/
def isKnownKey (key : String) : Bool :=
  key == metadataKey || BookKey.all.any fun known => known.payloadKey == key

/-- The metadata that a payload has under their key, which is an object. -/
def metadataOf : Value → Option Metadata
  | .object entries => some (.ofPayload entries)
  | _ => none

/-- The book in the entries of a payload. -/
def ofEntries (entries : Entries) : Book where
  value key := (entries.lookup key.payloadKey).getD key.absent
  metadata := metadataOf (entries.get metadataKey)
  extra := .object (entries.filter fun entry => !isKnownKey entry.1)

/-- The book in a payload. -/
def ofPayload? : Value → Option Book
  | .object entries => some (ofEntries entries)
  | _ => none

/-- The title of the metadata, or else the name of the file, or else a blank text. -/
def title (b : Book) : Value :=
  let title := (b.metadata.map (·.value .title)).getD .null
  title.orElse ((b.value .fileName).orElse (.text ""))

theorem ofPayload?_eq_none_iff {v : Value} :
    ofPayload? v = none ↔ ∀ entries, v ≠ .object entries := by
  cases v <;> simp [ofPayload?]

end Book

/-! ## Records -/

/-- What a filter is tried on: a book, or a value that stands for one. -/
inductive Record where
  | book (b : Book)
  | loose (v : Value)

namespace Record

/-- The value under a name of a record, null when there is none. Of a book these are its attributes; what
    else belongs to the kind of books, such as the functions that make them, has no name here. -/
def get : Record → String → Value
  | loose v, name => v.part name
  | book b, name =>
    if name = Book.metadataKey then (b.metadata.map Metadata.toValue).getD .null
    else if name = Book.extraKey then b.extra
    else ((BookKey.ofName? name).map b.value).getD .null

/-- The value of an attribute. -/
def value (r : Record) (key : BookKey) : Value := r.get key.name

/-- The value of an attribute of the metadata. -/
def metadata (r : Record) (key : MetadataKey) : Value := (r.get Book.metadataKey).part key.name

theorem value_book (b : Book) (key : BookKey) : (book b).value key = b.value key := by
  cases key <;> rfl

theorem metadata_book (b : Book) (key : MetadataKey) :
    (book b).metadata key = (b.metadata.map (·.value key)).getD .null := by
  have h : (book b).get Book.metadataKey = (b.metadata.map Metadata.toValue).getD .null := rfl
  unfold metadata
  rw [h]
  cases b.metadata with
  | none => rfl
  | some m => exact m.part_toValue key

end Record

end ShelfRules
