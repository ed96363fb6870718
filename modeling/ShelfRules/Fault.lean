import ShelfRules.Json.Error
import ShelfRules.Text.Half
import ShelfRules.Text.Quoted
import ShelfRules.Text.Utf8

/-!
# Faults

The causes for which an operation has no result, and their messages. A fault names what is wrong,
and the kind of the value that was met where it matters.
-/

namespace ShelfRules

/-- Why a stored filter is no tree. -/
inductive FilterError where
  /-- The text is not JSON. -/
  | malformed (cause : Json.Cause) (place : Json.Location)
  /-- What should be the text of a filter is of another kind. -/
  | notText (kind : String)
  /-- The root is no object. -/
  | rootNotObject (kind : String)
  /-- The children of a group are no list. -/
  | rulesNotList
  /-- A child of a group is no object. -/
  | nodeNotObject (kind : String)
deriving DecidableEq, Repr

/-- The message for a filter that is no tree. -/
def FilterError.message : FilterError → String
  | .malformed cause place => "Invalid filter JSON: " ++ Json.malformedMessage cause place
  | .notText kind =>
    "Invalid filter JSON: the JSON object must be str, bytes or bytearray, not " ++ kind
  | .rootNotObject kind => "Filter root must be an object, got " ++ kind
  | .rulesNotList => "'rules' must be a list"
  | .nodeNotObject kind => "Filter node must be an object, got " ++ kind

/-- Why a shelf is not fit to be saved. -/
inductive ShelfError where
  /-- The name is blank. -/
  | nameRequired
  /-- No rule has both a field and an operator. -/
  | noCompleteRule (name : String)
deriving DecidableEq, Repr

/-- The message for a shelf that is not fit to be saved. -/
def ShelfError.message : ShelfError → String
  | .nameRequired => "Shelf name is required"
  | .noCompleteRule name => "Shelf '" ++ name ++ "' needs at least one complete rule"

/-- Why a file of shelves cannot be read. -/
inductive ImportError where
  /-- The text is not JSON. -/
  | malformed (cause : Json.Cause) (place : Json.Location)
  /-- The list of shelves is missing. -/
  | noShelves
  /-- The shelves are no list. -/
  | shelvesNotList
  /-- An entry is no object. -/
  | entryNotObject (kind : String)
  /-- An entry has no name, or a blank one. -/
  | entryNameless
deriving DecidableEq, Repr

/-- The message for a file of shelves that cannot be read. -/
def ImportError.message : ImportError → String
  | .malformed cause place => "Invalid JSON: " ++ Json.malformedMessage cause place
  | .noShelves => "Missing 'magic_shelves' key in JSON"
  | .shelvesNotList => "'magic_shelves' must be a list"
  | .entryNotObject kind => "Shelf entry must be an object, got " ++ kind
  | .entryNameless => "Shelf name is required"

/-- Why the disk refuses an operation on a path. -/
inductive DiskError where
  | missing (path : String)
  | exists (path : String)
  | notFolder (path : String)
  | isFolder (path : String)
  | nameTooLong (path : String)
  /-- A path with a null character names nothing on any disk. -/
  | nullCharacter
deriving DecidableEq, Repr

/-- The message for a refused operation: the number and the words of the error, and the path between
    quotes. -/
def DiskError.message : DiskError → String
  | .missing path => told "[Errno 2] No such file or directory: " path
  | .exists path => told "[Errno 17] File exists: " path
  | .notFolder path => told "[Errno 20] Not a directory: " path
  | .isFolder path => told "[Errno 21] Is a directory: " path
  | .nameTooLong path => told "[Errno 36] File name too long: " path
  | .nullCharacter => "embedded null byte"
where
  /-- Words and a path between quotes. -/
  told (words path : String) : String := words ++ String.ofList (Text.quoted path.toList)

/-- Why an operation has no result. -/
inductive Fault where
  /-- An integer has too many digits to be written, or to be read when their number is told. -/
  | integerTooLong (digits : Option Nat)
  /-- An integer is past the largest double. -/
  | numberTooLarge
  /-- An instant lies outside of the years 1 to 9999. -/
  | dateOutOfRange
  /-- A clock that tells its offset is compared with one that does not. -/
  | mixedClocks
  /-- A value without elements stands where several are expected. -/
  | notIterable (kind : String)
  /-- A value other than a date stands where one is expected. -/
  | notDate (kind : String)
  /-- A value other than a text stands where one is expected. -/
  | notText (kind : String)
  /-- A value other than an object stands where one is expected. -/
  | notObject (kind : String)
  /-- A value other than a text stands where a path is expected. -/
  | notPath (kind : String)
  /-- The home folder of somebody is not known. -/
  | noHome
  /-- A list or an object stands where a name under which something is counted is expected. -/
  | notKey (kind : String)
  /-- A value has no form in JSON. -/
  | notEncodable (kind : String)
  /-- A shelf without a filter is written. -/
  | noFilter (name : String)
  | filter (cause : FilterError)
  | shelf (cause : ShelfError)
  | importing (cause : ImportError)
  /-- A file to be imported does not exist. -/
  | fileMissing (path : String)
  /-- A file is not UTF-8. -/
  | encoding (cause : Text.Utf8.Error)
  /-- A text cannot be written as UTF-8. -/
  | unencodable (cause : Text.HalfError)
  | disk (cause : DiskError)
deriving DecidableEq, Repr

/-- The fault refuses a text or a value for its form, and not for its kind or its size. -/
def Fault.isRefusal : Fault → Bool
  | .integerTooLong _ | .noFilter _ | .filter _ | .shelf _ | .importing _ | .encoding _
  | .unencodable _ => true
  | .disk cause => cause == .nullCharacter
  | _ => false

/-- The value that is there, and a fault when none is. -/
def Fault.ifNone {α : Type} (f : Fault) : Option α → Except Fault α
  | some a => .ok a
  | none => .error f

theorem Fault.ifNone_eq_error {α : Type} {f g : Fault} {o : Option α} (h : f.ifNone o = .error g) :
    g = f ∧ o = none := by
  cases o with
  | some a => exact nomatch h
  | none => exact ⟨(Except.error.inj h).symm, rfl⟩

/-- The message for a fault. -/
def Fault.message : Fault → String
  | .integerTooLong none =>
    "Exceeds the limit (4300 digits) for integer string conversion; " ++
      "use sys.set_int_max_str_digits() to increase the limit"
  | .integerTooLong (some digits) =>
    s!"Exceeds the limit (4300 digits) for integer string conversion: value has {digits} digits; " ++
      "use sys.set_int_max_str_digits() to increase the limit"
  | .numberTooLarge => "int too large to convert to float"
  | .dateOutOfRange => "date value out of range"
  | .mixedClocks => "can't compare offset-naive and offset-aware datetimes"
  | .notIterable kind => "'" ++ kind ++ "' object is not iterable"
  | .notDate kind => "a date is expected, not " ++ kind
  | .notText kind => "a text is expected, not " ++ kind
  | .notObject kind => "an object is expected, not " ++ kind
  | .notPath kind => "a path is expected, not " ++ kind
  | .noHome => "Could not determine home directory."
  | .notKey kind => "unhashable type: '" ++ kind ++ "'"
  | .notEncodable kind => "Object of type " ++ kind ++ " is not JSON serializable"
  | .noFilter name => "Shelf '" ++ name ++ "' has no filter to serialize"
  | .filter cause => cause.message
  | .shelf cause => cause.message
  | .importing cause => cause.message
  | .fileMissing path => "File not found: " ++ path
  | .encoding cause => cause.message
  | .unencodable cause => cause.message
  | .disk cause => cause.message

end ShelfRules
