/-!
# Errors in JSON text

What is wrong with a text that is not JSON, and where: the line, the column and the count of
characters in front.
-/

namespace ShelfRules.Json

/-- What is wrong at a place of a text. -/
inductive Cause where
  | missingValue
  | missingKey
  | missingColon
  | missingComma
  | extraData
  | unterminatedText
  | controlCharacter
  | invalidEscape
  | invalidUnicodeEscape
  | byteOrderMark
deriving DecidableEq, Repr

/-- The words for a cause. -/
def Cause.message : Cause → String
  | .missingValue => "Expecting value"
  | .missingKey => "Expecting property name enclosed in double quotes"
  | .missingColon => "Expecting ':' delimiter"
  | .missingComma => "Expecting ',' delimiter"
  | .extraData => "Extra data"
  | .unterminatedText => "Unterminated string starting at"
  | .controlCharacter => "Invalid control character at"
  | .invalidEscape => "Invalid \\escape"
  | .invalidUnicodeEscape => "Invalid \\uXXXX escape"
  | .byteOrderMark => "Unexpected UTF-8 BOM (decode using utf-8-sig)"

/-- A place in a text. -/
structure Location where
  line : Nat
  column : Nat
  position : Nat
deriving DecidableEq, Repr

/-- The place of the character with a number of characters in front. -/
def Location.of (text : List Char) (position : Nat) : Location :=
  let before := text.take position
  ⟨before.count '\n' + 1, (before.reverse.takeWhile (· != '\n')).length + 1, position⟩

/-- Why a text has no value. -/
inductive Error where
  /-- The text is not JSON. -/
  | malformed (cause : Cause) (place : Location)
  /-- An integer has too many digits to be read. -/
  | integerTooLong (digits : Nat)
deriving DecidableEq, Repr

/-- The message for a text that is not JSON. -/
def malformedMessage (cause : Cause) (place : Location) : String :=
  cause.message ++ s!": line {place.line} column {place.column} (char {place.position})"

end ShelfRules.Json
