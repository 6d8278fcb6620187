import BookTheme.Bytes.Utf8
import BookTheme.Text.Quoted
import BookTheme.Decimal.Numeral
import BookTheme.Decimal.Shortest

/-! # What can be wrong with JSON

A document is read in one pass, and the first thing that is wrong with it is the error.
-/
namespace BookTheme.Json

/-- A value that stands where another type was expected. Of lists and objects only the type is known. -/
inductive Found where
  | null
  | boolean (value : Bool)
  | integer (value : Int)
  | float (negative : Bool) (size : Decimal.Binary64)
  | text (value : Text)
  | list
  | object
deriving DecidableEq

def integerText (n : Int) : String :=
  (if n < 0 then "-" else "") ++ String.ofList (Decimal.numeral n.natAbs)

def Found.describe : Found → String
  | .null => "null"
  | .boolean b => "boolean `" ++ (if b then "true" else "false") ++ "`"
  | .integer n => "integer `" ++ integerText n ++ "`"
  | .float negative size =>
    "floating point `" ++ (if negative then "-" else "") ++ String.ofList size.render ++ "`"
  | .text s => "string " ++ s.quoted
  | .list => "sequence"
  | .object => "map"

inductive Error where
  | endInValue
  | endInString
  | endInList
  | endInObject
  | expectedValue
  | expectedWord
  | expectedColon
  | expectedCommaInList
  | expectedCommaInObject
  | keyNotString
  | trailingComma
  | trailingCharacters
  | invalidNumber
  | numberOutOfRange
  | invalidEscape
  | controlCharacter
  | notUtf8
  | loneSurrogate
  | halfSurrogatePair
  | wrongType (found : Found) (expected : String)
  | outOfRange (value : Int) (expected : String)
  | tooShort (length : Nat) (expected : String)
  | unknownField (name : Text) (known : List String)
  | duplicateField (name : String)
  | missingField (name : String)
deriving DecidableEq

def alternatives (names : List String) : String :=
  match names.map fun name => "`" ++ name ++ "`" with
  | [a, b] => a ++ " or " ++ b
  | all => "one of " ++ ", ".intercalate all

def Error.message : Error → String
  | .endInValue => "EOF while parsing a value"
  | .endInString => "EOF while parsing a string"
  | .endInList => "EOF while parsing a list"
  | .endInObject => "EOF while parsing an object"
  | .expectedValue => "expected value"
  | .expectedWord => "expected ident"
  | .expectedColon => "expected `:`"
  | .expectedCommaInList => "expected `,` or `]`"
  | .expectedCommaInObject => "expected `,` or `\x7d`"
  | .keyNotString => "key must be a string"
  | .trailingComma => "trailing comma"
  | .trailingCharacters => "trailing characters"
  | .invalidNumber => "invalid number"
  | .numberOutOfRange => "number out of range"
  | .invalidEscape => "invalid escape"
  | .controlCharacter => "control character (\\u0000-\\u001F) found while parsing a string"
  | .notUtf8 => "invalid unicode code point"
  | .loneSurrogate => "lone leading surrogate in hex escape"
  | .halfSurrogatePair => "unexpected end of hex escape"
  | .wrongType found expected => "invalid type: " ++ found.describe ++ ", expected " ++ expected
  | .outOfRange value expected =>
    "invalid value: integer `" ++ integerText value ++ "`, expected " ++ expected
  | .tooShort length expected => s!"invalid length {length}, expected {expected}"
  | .unknownField name known =>
    "unknown field `" ++ String.ofList name ++ "`, expected " ++ alternatives known
  | .duplicateField name => "duplicate field `" ++ name ++ "`"
  | .missingField name => "missing field `" ++ name ++ "`"

/-- A reader takes what it reads from the front of the input and leaves the rest. -/
abbrev Reader (α : Type) := Bytes → Except Error (α × Bytes)

def isSpace (b : UInt8) : Bool := b = 0x20 || b = 0x09 || b = 0x0A || b = 0x0D

def dropSpace (s : Bytes) : Bytes := s.dropWhile isSpace

end BookTheme.Json
