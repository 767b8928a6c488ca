import LintServer.Json.Printer
import LintServer.Text.Quoted

/-!
# What can be wrong with a JSON text

A `Fault` is a cause and a place. While a text is read the place is kept as the number of bytes
not yet read; only the message turns it into a line and a column.
-/

namespace LintServer.Json

/-- What a value is, as a complaint about its type names it. -/
inductive Found
  | null
  | bool (value : Bool)
  | number (value : Number)
  | string (value : String)
  | sequence
  | map
deriving DecidableEq, Repr

/-- What a value is. -/
def Found.ofJson : Json → Found
  | .null => .null
  | .bool b => .bool b
  | .number n => .number n
  | .string s => .string s
  | .array _ => .sequence
  | .object _ => .map

/-- The words for what was found. -/
def Found.text : Found → String
  | .null => "null"
  | .bool b => "boolean `" ++ (if b then "true" else "false") ++ "`"
  | .number (.integer n) => "integer `" ++ toString n ++ "`"
  | .number (.real x) => "floating point `" ++ (Number.real x).text ++ "`"
  | .string s => "string " ++ Text.quoted s
  | .sequence => "sequence"
  | .map => "map"

/-- Why a JSON text cannot be read as what it should be. -/
inductive Cause
  | endOfValue
  | endOfString
  | endOfList
  | endOfObject
  | expectedValue
  | expectedIdent
  | expectedColon
  | expectedCommaOrBracket
  | expectedCommaOrBrace
  | keyMustBeString
  | trailingComma
  | trailingCharacters
  | invalidNumber
  | numberOutOfRange
  | controlCharacter
  | invalidEscape
  | loneSurrogate
  | endOfEscape
  | invalidCodePoint
  | tooDeep
  | wrongType (found : Found) (expected : String)
  | wrongValue (found : Found) (expected : String)
  | wrongLength (count : Nat) (expected : String)
  | unknownVariant (name : String) (known : List String)
  | unitVariant
  /-- A value is none of the things a choice of that name allows. -/
  | noAlternative (choice : String)
  /-- A text is no URL. -/
  | notUrl (reason text : String)
  | missingField (name : String)
  | duplicateField (name : String)
deriving DecidableEq, Repr

/-- A name between back quotes. -/
def ticked (name : String) : String := "`" ++ name ++ "`"

/-- The names that would have been right. -/
def oneOf : List String → String
  | [a] => ticked a
  | [a, b] => ticked a ++ " or " ++ ticked b
  | names => "one of " ++ String.intercalate ", " (names.map ticked)

/-- The words for a cause. -/
def Cause.text : Cause → String
  | .endOfValue => "EOF while parsing a value"
  | .endOfString => "EOF while parsing a string"
  | .endOfList => "EOF while parsing a list"
  | .endOfObject => "EOF while parsing an object"
  | .expectedValue => "expected value"
  | .expectedIdent => "expected ident"
  | .expectedColon => "expected `:`"
  | .expectedCommaOrBracket => "expected `,` or `]`"
  | .expectedCommaOrBrace => "expected `,` or `\x7d`"
  | .keyMustBeString => "key must be a string"
  | .trailingComma => "trailing comma"
  | .trailingCharacters => "trailing characters"
  | .invalidNumber => "invalid number"
  | .numberOutOfRange => "number out of range"
  | .controlCharacter => "control character (\\u0000-\\u001F) found while parsing a string"
  | .invalidEscape => "invalid escape"
  | .loneSurrogate => "lone leading surrogate in hex escape"
  | .endOfEscape => "unexpected end of hex escape"
  | .invalidCodePoint => "invalid unicode code point"
  | .tooDeep => "recursion limit exceeded"
  | .wrongType found expected => "invalid type: " ++ found.text ++ ", expected " ++ expected
  | .wrongValue found expected => "invalid value: " ++ found.text ++ ", expected " ++ expected
  | .wrongLength count expected =>
    "invalid length " ++ toString count ++ ", expected " ++ expected
  | .unknownVariant name known =>
    "unknown variant " ++ ticked name ++ ", expected " ++ oneOf known
  | .unitVariant => "invalid type: unit variant, expected newtype variant"
  | .noAlternative choice => "data did not match any variant of untagged enum " ++ choice
  | .notUrl reason text => reason ++ ": " ++ Text.quoted text
  | .missingField name => "missing field " ++ ticked name
  | .duplicateField name => "duplicate field " ++ ticked name

/-- A cause and its place: how many bytes were still unread, or no place at all. -/
structure Fault where
  cause : Cause
  unread : Option Nat
deriving DecidableEq, Repr

/-- A line, counted from one, and the number of bytes before the place on that line. -/
structure Place where
  line : Nat
  column : Nat
deriving DecidableEq, Repr

/-- The place after one more byte. -/
def Place.after (p : Place) (b : UInt8) : Place :=
  if b = 10 then ⟨p.line + 1, 0⟩ else ⟨p.line, p.column + 1⟩

/-- The place at the end of some bytes. -/
def Place.ofBytes (bytes : List UInt8) : Place := bytes.foldl Place.after ⟨1, 0⟩

/-- The words for a fault in a given text. -/
def Fault.text (input : List UInt8) (fault : Fault) : String :=
  match fault.unread with
  | none => fault.cause.text
  | some unread =>
    let place := Place.ofBytes (input.take (input.length - unread))
    fault.cause.text ++ " at line " ++ toString place.line ++ " column " ++ toString place.column

end LintServer.Json
