import TokenGuard.Decimal.Shortest
import TokenGuard.Text.Printable

/-! Causes for rejecting a JSON text: faults of its syntax, and data that does not fit. -/

namespace TokenGuard.Json

/-- A place where a text stops being JSON. -/
inductive Fault
  /-- The text ends where a value should be or inside a word or number. -/
  | endInValue
  /-- The text ends inside an array. -/
  | endInList
  /-- The text ends inside an object. -/
  | endInObject
  /-- The text ends inside a string. -/
  | endInString
  /-- No value starts here. -/
  | noValue
  /-- A word other than the three known ones. -/
  | noWord
  /-- A key is not followed by a colon. -/
  | noColon
  /-- An item is followed by neither a comma nor the end of the array. -/
  | noListEnd
  /-- A member is followed by neither a comma nor the end of the object. -/
  | noObjectEnd
  /-- A key is not a string. -/
  | noKey
  /-- A comma stands before a closing bracket. -/
  | trailingComma
  /-- Something follows the document. -/
  | trailingCharacters
  /-- A number is malformed. -/
  | badNumber
  /-- A number is too large for binary64. -/
  | numberRange
  /-- An unknown escape. -/
  | badEscape
  /-- A surrogate escape without its partner. -/
  | loneSurrogate
  /-- A leading surrogate that no escape follows. -/
  | noTrailingEscape
  /-- A control character inside a string. -/
  | controlCharacter
  /-- Too many arrays and objects inside each other. -/
  | tooDeep
  deriving DecidableEq

/-- The wording of a fault. -/
def Fault.message : Fault → Text
  | endInValue => "EOF while parsing a value"
  | endInList => "EOF while parsing a list"
  | endInObject => "EOF while parsing an object"
  | endInString => "EOF while parsing a string"
  | noValue => "expected value"
  | noWord => "expected ident"
  | noColon => "expected \x60:\x60"
  | noListEnd => "expected \x60,\x60 or \x60]\x60"
  | noObjectEnd => "expected \x60,\x60 or \x60\x7d\x60"
  | noKey => "key must be a string"
  | trailingComma => "trailing comma"
  | trailingCharacters => "trailing characters"
  | badNumber => "invalid number"
  | numberRange => "number out of range"
  | badEscape => "invalid escape"
  | loneSurrogate => "lone leading surrogate in hex escape"
  | noTrailingEscape => "unexpected end of hex escape"
  | controlCharacter => "control character (\\u0000-\\u001F) found while parsing a string"
  | tooDeep => "recursion limit exceeded"

/-- Whether the fault is that the text is too short. -/
def Fault.isEnd : Fault → Bool
  | endInValue | endInList | endInObject | endInString => true
  | _ => false

/-- A number as JSON distinguishes them: exact integers of 64 bits, and binary64 numbers. -/
inductive Number
  | integer (value : Int)
  | float (value : Binary64)
  deriving DecidableEq

/-- Floats are positional from `0.00001` up to, not including, `1e+16`. -/
def floatForm : Binary64.Form := ⟨-5, 15⟩

/-- The text of an integer. -/
def integerText (value : Int) : Text :=
  (if value < 0 then ['-'] else []) ++ Text.ofNat value.natAbs

/-- The text of a number. -/
def Number.text : Number → Text
  | integer value => integerText value
  | float value => value.toText floatForm

/-- What was found in place of the expected data. -/
inductive Unexpected
  | null
  | boolean (value : Bool)
  | number (value : Number)
  | string (value : Text)
  | sequence
  | map
  deriving DecidableEq

/-- The wording of something found. -/
def Unexpected.message : Unexpected → Text
  | null => "null"
  | boolean true => "boolean \x60true\x60"
  | boolean false => "boolean \x60false\x60"
  | number (.integer value) => "integer \x60" ++ integerText value ++ "\x60"
  | number (.float value) => "floating point \x60" ++ value.toText floatForm ++ "\x60"
  | string value => "string " ++ Text.quoted value
  | sequence => "sequence"
  | map => "map"

/-- A reason why well-formed data does not fit. -/
inductive Misfit
  /-- A value of another type. -/
  | invalidType (found : Unexpected) (expected : Text)
  /-- A value of the right type that is not acceptable. -/
  | invalidValue (found : Unexpected) (expected : Text)
  /-- An array of another length. -/
  | invalidLength (length : Nat) (expected : Text)
  /-- A field that the record does not have. -/
  | unknownField (name : Text) (expected : List Text)
  /-- A name that is none of the alternatives. -/
  | unknownVariant (name : Text) (expected : List Text)
  /-- A field given twice. -/
  | duplicateField (name : Text)
  /-- A required field that is absent. -/
  | missingField (name : Text)
  /-- A value that its own grammar rejects, with that grammar's wording. -/
  | rejected (reason : Text)
  deriving DecidableEq

/-- A name between backticks. -/
def ticked (name : Text) : Text := "\x60" ++ name ++ "\x60"

/-- Alternatives as a list of names, two of them joined by a word. -/
def alternatives : List Text → Text
  | [one, two] => ticked one ++ " or " ++ ticked two
  | names => "one of " ++ Text.join ", " (names.map ticked)

/-- The wording of a misfit. -/
def Misfit.message : Misfit → Text
  | invalidType found expected => "invalid type: " ++ found.message ++ ", expected " ++ expected
  | invalidValue found expected => "invalid value: " ++ found.message ++ ", expected " ++ expected
  | invalidLength length expected =>
    "invalid length " ++ Text.ofNat length ++ ", expected " ++ expected
  | unknownField name expected =>
    "unknown field " ++ ticked name ++ ", expected " ++ alternatives expected
  | unknownVariant name expected =>
    "unknown variant " ++ ticked name ++ ", expected " ++ alternatives expected
  | duplicateField name => "duplicate field " ++ ticked name
  | missingField name => "missing field " ++ ticked name
  | rejected reason => reason

/-- Why a JSON text is rejected. -/
inductive Error
  | syntactic (fault : Fault)
  | data (misfit : Misfit)
  deriving DecidableEq

/-- The wording of an error. -/
def Error.message : Error → Text
  | syntactic fault => fault.message
  | data misfit => misfit.message

end TokenGuard.Json
