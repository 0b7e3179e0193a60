import ShaperDash.Number.Decimal
import ShaperDash.Text.Quoted

/-!
# What can be wrong with a document

A reader stops at the first fault.  Its `Cause` says what is wrong and `Failure.left` how many bytes
of the document were still unread there; `Failure.locate` turns that count into a line and a column
once the whole document is at hand.  `DecodeError.message` is the one place with the wording.
-/

namespace ShaperDash.Json

/-- What stands where a value begins: a scalar, read to its end, or an opening bracket. -/
inductive Head
  | null
  | boolean (b : Bool)
  | integer (i : Int)
  | floating (d : Datum)
  | text (s : String)
  | sequence
  | map
  deriving DecidableEq, Repr

/-- What is wrong with a document. -/
inductive Cause
  | endInValue
  | endInList
  | endInObject
  | endInString
  | valueExpected
  | wordExpected
  | colonExpected
  | listCommaExpected
  | objectCommaExpected
  | keyExpected
  | trailingComma
  | trailingCharacters
  | invalidNumber
  | numberOutOfRange
  | invalidEscape
  | controlCharacter
  | loneSurrogate
  | endOfSurrogate
  | wrongType (found : Head) (want : String)
  | wrongValue (found : Int) (want : String)
  | wrongLength (length : Nat) (want : String)
  | missingField (name : String)
  | duplicateField (name : String)
  | unknownVariant (name : String) (known : List String)
  deriving DecidableEq, Repr

/-- A fault and the number of bytes left unread when it was found. -/
structure Failure where
  cause : Cause
  left : Nat
  deriving DecidableEq, Repr

/-- A fault with its place in the document. -/
structure DecodeError where
  cause : Cause
  line : Nat
  column : Nat
  deriving DecidableEq, Repr

/-! ### Places -/

/-- The length of a text in UTF-8. -/
def byteCount (cs : List Char) : Nat := cs.foldr (fun c n => c.utf8Size + n) 0

/-- The line and the column, in bytes, that lie `offset` bytes into a text, counted from line
`line` and column `column` at its start. -/
def placeAt (line column : Nat) : Nat → List Char → Nat × Nat
  | _, [] => (line, column)
  | offset, c :: cs =>
    if offset = 0 then (line, column)
    else if c = '\n' then placeAt (line + 1) 0 (offset - 1) cs
    else placeAt line (column + min offset c.utf8Size) (offset - c.utf8Size) cs

/-- The fault with its place in the document `cs`. -/
def Failure.locate (f : Failure) (cs : List Char) : DecodeError :=
  let (line, column) := placeAt 1 0 (byteCount cs - f.left) cs
  ⟨f.cause, line, column⟩

/-! ### Wording -/

/-- A name as it is set off in messages. -/
def ticked (s : String) : String := "`" ++ s ++ "`"

/-- How messages speak of a value that was found. -/
def Head.describe : Head → String
  | .null => "null"
  | .boolean b => "boolean " ++ ticked (if b then "true" else "false")
  | .integer i => "integer " ++ ticked (toString i)
  | .floating d => "floating point " ++ ticked d.marked
  | .text s => "string " ++ String.ofList (quoted false s.toList)
  | .sequence => "sequence"
  | .map => "map"

/-- The wording of a fault. -/
def Cause.message : Cause → String
  | .endInValue => "EOF while parsing a value"
  | .endInList => "EOF while parsing a list"
  | .endInObject => "EOF while parsing an object"
  | .endInString => "EOF while parsing a string"
  | .valueExpected => "expected value"
  | .wordExpected => "expected ident"
  | .colonExpected => "expected `:`"
  | .listCommaExpected => "expected `,` or `]`"
  | .objectCommaExpected => "expected `,` or `\x7d`"
  | .keyExpected => "key must be a string"
  | .trailingComma => "trailing comma"
  | .trailingCharacters => "trailing characters"
  | .invalidNumber => "invalid number"
  | .numberOutOfRange => "number out of range"
  | .invalidEscape => "invalid escape"
  | .controlCharacter => "control character (\\u0000-\\u001F) found while parsing a string"
  | .loneSurrogate => "lone leading surrogate in hex escape"
  | .endOfSurrogate => "unexpected end of hex escape"
  | .wrongType found want => "invalid type: " ++ found.describe ++ ", expected " ++ want
  | .wrongValue found want =>
    "invalid value: integer " ++ ticked (toString found) ++ ", expected " ++ want
  | .wrongLength length want => "invalid length " ++ toString length ++ ", expected " ++ want
  | .missingField name => "missing field " ++ ticked name
  | .duplicateField name => "duplicate field " ++ ticked name
  | .unknownVariant name known =>
    "unknown variant " ++ ticked name ++ ", expected " ++ " or ".intercalate (known.map ticked)

/-- The wording of a fault with its place. -/
def DecodeError.message (e : DecodeError) : String :=
  e.cause.message ++ " at line " ++ toString e.line ++ " column " ++ toString e.column

/-! ### Raising a fault -/

variable {α : Type}

/-- A fault in front of the unread text `rest`. -/
def failAt (rest : List Char) (cause : Cause) : Except Failure α :=
  .error ⟨cause, byteCount rest⟩

/-- A fault behind the next byte of the unread text `rest`, or at its end if nothing is left. -/
def failPast (rest : List Char) (cause : Cause) : Except Failure α :=
  .error ⟨cause, byteCount rest - 1⟩

end ShaperDash.Json
