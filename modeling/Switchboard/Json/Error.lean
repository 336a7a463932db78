import Switchboard.Decimal.Layout
import Switchboard.Json.Place
import Switchboard.Text.Quoted

/-!
# Errors of JSON reading and writing

A text may fail to be JSON (`Fault`), and JSON may fail to be the value that is wanted (`Misfit`).
The wording of both is here and nowhere else.
-/

namespace Switchboard.Json

/-- Why a text is not JSON. -/
inductive Fault
  | endInValue
  | endInList
  | endInObject
  | endInString
  | noValue
  | badLiteral
  | noColon
  | noListEnd
  | noObjectEnd
  | keyNotString
  | commaAtEnd
  | extraText
  | badNumber
  | numberTooLarge
  | badEscape
  | loneSurrogate
  | halfSurrogatePair
  | controlInString
  | tooDeep
  deriving DecidableEq, Repr

/-- Whether the text ended too early. -/
def Fault.isEnd : Fault → Bool
  | .endInValue | .endInList | .endInObject | .endInString => true
  | _ => false

def Fault.message : Fault → String
  | .endInValue => "EOF while parsing a value"
  | .endInList => "EOF while parsing a list"
  | .endInObject => "EOF while parsing an object"
  | .endInString => "EOF while parsing a string"
  | .noValue => "expected value"
  | .badLiteral => "expected ident"
  | .noColon => "expected `:`"
  | .noListEnd => "expected `,` or `]`"
  | .noObjectEnd => "expected `,` or `\x7d`"
  | .keyNotString => "key must be a string"
  | .commaAtEnd => "trailing comma"
  | .extraText => "trailing characters"
  | .badNumber => "invalid number"
  | .numberTooLarge => "number out of range"
  | .badEscape => "invalid escape"
  | .loneSurrogate => "lone leading surrogate in hex escape"
  | .halfSurrogatePair => "unexpected end of hex escape"
  | .controlInString => "control character (\\u0000-\\u001F) found while parsing a string"
  | .tooDeep => "recursion limit exceeded"

/-- Numbers have up to sixteen digits before the point and up to four zeros after it; beyond that
they have an exponent, always with a sign. -/
def numberLayout : Decimal.Layout := ⟨16, 4, true⟩

/-- What was found where another kind of value was wanted. -/
inductive Found
  | null
  | bool (b : Bool)
  | integer (n : Int)
  | real (x : Float)
  | string (s : String)
  | list
  | object

def Found.text : Found → String
  | .null => "null"
  | .bool b => "boolean `" ++ (if b then "true" else "false") ++ "`"
  | .integer n => "integer `" ++ Numeral.integer n ++ "`"
  | .real x => "floating point `" ++ numberLayout.text x ++ "`"
  | .string s => "string " ++ Text.Style.text.quote s
  | .list => "sequence"
  | .object => "map"

/-- Why JSON is not the value that is wanted. -/
inductive Misfit
  /-- A value of another kind. -/
  | kind (found : Found) (wanted : String)
  /-- A value of the right kind that is out of range. -/
  | range (found : Found) (wanted : String)
  /-- A list with more items than there are fields. -/
  | tooManyItems (length : Nat)
  | repeatedField (name : String)
  /-- A value that its own type refuses, with the reason it gives. A place at the end of the reason
  is taken for the place of the value in its text, so it is no part of the message. -/
  | refused (reason : String)

def Misfit.message : Misfit → String
  | .kind found wanted => "invalid type: " ++ found.text ++ ", expected " ++ wanted
  | .range found wanted => "invalid value: " ++ found.text ++ ", expected " ++ wanted
  | .tooManyItems n =>
    "invalid length " ++ Numeral.decimal n ++ ", expected fewer elements in array"
  | .repeatedField name => "duplicate field `" ++ name ++ "`"
  | .refused reason => withoutPlace reason

/-- Why no value was read or no text was written. -/
inductive Error
  | malformed (fault : Fault)
  | misfit (misfit : Misfit)

/-- The class of an error: the text broke off, the text is not JSON, the value does not fit. -/
inductive Category
  | ended
  | malformed
  | data
  deriving DecidableEq, Repr

def Error.category : Error → Category
  | .malformed f => if f.isEnd then .ended else .malformed
  | .misfit _ => .data

def Error.message : Error → String
  | .malformed f => f.message
  | .misfit m => m.message

/-- The outcome of a text that is not JSON. -/
def malformed {α : Type} (f : Fault) : Except Error α :=
  .error (.malformed f)

/-- The outcome of JSON that is not the value that is wanted. -/
def misfit {α : Type} (m : Misfit) : Except Error α :=
  .error (.misfit m)

end Switchboard.Json
