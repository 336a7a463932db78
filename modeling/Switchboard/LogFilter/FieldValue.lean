import Switchboard.Pattern.Reader

/-!
# Values of fields

The value that a directive wants of a field is a number, or else a pattern. Of a value it matters
here only that it is well formed.
-/

namespace Switchboard.LogFilter

/-- Whether a text is the exponent of a number, or nothing. -/
def isExponent : List Char → Bool
  | [] => true
  | e :: cs =>
    let digits := match cs with
      | '+' :: ds | '-' :: ds => ds
      | ds => ds
    (e == 'e' || e == 'E') && !digits.isEmpty && digits.all Char.isDigit

/-- Whether a text is a number without a sign: digits with or without a point among them, and an
exponent. -/
def isDecimal (s : List Char) : Bool :=
  let whole := s.takeWhile Char.isDigit
  let rest := s.drop whole.length
  if rest.head? = some '.' then
    let part := (rest.drop 1).takeWhile Char.isDigit
    !(whole.isEmpty && part.isEmpty) && isExponent (rest.drop (1 + part.length))
  else !whole.isEmpty && isExponent rest

/-- Whether a text is a number: with or without a sign, in digits or in words. -/
def isNumber (s : List Char) : Bool :=
  let body := match s with
    | '+' :: cs | '-' :: cs => cs
    | cs => cs
  String.ofList (body.map Char.toLower) ∈ ["inf", "infinity", "nan"] || isDecimal body

/-- Why a text is no value, if it is none. -/
def valueFault? (text : List Char) : Option Pattern.Fault :=
  if isNumber text then none else Pattern.fault? text

end Switchboard.LogFilter
