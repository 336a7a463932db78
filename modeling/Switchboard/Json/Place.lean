import Switchboard.Text.Numeral

/-!
# Places in messages

A message may end in the place of its fault, as in ` at line 3 column 14`. The place says where in a
text something is wrong and not what is wrong; `withoutPlace` takes it off.
-/

namespace Switchboard.Json

/-- Whether digits spell a number of lines or of columns, which has 64 bits. -/
def isCount (digits : List Char) : Bool :=
  (Numeral.decimal? digits).any (· < UInt64.size)

/-- What stands before a mark and a count, if a text ends in these. -/
def beforeCount? (mark : String) (text : List Char) : Option (List Char) :=
  let digits := (text.reverse.takeWhile Char.isDigit).reverse
  if isCount digits then mark.toList.isSuffixOf? (text.take (text.length - digits.length))
  else none

/-- A message without the place at its end. One place at most is taken off. -/
def withoutPlace (message : String) : String :=
  match (beforeCount? " column " message.toList).bind (beforeCount? " at line ") with
  | some rest => String.ofList rest
  | none => message

end Switchboard.Json
