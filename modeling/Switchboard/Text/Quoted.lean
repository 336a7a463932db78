import Switchboard.Text.Numeral
import Switchboard.Text.Printable
import Switchboard.Text.Utf8

/-!
# Quoted text

Texts, paths and byte strings between double quotes, as diagnostics show them. What is escaped, and
how, is a `Style`, and there are two. In both, a character that is not shown becomes a backslash,
the letter `u` and its code point in braces.
-/

namespace Switchboard.Text

/-- How a quoted text escapes. -/
structure Style where
  /-- Characters written as a backslash and one other character. -/
  named : List (Char × Char)
  /-- Whether the remaining control characters of ASCII take an `x` and two digits. -/
  shortControls : Bool
  /-- Whether the digits of stray bytes are upper case. -/
  upperStrays : Bool

/-- The escapes that both styles have. -/
def commonEscapes : List (Char × Char) :=
  [('\x00', '0'), ('\t', 't'), ('\r', 'r'), ('\n', 'n'), ('\\', '\\'), ('\x22', '\x22')]

/-- The style of texts and paths. -/
def Style.text : Style := ⟨commonEscapes, false, true⟩

/-- The style of zero-terminated strings: the single quote is escaped too, and the digits of control
characters and stray bytes are lower case. -/
def Style.terminated : Style := ⟨('\x27', '\x27') :: commonEscapes, true, false⟩

/-- One character inside quotes. -/
def Style.escapeChar (style : Style) (c : Char) : List Char :=
  match style.named.lookup c with
  | some mark => ['\\', mark]
  | none =>
    if isShown c then
      [c]
    else if style.shortControls && c.toNat < 0x80 then
      '\\' :: 'x' :: Numeral.hexByte (UInt8.ofNat c.toNat)
    else
      '\\' :: 'u' :: '\x7B' :: Numeral.digits 16 c.toNat ++ ['\x7D']

/-- A byte that belongs to no character. -/
def Style.escapeByte (style : Style) (b : UInt8) : List Char :=
  let ds := Numeral.hexByte b
  '\\' :: 'x' :: if style.upperStrays then ds.map Char.toUpper else ds

/-- A piece of a byte list inside quotes. -/
def Style.escapePiece (style : Style) : Utf8.Piece → List Char
  | .char c => style.escapeChar c
  | .stray bs => bs.flatMap style.escapeByte

/-- Puts text between double quotes. -/
def enclose (cs : List Char) : String :=
  String.ofList ('\x22' :: cs ++ ['\x22'])

/-- A text between quotes. -/
def Style.quote (style : Style) (s : String) : String :=
  enclose (s.toList.flatMap style.escapeChar)

/-- Bytes between quotes, read as UTF-8 as far as they are. -/
def Style.quoteBytes (style : Style) (bs : List UInt8) : String :=
  enclose ((Utf8.pieces bs).flatMap style.escapePiece)

end Switchboard.Text
