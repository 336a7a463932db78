import Switchboard.Error
import Switchboard.Options
import Switchboard.Text.Blank

/-!
# Options as words

An engine takes its options as one text of words with a space between them: the prefixes, then
`TraceLevel=`, `TraceFile=` and `TraceAppend`, as far as they are set. The engine splits the text at
blanks, so a trace file that is empty, or holds a blank, or is not UTF-8, has no place in it.
`tokens` and `render` write the text; `ofWords?` reads the words back.
-/

namespace Switchboard

/-- One word of the options. -/
inductive Token
  | endpoint (p : Prefix)
  | traceLevel (level : UInt32)
  | traceFile (name : String)
  | traceAppend
  deriving DecidableEq, Repr

def Token.text : Token → String
  | .endpoint p => p.text
  | .traceLevel level => "TraceLevel=" ++ Numeral.decimal level.toNat
  | .traceFile name => "TraceFile=" ++ name
  | .traceAppend => "TraceAppend"

namespace Options

/-! ## Writing -/

/-- The text of a trace file, if it can be one word. -/
def fileText (file : Path) : Except Error String :=
  match file.text? with
  | none => .error (.invalidOption ("trace file " ++ file.quoted ++ " is not valid UTF-8"))
  | some s =>
    if s.toList.isEmpty || s.toList.any Text.isBlank then
      .error (.invalidOption
        ("trace file " ++ Text.Style.text.quote s ++ " is empty or contains whitespace"))
    else .ok s

/-- The word for the trace file, if there is one. -/
def fileTokens : Option Path → Except Error (List Token)
  | none => .ok []
  | some file => (fileText file).map fun s => [.traceFile s]

/-- The words of the options, in the order in which they are written. -/
def tokens (o : Options) : Except Error (List Token) :=
  (fileTokens o.traceFile).map fun file =>
    o.prefixes.map .endpoint ++ o.traceLevel.toList.map .traceLevel ++ file ++
      if o.traceAppend then [.traceAppend] else []

/-- The text of the options that the engine takes. -/
def render (o : Options) : Except Error String :=
  o.tokens.map fun ts => " ".intercalate (ts.map Token.text)

/-! ## Reading -/

/-- The rest of a word after a mark at its beginning. -/
def after? : List Char → List Char → Option (List Char)
  | [], w => some w
  | _ :: _, [] => none
  | m :: ms, c :: w => if m = c then after? ms w else none

/-- The options with the setting of one word made. A word is a setting if it begins like one;
otherwise it is an endpoint. -/
def take? (o : Options) (word : List Char) : Option Options :=
  if word = "TraceAppend".toList then some (o.withTraceAppend true)
  else
    match after? "TraceLevel=".toList word, after? "TraceFile=".toList word with
    | some digits, _ => (Numeral.decimal? digits).map fun n => o.withTraceLevel (UInt32.ofNat n)
    | none, some name => some (o.withTraceFile ⟨Utf8.encode name⟩)
    | none, none =>
      (Prefix.all.find? fun p => p.text.toList = word).map fun p =>
        { o with prefixes := o.prefixes ++ [p] }

/-- The options that a list of words gives, from the first to the last. -/
def ofWords? (words : List (List Char)) : Option Options :=
  words.foldlM take? {}

end Options

end Switchboard
