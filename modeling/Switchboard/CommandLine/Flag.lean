import Switchboard.Error
import Switchboard.Prefix

/-!
# Flags

The flags that a program may have, the values they take, and what a user did wrong. A flag is
written with two dashes; its value is the next word or follows an equals sign.
-/

namespace Switchboard.CommandLine

/-- A flag. -/
inductive Flag
  | library
  | endpoint
  | traceLevel
  | traceFile
  | timeout
  | idleLimit
  | listConstants
  deriving DecidableEq, Repr

namespace Flag

/-- The name of a flag after its dashes. -/
def name : Flag → String
  | .library => "library"
  | .endpoint => "prefix"
  | .traceLevel => "trace-level"
  | .traceFile => "trace-file"
  | .timeout => "timeout-ms"
  | .idleLimit => "idle-limit"
  | .listConstants => "list-constants"

/-- The word that stands for the value of a flag in messages; `none` for a flag without a value. -/
def valueName? : Flag → Option String
  | .library => some "LIBRARY"
  | .endpoint => some "PREFIXES"
  | .traceLevel => some "TRACE_LEVEL"
  | .traceFile => some "TRACE_FILE"
  | .timeout => some "TIMEOUT_MS"
  | .idleLimit => some "IDLE_LIMIT"
  | .listConstants => none

/-- Whether a flag may be given more than once. -/
def isRepeatable : Flag → Bool
  | .endpoint => true
  | _ => false

/-- A flag as messages show it. -/
def usage (f : Flag) : String :=
  match f.valueName? with
  | some v => "--" ++ f.name ++ " <" ++ v ++ ">"
  | none => "--" ++ f.name

end Flag

/-- What is wrong with a command line, or what else than running it asks for. -/
inductive Fault
  /-- A word that has no place. -/
  | unexpected (word : String)
  /-- A flag without its value. -/
  | noValue (flag : Flag)
  /-- A value that is none for its flag. -/
  | badValue (flag : Flag) (value reason : String)
  /-- A flag given twice. -/
  | repeated (flag : Flag)
  /-- A value for a flag that takes none; the flag by its name. -/
  | needlessValue (name value : String)
  | help
  | version
  deriving DecidableEq, Repr

namespace Fault

/-- The text of a fault; asking for help or for the version is none. -/
def message : Fault → String
  | .unexpected word => "unexpected argument '" ++ word ++ "' found"
  | .noValue flag => "a value is required for '" ++ flag.usage ++ "' but none was supplied"
  | .badValue flag value reason =>
    "invalid value '" ++ value ++ "' for '" ++ flag.usage ++ "': " ++ reason
  | .repeated flag => "the argument '" ++ flag.usage ++ "' cannot be used multiple times"
  | .needlessValue name value =>
    "unexpected value '" ++ value ++ "' for '--" ++ name ++ "' found; no more were expected"
  | .help | .version => ""

end Fault

/-- A flag with its value. -/
inductive Setting
  | library (path : Path)
  | endpoint (p : Prefix)
  | traceLevel (level : UInt32)
  | traceFile (path : Path)
  | timeout (millis : UInt64)
  | idleLimit (polls : UInt32)
  | listConstants
  deriving DecidableEq, Repr

/-! ## Numbers -/

/-- Reads digits of a number from `low` to `high`, one after another; a wrong character is noticed
before a number that grows too large. -/
def readDigits (negative : Bool) (bound : Nat) (n : Nat) : List Char → Except String Nat
  | [] => .ok n
  | c :: cs =>
    match Numeral.digit? c with
    | none => .error "invalid digit found in string"
    | some d =>
      if n * 10 + d ≤ bound then readDigits negative bound (n * 10 + d) cs
      else
        .error (if negative then "number too small to fit in target type"
          else "number too large to fit in target type")

/-- Reads a number of at most `most`, or down to minus `least`, with an optional sign; there is a
minus sign only if there are negative numbers. -/
def readInteger (least most : Nat) (text : String) : Except String Int :=
  match text.toList with
  | [] => .error "cannot parse integer from empty string"
  | ['+'] | ['-'] => .error "invalid digit found in string"
  | '+' :: cs => (readDigits false most 0 cs).map fun n => (n : Int)
  | '-' :: cs =>
    if least = 0 then .error "invalid digit found in string"
    else (readDigits true least 0 cs).map fun n => -(n : Int)
  | cs => (readDigits false most 0 cs).map fun n => (n : Int)

/-- Reads a number of 64 bits. -/
def readWord64 (text : String) : Except String UInt64 :=
  (readInteger 0 (UInt64.size - 1) text).map fun n => UInt64.ofNat n.toNat

/-- Reads a number of 32 bits: a number of 64 bits with a sign, if it is in range. A number out of
range is reported as a number, not as it was written. -/
def readWord32 (text : String) : Except String UInt32 :=
  match readInteger (UInt64.size / 2) (UInt64.size / 2 - 1) text with
  | .error e => .error e
  | .ok n =>
    if 0 ≤ n ∧ n < UInt32.size then .ok (UInt32.ofNat n.toNat)
    else .error (Numeral.integer n ++ " is not in 0..=4294967295")

/-! ## Values -/

/-- Reads the value of a flag. -/
def Flag.read (f : Flag) (value : String) : Except Fault Setting :=
  let check {α : Type} (x : Except String α) : Except Fault α := x.mapError (.badValue f value)
  match f with
  | .library => if value = "" then .error (.noValue f) else .ok (.library (.ofString value))
  | .traceFile => if value = "" then .error (.noValue f) else .ok (.traceFile (.ofString value))
  | .endpoint => (check ((Prefix.ofText value).mapError Error.message)).map .endpoint
  | .traceLevel => (check (readWord32 value)).map .traceLevel
  | .idleLimit => (check (readWord32 value)).map .idleLimit
  | .timeout => (check (readWord64 value)).map .timeout
  | .listConstants => .ok .listConstants

end Switchboard.CommandLine
