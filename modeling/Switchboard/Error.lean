import Switchboard.Path

/-!
# Errors

What may go wrong between an application and its engine. The engine says no more than that it has no
handle or no message to give, so an error says which call failed and little else. Each error has a
text for people (`message`), a form that shows its parts (`detail`), and the texts of the errors it
was made from (`sources`).
-/

namespace Switchboard

/-- A zero byte in bytes that must not hold one: the bytes, and the place of the first zero. -/
structure NulFault where
  position : Nat
  bytes : List UInt8
  deriving DecidableEq, Repr

namespace NulFault

/-- The place of the first zero byte. -/
def find? (bs : List UInt8) : Option NulFault :=
  (bs.findIdx? (· == 0)).map (⟨·, bs⟩)

def message (f : NulFault) : String :=
  "nul byte found in provided data at position: " ++ Numeral.decimal f.position

def detail (f : NulFault) : String :=
  "NulError(" ++ Numeral.decimal f.position ++ ", [" ++
    ", ".intercalate (f.bytes.map fun b => Numeral.decimal b.toNat) ++ "])"

end NulFault

/-- Why a file could not be opened as a library. -/
inductive OpenFault
  | notFound
  | notDirectory
  | nameTooLong
  | isDirectory
  | tooShort
  | badHeader
  deriving DecidableEq, Repr

def OpenFault.message : OpenFault → String
  | .notFound => "cannot open shared object file: No such file or directory"
  | .notDirectory => "cannot open shared object file: Not a directory"
  | .nameTooLong => "cannot open shared object file: File name too long"
  | .isDirectory => "cannot read file data: Is a directory"
  | .tooShort => "file too short"
  | .badHeader => "invalid ELF header"

/-- Why a library could not be loaded. The paths are without a zero byte at their end. -/
inductive LoadFault
  | notOpened (path : Path) (why : OpenFault)
  /-- A library that exports nothing under a name. -/
  | noSymbol (path : Path) (missing : String)
  /-- A path that holds a zero byte. -/
  | nulInside (fault : NulFault)
  /-- A path that ends in a zero byte and holds another one before it. -/
  | nulBeforeEnd (position : Nat)
  deriving DecidableEq, Repr

namespace LoadFault

/-- The name of the class of a fault. -/
def name : LoadFault → String
  | .notOpened .. => "DlOpen"
  | .noSymbol .. => "DlSym"
  | .nulInside _ => "CreateCString"
  | .nulBeforeEnd _ => "CreateCStringWithTrailing"

/-- What the loader of the system says of a path, in bytes, since paths are bytes. -/
def report (path : Path) (text : String) : List UInt8 :=
  path.bytes ++ Utf8.encode (": " ++ text).toList

/-- The report of the loader of the system, if it was reached. -/
def report? : LoadFault → Option (List UInt8)
  | .notOpened path why => some (report path why.message)
  | .noSymbol path missing => some (report path ("undefined symbol: " ++ missing))
  | _ => none

/-- The texts of a fault and of the one it was made from. -/
def messages (f : LoadFault) : List String :=
  match f with
  | .nulInside nul => ["could not create a C string from bytes", nul.message]
  | .nulBeforeEnd position =>
    ["could not create a C string from bytes with trailing null",
      "data provided contains an interior nul byte at byte position " ++ Numeral.decimal position]
  | f => [String.ofList (Utf8.decodeLossy (f.report?.getD []))]

def message (f : LoadFault) : String :=
  f.messages.headD ""

def detail (f : LoadFault) : String :=
  match f with
  | .nulInside nul => f.name ++ " \x7b source: " ++ nul.detail ++ " \x7d"
  | .nulBeforeEnd position =>
    f.name ++ " \x7b source: InteriorNul \x7b position: " ++ Numeral.decimal position ++
      " \x7d \x7d"
  | f => f.name ++ " \x7b desc: " ++ Text.Style.terminated.quoteBytes (f.report?.getD []) ++ " \x7d"

end LoadFault

/-- What may go wrong between an application and its engine. -/
inductive Error
  /-- The engine gave no handle; `negotiated` is the version as the engine left it. -/
  | initialiseFailed (requested negotiated : UInt32)
  /-- The engine had no message: the time was over, or it failed. -/
  | noMessage
  /-- The engine gave no response. -/
  | sendFailed
  /-- The engine is still referred to, so it cannot be shut down now. -/
  | instanceInUse
  | unknownPrefix (text : String)
  | unknownCallEnd (code : UInt32)
  /-- An option that has no place in the text of options. -/
  | invalidOption (reason : String)
  | other (reason : String)
  /-- A text with a zero byte where the engine takes a zero-terminated string. -/
  | nulInText (fault : NulFault)
  | loading (fault : LoadFault)
  deriving DecidableEq, Repr

namespace Error

/-- The name of the class of an error. -/
def name : Error → String
  | .initialiseFailed .. => "InitialiseFailed"
  | .noMessage => "NoMessage"
  | .sendFailed => "SendFailed"
  | .instanceInUse => "InstanceInUse"
  | .unknownPrefix _ => "UnknownPrefix"
  | .unknownCallEnd _ => "UnknownCallEndReason"
  | .invalidOption _ => "InvalidOption"
  | .other _ => "Other"
  | .nulInText _ => "NulString"
  | .loading _ => "LibLoading"

def message : Error → String
  | .initialiseFailed requested negotiated =>
    "Initialise failed (requested API version " ++ Numeral.decimal requested.toNat ++
      ", engine offered " ++ Numeral.decimal negotiated.toNat ++ ")"
  | .noMessage => "No message (timeout expired or engine failure)"
  | .sendFailed => "Send failed"
  | .instanceInUse => "Instance is still in use"
  | .unknownPrefix text => "Unknown prefix: " ++ text
  | .unknownCallEnd code => "Unknown call end reason: " ++ Numeral.decimal code.toNat
  | .invalidOption reason => "Invalid option: " ++ reason
  | .other reason => "Other error: " ++ reason
  | .nulInText fault => "Null string: " ++ fault.message
  | .loading fault => "Loading library: " ++ fault.message

/-- The texts of the errors that an error was made from, the nearest first. -/
def sources : Error → List String
  | .nulInText fault => [fault.message]
  | .loading fault => fault.messages
  | _ => []

/-- An error with its parts. -/
def detail (e : Error) : String :=
  match e with
  | .initialiseFailed requested negotiated =>
    e.name ++ " \x7b requested: " ++ Numeral.decimal requested.toNat ++ ", negotiated: " ++
      Numeral.decimal negotiated.toNat ++ " \x7d"
  | .noMessage | .sendFailed | .instanceInUse => e.name
  | .unknownPrefix text | .invalidOption text | .other text =>
    e.name ++ "(" ++ Text.Style.text.quote text ++ ")"
  | .unknownCallEnd code => e.name ++ "(" ++ Numeral.decimal code.toNat ++ ")"
  | .nulInText fault => e.name ++ "(" ++ fault.detail ++ ")"
  | .loading fault => e.name ++ "(" ++ fault.detail ++ ")"

end Error

end Switchboard
