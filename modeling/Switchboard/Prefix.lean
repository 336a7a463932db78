import Switchboard.Error

/-!
# Endpoint prefixes

A prefix names a kind of endpoint: it selects the endpoints that an engine creates, and it begins
the address of a party. Reading a prefix ignores the case of ASCII letters and nothing else.
-/

namespace Switchboard

/-- A kind of endpoint. -/
inductive Prefix
  /-- H.323. -/
  | h323
  /-- SIP. -/
  | sip
  /-- IAX2. -/
  | iax2
  /-- The sound system of the machine. -/
  | pcss
  /-- An endpoint that the application drives. -/
  | local
  /-- An analogue line, subscriber side. -/
  | pots
  /-- An analogue line, network side. -/
  | pstn
  /-- ISDN. -/
  | capi
  /-- T.30 fax. -/
  | fax
  /-- T.38 fax. -/
  | t38
  /-- Interactive voice response. -/
  | ivr
  /-- A conference mixer. -/
  | mixer
  /-- Instant messaging. -/
  | im
  /-- Media of a streaming framework. -/
  | gst
  /-- Skinny. -/
  | skinny
  deriving DecidableEq, Repr

namespace Prefix

def all : List Prefix :=
  [.h323, .sip, .iax2, .pcss, .local, .pots, .pstn, .capi, .fax, .t38, .ivr, .mixer, .im, .gst,
    .skinny]

/-- The word by which an engine knows the prefix. -/
def text : Prefix → String
  | .h323 => "h323"
  | .sip => "sip"
  | .iax2 => "iax2"
  | .pcss => "pc"
  | .local => "local"
  | .pots => "pots"
  | .pstn => "pstn"
  | .capi => "isdn"
  | .fax => "fax"
  | .t38 => "t38"
  | .ivr => "ivr"
  | .mixer => "mcu"
  | .im => "im"
  | .gst => "gst"
  | .skinny => "sccp"

/-- The name of the prefix in listings. -/
def name : Prefix → String
  | .h323 => "H323"
  | .sip => "Sip"
  | .iax2 => "Iax2"
  | .pcss => "Pcss"
  | .local => "Local"
  | .pots => "Pots"
  | .pstn => "Pstn"
  | .capi => "Capi"
  | .fax => "Fax"
  | .t38 => "T38"
  | .ivr => "Ivr"
  | .mixer => "Mixer"
  | .im => "Im"
  | .gst => "Gst"
  | .skinny => "Skinny"

/-- The words of all prefixes, with the commonest one first. -/
def allText : String :=
  "sip h323 iax2 pc local pots pstn isdn fax t38 ivr mcu im gst sccp"

theorem mem_all (p : Prefix) : p ∈ all := by
  cases p <;> decide

theorem text_injective {p q : Prefix} (h : p.text = q.text) : p = q := by
  revert h
  cases p <;> cases q <;> decide

/-! ## Reading -/

/-- The lower case of an ASCII capital; any other character is left as it is. -/
def lowerChar (c : Char) : Char :=
  if 'A' ≤ c ∧ c ≤ 'Z' then Char.ofNat (c.toNat + 32) else c

/-- A text with its ASCII capitals in lower case. -/
def lower (s : String) : String :=
  String.ofList (s.toList.map lowerChar)

/-- Whether two texts are the same but for the case of ASCII letters. -/
def sameUpToCase (s t : String) : Bool :=
  lower s = lower t

/-- The prefix whose word a text spells, in whatever case. -/
def ofText? (s : String) : Option Prefix :=
  all.find? fun p => sameUpToCase p.text s

/-- Reads a prefix. -/
def ofText (s : String) : Except Error Prefix :=
  match ofText? s with
  | some p => .ok p
  | none => .error (.unknownPrefix s)

/-- The prefix with a given name. -/
def ofName? (s : String) : Option Prefix :=
  all.find? fun p => p.name = s

end Prefix

end Switchboard
