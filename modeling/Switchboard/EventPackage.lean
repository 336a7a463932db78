/-!
# Event packages

The packages of events to which an engine can subscribe, or that it can emit.
-/

namespace Switchboard

inductive EventPackage
  /-- Indication of a waiting message. -/
  | messageWaiting
  /-- Appearance of a shared line. -/
  | lineAppearance
  deriving DecidableEq, Repr

namespace EventPackage

def all : List EventPackage :=
  [.messageWaiting, .lineAppearance]

/-- The name of the package in listings. -/
def name : EventPackage → String
  | .messageWaiting => "MessageWaiting"
  | .lineAppearance => "LineAppearance"

/-- The words by which an engine knows the package. -/
def text : EventPackage → String
  | .messageWaiting => "message-summary"
  | .lineAppearance => "dialog;sla;ma"

end EventPackage

end Switchboard
