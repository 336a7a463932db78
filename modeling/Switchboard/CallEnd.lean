import Switchboard.Error

/-!
# Why a call ended

The engine reports the end of a call as a 32-bit code. The codes 0 to 29 are named reasons; the
codes 256 to 511 carry a Q.931 cause in their low byte. `code` encodes, `ofCode` decodes.
-/

namespace Switchboard

/-- Why a call ended. -/
inductive CallEnd
  | localUser
  | noAccept
  | answerDenied
  | remoteUser
  | refusal
  | noAnswer
  | callerAbort
  | transportFail
  | connectFail
  | gatekeeper
  | noUser
  | noBandwidth
  | capabilityExchange
  | callForwarded
  | securityDenial
  | localBusy
  | localCongestion
  | remoteBusy
  | remoteCongestion
  | unreachable
  | noEndPoint
  | hostOffline
  | temporaryFailure
  | q931Cause
  | durationLimit
  | invalidConferenceId
  | noDialTone
  | noRingBackTone
  | outOfService
  | acceptingCallWaiting
  /-- A Q.931 cause. -/
  | withQ931Code (cause : UInt8)
  deriving DecidableEq, Repr

namespace CallEnd

/-- The named reasons in the order of their codes. -/
def named : List CallEnd :=
  [.localUser, .noAccept, .answerDenied, .remoteUser, .refusal, .noAnswer, .callerAbort,
    .transportFail, .connectFail, .gatekeeper, .noUser, .noBandwidth, .capabilityExchange,
    .callForwarded, .securityDenial, .localBusy, .localCongestion, .remoteBusy, .remoteCongestion,
    .unreachable, .noEndPoint, .hostOffline, .temporaryFailure, .q931Cause, .durationLimit,
    .invalidConferenceId, .noDialTone, .noRingBackTone, .outOfService, .acceptingCallWaiting]

/-- The name of a reason, without its cause. -/
def name : CallEnd → String
  | .localUser => "LocalUser"
  | .noAccept => "NoAccept"
  | .answerDenied => "AnswerDenied"
  | .remoteUser => "RemoteUser"
  | .refusal => "Refusal"
  | .noAnswer => "NoAnswer"
  | .callerAbort => "CallerAbort"
  | .transportFail => "TransportFail"
  | .connectFail => "ConnectFail"
  | .gatekeeper => "Gatekeeper"
  | .noUser => "NoUser"
  | .noBandwidth => "NoBandwidth"
  | .capabilityExchange => "CapabilityExchange"
  | .callForwarded => "CallForwarded"
  | .securityDenial => "SecurityDenial"
  | .localBusy => "LocalBusy"
  | .localCongestion => "LocalCongestion"
  | .remoteBusy => "RemoteBusy"
  | .remoteCongestion => "RemoteCongestion"
  | .unreachable => "Unreachable"
  | .noEndPoint => "NoEndPoint"
  | .hostOffline => "HostOffline"
  | .temporaryFailure => "TemporaryFailure"
  | .q931Cause => "Q931Cause"
  | .durationLimit => "DurationLimit"
  | .invalidConferenceId => "InvalidConferenceId"
  | .noDialTone => "NoDialTone"
  | .noRingBackTone => "NoRingBackTone"
  | .outOfService => "OutOfService"
  | .acceptingCallWaiting => "AcceptingCallWaiting"
  | .withQ931Code _ => "WithQ931Code"

/-- The first code that carries a Q.931 cause. -/
def q931Base : UInt32 := 256

/-- The code of a reason. -/
def code : CallEnd → UInt32
  | .localUser => 0
  | .noAccept => 1
  | .answerDenied => 2
  | .remoteUser => 3
  | .refusal => 4
  | .noAnswer => 5
  | .callerAbort => 6
  | .transportFail => 7
  | .connectFail => 8
  | .gatekeeper => 9
  | .noUser => 10
  | .noBandwidth => 11
  | .capabilityExchange => 12
  | .callForwarded => 13
  | .securityDenial => 14
  | .localBusy => 15
  | .localCongestion => 16
  | .remoteBusy => 17
  | .remoteCongestion => 18
  | .unreachable => 19
  | .noEndPoint => 20
  | .hostOffline => 21
  | .temporaryFailure => 22
  | .q931Cause => 23
  | .durationLimit => 24
  | .invalidConferenceId => 25
  | .noDialTone => 26
  | .noRingBackTone => 27
  | .outOfService => 28
  | .acceptingCallWaiting => 29
  | .withQ931Code cause => q931Base ||| cause.toUInt32

/-- The reason that a code stands for. A code that is the first one with a cause but for its low
byte has the cause there; any other code is looked up among the named reasons. -/
def ofCode? (code : UInt32) : Option CallEnd :=
  if code &&& ~~~0xff = q931Base then some (.withQ931Code (code &&& 0xff).toUInt8)
  else named[code.toNat]?

/-- Decodes a code. -/
def ofCode (code : UInt32) : Except Error CallEnd :=
  match ofCode? code with
  | some r => .ok r
  | none => .error (.unknownCallEnd code)

/-- The reason with a given name; the cause matters only for the reason that has one. -/
def ofName? (s : String) (cause : UInt8) : Option CallEnd :=
  (named ++ [CallEnd.withQ931Code cause]).find? fun r => r.name = s

end CallEnd

end Switchboard
