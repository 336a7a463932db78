import Switchboard.Engine

/-!
# An engine for trials

An engine that does what its settings say and writes down what is asked of it. Addresses are 16, 32,
48 and so on, from one counter for handles and messages. Messages wait in a queue, the oldest first;
besides, a script may let one arrive at the very moment of a get call. A message is live from its
arrival until it is freed; freeing one that is not live is counted.
-/

namespace Switchboard.Trial

/-- How the engine behaves. -/
structure Settings where
  /-- The greatest version that the engine has. -/
  supported : UInt32 := 33
  /-- Whether a greater version than that is refused. -/
  rejectDowngrade : Bool := false
  /-- Whether sending fails. -/
  failSends : Bool := false
  /-- Whether no handle is ever given. -/
  nullInit : Bool := false
  /-- The version to leave, whatever was requested. -/
  forceVersion : Option UInt32 := none
  deriving DecidableEq, Repr

/-- A change of settings; what is `none` stays as it is. -/
structure Adjustment where
  supported : Option UInt32 := none
  rejectDowngrade : Option Bool := none
  failSends : Option Bool := none
  nullInit : Option Bool := none
  forceVersion : Option (Option UInt32) := none
  deriving DecidableEq, Repr

/-- Changes settings. -/
def Settings.adjust (s : Settings) (a : Adjustment) : Settings where
  supported := a.supported.getD s.supported
  rejectDowngrade := a.rejectDowngrade.getD s.rejectDowngrade
  failSends := a.failSends.getD s.failSends
  nullInit := a.nullInit.getD s.nullInit
  forceVersion := a.forceVersion.getD s.forceVersion

/-- What the engine was asked. The bad ones name a handle that is not open. -/
inductive Event
  | init (requested : UInt32) (options : String)
  | shutDown (handle : Address)
  | get (handle : Address) (timeout : UInt32)
  | send (handle message : Address)
  | free (message : Address)
  | badShutDown (handle : Address)
  | badGet (handle : Address) (timeout : UInt32)
  | badSend (handle message : Address)
  deriving DecidableEq, Repr

/-- The state of the engine. -/
structure State where
  settings : Settings := {}
  /-- The next address. -/
  next : Address := 16
  handles : List Address := []
  live : List Address := []
  /-- The messages that wait, the oldest first. -/
  pending : List Address := []
  /-- Whether a message arrives at the next get call, at the one after it, and so on. -/
  script : List Bool := []
  doubleFrees : Nat := 0
  /-- What was asked, the latest first. -/
  events : List Event := []
  deriving DecidableEq, Repr

namespace State

/-- Writes down what is asked. -/
def record (s : State) (e : Event) : State :=
  { s with events := e :: s.events }

/-- A new live message. -/
def newMessage (s : State) : Address × State :=
  (s.next, { s with next := s.next + 16, live := s.next :: s.live })

/-- A message arrives and waits. -/
def push (s : State) : Address × State :=
  let (m, s) := s.newMessage
  (m, { s with pending := s.pending ++ [m] })

/-- Follows the script by one step. -/
def arrive (s : State) : State :=
  match s.script with
  | [] => s
  | true :: rest => { s.push.2 with script := rest }
  | false :: rest => { s with script := rest }

/-- The version that the engine leaves, and whether it refuses for the sake of it. -/
def negotiate (s : Settings) (requested : UInt32) : UInt32 × Bool :=
  match s.forceVersion with
  | some v => (v, false)
  | none =>
    if s.supported < requested then (s.supported, s.rejectDowngrade) else (requested, false)

def initialise (requested : UInt32) (options : String) (s : State) : Opening × State :=
  let s := s.record (.init requested options)
  let (version, refused) := negotiate s.settings requested
  if refused ∨ s.settings.nullInit then (⟨0, version⟩, s)
  else (⟨s.next, version⟩, { s with next := s.next + 16, handles := s.next :: s.handles })

def shutDown (handle : Address) (s : State) : State :=
  if handle ∈ s.handles then
    { s.record (.shutDown handle) with handles := s.handles.filter (· ≠ handle) }
  else s.record (.badShutDown handle)

def getMessage (handle : Address) (timeout : UInt32) (s : State) : Address × State :=
  if handle ∈ s.handles then
    let s := (s.record (.get handle timeout)).arrive
    match s.pending with
    | [] => (0, s)
    | m :: rest => (m, { s with pending := rest })
  else (0, s.record (.badGet handle timeout))

def sendMessage (handle message : Address) (s : State) : Address × State :=
  if handle ∈ s.handles then
    let s := s.record (.send handle message)
    if s.settings.failSends then (0, s) else s.newMessage
  else (0, s.record (.badSend handle message))

def freeMessage (message : Address) (s : State) : State :=
  let s := s.record (.free message)
  if message ∈ s.live then { s with live := s.live.filter (· ≠ message) }
  else { s with doubleFrees := s.doubleFrees + 1 }

end State

/-- The engine for trials. -/
def engine : Engine State where
  initialise := State.initialise
  shutDown := State.shutDown
  getMessage := State.getMessage
  sendMessage := State.sendMessage
  freeMessage := State.freeMessage

end Switchboard.Trial
