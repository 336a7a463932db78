import Switchboard.Engine
import Switchboard.Error
import Switchboard.Notice
import Switchboard.Session.Slots

/-!
# Sessions

A session holds instances of engines and messages from them. Each successful initialise call makes a
*context*: a number of its own, the handle, and the negotiated version. Instances and messages refer
to a context, and any number of them may refer to the same one. The engine of a context is shut down
when the last of them is gone, so what counts is the number of holders of a context,
`Session.holders`, counted over the slots.

What is done in a session is an `Action`: from a session it gives a value, the session afterwards,
and what happened on the way, the calls of the engine and the notices in their order.
-/

namespace Switchboard

/-! ## What a session holds -/

/-- An initialised engine. The number tells contexts apart, whatever handles the engine gives. -/
structure Context where
  number : Nat
  handle : Address
  version : UInt32
  deriving DecidableEq, Repr

/-- A reference to an initialised engine. -/
structure Instance where
  context : Context
  deriving DecidableEq, Repr

/-- A message that the engine of a context gave, to be freed once. A null address marks a message
that was given away. -/
structure Message where
  context : Context
  address : Address
  deriving DecidableEq, Repr

/-- A session with an engine whose state is a `σ`. -/
structure Session (σ : Type) where
  engine : σ
  /-- How many contexts were made, which is also the number of the next one. -/
  made : Nat := 0
  instances : Slots Instance := {}
  messages : Slots Message := {}
  /-- Addresses that were kept; they own nothing. -/
  kept : Slots Address := {}

namespace Session

variable {σ : Type}

/-- The instances and messages that refer to the context with a given number. -/
def holders (s : Session σ) (number : Nat) : Nat :=
  s.instances.values.countP (·.context.number = number) +
    s.messages.values.countP (·.context.number = number)

end Session

/-! ## Actions -/

/-- What happened during an action. -/
structure Trace where
  calls : List Call := []
  notices : List Notice := []
  deriving DecidableEq, Repr

namespace Trace

/-- One trace after another. -/
def append (t u : Trace) : Trace :=
  ⟨t.calls ++ u.calls, t.notices ++ u.notices⟩

@[simp] theorem calls_append (t u : Trace) : (t.append u).calls = t.calls ++ u.calls := rfl

@[simp] theorem notices_append (t u : Trace) : (t.append u).notices = t.notices ++ u.notices := rfl

@[simp] theorem empty_append (t : Trace) : Trace.append {} t = t := rfl

@[simp] theorem append_empty (t : Trace) : t.append {} = t := by
  simp only [append, List.append_nil]

theorem append_assoc (t u v : Trace) : (t.append u).append v = t.append (u.append v) := by
  simp only [append, List.append_assoc]

end Trace

/-- The outcome of an action. -/
structure Done (σ α : Type) where
  value : α
  trace : Trace
  session : Session σ

/-- Something that can be done in a session. -/
def Action (σ α : Type) : Type :=
  Session σ → Done σ α

namespace Action

variable {σ α β : Type}

/-- Does nothing. -/
def done (x : α) : Action σ α :=
  fun s => ⟨x, {}, s⟩

/-- Does one thing after another. -/
def andThen (m : Action σ α) (f : α → Action σ β) : Action σ β :=
  fun s =>
    let d := m s
    let e := f d.value d.session
    ⟨e.value, d.trace.append e.trace, e.session⟩

instance : Monad (Action σ) where
  pure := done
  bind := andThen

/-- The session as it is. -/
def read : Action σ (Session σ) :=
  fun s => ⟨s, {}, s⟩

/-- Changes the session. -/
def change (f : Session σ → Session σ) : Action σ Unit :=
  fun s => ⟨(), {}, f s⟩

/-- Writes to the log. -/
def notice (n : Notice) : Action σ Unit :=
  fun s => ⟨(), ⟨[], [n]⟩, s⟩

/-- Calls the engine. -/
def call (f : σ → α × σ) (record : α → Call) : Action σ α :=
  fun s =>
    let (x, engine) := f s.engine
    ⟨x, ⟨[record x], []⟩, { s with engine }⟩

@[simp] theorem pure_apply (x : α) (s : Session σ) : (pure x : Action σ α) s = ⟨x, {}, s⟩ := rfl

@[simp] theorem bind_apply (m : Action σ α) (f : α → Action σ β) (s : Session σ) :
    (m >>= f) s = ⟨(f (m s).value (m s).session).value,
      (m s).trace.append (f (m s).value (m s).session).trace,
      (f (m s).value (m s).session).session⟩ := rfl

@[simp] theorem read_apply (s : Session σ) : (read : Action σ (Session σ)) s = ⟨s, {}, s⟩ := rfl

@[simp] theorem change_apply (f : Session σ → Session σ) (s : Session σ) :
    change f s = ⟨(), {}, f s⟩ := rfl

@[simp] theorem notice_apply (n : Notice) (s : Session σ) :
    notice n s = ⟨(), ⟨[], [n]⟩, s⟩ := rfl

@[simp] theorem call_apply (f : σ → α × σ) (record : α → Call) (s : Session σ) :
    call f record s = ⟨(f s.engine).1, ⟨[record (f s.engine).1], []⟩,
      { s with engine := (f s.engine).2 }⟩ := rfl

end Action

end Switchboard
