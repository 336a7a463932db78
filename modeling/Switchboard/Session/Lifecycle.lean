import Switchboard.Session.Basic

/-!
# The life of references

Letting go of an instance or a message, storing one, and shutting an engine down. A reference that
is taken out of its slot is let go of with `Instance.discard` or `Message.discard`. A message is
freed first, then its hold on the context ends; the end of the last hold shuts the engine down. Null
marks what was already released: a message with a null address is not freed, and a context with a
null handle is not shut down.
-/

namespace Switchboard

variable {σ : Type}

/-! ## Letting go -/

/-- Calls the engine to shut a handle down. -/
def Context.callShutDown (E : Engine σ) (c : Context) (handle : Address) : Action σ Unit := do
  Action.notice (.shuttingDown c.version)
  Action.call (fun e => ((), E.shutDown handle e)) fun _ => .shutDown c.number handle

/-- The end of a context to which nothing refers. -/
def Context.finish (E : Engine σ) (c : Context) : Action σ Unit :=
  if c.handle = 0 then pure () else c.callShutDown E c.handle

/-- The end of one reference to a context. The reference is in no slot any more. -/
def Context.release (E : Engine σ) (c : Context) : Action σ Unit := do
  let s ← Action.read
  if s.holders c.number = 0 then c.finish E else pure ()

section Release

variable {E : Engine σ} {c : Context} {s : Session σ}

theorem Context.release_last (hc : c.handle ≠ 0) (h : s.holders c.number = 0) :
    c.release E s = ⟨(), ⟨[.shutDown c.number c.handle], [.shuttingDown c.version]⟩,
      { s with engine := E.shutDown c.handle s.engine }⟩ := by
  simp [release, finish, callShutDown, hc, h, Trace.append]

theorem Context.release_shared (h : s.holders c.number ≠ 0) : c.release E s = ⟨(), {}, s⟩ := by
  simp [release, h]

end Release

/-- Lets go of an instance. -/
def Instance.discard (E : Engine σ) (i : Instance) : Action σ Unit :=
  i.context.release E

/-- Frees a message, unless it was given away. -/
def Message.free (E : Engine σ) (m : Message) : Action σ Unit :=
  if m.address = 0 then pure ()
  else do
    Action.notice (.freeing m.address)
    Action.call (fun e => ((), E.freeMessage m.address e)) fun _ =>
      .freeMessage m.context.number m.address

theorem Message.free_of_ne {E : Engine σ} {m : Message} {s : Session σ} (hm : m.address ≠ 0) :
    m.free E s = ⟨(), ⟨[.freeMessage m.context.number m.address], [.freeing m.address]⟩,
      { s with engine := E.freeMessage m.address s.engine }⟩ := by
  simp [free, hm, Trace.append]

/-- Lets go of a message. -/
def Message.discard (E : Engine σ) (m : Message) : Action σ Unit := do
  m.free E
  m.context.release E

/-! ## Slots -/

/-- Takes an instance out of its slot. -/
def takeInstance (name : String) : Action σ (Option Instance) := do
  let s ← Action.read
  Action.change fun s => { s with instances := s.instances.erase name }
  pure (s.instances.get? name)

@[simp] theorem takeInstance_apply (name : String) (s : Session σ) :
    takeInstance name s =
      ⟨s.instances.get? name, {}, { s with instances := s.instances.erase name }⟩ := rfl

/-- Takes a message out of its slot. -/
def takeMessage (name : String) : Action σ (Option Message) := do
  let s ← Action.read
  Action.change fun s => { s with messages := s.messages.erase name }
  pure (s.messages.get? name)

@[simp] theorem takeMessage_apply (name : String) (s : Session σ) :
    takeMessage name s =
      ⟨s.messages.get? name, {}, { s with messages := s.messages.erase name }⟩ := rfl

/-- Puts an instance into a slot, and then lets go of the one that was there. -/
def storeInstance (E : Engine σ) (name : String) (i : Instance) : Action σ Unit := do
  let s ← Action.read
  Action.change fun s => { s with instances := s.instances.insert name i }
  match s.instances.get? name with
  | none => pure ()
  | some old => old.discard E

/-- Puts a message into a slot, and then lets go of the one that was there. -/
def storeMessage (E : Engine σ) (name : String) (m : Message) : Action σ Unit := do
  let s ← Action.read
  Action.change fun s => { s with messages := s.messages.insert name m }
  match s.messages.get? name with
  | none => pure ()
  | some old => old.discard E

/-- Keeps an address. -/
def keepAddress (name : String) (a : Address) : Action σ Unit :=
  Action.change fun s => { s with kept := s.kept.insert name a }

/-! ## Shutting down -/

/-- Shuts the engine of an instance down now. The instance is in no slot any more. If something else
refers to the engine, this is refused and only the reference is given up. -/
def Instance.shutDown (E : Engine σ) (i : Instance) : Action σ (Except Error Unit) := do
  let s ← Action.read
  if s.holders i.context.number = 0 then
    i.context.callShutDown E i.context.handle
    Context.finish E { i.context with handle := 0 }
    pure (.ok ())
  else pure (.error .instanceInUse)

namespace Instance

variable {E : Engine σ} {i : Instance} {s : Session σ}

theorem shutDown_last (h : s.holders i.context.number = 0) :
    i.shutDown E s = ⟨.ok (), ⟨[.shutDown i.context.number i.context.handle],
      [.shuttingDown i.context.version]⟩,
      { s with engine := E.shutDown i.context.handle s.engine }⟩ := by
  simp [shutDown, Context.finish, Context.callShutDown, h, Trace.append]

theorem shutDown_shared (h : s.holders i.context.number ≠ 0) :
    i.shutDown E s = ⟨.error .instanceInUse, {}, s⟩ := by
  simp [shutDown, h]

end Instance

end Switchboard
