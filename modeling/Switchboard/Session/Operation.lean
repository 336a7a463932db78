import Switchboard.Session.Exchange

/-!
# Operations on slots

What a user of a session can ask for, by the names of slots. An operation that makes an instance or
a message stores it, which lets go of whatever the slot held before, after the new one was made. An
operation on an empty slot is refused and does nothing.
-/

namespace Switchboard

variable {σ : Type}

/-- Where an operation takes an address from. -/
inductive AddressSource
  | slot (name : String)
  | address (a : Address)
  deriving DecidableEq, Repr

/-- An operation. The last slot named is where the result goes. -/
inductive Operation
  | initialise (into : String) (requested : UInt32) (options : String)
  | initialiseWith (into : String) (options : Options)
  | share (inst into : String)
  | version (inst : String)
  | handle (inst : String)
  | showInstance (inst : String) (pretty : Bool)
  | discardInstance (inst : String)
  | shutDown (inst : String)
  | getMessage (inst : String) (wait : Duration) (into : String)
  | send (inst message into : String)
  | sendAddress (source : AddressSource) (inst into : String)
  | address (message : String)
  | showMessage (message : String) (pretty : Bool)
  | discardMessage (message : String)
  | giveAway (message into : String)
  | takeBack (source : AddressSource) (inst into : String)

/-- Why an operation had no result. -/
inductive Refusal
  | noInstance
  | noMessage
  | noAddress
  | failed (e : Error)
  deriving DecidableEq, Repr

/-- The result of an operation. -/
inductive Answer
  | nothing
  | number (n : Nat)
  | text (s : String)
  deriving DecidableEq, Repr

/-! ## Texts -/

/-- An address with all its sixteen digits. -/
def fullAddressText (a : Address) : String :=
  "0x" ++ String.ofList (Numeral.padded 16 (Numeral.digits 16 a))

/-- The parts of an instance, on one line or on several. -/
def Instance.text (i : Instance) (pretty : Bool) : String :=
  let version := Numeral.decimal i.context.version.toNat
  if pretty then
    "OpalInstance \x7b\n    handle: " ++ fullAddressText i.context.handle ++ ",\n    version: " ++
      version ++ ",\n\x7d"
  else
    "OpalInstance \x7b handle: " ++ addressText i.context.handle ++ ", version: " ++ version ++
      " \x7d"

/-- The address of a message, on one line or on several. -/
def Message.text (m : Message) (pretty : Bool) : String :=
  if pretty then "Message(\n    " ++ fullAddressText m.address ++ ",\n)" else messageText m.address

/-! ## Looking into slots -/

/-- Goes on with the instance in a slot. -/
def withInstance {α : Type} (name : String) (f : Instance → Action σ (Except Refusal α)) :
    Action σ (Except Refusal α) := do
  let s ← Action.read
  match s.instances.get? name with
  | none => pure (.error .noInstance)
  | some i => f i

/-- Goes on with the message in a slot. -/
def withMessage {α : Type} (name : String) (f : Message → Action σ (Except Refusal α)) :
    Action σ (Except Refusal α) := do
  let s ← Action.read
  match s.messages.get? name with
  | none => pure (.error .noMessage)
  | some m => f m

/-- Goes on with an address. -/
def withAddress {α : Type} (source : AddressSource) (f : Address → Action σ (Except Refusal α)) :
    Action σ (Except Refusal α) := do
  let s ← Action.read
  match source with
  | .address a => f a
  | .slot name =>
    match s.kept.get? name with
    | none => pure (.error .noAddress)
    | some a => f a

section Looking

variable {α : Type} {name : String} {s : Session σ}

theorem withInstance_none {f : Instance → Action σ (Except Refusal α)}
    (h : s.instances.get? name = none) :
    withInstance name f s = ⟨.error .noInstance, {}, s⟩ := by
  simp [withInstance, h]

theorem withInstance_some {f : Instance → Action σ (Except Refusal α)} {i : Instance}
    (h : s.instances.get? name = some i) : withInstance name f s = f i s := by
  simp [withInstance, h]

theorem withMessage_none {f : Message → Action σ (Except Refusal α)}
    (h : s.messages.get? name = none) :
    withMessage name f s = ⟨.error .noMessage, {}, s⟩ := by
  simp [withMessage, h]

theorem withMessage_some {f : Message → Action σ (Except Refusal α)} {m : Message}
    (h : s.messages.get? name = some m) : withMessage name f s = f m s := by
  simp [withMessage, h]

/-- The address that an operation is given, if there is one. -/
def AddressSource.address? (s : Session σ) : AddressSource → Option Address
  | .slot name => s.kept.get? name
  | .address a => some a

theorem withAddress_none {source : AddressSource} {f : Address → Action σ (Except Refusal α)}
    (h : source.address? s = none) : withAddress source f s = ⟨.error .noAddress, {}, s⟩ := by
  cases source with
  | address a => cases h
  | slot name =>
    have hk : s.kept.get? name = none := h
    simp [withAddress, hk]

theorem withAddress_some {source : AddressSource} {f : Address → Action σ (Except Refusal α)}
    {a : Address} (h : source.address? s = some a) : withAddress source f s = f a s := by
  cases source with
  | address b =>
    cases h
    rfl
  | slot name =>
    have hk : s.kept.get? name = some a := h
    simp [withAddress, hk]

/-- An instance is found, or nothing is done. -/
theorem withInstance_cases (name : String) (f : Instance → Action σ (Except Refusal α))
    (s : Session σ) :
    withInstance name f s = ⟨.error .noInstance, {}, s⟩ ∨
      ∃ i, s.instances.get? name = some i ∧ withInstance name f s = f i s := by
  cases h : s.instances.get? name with
  | none => exact .inl (withInstance_none h)
  | some i => exact .inr ⟨i, rfl, withInstance_some h⟩

/-- A message is found, or nothing is done. -/
theorem withMessage_cases (name : String) (f : Message → Action σ (Except Refusal α))
    (s : Session σ) :
    withMessage name f s = ⟨.error .noMessage, {}, s⟩ ∨
      ∃ m, s.messages.get? name = some m ∧ withMessage name f s = f m s := by
  cases h : s.messages.get? name with
  | none => exact .inl (withMessage_none h)
  | some m => exact .inr ⟨m, rfl, withMessage_some h⟩

/-- An address is found, or nothing is done. -/
theorem withAddress_cases (source : AddressSource) (f : Address → Action σ (Except Refusal α))
    (s : Session σ) :
    withAddress source f s = ⟨.error .noAddress, {}, s⟩ ∨ ∃ a, withAddress source f s = f a s := by
  cases h : source.address? s with
  | none => exact .inl (withAddress_none h)
  | some a => exact .inr ⟨a, withAddress_some h⟩

end Looking

/-- Stores a new instance; the result is its version. -/
def keepInstance (E : Engine σ) (into : String) :
    Except Error Instance → Action σ (Except Refusal Answer)
  | .error e => pure (.error (.failed e))
  | .ok i => do
    storeInstance E into i
    pure (.ok (.number i.context.version.toNat))

/-- Stores a new message; the result is its address. -/
def keepMessage (E : Engine σ) (into : String) :
    Except Error Message → Action σ (Except Refusal Answer)
  | .error e => pure (.error (.failed e))
  | .ok m => do
    storeMessage E into m
    pure (.ok (.number m.address))

/-! ## Running -/

/-- Carries an operation out. -/
def Operation.run (E : Engine σ) : Operation → Action σ (Except Refusal Answer)
  | .initialise into requested options => do
    keepInstance E into (← Instance.initialise E requested options)
  | .initialiseWith into options => do
    keepInstance E into (← Instance.initialiseWith E options)
  | .share inst into => withInstance inst fun i => keepInstance E into (.ok i)
  | .version inst => withInstance inst fun i => pure (.ok (.number i.context.version.toNat))
  | .handle inst => withInstance inst fun i => pure (.ok (.number i.context.handle))
  | .showInstance inst pretty => withInstance inst fun i => pure (.ok (.text (i.text pretty)))
  | .discardInstance inst => do
    match ← takeInstance inst with
    | none => pure (.error .noInstance)
    | some i =>
      i.discard E
      pure (.ok .nothing)
  | .shutDown inst => do
    match ← takeInstance inst with
    | none => pure (.error .noInstance)
    | some i =>
      match ← i.shutDown E with
      | .error e => pure (.error (.failed e))
      | .ok () => pure (.ok .nothing)
  | .getMessage inst wait into => withInstance inst fun i => do
    keepMessage E into (← i.getMessage E wait)
  | .send inst message into => withInstance inst fun i => withMessage message fun m => do
    keepMessage E into (← i.send E m)
  | .sendAddress source inst into => withAddress source fun a => withInstance inst fun i => do
    keepMessage E into (← i.sendAddress E a)
  | .address message => withMessage message fun m => pure (.ok (.number m.address))
  | .showMessage message pretty => withMessage message fun m => pure (.ok (.text (m.text pretty)))
  | .discardMessage message => do
    match ← takeMessage message with
    | none => pure (.error .noMessage)
    | some m =>
      m.discard E
      pure (.ok .nothing)
  | .giveAway message into => do
    match ← takeMessage message with
    | none => pure (.error .noMessage)
    | some m =>
      let a ← m.giveAway E
      keepAddress into a
      pure (.ok (.number a))
  | .takeBack source inst into => withAddress source fun a => withInstance inst fun i =>
    keepMessage E into (Message.takeBack i a)

section Taking

/-! An operation that takes a reference out of its slot works on what is left without it. -/

variable {E : Engine σ} {name into : String} {s : Session σ} {i : Instance} {m : Message}

theorem takeInstance_none (h : s.instances.get? name = none) :
    takeInstance name s = ⟨none, {}, s⟩ := by
  rw [takeInstance_apply, h, Slots.erase_of_get?_none h]

theorem takeMessage_none (h : s.messages.get? name = none) :
    takeMessage name s = ⟨none, {}, s⟩ := by
  rw [takeMessage_apply, h, Slots.erase_of_get?_none h]

namespace Operation

theorem run_discardInstance_none (h : s.instances.get? name = none) :
    (discardInstance name).run E s = ⟨.error .noInstance, {}, s⟩ := by
  simp only [run, Action.bind_apply, takeInstance_none h, Action.pure_apply, Trace.append_empty]

theorem run_discardInstance (h : s.instances.get? name = some i) :
    (discardInstance name).run E s =
      let d := i.discard E { s with instances := s.instances.erase name }
      ⟨.ok .nothing, d.trace, d.session⟩ := by
  simp [run, h]

theorem run_shutDown_none (h : s.instances.get? name = none) :
    (shutDown name).run E s = ⟨.error .noInstance, {}, s⟩ := by
  simp only [run, Action.bind_apply, takeInstance_none h, Action.pure_apply, Trace.append_empty]

theorem run_shutDown_last (h : s.instances.get? name = some i)
    (last : { s with instances := s.instances.erase name }.holders i.context.number = 0) :
    (shutDown name).run E s =
      ⟨.ok .nothing, ⟨[.shutDown i.context.number i.context.handle],
        [.shuttingDown i.context.version]⟩,
        { s with
          instances := s.instances.erase name
          engine := E.shutDown i.context.handle s.engine }⟩ := by
  simp [run, h, Instance.shutDown_last last]

theorem run_shutDown_shared (h : s.instances.get? name = some i)
    (shared : { s with instances := s.instances.erase name }.holders i.context.number ≠ 0) :
    (shutDown name).run E s =
      ⟨.error (.failed .instanceInUse), {}, { s with instances := s.instances.erase name }⟩ := by
  simp [run, h, Instance.shutDown_shared shared]

theorem run_discardMessage_none (h : s.messages.get? name = none) :
    (discardMessage name).run E s = ⟨.error .noMessage, {}, s⟩ := by
  simp only [run, Action.bind_apply, takeMessage_none h, Action.pure_apply, Trace.append_empty]

theorem run_discardMessage (h : s.messages.get? name = some m) :
    (discardMessage name).run E s =
      let d := m.discard E { s with messages := s.messages.erase name }
      ⟨.ok .nothing, d.trace, d.session⟩ := by
  simp [run, h]

theorem run_giveAway_none (h : s.messages.get? name = none) :
    (giveAway name into).run E s = ⟨.error .noMessage, {}, s⟩ := by
  simp only [run, Action.bind_apply, takeMessage_none h, Action.pure_apply, Trace.append_empty]

theorem run_giveAway (h : s.messages.get? name = some m) :
    (giveAway name into).run E s =
      let d := m.giveAway E { s with messages := s.messages.erase name }
      ⟨.ok (.number m.address), d.trace,
        { d.session with kept := d.session.kept.insert into m.address }⟩ := by
  simp [run, h, keepAddress, Message.giveAway]

end Operation

end Taking

/-- Carries operations out one after another. -/
def runAll (E : Engine σ) : List Operation → Action σ (List (Except Refusal Answer))
  | [] => pure []
  | op :: ops => do
    let r ← op.run E
    let rs ← runAll E ops
    pure (r :: rs)

/-- The operations that empty all slots: first the messages, then the instances, each in the order
of their names. -/
def Session.closing (s : Session σ) : List Operation :=
  s.messages.names.map .discardMessage ++ s.instances.names.map .discardInstance

/-- Lets go of everything. -/
def closeAll (E : Engine σ) : Action σ Unit := do
  let s ← Action.read
  let _ ← runAll E s.closing
  pure ()

end Switchboard
