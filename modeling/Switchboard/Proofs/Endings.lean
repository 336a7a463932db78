import Switchboard.Proofs.Provenance
import Switchboard.Proofs.ShutDown

/-!
# The end of a value

An operation lets go of values: of a message, or of a context to which nothing refers any more. At
its end a context shuts the engine down unless the handle is null, and a message is freed unless the
address is null. An operation is taken apart into what it does first and the values that come to
their end afterwards (`Operation.begin`, `Operation.run_eq_begin`), so its calls are those that it
makes first, and one for each of these values whose pointer is not null (`Operation.calls_run`).
-/

namespace Switchboard

variable {σ : Type} {E : Engine σ} {s : Session σ} {name into : String}

/-! ## The end of a value -/

/-- A call that releases something. -/
def Call.IsRelease : Call → Prop
  | .shutDown .. | .freeMessage .. => True
  | _ => False

/-- Nothing is given in a call that releases something. -/
theorem Call.IsRelease.delivered? {call : Call} (h : call.IsRelease) : call.delivered? = none := by
  cases call with
  | shutDown | freeMessage => rfl
  | _ => exact h.elim

/-- A value that comes to its end: a context to which nothing refers any more, or a message. -/
inductive Ending
  | context (c : Context)
  | message (m : Message)
  deriving DecidableEq, Repr

namespace Ending

/-- What is done at the end of a value. -/
def run (E : Engine σ) : Ending → Action σ Unit
  | context c => c.finish E
  | message m => m.free E

/-- Values come to their end one after another. -/
def runAll (E : Engine σ) : List Ending → Action σ Unit
  | [] => pure ()
  | e :: ends => do
    e.run E
    runAll E ends

/-- The handle of a context, or the address of a message. -/
def pointer : Ending → Address
  | context c => c.handle
  | message m => m.address

/-- The call that releases a value. -/
def release : Ending → Call
  | context c => .shutDown c.number c.handle
  | message m => .freeMessage m.context.number m.address

/-- The call that releases a value, or none if its pointer is null. -/
def calls (e : Ending) : List Call :=
  if e.pointer = 0 then [] else [e.release]

theorem run_calls (e : Ending) (s : Session σ) : (e.run E s).trace.calls = e.calls := by
  cases e with
  | context c =>
    by_cases h : c.handle = 0 <;>
      simp [run, Context.finish, Context.callShutDown, calls, pointer, release, h]
  | message m => by_cases h : m.address = 0 <;> simp [run, Message.free, calls, pointer, release, h]

theorem runAll_calls (ends : List Ending) (s : Session σ) :
    (runAll E ends s).trace.calls = ends.flatMap calls := by
  induction ends generalizing s with
  | nil => rfl
  | cons e ends ih =>
    simp only [runAll, Action.bind_apply, Trace.calls_append, run_calls, ih, List.flatMap_cons]

theorem isRelease_of_mem_calls {e : Ending} {call : Call} (h : call ∈ e.calls) :
    call.IsRelease := by
  unfold calls at h
  split at h
  · cases h
  · rw [List.mem_singleton.1 h]
    cases e <;> trivial

theorem run_engineOnly (e : Ending) : EngineOnly (e.run E) := by
  intro engine
  cases e with
  | context c =>
    by_cases hc : c.handle = 0
    · refine ⟨(), {}, engine, ?_⟩
      rintro s rfl
      simp [run, Context.finish, hc]
    · refine ⟨(), ⟨[.shutDown c.number c.handle], [.shuttingDown c.version]⟩,
        E.shutDown c.handle engine, ?_⟩
      rintro s rfl
      simp [run, Context.finish, Context.callShutDown, hc, Trace.append]
  | message m =>
    by_cases hm : m.address = 0
    · refine ⟨(), {}, engine, ?_⟩
      rintro s rfl
      simp [run, Message.free, hm]
    · refine ⟨(), ⟨[.freeMessage m.context.number m.address], [.freeing m.address]⟩,
        E.freeMessage m.address engine, ?_⟩
      rintro s rfl
      exact Message.free_of_ne hm

theorem runAll_engineOnly (ends : List Ending) : EngineOnly (runAll E ends) := by
  induction ends with
  | nil =>
    intro engine
    refine ⟨(), {}, engine, ?_⟩
    rintro s rfl
    rfl
  | cons e ends ih =>
    intro engine
    obtain ⟨_, trace, engine₁, he⟩ := e.run_engineOnly (E := E) engine
    obtain ⟨_, trace₁, engine₂, hends⟩ := ih engine₁
    refine ⟨(), trace.append trace₁, engine₂, fun s hs => ?_⟩
    simp only [runAll, Action.bind_apply, he s hs, hends { s with engine := engine₁ } rfl]

end Ending

/-- The context comes to its end if there is no reference to it. -/
def Context.endings (c : Context) (s : Session σ) : List Ending :=
  if s.holders c.number = 0 then [.context c] else []

/-- The message comes to its end, and then its context if this was the last reference. -/
def Message.endings (m : Message) (s : Session σ) : List Ending :=
  .message m :: m.context.endings s

theorem Context.release_eq_runAll (c : Context) (s : Session σ) :
    c.release E s = Ending.runAll E (c.endings s) s := by
  by_cases h : s.holders c.number = 0 <;> simp [release, endings, h, Ending.runAll, Ending.run]

theorem Message.discard_eq_runAll (m : Message) (s : Session σ) :
    m.discard E s = Ending.runAll E (m.endings s) s := by
  obtain ⟨_, _, engine, free⟩ := (Ending.message m).run_engineOnly (E := E) s.engine
  have freed : m.free E s = _ := free s rfl
  have same : m.context.endings { s with engine } = m.context.endings s := rfl
  simp only [discard, endings, Ending.runAll, Ending.run, Action.bind_apply, freed,
    Context.release_eq_runAll, same]

/-! ## What an operation does before its endings -/

/-- The result of an operation that is not over yet: there are values still to come to their end. -/
abbrev Pending : Type := Except Refusal (Answer × List Ending)

/-- The values that are still to come to their end. -/
def Pending.endings : Pending → List Ending
  | .error _ => []
  | .ok (_, ends) => ends

/-- The rest of an operation. -/
def Pending.finish (E : Engine σ) : Pending → Action σ (Except Refusal Answer)
  | .error e => pure (.error e)
  | .ok (answer, ends) => do
    Ending.runAll E ends
    pure (.ok answer)

theorem Pending.finish_calls (p : Pending) (s : Session σ) :
    (p.finish E s).trace.calls = p.endings.flatMap Ending.calls := by
  cases p with
  | error e => rfl
  | ok p =>
    simp only [finish, Action.bind_apply, Action.pure_apply, Trace.append_empty,
      Ending.runAll_calls]
    rfl

/-- Puts a new instance into a slot, with the one that was there still to come to its end. -/
def beginKeepInstance (into : String) : Except Error Instance → Action σ Pending
  | .error e => pure (.error (.failed e))
  | .ok i => do
    let s ← Action.read
    Action.change fun s => { s with instances := s.instances.insert into i }
    let s' ← Action.read
    pure (.ok (.number i.context.version.toNat,
      (s.instances.get? into).elim [] (·.context.endings s')))

/-- Puts a new message into a slot, with the one that was there still to come to its end. -/
def beginKeepMessage (into : String) : Except Error Message → Action σ Pending
  | .error e => pure (.error (.failed e))
  | .ok m => do
    let s ← Action.read
    Action.change fun s => { s with messages := s.messages.insert into m }
    let s' ← Action.read
    pure (.ok (.number m.address, (s.messages.get? into).elim [] (·.endings s')))

theorem beginKeepMessage_trace (r : Except Error Message) (s : Session σ) :
    (beginKeepMessage into r s).trace = {} := by
  cases r <;> rfl

/-- Shuts an engine down by hand. Its context is still to come to its end, and is marked. -/
def Instance.beginShutDown (E : Engine σ) (i : Instance) : Action σ Pending := do
  let s ← Action.read
  if s.holders i.context.number = 0 then
    i.context.callShutDown E i.context.handle
    pure (.ok (.nothing, [.context { i.context with handle := 0 }]))
  else pure (.error (.failed .instanceInUse))

/-- Gives a message away. It is still to come to its end, and is marked. -/
def Message.beginGiveAway (m : Message) (into : String) : Action σ Pending := do
  keepAddress into m.address
  let s ← Action.read
  pure (.ok (.number m.address, Message.endings { m with address := 0 } s))

/-- What an operation does before the values that it lets go of come to their end. -/
def Operation.begin (E : Engine σ) : Operation → Action σ Pending
  | initialise into requested options => do
    beginKeepInstance into (← Instance.initialise E requested options)
  | initialiseWith into options => do
    beginKeepInstance into (← Instance.initialiseWith E options)
  | share inst into => withInstance inst fun i => beginKeepInstance into (.ok i)
  | version inst => withInstance inst fun i => pure (.ok (.number i.context.version.toNat, []))
  | handle inst => withInstance inst fun i => pure (.ok (.number i.context.handle, []))
  | showInstance inst pretty => withInstance inst fun i => pure (.ok (.text (i.text pretty), []))
  | discardInstance inst => do
    match ← takeInstance inst with
    | none => pure (.error .noInstance)
    | some i =>
      let s ← Action.read
      pure (.ok (.nothing, i.context.endings s))
  | shutDown inst => do
    match ← takeInstance inst with
    | none => pure (.error .noInstance)
    | some i => i.beginShutDown E
  | getMessage inst wait into => withInstance inst fun i => do
    beginKeepMessage into (← i.getMessage E wait)
  | send inst message into => withInstance inst fun i => withMessage message fun m => do
    beginKeepMessage into (← i.send E m)
  | sendAddress source inst into => withAddress source fun a => withInstance inst fun i => do
    beginKeepMessage into (← i.sendAddress E a)
  | address message => withMessage message fun m => pure (.ok (.number m.address, []))
  | showMessage message pretty => withMessage message fun m =>
    pure (.ok (.text (m.text pretty), []))
  | discardMessage message => do
    match ← takeMessage message with
    | none => pure (.error .noMessage)
    | some m =>
      let s ← Action.read
      pure (.ok (.nothing, m.endings s))
  | giveAway message into => do
    match ← takeMessage message with
    | none => pure (.error .noMessage)
    | some m => m.beginGiveAway into
  | takeBack source inst into => withAddress source fun a => withInstance inst fun i =>
    beginKeepMessage into (Message.takeBack i a)

/-- The values that come to their end in an operation. -/
def Operation.endings (E : Engine σ) (s : Session σ) (op : Operation) : List Ending :=
  (op.begin E s).value.endings

section Parts

/-! Each part of an operation is what it does first, and then the rest. -/

theorem keepInstance_eq_begin (r : Except Error Instance) (s : Session σ) :
    keepInstance E into r s = (beginKeepInstance into r >>= Pending.finish E) s := by
  cases r with
  | error e => rfl
  | ok i =>
    cases h : s.instances.get? into with
    | none =>
      simp [keepInstance, storeInstance_of_none h, beginKeepInstance, h, Pending.finish,
        Ending.runAll]
    | some old =>
      simp [keepInstance, storeInstance_of_some h, beginKeepInstance, h, Pending.finish,
        Instance.discard, Context.release_eq_runAll]

theorem keepMessage_eq_begin (r : Except Error Message) (s : Session σ) :
    keepMessage E into r s = (beginKeepMessage into r >>= Pending.finish E) s := by
  cases r with
  | error e => rfl
  | ok m =>
    cases h : s.messages.get? into with
    | none =>
      simp [keepMessage, storeMessage_of_none h, beginKeepMessage, h, Pending.finish,
        Ending.runAll]
    | some old =>
      simp [keepMessage, storeMessage_of_some h, beginKeepMessage, h, Pending.finish,
        Message.discard_eq_runAll]

/-- What is done before goes first. -/
theorem bind_eq_begin {α : Type} {m : Action σ α} {f : α → Action σ (Except Refusal Answer)}
    {g : α → Action σ Pending} (h : ∀ x s, f x s = (g x >>= Pending.finish E) s) (s : Session σ) :
    (m >>= f) s = ((m >>= g) >>= Pending.finish E) s := by
  simp only [Action.bind_apply, h, Trace.append_assoc]

theorem withInstance_eq_begin {f : Instance → Action σ (Except Refusal Answer)}
    {g : Instance → Action σ Pending} (h : ∀ i, f i s = (g i >>= Pending.finish E) s) :
    withInstance name f s = (withInstance name g >>= Pending.finish E) s := by
  cases hi : s.instances.get? name with
  | none =>
    rw [withInstance_none hi, Action.bind_apply, withInstance_none hi]
    rfl
  | some i =>
    rw [withInstance_some hi, h, Action.bind_apply, Action.bind_apply, withInstance_some hi]

theorem withMessage_eq_begin {f : Message → Action σ (Except Refusal Answer)}
    {g : Message → Action σ Pending} (h : ∀ m, f m s = (g m >>= Pending.finish E) s) :
    withMessage name f s = (withMessage name g >>= Pending.finish E) s := by
  cases hm : s.messages.get? name with
  | none =>
    rw [withMessage_none hm, Action.bind_apply, withMessage_none hm]
    rfl
  | some m =>
    rw [withMessage_some hm, h, Action.bind_apply, Action.bind_apply, withMessage_some hm]

theorem withAddress_eq_begin {source : AddressSource}
    {f : Address → Action σ (Except Refusal Answer)} {g : Address → Action σ Pending}
    (h : ∀ a, f a s = (g a >>= Pending.finish E) s) :
    withAddress source f s = (withAddress source g >>= Pending.finish E) s := by
  cases ha : source.address? s with
  | none =>
    rw [withAddress_none ha, Action.bind_apply, withAddress_none ha]
    rfl
  | some a =>
    rw [withAddress_some ha, h, Action.bind_apply, Action.bind_apply, withAddress_some ha]

end Parts

namespace Operation

variable {op : Operation} {i : Instance} {m : Message}

/-! An operation that takes a reference out of its slot works on what is left without it. -/

theorem begin_discardInstance (h : s.instances.get? name = some i) :
    (discardInstance name).begin E s =
      let s' := { s with instances := s.instances.erase name }
      ⟨.ok (.nothing, i.context.endings s'), {}, s'⟩ := by
  simp [begin, h]

theorem begin_shutDown (h : s.instances.get? name = some i) :
    (shutDown name).begin E s =
      i.beginShutDown E { s with instances := s.instances.erase name } := by
  simp [begin, h]

theorem begin_discardMessage (h : s.messages.get? name = some m) :
    (discardMessage name).begin E s =
      let s' := { s with messages := s.messages.erase name }
      ⟨.ok (.nothing, m.endings s'), {}, s'⟩ := by
  simp [begin, h]

theorem begin_giveAway (h : s.messages.get? name = some m) :
    (giveAway name into).begin E s =
      let s' := { s with messages := s.messages.erase name, kept := s.kept.insert into m.address }
      ⟨.ok (.number m.address, Message.endings { m with address := 0 } s'), {}, s'⟩ := by
  simp [begin, h, Message.beginGiveAway, keepAddress]

/-- **An operation is what it does first, and then the values that it lets go of come to their
end.** -/
theorem run_eq_begin (op : Operation) (s : Session σ) :
    op.run E s = (op.begin E >>= Pending.finish E) s := by
  cases op with
  | initialise into requested options => exact bind_eq_begin keepInstance_eq_begin s
  | initialiseWith into options => exact bind_eq_begin keepInstance_eq_begin s
  | share inst into => exact withInstance_eq_begin fun i => keepInstance_eq_begin _ s
  | version inst => exact withInstance_eq_begin fun i => rfl
  | handle inst => exact withInstance_eq_begin fun i => rfl
  | showInstance inst pretty => exact withInstance_eq_begin fun i => rfl
  | discardInstance inst =>
    cases hi : s.instances.get? inst with
    | none => simp [run_discardInstance_none hi, begin, hi, Pending.finish,
        Slots.erase_of_get?_none hi]
    | some i =>
      simp [run_discardInstance hi, begin_discardInstance hi, Pending.finish, Instance.discard,
        Context.release_eq_runAll]
  | shutDown inst =>
    cases hi : s.instances.get? inst with
    | none => simp [run_shutDown_none hi, begin, hi, Pending.finish, Slots.erase_of_get?_none hi]
    | some i =>
      by_cases last : { s with instances := s.instances.erase inst }.holders i.context.number = 0
      · simp [run_shutDown_last hi last, begin_shutDown hi, Instance.beginShutDown, last,
          Context.callShutDown, Pending.finish, Ending.runAll, Ending.run, Context.finish,
          Trace.append]
      · simp [run_shutDown_shared hi last, begin_shutDown hi, Instance.beginShutDown, last,
          Pending.finish]
  | getMessage inst wait into =>
    exact withInstance_eq_begin fun i => bind_eq_begin keepMessage_eq_begin s
  | send inst message into =>
    exact withInstance_eq_begin fun i => withMessage_eq_begin fun m =>
      bind_eq_begin keepMessage_eq_begin s
  | sendAddress source inst into =>
    exact withAddress_eq_begin fun a => withInstance_eq_begin fun i =>
      bind_eq_begin keepMessage_eq_begin s
  | address message => exact withMessage_eq_begin fun m => rfl
  | showMessage message pretty => exact withMessage_eq_begin fun m => rfl
  | discardMessage message =>
    cases hm : s.messages.get? message with
    | none => simp [run_discardMessage_none hm, begin, hm, Pending.finish,
        Slots.erase_of_get?_none hm]
    | some m =>
      simp [run_discardMessage hm, begin_discardMessage hm, Pending.finish,
        Message.discard_eq_runAll]
  | giveAway message into =>
    cases hm : s.messages.get? message with
    | none => simp [run_giveAway_none hm, begin, hm, Pending.finish, Slots.erase_of_get?_none hm]
    | some m =>
      -- endings have to do with the engine only, so the address may be kept before or after them
      let given : Message := { m with address := 0 }
      let left : Session σ := { s with messages := s.messages.erase message }
      let kept : Session σ := { left with kept := s.kept.insert into m.address }
      obtain ⟨_, trace, engine, ends⟩ :=
        Ending.runAll_engineOnly (E := E) (given.endings left) s.engine
      have after : given.discard E left = ⟨(), trace, { left with engine }⟩ :=
        (Message.discard_eq_runAll _ _).trans (ends left rfl)
      have before : Ending.runAll E (given.endings kept) kept = ⟨(), trace, { kept with engine }⟩ :=
        ends kept rfl
      simp only [left, given, kept] at after before
      simp [run_giveAway hm, begin_giveAway hm, Message.giveAway, Pending.finish, after, before]
  | takeBack source inst into =>
    exact withAddress_eq_begin fun a => withInstance_eq_begin fun i => keepMessage_eq_begin _ s

/-- An operation answers what it answers before its endings. -/
theorem value_run_eq_ok_iff {answer : Answer} :
    (op.run E s).value = .ok answer ↔ ∃ ends, (op.begin E s).value = .ok (answer, ends) := by
  rw [run_eq_begin, Action.bind_apply]
  cases (op.begin E s).value with
  | error e => simp [Pending.finish]
  | ok p => simp [Pending.finish, Prod.ext_iff]

/-- The calls of an operation are those before its endings, and those that release what is not
marked. -/
theorem calls_run (op : Operation) (s : Session σ) :
    (op.run E s).trace.calls =
      (op.begin E s).trace.calls ++ (op.endings E s).flatMap Ending.calls := by
  rw [run_eq_begin, Action.bind_apply, Trace.calls_append, Pending.finish_calls, endings]

end Operation

end Switchboard
