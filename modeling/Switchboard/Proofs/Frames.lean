import Switchboard.Proofs.Endings

/-!
# What stays in the slots

An operation fills one slot or empties one, if any, and all other slots hold what they held
(`Operation.get?_instances_run`, `Operation.get?_messages_run`). So a run leaves a slot alone that
no operation of it fills or empties, whatever it does to the contexts.

A message that is in a slot was created by one operation, with the address that the engine gave to
it or that was taken back (`Operation.Creates`), and it has been in the slot since
(`History.Reached.created`).
-/

namespace Switchboard

variable {σ : Type} {E : Engine σ} {s : Session σ} {name into : String}

/-! ## The slots that an operation leaves -/

theorem keepInstance_instances (i : Instance) (s : Session σ) :
    (keepInstance E into (.ok i) s).session.instances = s.instances.insert into i := by
  obtain ⟨engine, stored⟩ := storeInstance_session (E := E) into i s
  simp [keepInstance, stored]

theorem keepInstance_messages (r : Except Error Instance) (s : Session σ) :
    (keepInstance E into r s).session.messages = s.messages := by
  cases r with
  | error e => rfl
  | ok i =>
    obtain ⟨engine, stored⟩ := storeInstance_session (E := E) into i s
    simp [keepInstance, stored]

theorem keepMessage_instances (r : Except Error Message) (s : Session σ) :
    (keepMessage E into r s).session.instances = s.instances := by
  cases r with
  | error e => rfl
  | ok m =>
    obtain ⟨engine, stored⟩ := storeMessage_session (E := E) into m s
    simp [keepMessage, stored]

theorem keepMessage_messages (m : Message) (s : Session σ) :
    (keepMessage E into (.ok m) s).session.messages = s.messages.insert into m := by
  obtain ⟨engine, stored⟩ := storeMessage_session (E := E) into m s
  simp [keepMessage, stored]

section Looking

/-! What an action leaves alone stays when it is looked up first what the action is done with. -/

variable {α : Type} (part : Session σ → α)

theorem withInstance_part {f : Instance → Action σ (Except Refusal Answer)}
    (hf : ∀ i, part (f i s).session = part s) :
    part (withInstance name f s).session = part s := by
  rcases withInstance_cases name f s with h | ⟨i, -, h⟩ <;> rw [h]
  exact hf i

theorem withMessage_part {f : Message → Action σ (Except Refusal Answer)}
    (hf : ∀ m, part (f m s).session = part s) :
    part (withMessage name f s).session = part s := by
  rcases withMessage_cases name f s with h | ⟨m, -, h⟩ <;> rw [h]
  exact hf m

theorem withAddress_part {source : AddressSource} {f : Address → Action σ (Except Refusal Answer)}
    (hf : ∀ a, part (f a s).session = part s) :
    part (withAddress source f s).session = part s := by
  rcases withAddress_cases source f s with h | ⟨a, h⟩ <;> rw [h]
  exact hf a

end Looking

theorem withInstance_instances {f : Instance → Action σ (Except Refusal Answer)}
    (hf : ∀ i, (f i s).session.instances = s.instances) :
    (withInstance name f s).session.instances = s.instances :=
  withInstance_part Session.instances hf

theorem withMessage_instances {f : Message → Action σ (Except Refusal Answer)}
    (hf : ∀ m, (f m s).session.instances = s.instances) :
    (withMessage name f s).session.instances = s.instances :=
  withMessage_part Session.instances hf

theorem withAddress_instances {source : AddressSource}
    {f : Address → Action σ (Except Refusal Answer)}
    (hf : ∀ a, (f a s).session.instances = s.instances) :
    (withAddress source f s).session.instances = s.instances :=
  withAddress_part Session.instances hf

namespace Instance

theorem getMessage_instances (i : Instance) (wait : Duration) (s : Session σ) :
    ((i.getMessage E wait >>= keepMessage E into) s).session.instances = s.instances := by
  rw [Action.bind_apply, keepMessage_instances, (i.getMessage_calls s wait).2]

theorem sendAddress_instances (i : Instance) (message : Address) (s : Session σ) :
    ((i.sendAddress E message >>= keepMessage E into) s).session.instances = s.instances := by
  rw [Action.bind_apply, keepMessage_instances, (i.sendAddress_calls s message).2]

/-- Starting changes no slot. -/
theorem initialise_session (requested : UInt32) (options : String) (s : Session σ) :
    ∃ engine made, (Instance.initialise E requested options s).session =
      { s with engine, made } := by
  cases h : NulFault.find? (Utf8.encode options.toList) with
  | some fault => exact ⟨_, _, by rw [initialise_of_nul h]⟩
  | none =>
    rcases call : E.initialise requested options s.engine with ⟨answer, engine⟩
    by_cases ha : answer.handle = 0
    · exact ⟨_, _, by rw [initialise_of_null h call ha]⟩
    · exact ⟨_, _, by rw [initialise_of_handle h call ha]⟩

theorem initialiseWith_session (options : Options) (s : Session σ) :
    ∃ engine made, (Instance.initialiseWith E options s).session = { s with engine, made } := by
  unfold Instance.initialiseWith
  cases options.render with
  | error e => exact ⟨_, _, rfl⟩
  | ok text => exact initialise_session interfaceVersion text s

end Instance

/-! ## Operations -/

namespace Operation

/-- The slot of an instance that an operation fills or empties, if it may do so. -/
def instanceReplaced? : Operation → Option String
  | initialise into .. | initialiseWith into _ | share _ into => some into
  | discardInstance inst | shutDown inst => some inst
  | _ => none

/-- The slot of a message that an operation fills or empties, if it may do so. -/
def messageReplaced? : Operation → Option String
  | getMessage _ _ into | send _ _ into | sendAddress _ _ into | takeBack _ _ into => some into
  | discardMessage message | giveAway message _ => some message
  | _ => none

variable {op : Operation}

theorem instances_run (h : op.instanceReplaced? = none) (s : Session σ) :
    (op.run E s).session.instances = s.instances := by
  cases op with
  | version inst => exact withInstance_instances fun _ => rfl
  | handle inst => exact withInstance_instances fun _ => rfl
  | showInstance inst pretty => exact withInstance_instances fun _ => rfl
  | getMessage inst wait into => exact withInstance_instances fun i => i.getMessage_instances wait s
  | send inst message into =>
    exact withInstance_instances fun i => withMessage_instances fun m =>
      i.sendAddress_instances m.address s
  | sendAddress source inst into =>
    exact withAddress_instances fun a => withInstance_instances fun i => i.sendAddress_instances a s
  | address message => exact withMessage_instances fun _ => rfl
  | showMessage message pretty => exact withMessage_instances fun _ => rfl
  | discardMessage message =>
    cases hm : s.messages.get? message with
    | none => rw [run_discardMessage_none hm]
    | some m =>
      obtain ⟨engine, gone⟩ := m.discard_session (E := E)
        { s with messages := s.messages.erase message }
      simp [run_discardMessage hm, gone]
  | giveAway message into =>
    cases hm : s.messages.get? message with
    | none => rw [run_giveAway_none hm]
    | some m =>
      obtain ⟨engine, gave⟩ := run_giveAway_session (E := E) hm into
      rw [gave]
  | takeBack source inst into =>
    exact withAddress_instances fun a => withInstance_instances fun i => keepMessage_instances _ s
  | _ => cases h

theorem messages_run (h : op.messageReplaced? = none) (s : Session σ) :
    (op.run E s).session.messages = s.messages := by
  cases op with
  | initialise into requested options =>
    obtain ⟨engine, made, hs⟩ := Instance.initialise_session (E := E) requested options s
    rw [run, Action.bind_apply, keepInstance_messages, hs]
  | initialiseWith into options =>
    obtain ⟨engine, made, hs⟩ := Instance.initialiseWith_session (E := E) options s
    rw [run, Action.bind_apply, keepInstance_messages, hs]
  | share inst into =>
    exact withInstance_part Session.messages fun i => keepInstance_messages (.ok i) s
  | version inst => exact withInstance_part Session.messages fun _ => rfl
  | handle inst => exact withInstance_part Session.messages fun _ => rfl
  | showInstance inst pretty => exact withInstance_part Session.messages fun _ => rfl
  | discardInstance inst =>
    cases hi : s.instances.get? inst with
    | none => rw [run_discardInstance_none hi]
    | some i =>
      obtain ⟨engine, gone⟩ := i.context.release_session (E := E)
        { s with instances := s.instances.erase inst }
      simp [run_discardInstance hi, Instance.discard, gone]
  | shutDown inst =>
    cases hi : s.instances.get? inst with
    | none => rw [run_shutDown_none hi]
    | some i =>
      by_cases last : { s with instances := s.instances.erase inst }.holders i.context.number = 0
      · rw [run_shutDown_last hi last]
      · rw [run_shutDown_shared hi last]
  | address message => exact withMessage_part Session.messages fun _ => rfl
  | showMessage message pretty => exact withMessage_part Session.messages fun _ => rfl
  | _ => cases h

/-- An operation leaves the instances in all other slots. -/
theorem get?_instances_run (h : op.instanceReplaced? ≠ some name) (s : Session σ) :
    (op.run E s).session.instances.get? name = s.instances.get? name := by
  have kept {into : String} (hn : into ≠ name) (r : Except Error Instance) (s : Session σ) :
      (keepInstance E into r s).session.instances.get? name = s.instances.get? name := by
    cases r with
    | error e => rfl
    | ok i => rw [keepInstance_instances, Slots.get?_insert_of_ne hn.symm]
  cases op with
  | initialise into requested options =>
    obtain ⟨engine, made, hs⟩ := Instance.initialise_session (E := E) requested options s
    rw [run, Action.bind_apply, kept (fun he => h (congrArg some he)), hs]
  | initialiseWith into options =>
    obtain ⟨engine, made, hs⟩ := Instance.initialiseWith_session (E := E) options s
    rw [run, Action.bind_apply, kept (fun he => h (congrArg some he)), hs]
  | share inst into =>
    exact withInstance_part (·.instances.get? name) fun i =>
      kept (fun he => h (congrArg some he)) (.ok i) s
  | discardInstance inst =>
    have hn : name ≠ inst := fun he => h (congrArg some he.symm)
    cases hi : s.instances.get? inst with
    | none => rw [run_discardInstance_none hi]
    | some i =>
      obtain ⟨engine, gone⟩ := i.context.release_session (E := E)
        { s with instances := s.instances.erase inst }
      simp [run_discardInstance hi, Instance.discard, gone, Slots.get?_erase_of_ne hn]
  | shutDown inst =>
    have hn : name ≠ inst := fun he => h (congrArg some he.symm)
    cases hi : s.instances.get? inst with
    | none => rw [run_shutDown_none hi]
    | some i =>
      by_cases last : { s with instances := s.instances.erase inst }.holders i.context.number = 0
      · rw [run_shutDown_last hi last, Slots.get?_erase_of_ne hn]
      · rw [run_shutDown_shared hi last, Slots.get?_erase_of_ne hn]
  | _ => rw [instances_run rfl]

/-- An operation leaves the messages in all other slots. -/
theorem get?_messages_run (h : op.messageReplaced? ≠ some name) (s : Session σ) :
    (op.run E s).session.messages.get? name = s.messages.get? name := by
  have kept {into : String} (hn : into ≠ name) (r : Except Error Message) (s : Session σ) :
      (keepMessage E into r s).session.messages.get? name = s.messages.get? name := by
    cases r with
    | error e => rfl
    | ok m => rw [keepMessage_messages, Slots.get?_insert_of_ne hn.symm]
  cases op with
  | getMessage inst wait into =>
    refine withInstance_part (·.messages.get? name) fun i => ?_
    rw [Action.bind_apply, kept (fun he => h (congrArg some he)), (i.getMessage_calls s wait).2]
  | send inst message into =>
    refine withInstance_part (·.messages.get? name) fun i =>
      withMessage_part (·.messages.get? name) fun m => ?_
    rw [Action.bind_apply, kept (fun he => h (congrArg some he)), Instance.send,
      (i.sendAddress_calls s m.address).2]
  | sendAddress source inst into =>
    refine withAddress_part (·.messages.get? name) fun a =>
      withInstance_part (·.messages.get? name) fun i => ?_
    rw [Action.bind_apply, kept (fun he => h (congrArg some he)), (i.sendAddress_calls s a).2]
  | discardMessage message =>
    have hn : name ≠ message := fun he => h (congrArg some he.symm)
    cases hm : s.messages.get? message with
    | none => rw [run_discardMessage_none hm]
    | some m =>
      obtain ⟨engine, gone⟩ := m.discard_session (E := E)
        { s with messages := s.messages.erase message }
      simp [run_discardMessage hm, gone, Slots.get?_erase_of_ne hn]
  | giveAway message into =>
    have hn : name ≠ message := fun he => h (congrArg some he.symm)
    cases hm : s.messages.get? message with
    | none => rw [run_giveAway_none hm]
    | some m =>
      obtain ⟨engine, gave⟩ := run_giveAway_session (E := E) hm into
      rw [gave, Slots.get?_erase_of_ne hn]
  | takeBack source inst into =>
    exact withAddress_part (·.messages.get? name) fun a =>
      withInstance_part (·.messages.get? name) fun i => kept (fun he => h (congrArg some he)) _ s
  | _ => rw [messages_run rfl]

end Operation

/-! ## Creating a message -/

namespace Instance

variable {i : Instance} {m : Message}

/-- The message that is got is the one that the engine gave. -/
theorem delivered_getMessage {wait : Duration} (h : (i.getMessage E wait s).value = .ok m) :
    delivered (i.getMessage E wait s).trace.calls = [m.address] := by
  rw [getMessage_value] at h
  rw [(i.getMessage_calls s wait).1]
  split at h
  · cases h
  · rename_i ne
    cases h
    simp [delivered, Call.delivered?, ne]

/-- The response to what is sent is the message that the engine gave. -/
theorem delivered_sendAddress {a : Address} (h : (i.sendAddress E a s).value = .ok m) :
    delivered (i.sendAddress E a s).trace.calls = [m.address] := by
  rw [sendAddress_value] at h
  rw [(i.sendAddress_calls s a).1]
  split at h
  · cases h
  · rename_i ne
    cases h
    simp [delivered, Call.delivered?, ne]

end Instance

theorem Message.address_of_takeBack {i : Instance} {a : Address} {m : Message}
    (h : Message.takeBack i a = .ok m) : m.address = a := by
  unfold takeBack at h
  split at h
  · cases h
  · cases h
    rfl

/-- Storing a message releases what was there, and makes the engine give nothing. -/
theorem delivered_keepMessage (r : Except Error Message) (s : Session σ) :
    delivered (keepMessage E into r s).trace.calls = [] := by
  rw [keepMessage_eq_begin, Action.bind_apply, Trace.calls_append, beginKeepMessage_trace,
    List.nil_append, Pending.finish_calls]
  refine List.filterMap_eq_nil_iff.2 fun call hc => ?_
  obtain ⟨e, -, he⟩ := List.mem_flatMap.1 hc
  exact (Ending.isRelease_of_mem_calls he).delivered?

/-- What is in a slot after storing a result was there before, or it is the result. -/
theorem get?_messages_keepMessage {r : Except Error Message} {m : Message} {s : Session σ}
    (h : (keepMessage E into r s).session.messages.get? into = some m) :
    s.messages.get? into = some m ∨ r = .ok m := by
  cases r with
  | error e => exact .inl h
  | ok x =>
    rw [keepMessage_messages, Slots.get?_insert_self] at h
    exact .inr (congrArg Except.ok (Option.some.inj h))

namespace Operation

variable {op : Operation} {m : Message}

/-- An operation has put a message into a slot, with the address that the engine gave during the
operation, or with the address that was taken back. -/
structure Creates (E : Engine σ) (s : Session σ) (op : Operation) (name : String) (m : Message) :
    Prop where
  slot : op.messageReplaced? = some name
  stored : (op.run E s).session.messages.get? name = some m
  address : delivered (op.run E s).trace.calls = [m.address] ∨
    ∃ source inst, op = .takeBack source inst name ∧ source.address? s = some m.address

/-- A message that is in a slot after an operation was there before, or the operation created it. -/
theorem creates_of_get?_messages_run (h : (op.run E s).session.messages.get? name = some m) :
    s.messages.get? name = some m ∨ op.Creates E s name m := by
  by_cases hn : op.messageReplaced? = some name
  swap
  · exact .inl (get?_messages_run hn s ▸ h)
  -- a result that the engine gave with one call
  have given {f : Action σ (Except Error Message)}
      (hr : op.run E s = (f >>= keepMessage E name) s)
      (hs : (f s).session.messages = s.messages)
      (hf : ∀ x, (f s).value = .ok x → delivered (f s).trace.calls = [x.address]) :
      s.messages.get? name = some m ∨ op.Creates E s name m := by
    have stored := h
    rw [hr] at stored
    rcases get?_messages_keepMessage stored with old | new
    · exact .inl (hs ▸ old)
    · refine .inr ⟨hn, h, .inl ?_⟩
      rw [hr, Action.bind_apply, Trace.calls_append, delivered_append, delivered_keepMessage,
        List.append_nil, hf m new]
  have sent (i : Instance) (a : Address)
      (hr : op.run E s = (i.sendAddress E a >>= keepMessage E name) s) :
      s.messages.get? name = some m ∨ op.Creates E s name m :=
    given hr (by rw [(i.sendAddress_calls s a).2]) fun _ => Instance.delivered_sendAddress
  cases op with
  | getMessage inst wait into =>
    cases hn
    rcases withInstance_cases inst (fun i => i.getMessage E wait >>= keepMessage E name) s with
      hw | ⟨i, -, hw⟩
    · exact .inl (by rwa [run, hw] at h)
    · exact given hw (by rw [(i.getMessage_calls s wait).2]) fun _ => Instance.delivered_getMessage
  | send inst message into =>
    cases hn
    cases hi : s.instances.get? inst with
    | none => exact .inl (by rwa [run, withInstance_none hi] at h)
    | some i =>
      cases hm : s.messages.get? message with
      | none => exact .inl (by rwa [run, withInstance_some hi, withMessage_none hm] at h)
      | some x =>
        refine sent i x.address ?_
        rw [run, withInstance_some hi, withMessage_some hm]
        rfl
  | sendAddress source inst into =>
    cases hn
    cases ha : source.address? s with
    | none => exact .inl (by rwa [run, withAddress_none ha] at h)
    | some a =>
      cases hi : s.instances.get? inst with
      | none => exact .inl (by rwa [run, withAddress_some ha, withInstance_none hi] at h)
      | some i => exact sent i a (by rw [run, withAddress_some ha, withInstance_some hi])
  | discardMessage message =>
    cases hn
    cases hm : s.messages.get? name with
    | none => exact .inl (by rwa [run_discardMessage_none hm, hm] at h)
    | some x =>
      obtain ⟨engine, gone⟩ := x.discard_session (E := E)
        { s with messages := s.messages.erase name }
      simp [run_discardMessage hm, gone] at h
  | giveAway message into =>
    cases hn
    cases hm : s.messages.get? name with
    | none => exact .inl (by rwa [run_giveAway_none hm, hm] at h)
    | some x =>
      obtain ⟨engine, gave⟩ := run_giveAway_session (E := E) hm into
      simp [gave] at h
  | takeBack source inst into =>
    cases hn
    have stored := h
    cases ha : source.address? s with
    | none => exact .inl (by rwa [run, withAddress_none ha] at h)
    | some a =>
      cases hi : s.instances.get? inst with
      | none => exact .inl (by rwa [run, withAddress_some ha, withInstance_none hi] at h)
      | some i =>
        rw [run, withAddress_some ha, withInstance_some hi] at stored
        rcases get?_messages_keepMessage stored with old | new
        · exact .inl old
        · exact .inr ⟨rfl, h, .inr ⟨source, inst, rfl, Message.address_of_takeBack new ▸ ha⟩⟩
  | _ => cases hn

end Operation

/-! ## Runs -/

namespace History

variable {h : History σ} {ms : List (Move σ)} {m : Message}

/-- A run leaves the instance in a slot unless an operation fills or empties the slot. -/
theorem get?_instances_run (h : History σ)
    (hms : ∀ op, .operation op ∈ ms → op.instanceReplaced? ≠ some name) :
    (h.run E ms).session.instances.get? name = h.session.instances.get? name := by
  refine run_induction (P := fun h₁ =>
    h₁.session.instances.get? name = h.session.instances.get? name) rfl fun h₁ m hm ih => ?_
  cases m with
  | operation op => exact (Operation.get?_instances_run (hms op hm) _).trans ih
  | outside f => exact ih

/-- A run leaves the message in a slot unless an operation fills or empties the slot. -/
theorem get?_messages_run (h : History σ)
    (hms : ∀ op, .operation op ∈ ms → op.messageReplaced? ≠ some name) :
    (h.run E ms).session.messages.get? name = h.session.messages.get? name := by
  refine run_induction (P := fun h₁ =>
    h₁.session.messages.get? name = h.session.messages.get? name) rfl fun h₁ m hm ih => ?_
  cases m with
  | operation op => exact (Operation.get?_messages_run (hms op hm) _).trans ih
  | outside f => exact ih

/-- An operation created the message in a slot, and it has been there in all moves since. -/
theorem Reached.created (hr : Reached E h) (hm : h.session.messages.get? name = some m) :
    ∃ h₀ op since, Reached E h₀ ∧ h = (h₀.step E (.operation op)).run E since ∧
      op.Creates E h₀.session name m ∧ ∀ part, part <+: since →
        ((h₀.step E (.operation op)).run E part).session.messages.get? name = some m := by
  obtain ⟨engine, ms, rfl⟩ := hr
  induction ms using List.reverseRecOn with
  | nil => cases hm
  | append_singleton ms move ih =>
    -- a move that the message was there before is one of those since
    have held (hb : ((start engine).run E ms).session.messages.get? name = some m) :
        ∃ h₀ op since, Reached E h₀ ∧
          (start engine).run E (ms ++ [move]) = (h₀.step E (.operation op)).run E since ∧
          op.Creates E h₀.session name m ∧ ∀ part, part <+: since →
            ((h₀.step E (.operation op)).run E part).session.messages.get? name = some m := by
      obtain ⟨h₀, op, since, hr₀, eq, creates, there⟩ := ih hb
      refine ⟨h₀, op, since ++ [move], hr₀, ?_, creates, fun part hp => ?_⟩
      · rw [run_append_singleton, eq, run_append_singleton]
      · rcases List.prefix_concat_iff.1 hp with rfl | hp
        · rwa [run_append_singleton, ← eq, ← run_append_singleton]
        · exact there part hp
    have hm' := hm
    rw [run_append_singleton] at hm'
    cases move with
    | outside f => exact held hm'
    | operation op =>
      rcases Operation.creates_of_get?_messages_run hm' with hb | creates
      · exact held hb
      · refine ⟨_, op, [], ⟨engine, ms, rfl⟩, run_append_singleton, creates, fun part hp => ?_⟩
        rw [List.prefix_nil.1 hp]
        exact hm'

end History

end Switchboard
