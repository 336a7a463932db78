import Switchboard.Proofs.Simulation
import Switchboard.Trial.Engine

/-!
# Where freed messages come from

An operation frees one message at most, the one in the slot that it empties or fills
(`Operation.inSlot_freed_run`), and what a session owns was given by the engine or taken back before
(`History.Reached.sourced`). So an address that came neither way is never freed, however often it is
sent.
-/

namespace Switchboard

variable {σ : Type} {E : Engine σ}

/-! ## The calls of instances -/

namespace Instance

/-- Starting asks the engine to initialise, if it asks anything. -/
theorem mem_calls_initialise {requested : UInt32} {options : String} {s : Session σ} {c : Call}
    (h : c ∈ (Instance.initialise E requested options s).trace.calls) :
    ∃ answer, c = .initialise requested options answer := by
  cases hn : NulFault.find? (Utf8.encode options.toList) with
  | some fault =>
    rw [initialise_of_nul hn] at h
    cases h
  | none =>
    rcases call : E.initialise requested options s.engine with ⟨answer, engine⟩
    by_cases ha : answer.handle = 0
    · rw [initialise_of_null hn call ha] at h
      exact ⟨answer, List.mem_singleton.1 h⟩
    · rw [initialise_of_handle hn call ha] at h
      exact ⟨answer, List.mem_singleton.1 h⟩

theorem mem_calls_initialiseWith {options : Options} {s : Session σ} {c : Call}
    (h : c ∈ (Instance.initialiseWith E options s).trace.calls) :
    ∃ requested text answer, c = .initialise requested text answer := by
  unfold Instance.initialiseWith at h
  cases ho : options.render with
  | error e =>
    rw [ho] at h
    cases h
  | ok text =>
    rw [ho] at h
    exact ⟨_, _, mem_calls_initialise h⟩

variable (i : Instance) (s : Session σ)

/-- Sending makes one call, and nothing changes but the engine. -/
theorem sendAddress_calls (message : Address) :
    (i.sendAddress E message s).trace.calls = [.sendMessage i.context.number i.context.handle
        message (E.sendMessage i.context.handle message s.engine).1] ∧
      (i.sendAddress E message s).session =
        { s with engine := (E.sendMessage i.context.handle message s.engine).2 } := by
  rcases call : E.sendMessage i.context.handle message s.engine with ⟨a, engine⟩
  by_cases ha : a = 0
  · subst ha
    rw [sendAddress_of_null call]
    exact ⟨rfl, rfl⟩
  · rw [sendAddress_of_message call ha]
    exact ⟨rfl, rfl⟩

theorem sendAddress_value (message : Address) :
    (i.sendAddress E message s).value =
      if (E.sendMessage i.context.handle message s.engine).1 = 0 then .error .sendFailed
      else .ok ⟨i.context, (E.sendMessage i.context.handle message s.engine).1⟩ := by
  rcases call : E.sendMessage i.context.handle message s.engine with ⟨a, engine⟩
  by_cases ha : a = 0
  · subst ha
    rw [sendAddress_of_null call, if_pos rfl]
  · rw [sendAddress_of_message call ha, if_neg ha]

/-- Getting makes one call, and nothing changes but the engine. -/
theorem getMessage_calls (wait : Duration) :
    (i.getMessage E wait s).trace.calls = [.getMessage i.context.number i.context.handle
        wait.timeout (E.getMessage i.context.handle wait.timeout s.engine).1] ∧
      (i.getMessage E wait s).session =
        { s with engine := (E.getMessage i.context.handle wait.timeout s.engine).2 } := by
  rcases call : E.getMessage i.context.handle wait.timeout s.engine with ⟨a, engine⟩
  by_cases ha : a = 0
  · subst ha
    rw [getMessage_of_null call]
    exact ⟨rfl, rfl⟩
  · rw [getMessage_of_message call ha]
    exact ⟨rfl, rfl⟩

theorem getMessage_value (wait : Duration) :
    (i.getMessage E wait s).value =
      if (E.getMessage i.context.handle wait.timeout s.engine).1 = 0 then .error .noMessage
      else .ok ⟨i.context, (E.getMessage i.context.handle wait.timeout s.engine).1⟩ := by
  rcases call : E.getMessage i.context.handle wait.timeout s.engine with ⟨a, engine⟩
  by_cases ha : a = 0
  · subst ha
    rw [getMessage_of_null call, if_pos rfl]
  · rw [getMessage_of_message call ha, if_neg ha]

end Instance

/-! ## What an operation frees -/

section Freeing

variable {s : Session σ} {into : String}

/-- The end of a reference does nothing, or it shuts the context down. -/
theorem Context.release_cases (c : Context) (s : Session σ) :
    c.release E s = ⟨(), {}, s⟩ ∨
      c.release E s = ⟨(), ⟨[.shutDown c.number c.handle], [.shuttingDown c.version]⟩,
        { s with engine := E.shutDown c.handle s.engine }⟩ := by
  by_cases h : s.holders c.number = 0
  · by_cases hc : c.handle = 0
    · simp [release, finish, hc]
    · exact .inr (release_last hc h)
  · exact .inl (release_shared h)

/-- Letting go changes nothing but the engine. -/
theorem Context.release_session (c : Context) (s : Session σ) :
    ∃ engine, (c.release E s).session = { s with engine } := by
  rcases c.release_cases (E := E) s with h | h <;> rw [h] <;> exact ⟨_, rfl⟩

theorem Message.discard_session (m : Message) (s : Session σ) :
    ∃ engine, (m.discard E s).session = { s with engine } := by
  by_cases hm : m.address = 0
  · obtain ⟨engine, he⟩ := m.context.release_session (E := E) s
    exact ⟨engine, by simpa [discard, free, hm] using he⟩
  · obtain ⟨engine, he⟩ := m.context.release_session (E := E)
      { s with engine := E.freeMessage m.address s.engine }
    exact ⟨engine, by simpa [discard, free_of_ne hm] using he⟩

/-- What is given away is taken out of its slot, and its address is kept. -/
theorem Operation.run_giveAway_session {message : String} {m : Message}
    (hm : s.messages.get? message = some m) (into : String) :
    ∃ engine, ((giveAway message into).run E s).session = { s with
      engine
      messages := s.messages.erase message
      kept := s.kept.insert into m.address } := by
  obtain ⟨engine, gone⟩ := Message.discard_session (E := E) { m with address := 0 }
    { s with messages := s.messages.erase message }
  exact ⟨engine, by simp [run_giveAway hm, Message.giveAway, gone]⟩

theorem storeInstance_of_none {i : Instance} (h : s.instances.get? into = none) :
    storeInstance E into i s = ⟨(), {}, { s with instances := s.instances.insert into i }⟩ := by
  simp [storeInstance, h]

/-- What is stored over is let go of, after the new instance was stored. -/
theorem storeInstance_of_some {i old : Instance} (h : s.instances.get? into = some old) :
    storeInstance E into i s = old.discard E { s with instances := s.instances.insert into i } := by
  simp [storeInstance, h]

theorem storeMessage_of_none {m : Message} (h : s.messages.get? into = none) :
    storeMessage E into m s = ⟨(), {}, { s with messages := s.messages.insert into m }⟩ := by
  simp [storeMessage, h]

/-- What is stored over is let go of, after the new message was stored. -/
theorem storeMessage_of_some {m old : Message} (h : s.messages.get? into = some old) :
    storeMessage E into m s = old.discard E { s with messages := s.messages.insert into m } := by
  simp [storeMessage, h]

/-- Storing changes nothing but the slot and the engine. -/
theorem storeInstance_session (into : String) (i : Instance) (s : Session σ) :
    ∃ engine, (storeInstance E into i s).session =
      { s with engine, instances := s.instances.insert into i } := by
  cases h : s.instances.get? into with
  | none => exact ⟨s.engine, by rw [storeInstance_of_none h]⟩
  | some old =>
    obtain ⟨engine, gone⟩ := old.context.release_session (E := E)
      { s with instances := s.instances.insert into i }
    exact ⟨engine, by rw [storeInstance_of_some h, Instance.discard, gone]⟩

theorem storeMessage_session (into : String) (m : Message) (s : Session σ) :
    ∃ engine, (storeMessage E into m s).session =
      { s with engine, messages := s.messages.insert into m } := by
  cases h : s.messages.get? into with
  | none => exact ⟨s.engine, by rw [storeMessage_of_none h]⟩
  | some old =>
    obtain ⟨engine, gone⟩ := old.discard_session (E := E)
      { s with messages := s.messages.insert into m }
    exact ⟨engine, by rw [storeMessage_of_some h, gone]⟩

theorem Context.freed_release (c : Context) (s : Session σ) :
    freed (c.release E s).trace.calls = [] := by
  rcases c.release_cases (E := E) s with h | h <;> rw [h] <;> rfl

theorem Message.freed_discard (m : Message) (s : Session σ) :
    freed (m.discard E s).trace.calls = if m.address = 0 then [] else [m.address] := by
  by_cases hm : m.address = 0
  · simp [discard, free, hm, Context.freed_release]
  · simp only [discard, Action.bind_apply, free_of_ne hm, Trace.calls_append, freed_append,
      Context.freed_release, List.append_nil, if_neg hm]
    rfl

theorem Message.freed_giveAway (m : Message) (s : Session σ) :
    freed (m.giveAway E s).trace.calls = [] := by
  simp [giveAway, freed_discard]

theorem freed_keepInstance (r : Except Error Instance) (s : Session σ) :
    freed (keepInstance E into r s).trace.calls = [] := by
  cases r with
  | error e => rfl
  | ok i =>
    cases h : s.instances.get? into with
    | none => simp [keepInstance, storeInstance, h, freed]
    | some old => simp [keepInstance, storeInstance, h, Instance.discard, Context.freed_release]

/-- Addresses are those of the message in a slot, if there is a slot and it holds one. -/
def Session.InSlot (s : Session σ) (slot : Option String) (l : List Address) : Prop :=
  ∀ a ∈ l, ∃ name ∈ slot, ∃ m, s.messages.get? name = some m ∧ m.address = a

theorem Session.inSlot_nil (slot : Option String) : s.InSlot slot [] :=
  fun _ ha => absurd ha List.not_mem_nil

theorem inSlot_freed_discard {name : String} {m : Message} (hm : s.messages.get? name = some m)
    (s' : Session σ) : s.InSlot (some name) (freed (m.discard E s').trace.calls) := by
  intro a ha
  rw [Message.freed_discard] at ha
  split at ha
  · cases ha
  · exact ⟨name, rfl, m, hm, (List.mem_singleton.1 ha).symm⟩

/-- Storing a message frees the one that was in the slot. -/
theorem inSlot_freed_keepMessage (r : Except Error Message) (s : Session σ) :
    s.InSlot (some into) (freed (keepMessage E into r s).trace.calls) := by
  cases r with
  | error e => exact Session.inSlot_nil _
  | ok m =>
    cases h : s.messages.get? into with
    | none => simpa [keepMessage, storeMessage, h, freed] using Session.inSlot_nil (some into)
    | some old =>
      have hd := inSlot_freed_discard (E := E) h { s with messages := s.messages.insert into m }
      simpa [keepMessage, storeMessage, h] using hd

/-- A message that the engine gives is stored after a call that frees nothing. -/
theorem inSlot_freed_bind {f : Action σ (Except Error Message)}
    (hf : freed (f s).trace.calls = []) (hs : (f s).session.messages = s.messages) :
    s.InSlot (some into) (freed ((f >>= keepMessage E into) s).trace.calls) := by
  rw [Action.bind_apply, Trace.calls_append, freed_append, hf, List.nil_append]
  intro a ha
  rw [← hs]
  exact inSlot_freed_keepMessage _ _ a ha

theorem Instance.inSlot_freed_getMessage (i : Instance) (wait : Duration) :
    s.InSlot (some into) (freed ((i.getMessage E wait >>= keepMessage E into) s).trace.calls) := by
  obtain ⟨hc, hs⟩ := i.getMessage_calls (E := E) s wait
  exact inSlot_freed_bind (by rw [hc]; rfl) (by rw [hs])

theorem Instance.inSlot_freed_sendAddress (i : Instance) (message : Address) :
    s.InSlot (some into)
      (freed ((i.sendAddress E message >>= keepMessage E into) s).trace.calls) := by
  obtain ⟨hc, hs⟩ := i.sendAddress_calls (E := E) s message
  exact inSlot_freed_bind (by rw [hc]; rfl) (by rw [hs])

theorem Instance.freed_initialise (requested : UInt32) (options : String) (s : Session σ) :
    freed (Instance.initialise E requested options s).trace.calls = [] := by
  refine List.filterMap_eq_nil_iff.2 fun call hc => ?_
  obtain ⟨answer, rfl⟩ := mem_calls_initialise hc
  rfl

theorem Instance.freed_initialiseWith (options : Options) (s : Session σ) :
    freed (Instance.initialiseWith E options s).trace.calls = [] := by
  refine List.filterMap_eq_nil_iff.2 fun call hc => ?_
  obtain ⟨requested, text, answer, rfl⟩ := mem_calls_initialiseWith hc
  rfl

end Freeing

section Looking

variable {s : Session σ} {name : String} {slot : Option String}

theorem withInstance_inSlot {f : Instance → Action σ (Except Refusal Answer)}
    (hf : ∀ i, s.InSlot slot (freed (f i s).trace.calls)) :
    s.InSlot slot (freed (withInstance name f s).trace.calls) := by
  rcases withInstance_cases name f s with h | ⟨i, -, h⟩ <;> rw [h]
  · exact Session.inSlot_nil slot
  · exact hf i

theorem withMessage_inSlot {f : Message → Action σ (Except Refusal Answer)}
    (hf : ∀ m, s.InSlot slot (freed (f m s).trace.calls)) :
    s.InSlot slot (freed (withMessage name f s).trace.calls) := by
  rcases withMessage_cases name f s with h | ⟨m, -, h⟩ <;> rw [h]
  · exact Session.inSlot_nil slot
  · exact hf m

theorem withAddress_inSlot {source : AddressSource}
    {f : Address → Action σ (Except Refusal Answer)}
    (hf : ∀ a, s.InSlot slot (freed (f a s).trace.calls)) :
    s.InSlot slot (freed (withAddress source f s).trace.calls) := by
  rcases withAddress_cases source f s with h | ⟨a, h⟩ <;> rw [h]
  · exact Session.inSlot_nil slot
  · exact hf a

end Looking

namespace Operation

/-- The slot whose message an operation lets go of, if it lets go of one: the slot that it empties,
or the one that it fills. -/
def emptied? : Operation → Option String
  | getMessage _ _ into | send _ _ into | sendAddress _ _ into | takeBack _ _ into => some into
  | discardMessage message => some message
  | _ => none

/-- An operation frees the message in the slot that it empties or fills, and nothing else. -/
theorem inSlot_freed_run (op : Operation) (s : Session σ) :
    s.InSlot op.emptied? (freed (op.run E s).trace.calls) := by
  -- the operations on references free nothing
  have nothing {l : List Address} (hl : l = []) : s.InSlot none l := by
    rw [hl]
    exact Session.inSlot_nil none
  cases op with
  | initialise into requested options =>
    refine nothing ?_
    rw [run, Action.bind_apply, Trace.calls_append, freed_append, Instance.freed_initialise,
      freed_keepInstance, List.append_nil]
  | initialiseWith into options =>
    refine nothing ?_
    rw [run, Action.bind_apply, Trace.calls_append, freed_append, Instance.freed_initialiseWith,
      freed_keepInstance, List.append_nil]
  | share inst into => exact withInstance_inSlot fun i => nothing (freed_keepInstance _ s)
  | version inst => exact withInstance_inSlot fun i => Session.inSlot_nil none
  | handle inst => exact withInstance_inSlot fun i => Session.inSlot_nil none
  | showInstance inst pretty => exact withInstance_inSlot fun i => Session.inSlot_nil none
  | discardInstance inst =>
    refine nothing ?_
    cases hi : s.instances.get? inst with
    | none => rw [run_discardInstance_none hi]; rfl
    | some i => rw [run_discardInstance hi]; exact Context.freed_release _ _
  | shutDown inst =>
    refine nothing ?_
    cases hi : s.instances.get? inst with
    | none => rw [run_shutDown_none hi]; rfl
    | some i =>
      by_cases h : { s with instances := s.instances.erase inst }.holders i.context.number = 0
      · rw [run_shutDown_last hi h]; rfl
      · rw [run_shutDown_shared hi h]; rfl
  | getMessage inst wait into => exact withInstance_inSlot fun i => i.inSlot_freed_getMessage wait
  | send inst message into =>
    exact withInstance_inSlot fun i => withMessage_inSlot fun m => i.inSlot_freed_sendAddress _
  | sendAddress source inst into =>
    exact withAddress_inSlot fun a => withInstance_inSlot fun i => i.inSlot_freed_sendAddress a
  | address message => exact withMessage_inSlot fun m => Session.inSlot_nil none
  | showMessage message pretty => exact withMessage_inSlot fun m => Session.inSlot_nil none
  | discardMessage message =>
    cases hm : s.messages.get? message with
    | none =>
      rw [run_discardMessage_none hm]
      exact Session.inSlot_nil _
    | some m =>
      rw [run_discardMessage hm]
      exact inSlot_freed_discard hm _
  | giveAway message into =>
    refine nothing ?_
    cases hm : s.messages.get? message with
    | none => rw [run_giveAway_none hm]; rfl
    | some m => rw [run_giveAway hm]; exact Message.freed_giveAway _ _
  | takeBack source inst into =>
    exact withAddress_inSlot fun a => withInstance_inSlot fun i => inSlot_freed_keepMessage _ s

end Operation

/-! ## Where an address comes from -/

/-- An address was given by the engine, or taken back. -/
def Handed (calls : List Call) (l : List Transfer) (a : Address) : Prop :=
  a ∈ delivered calls ∨ .taken a ∈ l

theorem Handed.append {calls more : List Call} {l l₁ : List Transfer} {a : Address}
    (h : Handed calls l a) : Handed (calls ++ more) (l ++ l₁) a := by
  rw [Handed, delivered_append]
  exact h.imp (List.mem_append_left _) (List.mem_append_left _)

/-- What is owned, and what was freed, was handed over before. -/
structure Sourced (calls : List Call) (l : List Transfer) (H : Holding σ) : Prop where
  owned : ∀ m ∈ H.owned, Handed calls l m.address
  freed : ∀ a ∈ freed calls, Handed calls l a

namespace Sourced

variable {calls more : List Call} {l l₁ : List Transfer} {H H₁ : Holding σ} {m : Message}

/-- Calls that free nothing leave what is owned with its source. -/
theorem skip (h : Sourced calls l H) (ho : H₁.owned ≤ H.owned) (hf : Switchboard.freed more = []) :
    Sourced (calls ++ more) (l ++ l₁) H₁ where
  owned m hm := (h.owned m (Multiset.mem_of_le ho hm)).append
  freed a ha := by
    rw [freed_append, hf, List.append_nil] at ha
    exact (h.freed a ha).append

/-- A new message comes with its source. -/
theorem gain (h : Sourced calls l H) (ho : H₁.owned = m ::ₘ H.owned)
    (hm : Handed (calls ++ more) (l ++ l₁) m.address) (hf : Switchboard.freed more = []) :
    Sourced (calls ++ more) (l ++ l₁) H₁ where
  owned := by
    rw [ho]
    exact Multiset.forall_mem_cons.2 ⟨hm, fun m hm => (h.owned m hm).append⟩
  freed := (h.skip (le_refl H.owned) hf).freed

theorem effect {t : Trace} (h : Sourced calls l H) (he : Effect E H t l₁ H₁) :
    Sourced (calls ++ t.calls) (l ++ l₁) H₁ := by
  have given {more : List Call} {a : Address} (ha : a ∈ delivered more) :
      Handed (calls ++ more) (l ++ []) a :=
    .inl (by rw [delivered_append]; exact List.mem_append_right _ ha)
  cases he with
  | opened call ne => exact h.skip (le_refl _) rfl
  | refused call eq => exact h.skip (le_refl _) rfl
  | shared mem => exact h.skip (le_refl _) rfl
  | received mem call ne =>
    exact h.gain rfl (given (by simp [delivered, Call.delivered?, ne])) rfl
  | missed mem call => exact h.skip (le_refl _) rfl
  | responded mem call ne =>
    exact h.gain rfl (given (by simp [delivered, Call.delivered?, ne])) rfl
  | unanswered mem call => exact h.skip (le_refl _) rfl
  | tookBack mem ne =>
    exact h.gain rfl (.inr (List.mem_append_right _ (List.mem_singleton_self _))) rfl
  | @freed H m =>
    refine ⟨fun d hd => (h.owned d (Multiset.mem_cons_of_mem hd)).append, fun a ha => ?_⟩
    rw [freed_append] at ha
    rcases List.mem_append.1 ha with ha | ha
    · exact (h.freed a ha).append
    · rw [List.mem_singleton.1 ha]
      exact (h.owned m (Multiset.mem_cons_self ..)).append
  | gaveAway => exact h.skip (Multiset.le_cons_self ..) rfl
  | left held => exact h.skip (le_refl _) rfl
  | ended last => exact h.skip (le_refl _) rfl

end Sourced

namespace History

variable {h : History σ}

/-- What a run owns and what it freed was handed over before. -/
theorem Reached.sourced (hr : Reached E h) : Sourced h.calls h.transfers h.session.holding := by
  obtain ⟨engine, ms, rfl⟩ := hr
  exact (effect_induction (P := fun t l H => Sourced t.calls l H) (sound_start engine)
    ⟨fun m hm => absurd hm (Multiset.notMem_zero m), fun a ha => absurd ha List.not_mem_nil⟩
    (fun _ h he => h.effect he) fun f _ h => ⟨h.owned, h.freed⟩).2

/-- **Only what the engine gave or what was taken back is freed.** What an operation frees was in
the slot that it empties or fills, and the engine gave it, or it was taken back, in an earlier move.
So an address that came neither way is not freed, however often it was sent and whatever was let go
of. Sending a message makes the one call for it and changes nothing but the engine, so the message
stays in its slot. -/
theorem freed_only_if_handed (hr : Reached E h) :
    (∀ op : Operation, ∀ a ∈ freed (op.run E h.session).trace.calls,
      (∃ name ∈ op.emptied?, ∃ m, h.session.messages.get? name = some m ∧ m.address = a) ∧
        (a ∈ delivered h.calls ∨ .taken a ∈ h.transfers)) ∧
    (∀ p, p ∉ delivered h.calls → .taken p ∉ h.transfers → p ∉ freed h.calls) ∧
    ∀ (i : Instance) (m : Message),
      (i.send E m h.session).trace.calls = [.sendMessage i.context.number i.context.handle
          m.address (E.sendMessage i.context.handle m.address h.session.engine).1] ∧
        (i.send E m h.session).session = { h.session with
          engine := (E.sendMessage i.context.handle m.address h.session.engine).2 } := by
  refine ⟨fun op a ha => ?_, fun p hd ht hf => ?_, fun i m => ?_⟩
  · obtain ⟨name, hn, m, hm, rfl⟩ := op.inSlot_freed_run h.session a ha
    exact ⟨⟨name, hn, m, hm, rfl⟩, hr.sourced.owned m (Session.mem_owned_of_get? hm)⟩
  · rcases hr.sourced.freed p hf with h | h
    · exact hd h
    · exact ht h
  · exact i.sendAddress_calls h.session m.address

/-- An address of the caller is sent twice, the second time in vain, and everything is let go of. -/
def lentAddress : History Trial.State :=
  (start {}).run Trial.engine
    [.operation (.initialise "inst" 33 "sip"),
      .operation (.sendAddress (.address 4096) "inst" "response"),
      .outside fun e => { e with settings := { e.settings with failSends := true } },
      .operation (.sendAddress (.address 4096) "inst" "other"),
      .operation (.giveAway "response" "kept"),
      .operation (.takeBack (.slot "kept") "inst" "again"),
      .operation (.discardInstance "inst")]

/-- The response is what is freed in the end, and the address of the caller is not. -/
theorem lentAddress_not_freed :
    Reached Trial.engine lentAddress ∧ 4096 ∉ delivered lentAddress.calls ∧
      .taken 4096 ∉ lentAddress.transfers ∧ 4096 ∉ freed lentAddress.calls ∧
      freed ((Operation.discardMessage "again").run Trial.engine lentAddress.session).trace.calls =
        [32] ∧
      (32 ∈ delivered lentAddress.calls ∨ .taken 32 ∈ lentAddress.transfers) := by
  have hr : Reached Trial.engine lentAddress := ⟨_, _, rfl⟩
  have hd : 4096 ∉ delivered lentAddress.calls := by decide
  have ht : .taken 4096 ∉ lentAddress.transfers := by decide
  have hf : freed ((Operation.discardMessage "again").run Trial.engine
      lentAddress.session).trace.calls = [32] := by decide
  obtain ⟨run, lent, -⟩ := freed_only_if_handed hr
  refine ⟨hr, hd, ht, lent 4096 hd ht, hf, ?_⟩
  exact (run (.discardMessage "again") 32 (by rw [hf]; decide)).2

end History

end Switchboard
