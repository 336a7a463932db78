import Switchboard.Proofs.Effect
import Switchboard.Proofs.Slots

/-!
# Operations are series of effects

Each operation of a session is a series of effects on its holding (`Operation.effects`): an effect
that makes a reference, if the operation makes one, and then the effects that end the reference it
took or stored over. What is let go of is in no slot while it ends; the holding still has it, which
is why the statements about letting go start from a holding with one reference more. From this
follows what every run keeps (`History.effect_induction`).
-/

namespace Switchboard

variable {σ : Type} {E : Engine σ}

/-! ## Slots and the holding -/

namespace Holding

variable {H : Holding σ}

theorem add_comm (c d : Context) : (H.add c).add d = (H.add d).add c := by
  simp only [add, Multiset.cons_swap]

theorem own_comm (m n : Message) : (H.own m).own n = (H.own n).own m := by
  simp only [own, Multiset.cons_swap]

end Holding

namespace Session

variable {s : Session σ} {name : String}

theorem holding_insert_instance (s : Session σ) (name : String) (i : Instance) :
    { s with instances := s.instances.insert name i }.holding =
      { s with instances := s.instances.erase name }.holding.add i.context := by
  simp only [holding, Holding.add, Slots.coe_values_insert, Multiset.map_cons, Multiset.cons_add]

theorem holding_erase_instance {i : Instance} (h : s.instances.get? name = some i) :
    s.holding = { s with instances := s.instances.erase name }.holding.add i.context := by
  simp only [holding, Holding.add, Slots.coe_values_of_get? h, Multiset.map_cons,
    Multiset.cons_add]

theorem holding_insert_message (s : Session σ) (name : String) (m : Message) :
    { s with messages := s.messages.insert name m }.holding =
      { s with messages := s.messages.erase name }.holding.own m := by
  simp only [holding, Holding.own, Slots.coe_values_insert, Multiset.map_cons, Multiset.add_cons]

theorem holding_erase_message {m : Message} (h : s.messages.get? name = some m) :
    s.holding = { s with messages := s.messages.erase name }.holding.own m := by
  simp only [holding, Holding.own, Slots.coe_values_of_get? h, Multiset.map_cons,
    Multiset.add_cons]

theorem context_mem_of_get?_instance {i : Instance} (h : s.instances.get? name = some i) :
    i.context ∈ s.holding.references :=
  context_mem_of_instance (Slots.mem_values_iff.2 ⟨name, h⟩)

theorem context_mem_of_get?_message {m : Message} (h : s.messages.get? name = some m) :
    m.context ∈ s.holding.references :=
  context_mem_of_message (Slots.mem_values_iff.2 ⟨name, h⟩)

theorem mem_owned_of_get? {m : Message} (h : s.messages.get? name = some m) :
    m ∈ s.holding.owned :=
  Multiset.mem_coe.2 (Slots.mem_values_iff.2 ⟨name, h⟩)

/-- The same references to a context are as many. -/
theorem holders_congr {s' : Session σ} {k : ℕ}
    (hi : s.instances.SameOn (fun i => i.context.number = k) s'.instances)
    (hm : s.messages.SameOn (fun m => m.context.number = k) s'.messages) :
    s'.holders k = s.holders k := by
  rw [holders, hi.countP_values, hm.countP_values, holders]

/-- Without an instance there is one reference less to its context. -/
theorem holders_erase_instance {i : Instance} (hi : s.instances.get? name = some i) :
    { s with instances := s.instances.erase name }.holders i.context.number + 1 =
      s.holders i.context.number := by
  rw [← holders_holding (s := s), holding_erase_instance hi, Holding.holders_add, if_pos rfl,
    holders_holding]

/-- Without a message there is one reference less to its context. -/
theorem holders_erase_message {m : Message} (hm : s.messages.get? name = some m) :
    { s with messages := s.messages.erase name }.holders m.context.number + 1 =
      s.holders m.context.number := by
  rw [← holders_holding (s := s), holding_erase_message hm, Holding.holders_own, if_pos rfl,
    holders_holding]

/-- A message in an empty slot is one reference more to its context. -/
theorem holders_insert_message (h : s.messages.get? name = none) (m : Message) (k : ℕ) :
    { s with messages := s.messages.insert name m }.holders k =
      s.holders k + if m.context.number = k then 1 else 0 := by
  rw [← holders_holding, holding_insert_message, Slots.erase_of_get?_none h, Holding.holders_own,
    holders_holding]

/-- An instance is the only reference to its context if nothing is left without it. -/
theorem holders_eq_one_iff_instance {i : Instance} (hi : s.instances.get? name = some i) :
    s.holders i.context.number = 1 ↔
      { s with instances := s.instances.erase name }.holders i.context.number = 0 := by
  rw [← holders_erase_instance hi]
  exact Nat.succ_inj

/-- A message is the only reference to its context if nothing is left without it. -/
theorem holders_eq_one_iff_message {m : Message} (hm : s.messages.get? name = some m) :
    s.holders m.context.number = 1 ↔
      { s with messages := s.messages.erase name }.holders m.context.number = 0 := by
  rw [← holders_erase_message hm]
  exact Nat.succ_inj

end Session

/-! ## Letting go -/

namespace Context

variable {c : Context}

theorem release_effects (hc : c.handle ≠ 0) (s : Session σ) :
    Effects E (s.holding.add c) (c.release E s).trace [] (c.release E s).session.holding := by
  by_cases h : s.holders c.number = 0
  · rw [release_last hc h]
    exact (Effect.ended (Session.holders_holding.trans h)).effects
  · rw [release_shared h]
    exact (Effect.left (Session.holders_holding.trans_ne h)).effects

end Context

theorem Message.discard_effects {m : Message} (hc : m.context.handle ≠ 0) (hm : m.address ≠ 0)
    (s : Session σ) :
    Effects E (s.holding.own m) (m.discard E s).trace [] (m.discard E s).session.holding := by
  simp only [discard, Action.bind_apply, free_of_ne hm]
  exact Effect.freed.effects.trans
    (Context.release_effects hc { s with engine := E.freeMessage m.address s.engine })

theorem Message.giveAway_effects {m : Message} (hc : m.context.handle ≠ 0) (s : Session σ) :
    Effects E (s.holding.own m) (m.giveAway E s).trace [.given m.address]
      (m.giveAway E s).session.holding := by
  simp only [giveAway, discard, free, Action.bind_apply, if_pos, Action.pure_apply,
    Trace.empty_append, Trace.append_empty]
  exact Effect.gaveAway.effects.trans (Context.release_effects hc s)

/-! ## Storing -/

variable {s : Session σ}

theorem storeInstance_effects (hs : s.holding.Sound) (name : String) (i : Instance) :
    Effects E (s.holding.add i.context) (storeInstance E name i s).trace []
      (storeInstance E name i s).session.holding := by
  have hi := Session.holding_insert_instance s name i
  simp only [storeInstance, Action.bind_apply, Action.read_apply, Action.change_apply,
    Trace.empty_append]
  cases hg : s.instances.get? name with
  | none =>
    rw [Slots.erase_of_get?_none hg] at hi
    rw [← hi]
    exact .nil
  | some old =>
    have ho := Session.holding_erase_instance hg
    rw [ho, Holding.add_comm, ← hi]
    exact Context.release_effects (hs.handle_ne _ (Session.context_mem_of_get?_instance hg)) _

theorem storeMessage_effects (hs : s.holding.Sound) (name : String) (m : Message) :
    Effects E (s.holding.own m) (storeMessage E name m s).trace []
      (storeMessage E name m s).session.holding := by
  have hm := Session.holding_insert_message s name m
  simp only [storeMessage, Action.bind_apply, Action.read_apply, Action.change_apply,
    Trace.empty_append]
  cases hg : s.messages.get? name with
  | none =>
    rw [Slots.erase_of_get?_none hg] at hm
    rw [← hm]
    exact .nil
  | some old =>
    have ho := Session.holding_erase_message hg
    rw [ho, Holding.own_comm, ← hm]
    exact Message.discard_effects (hs.handle_ne _ (Session.context_mem_of_get?_message hg))
      (hs.address_ne _ (Session.mem_owned_of_get? hg)) _

/-! ## New references -/

namespace Holding

/-- One reference more, if there is one. -/
def addResult (H : Holding σ) : Except Error Instance → Holding σ
  | .error _ => H
  | .ok i => H.add i.context

/-- One message more, if there is one. -/
def ownResult (H : Holding σ) : Except Error Message → Holding σ
  | .error _ => H
  | .ok m => H.own m

end Holding

theorem Instance.initialise_effects (requested : UInt32) (options : String) (s : Session σ) :
    Effects E s.holding (Instance.initialise E requested options s).trace []
      ((Instance.initialise E requested options s).session.holding.addResult
        (Instance.initialise E requested options s).value) := by
  cases h : NulFault.find? (Utf8.encode options.toList) with
  | some fault =>
    rw [initialise_of_nul h]
    exact .nil
  | none =>
    rcases call : E.initialise requested options s.engine with ⟨answer, engine⟩
    by_cases ha : answer.handle = 0
    · rw [initialise_of_null h call ha]
      exact (Effect.refused call ha).effects
    · rw [initialise_of_handle h call ha]
      exact (Effect.opened call ha).effects

theorem Instance.initialiseWith_effects (options : Options) (s : Session σ) :
    Effects E s.holding (Instance.initialiseWith E options s).trace []
      ((Instance.initialiseWith E options s).session.holding.addResult
        (Instance.initialiseWith E options s).value) := by
  unfold Instance.initialiseWith
  cases options.render with
  | error e => exact .nil
  | ok text => exact initialise_effects _ text s

theorem Instance.getMessage_effects {i : Instance} (hi : i.context ∈ s.holding.references)
    (wait : Duration) :
    Effects E s.holding (i.getMessage E wait s).trace []
      ((i.getMessage E wait s).session.holding.ownResult (i.getMessage E wait s).value) := by
  rcases call : E.getMessage i.context.handle wait.timeout s.engine with ⟨a, engine⟩
  by_cases ha : a = 0
  · subst ha
    rw [getMessage_of_null call]
    exact (Effect.missed hi call).effects
  · rw [getMessage_of_message call ha]
    exact (Effect.received hi call ha).effects

theorem Instance.sendAddress_effects {i : Instance} (hi : i.context ∈ s.holding.references)
    (message : Address) :
    Effects E s.holding (i.sendAddress E message s).trace []
      ((i.sendAddress E message s).session.holding.ownResult
        (i.sendAddress E message s).value) := by
  rcases call : E.sendMessage i.context.handle message s.engine with ⟨a, engine⟩
  by_cases ha : a = 0
  · subst ha
    rw [sendAddress_of_null call]
    exact (Effect.unanswered hi call).effects
  · rw [sendAddress_of_message call ha]
    exact (Effect.responded hi call ha).effects

theorem keepInstance_effects {r : Except Error Instance} (hs : (s.holding.addResult r).Sound)
    (into : String) :
    Effects E (s.holding.addResult r) (keepInstance E into r s).trace []
      (keepInstance E into r s).session.holding := by
  cases r with
  | error e => exact .nil
  | ok i =>
    have h := storeInstance_effects (E := E) (Holding.Sound.of_add hs) into i
    simpa [keepInstance, Holding.addResult] using h

theorem keepMessage_effects {r : Except Error Message} (hs : (s.holding.ownResult r).Sound)
    (into : String) :
    Effects E (s.holding.ownResult r) (keepMessage E into r s).trace []
      (keepMessage E into r s).session.holding := by
  cases r with
  | error e => exact .nil
  | ok m =>
    have h := storeMessage_effects (E := E) (Holding.Sound.of_own hs) into m
    simpa [keepMessage, Holding.ownResult] using h

/-! ## Operations -/

/-- An operation that looks an instance up does nothing if there is none. -/
theorem withInstance_effects {name : String} {f : Instance → Action σ (Except Refusal Answer)}
    {l : Except Refusal Answer → List Transfer} (hl : l (.error .noInstance) = [])
    (h : ∀ i, s.instances.get? name = some i →
      Effects E s.holding (f i s).trace (l (f i s).value) (f i s).session.holding) :
    Effects E s.holding (withInstance name f s).trace (l (withInstance name f s).value)
      (withInstance name f s).session.holding := by
  rcases withInstance_cases name f s with hw | ⟨i, hi, hw⟩
  · rw [hw, hl]
    exact .nil
  · rw [hw]
    exact h i hi

theorem withMessage_effects {name : String} {f : Message → Action σ (Except Refusal Answer)}
    (h : ∀ m, s.messages.get? name = some m →
      Effects E s.holding (f m s).trace [] (f m s).session.holding) :
    Effects E s.holding (withMessage name f s).trace [] (withMessage name f s).session.holding := by
  rcases withMessage_cases name f s with hw | ⟨m, hm, hw⟩
  · rw [hw]
    exact .nil
  · rw [hw]
    exact h m hm

theorem withAddress_effects {source : AddressSource}
    {f : Address → Action σ (Except Refusal Answer)}
    {l : Except Refusal Answer → List Transfer} (hl : l (.error .noAddress) = [])
    (h : ∀ a, Effects E s.holding (f a s).trace (l (f a s).value) (f a s).session.holding) :
    Effects E s.holding (withAddress source f s).trace (l (withAddress source f s).value)
      (withAddress source f s).session.holding := by
  rcases withAddress_cases source f s with hw | ⟨a, hw⟩
  · rw [hw, hl]
    exact .nil
  · rw [hw]
    exact h a

/-- Every operation is a series of effects, which make the transfers that its result tells. -/
theorem Operation.effects (op : Operation) (hs : s.holding.Sound) :
    Effects E s.holding (op.run E s).trace (op.transfers (op.run E s).value)
      (op.run E s).session.holding := by
  cases op with
  | initialise into requested options =>
    have h := Instance.initialise_effects (E := E) requested options s
    exact h.trans (keepInstance_effects (hs.effects h) into)
  | initialiseWith into options =>
    have h := Instance.initialiseWith_effects (E := E) options s
    exact h.trans (keepInstance_effects (hs.effects h) into)
  | share inst into =>
    refine withInstance_effects (l := fun _ => []) rfl fun i hi => ?_
    have h : Effects E s.holding {} [] (s.holding.addResult (.ok i)) :=
      (Effect.shared (Session.context_mem_of_get?_instance hi)).effects
    exact h.trans (keepInstance_effects (hs.effects h) into)
  | version inst => exact withInstance_effects (l := fun _ => []) rfl fun i _ => .nil
  | handle inst => exact withInstance_effects (l := fun _ => []) rfl fun i _ => .nil
  | showInstance inst pretty => exact withInstance_effects (l := fun _ => []) rfl fun i _ => .nil
  | discardInstance inst =>
    cases hi : s.instances.get? inst with
    | none =>
      rw [run_discardInstance_none hi]
      exact .nil
    | some i =>
      rw [run_discardInstance hi, Session.holding_erase_instance hi]
      exact Context.release_effects (hs.handle_ne _ (Session.context_mem_of_get?_instance hi)) _
  | shutDown inst =>
    cases hi : s.instances.get? inst with
    | none =>
      rw [run_shutDown_none hi]
      exact .nil
    | some i =>
      by_cases h : { s with instances := s.instances.erase inst }.holders i.context.number = 0
      · rw [run_shutDown_last hi h, Session.holding_erase_instance hi]
        exact (Effect.ended (Session.holders_holding.trans h)).effects
      · rw [run_shutDown_shared hi h, Session.holding_erase_instance hi]
        exact (Effect.left (Session.holders_holding.trans_ne h)).effects
  | getMessage inst wait into =>
    refine withInstance_effects (l := fun _ => []) rfl fun i hi => ?_
    have h := Instance.getMessage_effects (E := E) (Session.context_mem_of_get?_instance hi) wait
    exact h.trans (keepMessage_effects (hs.effects h) into)
  | send inst message into =>
    refine withInstance_effects (l := fun _ => []) rfl fun i hi => ?_
    refine withMessage_effects fun m _ => ?_
    have h := Instance.sendAddress_effects (E := E) (Session.context_mem_of_get?_instance hi)
      m.address
    exact h.trans (keepMessage_effects (hs.effects h) into)
  | sendAddress source inst into =>
    refine withAddress_effects (l := fun _ => []) rfl fun a => ?_
    refine withInstance_effects (l := fun _ => []) rfl fun i hi => ?_
    have h := Instance.sendAddress_effects (E := E) (Session.context_mem_of_get?_instance hi) a
    exact h.trans (keepMessage_effects (hs.effects h) into)
  | address message => exact withMessage_effects fun m _ => .nil
  | showMessage message pretty => exact withMessage_effects fun m _ => .nil
  | discardMessage message =>
    cases hm : s.messages.get? message with
    | none =>
      rw [run_discardMessage_none hm]
      exact .nil
    | some m =>
      have hc := hs.handle_ne _ (Session.context_mem_of_get?_message hm)
      have ha := hs.address_ne _ (Session.mem_owned_of_get? hm)
      rw [run_discardMessage hm, Session.holding_erase_message hm]
      exact Message.discard_effects hc ha _
  | giveAway message into =>
    cases hm : s.messages.get? message with
    | none =>
      rw [run_giveAway_none hm]
      exact .nil
    | some m =>
      have hc := hs.handle_ne _ (Session.context_mem_of_get?_message hm)
      rw [run_giveAway hm, Session.holding_erase_message hm]
      exact Message.giveAway_effects hc _
  | takeBack source inst into =>
    refine withAddress_effects (l := Operation.transfers (.takeBack source inst into)) rfl
      fun a => ?_
    refine withInstance_effects (l := Operation.transfers (.takeBack source inst into)) rfl
      fun i hi => ?_
    -- a null address is refused, and then nothing is taken back
    by_cases ha : a = 0
    · simp only [Message.takeBack, if_pos ha]
      exact .nil
    · have h : Effects E s.holding {} [.taken a] (s.holding.ownResult (.ok ⟨i.context, a⟩)) :=
        (Effect.tookBack (Session.context_mem_of_get?_instance hi) ha).effects
      simp only [Message.takeBack, if_neg ha]
      exact h.trans (keepMessage_effects (hs.effects h) into)

/-! ## Runs -/

namespace History

variable {h : History σ} {ms : List (Move σ)}

theorem transfers_step_operation (h : History σ) (op : Operation) :
    (h.step E (.operation op)).transfers =
      h.transfers ++ op.transfers (op.run E h.session).value := by
  simp only [transfers, step, List.flatMap_append, List.flatMap_cons, List.flatMap_nil,
    List.append_nil]

/-- What every effect keeps, and every change of the engine from outside that the run makes, holds
after the run, if it holds before. -/
theorem effect_induction {P : Trace → List Transfer → Holding σ → Prop}
    (sound : h.session.holding.Sound) (before : P h.trace h.transfers h.session.holding)
    (effect : ∀ {t l H t₁ l₁ H₁}, H.Sound → P t l H → Effect E H t₁ l₁ H₁ →
      P (t.append t₁) (l ++ l₁) H₁)
    (outside : ∀ {t l H} f, .outside f ∈ ms → P t l H → P t l { H with engine := f H.engine }) :
    (h.run E ms).session.holding.Sound ∧
      P (h.run E ms).trace (h.run E ms).transfers (h.run E ms).session.holding := by
  refine run_induction (P := fun h => h.session.holding.Sound ∧
    P h.trace h.transfers h.session.holding) ⟨sound, before⟩ fun h m hm ih => ?_
  cases m with
  | operation op =>
    -- an operation is many effects, and each of them needs the soundness left by the one before
    rw [transfers_step_operation]
    refine (Operation.effects op ih.1).keep (P := fun t l H => H.Sound ∧ P t l H) ?_ _ _ ih
    exact fun h he => ⟨h.1.effect he, effect h.1 h.2 he⟩
  | outside f => exact ⟨ih.1.engine _ _, outside f hm ih.2⟩

theorem sound_start (engine : σ) : (start engine).session.holding.Sound where
  handle_ne _ hc := absurd hc (Multiset.notMem_zero _)
  address_ne _ hm := absurd hm (Multiset.notMem_zero _)

/-- No session that a run has led to holds a null handle or a null message. -/
theorem Reached.sound (hr : Reached E h) : h.session.holding.Sound := by
  obtain ⟨engine, ms, rfl⟩ := hr
  exact (effect_induction (P := fun _ _ _ => True) (sound_start engine) trivial
    (fun _ _ _ => trivial) fun _ _ _ => trivial).1

/-- The calls of a run go on from those before it. -/
theorem calls_run (h : History σ) (ms : List (Move σ)) :
    ∃ more, (h.run E ms).calls = h.calls ++ more := by
  apply run_induction (P := fun h₁ => ∃ more, h₁.calls = h.calls ++ more) ⟨[], by simp⟩
  rintro h₁ m - ⟨more, hm⟩
  cases m with
  | operation op =>
    refine ⟨more ++ (op.run E h₁.session).trace.calls, ?_⟩
    rw [← List.append_assoc, ← hm]
    rfl
  | outside f => exact ⟨more, hm⟩

end History

end Switchboard
