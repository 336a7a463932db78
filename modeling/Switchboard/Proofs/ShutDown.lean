import Switchboard.Proofs.Ledger
import Switchboard.Trial.Engine

/-!
# Shutting down

An engine is shut down once for each handle it gave, by the operation with which the last reference
to its context ends. Shutting down by hand is refused unless the instance is the only reference to
its context (`Session.OnlyReference`), and a refusal gives up that one reference and does nothing
else: operations on the other references go on as if nothing had happened (`Operation.run_aside`).
-/

namespace Switchboard

variable {σ : Type} {E : Engine σ}

/-! ## The only reference -/

namespace Session

/-- Nothing refers to a context, but perhaps the instance in a slot. -/
def OnlyReference (s : Session σ) (name : String) (k : ℕ) : Prop :=
  (∀ other i, s.instances.get? other = some i → i.context.number = k → other = name) ∧
    ∀ other m, s.messages.get? other = some m → m.context.number ≠ k

variable {s : Session σ} {name : String} {k : ℕ}

theorem onlyReference_iff :
    s.OnlyReference name k ↔ { s with instances := s.instances.erase name }.holders k = 0 := by
  rw [holders, Nat.add_eq_zero_iff, List.countP_eq_zero, List.countP_eq_zero]
  simp only [decide_eq_true_eq, Slots.mem_values_iff, Slots.get?_erase_eq_some_iff]
  constructor
  · rintro ⟨hi, hm⟩
    refine ⟨?_, ?_⟩
    · rintro i ⟨other, hne, ho⟩ hk
      exact hne (hi other i ho hk)
    · rintro m ⟨other, ho⟩
      exact hm other m ho
  · rintro ⟨hi, hm⟩
    refine ⟨fun other i ho hk => ?_, fun other m ho => hm m ⟨other, ho⟩⟩
    by_contra hne
    exact hi i ⟨other, hne, ho⟩ hk

end Session

/-! ## Operations aside -/

/-- Two outcomes are the same to the user and to the engine. -/
def Done.Same {α : Type} (d e : Done σ α) : Prop :=
  d.value = e.value ∧ d.trace = e.trace

theorem Done.Same.bind {α β : Type} {m : Action σ α} {f : α → Action σ β} {s s' : Session σ}
    (hm : (m s').Same (m s))
    (hf : (f (m s').value (m s').session).Same (f (m s).value (m s).session)) :
    ((m >>= f) s').Same ((m >>= f) s) := by
  rw [Action.bind_apply, Action.bind_apply, Done.Same, hm.2, hf.1, hf.2]
  exact ⟨rfl, rfl⟩

/-- An action has to do with the engine only. -/
def EngineOnly {α : Type} (m : Action σ α) : Prop :=
  ∀ e, ∃ value trace engine, ∀ s : Session σ, s.engine = e → m s = ⟨value, trace, { s with engine }⟩

theorem Instance.getMessage_engineOnly (i : Instance) (wait : Duration) :
    EngineOnly (i.getMessage E wait) := by
  intro e
  rcases call : E.getMessage i.context.handle wait.timeout e with ⟨a, engine⟩
  by_cases ha : a = 0
  · subst ha
    exact ⟨_, _, engine, fun s hs => getMessage_of_null (hs ▸ call)⟩
  · exact ⟨_, _, engine, fun s hs => getMessage_of_message (hs ▸ call) ha⟩

theorem Instance.sendAddress_engineOnly (i : Instance) (message : Address) :
    EngineOnly (i.sendAddress E message) := by
  intro e
  rcases call : E.sendMessage i.context.handle message e with ⟨a, engine⟩
  by_cases ha : a = 0
  · subst ha
    exact ⟨_, _, engine, fun s hs => sendAddress_of_null (hs ▸ call)⟩
  · exact ⟨_, _, engine, fun s hs => sendAddress_of_message (hs ▸ call) ha⟩

section Aside

variable {s s' : Session σ} {into : String}

theorem keepInstance_same (r : Except Error Instance) (hs : s.instances.get? into = none)
    (hs' : s'.instances.get? into = none) :
    (keepInstance E into r s').Same (keepInstance E into r s) := by
  cases r with
  | error e => exact ⟨rfl, rfl⟩
  | ok i => simp [keepInstance, storeInstance, hs, hs', Done.Same]

theorem keepMessage_same (r : Except Error Message) (hs : s.messages.get? into = none)
    (hs' : s'.messages.get? into = none) :
    (keepMessage E into r s').Same (keepMessage E into r s) := by
  cases r with
  | error e => exact ⟨rfl, rfl⟩
  | ok m => simp [keepMessage, storeMessage, hs, hs', Done.Same]

theorem withInstance_same {inst : String} {f : Instance → Action σ (Except Refusal Answer)}
    (hi : s'.instances.get? inst = s.instances.get? inst) (hf : ∀ i, (f i s').Same (f i s)) :
    (withInstance inst f s').Same (withInstance inst f s) := by
  cases h : s.instances.get? inst with
  | none =>
    rw [withInstance_none h, withInstance_none (hi.trans h)]
    exact ⟨rfl, rfl⟩
  | some i =>
    rw [withInstance_some h, withInstance_some (hi.trans h)]
    exact hf i

theorem withMessage_same {message : String} {f : Message → Action σ (Except Refusal Answer)}
    (hm : s'.messages = s.messages) (hf : ∀ m, (f m s').Same (f m s)) :
    (withMessage message f s').Same (withMessage message f s) := by
  cases h : s.messages.get? message with
  | none =>
    rw [withMessage_none h, withMessage_none (hm ▸ h)]
    exact ⟨rfl, rfl⟩
  | some m =>
    rw [withMessage_some h, withMessage_some (hm ▸ h)]
    exact hf m

theorem withAddress_same {source : AddressSource}
    {f : Address → Action σ (Except Refusal Answer)} (hk : s'.kept = s.kept)
    (hf : ∀ a, (f a s').Same (f a s)) :
    (withAddress source f s').Same (withAddress source f s) := by
  cases source with
  | address a => exact hf a
  | slot name =>
    cases h : s.kept.get? name with
    | none =>
      have h' : s'.kept.get? name = none := hk ▸ h
      simp [withAddress, h, h', Done.Same]
    | some a =>
      have h' : s'.kept.get? name = some a := hk ▸ h
      simpa [withAddress, h, h'] using hf a

variable (he : s'.engine = s.engine)

include he

theorem Instance.initialise_same (hm : s'.made = s.made) (requested : UInt32) (options : String)
    (hs : s.instances.get? into = none) (hs' : s'.instances.get? into = none) :
    ((Instance.initialise E requested options >>= keepInstance E into) s').Same
      ((Instance.initialise E requested options >>= keepInstance E into) s) := by
  cases h : NulFault.find? (Utf8.encode options.toList) with
  | some fault =>
    refine Done.Same.bind ?_ ?_ <;> rw [initialise_of_nul h, initialise_of_nul h]
    · exact ⟨rfl, rfl⟩
    · exact keepInstance_same _ hs hs'
  | none =>
    rcases call : E.initialise requested options s.engine with ⟨answer, engine⟩
    have call' := call
    rw [← he] at call'
    by_cases ha : answer.handle = 0
    · refine Done.Same.bind ?_ ?_ <;>
        rw [initialise_of_null h call ha, initialise_of_null h call' ha]
      · exact ⟨rfl, rfl⟩
      · exact keepInstance_same _ hs hs'
    · refine Done.Same.bind ?_ ?_ <;>
        rw [initialise_of_handle h call ha, initialise_of_handle h call' ha, hm]
      · exact ⟨rfl, rfl⟩
      · exact keepInstance_same _ hs hs'

/-- A message from the engine is stored the same way whatever else the session holds. -/
theorem keepMessage_same_of_engineOnly {m : Action σ (Except Error Message)} (hm : EngineOnly m)
    (hs : s.messages.get? into = none) (hs' : s'.messages.get? into = none) :
    ((m >>= keepMessage E into) s').Same ((m >>= keepMessage E into) s) := by
  obtain ⟨value, trace, engine, h⟩ := hm s.engine
  refine Done.Same.bind ?_ ?_ <;> rw [h s rfl, h s' he]
  · exact ⟨rfl, rfl⟩
  · exact keepMessage_same _ hs hs'

end Aside

namespace Operation

/-- An operation that uses no instance in a given slot, and lets go of nothing. -/
def Aside (s : Session σ) (name : String) : Operation → Prop
  | initialise into _ _ | initialiseWith into _ => s.instances.get? into = none
  | share inst into => inst ≠ name ∧ s.instances.get? into = none
  | version inst | handle inst | showInstance inst _ => inst ≠ name
  | getMessage inst _ into | send inst _ into | sendAddress _ inst into | takeBack _ inst into =>
    inst ≠ name ∧ s.messages.get? into = none
  | address _ | showMessage _ _ => True
  | discardInstance _ | shutDown _ | discardMessage _ | giveAway _ _ => False

/-- Emptying a slot makes no difference to the operations aside from it. -/
theorem run_aside {s : Session σ} {name : String} {op : Operation} (h : op.Aside s name) :
    (op.run E { s with instances := s.instances.erase name }).Same (op.run E s) := by
  have he : ({ s with instances := s.instances.erase name } : Session σ).engine = s.engine := rfl
  have look {inst : String} (hne : inst ≠ name) :
      (s.instances.erase name).get? inst = s.instances.get? inst := Slots.get?_erase_of_ne hne
  have free {into : String} (hf : s.instances.get? into = none) :
      (s.instances.erase name).get? into = none := by
    by_cases hn : into = name
    · rw [hn, Slots.get?_erase_self]
    · rw [look hn, hf]
  cases op with
  | initialise into requested options =>
    exact Instance.initialise_same he rfl requested options h (free h)
  | initialiseWith into options =>
    simp only [run, Instance.initialiseWith]
    cases options.render with
    | error e => exact ⟨rfl, rfl⟩
    | ok text => exact Instance.initialise_same he rfl interfaceVersion text h (free h)
  | share inst into =>
    exact withInstance_same (look h.1) fun i => keepInstance_same _ h.2 (free h.2)
  | version inst => exact withInstance_same (look h) fun i => ⟨rfl, rfl⟩
  | handle inst => exact withInstance_same (look h) fun i => ⟨rfl, rfl⟩
  | showInstance inst pretty => exact withInstance_same (look h) fun i => ⟨rfl, rfl⟩
  | getMessage inst wait into =>
    refine withInstance_same (look h.1) fun i => ?_
    exact keepMessage_same_of_engineOnly he (i.getMessage_engineOnly wait) h.2 h.2
  | send inst message into =>
    refine withInstance_same (look h.1) fun i => withMessage_same rfl fun m => ?_
    exact keepMessage_same_of_engineOnly he (i.sendAddress_engineOnly m.address) h.2 h.2
  | sendAddress source inst into =>
    refine withAddress_same rfl fun a => withInstance_same (look h.1) fun i => ?_
    exact keepMessage_same_of_engineOnly he (i.sendAddress_engineOnly a) h.2 h.2
  | address message => exact withMessage_same rfl fun m => ⟨rfl, rfl⟩
  | showMessage message pretty => exact withMessage_same rfl fun m => ⟨rfl, rfl⟩
  | takeBack source inst into =>
    refine withAddress_same rfl fun a => withInstance_same (look h.1) fun i => ?_
    exact keepMessage_same _ h.2 h.2
  | discardInstance inst => exact h.elim
  | shutDown inst => exact h.elim
  | discardMessage message => exact h.elim
  | giveAway message into => exact h.elim

end Operation

/-! ## Exactly once -/

namespace History

variable {h : History σ}

/-- **An engine is shut down once for each handle it gave, with the last reference to it.** A
reference has the handle and the version of the opening with its number. While there is a reference
to the context of an opening, the context was not shut down; the operation that ends the last one
shuts it down, with the handle of the opening, and nothing shuts it down again. Nothing else is ever
shut down. -/
theorem shutDown_exactly_once (hr : Reached E h) :
    (∀ i ∈ h.session.instances.values,
      (openings h.calls)[i.context.number]? = some ⟨i.context.handle, i.context.version⟩) ∧
    (∀ m ∈ h.session.messages.values,
      (openings h.calls)[m.context.number]? = some ⟨m.context.handle, m.context.version⟩) ∧
    (∀ k, (openings h.calls)[k]? = none → shutDownsOf k h.calls = []) ∧
    ∀ k answer, (openings h.calls)[k]? = some answer →
      (h.session.holders k ≠ 0 → shutDownsOf k h.calls = []) ∧
      (∀ op : Operation, shutDownsOf k (op.run E h.session).trace.calls =
        if h.session.holders k ≠ 0 ∧ (op.run E h.session).session.holders k = 0
          then [answer.handle] else []) ∧
      (h.session.holders k = 0 → ∀ ms : List (Move σ),
        (h.run E ms).session.holders k = 0 ∧
          shutDownsOf k (h.run E ms).calls = [answer.handle]) := by
  refine ⟨fun i hi => ?_, fun m hm => ?_, fun k hk => ?_, fun k answer ha => ⟨?_, ?_, ?_⟩⟩
  · exact hr.ledger.opened _ (Session.context_mem_of_instance hi)
  · exact hr.ledger.opened _ (Session.context_mem_of_message hm)
  · rw [hr.ledger.shutDowns, hk]
    exact ite_self []
  · exact hr.shutDownsOf_of_holders_ne
  · exact hr.shutDownsOf_operation ha
  · intro hk ms
    have hk' := hr.holders_run_eq_zero ha hk ms
    exact ⟨hk', (hr.run ms).shutDownsOf_of_opening hk' (getElem?_openings_run ms ha)⟩

/-- A run with an instance in two slots and a message. -/
def sharing : History Trial.State :=
  (start {}).run Trial.engine
    [.operation (.initialise "first" 40 "sip"), .operation (.share "first" "second"),
      .outside fun e => e.push.2, .operation (.getMessage "first" (.ofMillis 0) "message")]

theorem reached_sharing : Reached Trial.engine sharing := ⟨_, _, rfl⟩

/-- Of the three references the message is the last to go. -/
theorem shutDown_with_last_message :
    let h := sharing.run Trial.engine
      [.operation (.shutDown "first"), .operation (.discardInstance "second")]
    Reached Trial.engine h ∧ (openings h.calls)[0]? = some ⟨16, 33⟩ ∧
      shutDownsOf 0 h.calls = [] ∧
      shutDownsOf 0 ((Operation.discardMessage "message").run Trial.engine h.session).trace.calls =
        [16] := by
  intro h
  have hr : Reached Trial.engine h := reached_sharing.run _
  have ha : (openings h.calls)[0]? = some ⟨16, 33⟩ := by decide
  obtain ⟨-, -, -, hs⟩ := shutDown_exactly_once hr
  refine ⟨hr, ha, (hs 0 _ ha).1 (by decide), ?_⟩
  rw [(hs 0 _ ha).2.1 (.discardMessage "message")]
  decide

/-! ## Shutting down by hand -/

/-- What an instance is told that shuts down the context to which it alone refers. -/
theorem Reached.run_shutDown_of_onlyReference {name : String} {i : Instance}
    (hi : h.session.instances.get? name = some i)
    (ho : h.session.OnlyReference name i.context.number) :
    ((Operation.shutDown name).run E h.session).value = .ok .nothing ∧
      ((Operation.shutDown name).run E h.session).trace.calls =
        [.shutDown i.context.number i.context.handle] := by
  rw [Operation.run_shutDown_last hi (Session.onlyReference_iff.1 ho)]
  exact ⟨rfl, rfl⟩

/-- **Shutting down by hand is refused if and only if the engine is shared, and a refusal does
nothing but give up the reference.** An instance that is the only reference to its context shuts it
down with one call. Any other one is told that it is in use: there is no call and no notice, the
slot of the instance is empty and all else as it was, and operations on the other references do what
they would have done. However the run goes on, the context is shut down once, with the end of its
last reference; and an instance that has become the only reference may shut it down by hand. -/
theorem shutDown_refused_iff_shared (hr : Reached E h) {name : String} {i : Instance}
    (hi : h.session.instances.get? name = some i) :
    (((Operation.shutDown name).run E h.session).value = .ok .nothing ↔
      h.session.OnlyReference name i.context.number) ∧
    (h.session.OnlyReference name i.context.number →
      ((Operation.shutDown name).run E h.session).trace.calls =
        [.shutDown i.context.number i.context.handle]) ∧
    (¬ h.session.OnlyReference name i.context.number →
      (Operation.shutDown name).run E h.session =
        ⟨.error (.failed .instanceInUse), {},
          { h.session with instances := h.session.instances.erase name }⟩ ∧
      (∀ other ≠ name,
        (h.session.instances.erase name).get? other = h.session.instances.get? other) ∧
      (∀ op : Operation, op.Aside h.session name →
        (op.run E { h.session with instances := h.session.instances.erase name }).Same
          (op.run E h.session)) ∧
      ∀ ms : List (Move σ), let h' := (h.step E (.operation (.shutDown name))).run E ms
        shutDownsOf i.context.number h'.calls =
          (if h'.session.holders i.context.number = 0 then [i.context.handle] else []) ∧
        ∀ other j, h'.session.instances.get? other = some j →
          j.context.number = i.context.number →
          h'.session.OnlyReference other i.context.number →
          ((Operation.shutDown other).run E h'.session).value = .ok .nothing ∧
            ((Operation.shutDown other).run E h'.session).trace.calls =
              [.shutDown i.context.number i.context.handle]) := by
  have ha := hr.ledger.opened _ (Session.context_mem_of_get?_instance hi)
  have refused (hn : ¬ h.session.OnlyReference name i.context.number) :=
    Operation.run_shutDown_shared (E := E) hi fun h₀ => hn (Session.onlyReference_iff.2 h₀)
  refine ⟨⟨fun hv => ?_, fun ho => (Reached.run_shutDown_of_onlyReference hi ho).1⟩,
    fun ho => (Reached.run_shutDown_of_onlyReference hi ho).2, fun hn =>
      ⟨refused hn, fun other hne => Slots.get?_erase_of_ne hne,
        fun op => Operation.run_aside, fun ms => ⟨?_, ?_⟩⟩⟩
  · by_contra hn
    rw [refused hn] at hv
    cases hv
  · have hr' := (hr.step (.operation (.shutDown name))).run ms
    have ha' := getElem?_openings_run (E := E) (.operation (.shutDown name) :: ms) ha
    by_cases hk : ((h.step E (.operation (.shutDown name))).run E ms).session.holders
        i.context.number = 0
    · rw [if_pos hk]
      exact hr'.shutDownsOf_of_opening hk ha'
    · rw [if_neg hk]
      exact hr'.shutDownsOf_of_holders_ne hk
  · intro other j hj hk ho
    have hr' := (hr.step (.operation (.shutDown name))).run ms
    have ha' := getElem?_openings_run (E := E) (.operation (.shutDown name) :: ms) ha
    have hj' := hr'.ledger.opened _ (Session.context_mem_of_get?_instance hj)
    have hh : j.context.handle = i.context.handle := by
      rw [hk] at hj'
      exact (Opening.mk.inj (Option.some.inj (hj'.symm.trans ha'))).1
    rw [← hk] at ho
    have := Reached.run_shutDown_of_onlyReference (E := E) hj ho
    rwa [hk, hh] at this

/-- The first of two instances is refused, and the second one shuts the engine down when the message
is gone. -/
theorem shutDown_refused_then_done :
    Reached Trial.engine sharing ∧ sharing.session.instances.get? "first" = some ⟨⟨0, 16, 33⟩⟩ ∧
      ((Operation.shutDown "first").run Trial.engine sharing.session).trace = {} ∧
      let h' := (sharing.step Trial.engine (.operation (.shutDown "first"))).run Trial.engine
        [.operation (.discardMessage "message")]
      ((Operation.shutDown "second").run Trial.engine h'.session).trace.calls =
        [.shutDown 0 16] := by
  have hi : sharing.session.instances.get? "first" = some ⟨⟨0, 16, 33⟩⟩ := by decide
  have hn : ¬ sharing.session.OnlyReference "first" 0 := by
    rw [Session.onlyReference_iff]
    decide
  obtain ⟨-, -, h⟩ := shutDown_refused_iff_shared reached_sharing hi
  obtain ⟨refused, -, -, later⟩ := h hn
  refine ⟨reached_sharing, hi, by rw [refused], ?_⟩
  refine ((later [.operation (.discardMessage "message")]).2 "second" ⟨⟨0, 16, 33⟩⟩ (by decide) rfl
    ?_).2
  rw [Session.onlyReference_iff]
  decide

end History

end Switchboard
