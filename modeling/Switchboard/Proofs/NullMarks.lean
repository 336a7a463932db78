import Switchboard.Proofs.Frames

/-!
# Null marks what was released

Nothing that a session holds is null, and what it holds does not change. Null is a mark on a value
that comes to its end: the value was released before. All that releases something is the end of a
value, but for a shut down by hand, which calls the engine itself and leaves null behind; giving a
message away leaves null behind without a call. No other operation marks anything
(`Operation.pointer_eq_zero_iff_marks`).
-/

namespace Switchboard

variable {σ : Type} {E : Engine σ} {s : Session σ} {name into : String}

/-! ## Which endings are marked -/

theorem Context.pointer_ne_of_mem_endings {c : Context} {e : Ending} (hc : c.handle ≠ 0)
    (he : e ∈ c.endings s) : e.pointer ≠ 0 := by
  unfold endings at he
  split at he
  · rw [List.mem_singleton.1 he]
    exact hc
  · cases he

theorem Message.pointer_ne_of_mem_endings {m : Message} {e : Ending} (hc : m.context.handle ≠ 0)
    (hm : m.address ≠ 0) (he : e ∈ m.endings s) : e.pointer ≠ 0 := by
  rcases List.mem_cons.1 he with rfl | he
  · exact hm
  · exact Context.pointer_ne_of_mem_endings hc he

/-- Nothing was released before the endings, and none of them is marked. -/
structure Unmarked (d : Done σ Pending) : Prop where
  calls : ∀ call ∈ d.trace.calls, ¬ call.IsRelease
  endings : ∀ e ∈ d.value.endings, e.pointer ≠ 0

namespace Unmarked

/-- There is nothing to come to its end. -/
theorem nothing {p : Pending} (h : p.endings = []) : Unmarked (⟨p, {}, s⟩ : Done σ Pending) where
  calls := List.forall_mem_nil _
  endings := by
    rw [h]
    exact List.forall_mem_nil _

theorem bind {α : Type} {m : Action σ α} {f : α → Action σ Pending}
    (hm : ∀ call ∈ (m s).trace.calls, ¬ call.IsRelease)
    (hf : Unmarked (f (m s).value (m s).session)) : Unmarked ((m >>= f) s) where
  calls := List.forall_mem_append.2 ⟨hm, hf.calls⟩
  endings := hf.endings

theorem keepInstance (hs : s.holding.Sound) (r : Except Error Instance) :
    Unmarked (beginKeepInstance into r s) := by
  cases r with
  | error e => exact nothing rfl
  | ok i =>
    refine ⟨List.forall_mem_nil _, fun e he => ?_⟩
    cases h : s.instances.get? into with
    | none => simp [beginKeepInstance, h, Pending.endings] at he
    | some old =>
      have hc := hs.handle_ne _ (Session.context_mem_of_get?_instance h)
      simp only [beginKeepInstance, Action.bind_apply, Action.read_apply, Action.change_apply, h,
        Option.elim_some] at he
      exact Context.pointer_ne_of_mem_endings hc he

theorem keepMessage (hs : s.holding.Sound) (r : Except Error Message) :
    Unmarked (beginKeepMessage into r s) := by
  cases r with
  | error e => exact nothing rfl
  | ok m =>
    refine ⟨List.forall_mem_nil _, fun e he => ?_⟩
    cases h : s.messages.get? into with
    | none => simp [beginKeepMessage, h, Pending.endings] at he
    | some old =>
      have hc := hs.handle_ne _ (Session.context_mem_of_get?_message h)
      have hm := hs.address_ne _ (Session.mem_owned_of_get? h)
      simp only [beginKeepMessage, Action.bind_apply, Action.read_apply, Action.change_apply, h,
        Option.elim_some] at he
      exact Message.pointer_ne_of_mem_endings hc hm he

theorem looking_instance {f : Instance → Action σ Pending} (hf : ∀ i, Unmarked (f i s)) :
    Unmarked (withInstance name f s) := by
  rcases withInstance_cases name f s with h | ⟨i, -, h⟩ <;> rw [h]
  · exact nothing rfl
  · exact hf i

theorem looking_message {f : Message → Action σ Pending} (hf : ∀ m, Unmarked (f m s)) :
    Unmarked (withMessage name f s) := by
  rcases withMessage_cases name f s with h | ⟨m, -, h⟩ <;> rw [h]
  · exact nothing rfl
  · exact hf m

theorem looking_address {source : AddressSource} {f : Address → Action σ Pending}
    (hf : ∀ a, Unmarked (f a s)) : Unmarked (withAddress source f s) := by
  rcases withAddress_cases source f s with h | ⟨a, h⟩ <;> rw [h]
  · exact nothing rfl
  · exact hf a

theorem getMessage (hs : s.holding.Sound) (i : Instance) (wait : Duration) :
    Unmarked ((i.getMessage E wait >>= beginKeepMessage into) s) := by
  obtain ⟨calls, session⟩ := i.getMessage_calls (E := E) s wait
  refine bind ?_ ?_
  · rw [calls]
    exact List.forall_mem_singleton.2 id
  · rw [session]
    apply keepMessage
    exact hs.engine _ _

theorem sendAddress (hs : s.holding.Sound) (i : Instance) (message : Address) :
    Unmarked ((i.sendAddress E message >>= beginKeepMessage into) s) := by
  obtain ⟨calls, session⟩ := i.sendAddress_calls (E := E) s message
  refine bind ?_ ?_
  · rw [calls]
    exact List.forall_mem_singleton.2 id
  · rw [session]
    apply keepMessage
    exact hs.engine _ _

end Unmarked

namespace Operation

/-- An operation takes the pointer out of a value and leaves null behind: the handle when it shuts
down by hand, the address when it gives a message away. -/
def Marks : Operation → Ending → Prop
  | shutDown _, .context _ | giveAway .., .message _ => True
  | _, _ => False

/-- An operation that marks nothing releases nothing but by the end of a value. -/
theorem unmarked_begin (hs : s.holding.Sound) {op : Operation} (h : ∀ e, ¬ op.Marks e) :
    Unmarked (op.begin E s) := by
  cases op with
  | initialise into requested options =>
    obtain ⟨engine, made, hi⟩ := Instance.initialise_session (E := E) requested options s
    refine .bind (fun call hc => ?_) ?_
    · obtain ⟨answer, rfl⟩ := Instance.mem_calls_initialise hc
      exact id
    · rw [hi]
      apply Unmarked.keepInstance
      exact hs.engine _ _
  | initialiseWith into options =>
    obtain ⟨engine, made, hi⟩ := Instance.initialiseWith_session (E := E) options s
    refine .bind (fun call hc => ?_) ?_
    · obtain ⟨requested, text, answer, rfl⟩ := Instance.mem_calls_initialiseWith hc
      exact id
    · rw [hi]
      apply Unmarked.keepInstance
      exact hs.engine _ _
  | share inst into => exact .looking_instance fun i => .keepInstance hs _
  | version inst => exact .looking_instance fun i => .nothing rfl
  | handle inst => exact .looking_instance fun i => .nothing rfl
  | showInstance inst pretty => exact .looking_instance fun i => .nothing rfl
  | discardInstance inst =>
    cases hi : s.instances.get? inst with
    | none =>
      simp only [begin, Action.bind_apply, takeInstance_none hi]
      exact .nothing rfl
    | some i =>
      rw [begin_discardInstance hi]
      have hc := hs.handle_ne _ (Session.context_mem_of_get?_instance hi)
      exact ⟨List.forall_mem_nil _, fun e => Context.pointer_ne_of_mem_endings hc⟩
  | shutDown inst => exact absurd trivial (h (.context ⟨0, 0, 0⟩))
  | getMessage inst wait into => exact .looking_instance fun i => .getMessage hs i wait
  | send inst message into =>
    exact .looking_instance fun i => .looking_message fun m => .sendAddress hs i m.address
  | sendAddress source inst into =>
    exact .looking_address fun a => .looking_instance fun i => .sendAddress hs i a
  | address message => exact .looking_message fun m => .nothing rfl
  | showMessage message pretty => exact .looking_message fun m => .nothing rfl
  | discardMessage message =>
    cases hm : s.messages.get? message with
    | none =>
      simp only [begin, Action.bind_apply, takeMessage_none hm]
      exact .nothing rfl
    | some m =>
      rw [begin_discardMessage hm]
      have hc := hs.handle_ne _ (Session.context_mem_of_get?_message hm)
      have ha := hs.address_ne _ (Session.mem_owned_of_get? hm)
      exact ⟨List.forall_mem_nil _, fun e => Message.pointer_ne_of_mem_endings hc ha⟩
  | giveAway message into => exact absurd trivial (h (.message ⟨⟨0, 0, 0⟩, 0⟩))
  | takeBack source inst into =>
    exact .looking_address fun a => .looking_instance fun i => .keepMessage hs _

/-- What a shut down by hand does first: it calls the engine, and the context is marked; or it is
refused. -/
theorem begin_shutDown_cases (inst : String) (s : Session σ) :
    (((shutDown inst).begin E s).trace.calls = [] ∧ (shutDown inst).endings E s = [] ∧
      ∃ e, ((shutDown inst).begin E s).value = .error e) ∨
    ∃ i, s.instances.get? inst = some i ∧
      ((shutDown inst).begin E s).trace.calls = [.shutDown i.context.number i.context.handle] ∧
      (shutDown inst).endings E s = [.context { i.context with handle := 0 }] := by
  cases hi : s.instances.get? inst with
  | none => exact .inl (by simp [endings, begin, hi, Pending.endings])
  | some i =>
    rw [endings, begin_shutDown hi]
    by_cases last : { s with instances := s.instances.erase inst }.holders i.context.number = 0
    · exact .inr ⟨i, rfl, by simp [Instance.beginShutDown, last, Context.callShutDown,
        Pending.endings]⟩
    · exact .inl (by simp [Instance.beginShutDown, last, Pending.endings])

/-- What giving a message away does first: the message is marked; or it is refused. -/
theorem begin_giveAway_cases (message into : String) (s : Session σ) :
    ((giveAway message into).begin E s).trace.calls = [] ∧
      (((giveAway message into).endings E s = [] ∧
          ∃ e, ((giveAway message into).begin E s).value = .error e) ∨
        ∃ m, s.messages.get? message = some m ∧ ∃ s' : Session σ,
          (giveAway message into).endings E s =
            .message { m with address := 0 } :: m.context.endings s') := by
  cases hm : s.messages.get? message with
  | none => simp [endings, begin, hm, Pending.endings]
  | some m =>
    rw [endings, begin_giveAway hm]
    exact ⟨rfl, .inr ⟨m, rfl, _, rfl⟩⟩

/-- **The pointer of a value that comes to its end is null if and only if the operation took it
out.** -/
theorem pointer_eq_zero_iff_marks (hs : s.holding.Sound) {op : Operation} {e : Ending}
    (he : e ∈ op.endings E s) : e.pointer = 0 ↔ op.Marks e := by
  cases op with
  | shutDown inst =>
    rcases begin_shutDown_cases (E := E) inst s with ⟨-, none, -⟩ | ⟨i, -, -, ends⟩
    · rw [none] at he
      cases he
    · rw [ends, List.mem_singleton] at he
      subst he
      exact iff_of_true rfl trivial
  | giveAway message into =>
    obtain ⟨-, ⟨none, -⟩ | ⟨m, hm, s', ends⟩⟩ := begin_giveAway_cases (E := E) message into s
    · rw [none] at he
      cases he
    · rw [ends, List.mem_cons] at he
      rcases he with rfl | he
      · exact iff_of_true rfl trivial
      · have hc := hs.handle_ne _ (Session.context_mem_of_get?_message hm)
        refine iff_of_false (Context.pointer_ne_of_mem_endings hc he) ?_
        unfold Context.endings at he
        split at he
        · rw [List.mem_singleton.1 he]
          exact id
        · cases he
  | _ => exact iff_of_false ((unmarked_begin hs fun _ => id).endings e he) id

/-- What is released before the endings is the engine that is shut down by hand. -/
theorem shutDown_of_isRelease_begin (hs : s.holding.Sound) {op : Operation} {call : Call}
    (h : call ∈ (op.begin E s).trace.calls) (hc : call.IsRelease) :
    ∃ inst i, op = .shutDown inst ∧ s.instances.get? inst = some i ∧
      call = .shutDown i.context.number i.context.handle := by
  cases op with
  | shutDown inst =>
    rcases begin_shutDown_cases (E := E) inst s with ⟨none, -⟩ | ⟨i, hi, calls, -⟩
    · rw [none] at h
      cases h
    · rw [calls] at h
      exact ⟨inst, i, rfl, hi, List.mem_singleton.1 h⟩
  | giveAway message into =>
    rw [(begin_giveAway_cases message into s).1] at h
    cases h
  | _ => exact absurd hc ((unmarked_begin hs fun _ => id).calls call h)

/-- A value that is marked comes to its end in an operation if and only if the operation shuts down
by hand or gives a message away, and is not refused. -/
theorem exists_pointer_eq_zero_iff (hs : s.holding.Sound) (op : Operation) :
    (∃ e ∈ op.endings E s, e.pointer = 0) ↔
      (∃ answer, (op.run E s).value = .ok answer) ∧
        ((∃ inst, op = .shutDown inst) ∨ ∃ message into, op = .giveAway message into) := by
  constructor
  · rintro ⟨e, he, null⟩
    have marks := (pointer_eq_zero_iff_marks hs he).1 null
    refine ⟨?_, ?_⟩
    · rw [endings] at he
      cases hv : (op.begin E s).value with
      | error r =>
        rw [hv] at he
        cases he
      | ok p => exact ⟨p.1, value_run_eq_ok_iff.2 ⟨p.2, hv⟩⟩
    · cases op with
      | shutDown inst => exact .inl ⟨inst, rfl⟩
      | giveAway message into => exact .inr ⟨message, into, rfl⟩
      | _ => exact marks.elim
  · rintro ⟨⟨answer, ok⟩, ⟨inst, rfl⟩ | ⟨message, into, rfl⟩⟩ <;>
      obtain ⟨ends, begun⟩ := value_run_eq_ok_iff.1 ok
    · rcases begin_shutDown_cases (E := E) inst s with ⟨-, -, e, he⟩ | ⟨i, -, -, eq⟩
      · cases he.symm.trans begun
      · exact ⟨.context { i.context with handle := 0 }, by simp [eq], rfl⟩
    · obtain ⟨-, ⟨-, e, he⟩ | ⟨m, -, s', eq⟩⟩ := begin_giveAway_cases (E := E) message into s
      · cases he.symm.trans begun
      · exact ⟨.message { m with address := 0 }, by simp [eq], rfl⟩

/-! ### Which values come to their end -/

section Looking

variable {α : Type} {x : α}

theorem withInstance_of_ok {f : Instance → Action σ (Except Refusal α)}
    (h : (withInstance name f s).value = .ok x) :
    ∃ i, s.instances.get? name = some i ∧ (f i s).value = .ok x := by
  rcases withInstance_cases name f s with hw | ⟨i, hi, hw⟩ <;> rw [hw] at h
  · cases h
  · exact ⟨i, hi, h⟩

theorem withMessage_of_ok {f : Message → Action σ (Except Refusal α)}
    (h : (withMessage name f s).value = .ok x) :
    ∃ m, s.messages.get? name = some m ∧ (f m s).value = .ok x := by
  rcases withMessage_cases name f s with hw | ⟨m, hm, hw⟩ <;> rw [hw] at h
  · cases h
  · exact ⟨m, hm, h⟩

theorem withAddress_of_ok {source : AddressSource} {f : Address → Action σ (Except Refusal α)}
    (h : (withAddress source f s).value = .ok x) : ∃ a, (f a s).value = .ok x := by
  rcases withAddress_cases source f s with hw | ⟨a, hw⟩ <;> rw [hw] at h
  · cases h
  · exact ⟨a, h⟩

end Looking

/-- The message that is stored over comes to its end. -/
theorem message_mem_of_bind {f : Action σ (Except Error Message)} {old : Message} {answer : Answer}
    {ends : List Ending} (hs : (f s).session.messages = s.messages)
    (ho : s.messages.get? into = some old)
    (h : ((f >>= beginKeepMessage into) s).value = .ok (answer, ends)) : .message old ∈ ends := by
  rw [Action.bind_apply] at h
  cases hv : (f s).value with
  | error e =>
    rw [hv] at h
    cases h
  | ok m =>
    simp only [hv, beginKeepMessage, Action.bind_apply, Action.read_apply, Action.pure_apply, hs,
      ho, Option.elim_some] at h
    cases h
    exact List.mem_cons_self

/-- The message in a slot comes to its end if the slot is filled or emptied. It is marked if it is
given away. -/
theorem message_mem_endings {op : Operation} {m : Message} {answer : Answer}
    (hm : s.messages.get? name = some m) (hn : op.messageReplaced? = some name)
    (ok : (op.run E s).value = .ok answer) :
    .message m ∈ op.endings E s ∨
      (∃ into, op = .giveAway name into) ∧ .message { m with address := 0 } ∈ op.endings E s := by
  obtain ⟨ends, begun⟩ := value_run_eq_ok_iff.1 ok
  have eq : op.endings E s = ends := by
    rw [endings, begun]
    rfl
  rw [eq]
  have sent (i : Instance) (a : Address)
      (h : ((i.sendAddress E a >>= beginKeepMessage name) s).value = .ok (answer, ends)) :
      .message m ∈ ends :=
    message_mem_of_bind (by rw [(i.sendAddress_calls s a).2]) hm h
  cases op with
  | getMessage inst wait into =>
    cases hn
    obtain ⟨i, -, got⟩ := withInstance_of_ok begun
    exact .inl (message_mem_of_bind (by rw [(i.getMessage_calls s wait).2]) hm got)
  | send inst message into =>
    cases hn
    obtain ⟨i, -, found⟩ := withInstance_of_ok begun
    obtain ⟨x, -, response⟩ := withMessage_of_ok found
    exact .inl (sent i x.address response)
  | sendAddress source inst into =>
    cases hn
    obtain ⟨a, found⟩ := withAddress_of_ok begun
    obtain ⟨i, -, response⟩ := withInstance_of_ok found
    exact .inl (sent i a response)
  | discardMessage message =>
    cases hn
    rw [begin_discardMessage hm] at begun
    cases begun
    exact .inl List.mem_cons_self
  | giveAway message into =>
    cases hn
    rw [begin_giveAway hm] at begun
    cases begun
    exact .inr ⟨⟨into, rfl⟩, List.mem_cons_self⟩
  | takeBack source inst into =>
    cases hn
    obtain ⟨a, found⟩ := withAddress_of_ok begun
    obtain ⟨i, -, took⟩ := withInstance_of_ok found
    exact .inl (message_mem_of_bind (f := pure (Message.takeBack i a)) rfl hm took)
  | _ => cases hn

/-- A context is shut down in an operation if and only if it comes to its end in it. -/
theorem exists_shutDown_iff (hs : s.holding.Sound) (op : Operation) (k : ℕ) :
    (∃ a, .shutDown k a ∈ (op.run E s).trace.calls) ↔
      ∃ c, .context c ∈ op.endings E s ∧ c.number = k := by
  rw [calls_run]
  constructor
  · rintro ⟨a, ha⟩
    rcases List.mem_append.1 ha with ha | ha
    · obtain ⟨inst, i, rfl, hi, call⟩ := shutDown_of_isRelease_begin hs ha trivial
      rcases begin_shutDown_cases (E := E) inst s with ⟨none, -⟩ | ⟨j, hj, -, ends⟩
      · rw [none] at ha
        cases ha
      · cases hi.symm.trans hj
        cases call
        refine ⟨{ i.context with handle := 0 }, ?_, rfl⟩
        rw [ends]
        exact List.mem_singleton_self _
    · obtain ⟨e, he, call⟩ := List.mem_flatMap.1 ha
      unfold Ending.calls at call
      split at call
      · cases call
      · cases e with
        | context c =>
          cases List.mem_singleton.1 call
          exact ⟨c, he, rfl⟩
        | message m => cases List.mem_singleton.1 call
  · rintro ⟨c, hc, rfl⟩
    by_cases marks : op.Marks (.context c)
    · cases op with
      | shutDown inst =>
        rcases begin_shutDown_cases (E := E) inst s with ⟨-, none, -⟩ | ⟨i, -, calls, ends⟩
        · rw [none] at hc
          cases hc
        · rw [ends, List.mem_singleton] at hc
          cases hc
          exact ⟨i.context.handle, by simp [calls]⟩
      | _ => exact marks.elim
    · have ne : c.handle ≠ 0 := mt (pointer_eq_zero_iff_marks hs hc).1 marks
      refine ⟨c.handle, List.mem_append_right _ (List.mem_flatMap.2 ⟨_, hc, ?_⟩)⟩
      rw [Ending.calls, Ending.pointer, if_neg ne]
      exact List.mem_singleton_self _

end Operation

/-! ## Runs -/

namespace History

variable {h : History σ}

/-- A context does not change: what is referred to under its number later is the same. -/
theorem Reached.context_eq (hr : Reached E h) {c c' : Context} {ms : List (Move σ)}
    (hc : c ∈ h.session.holding.references) (hc' : c' ∈ (h.run E ms).session.holding.references)
    (hn : c'.number = c.number) : c' = c :=
  Context.eq_of_opened ((hr.run ms).ledger.opened c' hc')
    (getElem?_openings_run ms (hr.ledger.opened c hc)) hn

/-- A context comes to its end in the operation with which the last reference to it goes. -/
theorem Reached.context_mem_endings_iff (hr : Reached E h) {k : ℕ} {answer : Opening}
    (ha : (openings h.calls)[k]? = some answer) (op : Operation) :
    (∃ c, .context c ∈ op.endings E h.session ∧ c.number = k) ↔
      h.session.holders k ≠ 0 ∧ (op.run E h.session).session.holders k = 0 := by
  have calls := hr.shutDownsOf_operation ha op
  rw [← Operation.exists_shutDown_iff hr.sound]
  have mem (a : Address) : .shutDown k a ∈ (op.run E h.session).trace.calls ↔
      a ∈ shutDownsOf k (op.run E h.session).trace.calls := by
    refine Iff.trans ⟨fun hc => ⟨_, hc, if_pos rfl⟩, ?_⟩ List.mem_filterMap.symm
    rintro ⟨call, hc, eq⟩
    cases call with
    | shutDown context handle =>
      obtain ⟨rfl, same⟩ := Option.ite_none_right_eq_some.1 eq
      cases same
      exact hc
    | _ => cases eq
  simp only [mem, calls]
  split
  next last => exact iff_of_true ⟨_, List.mem_singleton_self _⟩ last
  next not => exact iff_of_false (fun ⟨_, hc⟩ => List.not_mem_nil hc) not

/-- What is sent from a slot is the message in the slot, and neither it nor the handle is null. -/
theorem Reached.ne_zero_of_sendMessage (hr : Reached E h) {inst message into : String} {k : ℕ}
    {a p b : Address}
    (hc : .sendMessage k a p b ∈
      ((Operation.send inst message into).run E h.session).trace.calls) :
    a ≠ 0 ∧ p ≠ 0 ∧ ∃ m, h.session.messages.get? message = some m ∧ p = m.address := by
  rw [Operation.calls_run] at hc
  rcases List.mem_append.1 hc with hc | hc
  swap
  · obtain ⟨e, -, he⟩ := List.mem_flatMap.1 hc
    exact (Ending.isRelease_of_mem_calls he).elim
  cases hi : h.session.instances.get? inst with
  | none =>
    rw [Operation.begin, withInstance_none hi] at hc
    cases hc
  | some i =>
    cases hm : h.session.messages.get? message with
    | none =>
      rw [Operation.begin, withInstance_some hi, withMessage_none hm] at hc
      cases hc
    | some m =>
      rw [Operation.begin, withInstance_some hi, withMessage_some hm, Action.bind_apply,
        Trace.calls_append, beginKeepMessage_trace, List.append_nil, Instance.send,
        (i.sendAddress_calls h.session m.address).1, List.mem_singleton] at hc
      cases hc
      exact ⟨hr.sound.handle_ne _ (Session.context_mem_of_get?_instance hi),
        hr.sound.address_ne _ (Session.mem_owned_of_get? hm), m, rfl, rfl⟩

/-- **Nothing that is held is null, and null marks only what was shut down by hand or given
away.** The context of an instance or a message has the handle that the engine gave when it was
initialised, which is not null, and it does not change. So an instance answers this handle, and it
stays in its slot until an operation fills or empties the slot. A message has an address that is not
null, the one that the engine gave to the operation that created it, or that was taken back; it
answers this address and has been in its slot since. What is sent from a slot is not null.

A value makes no call at its end if and only if its pointer is null. An operation is what it does
first, which releases nothing but the engine that is shut down by hand, and then the ends of values:
of each context to which the last reference goes, and of the message in the slot that is filled or
emptied. One of these has a null pointer if and only if it is the context that was shut down by hand
or the message that was given away, and there is one whenever either was not refused. -/
theorem nothing_held_is_null (hr : Reached E h) :
    (∀ c ∈ h.session.holding.references,
      c.handle ≠ 0 ∧ (openings h.calls)[c.number]? = some ⟨c.handle, c.version⟩ ∧
        ∀ ms : List (Move σ), ∀ c' ∈ (h.run E ms).session.holding.references,
          c'.number = c.number → c' = c) ∧
    (∀ name i, h.session.instances.get? name = some i →
      (Operation.handle name).run E h.session =
          ⟨.ok (.number i.context.handle), {}, h.session⟩ ∧
        ∀ ms : List (Move σ), (∀ op, .operation op ∈ ms → op.instanceReplaced? ≠ some name) →
          (h.run E ms).session.instances.get? name = some i) ∧
    (∀ name m, h.session.messages.get? name = some m → m.address ≠ 0 ∧
      (Operation.address name).run E h.session = ⟨.ok (.number m.address), {}, h.session⟩ ∧
      (∃ h₀ op since, Reached E h₀ ∧ h = (h₀.step E (.operation op)).run E since ∧
        op.Creates E h₀.session name m ∧ ∀ part, part <+: since →
          ((h₀.step E (.operation op)).run E part).session.messages.get? name = some m) ∧
      ∀ ms : List (Move σ), (∀ op, .operation op ∈ ms → op.messageReplaced? ≠ some name) →
        (h.run E ms).session.messages.get? name = some m) ∧
    (∀ inst message into k a p b, .sendMessage k a p b ∈
        ((Operation.send inst message into).run E h.session).trace.calls →
      a ≠ 0 ∧ p ≠ 0 ∧ ∃ m, h.session.messages.get? message = some m ∧ p = m.address) ∧
    (∀ (e : Ending) (s : Session σ),
      (e.run E s).trace.calls = if e.pointer = 0 then [] else [e.release]) ∧
    ∀ op : Operation, op.run E h.session = (op.begin E >>= Pending.finish E) h.session ∧
      (∀ call ∈ (op.begin E h.session).trace.calls, call.IsRelease →
        ∃ inst i, op = .shutDown inst ∧ h.session.instances.get? inst = some i ∧
          call = .shutDown i.context.number i.context.handle) ∧
      (∀ k answer, (openings h.calls)[k]? = some answer →
        ((∃ c, .context c ∈ op.endings E h.session ∧ c.number = k) ↔
          h.session.holders k ≠ 0 ∧ (op.run E h.session).session.holders k = 0)) ∧
      (∀ name m answer, h.session.messages.get? name = some m →
        op.messageReplaced? = some name → (op.run E h.session).value = .ok answer →
          .message m ∈ op.endings E h.session ∨ (∃ into, op = .giveAway name into) ∧
            .message { m with address := 0 } ∈ op.endings E h.session) ∧
      (∀ e ∈ op.endings E h.session, e.pointer = 0 ↔ op.Marks e) ∧
      ((∃ e ∈ op.endings E h.session, e.pointer = 0) ↔
        (∃ answer, (op.run E h.session).value = .ok answer) ∧
          ((∃ inst, op = .shutDown inst) ∨ ∃ message into, op = .giveAway message into)) := by
  have sound := hr.sound
  refine ⟨fun c hc => ⟨sound.handle_ne c hc, hr.ledger.opened c hc, fun ms c' hc' => ?_⟩,
    fun name i hi => ⟨?_, fun ms hms => ?_⟩,
    fun name m hm => ⟨sound.address_ne m (Session.mem_owned_of_get? hm), ?_, hr.created hm,
      fun ms hms => ?_⟩,
    fun inst message into k a p b hc => hr.ne_zero_of_sendMessage hc,
    fun e s => e.run_calls s,
    fun op => ⟨op.run_eq_begin _, fun call hc => Operation.shutDown_of_isRelease_begin sound hc,
      fun k answer ha => hr.context_mem_endings_iff ha op,
      fun name m answer hm hn ok => Operation.message_mem_endings hm hn ok,
      fun e he => Operation.pointer_eq_zero_iff_marks sound he,
      Operation.exists_pointer_eq_zero_iff sound op⟩⟩
  · exact hr.context_eq hc hc'
  · rw [Operation.run, withInstance_some hi]
    rfl
  · rw [get?_instances_run h hms, hi]
  · rw [Operation.run, withMessage_some hm]
    rfl
  · rw [get?_messages_run h hms, hm]

/-- The message that the engine gave is sent and stays what it is. It is freed at its end, but not
if it was given away before. -/
theorem sharing_held_not_null :
    let h := sharing
    let h' := h.run Trial.engine [.operation (.giveAway "message" "kept")]
    Reached Trial.engine h ∧
      h.session.instances.get? "second" = some ⟨⟨0, 16, 33⟩⟩ ∧
      (openings h.calls)[0]? = some ⟨16, 33⟩ ∧
      h'.session.instances.get? "second" = some ⟨⟨0, 16, 33⟩⟩ ∧
      (Operation.address "message").run Trial.engine h.session =
        ⟨.ok (.number 32), {}, h.session⟩ ∧
      (∃ h₀, ∃ op : Operation, Reached Trial.engine h₀ ∧
        op.Creates Trial.engine h₀.session "message" ⟨⟨0, 16, 33⟩, 32⟩) ∧
      .sendMessage 0 16 32 48 ∈
        ((Operation.send "second" "message" "response").run Trial.engine h.session).trace.calls ∧
      (16 : Address) ≠ 0 ∧ (32 : Address) ≠ 0 ∧
      (∃ e ∈ (Operation.giveAway "message" "kept").endings Trial.engine h.session,
        e.pointer = 0) ∧
      .message ⟨⟨0, 16, 33⟩, 32⟩ ∈
          (Operation.discardMessage "message").endings Trial.engine h.session ∧
        (¬ ∃ c, .context c ∈ (Operation.discardMessage "message").endings Trial.engine h.session ∧
          c.number = 0) ∧
        ¬ ∃ e ∈ (Operation.discardMessage "message").endings Trial.engine h.session,
          e.pointer = 0 := by
  intro h h'
  obtain ⟨contexts, instances, messages, sends, -, operations⟩ :=
    nothing_held_is_null reached_sharing
  have hi : h.session.instances.get? "second" = some ⟨⟨0, 16, 33⟩⟩ := by decide
  have hm : h.session.messages.get? "message" = some ⟨⟨0, 16, 33⟩, 32⟩ := by decide
  have sent : .sendMessage 0 16 32 48 ∈ ((Operation.send "second" "message" "response").run
      Trial.engine h.session).trace.calls := by decide
  obtain ⟨-, opened, -⟩ := contexts _ (Session.context_mem_of_get?_instance hi)
  obtain ⟨-, address, ⟨h₀, op, -, hr₀, -, creates, -⟩, -⟩ := messages "message" _ hm
  obtain ⟨handle, message, -⟩ := sends "second" "message" "response" 0 16 32 48 sent
  refine ⟨reached_sharing, hi, opened, ?_, address, ⟨h₀, op, hr₀, creates⟩, sent, handle, message,
    ?_, ?_⟩
  · refine (instances "second" _ hi).2 _ fun op hop => ?_
    cases List.mem_singleton.1 hop
    decide
  · obtain ⟨-, -, -, -, -, given⟩ := operations (.giveAway "message" "kept")
    exact given.2 ⟨⟨.number 32, by decide⟩, .inr ⟨_, _, rfl⟩⟩
  · obtain ⟨-, -, ended, freed, -, discarded⟩ := operations (.discardMessage "message")
    refine ⟨?_, ?_, ?_⟩
    · rcases freed "message" _ .nothing hm rfl (by decide) with mem | ⟨⟨_, eq⟩, -⟩
      · exact mem
      · cases eq
    · rw [ended 0 _ opened]
      decide
    · intro null
      rcases (discarded.1 null).2 with ⟨_, eq⟩ | ⟨_, _, eq⟩ <;> cases eq

end History

end Switchboard
