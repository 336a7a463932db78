import Switchboard.Proofs.Register

/-!
# Messages are delivered in the order of their arrival

The engine for trials keeps the messages that wait in a queue. Only a get call takes one out, the
oldest, and only an arrival puts one in: letting go of things, starting engines and sending leave
the queue as it is (`Quiet`). So what get operations have answered, with the queue behind it, is
what has arrived (`Line`). Responses come from the same counter as the messages that arrive, and
never go through the queue.
-/

namespace Switchboard.Trial

/-! ## Readings of a trial -/

/-- A step with its result. -/
abbrev Outcome := Step × Except Refusal Answer

namespace Outcome

/-- The message that arrived. -/
def arrived? : Outcome → Option Address
  | (.push, .ok (.number a)) => some a
  | _ => none

/-- The message that a get operation answered. -/
def received? : Outcome → Option Address
  | (.operation (.getMessage ..), .ok (.number a)) => some a
  | _ => none

/-- The response that a send operation answered. -/
def response? : Outcome → Option Address
  | (.operation (.send ..), .ok (.number a)) => some a
  | (.operation (.sendAddress ..), .ok (.number a)) => some a
  | _ => none

end Outcome

/-- The messages that arrived, in their order. -/
def arrived (log : List Outcome) : List Address :=
  log.filterMap Outcome.arrived?

/-- The messages that get operations answered, in their order. -/
def received (log : List Outcome) : List Address :=
  log.filterMap Outcome.received?

/-- The responses that send operations answered, in their order. -/
def responses (log : List Outcome) : List Address :=
  log.filterMap Outcome.response?

theorem arrived_concat (log : List Outcome) (o : Outcome) :
    arrived (log ++ [o]) = arrived log ++ o.arrived?.toList := by
  cases h : o.arrived? <;> simp [arrived, h]

theorem received_concat (log : List Outcome) (o : Outcome) :
    received (log ++ [o]) = received log ++ o.received?.toList := by
  cases h : o.received? <;> simp [received, h]

theorem responses_concat (log : List Outcome) (o : Outcome) :
    responses (log ++ [o]) = responses log ++ o.response?.toList := by
  cases h : o.response? <;> simp [responses, h]

/-- The steps of a trial with their results. -/
def outcomes (E : Engine State) : List Step → Session State → List Outcome
  | [], _ => []
  | step :: steps, s => (step, (step.run E s).value) :: outcomes E steps (step.run E s).session

/-! ## Calls that leave the queue alone -/

/-- The messages that wait are the same, and no address becomes new again. -/
structure Quiet (e e' : State) : Prop where
  pending : e'.pending = e.pending
  script : e'.script = e.script
  next_le : e.next ≤ e'.next

namespace Quiet

variable {e e' e'' : State} {handle a : Address}

theorem refl (e : State) : Quiet e e :=
  ⟨rfl, rfl, Nat.le_refl _⟩

theorem trans (h : Quiet e e') (h' : Quiet e' e'') : Quiet e e'' :=
  ⟨h'.pending.trans h.pending, h'.script.trans h.script, Nat.le_trans h.next_le h'.next_le⟩

theorem shutDown (e : State) (handle : Address) : Quiet e (e.shutDown handle) := by
  unfold State.shutDown
  split <;> exact ⟨rfl, rfl, Nat.le_refl _⟩

theorem freeMessage (e : State) (message : Address) : Quiet e (e.freeMessage message) := by
  unfold State.freeMessage
  dsimp only
  split <;> exact ⟨rfl, rfl, Nat.le_refl _⟩

theorem initialise {requested : UInt32} {options : String} {answer : Opening}
    (call : e.initialise requested options = (answer, e')) : Quiet e e' := by
  unfold State.initialise at call
  dsimp only at call
  split at call <;> cases call
  · exact ⟨rfl, rfl, Nat.le_refl _⟩
  · exact ⟨rfl, rfl, Nat.le_add_right _ 16⟩

end Quiet

/-! ## Actions that leave the queue alone -/

/-- An action leaves the queue as it is, in every session. -/
def Quietly {α : Type} (m : Action State α) : Prop :=
  ∀ s, Quiet s.engine (m s).session.engine

namespace Quietly

variable {α β : Type} {m : Action State α} {f : α → Action State β}

theorem pure (x : α) : Quietly (Pure.pure x) :=
  fun s => .refl s.engine

theorem bind (hm : Quietly m) (hf : ∀ x, Quietly (f x)) : Quietly (m >>= f) :=
  fun s => (hm s).trans (hf (m s).value (m s).session)

/-- A choice of actions may depend on the session. -/
theorem read {f : Session State → Action State β} (hf : ∀ s, Quietly (f s)) :
    Quietly (Action.read >>= f) :=
  fun s => hf s s

theorem change {f : Session State → Session State} (hf : ∀ s, (f s).engine = s.engine) :
    Quietly (Action.change f) := by
  intro s
  rw [Action.change_apply, hf]
  exact .refl s.engine

theorem notice (n : Notice) : Quietly (Action.notice n) :=
  fun s => .refl s.engine

theorem call {g : State → α × State} {record : α → Call} (hg : ∀ e, Quiet e (g e).2) :
    Quietly (Action.call g record) :=
  fun s => hg s.engine

end Quietly

section Operations

variable {name into : String} {op : Operation}

theorem quietly_takeInstance (name : String) : Quietly (takeInstance name) :=
  fun s => .refl s.engine

theorem quietly_takeMessage (name : String) : Quietly (takeMessage name) :=
  fun s => .refl s.engine

theorem quietly_release (c : Context) : Quietly (c.release engine) := by
  unfold Context.release Context.finish Context.callShutDown
  refine .read fun s => ?_
  split
  · split
    · exact .pure ()
    · exact (Quietly.notice _).bind fun _ => .call fun e => .shutDown e c.handle
  · exact .pure ()

theorem quietly_discard (m : Message) : Quietly (m.discard engine) := by
  unfold Message.discard Message.free
  refine Quietly.bind ?_ fun _ => quietly_release m.context
  split
  · exact .pure ()
  · exact (Quietly.notice _).bind fun _ => .call fun e => .freeMessage e m.address

theorem quietly_keepInstance (r : Except Error Instance) :
    Quietly (keepInstance engine into r) := by
  cases r with
  | error e => exact .pure _
  | ok i =>
    refine Quietly.bind ?_ fun _ => .pure _
    refine .read fun s => Quietly.bind (.change fun _ => by rfl) fun _ => ?_
    cases s.instances.get? into with
    | none => exact .pure ()
    | some old => exact quietly_release old.context

theorem quietly_keepMessage (r : Except Error Message) : Quietly (keepMessage engine into r) := by
  cases r with
  | error e => exact .pure _
  | ok m =>
    refine Quietly.bind ?_ fun _ => .pure _
    refine .read fun s => Quietly.bind (.change fun _ => by rfl) fun _ => ?_
    cases s.messages.get? into with
    | none => exact .pure ()
    | some old => exact quietly_discard old

theorem quietly_initialise (requested : UInt32) (options : String) :
    Quietly (Instance.initialise engine requested options) := by
  intro s
  cases h : NulFault.find? (Utf8.encode options.toList) with
  | some fault =>
    rw [Instance.initialise_of_nul h]
    exact .refl s.engine
  | none =>
    rcases call : engine.initialise requested options s.engine with ⟨answer, e⟩
    by_cases ha : answer.handle = 0
    · rw [Instance.initialise_of_null h call ha]
      exact .initialise call
    · rw [Instance.initialise_of_handle h call ha]
      exact .initialise call

theorem quietly_shutDown (i : Instance) : Quietly (i.shutDown engine) := by
  intro s
  by_cases h : s.holders i.context.number = 0
  · rw [Instance.shutDown_last h]
    exact .shutDown s.engine i.context.handle
  · rw [Instance.shutDown_shared h]
    exact .refl s.engine

theorem quietly_withInstance {f : Instance → Action State (Except Refusal Answer)}
    (hf : ∀ i, Quietly (f i)) : Quietly (withInstance name f) := by
  refine .read fun s => ?_
  cases s.instances.get? name with
  | none => exact .pure _
  | some i => exact hf i

theorem quietly_withMessage {f : Message → Action State (Except Refusal Answer)}
    (hf : ∀ m, Quietly (f m)) : Quietly (withMessage name f) := by
  refine .read fun s => ?_
  cases s.messages.get? name with
  | none => exact .pure _
  | some m => exact hf m

theorem quietly_withAddress {source : AddressSource}
    {f : Address → Action State (Except Refusal Answer)} (hf : ∀ a, Quietly (f a)) :
    Quietly (withAddress source f) := by
  refine .read fun s => ?_
  cases source with
  | address a => exact hf a
  | slot name =>
    dsimp only
    cases s.kept.get? name with
    | none => exact .pure _
    | some a => exact hf a

/-- An operation that asks the engine for a message. -/
def Asks : Operation → Prop
  | .getMessage .. | .send .. | .sendAddress .. => True
  | _ => False

/-- The operations that ask for no message leave the queue as it is. -/
theorem quietly_run (h : ¬ Asks op) : Quietly (op.run engine) := by
  cases op with
  | initialise into requested options =>
    exact (quietly_initialise requested options).bind fun r => quietly_keepInstance r
  | initialiseWith into options =>
    refine Quietly.bind ?_ fun r => quietly_keepInstance r
    unfold Instance.initialiseWith
    cases options.render with
    | error e => exact .pure _
    | ok text => exact quietly_initialise interfaceVersion text
  | share inst into => exact quietly_withInstance fun i => quietly_keepInstance (.ok i)
  | version inst => exact quietly_withInstance fun i => .pure _
  | handle inst => exact quietly_withInstance fun i => .pure _
  | showInstance inst pretty => exact quietly_withInstance fun i => .pure _
  | discardInstance inst =>
    refine (quietly_takeInstance inst).bind ?_
    rintro (_ | i)
    · exact .pure _
    · exact (quietly_release i.context).bind fun _ => .pure _
  | shutDown inst =>
    refine (quietly_takeInstance inst).bind ?_
    rintro (_ | i)
    · exact .pure _
    · refine (quietly_shutDown i).bind ?_
      rintro (e | _) <;> exact .pure _
  | getMessage inst wait into => exact absurd trivial h
  | send inst message into => exact absurd trivial h
  | sendAddress source inst into => exact absurd trivial h
  | address message => exact quietly_withMessage fun m => .pure _
  | showMessage message pretty => exact quietly_withMessage fun m => .pure _
  | discardMessage message =>
    refine (quietly_takeMessage message).bind ?_
    rintro (_ | m)
    · exact .pure _
    · exact (quietly_discard m).bind fun _ => .pure _
  | giveAway message into =>
    refine (quietly_takeMessage message).bind ?_
    rintro (_ | m)
    · exact .pure _
    · refine Quietly.bind ?_ fun a => Quietly.bind (.change fun _ => by rfl) fun _ => .pure _
      exact (quietly_discard { m with address := 0 }).bind fun _ => .pure _
  | takeBack source inst into =>
    exact quietly_withAddress fun a => quietly_withInstance fun i => quietly_keepMessage _

end Operations

/-! ## Calls that ask for a message -/

section Calls

variable {e e' : State} {handle a : Address}

/-- A get call takes the oldest message out of the queue, or nothing. -/
theorem getMessage_cases {timeout : UInt32} (hs : e.script = [])
    (call : e.getMessage handle timeout = (a, e')) :
    a = 0 ∧ Quiet e e' ∨ ∃ rest, e.pending = a :: rest ∧ Quiet { e with pending := rest } e' := by
  have still : Quiet e (e.record (.get handle timeout)).arrive := by
    simp only [State.arrive, State.record, hs]
    exact ⟨rfl, hs.symm, Nat.le_refl _⟩
  unfold State.getMessage at call
  dsimp only at call
  split at call
  · split at call <;> cases call
    · exact .inl ⟨rfl, still⟩
    · next hp => exact .inr ⟨_, still.pending ▸ hp, rfl, still.script, still.next_le⟩
  · cases call
    exact .inl ⟨rfl, rfl, rfl, Nat.le_refl _⟩

/-- With an open handle, nothing is taken out only if nothing waits. -/
theorem getMessage_of_mem {timeout : UInt32} (hs : e.script = []) (hh : handle ∈ e.handles) :
    (e.getMessage handle timeout).1 = e.pending.headD 0 := by
  cases hp : e.pending <;> simp [State.getMessage, State.arrive, State.record, hs, hh, hp]

/-- A send call makes a new message, or none. -/
theorem sendMessage_cases {message : Address} (call : e.sendMessage handle message = (a, e')) :
    a = 0 ∧ Quiet e e' ∨ a = e.next ∧ Quiet e.newMessage.2 e' := by
  unfold State.sendMessage at call
  dsimp only at call
  split at call
  · split at call <;> cases call
    · exact .inl ⟨rfl, rfl, rfl, Nat.le_refl _⟩
    · exact .inr ⟨rfl, rfl, rfl, Nat.le_refl _⟩
  · cases call
    exact .inl ⟨rfl, rfl, rfl, Nat.le_refl _⟩

end Calls

/-! ## The queue -/

/-- What get operations answered, with the queue behind it, is what arrived, and responses are
something else. -/
structure Line (log : List Outcome) (e : State) : Prop where
  order : received log ++ e.pending = arrived log
  script : e.script = []
  nodup : (arrived log ++ responses log).Nodup
  range : ∀ a ∈ arrived log ++ responses log, 0 < a ∧ a < e.next
  next_pos : 0 < e.next

namespace Line

variable {log : List Outcome} {e e' : State} {o : Outcome} {a : Address}

theorem quiet (h : Line log e) (hq : Quiet e e') : Line log e' where
  order := by rw [hq.pending, h.order]
  script := hq.script.trans h.script
  nodup := h.nodup
  range a ha := ⟨(h.range a ha).1, Nat.lt_of_lt_of_le (h.range a ha).2 hq.next_le⟩
  next_pos := Nat.lt_of_lt_of_le h.next_pos hq.next_le

/-- A result that is no message has no part in it. -/
theorem silent (h : Line log e) (ha : o.arrived? = none) (hr : o.received? = none)
    (hp : o.response? = none) : Line (log ++ [o]) e := by
  have arrived_eq : arrived (log ++ [o]) = arrived log := by simp [arrived_concat, ha]
  have responses_eq : responses (log ++ [o]) = responses log := by simp [responses_concat, hp]
  constructor
  · rw [arrived_eq, received_concat, hr, ← h.order]
    simp
  · exact h.script
  · rw [arrived_eq, responses_eq]
    exact h.nodup
  · rw [arrived_eq, responses_eq]
    exact h.range
  · exact h.next_pos

/-- A new message arrives or is a response. -/
theorem grow (h : Line log e) (hn : e'.next = e.next + 16) (hs : e'.script = e.script)
    (ho : received (log ++ [o]) ++ e'.pending = arrived (log ++ [o]))
    (hp : (arrived (log ++ [o]) ++ responses (log ++ [o])).Perm
      (e.next :: (arrived log ++ responses log))) : Line (log ++ [o]) e' where
  order := ho
  script := hs.trans h.script
  nodup := by
    refine hp.nodup_iff.2 (List.nodup_cons.2 ⟨fun hm => ?_, h.nodup⟩)
    exact Nat.lt_irrefl _ (h.range e.next hm).2
  range a ha := by
    rw [hn]
    rcases List.mem_cons.1 (hp.mem_iff.1 ha) with rfl | ha
    · exact ⟨h.next_pos, Nat.lt_add_of_pos_right (by decide)⟩
    · exact ⟨(h.range a ha).1, Nat.lt_add_right 16 (h.range a ha).2⟩
  next_pos := by
    rw [hn]
    exact Nat.add_pos_left h.next_pos 16

theorem push (h : Line log e) : Line (log ++ [(.push, .ok (.number e.next))]) e.push.2 := by
  have arrived_eq : arrived (log ++ [(.push, .ok (.number e.next))]) = arrived log ++ [e.next] :=
    arrived_concat ..
  have received_eq : received (log ++ [(.push, .ok (.number e.next))]) = received log := by
    simp [received_concat, Outcome.received?]
  have responses_eq : responses (log ++ [(.push, .ok (.number e.next))]) = responses log := by
    simp [responses_concat, Outcome.response?]
  refine h.grow rfl rfl ?_ ?_
  · rw [received_eq, arrived_eq, ← h.order, List.append_assoc]
    rfl
  · rw [arrived_eq, responses_eq, List.append_assoc]
    exact List.perm_middle

theorem respond (h : Line log e) (ha : o.arrived? = none) (hr : o.received? = none)
    (hp : o.response? = some e.next) : Line (log ++ [o]) e.newMessage.2 := by
  have arrived_eq : arrived (log ++ [o]) = arrived log := by simp [arrived_concat, ha]
  refine h.grow rfl rfl ?_ ?_
  · rw [received_concat, hr, arrived_eq, ← h.order]
    simp [State.newMessage]
  · rw [arrived_eq, responses_concat, hp, ← List.append_assoc]
    exact List.perm_append_singleton _ _

/-- The oldest message is received. -/
theorem receive {rest : List Address} (h : Line log e) (he : e.pending = a :: rest)
    (ha : o.arrived? = none) (hr : o.received? = some a) (hp : o.response? = none) :
    Line (log ++ [o]) { e with pending := rest } := by
  have arrived_eq : arrived (log ++ [o]) = arrived log := by simp [arrived_concat, ha]
  have responses_eq : responses (log ++ [o]) = responses log := by simp [responses_concat, hp]
  constructor
  · rw [arrived_eq, received_concat, hr, ← h.order, he]
    simp
  · exact h.script
  · rw [arrived_eq, responses_eq]
    exact h.nodup
  · rw [arrived_eq, responses_eq]
    exact h.range
  · exact h.next_pos

/-- What waits has arrived. -/
theorem pos_of_mem (h : Line log e) (ha : a ∈ e.pending) : 0 < a := by
  have hm : a ∈ arrived log := by
    rw [← h.order]
    exact List.mem_append_right _ ha
  exact (h.range a (List.mem_append_left _ hm)).1

/-! ## Steps -/

variable {s : Session State} {inst into message : String} {wait : Duration}

/-- A refused operation has no part in it. -/
theorem refused {op : Operation} {r : Refusal} (h : Line log e) :
    Line (log ++ [(.operation op, .error r)]) e := by
  refine h.silent rfl ?_ ?_ <;> cases op <;> rfl

theorem getMessage (h : Line log s.engine) (i : Instance) :
    let d := (i.getMessage engine wait >>= keepMessage engine into) s
    Line (log ++ [(.operation (.getMessage inst wait into), d.value)]) d.session.engine := by
  rcases call : engine.getMessage i.context.handle wait.timeout s.engine with ⟨a, e⟩
  rw [Action.bind_apply]
  obtain ⟨rfl, hq⟩ | ⟨rest, hp, hq⟩ := getMessage_cases h.script call
  · rw [Instance.getMessage_of_null call]
    exact h.refused.quiet hq
  · have ha : a ≠ 0 := Nat.ne_of_gt (h.pos_of_mem (by rw [hp]; exact List.mem_cons_self))
    have stored : Quiet e
        (keepMessage engine into (.ok ⟨i.context, a⟩) { s with engine := e }).session.engine :=
      quietly_keepMessage (.ok ⟨i.context, a⟩) { s with engine := e }
    rw [Instance.getMessage_of_message call ha]
    exact ((h.receive hp rfl rfl rfl).quiet hq).quiet stored

theorem sendAddress (h : Line log s.engine) (i : Instance) (a : Address) {op : Operation}
    (hr : ∀ b, Outcome.received? (.operation op, .ok (.number b)) = none)
    (hp : ∀ b, Outcome.response? (.operation op, .ok (.number b)) = some b) :
    let d := (i.sendAddress engine a >>= keepMessage engine into) s
    Line (log ++ [(.operation op, d.value)]) d.session.engine := by
  rcases call : engine.sendMessage i.context.handle a s.engine with ⟨b, e⟩
  rw [Action.bind_apply]
  obtain ⟨rfl, hq⟩ | ⟨rfl, hq⟩ := sendMessage_cases call
  · rw [Instance.sendAddress_of_null call]
    exact h.refused.quiet hq
  · have stored : Quiet e (keepMessage engine into (.ok ⟨i.context, s.engine.next⟩)
        { s with engine := e }).session.engine :=
      quietly_keepMessage (.ok ⟨i.context, s.engine.next⟩) { s with engine := e }
    rw [Instance.sendAddress_of_message call (Nat.ne_of_gt h.next_pos)]
    exact ((h.respond rfl (hr _) (hp _)).quiet hq).quiet stored

theorem withInstance {op : Operation} {f : Instance → Action State (Except Refusal Answer)}
    (h : Line log s.engine)
    (hf : ∀ i, Line (log ++ [(.operation op, (f i s).value)]) (f i s).session.engine) :
    let d := Switchboard.withInstance inst f s
    Line (log ++ [(.operation op, d.value)]) d.session.engine := by
  rcases withInstance_cases inst f s with hi | ⟨i, -, hi⟩ <;> rw [hi]
  · exact h.refused
  · exact hf i

/-- Every operation keeps the order. -/
theorem operation (h : Line log s.engine) (op : Operation) :
    Line (log ++ [(.operation op, (op.run engine s).value)]) (op.run engine s).session.engine := by
  cases op with
  | getMessage inst wait into => exact h.withInstance fun i => h.getMessage i
  | send inst message into =>
    refine h.withInstance fun i => ?_
    rcases withMessage_cases message (fun m => i.send engine m >>= keepMessage engine into) s
      with hm | ⟨m, -, hm⟩ <;> rw [hm]
    · exact h.refused
    · exact h.sendAddress i m.address (fun _ => rfl) fun _ => rfl
  | sendAddress source inst into =>
    obtain hn | ⟨a, ha⟩ := withAddress_cases source (fun a => Switchboard.withInstance inst
      fun i => i.sendAddress engine a >>= keepMessage engine into) s
    · rw [Operation.run, hn]
      exact h.refused
    · rw [Operation.run, ha]
      exact h.withInstance fun i => h.sendAddress i a (fun _ => rfl) fun _ => rfl
  | _ => exact (h.silent rfl rfl rfl).quiet (quietly_run id s)

theorem step (h : Line log s.engine) (step : Step) :
    Line (log ++ [(step, (step.run engine s).value)]) (step.run engine s).session.engine := by
  cases step with
  | operation op => exact h.operation op
  | push => exact h.push
  | adjust a => exact (h.silent rfl rfl rfl).quiet ⟨rfl, rfl, Nat.le_refl _⟩

end Line

/-! ## Trials -/

section Trials

variable {settings : Settings} {script : List Bool} {steps : List Step}

/-- The session after a trial is the one that its steps lead to. -/
theorem session_history : (history settings script steps).session =
    steps.foldl (fun s step => (step.run engine s).session) { engine := { settings, script } } := by
  induction steps using List.reverseRecOn with
  | nil => rfl
  | append_singleton steps step ih =>
    have last := (step.step_move engine (history settings script steps)).2
    rw [List.foldl_concat, ← ih, ← last, history, List.map_append, List.map_singleton,
      History.run_append_singleton]
    rfl

theorem outcomes_concat (step : Step) (s : Session State) :
    outcomes engine (steps ++ [step]) s = outcomes engine steps s ++
      [(step, (step.run engine
        (steps.foldl (fun s step => (step.run engine s).session) s)).value)] := by
  induction steps generalizing s with
  | nil => rfl
  | cons first steps ih => exact congrArg _ (ih _)

theorem line_history :
    Line (outcomes engine steps { engine := { settings } })
      (history settings [] steps).session.engine := by
  induction steps using List.reverseRecOn with
  | nil =>
    refine ⟨rfl, rfl, List.nodup_nil, fun a ha => ?_, Nat.zero_lt_succ 15⟩
    exact absurd ha List.not_mem_nil
  | append_singleton steps step ih =>
    have h := ih.step step
    rw [outcomes_concat, session_history, List.foldl_concat, ← session_history]
    exact h

/-- A get operation answers the oldest message that waits, and fails if none does. -/
theorem getMessage_value_history {inst : String} {i : Instance}
    (hi : (history settings [] steps).session.instances.get? inst = some i) (wait : Duration)
    (into : String) :
    ((Operation.getMessage inst wait into).run engine (history settings [] steps).session).value =
      match (history settings [] steps).session.engine.pending with
      | [] => .error (.failed .noMessage)
      | a :: _ => .ok (.number a) := by
  have hr : Register (history settings [] steps).session.engine
      (openHandles (history settings [] steps).calls) := register_history.1
  have hl : Line (outcomes engine steps { engine := { settings } })
      (history settings [] steps).session.engine := line_history
  have pinned :
      Pinned (history settings [] steps).calls (history settings [] steps).session.holding :=
    reached_history.pinned register_history.2
  generalize history settings [] steps = h at *
  -- the instance refers to its context, so its handle is open
  have hh : i.context.handle ∈ h.session.engine.handles := by
    rw [hr.handles]
    exact pinned.mem_openHandles i.context (Session.context_mem_of_get?_instance hi)
  rcases call : engine.getMessage i.context.handle wait.timeout h.session.engine with ⟨a, e⟩
  have ha : h.session.engine.pending.headD 0 = a := by
    rw [← getMessage_of_mem hl.script hh]
    exact congrArg Prod.fst call
  rw [Operation.run, withInstance_some hi, Action.bind_apply]
  cases hp : h.session.engine.pending with
  | nil =>
    rw [hp] at ha
    subst ha
    rw [Instance.getMessage_of_null call]
    rfl
  | cons b rest =>
    have hb : b ≠ 0 := Nat.ne_of_gt (hl.pos_of_mem (by rw [hp]; exact List.mem_cons_self))
    rw [hp] at ha
    subst ha
    rw [Instance.getMessage_of_message call hb]
    rfl

/-- **Messages are delivered in the order of their arrival.** What get operations have answered so
far, with the messages that wait behind it, is what has arrived, each message once; a get operation
on any instance fails exactly if nothing waits, and answers the oldest message otherwise; and a
response to a message that was sent never is among these. -/
theorem delivered_in_order (settings : Settings) (steps : List Step) :
    let h := history settings [] steps
    let log := outcomes engine steps { engine := { settings } }
    received log ++ h.session.engine.pending = arrived log ∧
    (arrived log).Nodup ∧
    (∀ a ∈ responses log, a ∉ arrived log) ∧
    ∀ inst i, h.session.instances.get? inst = some i → ∀ wait into,
      ((Operation.getMessage inst wait into).run engine h.session).value =
        match h.session.engine.pending with
        | [] => .error (.failed .noMessage)
        | a :: _ => .ok (.number a) := by
  intro h log
  have hl : Line log h.session.engine := line_history
  obtain ⟨nodup, -, disjoint⟩ := List.nodup_append.1 hl.nodup
  exact ⟨hl.order, nodup, fun a ha hm => disjoint a hm a ha rfl,
    fun inst i hi wait into => getMessage_value_history hi wait into⟩

/-- Three messages arrive between get operations on an instance and on its copy, one of them is
sent, and the first instance is let go of. -/
def interleaved : List Step :=
  [.operation (.initialise "first" 33 "sip"), .push, .operation (.share "first" "second"),
    .operation (.getMessage "second" (.ofMillis 0) "oldest"), .push,
    .operation (.send "first" "oldest" "response"), .push,
    .operation (.discardInstance "first"),
    .operation (.getMessage "second" (.ofMillis 500) "oldest")]

/-- The third message is still to come, and the response is not among them. -/
theorem interleaved_in_order :
    let h := history {} [] interleaved
    let log := outcomes engine interleaved { engine := {} }
    h.session.instances.get? "second" = some ⟨⟨0, 16, 33⟩⟩ ∧
      received log = [32, 48] ∧ h.session.engine.pending = [80] ∧ arrived log = [32, 48, 80] ∧
      responses log = [64] ∧ 64 ∉ arrived log ∧
      ((Operation.getMessage "second" (.ofMillis 0) "newest").run engine h.session).value =
        .ok (.number 80) := by
  intro h log
  have hi : h.session.instances.get? "second" = some ⟨⟨0, 16, 33⟩⟩ := by decide
  obtain ⟨order, -, apart, get⟩ := delivered_in_order {} interleaved
  have hr : received log = [32, 48] := by decide
  have hp : h.session.engine.pending = [80] := by decide
  have ha : arrived log = [32, 48, 80] := by
    rw [← order]
    exact congrArg₂ _ hr hp
  refine ⟨hi, hr, hp, ha, by decide, apart 64 (by decide), ?_⟩
  rw [get "second" _ hi, hp]

end Trials

end Switchboard.Trial
