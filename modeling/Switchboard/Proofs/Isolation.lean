import Switchboard.Proofs.Provenance
import Switchboard.Proofs.Register
import Switchboard.Proofs.Stock

/-!
# Contexts do not interfere

An operation works on the references in the slots that it names, and on nothing else: the calls that
it makes are made for their contexts, and the slots of all other contexts hold what they held
(`Within`, `Operation.within`). So an operation on one context leaves the references to another one,
its handle and its messages as they are (`Reached.frame`). A message may be sent by an instance of
another context than its own; the response belongs to the context of the instance then, and the
message stays where it is.
-/

namespace Switchboard

variable {σ : Type} {E : Engine σ}

/-! ## What an operation works on -/

namespace Operation

/-- The slots of instances that an operation works on or stores into. -/
def instanceSlots : Operation → List String
  | initialise into .. | initialiseWith into .. => [into]
  | share inst into => [inst, into]
  | version inst | handle inst | showInstance inst _ | discardInstance inst | shutDown inst
  | getMessage inst .. | send inst .. | sendAddress _ inst _ | takeBack _ inst _ => [inst]
  | address .. | showMessage .. | discardMessage .. | giveAway .. => []

/-- The slots of messages that an operation works on or stores into. A message that is sent is not
one of them, since only its address is read. -/
def messageSlots : Operation → List String
  | getMessage _ _ into | send _ _ into | sendAddress _ _ into | takeBack _ _ into => [into]
  | address message | showMessage message _ | discardMessage message | giveAway message _ =>
    [message]
  | _ => []

/-- The contexts of the references that an operation works on or lets go of. -/
def touched (op : Operation) (s : Session σ) : List Context :=
  op.instanceSlots.filterMap (fun name => (s.instances.get? name).map Instance.context) ++
    op.messageSlots.filterMap fun name => (s.messages.get? name).map Message.context

variable {op : Operation} {s : Session σ} {name : String}

theorem mem_touched_of_instance {i : Instance} (hn : name ∈ op.instanceSlots)
    (hi : s.instances.get? name = some i) : i.context ∈ op.touched s :=
  List.mem_append_left _ (List.mem_filterMap.2 ⟨name, hn, by rw [hi]; rfl⟩)

theorem mem_touched_of_message {m : Message} (hn : name ∈ op.messageSlots)
    (hm : s.messages.get? name = some m) : m.context ∈ op.touched s :=
  List.mem_append_right _ (List.mem_filterMap.2 ⟨name, hn, by rw [hm]; rfl⟩)

/-- What an operation works on is held. -/
theorem touched_subset {c : Context} (hc : c ∈ op.touched s) : c ∈ s.holding.references := by
  rcases List.mem_append.1 hc with hc | hc
  · obtain ⟨name, -, hname⟩ := List.mem_filterMap.1 hc
    obtain ⟨i, hi, rfl⟩ := Option.map_eq_some_iff.1 hname
    exact Session.context_mem_of_get?_instance hi
  · obtain ⟨name, -, hname⟩ := List.mem_filterMap.1 hc
    obtain ⟨m, hm, rfl⟩ := Option.map_eq_some_iff.1 hname
    exact Session.context_mem_of_get?_message hm

/-- What an operation lets go of is in a slot that it works on. -/
theorem emptied?_subset (hn : name ∈ op.emptied?) : name ∈ op.messageSlots := by
  cases op <;> simp_all [emptied?, messageSlots]

end Operation

/-! ## Staying within contexts -/

/-- A call is made for one of some contexts, with its handle. -/
def Call.MadeFor (T : List Context) (call : Call) : Prop :=
  ∀ k ∈ call.context?, ∃ c ∈ T, c.number = k ∧ ∀ a ∈ call.handle?, a = c.handle

/-- A context is made before and is not one of some others. -/
def Outside (T : List Context) (made k : ℕ) : Prop :=
  k < made ∧ ∀ c ∈ T, c.number ≠ k

/-- What happened between two sessions concerns no context outside some. -/
structure Within (T : List Context) (made : ℕ) (s : Session σ) (calls : List Call)
    (s' : Session σ) : Prop where
  calls : ∀ call ∈ calls, call.MadeFor T
  instances : s.instances.SameOn (fun i => Outside T made i.context.number) s'.instances
  messages : s.messages.SameOn (fun m => Outside T made m.context.number) s'.messages

namespace Within

variable {T : List Context} {made : ℕ} {s s' s'' : Session σ} {calls more : List Call}
  {c : Context}

theorem notOutside (hc : c ∈ T) : ¬ Outside T made c.number :=
  fun h => h.2 c hc rfl

/-- The slots are the same. -/
theorem of_slots (hc : ∀ call ∈ calls, call.MadeFor T) (hi : s'.instances = s.instances)
    (hm : s'.messages = s.messages) : Within T made s calls s' where
  calls := hc
  instances := by rw [hi]; exact .refl _ _
  messages := by rw [hm]; exact .refl _ _

theorem nothing (hi : s'.instances = s.instances) (hm : s'.messages = s.messages) :
    Within T made s [] s' :=
  of_slots (List.forall_mem_nil _) hi hm

theorem one {call : Call} (hc : call.MadeFor T) (hi : s'.instances = s.instances)
    (hm : s'.messages = s.messages) : Within T made s [call] s' :=
  of_slots (List.forall_mem_singleton.2 hc) hi hm

theorem trans (h : Within T made s calls s') (h' : Within T made s' more s'') :
    Within T made s (calls ++ more) s'' where
  calls := List.forall_mem_append.2 ⟨h.calls, h'.calls⟩
  instances := h.instances.trans h'.instances
  messages := h.messages.trans h'.messages

/-! ### Letting go -/

theorem madeFor (hc : c ∈ T) {call : Call} (hk : call.context? = some c.number)
    (hh : ∀ a ∈ call.handle?, a = c.handle) : call.MadeFor T := by
  intro k h
  rw [hk] at h
  exact ⟨c, hc, Option.some.inj h, hh⟩

theorem shutDown (hc : c ∈ T) (e : σ) :
    Within T made s [.shutDown c.number c.handle] { s with engine := e } :=
  one (madeFor hc rfl fun _ ha => (Option.some.inj ha).symm) rfl rfl

theorem release (hc : c ∈ T) (s : Session σ) :
    Within T made s (c.release E s).trace.calls (c.release E s).session := by
  rcases c.release_cases (E := E) s with h | h <;> rw [h]
  · exact nothing rfl rfl
  · exact shutDown hc _

theorem discard {m : Message} (hm : m.context ∈ T) (s : Session σ) :
    Within T made s (m.discard E s).trace.calls (m.discard E s).session := by
  by_cases h₀ : m.address = 0
  · have still : m.free E s = ⟨(), {}, s⟩ := by simp [Message.free, h₀]
    simp only [Message.discard, Action.bind_apply, still, Trace.empty_append]
    exact release hm s
  · have freed : Within T made s [.freeMessage m.context.number m.address]
        { s with engine := E.freeMessage m.address s.engine } := by
      refine one (madeFor hm rfl ?_) rfl rfl
      rintro _ ⟨⟩
    simp only [Message.discard, Action.bind_apply, Message.free_of_ne h₀, Trace.calls_append]
    exact freed.trans (release hm _)

/-! ### Slots -/

section Slots

variable {name : String}

theorem takeInstance (h : ∀ i, s.instances.get? name = some i → i.context ∈ T) :
    Within T made s [] { s with instances := s.instances.erase name } where
  calls := List.forall_mem_nil _
  instances := .erase fun i hi => notOutside (h i hi)
  messages := .refl _ _

theorem takeMessage (h : ∀ m, s.messages.get? name = some m → m.context ∈ T) :
    Within T made s [] { s with messages := s.messages.erase name } where
  calls := List.forall_mem_nil _
  instances := .refl _ _
  messages := .erase fun m hm => notOutside (h m hm)

/-- A new instance is stored in place of another one. -/
theorem keepInstance {r : Except Error Instance}
    (hr : ∀ i, r = .ok i → ¬ Outside T made i.context.number)
    (ho : ∀ i, s.instances.get? name = some i → i.context ∈ T) :
    Within T made s (keepInstance E name r s).trace.calls (keepInstance E name r s).session := by
  cases r with
  | error e => exact nothing rfl rfl
  | ok i =>
    have stored : Within T made s [] { s with instances := s.instances.insert name i } :=
      ⟨List.forall_mem_nil _, .insert (fun j hj => notOutside (ho j hj)) (hr i rfl), .refl _ _⟩
    cases hg : s.instances.get? name with
    | none => simpa [Switchboard.keepInstance, storeInstance, hg] using stored
    | some old =>
      have gone : Within T made { s with instances := s.instances.insert name i } _ _ :=
        release (E := E) (ho old hg) _
      simpa [Switchboard.keepInstance, storeInstance, Instance.discard, hg] using stored.trans gone

/-- A new message is stored in place of another one. -/
theorem keepMessage {r : Except Error Message} (hr : ∀ m, r = .ok m → m.context ∈ T)
    (ho : ∀ m, s.messages.get? name = some m → m.context ∈ T) :
    Within T made s (keepMessage E name r s).trace.calls (keepMessage E name r s).session := by
  cases r with
  | error e => exact nothing rfl rfl
  | ok m =>
    have stored : Within T made s [] { s with messages := s.messages.insert name m } :=
      ⟨List.forall_mem_nil _, .refl _ _,
        .insert (fun j hj => notOutside (ho j hj)) (notOutside (hr m rfl))⟩
    cases hg : s.messages.get? name with
    | none => simpa [Switchboard.keepMessage, storeMessage, hg] using stored
    | some old =>
      have gone : Within T made { s with messages := s.messages.insert name m } _ _ :=
        discard (E := E) (ho old hg) _
      simpa [Switchboard.keepMessage, storeMessage, hg] using stored.trans gone

end Slots

/-! ### Operations -/

section Operations

variable {name : String} {i : Instance}

theorem looking_instance {f : Instance → Action σ (Except Refusal Answer)}
    (hf : ∀ i, s.instances.get? name = some i →
      Within T made s (f i s).trace.calls (f i s).session) :
    Within T made s (withInstance name f s).trace.calls (withInstance name f s).session := by
  rcases withInstance_cases name f s with h | ⟨i, hi, h⟩ <;> rw [h]
  · exact nothing rfl rfl
  · exact hf i hi

theorem looking_message {f : Message → Action σ (Except Refusal Answer)}
    (hf : ∀ m, Within T made s (f m s).trace.calls (f m s).session) :
    Within T made s (withMessage name f s).trace.calls (withMessage name f s).session := by
  rcases withMessage_cases name f s with h | ⟨m, -, h⟩ <;> rw [h]
  · exact nothing rfl rfl
  · exact hf m

theorem looking_address {source : AddressSource} {f : Address → Action σ (Except Refusal Answer)}
    (hf : ∀ a, Within T made s (f a s).trace.calls (f a s).session) :
    Within T made s (withAddress source f s).trace.calls (withAddress source f s).session := by
  rcases withAddress_cases source f s with h | ⟨a, h⟩ <;> rw [h]
  · exact nothing rfl rfl
  · exact hf a

/-- A new context has a number that no other one had. -/
theorem initialise (requested : UInt32) (options : String) :
    let d := Instance.initialise E requested options s
    Within T made s d.trace.calls d.session ∧ d.session.instances = s.instances ∧
      ∀ i, d.value = .ok i → i.context.number = s.made := by
  have opening {answer : Opening} : (Call.initialise requested options answer).MadeFor T :=
    fun k hk => nomatch hk
  cases h : NulFault.find? (Utf8.encode options.toList) with
  | some fault =>
    rw [Instance.initialise_of_nul h]
    exact ⟨nothing rfl rfl, rfl, fun i hi => nomatch hi⟩
  | none =>
    rcases call : E.initialise requested options s.engine with ⟨answer, e⟩
    by_cases ha : answer.handle = 0
    · rw [Instance.initialise_of_null h call ha]
      exact ⟨one opening rfl rfl, rfl, fun i hi => nomatch hi⟩
    · rw [Instance.initialise_of_handle h call ha]
      exact ⟨one opening rfl rfl, rfl, by rintro _ ⟨rfl⟩; rfl⟩

theorem initialiseWith (options : Options) :
    let d := Instance.initialiseWith E options s
    Within T made s d.trace.calls d.session ∧ d.session.instances = s.instances ∧
      ∀ i, d.value = .ok i → i.context.number = s.made := by
  unfold Instance.initialiseWith
  cases options.render with
  | error e => exact ⟨nothing rfl rfl, rfl, fun i hi => nomatch hi⟩
  | ok text => exact initialise interfaceVersion text

/-- What was made last is stored. -/
theorem bind_keepInstance {m : Action σ (Except Error Instance)}
    (h : Within T s.made s (m s).trace.calls (m s).session ∧
      (m s).session.instances = s.instances ∧ ∀ i, (m s).value = .ok i → i.context.number = s.made)
    (ho : ∀ i, s.instances.get? name = some i → i.context ∈ T) :
    let d := (m >>= Switchboard.keepInstance E name) s
    Within T s.made s d.trace.calls d.session := by
  obtain ⟨hw, hs, hr⟩ := h
  refine hw.trans (keepInstance (fun i hi ho => ?_) (by rwa [hs]))
  exact Nat.ne_of_lt ho.1 (hr i hi)

/-- What the engine answered to an instance is stored. -/
theorem bind_keepMessage {m : Action σ (Except Error Message)} {call : Call}
    (hi : i.context ∈ T) (hc : (m s).trace.calls = [call])
    (hk : call.context? = some i.context.number) (hh : call.handle? = some i.context.handle)
    (hs : (m s).session.instances = s.instances ∧ (m s).session.messages = s.messages)
    (hr : ∀ x, (m s).value = .ok x → x.context = i.context)
    (ho : ∀ x, s.messages.get? name = some x → x.context ∈ T) :
    let d := (m >>= Switchboard.keepMessage E name) s
    Within T made s d.trace.calls d.session := by
  have asked : Within T made s (m s).trace.calls (m s).session := by
    rw [hc]
    refine one (madeFor hi hk fun a ha => ?_) hs.1 hs.2
    rw [hh] at ha
    exact (Option.some.inj ha).symm
  refine asked.trans (keepMessage (fun x hx => ?_) (by rwa [hs.2]))
  rw [hr x hx]
  exact hi

theorem getMessage (hi : i.context ∈ T) (wait : Duration)
    (ho : ∀ m, s.messages.get? name = some m → m.context ∈ T) :
    let d := (i.getMessage E wait >>= Switchboard.keepMessage E name) s
    Within T made s d.trace.calls d.session := by
  obtain ⟨hc, hs⟩ := i.getMessage_calls (E := E) s wait
  refine bind_keepMessage hi hc rfl rfl ⟨by rw [hs], by rw [hs]⟩ (fun x hx => ?_) ho
  rw [i.getMessage_value] at hx
  split at hx <;> cases hx
  rfl

theorem sendAddress (hi : i.context ∈ T) (message : Address)
    (ho : ∀ m, s.messages.get? name = some m → m.context ∈ T) :
    let d := (i.sendAddress E message >>= Switchboard.keepMessage E name) s
    Within T made s d.trace.calls d.session := by
  obtain ⟨hc, hs⟩ := i.sendAddress_calls (E := E) s message
  refine bind_keepMessage hi hc rfl rfl ⟨by rw [hs], by rw [hs]⟩ (fun x hx => ?_) ho
  rw [i.sendAddress_value] at hx
  split at hx <;> cases hx
  rfl

end Operations

end Within

/-- An operation concerns the contexts of the references that it works on, and no other. -/
theorem Operation.within (op : Operation) (s : Session σ) :
    Within (op.touched s) s.made s (op.run E s).trace.calls (op.run E s).session := by
  -- what a slot of the operation holds is touched
  have inst {name : String} (hn : name ∈ op.instanceSlots) :
      ∀ i, s.instances.get? name = some i → i.context ∈ op.touched s :=
    fun i hi => mem_touched_of_instance hn hi
  have mess {name : String} (hn : name ∈ op.messageSlots) :
      ∀ m, s.messages.get? name = some m → m.context ∈ op.touched s :=
    fun m hm => mem_touched_of_message hn hm
  cases op with
  | initialise into requested options =>
    exact .bind_keepInstance (Within.initialise requested options) (inst (by simp [instanceSlots]))
  | initialiseWith into options =>
    exact .bind_keepInstance (Within.initialiseWith options) (inst (by simp [instanceSlots]))
  | share name into =>
    refine .looking_instance fun i hi => ?_
    have hc := inst (by simp [instanceSlots]) i hi
    exact .keepInstance (by rintro _ ⟨rfl⟩; exact Within.notOutside hc)
      (inst (by simp [instanceSlots]))
  | version name => exact .looking_instance fun i _ => .nothing rfl rfl
  | handle name => exact .looking_instance fun i _ => .nothing rfl rfl
  | showInstance name pretty => exact .looking_instance fun i _ => .nothing rfl rfl
  | discardInstance name =>
    have taken : Within ((discardInstance name).touched s) s.made s []
        { s with instances := s.instances.erase name } :=
      .takeInstance (inst (by simp [instanceSlots]))
    cases hi : s.instances.get? name with
    | none =>
      rw [run_discardInstance_none hi]
      exact .nothing rfl rfl
    | some i =>
      rw [run_discardInstance hi]
      exact taken.trans (.release (inst (by simp [instanceSlots]) i hi) _)
  | shutDown name =>
    have taken : Within ((shutDown name).touched s) s.made s []
        { s with instances := s.instances.erase name } :=
      .takeInstance (inst (by simp [instanceSlots]))
    cases hi : s.instances.get? name with
    | none =>
      rw [run_shutDown_none hi]
      exact .nothing rfl rfl
    | some i =>
      by_cases h : { s with instances := s.instances.erase name }.holders i.context.number = 0
      · rw [run_shutDown_last hi h]
        exact taken.trans (.shutDown (inst (by simp [instanceSlots]) i hi) _)
      · rw [run_shutDown_shared hi h]
        exact taken
  | getMessage name wait into =>
    exact .looking_instance fun i hi => .getMessage (inst (by simp [instanceSlots]) i hi) wait
      (mess (by simp [messageSlots]))
  | send name message into =>
    exact .looking_instance fun i hi => .looking_message fun m =>
      .sendAddress (inst (by simp [instanceSlots]) i hi) m.address (mess (by simp [messageSlots]))
  | sendAddress source name into =>
    exact .looking_address fun a => .looking_instance fun i hi =>
      .sendAddress (inst (by simp [instanceSlots]) i hi) a (mess (by simp [messageSlots]))
  | address message => exact .looking_message fun m => .nothing rfl rfl
  | showMessage message pretty => exact .looking_message fun m => .nothing rfl rfl
  | discardMessage name =>
    have taken : Within ((discardMessage name).touched s) s.made s []
        { s with messages := s.messages.erase name } :=
      .takeMessage (mess (by simp [messageSlots]))
    cases hm : s.messages.get? name with
    | none =>
      rw [run_discardMessage_none hm]
      exact .nothing rfl rfl
    | some m =>
      rw [run_discardMessage hm]
      exact taken.trans (.discard (mess (by simp [messageSlots]) m hm) _)
  | giveAway name into =>
    have taken : Within ((giveAway name into).touched s) s.made s []
        { s with messages := s.messages.erase name } :=
      .takeMessage (mess (by simp [messageSlots]))
    cases hm : s.messages.get? name with
    | none =>
      rw [run_giveAway_none hm]
      exact .nothing rfl rfl
    | some m =>
      have h := taken.trans (.discard (E := E) (m := { m with address := 0 })
        (mess (by simp [messageSlots]) m hm) _)
      rw [run_giveAway hm]
      simp only [Message.giveAway, Action.bind_apply, Action.pure_apply, Trace.append_empty]
      exact ⟨h.calls, h.instances, h.messages⟩
  | takeBack source name into =>
    refine .looking_address fun a => .looking_instance fun i hi => ?_
    refine .keepMessage (fun x hx => ?_) (mess (by simp [messageSlots]))
    unfold Message.takeBack at hx
    split at hx <;> cases hx
    exact inst (by simp [instanceSlots]) i hi

/-! ## Holders -/

section Holders

variable {T : List Context} {made k : ℕ} {s s' : Session σ} {calls : List Call}

/-- A context outside is referred to as often as before. -/
theorem Within.holders (h : Within T made s calls s') (hk : Outside T made k) :
    s'.holders k = s.holders k := by
  apply Session.holders_congr
  · exact h.instances.mono fun i hi => by rwa [hi]
  · exact h.messages.mono fun m hm => by rwa [hm]

end Holders

namespace History

variable {h : History σ} {name other : String}

/-- No two slots own a message with the same address. -/
theorem Reached.slot_unique (hr : Reached E h) (hl : Lawful h.transfers)
    (hd : (delivered h.calls).Nodup) {m n : Message} (hm : h.session.messages.get? name = some m)
    (hn : h.session.messages.get? other = some n) (ha : m.address = n.address) : name = other := by
  by_contra hne
  have rest : n ∈ (h.session.messages.erase name).values := by
    refine Slots.mem_values_iff.2 ⟨other, ?_⟩
    rw [Slots.get?_erase_of_ne (Ne.symm hne)]
    exact hn
  let left : Session σ := { h.session with messages := h.session.messages.erase name }
  have pos : 0 < left.owners n.address := List.countP_pos_iff.2 ⟨n, rest, decide_eq_true rfl⟩
  have two : left.owners n.address + 1 = h.session.owners n.address :=
    ha ▸ Session.owners_erase_message hm
  have once := List.nodup_iff_count_le_one.1 hd n.address
  have sum := hr.count_delivered hl n.address
  omega

/-- An operation leaves another context as it is: the references to it, what they say of it and the
messages that it owns. It makes no call for it or with its handle, and frees none of its messages.
-/
theorem Reached.frame (hr : Reached E h) (hl : Lawful h.transfers) (hh : Distinct h.calls)
    (hd : (delivered h.calls).Nodup) (op : Operation) {k : ℕ} (hk : k < h.session.made)
    (apart : ∀ c ∈ op.touched h.session, c.number ≠ k) :
    let d := op.run E h.session
    d.session.holders k = h.session.holders k ∧
    (∀ name i, i.context.number = k →
      (d.session.instances.get? name = some i ↔ h.session.instances.get? name = some i)) ∧
    (∀ name m, m.context.number = k →
      (d.session.messages.get? name = some m ↔ h.session.messages.get? name = some m)) ∧
    (∀ call ∈ d.trace.calls, call.context? ≠ some k ∧
      ∀ c ∈ h.session.holding.references, c.number = k → call.handle? ≠ some c.handle) ∧
    ∀ name m, h.session.messages.get? name = some m → m.context.number = k →
      m.address ∉ freed d.trace.calls := by
  intro d
  have outside {n : ℕ} (hn : n = k) : Outside (op.touched h.session) h.session.made n :=
    hn ▸ ⟨hk, apart⟩
  have within := op.within (E := E) h.session
  refine ⟨within.holders (outside rfl), fun name i hi => within.instances name i (outside hi),
    fun name m hm => within.messages name m (outside hm),
    fun call hcall => ⟨fun hc => ?_, fun e he hek ha => ?_⟩, fun name m hm hmk ha => ?_⟩
  · obtain ⟨c, hc, hn, -⟩ := within.calls call hcall k hc
    exact apart c hc hn
  · -- the call is made with the handle of a context, and no other one has that handle
    obtain ⟨n, hn⟩ := Call.exists_context ha
    obtain ⟨c, hc, -, hch⟩ := within.calls call hcall n hn
    have hce := (hr.pinned hh).number_eq c (Operation.touched_subset hc) e he (hch _ ha).symm
    exact apart c hc (hce.trans hek)
  · obtain ⟨other, ho, n, hn, han⟩ := op.inSlot_freed_run h.session m.address ha
    have same : name = other := hr.slot_unique hl hd hm hn han.symm
    subst same
    exact apart _ (Operation.mem_touched_of_message (Operation.emptied?_subset ho) hm) hmk

/-! ## Letting go of one of many -/

/-- The end of an instance is the end of its context if nothing else refers to that. -/
theorem Reached.run_discardInstance (hr : Reached E h) {i : Instance}
    (hi : h.session.instances.get? name = some i) :
    ((Operation.discardInstance name).run E h.session).trace.calls =
      if h.session.holders i.context.number = 1 then
        [.shutDown i.context.number i.context.handle]
      else [] := by
  have hc := hr.sound.handle_ne _ (Session.context_mem_of_get?_instance hi)
  have hk := Session.holders_eq_one_iff_instance hi
  rw [Operation.run_discardInstance hi]
  by_cases last : { h.session with instances := h.session.instances.erase name }.holders
      i.context.number = 0
  · rw [if_pos (hk.2 last), Instance.discard, Context.release_last hc last]
  · rw [if_neg (mt hk.1 last), Instance.discard, Context.release_shared last]

/-- An instance may shut its context down by hand if nothing else refers to it. -/
theorem run_shutDown {s : Session σ} {i : Instance} (hi : s.instances.get? name = some i) :
    ((Operation.shutDown name).run E s).value =
        (if s.holders i.context.number = 1 then .ok .nothing
        else .error (.failed .instanceInUse)) ∧
      ((Operation.shutDown name).run E s).trace.calls =
        if s.holders i.context.number = 1 then
          [.shutDown i.context.number i.context.handle]
        else [] := by
  have hk := Session.holders_eq_one_iff_instance hi
  by_cases last : { s with instances := s.instances.erase name }.holders
      i.context.number = 0
  · rw [Operation.run_shutDown_last hi last, if_pos (hk.2 last), if_pos (hk.2 last)]
    exact ⟨rfl, rfl⟩
  · rw [Operation.run_shutDown_shared hi last, if_neg (mt hk.1 last), if_neg (mt hk.1 last)]
    exact ⟨rfl, rfl⟩

/-! ## Sending a message of another context -/

/-- A message is sent by an instance, and the response is stored in an empty slot. -/
theorem run_send {s : Session σ} {inst message into : String} {i : Instance} {m : Message}
    {a : Address} {engine : σ} (hi : s.instances.get? inst = some i)
    (hm : s.messages.get? message = some m) (hinto : s.messages.get? into = none)
    (call : E.sendMessage i.context.handle m.address s.engine = (a, engine)) :
    (Operation.send inst message into).run E s =
      if a = 0 then
        ⟨.error (.failed .sendFailed),
          ⟨[.sendMessage i.context.number i.context.handle m.address 0], []⟩, { s with engine }⟩
      else
        ⟨.ok (.number a), ⟨[.sendMessage i.context.number i.context.handle m.address a],
          [.sent m.address a]⟩,
          { s with engine, messages := s.messages.insert into ⟨i.context, a⟩ }⟩ := by
  rw [Operation.run, withInstance_some hi, withMessage_some hm, Action.bind_apply, Instance.send]
  by_cases ha : a = 0
  · subst ha
    rw [Instance.sendAddress_of_null call, if_pos rfl]
    rfl
  · rw [Instance.sendAddress_of_message call ha, if_neg ha]
    simp [keepMessage, storeMessage, hinto]

/-- A send is one call; its response is one reference more to the context of the instance, and the
message stays in its slot. -/
theorem send_spec {s : Session σ} {inst message into : String} {i : Instance} {m : Message}
    (hi : s.instances.get? inst = some i) (hm : s.messages.get? message = some m)
    (hinto : s.messages.get? into = none) :
    let d := (Operation.send inst message into).run E s
    let a := (E.sendMessage i.context.handle m.address s.engine).1
    d.trace.calls = [.sendMessage i.context.number i.context.handle m.address a] ∧
    d.value = (if a = 0 then .error (.failed .sendFailed) else .ok (.number a)) ∧
    d.session.messages.get? into = (if a = 0 then none else some ⟨i.context, a⟩) ∧
    d.session.messages.get? message = some m ∧
    ∀ k, d.session.holders k = s.holders k + if i.context.number = k ∧ a ≠ 0 then 1 else 0 := by
  intro d a
  have other : message ≠ into := by
    rintro rfl
    rw [hm] at hinto
    cases hinto
  have run : d = _ := run_send hi hm hinto Prod.mk.eta.symm
  by_cases ha : a = 0
  · rw [if_pos ha] at run
    rw [run, ha, if_pos rfl, if_pos rfl]
    exact ⟨rfl, rfl, hinto, hm, fun k => by simp [Session.holders]⟩
  · rw [if_neg ha] at run
    rw [run, if_neg ha, if_neg ha]
    refine ⟨rfl, rfl, Slots.get?_insert_self .., ?_, fun k => ?_⟩
    · rw [Slots.get?_insert_of_ne other]
      exact hm
    · have more := Session.holders_insert_message hinto ⟨i.context, a⟩ k
      simp only [ha, ne_eq, not_false_eq_true, and_true]
      exact more

/-- **Contexts do not interfere.** The engine gives different handles to open instances and no
message twice, and nothing is taken back that is not given away. Then an operation on some contexts
leaves every other one as it is: the references to it with what they say of it, and its messages. No
call is made for it or with its handle, and none of its messages is freed. An instance may send a
message of another context: that is one call with the handle of the instance, the response belongs
to the context of the instance, which has one reference more for it, and the message stays where it
is. Each context ends with the last of its own references still. -/
theorem contexts_isolated (hr : Reached E h) (hl : Lawful h.transfers) (hh : Distinct h.calls)
    (hd : (delivered h.calls).Nodup) :
    (∀ (op : Operation) (k : ℕ), k < h.session.made →
      (∀ c ∈ op.touched h.session, c.number ≠ k) →
      let d := op.run E h.session
      d.session.holders k = h.session.holders k ∧
      (∀ name i, i.context.number = k →
        (d.session.instances.get? name = some i ↔ h.session.instances.get? name = some i)) ∧
      (∀ name m, m.context.number = k →
        (d.session.messages.get? name = some m ↔ h.session.messages.get? name = some m)) ∧
      (∀ call ∈ d.trace.calls, call.context? ≠ some k ∧
        ∀ c ∈ h.session.holding.references, c.number = k → call.handle? ≠ some c.handle) ∧
      ∀ name m, h.session.messages.get? name = some m → m.context.number = k →
        m.address ∉ freed d.trace.calls) ∧
    ∀ inst i message m into, h.session.instances.get? inst = some i →
      h.session.messages.get? message = some m → m.context.number ≠ i.context.number →
      h.session.messages.get? into = none →
      let d := (Operation.send inst message into).run E h.session
      let a := (E.sendMessage i.context.handle m.address h.session.engine).1
      d.trace.calls = [.sendMessage i.context.number i.context.handle m.address a] ∧
      d.value = (if a = 0 then .error (.failed .sendFailed) else .ok (.number a)) ∧
      d.session.messages.get? into = (if a = 0 then none else some ⟨i.context, a⟩) ∧
      d.session.messages.get? message = some m ∧
      (∀ k, d.session.holders k =
        h.session.holders k + if i.context.number = k ∧ a ≠ 0 then 1 else 0) ∧
      ∀ name j, d.session.instances.get? name = some j →
        ((Operation.discardInstance name).run E d.session).trace.calls =
          (if d.session.holders j.context.number = 1 then
            [.shutDown j.context.number j.context.handle]
          else []) ∧
        ((Operation.shutDown name).run E d.session).value =
          (if d.session.holders j.context.number = 1 then .ok .nothing
          else .error (.failed .instanceInUse)) ∧
        ((Operation.shutDown name).run E d.session).trace.calls =
          if d.session.holders j.context.number = 1 then
            [.shutDown j.context.number j.context.handle]
          else [] := by
  refine ⟨fun op k hk apart => hr.frame hl hh hd op hk apart, ?_⟩
  intro inst i message m into hi hm hne hinto d a
  obtain ⟨calls, value, stored, stays, holders⟩ := send_spec (E := E) hi hm hinto
  refine ⟨calls, value, stored, stays, holders, fun name j hj => ⟨?_, run_shutDown hj⟩⟩
  have hr' : Reached E (h.step E (.operation (.send inst message into))) := hr.step _
  exact hr'.run_discardInstance hj

/-- Two engines, and a message from the second one. -/
def twoContexts : List Trial.Step :=
  [.operation (.initialise "first" 33 "sip"), .operation (.initialise "second" 33 "sip"), .push,
    .operation (.getMessage "second" (.ofMillis 0) "message")]

/-- The first engine is sent the message of the second one, and lets go of its instance. -/
theorem twoContexts_isolated :
    let h := Trial.history {} [] twoContexts
    let sent := (Operation.send "first" "message" "response").run Trial.engine h.session
    let gone := (Operation.discardInstance "first").run Trial.engine h.session
    Reached Trial.engine h ∧ Lawful h.transfers ∧ Distinct h.calls ∧ (delivered h.calls).Nodup ∧
      gone.trace.calls = [.shutDown 0 16] ∧ gone.session.holders 1 = 2 ∧
      gone.session.messages.get? "message" = some ⟨⟨1, 32, 33⟩, 48⟩ ∧
      sent.trace.calls = [.sendMessage 0 16 48 64] ∧ sent.session.holders 0 = 2 ∧
      sent.session.holders 1 = 2 ∧
      sent.session.messages.get? "response" = some ⟨⟨0, 16, 33⟩, 64⟩ ∧
      ((Operation.discardInstance "first").run Trial.engine sent.session).trace.calls = [] := by
  intro h sent gone
  have hr : Reached Trial.engine h := Trial.reached_history
  have hl : Lawful h.transfers := by decide
  have hh : Distinct h.calls := Trial.register_history.2
  have hd : (delivered h.calls).Nodup := Trial.nodup_delivered_history hl
  have hm : h.session.messages.get? "message" = some ⟨⟨1, 32, 33⟩, 48⟩ := by decide
  have two : h.session.holders 1 = 2 := by decide
  obtain ⟨frame, cross⟩ := contexts_isolated hr hl hh hd
  obtain ⟨holders, -, messages, -⟩ := frame (.discardInstance "first") 1 (by decide) (by decide)
  obtain ⟨calls, -, stored, -, more, ends⟩ := cross "first" ⟨⟨0, 16, 33⟩⟩ "message" _ "response"
    (by decide) hm (by decide) (by decide)
  have first : sent.session.holders 0 = 2 := more 0
  refine ⟨hr, hl, hh, hd, by decide, holders.trans two, (messages "message" _ rfl).2 hm, calls,
    first, more 1, stored, ?_⟩
  rw [(ends "first" ⟨⟨0, 16, 33⟩⟩ (by decide)).1, if_neg (by rw [first]; decide)]

end History

end Switchboard
