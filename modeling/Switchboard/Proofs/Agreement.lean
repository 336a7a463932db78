import Switchboard.Proofs.Provenance

/-!
# Sessions that agree

Two sessions agree if they hold the same things in the same slots, in whatever order the slots were
filled. Some kept addresses are spared, and may differ (`Session.Agrees`). Nothing that a session
does can tell agreeing sessions apart (`Blind`): the parts of an operation look slots up and count
holders, and that comes to the same. So an operation that uses no spared address has the same result
and the same trace in agreeing sessions, and they agree afterwards (`Operation.blind_run`).
-/

namespace Switchboard

variable {σ α β : Type} {E : Engine σ} {spare : List String} {s s' s'' : Session σ}

/-! ## Agreement -/

namespace Slots

variable {t t' : Slots α} {name other : String}

theorem get?_insert_congr (h : t'.get? other = t.get? other) (x : α) :
    (t'.insert name x).get? other = (t.insert name x).get? other := by
  by_cases ho : other = name
  · rw [ho, get?_insert_self, get?_insert_self]
  · rw [get?_insert_of_ne ho, get?_insert_of_ne ho, h]

theorem get?_erase_congr (h : t'.get? other = t.get? other) :
    (t'.erase name).get? other = (t.erase name).get? other := by
  by_cases ho : other = name
  · rw [ho, get?_erase_self, get?_erase_self]
  · rw [get?_erase_of_ne ho, get?_erase_of_ne ho, h]

end Slots

/-- Two sessions are the same but for the order of the slots and some kept addresses. -/
structure Session.Agrees (spare : List String) (s s' : Session σ) : Prop where
  engine : s'.engine = s.engine
  made : s'.made = s.made
  instances : ∀ name, s'.instances.get? name = s.instances.get? name
  messages : ∀ name, s'.messages.get? name = s.messages.get? name
  kept : ∀ name ∉ spare, s'.kept.get? name = s.kept.get? name

namespace Session.Agrees

theorem refl (spare : List String) (s : Session σ) : s.Agrees spare s :=
  ⟨rfl, rfl, fun _ => rfl, fun _ => rfl, fun _ _ => rfl⟩

theorem trans (h : s.Agrees spare s') (h' : s'.Agrees spare s'') : s.Agrees spare s'' where
  engine := h'.engine.trans h.engine
  made := h'.made.trans h.made
  instances name := (h'.instances name).trans (h.instances name)
  messages name := (h'.messages name).trans (h.messages name)
  kept name hn := (h'.kept name hn).trans (h.kept name hn)

/-- There are as many holders of each context. -/
theorem holders (h : s.Agrees spare s') (k : ℕ) : s'.holders k = s.holders k := by
  apply Session.holders_congr
  · exact fun name _ _ => by rw [h.instances name]
  · exact fun name _ _ => by rw [h.messages name]

theorem setEngine (h : s.Agrees spare s') (engine : σ) :
    { s with engine }.Agrees spare { s' with engine } :=
  ⟨rfl, h.made, h.instances, h.messages, h.kept⟩

theorem insertInstance (h : s.Agrees spare s') (name : String) (i : Instance) :
    { s with instances := s.instances.insert name i }.Agrees spare
      { s' with instances := s'.instances.insert name i } :=
  { h with instances := fun other => Slots.get?_insert_congr (h.instances other) i }

theorem eraseInstance (h : s.Agrees spare s') (name : String) :
    { s with instances := s.instances.erase name }.Agrees spare
      { s' with instances := s'.instances.erase name } :=
  { h with instances := fun other => Slots.get?_erase_congr (h.instances other) }

theorem insertMessage (h : s.Agrees spare s') (name : String) (m : Message) :
    { s with messages := s.messages.insert name m }.Agrees spare
      { s' with messages := s'.messages.insert name m } :=
  { h with messages := fun other => Slots.get?_insert_congr (h.messages other) m }

theorem eraseMessage (h : s.Agrees spare s') (name : String) :
    { s with messages := s.messages.erase name }.Agrees spare
      { s' with messages := s'.messages.erase name } :=
  { h with messages := fun other => Slots.get?_erase_congr (h.messages other) }

theorem keep (h : s.Agrees spare s') (name : String) (a : Address) :
    { s with kept := s.kept.insert name a }.Agrees spare
      { s' with kept := s'.kept.insert name a } :=
  { h with kept := fun other ho => Slots.get?_insert_congr (h.kept other ho) a }

end Session.Agrees

/-- Two outcomes are the same, and leave sessions that agree. -/
structure Done.Agrees (spare : List String) (d d' : Done σ α) : Prop where
  value : d'.value = d.value
  trace : d'.trace = d.trace
  session : d.session.Agrees spare d'.session

/-! ## Actions that cannot tell sessions apart -/

/-- An action comes to the same in sessions that agree. -/
def Blind (spare : List String) (m : Action σ α) : Prop :=
  ∀ ⦃s s' : Session σ⦄, s.Agrees spare s' → (m s).Agrees spare (m s')

namespace Blind

variable {m : Action σ α} {f : α → Action σ β}

theorem pure (x : α) : Blind spare (Pure.pure x : Action σ α) :=
  fun _ _ h => ⟨rfl, rfl, h⟩

theorem bind (hm : Blind spare m) (hf : ∀ x, Blind spare (f x)) : Blind spare (m >>= f) := by
  intro s s' h
  have first := hm h
  have next := hf (m s).value first.session
  rw [Action.bind_apply, Action.bind_apply, first.value, first.trace]
  exact ⟨next.value, by rw [next.trace], next.session⟩

theorem change {g : Session σ → Session σ}
    (hg : ∀ {s s' : Session σ}, s.Agrees spare s' → (g s).Agrees spare (g s')) :
    Blind spare (Action.change g) :=
  fun _ _ h => ⟨rfl, rfl, hg h⟩

theorem notice (n : Notice) : Blind spare (Action.notice n : Action σ Unit) :=
  fun _ _ h => ⟨rfl, rfl, h⟩

theorem call (g : σ → α × σ) (record : α → Call) : Blind spare (Action.call g record) := by
  intro s s' h
  rw [Action.call_apply, Action.call_apply, h.engine]
  exact ⟨rfl, rfl, h.setEngine _⟩

end Blind

/-! ## Operations -/

section Operations

variable {name into : String}

theorem blind_takeInstance (name : String) :
    Blind spare (takeInstance name : Action σ (Option Instance)) :=
  fun _ _ h => ⟨h.instances name, rfl, h.eraseInstance name⟩

theorem blind_takeMessage (name : String) :
    Blind spare (takeMessage name : Action σ (Option Message)) :=
  fun _ _ h => ⟨h.messages name, rfl, h.eraseMessage name⟩

theorem blind_callShutDown (c : Context) (handle : Address) :
    Blind spare (c.callShutDown E handle) :=
  (Blind.notice _).bind fun _ => .call _ _

theorem blind_finish (c : Context) : Blind spare (c.finish E) := by
  unfold Context.finish
  split
  · exact .pure ()
  · exact blind_callShutDown c c.handle

theorem blind_release (c : Context) : Blind spare (c.release E) := by
  intro s s' h
  have same := h.holders c.number
  by_cases hk : s.holders c.number = 0
  · have release {s : Session σ} (h : s.holders c.number = 0) : c.release E s = c.finish E s := by
      simp [Context.release, h]
    rw [release hk, release (same.trans hk)]
    exact blind_finish c h
  · rw [Context.release_shared hk, Context.release_shared (same.trans_ne hk)]
    exact ⟨rfl, rfl, h⟩

theorem blind_discard (m : Message) : Blind spare (m.discard E) := by
  refine Blind.bind ?_ fun _ => blind_release m.context
  unfold Message.free
  split
  · exact .pure ()
  · exact (Blind.notice _).bind fun _ => .call _ _

theorem blind_storeInstance (i : Instance) : Blind spare (storeInstance E into i) := by
  intro s s' h
  have same := h.instances into
  cases hg : s.instances.get? into with
  | none =>
    rw [storeInstance_of_none hg, storeInstance_of_none (same.trans hg)]
    exact ⟨rfl, rfl, h.insertInstance into i⟩
  | some old =>
    rw [storeInstance_of_some hg, storeInstance_of_some (same.trans hg)]
    exact blind_release old.context (h.insertInstance into i)

theorem blind_storeMessage (m : Message) : Blind spare (storeMessage E into m) := by
  intro s s' h
  have same := h.messages into
  cases hg : s.messages.get? into with
  | none =>
    rw [storeMessage_of_none hg, storeMessage_of_none (same.trans hg)]
    exact ⟨rfl, rfl, h.insertMessage into m⟩
  | some old =>
    rw [storeMessage_of_some hg, storeMessage_of_some (same.trans hg)]
    exact blind_discard old (h.insertMessage into m)

theorem blind_keepInstance (r : Except Error Instance) : Blind spare (keepInstance E into r) := by
  cases r with
  | error e => exact .pure _
  | ok i => exact (blind_storeInstance i).bind fun _ => .pure _

theorem blind_keepMessage (r : Except Error Message) : Blind spare (keepMessage E into r) := by
  cases r with
  | error e => exact .pure _
  | ok m => exact (blind_storeMessage m).bind fun _ => .pure _

theorem blind_initialise (requested : UInt32) (options : String) :
    Blind spare (Instance.initialise E requested options) := by
  intro s s' h
  cases hn : NulFault.find? (Utf8.encode options.toList) with
  | some fault =>
    rw [Instance.initialise_of_nul hn, Instance.initialise_of_nul hn]
    exact ⟨rfl, rfl, h⟩
  | none =>
    rcases call : E.initialise requested options s.engine with ⟨answer, engine⟩
    have call' := h.engine ▸ call
    by_cases ha : answer.handle = 0
    · rw [Instance.initialise_of_null hn call ha, Instance.initialise_of_null hn call' ha]
      exact ⟨rfl, rfl, h.setEngine engine⟩
    · rw [Instance.initialise_of_handle hn call ha, Instance.initialise_of_handle hn call' ha,
        h.made]
      exact ⟨rfl, rfl, rfl, rfl, h.instances, h.messages, h.kept⟩

theorem blind_shutDown (i : Instance) : Blind spare (i.shutDown E) := by
  intro s s' h
  have same := h.holders i.context.number
  by_cases hk : s.holders i.context.number = 0
  · rw [Instance.shutDown_last hk, Instance.shutDown_last (same.trans hk), h.engine]
    exact ⟨rfl, rfl, h.setEngine _⟩
  · rw [Instance.shutDown_shared hk, Instance.shutDown_shared (same.trans_ne hk)]
    exact ⟨rfl, rfl, h⟩

theorem blind_getMessage (i : Instance) (wait : Duration) : Blind spare (i.getMessage E wait) := by
  refine (Blind.call _ _).bind fun answer => ?_
  split
  · exact .pure _
  · exact (Blind.notice _).bind fun _ => .pure _

theorem blind_sendAddress (i : Instance) (message : Address) :
    Blind spare (i.sendAddress E message) := by
  refine (Blind.call _ _).bind fun answer => ?_
  split
  · exact .pure _
  · exact (Blind.notice _).bind fun _ => .pure _

theorem blind_withInstance {f : Instance → Action σ (Except Refusal α)}
    (hf : ∀ i, Blind spare (f i)) : Blind spare (withInstance name f) := by
  intro s s' h
  have same := h.instances name
  cases hg : s.instances.get? name with
  | none =>
    rw [withInstance_none hg, withInstance_none (same.trans hg)]
    exact ⟨rfl, rfl, h⟩
  | some i =>
    rw [withInstance_some hg, withInstance_some (same.trans hg)]
    exact hf i h

theorem blind_withMessage {f : Message → Action σ (Except Refusal α)}
    (hf : ∀ m, Blind spare (f m)) : Blind spare (withMessage name f) := by
  intro s s' h
  have same := h.messages name
  cases hg : s.messages.get? name with
  | none =>
    rw [withMessage_none hg, withMessage_none (same.trans hg)]
    exact ⟨rfl, rfl, h⟩
  | some m =>
    rw [withMessage_some hg, withMessage_some (same.trans hg)]
    exact hf m h

/-- An address is taken from a slot that is spared. -/
def AddressSource.Uses (spare : List String) : AddressSource → Prop
  | .slot name => name ∈ spare
  | .address _ => False

theorem blind_withAddress {source : AddressSource} {f : Address → Action σ (Except Refusal α)}
    (hs : ¬ source.Uses spare) (hf : ∀ a, Blind spare (f a)) :
    Blind spare (withAddress source f) := by
  intro s s' h
  have same : source.address? s' = source.address? s := by
    cases source with
    | address a => rfl
    | slot name => exact h.kept name hs
  cases hg : source.address? s with
  | none =>
    rw [withAddress_none hg, withAddress_none (same.trans hg)]
    exact ⟨rfl, rfl, h⟩
  | some a =>
    rw [withAddress_some hg, withAddress_some (same.trans hg)]
    exact hf a h

/-- An operation takes an address from a spared slot, or keeps one there. -/
def Operation.Uses (spare : List String) : Operation → Prop
  | .sendAddress source .. | .takeBack source .. => source.Uses spare
  | .giveAway _ into => into ∈ spare
  | _ => False

instance : DecidablePred (AddressSource.Uses spare)
  | .slot name => inferInstanceAs (Decidable (name ∈ spare))
  | .address _ => isFalse id

instance : DecidablePred (Operation.Uses spare)
  | .sendAddress source .. | .takeBack source .. => inferInstanceAs (Decidable (source.Uses spare))
  | .giveAway _ into => inferInstanceAs (Decidable (into ∈ spare))
  | .initialise .. | .initialiseWith .. | .share .. | .version _ | .handle _ | .showInstance ..
  | .discardInstance _ | .shutDown _ | .getMessage .. | .send .. | .address _ | .showMessage ..
  | .discardMessage _ => isFalse id

/-- An operation that uses no spared slot comes to the same in sessions that agree. -/
theorem Operation.blind_run {op : Operation} (h : ¬ op.Uses spare) : Blind spare (op.run E) := by
  cases op with
  | initialise into requested options =>
    exact (blind_initialise requested options).bind fun r => blind_keepInstance r
  | initialiseWith into options =>
    refine Blind.bind ?_ fun r => blind_keepInstance r
    unfold Instance.initialiseWith
    cases options.render with
    | error e => exact .pure _
    | ok text => exact blind_initialise interfaceVersion text
  | share inst into => exact blind_withInstance fun i => blind_keepInstance (.ok i)
  | version inst => exact blind_withInstance fun i => .pure _
  | handle inst => exact blind_withInstance fun i => .pure _
  | showInstance inst pretty => exact blind_withInstance fun i => .pure _
  | discardInstance inst =>
    refine (blind_takeInstance inst).bind ?_
    rintro (_ | i)
    · exact .pure _
    · exact (blind_release i.context).bind fun _ => .pure _
  | shutDown inst =>
    refine (blind_takeInstance inst).bind ?_
    rintro (_ | i)
    · exact .pure _
    · refine (blind_shutDown i).bind ?_
      rintro (e | _) <;> exact .pure _
  | getMessage inst wait into =>
    exact blind_withInstance fun i =>
      (blind_getMessage i wait).bind fun r => blind_keepMessage r
  | send inst message into =>
    exact blind_withInstance fun i => blind_withMessage fun m =>
      (blind_sendAddress i m.address).bind fun r => blind_keepMessage r
  | sendAddress source inst into =>
    exact blind_withAddress h fun a => blind_withInstance fun i =>
      (blind_sendAddress i a).bind fun r => blind_keepMessage r
  | address message => exact blind_withMessage fun m => .pure _
  | showMessage message pretty => exact blind_withMessage fun m => .pure _
  | discardMessage message =>
    refine (blind_takeMessage message).bind ?_
    rintro (_ | m)
    · exact .pure _
    · exact (blind_discard m).bind fun _ => .pure _
  | giveAway message into =>
    refine (blind_takeMessage message).bind ?_
    rintro (_ | m)
    · exact .pure _
    · refine Blind.bind ?_ fun a => (Blind.change fun h => h.keep into a).bind fun _ => .pure _
      exact (blind_discard { m with address := 0 }).bind fun _ => .pure _
  | takeBack source inst into =>
    exact blind_withAddress h fun a => blind_withInstance fun i => blind_keepMessage _

end Operations

end Switchboard
