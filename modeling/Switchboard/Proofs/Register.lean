import Switchboard.Proofs.Handles

/-!
# The register of the engine for trials

The engine for trials has a register of the handles that are open, and it writes down when a call
comes with any other handle. The register agrees with the calls of a run, and the handles in it are
below the next address, so no handle is given again while it is open (`Register.effect`). Since
every call comes with an open handle, none of the bad events is ever written down.
-/

namespace Switchboard.Trial

/-- An event that names a handle which is not open. -/
def Event.Bad : Event → Prop
  | .badShutDown _ | .badGet .. | .badSend .. => True
  | _ => False

/-- The engine knows the handles that are open, and has seen no other. -/
structure Register (e : State) (handles : List Address) : Prop where
  handles : e.handles = handles
  lt_next : ∀ a ∈ e.handles, a < e.next
  next_pos : 0 < e.next
  clean : ∀ event ∈ e.events, ¬ event.Bad

namespace Register

variable {e e' : State} {handles : List Address} {handle a : Address}

/-! ## Calls -/

theorem record (h : Register e handles) (event : Event) (he : ¬ event.Bad) :
    Register (e.record event) handles where
  handles := h.handles
  lt_next := h.lt_next
  next_pos := h.next_pos
  clean := List.forall_mem_cons.2 ⟨he, h.clean⟩

/-- The messages do not matter. -/
theorem keep (h : Register e handles) (hh : e'.handles = e.handles) (hn : e.next ≤ e'.next)
    (he : e'.events = e.events) : Register e' handles where
  handles := hh.trans h.handles
  lt_next a ha := Nat.lt_of_lt_of_le (h.lt_next a (hh ▸ ha)) hn
  next_pos := Nat.lt_of_lt_of_le h.next_pos hn
  clean := he ▸ h.clean

theorem push (h : Register e handles) : Register e.push.2 handles :=
  h.keep rfl (Nat.le_add_right _ 16) rfl

theorem arrive (h : Register e handles) : Register e.arrive handles := by
  unfold State.arrive
  split
  · exact h
  · exact h.push.keep rfl (Nat.le_refl _) rfl
  · exact h.keep rfl (Nat.le_refl _) rfl

theorem getMessage {timeout : UInt32} (h : Register e handles) (open_ : handle ∈ handles)
    (call : e.getMessage handle timeout = (a, e')) : Register e' handles := by
  rw [State.getMessage, if_pos (h.handles ▸ open_)] at call
  have hr := (h.record (.get handle timeout) id).arrive
  dsimp only at call
  split at call <;> cases call
  · exact hr
  · exact hr.keep rfl (Nat.le_refl _) rfl

theorem sendMessage {message : Address} (h : Register e handles) (open_ : handle ∈ handles)
    (call : e.sendMessage handle message = (a, e')) : Register e' handles := by
  rw [State.sendMessage, if_pos (h.handles ▸ open_)] at call
  have hr := h.record (.send handle message) id
  dsimp only at call
  split at call <;> cases call
  · exact hr
  · exact hr.keep rfl (Nat.le_add_right _ 16) rfl

theorem freeMessage (h : Register e handles) (message : Address) :
    Register (e.freeMessage message) handles := by
  have hr := h.record (.free message) id
  unfold State.freeMessage
  dsimp only
  split <;> exact hr.keep rfl (Nat.le_refl _) rfl

theorem shutDown (h : Register e handles) (open_ : handle ∈ handles) :
    Register (e.shutDown handle) (handles.filter (· ≠ handle)) := by
  have hr := h.record (.shutDown handle) id
  rw [State.shutDown, if_pos (h.handles ▸ open_)]
  refine ⟨by rw [h.handles], fun a ha => ?_, h.next_pos, hr.clean⟩
  exact h.lt_next a (List.mem_of_mem_filter ha)

/-- An initialise call gives a new handle, or none. -/
theorem initialise {requested : UInt32} {options : String} {answer : Opening}
    (h : Register e handles) (call : e.initialise requested options = (answer, e')) :
    answer.handle = 0 ∧ Register e' handles ∨
      answer.handle ≠ 0 ∧ answer.handle ∉ handles ∧ Register e' (answer.handle :: handles) := by
  have hr := h.record (.init requested options) id
  unfold State.initialise at call
  dsimp only at call
  split at call <;> cases call
  · exact .inl ⟨rfl, hr⟩
  · refine .inr ⟨Nat.ne_of_gt h.next_pos, fun hm => ?_, ?_⟩
    · exact Nat.lt_irrefl _ (h.lt_next _ (h.handles ▸ hm))
    refine ⟨congrArg _ hr.handles, ?_, Nat.add_pos_left h.next_pos 16, hr.clean⟩
    refine List.forall_mem_cons.2 ⟨Nat.lt_add_of_pos_right (by decide), fun a ha => ?_⟩
    exact Nat.lt_add_right 16 (h.lt_next a ha)

/-! ## Effects -/

/-- The register agrees with the calls, and the handles that it gives are different. -/
theorem effect {calls : List Call} {H H₁ : Holding State} {t : Trace} {l : List Transfer}
    (h : Register H.engine (openHandles calls)) (hd : Distinct calls) (hp : Pinned calls H)
    (he : Effect engine H t l H₁) :
    Register H₁.engine (openHandles (calls ++ t.calls)) ∧ Distinct (calls ++ t.calls) := by
  cases he with
  | opened call ne =>
    obtain ⟨eq, -⟩ | ⟨-, hn, hr⟩ := h.initialise call
    · exact absurd eq ne
    · rw [openHandles_append_singleton, Call.openAfter, if_neg ne]
      refine ⟨hr, proper_append_singleton.2 ⟨hd, fun o ho => ?_⟩⟩
      rw [Call.opening?, if_neg ne] at ho
      cases ho
      exact hn
  | refused call eq =>
    obtain ⟨-, hr⟩ | ⟨ne, -⟩ := h.initialise call
    · rw [openHandles_append_singleton, Call.openAfter, if_pos eq]
      exact ⟨hr, hd.skip (if_pos eq)⟩
    · exact absurd eq ne
  | shared mem => rw [List.append_nil]; exact ⟨h, hd⟩
  | received mem call ne =>
    rw [openHandles_skip rfl]
    exact ⟨h.getMessage (hp.mem_openHandles _ mem) call, hd.skip rfl⟩
  | missed mem call =>
    rw [openHandles_skip rfl]
    exact ⟨h.getMessage (hp.mem_openHandles _ mem) call, hd.skip rfl⟩
  | responded mem call ne =>
    rw [openHandles_skip rfl]
    exact ⟨h.sendMessage (hp.mem_openHandles _ mem) call, hd.skip rfl⟩
  | unanswered mem call =>
    rw [openHandles_skip rfl]
    exact ⟨h.sendMessage (hp.mem_openHandles _ mem) call, hd.skip rfl⟩
  | tookBack mem ne => rw [List.append_nil]; exact ⟨h, hd⟩
  | freed =>
    rw [openHandles_skip rfl]
    exact ⟨h.freeMessage _, hd.skip rfl⟩
  | gaveAway => rw [List.append_nil]; exact ⟨h, hd⟩
  | left held => rw [List.append_nil]; exact ⟨h, hd⟩
  | ended last =>
    rw [openHandles_append_singleton]
    exact ⟨h.shutDown (hp.mem_openHandles _ (Multiset.mem_cons_self ..)), hd.skip rfl⟩

end Register

/-! ## Trials -/

variable {settings : Settings} {script : List Bool} {steps : List Step}

/-- After every trial the register agrees with the calls. -/
theorem register_history :
    Register (history settings script steps).session.engine
        (openHandles (history settings script steps).calls) ∧
      Distinct (history settings script steps).calls := by
  refine (history_induction (P := fun t _ H =>
    (Register H.engine (openHandles t.calls) ∧ Distinct t.calls) ∧ Pinned t.calls H)
    ?_ ?_ ?_ ?_).1
  · refine ⟨⟨⟨rfl, ?_, Nat.zero_lt_succ 15, ?_⟩, proper_nil⟩, Pinned.start _⟩
    · exact fun a ha => absurd ha List.not_mem_nil
    · exact fun e he => absurd he List.not_mem_nil
  · rintro t l H t₁ l₁ H₁ ⟨⟨hr, hd⟩, hp⟩ he
    have hr' := hr.effect hd hp he
    exact ⟨hr', hp.effect hr'.2 he⟩
  · rintro t l H ⟨⟨hr, hd⟩, hp⟩
    exact ⟨⟨hr.push, hd⟩, hp.mem_openHandles, hp.number_eq⟩
  · rintro t l H a ⟨⟨hr, hd⟩, hp⟩
    exact ⟨⟨hr.keep rfl (Nat.le_refl _) rfl, hd⟩, hp.mem_openHandles, hp.number_eq⟩

/-- **Nothing is used after it was shut down.** Every call of a run but an initialise call is made
for a context that is not shut down yet, with the handle of its opening, so every message is freed
before the engine is shut down; if the engine gives different handles to open instances, that handle
is open. A message that is let go of is freed first, and if it was the last reference, the engine is
shut down next. The engine for trials gives different handles, and never sees a bad one. -/
theorem no_use_after_shutDown :
    (∀ {σ : Type} {E : Engine σ} {h : History σ}, History.Reached E h →
      Proper ForLiveContext h.calls ∧
      (Distinct h.calls → Proper WithOpenHandle h.calls) ∧
      ∀ name m, h.session.messages.get? name = some m →
        ((Operation.discardMessage name).run E h.session).trace.calls =
          .freeMessage m.context.number m.address ::
            if h.session.holders m.context.number = 1 then
              [.shutDown m.context.number m.context.handle]
            else []) ∧
    ∀ (settings : Settings) (script : List Bool) (steps : List Step),
      Distinct (history settings script steps).calls ∧
        ∀ event ∈ (history settings script steps).session.engine.events, ¬ event.Bad := by
  refine ⟨fun hr => ⟨hr.forLiveContext, hr.withOpenHandle, fun name m hm => ?_⟩, ?_⟩
  · exact hr.calls_discardMessage hm
  · exact fun settings script steps => ⟨register_history.2, register_history.1.clean⟩

/-- Two instances and a message; the first instance may not shut the engine down, and the second one
is let go of. -/
def lastMessage : List Step :=
  [.operation (.initialise "first" 33 "sip"), .operation (.share "first" "second"), .push,
    .operation (.getMessage "first" (.ofMillis 0) "message"), .operation (.shutDown "first"),
    .operation (.discardInstance "second")]

/-- The message that is left is freed, and then the engine is shut down. -/
theorem lastMessage_freed_before_shutDown :
    let h := history {} [] lastMessage
    History.Reached engine h ∧ Distinct h.calls ∧ Proper WithOpenHandle h.calls ∧
      (∀ event ∈ h.session.engine.events, ¬ event.Bad) ∧
      ((Operation.discardMessage "message").run engine h.session).trace.calls =
        [.freeMessage 0 32, .shutDown 0 16] := by
  intro h
  obtain ⟨run, trial⟩ := no_use_after_shutDown
  obtain ⟨hd, clean⟩ := trial {} [] lastMessage
  obtain ⟨-, withOpen, freed⟩ := run (h := h) reached_history
  refine ⟨reached_history, hd, withOpen hd, clean, ?_⟩
  rw [freed "message" ⟨⟨0, 16, 33⟩, 32⟩ (by decide), if_pos (by decide)]

end Switchboard.Trial
