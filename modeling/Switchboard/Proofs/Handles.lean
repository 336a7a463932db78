import Switchboard.Proofs.Ledger
import Switchboard.Proofs.Trials

/-!
# Handles in use

No call is made with a handle that was shut down. Every call but an initialise call is made on
behalf of a context to which something refers (`Effect.proper`), and such a context is not shut
down, by the ledger (`Ledger.forLiveContext`). That makes the handle an open one if the engine gives
different handles to open instances: a reference then pins its handle, and no other context has the
same one (`Pinned`).
-/

namespace Switchboard

variable {σ : Type} {E : Engine σ}

/-! ## On whose behalf -/

/-- A call is made on behalf of a context that is held, with its handle. -/
def Call.Backed (H : Holding σ) (call : Call) : Prop :=
  ∀ k ∈ call.context?, ∃ c ∈ H.references, c.number = k ∧ ∀ a ∈ call.handle?, a = c.handle

/-- A call with a handle is made on behalf of a context. -/
theorem Call.exists_context {call : Call} {a : Address} (ha : a ∈ call.handle?) :
    ∃ k, k ∈ call.context? := by
  cases call with
  | initialise => cases ha
  | shutDown | getMessage | sendMessage | freeMessage => exact ⟨_, rfl⟩

/-- An effect makes one call at most, on behalf of a context that is held. -/
theorem Effect.calls_cases {H H₁ : Holding σ} {t : Trace} {l : List Transfer}
    (he : Effect E H t l H₁) : t.calls = [] ∨ ∃ call, t.calls = [call] ∧ call.Backed H := by
  have backed {call : Call} {c : Context} (hc : c ∈ H.references)
      (hk : call.context? = some c.number)
      (hh : call.handle? = none ∨ call.handle? = some c.handle) : call.Backed H := by
    intro k h
    rw [hk] at h
    refine ⟨c, hc, Option.some.inj h, fun a ha => ?_⟩
    rcases hh with hh | hh <;> rw [hh] at ha
    · cases ha
    · exact (Option.some.inj ha).symm
  cases he with
  | opened call ne => exact .inr ⟨_, rfl, fun k hk => nomatch hk⟩
  | refused call eq => exact .inr ⟨_, rfl, fun k hk => nomatch hk⟩
  | shared mem => exact .inl rfl
  | received mem call ne => exact .inr ⟨_, rfl, backed mem rfl (.inr rfl)⟩
  | missed mem call => exact .inr ⟨_, rfl, backed mem rfl (.inr rfl)⟩
  | responded mem call ne => exact .inr ⟨_, rfl, backed mem rfl (.inr rfl)⟩
  | unanswered mem call => exact .inr ⟨_, rfl, backed mem rfl (.inr rfl)⟩
  | tookBack mem ne => exact .inl rfl
  | freed => exact .inr ⟨_, rfl, backed (Multiset.mem_cons_self ..) rfl (.inl rfl)⟩
  | gaveAway => exact .inl rfl
  | left held => exact .inl rfl
  | ended last => exact .inr ⟨_, rfl, backed (Multiset.mem_cons_self ..) rfl (.inr rfl)⟩

/-- What is proper for the calls on behalf of contexts that are held is proper for all calls. -/
theorem Effect.proper {P : List Call → Call → Prop} {calls : List Call} {H H₁ : Holding σ}
    {t : Trace} {l : List Transfer} (he : Effect E H t l H₁) (h : Proper P calls)
    (hP : ∀ call, call.Backed H → P calls call) : Proper P (calls ++ t.calls) := by
  rcases he.calls_cases with ht | ⟨call, ht, hb⟩
  · rwa [ht, List.append_nil]
  · rw [ht]
    exact proper_append_singleton.2 ⟨h, hP call hb⟩

/-- A call is made for a context that is not shut down, with the handle of its opening. -/
def ForLiveContext (before : List Call) (call : Call) : Prop :=
  ∀ k ∈ call.context?, shutDownsOf k before = [] ∧
    ∀ a ∈ call.handle?, (openings before)[k]?.map (·.handle) = some a

theorem Ledger.forLiveContext {calls : List Call} {H : Holding σ} {call : Call}
    (h : Ledger calls H) (hb : call.Backed H) : ForLiveContext calls call := by
  intro k hk
  obtain ⟨c, hc, rfl, ha⟩ := hb k hk
  refine ⟨h.shutDownsOf_of_holders_ne (Holding.holders_ne_zero_of_mem hc), fun a hm => ?_⟩
  rw [h.opened c hc, ha a hm]
  rfl

/-- Every call of a run is made for a context that is not shut down. -/
theorem History.Reached.forLiveContext {h : History σ} (hr : Reached E h) :
    Proper ForLiveContext h.calls := by
  obtain ⟨engine, ms, rfl⟩ := hr
  refine (effect_induction (P := fun t _ H => Ledger t.calls H ∧ Proper ForLiveContext t.calls)
    (sound_start engine) ⟨ledger_start engine, proper_nil⟩ ?_ ?_).2.2
  · rintro t l H t₁ l₁ H₁ - ⟨hl, hp⟩ he
    exact ⟨hl.effect he, he.proper hp fun call hb => hl.forLiveContext hb⟩
  · rintro t l H f - ⟨hl, hp⟩
    exact ⟨hl.outside _, hp⟩

/-! ## Open handles -/

/-- A handle that an engine gives is different from those that are open. -/
def Distinct (calls : List Call) : Prop :=
  Proper (fun before call => ∀ o ∈ call.opening?, o.handle ∉ openHandles before) calls

instance (calls : List Call) : Decidable (Distinct calls) :=
  inferInstanceAs (Decidable (Proper _ calls))

theorem Distinct.skip {calls : List Call} {call : Call} (h : Distinct calls)
    (hc : call.opening? = none) : Distinct (calls ++ [call]) := by
  refine proper_append_singleton.2 ⟨h, fun o ho => ?_⟩
  rw [hc] at ho
  cases ho

/-- A call is made with an open handle, if it is made with one. -/
def WithOpenHandle (before : List Call) (call : Call) : Prop :=
  ∀ a ∈ call.handle?, a ∈ openHandles before

/-- Every reference has an open handle, and references to different contexts have different ones. -/
structure Pinned (calls : List Call) (H : Holding σ) : Prop where
  mem_openHandles : ∀ c ∈ H.references, c.handle ∈ openHandles calls
  number_eq : ∀ c ∈ H.references, ∀ d ∈ H.references, c.handle = d.handle → c.number = d.number

namespace Pinned

variable {calls more : List Call} {H H₁ : Holding σ} {c : Context} {call : Call}

/-- Calls that leave the open handles alone change nothing. -/
theorem skip (h : Pinned calls H) (hr : H₁.references = H.references)
    (ho : openHandles (calls ++ more) = openHandles calls) : Pinned (calls ++ more) H₁ where
  mem_openHandles c hc := by
    rw [ho]
    exact h.mem_openHandles c (hr ▸ hc)
  number_eq c hc d hd := h.number_eq c (hr ▸ hc) d (hr ▸ hd)

theorem add (h : Pinned calls H) (hc : c ∈ H.references) : Pinned calls (H.add c) := by
  have sub : ∀ d ∈ (H.add c).references, d ∈ H.references := by
    intro d hd
    rcases Multiset.mem_cons.1 hd with rfl | hd
    · exact hc
    · exact hd
  exact ⟨fun d hd => h.mem_openHandles d (sub d hd),
    fun d hd e he => h.number_eq d (sub d hd) e (sub e he)⟩

theorem of_add (h : Pinned calls (H.add c)) : Pinned calls H where
  mem_openHandles d hd := h.mem_openHandles d (Multiset.mem_cons_of_mem hd)
  number_eq d hd e he := h.number_eq d (Multiset.mem_cons_of_mem hd) e (Multiset.mem_cons_of_mem he)

/-- A new handle is the handle of no reference. -/
theorem opening (h : Pinned calls H) (hn : c.handle ∉ openHandles calls)
    (hr : H₁.references = c ::ₘ H.references)
    (ho : openHandles (calls ++ more) = c.handle :: openHandles calls) :
    Pinned (calls ++ more) H₁ := by
  have ne : ∀ d ∈ H.references, c.handle ≠ d.handle := fun d hd he =>
    hn (he ▸ h.mem_openHandles d hd)
  refine ⟨fun d hd => ?_, fun d hd e he heq => ?_⟩
  · rw [hr] at hd
    rw [ho]
    rcases Multiset.mem_cons.1 hd with rfl | hd
    · exact List.mem_cons_self
    · exact List.mem_cons_of_mem _ (h.mem_openHandles d hd)
  · rw [hr, Multiset.mem_cons] at hd he
    rcases hd with rfl | hd <;> rcases he with rfl | he
    · rfl
    · exact absurd heq (ne e he)
    · exact absurd heq.symm (ne d hd)
    · exact h.number_eq d hd e he heq

/-- The handle that is shut down with the last reference to its context is pinned by no other. -/
theorem ending (h : Pinned calls (H.add c)) (last : H.holders c.number = 0) {engine : σ} :
    Pinned (calls ++ [.shutDown c.number c.handle]) { H with engine } := by
  refine ⟨fun d hd => ?_, h.of_add.number_eq⟩
  -- the same handle would make it the same context, which nothing refers to any more
  have hne : d.handle ≠ c.handle := by
    intro he
    apply Holding.holders_eq_zero.1 last d hd
    exact h.number_eq d (Multiset.mem_cons_of_mem hd) c (Multiset.mem_cons_self ..) he
  rw [openHandles_append_singleton]
  exact List.mem_filter.2 ⟨h.of_add.mem_openHandles d hd, decide_eq_true hne⟩

/-- Every effect keeps the handles pinned, if the engine gives different ones. -/
theorem effect {t : Trace} {l : List Transfer} (h : Pinned calls H)
    (hd : Distinct (calls ++ t.calls)) (he : Effect E H t l H₁) : Pinned (calls ++ t.calls) H₁ := by
  have nothing : openHandles (calls ++ []) = openHandles calls := by rw [List.append_nil]
  cases he with
  | opened call ne =>
    apply h.opening ((proper_append_singleton.1 hd).2 _ (if_neg ne)) rfl
    rw [openHandles_append_singleton]
    exact if_neg ne
  | refused call eq => exact h.skip rfl (openHandles_skip (if_pos eq))
  | shared mem => exact (h.add mem).skip rfl nothing
  | received mem call ne => exact (h.add mem).skip rfl (openHandles_skip rfl)
  | missed mem call => exact h.skip rfl (openHandles_skip rfl)
  | responded mem call ne => exact (h.add mem).skip rfl (openHandles_skip rfl)
  | unanswered mem call => exact h.skip rfl (openHandles_skip rfl)
  | tookBack mem ne => exact (h.add mem).skip rfl nothing
  | freed => exact h.skip rfl (openHandles_skip rfl)
  | gaveAway => exact h.skip rfl nothing
  | left held => exact h.of_add.skip rfl nothing
  | ended last => exact h.ending last

theorem withOpenHandle (h : Pinned calls H) (hb : call.Backed H) : WithOpenHandle calls call := by
  intro a ha
  obtain ⟨k, hk⟩ := Call.exists_context ha
  obtain ⟨c, hc, -, hh⟩ := hb k hk
  rw [hh a ha]
  exact h.mem_openHandles c hc

theorem start (engine : σ) : Pinned [] (History.start engine).session.holding :=
  ⟨fun c hc => absurd hc (Multiset.notMem_zero c), fun c hc => absurd hc (Multiset.notMem_zero c)⟩

end Pinned

/-- The references that a run has led to are pinned, and its calls were made with open handles, if
the engine gives different ones. -/
theorem History.Reached.pinned_and_withOpenHandle {h : History σ} (hr : Reached E h)
    (hd : Distinct h.calls) : Pinned h.calls h.session.holding ∧ Proper WithOpenHandle h.calls := by
  obtain ⟨engine, ms, rfl⟩ := hr
  refine (effect_induction (P := fun t _ H => Distinct t.calls →
    Pinned t.calls H ∧ Proper WithOpenHandle t.calls) (sound_start engine)
    (fun _ => ⟨Pinned.start engine, proper_nil⟩) ?_ ?_).2 hd
  · rintro t l H t₁ l₁ H₁ - h he hd
    obtain ⟨hp, hw⟩ := h (Proper.of_append hd)
    exact ⟨hp.effect hd he, he.proper hw fun call hb => hp.withOpenHandle hb⟩
  · rintro t l H f - h hd
    obtain ⟨hp, hw⟩ := h hd
    exact ⟨⟨hp.mem_openHandles, hp.number_eq⟩, hw⟩

theorem History.Reached.pinned {h : History σ} (hr : Reached E h) (hd : Distinct h.calls) :
    Pinned h.calls h.session.holding :=
  (hr.pinned_and_withOpenHandle hd).1

/-- Every call of a run is made with an open handle, if the engine gives different ones. -/
theorem History.Reached.withOpenHandle {h : History σ} (hr : Reached E h) (hd : Distinct h.calls) :
    Proper WithOpenHandle h.calls :=
  (hr.pinned_and_withOpenHandle hd).2

/-! ## Freeing before shutting down -/

/-- A message is freed before the end of its reference, which shuts the engine down if it was the
last one. -/
theorem History.Reached.calls_discardMessage {h : History σ} (hr : Reached E h) {name : String}
    {m : Message} (hm : h.session.messages.get? name = some m) :
    ((Operation.discardMessage name).run E h.session).trace.calls =
      .freeMessage m.context.number m.address ::
        if h.session.holders m.context.number = 1 then
          [.shutDown m.context.number m.context.handle]
        else [] := by
  have hc := hr.sound.handle_ne _ (Session.context_mem_of_get?_message hm)
  have ha := hr.sound.address_ne _ (Session.mem_owned_of_get? hm)
  let s : Session σ := { h.session with
    messages := h.session.messages.erase name
    engine := E.freeMessage m.address h.session.engine }
  have hk : h.session.holders m.context.number = s.holders m.context.number + 1 :=
    (Session.holders_erase_message hm).symm
  rw [Operation.run_discardMessage hm]
  simp only [Message.discard, Action.bind_apply, Message.free_of_ne ha]
  show _ :: (m.context.release E s).trace.calls = _
  by_cases last : s.holders m.context.number = 0
  · rw [Context.release_last hc last, if_pos (by omega)]
  · rw [Context.release_shared last, if_neg (by omega)]

end Switchboard
