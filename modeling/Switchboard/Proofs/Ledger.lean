import Switchboard.Proofs.Simulation

/-!
# The ledger of contexts

The calls of a run are the books on its contexts: the `k`-th opening made the context with number
`k`, and a context was shut down if and only if nothing refers to it any more (`Ledger`). Every
effect keeps the books right (`Ledger.effect`), so they are right after every run
(`History.Reached.ledger`), and it is the operation that ends the last reference to a context that
shuts it down, whichever it is (`History.Reached.shutDownsOf_operation`).
-/

namespace Switchboard

variable {σ : Type} {E : Engine σ}

/-- Contexts that the same opening made are the same. -/
theorem Context.eq_of_opened {answers : List Opening} {c d : Context}
    (hc : answers[c.number]? = some ⟨c.handle, c.version⟩)
    (hd : answers[d.number]? = some ⟨d.handle, d.version⟩) (same : c.number = d.number) :
    c = d := by
  rw [same, hd] at hc
  obtain ⟨handle, version⟩ := Opening.mk.inj (Option.some.inj hc)
  cases c
  cases d
  simp_all

/-- The calls agree with the references that are held. -/
structure Ledger (calls : List Call) (H : Holding σ) : Prop where
  /-- Each opening made a context. -/
  length_openings : (openings calls).length = H.made
  /-- A reference has the handle and the version of the opening with its number. -/
  opened : ∀ c ∈ H.references, (openings calls)[c.number]? = some ⟨c.handle, c.version⟩
  /-- A context to which something refers is not shut down, and any other one was shut down once,
  with the handle of its opening. -/
  shutDowns : ∀ k, shutDownsOf k calls =
    if H.holders k = 0 then ((openings calls)[k]?.map (·.handle)).toList else []

namespace Ledger

variable {calls more : List Call} {H H₁ : Holding σ} {c : Context} {k : ℕ} {answer : Opening}

theorem number_lt (h : Ledger calls H) (hc : c ∈ H.references) : c.number < H.made := by
  rw [← h.length_openings]
  exact (List.getElem?_eq_some_iff.1 (h.opened c hc)).1

theorem shutDownsOf_of_holders_ne (h : Ledger calls H) (hk : H.holders k ≠ 0) :
    shutDownsOf k calls = [] := by
  rw [h.shutDowns, if_neg hk]

theorem shutDownsOf_of_opening (h : Ledger calls H) (hk : H.holders k = 0)
    (ha : (openings calls)[k]? = some answer) : shutDownsOf k calls = [answer.handle] := by
  rw [h.shutDowns, if_pos hk, ha]
  rfl

/-- Calls that open nothing and shut nothing down leave the books as they are. -/
theorem skip (h : Ledger calls H) (hm : H₁.made = H.made) (hr : H₁.references = H.references)
    (ho : openings more = []) (hs : ∀ k, shutDownsOf k more = []) :
    Ledger (calls ++ more) H₁ where
  length_openings := by rw [openings_append, ho, List.append_nil, h.length_openings, hm]
  opened c hc := by
    rw [openings_append, ho, List.append_nil]
    exact h.opened c (hr ▸ hc)
  shutDowns k := by
    rw [shutDownsOf_append, hs, List.append_nil, h.shutDowns, openings_append, ho, List.append_nil,
      Holding.holders, Holding.holders, hr]

/-- A context that is held may be referred to once more. -/
theorem add (h : Ledger calls H) (hc : c ∈ H.references) : Ledger calls (H.add c) where
  length_openings := h.length_openings
  opened := Multiset.forall_mem_cons.2 ⟨h.opened c hc, h.opened⟩
  shutDowns k := by
    rw [h.shutDowns, Holding.holders_add]
    by_cases hk : c.number = k
    · subst hk
      have hn := Holding.holders_ne_zero_of_mem hc
      rw [if_neg hn, if_neg (by omega)]
    · rw [if_neg hk, Nat.add_zero]

/-- An opening makes a context that nothing referred to before. -/
theorem opening (h : Ledger calls H) {requested : UInt32} {options : String} {engine : σ}
    (ne : answer.handle ≠ 0) :
    Ledger (calls ++ [.initialise requested options answer])
      ({ H with engine, made := H.made + 1 }.add ⟨H.made, answer.handle, answer.version⟩) := by
  have ho : openings (calls ++ [.initialise requested options answer]) =
      openings calls ++ [answer] := by
    simp [openings, Call.opening?, ne]
  refine ⟨?_, ?_, fun k => ?_⟩
  · rw [ho, List.length_append, h.length_openings]
    rfl
  · refine Multiset.forall_mem_cons.2 ⟨?_, fun c hc => ?_⟩
    · rw [ho, ← h.length_openings, List.getElem?_concat_length]
    · rw [ho, List.getElem?_append_left (h.length_openings ▸ h.number_lt hc)]
      exact h.opened c hc
  · have hs : shutDownsOf k (calls ++ [.initialise requested options answer]) =
        shutDownsOf k calls := by
      simp [shutDownsOf, Call.shutDownOf?]
    rw [hs, h.shutDowns, Holding.holders_add, ho]
    -- the new context is held once; there is no opening beyond it
    rcases Nat.lt_trichotomy k H.made with hk | rfl | hk
    · rw [if_neg (Nat.ne_of_gt hk), List.getElem?_append_left (h.length_openings ▸ hk)]
      rfl
    · have hn : (openings calls)[H.made]? = none := by
        rw [← h.length_openings, List.getElem?_eq_none_iff]
      simp [hn]
    · have hn : (openings calls ++ [answer])[k]? = none := by
        rw [List.getElem?_eq_none_iff, List.length_append, h.length_openings]
        exact hk
      have hn' : (openings calls)[k]? = none := by
        rw [List.getElem?_eq_none_iff, h.length_openings]
        omega
      rw [if_neg (Nat.ne_of_lt hk), hn, hn']
      rfl

/-- A reference may end while there are others to its context. -/
theorem of_add (h : Ledger calls (H.add c)) (hc : H.holders c.number ≠ 0) : Ledger calls H where
  length_openings := h.length_openings
  opened d hd := h.opened d (Multiset.mem_cons_of_mem hd)
  shutDowns k := by
    rw [h.shutDowns, Holding.holders_add]
    by_cases hk : c.number = k
    · subst hk
      rw [if_neg hc, if_neg (by omega)]
    · rw [if_neg hk, Nat.add_zero]

/-- With the last reference to a context, the context is shut down. -/
theorem ending (h : Ledger calls (H.add c)) (hc : H.holders c.number = 0) {engine : σ} :
    Ledger (calls ++ [.shutDown c.number c.handle]) { H with engine } := by
  have ho : openings (calls ++ [.shutDown c.number c.handle]) = openings calls := by
    simp [openings, Call.opening?]
  have hn := h.opened c (Multiset.mem_cons_self ..)
  refine ⟨?_, fun d hd => ?_, fun k => ?_⟩
  · rw [ho]
    exact h.length_openings
  · rw [ho]
    exact h.opened d (Multiset.mem_cons_of_mem hd)
  · have hs := h.shutDowns k
    rw [Holding.holders_add] at hs
    rw [shutDownsOf_append, hs, ho]
    by_cases hk : c.number = k
    · subst hk
      have h₀ : Holding.holders { H with engine } c.number = 0 := hc
      rw [if_neg (by simp), if_pos h₀, hn]
      simp [shutDownsOf, Call.shutDownOf?]
    · have h₁ : shutDownsOf k [.shutDown c.number c.handle] = [] := by
        simp [shutDownsOf, Call.shutDownOf?, hk]
      rw [h₁, List.append_nil, if_neg hk, Nat.add_zero]
      rfl

/-- The books are not about the engine. -/
theorem outside (h : Ledger calls H) (engine : σ) : Ledger calls { H with engine } :=
  ⟨h.length_openings, h.opened, h.shutDowns⟩

/-- Every effect keeps the books right. -/
theorem effect {t : Trace} {l : List Transfer} (h : Ledger calls H) (he : Effect E H t l H₁) :
    Ledger (calls ++ t.calls) H₁ := by
  cases he with
  | opened call ne => exact h.opening ne
  | refused call eq => exact h.skip rfl rfl (by simp [openings, Call.opening?, eq]) fun _ => rfl
  | shared mem => exact (h.add mem).skip rfl rfl rfl fun _ => rfl
  | received mem call ne => exact (h.add mem).skip rfl rfl rfl fun _ => rfl
  | missed mem call => exact h.skip rfl rfl rfl fun _ => rfl
  | responded mem call ne => exact (h.add mem).skip rfl rfl rfl fun _ => rfl
  | unanswered mem call => exact h.skip rfl rfl rfl fun _ => rfl
  | tookBack mem ne => exact (h.add mem).skip rfl rfl rfl fun _ => rfl
  | freed => exact h.skip rfl rfl rfl fun _ => rfl
  | gaveAway => exact h.skip rfl rfl rfl fun _ => rfl
  | left held => exact (h.of_add held).skip rfl rfl rfl fun _ => rfl
  | ended last => exact h.ending last

end Ledger

/-! ## Runs -/

namespace History

variable {h : History σ} {k : ℕ} {answer : Opening}

theorem ledger_start (engine : σ) : Ledger [] (start engine).session.holding := by
  have empty : ∀ c, c ∉ (start engine).session.holding.references := Multiset.notMem_zero
  refine ⟨rfl, fun c hc => absurd hc (empty c), fun k => ?_⟩
  rw [if_pos (Holding.holders_eq_zero.2 fun c hc => absurd hc (empty c))]
  rfl

/-- The books are right after every run. -/
theorem Reached.ledger (hr : Reached E h) : Ledger h.calls h.session.holding := by
  obtain ⟨engine, ms, rfl⟩ := hr
  exact (effect_induction (P := fun t _ H => Ledger t.calls H) (sound_start engine)
    (ledger_start engine) (fun _ h he => h.effect he) fun f _ h => h.outside _).2

/-- An opening stays where it is in the books. -/
theorem getElem?_openings_run (ms : List (Move σ)) (ha : (openings h.calls)[k]? = some answer) :
    (openings (h.run E ms).calls)[k]? = some answer := by
  obtain ⟨more, hm⟩ := calls_run (E := E) h ms
  obtain ⟨hk, -⟩ := List.getElem?_eq_some_iff.1 ha
  rw [hm, openings_append, List.getElem?_append_left hk, ha]

namespace Reached

theorem shutDownsOf_of_holders_ne (hr : Reached E h) (hk : h.session.holders k ≠ 0) :
    shutDownsOf k h.calls = [] :=
  hr.ledger.shutDownsOf_of_holders_ne (Session.holders_holding.trans_ne hk)

theorem shutDownsOf_of_opening (hr : Reached E h) (hk : h.session.holders k = 0)
    (ha : (openings h.calls)[k]? = some answer) : shutDownsOf k h.calls = [answer.handle] :=
  hr.ledger.shutDownsOf_of_opening (Session.holders_holding.trans hk) ha

/-- A context to which nothing refers is never referred to again. -/
theorem holders_run_eq_zero (hr : Reached E h) (ha : (openings h.calls)[k]? = some answer)
    (hk : h.session.holders k = 0) (ms : List (Move σ)) : (h.run E ms).session.holders k = 0 := by
  by_contra hn
  obtain ⟨more, hm⟩ := calls_run (E := E) h ms
  have hs := (hr.run ms).shutDownsOf_of_holders_ne hn
  rw [hm, shutDownsOf_append, hr.shutDownsOf_of_opening hk ha] at hs
  exact List.cons_ne_nil _ _ hs

/-- The operation with which the last reference to a context ends shuts it down, once, and no other
operation does. -/
theorem shutDownsOf_operation (hr : Reached E h) (ha : (openings h.calls)[k]? = some answer)
    (op : Operation) :
    shutDownsOf k (op.run E h.session).trace.calls =
      if h.session.holders k ≠ 0 ∧ (op.run E h.session).session.holders k = 0 then [answer.handle]
      else [] := by
  have hr' := hr.step (.operation op)
  have ha' := getElem?_openings_run (E := E) [.operation op] ha
  have hc : shutDownsOf k (h.step E (.operation op)).calls =
      shutDownsOf k h.calls ++ shutDownsOf k (op.run E h.session).trace.calls :=
    shutDownsOf_append
  by_cases hk : h.session.holders k = 0
  · have hk' := hr.holders_run_eq_zero ha hk [.operation op]
    rw [hr'.shutDownsOf_of_opening hk' ha', hr.shutDownsOf_of_opening hk ha] at hc
    rw [if_neg (by simp [hk])]
    exact List.append_right_eq_self.1 hc.symm
  · rw [hr.shutDownsOf_of_holders_ne hk, List.nil_append] at hc
    rw [← hc]
    by_cases hk' : (op.run E h.session).session.holders k = 0
    · rw [if_pos ⟨hk, hk'⟩]
      exact hr'.shutDownsOf_of_opening hk' ha'
    · rw [if_neg fun h => hk' h.2]
      exact hr'.shutDownsOf_of_holders_ne hk'

end Reached

end History

end Switchboard
