import Mathlib.Data.Multiset.Filter
import Switchboard.Proofs.Run

/-!
# Effects

Which slot holds a reference matters to the user of a session and to nobody else. A `Holding` is
what a session holds with the names of the slots forgotten: the references, each as often as it is
held, and the messages that are owned. An `Effect` is the least thing that can happen to a holding,
with what it leaves in the trace; `Effects` are effects one after another. Every operation is a
series of effects (shown in `Switchboard.Proofs.Simulation`), so whatever each effect keeps is kept
by every run.

A message is two things here, the ownership of an address and a reference to a context. Freeing it
or giving it away ends the first, and `left` or `ended` ends the second.
-/

namespace Switchboard

variable {σ : Type}

/-! ## Holdings -/

/-- What a session holds, whatever the slots. -/
structure Holding (σ : Type) where
  engine : σ
  made : ℕ
  references : Multiset Context
  owned : Multiset Message

namespace Holding

/-- How many references there are to the context with a given number. -/
def holders (H : Holding σ) (k : ℕ) : ℕ :=
  H.references.countP (·.number = k)

/-- One reference more. -/
def add (H : Holding σ) (c : Context) : Holding σ :=
  { H with references := c ::ₘ H.references }

/-- One message more, with its reference. -/
def own (H : Holding σ) (m : Message) : Holding σ :=
  { H with references := m.context ::ₘ H.references, owned := m ::ₘ H.owned }

/-- No handle and no message is null. -/
structure Sound (H : Holding σ) : Prop where
  handle_ne : ∀ c ∈ H.references, c.handle ≠ 0
  address_ne : ∀ m ∈ H.owned, m.address ≠ 0

variable {H : Holding σ} {c : Context} {m : Message} {k : ℕ}

theorem holders_add : (H.add c).holders k = H.holders k + if c.number = k then 1 else 0 :=
  Multiset.countP_cons ..

theorem holders_own : (H.own m).holders k = H.holders k + if m.context.number = k then 1 else 0 :=
  Multiset.countP_cons ..

theorem holders_eq_zero : H.holders k = 0 ↔ ∀ c ∈ H.references, c.number ≠ k :=
  Multiset.countP_eq_zero

theorem holders_ne_zero_of_mem (hc : c ∈ H.references) : H.holders c.number ≠ 0 :=
  fun h => holders_eq_zero.1 h c hc rfl

end Holding

/-- What a session holds. -/
def Session.holding (s : Session σ) : Holding σ where
  engine := s.engine
  made := s.made
  references := (Multiset.ofList s.instances.values).map Instance.context +
    (Multiset.ofList s.messages.values).map Message.context
  owned := Multiset.ofList s.messages.values

namespace Session

variable {s : Session σ} {i : Instance} {m : Message} {k : ℕ}

theorem holders_holding : s.holding.holders k = s.holders k := by
  rw [Holding.holders, holding, Multiset.countP_add, Multiset.countP_map, Multiset.countP_map,
    ← Multiset.countP_eq_card_filter, ← Multiset.countP_eq_card_filter, Multiset.coe_countP,
    Multiset.coe_countP, holders]

theorem context_mem_of_instance (hi : i ∈ s.instances.values) :
    i.context ∈ s.holding.references :=
  Multiset.mem_add.2 (.inl (Multiset.mem_map_of_mem _ (Multiset.mem_coe.2 hi)))

theorem context_mem_of_message (hm : m ∈ s.messages.values) : m.context ∈ s.holding.references :=
  Multiset.mem_add.2 (.inr (Multiset.mem_map_of_mem _ (Multiset.mem_coe.2 hm)))

end Session

/-! ## Effects -/

/-- The least that can happen to a holding. -/
inductive Effect (E : Engine σ) : Holding σ → Trace → List Transfer → Holding σ → Prop
  /-- An engine was initialised. -/
  | opened {H : Holding σ} {requested : UInt32} {options : String} {answer : Opening} {engine : σ}
      (call : E.initialise requested options H.engine = (answer, engine))
      (ne : answer.handle ≠ 0) :
      Effect E H
        ⟨[.initialise requested options answer],
          (if answer.version ≠ requested then [.downgraded requested answer.version] else []) ++
            [.initialised answer.version options]⟩
        []
        ({ H with engine, made := H.made + 1 }.add ⟨H.made, answer.handle, answer.version⟩)
  /-- An engine gave no handle. -/
  | refused {H : Holding σ} {requested : UInt32} {options : String} {answer : Opening} {engine : σ}
      (call : E.initialise requested options H.engine = (answer, engine))
      (eq : answer.handle = 0) :
      Effect E H ⟨[.initialise requested options answer], []⟩ [] { H with engine }
  /-- A reference was copied. -/
  | shared {H : Holding σ} {c : Context} (mem : c ∈ H.references) : Effect E H {} [] (H.add c)
  /-- A message was received. -/
  | received {H : Holding σ} {c : Context} {timeout : UInt32} {a : Address} {engine : σ}
      (mem : c ∈ H.references) (call : E.getMessage c.handle timeout H.engine = (a, engine))
      (ne : a ≠ 0) :
      Effect E H ⟨[.getMessage c.number c.handle timeout a], [.received a]⟩ []
        ({ H with engine }.own ⟨c, a⟩)
  /-- There was no message. -/
  | missed {H : Holding σ} {c : Context} {timeout : UInt32} {engine : σ}
      (mem : c ∈ H.references) (call : E.getMessage c.handle timeout H.engine = (0, engine)) :
      Effect E H ⟨[.getMessage c.number c.handle timeout 0], []⟩ [] { H with engine }
  /-- A message was sent, and the response was received. -/
  | responded {H : Holding σ} {c : Context} {message a : Address} {engine : σ}
      (mem : c ∈ H.references) (call : E.sendMessage c.handle message H.engine = (a, engine))
      (ne : a ≠ 0) :
      Effect E H ⟨[.sendMessage c.number c.handle message a], [.sent message a]⟩ []
        ({ H with engine }.own ⟨c, a⟩)
  /-- A message was sent without a response. -/
  | unanswered {H : Holding σ} {c : Context} {message : Address} {engine : σ}
      (mem : c ∈ H.references) (call : E.sendMessage c.handle message H.engine = (0, engine)) :
      Effect E H ⟨[.sendMessage c.number c.handle message 0], []⟩ [] { H with engine }
  /-- A message was taken back. -/
  | tookBack {H : Holding σ} {c : Context} {a : Address} (mem : c ∈ H.references) (ne : a ≠ 0) :
      Effect E H {} [.taken a] (H.own ⟨c, a⟩)
  /-- A message was freed. Its reference is still there. -/
  | freed {H : Holding σ} {m : Message} :
      Effect E (H.own m) ⟨[.freeMessage m.context.number m.address], [.freeing m.address]⟩ []
        ({ H with engine := E.freeMessage m.address H.engine }.add m.context)
  /-- A message was given away. Its reference is still there. -/
  | gaveAway {H : Holding σ} {m : Message} :
      Effect E (H.own m) {} [.given m.address] (H.add m.context)
  /-- A reference ended, and there are others to its context. -/
  | left {H : Holding σ} {c : Context} (held : H.holders c.number ≠ 0) : Effect E (H.add c) {} [] H
  /-- The last reference to a context ended. -/
  | ended {H : Holding σ} {c : Context} (last : H.holders c.number = 0) :
      Effect E (H.add c) ⟨[.shutDown c.number c.handle], [.shuttingDown c.version]⟩ []
        { H with engine := E.shutDown c.handle H.engine }

/-- Effects one after another. -/
inductive Effects (E : Engine σ) : Holding σ → Trace → List Transfer → Holding σ → Prop
  | nil {H : Holding σ} : Effects E H {} [] H
  | snoc {H H₁ H₂ : Holding σ} {t t₁ : Trace} {l l₁ : List Transfer} :
      Effects E H t l H₁ → Effect E H₁ t₁ l₁ H₂ → Effects E H (t.append t₁) (l ++ l₁) H₂

variable {E : Engine σ} {H H₁ H₂ : Holding σ} {t t₁ : Trace} {l l₁ : List Transfer}

theorem Effect.effects (h : Effect E H t l H₁) : Effects E H t l H₁ :=
  Effects.nil.snoc h

namespace Effects

theorem trans (h : Effects E H t l H₁) (h₁ : Effects E H₁ t₁ l₁ H₂) :
    Effects E H (t.append t₁) (l ++ l₁) H₂ := by
  induction h₁ with
  | nil => rwa [Trace.append_empty, List.append_nil]
  | snoc _ he ih =>
    rw [← Trace.append_assoc, ← List.append_assoc]
    exact ih.snoc he

/-- What every effect keeps is kept by effects one after another. The past is what happened before
them. -/
theorem keep {P : Trace → List Transfer → Holding σ → Prop} (h : Effects E H t l H₁)
    (effect : ∀ {t l H t₁ l₁ H₁}, P t l H → Effect E H t₁ l₁ H₁ → P (t.append t₁) (l ++ l₁) H₁)
    (past : Trace) (moved : List Transfer) (start : P past moved H) :
    P (past.append t) (moved ++ l) H₁ := by
  induction h with
  | nil => rwa [Trace.append_empty, List.append_nil]
  | snoc _ he ih =>
    rw [← Trace.append_assoc, ← List.append_assoc]
    exact effect ih he

end Effects

/-! ## No null -/

namespace Holding.Sound

theorem add (h : H.Sound) {c : Context} (hc : c.handle ≠ 0) : (H.add c).Sound where
  handle_ne := Multiset.forall_mem_cons.2 ⟨hc, h.handle_ne⟩
  address_ne := h.address_ne

theorem own (h : H.Sound) {m : Message} (hc : m.context.handle ≠ 0) (hm : m.address ≠ 0) :
    (H.own m).Sound where
  handle_ne := Multiset.forall_mem_cons.2 ⟨hc, h.handle_ne⟩
  address_ne := Multiset.forall_mem_cons.2 ⟨hm, h.address_ne⟩

theorem of_add {c : Context} (h : (H.add c).Sound) : H.Sound where
  handle_ne d hd := h.handle_ne d (Multiset.mem_cons_of_mem hd)
  address_ne := h.address_ne

theorem of_own {m : Message} (h : (H.own m).Sound) : H.Sound where
  handle_ne d hd := h.handle_ne d (Multiset.mem_cons_of_mem hd)
  address_ne d hd := h.address_ne d (Multiset.mem_cons_of_mem hd)

/-- The engine has no part in soundness. -/
theorem engine (h : H.Sound) (e : σ) (n : ℕ) : { H with engine := e, made := n }.Sound where
  handle_ne := h.handle_ne
  address_ne := h.address_ne

theorem effect (h : H.Sound) (he : Effect E H t l H₁) : H₁.Sound := by
  cases he with
  | opened call ne => exact (h.engine _ _).add ne
  | refused call eq => exact h.engine _ _
  | shared mem => exact h.add (h.handle_ne _ mem)
  | received mem call ne => exact (h.engine _ _).own (h.handle_ne _ mem) ne
  | missed mem call => exact h.engine _ _
  | responded mem call ne => exact (h.engine _ _).own (h.handle_ne _ mem) ne
  | unanswered mem call => exact h.engine _ _
  | tookBack mem ne => exact h.own (h.handle_ne _ mem) ne
  | freed => exact (h.of_own.engine _ _).add (h.handle_ne _ (Multiset.mem_cons_self ..))
  | gaveAway => exact h.of_own.add (h.handle_ne _ (Multiset.mem_cons_self ..))
  | left held => exact h.of_add
  | ended last => exact h.of_add.engine _ _

theorem effects (h : H.Sound) (he : Effects E H t l H₁) : H₁.Sound :=
  he.keep (P := fun _ _ H => H.Sound) (fun h he => h.effect he) {} [] h

end Holding.Sound

end Switchboard
