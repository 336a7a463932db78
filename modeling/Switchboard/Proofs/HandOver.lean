import Switchboard.Proofs.Agreement
import Switchboard.Proofs.Exchanges

/-!
# Giving a message away and taking it back

A message that is given away and taken back at once, with an instance of its own context, is as if
it had stayed: neither half is a call or a notice, and the session afterwards agrees with the one
before. So pairs of this kind may be put into a run wherever they are possible, and the run is the
same but for the results of the pairs (`Padded`).

While it is given away, a message is not held. Its address is no reference, so the context ends if
the message was the last one, and it is in nobody's hands (`Loose`): the session does not free it
before it is taken back or the engine gives it again.
-/

namespace Switchboard

variable {σ : Type} {E : Engine σ} {s : Session σ} {message inst into : String} {m : Message}
  {i : Instance}

/-! ## One pair -/

namespace Session

/-- An instance holds its context. -/
theorem holders_ne_zero (hi : s.instances.get? inst = some i) : s.holders i.context.number ≠ 0 := by
  rw [← holders_holding]
  exact Holding.holders_ne_zero_of_mem (context_mem_of_get?_instance hi)

/-- A message that was taken out of its slot and put back is where it was. -/
theorem agrees_handOver {spare : List String} (mem : into ∈ spare)
    (hm : s.messages.get? message = some m) (a : Address) :
    s.Agrees spare { s with
      messages := (s.messages.erase message).insert message m
      kept := s.kept.insert into a } where
  engine := rfl
  made := rfl
  instances _ := rfl
  messages other := by
    by_cases ho : other = message
    · subst ho
      rw [Slots.get?_insert_self, hm]
    · rw [Slots.get?_insert_of_ne ho, Slots.get?_erase_of_ne ho]
  kept other ho := Slots.get?_insert_of_ne fun h => ho (h ▸ mem)

end Session

namespace Operation

/-- A message is given away that is not the last reference to its context. -/
theorem run_giveAway_shared (hm : s.messages.get? message = some m)
    (held : { s with messages := s.messages.erase message }.holders m.context.number ≠ 0) :
    (giveAway message into).run E s = ⟨.ok (.number m.address), {}, { s with
      messages := s.messages.erase message
      kept := s.kept.insert into m.address }⟩ := by
  simp [run_giveAway hm, Message.giveAway, Message.discard, Message.free,
    Context.release_shared held]

/-- With the last reference to a context given away, the context is shut down. -/
theorem run_giveAway_last (hm : s.messages.get? message = some m) (hc : m.context.handle ≠ 0)
    (last : { s with messages := s.messages.erase message }.holders m.context.number = 0) :
    (giveAway message into).run E s =
      ⟨.ok (.number m.address),
        ⟨[.shutDown m.context.number m.context.handle], [.shuttingDown m.context.version]⟩,
        { s with
          engine := E.shutDown m.context.handle s.engine
          messages := s.messages.erase message
          kept := s.kept.insert into m.address }⟩ := by
  simp [run_giveAway hm, Message.giveAway, Message.discard, Message.free,
    Context.release_last hc last]

/-- A message is taken back into an empty slot. -/
theorem run_takeBack {a : Address} (hk : s.kept.get? into = some a)
    (hi : s.instances.get? inst = some i) (ne : a ≠ 0) (hm : s.messages.get? message = none) :
    (takeBack (.slot into) inst message).run E s = ⟨.ok (.number a), {},
      { s with messages := s.messages.insert message ⟨i.context, a⟩ }⟩ := by
  have hp : AddressSource.address? s (.slot into) = some a := hk
  rw [run, withAddress_some hp, withInstance_some hi]
  simp [Message.takeBack, ne, keepMessage, storeMessage, hm]

/-- Giving a message away and taking it back is no call and no notice. -/
theorem run_handOver (hm : s.messages.get? message = some m) (hi : s.instances.get? inst = some i)
    (same : i.context = m.context) (ne : m.address ≠ 0) (into : String) :
    let gave : Session σ := { s with
      messages := s.messages.erase message
      kept := s.kept.insert into m.address }
    (giveAway message into).run E s = ⟨.ok (.number m.address), {}, gave⟩ ∧
      (takeBack (.slot into) inst message).run E gave = ⟨.ok (.number m.address), {},
        { gave with messages := gave.messages.insert message m }⟩ := by
  intro gave
  have held := Session.holders_ne_zero (s := { s with messages := s.messages.erase message }) hi
  rw [same] at held
  refine ⟨run_giveAway_shared hm held, ?_⟩
  rw [run_takeBack (s := gave) (Slots.get?_insert_self ..) hi ne (Slots.get?_erase_self ..), same]

end Operation

/-- The books know one context with each number. -/
theorem Ledger.context_eq {calls : List Call} {H : Holding σ} (h : Ledger calls H) {c d : Context}
    (hc : c ∈ H.references) (hd : d ∈ H.references) (same : c.number = d.number) : c = d :=
  Context.eq_of_opened (h.opened c hc) (h.opened d hd) same

/-! ## Pairs in a run -/

/-- A move uses a spared slot. -/
def Move.Uses (spare : List String) : Move σ → Prop
  | .operation op => op.Uses spare
  | .outside _ => False

/-- A message is given away and taken back at once. Its address is kept in a slot meanwhile. -/
def handOver (message into inst : String) : List (Move σ) :=
  [.operation (.giveAway message into), .operation (.takeBack (.slot into) inst message)]

/-- Moves from `h`, and the same moves with pairs put in between. A pair gives a message away
and takes it back with an instance of the same context, by way of a spared slot. -/
inductive Padded (E : Engine σ) (spare : List String) :
    History σ → List (Move σ) → List (Move σ) → Prop
  | done {h : History σ} : Padded E spare h [] []
  | move {h : History σ} {next : Move σ} {ms ms' : List (Move σ)} (free : ¬ next.Uses spare)
      (rest : Padded E spare (h.step E next) ms ms') : Padded E spare h (next :: ms) (next :: ms')
  | pair {h : History σ} {ms ms' : List (Move σ)} {message inst into : String} {m : Message}
      {i : Instance} (mem : into ∈ spare) (hm : h.session.messages.get? message = some m)
      (hi : h.session.instances.get? inst = some i) (same : i.context.number = m.context.number)
      (rest : Padded E spare h ms ms') :
      Padded E spare h ms (handOver message into inst ++ ms')

/-- The results that do not tell of a spared slot. -/
def unspared (spare : List String) (results : List (Operation × Except Refusal Answer)) :
    List (Operation × Except Refusal Answer) :=
  results.filter fun r => ¬ r.1.Uses spare

namespace History

/-- A run has told what another one has, but for results that tell of a spared slot, and they have
led to sessions that agree. -/
structure Agrees (spare : List String) (h h' : History σ) : Prop where
  trace : h'.trace = h.trace
  results : unspared spare h'.results = unspared spare h.results
  session : h.session.Agrees spare h'.session

variable {spare : List String} {h h' : History σ} {ms ms' : List (Move σ)}

/-- The same move keeps runs in agreement. -/
theorem Agrees.step (ha : h.Agrees spare h') {next : Move σ} (free : ¬ next.Uses spare) :
    (h.step E next).Agrees spare (h'.step E next) := by
  cases next with
  | operation op =>
    have same := Operation.blind_run (E := E) free ha.session
    refine ⟨?_, ?_, same.session⟩
    · simp only [History.step, ha.trace, same.trace]
    · simp only [History.step, unspared, List.filter_append, same.value]
      exact congrArg (· ++ _) ha.results
  | outside f =>
    refine ⟨ha.trace, ha.results, ?_⟩
    simp only [History.step, ha.session.engine]
    exact ha.session.setEngine _

/-- An operation that is no call and no notice leaves its result behind. -/
theorem step_of_run {op : Operation} {r : Except Refusal Answer}
    (run : op.run E h.session = ⟨r, {}, s⟩) :
    h.step E (.operation op) = ⟨h.trace, h.results ++ [(op, r)], s⟩ := by
  rw [step, run, Trace.append_empty]

/-- The results of a pair are all that it leaves behind. -/
theorem run_handOver (hm : h.session.messages.get? message = some m)
    (hi : h.session.instances.get? inst = some i) (same : i.context = m.context)
    (ne : m.address ≠ 0) (into : String) :
    h.run E (handOver message into inst) =
      ⟨h.trace, h.results ++ [(.giveAway message into, .ok (.number m.address)),
        (.takeBack (.slot into) inst message, .ok (.number m.address))],
        { h.session with
          messages := (h.session.messages.erase message).insert message m
          kept := h.session.kept.insert into m.address }⟩ := by
  obtain ⟨gave, back⟩ := Operation.run_handOver (E := E) hm hi same ne into
  simp only [run, handOver, List.foldl_cons, List.foldl_nil]
  rw [step_of_run gave, step_of_run back, List.append_assoc]
  rfl

/-- The results of a run go on from those before it. -/
theorem results_run (h : History σ) (ms : List (Move σ)) :
    ∃ later, (h.run E ms).results = h.results ++ later := by
  apply run_induction (P := fun h₁ => ∃ later, h₁.results = h.results ++ later) ⟨[], by simp⟩
  rintro h₁ next - ⟨later, results⟩
  cases next with
  | operation op => exact ⟨later ++ [(op, _)], by rw [← List.append_assoc, ← results]; rfl⟩
  | outside f => exact ⟨later, results⟩

theorem Agrees.refl (spare : List String) (h : History σ) : h.Agrees spare h :=
  ⟨rfl, rfl, .refl spare h.session⟩

/-- A pair keeps runs in agreement. -/
theorem Agrees.pair (ha : h.Agrees spare h') (hr : Reached E h) (mem : into ∈ spare)
    (hm : h.session.messages.get? message = some m)
    (hi : h.session.instances.get? inst = some i) (same : i.context.number = m.context.number) :
    h.Agrees spare (h'.run E (handOver message into inst)) := by
  have context := hr.ledger.context_eq (Session.context_mem_of_get?_instance hi)
    (Session.context_mem_of_get?_message hm) same
  have ne := hr.sound.address_ne _ (Session.mem_owned_of_get? hm)
  have hm' := (ha.session.messages message).trans hm
  have hi' := (ha.session.instances inst).trans hi
  rw [run_handOver hm' hi' context ne]
  refine ⟨ha.trace, ?_, ha.session.trans (Session.agrees_handOver mem hm' m.address)⟩
  have told : unspared spare [(.giveAway message into, .ok (.number m.address)),
      (.takeBack (.slot into) inst message, .ok (.number m.address))] = [] := by
    simp [unspared, Operation.Uses, AddressSource.Uses, mem]
  rw [← ha.results, unspared, List.filter_append]
  exact List.append_right_eq_self.2 told

end History

namespace Padded

variable {spare : List String} {h h' : History σ} {ms ms' : List (Move σ)}

/-- Runs with pairs put in between agree with those without them. -/
theorem agrees (hp : Padded E spare h ms ms') (hr : History.Reached E h)
    (ha : h.Agrees spare h') : (h.run E ms).Agrees spare (h'.run E ms') := by
  induction hp generalizing h' with
  | done => exact ha
  | move free rest ih => exact ih (hr.step _) (ha.step free)
  | pair mem hm hi same rest ih =>
    rw [History.run_append]
    exact ih hr (ha.pair hr mem hm hi same)

/-- The moves without the pairs do not use a spared slot. -/
theorem results (hp : Padded E spare h ms ms') :
    ∃ later, (h.run E ms).results = h.results ++ later ∧ ∀ r ∈ later, ¬ r.1.Uses spare := by
  induction hp with
  | done => exact ⟨[], (List.append_nil _).symm, List.forall_mem_nil _⟩
  | @move h next ms ms' free rest ih =>
    obtain ⟨later, results, unused⟩ := ih
    cases next with
    | operation op =>
      refine ⟨_ :: later, results.trans (List.append_assoc ..), ?_⟩
      exact List.forall_mem_cons.2 ⟨free, unused⟩
    | outside f => exact ⟨later, results, unused⟩
  | pair mem hm hi same rest ih => exact ih

/-- Pairs add their results to those of a run, and nothing else. -/
theorem results_unspared (hp : Padded E spare h ms ms') (hr : History.Reached E h) :
    ∃ later later', (h.run E ms).results = h.results ++ later ∧
      (h.run E ms').results = h.results ++ later' ∧ unspared spare later' = later := by
  obtain ⟨later, results, unused⟩ := hp.results
  obtain ⟨later', results'⟩ := h.results_run (E := E) ms'
  refine ⟨later, later', results, results', ?_⟩
  have same := (hp.agrees hr (.refl spare h)).results
  rw [results, results', unspared, unspared, List.filter_append, List.filter_append] at same
  refine (List.append_cancel_left same).trans (List.filter_eq_self.2 fun r hr => ?_)
  exact decide_eq_true (unused r hr)

end Padded

/-! ## Between the halves of a pair -/

/-- What was given away is in nobody's hands: it was not freed and is not owned, unless the engine
gave it again or it was taken back since. -/
def Loose (a : Address) (later : List Call) (more : List Transfer) (H : Holding σ) : Prop :=
  a ∉ delivered later → .taken a ∉ more → a ∉ freed later ∧ ∀ m ∈ H.owned, m.address ≠ a

/-- No effect gets hold of what is in nobody's hands. -/
theorem Loose.effect {a : Address} {later : List Call} {more l : List Transfer}
    {H H₁ : Holding σ} {t : Trace} (h : Loose a later more H) (he : Effect E H t l H₁) :
    Loose a (later ++ t.calls) (more ++ l) H₁ := by
  intro hd ht
  rw [delivered_append, List.mem_append, not_or] at hd
  rw [List.mem_append, not_or] at ht
  rw [freed_append, List.mem_append, not_or]
  obtain ⟨hf, ho⟩ := h hd.1 ht.1
  -- what is owned after a message was got is owned before, or it is the message
  have more {c : Context} {b : Address} (hb : b ≠ a) :
      ∀ m ∈ (⟨c, b⟩ ::ₘ H.owned : Multiset Message), m.address ≠ a :=
    Multiset.forall_mem_cons.2 ⟨hb, ho⟩
  cases he with
  | opened call ne => exact ⟨⟨hf, List.not_mem_nil⟩, ho⟩
  | refused call eq => exact ⟨⟨hf, List.not_mem_nil⟩, ho⟩
  | shared mem => exact ⟨⟨hf, List.not_mem_nil⟩, ho⟩
  | received mem call ne =>
    refine ⟨⟨hf, List.not_mem_nil⟩, more fun hb => hd.2 ?_⟩
    simp [delivered, Call.delivered?, ← hb, ne]
  | missed mem call => exact ⟨⟨hf, List.not_mem_nil⟩, ho⟩
  | responded mem call ne =>
    refine ⟨⟨hf, List.not_mem_nil⟩, more fun hb => hd.2 ?_⟩
    simp [delivered, Call.delivered?, ← hb, ne]
  | unanswered mem call => exact ⟨⟨hf, List.not_mem_nil⟩, ho⟩
  | tookBack mem ne =>
    exact ⟨⟨hf, List.not_mem_nil⟩, more fun hb => ht.2 (List.mem_singleton.2 (hb ▸ rfl))⟩
  | freed =>
    obtain ⟨other, ho⟩ := Multiset.forall_mem_cons.1 ho
    exact ⟨⟨hf, fun ha => other (List.mem_singleton.1 ha).symm⟩, ho⟩
  | gaveAway => exact ⟨⟨hf, List.not_mem_nil⟩, (Multiset.forall_mem_cons.1 ho).2⟩
  | left held => exact ⟨⟨hf, List.not_mem_nil⟩, ho⟩
  | ended last => exact ⟨⟨hf, List.not_mem_nil⟩, ho⟩

namespace History

variable {h : History σ} {a : Address}

/-- What nobody owns stays in nobody's hands. -/
theorem Reached.loose_run (hr : Reached E h) (a : Address) (ms : List (Move σ)) :
    ∃ later more, (h.run E ms).calls = h.calls ++ later ∧
      (h.run E ms).transfers = h.transfers ++ more ∧
      (h.session.owners a = 0 → Loose a later more (h.run E ms).session.holding) := by
  refine (effect_induction (P := fun t l H => ∃ later more, t.calls = h.calls ++ later ∧
    l = h.transfers ++ more ∧ (h.session.owners a = 0 → Loose a later more H)) hr.sound ?_ ?_ ?_).2
  · refine ⟨[], [], (List.append_nil _).symm, (List.append_nil _).symm, fun ho _ _ => ?_⟩
    refine ⟨List.not_mem_nil, fun m hm ha => ?_⟩
    exact List.countP_eq_zero.1 ho m (Multiset.mem_coe.1 hm) (decide_eq_true ha)
  · rintro t l H t₁ l₁ H₁ - ⟨later, more, calls, transfers, loose⟩ he
    refine ⟨later ++ t₁.calls, more ++ l₁, ?_, ?_, fun ho => (loose ho).effect he⟩
    · rw [Trace.calls_append, calls, List.append_assoc]
    · rw [transfers, List.append_assoc]
  · rintro t l H f - ⟨later, more, calls, transfers, loose⟩
    exact ⟨later, more, calls, transfers, loose⟩

/-- An engine that gives no message twice gives each to one owner, and not again. -/
theorem Reached.alone (hr : Reached E h) (hl : Lawful h.transfers)
    (hm : h.session.messages.get? message = some m) {rest : List Call}
    (hd : (delivered (h.calls ++ rest)).Nodup) :
    h.session.owners m.address = 1 ∧ m.address ∉ delivered rest := by
  rw [delivered_append, List.nodup_append] at hd
  obtain ⟨once, -, apart⟩ := hd
  have sum := hr.count_delivered hl m.address
  have most := List.nodup_iff_count_le_one.1 once m.address
  have least := Session.owners_erase_message hm
  refine ⟨by omega, fun again => ?_⟩
  have given : m.address ∈ delivered h.calls := List.count_pos_iff.1 (by omega)
  exact apart _ given _ again rfl

/-- What is given away is a reference less, which shuts the context down if it was the last one. -/
theorem Reached.run_giveAway (hr : Reached E h) (hm : h.session.messages.get? message = some m)
    (into : String) :
    let gave := (Operation.giveAway message into).run E h.session
    gave.value = .ok (.number m.address) ∧
    gave.trace.calls = (if h.session.holders m.context.number = 1 then
      [.shutDown m.context.number m.context.handle] else []) ∧
    gave.session.holders m.context.number + 1 = h.session.holders m.context.number := by
  refine ⟨by rw [Operation.run_giveAway hm], ?_, ?_⟩
  · have hc := hr.sound.handle_ne _ (Session.context_mem_of_get?_message hm)
    have only := Session.holders_eq_one_iff_message hm
    by_cases last : { h.session with messages := h.session.messages.erase message }.holders
        m.context.number = 0
    · rw [if_pos (only.2 last), Operation.run_giveAway_last hm hc last]
    · rw [if_neg (mt only.1 last), Operation.run_giveAway_shared hm last]
  · obtain ⟨engine, session⟩ := Operation.run_giveAway_session (E := E) hm into
    rw [session]
    exact Session.holders_erase_message hm

/-- What was given away is not freed before it is taken back, if it had one owner and the engine
does not give it again. -/
theorem Reached.loose_giveAway (hr : Reached E h)
    (hm : h.session.messages.get? message = some m) (ms : List (Move σ)) :
    let h₁ := h.step E (.operation (.giveAway message into))
    ∃ later more, (h₁.run E ms).calls = h₁.calls ++ later ∧
      (h₁.run E ms).transfers = h₁.transfers ++ more ∧
      (.taken m.address ∉ more →
        (h.session.owners m.address = 1 → m.address ∉ delivered later →
          m.address ∉ freed later) ∧
        (Lawful h.transfers → (delivered (h₁.run E ms).calls).Nodup →
          m.address ∉ freed later)) := by
  intro h₁
  obtain ⟨engine, session⟩ := Operation.run_giveAway_session (E := E) hm into
  have left : h₁.session.owners m.address + 1 = h.session.owners m.address := by
    change ((Operation.giveAway message into).run E h.session).session.owners _ + 1 = _
    rw [session]
    exact Session.owners_erase_message hm
  have hr₁ : Reached E h₁ := hr.step _
  obtain ⟨later, more, calls, transfers, loose⟩ := hr₁.loose_run m.address ms
  refine ⟨later, more, calls, transfers, fun taken => ⟨fun one fresh => ?_, fun hl hd => ?_⟩⟩
  · exact (loose (by omega) fresh taken).1
  · have once : (delivered (h.calls ++
        (((Operation.giveAway message into).run E h.session).trace.calls ++ later))).Nodup := by
      rw [← List.append_assoc]
      exact calls ▸ hd
    obtain ⟨one, fresh⟩ := hr.alone hl hm once
    rw [delivered_append, List.mem_append, not_or] at fresh
    exact (loose (by omega) fresh.2 taken).1

/-- **Giving a message away and taking it back is invisible.** With an instance of the same context
it succeeds and is no call and no notice; the message is in its slot again, and the session agrees
with the one before. However many such pairs are put into a run, and wherever they are possible, all
other results are the same, and so are the calls and the notices.

If other moves come in between, the message is not freed meanwhile, as long as it has one owner and
the engine does not give it again; that is so if the engine gives no message twice, and the past is
lawful. What is given away is no reference: the context has one holder less, and if the message was
the last one, then its context is shut down at once, and the message is not freed. -/
theorem handOver_invisible (hr : Reached E h) :
    (∀ message m inst i into, h.session.messages.get? message = some m →
      h.session.instances.get? inst = some i → i.context.number = m.context.number →
      let h' := h.run E (handOver message into inst)
      h'.trace = h.trace ∧
      h'.results = h.results ++ [(.giveAway message into, .ok (.number m.address)),
        (.takeBack (.slot into) inst message, .ok (.number m.address))] ∧
      h'.session.messages.get? message = some m ∧
      (∀ k, h'.session.holders k = h.session.holders k) ∧ h.session.Agrees [into] h'.session) ∧
    (∀ spare ms ms', Padded E spare h ms ms' →
      (h.run E ms').trace = (h.run E ms).trace ∧
      (∃ later later', (h.run E ms).results = h.results ++ later ∧
        (h.run E ms').results = h.results ++ later' ∧ unspared spare later' = later) ∧
      (h.run E ms).session.Agrees spare (h.run E ms').session) ∧
    ∀ message m into, h.session.messages.get? message = some m →
      let gave := (Operation.giveAway message into).run E h.session
      let h₁ := h.step E (.operation (.giveAway message into))
      (gave.value = .ok (.number m.address) ∧
        gave.trace.calls = (if h.session.holders m.context.number = 1 then
          [.shutDown m.context.number m.context.handle] else []) ∧
        gave.session.holders m.context.number + 1 = h.session.holders m.context.number) ∧
      ∀ ms : List (Move σ), ∃ later more, (h₁.run E ms).calls = h₁.calls ++ later ∧
        (h₁.run E ms).transfers = h₁.transfers ++ more ∧
        (.taken m.address ∉ more →
          (h.session.owners m.address = 1 → m.address ∉ delivered later →
            m.address ∉ freed later) ∧
          (Lawful h.transfers → (delivered (h₁.run E ms).calls).Nodup →
            m.address ∉ freed later)) := by
  refine ⟨fun message m inst i into hm hi same => ?_, fun spare ms ms' hp => ?_,
    fun message m into hm => ⟨hr.run_giveAway hm into, hr.loose_giveAway hm⟩⟩
  · have context := hr.ledger.context_eq (Session.context_mem_of_get?_instance hi)
      (Session.context_mem_of_get?_message hm) same
    have ne := hr.sound.address_ne _ (Session.mem_owned_of_get? hm)
    have agrees : h.session.Agrees [into] _ :=
      Session.agrees_handOver (List.mem_singleton_self into) hm m.address
    rw [run_handOver hm hi context ne into]
    exact ⟨rfl, rfl, Slots.get?_insert_self .., agrees.holders, agrees⟩
  · have agrees := hp.agrees hr (.refl spare h)
    exact ⟨agrees.trace, hp.results_unspared hr, agrees.session⟩

/-- An instance and a message. -/
def received : History Trial.State :=
  Trial.history {} [] [.operation (.initialise "one" 33 "sip"), .push,
    .operation (.getMessage "one" (.ofMillis 0) "message")]

/-- Two pairs before everything is let go of make no difference. Without the instance, the engine is
shut down when the message is given away, and another engine does not free it. -/
theorem received_handOver :
    let pair := handOver "message" "raw" "one"
    let ending := [.operation (.discardInstance "one"), .operation (.discardMessage "message")]
    let alone := received.step Trial.engine (.operation (.discardInstance "one"))
    let given := alone.step Trial.engine (.operation (.giveAway "message" "raw"))
    let another := [.operation (.initialise "two" 33 "sip"), .outside fun e => e.push.2,
      .operation (.getMessage "two" (.ofMillis 0) "next"), .operation (.discardMessage "next")]
    (received.run Trial.engine pair).session.messages.get? "message" = some ⟨⟨0, 16, 33⟩, 32⟩ ∧
      (received.run Trial.engine (pair ++ (pair ++ ending))).trace =
        (received.run Trial.engine ending).trace ∧
      ((Operation.giveAway "message" "raw").run Trial.engine alone.session).trace.calls =
        [.shutDown 0 16] ∧
      ∃ later, (given.run Trial.engine another).calls = given.calls ++ later ∧
        32 ∉ freed later := by
  intro pair ending alone given another
  have hr : Reached Trial.engine received := Trial.reached_history
  have hm : received.session.messages.get? "message" = some ⟨⟨0, 16, 33⟩, 32⟩ := by decide
  have hi : received.session.instances.get? "one" = some ⟨⟨0, 16, 33⟩⟩ := by decide
  have hm' : alone.session.messages.get? "message" = some ⟨⟨0, 16, 33⟩, 32⟩ := by decide
  obtain ⟨one, padded, -⟩ := handOver_invisible hr
  obtain ⟨-, -, apart⟩ := handOver_invisible (hr.step (.operation (.discardInstance "one")))
  obtain ⟨⟨-, calls, -⟩, gap⟩ := apart "message" _ "raw" hm'
  have pairs : Padded Trial.engine ["raw"] received ending (pair ++ (pair ++ ending)) :=
    .pair (by decide) hm hi rfl
      (.pair (by decide) hm hi rfl (.move id (.move id .done)))
  refine ⟨(one _ _ _ _ "raw" hm hi rfl).2.2.1, (padded _ _ _ pairs).1, ?_, ?_⟩
  · exact calls.trans (by decide)
  · obtain ⟨later, more, calls, transfers, kept⟩ := gap another
    have same : (given.run Trial.engine another).transfers = given.transfers := by decide
    have none : more = [] := List.append_right_eq_self.1 (transfers.symm.trans same)
    refine ⟨later, calls, (kept ?_).2 (by decide) (by decide)⟩
    rw [none]
    exact List.not_mem_nil

end History

end Switchboard
