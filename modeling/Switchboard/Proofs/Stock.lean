import Switchboard.Proofs.Conservation
import Switchboard.Proofs.Trials

/-!
# The stock of the engine for trials

The engine for trials keeps books on its messages too: what is live waits in the queue or is in
hand, and what is not live any more was freed. No address is given twice, since addresses come from
a counter (`Stock`). Every call of the engine keeps its books, and they agree with those of the
session as long as nothing is taken back that is not given away (`Stock.effect`). So every message
is in one place, whatever the script of a trial.
-/

namespace Switchboard.Trial

/-- The books of an engine with the messages in hand and the messages that are gone. -/
structure Stock (e : State) (held gone : Multiset Address) : Prop where
  /-- What is live waits or is in hand. -/
  live : (e.live : Multiset Address) = e.pending + held
  /-- No address was given twice. -/
  nodup : ((e.live : Multiset Address) + gone).Nodup
  range : ∀ a ∈ (e.live : Multiset Address) + gone, 0 < a ∧ a < e.next
  next_pos : 0 < e.next
  doubleFrees : e.doubleFrees = 0

/-- What is in hand after the engine gave an answer. -/
def handed (a : Address) (held : Multiset Address) : Multiset Address :=
  if a = 0 then held else a ::ₘ held

namespace Stock

variable {e e' : State} {held held' gone : Multiset Address} {handle a : Address}

/-! ## Calls -/

/-- Only the messages and the counter matter. -/
theorem keep (h : Stock e held gone) (hl : e'.live = e.live) (hp : e'.pending = e.pending)
    (hn : e.next ≤ e'.next) (hd : e'.doubleFrees = e.doubleFrees) : Stock e' held gone where
  live := by rw [hl, hp, h.live]
  nodup := by rw [hl]; exact h.nodup
  range a ha := by
    rw [hl] at ha
    exact ⟨(h.range a ha).1, Nat.lt_of_lt_of_le (h.range a ha).2 hn⟩
  next_pos := Nat.lt_of_lt_of_le h.next_pos hn
  doubleFrees := by rw [hd, h.doubleFrees]

theorem record (h : Stock e held gone) (event : Event) : Stock (e.record event) held gone :=
  h.keep rfl rfl (Nat.le_refl _) rfl

theorem next_notMem (h : Stock e held gone) : e.next ∉ (e.live : Multiset Address) + gone :=
  fun ha => Nat.lt_irrefl _ (h.range _ ha).2

/-- A new message is live, it waits or is in hand, and its address is new. -/
theorem grow (h : Stock e held gone) (hl : e'.live = e.next :: e.live)
    (hp : (e'.pending : Multiset Address) + held' =
      e.next ::ₘ ((e.pending : Multiset Address) + held))
    (hn : e'.next = e.next + 16) (hd : e'.doubleFrees = e.doubleFrees) : Stock e' held' gone where
  live := by rw [hl, hp, ← h.live, Multiset.cons_coe]
  nodup := by
    rw [hl, ← Multiset.cons_coe, Multiset.cons_add]
    exact Multiset.nodup_cons.2 ⟨h.next_notMem, h.nodup⟩
  range a ha := by
    rw [hl, ← Multiset.cons_coe, Multiset.cons_add] at ha
    rw [hn]
    rcases Multiset.mem_cons.1 ha with rfl | ha
    · exact ⟨h.next_pos, Nat.lt_add_of_pos_right (by decide)⟩
    · exact ⟨(h.range a ha).1, Nat.lt_add_right 16 (h.range a ha).2⟩
  next_pos := by
    rw [hn]
    exact Nat.add_pos_left h.next_pos 16
  doubleFrees := by rw [hd, h.doubleFrees]

theorem push (h : Stock e held gone) : Stock e.push.2 held gone := by
  refine h.grow rfl ?_ rfl rfl
  show ((e.pending ++ [e.next] : List Address) : Multiset Address) + held = _
  rw [← Multiset.coe_add, Multiset.coe_singleton, Multiset.add_comm _ {e.next},
    Multiset.singleton_add, Multiset.cons_add]

theorem arrive (h : Stock e held gone) : Stock e.arrive held gone := by
  unfold State.arrive
  split
  · exact h
  · exact h.push.keep rfl rfl (Nat.le_refl _) rfl
  · exact h.keep rfl rfl (Nat.le_refl _) rfl

/-- The oldest message that waits is handed out. -/
theorem pop {rest : List Address} (h : Stock e held gone) (hp : e.pending = a :: rest) :
    Stock { e with pending := rest } (handed a held) gone := by
  have hl := h.live
  rw [hp, ← Multiset.cons_coe, Multiset.cons_add] at hl
  have ha : 0 < a := by
    refine (h.range a (Multiset.mem_add.2 (.inl ?_))).1
    rw [hl]
    exact Multiset.mem_cons_self ..
  rw [handed, if_neg (Nat.ne_of_gt ha)]
  refine ⟨?_, h.nodup, h.range, h.next_pos, h.doubleFrees⟩
  rw [hl, Multiset.add_cons]

theorem getMessage {timeout : UInt32} (h : Stock e held gone)
    (call : e.getMessage handle timeout = (a, e')) : Stock e' (handed a held) gone := by
  unfold State.getMessage at call
  split at call
  · have hr := (h.record (.get handle timeout)).arrive
    dsimp only at call
    split at call
    · cases call
      exact hr
    · next hp =>
      cases call
      exact hr.pop hp
  · cases call
    exact h.record _

theorem sendMessage {message : Address} (h : Stock e held gone)
    (call : e.sendMessage handle message = (a, e')) : Stock e' (handed a held) gone := by
  unfold State.sendMessage at call
  split at call
  · dsimp only at call
    split at call
    · cases call
      exact h.record _
    · cases call
      refine (h.record (.send handle message)).grow rfl ?_ rfl rfl
      rw [handed, if_neg (Nat.ne_of_gt (h.record (.send handle message)).next_pos)]
      exact Multiset.add_cons ..
  · cases call
    exact h.record _

/-- A message in hand is live, so freeing it is no double free. -/
theorem freeMessage (h : Stock e (a ::ₘ held) gone) :
    Stock (e.freeMessage a) held (a ::ₘ gone) := by
  have hl := h.live
  rw [Multiset.add_cons] at hl
  have ha : a ∈ e.live := by
    rw [← Multiset.mem_coe, hl]
    exact Multiset.mem_cons_self ..
  have hn := Multiset.nodup_of_le (Multiset.le_add_right _ _) h.nodup
  -- `a` is live once, so filtering it out takes away nothing else
  have hf : ((e.live.filter (· ≠ a) : List Address) : Multiset Address) = e.pending + held := by
    rw [← Multiset.filter_coe, ← Multiset.Nodup.erase_eq_filter a hn, hl, Multiset.erase_cons_head]
  have hall : ((e.live.filter (· ≠ a) : List Address) : Multiset Address) + a ::ₘ gone =
      e.live + gone := by
    rw [hf, hl, Multiset.add_cons, Multiset.cons_add]
  have hfree : e.freeMessage a =
      { e.record (.free a) with live := e.live.filter (· ≠ a) } := if_pos ha
  rw [hfree]
  exact ⟨hf, hall ▸ h.nodup, hall ▸ h.range, h.next_pos, h.doubleFrees⟩

theorem initialise {requested : UInt32} {options : String} {answer : Opening}
    (h : Stock e held gone) (call : e.initialise requested options = (answer, e')) :
    Stock e' held gone := by
  unfold State.initialise at call
  dsimp only at call
  split at call
  · cases call
    exact h.record _
  · cases call
    exact h.keep rfl rfl (Nat.le_add_right _ 16) rfl

theorem shutDown (h : Stock e held gone) : Stock (e.shutDown handle) held gone := by
  unfold State.shutDown
  split <;> exact h.keep rfl rfl (Nat.le_refl _) rfl

/-! ## Effects -/

section Effects

variable {H H₁ : Holding State} {l l₁ : List Transfer} {calls more : List Call}

theorem skip (h : Stock e (H.inHand l) (freed calls)) (ho : H₁.owned = H.owned)
    (hf : freed more = []) : Stock e (H₁.inHand (l ++ [])) (freed (calls ++ more)) := by
  rw [Holding.inHand_still ho, freed_append, hf, List.append_nil]
  exact h

theorem deliver {m : Message} (h : Stock e (handed m.address (H.inHand l)) (freed calls))
    (ne : m.address ≠ 0) (ho : H₁.owned = m ::ₘ H.owned) (hf : freed more = []) :
    Stock e (H₁.inHand (l ++ [])) (freed (calls ++ more)) := by
  rw [handed, if_neg ne] at h
  rw [Holding.inHand_more ho, freed_append, hf, List.append_nil]
  exact h

/-- The books of the engine agree with what the session has in hand and has freed. -/
theorem effect {t : Trace} (h : Stock H.engine (H.inHand l) (freed calls))
    (hl : Lawful (l ++ l₁)) (he : Effect engine H t l₁ H₁) :
    Stock H₁.engine (H₁.inHand (l ++ l₁)) (freed (calls ++ t.calls)) := by
  cases he with
  | opened call ne => exact (h.initialise call).skip rfl rfl
  | refused call eq => exact (h.initialise call).skip rfl rfl
  | shared mem => exact h.skip rfl rfl
  | received mem call ne => exact (h.getMessage call).deliver ne rfl rfl
  | missed mem call => exact (h.getMessage call).skip rfl rfl
  | responded mem call ne => exact (h.sendMessage call).deliver ne rfl rfl
  | unanswered mem call => exact (h.sendMessage call).skip rfl rfl
  | tookBack mem ne =>
    rw [Holding.inHand_taken hl, List.append_nil]
    exact h
  | freed =>
    rw [Holding.inHand_own] at h
    rw [List.append_nil, freed_append, ← Multiset.coe_add, Multiset.add_comm]
    exact h.freeMessage
  | gaveAway =>
    rw [Holding.inHand_given, List.append_nil]
    exact h
  | left held => exact h.skip rfl rfl
  | ended last => exact h.shutDown.skip rfl rfl

end Effects

end Stock

/-- After every trial the books of the engine agree with those of the session. -/
theorem stock_history {settings : Settings} {script : List Bool} {steps : List Step}
    (hl : Lawful (history settings script steps).transfers) :
    Stock (history settings script steps).session.engine
      ((history settings script steps).session.holding.inHand
        (history settings script steps).transfers)
      (freed (history settings script steps).calls) := by
  refine history_induction
    (P := fun t l H => Lawful l → Stock H.engine (H.inHand l) (freed t.calls))
    ?_ ?_ ?_ ?_ hl
  · intro
    exact ⟨rfl, Multiset.nodup_zero, fun a ha => absurd ha (Multiset.notMem_zero a),
      Nat.zero_lt_succ 15, rfl⟩
  · exact fun h he hl => (h hl.of_append).effect hl he
  · exact fun h hl => (h hl).push
  · exact fun a h hl => (h hl).keep rfl rfl (Nat.le_refl _) rfl

/-! ## Every message is in one place -/

section Places

variable {settings : Settings} {script : List Bool} {steps : List Step}

/-- The engine for trials gives no message twice. -/
theorem nodup_delivered_history (hl : Lawful (history settings script steps).transfers) :
    (delivered (history settings script steps).calls).Nodup := by
  have hs := stock_history hl
  rw [← Multiset.coe_nodup, reached_history.conserved hl]
  refine Multiset.nodup_of_le ?_ hs.nodup
  rw [hs.live, Multiset.add_assoc]
  exact Multiset.le_add_left _ _

/-- **Every message is in one place.** An engine gives no message twice, and nothing is taken back
that is not given away. Then each message that the engine gave is owned once, or given away once, or
freed once, and only one of these; no other address is in any of these places. The engine for trials
counts no double free, and what is live there waits, is owned or is given away. -/
theorem message_in_one_place :
    (∀ {σ : Type} {E : Engine σ} {h : History σ}, History.Reached E h → Lawful h.transfers →
      (delivered h.calls).Nodup → ∀ a,
        (a ∈ delivered h.calls →
          h.places a = (1, 0, 0) ∨ h.places a = (0, 1, 0) ∨ h.places a = (0, 0, 1)) ∧
        (a ∉ delivered h.calls → h.places a = (0, 0, 0))) ∧
    ∀ (settings : Settings) (script : List Bool) (steps : List Step),
      let h := history settings script steps
      Lawful h.transfers →
        (delivered h.calls).Nodup ∧ h.session.engine.doubleFrees = 0 ∧
          h.session.engine.live.Nodup ∧
          h.session.engine.live.Perm (h.session.engine.pending ++
            h.session.messages.values.map Message.address ++ outstanding h.transfers) := by
  refine ⟨fun hr hl hd a => ⟨hr.places_of_mem hl hd, hr.places_of_notMem hl⟩, ?_⟩
  intro settings script steps h hl
  have hs := stock_history hl
  refine ⟨nodup_delivered_history hl, hs.doubleFrees, ?_, ?_⟩
  · exact Multiset.coe_nodup.1 (Multiset.nodup_of_le (Multiset.le_add_right _ _) hs.nodup)
  · rw [← Multiset.coe_eq_coe, hs.live, Holding.inHand, Session.addresses_owned, Multiset.coe_add,
      Multiset.coe_add, List.append_assoc]

/-- Four messages arrive: one stays with its owner, one is given away, one is given away, taken back
and freed, and one still waits. -/
def fourMessages : List Step :=
  [.operation (.initialise "inst" 33 "sip"), .push, .push, .push, .push,
    .operation (.getMessage "inst" (.ofMillis 0) "owned"),
    .operation (.getMessage "inst" (.ofMillis 0) "given"),
    .operation (.giveAway "given" "kept"),
    .operation (.getMessage "inst" (.ofMillis 0) "freed"),
    .operation (.giveAway "freed" "back"),
    .operation (.takeBack (.slot "back") "inst" "freed"),
    .operation (.discardMessage "freed")]

/-- Of four messages, three are in the three places. -/
theorem fourMessages_in_one_place :
    let h := history {} [] fourMessages
    Lawful h.transfers ∧ delivered h.calls = [32, 48, 64] ∧
      (h.places 32 = (1, 0, 0) ∨ h.places 32 = (0, 1, 0) ∨ h.places 32 = (0, 0, 1)) ∧
      h.places 48 = (0, 1, 0) ∧ h.places 64 = (0, 0, 1) ∧
      h.session.engine.doubleFrees = 0 ∧ h.session.engine.live.Perm [80, 32, 48] := by
  intro h
  have hl : Lawful h.transfers := by decide
  have hd : delivered h.calls = [32, 48, 64] := by decide
  obtain ⟨place, trial⟩ := message_in_one_place
  obtain ⟨nodup, doubleFrees, -, live⟩ := trial {} [] fourMessages hl
  refine ⟨hl, hd, ?_, by decide, by decide, doubleFrees, live⟩
  exact (place reached_history hl nodup 32).1 (by rw [hd]; decide)

end Places

end Switchboard.Trial
