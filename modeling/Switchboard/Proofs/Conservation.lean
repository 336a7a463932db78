import Switchboard.Proofs.Simulation

/-!
# The conservation of messages

A message that the engine gave is in one place: in a slot, given away, or freed. The effects on a
holding move it between these places and never copy it or lose it, as long as nothing is taken back
that is not given away (`Conserved.effect`). So the messages of a run are those that it holds, those
that are outstanding and those that it freed, each as often as the engine gave it
(`History.Reached.conserved`), and if the engine gives none twice, then each is in exactly one
place, once (`History.Reached.places_of_mem`).
-/

namespace Switchboard

variable {σ : Type} {E : Engine σ}

/-! ## Messages in hand -/

namespace Holding

variable {H H₁ : Holding σ} {m : Message} {c : Context} {l : List Transfer} {a : Address}

/-- The messages that are owned or given away. -/
def inHand (H : Holding σ) (l : List Transfer) : Multiset Address :=
  H.owned.map Message.address + outstanding l

theorem inHand_own : (H.own m).inHand l = m.address ::ₘ H.inHand l := by
  simp only [inHand, own, Multiset.map_cons, Multiset.cons_add]

/-- Without a transfer it is the owned messages that matter. -/
theorem inHand_still (ho : H₁.owned = H.owned) : H₁.inHand (l ++ []) = H.inHand l := by
  rw [List.append_nil, inHand, inHand, ho]

theorem inHand_more (ho : H₁.owned = m ::ₘ H.owned) :
    H₁.inHand (l ++ []) = m.address ::ₘ H.inHand l := by
  rw [List.append_nil, inHand, inHand, ho, Multiset.map_cons, Multiset.cons_add]

/-- A message that is given away stays in hand. -/
theorem inHand_given :
    (H.add m.context).inHand (l ++ [.given m.address]) = (H.own m).inHand l := by
  rw [inHand_own, inHand, inHand, outstanding_append_given, ← Multiset.cons_coe,
    Multiset.add_cons]
  rfl

/-- A message that is taken back was in hand before. -/
theorem inHand_taken (hl : Lawful (l ++ [.taken a])) :
    (H.own ⟨c, a⟩).inHand (l ++ [.taken a]) = H.inHand l := by
  have ha : a ∈ (outstanding l : Multiset Address) := Multiset.mem_coe.2 hl.mem_outstanding
  rw [inHand_own, inHand, inHand, outstanding_append_taken, ← Multiset.coe_erase,
    ← Multiset.add_cons, Multiset.cons_erase ha]

end Holding

/-! ## Conservation -/

/-- What the engine gave is in hand or freed. -/
def Conserved (calls : List Call) (l : List Transfer) (H : Holding σ) : Prop :=
  (delivered calls : Multiset Address) = H.inHand l + freed calls

namespace Conserved

variable {calls more : List Call} {l l₁ : List Transfer} {H H₁ : Holding σ} {a : Address}

/-- Calls that neither give nor free a message change nothing. -/
theorem skip (h : Conserved calls l H) (hh : H₁.inHand l₁ = H.inHand l)
    (hd : delivered more = []) (hf : freed more = []) : Conserved (calls ++ more) l₁ H₁ := by
  rw [Conserved, delivered_append, freed_append, hd, hf, List.append_nil, List.append_nil, hh]
  exact h

/-- A message that the engine gives is in hand. -/
theorem deliver (h : Conserved calls l H) (hh : H₁.inHand l₁ = a ::ₘ H.inHand l)
    (hd : delivered more = [a]) (hf : freed more = []) : Conserved (calls ++ more) l₁ H₁ := by
  rw [Conserved, delivered_append, freed_append, hd, hf, List.append_nil, hh, Multiset.cons_add,
    ← h, ← Multiset.coe_add, Multiset.coe_singleton, Multiset.add_comm, Multiset.singleton_add]

/-- A message in hand is freed. -/
theorem free (h : Conserved calls l H) (hh : H.inHand l = a ::ₘ H₁.inHand l₁)
    (hd : delivered more = []) (hf : freed more = [a]) : Conserved (calls ++ more) l₁ H₁ := by
  rw [Conserved, delivered_append, freed_append, hd, hf, List.append_nil, h, hh,
    ← Multiset.coe_add, Multiset.coe_singleton, Multiset.cons_add, ← Multiset.add_assoc,
    Multiset.add_comm _ {a}, Multiset.singleton_add]

/-- No effect copies or loses a message. -/
theorem effect {t : Trace} (h : Conserved calls l H) (hl : Lawful (l ++ l₁))
    (he : Effect E H t l₁ H₁) : Conserved (calls ++ t.calls) (l ++ l₁) H₁ := by
  cases he with
  | opened call ne => exact h.skip (Holding.inHand_still rfl) rfl rfl
  | refused call eq => exact h.skip (Holding.inHand_still rfl) rfl rfl
  | shared mem => exact h.skip (Holding.inHand_still rfl) rfl rfl
  | received mem call ne =>
    exact h.deliver (Holding.inHand_more rfl) (by simp [delivered, Call.delivered?, ne]) rfl
  | missed mem call => exact h.skip (Holding.inHand_still rfl) rfl rfl
  | responded mem call ne =>
    exact h.deliver (Holding.inHand_more rfl) (by simp [delivered, Call.delivered?, ne]) rfl
  | unanswered mem call => exact h.skip (Holding.inHand_still rfl) rfl rfl
  -- the only effect that needs a lawful past: the message was given away, so it is not a copy
  | tookBack mem ne => exact h.skip (Holding.inHand_taken hl) rfl rfl
  | freed =>
    refine h.free ?_ rfl rfl
    rw [Holding.inHand_own, List.append_nil]
    rfl
  | gaveAway => exact h.skip Holding.inHand_given rfl rfl
  | left held => exact h.skip (Holding.inHand_still rfl) rfl rfl
  | ended last => exact h.skip (Holding.inHand_still rfl) rfl rfl

end Conserved

/-! ## Runs -/

/-- How many messages of a session own an address. -/
def Session.owners (s : Session σ) (a : Address) : ℕ :=
  s.messages.values.countP (·.address = a)

/-- Without a message there is one owner less of its address. -/
theorem Session.owners_erase_message {s : Session σ} {name : String} {m : Message}
    (hm : s.messages.get? name = some m) :
    { s with messages := s.messages.erase name }.owners m.address + 1 = s.owners m.address := by
  rw [owners, owners, ← Multiset.coe_countP, ← Multiset.coe_countP, Slots.coe_values_of_get? hm,
    Multiset.countP_cons_of_pos (p := fun x : Message => x.address = m.address) _ rfl]

/-- A message in an empty slot is one owner more of its address. -/
theorem Session.owners_insert_message {s : Session σ} {name : String}
    (h : s.messages.get? name = none) (m : Message) (a : Address) :
    { s with messages := s.messages.insert name m }.owners a =
      s.owners a + if m.address = a then 1 else 0 := by
  rw [owners, ← Multiset.coe_countP, Slots.coe_values_insert, Slots.erase_of_get?_none h,
    Multiset.countP_cons, Multiset.coe_countP, owners]

theorem Session.addresses_owned (s : Session σ) :
    s.holding.owned.map Message.address =
      (s.messages.values.map Message.address : List Address) :=
  rfl

theorem Session.count_owned (s : Session σ) (a : Address) :
    (s.holding.owned.map Message.address).count a = s.owners a := by
  rw [Multiset.count_map, ← Multiset.countP_eq_card_filter, holding, Multiset.coe_countP, owners]
  simp only [eq_comm]

namespace History

variable {h : History σ} {a : Address}

/-- No message of a run is copied or lost. -/
theorem Reached.conserved (hr : Reached E h) (hl : Lawful h.transfers) :
    Conserved h.calls h.transfers h.session.holding := by
  obtain ⟨engine, ms, rfl⟩ := hr
  exact (effect_induction (P := fun t l H => Lawful l → Conserved t.calls l H)
    (sound_start engine) (fun _ => rfl) (fun _ h he hl => (h hl.of_append).effect hl he)
    fun f _ h hl => h hl).2 hl

/-- An address is owned, given away and freed as often, together, as the engine gave it. -/
theorem Reached.count_delivered (hr : Reached E h) (hl : Lawful h.transfers) (a : Address) :
    (delivered h.calls).count a = h.session.owners a + (outstanding h.transfers).count a +
      (freed h.calls).count a := by
  have hc := congrArg (Multiset.count a) (hr.conserved hl)
  simpa only [Holding.inHand, Multiset.count_add, Multiset.coe_count, Session.count_owned] using hc

/-- How often an address is owned, given away and freed. -/
def places (h : History σ) (a : Address) : ℕ × ℕ × ℕ :=
  (h.session.owners a, (outstanding h.transfers).count a, (freed h.calls).count a)

/-- A message that the engine gave once is in one place, once. -/
theorem Reached.places_of_mem (hr : Reached E h) (hl : Lawful h.transfers)
    (hd : (delivered h.calls).Nodup) (ha : a ∈ delivered h.calls) :
    h.places a = (1, 0, 0) ∨ h.places a = (0, 1, 0) ∨ h.places a = (0, 0, 1) := by
  have hc := hr.count_delivered hl a
  rw [List.count_eq_one_of_mem hd ha] at hc
  simp only [places, Prod.mk.injEq]
  omega

/-- What the engine did not give is in no place. -/
theorem Reached.places_of_notMem (hr : Reached E h) (hl : Lawful h.transfers)
    (ha : a ∉ delivered h.calls) : h.places a = (0, 0, 0) := by
  have hc := hr.count_delivered hl a
  rw [List.count_eq_zero_of_not_mem ha] at hc
  simp only [places, Prod.mk.injEq]
  omega

end History

end Switchboard
