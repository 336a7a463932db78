import Mathlib.Data.Multiset.AddSub
import Switchboard.Session.Slots

/-!
# What slots hold

Looking a slot up after another one was filled or emptied, and the multiset of all that is held:
emptying an occupied slot takes one occurrence of its content away (`coe_values_of_get?`), and
filling a slot adds one to what is left without that slot (`coe_values_insert`). No name is there
twice, so an occurrence and a name that holds it are the same thing (`mem_values_iff`).
-/

namespace Switchboard.Slots

variable {α : Type} {t : Slots α} {name other : String} {x : α}

/-! ## Looking up -/

theorem mem_entries_of_get? (h : t.get? name = some x) : (name, x) ∈ t.entries := by
  obtain ⟨l₁, l₂, hl, -⟩ := List.lookup_eq_some_iff.1 h
  rw [hl]
  exact List.mem_append_right _ List.mem_cons_self

/-- An occupied slot is the only one of its name. -/
theorem entries_of_get? (h : t.get? name = some x) :
    ∃ l₁ l₂, t.entries = l₁ ++ (name, x) :: l₂ ∧ (t.erase name).entries = l₁ ++ l₂ := by
  obtain ⟨l₁, l₂, hl, h₁⟩ := List.lookup_eq_some_iff.1 h
  have hd := t.distinct
  rw [hl, List.map_append, List.map_cons, List.nodup_append] at hd
  obtain ⟨-, hd, -⟩ := hd
  refine ⟨l₁, l₂, hl, ?_⟩
  have keep₁ : l₁.filter (·.1 ≠ name) = l₁ := by
    refine List.filter_eq_self.2 fun e he => decide_eq_true ?_
    exact (bne_iff_ne.1 (h₁ e he)).symm
  have keep₂ : l₂.filter (·.1 ≠ name) = l₂ := by
    refine List.filter_eq_self.2 fun e he => decide_eq_true fun heq => ?_
    exact (List.nodup_cons.1 hd).1 (List.mem_map.2 ⟨e, he, heq⟩)
  have drop : (((name, x) :: l₂).filter (·.1 ≠ name)) = l₂.filter (·.1 ≠ name) := by simp
  change t.entries.filter (·.1 ≠ name) = l₁ ++ l₂
  rw [hl, List.filter_append, drop, keep₁, keep₂]

theorem get?_erase_of_ne (h : other ≠ name) : (t.erase name).get? other = t.get? other := by
  simp only [get?, erase]
  induction t.entries with
  | nil => rfl
  | cons e l ih =>
    by_cases he : e.1 = name
    · have hne : (other == e.1) = false := by simpa [he] using h
      rw [List.filter_cons_of_neg (by simpa using he), ih, List.lookup_cons, hne]
    · rw [List.filter_cons_of_pos (by simpa using he), List.lookup_cons, List.lookup_cons, ih]

theorem get?_insert_of_ne (h : other ≠ name) : (t.insert name x).get? other = t.get? other := by
  have he : (t.insert name x).get? other = (t.erase name).get? other := by
    rw [get?, insert, List.lookup_cons, beq_false_of_ne h]
    rfl
  rw [he, get?_erase_of_ne h]

theorem get?_erase_eq_some_iff :
    (t.erase name).get? other = some x ↔ other ≠ name ∧ t.get? other = some x := by
  by_cases h : other = name
  · subst h
    simp
  · rw [get?_erase_of_ne h]
    exact (and_iff_right h).symm

/-- Emptying a slot that was filled before is as if it was never filled. -/
theorem erase_insert (t : Slots α) (name : String) (x : α) :
    (t.insert name x).erase name = t.erase name := by
  have he : ((name, x) :: (t.erase name).entries).filter (·.1 ≠ name) = (t.erase name).entries := by
    simp [erase]
  simpa only [erase, insert, mk.injEq] using he

/-! ## All that is held -/

theorem mem_entries_iff : (name, x) ∈ t.entries ↔ t.get? name = some x := by
  refine ⟨fun he => ?_, mem_entries_of_get?⟩
  cases hg : t.get? name with
  | none =>
    have := List.lookup_eq_none_iff.1 hg _ he
    simp at this
  | some z =>
    obtain ⟨l₁, l₂, hl, hr⟩ := entries_of_get? hg
    have hn := t.notMem_erase name
    rw [hr] at hn
    rw [hl] at he
    rcases List.mem_append.1 he with he | he
    · exact absurd (List.mem_map_of_mem (List.mem_append_left _ he)) hn
    · rcases List.mem_cons.1 he with he | he
      · rw [(Prod.mk.inj he).2]
      · exact absurd (List.mem_map_of_mem (List.mem_append_right _ he)) hn

theorem mem_values_iff : x ∈ t.values ↔ ∃ name, t.get? name = some x := by
  simp only [values, List.mem_map, Prod.exists, mem_entries_iff, exists_eq_right]

theorem coe_values_of_get? (h : t.get? name = some x) :
    (t.values : Multiset α) = x ::ₘ ((t.erase name).values : Multiset α) := by
  obtain ⟨l₁, l₂, hl, hr⟩ := entries_of_get? h
  rw [Multiset.cons_coe, Multiset.coe_eq_coe, values, values, hl, hr, List.map_append,
    List.map_append, List.map_cons]
  exact List.perm_middle

theorem coe_values_insert (t : Slots α) (name : String) (x : α) :
    ((t.insert name x).values : Multiset α) = x ::ₘ ((t.erase name).values : Multiset α) := rfl

/-! ## Agreement -/

/-- The slots hold the same things of some kind. -/
def SameOn (P : α → Prop) (t t' : Slots α) : Prop :=
  ∀ name x, P x → (t'.get? name = some x ↔ t.get? name = some x)

namespace SameOn

variable {P : α → Prop} {t' t'' : Slots α}

theorem refl (P : α → Prop) (t : Slots α) : SameOn P t t :=
  fun _ _ _ => Iff.rfl

theorem mono {Q : α → Prop} (h : SameOn P t t') (hQ : ∀ x, Q x → P x) : SameOn Q t t' :=
  fun name x hx => h name x (hQ x hx)

theorem trans (h : SameOn P t t') (h' : SameOn P t' t'') : SameOn P t t'' :=
  fun name x hx => (h' name x hx).trans (h name x hx)

/-- A slot is emptied of something else. -/
theorem erase (h : ∀ x, t.get? name = some x → ¬ P x) : SameOn P t (t.erase name) := by
  intro other x hx
  rw [get?_erase_eq_some_iff, and_iff_right_iff_imp]
  rintro ho rfl
  exact h x ho hx

/-- A slot is filled with something else. -/
theorem insert (h : ∀ x, t.get? name = some x → ¬ P x) (hx : ¬ P x) :
    SameOn P t (t.insert name x) := by
  intro other y hy
  by_cases ho : other = name
  · subst ho
    have new : (t.insert other x).get? other ≠ some y := by
      rw [get?_insert_self]
      rintro ⟨rfl⟩
      exact hx hy
    exact iff_of_false new fun hg => h y hg hy
  · rw [get?_insert_of_ne ho]

/-- There are as many of them. -/
theorem countP_values [DecidablePred P] (h : SameOn P t t') :
    t'.values.countP (P ·) = t.values.countP (P ·) := by
  have nodup (u : Slots α) : (u.entries.filter (P ·.2)).Nodup :=
    (List.Nodup.of_map _ u.distinct).filter _
  have perm : (t'.entries.filter (P ·.2)).Perm (t.entries.filter (P ·.2)) := by
    refine (List.perm_ext_iff_of_nodup (nodup t') (nodup t)).2 fun e => ?_
    simp only [List.mem_filter, decide_eq_true_eq, and_congr_left_iff]
    exact fun he => mem_entries_iff.trans ((h e.1 e.2 he).trans mem_entries_iff.symm)
  simp only [values, List.countP_map]
  rw [List.countP_eq_length_filter, List.countP_eq_length_filter]
  exact perm.length_eq

end SameOn

end Switchboard.Slots
