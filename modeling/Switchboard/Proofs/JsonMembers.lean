import Mathlib.Data.List.Nodup
import Mathlib.Data.String.Basic
import Switchboard.Json.Value

/-!
# The members of an object

Members with different names are told by looking their names up. Making an object of them puts them
in ascending order of their names and changes nothing else (`exists_ofMembers_eq_object`).
-/

namespace Switchboard.Json

variable {v : Value} {ms : List (String × Value)}

/-! ## Looking up -/

theorem lookup_cons (name k : String) (v : Value) (ms : List (String × Value)) :
    ((name, v) :: ms).lookup k = if k = name then some v else ms.lookup k := by
  by_cases h : k = name
  · rw [if_pos h, h, List.lookup_cons_self]
  · rw [if_neg h, List.lookup_cons, beq_false_of_ne h]

theorem lookup_cons_of_ne {name k : String} (h : k ≠ name) :
    ((name, v) :: ms).lookup k = ms.lookup k := by
  rw [lookup_cons, if_neg h]

theorem lookup_of_not_mem {k : String} (h : k ∉ ms.map Prod.fst) : ms.lookup k = none := by
  refine List.lookup_eq_none_iff.2 fun m hm => bne_iff_ne.2 ?_
  rintro rfl
  exact h (List.mem_map_of_mem hm)

/-- With different names, the members are those that are looked up. -/
theorem lookup_eq_some_iff {k : String} (nodup : (ms.map Prod.fst).Nodup) :
    ms.lookup k = some v ↔ (k, v) ∈ ms := by
  induction ms with
  | nil => simp
  | cons m ms ih =>
    obtain ⟨name, w⟩ := m
    obtain ⟨hn, hnodup⟩ := List.nodup_cons.1 nodup
    by_cases hk : k = name
    · subst hk
      rw [List.lookup_cons_self, List.mem_cons, Prod.mk.injEq]
      refine ⟨fun h => .inl ⟨rfl, (Option.some.inj h).symm⟩, ?_⟩
      rintro (⟨-, rfl⟩ | hm)
      · rfl
      · exact absurd (List.mem_map_of_mem hm) hn
    · rw [lookup_cons_of_ne hk, ih hnodup, List.mem_cons, Prod.mk.injEq]
      exact ⟨.inr, fun h => h.resolve_left fun he => hk he.1⟩

/-! ## Putting in order -/

theorem nodup_of_ascending (h : ms.Pairwise (·.1 < ·.1)) : (ms.map Prod.fst).Nodup :=
  List.pairwise_map.2 (h.imp ne_of_lt)

/-- Putting a member in its place is the same as putting it first, as far as can be told. -/
theorem lookup_insertMember (name k : String) (v : Value) (ms : List (String × Value)) :
    (insertMember name v ms).lookup k = if k = name then some v else ms.lookup k := by
  induction ms with
  | nil => exact lookup_cons name k v []
  | cons m ms ih =>
    obtain ⟨n, w⟩ := m
    rw [insertMember]
    split
    · exact lookup_cons name k v _
    · split
      · next h =>
        subst h
        rw [lookup_cons, lookup_cons]
        split <;> rfl
      · next hn =>
        rw [lookup_cons, lookup_cons, ih]
        by_cases hk : k = n
        · rw [if_pos hk, if_pos hk, if_neg fun h => hn (h.symm.trans hk)]
        · rw [if_neg hk, if_neg hk]

theorem mem_insertMember {name : String} {m : String × Value} (h : m ∈ insertMember name v ms) :
    m = (name, v) ∨ m ∈ ms := by
  induction ms with
  | nil => exact .inl (List.mem_singleton.1 h)
  | cons n ms ih =>
    rw [insertMember] at h
    split at h
    · exact List.mem_cons.1 h
    · split at h
      · exact (List.mem_cons.1 h).imp_right (List.mem_cons_of_mem _)
      · obtain rfl | h := List.mem_cons.1 h
        · exact .inr List.mem_cons_self
        · exact (ih h).imp_right (List.mem_cons_of_mem _)

/-- A member is put in its place among members in ascending order. -/
theorem ascending_insertMember (name : String) (v : Value) (h : ms.Pairwise (·.1 < ·.1)) :
    (insertMember name v ms).Pairwise (·.1 < ·.1) := by
  induction ms with
  | nil => exact List.pairwise_singleton _ _
  | cons n ms ih =>
    obtain ⟨hn, hms⟩ := List.pairwise_cons.1 h
    rw [insertMember]
    split
    · next hlt =>
      refine List.pairwise_cons.2 ⟨fun m hm => ?_, h⟩
      obtain rfl | hm := List.mem_cons.1 hm
      · exact hlt
      · exact hlt.trans (hn m hm)
    · next hlt =>
      split
      · next he =>
        subst he
        exact List.pairwise_cons.2 ⟨hn, hms⟩
      · next hne =>
        refine List.pairwise_cons.2 ⟨fun m hm => ?_, ih hms⟩
        obtain rfl | hm := mem_insertMember hm
        · exact lt_of_le_of_ne (not_lt.1 hlt) (Ne.symm hne)
        · exact hn m hm

/-- The object of members with different names has these members in ascending order. -/
theorem exists_ofMembers_eq_object (nodup : (ms.map Prod.fst).Nodup) :
    ∃ ns, Value.ofMembers ms = .object ns ∧ ns.Pairwise (·.1 < ·.1) ∧
      ∀ k, ns.lookup k = ms.lookup k := by
  suffices h : ∀ before : List (String × Value), before.Pairwise (·.1 < ·.1) →
      (ms.foldl (fun ns m => insertMember m.1 m.2 ns) before).Pairwise (·.1 < ·.1) ∧
      ∀ k, (ms.foldl (fun ns m => insertMember m.1 m.2 ns) before).lookup k =
        (ms.lookup k).or (before.lookup k) by
    obtain ⟨ha, hl⟩ := h [] List.Pairwise.nil
    exact ⟨_, rfl, ha, fun k => (hl k).trans (Option.or_none ..)⟩
  induction ms with
  | nil => exact fun before h => ⟨h, fun k => rfl⟩
  | cons m ms ih =>
    intro before h
    obtain ⟨hn, hnodup⟩ := List.nodup_cons.1 nodup
    obtain ⟨ha, hl⟩ := ih hnodup _ (ascending_insertMember m.1 m.2 h)
    refine ⟨ha, fun k => (hl k).trans ?_⟩
    rw [lookup_insertMember]
    by_cases hk : k = m.1
    · rw [hk, if_pos rfl, lookup_of_not_mem hn, List.lookup_cons_self]
      rfl
    · rw [if_neg hk, lookup_cons_of_ne hk]

theorem insertMember_of_forall_lt {name : String}
    (h : ∀ m ∈ ms, m.1 < name) : insertMember name v ms = ms ++ [(name, v)] := by
  induction ms with
  | nil => rfl
  | cons m ms ih =>
    obtain ⟨hm, hms⟩ := List.forall_mem_cons.1 h
    rw [insertMember, if_neg (lt_asymm hm), if_neg hm.ne', ih hms]
    rfl

/-- Members in ascending order are an object as they are. -/
theorem Value.ofMembers_of_ascending {ms : List (String × Value)}
    (h : ms.Pairwise (·.1 < ·.1)) : Value.ofMembers ms = .object ms := by
  suffices hs : ∀ before, (before ++ ms).Pairwise (·.1 < ·.1) →
      ms.foldl (fun ms m => insertMember m.1 m.2 ms) before = before ++ ms by
    rw [ofMembers, hs [] h, List.nil_append]
  clear h
  induction ms with
  | nil => exact fun before _ => (List.append_nil before).symm
  | cons m ms ih =>
    intro before h
    have hm : ∀ b ∈ before, b.1 < m.1 := fun b hb =>
      (List.pairwise_append.1 h).2.2 b hb m List.mem_cons_self
    have he : before ++ m :: ms = (before ++ [m]) ++ ms := by simp
    rw [List.foldl_cons, insertMember_of_forall_lt hm, he]
    exact ih _ (he ▸ h)

end Switchboard.Json
