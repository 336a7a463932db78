/-!
# Slots

Named places that hold one thing each. Storing into an occupied slot answers what was there before.
-/

namespace Switchboard

/-- Things under names, each name at most once. -/
structure Slots (α : Type) where
  entries : List (String × α) := []
  distinct : (entries.map Prod.fst).Nodup := by exact List.nodup_nil
  deriving Repr

namespace Slots

variable {α : Type}

/-- What a slot holds. -/
def get? (t : Slots α) (name : String) : Option α :=
  t.entries.lookup name

/-- Empties a slot. -/
def erase (t : Slots α) (name : String) : Slots α where
  entries := t.entries.filter (·.1 ≠ name)
  distinct := t.distinct.sublist (List.filter_sublist.map Prod.fst)

theorem notMem_erase (t : Slots α) (name : String) :
    name ∉ (t.erase name).entries.map Prod.fst := by
  simp [erase]

/-- Fills a slot in place of what it holds. -/
def insert (t : Slots α) (name : String) (x : α) : Slots α where
  entries := (name, x) :: (t.erase name).entries
  distinct := List.nodup_cons.2 ⟨t.notMem_erase name, (t.erase name).distinct⟩

/-- Everything that is held. -/
def values (t : Slots α) : List α :=
  t.entries.map (·.2)

/-- The names of the occupied slots in ascending order. -/
def names (t : Slots α) : List String :=
  (t.entries.map (·.1)).mergeSort fun a b => !decide (b < a)

@[simp] theorem get?_insert_self (t : Slots α) (name : String) (x : α) :
    (t.insert name x).get? name = some x := by
  simp only [get?, insert, List.lookup_cons_self]

@[simp] theorem get?_erase_self (t : Slots α) (name : String) :
    (t.erase name).get? name = none := by
  refine List.lookup_eq_none_iff.2 fun e he => ?_
  have h := (List.mem_filter.1 he).2
  simp only [decide_eq_true_eq, ne_eq] at h
  exact bne_iff_ne.2 (Ne.symm h)

theorem erase_of_get?_none {t : Slots α} {name : String} (h : t.get? name = none) :
    t.erase name = t := by
  have hl : t.entries.filter (·.1 ≠ name) = t.entries := by
    refine List.filter_eq_self.2 fun e he => decide_eq_true ?_
    exact (bne_iff_ne.1 (List.lookup_eq_none_iff.1 h e he)).symm
  cases t
  simpa only [erase, mk.injEq] using hl

end Slots

end Switchboard
