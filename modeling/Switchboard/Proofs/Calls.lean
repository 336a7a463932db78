import Mathlib.Data.List.Basic
import Switchboard.Engine

/-!
# Readings of the calls of an engine

What can be read off the calls that were made, in their order, without a look at the session:

* `openings`, the answers of the initialise calls that gave a handle. The context with number `k` is
  the one that the `k`-th of them made;
* `shutDownsOf k`, the handles that were shut down on behalf of a context;
* `openHandles`, the handles that were given and not shut down since;
* `delivered` and `freed`, the messages that came from the engine and those that were freed.
-/

namespace Switchboard

namespace Call

/-- The answer of an initialise call, if it gave a handle. -/
def opening? : Call → Option Opening
  | .initialise _ _ answer => if answer.handle = 0 then none else some answer
  | _ => none

/-- The handle of a shut down call on behalf of a context. -/
def shutDownOf? (k : ℕ) : Call → Option Address
  | .shutDown context handle => if context = k then some handle else none
  | _ => none

/-- The message that a call gave. -/
def delivered? : Call → Option Address
  | .getMessage _ _ _ answer | .sendMessage _ _ _ answer => if answer = 0 then none else some answer
  | _ => none

/-- The message that a call freed. -/
def freed? : Call → Option Address
  | .freeMessage _ message => some message
  | _ => none

/-- The handle that a call was made with. -/
def handle? : Call → Option Address
  | .shutDown _ handle | .getMessage _ handle _ _ | .sendMessage _ handle _ _ => some handle
  | _ => none

/-- The context on whose behalf a call was made. -/
def context? : Call → Option ℕ
  | .initialise .. => none
  | .shutDown k _ | .getMessage k _ _ _ | .sendMessage k _ _ _ | .freeMessage k _ => some k

/-- The handles that are open after a call, from those that were open before. -/
def openAfter (handles : List Address) : Call → List Address
  | .initialise _ _ answer => if answer.handle = 0 then handles else answer.handle :: handles
  | .shutDown _ handle => handles.filter (· ≠ handle)
  | _ => handles

end Call

/-- The answers of the initialise calls that gave a handle. -/
def openings (calls : List Call) : List Opening :=
  calls.filterMap Call.opening?

/-- The handles that were shut down on behalf of a context. -/
def shutDownsOf (k : ℕ) (calls : List Call) : List Address :=
  calls.filterMap (Call.shutDownOf? k)

/-- The messages that get and send calls gave. -/
def delivered (calls : List Call) : List Address :=
  calls.filterMap Call.delivered?

/-- The messages that were freed. -/
def freed (calls : List Call) : List Address :=
  calls.filterMap Call.freed?

/-- The handles that are open: given by an initialise call, and not shut down since. -/
def openHandles (calls : List Call) : List Address :=
  calls.foldl Call.openAfter []

variable {calls more : List Call} {k : ℕ}

@[simp] theorem openings_append :
    openings (calls ++ more) = openings calls ++ openings more :=
  List.filterMap_append

@[simp] theorem shutDownsOf_append :
    shutDownsOf k (calls ++ more) = shutDownsOf k calls ++ shutDownsOf k more :=
  List.filterMap_append

@[simp] theorem delivered_append :
    delivered (calls ++ more) = delivered calls ++ delivered more :=
  List.filterMap_append

@[simp] theorem freed_append : freed (calls ++ more) = freed calls ++ freed more :=
  List.filterMap_append

@[simp] theorem openHandles_append_singleton {c : Call} :
    openHandles (calls ++ [c]) = c.openAfter (openHandles calls) :=
  List.foldl_concat ..

/-- A call that opens nothing and shuts nothing down leaves the open handles as they are. -/
theorem openHandles_skip {c : Call} (hc : c.openAfter (openHandles calls) = openHandles calls) :
    openHandles (calls ++ [c]) = openHandles calls := by
  rw [openHandles_append_singleton, hc]

/-! ## What happens in an order -/

section Proper

variable {α : Type} {P : List α → α → Prop} {l more : List α} {x : α}

/-- Each member of a list is proper after those before it. -/
def Proper (P : List α → α → Prop) (l : List α) : Prop :=
  ∀ before x after, l = before ++ x :: after → P before x

theorem proper_nil : Proper P [] := by
  intro before x after h
  simp at h

theorem Proper.of_append (h : Proper P (l ++ more)) : Proper P l := by
  intro before x after hl
  apply h before x (after ++ more)
  rw [hl, List.append_assoc, List.cons_append]

theorem proper_append_singleton : Proper P (l ++ [x]) ↔ Proper P l ∧ P l x := by
  refine ⟨fun h => ⟨h.of_append, h l x [] rfl⟩, ?_⟩
  rintro ⟨h, hx⟩ before y after hl
  rcases List.eq_nil_or_concat after with rfl | ⟨after, z, rfl⟩
  · obtain ⟨rfl, hy⟩ := List.append_inj' hl rfl
    exact List.head_eq_of_cons_eq hy ▸ hx
  · rw [List.concat_eq_append, ← List.cons_append, ← List.append_assoc] at hl
    exact h before y after (List.append_inj' hl rfl).1

theorem proper_iff_getElem : Proper P l ↔ ∀ i, ∀ hi : i < l.length, P (l.take i) l[i] := by
  constructor
  · intro h i hi
    apply h (l.take i) l[i] (l.drop (i + 1))
    rw [← List.drop_eq_getElem_cons hi, List.take_append_drop]
  · rintro h before x after rfl
    simpa using h before.length (by simp)

instance [∀ before x, Decidable (P before x)] : Decidable (Proper P l) :=
  decidable_of_iff _ proper_iff_getElem.symm

end Proper

end Switchboard
