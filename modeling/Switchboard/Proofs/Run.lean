import Mathlib.Data.List.Induction
import Switchboard.Proofs.Calls
import Switchboard.Session.Operation

/-!
# Runs

A run starts with an empty session and makes moves: operations, whatever they are refused or answer,
and changes of the engine that the session has no part in, such as the arrival of a message. A
`History` keeps what there is to know of a run: what happened, the results of the operations, and
the session it has led to. Whatever holds at the start and is kept by every move holds after every
run (`History.run_induction`).

Two operations move a message without a call of the engine, giving it away and taking it back. They
are read off the results (`History.transfers`); an address is `outstanding` while it is given away
and not taken back.
-/

namespace Switchboard

variable {σ : Type}

/-- A move of a run. -/
inductive Move (σ : Type)
  | operation (op : Operation)
  /-- The engine changes by itself. -/
  | outside (f : σ → σ)

/-- A run so far. -/
structure History (σ : Type) where
  trace : Trace := {}
  results : List (Operation × Except Refusal Answer) := []
  session : Session σ

namespace History

/-- The calls of the engine so far. -/
def calls (h : History σ) : List Call :=
  h.trace.calls

/-- A run that has not made a move yet. -/
def start (engine : σ) : History σ where
  session := { engine }

/-- Makes a move. -/
def step (E : Engine σ) (h : History σ) : Move σ → History σ
  | .operation op =>
    let d := op.run E h.session
    ⟨h.trace.append d.trace, h.results ++ [(op, d.value)], d.session⟩
  | .outside f => { h with session := { h.session with engine := f h.session.engine } }

/-- Makes moves one after another. -/
def run (E : Engine σ) (h : History σ) (ms : List (Move σ)) : History σ :=
  ms.foldl (step E) h

variable {E : Engine σ} {h : History σ} {ms more : List (Move σ)}

theorem run_append : h.run E (ms ++ more) = (h.run E ms).run E more :=
  List.foldl_append

theorem run_append_singleton {m : Move σ} : h.run E (ms ++ [m]) = (h.run E ms).step E m :=
  List.foldl_concat ..

/-- What holds at the start of a run and is kept by its moves holds after it. -/
theorem run_induction {P : History σ → Prop} (start : P h)
    (step : ∀ h m, m ∈ ms → P h → P (h.step E m)) : P (h.run E ms) := by
  induction ms using List.reverseRecOn with
  | nil => exact start
  | append_singleton ms m ih =>
    rw [run_append_singleton]
    refine step _ _ (List.mem_append_right _ (List.mem_singleton_self m)) (ih fun h m' hm' => ?_)
    exact step h m' (List.mem_append_left _ hm')

/-- A history that a run can have which starts with an empty session. -/
def Reached (E : Engine σ) (h : History σ) : Prop :=
  ∃ engine ms, h = (start engine).run E ms

theorem Reached.run (hr : Reached E h) (ms : List (Move σ)) : Reached E (h.run E ms) := by
  obtain ⟨engine, before, rfl⟩ := hr
  exact ⟨engine, before ++ ms, run_append.symm⟩

theorem Reached.step (hr : Reached E h) (m : Move σ) : Reached E (h.step E m) :=
  hr.run [m]

end History

/-! ## Transfers -/

/-- A message changes hands without a call of the engine. -/
inductive Transfer
  | given (a : Address)
  | taken (a : Address)
  deriving DecidableEq, Repr

/-- The transfer that an operation with some result made, if any. -/
def Operation.transfers : Operation → Except Refusal Answer → List Transfer
  | .giveAway .., .ok (.number a) => [.given a]
  | .takeBack .., .ok (.number a) => [.taken a]
  | _, _ => []

/-- The transfers of a run, in their order. -/
def History.transfers (h : History σ) : List Transfer :=
  h.results.flatMap fun r => r.1.transfers r.2

/-- What is given away after a transfer, from what was before it. -/
def Transfer.outAfter (out : List Address) : Transfer → List Address
  | .given a => a :: out
  | .taken a => out.erase a

/-- The addresses that were given away and not taken back since. -/
def outstanding (ts : List Transfer) : List Address :=
  ts.foldl Transfer.outAfter []

/-- Whether a transfer takes back what is given away. -/
def Transfer.Allowed (out : List Address) : Transfer → Prop
  | .given _ => True
  | .taken a => a ∈ out

instance (out : List Address) : DecidablePred (Transfer.Allowed out)
  | .given _ => isTrue trivial
  | .taken a => inferInstanceAs (Decidable (a ∈ out))

/-- What is taken back was given away before, and not taken back since. -/
def Lawful (ts : List Transfer) : Prop :=
  Proper (fun before t => t.Allowed (outstanding before)) ts

instance (ts : List Transfer) : Decidable (Lawful ts) :=
  inferInstanceAs (Decidable (Proper _ ts))

variable {ts more : List Transfer} {a : Address}

@[simp] theorem outstanding_append_given :
    outstanding (ts ++ [.given a]) = a :: outstanding ts :=
  List.foldl_concat ..

@[simp] theorem outstanding_append_taken :
    outstanding (ts ++ [.taken a]) = (outstanding ts).erase a :=
  List.foldl_concat ..

theorem Lawful.of_append (h : Lawful (ts ++ more)) : Lawful ts :=
  Proper.of_append h

theorem Lawful.mem_outstanding (h : Lawful (ts ++ [.taken a])) : a ∈ outstanding ts :=
  (proper_append_singleton.1 h).2

end Switchboard
