import Switchboard.Proofs.Negotiation
import Switchboard.Proofs.Trials

/-!
# Notes about versions

An engine that is started may leave another version than the one requested. The notes about this are
all that a session writes at level INFO, and there is one for each engine that was started and left
another version (`Tells.filter_info_eq`). What a note says is that the version was lowered. It is
written for a raised version as well, so the notes of a run tell the lowered versions if and only if
none was raised (`History.notes_truthful_iff`); an engine that raises one is said to have lowered it
(`History.raised_told_as_lowered`).

Which engines were started can be read off the calls, by the handles, and off the results of the
operations alike (`Operation.negotiations_run`).
-/

namespace Switchboard

/-! ## Versions that were negotiated -/

/-- The version that was requested of an engine which gave a handle, and the one that it left. -/
structure Negotiated where
  requested : UInt32
  left : UInt32
  deriving DecidableEq, Repr

namespace Negotiated

/-- The note that the engine lowered the version. -/
def note (v : Negotiated) : Notice :=
  .downgraded v.requested v.left

def Lowered (v : Negotiated) : Prop :=
  v.left < v.requested

def Raised (v : Negotiated) : Prop :=
  v.requested < v.left

instance : DecidablePred Lowered :=
  fun v => inferInstanceAs (Decidable (v.left < v.requested))

instance : DecidablePred Raised :=
  fun v => inferInstanceAs (Decidable (v.requested < v.left))

theorem note_injective : Function.Injective note := by
  rintro ⟨a, b⟩ ⟨c, d⟩ h
  obtain ⟨rfl, rfl⟩ := Notice.downgraded.inj h
  rfl

/-- Another version is a lower one unless it is a higher one. -/
theorem ne_iff_lowered_iff {v : Negotiated} :
    (v.left ≠ v.requested ↔ v.Lowered) ↔ ¬ v.Raised := by
  simp only [Lowered, Raised, UInt32.lt_iff_toNat_lt, ne_eq, ← UInt32.toNat_inj]
  omega

theorem text_note (v : Negotiated) :
    v.note.text = "OPAL engine downgraded API version from " ++ toString v.requested.toNat ++
      " to " ++ toString v.left.toNat := by
  rw [← Numeral.decimal_eq_toString, ← Numeral.decimal_eq_toString]
  rfl

end Negotiated

/-- The versions of an initialise call that gave a handle. -/
def Call.negotiated? : Call → Option Negotiated
  | .initialise requested _ answer =>
    if answer.handle = 0 then none else some ⟨requested, answer.version⟩
  | _ => none

/-- The versions of the engines that were started, in their order. -/
def negotiations (calls : List Call) : List Negotiated :=
  calls.filterMap Call.negotiated?

@[simp] theorem negotiations_append {calls more : List Call} :
    negotiations (calls ++ more) = negotiations calls ++ negotiations more :=
  List.filterMap_append

/-! ## Results of operations -/

/-- The versions of an operation that started an engine: its result is the version left. -/
def Operation.started? : Operation → Except Refusal Answer → Option Negotiated
  | .initialise _ requested _, .ok (.number n) => some ⟨requested, UInt32.ofNat n⟩
  | .initialiseWith .., .ok (.number n) => some ⟨interfaceVersion, UInt32.ofNat n⟩
  | _, _ => none

section Operations

variable {σ : Type} {E : Engine σ} {s : Session σ} {name into : String}

theorem Context.negotiations_release (c : Context) (s : Session σ) :
    negotiations (c.release E s).trace.calls = [] := by
  rcases c.release_cases (E := E) s with h | h <;> rw [h] <;> rfl

theorem Message.negotiations_discard (m : Message) (s : Session σ) :
    negotiations (m.discard E s).trace.calls = [] := by
  have freed : negotiations (m.free E s).trace.calls = [] := by
    by_cases h : m.address = 0
    · simp [free, h, negotiations]
    · rw [free_of_ne h]
      rfl
  simp only [discard, Action.bind_apply, Trace.calls_append, negotiations_append, freed,
    m.context.negotiations_release, List.nil_append]

theorem negotiations_keepInstance (r : Except Error Instance) (s : Session σ) :
    negotiations (keepInstance E into r s).trace.calls = [] := by
  cases r with
  | error e => rfl
  | ok i =>
    refine List.filterMap_eq_nil_iff.2 fun c hc => ?_
    obtain ⟨k, a, rfl⟩ := storeInstance_calls (E := E) i s c (by simpa [keepInstance] using hc)
    rfl

theorem negotiations_keepMessage (r : Except Error Message) (s : Session σ) :
    negotiations (keepMessage E into r s).trace.calls = [] := by
  cases r with
  | error e => rfl
  | ok m =>
    cases h : s.messages.get? into with
    | none => simp [keepMessage, storeMessage_of_none h, negotiations]
    | some old => simp [keepMessage, storeMessage_of_some h, old.negotiations_discard]

theorem negotiations_withInstance {f : Instance → Action σ (Except Refusal Answer)}
    (hf : ∀ i, negotiations (f i s).trace.calls = []) :
    negotiations (withInstance name f s).trace.calls = [] := by
  rcases withInstance_cases name f s with h | ⟨i, -, h⟩ <;> rw [h]
  · rfl
  · exact hf i

theorem negotiations_withMessage {f : Message → Action σ (Except Refusal Answer)}
    (hf : ∀ m, negotiations (f m s).trace.calls = []) :
    negotiations (withMessage name f s).trace.calls = [] := by
  rcases withMessage_cases name f s with h | ⟨m, -, h⟩ <;> rw [h]
  · rfl
  · exact hf m

theorem negotiations_withAddress {source : AddressSource}
    {f : Address → Action σ (Except Refusal Answer)}
    (hf : ∀ a, negotiations (f a s).trace.calls = []) :
    negotiations (withAddress source f s).trace.calls = [] := by
  rcases withAddress_cases source f s with h | ⟨a, h⟩ <;> rw [h]
  · rfl
  · exact hf a

theorem Instance.negotiations_getMessage (i : Instance) (wait : Duration) (s : Session σ) :
    negotiations ((i.getMessage E wait >>= keepMessage E into) s).trace.calls = [] := by
  rw [Action.bind_apply, Trace.calls_append, negotiations_append, negotiations_keepMessage,
    (i.getMessage_calls s wait).1]
  rfl

theorem Instance.negotiations_sendAddress (i : Instance) (message : Address) (s : Session σ) :
    negotiations ((i.sendAddress E message >>= keepMessage E into) s).trace.calls = [] := by
  rw [Action.bind_apply, Trace.calls_append, negotiations_append, negotiations_keepMessage,
    (i.sendAddress_calls s message).1]
  rfl

/-- An engine that is started has the versions of its instance. -/
theorem Instance.negotiations_initialise (requested : UInt32) (options : String) (s : Session σ) :
    let d := Instance.initialise E requested options s
    negotiations d.trace.calls =
      (d.value.toOption.map fun i => ⟨requested, i.context.version⟩).toList := by
  cases h : NulFault.find? (Utf8.encode options.toList) with
  | some fault =>
    rw [initialise_of_nul h]
    rfl
  | none =>
    rcases call : E.initialise requested options s.engine with ⟨answer, engine⟩
    by_cases ha : answer.handle = 0
    · rw [initialise_of_null h call ha]
      simp [negotiations, Call.negotiated?, ha, Except.toOption]
    · rw [initialise_of_handle h call ha]
      simp [negotiations, Call.negotiated?, ha, Except.toOption]

/-- The versions of an instance that is stored are told by the result. -/
theorem negotiations_bind_keepInstance {m : Action σ (Except Error Instance)} {requested : UInt32}
    (told : Except Refusal Answer → Option Negotiated) (failed : ∀ e, told (.error e) = none)
    (stored : ∀ n, told (.ok (.number n)) = some ⟨requested, UInt32.ofNat n⟩)
    (h : negotiations (m s).trace.calls =
      ((m s).value.toOption.map fun i => ⟨requested, i.context.version⟩).toList) :
    let d := (m >>= keepInstance E into) s
    negotiations d.trace.calls = (told d.value).toList := by
  simp only [Action.bind_apply, Trace.calls_append, negotiations_append, h,
    negotiations_keepInstance, List.append_nil]
  cases (m s).value with
  | error e =>
    change [] = (told (.error (.failed e))).toList
    rw [failed]
    rfl
  | ok i =>
    change _ = (told (.ok (.number i.context.version.toNat))).toList
    rw [stored, UInt32.ofNat_toNat]
    rfl

/-- An operation tells by its result which engine it started, and with which versions. -/
theorem Operation.negotiations_run (op : Operation) (s : Session σ) :
    negotiations (op.run E s).trace.calls = (op.started? (op.run E s).value).toList := by
  cases op with
  | initialise into requested options =>
    exact negotiations_bind_keepInstance (started? (.initialise into requested options))
      (fun _ => rfl) (fun _ => rfl) (Instance.negotiations_initialise requested options s)
  | initialiseWith into options =>
    refine negotiations_bind_keepInstance (m := Instance.initialiseWith E options)
      (started? (.initialiseWith into options)) (fun _ => rfl) (fun _ => rfl) ?_
    cases ht : options.render with
    | error e =>
      rw [Instance.initialiseWith_of_error ht]
      rfl
    | ok text =>
      rw [Instance.initialiseWith_of_render ht]
      exact Instance.negotiations_initialise interfaceVersion text s
  | share inst into => exact negotiations_withInstance fun i => negotiations_keepInstance _ s
  | version inst => exact negotiations_withInstance fun _ => rfl
  | handle inst => exact negotiations_withInstance fun _ => rfl
  | showInstance inst pretty => exact negotiations_withInstance fun _ => rfl
  | discardInstance inst =>
    cases hi : s.instances.get? inst with
    | none =>
      rw [run_discardInstance_none hi]
      rfl
    | some i =>
      rw [run_discardInstance hi]
      exact i.context.negotiations_release _
  | shutDown inst =>
    cases hi : s.instances.get? inst with
    | none =>
      rw [run_shutDown_none hi]
      rfl
    | some i =>
      by_cases last : { s with instances := s.instances.erase inst }.holders i.context.number = 0
      · rw [run_shutDown_last hi last]
        rfl
      · rw [run_shutDown_shared hi last]
        rfl
  | getMessage inst wait into =>
    exact negotiations_withInstance fun i => i.negotiations_getMessage wait s
  | send inst message into =>
    exact negotiations_withInstance fun i => negotiations_withMessage fun m =>
      i.negotiations_sendAddress m.address s
  | sendAddress source inst into =>
    exact negotiations_withAddress fun a => negotiations_withInstance fun i =>
      i.negotiations_sendAddress a s
  | address message => exact negotiations_withMessage fun _ => rfl
  | showMessage message pretty => exact negotiations_withMessage fun _ => rfl
  | discardMessage message =>
    cases hm : s.messages.get? message with
    | none =>
      rw [run_discardMessage_none hm]
      rfl
    | some m =>
      rw [run_discardMessage hm]
      exact m.negotiations_discard _
  | giveAway message into =>
    cases hm : s.messages.get? message with
    | none =>
      rw [run_giveAway_none hm]
      rfl
    | some m =>
      rw [run_giveAway hm]
      have silent := Message.negotiations_discard (E := E) { m with address := 0 }
      simpa [Message.giveAway, started?] using silent _
  | takeBack source inst into =>
    exact negotiations_withAddress fun a => negotiations_withInstance fun i =>
      negotiations_keepMessage _ s

end Operations

/-! ## What is noted -/

/-- The notes in a trace are about the versions that were lowered, one for each in their order. -/
def Trace.NotesLowered (t : Trace) : Prop :=
  t.notices.filter (·.level = .info) = ((negotiations t.calls).filter (·.Lowered)).map (·.note)

/-- A call is noted if it left another version. -/
theorem Call.downgrade?_eq (c : Call) :
    c.downgrade? = (c.negotiated?.filter fun v => v.left ≠ v.requested).map (·.note) := by
  cases c with
  | initialise requested options answer =>
    by_cases ha : answer.handle = 0
    · simp [downgrade?, negotiated?, ha]
    · by_cases hv : answer.version = requested <;>
        simp [downgrade?, negotiated?, Negotiated.note, Option.filter, ha, hv]
  | _ => rfl

/-- At level INFO there are the notes about the calls that left another version. -/
theorem Tells.filter_info_eq {before : List Call} {t : Trace} (h : Tells before t) :
    t.notices.filter (·.level = .info) =
      ((negotiations t.calls).filter fun v => v.left ≠ v.requested).map (·.note) := by
  rw [h.filter_info, negotiations, List.filter_filterMap, List.map_filterMap]
  exact List.filterMap_congr fun c _ => c.downgrade?_eq

/-- The notes are about lowered versions if and only if no version was raised. -/
theorem Tells.notesLowered_iff {before : List Call} {t : Trace} (h : Tells before t) :
    t.NotesLowered ↔ ∀ v ∈ negotiations t.calls, ¬ v.Raised := by
  have once := List.map_injective_iff.2 Negotiated.note_injective
  rw [Trace.NotesLowered, h.filter_info_eq, once.eq_iff]
  constructor
  · intro same v hv
    have both := congrArg (v ∈ ·) same
    simp only [List.mem_filter, hv, true_and, decide_eq_true_eq, eq_iff_iff] at both
    exact Negotiated.ne_iff_lowered_iff.1 both
  · intro none
    refine List.filter_congr fun v hv => ?_
    exact decide_eq_decide.2 (Negotiated.ne_iff_lowered_iff.2 (none v hv))

/-! ## Runs -/

namespace History

variable {σ : Type} {E : Engine σ} {h : History σ}

/-- The engines that a run started are told by the results of its operations. -/
theorem Reached.negotiations_eq (hr : Reached E h) :
    negotiations h.calls = h.results.filterMap fun r => r.1.started? r.2 := by
  obtain ⟨engine, ms, rfl⟩ := hr
  refine run_induction (P := fun h => negotiations h.calls = h.results.filterMap _) rfl
    fun h m _ ih => ?_
  cases m with
  | operation op =>
    have last : ([(op, (op.run E h.session).value)].filterMap fun r => r.1.started? r.2) =
        (op.started? (op.run E h.session).value).toList := by
      cases ho : op.started? (op.run E h.session).value <;> simp [ho]
    rw [calls] at ih
    simp only [calls, History.step, Trace.calls_append, negotiations_append, ih,
      op.negotiations_run, List.filterMap_append, last]
  | outside f => exact ih

/-- An engine that leaves no higher version than requested raises none in a run. -/
theorem Reached.not_raised (hr : Reached E h)
    (lowers : ∀ requested options engine, (E.initialise requested options engine).1.handle ≠ 0 →
      (E.initialise requested options engine).1.version ≤ requested) :
    ∀ v ∈ negotiations h.calls, ¬ v.Raised := by
  obtain ⟨engine, ms, rfl⟩ := hr
  refine (effect_induction (P := fun t _ _ => ∀ v ∈ negotiations t.calls, ¬ v.Raised)
    (sound_start engine) (fun _ hv => nomatch hv) (fun {t l H t₁ l₁ H₁} _ old he => ?_)
    fun _ _ old => old).2
  rw [Trace.calls_append, negotiations_append, List.forall_mem_append]
  refine ⟨old, fun v hv => ?_⟩
  -- only an initialise call that gave a handle has versions
  cases he with
  | @opened H requested options answer engine call ne =>
    have most := lowers requested options H.engine
    rw [call] at most
    simp only [negotiations, Call.negotiated?, ne, if_false, List.filterMap_cons,
      List.filterMap_nil, List.mem_singleton] at hv
    subst hv
    exact UInt32.not_lt.2 (most ne)
  | refused call eq => simp [negotiations, Call.negotiated?, eq] at hv
  | _ => cases hv

/-- **The notes about versions are truthful if no version was raised, and only then.** At level INFO
a run writes one note for each engine that was started and left another version, in their order, and
each operation writes those about its own engine; no version that was left as requested and no
engine that gave no handle is noted. A note says that the version was lowered, from the one that was
requested to the one that the operation answered. So the notes tell the versions that were lowered,
each by one note, if and only if none was raised; an engine that never raises a version is always
told truthfully. -/
theorem notes_truthful_iff (hr : Reached E h) :
    (negotiations h.calls = h.results.filterMap fun r => r.1.started? r.2) ∧
    (h.trace.notices.filter (·.level = .info) =
      ((negotiations h.calls).filter fun v => v.left ≠ v.requested).map (·.note)) ∧
    (h.trace.NotesLowered ↔ ∀ v ∈ negotiations h.calls, ¬ v.Raised) ∧
    (∀ op : Operation, let t := (op.run E h.session).trace
      t.notices.filter (·.level = .info) =
        ((op.started? (op.run E h.session).value).toList.filter
          fun v => v.left ≠ v.requested).map (·.note) ∧
      (t.NotesLowered ↔ ∀ v ∈ op.started? (op.run E h.session).value, ¬ v.Raised)) ∧
    (∀ v : Negotiated, v.note.text = "OPAL engine downgraded API version from " ++
      toString v.requested.toNat ++ " to " ++ toString v.left.toNat) ∧
    ((∀ requested options engine, (E.initialise requested options engine).1.handle ≠ 0 →
      (E.initialise requested options engine).1.version ≤ requested) → h.trace.NotesLowered) := by
  refine ⟨hr.negotiations_eq, hr.tells.filter_info_eq, hr.tells.notesLowered_iff, fun op => ?_,
    Negotiated.text_note, fun lowers => hr.tells.notesLowered_iff.2 (hr.not_raised lowers)⟩
  have told := hr.tells_operation op
  have versions := op.negotiations_run (E := E) h.session
  refine ⟨?_, ?_⟩
  · rw [told.filter_info_eq, versions]
  · rw [told.notesLowered_iff, versions]
    simp only [Option.mem_toList, Option.mem_def]

/-- An older engine lowers the version of two instances, leaves that of a third as it is, and then
refuses to lower one more. -/
theorem olderEngine_told :
    let h := Trial.history { supported := 32 } []
      [.operation (.initialise "one" 33 "sip"), .operation (.initialise "two" 31 ""),
        .operation (.initialiseWith "one" { prefixes := [.sip] }),
        .adjust { rejectDowngrade := some true }, .operation (.initialise "three" 40 "sip")]
    Reached Trial.engine h ∧
      negotiations h.calls = [⟨33, 32⟩, ⟨31, 31⟩, ⟨33, 32⟩] ∧
      h.trace.notices.filter (·.level = .info) = [.downgraded 33 32, .downgraded 33 32] ∧
      h.trace.NotesLowered := by
  intro h
  have hr : Reached Trial.engine h := Trial.reached_history
  obtain ⟨-, notes, truthful, -⟩ := notes_truthful_iff hr
  have versions : negotiations h.calls = [⟨33, 32⟩, ⟨31, 31⟩, ⟨33, 32⟩] := by decide +kernel
  rw [versions] at notes truthful
  exact ⟨hr, versions, notes, truthful.2 (by decide)⟩

/-- An engine that leaves version 40 where 33 was requested is said to have downgraded it. -/
theorem raised_told_as_lowered :
    let h := Trial.history { forceVersion := some 40 } [] [.operation (.initialise "a" 33 "pc sip")]
    Reached Trial.engine h ∧
      negotiations h.calls = [⟨33, 40⟩] ∧ (negotiations h.calls).filter (·.Lowered) = [] ∧
      h.trace.notices.filter (·.level = .info) = [.downgraded 33 40] ∧
      (Notice.downgraded 33 40).text = "OPAL engine downgraded API version from 33 to 40" ∧
      ¬ h.trace.NotesLowered := by
  intro h
  have versions : negotiations h.calls = [⟨33, 40⟩] := by decide +kernel
  have notes : h.trace.notices.filter (·.level = .info) = [.downgraded 33 40] := by decide +kernel
  have none : (negotiations h.calls).filter (·.Lowered) = [] := by
    rw [versions]
    decide
  refine ⟨Trial.reached_history, versions, none, notes, by decide +kernel, fun told => ?_⟩
  exact List.cons_ne_nil _ _ (notes.symm.trans (told.trans (congrArg (List.map (·.note)) none)))

end History

end Switchboard
