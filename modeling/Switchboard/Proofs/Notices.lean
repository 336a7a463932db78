import Switchboard.Proofs.Ledger
import Switchboard.Proofs.Numerals
import Switchboard.Proofs.Starting

/-!
# The log tells the calls

What a session writes to the log is an image of its calls of the engine. A call that gave a handle
or a message, that freed a message or that shut an engine down is told by one notice
(`Call.notice?`) and any other call by none. Beside that there is only the note that an engine left
another version than the one requested (`Call.downgrade?`). Who reads the log sees levels and texts
and not events; what is read of a call is written down in `Call.record?`, and the log is the image
of the calls in these words too (`log_tells_calls`).

The notice of a shut down has the version of the context, which the call has not. It stands in the
books: it is the version of the opening with the number of the context. So the notices of the calls
so far are read with the books so far (`Tells`), and remain what they are when the books go on,
since nothing is shut down that was not opened (`Ledger.opening_of_shutDown`).
-/

namespace Switchboard

/-! ## Records -/

/-- What is read of a notice: its level and its text. -/
def Notice.record (n : Notice) : Level × String :=
  (n.level, n.text)

/-- What is read of the notices of a trace. -/
def Trace.log (t : Trace) : List (Level × String) :=
  t.notices.map Notice.record

/-! ## The notices of a call -/

namespace Call

/-- The notice that tells a call. The openings of the run give the version of a context. -/
def notice? (opened : List Opening) : Call → Option Notice
  | .initialise _ options answer =>
    if answer.handle = 0 then none else some (.initialised answer.version options)
  | .shutDown k _ => opened[k]?.map fun o => .shuttingDown o.version
  | .getMessage _ _ _ answer => if answer = 0 then none else some (.received answer)
  | .sendMessage _ _ message answer => if answer = 0 then none else some (.sent message answer)
  | .freeMessage _ message => some (.freeing message)

/-- The level at which a call is told: that of engines, or that of messages. -/
def level : Call → Level
  | .initialise .. | .shutDown .. => .debug
  | .getMessage .. | .sendMessage .. | .freeMessage .. => .trace

/-- The note that an engine left another version than the one requested. -/
def downgrade? : Call → Option Notice
  | .initialise requested _ answer =>
    if answer.handle ≠ 0 ∧ answer.version ≠ requested then
      some (.downgraded requested answer.version)
    else none
  | _ => none

/-- All that is written about a call. -/
def notices (opened : List Opening) (c : Call) : List Notice :=
  c.downgrade?.toList ++ (c.notice? opened).toList

/-- An address in a record. -/
def pointer (a : Address) : String :=
  "0x" ++ String.ofList (Nat.toDigits 16 a)

/-- What is read of a call: a level and a text. The openings of the run give the version of a
context. -/
def record? (opened : List Opening) : Call → Option (Level × String)
  | .initialise _ options answer =>
    if answer.handle = 0 then none
    else some (.debug, "Initialised OPAL instance (API version " ++
      toString answer.version.toNat ++ ", options " ++ Text.Style.terminated.quote options ++ ")")
  | .shutDown k _ =>
    opened[k]?.map fun o =>
      (.debug, "Shutting down OPAL instance (API version " ++ toString o.version.toNat ++ ")")
  | .getMessage _ _ _ answer =>
    if answer = 0 then none else some (.trace, "Received OPAL message " ++ pointer answer)
  | .sendMessage _ _ message answer =>
    if answer = 0 then none
    else some (.trace, "Sent OPAL message " ++ pointer message ++ ", response " ++ pointer answer)
  | .freeMessage _ message => some (.trace, "Freeing OPAL message " ++ pointer message)

variable {opened : List Opening} {c : Call} {n : Notice}

theorem addressText_eq_pointer (a : Address) : addressText a = pointer a := by
  rw [addressText, pointer, Numeral.hex, Numeral.digits_eq_toDigits (by decide) (by decide)]

/-- A notice reads as its call is told. -/
theorem map_record_notice? (opened : List Opening) (c : Call) :
    (c.notice? opened).map Notice.record = c.record? opened := by
  cases c with
  | initialise requested options answer =>
    rw [notice?, record?, ← Numeral.decimal_eq_toString]
    split <;> rfl
  | shutDown k handle =>
    rw [notice?, record?, Option.map_map]
    congr 1
    funext o
    rw [← Numeral.decimal_eq_toString]
    rfl
  | getMessage k handle timeout answer =>
    rw [notice?, record?, ← addressText_eq_pointer]
    split <;> rfl
  | sendMessage k handle message answer =>
    rw [notice?, record?, ← addressText_eq_pointer, ← addressText_eq_pointer]
    split <;> rfl
  | freeMessage k message =>
    rw [notice?, record?, ← addressText_eq_pointer]
    rfl

theorem level_of_mem_notice? (h : n ∈ c.notice? opened) : n.level = c.level := by
  cases c <;> simp only [notice?, Option.mem_def, Option.ite_none_left_eq_some,
    Option.map_eq_some_iff, Option.some.injEq] at h
  case shutDown =>
    obtain ⟨o, -, rfl⟩ := h
    rfl
  case freeMessage => exact h ▸ rfl
  all_goals exact h.2 ▸ rfl

theorem level_ne_info (c : Call) : c.level ≠ .info := by
  cases c <;> simp [level]

theorem level_of_mem_downgrade? (h : n ∈ c.downgrade?) : n.level = .info := by
  cases c with
  | initialise requested options answer =>
    simp only [downgrade?, Option.ite_none_right_eq_some, Option.some.injEq, Option.mem_def] at h
    exact h.2 ▸ rfl
  | _ => cases h

theorem filter_ne_info_notices :
    (c.notices opened).filter (·.level ≠ .info) = (c.notice? opened).toList := by
  rw [notices, List.filter_append, List.filter_eq_nil_iff.2, List.filter_eq_self.2,
    List.nil_append]
  · intro n hn
    rw [level_of_mem_notice? (Option.mem_toList.1 hn)]
    exact decide_eq_true c.level_ne_info
  · intro n hn
    simp [level_of_mem_downgrade? (Option.mem_toList.1 hn)]

theorem filter_info_notices :
    (c.notices opened).filter (·.level = .info) = c.downgrade?.toList := by
  rw [notices, List.filter_append, List.filter_eq_self.2, List.filter_eq_nil_iff.2,
    List.append_nil]
  · intro n hn
    rw [level_of_mem_notice? (Option.mem_toList.1 hn)]
    simp [c.level_ne_info]
  · intro n hn
    exact decide_eq_true (level_of_mem_downgrade? (Option.mem_toList.1 hn))

end Call

/-! ## What is written -/

/-- What was written after some calls is an image of the calls made then. -/
def Tells (before : List Call) (t : Trace) : Prop :=
  t.notices = t.calls.flatMap (Call.notices (openings (before ++ t.calls)))

section Books

variable {σ : Type} {E : Engine σ} {H H₁ : Holding σ} {before calls more : List Call}
  {t t₁ : Trace} {l : List Transfer} {k : ℕ} {a : Address}

theorem Tells.filter_ne_info (h : Tells before t) :
    t.notices.filter (·.level ≠ .info) =
      t.calls.filterMap (Call.notice? (openings (before ++ t.calls))) := by
  rw [h, List.filter_flatMap, List.filterMap_eq_flatMap_toList]
  exact List.flatMap_congr fun c _ => Call.filter_ne_info_notices

/-- What is read of the calls, apart from notes about versions. -/
theorem Tells.filter_ne_info_log (h : Tells before t) :
    t.log.filter (·.1 ≠ .info) =
      t.calls.filterMap (Call.record? (openings (before ++ t.calls))) := by
  have levels : (fun n : Notice => decide (n.level ≠ .info)) =
      (fun r : Level × String => decide (r.1 ≠ .info)) ∘ Notice.record := rfl
  rw [Trace.log, List.filter_map, ← levels, h.filter_ne_info, List.map_filterMap]
  exact List.filterMap_congr fun c _ => c.map_record_notice? _

theorem Tells.filter_info (h : Tells before t) :
    t.notices.filter (·.level = .info) = t.calls.filterMap Call.downgrade? := by
  rw [h, List.filter_flatMap, List.filterMap_eq_flatMap_toList]
  exact List.flatMap_congr fun c _ => Call.filter_info_notices

namespace Ledger

/-- What was shut down was opened, and with that handle. -/
theorem opening_of_shutDown (h : Ledger calls H) (hc : .shutDown k a ∈ calls) :
    ∃ version, (openings calls)[k]? = some ⟨a, version⟩ := by
  have ha : a ∈ shutDownsOf k calls :=
    List.mem_filterMap.2 ⟨_, hc, by simp [Call.shutDownOf?]⟩
  rw [h.shutDowns] at ha
  split at ha
  · obtain ⟨⟨_, version⟩, ho, rfl⟩ := Option.map_eq_some_iff.1 (Option.mem_toList.1 ha)
    exact ⟨version, ho⟩
  · cases ha

/-- What is told of a call stays the same when the books go on. -/
theorem notices_append (h : Ledger calls H) {c : Call} (hc : c ∈ calls) :
    c.notices (openings (calls ++ more)) = c.notices (openings calls) := by
  cases c with
  | shutDown k a =>
    obtain ⟨version, ho⟩ := h.opening_of_shutDown hc
    have hk := (List.getElem?_eq_some_iff.1 ho).1
    rw [Call.notices, Call.notice?, openings_append, List.getElem?_append_left hk]
    rfl
  | _ => rfl

/-- The notices of an effect tell its calls. -/
theorem tells_effect (h : Ledger calls H) (he : Effect E H t l H₁) : Tells calls t := by
  cases he with
  | @opened H requested options answer engine call ne =>
    by_cases hv : answer.version = requested <;>
      simp [Tells, Call.notices, Call.notice?, Call.downgrade?, ne, hv]
  | refused call eq => simp [Tells, Call.notices, Call.notice?, Call.downgrade?, eq]
  | shared mem => rfl
  | received mem call ne => simp [Tells, Call.notices, Call.notice?, Call.downgrade?, ne]
  | missed mem call => rfl
  | responded mem call ne => simp [Tells, Call.notices, Call.notice?, Call.downgrade?, ne]
  | unanswered mem call => rfl
  | tookBack mem ne => rfl
  | freed => rfl
  | gaveAway => rfl
  | left held => rfl
  | @ended H c last =>
    have ho := h.opened c (Multiset.mem_cons_self ..)
    have hk := (List.getElem?_eq_some_iff.1 ho).1
    simp [Tells, Call.notices, Call.notice?, Call.downgrade?, List.getElem?_append_left hk, ho]

end Ledger

/-- An effect more is told as well. -/
theorem Tells.effect (ht : Tells before t) (h : Ledger (before ++ t.calls) H)
    (he : Effect E H t₁ l H₁) : Tells before (t.append t₁) := by
  have old : t.calls.flatMap (Call.notices (openings (before ++ t.calls ++ t₁.calls))) =
      t.notices := by
    rw [ht]
    exact List.flatMap_congr fun c hc => h.notices_append (List.mem_append_right _ hc)
  rw [Tells, Trace.notices_append, Trace.calls_append, List.flatMap_append, ← List.append_assoc,
    old, ← h.tells_effect he]

/-- Effects one after another are told in their order. -/
theorem Ledger.tells_effects (h : Ledger before H) (he : Effects E H t l H₁) : Tells before t := by
  have kept := he.keep (P := fun t _ H => Ledger (before ++ t.calls) H ∧ Tells before t)
    (fun ⟨h, ht⟩ he => ⟨by simpa using h.effect he, ht.effect h he⟩) {} []
    ⟨by simpa using h, rfl⟩
  exact kept.2

end Books

/-! ## Silence -/

section Silence

variable {σ : Type} {E : Engine σ} {s : Session σ}

/-- An operation has no cause to call the engine: what it is given is refused, it only looks at
something, or it ends a reference that is not the last one. A reference that it makes goes into an
empty slot; otherwise what was there is let go of. -/
def Operation.IsSilent (s : Session σ) : Operation → Prop
  | .initialise _ _ options => 0 ∈ Utf8.encode options.toList
  | .initialiseWith _ options => ¬ options.IsExpressible
  | .share _ into => s.instances.get? into = none
  | .version _ | .handle _ | .showInstance .. | .address _ | .showMessage .. => True
  | .discardInstance inst | .shutDown inst =>
    ∀ i, s.instances.get? inst = some i → s.holders i.context.number ≠ 1
  | .getMessage inst .. | .sendAddress _ inst _ => s.instances.get? inst = none
  | .send inst message _ => s.instances.get? inst = none ∨ s.messages.get? message = none
  | .discardMessage message => s.messages.get? message = none
  | .giveAway message _ =>
    ∀ m, s.messages.get? message = some m → s.holders m.context.number ≠ 1
  | .takeBack _ _ into => s.messages.get? into = none

theorem keepInstance_trace {into : String} (h : s.instances.get? into = none) (i : Instance) :
    (keepInstance E into (.ok i) s).trace = {} := by
  simp [keepInstance, storeInstance, h]

theorem keepMessage_trace {into : String} (h : s.messages.get? into = none)
    (r : Except Error Message) : (keepMessage E into r s).trace = {} := by
  cases r with
  | error e => rfl
  | ok m => simp [keepMessage, storeMessage, h]

theorem withInstance_trace {name : String} {f : Instance → Action σ (Except Refusal Answer)}
    (h : ∀ i, (f i s).trace = {}) : (withInstance name f s).trace = {} := by
  rcases withInstance_cases name f s with hw | ⟨i, -, hw⟩
  · rw [hw]
  · rw [hw, h i]

theorem withInstance_none_trace {name : String} {f : Instance → Action σ (Except Refusal Answer)}
    (h : s.instances.get? name = none) : (withInstance name f s).trace = {} := by
  rw [withInstance_none h]

theorem withMessage_trace {name : String} {f : Message → Action σ (Except Refusal Answer)}
    (h : ∀ m, (f m s).trace = {}) : (withMessage name f s).trace = {} := by
  rcases withMessage_cases name f s with hw | ⟨m, -, hw⟩
  · rw [hw]
  · rw [hw, h m]

theorem withAddress_trace {source : AddressSource}
    {f : Address → Action σ (Except Refusal Answer)} (h : ∀ a, (f a s).trace = {}) :
    (withAddress source f s).trace = {} := by
  rcases withAddress_cases source f s with hw | ⟨a, hw⟩
  · rw [hw]
  · rw [hw, h a]

/-- An operation with no cause to call the engine does not call it, and is not told. -/
theorem Operation.trace_of_isSilent {op : Operation} (h : op.IsSilent s) :
    (op.run E s).trace = {} := by
  cases op with
  | initialise into requested options =>
    have hn := NulFault.find?_of_mem h
    simp [run, Instance.initialise_of_nul hn, keepInstance]
  | initialiseWith into options =>
    obtain ⟨e, he, -⟩ := Options.initialiseWith_of_not_isExpressible E s h
    rw [run_initialiseWith_of_error he]
  | share inst into => exact withInstance_trace fun i => keepInstance_trace h i
  | version inst => exact withInstance_trace fun i => rfl
  | handle inst => exact withInstance_trace fun i => rfl
  | showInstance inst pretty => exact withInstance_trace fun i => rfl
  | discardInstance inst =>
    cases hi : s.instances.get? inst with
    | none => rw [run_discardInstance_none hi]
    | some i =>
      have held := (Session.holders_eq_one_iff_instance hi).not.1 (h i hi)
      rw [run_discardInstance hi, Instance.discard, Context.release_shared held]
  | shutDown inst =>
    cases hi : s.instances.get? inst with
    | none => rw [run_shutDown_none hi]
    | some i =>
      rw [run_shutDown_shared hi ((Session.holders_eq_one_iff_instance hi).not.1 (h i hi))]
  | getMessage inst wait into => exact withInstance_none_trace h
  | send inst message into =>
    rcases h with h | h
    · exact withInstance_none_trace h
    · exact withInstance_trace fun i => by rw [withMessage_none h]
  | sendAddress source inst into =>
    exact withAddress_trace fun a => withInstance_none_trace h
  | address message => exact withMessage_trace fun m => rfl
  | showMessage message pretty => exact withMessage_trace fun m => rfl
  | discardMessage message => rw [run_discardMessage_none h]
  | giveAway message into =>
    cases hm : s.messages.get? message with
    | none => rw [run_giveAway_none hm]
    | some m =>
      have held := (Session.holders_eq_one_iff_message hm).not.1 (h m hm)
      simp [run_giveAway hm, Message.giveAway, Message.discard, Message.free,
        Context.release_shared held]
  | takeBack source inst into =>
    exact withAddress_trace fun a => withInstance_trace fun i => keepMessage_trace h _

end Silence

/-! ## Runs -/

namespace History

variable {σ : Type} {E : Engine σ} {h : History σ}

/-- The calls of a run are told from its start. -/
theorem Reached.tells (hr : Reached E h) : Tells [] h.trace := by
  obtain ⟨engine, ms, rfl⟩ := hr
  exact (effect_induction (P := fun t _ H => Ledger t.calls H ∧ Tells [] t) (sound_start engine)
    ⟨ledger_start engine, rfl⟩ (fun _ ⟨h, ht⟩ he => ⟨h.effect he, ht.effect h he⟩)
    fun f _ ⟨h, ht⟩ => ⟨h.outside _, ht⟩).2.2

/-- The calls of an operation are told, with the books of the run before it. -/
theorem Reached.tells_operation (hr : Reached E h) (op : Operation) :
    Tells h.calls (op.run E h.session).trace :=
  hr.ledger.tells_effects (op.effects hr.sound)

/-- **The log tells the calls of the engine.** Apart from the notes about versions, which are at
level INFO, what is read in the log of a run is what its calls tell, level and text, in their order,
and the same holds of each operation. A context that is shut down was opened, so there is a version
to tell. Calls that gave null tell nothing, a note about a version is written only when a handle was
given, and an operation that is refused before the engine is called, or that ends a reference which
is not the last one, neither calls the engine nor writes anything. -/
theorem log_tells_calls (hr : Reached E h) :
    h.trace.log.filter (·.1 ≠ .info) = h.calls.filterMap (Call.record? (openings h.calls)) ∧
    (∀ k a, .shutDown k a ∈ h.calls → ∃ version, (openings h.calls)[k]? = some ⟨a, version⟩) ∧
    ∀ op : Operation, let t := (op.run E h.session).trace
      t.log.filter (·.1 ≠ .info) =
        t.calls.filterMap (Call.record? (openings (h.calls ++ t.calls))) ∧
      t.notices.filter (·.level = .info) = t.calls.filterMap Call.downgrade? ∧
      (op.IsSilent h.session → t = {}) := by
  refine ⟨hr.tells.filter_ne_info_log, fun k a => hr.ledger.opening_of_shutDown, fun op => ?_⟩
  have told := hr.tells_operation op
  exact ⟨told.filter_ne_info_log, told.filter_info, Operation.trace_of_isSilent⟩

/-- A response is stored over the only message of another engine, whose instance is gone. The
engine is older than the one that sends. -/
def storedOver : History Trial.State :=
  (start { settings := { supported := 32 } }).run Trial.engine
    [.operation (.initialise "one" 33 "sip"),
      .outside fun e => e.push.2,
      .operation (.getMessage "one" (Duration.ofMillis 0) "message"),
      .operation (.shutDown "one"),
      .outside fun e => { e with settings := { e.settings with supported := 33 } },
      .operation (.initialise "two" 33 "h323"),
      .operation (.sendAddress (.address 4096) "two" "message")]

/-- The last operation writes three notices, and the version in the last of them is that of the
older engine. Neither refusal to shut down writes anything. -/
theorem storedOver_told :
    Reached Trial.engine storedOver ∧
      storedOver.trace.log.filter (·.1 ≠ .info) =
        [(.debug, "Initialised OPAL instance (API version 32, options \"sip\")"),
          (.trace, "Received OPAL message 0x20"),
          (.debug, "Initialised OPAL instance (API version 33, options \"h323\")"),
          (.trace, "Sent OPAL message 0x1000, response 0x40"),
          (.trace, "Freeing OPAL message 0x20"),
          (.debug, "Shutting down OPAL instance (API version 32)")] ∧
      ((Operation.shutDown "two").run Trial.engine storedOver.session).trace = {} := by
  have hr : Reached Trial.engine storedOver := ⟨_, _, rfl⟩
  obtain ⟨run, -, operation⟩ := log_tells_calls hr
  refine ⟨hr, run.trans (by decide +kernel), (operation (.shutDown "two")).2.2 fun i hi => ?_⟩
  have two : storedOver.session.instances.get? "two" = some ⟨⟨1, 48, 33⟩⟩ := by decide
  cases two.symm.trans hi
  decide

end History

end Switchboard
