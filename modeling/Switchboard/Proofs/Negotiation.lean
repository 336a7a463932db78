import Switchboard.Proofs.Frames
import Switchboard.Proofs.Isolation
import Switchboard.Proofs.Notices

/-!
# Starting an engine and what it answered

An engine is asked once to start, with the version and the options as they were given, and what it
leaves is what the caller is told: the version in an error, or the handle and the version of an
instance. The instance and its copies say the same of both as long as they live.

Which slots hold the instance or a copy of it is read off the results of the operations alone
(`Operation.copies`): sharing copies what a slot holds, and filling or emptying a slot ends what was
there. These are the slots that hold the context of the instance (`Session.Tracked`), which no later
start makes again.
-/

namespace Switchboard

variable {σ : Type} {E : Engine σ} {s s' : Session σ} {name into : String}

/-- What is stored over is shut down at most. -/
theorem storeInstance_calls (i : Instance) (s : Session σ) :
    ∀ c ∈ (storeInstance E into i s).trace.calls, ∃ k a, c = .shutDown k a := by
  have released (c : Context) (s : Session σ) :
      ∀ call ∈ (c.release E s).trace.calls, ∃ k a, call = .shutDown k a := by
    rcases c.release_cases (E := E) s with h | h <;> rw [h]
    · exact List.forall_mem_nil _
    · exact List.forall_mem_singleton.2 ⟨_, _, rfl⟩
  cases h : s.instances.get? into with
  | none => simp [storeInstance_of_none h]
  | some old => simpa only [storeInstance_of_some h, Instance.discard] using released old.context _

/-! ## Copies -/

/-- The slots that hold an instance or a copy of it after an operation with some result, from those
that held one before. -/
def Operation.copies (names : List String) : Operation → Except Refusal Answer → List String
  | .share inst into, .ok _ => if inst ∈ names then into :: names else names.filter (· ≠ into)
  | .initialise into .., .ok _ | .initialiseWith into _, .ok _ => names.filter (· ≠ into)
  | .discardInstance inst, _ | .shutDown inst, _ => names.filter (· ≠ inst)
  | _, _ => names

/-- The slots that hold an instance or a copy of it after operations with their results. -/
def copiesAfter (names : List String) (results : List (Operation × Except Refusal Answer)) :
    List String :=
  results.foldl (fun names r => r.1.copies names r.2) names

/-- The slots with some names are those that hold an instance of a context. -/
def Session.Tracked (s : Session σ) (k : ℕ) (names : List String) : Prop :=
  ∀ name, name ∈ names ↔ ∃ i, s.instances.get? name = some i ∧ i.context.number = k

namespace Session.Tracked

variable {k : ℕ} {names : List String} {i : Instance}

theorem same (h : s.Tracked k names) (hi : s'.instances = s.instances) : s'.Tracked k names := by
  rw [Tracked, hi]
  exact h

theorem erase (h : s.Tracked k names) (hi : s'.instances = s.instances.erase name) :
    s'.Tracked k (names.filter (· ≠ name)) := by
  intro other
  simp only [hi, Slots.get?_erase_eq_some_iff, List.mem_filter, h other, decide_eq_true_eq]
  tauto

/-- A slot is filled with something else. -/
theorem insert_of_ne (h : s.Tracked k names) (hi : s'.instances = s.instances.insert name i)
    (hk : i.context.number ≠ k) : s'.Tracked k (names.filter (· ≠ name)) := by
  intro other
  by_cases ho : other = name
  · subst ho
    simp [hi, hk]
  · simp [hi, Slots.get?_insert_of_ne ho, h other, ho]

/-- A slot is filled with a copy. -/
theorem insert_of_eq (h : s.Tracked k names) (hi : s'.instances = s.instances.insert name i)
    (hk : i.context.number = k) : s'.Tracked k (name :: names) := by
  intro other
  by_cases ho : other = name
  · subst ho
    simp [hi, hk]
  · simp [hi, Slots.get?_insert_of_ne ho, h other, ho]

/-- What was started last is stored in a slot. -/
theorem bind_keepInstance (h : s.Tracked k names) {m : Action σ (Except Error Instance)}
    (hs : (m s).session.instances = s.instances)
    (hk : ∀ i, (m s).value = .ok i → i.context.number ≠ k)
    {after : Except Refusal Answer → List String} (failed : ∀ e, after (.error e) = names)
    (stored : ∀ a, after (.ok a) = names.filter (· ≠ into)) :
    let d := (m >>= keepInstance E into) s
    d.session.Tracked k (after d.value) := by
  rw [Action.bind_apply]
  cases hv : (m s).value with
  | error e =>
    change (m s).session.Tracked k (after (.error (.failed e)))
    rw [failed]
    exact h.same hs
  | ok i =>
    change (keepInstance E into (.ok i) (m s).session).session.Tracked k
      (after (.ok (.number i.context.version.toNat)))
    rw [stored]
    exact h.insert_of_ne (by rw [keepInstance_instances, hs]) (hk i hv)

end Session.Tracked

/-- The operations tell by their results which slots hold a copy. -/
theorem Operation.tracked_run {k : ℕ} {names : List String} (h : s.Tracked k names)
    (hk : k < s.made) (op : Operation) :
    (op.run E s).session.Tracked k (op.copies names (op.run E s).value) := by
  have new {m : Action σ (Except Error Instance)} {i : Instance}
      (hr : ∀ i, (m s).value = .ok i → i.context.number = s.made) (hi : (m s).value = .ok i) :
      i.context.number ≠ k := by
    rw [hr i hi]
    exact Nat.ne_of_gt hk
  cases op with
  | initialise into requested options =>
    obtain ⟨-, hs, hr⟩ : Within [] 0 s _ _ ∧ _ := Within.initialise (E := E) requested options
    exact h.bind_keepInstance hs (fun i => new hr) (fun _ => rfl) fun _ => rfl
  | initialiseWith into options =>
    obtain ⟨-, hs, hr⟩ : Within [] 0 s _ _ ∧ _ := Within.initialiseWith (E := E) options
    exact h.bind_keepInstance hs (fun i => new hr) (fun _ => rfl) fun _ => rfl
  | share inst into =>
    cases hi : s.instances.get? inst with
    | none =>
      rw [run, withInstance_none hi]
      exact h
    | some i =>
      rw [run, withInstance_some hi]
      have stored : (keepInstance E into (.ok i) s).session.instances = _ :=
        keepInstance_instances i s
      change (keepInstance E into (.ok i) s).session.Tracked k
        (if inst ∈ names then into :: names else names.filter (· ≠ into))
      by_cases hn : i.context.number = k
      · rw [if_pos ((h inst).2 ⟨i, hi, hn⟩)]
        exact h.insert_of_eq stored hn
      · have other : inst ∉ names := by
          intro mem
          obtain ⟨j, hj, hk⟩ := (h inst).1 mem
          exact hn (Option.some.inj (hi.symm.trans hj) ▸ hk)
        rw [if_neg other]
        exact h.insert_of_ne stored hn
  | discardInstance inst =>
    cases hi : s.instances.get? inst with
    | none =>
      rw [run_discardInstance_none hi]
      exact h.erase (Slots.erase_of_get?_none hi).symm
    | some i =>
      rw [run_discardInstance hi]
      obtain ⟨engine, gone⟩ := i.context.release_session (E := E)
        { s with instances := s.instances.erase inst }
      exact h.erase (by simp [Instance.discard, gone])
  | shutDown inst =>
    cases hi : s.instances.get? inst with
    | none =>
      rw [run_shutDown_none hi]
      exact h.erase (Slots.erase_of_get?_none hi).symm
    | some i =>
      by_cases last : { s with instances := s.instances.erase inst }.holders i.context.number = 0
      · rw [run_shutDown_last hi last]
        exact h.erase rfl
      · rw [run_shutDown_shared hi last]
        exact h.erase rfl
  | _ => exact h.same (instances_run rfl s)

theorem handle_ne_of_mem_openings {calls : List Call} {answer : Opening}
    (h : answer ∈ openings calls) : answer.handle ≠ 0 := by
  obtain ⟨c, -, hc⟩ := List.mem_filterMap.1 h
  cases c with
  | initialise requested options answer =>
    obtain ⟨ne, same⟩ := Option.ite_none_left_eq_some.1 hc
    exact Option.some.inj same ▸ ne
  | _ => cases hc

namespace Operation

variable {requested : UInt32} {options : String} {trace : Trace}

/-- An instance that was not made is not stored. -/
theorem run_initialise_of_error {e : Error}
    (h : Instance.initialise E requested options s = ⟨.error e, trace, s'⟩) :
    (initialise into requested options).run E s = ⟨.error (.failed e), trace, s'⟩ := by
  simp [run, h, keepInstance]

/-- An instance that was made is stored in place of another one. -/
theorem run_initialise_of_ok {i : Instance}
    (h : Instance.initialise E requested options s = ⟨.ok i, trace, s'⟩) :
    (initialise into requested options).run E s =
      let d := storeInstance E into i s'
      ⟨.ok (.number i.context.version.toNat), trace.append d.trace, d.session⟩ := by
  simp [run, h, keepInstance]

end Operation

/-! ## Runs -/

namespace History

variable {h : History σ} {k : ℕ} {names : List String} {answer : Opening}

/-- Each opening made a context. -/
theorem Reached.length_openings (hr : Reached E h) : (openings h.calls).length = h.session.made :=
  hr.ledger.length_openings

/-- Contexts that were made are not made again. -/
theorem Reached.made_le_run (hr : Reached E h) (ms : List (Move σ)) :
    h.session.made ≤ (h.run E ms).session.made := by
  obtain ⟨more, hm⟩ := calls_run (E := E) h ms
  rw [← hr.length_openings, ← (hr.run ms).length_openings, hm, openings_append,
    List.length_append]
  exact Nat.le_add_right _ _

/-- The copies of an instance can be told from the results of a run. -/
theorem Reached.tracked_run (hr : Reached E h) (hk : k < h.session.made)
    (ht : h.session.Tracked k names) (ms : List (Move σ)) :
    ∃ later, (h.run E ms).results = h.results ++ later ∧
      (h.run E ms).session.Tracked k (copiesAfter names later) := by
  refine (run_induction (P := fun h₁ => (Reached E h₁ ∧ k < h₁.session.made) ∧ ∃ later,
    h₁.results = h.results ++ later ∧ h₁.session.Tracked k (copiesAfter names later))
    ⟨⟨hr, hk⟩, [], by simp, ht⟩ ?_).2
  rintro h₁ m - ⟨⟨hr₁, hk₁⟩, later, eq, ht₁⟩
  refine ⟨⟨hr₁.step m, Nat.lt_of_lt_of_le hk₁ (hr₁.made_le_run [m])⟩, ?_⟩
  cases m with
  | operation op =>
    refine ⟨later ++ [(op, (op.run E h₁.session).value)], ?_, ?_⟩
    · rw [← List.append_assoc, ← eq]
      rfl
    · rw [copiesAfter, List.foldl_concat]
      exact op.tracked_run ht₁ hk₁
  | outside f => exact ⟨later, eq, ht₁⟩

/-- An instance says what the engine answered when its context was made. -/
theorem Reached.run_version (hr : Reached E h) {i : Instance}
    (hi : h.session.instances.get? name = some i)
    (ha : (openings h.calls)[i.context.number]? = some answer) :
    (Operation.version name).run E h.session =
        ⟨.ok (.number answer.version.toNat), {}, h.session⟩ ∧
      (Operation.handle name).run E h.session = ⟨.ok (.number answer.handle), {}, h.session⟩ := by
  have opened := hr.ledger.opened _ (Session.context_mem_of_get?_instance hi)
  obtain rfl := Option.some.inj (opened.symm.trans ha)
  rw [Operation.run, Operation.run, withInstance_some hi, withInstance_some hi]
  exact ⟨rfl, rfl⟩

/-! ## Starting -/

/-- However a run goes on, the instance in a slot and its copies have the version and the handle of
an opening. -/
def Lasting (E : Engine σ) (h : History σ) (name : String) (answer : Opening) : Prop :=
  ∀ ms : List (Move σ), let h' := h.run E ms
    ∃ later, h'.results = h.results ++ later ∧ ∀ copy ∈ copiesAfter [name] later,
      (Operation.version copy).run E h'.session =
          ⟨.ok (.number answer.version.toNat), {}, h'.session⟩ ∧
        (Operation.handle copy).run E h'.session = ⟨.ok (.number answer.handle), {}, h'.session⟩

/-- What a run tells of a context lasts if one slot holds all there is of it. -/
theorem Reached.lasting (hr : Reached E h) (ha : (openings h.calls)[k]? = some answer)
    (ht : h.session.Tracked k [name]) : Lasting E h name answer := by
  intro ms
  have hk : k < h.session.made := hr.length_openings ▸ (List.getElem?_eq_some_iff.1 ha).1
  obtain ⟨later, results, tracked⟩ := hr.tracked_run hk ht ms
  refine ⟨later, results, fun copy hc => ?_⟩
  obtain ⟨i, hi, rfl⟩ := (tracked copy).1 hc
  exact (hr.run ms).run_version hi (getElem?_openings_run ms ha)

/-- No slot holds a context that is yet to be made. -/
theorem Reached.tracked_made (hr : Reached E h) : h.session.Tracked h.session.made [] := by
  refine fun name => iff_of_false List.not_mem_nil ?_
  rintro ⟨i, hi, hk⟩
  exact Nat.ne_of_lt (hr.ledger.number_lt (Session.context_mem_of_get?_instance hi)) hk

section Initialise

variable {requested : UInt32} {options : String} {engine : σ}

/-- A handle makes a context that one slot holds, whatever that slot held before. -/
theorem Reached.lasting_initialise (hr : Reached E h)
    (hn : NulFault.find? (Utf8.encode options.toList) = none)
    (call : E.initialise requested options h.session.engine = (answer, engine))
    (ne : answer.handle ≠ 0) :
    Lasting E (h.step E (.operation (.initialise into requested options))) into answer := by
  have stored : (h.step E (.operation (.initialise into requested options))).session.instances =
      h.session.instances.insert into ⟨⟨h.session.made, answer.handle, answer.version⟩⟩ := by
    simp only [History.step, Operation.run, Action.bind_apply,
      Instance.initialise_of_handle hn call ne, keepInstance_instances]
  have hr₁ := hr.step (.operation (.initialise into requested options))
  refine hr₁.lasting ?_ (hr.tracked_made.insert_of_eq stored rfl)
  have held : (h.step E (.operation (.initialise into requested options))).session.instances.get?
      into = some ⟨⟨h.session.made, answer.handle, answer.version⟩⟩ := by
    rw [stored, Slots.get?_insert_self]
  exact hr₁.ledger.opened _ (Session.context_mem_of_get?_instance held)

/-- What is shut down in a run has a handle that an opening gave. -/
theorem Reached.opening_of_shutDown (hr : Reached E h) {a : Address}
    (hc : .shutDown k a ∈ h.calls) :
    a ≠ 0 ∧ ∃ version, (openings h.calls)[k]? = some ⟨a, version⟩ := by
  obtain ⟨version, ho⟩ := hr.ledger.opening_of_shutDown hc
  exact ⟨handle_ne_of_mem_openings (List.mem_of_getElem? ho), version, ho⟩

/-- **An engine is asked once to start, and what it leaves is what the caller is told.** A text of
options with a zero byte is refused with the place of the first one in its bytes, and nothing
happens. Any other text is given to the engine as it is, in one call with the version that was
asked for. If the engine gives no handle, the error has the version as the engine left it, no
reference is made, and there is nothing to shut down, then or later: only handles that were given
are. If the engine gives a handle, the instance and all its copies have that handle and the version
that the engine left, however the run goes on. An instance that was in the slot before is let go of
afterwards. -/
theorem initialise_negotiates (hr : Reached E h) (into : String) (requested : UInt32)
    (options : String)
    (call : E.initialise requested options h.session.engine = (answer, engine)) :
    ∃ bytes : List UInt8, bytes.toByteArray = options.toUTF8 ∧
    let started := Instance.initialise E requested options h.session
    let d := (Operation.initialise into requested options).run E h.session
    let h₁ := h.step E (.operation (.initialise into requested options))
    (0 ∈ bytes →
      started = ⟨.error (.nulInText ⟨bytes.idxOf 0, bytes⟩), {}, h.session⟩ ∧
      d = ⟨.error (.failed (.nulInText ⟨bytes.idxOf 0, bytes⟩)), {}, h.session⟩) ∧
    (0 ∉ bytes → started.trace.calls = [.initialise requested options answer] ∧
      (answer.handle = 0 →
        started = ⟨.error (.initialiseFailed requested answer.version),
          ⟨[.initialise requested options answer], []⟩, { h.session with engine }⟩ ∧
        d = ⟨.error (.failed (.initialiseFailed requested answer.version)),
          ⟨[.initialise requested options answer], []⟩, { h.session with engine }⟩ ∧
        openings h₁.calls = openings h.calls ∧
        ∀ ms : List (Move σ), ∀ k a, .shutDown k a ∈ (h₁.run E ms).calls →
          a ≠ 0 ∧ ∃ version, (openings (h₁.run E ms).calls)[k]? = some ⟨a, version⟩) ∧
      (answer.handle ≠ 0 →
        started.value = .ok ⟨⟨h.session.made, answer.handle, answer.version⟩⟩ ∧
        d.value = .ok (.number answer.version.toNat) ∧
        (∃ ended, d.trace.calls = .initialise requested options answer :: ended ∧
          ∀ c ∈ ended, ∃ k a, c = .shutDown k a) ∧
        Lasting E h₁ into answer)) := by
  refine ⟨Utf8.encode options.toList, Utf8.toByteArray_encode options, fun h₀ => ?_, fun h₀ => ?_⟩
  · have started : Instance.initialise E requested options h.session = _ :=
      Instance.initialise_of_nul (NulFault.find?_of_mem h₀)
    exact ⟨started, Operation.run_initialise_of_error started⟩
  have hn := NulFault.find?_eq_none_iff.2 h₀
  refine ⟨by rw [Instance.initialise_calls h₀, call], fun eq => ?_, fun ne => ?_⟩
  · have started := Instance.initialise_of_null hn call eq
    have refused : (Operation.initialise into requested options).run E h.session = _ :=
      Operation.run_initialise_of_error started
    refine ⟨started, refused, ?_, fun ms k a hc => ((hr.step _).run ms).opening_of_shutDown hc⟩
    simp [History.step, History.calls, refused, openings, Call.opening?, eq]
  · have started := Instance.initialise_of_handle hn call ne
    have stored : (Operation.initialise into requested options).run E h.session = _ :=
      Operation.run_initialise_of_ok started
    refine ⟨by rw [started], by rw [stored], ⟨_, by rw [stored]; rfl, ?_⟩,
      hr.lasting_initialise hn call ne⟩
    exact storeInstance_calls _ _

/-- An older engine lowers the version, and the copy of an instance that is gone still says so. If
it rejects the lower version, the error says which one. A text with a zero byte does not get to it;
the place counts two bytes for the accented letter. -/
theorem olderEngine_negotiates :
    let older := Trial.history { supported := 32 } [] []
    let rejecting := Trial.history { supported := 32, rejectDowngrade := true } [] []
    let started := older.step Trial.engine (.operation (.initialise "one" 33 "sip"))
    let copied := started.run Trial.engine
      [.operation (.share "one" "two"), .operation (.discardInstance "one")]
    (∃ bytes, bytes.toByteArray = "é\x00sip".toUTF8 ∧
      Instance.initialise Trial.engine 33 "é\x00sip" older.session =
        ⟨.error (.nulInText ⟨2, bytes⟩), {}, older.session⟩) ∧
    ((Operation.initialise "one" 33 "sip").run Trial.engine rejecting.session).value =
      .error (.failed (.initialiseFailed 33 32)) ∧
    (Operation.version "two").run Trial.engine copied.session =
      ⟨.ok (.number 32), {}, copied.session⟩ ∧
    (Operation.handle "two").run Trial.engine copied.session =
      ⟨.ok (.number 16), {}, copied.session⟩ := by
  intro older rejecting started copied
  have ho : Reached Trial.engine older := Trial.reached_history
  have hr : Reached Trial.engine rejecting := Trial.reached_history
  have encoded {bytes : List UInt8} {text : String} (hb : bytes.toByteArray = text.toUTF8) :
      bytes = Utf8.encode text.toList :=
    List.toByteArray_inj.1 (hb.trans (Utf8.toByteArray_encode text).symm)
  refine ⟨?_, ?_, ?_⟩
  · obtain ⟨bytes, hb, refused, -⟩ := initialise_negotiates ho "one" 33 "é\x00sip" rfl
    have place : bytes.idxOf 0 = 2 := by
      rw [encoded hb]
      decide
    have zero : 0 ∈ bytes := by
      rw [encoded hb]
      decide
    exact ⟨bytes, hb, place ▸ (refused zero).1⟩
  · obtain ⟨bytes, hb, -, asked⟩ := initialise_negotiates hr "one" 33 "sip" rfl
    have zero : 0 ∉ bytes := by
      rw [encoded hb]
      decide
    rw [((asked zero).2.1 rfl).2.1]
    rfl
  · obtain ⟨bytes, hb, -, asked⟩ := initialise_negotiates ho "one" 33 "sip" rfl
    have zero : 0 ∉ bytes := by
      rw [encoded hb]
      decide
    have lasting := ((asked zero).2.2 (by decide)).2.2.2
    obtain ⟨later, results, copies⟩ := lasting
      [.operation (.share "one" "two"), .operation (.discardInstance "one")]
    have told : copied.results = [(.initialise "one" 33 "sip", .ok (.number 32))] ++
        [(.share "one" "two", .ok (.number 32)), (.discardInstance "one", .ok .nothing)] := rfl
    have same : _ = later := List.append_cancel_left (told.symm.trans results)
    exact copies "two" (by rw [← same]; decide)

end Initialise

end History

end Switchboard
