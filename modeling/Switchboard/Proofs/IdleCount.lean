import Switchboard.Proofs.Delivery
import Switchboard.Proofs.Launching
import Switchboard.Proofs.Polling
import Switchboard.Proofs.Utf8

/-!
# The count of polls without a message

The program counts the polls in a row that gave nothing, in 32 bits, and compares the count with the
limit. A limit stops the loop before the count can leave its bits. Without a limit nothing stops it,
but the loop counts all the same, so the poll that completes a row of `UInt32.size` null answers
takes the count out of its bits: the program fails at the first such poll and at no other
(`overflows_iff`). An engine that gives no message leads there (`silent_engine_overflows`).
-/

namespace Switchboard.PollLoop

section Started

variable {σ : Type} {E : Engine σ} {i : Instance} {opener : Opener σ} {os : String}
  {environment : Option Path} {engine : σ} {t : Trace} {a : Arguments}

theorem fullEnding_eq_overflowed_iff {limit : UInt32} :
    fullEnding limit = .overflowed ↔ limit = 0 := by
  rw [fullEnding]
  by_cases h : limit = 0
  · simp [h]
  · simp [h]

theorem fullRow_of_unlimited {limit : UInt32} (h : limit = 0) : fullRow limit = UInt32.size :=
  if_pos h

/-- **The count overflows if there is no limit, and only then.** A program that has launched its
engine fails, since its count left the 32 bits, if and only if there is no limit and the engine gave
nothing `UInt32.size` times in a row. If there is no limit, the program goes on polling before the
first such row, and does nothing else; the poll that completes the row is the last one, and then the
engine is shut down as the instance is let go of. -/
theorem overflows_iff {s : Session σ}
    (started : a.launch.start opener os environment { engine } = ⟨.ok (E, i), t, s⟩) :
    let wait := Duration.ofMillis a.timeout
    let given := answers E i wait.timeout s.engine
    let d := fun polls => run opener os environment a polls { engine }
    (∀ polls, (d polls).value = .ok .overflowed ↔
      a.idleLimit = 0 ∧ ∃ n ≤ polls, EndsIdle UInt32.size (given n)) ∧
    (a.idleLimit = 0 →
      (∀ polls, (∀ n ≤ polls, ¬ EndsIdle UInt32.size (given n)) →
        (d polls).value = .ok .running ∧
        (d polls).trace.calls = t.calls ++ (given polls).flatMap (pollCalls i wait.timeout)) ∧
      ∀ n, EndsIdle UInt32.size (given n) → (∀ k < n, ¬ EndsIdle UInt32.size (given k)) →
        ∀ polls ≥ n, (d polls).value = .ok .overflowed ∧
          (d polls).trace.calls = t.calls ++ (given n).flatMap (pollCalls i wait.timeout) ++
            [.shutDown i.context.number i.context.handle]) := by
  intro wait given d
  refine ⟨fun polls => ⟨fun failed => ?_, ?_⟩, fun unlimited => ?_⟩
  · obtain h | ⟨n, hn, full, first⟩ := none_or_first (fullRow a.idleLimit) given polls
    · cases (running_of_not_endsIdle started h).1.symm.trans failed
    · have ended := (ended_of_endsIdle started full first hn).1.symm.trans failed
      have unlimited := fullEnding_eq_overflowed_iff.1 (Except.ok.inj ended)
      exact ⟨unlimited, n, hn, fullRow_of_unlimited unlimited ▸ full⟩
  · rintro ⟨unlimited, n, hn, row⟩
    rw [← fullRow_of_unlimited unlimited] at row
    obtain h | ⟨k, hk, full, first⟩ := none_or_first (fullRow a.idleLimit) given polls
    · exact absurd row (h n hn)
    · have ended := (ended_of_endsIdle started full first hk).1
      exact ended.trans (congrArg Except.ok (fullEnding_eq_overflowed_iff.2 unlimited))
  · rw [← fullRow_of_unlimited unlimited]
    refine ⟨fun polls h => ?_, fun n full first polls hn => ?_⟩
    · obtain ⟨running, calls, -⟩ := running_of_not_endsIdle started h
      exact ⟨running, calls⟩
    · obtain ⟨ended, calls, -⟩ := ended_of_endsIdle started full first hn
      exact ⟨ended.trans (congrArg Except.ok (fullEnding_eq_overflowed_iff.2 unlimited)), calls⟩

end Started

/-! ## An engine without messages -/

theorem idleRow_append_replicate (as : List Address) (n : ℕ) :
    idleRow (as ++ List.replicate n 0) = idleRow as + n := by
  induction n with
  | zero => rw [List.replicate_zero, List.append_nil, Nat.add_zero]
  | succ n ih =>
    rw [List.replicate_succ', ← List.append_assoc, idleRow_concat, if_pos rfl, ih, Nat.add_assoc]

theorem flatMap_pollCalls_replicate (i : Instance) (timeout : UInt32) (n : ℕ) :
    (List.replicate n 0).flatMap (pollCalls i timeout) =
      List.replicate n (.getMessage i.context.number i.context.handle timeout 0) := by
  rw [List.flatMap_replicate, pollCalls, if_pos rfl, List.flatten_replicate_singleton]

theorem flatMap_pollNotices_replicate (n : ℕ) : (List.replicate n 0).flatMap pollNotices = [] := by
  rw [List.flatMap_replicate, pollNotices, if_pos rfl, List.flatten_replicate_nil]

/-- No message waits, and none will arrive at a get call. -/
structure Starved (e : Trial.State) : Prop where
  pending : e.pending = []
  script : e.script = []

variable {i : Instance} {timeout : UInt32} {e : Trial.State}

namespace Starved

theorem getMessage (h : Starved e) (handle : Address) :
    (e.getMessage handle timeout).1 = 0 ∧ Starved (e.getMessage handle timeout).2 := by
  obtain ⟨ha, hq⟩ | ⟨rest, hp, -⟩ := Trial.getMessage_cases h.script
    (Prod.mk.eta (p := e.getMessage handle timeout)).symm
  · exact ⟨ha, hq.pending.trans h.pending, hq.script.trans h.script⟩
  · cases h.pending.symm.trans hp

theorem answer_eq_zero (h : Starved e) : answer Trial.engine i timeout e = 0 :=
  (h.getMessage i.context.handle).1

theorem afterPoll (h : Starved e) : Starved (afterPoll Trial.engine i timeout e) := by
  rw [PollLoop.afterPoll, if_pos h.answer_eq_zero]
  exact (h.getMessage i.context.handle).2

/-- All answers are null. -/
theorem answers_eq (h : Starved e) (n : ℕ) :
    answers Trial.engine i timeout e n = List.replicate n 0 := by
  induction n generalizing e with
  | zero => rfl
  | succ n ih => rw [answers_succ, h.answer_eq_zero, ih h.afterPoll, List.replicate_succ]

/-- The row of null answers has the length of all polls. -/
theorem endsIdle_answers_iff (h : Starved e) {row n : ℕ} :
    EndsIdle row (answers Trial.engine i timeout e n) ↔ row ≤ n := by
  rw [endsIdle_iff, h.answers_eq, ← List.nil_append (List.replicate n 0),
    idleRow_append_replicate, idleRow, List.rtakeWhile_nil, List.length_nil, Nat.zero_add]

end Starved

/-- A message and then none: without a limit the program fails one poll later than it would without
the message, and with a limit of three it does not fail. -/
theorem overflows_after_message :
    let d := fun limit polls => run (fun _ => .ok (Trial.library EntryPoint.all)) "linux" none
      { idleLimit := limit } polls { engine := ({ script := [true] } : Trial.State) }
    (d 0 UInt32.size).value ≠ .ok .overflowed ∧
      (d 0 (UInt32.size + 1)).value = .ok .overflowed ∧
      (d 3 (UInt32.size + 1)).value ≠ .ok .overflowed := by
  intro d
  let launched := Launch.start {} (fun _ => .ok (Trial.library EntryPoint.all)) "linux" none
    { engine := ({ script := [true] } : Trial.State) }
  let i : Instance := ⟨⟨0, 16, 33⟩⟩
  let wait := Duration.ofMillis 1000
  have started : launched = ⟨.ok (Trial.engine, i), launched.trace, launched.session⟩ := rfl
  obtain ⟨unlimited, -⟩ := overflows_iff (a := { idleLimit := 0 }) started
  obtain ⟨limited, -⟩ := overflows_iff (a := { idleLimit := 3 }) started
  have starved : Starved (afterPoll Trial.engine i wait.timeout launched.session.engine) :=
    ⟨rfl, rfl⟩
  have row (n : ℕ) :
      idleRow (answers Trial.engine i wait.timeout launched.session.engine (n + 1)) = n := by
    rw [answers_succ, starved.answers_eq, ← List.singleton_append, idleRow_append_replicate]
    exact Nat.zero_add n
  refine ⟨fun failed => ?_, (unlimited _).2 ⟨rfl, _, Nat.le_refl _, endsIdle_iff.2 (row _).ge⟩,
    fun failed => absurd ((limited _).1 failed).1 (by decide)⟩
  obtain ⟨-, n, hn, full⟩ := (unlimited _).1 failed
  have enough := endsIdle_iff.1 full
  cases n with
  | zero => exact absurd enough (by decide)
  | succ n => exact absurd (row n ▸ enough) (Nat.not_le.2 hn)

/-- One of the files of the folder for trials is a library that exports everything. -/
theorem folder_opens : Trial.folder (.ofString "./libopal_11111.so") =
    .ok (Trial.library EntryPoint.all) := by
  have name := Utf8.decode?_encode "libopal_11111.so".toList
  have entry : Trial.Place.folder.entry? (Utf8.encode "libopal_11111.so".toList) =
      some (.inr (.ok (Trial.library EntryPoint.all))) := by
    rw [Trial.Place.entry?, name]
    rfl
  have walked : Trial.folder (.ofString "./libopal_11111.so") =
      Trial.walk false .folder [.here, .name (Utf8.encode "libopal_11111.so".toList)] := rfl
  rw [walked, Trial.walk, Trial.walk, entry]
  rfl

/-- **A silent engine makes the program fail.** There is no limit and no waiting, and the engine has
no message. All polls of a row but the last one are only polls; the last one is followed by the
failure of the program, and the engine is shut down. -/
theorem silent_engine_overflows :
    let setup (polls : ℕ) : Setup Trial.State :=
      { opener := Trial.folder, os := "linux", environment := none, filter := none
        words := ["--library", "./libopal_11111.so", "--idle-limit", "0", "--timeout-ms", "0"]
        polls := fun _ => polls }
    let gets (polls : ℕ) : List Call := List.replicate polls (.getMessage 0 16 0 0)
    (program (setup (UInt32.size - 1)) {}).calls =
      .initialise 33 "" ⟨16, 33⟩ :: gets (UInt32.size - 1) ∧
    program (setup UInt32.size) {} =
      ⟨101, ["INFO message_loop: OPAL engine running, API version 33"],
        ["attempt to add with overflow"],
        .initialise 33 "" ⟨16, 33⟩ :: gets UInt32.size ++ [.shutDown 0 16]⟩ := by
  intro setup gets
  let path := Path.ofString "./libopal_11111.so"
  let a : Arguments := { launch := { library := some path }, timeout := 0 }
  let i : Instance := ⟨⟨0, 16, 33⟩⟩
  let e := (Trial.engine.initialise 33 "" {}).2
  let usual : LogFilter := ⟨[⟨none, none, 3, false⟩]⟩
  have program_eq (n : ℕ) : program (setup n) {} =
      .ofRun usual [] (run Trial.folder "linux" none a n { engine := {} }) := by
    have parsed : Arguments.parse grammar (setup n).words = .ok a := by rfl
    rw [program, parsed]
    rfl
  -- the launch
  have loaded : load Trial.folder path { engine := {} } =
      ⟨.ok Trial.engine, ⟨[], [.loaded path]⟩, { engine := {} }⟩ :=
    Trial.load_library (p := path) (by decide) folder_opens
  have started : a.launch.start Trial.folder "linux" none { engine := {} } =
      ⟨.ok (Trial.engine, i), ⟨[.initialise 33 "" ⟨16, 33⟩],
        [.loaded path, .initialised 33 ""]⟩, { engine := e, made := 1 }⟩ :=
    (Launch.start_of_loaded rfl loaded).trans rfl
  -- the answers
  have wait : (Duration.ofMillis a.timeout).timeout = 0 := by decide
  have starved : Starved e := ⟨rfl, rfl⟩
  have short {n : ℕ} (h : n < UInt32.size) : ¬ EndsIdle (fullRow a.idleLimit)
      (answers Trial.engine i (Duration.ofMillis a.timeout).timeout e n) :=
    starved.endsIdle_answers_iff.not.2 (Nat.not_le.2 h)
  have full : EndsIdle (fullRow a.idleLimit)
      (answers Trial.engine i (Duration.ofMillis a.timeout).timeout e UInt32.size) :=
    starved.endsIdle_answers_iff.2 (Nat.le_refl _)
  constructor
  · have before : UInt32.size - 1 < UInt32.size := by decide
    obtain ⟨-, calls, -⟩ := running_of_not_endsIdle started fun k hk =>
      short (Nat.lt_of_le_of_lt hk before)
    rw [starved.answers_eq, wait, flatMap_pollCalls_replicate] at calls
    rw [program_eq, Outcome.calls_ofRun, calls, List.singleton_append]
  · obtain ⟨ended, calls, notices⟩ :=
      ended_of_endsIdle started full (fun k => short) (Nat.le_refl _)
    have shown : (([.loaded path, .initialised 33 "", .running 33, .shuttingDown 33] :
        List Notice).filter usual.shows).map Notice.line =
        ["INFO message_loop: OPAL engine running, API version 33"] := by decide +kernel
    rw [starved.answers_eq, wait, flatMap_pollCalls_replicate] at calls
    rw [starved.answers_eq, flatMap_pollNotices_replicate] at notices
    rw [program_eq, Outcome.ofRun_of_overflowed _ _ ended, calls, notices]
    exact congrArg (fun out => Outcome.mk 101 out _ _) shown

end Switchboard.PollLoop
