import Mathlib.Data.List.DropRight
import Mathlib.Data.List.Iterate
import Mathlib.Data.Nat.Find
import Switchboard.PollLoop
import Switchboard.Proofs.Slots
import Switchboard.Proofs.Timeouts
import Switchboard.Trial.Folder

/-!
# Runs of the polling program

What the engine answers to polls does not depend on the program, since each poll leaves the engine
in the state that its own calls lead to (`answers`). The loop follows these answers and counts those
in a row that are null. A row ends the loop when it is full: as long as the limit, or, if there is
no limit, too long for the 32 bits of the count (`fullRow`). Until then the count is the length of
the row (`loop_of_not_endsIdle`), and the first full row is the end (`loop_of_endsIdle`). With a
limit the program stops there, as it was asked to (`stops_at_first_idle_row`).
-/

namespace Switchboard.PollLoop

variable {σ : Type}

/-! ## What an engine answers -/

section Answers

variable (E : Engine σ) (i : Instance) (timeout : UInt32)

/-- The answer to a poll. -/
def answer (e : σ) : Address :=
  (E.getMessage i.context.handle timeout e).1

/-- The engine after a poll. A message that it gave is freed. -/
def afterPoll (e : σ) : σ :=
  let e' := (E.getMessage i.context.handle timeout e).2
  if answer E i timeout e = 0 then e' else E.freeMessage (answer E i timeout e) e'

/-- The answers to a number of polls, one after another. -/
def answers (e : σ) (polls : ℕ) : List Address :=
  (List.iterate (afterPoll E i timeout) e polls).map (answer E i timeout)

/-- The calls of a poll, by its answer. -/
def pollCalls (a : Address) : List Call :=
  .getMessage i.context.number i.context.handle timeout a ::
    if a = 0 then [] else [.freeMessage i.context.number a]

/-- The notices of a poll that does not end the loop, by its answer. -/
def pollNotices (a : Address) : List Notice :=
  if a = 0 then [] else [.received a, .polled a, .freeing a]

/-- What happens during polls that do not end the loop, by their answers. -/
def pollTrace (as : List Address) : Trace :=
  ⟨as.flatMap (pollCalls i timeout), as.flatMap pollNotices⟩

end Answers

variable {E : Engine σ} {i : Instance} {timeout : UInt32} {e : σ} {n k : ℕ}

theorem answers_succ : answers E i timeout e (n + 1) =
    answer E i timeout e :: answers E i timeout (afterPoll E i timeout e) n :=
  rfl

theorem answers_concat : answers E i timeout e (n + 1) =
    answers E i timeout e n ++ [answer E i timeout ((afterPoll E i timeout)^[n] e)] := by
  rw [answers, List.iterate_add, List.map_append]
  rfl

/-! ## Null answers in a row -/

/-- A list of answers ends in a row of null answers of a given length. -/
def EndsIdle (length : ℕ) (as : List Address) : Prop :=
  List.replicate length 0 <:+ as

instance (length : ℕ) (as : List Address) : Decidable (EndsIdle length as) :=
  inferInstanceAs (Decidable (List.replicate length 0 <:+ as))

/-- The number of null answers in a row at the end of a list of answers. -/
def idleRow (as : List Address) : ℕ :=
  (as.rtakeWhile (· = 0)).length

theorem idleRow_concat (as : List Address) (a : Address) :
    idleRow (as ++ [a]) = if a = 0 then idleRow as + 1 else 0 := by
  rw [idleRow, List.rtakeWhile_concat]
  by_cases ha : a = 0
  · simp [ha, idleRow]
  · simp [ha]

/-- A list ends in every row of null answers that is not longer than the longest one. -/
theorem endsIdle_iff {as : List Address} : EndsIdle n as ↔ n ≤ idleRow as := by
  constructor
  · rintro ⟨before, rfl⟩
    induction n with
    | zero => exact Nat.zero_le _
    | succ n ih =>
      rw [List.replicate_succ', ← List.append_assoc, idleRow_concat, if_pos rfl]
      exact Nat.succ_le_succ ih
  · intro h
    have row : as.rtakeWhile (· = 0) = List.replicate (idleRow as) 0 :=
      List.eq_replicate_iff.2 ⟨rfl, fun a ha => by simpa using List.mem_rtakeWhile_imp ha⟩
    have all : List.replicate (idleRow as) 0 <:+ as := row ▸ List.rtakeWhile_suffix _ _
    have part : List.replicate n 0 <:+ List.replicate (idleRow as) 0 := by
      refine ⟨List.replicate (idleRow as - n) 0, ?_⟩
      rw [List.replicate_append_replicate, Nat.sub_add_cancel h]
    exact part.trans all

theorem not_endsIdle_iff {as : List Address} : ¬ EndsIdle n as ↔ idleRow as < n := by
  rw [endsIdle_iff, Nat.not_le]

/-- The length of the row of null answers that ends the loop. -/
def fullRow (limit : UInt32) : ℕ :=
  if limit = 0 then UInt32.size else limit.toNat

theorem fullRow_of_limited {limit : UInt32} (h : limit ≠ 0) : fullRow limit = limit.toNat :=
  if_neg h

theorem fullRow_pos (limit : UInt32) : 0 < fullRow limit := by
  rw [fullRow]
  split
  · decide
  · next h =>
    rw [Nat.pos_iff_ne_zero]
    exact fun h₀ => h (UInt32.toNat_inj.1 h₀)

theorem fullRow_le (limit : UInt32) : fullRow limit ≤ UInt32.size := by
  rw [fullRow]
  split
  · exact Nat.le_refl _
  · exact Nat.le_of_lt limit.toNat_lt

/-- Among the first answers there is no full row, or there is a first one. -/
theorem none_or_first (row : ℕ) (given : ℕ → List Address) (polls : ℕ) :
    (∀ k ≤ polls, ¬ EndsIdle row (given k)) ∨
      ∃ n ≤ polls, EndsIdle row (given n) ∧ ∀ k < n, ¬ EndsIdle row (given k) := by
  by_cases h : ∃ n, n ≤ polls ∧ EndsIdle row (given n)
  · obtain ⟨hn, full⟩ := Nat.find_spec h
    exact .inr ⟨_, hn, full, fun k hk hf =>
      Nat.find_min h hk ⟨Nat.le_trans (Nat.le_of_lt hk) hn, hf⟩⟩
  · exact .inl fun k hk hf => h ⟨k, hk, hf⟩

/-! ## The loop -/

/-- How a full row of null answers ends the loop. -/
def fullEnding (limit : UInt32) : Ending :=
  if limit = 0 then .overflowed else .stopped

theorem fullEnding_ne_running (limit : UInt32) : fullEnding limit ≠ .running := by
  rw [fullEnding]
  split <;> rintro ⟨⟩

/-- What is written of a full row of null answers. -/
def fullNotices (limit : UInt32) : List Notice :=
  if limit = 0 then [] else [.idle limit]

theorem pollFailed_notMem_pollNotices (a : Address) (reason : String) :
    .pollFailed reason ∉ pollNotices a := by
  rw [pollNotices]
  split <;> simp

theorem pollFailed_notMem_fullNotices (limit : UInt32) (reason : String) :
    .pollFailed reason ∉ fullNotices limit := by
  rw [fullNotices]
  split <;> simp

/-- A session in which the loop can poll: its slot for a message is free, and something refers to
the engine. -/
structure Ready (i : Instance) (s : Session σ) : Prop where
  free : s.messages.get? messageSlot = none
  held : s.holders i.context.number ≠ 0

/-- The outcome of something before which something else happened. -/
def after {α : Type} (t : Trace) (d : Done σ α) : Done σ α :=
  ⟨d.value, t.append d.trace, d.session⟩

variable {s : Session σ} {limit idle : UInt32} {wait : Duration} {a : Address}

/-- The engine has no part in readiness. -/
theorem Ready.engine (h : Ready i s) (e : σ) : Ready i { s with engine := e } :=
  ⟨h.free, h.held⟩

/-- A message is shown and freed, and its slot is free again. -/
theorem handle_apply (hs : Ready i s) (ha : a ≠ 0) :
    handle E ⟨i.context, a⟩ s = ⟨(), ⟨[.freeMessage i.context.number a], [.polled a, .freeing a]⟩,
      { s with engine := E.freeMessage a s.engine }⟩ := by
  have hm : (s.messages.insert messageSlot ⟨i.context, a⟩).erase messageSlot = s.messages := by
    rw [Slots.erase_insert, Slots.erase_of_get?_none hs.free]
  have hf : (Message.mk i.context a).free E s = ⟨(), ⟨[.freeMessage i.context.number a],
      [.freeing a]⟩, { s with engine := E.freeMessage a s.engine }⟩ := Message.free_of_ne ha
  have hr := Context.release_shared (E := E) (hs.engine (E.freeMessage a s.engine)).held
  simp [handle, storeMessage, hs.free, hm, Message.discard, hf, hr, Trace.append]

theorem after_pollTrace (i : Instance) (timeout : UInt32) (as bs : List Address) {α : Type}
    (d : Done σ α) : after (pollTrace i timeout as) (after (pollTrace i timeout bs) d) =
      after (pollTrace i timeout (as ++ bs)) d := by
  simp [after, pollTrace, Trace.append]

/-- A message is handled, and the count starts anew. -/
theorem loop_of_message (hs : Ready i s) (ne : answer E i wait.timeout s.engine ≠ 0) :
    loop E i wait limit (n + 1) idle s =
      after (pollTrace i wait.timeout [answer E i wait.timeout s.engine])
        (loop E i wait limit n 0 { s with engine := afterPoll E i wait.timeout s.engine }) := by
  rcases call : E.getMessage i.context.handle wait.timeout s.engine with ⟨a, e⟩
  have ha : answer E i wait.timeout s.engine = a := by rw [answer, call]
  rw [ha] at ne ⊢
  have he : afterPoll E i wait.timeout s.engine = E.freeMessage a e := by
    rw [afterPoll, ha, call, if_neg ne]
  rw [he, loop]
  simp only [Action.bind_apply, Instance.getMessage_of_message call ne,
    handle_apply (hs.engine e) ne]
  simp [after, pollTrace, pollCalls, pollNotices, ne, Trace.append]

/-- A null answer is all that happens in its poll. -/
theorem getMessage_of_answer_null (null : answer E i wait.timeout s.engine = 0) :
    i.getMessage E wait s = ⟨.error .noMessage, ⟨pollCalls i wait.timeout 0, []⟩,
      { s with engine := afterPoll E i wait.timeout s.engine }⟩ := by
  rcases call : E.getMessage i.context.handle wait.timeout s.engine with ⟨a, e⟩
  obtain rfl : a = 0 := by rwa [answer, call] at null
  have he : afterPoll E i wait.timeout s.engine = e := by
    rw [afterPoll, null, call, if_pos rfl]
  rw [he, Instance.getMessage_of_null call]
  rfl

/-- A poll that does not fill the row is followed by the next one. -/
theorem loop_step (hs : Ready i s)
    (room : answer E i wait.timeout s.engine = 0 → idle.toNat + 1 < fullRow limit) :
    ∃ next : UInt32,
      next.toNat = (if answer E i wait.timeout s.engine = 0 then idle.toNat + 1 else 0) ∧
      ∀ n, loop E i wait limit (n + 1) idle s =
        after (pollTrace i wait.timeout [answer E i wait.timeout s.engine])
          (loop E i wait limit n next
            { s with engine := afterPoll E i wait.timeout s.engine }) := by
  by_cases null : answer E i wait.timeout s.engine = 0
  · have row := room null
    obtain ⟨next, fits, hn⟩ := next?_of_lt (Nat.lt_of_lt_of_le row (fullRow_le limit))
    have goes_on : ¬ (limit ≠ 0 ∧ limit ≤ next) := by
      rintro ⟨limited, reached⟩
      rw [UInt32.le_iff_toNat_le, hn] at reached
      rw [fullRow_of_limited limited] at row
      omega
    refine ⟨next, by rw [if_pos null, hn], fun n => ?_⟩
    rw [loop]
    simp only [Action.bind_apply, getMessage_of_answer_null null, fits, if_neg goes_on]
    rw [null]
    rfl
  · exact ⟨0, by rw [if_neg null]; rfl, fun n => loop_of_message hs null⟩

/-- A null answer that fills the row is the last one. -/
theorem loop_full (null : answer E i wait.timeout s.engine = 0)
    (full : idle.toNat + 1 = fullRow limit) :
    loop E i wait limit (n + 1) idle s =
      ⟨fullEnding limit, ⟨pollCalls i wait.timeout 0, fullNotices limit⟩,
        { s with engine := afterPoll E i wait.timeout s.engine }⟩ := by
  rw [loop]
  simp only [Action.bind_apply, getMessage_of_answer_null null]
  by_cases hl : limit = 0
  · have exceeds : next? idle = none := next?_of_full (by rw [full, fullRow, if_pos hl])
    simp [exceeds, fullEnding, fullNotices, hl, Trace.append]
  · rw [fullRow_of_limited hl] at full
    obtain ⟨next, fits, hn⟩ := next?_of_lt (full ▸ limit.toNat_lt)
    obtain rfl : next = limit := UInt32.toNat_inj.1 (hn.trans full)
    simp [fits, fullEnding, fullNotices, hl, Trace.append]

/-- While no row of null answers is full, the loop goes on, and its count is the length of the row
so far. -/
theorem loop_of_not_endsIdle (hs : Ready i s)
    (h : ∀ k ≤ n, ¬ EndsIdle (fullRow limit) (answers E i wait.timeout s.engine k)) :
    ∃ idle : UInt32, idle.toNat = idleRow (answers E i wait.timeout s.engine n) ∧
      ∀ more, loop E i wait limit (n + more) 0 s =
        after (pollTrace i wait.timeout (answers E i wait.timeout s.engine n))
          (loop E i wait limit more idle
            { s with engine := (afterPoll E i wait.timeout)^[n] s.engine }) := by
  induction n with
  | zero => exact ⟨0, rfl, fun more => by rw [Nat.zero_add]; rfl⟩
  | succ n ih =>
    obtain ⟨idle, hi, hloop⟩ := ih fun k hk => h k (Nat.le_succ_of_le hk)
    have row := not_endsIdle_iff.1 (h (n + 1) (Nat.le_refl _))
    rw [answers_concat, idleRow_concat] at row ⊢
    have room : answer E i wait.timeout ((afterPoll E i wait.timeout)^[n] s.engine) = 0 →
        idle.toNat + 1 < fullRow limit := fun null => by
      rw [if_pos null] at row
      rwa [hi]
    obtain ⟨next, hn, hnext⟩ := loop_step (hs.engine _) room
    refine ⟨next, by rw [hn, hi], fun more => ?_⟩
    rw [Nat.succ_add_eq_add_succ, hloop, hnext, after_pollTrace, Function.iterate_succ_apply']

/-- The first full row of null answers ends the loop. -/
theorem loop_of_endsIdle (hs : Ready i s) (more : ℕ)
    (full : EndsIdle (fullRow limit) (answers E i wait.timeout s.engine n))
    (first : ∀ k < n, ¬ EndsIdle (fullRow limit) (answers E i wait.timeout s.engine k)) :
    loop E i wait limit (n + more) 0 s =
      after (pollTrace i wait.timeout (answers E i wait.timeout s.engine n))
        ⟨fullEnding limit, ⟨[], fullNotices limit⟩,
          { s with engine := (afterPoll E i wait.timeout)^[n] s.engine }⟩ := by
  have pos := fullRow_pos limit
  cases n with
  | zero =>
    have none : fullRow limit ≤ idleRow [] := endsIdle_iff.1 full
    exact absurd none (Nat.not_le.2 pos)
  | succ n =>
    obtain ⟨idle, hi, hloop⟩ := loop_of_not_endsIdle hs fun k hk => first k (Nat.lt_succ_of_le hk)
    have before := not_endsIdle_iff.1 (first n (Nat.lt_succ_self n))
    -- the last answer is null, and it fills the row
    rw [endsIdle_iff, answers_concat, idleRow_concat] at full
    by_cases null : answer E i wait.timeout ((afterPoll E i wait.timeout)^[n] s.engine) = 0
    · rw [if_pos null] at full
      have fills : idle.toNat + 1 = fullRow limit := by omega
      have last := loop_full (n := more)
        (s := { s with engine := (afterPoll E i wait.timeout)^[n] s.engine }) null fills
      rw [Nat.succ_add_eq_add_succ, hloop, last, answers_concat, null,
        Function.iterate_succ_apply']
      simp [after, pollTrace, pollNotices, Trace.append]
    · rw [if_neg null] at full
      exact absurd full (Nat.not_le.2 pos)

/-! ## The run -/

section Run

variable {opener : Opener σ} {os : String} {environment : Option Path} {engine : σ} {t : Trace}

/-- An instance that was made has the handle and the version of the one call for it. -/
theorem initialiseWith_eq_ok {s' : Session σ} {o : Options}
    (h : Instance.initialiseWith E o s = ⟨.ok i, t, s'⟩) :
    ∃ text, t.calls = [.initialise interfaceVersion text ⟨i.context.handle, i.context.version⟩] ∧
      i.context.handle ≠ 0 ∧ (∀ reason, .pollFailed reason ∉ t.notices) ∧
      i.context.number = s.made ∧ s' = { s with engine := s'.engine, made := s.made + 1 } := by
  unfold Instance.initialiseWith at h
  cases hr : o.render with
  | error e =>
    rw [hr] at h
    cases h
  | ok text =>
    rw [hr] at h
    dsimp only at h
    cases hn : NulFault.find? (Utf8.encode text.toList) with
    | some fault =>
      rw [Instance.initialise_of_nul hn] at h
      cases h
    | none =>
      rcases call : E.initialise interfaceVersion text s.engine with ⟨answer, e⟩
      by_cases ha : answer.handle = 0
      · rw [Instance.initialise_of_null hn call ha] at h
        cases h
      · rw [Instance.initialise_of_handle hn call ha] at h
        cases h
        refine ⟨text, rfl, ha, fun reason hm => ?_, rfl, rfl⟩
        rcases List.mem_append.1 hm with hm | hm
        · split at hm <;> simp at hm
        · simp at hm

/-- A launch makes the one call for its instance. -/
theorem start_eq_ok {l : Launch} {s' : Session σ}
    (h : l.start opener os environment s = ⟨.ok (E, i), t, s'⟩) :
    ∃ text, t.calls = [.initialise interfaceVersion text ⟨i.context.handle, i.context.version⟩] ∧
      i.context.handle ≠ 0 ∧ (∀ reason, .pollFailed reason ∉ t.notices) ∧
      i.context.number = s.made ∧ s' = { s with engine := s'.engine, made := s.made + 1 } := by
  simp only [Launch.start, Action.bind_apply] at h
  unfold load at h
  cases hopen : openEngine opener (l.libraryPath os environment) with
  | error fault =>
    rw [hopen] at h
    cases h
  | ok E' =>
    rw [hopen] at h
    simp only [Action.bind_apply, Action.notice_apply, Action.pure_apply] at h
    rcases hw : Instance.initialiseWith E' l.options s with ⟨value, trace, s₁⟩
    rw [hw] at h
    cases value with
    | error e => cases h
    | ok j =>
      cases h
      obtain ⟨text, hc, ne, hp, hk, hs⟩ := initialiseWith_eq_ok hw
      refine ⟨text, ?_, ne, fun reason hm => ?_, hk, hs⟩
      · simp [Trace.append, hc]
      · simp [Trace.append, hp] at hm

/-- The session in which the loop starts, if the engine was launched in an empty one. -/
def polling (e : σ) (i : Instance) : Session σ :=
  { engine := e, made := 1, instances := Slots.insert {} instanceSlot i }

theorem ready_polling (e : σ) (i : Instance) : Ready i (polling e i) := by
  refine ⟨rfl, ?_⟩
  simp [polling, Session.holders, Slots.insert, Slots.erase, Slots.values]

variable {u : Trace} {a : Arguments} {polls : ℕ} {s₂ : Session σ}

/-- While the loop goes on there is nothing to do after it. -/
theorem pollAndShutDown_of_running
    (h : loop E i (Duration.ofMillis a.timeout) a.idleLimit polls 0 (polling e i) =
      ⟨.running, u, s₂⟩) :
    pollAndShutDown E i a polls { engine := e, made := 1 } =
      ⟨.ok .running, ⟨u.calls, .running i.context.version :: u.notices⟩, s₂⟩ := by
  unfold polling at h
  have hg : ({} : Slots Instance).get? instanceSlot = none := rfl
  simp [pollAndShutDown, storeInstance, hg, h, Trace.append]

/-- When the loop has ended, the instance is the only reference to its engine. It goes, however the
loop ended. -/
theorem pollAndShutDown_of_ended {e' : σ} {ending : Ending} (hc : i.context.handle ≠ 0)
    (ended : ending ≠ .running)
    (h : loop E i (Duration.ofMillis a.timeout) a.idleLimit polls 0 (polling e i) =
      ⟨ending, u, { polling e i with engine := e' }⟩) :
    pollAndShutDown E i a polls { engine := e, made := 1 } =
      ⟨.ok ending, ⟨u.calls ++ [.shutDown i.context.number i.context.handle],
        .running i.context.version :: u.notices ++ [.shuttingDown i.context.version]⟩,
        { engine := E.shutDown i.context.handle e', made := 1 }⟩ := by
  have he : (Slots.insert {} instanceSlot i).erase instanceSlot = {} := by
    rw [Slots.erase_insert]
    rfl
  have hg : ({} : Slots Instance).get? instanceSlot = none := rfl
  have last : Session.holders { engine := e', made := 1 } i.context.number = 0 := rfl
  unfold polling at h
  cases ending with
  | running => exact absurd rfl ended
  | stopped =>
    simp [pollAndShutDown, storeInstance, hg, h, he, Instance.shutDown_last last, Trace.append]
  | overflowed =>
    simp [pollAndShutDown, storeInstance, hg, h, he, Instance.discard, Context.release_last hc last,
      Trace.append]

section Started

variable (started : a.launch.start opener os environment { engine } = ⟨.ok (E, i), t, s⟩)

include started

/-- A run is its launch and what comes after it. -/
theorem run_of_start (polls : ℕ) : run opener os environment a polls { engine } =
    after t (pollAndShutDown E i a polls { engine := s.engine, made := 1 }) := by
  obtain ⟨text, -, -, -, -, hs⟩ := start_eq_ok started
  have made : s = { engine := s.engine, made := 1 } := hs
  rw [← made]
  simp only [run, Action.bind_apply, started]
  rfl

/-- While no row of null answers is full, the program polls and does nothing else. -/
theorem running_of_not_endsIdle
    (h : ∀ k ≤ polls, ¬ EndsIdle (fullRow a.idleLimit)
      (answers E i (Duration.ofMillis a.timeout).timeout s.engine k)) :
    (run opener os environment a polls { engine }).value = .ok .running ∧
      (run opener os environment a polls { engine }).trace.calls =
        t.calls ++ (answers E i (Duration.ofMillis a.timeout).timeout s.engine polls).flatMap
          (pollCalls i (Duration.ofMillis a.timeout).timeout) ∧
      (run opener os environment a polls { engine }).trace.notices =
        t.notices ++ .running i.context.version ::
          (answers E i (Duration.ofMillis a.timeout).timeout s.engine polls).flatMap
            pollNotices := by
  obtain ⟨idle, -, hloop⟩ := loop_of_not_endsIdle (ready_polling s.engine i) h
  have still := hloop 0
  rw [Nat.add_zero] at still
  rw [run_of_start started, pollAndShutDown_of_running (still.trans rfl)]
  exact ⟨rfl, by simp [after, pollTrace, loop, polling], by simp [after, pollTrace, loop, polling]⟩

/-- When a row of null answers is full, the program shuts the engine down, once. -/
theorem ended_of_endsIdle
    (full : EndsIdle (fullRow a.idleLimit)
      (answers E i (Duration.ofMillis a.timeout).timeout s.engine n))
    (first : ∀ k < n, ¬ EndsIdle (fullRow a.idleLimit)
      (answers E i (Duration.ofMillis a.timeout).timeout s.engine k)) (h : n ≤ polls) :
    (run opener os environment a polls { engine }).value = .ok (fullEnding a.idleLimit) ∧
      (run opener os environment a polls { engine }).trace.calls =
        t.calls ++ (answers E i (Duration.ofMillis a.timeout).timeout s.engine n).flatMap
          (pollCalls i (Duration.ofMillis a.timeout).timeout) ++
          [.shutDown i.context.number i.context.handle] ∧
      (run opener os environment a polls { engine }).trace.notices =
        t.notices ++ .running i.context.version ::
          (answers E i (Duration.ofMillis a.timeout).timeout s.engine n).flatMap pollNotices ++
          fullNotices a.idleLimit ++ [.shuttingDown i.context.version] := by
  obtain ⟨-, -, hc, -⟩ := start_eq_ok started
  have hloop := loop_of_endsIdle (ready_polling s.engine i) (polls - n) full first
  rw [Nat.add_sub_cancel' h] at hloop
  rw [run_of_start started, pollAndShutDown_of_ended hc (fullEnding_ne_running _) hloop]
  exact ⟨rfl, by simp [after, pollTrace, polling], by simp [after, pollTrace, polling]⟩

/-- No poll fails, whether the run has ended or not. -/
theorem pollFailed_notMem_run (polls : ℕ) (reason : String) :
    .pollFailed reason ∉ (run opener os environment a polls { engine }).trace.notices := by
  obtain ⟨-, -, -, before, -⟩ := start_eq_ok started
  intro hm
  obtain h | ⟨n, hn, full, first⟩ := none_or_first (fullRow a.idleLimit)
    (answers E i (Duration.ofMillis a.timeout).timeout s.engine) polls
  · obtain ⟨-, -, notices⟩ := running_of_not_endsIdle started h
    simp [notices, before, pollFailed_notMem_pollNotices] at hm
  · obtain ⟨-, -, notices⟩ := ended_of_endsIdle started full first hn
    simp [notices, before, pollFailed_notMem_pollNotices, pollFailed_notMem_fullNotices] at hm

end Started

/-- **The program stops at the first poll that completes a row of null answers as long as the
limit.** Until then it goes on; each poll is one get call with the given timeout, and a message that
it gives is freed before the next call. Then the engine is shut down once and the program succeeds.
No poll ever fails, and the count is always the length of the row so far, below the limit. -/
theorem stops_at_first_idle_row {s : Session σ}
    (started : a.launch.start opener os environment { engine } = ⟨.ok (E, i), t, s⟩)
    (limited : a.idleLimit ≠ 0) :
    let wait := Duration.ofMillis a.timeout
    let given := answers E i wait.timeout s.engine
    let d := fun polls => run opener os environment a polls { engine }
    wait.timeout.toNat = min a.timeout.toNat (UInt32.size - 1) ∧
    (∃ text, t.calls =
      [.initialise interfaceVersion text ⟨i.context.handle, i.context.version⟩]) ∧
    (∀ polls, (∀ n ≤ polls, ¬ EndsIdle a.idleLimit.toNat (given n)) →
      (d polls).value = .ok .running ∧
      (d polls).trace.calls = t.calls ++ (given polls).flatMap (pollCalls i wait.timeout)) ∧
    (∀ n, EndsIdle a.idleLimit.toNat (given n) →
      (∀ k < n, ¬ EndsIdle a.idleLimit.toNat (given k)) → ∀ polls ≥ n,
        (d polls).value = .ok .stopped ∧
        (d polls).trace.calls = t.calls ++ (given n).flatMap (pollCalls i wait.timeout) ++
          [.shutDown i.context.number i.context.handle]) ∧
    (∀ polls reason, .pollFailed reason ∉ (d polls).trace.notices) ∧
    ∀ n, (∀ k ≤ n, ¬ EndsIdle a.idleLimit.toNat (given k)) → ∃ idle : UInt32,
      idle.toNat = idleRow (given n) ∧ idle.toNat < a.idleLimit.toNat ∧
      ∀ more, loop E i wait a.idleLimit (n + more) 0 (polling s.engine i) =
        after (pollTrace i wait.timeout (given n)) (loop E i wait a.idleLimit more idle
          { polling s.engine i with engine := (afterPoll E i wait.timeout)^[n] s.engine }) := by
  intro wait given d
  obtain ⟨text, hcalls, -⟩ := start_eq_ok started
  rw [← fullRow_of_limited limited]
  refine ⟨toNat_timeout_ofMillis a.timeout, ⟨text, hcalls⟩, fun polls h => ?_,
    fun n full first polls hn => ?_, pollFailed_notMem_run started, fun n h => ?_⟩
  · obtain ⟨running, calls, -⟩ := running_of_not_endsIdle started h
    exact ⟨running, calls⟩
  · obtain ⟨ended, calls, -⟩ := ended_of_endsIdle started full first hn
    exact ⟨ended.trans (congrArg Except.ok (if_neg limited)), calls⟩
  · obtain ⟨idle, hi, hloop⟩ := loop_of_not_endsIdle (ready_polling s.engine i) h
    exact ⟨idle, hi, hi ▸ not_endsIdle_iff.1 (h n (Nat.le_refl n)), hloop⟩

end Run

/-- Two messages, and then two polls without one. -/
theorem stops_at_second_null_answer :
    let d := fun polls => run (fun _ => .ok (Trial.library EntryPoint.all)) "linux" none
      { idleLimit := 2 } polls { engine := ({ script := [true, false, true] } : Trial.State) }
    (d 4).value = .ok .running ∧ (d 9).value = .ok .stopped ∧ (d 9).trace.calls =
      [.initialise interfaceVersion "" ⟨16, 33⟩,
        .getMessage 0 16 1000 32, .freeMessage 0 32, .getMessage 0 16 1000 0,
        .getMessage 0 16 1000 48, .freeMessage 0 48, .getMessage 0 16 1000 0,
        .getMessage 0 16 1000 0, .shutDown 0 16] := by
  have started : Launch.start {} (fun _ => .ok (Trial.library EntryPoint.all)) "linux" none
      { engine := ({ script := [true, false, true] } : Trial.State) } =
      ⟨.ok (Trial.engine, ⟨⟨0, 16, 33⟩⟩), _, _⟩ := rfl
  obtain ⟨-, -, goes_on, stops, -⟩ :=
    stops_at_first_idle_row (a := { idleLimit := 2 }) started (by decide)
  obtain ⟨stopped, calls⟩ := stops 5 (by decide) (by decide) 9 (by decide)
  exact ⟨(goes_on 4 (by decide)).1, stopped, calls.trans (by decide)⟩

end Switchboard.PollLoop
