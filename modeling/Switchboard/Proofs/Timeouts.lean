import Switchboard.Proofs.Provenance

/-!
# How long an engine waits

An engine is told how long to wait by a number of milliseconds in 32 bits. It is the number of whole
milliseconds of the duration that was asked for, or the greatest number there is if that one does
not fit (`Duration.toNat_timeout`), and whatever else there is to say of it follows. The
milliseconds are counted in 128 bits, where the seconds of every duration have room
(`Duration.toNat_wideMillis`).
-/

namespace Switchboard

namespace Duration

/-! ## Counting in 128 bits -/

/-- The seconds of a duration in 128 bits. -/
def wideSeconds (d : Duration) : BitVec 128 :=
  d.seconds.toBitVec.setWidth 128

/-- The whole milliseconds beside the seconds of a duration, in 128 bits. -/
def wideRest (d : Duration) : BitVec 128 :=
  (d.nanos / 1000000).toBitVec.setWidth 128

/-- The whole milliseconds of a duration in 128 bits. -/
def wideMillis (d : Duration) : BitVec 128 :=
  d.wideSeconds * 1000 + d.wideRest

variable (d : Duration)

theorem toNat_wideSeconds : d.wideSeconds.toNat = d.seconds.toNat := by
  rw [wideSeconds, BitVec.toNat_setWidth, UInt64.toNat_toBitVec]
  have h := d.seconds.toNat_lt
  omega

theorem toNat_wideRest : d.wideRest.toNat = d.nanos.toNat / 1000000 := by
  rw [wideRest, BitVec.toNat_setWidth, UInt32.toNat_toBitVec, UInt32.toNat_div]
  have h : d.nanos.toNat / UInt32.toNat 1000000 ≤ d.nanos.toNat := Nat.div_le_self ..
  have hn := d.nanos_lt
  exact Nat.mod_eq_of_lt (by omega)

theorem not_umulOverflow_wideSeconds : ¬ d.wideSeconds.umulOverflow 1000 := by
  have h := d.seconds.toNat_lt
  rw [BitVec.umulOverflow, decide_eq_true_iff, toNat_wideSeconds, Nat.not_le]
  exact Nat.lt_trans (Nat.mul_lt_mul_of_pos_right h (by decide)) (by decide)

theorem toNat_wideSeconds_mul : (d.wideSeconds * 1000).toNat = d.seconds.toNat * 1000 := by
  rw [BitVec.toNat_mul_of_not_umulOverflow d.not_umulOverflow_wideSeconds, toNat_wideSeconds]
  rfl

theorem not_uaddOverflow_wideRest : ¬ (d.wideSeconds * 1000).uaddOverflow d.wideRest := by
  have h := d.seconds.toNat_lt
  have hn := d.nanos_lt
  rw [BitVec.uaddOverflow, decide_eq_true_iff, toNat_wideSeconds_mul, toNat_wideRest, Nat.not_le]
  omega

/-- What is counted in 128 bits is the number of milliseconds. -/
theorem toNat_wideMillis : d.wideMillis.toNat = d.millis := by
  rw [wideMillis, BitVec.toNat_add_of_not_uaddOverflow d.not_uaddOverflow_wideRest,
    toNat_wideSeconds_mul, toNat_wideRest, millis]

/-! ## The number of milliseconds -/

theorem millis_eq : d.millis = d.totalNanos / 1000000 := by
  rw [millis, totalNanos]
  omega

/-- The timeout is the number of whole milliseconds, or the greatest number in 32 bits. -/
theorem toNat_timeout : d.timeout.toNat = min (d.totalNanos / 1000000) (UInt32.size - 1) := by
  rw [timeout, millis_eq]
  by_cases h : d.totalNanos / 1000000 < UInt32.size
  · rw [if_pos h, UInt32.toNat_ofNat_of_lt' h]
    omega
  · rw [if_neg h, UInt32.toNat_ofNat_of_lt' (by decide)]
    omega

/-- Durations are compared by their seconds, and by their nanoseconds if those are the same. -/
instance : LE Duration where
  le d d' := d.seconds < d'.seconds ∨ d.seconds = d'.seconds ∧ d.nanos ≤ d'.nanos

instance (d d' : Duration) : Decidable (d ≤ d') :=
  inferInstanceAs (Decidable (d.seconds < d'.seconds ∨ d.seconds = d'.seconds ∧ d.nanos ≤ d'.nanos))

variable {d} {d' : Duration}

/-- A duration is longer if it has more nanoseconds in all. -/
theorem le_iff_totalNanos_le : d ≤ d' ↔ d.totalNanos ≤ d'.totalNanos := by
  have hd := d.nanos_lt
  have hd' := d'.nanos_lt
  change d.seconds < d'.seconds ∨ d.seconds = d'.seconds ∧ d.nanos ≤ d'.nanos ↔ _
  rw [UInt64.lt_iff_toNat_lt, ← UInt64.toNat_inj, UInt32.le_iff_toNat_le, totalNanos, totalNanos]
  omega

theorem timeout_mono (h : d ≤ d') : d.timeout ≤ d'.timeout := by
  have hm := Nat.div_le_div_right (c := 1000000) (le_iff_totalNanos_le.1 h)
  rw [UInt32.le_iff_toNat_le, toNat_timeout, toNat_timeout]
  omega

theorem timeout_eq_zero_iff : d.timeout = 0 ↔ d.totalNanos < 1000000 := by
  have size : UInt32.size = 4294967296 := rfl
  rw [← UInt32.toNat_inj, toNat_timeout, UInt32.toNat_zero]
  omega

theorem timeout_eq_greatest_iff :
    d.timeout.toNat = UInt32.size - 1 ↔ (UInt32.size - 1) * 1000000 ≤ d.totalNanos := by
  have size : UInt32.size - 1 = 4294967295 := rfl
  simp only [toNat_timeout, size]
  omega

/-- No engine waits for longer than it is asked to. -/
theorem timeout_mul_le : d.timeout.toNat * 1000000 ≤ d.totalNanos := by
  rw [toNat_timeout]
  omega

/-- As long as the milliseconds fit, less than one of them is left out. -/
theorem lt_timeout_add_one_mul (h : d.totalNanos < UInt32.size * 1000000) :
    d.totalNanos < (d.timeout.toNat + 1) * 1000000 := by
  have fits : d.totalNanos / 1000000 ≤ UInt32.size - 1 :=
    Nat.le_sub_one_of_lt ((Nat.div_lt_iff_lt_mul (Nat.succ_pos 999999)).2 h)
  rw [toNat_timeout, Nat.min_eq_left fits, Nat.mul_comm]
  exact Nat.lt_mul_div_succ _ (Nat.succ_pos 999999)

/-! ## Durations of milliseconds -/

theorem totalNanos_ofMillis (n : UInt64) : (ofMillis n).totalNanos = n.toNat * 1000000 := by
  have below : n.toNat % 1000 * 1000000 < UInt32.size := by
    have size : UInt32.size = 4294967296 := rfl
    omega
  have nanos : (ofMillis n).nanos.toNat = n.toNat % 1000 * 1000000 := by
    rw [ofMillis, UInt32.toNat_ofNat_of_lt' below]
  have seconds : (ofMillis n).seconds.toNat = n.toNat / 1000 := UInt64.toNat_div n 1000
  rw [totalNanos, seconds, nanos]
  omega

end Duration

/-- Milliseconds in 64 bits are waited for as they are, or for as long as 32 bits can say. -/
theorem toNat_timeout_ofMillis (n : UInt64) :
    (Duration.ofMillis n).timeout.toNat = min n.toNat (UInt32.size - 1) := by
  rw [Duration.toNat_timeout, Duration.totalNanos_ofMillis, Nat.mul_div_cancel _ (by decide)]

/-- **An engine waits for the whole milliseconds of a duration, as far as 32 bits can say.** The one
call that getting a message makes has the number of whole milliseconds, or the greatest number in
32 bits if that is less. The milliseconds are counted in 128 bits, where neither the product nor the
sum overflows. So a longer duration is no shorter timeout, a timeout is zero for less than a
millisecond and the greatest one from as many milliseconds on, it is never longer than the duration,
and as long as the milliseconds fit it leaves out less than one of them. A number of milliseconds in
64 bits is told as it is, or as the greatest number. -/
theorem getMessage_waits_wholeMillis {σ : Type} (E : Engine σ) (i : Instance) (s : Session σ)
    (d : Duration) :
    (i.getMessage E d s).trace.calls = [.getMessage i.context.number i.context.handle d.timeout
      (E.getMessage i.context.handle d.timeout s.engine).1] ∧
    d.timeout.toNat = min (d.totalNanos / 1000000) (UInt32.size - 1) ∧
    (¬ d.wideSeconds.umulOverflow 1000 ∧ ¬ (d.wideSeconds * 1000).uaddOverflow d.wideRest ∧
      d.wideMillis.toNat = d.totalNanos / 1000000) ∧
    (∀ d', d ≤ d' → d.timeout ≤ d'.timeout) ∧
    (d.timeout = 0 ↔ d.totalNanos < 1000000) ∧
    (d.timeout.toNat = UInt32.size - 1 ↔ (UInt32.size - 1) * 1000000 ≤ d.totalNanos) ∧
    d.timeout.toNat * 1000000 ≤ d.totalNanos ∧
    (d.totalNanos < UInt32.size * 1000000 → d.totalNanos < (d.timeout.toNat + 1) * 1000000) ∧
    ∀ n : UInt64, (Duration.ofMillis n).timeout.toNat = min n.toNat (UInt32.size - 1) := by
  have wide : d.wideMillis.toNat = d.totalNanos / 1000000 :=
    d.toNat_wideMillis.trans d.millis_eq
  exact ⟨(i.getMessage_calls s d).1, d.toNat_timeout,
    ⟨d.not_umulOverflow_wideSeconds, d.not_uaddOverflow_wideRest, wide⟩,
    fun d' => Duration.timeout_mono, Duration.timeout_eq_zero_iff,
    Duration.timeout_eq_greatest_iff, Duration.timeout_mul_le, Duration.lt_timeout_add_one_mul,
    toNat_timeout_ofMillis⟩

/-- The longest duration whose milliseconds fit leaves out almost one. A millisecond more does not
make the timeout wrap. -/
theorem getMessage_waits_at_limit :
    let s := ((History.start {}).run Trial.engine [.operation (.initialise "one" 33 "sip")]).session
    let i : Instance := ⟨⟨0, 16, 33⟩⟩
    let longest : Duration := ⟨4294967, 295999999, by decide⟩
    let longer : Duration := ⟨4294967, 296999999, by decide⟩
    (i.getMessage Trial.engine longer s).trace.calls = [.getMessage 0 16 4294967295 0] ∧
      (longest ≤ longer ∧ longest.timeout ≤ longer.timeout) ∧
      (longest.totalNanos < UInt32.size * 1000000 ∧
        longest.totalNanos < (longest.timeout.toNat + 1) * 1000000) ∧
      (Duration.ofMillis 18446744073709551615).timeout.toNat = 4294967295 := by
  intro s i longest longer
  have more : longest ≤ longer := by decide
  have fits : longest.totalNanos < UInt32.size * 1000000 := by decide
  obtain ⟨calls, -⟩ := getMessage_waits_wholeMillis Trial.engine i s longer
  obtain ⟨-, -, -, mono, -, -, -, short, millis⟩ :=
    getMessage_waits_wholeMillis Trial.engine i s longest
  refine ⟨calls.trans (by decide), ⟨more, mono longer more⟩, ⟨fits, short fits⟩, ?_⟩
  exact (millis 18446744073709551615).trans (by decide)

end Switchboard
