import Mathlib.Data.Nat.Bitwise
import Switchboard.CallEnd

/-!
# Codes of the ends of calls

Without its low byte a code is a multiple of 256, so the test on the upper bytes singles out one
block of 256 codes (`high_eq_q931Base_iff`). The named reasons stand in the order of their codes,
and all of them below the block (`getElem?_named_iff`). So decoding undoes encoding, and a reason
that was decoded encodes to the code it came from (`ofCode?_eq_some_iff`).
-/

namespace Switchboard.CallEnd

variable {w : UInt32} {r : CallEnd} {cause : UInt8}

/-! ## The bytes of a code -/

theorem toNat_low (w : UInt32) : (w &&& 0xff).toNat = w.toNat % 256 := by
  rw [UInt32.toNat_and]
  exact Nat.and_two_pow_sub_one_eq_mod w.toNat 8

theorem toNat_high (w : UInt32) : (w &&& ~~~0xff).toNat = w.toNat / 2 ^ 8 * 2 ^ 8 := by
  have mask : (~~~0xff : UInt32).toNat = (2 ^ 24 - 1) * 2 ^ 8 := rfl
  rw [UInt32.toNat_and, mask]
  refine Nat.eq_of_testBit_eq fun i => ?_
  rw [Nat.testBit_and, Nat.testBit_mul_two_pow, Nat.testBit_two_pow_sub_one,
    Nat.testBit_mul_two_pow, Nat.testBit_div_two_pow]
  -- the bits of the low byte, the other bits of the code, and those that it does not have
  rcases Nat.lt_or_ge i 8 with low | high
  · simp [Nat.not_le.2 low]
  rw [Nat.sub_add_cancel high]
  rcases Nat.lt_or_ge i 32 with inside | outside
  · have hi : i - 8 < 24 := by omega
    simp [high, hi]
  · have hw : w.toNat < 2 ^ i :=
      Nat.lt_of_lt_of_le w.toNat_lt (Nat.pow_le_pow_right (by decide) outside)
    simp [Nat.testBit_lt_two_pow hw]

/-- The codes with a cause are one block. -/
theorem high_eq_q931Base_iff : w &&& ~~~0xff = q931Base ↔ 0x100 ≤ w ∧ w ≤ 0x1ff := by
  have base : q931Base.toNat = 256 := rfl
  have first : (0x100 : UInt32).toNat = 256 := rfl
  have last : (0x1ff : UInt32).toNat = 511 := rfl
  rw [← UInt32.toNat_inj, toNat_high, base, UInt32.le_iff_toNat_le, UInt32.le_iff_toNat_le, first,
    last]
  omega

theorem toNat_code_withQ931Code (cause : UInt8) :
    (withQ931Code cause).code.toNat = 256 + cause.toNat := by
  rw [code, UInt32.toNat_or, UInt8.toNat_toUInt32]
  exact (Nat.two_pow_add_eq_or_of_lt (i := 8) cause.toNat_lt 1).symm

/-- The code of a cause is its block and the cause. -/
theorem bytes_code_withQ931Code (cause : UInt8) :
    (withQ931Code cause).code &&& ~~~0xff = q931Base ∧
      ((withQ931Code cause).code &&& 0xff).toUInt8 = cause := by
  have hc := toNat_code_withQ931Code cause
  have hlt := cause.toNat_lt
  have base : q931Base.toNat = 256 := rfl
  constructor
  · rw [← UInt32.toNat_inj, toNat_high, hc, base]
    omega
  · rw [← UInt8.toNat_inj, UInt32.toNat_toUInt8, toNat_low, hc]
    omega

/-- A code of the block is the code of its low byte. -/
theorem code_withQ931Code_low (hw : w &&& ~~~0xff = q931Base) :
    (withQ931Code (w &&& 0xff).toUInt8).code = w := by
  have high := congrArg UInt32.toNat hw
  have base : q931Base.toNat = 256 := rfl
  rw [toNat_high, base] at high
  rw [← UInt32.toNat_inj, toNat_code_withQ931Code, UInt32.toNat_toUInt8, toNat_low]
  omega

/-! ## The named reasons -/

/-- A reason is named, or it has a cause. -/
theorem mem_named_or (r : CallEnd) : r ∈ named ∨ ∃ cause, r = withQ931Code cause := by
  cases r with
  | withQ931Code cause => exact .inr ⟨cause, rfl⟩
  | _ => exact .inl (by decide)

/-- The named reasons stand in the order of their codes. -/
theorem map_code_named : named.map (·.code.toNat) = List.range 30 := by
  decide

theorem getElem?_named_iff {n : ℕ} : named[n]? = some r ↔ r ∈ named ∧ r.code.toNat = n := by
  have code_eq {m : ℕ} (h : named[m]? = some r) : r.code.toNat = m := by
    have hm : (named.map (·.code.toNat))[m]? = some r.code.toNat := by
      rw [List.getElem?_map, h]
      rfl
    rw [map_code_named] at hm
    obtain ⟨_, hm⟩ := List.getElem?_eq_some_iff.1 hm
    rw [← hm, List.getElem_range]
  refine ⟨fun h => ⟨List.mem_of_getElem? h, code_eq h⟩, ?_⟩
  rintro ⟨hr, rfl⟩
  obtain ⟨m, hm⟩ := List.mem_iff_getElem?.1 hr
  rwa [code_eq hm]

theorem toNat_code_lt (hr : r ∈ named) : r.code.toNat < 30 := by
  have hm : r.code.toNat ∈ named.map (·.code.toNat) := List.mem_map_of_mem hr
  rwa [map_code_named, List.mem_range] at hm

theorem high_ne_q931Base (hr : r ∈ named) : r.code &&& ~~~0xff ≠ q931Base := by
  intro h
  have first : 256 ≤ r.code.toNat := UInt32.le_iff_toNat_le.1 (high_eq_q931Base_iff.1 h).1
  have := toNat_code_lt hr
  omega

/-! ## Decoding -/

theorem ofCode?_code (r : CallEnd) : ofCode? r.code = some r := by
  rw [ofCode?]
  rcases mem_named_or r with hr | ⟨cause, rfl⟩
  · rw [if_neg (high_ne_q931Base hr)]
    exact getElem?_named_iff.2 ⟨hr, rfl⟩
  · obtain ⟨high, low⟩ := bytes_code_withQ931Code cause
    rw [if_pos high, low]

theorem code_of_ofCode? (h : ofCode? w = some r) : r.code = w := by
  rw [ofCode?] at h
  split at h
  case isTrue hw =>
    cases h
    exact code_withQ931Code_low hw
  case isFalse hw => exact UInt32.toNat_inj.1 (getElem?_named_iff.1 h).2

/-- Decoding gives a reason for its own code and for no other. -/
theorem ofCode_eq_ok_iff : ofCode w = .ok r ↔ r.code = w := by
  have some_iff : ofCode? w = some r ↔ r.code = w :=
    ⟨code_of_ofCode?, fun h => h ▸ ofCode?_code r⟩
  rw [← some_iff, ofCode]
  cases ofCode? w <;> simp

theorem ofCode_of_forall_ne (h : ∀ r : CallEnd, r.code ≠ w) :
    ofCode w = .error (.unknownCallEnd w) := by
  have none : ofCode? w = none :=
    Option.eq_none_iff_forall_ne_some.2 fun r hr => h r (code_of_ofCode? hr)
  rw [ofCode, none]

/-! ## The codes -/

theorem code_le_iff : r.code ≤ 29 ↔ r ∈ named := by
  have last : (29 : UInt32).toNat = 29 := rfl
  rw [UInt32.le_iff_toNat_le, last]
  rcases mem_named_or r with hr | ⟨cause, rfl⟩
  · exact iff_of_true (Nat.le_of_lt_succ (toNat_code_lt hr)) hr
  · refine iff_of_false ?_ fun hr => high_ne_q931Base hr (bytes_code_withQ931Code cause).1
    rw [toNat_code_withQ931Code]
    omega

/-- The codes of reasons are those of the names and those of the causes. -/
theorem exists_code_eq_iff : (∃ r : CallEnd, r.code = w) ↔ w ≤ 29 ∨ 0x100 ≤ w ∧ w ≤ 0x1ff := by
  rw [← high_eq_q931Base_iff]
  constructor
  · rintro ⟨r, rfl⟩
    rcases mem_named_or r with hr | ⟨cause, rfl⟩
    · exact .inl (code_le_iff.2 hr)
    · exact .inr (bytes_code_withQ931Code cause).1
  · rintro (hw | hw)
    · have inside : w.toNat < named.length := Nat.lt_succ_of_le (UInt32.le_iff_toNat_le.1 hw)
      have hr := getElem?_named_iff.1 (List.getElem?_eq_getElem inside)
      exact ⟨named[w.toNat], UInt32.toNat_inj.1 hr.2⟩
    · exact ⟨_, code_withQ931Code_low hw⟩

/-- **Decoding and encoding are inverse to each other.** A code is decoded if it is one of the
thirty of the named reasons or in the block of the causes, and then the reason encodes to it again;
any other code is an error that says which. Every reason is read back from its code. So no two codes
stand for the same reason, and no code of a cause for a named one. -/
theorem ofCode_inverse (w : UInt32) :
    ((∃ r, ofCode w = .ok r) ↔ w ≤ 29 ∨ 0x100 ≤ w ∧ w ≤ 0x1ff) ∧
    (∀ r, ofCode w = .ok r → r.code = w) ∧
    (¬ (w ≤ 29 ∨ 0x100 ≤ w ∧ w ≤ 0x1ff) → ofCode w = .error (.unknownCallEnd w)) ∧
    (∀ r : CallEnd, ofCode r.code = .ok r) ∧
    (∀ r v, ofCode v = .ok r → ofCode w = .ok r → v = w) ∧
    (∀ r, ofCode w = .ok r → (r ∈ named ↔ w ≤ 29) ∧
      ((∃ cause, r = withQ931Code cause) ↔ 0x100 ≤ w ∧ w ≤ 0x1ff)) := by
  simp only [ofCode_eq_ok_iff]
  refine ⟨exists_code_eq_iff, fun r h => h, fun h => ?_, fun r => trivial, ?_, ?_⟩
  · exact ofCode_of_forall_ne fun r hr => h (exists_code_eq_iff.1 ⟨r, hr⟩)
  · rintro r v rfl rfl
    rfl
  · rintro r rfl
    refine ⟨code_le_iff.symm, ?_⟩
    rw [← high_eq_q931Base_iff]
    constructor
    · rintro ⟨cause, rfl⟩
      exact (bytes_code_withQ931Code cause).1
    · intro h
      exact (mem_named_or r).resolve_left fun hr => high_ne_q931Base hr h

end Switchboard.CallEnd
