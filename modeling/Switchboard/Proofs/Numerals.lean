import Switchboard.Text.Numeral

/-!
# Numerals and numbers

The numerals of this library are those of the standard library (`digits_eq_toDigits`,
`decimal_eq_toString`), and a numeral reads back as the number that it was written for
(`decimal?_digits`).
-/

namespace Switchboard.Numeral

/-! ## Writing -/

theorem digitChar_eq {d : Nat} (h : d < 16) : digitChar d = Nat.digitChar d := by
  revert d
  decide

theorem digits_of_lt {base n : Nat} (h : n < base) : digits base n = [digitChar n] := by
  rw [digits, dif_neg (by omega)]

theorem digits_of_le {base n : Nat} (hb : 2 ≤ base) (h : base ≤ n) :
    digits base n = digits base (n / base) ++ [digitChar (n % base)] := by
  rw [digits, dif_pos ⟨hb, h⟩]

theorem digits_eq_toDigits {base : Nat} (hb : 2 ≤ base) (hb' : base ≤ 16) (n : Nat) :
    digits base n = Nat.toDigits base n := by
  induction n using Nat.strongRecOn with
  | ind n ih =>
    rw [Nat.toDigits_eq_if hb]
    by_cases h : n < base
    · rw [if_pos h, digits_of_lt h, digitChar_eq (by omega)]
    · have hn : n / base < n := Nat.div_lt_self (by omega) hb
      have hm : n % base < base := Nat.mod_lt n (by omega)
      rw [if_neg h, digits_of_le hb (by omega), ih _ hn, digitChar_eq (by omega)]

theorem decimal_eq_toString (n : Nat) : decimal n = toString n := by
  rw [decimal, digits_eq_toDigits (by decide) (by decide), Nat.toString_eq_ofList_toDigits]

theorem digits_ne_nil (base n : Nat) : digits base n ≠ [] := by
  rw [digits]
  split <;> simp

theorem isDigit_of_mem_digits {n : Nat} {c : Char} (h : c ∈ digits 10 n) : c.isDigit := by
  rw [digits_eq_toDigits (by decide) (by decide)] at h
  exact Nat.isDigit_of_mem_toDigits (by decide) (by decide) h

/-- A numeral begins with a digit. -/
theorem exists_digits_eq_cons (n : Nat) : ∃ c cs, digits 10 n = c :: cs ∧ c.isDigit := by
  obtain ⟨c, cs, hc⟩ := List.exists_cons_of_ne_nil (digits_ne_nil 10 n)
  exact ⟨c, cs, hc, isDigit_of_mem_digits (hc ▸ List.mem_cons_self)⟩

/-- The numeral of a number above zero does not begin with a zero. -/
theorem digits_head_ne_zero {n : Nat} (h : 0 < n) : (digits 10 n).head? ≠ some '0' := by
  induction n using Nat.strongRecOn with
  | ind n ih =>
    by_cases hn : n < 10
    · rw [digits_of_lt hn, digitChar_eq (by omega), List.head?_cons]
      intro he
      have := Nat.digitChar_eq_zero.1 (Option.some.inj he)
      omega
    · obtain ⟨c, cs, hc⟩ := List.exists_cons_of_ne_nil (digits_ne_nil 10 (n / 10))
      have hi := ih (n / 10) (by omega) (by omega)
      rw [hc] at hi
      rw [digits_of_le (by decide) (by omega), hc]
      exact hi

/-- A leading zero stands alone. -/
theorem eq_nil_of_digits_eq_zero_cons {n : Nat} {cs : List Char} (h : digits 10 n = '0' :: cs) :
    cs = [] := by
  rcases Nat.eq_zero_or_pos n with rfl | hn
  · rw [digits_of_lt (by decide)] at h
    exact (List.cons.inj h).2.symm
  · exact absurd (congrArg List.head? h) (digits_head_ne_zero hn)

/-! ## Reading -/

/-- The value of a decimal digit, for characters that are one. -/
def digitValue (c : Char) : Nat :=
  c.toNat - '0'.toNat

theorem isDigit_iff {c : Char} : c.isDigit ↔ '0' ≤ c ∧ c ≤ '9' := by
  rw [Char.isDigit_iff_toNat, Char.le_def, Char.le_def, UInt32.le_iff_toNat_le,
    UInt32.le_iff_toNat_le]
  rfl

/-- Only the digit zero counts nothing. -/
theorem eq_zero_of_digitValue {c : Char} (h : c.isDigit) (hv : digitValue c = 0) : c = '0' := by
  rw [Char.isDigit_iff_toNat] at h
  rw [digitValue] at hv
  exact Char.toNat_inj.1 (by omega)

theorem digit?_of_isDigit {c : Char} (h : c.isDigit) : digit? c = some (digitValue c) :=
  if_pos (isDigit_iff.1 h)

theorem digit?_of_not_isDigit {c : Char} (h : ¬ c.isDigit) : digit? c = none :=
  if_neg fun hc => h (isDigit_iff.2 hc)

theorem readFrom_eq {cs : List Char} (h : ∀ c ∈ cs, c.isDigit) (n : Nat) :
    readFrom n cs = some (Nat.ofDigitChars 10 cs n) := by
  induction cs generalizing n with
  | nil => rfl
  | cons c cs ih =>
    obtain ⟨hc, hcs⟩ := List.forall_mem_cons.1 h
    simp only [readFrom, digit?_of_isDigit hc, ih hcs, Nat.ofDigitChars_cons, digitValue,
      Nat.mul_comm]

/-- The numeral of a number reads back as the number. -/
theorem decimal?_digits (n : Nat) : decimal? (digits 10 n) = some n := by
  obtain ⟨c, cs, hc⟩ := List.exists_cons_of_ne_nil (digits_ne_nil 10 n)
  have h : readFrom 0 (digits 10 n) = some (Nat.ofDigitChars 10 (digits 10 n) 0) :=
    readFrom_eq (fun c hc => isDigit_of_mem_digits hc) 0
  rw [hc, decimal?, ← hc, h, digits_eq_toDigits (by decide) (by decide),
    Nat.ofDigitChars_ten_toDigits]

/-- The digits at the beginning of a text are split off, up to the first other character. -/
theorem spanDigits_append {ds rest : List Char} (hd : ∀ c ∈ ds, c.isDigit)
    (hr : ∀ c ∈ rest.head?, ¬ c.isDigit) :
    spanDigits (ds ++ rest) = (ds.map digitValue, rest) := by
  induction ds with
  | nil =>
    cases rest with
    | nil => rfl
    | cons c rest =>
      simp only [List.nil_append, spanDigits, digit?_of_not_isDigit (hr c rfl), List.map_nil]
  | cons d ds ih =>
    obtain ⟨h, hds⟩ := List.forall_mem_cons.1 hd
    simp only [List.cons_append, spanDigits, digit?_of_isDigit h, ih hds, List.map_cons]

end Switchboard.Numeral
