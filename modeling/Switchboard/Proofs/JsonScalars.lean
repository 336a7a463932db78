import Mathlib.Data.List.Forall2
import Switchboard.Json.Printer
import Switchboard.Json.Skip
import Switchboard.Proofs.Numerals

/-!
# Texts of strings and numbers

A reading function takes a value off the beginning of a text and leaves the rest. `Reads read t x`
says that it takes `x` off at `t` and leaves whatever comes after, as long as the value is over
there (`Ends`). Here are the scalars. A string has many texts, since each character may stand for
itself or for one of its escapes (`Spells`, `Quotes`); each of them is read as the string, and the
written one is among them (`quotes_printString`). What is read as a number when nothing comes after
it is read as this number before the end of a value (`number_append`). Either can be passed over as
well.
-/

namespace Switchboard.Json

variable {s t rest : List Char}

/-- What may come after a value: nothing, a blank, a comma or a closing bracket. -/
def Ends (rest : List Char) : Prop :=
  ∀ c ∈ rest.head?, isBlank c ∨ c = ',' ∨ c = ']' ∨ c = '\x7D'

/-- A function reads a text as `x`, and leaves what comes after it. -/
def Reads {α : Type} (read : List Char → Except Error (α × List Char)) (text : List Char) (x : α) :
    Prop :=
  ∀ rest, Ends rest → read (text ++ rest) = .ok (x, rest)

/-- What is read goes on to the next step. -/
theorem ok_bind {α β : Type} (x : α) (f : α → Except Error β) : (Except.ok x >>= f) = f x := rfl

/-! ## Strings -/

/-- A text stands for a character inside a string: as itself, or as an escape. -/
inductive Spells : List Char → Char → Prop
  | plain {c : Char} (hq : c ≠ '\x22') (hb : c ≠ '\\') (h : 0x20 ≤ c.toNat) : Spells [c] c
  | letter {l c : Char} (h : letterEscape? l = some c) : Spells ['\\', l] c
  | unicode {ds : List Char} {n : Nat} (hd : fourDigits ds = .ok (n, []))
      (h : n < 0xD800 ∨ 0xDFFF < n) : Spells ('\\' :: 'u' :: ds) (Char.ofNat n)
  /-- Two surrogates make one character. -/
  | pair {ds es : List Char} {high low : Nat} (hd : fourDigits ds = .ok (high, []))
      (he : fourDigits es = .ok (low, [])) (hh : 0xD800 ≤ high ∧ high ≤ 0xDBFF)
      (hl : 0xDC00 ≤ low ∧ low ≤ 0xDFFF) :
      Spells ('\\' :: 'u' :: (ds ++ '\\' :: 'u' :: es))
        (Char.ofNat (0x10000 + (high - 0xD800) * 0x400 + (low - 0xDC00)))

/-- A text between quotes stands for a string. -/
def Quotes (t : List Char) (s : String) : Prop :=
  ∃ pieces, List.Forall₂ Spells pieces s.toList ∧ t = '\x22' :: (pieces.flatten ++ ['\x22'])

theorem fourDigits_append {n : Nat} (h : fourDigits s = .ok (n, [])) (rest : List Char) :
    s.length = 4 ∧ fourDigits (s ++ rest) = .ok (n, rest) := by
  unfold fourDigits at h
  split at h
  · split at h <;> cases h
    next ha hb hc hd => exact ⟨rfl, by simp [fourDigits, ha, hb, hc, hd]⟩
  · split at h <;> cases h

theorem escape_unicode {n : Nat} (hd : fourDigits s = .ok (n, [])) (h : n < 0xD800 ∨ 0xDFFF < n)
    (rest : List Char) : escape ('u' :: (s ++ rest)) = .ok (Char.ofNat n, rest) := by
  simp only [escape, unicodeEscape, (fourDigits_append hd rest).2, ok_bind]
  rw [if_neg (by omega), if_neg (by omega)]

theorem escape_pair {high low : Nat} (hd : fourDigits s = .ok (high, []))
    (he : fourDigits t = .ok (low, [])) (hh : 0xD800 ≤ high ∧ high ≤ 0xDBFF)
    (hl : 0xDC00 ≤ low ∧ low ≤ 0xDFFF) (rest : List Char) :
    escape ('u' :: (s ++ '\\' :: 'u' :: (t ++ rest))) =
      .ok (Char.ofNat (0x10000 + (high - 0xD800) * 0x400 + (low - 0xDC00)), rest) := by
  simp only [escape, unicodeEscape, (fourDigits_append hd _).2, ok_bind]
  rw [if_neg (by omega), if_pos hh, secondSurrogate]
  simp only [(fourDigits_append he rest).2, ok_bind, if_pos hl]

theorem escape_letter {l c : Char} (h : letterEscape? l = some c) (rest : List Char) :
    escape (l :: rest) = .ok (c, rest) ∧ passEscape (l :: rest) = .ok rest := by
  have hu : ∀ u, l :: rest ≠ 'u' :: u := by
    rintro u ⟨rfl⟩
    cases h
  constructor
  · rw [escape]
    · simp only [h]
    · exact fun hl => hu rest (congrArg (· :: rest) hl)
  · rw [passEscape, h, Option.isSome_some, if_pos rfl]
    exact fun hl => hu rest (congrArg (· :: rest) hl)

theorem stringChars_escape {d : Char} (h : escape s = .ok (d, t))
    (hl : t.length ≤ s.length) :
    stringChars ('\\' :: s) = (stringChars t).map fun x => (d :: x.1, x.2) := by
  rw [stringChars, if_neg (by decide), if_pos rfl, h]
  simp only [dif_pos hl]
  cases stringChars t <;> rfl

theorem stringChars_plain {c : Char} (hq : c ≠ '\x22') (hb : c ≠ '\\') (h : 0x20 ≤ c.toNat) :
    stringChars (c :: t) = (stringChars t).map fun x => (c :: x.1, x.2) := by
  rw [stringChars, if_neg hq, if_neg hb, if_neg (Nat.not_lt.2 h)]
  cases stringChars t <;> rfl

theorem passString_escape (h : passEscape s = .ok t) (hl : t.length ≤ s.length) :
    passString ('\\' :: s) = passString t := by
  rw [passString, if_neg (by decide), if_pos rfl, h]
  exact dif_pos hl

theorem passString_unicode {n : Nat} (hd : fourDigits s = .ok (n, [])) (rest : List Char) :
    passString ('\\' :: 'u' :: (s ++ rest)) = passString rest := by
  refine passString_escape ?_ (by simp; omega)
  simp only [passEscape, (fourDigits_append hd rest).2, ok_bind]

/-- A character is read from its spelling, and the spelling is passed over. -/
theorem Spells.append {c : Char} (h : Spells s c) (t : List Char) :
    stringChars (s ++ t) = (stringChars t).map (fun x => (c :: x.1, x.2)) ∧
      passString (s ++ t) = passString t := by
  cases h with
  | plain hq hb h =>
    refine ⟨stringChars_plain hq hb h, ?_⟩
    rw [List.cons_append, List.nil_append, passString, if_neg hq, if_neg hb,
      if_neg (Nat.not_lt.2 h)]
  | letter h =>
    obtain ⟨he, hp⟩ := escape_letter h t
    exact ⟨stringChars_escape he (Nat.le_succ _), passString_escape hp (Nat.le_succ _)⟩
  | unicode hd h =>
    have he := escape_unicode hd h t
    exact ⟨stringChars_escape he (by simp; omega), passString_unicode hd t⟩
  | pair hd he hh hl =>
    have hp := escape_pair hd he hh hl t
    simp only [List.cons_append, List.append_assoc]
    refine ⟨stringChars_escape hp (by simp; omega), ?_⟩
    rw [passString_unicode hd, passString_unicode he]

/-- A string is read from its text, and the text is passed over, from after the opening quote. -/
theorem Quotes.append {x : String} (h : Quotes t x) (rest : List Char) :
    ∃ u, t ++ rest = '\x22' :: u ∧ string u = .ok (x, rest) ∧ passString u = .ok rest := by
  obtain ⟨pieces, hs, rfl⟩ := h
  refine ⟨pieces.flatten ++ '\x22' :: rest, by simp, ?_⟩
  suffices hc : stringChars (pieces.flatten ++ '\x22' :: rest) = .ok (x.toList, rest) ∧
      passString (pieces.flatten ++ '\x22' :: rest) = .ok rest by
    refine ⟨?_, hc.2⟩
    simp only [string, hc.1, ok_bind, String.ofList_toList]
  generalize x.toList = cs at hs ⊢
  induction hs with
  | nil =>
    rw [List.flatten_nil, List.nil_append, stringChars, passString, if_pos rfl, if_pos rfl]
    exact ⟨rfl, rfl⟩
  | cons h _ ih =>
    obtain ⟨hr, hp⟩ := h.append _
    rw [List.flatten_cons, List.append_assoc, hr, hp, ih.1, ih.2]
    exact ⟨rfl, rfl⟩

theorem hexDigit?_digitChar {d : Nat} (h : d < 16) :
    Numeral.hexDigit? (Numeral.digitChar d) = some d := by
  revert d
  decide

/-- A number below 256 has two hexadecimal digits. -/
theorem padded_four {n : Nat} (h : n < 256) : Numeral.padded 4 (Numeral.digits 16 n) =
    ['0', '0', Numeral.digitChar (n / 16), Numeral.digitChar (n % 16)] := by
  by_cases hn : n < 16
  · rw [Numeral.digits_of_lt hn, Nat.div_eq_of_lt hn, Nat.mod_eq_of_lt hn]
    rfl
  · rw [Numeral.digits_of_le (by decide) (by omega), Numeral.digits_of_lt (by omega)]
    rfl

/-- A written character stands for itself, or is one of its escapes. -/
theorem spells_escapeChar (c : Char) : Spells (escapeChar c) c := by
  unfold escapeChar
  -- the seven escapes of one letter
  iterate 7
    split
    · next h =>
      subst h
      exact .letter rfl
  split
  · next h =>
    have h₀ : Numeral.hexDigit? '0' = some 0 := rfl
    have hd : fourDigits (Numeral.padded 4 (Numeral.digits 16 c.toNat)) = .ok (c.toNat, []) := by
      rw [padded_four (by omega)]
      simp only [fourDigits, h₀, hexDigit?_digitChar (d := c.toNat / 16) (by omega),
        hexDigit?_digitChar (d := c.toNat % 16) (by omega)]
      congr 2
      omega
    have hs := Spells.unicode hd (.inl (by omega))
    rwa [Char.ofNat_toNat] at hs
  · next hq hb _ _ _ _ _ h => exact .plain hq hb (Nat.not_lt.1 h)

/-- A written string stands for the string. -/
theorem quotes_printString (s : String) : Quotes (printString s) s := by
  refine ⟨s.toList.map escapeChar, ?_, by simp [printString, List.flatMap_def]⟩
  rw [List.forall₂_map_left_iff, List.forall₂_same]
  exact fun c _ => spells_escapeChar c

/-- A written string is read back, from after its opening quote. -/
theorem string_printString (s : String) (rest : List Char) :
    string (printString s ++ rest).tail = .ok (s, rest) := by
  obtain ⟨u, hu, hr, -⟩ := (quotes_printString s).append rest
  rw [hu]
  exact hr

/-! ## Numbers -/

/-- No digit, point or exponent stands where a value is over. -/
theorem Ends.head (h : Ends rest) {c : Char} (hc : c ∈ rest.head?) :
    ¬ c.isDigit ∧ c ≠ '.' ∧ c ≠ 'e' ∧ c ≠ 'E' := by
  have hb := h c hc
  simp only [isBlank, Bool.or_eq_true, beq_iff_eq] at hb
  rcases hb with (((rfl | rfl) | rfl) | rfl) | rfl | rfl | rfl <;> decide

/-- Nothing is a digit where a value is over. -/
theorem spanDigits_of_ends {ds : List Nat} (h : Numeral.spanDigits s = (ds, t)) (he : Ends rest) :
    Numeral.spanDigits (s ++ rest) = (ds, t ++ rest) := by
  induction s generalizing ds with
  | nil =>
    obtain ⟨rfl, rfl⟩ := Prod.mk.inj h
    exact Numeral.spanDigits_append (List.forall_mem_nil _) fun c hc => (he.head hc).1
  | cons c s ih =>
    cases hd : Numeral.digit? c with
    | none =>
      simp only [Numeral.spanDigits, hd, Prod.mk.injEq] at h
      obtain ⟨rfl, rfl⟩ := h
      simp only [List.cons_append, Numeral.spanDigits, hd]
    | some d =>
      simp only [Numeral.spanDigits, hd, Prod.mk.injEq] at h
      obtain ⟨rfl, rfl⟩ := h
      simp only [List.cons_append, Numeral.spanDigits, hd, ih rfl]

theorem exponentSign_append (hs : s ≠ []) (rest : List Char) :
    exponentSign (s ++ rest) = ((exponentSign s).1, (exponentSign s).2 ++ rest) := by
  obtain ⟨c, s, rfl⟩ := List.exists_cons_of_ne_nil hs
  unfold exponentSign
  split <;> simp_all

/-- A real number is read at the end of a text if it is read at all. -/
theorem realNumber_bind_eq {positive : Bool} {significand : Nat} {place : Int} {n : Number}
    (h : (realNumber positive significand place >>= fun n => .ok (n, s)) = .ok (n, t)) :
    s = t ∧ realNumber positive significand place = .ok n := by
  cases hr : realNumber positive significand place with
  | error e =>
    rw [hr] at h
    cases h
  | ok m =>
    rw [hr] at h
    cases h
    exact ⟨rfl, rfl⟩

/-- What is an exponent to its end is read before the end of a value, and passed over. -/
theorem exponent_append {positive : Bool} {significand : Nat} {place : Int} {n : Number}
    (h : exponent positive significand place s = .ok (n, [])) (he : Ends rest) :
    exponent positive significand place (s ++ rest) = .ok (n, rest) ∧
      passExponent (s ++ rest) = .ok rest := by
  have hs : s ≠ [] := by
    rintro rfl
    cases h
  rcases hd : Numeral.spanDigits (exponentSign s).2 with ⟨ds, r⟩
  have hda := spanDigits_of_ends hd he
  unfold exponent at h
  unfold exponent passExponent
  simp only [exponentSign_append hs, hda]
  simp only [hd] at h
  rcases hu : (exponentSign s).2 with - | ⟨c, u⟩
  · rw [hu] at h
    cases h
  rw [hu] at h
  cases ds with
  | nil => cases h
  | cons d ds =>
    obtain ⟨rfl, hr⟩ := realNumber_bind_eq h
    simp only [List.cons_append, List.nil_append, hr, ok_bind, and_self]

theorem Ends.ne_cons (he : Ends rest) (u : List Char) :
    rest ≠ '.' :: u ∧ rest ≠ 'e' :: u ∧ rest ≠ 'E' :: u := by
  refine ⟨?_, ?_, ?_⟩ <;> rintro rfl
  · exact (he.head rfl).2.1 rfl
  · exact (he.head rfl).2.2.1 rfl
  · exact (he.head rfl).2.2.2 rfl

/-- What is a fraction to its end is read before the end of a value, and passed over. -/
theorem fraction_append {positive : Bool} {significand : Nat} {place : Int} {n : Number}
    (h : fraction positive significand place s = .ok (n, [])) (he : Ends rest) :
    fraction positive significand place (s ++ rest) = .ok (n, rest) ∧
      passNumber ('0' :: '.' :: (s ++ rest)) = .ok rest := by
  have h₀ : Numeral.spanDigits ('0' :: '.' :: (s ++ rest)) = ([0], '.' :: (s ++ rest)) := rfl
  rcases hd : Numeral.spanDigits s with ⟨ds, r⟩
  have hda := spanDigits_of_ends hd he
  unfold fraction at h
  unfold fraction passNumber
  simp only [h₀, hda]
  simp only [hd] at h
  rcases ds with - | ⟨d, ds⟩
  · cases r <;> cases h
  dsimp only at h
  split at h
  · exact exponent_append h he
  · exact exponent_append h he
  · obtain ⟨rfl, hr⟩ := realNumber_bind_eq h
    simp only [List.nil_append, hr, ok_bind, he.ne_cons, imp_self, implies_true, and_self]

/-- What is a number without sign to its end is read before the end of a value, and passed over. -/
theorem unsignedNumber_append {positive : Bool} {n : Number}
    (h : unsignedNumber positive s = .ok (n, [])) (he : Ends rest) :
    unsignedNumber positive (s ++ rest) = .ok (n, rest) ∧ passNumber (s ++ rest) = .ok rest := by
  rcases s with - | ⟨c, s⟩
  · cases h
  rcases hd : Numeral.spanDigits (c :: s) with ⟨ds, r⟩
  have hda := spanDigits_of_ends hd he
  unfold unsignedNumber at h
  unfold unsignedNumber passNumber
  rw [hda]
  rw [hd] at h
  dsimp only [List.cons_append] at h ⊢
  split at h
  · cases h
  · cases h
  · cases h
  · next hn _ =>
    obtain ⟨rfl, rfl⟩ := Prod.mk.inj hn
    unfold afterWhole at h
    split at h
    · obtain ⟨hr, hp⟩ := fraction_append h he
      simp only [afterWhole, List.cons_append, hr, true_and]
      exact hp
    · obtain ⟨hr, hp⟩ := exponent_append h he
      simp only [afterWhole, List.cons_append, hr, hp, and_self]
    · obtain ⟨hr, hp⟩ := exponent_append h he
      simp only [afterWhole, List.cons_append, hr, hp, and_self]
    · obtain ⟨rfl, hr⟩ : r = [] ∧ afterWhole positive (gather 0 ds).1 (gather 0 ds).2 rest =
          .ok (n, rest) := by
        simp only [afterWhole, he.ne_cons, imp_self, implies_true]
        split at h
        · cases h
          exact ⟨rfl, if_pos ‹_›⟩
        · obtain ⟨rfl, hr⟩ := realNumber_bind_eq h
          refine ⟨rfl, ?_⟩
          rw [if_neg ‹_›, hr, ok_bind]
      simp only [List.nil_append, he.ne_cons, imp_self, implies_true, hr, and_self]

theorem unsignedNumber_head {positive : Bool} {n : Number}
    (h : unsignedNumber positive s = .ok (n, t)) : ∃ c u, s = c :: u ∧ c.isDigit := by
  rcases s with - | ⟨c, u⟩
  · cases h
  refine ⟨c, u, rfl, ?_⟩
  by_contra hc
  simp only [unsignedNumber, Numeral.spanDigits, Numeral.digit?_of_not_isDigit hc] at h
  cases h

/-- A number begins with its sign or with a digit. -/
theorem number_head {n : Number} (h : number s = .ok (n, t)) :
    ∃ c u, s = c :: u ∧ (c = '-' ∨ c.isDigit) := by
  unfold number at h
  split at h
  · exact ⟨_, _, rfl, .inl rfl⟩
  · obtain ⟨c, u, hs, hc⟩ := unsignedNumber_head h
    exact ⟨c, u, hs, .inr hc⟩

theorem passScalar_digit {c : Char} (h : c.isDigit) (s : List Char) :
    passScalar (c :: s) = (passNumber (c :: s)).map fun rest => (none, rest) := by
  have hd : (Numeral.digit? c).isSome := by
    rw [Numeral.digit?_of_isDigit h]
    rfl
  have hn : ∀ d, ¬ d.isDigit → c ≠ d := by
    rintro d hd rfl
    exact hd h
  rw [passScalar.eq_def]
  split
  · next h => cases h
  iterate 7
    · next hl => exact absurd (List.cons.inj hl).1 (hn _ (by decide))
  · next hl =>
    obtain ⟨rfl, rfl⟩ := List.cons.inj hl
    exact if_pos hd

/-- What is a number to its end is read before the end of a value, and passed over. -/
theorem number_append {n : Number} (h : number t = .ok (n, [])) (he : Ends rest) :
    number (t ++ rest) = .ok (n, rest) ∧ passScalar (t ++ rest) = .ok (none, rest) := by
  unfold number at h
  split at h
  · obtain ⟨hr, hp⟩ := unsignedNumber_append h he
    simp only [List.cons_append, number, passScalar, hr, hp, Except.map, and_self]
  · obtain ⟨c, u, rfl, hc⟩ := unsignedNumber_head h
    obtain ⟨hr, hp⟩ := unsignedNumber_append h he
    rw [List.cons_append] at hr hp ⊢
    rw [passScalar_digit hc, hp, number, hr]
    · exact ⟨rfl, rfl⟩
    · rintro v ⟨rfl⟩
      exact absurd hc (by decide)

theorem le_ofDigitChars (cs : List Char) (m : Nat) : m ≤ Nat.ofDigitChars 10 cs m := by
  induction cs generalizing m with
  | nil => exact Nat.le_refl m
  | cons c cs ih =>
    rw [Nat.ofDigitChars_cons]
    exact Nat.le_trans (by omega) (ih _)

/-- Digits that fit are all gathered. -/
theorem gather_digits {cs : List Char} {m : Nat} (h : Nat.ofDigitChars 10 cs m < UInt64.size) :
    gather m (cs.map Numeral.digitValue) = (Nat.ofDigitChars 10 cs m, 0) := by
  induction cs generalizing m with
  | nil => rfl
  | cons c cs ih =>
    rw [Nat.ofDigitChars_cons, Nat.mul_comm] at h ⊢
    rw [List.map_cons, gather, Numeral.digitValue, if_pos, ih h]
    exact Nat.lt_of_le_of_lt (le_ofDigitChars cs _) h

/-- A numeral that fits is read, whatever its sign. -/
theorem unsignedNumber_digits (positive : Bool) {n : Nat} (hn : n < UInt64.size) :
    unsignedNumber positive (Numeral.digits 10 n) = .ok (wholeNumber positive n, []) := by
  have hd : ∀ c ∈ Numeral.digits 10 n, c.isDigit := fun c => Numeral.isDigit_of_mem_digits
  have hn₀ : ∀ c ∈ [].head?, ¬ Char.isDigit c := nofun
  have hs := Numeral.spanDigits_append hd hn₀
  rw [List.append_nil] at hs
  have hv : Nat.ofDigitChars 10 (Numeral.digits 10 n) 0 = n := by
    rw [Numeral.digits_eq_toDigits (by decide) (by decide), Nat.ofDigitChars_ten_toDigits]
  have hg := gather_digits (hv.symm ▸ hn)
  rw [hv] at hg
  obtain ⟨c, cs, hc, hi⟩ := Numeral.exists_digits_eq_cons n
  rw [hc] at hs hg ⊢
  simp only [unsignedNumber, hs]
  split
  · next h => cases h
  · next h _ => cases h
  · next h _ =>
    -- a leading zero would stand alone
    obtain ⟨h₀, hcs⟩ := List.cons.inj (Prod.mk.inj h).1
    obtain rfl := Numeral.eq_zero_of_digitValue hi h₀
    rw [Numeral.eq_nil_of_digits_eq_zero_cons hc] at hcs
    cases hcs
  · next h _ =>
    obtain ⟨rfl, rfl⟩ := Prod.mk.inj h
    rw [hg]
    rfl

/-- The numeral of a number below `2 ^ 64` is read. -/
theorem number_digits {n : Nat} (hn : n < UInt64.size) :
    number (Numeral.digits 10 n) = .ok (.natural (UInt64.ofNat n), []) := by
  obtain ⟨c, cs, hc, hi⟩ := Numeral.exists_digits_eq_cons n
  have hd : c ≠ '-' := by
    rintro rfl
    exact absurd hi (by decide)
  have hr := unsignedNumber_digits true hn
  rw [hc] at hr ⊢
  rw [number, hr]
  · rfl
  · exact fun s he => hd (List.cons.inj he).1

/-! ## Literals -/

theorem literal_append (cs rest : List Char) : literal cs (cs ++ rest) = .ok rest := by
  induction cs with
  | nil => rfl
  | cons c cs ih => rw [List.cons_append, literal, if_pos rfl, ih]

end Switchboard.Json
