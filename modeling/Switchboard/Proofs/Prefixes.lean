import Switchboard.Options.ToValue
import Switchboard.Proofs.OptionsTexts

/-!
# Reading prefixes

The words of prefixes are lower-case letters and digits of ASCII, and none is a part of another one.
A character becomes such a letter in lower case only if it is the letter or its capital
(`lowerChar_eq_iff`), so the texts that are read as a prefix are the recasings of its word
(`lower_eq_text_iff`), whatever other characters there are that look like them.
-/

namespace Switchboard.Prefix

variable {c d : Char} {s : String} {p q : Prefix}

/-! ## Lower case -/

/-- What is to be shown of an ASCII character may be checked for each of them. -/
theorem of_ascii {P : Char → Prop} (h : ∀ n < 128, P (Char.ofNat n)) (hc : c.toNat < 128) : P c :=
  c.ofNat_toNat ▸ h c.toNat hc

theorem ascii_of_capital (h : 'A' ≤ c ∧ c ≤ 'Z') : c.toNat < 128 :=
  Nat.lt_of_le_of_lt h.2 (by decide)

theorem lowerChar_eq_toLower (c : Char) : lowerChar c = c.toLower := by
  by_cases h : 'A' ≤ c ∧ c ≤ 'Z'
  · exact of_ascii (P := fun c => lowerChar c = c.toLower) (by decide) (ascii_of_capital h)
  · have no_capital : ¬ (c.val ≥ 'A'.val ∧ c.val ≤ 'Z'.val) := h
    have same : c.toLower = c := dif_neg no_capital
    rw [lowerChar, if_neg h, same]

/-- Lower case is that of the library, which is about ASCII too. -/
theorem lower_eq_toLower (s : String) : lower s = s.toLower := by
  have chars : s.toLower.toList = s.toList.map Char.toLower := String.toList_map
  rw [← String.toList_inj, chars, lower, String.toList_ofList]
  exact List.map_congr_left fun c _ => lowerChar_eq_toLower c

theorem toUpper_lowerChar (h : 'A' ≤ c ∧ c ≤ 'Z') : (lowerChar c).toUpper = c :=
  of_ascii (P := fun c => 'A' ≤ c ∧ c ≤ 'Z' → (lowerChar c).toUpper = c) (by decide)
    (ascii_of_capital h) h

theorem lowerChar_toUpper (hd : d.toNat < 128) : lowerChar d.toUpper = lowerChar d :=
  of_ascii (P := fun d => lowerChar d.toUpper = lowerChar d) (by decide) hd

/-- An ASCII character that is in lower case comes from itself and from its capital only. -/
theorem lowerChar_eq_iff (hd : d.toNat < 128) (h : lowerChar d = d) :
    lowerChar c = d ↔ c = d ∨ c = d.toUpper := by
  constructor
  · rintro rfl
    by_cases hc : 'A' ≤ c ∧ c ≤ 'Z'
    · exact .inr (toUpper_lowerChar hc).symm
    · exact .inl (by rw [lowerChar, if_neg hc])
  · rintro (rfl | rfl)
    · exact h
    · rw [lowerChar_toUpper hd, h]

theorem isAlphanum_toUpper (hd : d.toNat < 128) (h : d.isAlphanum) : d.toUpper.isAlphanum :=
  of_ascii (P := fun d => d.isAlphanum → d.toUpper.isAlphanum) (by decide) hd h

/-! ## Words -/

/-- The words of prefixes are ASCII letters in lower case and digits. -/
theorem of_mem_text (hd : d ∈ p.text.toList) :
    d.toNat < 128 ∧ lowerChar d = d ∧ d.isAlphanum := by
  have all : p.text.toList.all fun d => d.toNat < 128 ∧ lowerChar d = d ∧ d.isAlphanum := by
    cases p <;> decide
  exact of_decide_eq_true (List.all_eq_true.1 all d hd)

/-- The word of a prefix is no part of another one. -/
theorem eq_of_infix (h : p.text.toList <:+: q.text.toList) : p = q := by
  have all_words : ∀ p ∈ all, ∀ q ∈ all, p.text.toList <:+: q.text.toList → p = q := by
    decide +kernel
  exact all_words p (mem_all p) q (mem_all q) h

/-- A text is another one with some of its letters as capitals. -/
def Recases (s t : String) : Prop :=
  List.Forall₂ (fun c d => c = d ∨ c = d.toUpper) s.toList t.toList

/-- Characters in lower case come from themselves with some of them as capitals. -/
theorem map_lowerChar_eq_iff {cs ds : List Char}
    (h : ∀ d ∈ ds, d.toNat < 128 ∧ lowerChar d = d) :
    cs.map lowerChar = ds ↔ List.Forall₂ (fun c d => c = d ∨ c = d.toUpper) cs ds := by
  induction ds generalizing cs with
  | nil => rw [List.map_eq_nil_iff, List.forall₂_nil_right_iff]
  | cons d ds ih =>
    obtain ⟨⟨hd, hl⟩, hds⟩ := List.forall_mem_cons.1 h
    rw [List.map_eq_cons_iff, List.forall₂_cons_right_iff]
    simp only [lowerChar_eq_iff hd hl, ih hds]
    exact ⟨fun ⟨c, cs, eq, hc, hcs⟩ => ⟨c, cs, hc, hcs, eq⟩,
      fun ⟨c, cs, hc, hcs, eq⟩ => ⟨c, cs, eq, hc, hcs⟩⟩

/-- The texts that spell a word in whatever case are its recasings. -/
theorem lower_eq_text_iff : lower s = p.text ↔ Recases s p.text := by
  have small : ∀ d ∈ p.text.toList, d.toNat < 128 ∧ lowerChar d = d := fun d hd =>
    ⟨(of_mem_text hd).1, (of_mem_text hd).2.1⟩
  rw [Recases, ← map_lowerChar_eq_iff small, lower, ← String.toList_inj, String.toList_ofList]

/-- A text that spells a word holds ASCII letters and digits only. -/
theorem isAlphanum_of_lower_eq (h : lower s = p.text) (hc : c ∈ s.toList) : c.isAlphanum := by
  have same : s.toList.map lowerChar = p.text.toList := by
    rw [← h, lower, String.toList_ofList]
  obtain ⟨ascii, small, alphanum⟩ := of_mem_text (same ▸ List.mem_map_of_mem hc)
  obtain eq | eq := (lowerChar_eq_iff ascii small).1 rfl
  · rwa [eq]
  · rw [eq]
    exact isAlphanum_toUpper ascii alphanum

/-- No longer text spells a word around another one. -/
theorem eq_of_lower_append {a b : String} (h : lower s = p.text)
    (more : lower (a ++ s ++ b) = q.text) : a = "" ∧ b = "" := by
  have split : (lower a).toList ++ p.text.toList ++ (lower b).toList = q.text.toList := by
    rw [← more, ← h]
    simp [lower]
  obtain rfl := eq_of_infix ⟨_, _, split⟩
  have lengths := congrArg List.length split
  simp only [List.length_append, lower, String.toList_ofList, List.length_map] at lengths
  constructor
  · exact String.toList_eq_nil_iff.1 (List.eq_nil_of_length_eq_zero (by omega))
  · exact String.toList_eq_nil_iff.1 (List.eq_nil_of_length_eq_zero (by omega))

/-! ## Reading -/

theorem ofText_eq_error_iff {e : Error} :
    ofText s = .error e ↔ e = .unknownPrefix s ∧ ∀ p : Prefix, lower s ≠ p.text := by
  have none : ofText? s = none ↔ ∀ p : Prefix, lower s ≠ p.text := by
    simp only [Option.eq_none_iff_forall_ne_some, ne_eq, ofText?_eq_some_iff]
  rw [← none, ofText]
  cases ofText? s <;> simp [eq_comm]

/-- **A prefix is read from its word in whatever case, and from nothing else.** A text is read as a
prefix if it is the word once its ASCII capitals are in lower case, so at most one prefix fits, and
the texts that are read are the recasings of the words. Any other text is an unknown prefix, and the
error holds it as it is: a text with a character that is no letter or digit of ASCII, and a text
that has more before or after one that is read. In JSON a prefix is read, from a value and from a
text, if there is a string that is read as this prefix; it is written as its word in quotes, which
reads back. -/
theorem ofText_reads_recasings :
    (∀ s p, ofText s = .ok p ↔ s.toLower = p.text) ∧
    (∀ (s : String) (p q : Prefix), s.toLower = p.text → s.toLower = q.text → p = q) ∧
    (∀ s p, ofText s = .ok p ↔ Recases s p.text) ∧
    (∀ s e, ofText s = .error e ↔
      e = .unknownPrefix s ∧ ∀ p : Prefix, s.toLower ≠ p.text) ∧
    (∀ s, ∀ c ∈ s.toList, ¬ c.isAlphanum → ofText s = .error (.unknownPrefix s)) ∧
    (∀ s p a b, ofText s = .ok p → a ++ b ≠ "" →
      ofText (a ++ s ++ b) = .error (.unknownPrefix (a ++ s ++ b))) ∧
    (∀ v p, Options.prefixOfValue v = .ok p ↔ ∃ s, v = .string s ∧ ofText s = .ok p) ∧
    (∀ v t, Json.Writes v t → Json.Gives Options.prefixAt t (Options.prefixOfValue v)) ∧
    ∀ p, let v := Options.valueOfPrefix p
      v.print = "\"" ++ p.text ++ "\"" ∧ Json.Value.parse v.print = .ok v ∧
        Options.prefixOfValue v = .ok p := by
  simp only [← lower_eq_toLower]
  have unknown {s : String} (h : ∀ p : Prefix, lower s ≠ p.text) :
      ofText s = .error (.unknownPrefix s) := ofText_eq_error_iff.2 ⟨rfl, h⟩
  refine ⟨fun s p => ofText_eq_ok_iff, fun s p q hp hq => text_injective (hp.symm.trans hq),
    fun s p => ofText_eq_ok_iff.trans lower_eq_text_iff, fun s e => ofText_eq_error_iff,
    fun s c hc odd => unknown fun p h => odd (isAlphanum_of_lower_eq h hc),
    fun s p a b h more => unknown fun q hq => ?_, fun v p => ?_,
    fun v t h => Options.gives_prefixAt h, fun p => ⟨?_, ?_, ?_⟩⟩
  · obtain ⟨rfl, rfl⟩ := eq_of_lower_append (ofText_eq_ok_iff.1 h) hq
    exact more rfl
  · simp only [Options.prefixOfValue_eq_ok_iff, NamedBy, ofText_eq_ok_iff]
  · cases p <;> decide
  · exact Json.Value.parse_print (.string p.text)
  · exact Options.prefixOfValue_eq_ok_iff.2 ⟨p.text, rfl, p.lower_text⟩

/-- A word in capitals and small letters is read; with a long s, with a Kelvin sign, with a blank
before it, with a zero after it or written twice it is not. -/
theorem recased_words_read :
    ofText "SiP" = .ok .sip ∧ Recases "SiP" "sip" ∧
      (∀ s ∈ ["\u017Fip", "si\u212A", " sip", "sip\x00", "sipsip"],
        ofText s = .error (.unknownPrefix s)) ∧
      Options.prefixOfValue (.string "iSdN") = .ok .capi := by
  obtain ⟨-, -, recases, -, odd, more, value, -⟩ := ofText_reads_recasings
  have sip : ofText "SiP" = .ok .sip := by decide
  have twice : ofText "sipsip" = .error (.unknownPrefix "sipsip") :=
    more "sip" .sip "" "sip" (by decide) (by decide)
  refine ⟨sip, (recases _ .sip).1 sip, ?_, (value _ _).2 ⟨"iSdN", rfl, by decide⟩⟩
  simp only [List.forall_mem_cons, List.not_mem_nil, IsEmpty.forall_iff, implies_true, and_true]
  exact ⟨odd _ '\u017F' (by decide) (by decide), odd _ '\u212A' (by decide) (by decide),
    odd _ ' ' (by decide) (by decide), odd _ '\x00' (by decide) (by decide), twice⟩

end Switchboard.Prefix
