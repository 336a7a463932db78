import Mathlib.Data.List.Basic
import Switchboard.Path

/-!
# Reading and writing UTF-8

`encode` writes the bytes that the standard library writes (`toByteArray_encode`), and `decode?`
reads these bytes and no others (`decode?_eq_some_iff`). Reading cuts the bytes into pieces: the
bytes of a character are one piece (`piece_encodeChar`), and a piece stands for the bytes that it
was cut from (`bytes_piece`). So a path has a text if and only if its bytes are those of the text
(`Path.text?_eq_some_iff`).
-/

namespace Switchboard

namespace Utf8

/-! ## Writing -/

@[simp] theorem encode_nil : encode [] = [] := rfl

@[simp] theorem encode_cons (c : Char) (cs : List Char) :
    encode (c :: cs) = encodeChar c ++ encode cs :=
  rfl

theorem encode_append (cs ds : List Char) : encode (cs ++ ds) = encode cs ++ encode ds :=
  List.flatMap_append

/-- The numbers of characters: those below the surrogates, and those above them. -/
def IsScalar (n : Nat) : Prop :=
  n < 0xD800 ∨ 0xDFFF < n ∧ n < 0x110000

theorem isScalar_toNat (c : Char) : IsScalar c.toNat := c.valid

theorem toNat_ofNat {n : Nat} (h : IsScalar n) : (Char.ofNat n).toNat = n := by
  rw [Char.ofNat, dif_pos (show n.isValidChar from h)]
  rfl

theorem toNat_byte {n : Nat} (h : n < 256) : (UInt8.ofNat n).toNat = n :=
  UInt8.toNat_ofNat_of_lt h

theorem byte_eq {n : Nat} {b : UInt8} (h : n = b.toNat) : UInt8.ofNat n = b := by
  rw [h, UInt8.ofNat_toNat]

theorem encodeChar_of_lt_80 {c : Char} (h : c.toNat < 0x80) :
    encodeChar c = [UInt8.ofNat c.toNat] :=
  if_pos h

theorem encodeChar_of_lt_800 {c : Char} (h : 0x80 ≤ c.toNat) (h' : c.toNat < 0x800) :
    encodeChar c = [UInt8.ofNat (0xC0 + c.toNat / 64), UInt8.ofNat (0x80 + c.toNat % 64)] := by
  rw [encodeChar, if_neg (Nat.not_lt.2 h), if_pos h']

theorem encodeChar_of_lt_10000 {c : Char} (h : 0x800 ≤ c.toNat) (h' : c.toNat < 0x10000) :
    encodeChar c = [UInt8.ofNat (0xE0 + c.toNat / 4096), UInt8.ofNat (0x80 + c.toNat / 64 % 64),
      UInt8.ofNat (0x80 + c.toNat % 64)] := by
  rw [encodeChar, if_neg (by omega), if_neg (Nat.not_lt.2 h), if_pos h']

theorem encodeChar_of_ge_10000 {c : Char} (h : 0x10000 ≤ c.toNat) :
    encodeChar c = [UInt8.ofNat (0xF0 + c.toNat / 262144), UInt8.ofNat (0x80 + c.toNat / 4096 % 64),
      UInt8.ofNat (0x80 + c.toNat / 64 % 64), UInt8.ofNat (0x80 + c.toNat % 64)] := by
  rw [encodeChar, if_neg (by omega), if_neg (by omega), if_neg (Nat.not_lt.2 h)]

/-- An ASCII byte stands for the ASCII character only. -/
theorem mem_encodeChar_iff_of_ascii {c : Char} {b : UInt8} (h : b.toNat < 0x80) :
    b ∈ encodeChar c ↔ c.toNat = b.toNat := by
  have hc := isScalar_toNat c
  have hb {n : Nat} (hn : n < 256) : b = UInt8.ofNat n ↔ n = b.toNat := by
    rw [← UInt8.toNat_inj, toNat_byte hn]
    exact eq_comm
  unfold IsScalar at hc
  by_cases h₁ : c.toNat < 0x80
  · rw [encodeChar_of_lt_80 h₁, List.mem_singleton, hb (by omega)]
  by_cases h₂ : c.toNat < 0x800
  · simp only [encodeChar_of_lt_800 (Nat.not_lt.1 h₁) h₂, List.mem_cons, List.not_mem_nil, or_false]
    rw [hb (by omega), hb (by omega)]
    omega
  by_cases h₃ : c.toNat < 0x10000
  · simp only [encodeChar_of_lt_10000 (Nat.not_lt.1 h₂) h₃, List.mem_cons, List.not_mem_nil,
      or_false]
    rw [hb (by omega), hb (by omega), hb (by omega)]
    omega
  · simp only [encodeChar_of_ge_10000 (Nat.not_lt.1 h₃), List.mem_cons, List.not_mem_nil, or_false]
    rw [hb (by omega), hb (by omega), hb (by omega), hb (by omega)]
    omega

/-- The zero byte stands for the zero character only. -/
theorem zero_mem_encodeChar_iff {c : Char} : 0 ∈ encodeChar c ↔ c = '\x00' := by
  rw [mem_encodeChar_iff_of_ascii (by decide), ← Char.toNat_inj]
  rfl

theorem zero_mem_encode_iff {cs : List Char} : 0 ∈ encode cs ↔ '\x00' ∈ cs := by
  simp only [encode, List.mem_flatMap, zero_mem_encodeChar_iff, exists_eq_right]

/-- The bytes of a character are those of the standard library. -/
theorem encodeChar_eq_utf8EncodeChar (c : Char) : encodeChar c = String.utf8EncodeChar c := by
  have h := isScalar_toNat c
  have hv : c.val.toNat = c.toNat := rfl
  simp only [encodeChar, String.utf8EncodeChar, hv]
  generalize c.toNat = n at h
  unfold IsScalar at h
  by_cases h₁ : n < 0x80
  · rw [if_pos h₁, if_pos (by omega)]
  by_cases h₂ : n < 0x800
  · have e : n / 64 % 32 + 192 = 0xC0 + n / 64 := by omega
    rw [if_neg h₁, if_pos h₂, if_neg (by omega), if_pos (by omega), e, Nat.add_comm 0x80]
  by_cases h₃ : n < 0x10000
  · have e : n / 4096 % 16 + 224 = 0xE0 + n / 4096 := by omega
    rw [if_neg h₁, if_neg h₂, if_pos h₃, if_neg (by omega), if_neg (by omega), if_pos (by omega),
      e, Nat.add_comm 0x80, Nat.add_comm 0x80]
  · have e : n / 262144 % 8 + 240 = 0xF0 + n / 262144 := by omega
    rw [if_neg h₁, if_neg h₂, if_neg h₃, if_neg (by omega), if_neg (by omega), if_neg (by omega),
      e, Nat.add_comm 0x80, Nat.add_comm 0x80, Nat.add_comm 0x80]

/-- The bytes of a text are those of the standard library. -/
theorem toByteArray_encode (s : String) : (encode s.toList).toByteArray = s.toUTF8 := by
  have h : encode s.toList = s.toList.flatMap String.utf8EncodeChar :=
    congrArg (List.flatMap · s.toList) (funext encodeChar_eq_utf8EncodeChar)
  rw [h, String.toUTF8_eq_toByteArray]
  conv => rhs; rw [← String.ofList_toList (s := s)]
  exact String.toByteArray_ofList.symm

/-! ## First bytes -/

/-- The bytes that may follow a first byte announcing more than one. -/
def IsTail (b : UInt8) : Prop :=
  0x80 ≤ b.toNat ∧ b.toNat ≤ 0xBF

theorem lead?_one {a : UInt8} (h : a.toNat < 0x80) : lead? a = some ⟨0, 0x80, 0xBF, a.toNat⟩ :=
  if_pos h

theorem lead?_two {a : UInt8} (h : 0xC2 ≤ a.toNat) (h' : a.toNat < 0xE0) :
    lead? a = some ⟨1, 0x80, 0xBF, a.toNat - 0xC0⟩ := by
  rw [lead?, if_neg (by omega), if_neg (by omega), if_pos h']

/-- After `E0` and `ED` the range of the second byte is narrower. -/
theorem lead?_three {a : UInt8} (h : 0xE0 ≤ a.toNat) (h' : a.toNat < 0xF0) :
    ∃ low high, lead? a = some ⟨2, low, high, a.toNat - 0xE0⟩ ∧ ∀ b : UInt8,
      (low ≤ b.toNat ∧ b.toNat ≤ high) ↔
        IsTail b ∧ (a.toNat = 0xE0 → 0xA0 ≤ b.toNat) ∧ (a.toNat = 0xED → b.toNat ≤ 0x9F) := by
  unfold IsTail
  rw [lead?, if_neg (by omega), if_neg (by omega), if_neg (by omega)]
  by_cases h₀ : a.toNat = 0xE0
  · exact ⟨_, _, by rw [if_pos h₀, h₀], by omega⟩
  by_cases h₁ : a.toNat = 0xED
  · exact ⟨_, _, by rw [if_neg h₀, if_pos h₁, h₁], by omega⟩
  · exact ⟨_, _, by rw [if_neg h₀, if_neg h₁, if_pos h'], by omega⟩

/-- After `F0` and `F4` the range of the second byte is narrower. -/
theorem lead?_four {a : UInt8} (h : 0xF0 ≤ a.toNat) (h' : a.toNat < 0xF5) :
    ∃ low high, lead? a = some ⟨3, low, high, a.toNat - 0xF0⟩ ∧ ∀ b : UInt8,
      (low ≤ b.toNat ∧ b.toNat ≤ high) ↔
        IsTail b ∧ (a.toNat = 0xF0 → 0x90 ≤ b.toNat) ∧ (a.toNat = 0xF4 → b.toNat ≤ 0x8F) := by
  unfold IsTail
  rw [lead?, if_neg (by omega), if_neg (by omega), if_neg (by omega), if_neg (by omega),
    if_neg (by omega), if_neg (by omega)]
  by_cases h₀ : a.toNat = 0xF0
  · exact ⟨_, _, by rw [if_pos h₀, h₀], by omega⟩
  by_cases h₁ : a.toNat < 0xF4
  · exact ⟨_, _, by rw [if_neg h₀, if_pos h₁], by omega⟩
  · exact ⟨_, _, by rw [if_neg h₀, if_neg h₁, if_pos (by omega), show a.toNat = 0xF4 by omega],
      by omega⟩

/-- A byte that begins a character announces one to four bytes. -/
theorem lead?_cases (a : UInt8) :
    lead? a = none ∨ a.toNat < 0x80 ∨ (0xC2 ≤ a.toNat ∧ a.toNat < 0xE0) ∨
      (0xE0 ≤ a.toNat ∧ a.toNat < 0xF0) ∨ 0xF0 ≤ a.toNat ∧ a.toNat < 0xF5 := by
  by_cases h : a.toNat < 0x80 ∨ 0xC2 ≤ a.toNat ∧ a.toNat < 0xF5
  · omega
  refine .inl ?_
  by_cases h₂ : a.toNat < 0xC2
  · rw [lead?, if_neg (by omega), if_pos h₂]
  · rw [lead?, if_neg (by omega), if_neg h₂, if_neg (by omega), if_neg (by omega),
      if_neg (by omega), if_neg (by omega), if_neg (by omega), if_neg (by omega), if_neg (by omega)]

/-! ## Characters and pieces -/

theorem take_cons {following low high value : Nat} {seen rest : List UInt8} {b : UInt8}
    (h : low ≤ b.toNat ∧ b.toNat ≤ high) :
    take (following + 1) low high value seen (b :: rest) =
      take following 0x80 0xBF (value * 64 + b.toNat % 64) (b :: seen) rest :=
  if_pos h

/-- The bytes of a character are one piece. -/
theorem piece_encodeChar (c : Char) (rest : List UInt8) :
    ∃ b bs, encodeChar c = b :: bs ∧ piece b (bs ++ rest) = (.char c, rest) := by
  have hn := isScalar_toNat c
  have hc : Char.ofNat c.toNat = c := Char.ofNat_toNat c
  have tail (n : Nat) : (UInt8.ofNat (0x80 + n % 64)).toNat = 0x80 + n % 64 :=
    toNat_byte (by omega)
  unfold IsScalar at hn
  by_cases h₁ : c.toNat < 0x80
  · refine ⟨_, _, encodeChar_of_lt_80 h₁, ?_⟩
    have ha := toNat_byte (n := c.toNat) (by omega)
    rw [piece, lead?_one (by omega), ha]
    simp only [take, hc, List.nil_append]
  by_cases h₂ : c.toNat < 0x800
  · refine ⟨_, _, encodeChar_of_lt_800 (by omega) h₂, ?_⟩
    have ha := toNat_byte (n := 0xC0 + c.toNat / 64) (by omega)
    have hv : (0xC0 + c.toNat / 64 - 0xC0) * 64 + (0x80 + c.toNat % 64) % 64 = c.toNat := by omega
    rw [piece, lead?_two (by omega) (by omega), ha]
    simp only [List.cons_append, List.nil_append]
    rw [take_cons (by rw [tail]; omega), take, tail, hv, hc]
  by_cases h₃ : c.toNat < 0x10000
  · refine ⟨_, _, encodeChar_of_lt_10000 (by omega) h₃, ?_⟩
    have ha := toNat_byte (n := 0xE0 + c.toNat / 4096) (by omega)
    have hv : ((0xE0 + c.toNat / 4096 - 0xE0) * 64 + (0x80 + c.toNat / 64 % 64) % 64) * 64 +
        (0x80 + c.toNat % 64) % 64 = c.toNat := by omega
    obtain ⟨low, high, hl, hr⟩ := lead?_three (a := UInt8.ofNat (0xE0 + c.toNat / 4096))
      (by omega) (by omega)
    rw [piece, hl, ha]
    simp only [List.cons_append, List.nil_append]
    rw [take_cons ((hr _).2 (by unfold IsTail; rw [tail, ha]; omega)),
      take_cons (by rw [tail]; omega), take, tail, tail, hv, hc]
  · refine ⟨_, _, encodeChar_of_ge_10000 (by omega), ?_⟩
    have ha := toNat_byte (n := 0xF0 + c.toNat / 262144) (by omega)
    have hv : (((0xF0 + c.toNat / 262144 - 0xF0) * 64 + (0x80 + c.toNat / 4096 % 64) % 64) * 64 +
        (0x80 + c.toNat / 64 % 64) % 64) * 64 + (0x80 + c.toNat % 64) % 64 = c.toNat := by omega
    obtain ⟨low, high, hl, hr⟩ := lead?_four (a := UInt8.ofNat (0xF0 + c.toNat / 262144))
      (by omega) (by omega)
    rw [piece, hl, ha]
    simp only [List.cons_append, List.nil_append]
    rw [take_cons ((hr _).2 (by unfold IsTail; rw [tail, ha]; omega)),
      take_cons (by rw [tail]; omega), take_cons (by rw [tail]; omega), take, tail, tail, tail, hv,
      hc]

/-- The number that the bytes after a first byte make, from the bits that it gives. -/
def valueFrom (value : Nat) (t : List UInt8) : Nat :=
  t.foldl (fun v b => v * 64 + b.toNat % 64) value

/-- Taking bytes ends in a stray, or after as many bytes as were announced, each in its range. In
both cases the piece and what is left make up the bytes that there were. -/
theorem take_cases (following low high value : Nat) (seen bs : List UInt8) :
    (∃ t rest, take following low high value seen bs = (.stray (seen.reverse ++ t), rest) ∧
      bs = t ++ rest) ∨
    ∃ t rest, take following low high value seen bs =
        (.char (Char.ofNat (valueFrom value t)), rest) ∧
      bs = t ++ rest ∧ t.length = following ∧
      (∀ b ∈ t.head?, low ≤ b.toNat ∧ b.toNat ≤ high) ∧ ∀ b ∈ t.tail, IsTail b := by
  induction following generalizing low high value seen bs with
  | zero => exact .inr ⟨[], bs, rfl, rfl, rfl, by simp, by simp⟩
  | succ n ih =>
    cases bs with
    | nil => exact .inl ⟨[], [], by simp [take], rfl⟩
    | cons b bs =>
      by_cases hb : low ≤ b.toNat ∧ b.toNat ≤ high
      · rw [take_cons hb]
        rcases ih 0x80 0xBF (value * 64 + b.toNat % 64) (b :: seen) bs with
          ⟨t, rest, ht, rfl⟩ | ⟨t, rest, ht, rfl, hn, hh, htl⟩
        · exact .inl ⟨b :: t, rest, by simp [ht], rfl⟩
        · refine .inr ⟨b :: t, rest, ht, rfl, by rw [List.length_cons, hn], by simpa using hb, ?_⟩
          cases t with
          | nil => simp
          | cons d t => exact List.forall_mem_cons.2 ⟨hh d rfl, htl⟩
      · exact .inl ⟨[], b :: bs, by simp [take, hb], rfl⟩

section Bytes

variable {a b c d : UInt8}

theorem encodeChar_one (ha : a.toNat < 0x80) : encodeChar (Char.ofNat a.toNat) = [a] := by
  have hv := toNat_ofNat (n := a.toNat) (.inl (by omega))
  rw [encodeChar_of_lt_80 (by omega), hv, UInt8.ofNat_toNat]

theorem encodeChar_two (ha : 0xC2 ≤ a.toNat) (ha' : a.toNat < 0xE0) (hb : IsTail b) :
    encodeChar (Char.ofNat (valueFrom (a.toNat - 0xC0) [b])) = [a, b] := by
  simp only [valueFrom, List.foldl_cons, List.foldl_nil]
  generalize hn : (a.toNat - 0xC0) * 64 + b.toNat % 64 = n
  unfold IsTail at hb
  have hv := toNat_ofNat (n := n) (.inl (by omega))
  rw [encodeChar_of_lt_800 (by omega) (by omega), hv, byte_eq (b := a) (by omega),
    byte_eq (b := b) (by omega)]

theorem encodeChar_three (ha : 0xE0 ≤ a.toNat) (ha' : a.toNat < 0xF0)
    (hb : IsTail b ∧ (a.toNat = 0xE0 → 0xA0 ≤ b.toNat) ∧ (a.toNat = 0xED → b.toNat ≤ 0x9F))
    (hc : IsTail c) :
    encodeChar (Char.ofNat (valueFrom (a.toNat - 0xE0) [b, c])) = [a, b, c] := by
  simp only [valueFrom, List.foldl_cons, List.foldl_nil]
  generalize hn : ((a.toNat - 0xE0) * 64 + b.toNat % 64) * 64 + c.toNat % 64 = n
  unfold IsTail at hb hc
  have hv := toNat_ofNat (n := n) (by unfold IsScalar; omega)
  rw [encodeChar_of_lt_10000 (by omega) (by omega), hv, byte_eq (b := a) (by omega),
    byte_eq (b := b) (by omega), byte_eq (b := c) (by omega)]

theorem encodeChar_four (ha : 0xF0 ≤ a.toNat) (ha' : a.toNat < 0xF5)
    (hb : IsTail b ∧ (a.toNat = 0xF0 → 0x90 ≤ b.toNat) ∧ (a.toNat = 0xF4 → b.toNat ≤ 0x8F))
    (hc : IsTail c) (hd : IsTail d) :
    encodeChar (Char.ofNat (valueFrom (a.toNat - 0xF0) [b, c, d])) = [a, b, c, d] := by
  simp only [valueFrom, List.foldl_cons, List.foldl_nil]
  generalize hn : (((a.toNat - 0xF0) * 64 + b.toNat % 64) * 64 + c.toNat % 64) * 64 +
    d.toNat % 64 = n
  unfold IsTail at hb hc hd
  have hv := toNat_ofNat (n := n) (.inr (by omega))
  rw [encodeChar_of_ge_10000 (by omega), hv, byte_eq (b := a) (by omega),
    byte_eq (b := b) (by omega), byte_eq (b := c) (by omega), byte_eq (b := d) (by omega)]

end Bytes

/-- The character that the announced bytes make has these bytes. -/
theorem encodeChar_of_lead? {a : UInt8} {l : Lead} {t : List UInt8} (hl : lead? a = some l)
    (hn : t.length = l.following) (hh : ∀ b ∈ t.head?, l.low ≤ b.toNat ∧ b.toNat ≤ l.high)
    (ht : ∀ b ∈ t.tail, IsTail b) :
    encodeChar (Char.ofNat (valueFrom l.value t)) = a :: t := by
  rcases lead?_cases a with h | h | ⟨h, h'⟩ | ⟨h, h'⟩ | ⟨h, h'⟩
  · rw [h] at hl
    cases hl
  · cases hl.symm.trans (lead?_one h)
    rw [List.length_eq_zero_iff.1 hn]
    exact encodeChar_one h
  · cases hl.symm.trans (lead?_two h h')
    obtain ⟨b, rfl⟩ := List.length_eq_one_iff.1 hn
    exact encodeChar_two h h' (hh b rfl)
  · obtain ⟨low, high, hl', hr⟩ := lead?_three h h'
    cases hl.symm.trans hl'
    obtain ⟨b, c, rfl⟩ := List.length_eq_two.1 hn
    exact encodeChar_three h h' ((hr b).1 (hh b rfl)) (ht c (by simp))
  · obtain ⟨low, high, hl', hr⟩ := lead?_four h h'
    cases hl.symm.trans hl'
    obtain ⟨b, c, d, rfl⟩ := List.length_eq_three.1 hn
    exact encodeChar_four h h' ((hr b).1 (hh b rfl)) (ht c (by simp)) (ht d (by simp))

/-- The piece that begins with a byte stands for the bytes that it was cut from. -/
theorem bytes_piece (a : UInt8) (bs : List UInt8) :
    (piece a bs).1.bytes ++ (piece a bs).2 = a :: bs := by
  rw [piece]
  cases hl : lead? a with
  | none => rfl
  | some l =>
    rcases take_cases l.following l.low l.high l.value [a] bs with
      ⟨t, rest, ht, rfl⟩ | ⟨t, rest, ht, rfl, hn, hh, htl⟩
    · simp [ht, Piece.bytes]
    · simp only [ht, Piece.bytes, encodeChar_of_lead? hl hn hh htl, List.cons_append]

/-! ## Texts -/

theorem decode?_cons (a : UInt8) (bs : List UInt8) :
    decode? (a :: bs) = Piece.chars? ((piece a bs).1 :: pieces (piece a bs).2) := by
  rw [decode?, pieces]

/-- What is written is read. -/
theorem decode?_encode (cs : List Char) : decode? (encode cs) = some cs := by
  induction cs with
  | nil => simp [decode?, pieces, Piece.chars?]
  | cons c cs ih =>
    obtain ⟨a, bs, hc, hp⟩ := piece_encodeChar c (encode cs)
    rw [encode_cons, hc, List.cons_append, decode?_cons, hp, Piece.chars?]
    rw [decode?] at ih
    rw [ih]
    rfl

/-- What is read was written. -/
theorem encode_of_decode? {bs : List UInt8} {cs : List Char} (h : decode? bs = some cs) :
    encode cs = bs := by
  fun_induction pieces bs generalizing cs with
  | case1 =>
    simp [decode?, pieces, Piece.chars?] at h
    subst h
    rfl
  | case2 a bs ih =>
    rw [decode?_cons] at h
    have hb := bytes_piece a bs
    cases hp : (piece a bs).1 with
    | stray t => simp [hp, Piece.chars?] at h
    | char c =>
      rw [hp, Piece.chars?, Option.map_eq_some_iff] at h
      obtain ⟨ds, hd, rfl⟩ := h
      rw [hp, Piece.bytes] at hb
      rw [encode_cons, ih hd, hb]

theorem decode?_eq_some_iff {bs : List UInt8} {cs : List Char} :
    decode? bs = some cs ↔ bs = encode cs := by
  constructor
  · intro h
    exact (encode_of_decode? h).symm
  · rintro rfl
    exact decode?_encode cs

theorem encode_injective {cs ds : List Char} (h : encode cs = encode ds) : cs = ds := by
  have hd := decode?_encode cs
  rw [h, decode?_encode] at hd
  exact (Option.some.inj hd).symm

end Utf8

namespace Path

/-- A path has the text whose bytes it has. -/
theorem text?_eq_some_iff {p : Path} {s : String} : p.text? = some s ↔ p = ofString s := by
  rw [text?, Option.map_eq_some_iff]
  constructor
  · rintro ⟨cs, h, rfl⟩
    rw [ofString, String.toList_ofList, ← Utf8.decode?_eq_some_iff.1 h]
  · rintro rfl
    exact ⟨s.toList, Utf8.decode?_encode _, String.ofList_toList⟩

theorem ofString_injective {s t : String} (h : ofString s = ofString t) : s = t :=
  String.toList_inj.1 (Utf8.encode_injective (congrArg Path.bytes h))

/-- The bytes of a path are those of a text. -/
theorem eq_ofString_iff {p : Path} {s : String} :
    p = ofString s ↔ p.bytes.toByteArray = s.toUTF8 := by
  rw [← Utf8.toByteArray_encode, List.toByteArray_inj, ofString, Path.mk.injEq]

/-- A path that may be absent has a text that may be absent, if the path has a text. -/
theorem exists_map_ofString {file : Option Path} {P : String → Prop}
    (h : ∀ p ∈ file, ∃ s, p = ofString s ∧ P s) :
    ∃ name : Option String, file = name.map ofString ∧ ∀ s ∈ name, P s := by
  cases file with
  | none => exact ⟨none, rfl, fun _ hs => nomatch hs⟩
  | some p =>
    obtain ⟨s, rfl, hs⟩ := h p rfl
    exact ⟨some s, rfl, fun _ ht => Option.mem_some.1 ht ▸ hs⟩

end Path

end Switchboard
