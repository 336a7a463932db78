import Switchboard.Proofs.Utf8

/-!
# Components of paths

What is said of the bytes of a path may be a matter of the stretches between its slashes
(`Path.Piecewise`). If empty stretches and dots have the property, a path has it if and only if the
names among its components do (`Path.Piecewise.iff_names`), and so it does not tell apart paths that
are the same (`Path.Piecewise.congr`). To be the UTF-8 of a text whose characters are of some kind
is such a property (`Path.piecewise_encode`), since a text is cut at a slash byte where it has the
slash; to be empty is one of the whole path (`Path.components_eq_nil_iff`).
-/

namespace Switchboard

/-- A text is cut at a slash byte where it has the slash. -/
theorem Utf8.encode_eq_append_slash {cs : List Char} {w bs : List UInt8}
    (h : encode cs = w ++ Path.slash :: bs) :
    ∃ ds es, cs = ds ++ '/' :: es ∧ w = encode ds ∧ bs = encode es := by
  induction cs generalizing w with
  | nil => simp at h
  | cons c cs ih =>
    rw [encode_cons] at h
    obtain ⟨t, rfl, ht⟩ | ⟨t, hc, ht⟩ := List.append_eq_append_iff.1 h
    · -- the slash comes after the first character
      obtain ⟨ds, es, rfl, rfl, hbs⟩ := ih ht
      exact ⟨c :: ds, es, rfl, rfl, hbs⟩
    cases t with
    | nil =>
      obtain ⟨ds, es, rfl, hw, hbs⟩ := ih (w := []) ht.symm
      rw [List.append_nil] at hc
      exact ⟨c :: ds, es, rfl, by rw [encode_cons, ← hw, hc, List.append_nil], hbs⟩
    | cons b t =>
      -- the slash is a byte of the first character, so this is the slash
      obtain ⟨rfl, rfl⟩ := List.cons.inj ht
      have slash_mem : Path.slash ∈ encodeChar c := by simp [hc]
      have number := (mem_encodeChar_iff_of_ascii (by decide)).1 slash_mem
      obtain rfl : c = '/' := Char.toNat_inj.1 number
      have one : w ++ Path.slash :: t = [Path.slash] := hc.symm
      obtain ⟨rfl, rest⟩ | ⟨-, rest⟩ := List.append_eq_singleton_iff.1 one
      · obtain ⟨-, rfl⟩ := List.cons.inj rest
        exact ⟨[], cs, rfl, rfl, rfl⟩
      · cases rest

namespace Path

variable {p q : Path} {bs w : List UInt8}

/-! ## Stretches -/

theorem stretches_eq_splitOn (bs : List UInt8) : stretches bs = bs.splitOn slash := by
  induction bs with
  | nil => rfl
  | cons b bs ih =>
    rw [stretches, ih, List.splitOn_cons_eq_if_modifyHead]
    by_cases hb : b = slash
    · rw [if_pos hb, if_pos (beq_iff_eq.2 hb)]
    · rw [if_neg hb, if_neg (by simpa using hb)]
      obtain ⟨w, ws, h⟩ := List.exists_cons_of_ne_nil (List.splitOn_ne_nil slash bs)
      rw [h]
      rfl

/-- A property that is a matter of the stretches of bytes, and that dots have. -/
structure Piecewise (Q : List UInt8 → Prop) : Prop where
  join (w bs : List UInt8) : Q (w ++ slash :: bs) ↔ Q w ∧ Q bs
  empty : Q []
  here : Q [dot]
  up : Q [dot, dot]

namespace Piecewise

variable {Q : List UInt8 → Prop} (h : Piecewise Q)

include h

theorem intercalate {ws : List (List UInt8)} (ne : ws ≠ []) :
    Q ([slash].intercalate ws) ↔ ∀ w ∈ ws, Q w := by
  induction ws with
  | nil => exact absurd rfl ne
  | cons w ws ih =>
    cases ws with
    | nil => rw [List.intercalate_singleton, List.forall_mem_singleton]
    | cons v vs =>
      rw [List.intercalate_cons_cons, List.append_assoc, List.singleton_append, h.join,
        ih (List.cons_ne_nil v vs), List.forall_mem_cons (a := w)]

theorem iff_stretches (bs : List UInt8) : Q bs ↔ ∀ w ∈ stretches bs, Q w := by
  rw [stretches_eq_splitOn, ← h.intercalate (List.splitOn_ne_nil slash bs),
    List.intercalate_splitOn]

end Piecewise

/-! ## Names -/

theorem start?_ne_name : p.start? ≠ some (.name w) := by
  unfold start?
  split
  · nofun
  · split <;> nofun

theorem component?_eq_some_name_iff {v : List UInt8} :
    component? v = some (.name w) ↔ v = w ∧ w ≠ [] ∧ w ≠ [dot] ∧ w ≠ [dot, dot] := by
  unfold component?
  by_cases h₁ : v = [] ∨ v = [dot]
  · rw [if_pos h₁]
    constructor
    · nofun
    · rintro ⟨rfl, h, h', -⟩
      exact absurd h₁ (not_or.2 ⟨h, h'⟩)
  by_cases h₂ : v = [dot, dot]
  · rw [if_neg h₁, if_pos h₂]
    constructor
    · nofun
    · rintro ⟨rfl, -, -, h⟩
      exact absurd h₂ h
  · rw [if_neg h₁, if_neg h₂, Option.some.injEq, Component.name.injEq]
    constructor
    · rintro rfl
      exact ⟨rfl, (not_or.1 h₁).1, (not_or.1 h₁).2, h₂⟩
    · exact And.left

/-- The names of a path are its stretches, but for empty ones and dots. -/
theorem name_mem_components_iff : .name w ∈ p.components ↔
    w ∈ stretches p.bytes ∧ w ≠ [] ∧ w ≠ [dot] ∧ w ≠ [dot, dot] := by
  simp only [components, List.mem_append, Option.mem_toList, start?_ne_name, false_or,
    List.mem_filterMap, component?_eq_some_name_iff]
  constructor
  · rintro ⟨v, hv, rfl, h⟩
    exact ⟨hv, h⟩
  · rintro ⟨hw, h⟩
    exact ⟨w, hw, rfl, h⟩

/-- Bytes have a property of stretches if the names do. -/
theorem Piecewise.iff_names {Q : List UInt8 → Prop} (h : Piecewise Q) :
    Q p.bytes ↔ ∀ w, .name w ∈ p.components → Q w := by
  rw [h.iff_stretches]
  constructor
  · exact fun all w hw => all w (name_mem_components_iff.1 hw).1
  · intro names w hw
    by_cases h₀ : w = []
    · exact h₀ ▸ h.empty
    by_cases h₁ : w = [dot]
    · exact h₁ ▸ h.here
    by_cases h₂ : w = [dot, dot]
    · exact h₂ ▸ h.up
    · exact names w (name_mem_components_iff.2 ⟨hw, h₀, h₁, h₂⟩)

theorem sameAs_iff : p.sameAs q ↔ p.components = q.components :=
  decide_eq_true_iff

/-- Paths that are the same have the same properties of stretches. -/
theorem Piecewise.congr {Q : List UInt8 → Prop} (h : Piecewise Q) (same : p.sameAs q) :
    Q p.bytes ↔ Q q.bytes := by
  rw [h.iff_names, h.iff_names, sameAs_iff.1 same]

/-! ## Properties of stretches -/

/-- To be the UTF-8 of a text whose characters are of some kind, slashes and dots among them. -/
theorem piecewise_encode {R : Char → Prop} (slash : R '/') (dot : R '.') :
    Piecewise fun bs => ∃ cs, bs = Utf8.encode cs ∧ ∀ c ∈ cs, R c where
  join w bs := by
    constructor
    · rintro ⟨cs, h, hR⟩
      obtain ⟨ds, es, rfl, rfl, rfl⟩ := Utf8.encode_eq_append_slash h.symm
      obtain ⟨hds, hes⟩ := List.forall_mem_append.1 hR
      exact ⟨⟨ds, rfl, hds⟩, es, rfl, (List.forall_mem_cons.1 hes).2⟩
    · rintro ⟨⟨ds, rfl, hds⟩, es, rfl, hes⟩
      have all : ∀ c ∈ ds ++ '/' :: es, R c :=
        List.forall_mem_append.2 ⟨hds, List.forall_mem_cons.2 ⟨slash, hes⟩⟩
      exact ⟨ds ++ '/' :: es, (Utf8.encode_append ds ('/' :: es)).symm, all⟩
  empty := ⟨[], rfl, fun _ hc => absurd hc List.not_mem_nil⟩
  here := ⟨['.'], rfl, by simpa using dot⟩
  up := ⟨['.', '.'], rfl, by simpa using dot⟩

/-- To be without a zero byte. -/
theorem piecewise_zero_notMem : Piecewise fun bs => 0 ∉ bs where
  join w bs := by
    rw [List.mem_append, List.mem_cons, not_or, not_or]
    exact and_congr_right' (and_iff_right (by decide))
  empty := by decide
  here := by decide
  up := by decide

/-! ## Empty paths -/

theorem component?_eq_none_iff : component? w = none ↔ w = [] ∨ w = [dot] := by
  unfold component?
  by_cases h : w = [] ∨ w = [dot]
  · simp [h]
  · rw [if_neg h]
    split <;> simp [h]

/-- The first stretch of bytes that do not begin with a slash begins with their first byte. -/
theorem stretches_cons_of_ne {b : UInt8} (hb : b ≠ slash) (bs : List UInt8) :
    ∃ w ws, stretches (b :: bs) = (b :: w) :: ws := by
  rw [stretches, if_neg hb]
  cases stretches bs with
  | nil => exact ⟨[], [], rfl⟩
  | cons w ws => exact ⟨w, ws, rfl⟩

/-- A path has no components only if it is empty. -/
theorem components_eq_nil_iff : p.components = [] ↔ p.bytes = [] := by
  constructor
  · intro h
    obtain ⟨no_start, no_names⟩ := List.append_eq_nil_iff.1 h
    cases hp : p.bytes with
    | nil => rfl
    | cons b bs =>
      by_cases hb : b = slash
      · simp [start?, hp, hb] at no_start
      obtain ⟨w, ws, hs⟩ := stretches_cons_of_ne hb bs
      rw [hp, hs, List.filterMap_eq_nil_iff] at no_names
      have first_dot : b :: w = [dot] :=
        (component?_eq_none_iff.1 (no_names _ List.mem_cons_self)).resolve_left nofun
      simp [start?, hp, hb, hs, first_dot] at no_start
  · intro h
    rw [components, start?, h]
    rfl

/-- Of two paths that are the same none or both are empty. -/
theorem bytes_eq_nil_congr (same : p.sameAs q) : p.bytes = [] ↔ q.bytes = [] := by
  rw [← components_eq_nil_iff, ← components_eq_nil_iff, sameAs_iff.1 same]

end Path

end Switchboard
