import Switchboard.Proofs.Components
import Switchboard.Proofs.Edits
import Switchboard.Proofs.JsonOptions
import Switchboard.Proofs.Starting

/-!
# Options that are the same

Options are the same if their trace files have the same components and all else is equal, so
sameness is an equivalence, and edits keep it (`Options.sameAs_editAll`). Whether options can be
rendered, started with or written as JSON depends on the trace file by properties of its stretches,
which do not tell apart files that are the same (`Options.sameAs_congruence`).
-/

namespace Switchboard

/-! ## Trace files that are the same -/

namespace Path

variable {p q : Path}

/-- The texts of a path, told by its bytes. -/
theorem exists_ofString_iff {R : Char → Prop} :
    (∃ s, p = ofString s ∧ ∀ c ∈ s.toList, R c) ↔
      ∃ cs, p.bytes = Utf8.encode cs ∧ ∀ c ∈ cs, R c := by
  constructor
  · rintro ⟨s, rfl, h⟩
    exact ⟨s.toList, rfl, h⟩
  · rintro ⟨cs, hp, h⟩
    refine ⟨String.ofList cs, ?_, by rwa [String.toList_ofList]⟩
    rw [ofString, String.toList_ofList, ← hp]

/-- Of two paths that are the same both or none has a text with characters of some kind. -/
theorem exists_ofString_congr (same : p.sameAs q) {R : Char → Prop} (slash : R '/') (dot : R '.') :
    (∃ s, p = ofString s ∧ ∀ c ∈ s.toList, R c) ↔ ∃ s, q = ofString s ∧ ∀ c ∈ s.toList, R c := by
  rw [exists_ofString_iff, exists_ofString_iff]
  exact (piecewise_encode slash dot).congr same

theorem hasText_congr (same : p.sameAs q) : (∃ s, p = ofString s) ↔ ∃ s, q = ofString s := by
  simpa using exists_ofString_congr same (R := fun _ => True) trivial trivial

/-- A path can be a word if it is not empty and has a text without blanks. -/
theorem isWord_iff_ne_nil : p.IsWord ↔
    p.bytes ≠ [] ∧ ∃ s, p = ofString s ∧ ∀ c ∈ s.toList, Text.isBlank c = false := by
  rw [Options.isWord_iff]
  constructor
  · rintro ⟨s, rfl, ne, hs⟩
    refine ⟨fun h => ne ?_, s, rfl, hs⟩
    exact String.toList_eq_nil_iff.1 (Utf8.encode_injective h)
  · rintro ⟨ne, s, rfl, hs⟩
    refine ⟨s, rfl, fun h => ne ?_, hs⟩
    rw [h]
    rfl

theorem isWord_congr (same : p.sameAs q) : p.IsWord ↔ q.IsWord := by
  rw [isWord_iff_ne_nil, isWord_iff_ne_nil, Ne, Ne, bytes_eq_nil_congr same]
  exact and_congr_right' (exists_ofString_congr same (by decide) (by decide))

end Path

/-- Two words of options are equal, or name trace files that are the same. -/
inductive Token.SameAs : Token → Token → Prop
  | refl (t : Token) : SameAs t t
  | traceFile {name name' : String} (h : (Path.ofString name).sameAs (Path.ofString name')) :
      SameAs (.traceFile name) (.traceFile name')

namespace Options

variable {a b : Options} {file file' : Option Path}

theorem sameFile_iff :
    sameFile file file' ↔ file.map Path.components = file'.map Path.components := by
  cases file <;> cases file' <;> simp [sameFile, Path.sameAs_iff]

/-- What is true of a trace file, if there is one, is true of one that is the same. -/
theorem forall_mem_congr {P : Path → Prop} (same : sameFile file file')
    (h : ∀ p q : Path, p.sameAs q → (P p ↔ P q)) : (∀ p ∈ file, P p) ↔ ∀ p ∈ file', P p := by
  cases file with
  | none =>
    cases file' with
    | none => rfl
    | some q => cases same
  | some p =>
    obtain ⟨q, rfl, hpq⟩ := sameFile_some_iff.1 same
    simpa using h p q hpq

/-! ## An equivalence -/

theorem sameAs_iff_components : a.sameAs b ↔ a.prefixes = b.prefixes ∧
    a.traceLevel = b.traceLevel ∧
    a.traceFile.map Path.components = b.traceFile.map Path.components ∧
    a.traceAppend = b.traceAppend := by
  rw [sameAs_iff, sameFile_iff]

theorem sameAs_equivalence : Equivalence fun a b : Options => a.sameAs b := by
  simp only [sameAs_iff_components]
  refine ⟨fun a => ⟨rfl, rfl, rfl, rfl⟩, fun h => ?_, fun h h' => ?_⟩
  · exact ⟨h.1.symm, h.2.1.symm, h.2.2.1.symm, h.2.2.2.symm⟩
  · exact ⟨h.1.trans h'.1, h.2.1.trans h'.2.1, h.2.2.1.trans h'.2.2.1, h.2.2.2.trans h'.2.2.2⟩

/-! ## Edits -/

theorem sameAs_edit (same : a.sameAs b) (e : Edit) : (a.edit e).sameAs (b.edit e) := by
  obtain ⟨prefixes, level, files, append⟩ := sameAs_iff_components.1 same
  rw [sameAs_iff_components, edit_eq, edit_eq, prefixes, level, append]
  refine ⟨rfl, rfl, ?_, rfl⟩
  cases e.file? with
  | none => exact files
  | some file => rfl

theorem sameAs_editAll (same : a.sameAs b) (es : List Edit) :
    (a.editAll es).sameAs (b.editAll es) := by
  induction es generalizing a b with
  | nil => exact same
  | cons e es ih => exact ih (sameAs_edit same e)

/-! ## What options are used for -/

theorem exists_render_congr (same : a.sameAs b) :
    (∃ text, a.render = .ok text) ↔ ∃ text, b.render = .ok text := by
  rw [exists_render_iff, exists_render_iff]
  exact forall_mem_congr (sameAs_iff.1 same).2.2.1 fun _ _ => Path.isWord_congr

theorem isExpressible_congr (same : a.sameAs b) : a.IsExpressible ↔ b.IsExpressible :=
  forall_mem_congr (sameAs_iff.1 same).2.2.1 fun _ _ h =>
    and_congr (Path.isWord_congr h) (Path.piecewise_zero_notMem.congr h)

theorem exists_print_congr (same : a.sameAs b) :
    (∃ text, a.print = .ok text) ↔ ∃ text, b.print = .ok text := by
  rw [exists_print_iff, exists_print_iff]
  exact forall_mem_congr (sameAs_iff.1 same).2.2.1 fun _ _ => Path.hasText_congr

/-- The words of options that are the same are equal, but for the name of the trace file. -/
theorem tokens_congr (same : a.sameAs b) {ts us : List Token} (ha : a.tokens = .ok ts)
    (hb : b.tokens = .ok us) : List.Forall₂ Token.SameAs ts us := by
  obtain ⟨prefixes, level, files, append⟩ := sameAs_iff.1 same
  obtain ⟨name, hn, -, rfl⟩ := tokens_eq_ok_iff.1 ha
  obtain ⟨name', hn', -, rfl⟩ := tokens_eq_ok_iff.1 hb
  have refl (vs : List Token) : List.Forall₂ Token.SameAs vs vs :=
    List.forall₂_same.2 fun t _ => .refl t
  have names : List.Forall₂ Token.SameAs (name.toList.map .traceFile)
      (name'.toList.map .traceFile) := by
    rw [hn, hn'] at files
    cases name with
    | none =>
      cases name' with
      | none => exact .nil
      | some t => cases files
    | some s =>
      cases name' with
      | none => cases files
      | some t => exact .cons (.traceFile files) .nil
  rw [tokensWith, tokensWith, prefixes, level, append]
  exact List.rel_append (List.rel_append (refl _) names) (refl _)

/-- **Sameness of options is a congruence.** It is an equivalence that edits keep. Of options that
are the same, both or none can be rendered, reach an engine, and are written as JSON, whatever bytes
their trace files are; and if they are rendered, their words are equal one by one, but that the
words for the trace file may spell it in two ways. -/
theorem sameAs_congruence {σ : Type} (E : Engine σ) (s : Session σ) :
    (Equivalence fun a b : Options => a.sameAs b) ∧
    ∀ a b : Options, a.sameAs b →
      (∀ e, (a.edit e).sameAs (b.edit e)) ∧ (∀ es, (a.editAll es).sameAs (b.editAll es)) ∧
      ((∃ text, a.render = .ok text) ↔ ∃ text, b.render = .ok text) ∧
      ((Instance.initialiseWith E a s).trace.calls ≠ [] ↔
        (Instance.initialiseWith E b s).trace.calls ≠ []) ∧
      ((∃ text, a.print = .ok text) ↔ ∃ text, b.print = .ok text) ∧
      ∀ t u, a.render = .ok t → b.render = .ok u → ∃ ts us, a.tokens = .ok ts ∧
        b.tokens = .ok us ∧ t = " ".intercalate (ts.map Token.text) ∧
        u = " ".intercalate (us.map Token.text) ∧ List.Forall₂ Token.SameAs ts us := by
  refine ⟨sameAs_equivalence, fun a b same => ⟨sameAs_edit same, sameAs_editAll same,
    exists_render_congr same, ?_, exists_print_congr same, fun t u ha hb => ?_⟩⟩
  · rw [initialiseWith_calls_ne_nil_iff, initialiseWith_calls_ne_nil_iff, isExpressible_congr same]
  · obtain ⟨ts, hts, ht⟩ := render_eq_ok_iff.1 ha
    obtain ⟨us, hus, hu⟩ := render_eq_ok_iff.1 hb
    exact ⟨ts, us, hts, hus, ht, hu, tokens_congr same hts hus⟩

/-- A trace file in two spellings: both start an engine, and the texts differ in its name. With half
a character before a slash neither is started with, nor written as JSON. -/
theorem twoSpellings_congruence :
    let a : Options := { prefixes := [.sip], traceFile := some (.ofString "/tmp//./opal.log") }
    let b : Options := { prefixes := [.sip], traceFile := some (.ofString "/tmp/opal.log/") }
    let a' : Options := a.edit (.traceFile ⟨[0x2F, 0xC3, 0x2F, 0x61]⟩)
    let b' : Options := a.edit (.traceFile ⟨[0x2F, 0x2F, 0xC3, 0x2F, 0x2E, 0x2F, 0x61]⟩)
    let s : Session Trial.State := { engine := {} }
    a.sameAs b ∧ a.render = .ok "sip TraceFile=/tmp//./opal.log" ∧
      (∃ text, b.render = .ok text) ∧ (Instance.initialiseWith Trial.engine b s).trace.calls ≠ [] ∧
      a'.sameAs b' ∧ (¬ ∃ text, b'.render = .ok text) ∧ ¬ ∃ text, b'.print = .ok text := by
  intro a b a' b' s
  obtain ⟨-, congruence⟩ := sameAs_congruence Trial.engine s
  have same : a.sameAs b := by decide
  have same' : a'.sameAs b' := by decide
  have ha : a.render = .ok "sip TraceFile=/tmp//./opal.log" := by decide +kernel
  obtain ⟨-, -, rendered, started, -⟩ := congruence a b same
  obtain ⟨-, -, rendered', -, written', -⟩ := congruence a' b' same'
  have called : (Instance.initialiseWith Trial.engine a s).trace.calls ≠ [] := by decide +kernel
  have no_text : ∀ s, Path.mk [0x2F, 0xC3, 0x2F, 0x61] ≠ .ofString s := by
    intro s hs
    have none : Path.text? ⟨[0x2F, 0xC3, 0x2F, 0x61]⟩ = none := by decide +kernel
    cases none.symm.trans (Path.text?_eq_some_iff.2 hs)
  refine ⟨same, ha, rendered.1 ⟨_, ha⟩, started.1 called, same', fun h => ?_, fun h => ?_⟩
  · obtain ⟨s, hs, -⟩ := isWord_iff.1 (exists_render_iff.1 (rendered'.2 h) _ rfl)
    exact no_text s hs
  · obtain ⟨s, hs⟩ := exists_print_iff.1 (written'.2 h) _ rfl
    exact no_text s hs

end Options

end Switchboard
