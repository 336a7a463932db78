import Switchboard.Proofs.Rendering
import Switchboard.Session.Operation
import Switchboard.Trial.Engine

/-!
# Starting an engine with options

Two checks stand between options and the engine. The first is the rendering, which refuses a trace
file that cannot be a word; the second is that of `Instance.initialise`, which refuses a text with
a zero byte. The only word that can hold a zero byte is the one for the trace file
(`Options.zero_mem_render_iff`), so the engine is called if and only if the trace file can be a word
without one (`Options.IsExpressible`), and whatever is refused leaves the session as it was
(`Options.initialiseWith_iff_isExpressible`).
-/

namespace Switchboard

/-! ## Zero bytes -/

namespace NulFault

variable {bs : List UInt8}

theorem find?_eq_none_iff : find? bs = none ↔ 0 ∉ bs := by
  rw [find?, Option.map_eq_none_iff, List.findIdx?_eq_none_iff]
  constructor
  · intro h h₀
    cases h 0 h₀
  · exact fun h b hb => beq_false_of_ne fun h₀ => h (h₀ ▸ hb)

/-- The fault is at the first zero byte. -/
theorem find?_of_mem (h : 0 ∈ bs) : find? bs = some ⟨bs.idxOf 0, bs⟩ := by
  rw [find?, List.findIdx?_eq_some_of_exists ⟨0, h, rfl⟩]
  rfl

end NulFault

/-- Of all words only the one for a trace file can hold a zero character. -/
theorem Token.nul_mem_text_iff {t : Token} :
    '\x00' ∈ t.text.toList ↔ ∃ name, t = .traceFile name ∧ '\x00' ∈ name.toList := by
  cases t with
  | endpoint p => cases p <;> simp [Token.text, Prefix.text]
  | traceLevel level =>
    have hd : '\x00' ∉ Numeral.digits 10 level.toNat := fun h =>
      absurd (Numeral.isDigit_of_mem_digits h) (by decide)
    simp [Token.text, Numeral.decimal, hd]
  | traceFile name => simp [Token.text]
  | traceAppend => simp [Token.text]

namespace Options

variable {o : Options} {file : Path} {text : String} {e : Error}

/-- The text of options holds a zero byte if and only if the trace file does. -/
theorem zero_mem_render_iff (h : o.render = .ok text) :
    0 ∈ Utf8.encode text.toList ↔ ∃ file ∈ o.traceFile, 0 ∈ file.bytes := by
  obtain ⟨ts, ht, rfl⟩ := render_eq_ok_iff.1 h
  obtain ⟨name, hf, -, rfl⟩ := tokens_eq_ok_iff.1 ht
  have hw : ('\x00' ∈ (" ".intercalate ((o.tokensWith name).map Token.text)).toList) ↔
      ∃ t ∈ o.tokensWith name, '\x00' ∈ t.text.toList := by
    rw [String.toList_intercalate]
    exact (Text.mem_intercalate_iff (by decide)).trans (by simp)
  rw [Utf8.zero_mem_encode_iff, hw, hf]
  simp only [Token.nul_mem_text_iff, Option.mem_def, Option.map_eq_some_iff]
  constructor
  · rintro ⟨_, ht, s, rfl, hs⟩
    exact ⟨_, ⟨s, traceFile_mem_tokensWith.1 ht, rfl⟩, Utf8.zero_mem_encode_iff.2 hs⟩
  · rintro ⟨_, ⟨s, hn, rfl⟩, hs⟩
    exact ⟨_, traceFile_mem_tokensWith.2 hn, s, rfl, Utf8.zero_mem_encode_iff.1 hs⟩

/-- A trace file that cannot be a word is refused by the rendering. -/
theorem render_of_not_isWord (hf : file ∈ o.traceFile) (h : ¬ file.IsWord) :
    ∃ reason, o.render = .error (.invalidOption reason) := by
  obtain ⟨reason, hr⟩ := fileText_of_not_isWord h
  refine ⟨reason, ?_⟩
  rw [render, tokens, Option.mem_def.1 hf, fileTokens, hr]
  rfl

/-- An engine can be started with the options: their trace file can be a word, and holds no zero
byte. -/
def IsExpressible (o : Options) : Prop :=
  ∀ file ∈ o.traceFile, file.IsWord ∧ 0 ∉ file.bytes

/-- Options are expressible if and only if they pass both checks. -/
theorem isExpressible_iff :
    o.IsExpressible ↔ ∃ text, o.render = .ok text ∧ 0 ∉ Utf8.encode text.toList := by
  constructor
  · intro h
    obtain ⟨text, ht⟩ := exists_render_iff.2 fun file hf => (h file hf).1
    refine ⟨text, ht, fun h₀ => ?_⟩
    obtain ⟨file, hf, hb⟩ := (zero_mem_render_iff ht).1 h₀
    exact (h file hf).2 hb
  · rintro ⟨text, ht, h₀⟩ file hf
    exact ⟨exists_render_iff.1 ⟨text, ht⟩ file hf,
      fun hb => h₀ ((zero_mem_render_iff ht).2 ⟨file, hf, hb⟩)⟩

end Options

/-! ## Initialise calls -/

section Initialise

variable {σ : Type} {E : Engine σ} {s : Session σ} {o : Options} {version : UInt32} {text : String}
  {into : String} {e : Error}

/-- A text without a zero byte is given to the engine as it is. -/
theorem Instance.initialise_calls (h : 0 ∉ Utf8.encode text.toList) :
    (Instance.initialise E version text s).trace.calls =
      [.initialise version text (E.initialise version text s.engine).1] := by
  have hn := NulFault.find?_eq_none_iff.2 h
  by_cases ha : (E.initialise version text s.engine).1.handle = 0
  · rw [initialise_of_null hn rfl ha]
  · rw [initialise_of_handle hn rfl ha]

/-- A null handle that is given for a text is an error. -/
theorem Instance.initialise_value_of_null (h : 0 ∉ Utf8.encode text.toList)
    (null : (E.initialise version text s.engine).1.handle = 0) :
    (Instance.initialise E version text s).value = .error (.initialiseFailed version
      (E.initialise version text s.engine).1.version) := by
  rw [initialise_of_null (NulFault.find?_eq_none_iff.2 h) rfl null]

/-- An initialise call that makes no instance changes the engine at most, and shuts nothing down. -/
theorem Instance.initialise_of_error
    (h : (Instance.initialise E version text s).value = .error e) :
    (Instance.initialise E version text s).session =
        { s with engine := (Instance.initialise E version text s).session.engine } ∧
      ∀ k a, .shutDown k a ∉ (Instance.initialise E version text s).trace.calls := by
  cases hn : NulFault.find? (Utf8.encode text.toList) with
  | some fault =>
    rw [initialise_of_nul hn]
    exact ⟨rfl, fun k a => List.not_mem_nil⟩
  | none =>
    rcases call : E.initialise version text s.engine with ⟨answer, engine⟩
    by_cases ha : answer.handle = 0
    · rw [initialise_of_null hn call ha]
      exact ⟨rfl, fun k a => by simp⟩
    · rw [initialise_of_handle hn call ha] at h
      cases h

theorem Instance.initialiseWith_of_render (h : o.render = .ok text) :
    Instance.initialiseWith E o = Instance.initialise E interfaceVersion text := by
  rw [initialiseWith, h]

/-- Options without a text are refused by the first check. -/
theorem Instance.initialiseWith_of_error (h : o.render = .error e) :
    Instance.initialiseWith E o s = ⟨.error e, {}, s⟩ := by
  rw [initialiseWith, h]
  rfl

/-- Options with a zero byte in their text are refused by the second check. -/
theorem Instance.initialiseWith_of_zero (h : o.render = .ok text)
    (h₀ : 0 ∈ Utf8.encode text.toList) :
    Instance.initialiseWith E o s = ⟨.error (.nulInText
      ⟨(Utf8.encode text.toList).idxOf 0, Utf8.encode text.toList⟩), {}, s⟩ := by
  rw [initialiseWith_of_render h]
  exact initialise_of_nul (NulFault.find?_of_mem h₀)

theorem Operation.run_initialiseWith_of_render (h : o.render = .ok text) :
    (Operation.initialiseWith into o).run E =
      (Operation.initialise into interfaceVersion text).run E := by
  simp only [run, Instance.initialiseWith_of_render h]

/-- An instance that was not made is not stored. -/
theorem Operation.run_initialiseWith_of_error
    (h : Instance.initialiseWith E o s = ⟨.error e, {}, s⟩) :
    (Operation.initialiseWith into o).run E s = ⟨.error (.failed e), {}, s⟩ := by
  simp [run, h, keepInstance]

end Initialise

namespace Options

variable {σ : Type}

/-- What is refused is refused by one of the checks, by the first one if there is a choice, and
nothing happens. -/
theorem initialiseWith_of_not_isExpressible (E : Engine σ) {o : Options} (s : Session σ)
    (h : ¬ o.IsExpressible) :
    ∃ e, Instance.initialiseWith E o s = ⟨.error e, {}, s⟩ ∧
      ((∃ file ∈ o.traceFile, ¬ file.IsWord) → ∃ reason, e = .invalidOption reason) ∧
      ((∀ file ∈ o.traceFile, file.IsWord) → ∃ text bytes, o.render = .ok text ∧
        bytes.toByteArray = text.toUTF8 ∧ 0 ∈ bytes ∧ e = .nulInText ⟨bytes.idxOf 0, bytes⟩) := by
  by_cases hw : ∀ file ∈ o.traceFile, file.IsWord
  · obtain ⟨text, ht⟩ := exists_render_iff.2 hw
    have h₀ : 0 ∈ Utf8.encode text.toList := by
      by_contra h₀
      exact h (isExpressible_iff.2 ⟨text, ht, h₀⟩)
    refine ⟨_, Instance.initialiseWith_of_zero ht h₀, ?_, fun _ => ?_⟩
    · exact fun ⟨file, hf, hn⟩ => absurd (hw file hf) hn
    · exact ⟨text, _, ht, Utf8.toByteArray_encode text, h₀, rfl⟩
  · obtain ⟨file, hf, hn⟩ : ∃ file ∈ o.traceFile, ¬ file.IsWord := by
      simpa only [not_forall, exists_prop] using hw
    obtain ⟨reason, ht⟩ := render_of_not_isWord hf hn
    exact ⟨_, Instance.initialiseWith_of_error ht, fun _ => ⟨reason, rfl⟩, fun h => absurd h hw⟩

/-- Options are refused before the engine is called, or it gets one initialise call with their text.
-/
theorem initialiseWith_cases (E : Engine σ) (o : Options) (s : Session σ) :
    (∃ e, Instance.initialiseWith E o s = ⟨.error e, {}, s⟩) ∨
      ∃ text, o.render = .ok text ∧ 0 ∉ Utf8.encode text.toList ∧
        Instance.initialiseWith E o s = Instance.initialise E interfaceVersion text s := by
  by_cases hx : o.IsExpressible
  · obtain ⟨text, ht, h₀⟩ := isExpressible_iff.1 hx
    exact .inr ⟨text, ht, h₀, by rw [Instance.initialiseWith_of_render ht]⟩
  · obtain ⟨e, he, -⟩ := initialiseWith_of_not_isExpressible E s hx
    exact .inl ⟨e, he⟩

/-- The engine is called if and only if the options are expressible. -/
theorem initialiseWith_calls_ne_nil_iff (E : Engine σ) (o : Options) (s : Session σ) :
    (Instance.initialiseWith E o s).trace.calls ≠ [] ↔ o.IsExpressible := by
  constructor
  · intro called
    by_contra hx
    obtain ⟨e, he, -⟩ := initialiseWith_of_not_isExpressible E s hx
    exact called (by rw [he])
  · intro hx
    obtain ⟨text, ht, h₀⟩ := isExpressible_iff.1 hx
    rw [Instance.initialiseWith_of_render ht, Instance.initialise_calls h₀]
    exact List.cons_ne_nil _ _

/-- A start that fails changes the engine at most, and shuts nothing down. -/
theorem initialiseWith_of_failed {E : Engine σ} {o : Options} {s : Session σ} {e : Error}
    (h : (Instance.initialiseWith E o s).value = .error e) :
    (Instance.initialiseWith E o s).session =
        { s with engine := (Instance.initialiseWith E o s).session.engine } ∧
      ∀ k a, .shutDown k a ∉ (Instance.initialiseWith E o s).trace.calls := by
  obtain ⟨e, he⟩ | ⟨text, -, -, eq⟩ := initialiseWith_cases E o s
  · rw [he]
    exact ⟨rfl, fun k a => List.not_mem_nil⟩
  · rw [eq] at h ⊢
    exact Instance.initialise_of_error h

/-- **An engine is started with expressible options only.** It is called if and only if the trace
file can be a word and holds no zero byte. Then it gets one initialise call, with the text of the
options, and the outcome is that of `Instance.initialise`. Otherwise nothing happens. If the file
cannot be a word, that is what the error says, even if there is a zero byte as well; if it can, the
error gives the place of the first zero byte in the whole text. -/
theorem initialiseWith_iff_isExpressible (E : Engine σ) (o : Options) (s : Session σ) :
    ((Instance.initialiseWith E o s).trace.calls ≠ [] ↔ o.IsExpressible) ∧
    (o.IsExpressible → ∃ text, o.render = .ok text ∧
      (Instance.initialiseWith E o s).trace.calls =
        [.initialise interfaceVersion text (E.initialise interfaceVersion text s.engine).1] ∧
      Instance.initialiseWith E o s = Instance.initialise E interfaceVersion text s ∧
      ∀ into, (Operation.initialiseWith into o).run E s =
        (Operation.initialise into interfaceVersion text).run E s) ∧
    (¬ o.IsExpressible → ∃ e, Instance.initialiseWith E o s = ⟨.error e, {}, s⟩ ∧
      (∀ into, (Operation.initialiseWith into o).run E s = ⟨.error (.failed e), {}, s⟩) ∧
      ((∃ file ∈ o.traceFile, ¬ file.IsWord) → ∃ reason, e = .invalidOption reason) ∧
      ((∀ file ∈ o.traceFile, file.IsWord) → ∃ text bytes, o.render = .ok text ∧
        bytes.toByteArray = text.toUTF8 ∧ 0 ∈ bytes ∧
        e = .nulInText ⟨bytes.idxOf 0, bytes⟩)) := by
  refine ⟨initialiseWith_calls_ne_nil_iff E o s, ?_⟩
  by_cases hx : o.IsExpressible
  · obtain ⟨text, ht, h₀⟩ := isExpressible_iff.1 hx
    have hr := Instance.initialiseWith_of_render (E := E) ht
    have hc : (Instance.initialiseWith E o s).trace.calls =
        [.initialise interfaceVersion text (E.initialise interfaceVersion text s.engine).1] := by
      rw [hr]
      exact Instance.initialise_calls h₀
    refine ⟨fun _ => ⟨text, ht, hc, by rw [hr], fun into => ?_⟩, ?_⟩
    · rw [Operation.run_initialiseWith_of_render ht]
    · exact absurd hx
  · obtain ⟨e, he, hn, hz⟩ := initialiseWith_of_not_isExpressible E s hx
    refine ⟨fun h => absurd h hx, fun _ => ⟨e, he, ?_⟩⟩
    exact ⟨fun into => Operation.run_initialiseWith_of_error he, hn, hz⟩

/-- An engine that is running is left alone when the trace file holds a zero byte; the place counts
two bytes for the accented letter. Without the zero byte another engine is started. -/
theorem initialiseWith_zeroInFile :
    let s := ((Operation.initialise "one" 33 "sip").run Trial.engine { engine := {} }).session
    let o : Options := ⟨[.pcss], some 7, some (.ofString "/tmp/é\x00.log"), false⟩
    let o' : Options := { o with traceFile := some (.ofString "/tmp/é.log") }
    let text := "pc TraceLevel=7 TraceFile=/tmp/é\x00.log"
    (∃ bytes, bytes.toByteArray = text.toUTF8 ∧
      (Operation.initialiseWith "two" o).run Trial.engine s =
        ⟨.error (.failed (.nulInText ⟨33, bytes⟩)), {}, s⟩) ∧
    (Instance.initialiseWith Trial.engine o' s).trace.calls =
      [.initialise 33 "pc TraceLevel=7 TraceFile=/tmp/é.log" ⟨32, 33⟩] := by
  intro s o o' text
  have isWord : ∀ file ∈ o.traceFile, file.IsWord := by
    rintro _ ⟨⟩
    exact ⟨"/tmp/é\x00.log", Path.eq_ofString_iff.1 rfl, by decide⟩
  have zero : ¬ o.IsExpressible := fun h => absurd (h _ rfl).2 (by decide)
  have expressible : o'.IsExpressible := by
    rintro _ ⟨⟩
    exact ⟨⟨"/tmp/é.log", Path.eq_ofString_iff.1 rfl, by decide⟩, by decide⟩
  have ht : o.render = .ok text := by decide +kernel
  have ht' : o'.render = .ok "pc TraceLevel=7 TraceFile=/tmp/é.log" := by decide +kernel
  constructor
  · obtain ⟨e, -, run, -, place⟩ := (initialiseWith_iff_isExpressible Trial.engine o s).2.2 zero
    obtain ⟨_, bytes, hr, hb, -, rfl⟩ := place isWord
    obtain rfl := Except.ok.inj (ht.symm.trans hr)
    have h₀ : bytes.idxOf 0 = 33 := by
      rw [List.toByteArray_inj.1 (hb.trans (Utf8.toByteArray_encode text).symm)]
      decide
    exact ⟨bytes, hb, h₀ ▸ run "two"⟩
  · obtain ⟨_, hr, calls, -⟩ :=
      (initialiseWith_iff_isExpressible Trial.engine o' s).2.1 expressible
    obtain rfl := Except.ok.inj (ht'.symm.trans hr)
    exact calls

end Options

end Switchboard
