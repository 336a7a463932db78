import Mathlib.Data.List.Nodup
import Switchboard.Options.Token
import Switchboard.Proofs.Numerals
import Switchboard.Proofs.Utf8
import Switchboard.Proofs.Words

/-!
# The text of options

Options can be rendered if and only if their trace file can be one word (`Path.IsWord`). No word of
the text is empty or holds a blank (`Token.text_isName`), so cutting the text at blanks gives the
words that were joined, and each word tells the setting that it was written for (`take?_text`). So
the text tells the options, whatever the trace file is called (`render_unambiguous`).
-/

namespace Switchboard

/-! ## Trace files -/

/-- A name can be one word: it is not empty and holds no blank. -/
def IsName (s : String) : Prop :=
  s ≠ "" ∧ ∀ c ∈ s.toList, Text.isBlank c = false

theorem isName_iff {s : String} :
    IsName s ↔ ¬ (s.toList.isEmpty || s.toList.any Text.isBlank) = true := by
  simp [IsName]

instance (s : String) : Decidable (IsName s) :=
  decidable_of_iff _ isName_iff.symm

/-- A path can be one word: its bytes are the UTF-8 of a name. -/
def Path.IsWord (p : Path) : Prop :=
  ∃ s : String, p.bytes.toByteArray = s.toUTF8 ∧ IsName s

namespace Options

variable {o : Options} {file : Path} {s text : String} {ts : List Token}

theorem fileText_eq_ok_iff : fileText file = .ok s ↔ file = .ofString s ∧ IsName s := by
  rw [← Path.text?_eq_some_iff, fileText]
  cases file.text? with
  | none => simp
  | some t =>
    by_cases ht : IsName t
    · simp only [if_neg (isName_iff.1 ht)]
      constructor
      · rintro ⟨⟩
        exact ⟨rfl, ht⟩
      · rintro ⟨⟨⟩, -⟩
        rfl
    · simp only [if_pos (not_not.1 (mt isName_iff.2 ht))]
      constructor
      · rintro ⟨⟩
      · rintro ⟨⟨⟩, hs⟩
        exact absurd hs ht

theorem isWord_iff : file.IsWord ↔ ∃ s, file = .ofString s ∧ IsName s := by
  simp only [Path.IsWord, Path.eq_ofString_iff]

/-- A trace file that cannot be a word is an invalid option. -/
theorem fileText_of_not_isWord (h : ¬ file.IsWord) :
    ∃ reason, fileText file = .error (.invalidOption reason) := by
  have hn : ∀ s, fileText file ≠ .ok s := fun s hs =>
    h (isWord_iff.2 ⟨s, fileText_eq_ok_iff.1 hs⟩)
  unfold fileText at hn ⊢
  cases ht : file.text? with
  | none => exact ⟨_, rfl⟩
  | some t =>
    simp only [ht] at hn ⊢
    split at hn
    · next hb => exact ⟨_, if_pos hb⟩
    · exact absurd rfl (hn t)

/-! ## Words -/

/-- The words of options whose trace file has some name. -/
def tokensWith (o : Options) (name : Option String) : List Token :=
  o.prefixes.map .endpoint ++ o.traceLevel.toList.map .traceLevel ++ name.toList.map .traceFile ++
    if o.traceAppend then [.traceAppend] else []

/-- The one name among the words is that of the trace file. -/
theorem traceFile_mem_tokensWith {name : Option String} :
    .traceFile s ∈ o.tokensWith name ↔ s ∈ name := by
  simp only [tokensWith, List.mem_append, List.mem_map]
  constructor
  · rintro (((⟨_, _, ⟨⟩⟩ | ⟨_, _, ⟨⟩⟩) | ⟨_, hs, ⟨⟩⟩) | ha)
    · exact Option.mem_toList.1 hs
    · split at ha <;> simp at ha
  · exact fun hs => .inl (.inr ⟨s, Option.mem_toList.2 hs, rfl⟩)

theorem endpoint_mem_tokensWith {p : Prefix} {name : Option String} :
    .endpoint p ∈ o.tokensWith name ↔ p ∈ o.prefixes := by
  cases ha : o.traceAppend <;> simp [tokensWith, ha]

theorem traceAppend_mem_tokensWith {name : Option String} :
    .traceAppend ∈ o.tokensWith name ↔ o.traceAppend := by
  cases ha : o.traceAppend <;> simp [tokensWith, ha]

/-- If the prefixes come each once, so do the words. -/
theorem nodup_tokensWith (h : o.prefixes.Nodup) (name : Option String) :
    (o.tokensWith name).Nodup := by
  have endpoints : (o.prefixes.map Token.endpoint).Nodup := h.map fun p q => Token.endpoint.inj
  cases hl : o.traceLevel <;> cases name <;> cases ha : o.traceAppend <;>
    simp [tokensWith, hl, ha, List.nodup_append, endpoints]

/-- The words of options are those with the name of their trace file. -/
theorem tokens_eq_ok_iff : o.tokens = .ok ts ↔
    ∃ name : Option String, o.traceFile = name.map Path.ofString ∧ (∀ s ∈ name, IsName s) ∧
      ts = o.tokensWith name := by
  unfold tokens tokensWith
  cases hf : o.traceFile with
  | none =>
    constructor
    · rintro ⟨⟩
      exact ⟨none, rfl, by simp, rfl⟩
    · rintro ⟨_ | s, hs, -, rfl⟩
      · rfl
      · cases hs
  | some file =>
    constructor
    · intro h
      rw [fileTokens] at h
      cases hs : fileText file with
      | error e =>
        rw [hs] at h
        cases h
      | ok s =>
        rw [hs] at h
        cases h
        obtain ⟨rfl, hn⟩ := fileText_eq_ok_iff.1 hs
        exact ⟨some s, rfl, by simpa using hn, rfl⟩
    · rintro ⟨_ | s, hs, hn, rfl⟩
      · cases hs
      · cases hs
        rw [fileTokens, fileText_eq_ok_iff.2 ⟨rfl, hn s rfl⟩]
        rfl

theorem render_eq_ok_iff : o.render = .ok text ↔
    ∃ ts, o.tokens = .ok ts ∧ text = " ".intercalate (ts.map Token.text) := by
  rw [render]
  cases o.tokens with
  | error e => exact ⟨nofun, fun ⟨_, h, _⟩ => nomatch h⟩
  | ok ts =>
    constructor
    · rintro ⟨⟩
      exact ⟨ts, rfl, rfl⟩
    · rintro ⟨_, ⟨⟩, rfl⟩
      rfl

/-- Options can be rendered if and only if their trace file can be a word. -/
theorem exists_render_iff : (∃ text, o.render = .ok text) ↔ ∀ file ∈ o.traceFile, file.IsWord := by
  constructor
  · rintro ⟨text, h⟩ file hf
    obtain ⟨ts, ht, -⟩ := render_eq_ok_iff.1 h
    obtain ⟨_ | s, hs, hn, -⟩ := tokens_eq_ok_iff.1 ht
    · cases hf.symm.trans hs
    · cases hf.symm.trans hs
      exact isWord_iff.2 ⟨s, rfl, hn s rfl⟩
  · intro h
    obtain ⟨name, hf, hn⟩ := Path.exists_map_ofString fun file hf => isWord_iff.1 (h file hf)
    exact ⟨_, render_eq_ok_iff.2 ⟨_, tokens_eq_ok_iff.2 ⟨name, hf, hn, rfl⟩, rfl⟩⟩

end Options

/-! ## Cutting the text -/

namespace Text

/-- Decimal digits are not blank. -/
theorem isBlank_of_isDigit {c : Char} (h : c.isDigit) : isBlank c = false := by
  rw [Char.isDigit_iff_toNat] at h
  have h₀ : '0'.toNat = 48 := rfl
  have h₉ : '9'.toNat = 57 := rfl
  simp [isBlank]
  omega

end Text

theorem IsName.append {s t : String} (hs : IsName s) (ht : ∀ c ∈ t.toList, Text.isBlank c = false) :
    IsName (s ++ t) := by
  refine ⟨fun h => hs.1 (String.append_eq_empty_iff.1 h).1, ?_⟩
  rw [String.toList_append]
  exact List.forall_mem_append.2 ⟨hs.2, ht⟩

/-- The text of a word can be one word, if the name of the trace file can. -/
theorem Token.text_isName {t : Token} (h : ∀ s, t = .traceFile s → IsName s) : IsName t.text := by
  cases t with
  | endpoint p => cases p <;> decide
  | traceLevel level =>
    refine IsName.append (by decide) fun c hc => ?_
    rw [Numeral.decimal, String.toList_ofList] at hc
    exact Text.isBlank_of_isDigit (Numeral.isDigit_of_mem_digits hc)
  | traceFile name => exact IsName.append (by decide) (h name rfl).2
  | traceAppend => decide

namespace Options

/-! ## Reading words -/

theorem after?_append (mark w : List Char) : after? mark (mark ++ w) = some w := by
  induction mark with
  | nil => rfl
  | cons c mark ih => rw [List.cons_append, after?, if_pos rfl, ih]

/-- Options with the setting of one word made. -/
def withToken (o : Options) : Token → Options
  | .endpoint p => { o with prefixes := o.prefixes ++ [p] }
  | .traceLevel level => o.withTraceLevel level
  | .traceFile name => o.withTraceFile (.ofString name)
  | .traceAppend => o.withTraceAppend true

/-- The text of a word tells its setting. -/
theorem take?_text (o : Options) (t : Token) : take? o t.text.toList = some (o.withToken t) := by
  cases t with
  | endpoint p => cases p <;> rfl
  | traceLevel level =>
    have ht : (Token.traceLevel level).text.toList =
        "TraceLevel=".toList ++ Numeral.digits 10 level.toNat := by
      rw [Token.text, String.toList_append, Numeral.decimal]
      exact congrArg _ String.toList_ofList
    have ha : "TraceLevel=".toList ++ Numeral.digits 10 level.toNat ≠ "TraceAppend".toList := by
      simp
    have hf : after? "TraceFile=".toList
        ("TraceLevel=".toList ++ Numeral.digits 10 level.toNat) = none := rfl
    rw [take?, ht, if_neg ha, after?_append, hf]
    simp only [Numeral.decimal?_digits, Option.map_some, UInt32.ofNat_toNat, withToken]
  | traceFile name =>
    have ht : (Token.traceFile name).text.toList = "TraceFile=".toList ++ name.toList := by
      rw [Token.text, String.toList_append]
    have ha : "TraceFile=".toList ++ name.toList ≠ "TraceAppend".toList := by
      simp
    have hl : after? "TraceLevel=".toList ("TraceFile=".toList ++ name.toList) = none := rfl
    rw [take?, ht, if_neg ha, after?_append, hl]
    rfl
  | traceAppend => rfl

/-- The text of a word tells which word it is. -/
theorem token_text_injective : Function.Injective Token.text := by
  intro t u h
  have same : withToken {} t = withToken {} u := by
    rw [← Option.some_inj, ← take?_text, h, take?_text]
  simp only [withToken, withTraceLevel, withTraceFile, withTraceAppend] at same
  cases t with
  | traceFile name =>
    cases u with
    | traceFile name' =>
      have files := Option.some.inj (congrArg traceFile same)
      rw [Path.ofString_injective files]
    | _ => simp at same
  | _ => cases u <;> simp_all

/-- Words are read one after another. -/
theorem foldlM_take?_text (o : Options) (ts : List Token) :
    (ts.map (·.text.toList)).foldlM take? o = some (ts.foldl withToken o) := by
  induction ts generalizing o with
  | nil => rfl
  | cons t ts ih =>
    rw [List.map_cons, List.foldlM_cons, take?_text]
    exact ih _

theorem foldl_withToken_endpoints (o : Options) (ps : List Prefix) :
    (ps.map Token.endpoint).foldl withToken o = { o with prefixes := o.prefixes ++ ps } := by
  induction ps generalizing o with
  | nil => rw [List.append_nil]; rfl
  | cons p ps ih => simp [ih, withToken]

/-- The words of options make the options. -/
theorem foldl_withToken_tokensWith (o : Options) (name : Option String)
    (h : o.traceFile = name.map Path.ofString) : (o.tokensWith name).foldl withToken {} = o := by
  obtain ⟨prefixes, level, file, append⟩ := o
  cases h
  simp only [tokensWith, List.foldl_append, foldl_withToken_endpoints, List.nil_append]
  cases level <;> cases name <;> cases append <;> rfl

theorem ofWords?_tokensWith (o : Options) (name : Option String)
    (h : o.traceFile = name.map Path.ofString) :
    ofWords? ((o.tokensWith name).map (·.text.toList)) = some o := by
  rw [ofWords?, foldlM_take?_text, foldl_withToken_tokensWith o name h]

/-- The words are found again in their text, wherever it is cut at spaces and perhaps at other
blanks. -/
theorem runs_intercalate_tokensWith {separator : Char → Bool} (space : separator ' ')
    (blank : ∀ c, separator c → Text.isBlank c) (o : Options) {name : Option String}
    (h : ∀ s ∈ name, IsName s) :
    Text.runs separator (" ".intercalate ((o.tokensWith name).map Token.text)).toList =
      (o.tokensWith name).map (·.text.toList) := by
  rw [String.toList_intercalate, List.map_map]
  refine Text.runs_intercalate space fun w hw => ?_
  obtain ⟨t, ht, rfl⟩ := List.mem_map.1 hw
  have hn : IsName t.text := Token.text_isName fun s hs =>
    h s (traceFile_mem_tokensWith.1 (hs ▸ ht))
  refine ⟨fun he => hn.1 (String.toList_eq_nil_iff.1 he), fun c hc => ?_⟩
  exact Bool.eq_false_iff.2 fun hs => Bool.false_ne_true ((hn.2 c hc).symm.trans (blank c hs))

/-- The text of options is cut into its words again. -/
theorem words_render {o : Options} {text : String} (h : o.render = .ok text) :
    ∃ ts, o.tokens = .ok ts ∧ (Text.words text.toList).map String.ofList = ts.map Token.text := by
  obtain ⟨ts, ht, rfl⟩ := render_eq_ok_iff.1 h
  obtain ⟨name, -, hn, rfl⟩ := tokens_eq_ok_iff.1 ht
  refine ⟨_, ht, ?_⟩
  rw [Text.words_eq_runs, runs_intercalate_tokensWith rfl (fun _ h => h) o hn, List.map_map]
  exact List.map_congr_left fun t _ => String.ofList_toList

/-! ## The text of options -/

/-- The texts of the words, each spelled out. -/
theorem map_text_tokensWith (o : Options) (name : Option String) :
    (o.tokensWith name).map Token.text = o.prefixes.map Prefix.text ++
      o.traceLevel.toList.map ("TraceLevel=" ++ toString ·.toNat) ++
      name.toList.map ("TraceFile=" ++ ·) ++ if o.traceAppend then ["TraceAppend"] else [] := by
  simp only [tokensWith, List.map_append, List.map_map]
  congr 1
  · congr 2
    exact List.map_congr_left fun level _ =>
      congrArg ("TraceLevel=" ++ ·) (Numeral.decimal_eq_toString level.toNat)
  · cases o.traceAppend <;> rfl

/-- **The text tells the options.** Options can be rendered if and only if the trace file, if there
is one, can be a word. The words of their text are the prefixes in order, then the level, the file
and the mark for appending as far as they are set, whether the text is cut at all blanks or only at
spaces and some others; and the words make the same options again, so that no other options have
that text. -/
theorem render_unambiguous (o : Options) :
    ((∃ text, o.render = .ok text) ↔ ∀ file ∈ o.traceFile, file.IsWord) ∧
    ∀ text, o.render = .ok text →
      (∃ name : Option String, o.traceFile = name.map Path.ofString ∧
        ∀ separator : Char → Bool, separator ' ' → (∀ c, separator c → Text.isBlank c) →
          (Text.runs separator text.toList).map String.ofList = o.prefixes.map Prefix.text ++
            o.traceLevel.toList.map ("TraceLevel=" ++ toString ·.toNat) ++
            name.toList.map ("TraceFile=" ++ ·) ++
            if o.traceAppend then ["TraceAppend"] else []) ∧
      ofWords? (Text.words text.toList) = some o ∧
      ∀ o' : Options, o'.render = .ok text → o' = o := by
  refine ⟨exists_render_iff, fun text h => ?_⟩
  have hr (o' : Options) (h' : o'.render = .ok text) :
      ofWords? (Text.words text.toList) = some o' := by
    obtain ⟨ts, ht, rfl⟩ := render_eq_ok_iff.1 h'
    obtain ⟨name, hf, hn, rfl⟩ := tokens_eq_ok_iff.1 ht
    rw [Text.words_eq_runs, runs_intercalate_tokensWith rfl (fun _ h => h) o' hn]
    exact ofWords?_tokensWith o' name hf
  refine ⟨?_, hr o h, fun o' h' => Option.some.inj ((hr o' h').symm.trans (hr o h))⟩
  obtain ⟨ts, ht, rfl⟩ := render_eq_ok_iff.1 h
  obtain ⟨name, hf, hn, rfl⟩ := tokens_eq_ok_iff.1 ht
  refine ⟨name, hf, fun separator space blank => ?_⟩
  rw [runs_intercalate_tokensWith space blank o hn, List.map_map, ← map_text_tokensWith]
  exact List.map_congr_left fun t _ => String.ofList_toList

/-- A trace file that looks like another setting is still told from it. -/
theorem render_like_settings :
    let o : Options := ⟨[.sip, .sip], some 40, some (.ofString "TraceFile=é"), true⟩
    let text := "sip sip TraceLevel=40 TraceFile=TraceFile=é TraceAppend"
    o.render = .ok text ∧
      (Text.runs (· == ' ') text.toList).map String.ofList =
        ["sip", "sip", "TraceLevel=40", "TraceFile=TraceFile=é", "TraceAppend"] ∧
      ∀ o' : Options, o'.render = .ok text → o' = o := by
  intro o text
  have h : o.render = .ok text := by decide +kernel
  obtain ⟨⟨name, hf, hw⟩, -, hu⟩ := (render_unambiguous o).2 text h
  obtain ⟨s, rfl, hs⟩ := Option.map_eq_some_iff.1 hf.symm
  obtain rfl := Path.ofString_injective hs
  have blank : ∀ c : Char, (c == ' ') → Text.isBlank c := fun c hc => beq_iff_eq.1 hc ▸ rfl
  exact ⟨h, hw (· == ' ') rfl blank, hu⟩

end Options

end Switchboard
