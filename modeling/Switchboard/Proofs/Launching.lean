import Switchboard.Launch
import Switchboard.Proofs.Edits
import Switchboard.Proofs.Loading
import Switchboard.Proofs.Starting

/-!
# Launches

A launch is a load, and then a start of the engine that was loaded with the options of the launch
(`Launch.start_of_loaded`); a load that fails ends it (`Launch.start_of_load_error`). So what is
known of options and of starting an engine carries over: the prefixes come each once, no trace is
added to the end of its file, and what fails leaves nothing behind.
-/

namespace Switchboard

namespace Launch

variable {σ : Type} {l : Launch} {opener : Opener σ} {os : String} {environment : Option Path}
  {s : Session σ} {E : Engine σ} {e : Error} {path : Path}

/-- The library is the given one, else the one in the environment unless it is empty, else the one
that is usual on the platform. -/
theorem libraryPath_eq (l : Launch) (os : String) (environment : Option Path) :
    l.libraryPath os environment = (l.library.or (environment.filter (·.bytes ≠ []))).getD
      (.ofString (Platform.libraryName os)) := by
  rw [libraryPath]
  cases l.library with
  | some path => rfl
  | none =>
    cases environment with
    | none => rfl
    | some path =>
      by_cases hp : path.bytes = [] <;> simp [Platform.libraryPath, Option.filter, hp]

theorem options_eq (l : Launch) :
    l.options = ⟨l.prefixes.eraseDups, l.traceLevel, l.traceFile, false⟩ := by
  have added : ({} : Options).addAll l.prefixes = { prefixes := l.prefixes.eraseDups } := by
    rw [Options.addAll_eq, Options.news, List.removeAll_nil, List.nil_append]
  rw [options, added]
  cases l.traceLevel <;> cases l.traceFile <;> rfl

theorem prefixes_options (l : Launch) :
    l.options.prefixes = (({} : Options).addAll l.prefixes).prefixes := by
  rw [options]
  cases l.traceLevel <;> cases l.traceFile <;> rfl

theorem start_of_load_error (h : load opener (l.libraryPath os environment) s = ⟨.error e, {}, s⟩) :
    l.start opener os environment s = ⟨.error e, {}, s⟩ := by
  simp [start, h]

/-- What comes of a launch after the load. -/
theorem start_of_loaded (path_eq : l.libraryPath os environment = path)
    (h : load opener path s = ⟨.ok E, ⟨[], [.loaded path]⟩, s⟩) :
    l.start opener os environment s =
      ⟨(Instance.initialiseWith E l.options s).value.map (E, ·),
        ⟨(Instance.initialiseWith E l.options s).trace.calls,
          .loaded path :: (Instance.initialiseWith E l.options s).trace.notices⟩,
        (Instance.initialiseWith E l.options s).session⟩ := by
  subst path_eq
  simp only [start, Action.bind_apply, h]
  cases (Instance.initialiseWith E l.options s).value <;> simp [Trace.append, Except.map]

/-- The words of a launch: each of its prefixes once, and no mark for appending. -/
theorem words_options {text : String} (h : l.options.render = .ok text) :
    let words := (Text.words text.toList).map String.ofList
    words.Nodup ∧ (∀ p : Prefix, p.text ∈ words ↔ p ∈ l.prefixes) ∧ "TraceAppend" ∉ words := by
  obtain ⟨ts, ht, words_eq⟩ := Options.words_render h
  obtain ⟨name, -, -, rfl⟩ := Options.tokens_eq_ok_iff.1 ht
  have mem (t : Token) : t.text ∈ (l.options.tokensWith name).map Token.text ↔
      t ∈ l.options.tokensWith name := List.mem_map_of_injective Options.token_text_injective
  have once : l.options.prefixes.Nodup :=
    prefixes_options l ▸ Options.nodup_prefixes_addAll List.nodup_nil l.prefixes
  have given (p : Prefix) : p ∈ l.options.prefixes ↔ p ∈ l.prefixes := by
    rw [prefixes_options, Options.mem_prefixes_addAll]
    exact or_iff_right List.not_mem_nil
  have no_append : l.options.traceAppend = false := by rw [options_eq]
  rw [words_eq]
  refine ⟨(Options.nodup_tokensWith once name).map Options.token_text_injective, fun p => ?_,
    fun ha => ?_⟩
  · exact (mem (.endpoint p)).trans (Options.endpoint_mem_tokensWith.trans (given p))
  · have append := Options.traceAppend_mem_tokensWith.1 ((mem .traceAppend).1 ha)
    rw [no_append] at append
    cases append

/-- **A launch is a load and then a start with the options of the launch.** The library is the given
one, else the one in the environment unless it is empty, else the usual one. If the load fails, its
error is the result, whatever else was asked for, and nothing happens. If it gives an engine, the
result, the calls and the session are those of `Instance.initialiseWith`, with options that have the
given prefixes, each where it comes first, the given level, the given file, and no appending. So the
engine gets one initialise call at most; the words of its text name each prefix once, and none is
the mark for appending. A launch that fails shuts nothing down, and leaves the session as it was but
for what the engine did in that call: none was made if the trace file cannot be expressed, and a
null handle is a failure. -/
theorem start_composes (l : Launch) (opener : Opener σ) (os : String) (environment : Option Path)
    (s : Session σ) :
    let path := (l.library.or (environment.filter (·.bytes ≠ []))).getD
      (.ofString (Platform.libraryName os))
    let o : Options := ⟨l.prefixes.eraseDups, l.traceLevel, l.traceFile, false⟩
    let d := l.start opener os environment s
    (∀ e, (load opener path s).value = .error e → d = ⟨.error e, {}, s⟩) ∧
    (∀ E, (load opener path s).value = .ok E →
      let d' := Instance.initialiseWith E o s
      d = ⟨d'.value.map (E, ·), ⟨d'.trace.calls, .loaded path :: d'.trace.notices⟩, d'.session⟩ ∧
      (¬ o.IsExpressible → ∃ e, d = ⟨.error e, ⟨[], [.loaded path]⟩, s⟩)) ∧
    (d.trace.calls = [] ∨ ∃ text answer,
      d.trace.calls = [.initialise interfaceVersion text answer] ∧
      (answer.handle = 0 → d.value = .error (.initialiseFailed interfaceVersion answer.version)) ∧
      let words := (Text.words text.toList).map String.ofList
      words.Nodup ∧ (∀ p : Prefix, p.text ∈ words ↔ p ∈ l.prefixes) ∧ "TraceAppend" ∉ words) ∧
    ∀ e, d.value = .error e → d.session = { s with engine := d.session.engine } ∧
      ∀ k a, .shutDown k a ∉ d.trace.calls := by
  intro path o d
  have options_eq : l.options = o := options_eq l
  have path_eq : l.libraryPath os environment = path := libraryPath_eq l os environment
  -- the load decides whether there is an engine to start, and the options do not matter before
  obtain ⟨e, load_eq⟩ | ⟨E, load_eq⟩ := load_cases opener path s
  · have failed : d = ⟨.error e, {}, s⟩ := start_of_load_error (path_eq ▸ load_eq)
    rw [failed, load_eq]
    refine ⟨fun e' he => ?_, fun E hE => ?_, .inl rfl, fun e' _ => ⟨rfl, fun k a => ?_⟩⟩
    · rw [Except.error.inj he]
    · cases hE
    · exact List.not_mem_nil
  · have started : d = _ := start_of_loaded path_eq load_eq
    rw [options_eq] at started
    rw [started, load_eq]
    refine ⟨fun e he => ?_, fun E' hE => ?_, ?_, fun e he => ?_⟩
    · cases he
    · obtain rfl := Except.ok.inj hE
      refine ⟨rfl, fun hx => ?_⟩
      obtain ⟨e, he, -⟩ := Options.initialiseWith_of_not_isExpressible E s hx
      exact ⟨e, by rw [he]; rfl⟩
    · obtain ⟨e, he⟩ | ⟨text, ht, h₀, eq⟩ := Options.initialiseWith_cases E o s
      · rw [he]
        exact .inl rfl
      · rw [eq]
        refine .inr ⟨text, _, Instance.initialise_calls h₀, fun null => ?_,
          words_options (options_eq ▸ ht)⟩
        rw [Instance.initialise_value_of_null h₀ null]
        rfl
    · cases hv : (Instance.initialiseWith E o s).value with
      | error e' => exact Options.initialiseWith_of_failed hv
      | ok i =>
        simp only [hv] at he
        cases he

/-- A prefix that is named twice is given to the engine once. A blank in the name of the trace file
ends the launch after the load; a library without the other entry points ends it before. Where the
environment has no path, or an empty one, the usual library of the platform is loaded. -/
theorem launches_compose :
    let l : Launch :=
      { prefixes := [.sip, .h323, .sip], traceLevel := some 3,
        traceFile := some (.ofString "/tmp/opal.log") }
    let blank : Launch := { l with traceFile := some (.ofString "my log") }
    let path := Path.ofString "./libopal.so"
    let full : Opener Trial.State := fun _ => .ok (Trial.library EntryPoint.all)
    let lacking : Opener Trial.State := fun _ => .ok (Trial.library [.initialise])
    let s : Session Trial.State := { engine := {} }
    (l.start full "linux" (some path) s).trace.calls =
      [.initialise 33 "sip h323 TraceLevel=3 TraceFile=/tmp/opal.log" ⟨16, 33⟩] ∧
    (∃ e, blank.start full "linux" (some path) s = ⟨.error e, ⟨[], [.loaded path]⟩, s⟩) ∧
    blank.start lacking "linux" (some path) s =
      ⟨.error (.loading (.noSymbol path "OpalShutDown")), {}, s⟩ ∧
    (l.start full "macos" none s).trace.notices.head? =
      some (.loaded (.ofString "libopal.dylib")) ∧
    (l.start full "windows" (some ⟨[]⟩) s).trace.notices.head? =
      some (.loaded (.ofString "opal.dll")) := by
  intro l blank path full lacking s
  have loaded {path : Path} (usable : terminated path = .ok path) :
      (load full path s).value = .ok Trial.engine := by
    rw [Trial.load_library usable rfl]
  have refused : (load lacking path s).value =
      .error (.loading (.noSymbol path "OpalShutDown")) := by
    rw [load_of_firstMissing (p := path) (by decide) rfl (e := .shutDown) (by decide)]
    rfl
  obtain ⟨-, started, -⟩ := start_composes l full "linux" (some path) s
  obtain ⟨-, ended, -⟩ := start_composes blank full "linux" (some path) s
  obtain ⟨failed, -⟩ := start_composes blank lacking "linux" (some path) s
  obtain ⟨-, without, -⟩ := start_composes l full "macos" none s
  obtain ⟨-, emptied, -⟩ := start_composes l full "windows" (some ⟨[]⟩) s
  refine ⟨?_, (ended _ (loaded (by decide))).2 fun expressible => ?_, failed _ refused, ?_, ?_⟩
  · rw [(started _ (loaded (by decide))).1]
    decide +kernel
  · obtain ⟨⟨name, bytes, word⟩, -⟩ := expressible _ rfl
    obtain rfl := Path.ofString_injective (Path.eq_ofString_iff.2 bytes)
    exact absurd word (by decide)
  · rw [(without _ (loaded (by decide))).1]
    rfl
  · rw [(emptied _ (loaded (by decide))).1]
    rfl

end Launch

end Switchboard
