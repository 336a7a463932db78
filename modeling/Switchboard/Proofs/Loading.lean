import Mathlib.Data.List.Basic
import Switchboard.Proofs.Run
import Switchboard.Trial.Folder

/-!
# Loaded engines

A library is loaded if it exports a function under the symbol of every entry point, and otherwise
the error names the first symbol without one (`resolve_of_firstMissing`). The loader looks functions
up by names of its own; what it finds is what is exported since these are the symbols
(`function_of_exports`). The engine that is loaded does what the exported functions do when they are
called directly, so a run with it is a run with them, after the notice of the load
(`runs_as_direct`).
-/

namespace Switchboard

variable {σ : Type}

namespace Library

variable {L : Library σ} {e : EntryPoint}

/-! ## What a library exports -/

/-- There is a function under the symbol of an entry point. -/
def Exports (L : Library σ) (e : EntryPoint) : Prop :=
  (L.lookup? e.symbol).isSome

instance (L : Library σ) : DecidablePred L.Exports :=
  fun e => inferInstanceAs (Decidable ((L.lookup? e.symbol).isSome = true))

/-- The function under the symbol of an entry point. -/
def exported (L : Library σ) (e : EntryPoint) (h : L.Exports e) : e.Signature σ :=
  (L.lookup? e.symbol).get h e

/-- The exported functions, called directly. -/
def direct (L : Library σ) (h : ∀ e, L.Exports e) : Engine σ where
  initialise := L.exported .initialise (h _)
  shutDown := L.exported .shutDown (h _)
  getMessage := L.exported .getMessage (h _)
  sendMessage := L.exported .sendMessage (h _)
  freeMessage := L.exported .freeMessage (h _)

/-- The first entry point that is not exported. -/
def firstMissing? (L : Library σ) : Option EntryPoint :=
  EntryPoint.all.find? fun e => ¬ L.Exports e

/-- The symbol of the first entry point that is not exported is the first symbol that is missing. -/
theorem firstMissing?_map_symbol (L : Library σ) : L.firstMissing?.map EntryPoint.symbol =
    (EntryPoint.all.map EntryPoint.symbol).find? fun symbol => (L.lookup? symbol).isNone := by
  rw [List.find?_map, firstMissing?]
  congr 2
  funext e
  cases h : L.lookup? e.symbol <;> simp [Exports, h]

theorem function_of_exports (h : L.Exports e) : L.function e = .ok (L.exported e h) := by
  obtain ⟨code, hc⟩ := Option.isSome_iff_exists.1 h
  rw [exported, Option.get_of_eq_some h hc, function, key_eq_symbol, hc]

theorem function_of_not_exports (h : ¬ L.Exports e) : L.function e = .error e.symbol := by
  have hn : L.lookup? e.symbol = none := by simpa [Exports] using h
  rw [function, key_eq_symbol, hn]

/-- Those before the first one that is missing are exported. -/
theorem exports_of_firstMissing (h : L.firstMissing? = some e) :
    ∀ f ∈ EntryPoint.all.takeWhile (· ≠ e), L.Exports f := by
  obtain ⟨missing, before, after, hall, hb⟩ := List.find?_eq_some_iff_append.1 h
  have ne : ∀ f ∈ before, decide (f ≠ e) = true := by
    refine fun f hf => decide_eq_true ?_
    rintro rfl
    simpa [missing] using hb f hf
  rw [hall, List.takeWhile_append_of_pos ne, List.takeWhile_cons_of_neg (by simp),
    List.append_nil]
  exact fun f hf => by simpa using hb f hf

/-! ## The library of an engine -/

theorem lookup?_ofEngine (E : Engine σ) (exported : EntryPoint → Bool) (e : EntryPoint) :
    (ofEngine E exported).lookup? e.symbol = if exported e then some (E.code e) else none := by
  have same_symbol (f : EntryPoint) : decide (f.symbol = e.symbol) = decide (f = e) :=
    decide_eq_decide.2 ⟨EntryPoint.symbol_injective, congrArg _⟩
  simp only [ofEngine, same_symbol]
  cases hx : exported e <;> cases e <;> simp [EntryPoint.all, hx]

theorem exports_ofEngine {E : Engine σ} {exported : EntryPoint → Bool} :
    (ofEngine E exported).Exports e ↔ exported e = true := by
  rw [Exports, lookup?_ofEngine]
  cases exported e <;> simp

theorem exported_ofEngine {E : Engine σ} {exported : EntryPoint → Bool}
    (h : (ofEngine E exported).Exports e) : (ofEngine E exported).exported e h = E.entry e := by
  have hl := lookup?_ofEngine E exported e
  rw [if_pos (exports_ofEngine.1 h)] at hl
  rw [Library.exported, Option.get_of_eq_some h hl]
  exact if_pos rfl

/-- What the library of an engine exports is the engine. -/
theorem direct_ofEngine (E : Engine σ) (exported : EntryPoint → Bool)
    (h : ∀ e, (ofEngine E exported).Exports e) : (ofEngine E exported).direct h = E := by
  simp only [direct, exported_ofEngine]
  rfl

/-! ## Looking the functions up -/

theorem resolve_of_exports (h : ∀ e, L.Exports e) : L.resolve = .ok (L.direct h) := by
  simp only [resolve, table, function_of_exports (h _)]
  rfl

/-- The functions are looked up one after another, and the first that is missing is the error. -/
theorem resolve_of_firstMissing (h : L.firstMissing? = some e) :
    L.resolve = .error e.symbol := by
  have before := fun f hf => function_of_exports (exports_of_firstMissing h f hf)
  have missing : L.function e = .error e.symbol := by
    have := List.find?_some h
    exact function_of_not_exports (by simpa using this)
  have table : L.table = .error e.symbol := by
    rw [table]
    cases e with
    | initialise => rw [missing]; rfl
    | shutDown => rw [before .initialise (by decide), missing]; rfl
    | getMessage => rw [before .initialise (by decide), before .shutDown (by decide), missing]; rfl
    | sendMessage =>
      rw [before .initialise (by decide), before .shutDown (by decide),
        before .getMessage (by decide), missing]
      rfl
    | freeMessage =>
      rw [before .initialise (by decide), before .shutDown (by decide),
        before .getMessage (by decide), before .sendMessage (by decide), missing]
      rfl
  rw [resolve, table]
  rfl

end Library

/-! ## Runs -/

/-- What happened before a run has no part in it. -/
theorem History.run_append_trace {E : Engine σ} (t : Trace) (h : History σ) (ms : List (Move σ)) :
    run E { h with trace := t.append h.trace } ms =
      { h.run E ms with trace := t.append (h.run E ms).trace } := by
  induction ms generalizing h with
  | nil => rfl
  | cons m ms ih =>
    have step_eq : step E { h with trace := t.append h.trace } m =
        { h.step E m with trace := t.append (h.step E m).trace } := by
      cases m with
      | operation op => simp only [step, Trace.append_assoc]
      | outside f => rfl
    change run E (step E _ m) ms = _
    rw [step_eq, ih]
    rfl

section Load

variable {opener : Opener σ} {path p : Path} {L : Library σ} {s : Session σ}

/-- A load gives an engine and writes a notice, or it gives an error and nothing happens. -/
theorem load_cases (opener : Opener σ) (path : Path) (s : Session σ) :
    (∃ e, load opener path s = ⟨.error e, {}, s⟩) ∨
      ∃ E, load opener path s = ⟨.ok E, ⟨[], [.loaded path]⟩, s⟩ := by
  cases h : openEngine opener path with
  | error fault => exact .inl ⟨.loading fault, by simp [load, h]⟩
  | ok E => exact .inr ⟨E, by simp [load, h, Trace.append]⟩

theorem load_of_exports (usable : terminated path = .ok p) (opened : opener p = .ok L)
    (h : ∀ e, L.Exports e) :
    load opener path s = ⟨.ok (L.direct h), ⟨[], [.loaded path]⟩, s⟩ := by
  simp [load, openEngine, usable, opened, Library.resolve_of_exports h, Trace.append]

theorem load_of_firstMissing {e : EntryPoint} (usable : terminated path = .ok p)
    (opened : opener p = .ok L) (h : L.firstMissing? = some e) :
    load opener path s = ⟨.error (.loading (.noSymbol p e.symbol)), {}, s⟩ := by
  simp [load, openEngine, usable, opened, Library.resolve_of_firstMissing h]

/-- **A loaded engine runs as its functions do when they are called directly.** A library that was
opened is loaded if it exports the symbols of the five entry points; otherwise the error names the
first of them that is missing, no function is called and nothing is written. Whatever is done with
an engine that was loaded has the results, the calls, the state of the engine and the notices that
it has with the exported functions, after one notice of the load. -/
theorem runs_as_direct (usable : terminated path = .ok p) (opened : opener p = .ok L) :
    let symbols :=
      ["OpalInitialise", "OpalShutDown", "OpalGetMessage", "OpalSendMessage", "OpalFreeMessage"]
    EntryPoint.all.map EntryPoint.symbol = symbols ∧
    EntryPoint.all.map EntryPoint.text = symbols ∧
    (∀ s, (∃ E, (load opener path s).value = .ok E) ↔
      ∀ symbol ∈ symbols, (L.lookup? symbol).isSome) ∧
    (∀ missing, symbols.find? (fun symbol => (L.lookup? symbol).isNone) = some missing →
      ∀ s, load opener path s = ⟨.error (.loading (.noSymbol p missing)), {}, s⟩) ∧
    ∀ (h : ∀ e, L.Exports e) (engine : σ), ∃ E : Engine σ,
      load opener path { engine } = ⟨.ok E, ⟨[], [.loaded path]⟩, { engine }⟩ ∧
      ∀ ms, let d := (History.start engine).run (L.direct h) ms
        History.run E { trace := ⟨[], [.loaded path]⟩, session := { engine } } ms =
          ⟨⟨d.trace.calls, .loaded path :: d.trace.notices⟩, d.results, d.session⟩ := by
  intro symbols
  have shown : EntryPoint.all.map EntryPoint.text = EntryPoint.all.map EntryPoint.symbol :=
    List.map_congr_left fun e _ => e.text_eq_symbol
  have refused {missing : String}
      (h : symbols.find? (fun symbol => (L.lookup? symbol).isNone) = some missing)
      (s : Session σ) : load opener path s = ⟨.error (.loading (.noSymbol p missing)), {}, s⟩ := by
    obtain ⟨e, he, rfl⟩ := Option.map_eq_some_iff.1 (L.firstMissing?_map_symbol.trans h)
    exact load_of_firstMissing usable opened he
  refine ⟨rfl, shown, fun s => ⟨?_, fun h => ?_⟩, fun missing => refused, fun h engine =>
    ⟨_, load_of_exports usable opened h, fun ms => ?_⟩⟩
  · rintro ⟨E, hE⟩ symbol hs
    by_contra missing
    have some_missing : (symbols.find? fun symbol => (L.lookup? symbol).isNone).isSome :=
      List.find?_isSome.2 ⟨symbol, hs, by simpa using missing⟩
    obtain ⟨first, hf⟩ := Option.isSome_iff_exists.1 some_missing
    rw [refused hf] at hE
    cases hE
  · have all : ∀ e : EntryPoint, L.Exports e := fun e =>
      h e.symbol (List.mem_map_of_mem e.mem_all)
    exact ⟨_, by rw [load_of_exports usable opened all]⟩
  · exact History.run_append_trace ⟨[], [.loaded path]⟩ (History.start engine) ms

end Load

/-! ## The library for trials -/

namespace Trial

theorem exports_library (e : EntryPoint) : (library EntryPoint.all).Exports e :=
  Library.exports_ofEngine.2 (decide_eq_true (EntryPoint.mem_all e))

theorem direct_library : (library EntryPoint.all).direct exports_library = engine :=
  Library.direct_ofEngine ..

/-- The library that exports all entry points is loaded as the engine for trials. -/
theorem load_library {opener : Opener State} {path p : Path} {s : Session State}
    (usable : terminated path = .ok p) (opened : opener p = .ok (library EntryPoint.all)) :
    load opener path s = ⟨.ok engine, ⟨[], [.loaded path]⟩, s⟩ := by
  rw [load_of_exports usable opened exports_library, direct_library]

end Trial

/-- The moves of a run in which a message is received and given away. -/
def firstMessage : List (Move Trial.State) :=
  [.operation (.initialise "inst" 40 "sip"), .outside fun e => e.push.2,
    .operation (.getMessage "inst" (Duration.ofMillis 5) "msg"),
    .operation (.giveAway "msg" "kept"), .operation (.discardInstance "inst")]

/-- A library that lacks two entry points is refused for the first of them, and with a library that
has all of them a run goes as it goes with the engine itself. -/
theorem firstMessage_runs_as_direct :
    let path := Path.ofString "./libopal.so"
    let lacking : Opener Trial.State := fun _ =>
      .ok (Trial.library [.initialise, .shutDown, .sendMessage])
    let full : Opener Trial.State := fun _ => .ok (Trial.library EntryPoint.all)
    (∀ s, load lacking path s = ⟨.error (.loading (.noSymbol path "OpalGetMessage")), {}, s⟩) ∧
    ∃ E : Engine Trial.State,
      load full path { engine := {} } = ⟨.ok E, ⟨[], [.loaded path]⟩, { engine := {} }⟩ ∧
      (History.run E { trace := ⟨[], [.loaded path]⟩, session := { engine := {} } }
        firstMessage).trace =
        ⟨[.initialise 40 "sip" ⟨16, 33⟩, .getMessage 0 16 5 32, .shutDown 0 16],
          [.loaded path, .downgraded 40 33, .initialised 33 "sip", .received 32,
            .shuttingDown 33]⟩ := by
  intro path lacking full
  have usable : terminated path = .ok path := by decide
  have lacking_opened : lacking path =
      .ok (Trial.library [.initialise, .shutDown, .sendMessage]) := rfl
  have full_opened : full path = .ok (Trial.library EntryPoint.all) := rfl
  obtain ⟨-, -, -, refused, -⟩ := runs_as_direct usable lacking_opened
  obtain ⟨-, -, -, -, loaded⟩ := runs_as_direct usable full_opened
  obtain ⟨E, load_eq, run_eq⟩ := loaded Trial.exports_library {}
  refine ⟨refused _ (by decide), E, load_eq, ?_⟩
  rw [run_eq, Trial.direct_library]
  exact congrArg₂ Trace.mk (by decide) (congrArg _ (by decide))

end Switchboard
