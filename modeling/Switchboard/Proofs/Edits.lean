import Mathlib.Data.List.Induction
import Mathlib.Data.List.Nodup
import Switchboard.Options.Field

/-!
# Series of edits

What options become by a series of edits can be read off the series. Prefixes are added at the end
of those that were there, each one where it comes first and only if it was not there
(`Options.prefixes_editAll`). Any other field has the value of the last edit that sets it
(`Options.getLast?_editAll`). So a series counts by what it adds and by what it sets, and neither by
how prefixes are put together to edits nor by the order of edits of different fields
(`Options.editAll_eq`).
-/

namespace Switchboard.Options

/-! ## What an edit says -/

namespace Edit

/-- The field that an edit works on. -/
def field : Edit → Field
  | .add _ | .addAll _ => .prefixes
  | .traceLevel _ => .traceLevel
  | .traceFile _ => .traceFile
  | .traceAppend _ => .traceAppend

/-- The prefixes that an edit names, in their order. -/
def prefixes : Edit → List Prefix
  | .add p => [p]
  | .addAll ps => ps
  | _ => []

def level? : Edit → Option UInt32
  | .traceLevel level => some level
  | _ => none

def file? : Edit → Option Path
  | .traceFile file => some file
  | _ => none

def append? : Edit → Option Bool
  | .traceAppend append => some append
  | _ => none

/-- An edit asks for what the options have: it names no new prefix, or it sets a field to the value
that is there. -/
def IsMet (o : Options) : Edit → Prop
  | .add p => p ∈ o.prefixes
  | .addAll ps => ps ⊆ o.prefixes
  | .traceLevel level => o.traceLevel = some level
  | .traceFile file => ∃ old, o.traceFile = some old ∧ file.sameAs old
  | .traceAppend append => o.traceAppend = append

end Edit

variable {o : Options} {es es' : List Edit} {e a b : Edit} {p : Prefix} {ps qs : List Prefix}

theorem editAll_append_singleton : o.editAll (es ++ [e]) = (o.editAll es).edit e :=
  List.foldl_concat ..

/-! ## Adding prefixes -/

theorem add_of_mem (h : p ∈ o.prefixes) : o.add p = o :=
  if_pos h

theorem add_of_notMem (h : p ∉ o.prefixes) :
    o.add p = { o with prefixes := o.prefixes ++ [p] } :=
  if_neg h

theorem addAll_append : o.addAll (ps ++ qs) = (o.addAll ps).addAll qs :=
  List.foldl_append

/-- The new ones among some prefixes, each where it comes first. -/
def news (old ps : List Prefix) : List Prefix :=
  (ps.removeAll old).eraseDups

theorem news_cons_of_mem {old : List Prefix} (h : p ∈ old) : news old (p :: ps) = news old ps := by
  simp [news, List.removeAll, h]

theorem news_cons_of_notMem {old : List Prefix} (h : p ∉ old) :
    news old (p :: ps) = p :: news (old ++ [p]) ps := by
  have first : (p :: ps).removeAll old = p :: ps.removeAll old := by simp [List.removeAll, h]
  have rest : (ps.removeAll old).filter (!· == p) = ps.removeAll (old ++ [p]) := by
    simp only [List.removeAll, List.filter_filter]
    refine List.filter_congr fun q _ => ?_
    by_cases hq : q = p <;> simp [hq]
  rw [news, first, List.eraseDups_cons, rest]
  rfl

theorem addAll_eq (o : Options) (ps : List Prefix) :
    o.addAll ps = { o with prefixes := o.prefixes ++ news o.prefixes ps } := by
  induction ps generalizing o with
  | nil => simp [addAll, news, List.removeAll]
  | cons p ps ih =>
    change (o.add p).addAll ps = _
    by_cases h : p ∈ o.prefixes
    · rw [add_of_mem h, ih, news_cons_of_mem h]
    · rw [add_of_notMem h, ih, news_cons_of_notMem h, List.append_assoc]
      rfl

theorem mem_prefixes_addAll : p ∈ (o.addAll ps).prefixes ↔ p ∈ o.prefixes ∨ p ∈ ps := by
  simp only [addAll_eq, news, List.removeAll, List.mem_append, List.mem_eraseDups, List.mem_filter,
    List.elem_eq_mem, Bool.not_eq_true', decide_eq_false_iff_not]
  tauto

theorem addAll_of_subset (h : ps ⊆ o.prefixes) : o.addAll ps = o := by
  have none : ps.removeAll o.prefixes = [] := by
    refine List.filter_eq_nil_iff.2 fun p hp => ?_
    simp [h hp]
  rw [addAll_eq, news, none, List.eraseDups_nil, List.append_nil]

theorem addAll_addAll (o : Options) (ps : List Prefix) :
    (o.addAll ps).addAll ps = o.addAll ps :=
  addAll_of_subset fun _ hp => mem_prefixes_addAll.2 (.inr hp)

/-- A prefix that is there once stays there once. -/
theorem nodup_prefixes_add (h : o.prefixes.Nodup) (p : Prefix) : (o.add p).prefixes.Nodup := by
  by_cases hp : p ∈ o.prefixes
  · rwa [add_of_mem hp]
  · rw [add_of_notMem hp]
    exact List.concat_eq_append ▸ h.concat hp

theorem nodup_prefixes_addAll (h : o.prefixes.Nodup) (ps : List Prefix) :
    (o.addAll ps).prefixes.Nodup := by
  induction ps generalizing o with
  | nil => exact h
  | cons p ps ih => exact ih (nodup_prefixes_add h p)

theorem length_le_of_nodup (h : ps.Nodup) : ps.length ≤ 15 := by
  have all : ps ⊆ Prefix.all := fun p _ => p.mem_all
  exact h.length_le_of_subset all

/-! ## Edits one by one -/

/-- An edit says of every field what becomes of it. -/
theorem edit_eq (o : Options) (e : Edit) :
    o.edit e =
      { prefixes := o.prefixes ++ news o.prefixes e.prefixes
        traceLevel := e.level?.or o.traceLevel
        traceFile := e.file?.or o.traceFile
        traceAppend := e.append?.getD o.traceAppend } := by
  cases e with
  | add p => exact addAll_eq o [p]
  | addAll ps => exact addAll_eq o ps
  | traceLevel level => exact congrArg (withTraceLevel · level) (addAll_eq o [])
  | traceFile file => exact congrArg (withTraceFile · file) (addAll_eq o [])
  | traceAppend append => exact congrArg (withTraceAppend · append) (addAll_eq o [])

/-- An edit that is made again changes nothing. -/
theorem edit_edit (o : Options) (e : Edit) : (o.edit e).edit e = o.edit e := by
  cases e with
  | add p => exact addAll_addAll o [p]
  | addAll ps => exact addAll_addAll o ps
  | traceLevel level => rfl
  | traceFile file => rfl
  | traceAppend append => rfl

/-! ## Series of edits -/

theorem prefixes_editAll (o : Options) (es : List Edit) :
    (o.editAll es).prefixes = (o.addAll (es.flatMap Edit.prefixes)).prefixes := by
  induction es using List.reverseRecOn with
  | nil => rfl
  | append_singleton es e ih =>
    rw [editAll_append_singleton, edit_eq, List.flatMap_append, addAll_append,
      List.flatMap_singleton, addAll_eq (o.addAll _), ih]

/-- A field that edits set, and otherwise leave alone, has the value of the last edit that sets it.
-/
theorem getLast?_editAll {α : Type} (get : Options → Option α) (set? : Edit → Option α)
    (step : ∀ o e, get (o.edit e) = (set? e).or (get o)) (o : Options) (es : List Edit) :
    get (o.editAll es) = (es.filterMap set?).getLast?.or (get o) := by
  induction es using List.reverseRecOn with
  | nil => rfl
  | append_singleton es e ih =>
    have last : ([e].filterMap set?).getLast? = set? e := by
      cases h : set? e <;> simp [h]
    rw [editAll_append_singleton, step, ih, List.filterMap_append, List.getLast?_append, last,
      Option.or_assoc]

/-- Options after a series of edits. -/
theorem editAll_eq (o : Options) (es : List Edit) :
    o.editAll es =
      { prefixes := o.prefixes ++ news o.prefixes (es.flatMap Edit.prefixes)
        traceLevel := (es.filterMap Edit.level?).getLast?.or o.traceLevel
        traceFile := (es.filterMap Edit.file?).getLast?.or o.traceFile
        traceAppend := (es.filterMap Edit.append?).getLast?.getD o.traceAppend } := by
  have level := getLast?_editAll traceLevel Edit.level? (fun o e => by rw [edit_eq]) o es
  have file := getLast?_editAll traceFile Edit.file? (fun o e => by rw [edit_eq]) o es
  have append := getLast?_editAll (fun o => some o.traceAppend) Edit.append?
    (fun o e => by rw [edit_eq, Option.or_some]) o es
  have added := (prefixes_editAll o es).trans (congrArg prefixes (addAll_eq o _))
  rw [Option.or_some] at append
  rw [← level, ← file, ← Option.some.inj append]
  exact congrArg (fun ps => { o.editAll es with prefixes := ps }) added

/-- What is there twice at the start stays there twice. -/
example :
    (editAll { prefixes := [.sip, .sip] } [.add .h323, .addAll [.sip, .fax, .h323]]).prefixes =
      [.sip, .sip, .h323, .fax] := by decide

/-- Series of edits count by what they add, and by what they set each other field to. -/
theorem editAll_congr (added : es.flatMap Edit.prefixes = es'.flatMap Edit.prefixes)
    (level : es.filterMap Edit.level? = es'.filterMap Edit.level?)
    (file : es.filterMap Edit.file? = es'.filterMap Edit.file?)
    (append : es.filterMap Edit.append? = es'.filterMap Edit.append?) :
    o.editAll es = o.editAll es' := by
  rw [editAll_eq, editAll_eq, added, level, file, append]

/-- Edits of different fields may change places. -/
theorem edit_comm (h : a.field ≠ b.field) : (o.edit a).edit b = (o.edit b).edit a := by
  change o.editAll [a, b] = o.editAll [b, a]
  cases a <;> cases b <;> first | exact absurd rfl h | exact editAll_congr rfl rfl rfl rfl

/-- Edits that set other fields than the prefixes can be told from their series without those that
add prefixes. -/
theorem filterMap_filter_field {α : Type} {set? : Edit → Option α}
    (h : ∀ e, e.field = .prefixes → set? e = none) (es : List Edit) :
    (es.filter (·.field ≠ .prefixes)).filterMap set? = es.filterMap set? := by
  rw [List.filterMap_filter]
  refine List.filterMap_congr fun e _ => ?_
  by_cases he : e.field = .prefixes <;> simp [he, h e]

/-- How the prefixes are put together to edits, and where these stand among the others, makes no
difference. -/
theorem editAll_congr_of_filter (added : es.flatMap Edit.prefixes = es'.flatMap Edit.prefixes)
    (others : es.filter (·.field ≠ .prefixes) = es'.filter (·.field ≠ .prefixes)) :
    o.editAll es = o.editAll es' := by
  have set_eq {α : Type} {set? : Edit → Option α} (h : ∀ e, e.field = .prefixes → set? e = none) :
      es.filterMap set? = es'.filterMap set? := by
    rw [← filterMap_filter_field h es, others, filterMap_filter_field h es']
  refine editAll_congr added (set_eq ?_) (set_eq ?_) (set_eq ?_) <;>
    rintro (p | ps | level | file | append) ⟨⟩ <;> rfl

/-! ## Edits that are met already -/

theorem sameFile_self (file : Option Path) : sameFile file file := by
  cases file with
  | none => rfl
  | some p => exact decide_eq_true rfl

theorem sameAs_iff {o' : Options} :
    o.sameAs o' ↔ o.prefixes = o'.prefixes ∧ o.traceLevel = o'.traceLevel ∧
      sameFile o.traceFile o'.traceFile ∧ o.traceAppend = o'.traceAppend := by
  simp only [sameAs, Bool.and_eq_true, decide_eq_true_eq, and_assoc]

theorem sameFile_some_iff {file : Path} {old : Option Path} :
    sameFile (some file) old ↔ ∃ p, old = some p ∧ file.sameAs p := by
  cases old <;> simp [sameFile]

/-- Adding prefixes makes a difference unless all of them are there. -/
theorem sameAs_addAll_iff : (o.addAll ps).sameAs o ↔ ps ⊆ o.prefixes := by
  constructor
  · intro h p hp
    rw [← (sameAs_iff.1 h).1]
    exact mem_prefixes_addAll.2 (.inr hp)
  · intro h
    rw [addAll_of_subset h]
    exact sameAs_iff.2 ⟨rfl, rfl, sameFile_self _, rfl⟩

theorem sameAs_edit_iff : (o.edit e).sameAs o ↔ e.IsMet o := by
  cases e with
  | add p =>
    have one : [p] ⊆ o.prefixes ↔ p ∈ o.prefixes := by simp
    exact (sameAs_addAll_iff (o := o)).trans one
  | addAll ps => exact sameAs_addAll_iff
  | traceLevel level =>
    rw [sameAs_iff]
    exact ⟨fun h => h.2.1.symm, fun h => ⟨rfl, h.symm, sameFile_self _, rfl⟩⟩
  | traceFile file =>
    rw [sameAs_iff]
    exact ⟨fun h => sameFile_some_iff.1 h.2.2.1,
      fun h => ⟨rfl, rfl, sameFile_some_iff.2 h, rfl⟩⟩
  | traceAppend append =>
    rw [sameAs_iff]
    exact ⟨fun h => h.2.2.2.symm, fun h => ⟨rfl, rfl, sameFile_self _, h.symm⟩⟩

/-! ## The closed form -/

/-- **Options are what their edits add and what they set last.** After a series of edits the
prefixes are those that were there, and then the new ones among all that were added, each where it
comes first; any other field has the value of the last edit that sets it. So a prefix that is there
once stays there once, and there are fifteen prefixes; how prefixes are put together to edits makes
no difference, and edits of different fields may change places; an edit that is made again at once
changes nothing; and an edit leaves the options the same if and only if it is met already. -/
theorem editAll_closed_form (o : Options) (es : List Edit) :
    o.editAll es =
      { prefixes := o.prefixes ++ ((es.flatMap Edit.prefixes).removeAll o.prefixes).eraseDups
        traceLevel := (es.filterMap Edit.level?).getLast?.or o.traceLevel
        traceFile := (es.filterMap Edit.file?).getLast?.or o.traceFile
        traceAppend := (es.filterMap Edit.append?).getLast?.getD o.traceAppend } ∧
    (o.prefixes.Nodup → (o.editAll es).prefixes.Nodup ∧ (o.editAll es).prefixes.length ≤ 15) ∧
    (∀ es', es'.flatMap Edit.prefixes = es.flatMap Edit.prefixes →
      es'.filter (·.field ≠ .prefixes) = es.filter (·.field ≠ .prefixes) →
      o.editAll es' = o.editAll es) ∧
    (∀ a b : Edit, a.field ≠ b.field → (o.edit a).edit b = (o.edit b).edit a) ∧
    ∀ e : Edit, (o.edit e).edit e = o.edit e ∧ ((o.edit e).sameAs o ↔ e.IsMet o) := by
  refine ⟨editAll_eq o es, fun h => ?_, fun es' => editAll_congr_of_filter, fun a b => edit_comm,
    fun e => ⟨edit_edit o e, sameAs_edit_iff⟩⟩
  have nodup : (o.editAll es).prefixes.Nodup := by
    rw [prefixes_editAll]
    exact nodup_prefixes_addAll h _
  exact ⟨nodup, length_le_of_nodup nodup⟩

/-- Edits that name some prefixes twice and set the level twice. -/
def sixEdits : List Edit :=
  [.addAll [.sip, .h323, .sip], .traceLevel 4, .add .h323, .traceFile (.ofString "/tmp/opal.log"),
    .traceLevel 5, .add .fax]

/-- The same prefixes put together in another way. -/
def regrouped : List Edit :=
  [.traceLevel 4, .add .sip, .traceFile (.ofString "/tmp/opal.log"), .traceLevel 5,
    .addAll [.h323, .sip, .h323], .addAll [], .addAll [.fax]]

theorem sixEdits_closed_form :
    let o : Options :=
      { prefixes := [.fax, .ivr], traceFile := some (.ofString "/tmp//./opal.log") }
    let after : Options :=
      { prefixes := [.fax, .ivr, .sip, .h323], traceLevel := some 5,
        traceFile := some (.ofString "/tmp/opal.log") }
    o.editAll sixEdits = after ∧ o.editAll regrouped = after ∧ after.prefixes.Nodup ∧
      after.prefixes.length ≤ 15 ∧
      (o.edit (.add .sip)).edit (.traceLevel 4) = (o.edit (.traceLevel 4)).edit (.add .sip) ∧
      (o.edit (.traceFile (.ofString "/tmp/opal.log"))).sameAs o := by
  intro o after
  obtain ⟨closed, once, regroup, comm, same⟩ := editAll_closed_form o sixEdits
  have eq : o.editAll sixEdits = after := closed.trans (by decide)
  have nodup := once (by decide)
  rw [eq] at nodup
  refine ⟨eq, (regroup regrouped (by decide) (by decide)).trans eq, nodup.1, nodup.2,
    comm (.add .sip) (.traceLevel 4) (by decide), (same (.traceFile _)).2.2 ?_⟩
  exact ⟨_, rfl, by decide⟩

end Switchboard.Options
