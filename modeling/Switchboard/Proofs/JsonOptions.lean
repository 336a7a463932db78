import Switchboard.Options.ToValue
import Switchboard.Proofs.OptionsTexts
import Switchboard.Proofs.Utf8

/-!
# Options and their JSON text

Options are written as an object of their four fields. Each field has a value of its own
(`Options.valueWith`), which means the setting that it had (`Options.means_valueWith`). All fields
are there, each of them once, so the object is read as the options. What is written is a text of
this object, so it is read as the options too (`Options.print_parse`).
-/

namespace Switchboard

open Json

namespace Options

variable {o : Options} {name : Option String}

/-- The value that a field of options is written as, if the trace file has some name. -/
def valueWith (o : Options) (name : Option String) : Field → Value
  | .prefixes => .list (o.prefixes.map valueOfPrefix)
  | .traceLevel => o.traceLevel.elim .null fun n => .ofNat n.toNat
  | .traceFile => name.elim .null .string
  | .traceAppend => .bool o.traceAppend

/-! ## Writing -/

/-- Options with a trace file that has a text, or with none, are written field by field. -/
theorem toMembers_of_name (h : o.traceFile = name.map Path.ofString) :
    o.toMembers = .ok (Field.all.map fun f => (f.name, o.valueWith name f)) := by
  rw [toMembers, h]
  cases name with
  | none => rfl
  | some s =>
    have ht : (Path.ofString s).text? = some s := Path.text?_eq_some_iff.2 rfl
    simp only [Option.map_some, valueOfFile, ht]
    rfl

/-- There is at most one bracket in the value of a field. -/
theorem readable_valueWith (o : Options) (name : Option String) (f : Field) (depth : Nat) :
    (o.valueWith name f).Readable (depth + 1) := by
  cases f with
  | prefixes =>
    refine .list fun v hv => ?_
    obtain ⟨p, -, rfl⟩ := List.mem_map.1 hv
    exact .string p.text
  | traceLevel =>
    unfold valueWith
    cases o.traceLevel with
    | none => exact .null
    | some level => exact .natural _
  | traceFile =>
    cases name with
    | none => exact .null
    | some s => exact .string s
  | traceAppend => exact .bool _

/-! ## Reading -/

/-- What a field is written as means the setting that it has. -/
theorem means_valueWith (h : o.traceFile = name.map Path.ofString) (f : Field) :
    f.Means (o.valueWith name f) (o.setting f) := by
  cases f with
  | prefixes =>
    refine .prefixes (List.forall₂_map_left_iff.2 (List.forall₂_same.2 fun p _ => ?_))
    exact ⟨p.text, rfl, p.lower_text⟩
  | traceLevel =>
    rw [valueWith, setting]
    cases o.traceLevel with
    | none => exact .noLevel
    | some level => exact .level level
  | traceFile =>
    rw [valueWith, setting, h]
    cases name with
    | none => exact .noFile
    | some s => exact .file s
  | traceAppend => exact .append _

/-- The members that options are written with. -/
def membersWith (o : Options) (name : Option String) : List (String × Value) :=
  Field.all.map fun f => (f.name, o.valueWith name f)

theorem nodup_membersWith (o : Options) (name : Option String) :
    ((o.membersWith name).map Prod.fst).Nodup := by
  rw [membersWith, List.map_map]
  exact (by decide : Field.all.Nodup).map fun _ _ h => Field.name_injective h

/-- Each field finds its own value among the members, and means its setting. -/
theorem given_membersWith (h : o.traceFile = name.map Path.ofString) (a : Options) (f : Field) :
    f.Given a ((o.membersWith name).lookup f.name) (o.setting f) := by
  have hl := (lookup_eq_some_iff (nodup_membersWith o name)).2
    (List.mem_map.2 ⟨f, f.mem_all, rfl⟩)
  rw [hl]
  exact means_valueWith h f

/-! ## The text of options -/

/-- The value that options are written as, if the trace file has some name. -/
def objectWith (o : Options) (name : Option String) : Value :=
  .object (o.membersWith name)

theorem print_of_name (h : o.traceFile = name.map Path.ofString) :
    o.print = .ok (o.objectWith name).print := by
  rw [print, toMembers_of_name h]
  rfl

/-- The text of the options is a text of this object. -/
theorem writes_objectWith (o : Options) (name : Option String) :
    Writes (o.objectWith name) (o.objectWith name).chars := by
  refine writes_object (fun m hm => ?_) (nodup_membersWith o name)
  obtain ⟨f, -, rfl⟩ := List.mem_map.1 hm
  exact (readable_valueWith o name f 0).writes

/-- The text of the options, read as options. -/
theorem parse_print_objectWith (h : o.traceFile = name.map Path.ofString) :
    parse (o.objectWith name).print = .ok o := by
  have ho : ofValue (o.objectWith name) = .ok o :=
    (ofMembers_eq_ok_iff (nodup_membersWith o name)).2 (given_membersWith h {})
  have hp := (parse_eq_ok_iff (writes_objectWith o name) .nil .nil).2 ho
  rwa [List.nil_append, List.append_nil] at hp

/-- The text of the options, read as a value: the members are put in ascending order. -/
theorem valueParse_print_objectWith (o : Options) (name : Option String) :
    Value.parse (o.objectWith name).print = .ok (.ofMembers (o.membersWith name)) := by
  have hm : ∀ m ∈ o.membersWith name,
      Opens m.2.chars ∧ Reads (value (maxDepth - 1)) m.2.chars m.2 := by
    intro m hm
    obtain ⟨f, -, rfl⟩ := List.mem_map.1 hm
    have hv := readable_valueWith o name f (maxDepth - 2)
    exact ⟨hv.opens, hv.reads⟩
  exact Value.parse_of_reads ⟨_, _, rfl, rfl, by decide⟩ (reads_object hm)

theorem ofValue_ascending (h : o.traceFile = name.map Path.ofString) :
    ofValue (.ofMembers (o.membersWith name)) = .ok o := by
  obtain ⟨ms, hms, ha, hl⟩ := exists_ofMembers_eq_object (nodup_membersWith o name)
  rw [hms, ofValue, ofMembers_eq_ok_iff (nodup_of_ascending ha)]
  simp only [hl]
  exact given_membersWith h {}

/-- A trace file that has no text cannot be written. -/
theorem print_of_not_text {file : Path} (hf : file ∈ o.traceFile) (ht : file.text? = none) :
    o.print = misfit (.refused "path contains invalid UTF-8 characters") := by
  rw [print, toMembers, Option.mem_def.1 hf, valueOfFile, ht]
  rfl

/-- Options can be written if and only if their trace file has a text. -/
theorem exists_print_iff :
    (∃ text, o.print = .ok text) ↔ ∀ file ∈ o.traceFile, ∃ s, file = Path.ofString s := by
  constructor
  · rintro ⟨text, h⟩ file hf
    cases ht : file.text? with
    | none => cases h.symm.trans (print_of_not_text hf ht)
    | some s => exact ⟨s, Path.text?_eq_some_iff.1 ht⟩
  · intro h
    obtain ⟨name, hf, -⟩ := Path.exists_map_ofString (P := fun _ => True) fun file hf =>
      (h file hf).imp fun s hs => ⟨hs, trivial⟩
    exact ⟨_, print_of_name hf⟩

/-- **Options are given back by their JSON text.** If the trace file is UTF-8, or there is none, the
options have a text. Reading the text gives the options again, every field as it was and the trace
file byte for byte, and so does reading the value of the text; so they are written as the same text
again. A trace file that is not UTF-8 cannot be written. -/
theorem print_parse (o : Options) :
    ((∀ file ∈ o.traceFile, ∃ s : String, file.bytes.toByteArray = s.toUTF8) →
      ∃ text, o.print = .ok text ∧ parse text = .ok o ∧ (parse text >>= print) = .ok text ∧
        ∃ v, Value.parse text = .ok v ∧ ofValue v = .ok o) ∧
    ((∃ file ∈ o.traceFile, ¬ ∃ s : String, file.bytes.toByteArray = s.toUTF8) →
      ∃ e, o.print = .error e ∧ e.message = "path contains invalid UTF-8 characters") := by
  simp only [← Path.eq_ofString_iff]
  constructor
  · intro hf
    obtain ⟨name, h, -⟩ := Path.exists_map_ofString (P := fun _ => True) fun file ht =>
      (hf file ht).imp fun s hs => ⟨hs, trivial⟩
    have hp := parse_print_objectWith h
    refine ⟨_, print_of_name h, hp, ?_, _, valueParse_print_objectWith o name, ofValue_ascending h⟩
    rw [hp]
    exact print_of_name h
  · rintro ⟨file, hf, hn⟩
    have ht : file.text? = none := by
      refine Option.eq_none_iff_forall_ne_some.2 fun s hs => hn ⟨s, Path.text?_eq_some_iff.1 hs⟩
    exact ⟨_, print_of_not_text hf ht, rfl⟩

/-- A trace file with a quote, a backslash, control characters, the zero character among them, and
letters outside ASCII is given back; one that ends in half a character is not written. -/
theorem print_parse_escapes :
    let o : Options :=
      ⟨[.sip, .sip], some 4294967295, some (.ofString "\"\\\n\x1f\x00é😀"), false⟩
    let text := "\x7b\"prefixes\":[\"sip\",\"sip\"],\"trace_level\":4294967295," ++
      "\"trace_file\":\"\\\"\\\\\\n\\u001f\\u0000é😀\",\"trace_append\":false\x7d"
    o.print = .ok text ∧ parse text = .ok o ∧
      ∃ e, print { o with traceFile := some ⟨[0x2F, 0xC3]⟩ } = .error e ∧
        e.message = "path contains invalid UTF-8 characters" := by
  intro o text
  have hn : o.traceFile = (some "\"\\\n\x1f\x00é😀").map Path.ofString := rfl
  have hp : o.print = .ok text := (print_of_name hn).trans (congrArg _ (by decide +kernel))
  obtain ⟨text', hp', hr, -⟩ := (print_parse o).1 fun file hf =>
    ⟨"\"\\\n\x1f\x00é😀", Path.eq_ofString_iff.1 (Option.some.inj hf).symm⟩
  obtain rfl := Except.ok.inj (hp.symm.trans hp')
  have hh : Path.text? ⟨[0x2F, 0xC3]⟩ = none := by decide +kernel
  refine ⟨hp, hr, (print_parse _).2 ⟨_, rfl, ?_⟩⟩
  rintro ⟨s, hs⟩
  cases hh.symm.trans (Path.text?_eq_some_iff.2 (Path.eq_ofString_iff.2 hs))

end Options

end Switchboard
