import Mathlib.Data.List.Forall2
import Switchboard.Options.OfValue
import Switchboard.Proofs.JsonMembers
import Switchboard.Proofs.JsonScalars

/-!
# Options from values

What a field takes from a value is said once (`Field.Means`). Reading the members of an object gives
each field what its member means, or leaves it as it was (`ofMembers_eq_ok_iff`); the first member
that is a field and means nothing gives the error (`ofMembers_eq_error_iff`). A list is read as the
members that its items would be with the names of the fields (`ofItems_eq`), so one account does for
both forms.
-/

namespace Switchboard

open Json

/-! ## Reading one by one -/

section MapM

variable {ε α β : Type} {f : α → Except ε β} {l : List α}

theorem mapM_eq_ok_iff {ys : List β} :
    l.mapM f = .ok ys ↔ List.Forall₂ (fun x y => f x = .ok y) l ys := by
  induction l generalizing ys with
  | nil =>
    rw [List.mapM_nil, List.forall₂_nil_left_iff]
    exact ⟨fun h => (Except.ok.inj h).symm, fun h => h ▸ rfl⟩
  | cons x l ih =>
    rw [List.mapM_cons, List.forall₂_cons_left_iff]
    simp only [← ih]
    cases f x with
    | error e => simp [bind, Except.bind]
    | ok y =>
      cases l.mapM f with
      | error e => simp [bind, Except.bind]
      | ok zs => simp [bind, Except.bind, pure, Except.pure, eq_comm]

/-- The error is that of the first item that is not read. -/
theorem mapM_eq_error_iff {e : ε} :
    l.mapM f = .error e ↔ ∃ before x after,
      l = before ++ x :: after ∧ (∀ y ∈ before, ∃ z, f y = .ok z) ∧ f x = .error e := by
  induction l with
  | nil => simp [pure, Except.pure]
  | cons x l ih =>
    rw [List.mapM_cons]
    constructor
    · intro h
      cases hx : f x with
      | error e' =>
        rw [hx] at h
        cases h
        exact ⟨[], x, l, rfl, fun y hy => (List.not_mem_nil hy).elim, hx⟩
      | ok y =>
        cases hl : l.mapM f with
        | error e' =>
          rw [hx, hl] at h
          cases h
          obtain ⟨before, z, after, rfl, hb, hz⟩ := ih.1 hl
          exact ⟨x :: before, z, after, rfl, List.forall_mem_cons.2 ⟨⟨y, hx⟩, hb⟩, hz⟩
        | ok ys =>
          rw [hx, hl] at h
          cases h
    · rintro ⟨before, z, after, hl, hb, hz⟩
      cases before with
      | nil =>
        obtain ⟨rfl, rfl⟩ := List.cons.inj hl
        rw [hz]
        rfl
      | cons y before =>
        obtain ⟨rfl, hl'⟩ := List.cons.inj hl
        obtain ⟨⟨w, hw⟩, hb⟩ := List.forall_mem_cons.1 hb
        rw [hw, ih.2 ⟨before, z, after, hl', hb, hz⟩]
        rfl

end MapM

/-! ## Prefixes -/

/-- The words of prefixes are in lower case. -/
theorem Prefix.lower_text (p : Prefix) : lower p.text = p.text := by
  cases p <;> decide

theorem Prefix.sameUpToCase_text_iff {s : String} {p : Prefix} :
    sameUpToCase p.text s ↔ lower s = p.text := by
  rw [sameUpToCase, decide_eq_true_iff, lower_text, eq_comm]

/-- A prefix is read from the texts that spell its word in whatever case. -/
theorem Prefix.ofText?_eq_some_iff {s : String} {p : Prefix} :
    ofText? s = some p ↔ lower s = p.text := by
  unfold ofText?
  constructor
  · intro h
    have hp : sameUpToCase p.text s := by simpa only using List.find?_some h
    exact sameUpToCase_text_iff.1 hp
  · intro h
    cases hf : all.find? fun p => sameUpToCase p.text s with
    | none => exact absurd (sameUpToCase_text_iff.2 h) (List.find?_eq_none.1 hf p (mem_all p))
    | some q =>
      have hq : sameUpToCase q.text s := by simpa only using List.find?_some hf
      rw [text_injective ((sameUpToCase_text_iff.1 hq).symm.trans h)]

theorem Prefix.ofText_eq_ok_iff {s : String} {p : Prefix} :
    ofText s = .ok p ↔ lower s = p.text := by
  rw [← ofText?_eq_some_iff, ofText]
  cases ofText? s <;> simp

/-- A value is the name of a prefix: a string that spells its word in whatever case. -/
def Prefix.NamedBy (p : Prefix) (v : Value) : Prop :=
  ∃ s, v = .string s ∧ lower s = p.text

namespace Options

variable {a o : Options} {f : Field} {v : Value} {x : Setting} {e : Json.Error}
  {ms : List (String × Value)}

/-! ## Fields -/

/-- The setting of a field in options. -/
def setting (o : Options) : Field → Setting
  | .prefixes => .prefixes o.prefixes
  | .traceLevel => .traceLevel o.traceLevel
  | .traceFile => .traceFile o.traceFile
  | .traceAppend => .traceAppend o.traceAppend

theorem Field.ofName?_name (f : Field) : ofName? f.name = some f := by
  cases f <;> decide

/-- What a field takes from a value: prefixes from a list of their names, a level from nothing or a
whole number of 32 bits, a file from nothing or a string, and a truth value from a truth value. -/
inductive Field.Means : Field → Value → Setting → Prop
  | prefixes {vs : List Value} {ps : List Prefix}
      (h : List.Forall₂ (fun v p => p.NamedBy v) vs ps) : Means .prefixes (.list vs) (.prefixes ps)
  | noLevel : Means .traceLevel .null (.traceLevel none)
  | level (n : UInt32) : Means .traceLevel (.ofNat n.toNat) (.traceLevel (some n))
  | noFile : Means .traceFile .null (.traceFile none)
  | file (s : String) : Means .traceFile (.string s) (.traceFile (some (.ofString s)))
  | append (b : Bool) : Means .traceAppend (.bool b) (.traceAppend b)

/-- A value that a field can take. -/
def Field.Valid (f : Field) (v : Value) : Prop :=
  ∃ x, f.Means v x

theorem prefixOfValue_eq_ok_iff {p : Prefix} : prefixOfValue v = .ok p ↔ p.NamedBy v := by
  unfold prefixOfValue
  split
  · next s =>
    rw [Prefix.NamedBy, prefixOf]
    simp only [Value.string.injEq, exists_eq_left', ← Prefix.ofText_eq_ok_iff]
    cases Prefix.ofText s with
    | error e => simp [misfit]
    | ok q => simp
  · next hs =>
    constructor
    · intro h
      cases h
    · rintro ⟨s, rfl, -⟩
      exact absurd rfl (hs s)

theorem prefixesOfValues_eq_mapM (vs : List Value) :
    prefixesOfValues vs = vs.mapM prefixOfValue := by
  induction vs with
  | nil => rfl
  | cons v vs ih => rw [prefixesOfValues, ih, List.mapM_cons]

theorem prefixesOfValues_eq_ok_iff {vs : List Value} {ps : List Prefix} :
    prefixesOfValues vs = .ok ps ↔ List.Forall₂ (fun v p => p.NamedBy v) vs ps := by
  simp only [prefixesOfValues_eq_mapM, mapM_eq_ok_iff, prefixOfValue_eq_ok_iff]

/-- The error of prefixes is that of the first value that names none. -/
theorem prefixesOfValues_eq_error_iff {vs : List Value} :
    prefixesOfValues vs = .error e ↔ ∃ before v after, vs = before ++ v :: after ∧
      (∀ w ∈ before, ∃ p : Prefix, p.NamedBy w) ∧ prefixOfValue v = .error e := by
  simp only [prefixesOfValues_eq_mapM, mapM_eq_error_iff, prefixOfValue_eq_ok_iff]

theorem toNat_lt_size (level : UInt32) : level.toNat < UInt64.size :=
  Nat.lt_trans level.toNat_lt (by decide)

theorem toNat_ofNat_toNat (level : UInt32) : (UInt64.ofNat level.toNat).toNat = level.toNat :=
  UInt64.toNat_ofNat_of_lt (toNat_lt_size level)

theorem levelOf_natural (level : UInt32) :
    levelOf (.natural (UInt64.ofNat level.toNat)) = .ok level := by
  rw [levelOf, toNat_ofNat_toNat, if_pos level.toNat_lt, UInt32.ofNat_toNat]

theorem levelOf_eq_ok_iff {n : Number} {level : UInt32} :
    levelOf n = .ok level ↔ Value.number n = .ofNat level.toNat := by
  constructor
  · intro h
    unfold levelOf at h
    split at h
    · next k =>
      split at h
      · next hk =>
        cases h
        rw [UInt32.toNat_ofNat_of_lt' hk, Value.ofNat, UInt64.ofNat_toNat]
      · cases h
    · cases h
    · cases h
  · intro h
    cases h
    exact levelOf_natural level

theorem map_eq_ok_iff {α β : Type} {r : Except Json.Error α} {f : α → β} {y : β} :
    r.map f = .ok y ↔ ∃ z, r = .ok z ∧ f z = y := by
  cases r <;> simp [Except.map]

theorem Field.ofValue_eq_ok_iff : f.ofValue v = .ok x ↔ f.Means v x := by
  constructor
  · intro h
    unfold Field.ofValue at h
    split at h
    · obtain ⟨ps, hp, rfl⟩ := map_eq_ok_iff.1 h
      exact .prefixes (prefixesOfValues_eq_ok_iff.1 hp)
    · cases h
    · cases h
      exact .noLevel
    · obtain ⟨level, hl, rfl⟩ := map_eq_ok_iff.1 h
      rw [levelOf_eq_ok_iff.1 hl]
      exact .level level
    · cases h
    · cases h
      exact .noFile
    · cases h
      exact .file _
    · cases h
    · cases h
      exact .append _
    · cases h
  · intro h
    cases h with
    | prefixes h =>
      rw [Field.ofValue, prefixesOfValues_eq_ok_iff.2 h]
      rfl
    | level n =>
      rw [Value.ofNat, Field.ofValue, levelOf_natural]
      rfl
    | _ => rfl

/-! ## Members -/

/-- Options are the settings of their fields. -/
theorem eq_of_setting (h : ∀ f, a.setting f = o.setting f) : a = o := by
  have hp := h .prefixes
  have hl := h .traceLevel
  have hf := h .traceFile
  have ha := h .traceAppend
  cases a
  cases o
  simp_all [setting]

/-- What a field takes from a value is set in this field and in no other. -/
theorem Field.Means.setting_set (h : f.Means v x) (a : Options) (g : Field) :
    (a.set x).setting g = if g = f then x else a.setting g := by
  cases h <;> cases g <;> rfl

theorem Field.mem_all (f : Field) : f ∈ all := by
  cases f <;> decide

theorem Field.name_injective {g : Field} (h : f.name = g.name) : f = g :=
  Option.some.inj ((ofName?_name f).symm.trans (h ▸ ofName?_name g))

theorem Field.ofName?_eq_some_iff {name : String} : ofName? name = some f ↔ name = f.name := by
  constructor
  · intro h
    have hn : f.name = name := by simpa using List.find?_some h
    exact hn.symm
  · rintro rfl
    exact ofName?_name f

/-- A value means one setting at most. -/
theorem Field.Means.unique {y : Setting} (h : f.Means v x) (h' : f.Means v y) : x = y :=
  Except.ok.inj ((ofValue_eq_ok_iff.2 h).symm.trans (ofValue_eq_ok_iff.2 h'))

/-- What a field is set to: what its value means, or what it is without one. -/
def Field.Given (a : Options) (f : Field) (v? : Option Value) (x : Setting) : Prop :=
  v?.elim (x = a.setting f) (f.Means · x)

/-- Once a field is set, it need not be looked up among the members. -/
theorem given_set_iff {g : Field} (h : g.Means v x) (hn : g.name ∉ ms.map Prod.fst) :
    f.Given (a.set x) (ms.lookup f.name) (o.setting f) ↔
      f.Given a (((g.name, v) :: ms).lookup f.name) (o.setting f) := by
  by_cases hf : f = g
  · subst hf
    rw [lookup_of_not_mem hn, List.lookup_cons_self, Field.Given, Field.Given, Option.elim_none,
      Option.elim_some, h.setting_set, if_pos rfl]
    exact ⟨fun hx => hx ▸ h, fun ho => ho.unique h⟩
  · have hn : f.name ≠ g.name := fun he => hf (Field.name_injective he)
    rw [lookup_cons_of_ne hn, Field.Given, Field.Given, h.setting_set, if_neg hf]

/-- Members with different names give each field what its value means, or leave it as it is. -/
theorem ofMembers_eq_ok_iff (nodup : (ms.map Prod.fst).Nodup) :
    ofMembers a ms = .ok o ↔ ∀ f : Field, f.Given a (ms.lookup f.name) (o.setting f) := by
  induction ms generalizing a with
  | nil =>
    constructor
    · rintro ⟨rfl⟩ f
      rfl
    · intro h
      rw [ofMembers, eq_of_setting h]
  | cons m ms ih =>
    obtain ⟨name, v⟩ := m
    obtain ⟨hn, hnodup⟩ := List.nodup_cons.1 nodup
    cases hf : Field.ofName? name with
    | none =>
      have hl (f : Field) : ((name, v) :: ms).lookup f.name = ms.lookup f.name := by
        refine lookup_cons_of_ne ?_
        rintro rfl
        cases hf.symm.trans (Field.ofName?_name f)
      simp only [ofMembers, hf, hl]
      exact ih hnodup
    | some g =>
      obtain rfl := Field.ofName?_eq_some_iff.1 hf
      simp only [ofMembers, hf]
      cases hv : g.ofValue v with
      | error e =>
        refine ⟨nofun, fun h => ?_⟩
        have hm := h g
        rw [List.lookup_cons_self] at hm
        cases hv.symm.trans (Field.ofValue_eq_ok_iff.2 hm)
      | ok x =>
        have hm := Field.ofValue_eq_ok_iff.1 hv
        exact (ih hnodup).trans (forall_congr' fun f => given_set_iff hm hn)

/-- A member is a field with no valid value, and gives the error; or it is passed, and the options
go on with the others. -/
theorem ofMembers_cons (a : Options) (m : String × Value) :
    (∃ f e, m.1 = Field.name f ∧ f.ofValue m.2 = .error e ∧
      ∀ ms, ofMembers a (m :: ms) = .error e) ∨
    (∀ f, m.1 = Field.name f → f.Valid m.2) ∧
      ∃ b, ∀ ms, ofMembers a (m :: ms) = ofMembers b ms := by
  obtain ⟨name, v⟩ := m
  cases hf : Field.ofName? name with
  | none =>
    refine .inr ⟨?_, a, fun ms => by simp only [ofMembers, hf]⟩
    rintro f rfl
    cases hf.symm.trans (Field.ofName?_name f)
  | some g =>
    obtain rfl := Field.ofName?_eq_some_iff.1 hf
    cases hv : g.ofValue v with
    | error e =>
      refine .inl ⟨g, e, rfl, hv, fun ms => ?_⟩
      simp only [ofMembers, hf, hv]
      rfl
    | ok x =>
      refine .inr ⟨fun f hn => ?_, a.set x, fun ms => ?_⟩
      · obtain rfl := Field.name_injective hn
        exact ⟨x, Field.ofValue_eq_ok_iff.1 hv⟩
      · simp only [ofMembers, hf, hv]
        rfl

theorem Field.Valid.ofValue_ne_error (h : f.Valid v) : f.ofValue v ≠ .error e := by
  obtain ⟨x, hx⟩ := h
  rw [ofValue_eq_ok_iff.2 hx]
  exact nofun

/-- The error of members is that of the first one that is a field with no valid value. -/
theorem ofMembers_eq_error_iff :
    ofMembers a ms = .error e ↔ ∃ before f v after, ms = before ++ (Field.name f, v) :: after ∧
      (∀ g w, (Field.name g, w) ∈ before → g.Valid w) ∧ f.ofValue v = .error e := by
  induction ms generalizing a with
  | nil => simp [ofMembers]
  | cons m ms ih =>
    obtain ⟨f, e', hn, hv, hm⟩ | ⟨hm, b, hb⟩ := ofMembers_cons a m
    · rw [hm]
      constructor
      · rintro ⟨rfl⟩
        exact ⟨[], f, m.2, ms, congrArg (· :: ms) (Prod.ext hn rfl), nofun, hv⟩
      · rintro ⟨before, g, w, after, hms, hbefore, hw⟩
        cases before with
        | nil =>
          obtain ⟨rfl, rfl⟩ := List.cons.inj hms
          obtain rfl := Field.name_injective hn
          rw [Except.error.inj (hv.symm.trans hw)]
        | cons m' before =>
          obtain ⟨rfl, rfl⟩ := List.cons.inj hms
          exact absurd hv (hbefore f m.2 (hn ▸ List.mem_cons_self)).ofValue_ne_error
    · rw [hb, ih]
      constructor
      · rintro ⟨before, g, w, after, rfl, hbefore, hw⟩
        refine ⟨m :: before, g, w, after, rfl, fun f u hu => ?_, hw⟩
        obtain rfl | hu := List.mem_cons.1 hu
        · exact hm f rfl
        · exact hbefore f u hu
      · rintro ⟨before, g, w, after, hms, hbefore, hw⟩
        cases before with
        | nil =>
          obtain ⟨rfl, rfl⟩ := List.cons.inj hms
          exact absurd hw (hm g rfl).ofValue_ne_error
        | cons m' before =>
          obtain ⟨rfl, rfl⟩ := List.cons.inj hms
          exact ⟨before, g, w, after, rfl,
            fun f u hu => hbefore f u (List.mem_cons_of_mem _ hu), hw⟩

/-- The members that are fields. -/
def known (ms : List (String × Value)) : List (String × Value) :=
  ms.filter fun m => m.1 ∈ Field.all.map Field.name

/-- Members that are no fields change nothing, whatever their values are. -/
theorem ofMembers_known (a : Options) (ms : List (String × Value)) :
    ofMembers a (known ms) = ofMembers a ms := by
  unfold known
  induction ms generalizing a with
  | nil => rfl
  | cons m ms ih =>
    by_cases hm : m.1 ∈ Field.all.map Field.name
    · rw [List.filter_cons_of_pos (by simpa using hm)]
      obtain ⟨_, _, _, _, he⟩ | ⟨-, b, hb⟩ := ofMembers_cons a m
      · rw [he, he]
      · rw [hb, hb, ih]
    · have hf : Field.ofName? m.1 = none := by
        refine Option.eq_none_iff_forall_ne_some.2 fun f hf => hm ?_
        rw [Field.ofName?_eq_some_iff.1 hf]
        exact List.mem_map_of_mem f.mem_all
      rw [List.filter_cons_of_neg (by simpa using hm), ih, ofMembers, hf]

/-- Members can be read when each field among them can take its value. -/
theorem exists_ofMembers_iff (nodup : (ms.map Prod.fst).Nodup) :
    (∃ o, ofMembers a ms = .ok o) ↔ ∀ (f : Field) v, ms.lookup f.name = some v → f.Valid v := by
  constructor
  · rintro ⟨o, ho⟩ f v hv
    have hf := (ofMembers_eq_ok_iff nodup).1 ho f
    rw [hv] at hf
    exact ⟨_, hf⟩
  · intro h
    cases hr : ofMembers a ms with
    | ok o => exact ⟨o, rfl⟩
    | error e =>
      obtain ⟨before, f, v, after, rfl, -, hv⟩ := ofMembers_eq_error_iff.1 hr
      have hl := (lookup_eq_some_iff nodup).2 (List.mem_append_right _ List.mem_cons_self)
      exact absurd hv (h f v hl).ofValue_ne_error

/-- The error of members in ascending order is that of the least field with no valid value. -/
theorem ofMembers_eq_error_iff_of_ascending (h : ms.Pairwise (·.1 < ·.1)) :
    ofMembers a ms = .error e ↔ ∃ (f : Field) (v : Value), ms.lookup f.name = some v ∧
      f.ofValue v = .error e ∧
      ∀ (g : Field) w, ms.lookup g.name = some w → g.name < f.name → g.Valid w := by
  simp only [ofMembers_eq_error_iff, lookup_eq_some_iff (nodup_of_ascending h)]
  constructor
  · rintro ⟨before, f, v, after, rfl, hb, hv⟩
    obtain ⟨-, ha, -⟩ := List.pairwise_append.1 h
    refine ⟨f, v, List.mem_append_right _ List.mem_cons_self, hv, fun g w hw hlt => ?_⟩
    obtain hw | hw := List.mem_append.1 hw
    · exact hb g w hw
    · obtain he | hw := List.mem_cons.1 hw
      · exact absurd (congrArg Prod.fst he) hlt.ne
      · exact absurd hlt (List.rel_of_pairwise_cons ha hw).asymm
  · rintro ⟨f, v, hm, hv, hb⟩
    obtain ⟨before, after, rfl⟩ := List.append_of_mem hm
    refine ⟨before, f, v, after, rfl, fun g w hw => ?_, hv⟩
    exact hb g w (List.mem_append_left _ hw)
      ((List.pairwise_append.1 h).2.2 _ hw _ List.mem_cons_self)

/-! ## Lists -/

/-- Items with the names of the fields that they are for. -/
def named (fs : List Field) (vs : List Value) : List (String × Value) :=
  (fs.map Field.name).zip vs

/-- Items are read as the members that they would be. -/
theorem ofItems_eq (a : Options) (fs : List Field) (vs : List Value) :
    ofItems a fs vs = (ofMembers a (named fs vs)).map (·, vs.length - fs.length) := by
  induction fs generalizing a vs with
  | nil => cases vs <;> rfl
  | cons f fs ih =>
    cases vs with
    | nil => simp [named, ofItems, ofMembers, Except.map]
    | cons v vs =>
      rw [named, List.map_cons, List.zip_cons_cons, ← named, ofItems, ofMembers,
        Field.ofName?_name]
      dsimp only
      cases f.ofValue v with
      | error e => rfl
      | ok x =>
        rw [ok_bind, ok_bind, ih, List.length_cons, List.length_cons, Nat.add_sub_add_right]

theorem map_fst_zip_sublist {α β : Type} (l : List α) (l' : List β) :
    ((l.zip l').map Prod.fst).Sublist l := by
  induction l generalizing l' with
  | nil => exact List.nil_sublist _
  | cons x l ih =>
    cases l' with
    | nil => exact List.nil_sublist _
    | cons y l' => exact (ih l').cons_cons x

theorem nodup_named (vs : List Value) : ((named Field.all vs).map Prod.fst).Nodup :=
  (map_fst_zip_sublist _ vs).nodup (by decide)

theorem lookup_named {fs : List Field} (hf : f ∈ fs) (vs : List Value) :
    (named fs vs).lookup f.name = vs[fs.idxOf f]? := by
  induction fs generalizing vs with
  | nil => cases hf
  | cons g fs ih =>
    cases vs with
    | nil => rfl
    | cons v vs =>
      rw [named, List.map_cons, List.zip_cons_cons, ← named]
      by_cases hfg : f = g
      · rw [hfg, List.lookup_cons_self, List.idxOf_cons_self]
        rfl
      · rw [lookup_cons_of_ne fun hn => hfg (Field.name_injective hn),
          ih ((List.mem_cons.1 hf).resolve_left hfg), List.idxOf_cons_ne _ (Ne.symm hfg),
          List.getElem?_cons_succ]

/-! ## Values -/

/-- The value that a field is given: the member of its name, or the item in its place. -/
def Field.given? (f : Field) : Value → Option Value
  | .object ms => ms.lookup f.name
  | .list vs => vs[all.idxOf f]?
  | _ => none

/-- The values that can be options: objects, and lists with no more items than there are fields. -/
def HasForm : Value → Prop
  | .object _ => True
  | .list vs => vs.length ≤ Field.all.length
  | _ => False

theorem ofValue_list_eq_ok_iff {vs : List Value} : ofValue (.list vs) = .ok o ↔
    vs.length ≤ Field.all.length ∧ ofMembers {} (named Field.all vs) = .ok o := by
  rw [ofValue, ofItems_eq]
  cases ofMembers {} (named Field.all vs) with
  | error e => simp [Except.map, bind, Except.bind]
  | ok b =>
    rw [← Nat.sub_eq_zero_iff_le]
    by_cases hl : vs.length - Field.all.length = 0 <;>
      simp [Except.map, bind, Except.bind, pure, Except.pure, misfit, hl]

/-- Members of an object are in ascending order of their names, each name once. -/
def Ascending (v : Value) : Prop :=
  ∀ ms, v = .object ms → ms.Pairwise (·.1 < ·.1)

/-- Options are read from a value when it has the form and each field that is given can take its
value; a field that is not given keeps its default. -/
theorem ofValue_eq_ok_iff (hv : Ascending v) :
    ofValue v = .ok o ↔ HasForm v ∧ ∀ f : Field, f.Given {} (f.given? v) (o.setting f) := by
  cases v with
  | object ms =>
    rw [ofValue, ofMembers_eq_ok_iff (nodup_of_ascending (hv ms rfl))]
    exact (and_iff_right trivial).symm
  | list vs =>
    rw [ofValue_list_eq_ok_iff, ofMembers_eq_ok_iff (nodup_named vs)]
    simp only [lookup_named (Field.mem_all _)]
    rfl
  | _ => exact ⟨nofun, fun h => h.1.elim⟩

/-- A value can be read as options when it has the form and each field that is given can take its
value. -/
theorem exists_ofValue_iff (hv : Ascending v) :
    (∃ o, ofValue v = .ok o) ↔ HasForm v ∧ ∀ (f : Field) w, f.given? v = some w → f.Valid w := by
  cases v with
  | object ms =>
    rw [ofValue]
    exact (exists_ofMembers_iff (nodup_of_ascending (hv ms rfl))).trans (and_iff_right trivial).symm
  | list vs =>
    simp only [ofValue_list_eq_ok_iff, exists_and_left, exists_ofMembers_iff (nodup_named vs),
      lookup_named (Field.mem_all _)]
    rfl
  | _ => exact ⟨fun ⟨_, ho⟩ => (nomatch ho), fun h => h.1.elim⟩

/-- A list is read like the object that has its items under the names of the fields. -/
theorem ofValue_list_iff_object {vs : List Value} (h : vs.length ≤ Field.all.length) :
    ofValue (.list vs) = .ok o ↔ ofValue (.ofMembers (named Field.all vs)) = .ok o := by
  obtain ⟨ms, hms, ha, hl⟩ := exists_ofMembers_eq_object (nodup_named vs)
  rw [hms, ofValue, ofMembers_eq_ok_iff (nodup_of_ascending ha), ofValue_list_eq_ok_iff,
    ofMembers_eq_ok_iff (nodup_named vs), and_iff_right h]
  simp only [hl]

end Options

end Switchboard
