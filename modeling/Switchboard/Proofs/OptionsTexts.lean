import Switchboard.Options.OfText
import Switchboard.Proofs.JsonSkip
import Switchboard.Proofs.OptionsValues

/-!
# Options from the texts of a value

Whatever text a value has, each field is read from it as from the value, the errors included
(`gives_readAt`). Items and members are then read one by one: the members of an object as
`ofMembers` does in the order of the text (`membersAt_entries`), those that are no fields being
passed over. When all goes well the order does not matter, so options are the same in every form
(`forms_agree`).
-/

namespace Switchboard

open Json

namespace Options

variable {a o : Options} {f : Field} {v : Value} {x : Setting} {e : Json.Error}
  {rest t s : List Char}

/-! ## Scalars -/

/-- A value of another kind than the one wanted is refused alike. -/
theorem gives_notWanted {α : Type} (wanted : String) (h : Writes v t) :
    Gives (Json.notWanted wanted) t (notWanted wanted v : Except Json.Error α) := by
  intro rest he
  rw [Json.notWanted, h.foundAt he]
  rfl

/-- A reader that wants another beginning refuses what is there. -/
theorem gives_of_notWanted {α : Type} {read : List Char → Except Json.Error (α × List Char)}
    {wanted : String} (h : Writes v t)
    (hr : ∀ c u, v.BeginsWith c → read (c :: u) = Json.notWanted wanted (c :: u)) :
    Gives read t (notWanted wanted v) := by
  intro rest he
  have hn : Gives (Json.notWanted wanted) t (notWanted wanted v : Except Json.Error α) :=
    gives_notWanted wanted h
  obtain ⟨c, u, rfl, hc⟩ := h.head
  exact (hr c _ hc).trans (hn rest he)

theorem gives_prefixAt (h : Writes v t) : Gives prefixAt t (prefixOfValue v) := by
  cases v with
  | string s =>
    intro rest he
    cases h with
    | string hq =>
      obtain ⟨u, hu, hr, -⟩ := hq.append rest
      rw [hu, prefixAt]
      simp only [hr, ok_bind, prefixOfValue]
      cases prefixOf s <;> rfl
  | _ =>
    refine gives_of_notWanted h fun c u hc => ?_
    obtain ⟨-, -, -, hk, -⟩ := hc.kind
    unfold prefixAt
    split
    · next hl => obtain ⟨_, ⟨⟩⟩ := hk (List.cons.inj hl).1
    · rfl

/-- A path from a value. -/
def pathOfValue : Value → Except Json.Error Path
  | .string s => .ok (.ofString s)
  | v => notWanted wantedPath v

theorem gives_pathAt (h : Writes v t) : Gives pathAt t (pathOfValue v) := by
  cases v with
  | string s =>
    intro rest he
    cases h with
    | string hq =>
      obtain ⟨u, hu, hr, -⟩ := hq.append rest
      rw [hu, pathAt, hr]
      rfl
  | _ =>
    refine gives_of_notWanted h fun c u hc => ?_
    obtain ⟨-, -, -, hk, -⟩ := hc.kind
    unfold pathAt
    split
    · next hl => obtain ⟨_, ⟨⟩⟩ := hk (List.cons.inj hl).1
    · rfl

/-- A truth value from a value. -/
def boolOfValue : Value → Except Json.Error Bool
  | .bool b => .ok b
  | v => notWanted wantedBool v

theorem gives_boolAt (h : Writes v t) : Gives boolAt t (boolOfValue v) := by
  cases v with
  | bool b =>
    intro rest he
    cases h <;> rfl
  | _ =>
    refine gives_of_notWanted h fun c u hc => ?_
    obtain ⟨-, hk, -⟩ := hc.kind
    unfold boolAt
    split
    · next hl => obtain ⟨_, ⟨⟩⟩ := hk (.inl (List.cons.inj hl).1)
    · next hl => obtain ⟨_, ⟨⟩⟩ := hk (.inr (List.cons.inj hl).1)
    · rfl

/-- A level from a value other than null. -/
def levelOfValue : Value → Except Json.Error UInt32
  | .number n => levelOf n
  | v => notWanted wantedLevel v

theorem gives_levelAt (h : Writes v t) : Gives levelAt t (levelOfValue v) := by
  cases v with
  | number n =>
    intro rest he
    cases h with
    | number hn =>
      obtain ⟨c, u, rfl, hc⟩ := number_head hn
      have hr := (number_append hn he).1
      rw [List.cons_append] at hr ⊢
      rw [levelAt, if_pos (beginsNumber_isSome hc), hr]
      simp only [ok_bind, levelOfValue]
      cases levelOf n <;> rfl
  | _ =>
    refine gives_of_notWanted h fun c u hc => ?_
    obtain ⟨-, -, hk, -⟩ := hc.kind
    refine if_neg fun hn => ?_
    obtain ⟨_, ⟨⟩⟩ := hk hn

/-- Prefixes from a value. -/
def prefixesOfValue : Value → Except Json.Error (List Prefix)
  | .list vs => prefixesOfValues vs
  | v => notWanted wantedList v

theorem gives_prefixesAt (h : Writes v t) : Gives prefixesAt t (prefixesOfValue v) := by
  cases v with
  | list vs =>
    intro rest he
    cases h with
    | @list ps b spaced h hb =>
      have hp : ∀ p ∈ ps, p.Spaced ∧ Opens p.text ∧ Gives prefixAt p.text (prefixOfValue p.item) :=
        fun p hp => ⟨spaced p hp, (h p hp).opens, gives_prefixAt (h p hp)⟩
      rw [listText_append, prefixesAt, prefixesOfValue, prefixesOfValues_eq_mapM,
        items_pieces hp hb]
  | _ =>
    refine gives_of_notWanted h fun c u hc => ?_
    obtain ⟨-, -, -, -, hk, -⟩ := hc.kind
    unfold prefixesAt
    split
    · next hl => obtain ⟨_, ⟨⟩⟩ := hk (List.cons.inj hl).1
    · rfl

/-- Null is nothing, and any other value is something. -/
def orNullOfValue {α : Type} (read : Value → Except Json.Error α) :
    Value → Except Json.Error (Option α)
  | .null => .ok none
  | v => (read v).map some

theorem gives_orNull {α : Type} {read : List Char → Except Json.Error (α × List Char)}
    {ofValue : Value → Except Json.Error α} (h : Writes v t) (hr : Gives read t (ofValue v)) :
    Gives (orNull read) t (orNullOfValue ofValue v) := by
  intro rest he
  cases v with
  | null =>
    cases h
    rfl
  | _ =>
    have hr := hr rest he
    obtain ⟨c, u, rfl, hc⟩ := h.head
    obtain ⟨hk, -⟩ := hc.kind
    rw [List.cons_append] at hr ⊢
    rw [orNull, hr]
    · rw [orNullOfValue]
      · cases ofValue _ <;> rfl
      · exact nofun
    · exact fun s hs => nomatch hk (List.cons.inj hs).1

theorem Field.ofValue_traceLevel (v : Value) :
    Field.traceLevel.ofValue v = (orNullOfValue levelOfValue v).map .traceLevel := by
  cases v with
  | number n =>
    rw [Field.ofValue, orNullOfValue, levelOfValue]
    · cases levelOf n <;> rfl
    · rintro ⟨⟩
  | _ => rfl

/-- Each field is read from a text as from the value that the text is for. -/
theorem gives_readAt (f : Field) (h : Writes v t) : Gives f.readAt t (f.ofValue v) := by
  cases f with
  | prefixes =>
    have hr := Gives.map (gives_prefixesAt h) Setting.prefixes
    cases v <;> exact hr
  | traceLevel =>
    rw [Field.ofValue_traceLevel]
    exact Gives.map (gives_orNull h (gives_levelAt h)) Setting.traceLevel
  | traceFile =>
    have hr := Gives.map (gives_orNull h (gives_pathAt h)) Setting.traceFile
    cases v <;> exact hr
  | traceAppend =>
    have hr := Gives.map (gives_boolAt h) Setting.traceAppend
    cases v <;> exact hr

/-! ## Lists -/

/-- A list of which all wanted items were read goes on: there are too many. -/
theorem closeList_comma {u w : List Char} {c : Char} (hs : skipBlanks s = ',' :: u)
    (hu : skipBlanks u = c :: w) (hc : c ≠ ']') : closeList s = malformed .extraText := by
  rw [closeList, hs]
  simp only [hu]
  split
  · next h => exact absurd (List.cons.inj h).1 hc
  · rfl

theorem closeList_close (hs : skipBlanks s = ']' :: rest) : closeList s = .ok rest := by
  rw [closeList, hs]
  rfl

/-- Options from items; of more items than fields the text tells that there is something left. -/
def ofListText (a : Options) (fs : List Field) (vs : List Value) : Except Json.Error Options := do
  let (o, left) ← ofItems a fs vs
  if left = 0 then pure o else malformed .extraText

section Items

variable {ps : List (Piece Value)} {sp : List Char} {fs : List Field}

theorem ofListText_cons (a : Options) (f : Field) (fs : List Field) (v : Value) (vs : List Value) :
    ofListText a (f :: fs) (v :: vs) = f.ofValue v >>= fun x => ofListText (a.set x) fs vs := by
  rw [ofListText, ofItems]
  cases f.ofValue v <;> rfl

/-- An item is read for its field, and then the others for theirs. -/
theorem listAt_gives {first : Bool} {r : Except Json.Error Setting}
    (hn : nextItem first s = .ok (.more (t ++ rest))) (hg : Gives f.readAt t r) (he : Ends rest) :
    listAt a first (f :: fs) s = r >>= fun x => listAt (a.set x) false fs rest := by
  rw [listAt, hn]
  simp only [hg rest he]
  cases r <;> rfl

/-- Items are read for the fields one by one with commas before them. -/
theorem listAt_commas (h : ∀ p ∈ ps, p.Spaced ∧ Writes p.item p.text) (hb : Blanks sp)
    (hs : skipBlanks s =
      skipBlanks ((ps.flatMap fun p => ',' :: p.chars) ++ (sp ++ ']' :: rest))) :
    listAt a false fs s = (ofListText a fs (ps.map Piece.item)).map (·, rest) := by
  induction fs generalizing a ps s with
  | nil =>
    cases ps with
    | nil =>
      rw [List.flatMap_nil, List.nil_append, skipBlanks_append hb] at hs
      rw [listAt, closeList_close hs]
      rfl
    | cons p ps =>
      obtain ⟨⟨hp, hw⟩, -⟩ := List.forall_mem_cons.1 h
      obtain ⟨c, u, ht, -, hc⟩ := hw.opens
      have hu := p.skipBlanks_chars hp hw.opens
        ((ps.flatMap fun p => ',' :: p.chars) ++ (sp ++ ']' :: rest))
      rw [List.flatMap_cons, List.append_assoc, List.cons_append] at hs
      rw [ht] at hu
      rw [listAt, closeList_comma hs hu hc]
      rfl
  | cons f fs ih =>
    cases ps with
    | nil =>
      rw [List.flatMap_nil, List.nil_append, skipBlanks_append hb] at hs
      rw [listAt, nextItem_close hs]
      rfl
    | cons p ps =>
      obtain ⟨⟨hp, hw⟩, hps⟩ := List.forall_mem_cons.1 h
      have he := ends_commas Piece.chars ps ((ends_close (.inl rfl) rest).blanks hb)
      have hu := p.skipBlanks_chars hp hw.opens
        ((ps.flatMap fun p => ',' :: p.chars) ++ (sp ++ ']' :: rest))
      rw [List.flatMap_cons, List.append_assoc, List.cons_append] at hs
      rw [listAt_gives (nextItem_comma hw.opens hs hu) (gives_readAt f hw) (he.blanks hp.2),
        List.map_cons, ofListText_cons]
      cases f.ofValue p.item with
      | error e => rfl
      | ok x => exact ih hps (skipBlanks_append hp.2 _)

/-- Items are read for the fields one by one. -/
theorem listAt_pieces (h : ∀ p ∈ ps, p.Spaced ∧ Writes p.item p.text) (hb : Blanks sp) :
    listAt a true (f :: fs) ([','].intercalate (ps.map Piece.chars) ++ (sp ++ ']' :: rest)) =
      (ofListText a (f :: fs) (ps.map Piece.item)).map (·, rest) := by
  cases ps with
  | nil =>
    rw [listAt]
    rw [nextItem_close (skipBlanks_append hb _)]
    rfl
  | cons p ps =>
    obtain ⟨⟨hp, hw⟩, hps⟩ := List.forall_mem_cons.1 h
    have he := ends_commas Piece.chars ps ((ends_close (.inl rfl) rest).blanks hb)
    have hu := p.skipBlanks_chars hp hw.opens
      ((ps.flatMap fun p => ',' :: p.chars) ++ (sp ++ ']' :: rest))
    rw [intercalate_map_cons, List.append_assoc,
      listAt_gives (nextItem_first hw.opens hu) (gives_readAt f hw) (he.blanks hp.2),
      List.map_cons, ofListText_cons]
    cases f.ofValue p.item with
    | error e => rfl
    | ok x => exact listAt_commas hps hb (skipBlanks_append hp.2 _)

end Items

/-! ## Objects -/

section Entries

variable {d : Entry Value} {es : List (Entry Value)} {sp : List Char} {seen : List Field}

/-- A member that is no field is passed over. -/
theorem memberAt_unknown (seen : List Field) (hs : d.Spaced) (hq : Quotes d.name.text d.name.item)
    (hw : Writes d.value.item d.value.text) (hf : Field.ofName? d.name.item = none)
    (he : Ends rest) :
    ∃ u, skipBlanks (d.chars ++ rest) = '\x22' :: u ∧
      memberAt seen ('\x22' :: u) = .ok (none, d.value.after ++ rest) := by
  obtain ⟨u, hu, hr, -⟩ := d.name_append hs.1 hq rest
  refine ⟨u, hu, ?_⟩
  have hv := hw.skipValue (d.value.skipBlanks_chars hs.2 hw.opens rest) (he.blanks hs.2.2)
  rw [memberAt, List.tail_cons, hr]
  simp only [ok_bind, hf, colon_append hs.1.2, hv]
  rfl

/-- A member that is a field is read as its value. -/
theorem memberAt_field (hs : d.Spaced) (hq : Quotes d.name.text d.name.item)
    (hw : Writes d.value.item d.value.text) (hf : d.name.item = f.name) (hn : f ∉ seen)
    (he : Ends rest) :
    ∃ u, skipBlanks (d.chars ++ rest) = '\x22' :: u ∧
      memberAt seen ('\x22' :: u) =
        (f.ofValue d.value.item).map fun x => (some (f, x), d.value.after ++ rest) := by
  obtain ⟨u, hu, hr, -⟩ := d.name_append hs.1 hq rest
  refine ⟨u, hu, ?_⟩
  have hv := gives_readAt f hw _ (he.blanks hs.2.2)
  rw [memberAt, List.tail_cons, hr]
  simp only [ok_bind, hf, Field.ofName?_name, if_neg hn, colon_append hs.1.2,
    d.value.skipBlanks_chars hs.2 hw.opens, hv]
  cases f.ofValue d.value.item <;> rfl

/-- A member is read or passed over, and then the others. `seen` keeps fields of other names only.
-/
theorem membersAt_entry {first : Bool} {ms : List (String × Value)} {left : List Char}
    (hd : d.Spaced ∧ Quotes d.name.text d.name.item ∧ Writes d.value.item d.value.text)
    (hseen : ∀ g ∈ seen, d.name.item ≠ g.name) (he : Ends rest)
    (hn : ∀ u, skipBlanks (d.chars ++ rest) = '\x22' :: u →
      nextMember first s = .ok (.more ('\x22' :: u)))
    (hl : (d.chars ++ rest).length ≤ s.length)
    (ht : ∀ a seen', (∀ g ∈ seen', g ∈ seen ∨ d.name.item = g.name) →
      membersAt a seen' false (d.value.after ++ rest) = (ofMembers a ms).map (·, left)) :
    membersAt a seen first s = (ofMembers a (d.member :: ms)).map (·, left) := by
  obtain ⟨hs, hq, hw⟩ := hd
  have hl : (d.value.after ++ rest).length < s.length := by
    refine Nat.lt_of_lt_of_le ?_ hl
    simp only [Entry.chars, Piece.chars, List.length_append, List.length_cons]
    omega
  cases hf : Field.ofName? d.name.item with
  | none =>
    obtain ⟨u, hu, hm⟩ := memberAt_unknown seen hs hq hw hf he
    rw [membersAt, hn u hu]
    simp only [hm, dif_pos hl, Entry.member, ofMembers, hf]
    exact ht a seen fun g hg => .inl hg
  | some f =>
    have hname := Field.ofName?_eq_some_iff.1 hf
    obtain ⟨u, hu, hm⟩ := memberAt_field hs hq hw hname (fun hf => hseen f hf hname) he
    rw [membersAt, hn u hu]
    simp only [hm, Entry.member, ofMembers, hf]
    cases f.ofValue d.value.item with
    | error e => rfl
    | ok x =>
      simp only [Except.map, dif_pos hl]
      refine ht (a.set x) (f :: seen) fun g hg => ?_
      obtain rfl | hg := List.mem_cons.1 hg
      · exact .inr hname
      · exact .inl hg

/-- Members are read one by one with commas before them. -/
theorem membersAt_tail (h : Entries es) (hb : Blanks sp)
    (nodup : (es.map fun e => e.name.item).Nodup)
    (hseen : ∀ e ∈ es, ∀ g ∈ seen, e.name.item ≠ g.name)
    (hs : skipBlanks s =
      skipBlanks ((es.flatMap fun e => ',' :: e.chars) ++ (sp ++ '\x7D' :: rest))) :
    membersAt a seen false s = (ofMembers a (es.map Entry.member)).map (·, rest) := by
  induction es generalizing a seen s with
  | nil =>
    rw [List.flatMap_nil, List.nil_append, skipBlanks_append hb] at hs
    rw [membersAt, nextMember_close hs]
    rfl
  | cons d es ih =>
    obtain ⟨hd, hes⟩ := List.forall_mem_cons.1 h
    obtain ⟨hseend, hseen⟩ := List.forall_mem_cons.1 hseen
    obtain ⟨hname, hnodup⟩ := List.nodup_cons.1 nodup
    have he := ends_commas Entry.chars es ((ends_close (.inr rfl) rest).blanks hb)
    rw [List.flatMap_cons, List.append_assoc, List.cons_append] at hs
    have hl := length_lt_of_skipBlanks (t := [',']) Nat.one_pos hs
    refine membersAt_entry hd hseend he (fun u hu => nextMember_comma hs hu) hl.le ?_
    intro b seen' hseen'
    refine ih hes hnodup (fun e hm g hg => ?_) (skipBlanks_append hd.1.2.2 _)
    obtain hg | hg := hseen' g hg
    · exact hseen e hm g hg
    · rintro heq
      exact hname (List.mem_map.2 ⟨e, hm, heq.trans hg.symm⟩)

/-- Members are read one by one. -/
theorem membersAt_entries (h : Entries es) (hb : Blanks sp)
    (nodup : (es.map fun e => e.name.item).Nodup) :
    membersAt a [] true ([','].intercalate (es.map Entry.chars) ++ (sp ++ '\x7D' :: rest)) =
      (ofMembers a (es.map Entry.member)).map (·, rest) := by
  cases es with
  | nil =>
    rw [membersAt, nextMember_close (skipBlanks_append hb _)]
    rfl
  | cons d es =>
    obtain ⟨hd, hes⟩ := List.forall_mem_cons.1 h
    obtain ⟨hname, hnodup⟩ := List.nodup_cons.1 nodup
    have he := ends_commas Entry.chars es ((ends_close (.inr rfl) rest).blanks hb)
    rw [intercalate_map_cons, List.append_assoc]
    refine membersAt_entry hd nofun he (fun u hu => nextMember_first hu) le_rfl ?_
    intro b seen' hseen'
    refine membersAt_tail hes hb hnodup (fun e hm g hg => ?_) (skipBlanks_append hd.1.2.2 _)
    obtain hg | hg := hseen' g hg
    · cases hg
    · rintro heq
      exact hname (List.mem_map.2 ⟨e, hm, heq.trans hg.symm⟩)

end Entries

/-! ## Whole texts -/

/-- What is read at a text is what is read from the whole text, with blanks before and after. -/
theorem parse_of_gives {r : Except Json.Error Options} {b c : List Char} (ho : Opens t)
    (hg : Gives readAt t r) (hb : Blanks b) (hc : Blanks c) :
    parse (String.ofList (b ++ (t ++ c))) = r := by
  have he : Ends (c ++ []) := Ends.blanks hc nofun
  rw [List.append_nil] at he
  rw [parse, String.toList_ofList, skipBlanks_append hb, skipBlanks_of_opens ho, hg c he]
  cases r with
  | error e => rfl
  | ok o =>
    simp only [Except.map, ok_bind, atEnd_of_blanks hc]
    rfl

theorem gives_readAt_list {ps : List (Piece Value)} {sp : List Char}
    (h : ∀ p ∈ ps, p.Spaced ∧ Writes p.item p.text) (hb : Blanks sp) :
    Gives readAt (listText ps sp) (ofListText {} Field.all (ps.map Piece.item)) := by
  intro rest he
  rw [listText_append, readAt, Field.all, listAt_pieces h hb]

/-- A value that is no list and no object is refused. -/
theorem gives_readAt_of_ne (h : Writes v t) (hl : ∀ vs, v ≠ .list vs) (hm : ∀ ms, v ≠ .object ms) :
    Gives readAt t (notWanted wantedOptions v) := by
  refine gives_of_notWanted h fun c u hc => ?_
  obtain ⟨-, -, -, -, hkl, hkm⟩ := hc.kind
  unfold readAt
  split
  · next hs =>
    obtain ⟨vs, hv⟩ := hkl (List.cons.inj hs).1
    exact absurd hv (hl vs)
  · next hs =>
    obtain ⟨ms, hv⟩ := hkm (List.cons.inj hs).1
    exact absurd hv (hm ms)
  · rfl

theorem gives_readAt_object {es : List (Entry Value)} {sp : List Char} (h : Entries es)
    (hb : Blanks sp) (nodup : (es.map fun e => e.name.item).Nodup) :
    Gives readAt (objectText es sp) (ofMembers {} (es.map Entry.member)) := by
  intro rest he
  rw [objectText_append, readAt, membersAt_entries h hb nodup]

theorem opens_objectText (es : List (Entry Value)) (sp : List Char) : Opens (objectText es sp) :=
  ⟨_, _, rfl, rfl, by decide⟩

theorem ofListText_eq_ok_iff {vs : List Value} :
    ofListText {} Field.all vs = .ok o ↔ ofValue (.list vs) = .ok o := by
  rw [ofListText, ofValue]
  cases ofItems {} Field.all vs with
  | error e => exact Iff.rfl
  | ok r =>
    obtain ⟨b, left⟩ := r
    simp only [ok_bind]
    split
    · exact Iff.rfl
    · constructor <;> rintro ⟨⟩

/-- Members are read alike in whatever order they are, as long as they can be read. -/
theorem ofMembers_perm {ms ns : List (String × Value)} (nodup : (ms.map Prod.fst).Nodup)
    (h : ms.Perm ns) : ofMembers a ms = .ok o ↔ ofMembers a ns = .ok o := by
  have hns : (ns.map Prod.fst).Nodup := (h.map Prod.fst).nodup_iff.1 nodup
  have hl (k : String) : ms.lookup k = ns.lookup k :=
    Option.ext fun v => by
      rw [lookup_eq_some_iff nodup, lookup_eq_some_iff hns, h.mem_iff]
  simp only [ofMembers_eq_ok_iff nodup, ofMembers_eq_ok_iff hns, hl]

/-- A text of a value is read as the value is, with whatever blanks, spellings and order of members
it is written. -/
theorem parse_eq_ok_iff {b c : List Char} (h : Writes v t) (hb : Blanks b) (hc : Blanks c) :
    parse (String.ofList (b ++ (t ++ c))) = .ok o ↔ ofValue v = .ok o := by
  cases v with
  | list vs =>
    have ho := h.opens
    cases h with
    | list spaced h hsp =>
      rw [parse_of_gives ho (gives_readAt_list (fun p hp => ⟨spaced p hp, h p hp⟩) hsp) hb hc]
      exact ofListText_eq_ok_iff
  | object ms =>
    have ho := h.opens
    cases h with
    | @object _ es sp spaced names h nodup perm hsp =>
      have hn : (es.map fun e => e.name.item).Nodup := by
        have hp := (perm.map Prod.fst).nodup_iff.1 nodup
        rwa [List.map_map] at hp
      rw [parse_of_gives ho (gives_readAt_object
        (fun e he => ⟨spaced e he, names e he, h e he⟩) hsp hn) hb hc]
      exact (ofMembers_perm nodup perm).symm
  | _ =>
    rw [parse_of_gives h.opens (gives_readAt_of_ne h nofun nofun) hb hc]
    rfl

/-- **What options are read does not depend on how they are written.** Let `v` be a value; if it is
an object, its members are in ascending order of their names.

It is read as options when it is an object or a list of at most four items, and each field that is
given can take its value. Each field is then what its value means, and keeps its default if it is
not given. Members that are no fields change nothing. A list is read like the object that has its
items under the names of the fields. If an object is refused, the error is that of its least field
that cannot take its value; in a list of prefixes, it is that of the first value that names none.

A text of the value, with its members in any order and with any blanks and spellings, is read as
the value is. If the text of an object is refused, the error is that of the first member in it that
is a field and cannot take its value. -/
theorem forms_agree (v : Value) (hv : Ascending v) :
    ((∃ o, ofValue v = .ok o) ↔
      HasForm v ∧ ∀ (f : Field) w, f.given? v = some w → f.Valid w) ∧
    (∀ o, ofValue v = .ok o → ∀ f : Field, f.Given {} (f.given? v) (o.setting f)) ∧
    (∀ ms ns, v = .object ms → known ns = known ms → ofValue (.object ns) = ofValue v) ∧
    (∀ vs o, v = .list vs → vs.length ≤ Field.all.length →
      (ofValue v = .ok o ↔ ofValue (.ofMembers (named Field.all vs)) = .ok o)) ∧
    (∀ ms e, v = .object ms → (ofValue v = .error e ↔
      ∃ (f : Field) (w : Value), f.given? v = some w ∧ f.ofValue w = .error e ∧
        ∀ (g : Field) u, g.given? v = some u → g.name < f.name → g.Valid u)) ∧
    (∀ vs e, Field.prefixes.ofValue (.list vs) = .error e ↔
      ∃ before w after, vs = before ++ w :: after ∧ (∀ u ∈ before, ∃ p : Prefix, p.NamedBy u) ∧
        prefixOfValue w = .error e) ∧
    (∀ b t c, Blanks b → Writes v t → Blanks c → ∀ o,
      parse (String.ofList (b ++ (t ++ c))) = .ok o ↔ ofValue v = .ok o) ∧
    ∀ b es sp c e, Blanks b → Entries es → (es.map fun d => d.name.item).Nodup → Blanks sp →
      Blanks c → (parse (String.ofList (b ++ (objectText es sp ++ c))) = .error e ↔
        ∃ before f w after, es.map Entry.member = before ++ (Field.name f, w) :: after ∧
          (∀ g u, (Field.name g, u) ∈ before → g.Valid u) ∧ f.ofValue w = .error e) := by
  refine ⟨exists_ofValue_iff hv, fun o ho => ((ofValue_eq_ok_iff hv).1 ho).2,
    ?_, ?_, ?_, ?_, ?_, ?_⟩
  · rintro ms ns rfl h
    rw [ofValue, ofValue, ← ofMembers_known {} ns, h, ofMembers_known]
  · rintro vs o rfl h
    exact ofValue_list_iff_object h
  · rintro ms e rfl
    exact ofMembers_eq_error_iff_of_ascending (hv ms rfl)
  · intro vs e
    rw [Field.ofValue, ← prefixesOfValues_eq_error_iff]
    cases prefixesOfValues vs <;> simp [Except.map]
  · intro b t c hb h hc o
    exact parse_eq_ok_iff h hb hc
  · intro b es sp c e hb h hn hsp hc
    rw [parse_of_gives (opens_objectText es sp) (gives_readAt_object h hsp hn) hb hc]
    exact ofMembers_eq_error_iff

/-- Options with an unknown member, an escape and capitals in the prefixes, blanks, and the members
in another order than that of their names. -/
theorem forms_agree_reordered :
    let v : Value := .object [("extra", .list [.object []]),
      ("prefixes", .list [.string "SIP", .string "H323"]), ("trace_level", .ofNat 3)]
    let text := "\n\x7b \"trace_level\" : 3 , \"extra\":[\x7b\x7d]," ++
      "\"prefixes\":[\"S\\u0049P\" , \"H323\"] \x7d\t"
    Ascending v ∧ ofValue v = .ok ⟨[.sip, .h323], some 3, none, false⟩ ∧
      parse text = .ok ⟨[.sip, .h323], some 3, none, false⟩ := by
  intro v text
  have hv : Ascending v := by
    intro ms hms
    obtain rfl := Value.object.inj hms
    decide
  have ho : ofValue v = .ok ⟨[.sip, .h323], some 3, none, false⟩ := rfl
  -- the texts of the values, from the inside to the outside
  have hs : Quotes "\"S\\u0049P\"".toList "SIP" :=
    ⟨[['S'], ['\\', 'u', '0', '0', '4', '9'], ['P']],
      .cons (.plain (by decide) (by decide) (by decide))
        (.cons (.unicode (n := 0x49) rfl (.inl (by decide)))
          (.cons (.plain (by decide) (by decide) (by decide)) .nil)), rfl⟩
  let ps : List (Piece Value) := [⟨.string "SIP", [], "\"S\\u0049P\"".toList, [' ']⟩,
    ⟨.string "H323", [' '], printString "H323", []⟩]
  have hps : Writes (.list (ps.map Piece.item)) (listText ps []) := by
    refine .list (by decide) ?_ .nil
    simp only [ps, List.forall_mem_cons, List.not_mem_nil, IsEmpty.forall_iff, implies_true,
      and_true]
    exact ⟨.string hs, .string (quotes_printString "H323")⟩
  have hx : Writes (.list [.object []]) "[\x7b\x7d]".toList :=
    writes_list (List.forall_mem_singleton.2 (writes_object nofun .nil))
  let es : List (Entry Value) :=
    [⟨⟨"trace_level", [' '], printString "trace_level", [' ']⟩, ⟨.ofNat 3, [' '], ['3'], [' ']⟩⟩,
      ⟨⟨"extra", [' '], printString "extra", []⟩,
        ⟨.list [.object []], [], "[\x7b\x7d]".toList, []⟩⟩,
      ⟨⟨"prefixes", [], printString "prefixes", []⟩,
        ⟨.list [.string "SIP", .string "H323"], [], "[\"S\\u0049P\" , \"H323\"]".toList, [' ']⟩⟩]
  have hw : Writes v (objectText es []) := by
    refine .object (by decide) ?_ ?_ (by decide) ?_ .nil
    · simp only [es, List.forall_mem_cons, List.not_mem_nil, IsEmpty.forall_iff, implies_true,
        and_true, quotes_printString]
    · simp only [es, List.forall_mem_cons, List.not_mem_nil, IsEmpty.forall_iff, implies_true,
        and_true]
      exact ⟨.number rfl, hx, hps⟩
    · exact (List.Perm.cons _ (.swap ..)).trans (.swap ..)
  have ht : text = String.ofList (['\n'] ++ (objectText es [] ++ ['\t'])) := by decide +kernel
  obtain ⟨-, -, -, -, -, -, hr, -⟩ := forms_agree v hv
  refine ⟨hv, ho, ?_⟩
  rw [ht]
  exact (hr _ _ _ (by decide) hw (by decide) _).2 ho

end Options

end Switchboard
