import Switchboard.Proofs.JsonValues

/-!
# The texts of a JSON value

A value has many texts (`Writes`): its strings and numbers are spelled in some way, there are blanks
between the parts of lists and objects, and the members of an object are in some order. An item of a
list is kept together with the blanks around it (`Piece`), and so are the name and the value of a
member (`Entry`). Whatever the text, its first character tells what kind of value it is
(`Value.BeginsWith.kind`). The text that a value is written as is one of them
(`Value.Readable.writes`).
-/

namespace Switchboard.Json

variable {t rest : List Char} {v : Value}

/-! ## Members -/

/-- A member of an object with its name and its value each among blanks. -/
structure Entry (β : Type) where
  name : Piece String
  value : Piece β

namespace Entry

variable {β : Type}

def chars (e : Entry β) : List Char :=
  e.name.chars ++ ':' :: e.value.chars

def member (e : Entry β) : String × β :=
  (e.name.item, e.value.item)

/-- There is nothing but blanks around the name and the value. -/
def Spaced (e : Entry β) : Prop :=
  e.name.Spaced ∧ e.value.Spaced

instance (e : Entry β) : Decidable e.Spaced :=
  inferInstanceAs (Decidable (_ ∧ _))

/-- The name of a member comes first, after blanks, and can be read or passed over. -/
theorem name_append (e : Entry β) (hs : e.name.Spaced) (hq : Quotes e.name.text e.name.item)
    (rest : List Char) :
    ∃ u, skipBlanks (e.chars ++ rest) = '\x22' :: u ∧
      string u = .ok (e.name.item, e.name.after ++ ':' :: (e.value.chars ++ rest)) ∧
      passString u = .ok (e.name.after ++ ':' :: (e.value.chars ++ rest)) := by
  obtain ⟨u, hu, hr, hp⟩ := hq.append (e.name.after ++ ':' :: (e.value.chars ++ rest))
  refine ⟨u, ?_, hr, hp⟩
  have ht : e.chars ++ rest = e.name.before ++ '\x22' :: u := by
    rw [← hu]
    simp [chars, Piece.chars]
  rw [ht, skipBlanks_append hs.1]
  rfl

end Entry

theorem colon_append {b : List Char} (hb : Blanks b) (rest : List Char) :
    colon (b ++ ':' :: rest) = .ok rest := by
  rw [colon, skipBlanks_append hb]
  rfl

theorem atEnd_of_blanks {b : List Char} (hb : Blanks b) : atEnd b = .ok () := by
  have h := skipBlanks_append hb []
  rw [List.append_nil] at h
  rw [atEnd, h]
  rfl

/-! ## Values -/

/-- The text of a list with these items; the blanks are those of an empty list. -/
def listText (ps : List (Piece Value)) (b : List Char) : List Char :=
  '[' :: ([','].intercalate (ps.map Piece.chars) ++ (b ++ [']']))

/-- The text of an object with its members in this order; the blanks are those of an empty object.
-/
def objectText (es : List (Entry Value)) (b : List Char) : List Char :=
  '\x7B' :: ([','].intercalate (es.map Entry.chars) ++ (b ++ ['\x7D']))

theorem listText_append (ps : List (Piece Value)) (b rest : List Char) :
    listText ps b ++ rest =
      '[' :: ([','].intercalate (ps.map Piece.chars) ++ (b ++ ']' :: rest)) := by
  simp [listText]

theorem objectText_append (es : List (Entry Value)) (b rest : List Char) :
    objectText es b ++ rest =
      '\x7B' :: ([','].intercalate (es.map Entry.chars) ++ (b ++ '\x7D' :: rest)) := by
  simp [objectText]

/-- A text is a way to write a value, with no blanks around it. A number may be written in any way
that is read as this number, the members of an object in any order. -/
inductive Writes : Value → List Char → Prop
  | null : Writes .null ['n', 'u', 'l', 'l']
  | true : Writes (.bool true) ['t', 'r', 'u', 'e']
  | false : Writes (.bool false) ['f', 'a', 'l', 's', 'e']
  | number {n : Number} {t : List Char} (h : number t = .ok (n, [])) : Writes (.number n) t
  | string {s : String} {t : List Char} (h : Quotes t s) : Writes (.string s) t
  | list {ps : List (Piece Value)} {b : List Char} (spaced : ∀ p ∈ ps, p.Spaced)
      (h : ∀ p ∈ ps, Writes p.item p.text) (hb : Blanks b) :
      Writes (.list (ps.map Piece.item)) (listText ps b)
  | object {ms : List (String × Value)} {es : List (Entry Value)} {b : List Char}
      (spaced : ∀ e ∈ es, e.Spaced) (names : ∀ e ∈ es, Quotes e.name.text e.name.item)
      (h : ∀ e ∈ es, Writes e.value.item e.value.text)
      (nodup : (ms.map Prod.fst).Nodup) (perm : ms.Perm (es.map Entry.member)) (hb : Blanks b) :
      Writes (.object ms) (objectText es b)

/-- Texts of members, each of its name and its value, and blanks around them. -/
def Entries (es : List (Entry Value)) : Prop :=
  ∀ e ∈ es, e.Spaced ∧ Quotes e.name.text e.name.item ∧ Writes e.value.item e.value.text

/-! ## Beginnings -/

/-- The characters that the text of a value may begin with. -/
def Value.BeginsWith : Value → Char → Prop
  | .null, c => c = 'n'
  | .bool true, c => c = 't'
  | .bool false, c => c = 'f'
  | .number _, c => c = '-' ∨ c.isDigit
  | .string _, c => c = '\x22'
  | .list _, c => c = '['
  | .object _, c => c = '\x7B'

theorem Writes.head (h : Writes v t) : ∃ c u, t = c :: u ∧ v.BeginsWith c := by
  cases h with
  | number h => exact number_head h
  | string h =>
    obtain ⟨ps, -, rfl⟩ := h
    exact ⟨_, _, rfl, rfl⟩
  | _ => exact ⟨_, _, rfl, rfl⟩

/-- The first character of a text of a value tells what kind of value it is. -/
theorem Value.BeginsWith.kind {c : Char} (h : v.BeginsWith c) :
    (c = 'n' → v = .null) ∧ (c = 't' ∨ c = 'f' → ∃ b, v = .bool b) ∧
      (c = '-' ∨ (Numeral.digit? c).isSome → ∃ n, v = .number n) ∧
      (c = '\x22' → ∃ s, v = .string s) ∧ (c = '[' → ∃ vs, v = .list vs) ∧
      (c = '\x7B' → ∃ ms, v = .object ms) := by
  cases v with
  | number n =>
    have hn (d : Char) (hd : ¬ (d = '-' ∨ d.isDigit)) : c ≠ d := ne_of_beginsNumber h hd
    simp [hn]
  | bool b => cases b <;> (cases h; simp [Numeral.digit?])
  | _ =>
    cases h
    simp [Numeral.digit?]

theorem Value.BeginsWith.not_isBlank {c : Char} (h : v.BeginsWith c) :
    isBlank c = Bool.false ∧ c ≠ ']' := by
  cases v with
  | number n =>
    obtain rfl | hd := h
    · decide
    · exact not_isBlank_of_isDigit hd
  | bool b => cases b <;> (cases h; decide)
  | _ =>
    cases h
    decide

theorem Writes.opens (h : Writes v t) : Opens t := by
  obtain ⟨c, u, rfl, hc⟩ := h.head
  exact ⟨c, u, rfl, hc.not_isBlank⟩

theorem foundAt_number {c : Char} (h : c = '-' ∨ c.isDigit) (s : List Char) :
    foundAt (c :: s) = (number (c :: s)).map fun x => x.1.found := by
  rw [foundAt.eq_def]
  split
  · next h => cases h
  iterate 6
    · next hl => exact absurd (List.cons.inj hl).1 (ne_of_beginsNumber h (by decide))
  · next hl =>
    obtain ⟨rfl, rfl⟩ := List.cons.inj hl
    exact if_pos (beginsNumber_isSome h)

/-- What a text is written for is what is found there. -/
theorem Writes.foundAt (h : Writes v t) (he : Ends rest) :
    foundAt (t ++ rest) = .ok v.found := by
  cases h with
  | null => rfl
  | true => rfl
  | false => rfl
  | number h =>
    obtain ⟨c, u, rfl, hc⟩ := number_head h
    have hr := (number_append h he).1
    rw [List.cons_append] at hr ⊢
    rw [foundAt_number hc, hr]
    rfl
  | string h =>
    obtain ⟨u, hu, hr, -⟩ := h.append rest
    rw [hu, Json.foundAt, hr]
    rfl
  | list h => rfl
  | object h => rfl

/-! ## Written values -/

/-- A list is written if its items are. -/
theorem writes_list {vs : List Value} (h : ∀ v ∈ vs, Writes v v.chars) :
    Writes (.list vs) (Value.list vs).chars := by
  have hs : ∀ p ∈ vs.map (Piece.bare Value.chars), p.Spaced := by
    intro p hp
    obtain ⟨v, -, rfl⟩ := List.mem_map.1 hp
    exact Piece.spaced_bare Value.chars v
  have hw := Writes.list hs ?_ .nil
  · rw [Piece.map_item_bare, listText, Piece.map_chars_bare, ← itemChars_eq] at hw
    exact hw
  · intro p hp
    obtain ⟨v, hv, rfl⟩ := List.mem_map.1 hp
    exact h v hv

/-- A member with no blanks. -/
def Entry.bare (m : String × Value) : Entry Value :=
  ⟨.bare printString m.1, .bare Value.chars m.2⟩

theorem Entry.chars_bare (m : String × Value) : (bare m).chars = memberText Value.chars m := by
  simp [bare, chars, Piece.bare, Piece.chars, memberText]

/-- An object is written with its members in any order, if their values are written. -/
theorem writes_object {ms : List (String × Value)} (h : ∀ m ∈ ms, Writes m.2 m.2.chars)
    (nodup : (ms.map Prod.fst).Nodup) : Writes (.object ms) (Value.object ms).chars := by
  have hp : ms.Perm ((ms.map Entry.bare).map Entry.member) := by
    rw [List.map_map]
    exact .of_eq (List.map_id ms).symm
  have hc : (ms.map Entry.bare).map Entry.chars = ms.map (memberText Value.chars) := by
    rw [List.map_map]
    exact List.map_congr_left fun m _ => Entry.chars_bare m
  have hw := Writes.object (b := []) ?_ ?_ ?_ nodup hp .nil
  · rw [objectText, hc, ← memberChars_eq] at hw
    exact hw
  · intro e he
    obtain ⟨m, -, rfl⟩ := List.mem_map.1 he
    exact ⟨Piece.spaced_bare printString m.1, Piece.spaced_bare Value.chars m.2⟩
  · intro e he
    obtain ⟨m, -, rfl⟩ := List.mem_map.1 he
    exact quotes_printString m.1
  · intro e he
    obtain ⟨m, hm, rfl⟩ := List.mem_map.1 he
    exact h m hm

/-- The text that a readable value is written as is a text of it. -/
theorem Value.Readable.writes {depth : Nat} (h : v.Readable depth) : Writes v v.chars := by
  induction h with
  | null => exact .null
  | bool b => cases b <;> constructor
  | natural n => exact .number (number_natural n)
  | negative h => exact .number (number_negative h)
  | string s => exact .string (quotes_printString s)
  | list h ih => exact writes_list ih
  | object h ascending ih => exact writes_object ih (nodup_of_ascending ascending)

end Switchboard.Json
