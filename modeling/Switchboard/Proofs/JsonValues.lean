import Switchboard.Json.Reader
import Switchboard.Proofs.JsonMembers
import Switchboard.Proofs.JsonScalars

/-!
# Reading JSON values back

What can be read one by one can be read as a list or as the members of an object, with commas
between (`items_intercalate`, `members_intercalate`). So the text of a value is read back as the
value, by induction on the value (`Value.Readable.reads`, `Value.parse_print`). An object is given
back with its members in ascending order, in whatever order they were written (`reads_object`).
-/

namespace Switchboard.Json

variable {α β : Type} {read : List Char → Except Error (α × List Char)} {rest t s : List Char}
  {first : Bool} {x : α}

/-! ## Beginnings of values -/

/-- The first character of a text is neither blank nor the end of a list. -/
def Opens (text : List Char) : Prop :=
  ∃ c cs, text = c :: cs ∧ isBlank c = false ∧ c ≠ ']'

theorem Opens.length_pos (h : Opens t) : 0 < t.length := by
  obtain ⟨c, cs, rfl, -⟩ := h
  exact Nat.succ_pos cs.length

theorem skipBlanks_of_opens (h : Opens t) : skipBlanks (t ++ rest) = t ++ rest := by
  obtain ⟨c, cs, rfl, hb, -⟩ := h
  exact List.dropWhile_cons_of_neg (by simp [hb])

/-- A text of blanks. -/
def Blanks (s : List Char) : Prop :=
  ∀ c ∈ s, isBlank c

-- Named, as an instance may also be found that goes through all characters.
instance (s : List Char) : Decidable (Blanks s) :=
  List.decidableBAll (isBlank ·) s

theorem Blanks.nil : Blanks [] :=
  fun _ hc => nomatch hc

theorem skipBlanks_append {b : List Char} (hb : Blanks b) (s : List Char) :
    skipBlanks (b ++ s) = skipBlanks s :=
  List.dropWhile_append_of_pos hb

theorem length_skipBlanks_le (s : List Char) : (skipBlanks s).length ≤ s.length :=
  (List.dropWhile_sublist isBlank).length_le

/-- A value is over before blanks if it is over without them. -/
theorem Ends.blanks {b : List Char} (hb : Blanks b) (h : Ends rest) : Ends (b ++ rest) := by
  cases b with
  | nil => exact h
  | cons c b =>
    rintro _ ⟨⟩
    exact .inl (hb c List.mem_cons_self)

/-- The first item of a list comes at once, or after blanks. -/
theorem nextItem_first (h : Opens t) (hs : skipBlanks s = t ++ rest) :
    nextItem true s = .ok (.more (t ++ rest)) := by
  rw [nextItem, hs]
  obtain ⟨c, cs, rfl, -, hc⟩ := h
  rw [List.cons_append]
  split
  · next h => cases h
  · next h => exact absurd (List.cons.inj h).1 hc
  · next h =>
    obtain ⟨rfl, rfl⟩ := List.cons.inj h
    rfl

/-- Any other item comes after a comma. -/
theorem nextItem_comma {u : List Char} (h : Opens t) (hs : skipBlanks s = ',' :: u)
    (hu : skipBlanks u = t ++ rest) : nextItem false s = .ok (.more (t ++ rest)) := by
  rw [nextItem, hs]
  split
  · next hl => cases hl
  · next hl => exact absurd (List.cons.inj hl).1 (by decide)
  · next hl =>
    obtain ⟨rfl, rfl⟩ := List.cons.inj hl
    rw [if_neg Bool.false_ne_true, if_pos rfl, hu]
    obtain ⟨c, cs, rfl, -, hc⟩ := h
    rw [List.cons_append]
    split
    · next hl => cases hl
    · next hl => exact absurd (List.cons.inj hl).1 hc
    · rfl

theorem nextItem_close (hs : skipBlanks s = ']' :: rest) :
    nextItem first s = .ok (.closed rest) := by
  rw [nextItem, hs]
  rfl

/-! ## Lists -/

theorem length_lt_comma (t rest : List Char) : rest.length < (',' :: (t ++ rest)).length := by
  rw [List.length_cons, List.length_append]
  omega

theorem length_lt_append (h : 0 < t.length) (rest : List Char) :
    rest.length < (t ++ rest).length := by
  rw [List.length_append]
  omega

/-- What comes after something in a text is shorter than the text, whatever blanks are before. -/
theorem length_lt_of_skipBlanks (ht : 0 < t.length) (hs : skipBlanks s = t ++ rest) :
    rest.length < s.length := by
  have hl := length_skipBlanks_le s
  rw [hs] at hl
  exact Nat.lt_of_lt_of_le (length_lt_append ht rest) hl

/-- Texts with commas between them are the first text and the others, each after a comma. -/
theorem intercalate_map_cons (write : β → List Char) (y : β) (ys : List β) :
    [','].intercalate ((y :: ys).map write) = write y ++ ys.flatMap fun y => ',' :: write y := by
  induction ys generalizing y with
  | nil => simp
  | cons z ys ih =>
    rw [List.map_cons, List.map_cons, List.intercalate_cons_cons, ← List.map_cons, ih]
    simp

theorem ends_close {c : Char} (hc : c = ']' ∨ c = '\x7D') (rest : List Char) :
    Ends (c :: rest) := by
  rintro _ ⟨⟩
  exact .inr (.inr hc)

/-- A value is over before the commas that go on with what it is in. -/
theorem ends_commas (write : β → List Char) (ys : List β) (h : Ends rest) :
    Ends ((ys.flatMap fun y => ',' :: write y) ++ rest) := by
  cases ys with
  | nil => exact h
  | cons y ys =>
    rintro _ ⟨⟩
    exact .inr (.inl rfl)

/-- The text of something in a list or an object, with the blanks around it. -/
structure Piece (β : Type) where
  item : β
  before : List Char
  text : List Char
  after : List Char

namespace Piece

/-- A piece without blanks. -/
def bare (write : β → List Char) (y : β) : Piece β :=
  ⟨y, [], write y, []⟩

def chars (p : Piece β) : List Char :=
  p.before ++ (p.text ++ p.after)

/-- There is nothing but blanks around the text. -/
def Spaced (p : Piece β) : Prop :=
  Blanks p.before ∧ Blanks p.after

instance (p : Piece β) : Decidable p.Spaced :=
  inferInstanceAs (Decidable (_ ∧ _))

/-- Blanks before a piece are passed over. -/
theorem skipBlanks_chars {p : Piece β} (hp : p.Spaced) (ho : Opens p.text) (rest : List Char) :
    skipBlanks (p.chars ++ rest) = p.text ++ (p.after ++ rest) := by
  rw [chars, List.append_assoc, skipBlanks_append hp.1, List.append_assoc, skipBlanks_of_opens ho]

theorem spaced_bare (write : β → List Char) (y : β) : (bare write y).Spaced :=
  ⟨.nil, .nil⟩

theorem map_item_bare (write : β → List Char) (ys : List β) :
    (ys.map (bare write)).map item = ys := by
  rw [List.map_map]
  exact List.map_id ys

theorem map_chars_bare (write : β → List Char) (ys : List β) :
    (ys.map (bare write)).map chars = ys.map write := by
  rw [List.map_map]
  exact List.map_congr_left fun y _ => List.append_nil (write y)

end Piece

/-- A function takes a text off with an outcome: what it reads is left to what comes after, an error
is final. -/
def Gives (read : List Char → Except Error (α × List Char)) (text : List Char)
    (r : Except Error α) : Prop :=
  ∀ rest, Ends rest → read (text ++ rest) = r.map (·, rest)

/-- What is taken may be put in another form. -/
theorem Gives.map {r : Except Error α} (h : Gives read t r) (g : α → β) :
    Gives (fun s => (read s).map fun x => (g x.1, x.2)) t (r.map g) := by
  intro rest he
  dsimp only
  rw [h rest he]
  cases r <;> rfl

/-- One item is read, and then the others. -/
theorem items_more (hn : nextItem first s = .ok (.more t)) (hi : read t = .ok (x, rest))
    (hl : rest.length < s.length) :
    items read first s = (items read false rest).map fun y => (x :: y.1, y.2) := by
  rw [items, hn]
  simp only [hi, dif_pos hl]
  cases items read false rest <;> rfl

/-- An item is taken with its outcome, and then the others. -/
theorem items_gives {r : Except Error α} (hn : nextItem first s = .ok (.more (t ++ rest)))
    (hg : Gives read t r) (he : Ends rest) (hl : rest.length < s.length) :
    items read first s = r >>= fun x => (items read false rest).map fun y => (x :: y.1, y.2) := by
  have hi := hg rest he
  cases r with
  | error e =>
    rw [items, hn]
    simp only [hi]
    rfl
  | ok x => exact items_more hn hi hl

theorem items_close (hs : skipBlanks s = ']' :: rest) : items read first s = .ok ([], rest) := by
  rw [items, nextItem_close hs]

section Items

variable {f : β → Except Error α} {ps : List (Piece β)} {b : List Char}

/-- Items are taken one by one with commas before them, and blanks before each comma. -/
theorem items_commas (h : ∀ p ∈ ps, p.Spaced ∧ Opens p.text ∧ Gives read p.text (f p.item))
    (hb : Blanks b)
    (hs : skipBlanks s =
      skipBlanks ((ps.flatMap fun p => ',' :: p.chars) ++ (b ++ ']' :: rest))) :
    items read false s = ((ps.map Piece.item).mapM f).map (·, rest) := by
  induction ps generalizing s with
  | nil =>
    rw [List.flatMap_nil, List.nil_append, skipBlanks_append hb] at hs
    exact items_close hs
  | cons p ps ih =>
    obtain ⟨⟨hp, ho, hg⟩, hps⟩ := List.forall_mem_cons.1 h
    have he := ends_commas Piece.chars ps ((ends_close (.inl rfl) rest).blanks hb)
    rw [List.flatMap_cons, List.append_assoc, List.cons_append] at hs
    have hu := Piece.skipBlanks_chars hp ho
      ((ps.flatMap fun p => ',' :: p.chars) ++ (b ++ ']' :: rest))
    have hl := (length_lt_of_skipBlanks ho.length_pos hu).trans
      (length_lt_of_skipBlanks (t := [',']) Nat.one_pos hs)
    rw [items_gives (nextItem_comma ho hs hu) hg (he.blanks hp.2) hl, List.map_cons, List.mapM_cons]
    cases f p.item with
    | error e => rfl
    | ok x =>
      rw [ok_bind, ok_bind, ih hps (skipBlanks_append hp.2 _)]
      cases (ps.map Piece.item).mapM f <;> rfl

/-- Items are taken one by one. -/
theorem items_pieces (h : ∀ p ∈ ps, p.Spaced ∧ Opens p.text ∧ Gives read p.text (f p.item))
    (hb : Blanks b) :
    items read true ([','].intercalate (ps.map Piece.chars) ++ (b ++ ']' :: rest)) =
      ((ps.map Piece.item).mapM f).map (·, rest) := by
  cases ps with
  | nil => exact items_close (skipBlanks_append hb _)
  | cons p ps =>
    obtain ⟨⟨hp, ho, hg⟩, hps⟩ := List.forall_mem_cons.1 h
    have he := ends_commas Piece.chars ps ((ends_close (.inl rfl) rest).blanks hb)
    rw [intercalate_map_cons, List.append_assoc]
    have hu := Piece.skipBlanks_chars hp ho
      ((ps.flatMap fun p => ',' :: p.chars) ++ (b ++ ']' :: rest))
    rw [items_gives (nextItem_first ho hu) hg (he.blanks hp.2)
      (length_lt_of_skipBlanks ho.length_pos hu), List.map_cons, List.mapM_cons]
    cases f p.item with
    | error e => rfl
    | ok x =>
      rw [ok_bind, ok_bind, items_commas hps hb (skipBlanks_append hp.2 _)]
      cases (ps.map Piece.item).mapM f <;> rfl

/-- Items that can be read one by one are read as a list. -/
theorem items_intercalate (write : β → List Char) (f : β → α) {ys : List β}
    (h : ∀ y ∈ ys, Opens (write y) ∧ Reads read (write y) (f y)) :
    items read true ([','].intercalate (ys.map write) ++ ']' :: rest) = .ok (ys.map f, rest) := by
  have hp : ∀ p ∈ ys.map (Piece.bare write),
      p.Spaced ∧ Opens p.text ∧ Gives read p.text (.ok (f p.item)) := by
    intro p hp
    obtain ⟨y, hy, rfl⟩ := List.mem_map.1 hp
    exact ⟨Piece.spaced_bare write y, h y hy⟩
  rw [← Piece.map_chars_bare write ys, ← List.nil_append (']' :: rest),
    items_pieces (f := fun y => .ok (f y)) hp .nil, Piece.map_item_bare]
  exact congrArg (Except.map (·, rest)) List.mapM_pure

end Items

/-! ## Objects -/

/-- A member with its name between quotes. -/
def memberText (write : β → List Char) (m : String × β) : List Char :=
  printString m.1 ++ ':' :: write m.2

/-- The first member of an object comes at once, or after blanks. -/
theorem nextMember_first (hs : skipBlanks s = '\x22' :: t) :
    nextMember true s = .ok (.more ('\x22' :: t)) := by
  rw [nextMember, hs]
  rfl

/-- Any other member comes after a comma. -/
theorem nextMember_comma {u : List Char} (hs : skipBlanks s = ',' :: u)
    (hu : skipBlanks u = '\x22' :: t) : nextMember false s = .ok (.more ('\x22' :: t)) := by
  have hn : nextMember false s = nameStart (skipBlanks u) := by
    rw [nextMember, hs]
    rfl
  rw [hn, hu]
  rfl

theorem nextMember_close (hs : skipBlanks s = '\x7D' :: rest) :
    nextMember first s = .ok (.closed rest) := by
  rw [nextMember, hs]
  rfl

theorem length_memberText_pos (write : β → List Char) (m : String × β) :
    0 < (memberText write m).length :=
  Nat.succ_pos _

/-- A member is read if its value is. -/
theorem reads_memberText (write : β → List Char) {m : String × β} (ho : Opens (write m.2))
    (hr : Reads read (write m.2) x) : Reads (member read) (memberText write m) (m.1, x) := by
  intro rest h
  have hc : colon (':' :: (write m.2 ++ rest)) = .ok (write m.2 ++ rest) := rfl
  rw [memberText, List.append_assoc, member, string_printString]
  simp only [List.cons_append, ok_bind, hc, skipBlanks_of_opens ho, hr rest h]
  rfl

/-- One member is read, and then the others. -/
theorem members_more {m : String × α} (hn : nextMember first s = .ok (.more t))
    (hm : member read t = .ok (m, rest)) (hl : rest.length < s.length) :
    members read first s = (members read false rest).map fun y => (m :: y.1, y.2) := by
  rw [members, hn]
  simp only [hm, dif_pos hl]
  cases members read false rest <;> rfl

section Members

variable (write : β → List Char) (f : β → α) {ms : List (String × β)}

/-- Members whose values can be read one by one are read with commas before them. -/
theorem members_commas (h : ∀ m ∈ ms, Opens (write m.2) ∧ Reads read (write m.2) (f m.2)) :
    members read false ((ms.flatMap fun m => ',' :: memberText write m) ++ '\x7D' :: rest) =
      .ok (ms.map fun m => (m.1, f m.2), rest) := by
  induction ms with
  | nil =>
    rw [members]
    rfl
  | cons m ms ih =>
    obtain ⟨⟨ho, hm⟩, hms⟩ := List.forall_mem_cons.1 h
    have hr := reads_memberText write ho hm _
      (ends_commas (memberText write) ms (ends_close (.inr rfl) rest))
    rw [List.flatMap_cons, List.append_assoc, List.cons_append,
      members_more (nextMember_comma rfl rfl) hr (length_lt_comma ..), ih hms]
    rfl

/-- Members whose values can be read one by one are read as an object. -/
theorem members_intercalate (h : ∀ m ∈ ms, Opens (write m.2) ∧ Reads read (write m.2) (f m.2)) :
    members read true ([','].intercalate (ms.map (memberText write)) ++ '\x7D' :: rest) =
      .ok (ms.map fun m => (m.1, f m.2), rest) := by
  cases ms with
  | nil =>
    rw [members]
    rfl
  | cons m ms =>
    obtain ⟨⟨ho, hm⟩, hms⟩ := List.forall_mem_cons.1 h
    have hr := reads_memberText write ho hm _
      (ends_commas (memberText write) ms (ends_close (.inr rfl) rest))
    have hl := length_memberText_pos write m
    rw [intercalate_map_cons, List.append_assoc,
      members_more (nextMember_first rfl) hr (length_lt_append hl _),
      members_commas write f hms]
    rfl

end Members

/-! ## Values -/

theorem itemChars_eq (vs : List Value) : itemChars vs = [','].intercalate (vs.map Value.chars) := by
  induction vs with
  | nil => rfl
  | cons v vs ih =>
    cases vs with
    | nil => simp [itemChars]
    | cons w vs =>
      rw [itemChars, ih, intercalate_map_cons, intercalate_map_cons]
      simp

theorem memberChars_eq (ms : List (String × Value)) :
    memberChars ms = [','].intercalate (ms.map (memberText Value.chars)) := by
  induction ms with
  | nil => rfl
  | cons m ms ih =>
    cases ms with
    | nil => simp [memberChars, memberText]
    | cons m' ms =>
      rw [memberChars, ih, intercalate_map_cons, intercalate_map_cons]
      simp [memberText]

/-- Values that have a text and are given back by it: their numbers are whole, their members in
ascending order, and at most `depth` brackets are around one another. -/
inductive Value.Readable : Nat → Value → Prop
  | null {depth : Nat} : Readable depth .null
  | bool {depth : Nat} (b : Bool) : Readable depth (.bool b)
  | natural {depth : Nat} (n : UInt64) : Readable depth (.number (.natural n))
  | negative {depth : Nat} {n : Int64} (h : n < 0) : Readable depth (.number (.negative n))
  | string {depth : Nat} (s : String) : Readable depth (.string s)
  | list {depth : Nat} {vs : List Value} (h : ∀ v ∈ vs, Readable depth v) :
      Readable (depth + 1) (.list vs)
  | object {depth : Nat} {ms : List (String × Value)} (h : ∀ m ∈ ms, Readable depth m.2)
      (ascending : ms.Pairwise (·.1 < ·.1)) : Readable (depth + 1) (.object ms)

/-- A character that may begin a number is none that may not. -/
theorem ne_of_beginsNumber {c d : Char} (hc : c = '-' ∨ c.isDigit) (hd : ¬ (d = '-' ∨ d.isDigit)) :
    c ≠ d := by
  rintro rfl
  exact hd hc

theorem beginsNumber_isSome {c : Char} (h : c = '-' ∨ c.isDigit) :
    c = '-' ∨ (Numeral.digit? c).isSome := by
  refine h.imp_right fun hc => ?_
  rw [Numeral.digit?_of_isDigit hc]
  rfl

/-- The first character of a numeral, with its sign, leads to the numbers. -/
theorem value_number {depth : Nat} {c : Char} {s : List Char} (h : c = '-' ∨ c.isDigit) :
    value depth (c :: s) = (number (c :: s)).map fun x => (.number x.1, x.2) := by
  rw [value.eq_def]
  split
  · next h => cases h
  iterate 8
    · next hl => exact absurd (List.cons.inj hl).1 (ne_of_beginsNumber h (by decide))
  · next hl _ _ _ _ =>
    obtain ⟨rfl, rfl⟩ := List.cons.inj hl
    exact if_pos (beginsNumber_isSome h)

/-- A digit is neither blank nor the end of a list. -/
theorem not_isBlank_of_isDigit {c : Char} (h : c.isDigit) : isBlank c = false ∧ c ≠ ']' := by
  constructor
  · refine Bool.eq_false_iff.2 fun hb => ?_
    simp only [isBlank, Bool.or_eq_true, beq_iff_eq] at hb
    rcases hb with ((rfl | rfl) | rfl) | rfl <;> revert h <;> decide
  · rintro rfl
    revert h
    decide

theorem opens_digits (n : Nat) : Opens (Numeral.digits 10 n) := by
  obtain ⟨c, cs, hc, hd⟩ := Numeral.exists_digits_eq_cons n
  exact ⟨c, cs, hc, not_isBlank_of_isDigit hd⟩

theorem print_negative {n : Int64} (h : n < 0) :
    (Number.negative n).print = '-' :: Numeral.digits 10 n.toInt.natAbs := by
  have hl : n.toInt < 0 := Int64.lt_iff_toInt_lt.1 h
  rw [Number.print, Numeral.integer, String.toList_ofList, if_pos hl]

/-- The text of a readable value is not empty, and what comes first in it is neither blank nor the
end of a list. -/
theorem Value.Readable.opens {depth : Nat} {v : Value} (h : v.Readable depth) :
    Opens v.chars := by
  cases h with
  | null => exact ⟨_, _, rfl, rfl, by decide⟩
  | bool b => cases b <;> exact ⟨_, _, rfl, rfl, by decide⟩
  | natural n => exact opens_digits n.toNat
  | negative h => exact ⟨_, _, print_negative h, rfl, by decide⟩
  | string s => exact ⟨_, _, rfl, rfl, by decide⟩
  | list h => exact ⟨_, _, rfl, rfl, by decide⟩
  | object h => exact ⟨_, _, rfl, rfl, by decide⟩

/-- A text that is read as a number is read as a value. -/
theorem reads_number {depth : Nat} {n : Number} (h : number t = .ok (n, [])) :
    Reads (value depth) t (.number n) := by
  intro rest he
  obtain ⟨c, u, rfl, hc⟩ := number_head h
  have hr := (number_append h he).1
  rw [List.cons_append] at hr ⊢
  rw [value_number hc, hr]
  rfl

theorem number_natural (n : UInt64) :
    number (Number.natural n).print = .ok (.natural n, []) := by
  have h := number_digits n.toNat_lt
  rwa [UInt64.ofNat_toNat] at h

theorem number_negative {n : Int64} (hn : n < 0) :
    number (Number.negative n).print = .ok (.negative n, []) := by
  have hl : n.toInt < 0 := Int64.lt_iff_toInt_lt.1 hn
  have hm := n.le_toInt
  have hw : wholeNumber false n.toInt.natAbs = .negative n := by
    have hi : -(n.toInt.natAbs : Int) = n.toInt := by omega
    have hs : UInt64.size / 2 = 2 ^ 63 := rfl
    rw [wholeNumber, if_neg (by decide), if_neg (by omega), hi, Int64.ofInt_toInt]
  have hs : n.toInt.natAbs < UInt64.size := by
    have : UInt64.size = 2 ^ 64 := rfl
    omega
  rw [print_negative hn, number, unsignedNumber_digits false hs, hw]

section Brackets

variable {depth : Nat}

theorem reads_list {vs : List Value}
    (h : ∀ v ∈ vs, Opens v.chars ∧ Reads (value depth) v.chars v) :
    Reads (value (depth + 1)) (Value.list vs).chars (.list vs) := by
  intro rest _
  have ht : (Value.list vs).chars ++ rest = '[' :: (itemChars vs ++ ']' :: rest) := by
    simp [Value.chars]
  rw [ht, value, itemChars_eq, items_intercalate Value.chars (fun v => v) h, List.map_id']
  rfl

/-- An object is given back with its members in ascending order, the last one of each name. -/
theorem reads_object {ms : List (String × Value)}
    (h : ∀ m ∈ ms, Opens m.2.chars ∧ Reads (value depth) m.2.chars m.2) :
    Reads (value (depth + 1)) (Value.object ms).chars (.ofMembers ms) := by
  intro rest _
  have ht : (Value.object ms).chars ++ rest = '\x7B' :: (memberChars ms ++ '\x7D' :: rest) := by
    simp [Value.chars]
  rw [ht, value, memberChars_eq, members_intercalate Value.chars (fun v => v) h,
    List.map_id']
  rfl

end Brackets

/-- The text of a readable value is read back as the value. -/
theorem Value.Readable.reads {depth : Nat} {v : Value} (h : v.Readable depth) :
    Reads (value depth) v.chars v := by
  induction h with
  | null =>
    intro rest _
    show value _ ('n' :: (['u', 'l', 'l'] ++ rest)) = _
    rw [value, literal_append]
    rfl
  | bool b =>
    intro rest _
    cases b with
    | true =>
      show value _ ('t' :: (['r', 'u', 'e'] ++ rest)) = _
      rw [value, literal_append]
      rfl
    | false =>
      show value _ ('f' :: (['a', 'l', 's', 'e'] ++ rest)) = _
      rw [value, literal_append]
      rfl
  | natural n => exact reads_number (number_natural n)
  | negative h => exact reads_number (number_negative h)
  | string s =>
    intro rest _
    show value _ ('\x22' :: (printString s ++ rest).tail) = _
    rw [value, string_printString]
    rfl
  | list h ih => exact reads_list fun v hv => ⟨(h v hv).opens, ih v hv⟩
  | object h ascending ih =>
    have hr := reads_object fun m hm => ⟨(h m hm).opens, ih m hm⟩
    rwa [Value.ofMembers_of_ascending ascending] at hr

theorem Value.parse_of_reads {v : Value} (ho : Opens t) (hr : Reads (value maxDepth) t v) :
    Value.parse (String.ofList t) = .ok v := by
  have h := hr [] (by simp [Ends])
  rw [parse, String.toList_ofList, ← List.append_nil t, skipBlanks_of_opens ho, h]
  rfl

/-- A whole text is read back as the value that was written, if the numbers of the value are whole,
its members are in ascending order, and its brackets are not too deep. -/
theorem Value.parse_print {v : Value} (h : v.Readable maxDepth) : Value.parse v.print = .ok v :=
  parse_of_reads h.opens h.reads

end Switchboard.Json
