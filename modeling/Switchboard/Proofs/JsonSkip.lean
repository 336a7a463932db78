import Mathlib.Data.List.DropRight
import Switchboard.Json.Skip
import Switchboard.Proofs.JsonTexts

/-!
# Passing over the texts of a JSON value

A text of a value is passed over whole, inside whatever brackets it is. What comes next is then
what comes after any value there (`goOn`), so the proof goes by induction on the value: a scalar is
passed at once, and a list or an object is passed when each of its items is (`Skipped`).
-/

namespace Switchboard.Json

variable {s t rest : List Char} {b : Bracket} {outer : List Bracket}

/-! ## Lengths -/

theorem passString_length (h : passString s = .ok rest) : rest.length ≤ s.length := by
  -- an escape is skipped whole, so the induction follows the function and not the text
  induction s using passString.induct with
  | case1 =>
    rw [passString] at h
    cases h
  | case2 u =>
    rw [passString, if_pos rfl] at h
    cases h
    exact Nat.le_succ _
  | case3 u e he hq =>
    rw [passString, if_neg hq, if_pos rfl, he] at h
    cases h
  | case4 u after he hl hq ih =>
    rw [passString, if_neg hq, if_pos rfl, he] at h
    exact (ih ((dif_pos hl).symm.trans h)).trans (hl.trans (Nat.le_succ _))
  | case5 u after he hl hq =>
    rw [passString, if_neg hq, if_pos rfl, he] at h
    cases (dif_neg hl).symm.trans h
  | case6 c u hq hb hc =>
    rw [passString, if_neg hq, if_neg hb, if_pos hc] at h
    cases h
  | case7 c u hq hb hc ih =>
    rw [passString, if_neg hq, if_neg hb, if_neg hc] at h
    exact (ih h).trans (Nat.le_succ _)

theorem colon_length (h : colon s = .ok rest) : rest.length ≤ s.length := by
  have hl := length_skipBlanks_le s
  unfold colon at h
  split at h
  · cases h
  · next hs =>
    cases h
    rw [hs, List.length_cons] at hl
    exact Nat.le_of_succ_le hl
  · cases h

theorem toValue_length (h : toValue b s = .ok rest) : rest.length ≤ s.length := by
  cases b with
  | list =>
    cases h
    exact Nat.le_refl _
  | object =>
    have hl := length_skipBlanks_le s
    unfold toValue passName at h
    dsimp only at h
    split at h
    · cases h
    · next u hs =>
      rw [hs, List.length_cons] at hl
      cases hp : passString u with
      | error e =>
        rw [hp] at h
        cases h
      | ok w =>
        rw [hp, ok_bind] at h
        have := colon_length h
        have := passString_length hp
        omega
    · cases h

/-- Closing brackets and going on to the next value only shortens a text. -/
theorem afterValue_length {x : List Bracket × List Char} (h : afterValue outer s = .ok x) :
    x.2.length ≤ s.length := by
  induction outer generalizing s with
  | nil =>
    cases h
    exact Nat.le_refl _
  | cons b bs ih =>
    have hl := length_skipBlanks_le s
    unfold afterValue at h
    split at h
    · cases h
    · cases h
    · next u hs =>
      rw [hs, List.length_cons] at hl
      exact (ih h).trans (by omega)
    · next u hs =>
      rw [hs, List.length_cons] at hl
      exact (ih h).trans (by omega)
    · next b _ _ u hs =>
      rw [hs, List.length_cons] at hl
      cases hv : toValue b u with
      | error e =>
        rw [hv] at h
        cases h
      | ok w =>
        rw [hv] at h
        cases h
        exact (toValue_length hv).trans (by omega)
    · cases h
    · cases h

/-! ## Going on -/

/-- What is passed over from a place inside brackets: with a bracket open there is a value next. -/
def passOn : Except Error (List Bracket × List Char) → Except Error (List Char)
  | .error e => .error e
  | .ok ([], rest) => .ok rest
  | .ok (b :: bs, rest) => skipWithin (b :: bs) rest

/-- What is passed over after a value inside brackets. -/
def goOn (outer : List Bracket) (s : List Char) : Except Error (List Char) :=
  passOn (afterValue outer s)

theorem goOn_nil (s : List Char) : goOn [] s = .ok s := rfl

theorem passOn_toValue (r : Except Error (List Char)) :
    passOn (r.map (b :: outer, ·)) = r >>= skipWithin (b :: outer) := by
  cases r <;> rfl

/-- One round: a scalar or an opening bracket, and then what closes brackets. -/
theorem skipWithin_eq {found : Option Bracket} {r : Except Error (List Bracket × List Char)}
    (hp : passScalar (skipBlanks s) = .ok (found, rest))
    (hr : found.elim (afterValue outer rest) (afterOpening · outer rest) = r)
    (hl : ∀ x, r = .ok x → x.2.length < s.length) : skipWithin outer s = passOn r := by
  rw [skipWithin, hp]
  simp only [hr]
  rcases r with e | ⟨- | ⟨b, bs⟩, u⟩
  · rfl
  · rfl
  · exact dif_pos (hl _ rfl)

theorem skipWithin_scalar (ht : 0 < t.length) (hs : skipBlanks s = t ++ rest)
    (hp : passScalar (t ++ rest) = .ok (none, rest)) : skipWithin outer s = goOn outer rest :=
  skipWithin_eq (hs ▸ hp) rfl fun _ hx =>
    (afterValue_length hx).trans_lt (length_lt_of_skipBlanks ht hs)

def Bracket.open : Bracket → Char
  | .list => '['
  | .object => '\x7B'

def Bracket.close : Bracket → Char
  | .list => ']'
  | .object => '\x7D'

theorem passScalar_open (b : Bracket) (s : List Char) :
    passScalar (b.open :: s) = .ok (some b, s) := by
  cases b <;> rfl

/-- One round at an opening bracket. -/
theorem skipWithin_opening {r : Except Error (List Bracket × List Char)}
    (hs : skipBlanks s = b.open :: rest) (hr : afterOpening b outer rest = r)
    (hl : ∀ x, r = .ok x → x.2.length ≤ rest.length) : skipWithin outer s = passOn r := by
  have hp := passScalar_open b rest
  rw [← hs] at hp
  refine skipWithin_eq hp hr fun x hx => (hl x hx).trans_lt ?_
  exact length_lt_of_skipBlanks (t := [b.open]) Nat.one_pos hs

theorem goOn_blanks (hs : skipBlanks s = skipBlanks t) :
    goOn (b :: outer) s = goOn (b :: outer) t := by
  unfold goOn afterValue
  rw [hs]

theorem goOn_close (hs : skipBlanks s = b.close :: rest) :
    goOn (b :: outer) s = goOn outer rest := by
  have ha : afterValue (b :: outer) s = afterValue outer rest := by
    rw [afterValue.eq_def]
    dsimp only
    rw [hs]
    cases b <;> rfl
  rw [goOn, ha, goOn]

theorem goOn_comma (hs : skipBlanks s = ',' :: rest) :
    goOn (b :: outer) s = toValue b rest >>= skipWithin (b :: outer) := by
  rw [← passOn_toValue, goOn, afterValue.eq_def]
  dsimp only
  rw [hs]
  cases b <;> rfl

/-- A list or an object that is closed at once. -/
theorem skipWithin_close {u : List Char} (hs : skipBlanks s = b.open :: u)
    (hu : skipBlanks u = b.close :: rest) : skipWithin outer s = goOn outer rest := by
  have ha : afterOpening b outer u = afterValue outer rest := by
    unfold afterOpening
    rw [hu]
    cases b <;> rfl
  refine skipWithin_opening hs ha fun x hx => (afterValue_length hx).trans ?_
  exact (length_lt_of_skipBlanks (t := [b.close]) Nat.one_pos hu).le

/-- A list or an object with something in it. -/
theorem skipWithin_open {u : List Char} {c : Char} (hs : skipBlanks s = b.open :: u)
    (hu : skipBlanks u = c :: rest) (hc : c ≠ b.close) :
    skipWithin outer s = toValue b (skipBlanks u) >>= skipWithin (b :: outer) := by
  have ha : afterOpening b outer u = (toValue b (skipBlanks u)).map (b :: outer, ·) := by
    unfold afterOpening
    rw [hu]
    cases b <;> (split <;> simp_all [Bracket.close])
  rw [skipWithin_opening hs ha, passOn_toValue]
  intro x hx
  cases hv : toValue b (skipBlanks u) with
  | error e =>
    rw [hv] at hx
    cases hx
  | ok w =>
    rw [hv] at hx
    cases hx
    exact (toValue_length hv).trans (length_skipBlanks_le u)

/-! ## Texts -/

/-- An item of a list, or a member of an object, is passed over inside whatever brackets it is. The
blanks before it are gone after an opening bracket and still there after a comma. -/
def Skipped (b : Bracket) (e : List Char) : Prop :=
  ∀ outer s rest, skipBlanks s = skipBlanks (e ++ rest) → Ends rest →
    (toValue b s >>= skipWithin (b :: outer)) = goOn (b :: outer) rest

section Items

variable {es : List (List Char)} {sp : List Char}

theorem skipBlanks_skipBlanks (s : List Char) : skipBlanks (skipBlanks s) = skipBlanks s :=
  List.dropWhile_idempotent isBlank s

theorem ends_bracket (b : Bracket) (rest : List Char) : Ends (b.close :: rest) :=
  ends_close (by cases b <;> decide) rest

theorem skipBlanks_close (hb : Blanks sp) (b : Bracket) (rest : List Char) :
    skipBlanks (sp ++ b.close :: rest) = b.close :: rest := by
  rw [skipBlanks_append hb]
  cases b <;> rfl

/-- What is passed over one by one is passed over with commas before it. -/
theorem goOn_commas (h : ∀ e ∈ es, Skipped b e) (hb : Blanks sp) :
    goOn (b :: outer) ((es.flatMap fun e => ',' :: e) ++ (sp ++ b.close :: rest)) =
      goOn outer rest := by
  induction es with
  | nil => exact goOn_close (skipBlanks_close hb b rest)
  | cons e es ih =>
    obtain ⟨he, hes⟩ := List.forall_mem_cons.1 h
    have hr := ends_commas (fun e => e) es ((ends_bracket b rest).blanks hb)
    rw [List.flatMap_cons, List.append_assoc, List.cons_append, goOn_comma rfl, he _ _ _ rfl hr,
      ih hes]

/-- A list or an object is passed over if each item or member is, and none begins with the closing
bracket. -/
theorem skipWithin_items (h : ∀ e ∈ es, Skipped b e) (hb : Blanks sp)
    (ho : ∀ e ∈ es, ∀ rest, ∃ c u, skipBlanks (e ++ rest) = c :: u ∧ c ≠ b.close)
    (hs : skipBlanks s = b.open :: ([','].intercalate es ++ (sp ++ b.close :: rest))) :
    skipWithin outer s = goOn outer rest := by
  cases es with
  | nil => exact skipWithin_close hs (skipBlanks_close hb b rest)
  | cons e es =>
    obtain ⟨he, hes⟩ := List.forall_mem_cons.1 h
    have hr := ends_commas (fun e => e) es ((ends_bracket b rest).blanks hb)
    rw [← List.map_id' (e :: es), intercalate_map_cons, List.append_assoc] at hs
    obtain ⟨c, u, hu, hc⟩ := ho e List.mem_cons_self _
    rw [skipWithin_open hs hu hc, he _ _ _ (skipBlanks_skipBlanks _) hr, goOn_commas hes hb]

end Items

/-- The name of a member is passed over with its colon. -/
theorem passName_entry {e : Entry Value} (hs : e.name.Spaced) (hq : Quotes e.name.text e.name.item)
    (h : skipBlanks s = skipBlanks (e.chars ++ rest)) :
    passName s = .ok (e.value.chars ++ rest) := by
  obtain ⟨u, hu, -, hp⟩ := e.name_append hs hq rest
  rw [passName, h, hu]
  simp only [hp, ok_bind, colon_append hs.2]

/-- A text is passed over inside whatever brackets it is. -/
def Passed (t : List Char) : Prop :=
  ∀ outer s rest, skipBlanks s = t ++ rest → Ends rest → skipWithin outer s = goOn outer rest

theorem skipped_piece {p : Piece Value} (hp : p.Spaced) (ho : Opens p.text) (h : Passed p.text) :
    Skipped .list p.chars := by
  intro outer s rest hs he
  rw [Piece.skipBlanks_chars hp ho] at hs
  have hv : toValue .list s = .ok s := rfl
  rw [hv, ok_bind, h _ _ _ hs (he.blanks hp.2), goOn_blanks (skipBlanks_append hp.2 rest)]

theorem skipped_entry {e : Entry Value} (hs : e.Spaced) (hq : Quotes e.name.text e.name.item)
    (ho : Opens e.value.text) (h : Passed e.value.text) : Skipped .object e.chars := by
  intro outer s rest hb he
  have hv : toValue .object s = .ok (e.value.chars ++ rest) := passName_entry hs.1 hq hb
  have hc := Piece.skipBlanks_chars hs.2 ho rest
  rw [hv, ok_bind, h _ _ _ hc (he.blanks hs.2.2), goOn_blanks (skipBlanks_append hs.2.2 rest)]

/-- A text of a value is passed over. -/
theorem Writes.passed {v : Value} (h : Writes v t) : Passed t := by
  induction h with
  | null => exact fun _ _ _ hs _ => skipWithin_scalar (by decide) hs rfl
  | true => exact fun _ _ _ hs _ => skipWithin_scalar (by decide) hs rfl
  | false => exact fun _ _ _ hs _ => skipWithin_scalar (by decide) hs rfl
  | number h =>
    exact fun _ _ _ hs he =>
      skipWithin_scalar (Writes.number h).opens.length_pos hs (number_append h he).2
  | string h =>
    intro outer s rest hs he
    obtain ⟨u, hu, -, hp⟩ := h.append rest
    refine skipWithin_scalar (Writes.string h).opens.length_pos hs ?_
    rw [hu, passScalar, hp]
    rfl
  | @list ps sp spaced h hb ih =>
    intro outer s rest hs he
    have hp : ∀ e ∈ ps.map Piece.chars, Skipped .list e := by
      intro e he
      obtain ⟨p, hp, rfl⟩ := List.mem_map.1 he
      exact skipped_piece (spaced p hp) (h p hp).opens (ih p hp)
    refine skipWithin_items hp hb ?_ (hs.trans (listText_append ps sp rest))
    intro e he rest
    obtain ⟨p, hp, rfl⟩ := List.mem_map.1 he
    rw [Piece.skipBlanks_chars (spaced p hp) (h p hp).opens]
    obtain ⟨c, u, hc, -, hn⟩ := (h p hp).opens
    exact ⟨c, _, by rw [hc]; rfl, hn⟩
  | @object ms es sp spaced names h nodup perm hb ih =>
    intro outer s rest hs he
    have he : ∀ t ∈ es.map Entry.chars, Skipped .object t := by
      intro t ht
      obtain ⟨e, he, rfl⟩ := List.mem_map.1 ht
      exact skipped_entry (spaced e he) (names e he) (h e he).opens (ih e he)
    refine skipWithin_items he hb ?_ (hs.trans (objectText_append es sp rest))
    intro t ht rest
    obtain ⟨e, he, rfl⟩ := List.mem_map.1 ht
    obtain ⟨u, hu, -⟩ := e.name_append (spaced e he).1 (names e he) rest
    exact ⟨_, u, hu, by decide⟩

/-- A text of a value is passed over up to what comes after it. -/
theorem Writes.skipValue {v : Value} (h : Writes v t) (hs : skipBlanks s = t ++ rest)
    (he : Ends rest) : skipValue s = .ok rest :=
  (h.passed [] s rest hs he).trans (goOn_nil rest)

end Switchboard.Json
