/-!
# UTF-8

Characters as bytes and bytes as characters. `encode` writes characters. Reading never fails:
`pieces` cuts any byte list into characters and strays, a stray being a run of bytes that begins a
character without finishing it (or a single byte that begins none). The strict reading `decode?`
refuses strays, the lenient reading `decodeLossy` shows each of them as one replacement character.

A place in a text is the number of bytes before it; `takeBytes` and `dropBytes` cut a text there.
-/

namespace Switchboard.Utf8

/-! ## Writing -/

/-- The bytes of one character: one to four of them. -/
def encodeChar (c : Char) : List UInt8 :=
  let n := c.toNat
  if n < 0x80 then
    [UInt8.ofNat n]
  else if n < 0x800 then
    [UInt8.ofNat (0xC0 + n / 64), UInt8.ofNat (0x80 + n % 64)]
  else if n < 0x10000 then
    [UInt8.ofNat (0xE0 + n / 4096), UInt8.ofNat (0x80 + n / 64 % 64), UInt8.ofNat (0x80 + n % 64)]
  else
    [UInt8.ofNat (0xF0 + n / 262144), UInt8.ofNat (0x80 + n / 4096 % 64),
      UInt8.ofNat (0x80 + n / 64 % 64), UInt8.ofNat (0x80 + n % 64)]

/-- The bytes of a text. -/
def encode (cs : List Char) : List UInt8 :=
  cs.flatMap encodeChar

/-! ## Reading -/

/-- A stretch of a byte list: the bytes of a character, or bytes that are not the whole of one. -/
inductive Piece
  | char (c : Char)
  | stray (bytes : List UInt8)
  deriving DecidableEq, Repr

/-- The bytes a piece stands for. -/
def Piece.bytes : Piece → List UInt8
  | .char c => encodeChar c
  | .stray bs => bs

/-- What a first byte announces: how many bytes follow, the range of the next of them, and the bits
the first byte gives to the character. -/
structure Lead where
  following : Nat
  low : Nat
  high : Nat
  value : Nat
  deriving DecidableEq, Repr

/-- The announcement of a first byte; `none` for a byte that begins no character. The narrower
ranges shut out overlong forms, surrogates, and numbers past the last character. -/
def lead? (b : UInt8) : Option Lead :=
  let n := b.toNat
  if n < 0x80 then some ⟨0, 0x80, 0xBF, n⟩
  else if n < 0xC2 then none
  else if n < 0xE0 then some ⟨1, 0x80, 0xBF, n - 0xC0⟩
  else if n = 0xE0 then some ⟨2, 0xA0, 0xBF, 0⟩
  else if n = 0xED then some ⟨2, 0x80, 0x9F, 0xD⟩
  else if n < 0xF0 then some ⟨2, 0x80, 0xBF, n - 0xE0⟩
  else if n = 0xF0 then some ⟨3, 0x90, 0xBF, 0⟩
  else if n < 0xF4 then some ⟨3, 0x80, 0xBF, n - 0xF0⟩
  else if n = 0xF4 then some ⟨3, 0x80, 0x8F, 4⟩
  else none

/-- Takes the bytes that a character still needs. `seen` holds its bytes so far, the last one first.
-/
def take (following low high value : Nat) (seen : List UInt8) (bs : List UInt8) :
    Piece × List UInt8 :=
  match following with
  | 0 => (.char (Char.ofNat value), bs)
  | following + 1 =>
    match bs with
    | [] => (.stray seen.reverse, [])
    | b :: rest =>
      if low ≤ b.toNat ∧ b.toNat ≤ high then
        take following 0x80 0xBF (value * 64 + b.toNat % 64) (b :: seen) rest
      else
        (.stray seen.reverse, b :: rest)

/-- The piece that starts with the byte `b`, and what is left after it. -/
def piece (b : UInt8) (rest : List UInt8) : Piece × List UInt8 :=
  match lead? b with
  | none => (.stray [b], rest)
  | some l => take l.following l.low l.high l.value [b] rest

theorem length_take_le (following low high value : Nat) (seen bs : List UInt8) :
    (take following low high value seen bs).2.length ≤ bs.length := by
  induction following generalizing low high value seen bs with
  | zero => simp [take]
  | succ n ih =>
    cases bs with
    | nil => simp [take]
    | cons b rest =>
      simp only [take]
      split
      · exact Nat.le_succ_of_le (ih ..)
      · simp

theorem length_piece_le (b : UInt8) (rest : List UInt8) :
    (piece b rest).2.length ≤ rest.length := by
  unfold piece
  split
  · simp
  · exact length_take_le ..

/-- A byte list as characters and strays. -/
def pieces : List UInt8 → List Piece
  | [] => []
  | b :: rest => (piece b rest).1 :: pieces (piece b rest).2
termination_by bs => bs.length
decreasing_by
  simp only [List.length_cons]
  exact Nat.lt_succ_of_le (length_piece_le b rest)

/-- The characters of a list of pieces that holds no stray. -/
def Piece.chars? : List Piece → Option (List Char)
  | [] => some []
  | .char c :: ps => (Piece.chars? ps).map (c :: ·)
  | .stray _ :: _ => none

/-- The text of well-formed bytes. -/
def decode? (bs : List UInt8) : Option (List Char) :=
  Piece.chars? (pieces bs)

/-- The text of any bytes, each stray shown as one replacement character. -/
def decodeLossy (bs : List UInt8) : List Char :=
  (pieces bs).map fun
    | .char c => c
    | .stray _ => '\uFFFD'

/-! ## Places -/

/-- The number of bytes of a character. -/
def size (c : Char) : Nat :=
  (encodeChar c).length

/-- The characters before the place `n`. A character across the place is not before it. -/
def takeBytes (n : Nat) : List Char → List Char
  | [] => []
  | c :: cs => if size c ≤ n then c :: takeBytes (n - size c) cs else []

/-- The characters that `takeBytes` leaves. -/
def dropBytes (n : Nat) : List Char → List Char
  | [] => []
  | c :: cs => if size c ≤ n then dropBytes (n - size c) cs else c :: cs

end Switchboard.Utf8
