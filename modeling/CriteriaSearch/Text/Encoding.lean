/-!
# Character encodings

Bytes read as UTF-8, UTF-16 and UTF-32. A reader answers one item per character or per ill-formed
piece, so that the strict and the forgiving reading share it: `strict` refuses an ill-formed piece,
`lossy` puts the replacement character in its place.
-/

namespace CriteriaSearch.Text.Encoding

/-- A character, or `none` for an ill-formed piece. -/
abbrev Item := Option Char

def strict (items : List Item) : Option (List Char) := items.mapM id

def lossy (items : List Item) : List Char := items.map (·.getD '\uFFFD')

/-- A UTF-8 sequence under way: the bytes still owed, the range of the next one, and the bits
read so far. -/
structure Owed where
  count : Nat
  low : Nat
  high : Nat
  bits : Nat

/-- The first byte of a sequence: a character, a sequence under way, or neither. -/
def lead (b : Nat) : Item ⊕ Owed :=
  if b < 0x80 then .inl (some (Char.ofNat b))
  else if 0xC2 ≤ b ∧ b ≤ 0xDF then .inr ⟨1, 0x80, 0xBF, b - 0xC0⟩
  else if b = 0xE0 then .inr ⟨2, 0xA0, 0xBF, 0⟩
  else if b = 0xED then .inr ⟨2, 0x80, 0x9F, 0xD⟩
  else if 0xE1 ≤ b ∧ b ≤ 0xEF then .inr ⟨2, 0x80, 0xBF, b - 0xE0⟩
  else if b = 0xF0 then .inr ⟨3, 0x90, 0xBF, 0⟩
  else if 0xF1 ≤ b ∧ b ≤ 0xF3 then .inr ⟨3, 0x80, 0xBF, b - 0xF0⟩
  else if b = 0xF4 then .inr ⟨3, 0x80, 0x8F, 4⟩
  else .inl none

/-- UTF-8, where an ill-formed piece is the longest beginning of a sequence that no byte can
continue, or one byte that begins none. -/
def utf8From : Option Owed → List UInt8 → List Item
  | none, [] => []
  | some _, [] => [none]
  | none, b :: bs =>
    match lead b.toNat with
    | .inl item => item :: utf8From none bs
    | .inr owed => utf8From (some owed) bs
  | some owed, b :: bs =>
    let n := b.toNat
    if owed.low ≤ n ∧ n ≤ owed.high then
      let bits := owed.bits * 64 + (n - 0x80)
      if owed.count ≤ 1 then some (Char.ofNat bits) :: utf8From none bs
      else utf8From (some ⟨owed.count - 1, 0x80, 0xBF, bits⟩) bs
    else
      match lead n with
      | .inl item => none :: item :: utf8From none bs
      | .inr next => none :: utf8From (some next) bs

def utf8 (bytes : List UInt8) : List Item := utf8From none bytes

/-- Which byte of a unit comes first. -/
inductive ByteOrder
  | little
  | big

def unit16 : ByteOrder → UInt8 → UInt8 → Nat
  | .little, a, b => a.toNat + 256 * b.toNat
  | .big, a, b => 256 * a.toNat + b.toNat

def isHighSurrogate (n : Nat) : Bool := 0xD800 ≤ n && n < 0xDC00

def isLowSurrogate (n : Nat) : Bool := 0xDC00 ≤ n && n < 0xE000

/-- The character of two surrogates. -/
def ofSurrogates (high low : Nat) : Char :=
  Char.ofNat (0x10000 + (high - 0xD800) * 0x400 + (low - 0xDC00))

def utf16 (order : ByteOrder) : List UInt8 → List Item
  | a :: b :: c :: d :: rest =>
    let u := unit16 order a b
    let v := unit16 order c d
    if isHighSurrogate u && isLowSurrogate v then some (ofSurrogates u v) :: utf16 order rest
    else if isHighSurrogate u || isLowSurrogate u then none :: utf16 order (c :: d :: rest)
    else some (Char.ofNat u) :: utf16 order (c :: d :: rest)
  | [a, b, _] => [some (Char.ofNat (unit16 order a b)), none]
  | [a, b] =>
    let u := unit16 order a b
    [if isHighSurrogate u || isLowSurrogate u then none else some (Char.ofNat u)]
  | [_] => [none]
  | [] => []

def unit32 : ByteOrder → UInt8 → UInt8 → UInt8 → UInt8 → Nat
  | .little, a, b, c, d => unit16 .little a b + 65536 * unit16 .little c d
  | .big, a, b, c, d => 65536 * unit16 .big a b + unit16 .big c d

def utf32 (order : ByteOrder) : List UInt8 → List Item
  | a :: b :: c :: d :: rest =>
    let n := unit32 order a b c d
    (if n.isValidChar then some (Char.ofNat n) else none) :: utf32 order rest
  | [] => []
  | _ => [none]

/-- The bytes of a text that begins with an ASCII character: a mark at the front names the
encoding, else the zero bytes among the first four do. -/
def detect (bytes : List UInt8) : List Item :=
  match bytes with
  | 0x00 :: 0x00 :: 0xFE :: 0xFF :: rest => utf32 .big rest
  | 0xFF :: 0xFE :: 0x00 :: 0x00 :: rest => utf32 .little rest
  | 0xFE :: 0xFF :: rest => utf16 .big rest
  | 0xFF :: 0xFE :: rest => utf16 .little rest
  | 0xEF :: 0xBB :: 0xBF :: rest => utf8 rest
  | a :: b :: c :: d :: _ =>
    if a = 0 then (if b = 0 then utf32 .big bytes else utf16 .big bytes)
    else if b = 0 then (if c = 0 ∧ d = 0 then utf32 .little bytes else utf16 .little bytes)
    else utf8 bytes
  | [a, b] =>
    if a = 0 then utf16 .big bytes
    else if b = 0 then utf16 .little bytes
    else utf8 bytes
  | _ => utf8 bytes

end CriteriaSearch.Text.Encoding
