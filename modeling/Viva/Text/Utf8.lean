/-! # Lenient UTF-8, one byte at a time

Bytes become characters as soon as a character is complete. A byte that cannot go on with the
character begun before it closes that character off: what was begun is replaced by one U+FFFD, and
the byte starts anew. So every maximal piece that no character can complete gives one U+FFFD, and
where a byte string is cut into reads makes no difference: the state between two bytes is the list
of bytes of the character begun, at most three of them.
-/

namespace Viva.Text.Utf8

/-- Stands for bytes that are no character. -/
def replacement : Char := '\uFFFD'

/-- How many bytes a character has that starts with this byte; zero when none does. -/
def lengthFrom (first : UInt8) : Nat :=
  if first < 0x80 then 1
  else if 0xC2 ≤ first && first ≤ 0xDF then 2
  else if 0xE0 ≤ first && first ≤ 0xEF then 3
  else if 0xF0 ≤ first && first ≤ 0xF4 then 4
  else 0

/-- The byte may come after the first one. -/
def isTail (b : UInt8) : Bool := 0x80 ≤ b && b ≤ 0xBF

/-- The byte may come second, after `first`: a tail byte that gives neither a longer form than
    needed, nor a surrogate, nor a number above U+10FFFF. -/
def isSecond (first b : UInt8) : Bool :=
  if first = 0xE0 then 0xA0 ≤ b && b ≤ 0xBF
  else if first = 0xED then 0x80 ≤ b && b ≤ 0x9F
  else if first = 0xF0 then 0x90 ≤ b && b ≤ 0xBF
  else if first = 0xF4 then 0x80 ≤ b && b ≤ 0x8F
  else isTail b

/-- The byte may follow the bytes begun. -/
def follows (begun : List UInt8) (b : UInt8) : Bool :=
  match begun with
  | [] => lengthFrom b != 0
  | [first] => isSecond first b
  | _ => isTail b

/-- The character that a complete sequence of bytes stands for. -/
def charOf : List UInt8 → Char
  | [a] => Char.ofNat a.toNat
  | [a, b] => Char.ofNat ((a.toNat % 0x20) * 0x40 + b.toNat % 0x40)
  | [a, b, c] => Char.ofNat ((a.toNat % 0x10) * 0x1000 + (b.toNat % 0x40) * 0x40 + c.toNat % 0x40)
  | [a, b, c, d] =>
    Char.ofNat ((a.toNat % 0x08) * 0x40000 + (b.toNat % 0x40) * 0x1000 + (c.toNat % 0x40) * 0x40
      + d.toNat % 0x40)
  | _ => replacement

/-- The bytes are all the bytes of the character they start. -/
def isComplete : List UInt8 → Bool
  | [] => false
  | first :: rest => rest.length + 1 == lengthFrom first

/-- One byte that is known to follow what was begun. -/
def accept (begun : List UInt8) (b : UInt8) : List Char × List UInt8 :=
  let bytes := begun ++ [b]
  if isComplete bytes then ([charOf bytes], []) else ([], bytes)

/-- One byte: the characters it settles, and the bytes of the character begun after it. -/
def step (begun : List UInt8) (b : UInt8) : List Char × List UInt8 :=
  if follows begun b then accept begun b
  else if begun.isEmpty then ([replacement], [])
  else if follows [] b then
    let (chars, next) := accept [] b
    (replacement :: chars, next)
  else ([replacement, replacement], [])

/-- Bytes read after `begun`: the characters they settle, and the bytes of the character begun at
    their end. -/
def decode (begun : List UInt8) : List UInt8 → List Char × List UInt8
  | [] => ([], begun)
  | b :: rest =>
    let (chars, next) := step begun b
    let (more, last) := decode next rest
    (chars ++ more, last)

/-- Two reads decode like the one read that joins them. -/
theorem decode_append (begun xs ys : List UInt8) :
    decode begun (xs ++ ys) =
      ((decode begun xs).1 ++ (decode (decode begun xs).2 ys).1,
        (decode (decode begun xs).2 ys).2) := by
  induction xs generalizing begun with
  | nil => rfl
  | cons x xs ih => simp [decode, ih]

/-- The text of a whole byte string; a character cut off at its end is replaced too. -/
def lossy (bytes : List UInt8) : String :=
  let (chars, begun) := decode [] bytes
  String.ofList (if begun.isEmpty then chars else chars ++ [replacement])

/-- The text of a byte string that is UTF-8 throughout. -/
def strict? (bytes : List UInt8) : Option String :=
  String.fromUTF8? ⟨bytes.toArray⟩

/-- The bytes of a text. -/
def encode (s : String) : List UInt8 :=
  s.toUTF8.toList

end Viva.Text.Utf8
