/-!
# Reading bytes as characters

Names and paths arrive as bytes that are meant to be UTF-8.  `pieces` cuts any byte string into
characters and, between them, the stretches that are no character.  A stretch ends where the bytes
can no longer be the beginning of one, so that a truncated character is one stretch and the byte
behind it is looked at anew.
-/

namespace PropertyReflection

namespace Text

/-- A part of a byte string. -/
inductive Piece where
  /-- The bytes of one character. -/
  | char (c : Char)
  /-- Bytes that are not part of a character; there is at least one. -/
  | invalid (first : UInt8) (rest : List UInt8)

/-- How many bytes follow the first byte of a character, and the range of the next one.  The ranges
keep out characters that have a shorter form, surrogates, and numbers beyond the last character. -/
def continuation? (lead : UInt8) : Option (Nat × UInt8 × UInt8) :=
  if lead < 0x80 then some (0, 0x80, 0xbf)
  else if lead < 0xc2 then none
  else if lead < 0xe0 then some (1, 0x80, 0xbf)
  else if lead = 0xe0 then some (2, 0xa0, 0xbf)
  else if lead = 0xed then some (2, 0x80, 0x9f)
  else if lead < 0xf0 then some (2, 0x80, 0xbf)
  else if lead = 0xf0 then some (3, 0x90, 0xbf)
  else if lead < 0xf4 then some (3, 0x80, 0xbf)
  else if lead = 0xf4 then some (3, 0x80, 0x8f)
  else none

/-- The continuation bytes at the front, at most `count` of them.  The first lies in the given range
and the others in the full one. -/
def takeContinuation : Nat → UInt8 → UInt8 → List UInt8 → List UInt8
  | 0, _, _, _ => []
  | _ + 1, _, _, [] => []
  | count + 1, low, high, byte :: rest =>
    if low ≤ byte ∧ byte ≤ high then byte :: takeContinuation count 0x80 0xbf rest else []

/-- The payload of the first byte of a character with `count` bytes to follow. -/
def leadBits (lead : UInt8) : Nat → Nat
  | 0 => lead.toNat
  | 1 => lead.toNat % 0x20
  | 2 => lead.toNat % 0x10
  | _ => lead.toNat % 0x08

/-- The piece at the front of a byte string, and what is left of it. -/
def nextPiece (lead : UInt8) (rest : List UInt8) : Piece × List UInt8 :=
  match continuation? lead with
  | none => (.invalid lead [], rest)
  | some (count, low, high) =>
    let tail := takeContinuation count low high rest
    let left := rest.drop tail.length
    if tail.length = count then
      (.char (Char.ofNat
        (tail.foldl (fun code byte => code * 0x40 + byte.toNat % 0x40) (leadBits lead count))),
        left)
    else (.invalid lead tail, left)

/-- What follows a piece is shorter than the byte string. -/
theorem length_nextPiece_le (lead : UInt8) (rest : List UInt8) :
    (nextPiece lead rest).2.length ≤ rest.length := by
  unfold nextPiece
  split
  · simp
  · dsimp only
    split <;> simp

/-- Cut a byte string into characters and invalid stretches. -/
def pieces : List UInt8 → List Piece
  | [] => []
  | lead :: rest =>
    (nextPiece lead rest).1 :: pieces (nextPiece lead rest).2
termination_by bytes => bytes.length
decreasing_by
  have := length_nextPiece_le lead rest
  simp only [List.length_cons]
  omega

/-- The text of a byte string with a replacement character for every invalid stretch. -/
def lossy (bytes : List UInt8) : String :=
  String.ofList ((pieces bytes).map fun
    | .char c => c
    | .invalid _ _ => Char.ofNat 0xfffd)

/-- The text of a byte string, if all of it is characters. -/
def ofBytes? (bytes : List UInt8) : Option String :=
  String.fromUTF8? (ByteArray.mk bytes.toArray)

/-- The part of a byte string before its first zero, which ends a C string. -/
def untilNul (bytes : List UInt8) : List UInt8 := bytes.takeWhile (· != 0)

end Text

end PropertyReflection
