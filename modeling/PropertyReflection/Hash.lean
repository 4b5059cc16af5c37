/-!
# Value hashes

Three mixing functions on 32-bit words.  Byte strings are hashed byte by byte from a fixed
basis, 64-bit quantities are folded into their halves' exclusive or, and hashes are combined
so that their order matters.  A hash is stable for one run of the program; it is no
fingerprint.
-/

namespace PropertyReflection

/-- The hash of the empty byte string. -/
def hashBasis : UInt32 := 0x811c9dc5

/-- The odd multiplier that spreads each byte over the word. -/
def hashPrime : UInt32 := 0x01000193

/-- Mix one more byte into a running hash: exclusive or first, multiplication second. -/
def hashByte (hash : UInt32) (byte : UInt8) : UInt32 :=
  (hash ^^^ byte.toUInt32) * hashPrime

/-- The hash of a byte string. -/
def hashBytes (bytes : List UInt8) : UInt32 :=
  bytes.foldl hashByte hashBasis

/-- Fold a 64-bit quantity into 32 bits. -/
def foldWord (value : UInt64) : UInt32 :=
  value.toUInt32 ^^^ (value >>> 32).toUInt32

/-- The constant that keeps zero hashes from leaving a seed of zero alone. -/
def hashStep : UInt32 := 0x9e3779b9

/-- Mix `hash` into `seed`.  The result depends on the order in which hashes are mixed in. -/
def hashCombine (seed hash : UInt32) : UInt32 :=
  seed ^^^ (hash + hashStep + (seed <<< 6) + (seed >>> 2))

@[simp] theorem hashBytes_nil : hashBytes [] = hashBasis := rfl

/-- Hashing a longer string goes on from the hash of its beginning. -/
theorem hashBytes_append (front back : List UInt8) :
    hashBytes (front ++ back) = back.foldl hashByte (hashBytes front) := by
  simp [hashBytes]

end PropertyReflection
