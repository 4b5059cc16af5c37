import Mathlib
import PropertyReflection.Proofs.PropertyNames
import PropertyReflection.Value.Digest

/-!
# Hashes of texts

A text is hashed byte by byte.  There are more texts than hashes, so that some texts share their
hash, but two texts that differ in one byte never do.  The reason is that nothing is lost on the
way: a byte is mixed in by an exclusive or, which undoes itself, and by a multiplication with an odd
number, which has an inverse modulo `2 ^ 32`.  So every byte permutes the hashes, and so does every
string of bytes behind the one that differs.  For the same reason two texts of different hashes keep
them different when the same is appended to both.

### Outline

* `mixByte` and `mixBytes`, a byte and a byte string as permutations of the hashes, with
  `mixBytes_apply` by induction on the string;
* `hashBytes_append_inj`, for what is appended, and `hashBytes_middle_injective`, for one byte
  between a beginning and an end;
* `DifferOnce`, byte strings that differ at one position, with `DifferOnce.exists_split` and
  `differOnce_middle`: they are a beginning, one of two bytes, and an end;
* `oneByte_changes_textHash`, which puts it together and takes it to texts in memory.
-/

namespace PropertyReflection

/-! ### Bytes as permutations of the hashes -/

/-- The inverse of the multiplier modulo `2 ^ 32`. -/
def hashPrimeInverse : UInt32 := 0x359c449b

theorem hashPrime_mul_inverse : hashPrime * hashPrimeInverse = 1 := by decide

/-- Take the byte that was mixed in last out of a running hash. -/
def unhashByte (hash : UInt32) (byte : UInt8) : UInt32 :=
  hash * hashPrimeInverse ^^^ byte.toUInt32

@[simp] theorem unhashByte_hashByte (hash : UInt32) (byte : UInt8) :
    unhashByte (hashByte hash byte) byte = hash := by
  unfold unhashByte hashByte
  rw [mul_assoc, hashPrime_mul_inverse, mul_one, UInt32.xor_assoc, UInt32.xor_self,
    UInt32.xor_zero]

@[simp] theorem hashByte_unhashByte (hash : UInt32) (byte : UInt8) :
    hashByte (unhashByte hash byte) byte = hash := by
  unfold unhashByte hashByte
  rw [UInt32.xor_assoc, UInt32.xor_self, UInt32.xor_zero, mul_assoc, mul_comm hashPrimeInverse,
    hashPrime_mul_inverse, mul_one]

/-- Mixing in a byte permutes the hashes. -/
def mixByte (byte : UInt8) : Equiv.Perm UInt32 where
  toFun hash := hashByte hash byte
  invFun hash := unhashByte hash byte
  left_inv hash := unhashByte_hashByte hash byte
  right_inv hash := hashByte_unhashByte hash byte

/-- Mixing in a byte string permutes the hashes, byte by byte. -/
def mixBytes : List UInt8 → Equiv.Perm UInt32
  | [] => Equiv.refl UInt32
  | byte :: rest => (mixByte byte).trans (mixBytes rest)

theorem mixBytes_cons (byte : UInt8) (rest : List UInt8) (hash : UInt32) :
    mixBytes (byte :: rest) hash = mixBytes rest (hashByte hash byte) := rfl

/-- Hashing on from a hash is this permutation. -/
theorem mixBytes_apply (bytes : List UInt8) (hash : UInt32) :
    mixBytes bytes hash = bytes.foldl hashByte hash := by
  induction bytes generalizing hash with
  | nil => rfl
  | cons byte rest ih => rw [mixBytes_cons, ih, List.foldl_cons]

/-- Different bytes take one hash to different hashes. -/
theorem hashByte_injective (hash : UInt32) : Function.Injective (hashByte hash) := by
  intro b c h
  have hcancel := congrArg (· * hashPrimeInverse) h
  simp only [hashByte, mul_assoc, hashPrime_mul_inverse, mul_one] at hcancel
  exact UInt8.toUInt32_inj.mp ((UInt32.xor_right_inj hash).mp hcancel)

/-! ### Byte strings -/

/-- What is appended permutes the hashes of what was there before. -/
theorem hashBytes_append_eq_mixBytes (front back : List UInt8) :
    hashBytes (front ++ back) = mixBytes back (hashBytes front) := by
  rw [hashBytes_append, mixBytes_apply]

/-- Byte strings with the same end have one hash only if they have one without it. -/
theorem hashBytes_append_inj {s t : List UInt8} (back : List UInt8) :
    hashBytes (s ++ back) = hashBytes (t ++ back) ↔ hashBytes s = hashBytes t := by
  rw [hashBytes_append_eq_mixBytes, hashBytes_append_eq_mixBytes]
  exact (mixBytes back).apply_eq_iff_eq

/-- The hash tells the byte between a beginning and an end. -/
theorem hashBytes_middle_injective (front back : List UInt8) :
    Function.Injective fun byte => hashBytes (front ++ byte :: back) := by
  intro b c h
  simp only [hashBytes_append_eq_mixBytes, mixBytes_cons] at h
  exact hashByte_injective _ ((mixBytes back).injective h)

/-- Byte strings of one length that differ at exactly one position. -/
structure DifferOnce (s t : List UInt8) : Prop where
  length_eq : s.length = t.length
  position : ∃! i : Nat, s[i]? ≠ t[i]?

/-- Of byte strings that differ once, one is the other with a byte replaced, so that they have their
beginning and their end in common. -/
theorem DifferOnce.exists_split {s t : List UInt8} (h : DifferOnce s t) :
    ∃ front b c back, b ≠ c ∧ s = front ++ b :: back ∧ t = front ++ c :: back := by
  obtain ⟨length_eq, i, ne, unique⟩ := h
  have hs : i < s.length := by
    by_contra hle
    exact ne (by rw [List.getElem?_eq_none (by omega), List.getElem?_eq_none (by omega)])
  have ht : i < t.length := length_eq ▸ hs
  have hset : s.set i t[i] = t := by
    refine List.ext_getElem? fun j => ?_
    by_cases hij : i = j
    · rw [← hij, List.getElem?_set_self hs, List.getElem?_eq_getElem ht]
    · rw [List.getElem?_set_ne hij]
      exact by_contra fun hne => hij (unique j hne).symm
  obtain ⟨front, back, hsplit, -, hreplaced⟩ : ∃ front back, s = front ++ s[i] :: back ∧
      front.length = i ∧ s.set i t[i] = front ++ t[i] :: back := List.exists_of_set hs
  refine ⟨front, s[i], t[i], back, fun heq => ne ?_, hsplit, hset ▸ hreplaced⟩
  rw [List.getElem?_eq_getElem hs, List.getElem?_eq_getElem ht, heq]

/-- One byte is replaced by another one, whatever is before and behind it. -/
theorem differOnce_middle {b c : UInt8} (front back : List UInt8) (ne : b ≠ c) :
    DifferOnce (front ++ b :: back) (front ++ c :: back) := by
  have hset : front ++ c :: back = (front ++ b :: back).set front.length c := by simp
  refine ⟨by simp, front.length, by simpa using ne, fun j hj => ?_⟩
  by_contra hne
  exact hj (by rw [hset, List.getElem?_set_ne (Ne.symm hne)])

/-- Byte strings that differ at one position have different hashes. -/
theorem DifferOnce.hashBytes_ne {s t : List UInt8} (h : DifferOnce s t) :
    hashBytes s ≠ hashBytes t := by
  obtain ⟨front, b, c, back, ne, rfl, rfl⟩ := h.exists_split
  exact (hashBytes_middle_injective front back).ne ne

/-! ### Texts -/

namespace Text

/-- Bytes that are listed one by one from a position on. -/
theorem toList_loop_eq (bytes : ByteArray) (i : Nat) (listed : List UInt8) :
    ByteArray.toList.loop bytes i listed = listed.reverse ++ bytes.data.toList.drop i := by
  induction i, listed using ByteArray.toList.loop.induct bytes with
  | case1 i listed hlt ih =>
    have hi : i < bytes.data.toList.length := hlt
    have hget : bytes.get! i = bytes.data.toList[i] := getElem!_pos bytes.data i hlt
    rw [ByteArray.toList.loop, if_pos hlt, ih, List.drop_eq_getElem_cons hi, hget,
      List.reverse_cons, List.append_assoc, List.singleton_append]
  | case2 i listed hge =>
    have hle : bytes.data.toList.length ≤ i := Nat.le_of_not_lt hge
    rw [ByteArray.toList.loop, if_neg hge, List.drop_eq_nil_of_le hle, List.append_nil]

theorem toList_toUTF8 (text : String) : text.toUTF8.toList = bytes text := by
  rw [ByteArray.toList, toList_loop_eq]
  rfl

theorem bytes_append (s t : String) : bytes (s ++ t) = bytes s ++ bytes t := by
  simp [bytes]

end Text

theorem hashText_eq (text : String) : hashText text = hashBytes (Text.bytes text) := by
  rw [hashText, Text.toList_toUTF8]

theorem hashText_append_inj {s t : String} (back : String) :
    hashText (s ++ back) = hashText (t ++ back) ↔ hashText s = hashText t := by
  simp only [hashText_eq, Text.bytes_append, hashBytes_append_inj]

theorem Property.hashFirst_text {property : Property} (h : property.kind = .string) (m : Block)
    (a : Nat) : property.hashFirst m a = hashText (m.text a) := by
  rw [hashFirst, h, Kind.hash]

/-- Texts that differ in one byte have different hashes. -/
theorem hashText_ne_of_differOnce {s t : String} (h : DifferOnce (Text.bytes s) (Text.bytes t)) :
    hashText s ≠ hashText t := by
  rw [hashText_eq, hashText_eq]
  exact h.hashBytes_ne

/-- Texts of one length that differ in more bytes can share their hash. -/
example : hashText "declinate" = hashText "macallums" := by decide +kernel

/-- No two byte strings of one length have one hash if they differ at exactly one position, and what
is appended to two byte strings neither makes their hashes equal nor tells them apart.  The same
holds of the texts that are held by text properties, wherever they are in memory. -/
theorem oneByte_changes_textHash :
    (∀ s t : List UInt8, DifferOnce s t → hashBytes s ≠ hashBytes t) ∧
    (∀ s t back : List UInt8,
      hashBytes (s ++ back) = hashBytes (t ++ back) ↔ hashBytes s = hashBytes t) ∧
    ∀ property : Property, property.kind = .string → ∀ (m n : Block) (a b : Nat),
      (DifferOnce (Text.bytes (m.text a)) (Text.bytes (n.text b)) →
        property.hashFirst m a ≠ property.hashFirst n b) ∧
      ∀ (m' n' : Block) (a' b' : Nat) (back : String),
        m'.text a' = m.text a ++ back → n'.text b' = n.text b ++ back →
        (property.hashFirst m' a' = property.hashFirst n' b' ↔
          property.hashFirst m a = property.hashFirst n b) := by
  refine ⟨fun _ _ h => h.hashBytes_ne, fun _ _ back => hashBytes_append_inj back, ?_⟩
  intro property h m n a b
  refine ⟨fun once => ?_, fun m' n' a' b' back hm hn => ?_⟩
  · rw [property.hashFirst_text h, property.hashFirst_text h]
    exact hashText_ne_of_differOnce once
  · simp only [property.hashFirst_text h, hm, hn]
    exact hashText_append_inj back

/-- A text property. -/
def caption : Property := .ofKind "Caption" .string 0 1 .none

/-- A caption in memory. -/
def captioned (text : String) : Block := (Block.filled handleSize 0).placeHandle 0 (.text text)

theorem text_captioned (text : String) : (captioned text).text 0 = text :=
  Block.text_placeHandle (by decide) text

/-- The letters é and è begin with the same byte.  So captions with one or the other differ in one
byte, and their hashes stay different when more is appended. -/
theorem oneByte_changes_textHash_captions :
    hashBytes (Text.bytes "café") ≠ hashBytes (Text.bytes "cafè") ∧
      caption.hashFirst (captioned "café") 0 ≠ caption.hashFirst (captioned "cafè") 0 ∧
      caption.hashFirst (captioned "café, open") 0 ≠
        caption.hashFirst (captioned "cafè, open") 0 := by
  have once : DifferOnce (Text.bytes "café") (Text.bytes "cafè") :=
    differOnce_middle [0x63, 0x61, 0x66, 0xc3] [] (by decide : (0xa9 : UInt8) ≠ 0xa8)
  obtain ⟨hbytes, -, hcaptions⟩ := oneByte_changes_textHash
  obtain ⟨hdiffer, happended⟩ := hcaptions caption rfl (captioned "café") (captioned "cafè") 0 0
  simp only [text_captioned] at hdiffer happended
  have ne := hdiffer once
  have hopen := happended (captioned "café, open") (captioned "cafè, open") 0 0 ", open"
    (text_captioned _) (text_captioned _)
  exact ⟨hbytes _ _ once, ne, mt hopen.mp ne⟩

end PropertyReflection
