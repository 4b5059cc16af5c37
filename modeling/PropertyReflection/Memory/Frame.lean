import Mathlib
import PropertyReflection.Memory.Block

/-!
# What writes leave alone

Each write to a block has a range of addresses, and the cells outside it stay as they were.  No
write changes the size of a block.  What was written is read back.
-/

namespace PropertyReflection

namespace Block

variable {m : Block} {address other : Nat}

/-! ## Sizes -/

@[simp] theorem size_setCell (m : Block) (address : Nat) (c : Cell) :
    (m.setCell address c).size = m.size := by
  simp [setCell]

@[simp] theorem size_setByte (m : Block) (address : Nat) (value : UInt8) :
    (m.setByte address value).size = m.size := by
  simp [setByte]

@[simp] theorem size_setRange (m : Block) (address : Nat) (c : Cell) (count : Nat) :
    (m.setRange address c count).size = m.size := by
  induction count generalizing m address with
  | zero => rfl
  | succ count ih => simp [setRange, ih]

@[simp] theorem size_setWord (m : Block) (address : Nat) (bits : UInt64) (count : Nat) :
    (m.setWord address bits count).size = m.size := by
  induction count generalizing m address bits with
  | zero => rfl
  | succ count ih => simp [setWord, ih]

@[simp] theorem size_placeHandle (m : Block) (address : Nat) (c : Cell) :
    (m.placeHandle address c).size = m.size := by
  simp [placeHandle]

@[simp] theorem size_setBool (m : Block) (address : Nat) (mask : UInt8) (value : Bool) :
    (m.setBool address mask value).size = m.size := by
  simp [setBool]

/-! ## Cells -/

theorem cell_setCell_self (h : address < m.size) (c : Cell) :
    (m.setCell address c).cell address = c := by
  simp [cell, setCell, h]

theorem cell_setCell_of_ne (h : other ≠ address) (c : Cell) :
    (m.setCell address c).cell other = m.cell other := by
  simp [cell, setCell, Array.getD_eq_getD_getElem?, Array.getElem?_setIfInBounds_ne h.symm]

/-- The cells before and behind a range stay. -/
theorem cell_setRange_of_outside {count : Nat} (h : other < address ∨ address + count ≤ other)
    (c : Cell) : (m.setRange address c count).cell other = m.cell other := by
  induction count generalizing m address with
  | zero => rfl
  | succ count ih =>
    rw [setRange, ih (by omega), cell_setCell_of_ne (by omega)]

/-- The cells of a range are the one that was written. -/
theorem cell_setRange_of_inside {count : Nat} (hlow : address ≤ other)
    (hhigh : other < address + count) (hsize : other < m.size) (c : Cell) :
    (m.setRange address c count).cell other = c := by
  induction count generalizing m address with
  | zero => omega
  | succ count ih =>
    rw [setRange]
    by_cases h : other = address
    · subst h
      rw [cell_setRange_of_outside (by omega), cell_setCell_self hsize]
    · exact ih (by omega) (by omega) (by simpa using hsize)

/-- The cells before and behind a word stay. -/
theorem cell_setWord_of_outside {count : Nat} (h : other < address ∨ address + count ≤ other)
    (bits : UInt64) : (m.setWord address bits count).cell other = m.cell other := by
  induction count generalizing m address bits with
  | zero => rfl
  | succ count ih =>
    rw [setWord, ih (by omega), setByte, cell_setCell_of_ne (by omega)]

/-- The cells before and behind a representation stay. -/
theorem cell_placeHandle_of_outside (h : other < address ∨ address + handleSize ≤ other)
    (c : Cell) : (m.placeHandle address c).cell other = m.cell other := by
  have hne : other ≠ address := by
    have : 0 < handleSize := by decide
    omega
  rw [placeHandle, cell_setCell_of_ne hne, cell_setRange_of_outside h]

/-- A representation begins with the cell that was written. -/
theorem cell_placeHandle_self (h : address < m.size) (c : Cell) :
    (m.placeHandle address c).cell address = c := by
  rw [placeHandle, cell_setCell_self (by rwa [size_setRange])]

/-- All cells but its own stay when a boolean is written. -/
theorem cell_setBool_of_ne (h : other ≠ address) (mask : UInt8) (value : Bool) :
    (m.setBool address mask value).cell other = m.cell other := by
  rw [setBool, setByte, cell_setCell_of_ne h]

/-! ## Reading back -/

theorem byte_setByte_self (h : address < m.size) (value : UInt8) :
    (m.setByte address value).byte address = value := by
  simp [byte, setByte, cell_setCell_self h]

/-- A word is its first byte and, above it, the word of the other bytes. -/
theorem toNat_word_succ (m : Block) (address count : Nat)
    (h : (m.word (address + 1) count).toNat < 2 ^ 56) :
    (m.word address (count + 1)).toNat =
      (m.byte address).toNat + 2 ^ 8 * (m.word (address + 1) count).toNat := by
  have hb := (m.byte address).toNat_lt
  have hshift : ((m.word (address + 1) count) <<< (8 : UInt64)).toNat
      = (m.word (address + 1) count).toNat <<< 8 := by
    rw [UInt64.toNat_shiftLeft]
    have : (8 : UInt64).toNat % 64 = 8 := by decide
    rw [this, Nat.mod_eq_of_lt]
    rw [Nat.shiftLeft_eq]
    omega
  rw [word, UInt64.toNat_or, hshift, UInt8.toNat_toUInt64, Nat.or_comm,
    ← Nat.shiftLeft_add_eq_or_of_lt (by omega), Nat.shiftLeft_eq]
  omega

/-- A word has no bits above its own bytes. -/
theorem toNat_word_lt (m : Block) (address : Nat) {count : Nat} (h : count ≤ 8) :
    (m.word address count).toNat < 2 ^ (8 * count) := by
  induction count generalizing address with
  | zero => simp [word]
  | succ count ih =>
    have hrest := ih (address + 1) (by omega)
    have hle : 2 ^ (8 * count) ≤ 2 ^ 56 := Nat.pow_le_pow_right (by omega) (by omega)
    rw [toNat_word_succ m address count (by omega)]
    have hb := (m.byte address).toNat_lt
    have hpow : 2 ^ (8 * (count + 1)) = 2 ^ 8 * 2 ^ (8 * count) := by
      rw [← Nat.pow_add]; congr 1; omega
    omega

/-- A word reads as it was written, as far as its bytes reach. -/
theorem toNat_word_setWord {count : Nat} (hcount : count ≤ 8) (hsize : address + count ≤ m.size)
    (bits : UInt64) :
    ((m.setWord address bits count).word address count).toNat = bits.toNat % 2 ^ (8 * count) := by
  induction count generalizing m address bits with
  | zero => simp [word, Nat.mod_one]
  | succ count ih =>
    have hpow : 2 ^ (8 * (count + 1)) = 2 ^ 8 * 2 ^ (8 * count) := by
      rw [← Nat.pow_add]
      congr 1
      omega
    have hstay : address + 1 + count ≤ (m.setByte address bits.toUInt8).size := by
      simp
      omega
    have hrest := ih (by omega) hstay (bits >>> 8)
    have hlt := toNat_word_lt ((m.setByte address bits.toUInt8).setWord (address + 1) (bits >>> 8)
      count) (address + 1) (Nat.le_of_succ_le hcount)
    have hle : 2 ^ (8 * count) ≤ 2 ^ 56 := Nat.pow_le_pow_right (by omega) (by omega)
    have hbyte : ((m.setByte address bits.toUInt8).setWord (address + 1) (bits >>> 8) count).byte
        address = bits.toUInt8 := by
      rw [byte, cell_setWord_of_outside (by omega)]
      exact byte_setByte_self (by omega) _
    have hshift : (bits >>> 8).toNat = bits.toNat / 2 ^ 8 := by
      rw [UInt64.toNat_shiftRight, Nat.shiftRight_eq_div_pow]
      rfl
    rw [setWord, toNat_word_succ _ _ _ (by omega), hbyte, hrest, hshift, hpow,
      UInt64.toNat_toUInt8, Nat.mod_mul]

theorem text_placeHandle (h : address < m.size) (contents : String) :
    (m.placeHandle address (.text contents)).text address = contents := by
  rw [text, cell_placeHandle_self h]

theorem slots_placeHandle (h : address < m.size) (storage : Slots Cell) :
    (m.placeHandle address (.slots storage)).slots address = storage := by
  rw [slots, cell_placeHandle_self h]

/-- A boolean reads as it was written, unless it has no bits. -/
theorem bool_setBool {mask : UInt8} (hmask : mask ≠ 0) (h : address < m.size) (value : Bool) :
    (m.setBool address mask value).bool address mask = value := by
  have hbyte := byte_setByte_self h ((m.byte address &&& ~~~mask) ||| truthBits mask value)
  have hbits : ((m.byte address &&& ~~~mask) ||| truthBits mask value) &&& mask
      = truthBits mask value &&& mask := by
    apply UInt8.eq_of_toBitVec_eq
    ext i
    simp only [UInt8.toBitVec_and, UInt8.toBitVec_or, UInt8.toBitVec_not, BitVec.getElem_and,
      BitVec.getElem_or, BitVec.getElem_not]
    cases mask.toBitVec[i] <;> simp
  rw [bool, boolBits, setBool, hbyte, hbits]
  exact truthBits_and_ne_zero hmask value

/-- The bits of its byte that do not belong to a boolean stay. -/
theorem byte_setBool_and_not {mask : UInt8} (h : address < m.size) (value : Bool)
    (hmask : mask ≠ fullMask) :
    (m.setBool address mask value).byte address &&& ~~~mask = m.byte address &&& ~~~mask := by
  rw [setBool, byte_setByte_self h]
  apply UInt8.eq_of_toBitVec_eq
  ext i
  cases value with
  | false => simp [truthBits]
  | true =>
    simp only [truthBits, hmask, if_true, if_false, UInt8.toBitVec_and, UInt8.toBitVec_or,
      UInt8.toBitVec_not, BitVec.getElem_and, BitVec.getElem_or, BitVec.getElem_not]
    cases mask.toBitVec[i] <;> simp

end Block

end PropertyReflection
