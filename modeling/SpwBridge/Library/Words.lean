import Mathlib.Data.Nat.Bitwise

namespace words

/-- A 16-bit word assembled from its bytes, most significant byte first. -/
def be16 (b0 b1 : UInt8) : UInt16 :=
  (b0.toUInt16 <<< 8) ||| b1.toUInt16

/-- A 24-bit word assembled from its bytes, most significant byte first. -/
def be24 (b0 b1 b2 : UInt8) : UInt32 :=
  (b0.toUInt32 <<< 16) ||| (b1.toUInt32 <<< 8) ||| b2.toUInt32

/-- A 32-bit word assembled from its bytes, most significant byte first. -/
def be32 (b0 b1 b2 b3 : UInt8) : UInt32 :=
  (b0.toUInt32 <<< 24) ||| (b1.toUInt32 <<< 16) ||| (b2.toUInt32 <<< 8) ||| b3.toUInt32

/-- A 64-bit word assembled from its bytes, most significant byte first. -/
def be64 (b0 b1 b2 b3 b4 b5 b6 b7 : UInt8) : UInt64 :=
  ((be32 b0 b1 b2 b3).toUInt64 <<< 32) ||| (be32 b4 b5 b6 b7).toUInt64

/-- Shifting one number clear of the bits of another and combining the two is
addition. Every assembly of bytes below is an instance. -/
theorem shiftLeft_or_eq_add {high low : Nat} (shift : Nat) (hlow : low < 2 ^ shift) :
    high <<< shift ||| low = high * 2 ^ shift + low := by
  rw [← Nat.shiftLeft_add_eq_or_of_lt hlow, Nat.shiftLeft_eq]

@[simp] theorem toNat_be16 (b0 b1 : UInt8) : (be16 b0 b1).toNat = b0.toNat * 2 ^ 8 + b1.toNat := by
  have h0 := b0.toNat_lt
  have h1 := b1.toNat_lt
  have hshift : b0.toNat <<< 8 % 2 ^ 16 = b0.toNat <<< 8 := by
    rw [Nat.shiftLeft_eq]
    omega
  simp only [be16, UInt16.toNat_or, UInt16.toNat_shiftLeft, UInt8.toNat_toUInt16]
  change b0.toNat <<< 8 % 2 ^ 16 ||| b1.toNat = _
  rw [hshift, shiftLeft_or_eq_add 8 h1]

@[simp] theorem toNat_be24 (b0 b1 b2 : UInt8) :
    (be24 b0 b1 b2).toNat = b0.toNat * 2 ^ 16 + b1.toNat * 2 ^ 8 + b2.toNat := by
  have h0 := b0.toNat_lt
  have h1 := b1.toNat_lt
  have h2 := b2.toNat_lt
  have hshift0 : b0.toNat <<< 16 % 2 ^ 32 = b0.toNat <<< 16 := by
    rw [Nat.shiftLeft_eq]
    omega
  have hshift1 : b1.toNat <<< 8 % 2 ^ 32 = b1.toNat <<< 8 := by
    rw [Nat.shiftLeft_eq]
    omega
  simp only [be24, UInt32.toNat_or, UInt32.toNat_shiftLeft, UInt8.toNat_toUInt32]
  change b0.toNat <<< 16 % 2 ^ 32 ||| b1.toNat <<< 8 % 2 ^ 32 ||| b2.toNat = _
  rw [hshift0, hshift1, Nat.or_assoc, shiftLeft_or_eq_add 8 h2, shiftLeft_or_eq_add 16 (by omega)]
  omega

@[simp] theorem toNat_be32 (b0 b1 b2 b3 : UInt8) :
    (be32 b0 b1 b2 b3).toNat =
      b0.toNat * 2 ^ 24 + b1.toNat * 2 ^ 16 + b2.toNat * 2 ^ 8 + b3.toNat := by
  have h0 := b0.toNat_lt
  have h1 := b1.toNat_lt
  have hshift0 : b0.toNat <<< 24 % 2 ^ 32 = b0.toNat <<< 24 := by
    rw [Nat.shiftLeft_eq]
    omega
  have hlow := toNat_be24 b1 b2 b3
  have hlowlt : (be24 b1 b2 b3).toNat < 2 ^ 24 := by
    have h2 := b2.toNat_lt
    have h3 := b3.toNat_lt
    omega
  have hsplit : be32 b0 b1 b2 b3 = (b0.toUInt32 <<< 24) ||| be24 b1 b2 b3 := by
    simp only [be32, be24, UInt32.or_assoc]
  rw [hsplit, UInt32.toNat_or, UInt32.toNat_shiftLeft, UInt8.toNat_toUInt32]
  change b0.toNat <<< 24 % 2 ^ 32 ||| (be24 b1 b2 b3).toNat = _
  rw [hshift0, shiftLeft_or_eq_add 24 hlowlt, hlow]
  omega

theorem be24_lt (b0 b1 b2 : UInt8) : (be24 b0 b1 b2).toNat < 2 ^ 24 := by
  have h0 := b0.toNat_lt
  have h1 := b1.toNat_lt
  have h2 := b2.toNat_lt
  rw [toNat_be24]
  omega

/-- Bits of a word shifted down and cut to a byte, as a number. -/
theorem toNat_byte16 (x : UInt16) : (x >>> 8).toUInt8.toNat = x.toNat / 2 ^ 8 % 2 ^ 8 := by
  simp [Nat.shiftRight_eq_div_pow]

theorem toNat_byte32_24 (x : UInt32) : (x >>> 24).toUInt8.toNat = x.toNat / 2 ^ 24 % 2 ^ 8 := by
  simp [Nat.shiftRight_eq_div_pow]

theorem toNat_byte32_16 (x : UInt32) : (x >>> 16).toUInt8.toNat = x.toNat / 2 ^ 16 % 2 ^ 8 := by
  simp [Nat.shiftRight_eq_div_pow]

theorem toNat_byte32_8 (x : UInt32) : (x >>> 8).toUInt8.toNat = x.toNat / 2 ^ 8 % 2 ^ 8 := by
  simp [Nat.shiftRight_eq_div_pow]

/-- Disassembling a 16-bit word and assembling it again gives the word back. -/
@[simp] theorem be16_bytes (x : UInt16) : be16 (x >>> 8).toUInt8 x.toUInt8 = x := by
  have hx := x.toNat_lt
  apply UInt16.toNat_inj.mp
  rw [toNat_be16, toNat_byte16, UInt16.toNat_toUInt8]
  omega

/-- Disassembling a 32-bit word and assembling it again gives the word back. -/
@[simp] theorem be32_bytes (x : UInt32) :
    be32 (x >>> 24).toUInt8 (x >>> 16).toUInt8 (x >>> 8).toUInt8 x.toUInt8 = x := by
  have hx := x.toNat_lt
  apply UInt32.toNat_inj.mp
  rw [toNat_be32, toNat_byte32_24, toNat_byte32_16, toNat_byte32_8, UInt32.toNat_toUInt8]
  omega

/-- The three low bytes carry a word below `2 ^ 24` completely. -/
theorem be24_bytes {x : UInt32} (hx : x.toNat < 2 ^ 24) :
    be24 (x >>> 16).toUInt8 (x >>> 8).toUInt8 x.toUInt8 = x := by
  apply UInt32.toNat_inj.mp
  rw [toNat_be24, toNat_byte32_16, toNat_byte32_8, UInt32.toNat_toUInt8]
  omega

/-- Assembling two bytes and disassembling the word gives the bytes back. -/
theorem bytes_be16 (b0 b1 : UInt8) :
    ((be16 b0 b1) >>> 8).toUInt8 = b0 ∧ (be16 b0 b1).toUInt8 = b1 := by
  have h0 := b0.toNat_lt
  have h1 := b1.toNat_lt
  constructor <;> apply UInt8.toNat_inj.mp
  · rw [toNat_byte16, toNat_be16]
    omega
  · rw [UInt16.toNat_toUInt8, toNat_be16]
    omega

/-- Assembling three bytes and disassembling the word gives the bytes back. -/
theorem bytes_be24 (b0 b1 b2 : UInt8) :
    ((be24 b0 b1 b2) >>> 16).toUInt8 = b0 ∧ ((be24 b0 b1 b2) >>> 8).toUInt8 = b1 ∧
      (be24 b0 b1 b2).toUInt8 = b2 := by
  have h0 := b0.toNat_lt
  have h1 := b1.toNat_lt
  have h2 := b2.toNat_lt
  refine ⟨?_, ?_, ?_⟩ <;> apply UInt8.toNat_inj.mp
  · rw [toNat_byte32_16, toNat_be24]
    omega
  · rw [toNat_byte32_8, toNat_be24]
    omega
  · rw [UInt32.toNat_toUInt8, toNat_be24]
    omega

/-- Assembling four bytes and disassembling the word gives the bytes back. -/
theorem bytes_be32 (b0 b1 b2 b3 : UInt8) :
    ((be32 b0 b1 b2 b3) >>> 24).toUInt8 = b0 ∧ ((be32 b0 b1 b2 b3) >>> 16).toUInt8 = b1 ∧
      ((be32 b0 b1 b2 b3) >>> 8).toUInt8 = b2 ∧ (be32 b0 b1 b2 b3).toUInt8 = b3 := by
  have h0 := b0.toNat_lt
  have h1 := b1.toNat_lt
  have h2 := b2.toNat_lt
  have h3 := b3.toNat_lt
  refine ⟨?_, ?_, ?_, ?_⟩ <;> apply UInt8.toNat_inj.mp
  · rw [toNat_byte32_24, toNat_be32]
    omega
  · rw [toNat_byte32_16, toNat_be32]
    omega
  · rw [toNat_byte32_8, toNat_be32]
    omega
  · rw [UInt32.toNat_toUInt8, toNat_be32]
    omega

theorem toNat_be64 (b0 b1 b2 b3 b4 b5 b6 b7 : UInt8) :
    (be64 b0 b1 b2 b3 b4 b5 b6 b7).toNat = (be32 b0 b1 b2 b3).toNat * 2 ^ 32 + (be32 b4 b5 b6 b7).toNat := by
  have hhigh := (be32 b0 b1 b2 b3).toNat_lt
  have hlow := (be32 b4 b5 b6 b7).toNat_lt
  have hshift : (be32 b0 b1 b2 b3).toNat <<< 32 % 2 ^ 64 = (be32 b0 b1 b2 b3).toNat <<< 32 := by
    rw [Nat.shiftLeft_eq]
    omega
  simp only [be64, UInt64.toNat_or, UInt64.toNat_shiftLeft, UInt32.toNat_toUInt64]
  change (be32 b0 b1 b2 b3).toNat <<< 32 % 2 ^ 64 ||| (be32 b4 b5 b6 b7).toNat = _
  rw [hshift, shiftLeft_or_eq_add 32 hlow]

/-- Assembling eight bytes and disassembling the word gives the bytes back. -/
theorem bytes_be64 (b0 b1 b2 b3 b4 b5 b6 b7 : UInt8) :
    (be64 b0 b1 b2 b3 b4 b5 b6 b7 >>> 56).toUInt8 = b0 ∧ (be64 b0 b1 b2 b3 b4 b5 b6 b7 >>> 48).toUInt8 = b1 ∧
      (be64 b0 b1 b2 b3 b4 b5 b6 b7 >>> 40).toUInt8 = b2 ∧ (be64 b0 b1 b2 b3 b4 b5 b6 b7 >>> 32).toUInt8 = b3 ∧
      (be64 b0 b1 b2 b3 b4 b5 b6 b7 >>> 24).toUInt8 = b4 ∧ (be64 b0 b1 b2 b3 b4 b5 b6 b7 >>> 16).toUInt8 = b5 ∧
      (be64 b0 b1 b2 b3 b4 b5 b6 b7 >>> 8).toUInt8 = b6 ∧ (be64 b0 b1 b2 b3 b4 b5 b6 b7).toUInt8 = b7 := by
  have h0 := b0.toNat_lt
  have h1 := b1.toNat_lt
  have h2 := b2.toNat_lt
  have h3 := b3.toNat_lt
  have h4 := b4.toNat_lt
  have h5 := b5.toNat_lt
  have h6 := b6.toNat_lt
  have h7 := b7.toNat_lt
  have hword := toNat_be64 b0 b1 b2 b3 b4 b5 b6 b7
  rw [toNat_be32, toNat_be32] at hword
  refine ⟨?_, ?_, ?_, ?_, ?_, ?_, ?_, ?_⟩ <;> apply UInt8.toNat_inj.mp <;>
    simp only [UInt64.toNat_toUInt8, UInt64.toNat_shiftRight, UInt64.reduceToNat, Nat.reduceMod,
      Nat.shiftRight_eq_div_pow, hword] <;> omega

/-- A word is its bytes one behind the other. -/
theorem toBitVec_be16 (b0 b1 : UInt8) : (be16 b0 b1).toBitVec = b0.toBitVec ++ b1.toBitVec := by
  apply BitVec.eq_of_toNat_eq
  have h := toNat_be16 b0 b1
  rw [← shiftLeft_or_eq_add 8 b1.toNat_lt] at h
  rw [BitVec.toNat_append]
  exact h

theorem be16_xor (a0 a1 b0 b1 : UInt8) : be16 a0 a1 ^^^ be16 b0 b1 = be16 (a0 ^^^ b0) (a1 ^^^ b1) := by
  apply UInt16.toBitVec_inj.mp
  rw [UInt16.toBitVec_xor, toBitVec_be16, toBitVec_be16, toBitVec_be16, UInt8.toBitVec_xor, UInt8.toBitVec_xor,
    BitVec.xor_append]

/-- Moving a word up by a byte. -/
theorem be16_shiftLeft (b0 b1 : UInt8) : be16 b0 b1 <<< 8 = be16 b1 0 := by
  have h1 := b1.toNat_lt
  apply UInt16.toNat_inj.mp
  rw [UInt16.toNat_shiftLeft, toNat_be16, toNat_be16]
  change (b0.toNat * 2 ^ 8 + b1.toNat) <<< 8 % 2 ^ 16 = b1.toNat * 2 ^ 8 + 0
  rw [Nat.shiftLeft_eq]
  omega

/-- The lower byte of a word, masked before the cut or not. -/
theorem byte_of_low (x : UInt16) : (x &&& 0xff).toUInt8 = x.toUInt8 := by
  rw [UInt16.toUInt8_and]
  exact UInt8.and_neg_one

theorem eq_be16 (x : UInt16) : ∃ b0 b1, x = be16 b0 b1 := ⟨_, _, (be16_bytes x).symm⟩

/-- A statement about every byte is one about the 256 bit vectors. -/
theorem forall_byte {p : UInt8 → Prop} (h : ∀ v : BitVec 8, p ⟨v⟩) (b : UInt8) : p b := h b.toBitVec

end words
