import SpwBridge.Library.Words
import SpwBridge.Library.ShiftRegister
import SpwBridge.Memory

open shift_register words

namespace spw_bridge.rmap

def crc8_lt : List UInt8 :=
  [0x00, 0x91, 0xe3, 0x72, 0x07, 0x96, 0xe4, 0x75,
   0x0e, 0x9f, 0xed, 0x7c, 0x09, 0x98, 0xea, 0x7b,
   0x1c, 0x8d, 0xff, 0x6e, 0x1b, 0x8a, 0xf8, 0x69,
   0x12, 0x83, 0xf1, 0x60, 0x15, 0x84, 0xf6, 0x67,
   0x38, 0xa9, 0xdb, 0x4a, 0x3f, 0xae, 0xdc, 0x4d,
   0x36, 0xa7, 0xd5, 0x44, 0x31, 0xa0, 0xd2, 0x43,
   0x24, 0xb5, 0xc7, 0x56, 0x23, 0xb2, 0xc0, 0x51,
   0x2a, 0xbb, 0xc9, 0x58, 0x2d, 0xbc, 0xce, 0x5f,
   0x70, 0xe1, 0x93, 0x02, 0x77, 0xe6, 0x94, 0x05,
   0x7e, 0xef, 0x9d, 0x0c, 0x79, 0xe8, 0x9a, 0x0b,
   0x6c, 0xfd, 0x8f, 0x1e, 0x6b, 0xfa, 0x88, 0x19,
   0x62, 0xf3, 0x81, 0x10, 0x65, 0xf4, 0x86, 0x17,
   0x48, 0xd9, 0xab, 0x3a, 0x4f, 0xde, 0xac, 0x3d,
   0x46, 0xd7, 0xa5, 0x34, 0x41, 0xd0, 0xa2, 0x33,
   0x54, 0xc5, 0xb7, 0x26, 0x53, 0xc2, 0xb0, 0x21,
   0x5a, 0xcb, 0xb9, 0x28, 0x5d, 0xcc, 0xbe, 0x2f,
   0xe0, 0x71, 0x03, 0x92, 0xe7, 0x76, 0x04, 0x95,
   0xee, 0x7f, 0x0d, 0x9c, 0xe9, 0x78, 0x0a, 0x9b,
   0xfc, 0x6d, 0x1f, 0x8e, 0xfb, 0x6a, 0x18, 0x89,
   0xf2, 0x63, 0x11, 0x80, 0xf5, 0x64, 0x16, 0x87,
   0xd8, 0x49, 0x3b, 0xaa, 0xdf, 0x4e, 0x3c, 0xad,
   0xd6, 0x47, 0x35, 0xa4, 0xd1, 0x40, 0x32, 0xa3,
   0xc4, 0x55, 0x27, 0xb6, 0xc3, 0x52, 0x20, 0xb1,
   0xca, 0x5b, 0x29, 0xb8, 0xcd, 0x5c, 0x2e, 0xbf,
   0x90, 0x01, 0x73, 0xe2, 0x97, 0x06, 0x74, 0xe5,
   0x9e, 0x0f, 0x7d, 0xec, 0x99, 0x08, 0x7a, 0xeb,
   0x8c, 0x1d, 0x6f, 0xfe, 0x8b, 0x1a, 0x68, 0xf9,
   0x82, 0x13, 0x61, 0xf0, 0x85, 0x14, 0x66, 0xf7,
   0xa8, 0x39, 0x4b, 0xda, 0xaf, 0x3e, 0x4c, 0xdd,
   0xa6, 0x37, 0x45, 0xd4, 0xa1, 0x30, 0x42, 0xd3,
   0xb4, 0x25, 0x57, 0xc6, 0xb3, 0x22, 0x50, 0xc1,
   0xba, 0x2b, 0x59, 0xc8, 0xbd, 0x2c, 0x5e, 0xcf]

/-- The loop `for (i = 0; i < len; i++) crc8 = crc8_lt[crc8 ^ buf[i]]`, from `i`
with `n` rounds left. -/
def crc8_loop (buf : List UInt8) (i : Nat) : Nat → UInt8 → Except Fault UInt8
  | 0, crc8 => .ok crc8
  | n + 1, crc8 => do
    let b ← rd buf i
    let crc8 ← rd crc8_lt (crc8 ^^^ b).toNat
    crc8_loop buf (i + 1) n crc8

def rmap_crc8 (buf : Option (List UInt8)) (len : Nat) : Except Fault UInt8 :=
  match buf with
  | none => .ok 0
  | some buf => crc8_loop buf 0 len 0

/-- The shift register of the RMAP CRC: least significant bit first, taps
`x^8 + x^2 + x + 1` in reflected form. -/
def rmap_register : Register 8 := lsbFirst 0xE0#8 (by decide)

/-- The register value after a buffer, from `crc`. -/
def rmap_crc_run (crc : UInt8) (buf : List UInt8) : UInt8 :=
  .ofBitVec (rmap_register.run crc.toBitVec (buf.flatMap bits_lsb))

/-- The eight bits of a byte fill the register. -/
theorem load_bits_lsb (b : UInt8) : rmap_register.load 0 (bits_lsb b) = b.toBitVec := by
  revert b
  apply forall_byte
  decide +kernel

/-- Every entry of the table is eight clocks of its index. -/
theorem crc8_lt_eq (b : UInt8) : byteAt crc8_lt b.toNat = .ofBitVec (rmap_register.clock^[8] b.toBitVec) := by
  revert b
  apply forall_byte
  decide +kernel

@[simp] theorem length_crc8_lt : crc8_lt.length = 256 := by decide +kernel

theorem rmap_crc_run_append (crc : UInt8) (first second : List UInt8) :
    rmap_crc_run crc (first ++ second) = rmap_crc_run (rmap_crc_run crc first) second := by
  simp [rmap_crc_run, Register.run_append]

/-- One byte is added to the register, which is then clocked eight times. -/
theorem rmap_crc_run_byte (crc b : UInt8) :
    rmap_crc_run crc [b] = .ofBitVec (rmap_register.clock^[8] (crc ^^^ b).toBitVec) := by
  rw [rmap_crc_run, List.flatMap_singleton, Register.run_eq_load rmap_register _ _ (by simp), length_bits_lsb,
    load_bits_lsb, UInt8.toBitVec_xor]

/-- The loop of `rmap_crc8` from any index and any register value. -/
theorem crc8_loop_ok {buf : List UInt8} {i n : Nat} (hin : i + n ≤ buf.length) (crc8 : UInt8) :
    crc8_loop buf i n crc8 = .ok (rmap_crc_run crc8 ((buf.drop i).take n)) := by
  induction n generalizing i crc8 with
  | zero => simp [crc8_loop, rmap_crc_run]
  | succ n ih =>
    have hi : i < buf.length := by omega
    have hentry : (crc8 ^^^ byteAt buf i).toNat < crc8_lt.length := by
      rw [length_crc8_lt]
      exact UInt8.toNat_lt _
    rw [crc8_loop, rd_ok hi, bind_ok, rd_ok hentry, bind_ok, ih (by omega), drop_eq_byteAt_cons hi,
      List.take_succ_cons, crc8_lt_eq, ← rmap_crc_run_byte, ← rmap_crc_run_append]
    rfl

theorem rmap_crc8_ok {buf : List UInt8} {len : Nat} (hlen : len ≤ buf.length) :
    rmap_crc8 (some buf) len = .ok (rmap_crc_run 0 (buf.take len)) :=
  crc8_loop_ok (by omega) 0

theorem rmap_crc8_whole (buf : List UInt8) :
    rmap_crc8 (some buf) buf.length = .ok (rmap_crc_run 0 buf) := by
  rw [rmap_crc8_ok (Nat.le_refl _), List.take_length]

/-- A buffer and its CRC byte run the register to zero. -/
theorem rmap_crc_run_own (buf : List UInt8) : rmap_crc_run 0 (buf ++ [rmap_crc_run 0 buf]) = 0 := by
  rw [rmap_crc_run_append, rmap_crc_run_byte, UInt8.xor_self]
  exact congrArg UInt8.ofBitVec (rmap_register.iterate_clock_zero 8)

/-- `rmap_crc8` is the bit-serial register from zero, and no burst of up to
eight bits in a buffer with its CRC byte goes unseen. -/
theorem rmap_crc8_is_rmap_crc :
    (∀ (buf : List UInt8) (len : Nat), len ≤ buf.length →
      rmap_crc8 (some buf) len = .ok (rmap_crc_run 0 (buf.take len))) ∧
    ∀ (buf error : List UInt8) (crc : UInt8), rmap_crc8 (some buf) buf.length = .ok crc →
      error.length = buf.length + 1 → Burst 8 (error.flatMap bits_lsb) →
      ∃ residue, rmap_crc8 (some (List.zipWith (· ^^^ ·) (buf ++ [crc]) error)) (buf.length + 1) =
        .ok residue ∧ residue ≠ 0 := by
  constructor
  · intro buf len hlen
    exact rmap_crc8_ok hlen
  · intro buf error crc hcrc hlen hburst
    rw [rmap_crc8_whole, Except.ok.injEq] at hcrc
    subst hcrc
    have heq : (buf ++ [rmap_crc_run 0 buf]).length = error.length := by simp [hlen]
    have hsum : (List.zipWith (· ^^^ ·) (buf ++ [rmap_crc_run 0 buf]) error).length = buf.length + 1 := by
      simp [hlen]
    have hclean := congrArg UInt8.toBitVec (rmap_crc_run_own buf)
    have hbitlen : ((buf ++ [rmap_crc_run 0 buf]).flatMap bits_lsb).length = (error.flatMap bits_lsb).length := by
      rw [length_flatMap_order length_bits_lsb, length_flatMap_order length_bits_lsb, heq]
    have hdirty := rmap_register.run_corrupted hbitlen hclean hburst
    rw [← flatMap_order_xor length_bits_lsb bits_lsb_xor heq] at hdirty
    refine ⟨rmap_crc_run 0 (List.zipWith (· ^^^ ·) (buf ++ [rmap_crc_run 0 buf]) error), ?_, ?_⟩
    · rw [← hsum]
      exact rmap_crc8_whole _
    · intro hzero
      exact hdirty (UInt8.ofBitVec.inj hzero)

/-- A prefix of a buffer, and a burst over the border of a two-byte buffer to
its CRC byte. -/
theorem rmap_crc8_is_rmap_crc_border :
    rmap_crc8 (some [0x01, 0x02]) 1 = .ok (rmap_crc_run 0 [0x01]) ∧
      ∃ residue, rmap_crc8 (some (List.zipWith (· ^^^ ·) ([0x01, 0x02] ++ [0x8e]) [0x00, 0x80, 0x01])) 3 =
        .ok residue ∧ residue ≠ 0 := by
  obtain ⟨hvalue, hcaught⟩ := rmap_crc8_is_rmap_crc
  have hburst : Burst 8 ([0x00, 0x80, 0x01].flatMap bits_lsb) := by
    apply @burst_of_length 8 15
    · decide
    · decide
  have hcrc : rmap_crc8 (some [0x01, 0x02]) 2 = .ok 0x8e := by decide +kernel
  exact ⟨hvalue [0x01, 0x02] 1 (by decide), hcaught [0x01, 0x02] [0x00, 0x80, 0x01] 0x8e hcrc rfl hburst⟩

end spw_bridge.rmap
