import SpwBridge.Library.Words
import SpwBridge.Library.ShiftRegister
import SpwBridge.Memory

open shift_register words

namespace spw_bridge.ecss

abbrev SLICES : Nat := 8

instance : NeZero SLICES := ⟨by decide⟩

/-- `crc16_sliced_LUT[SLICES][256]`. Every index into a row is masked to a byte
or is a loop counter below 256. -/
abbrev Crc16SlicedLut := Fin SLICES → UInt8 → UInt16

/-- `crc16_LUT`, which points to the first slice. -/
def crc16_LUT (lut : Crc16SlicedLut) : UInt8 → UInt16 := lut 0

def crc16 (lut : Crc16SlicedLut) (b : UInt8) (crc : UInt16) : UInt16 :=
  let idx := ((crc >>> 8) ^^^ b.toUInt16) &&& 0x00FF
  ((crc <<< 8) &&& 0xFF00) ^^^ crc16_LUT lut idx.toUInt8

/-- The entry that `crc_init_lookup_table` writes for the counter `i`. -/
def crc_lookup_entry (i : UInt8) : UInt16 :=
  let S : UInt16 := 0
  let S := if i &&& ((1 : UInt8) <<< 0) ≠ 0 then S ^^^ 0x1021 else S
  let S := if i &&& ((1 : UInt8) <<< 1) ≠ 0 then S ^^^ 0x2042 else S
  let S := if i &&& ((1 : UInt8) <<< 2) ≠ 0 then S ^^^ 0x4084 else S
  let S := if i &&& ((1 : UInt8) <<< 3) ≠ 0 then S ^^^ 0x8108 else S
  let S := if i &&& ((1 : UInt8) <<< 4) ≠ 0 then S ^^^ 0x1231 else S
  let S := if i &&& ((1 : UInt8) <<< 5) ≠ 0 then S ^^^ 0x2462 else S
  let S := if i &&& ((1 : UInt8) <<< 6) ≠ 0 then S ^^^ 0x48C4 else S
  let S := if i &&& ((1 : UInt8) <<< 7) ≠ 0 then S ^^^ 0x9188 else S
  S

/-- The loop over `i` writes the first slice and nothing else. -/
def crc_init_lookup_table (lut : Crc16SlicedLut) : Crc16SlicedLut :=
  fun k => if k = 0 then crc_lookup_entry else lut k

/-- The loop `for (i = 0; i < len; i++) S = crc16(p[i], S)`, from `i` with `n`
rounds left. -/
def crc16_loop (lut : Crc16SlicedLut) (p : List UInt8) (i : Nat) : Nat → UInt16 → Except Fault UInt16
  | 0, S => .ok S
  | n + 1, S => do
    let b ← rd p i
    crc16_loop lut p (i + 1) n (crc16 lut b S)

def crc16_buf (lut : Crc16SlicedLut) (buf : Option (List UInt8)) (len : Nat) : Except Fault UInt16 :=
  let S : UInt16 := 0xffff
  match buf with
  | none => .ok S
  | some p => if len = 0 then .ok S else crc16_loop lut p 0 len S

def PUS_ECSS_CRC_LEN : Nat := 2

def pus_pkt_crc_valid (lut : Crc16SlicedLut) (pkt : List UInt8) (len : Nat) : Except Fault Int := do
  if len ≤ PUS_ECSS_CRC_LEN then return 0
  let crc ← crc16_buf lut (some pkt) (len - PUS_ECSS_CRC_LEN)
  let hi ← rd pkt (len - 2)
  let lo ← rd pkt (len - 1)
  let check := (hi.toUInt16 <<< 8) ||| lo.toUInt16
  return if crc = check then 1 else 0

/-- The shift register of CRC-16/CCITT-FALSE: most significant bit first, taps
`x^16 + x^12 + x^5 + 1`. -/
def ccitt : Register 16 := msbFirst 0x1021#16 (by decide)

/-- The register value after a buffer, from `crc`. -/
def ccitt_run (crc : UInt16) (buf : List UInt8) : UInt16 :=
  .ofBitVec (ccitt.run crc.toBitVec (buf.flatMap bits_msb))

/-- The tables after their initialisation, whatever the other slices hold. -/
def Initialised (lut : Crc16SlicedLut) : Prop := crc16_LUT lut = crc_lookup_entry

theorem initialised_init (lut : Crc16SlicedLut) : Initialised (crc_init_lookup_table lut) := rfl

/-- The eight bits of a byte at the upper end of the register. -/
theorem load_bits_msb (b : UInt8) : ccitt.load 0 (bits_msb b) = (be16 b 0).toBitVec := by
  revert b
  apply forall_byte
  decide +kernel

theorem load_bits_msb_low (b : UInt8) : ccitt.load 8 (bits_msb b) = (be16 0 b).toBitVec := by
  revert b
  apply forall_byte
  decide +kernel

/-- Eight clocks of a register with only a low byte move it up. -/
theorem clocks_low (lo : UInt8) : ccitt.clock^[8] (be16 0 lo).toBitVec = (be16 lo 0).toBitVec := by
  revert lo
  apply forall_byte
  decide +kernel

/-- Eight clocks of a register with only a high byte give the table entry: the
eight constants are what the taps make of the single bits. -/
theorem clocks_high (hi : UInt8) : ccitt.clock^[8] (be16 hi 0).toBitVec = (crc_lookup_entry hi).toBitVec := by
  revert hi
  apply forall_byte
  decide +kernel

/-- The index of a lookup is the upper byte of the register plus the message
byte. -/
theorem lookup_index (hi lo b : UInt8) :
    (((be16 hi lo >>> 8) ^^^ b.toUInt16) &&& 0x00FF).toUInt8 = hi ^^^ b := by
  rw [UInt16.toUInt8_and, UInt16.toUInt8_xor, (bytes_be16 hi lo).1, UInt8.toUInt8_toUInt16]
  exact UInt8.and_neg_one

theorem masked_shift (hi lo : UInt8) : (be16 hi lo <<< 8) &&& 0xFF00 = be16 lo 0 := by
  rw [be16_shiftLeft]
  revert lo
  apply forall_byte
  decide +kernel

/-- One byte through the table, for any value of the register. -/
theorem crc16_be16 {lut : Crc16SlicedLut} (hlut : Initialised lut) (hi lo b : UInt8) :
    crc16 lut b (be16 hi lo) = be16 lo 0 ^^^ crc_lookup_entry (hi ^^^ b) := by
  simp only [crc16]
  rw [lookup_index, masked_shift, hlut]

@[simp] theorem ccitt_run_nil (crc : UInt16) : ccitt_run crc [] = crc := rfl

theorem ccitt_run_append (crc : UInt16) (first second : List UInt8) :
    ccitt_run crc (first ++ second) = ccitt_run (ccitt_run crc first) second := by
  simp [ccitt_run, Register.run_append]

/-- The byte step of the table is eight steps of the register. -/
theorem ccitt_run_byte {lut : Crc16SlicedLut} (hlut : Initialised lut) (crc : UInt16) (b : UInt8) :
    ccitt_run crc [b] = crc16 lut b crc := by
  obtain ⟨hi, lo, rfl⟩ := eq_be16 crc
  have hsplit : (be16 hi lo).toBitVec ^^^ (be16 b 0).toBitVec =
      (be16 0 lo).toBitVec ^^^ (be16 (hi ^^^ b) 0).toBitVec := by
    rw [← UInt16.toBitVec_xor, ← UInt16.toBitVec_xor, be16_xor, be16_xor]
    simp
  rw [crc16_be16 hlut]
  apply UInt16.toBitVec_inj.mp
  rw [ccitt_run, List.flatMap_singleton]
  change ccitt.run _ (bits_msb b) = _
  rw [Register.run_eq_load ccitt _ _ (by simp), length_bits_msb, load_bits_msb, hsplit,
    Register.iterate_clock_xor, clocks_low, clocks_high, UInt16.toBitVec_xor]

theorem ccitt_run_cons {lut : Crc16SlicedLut} (hlut : Initialised lut) (crc : UInt16) (b : UInt8)
    (buf : List UInt8) : ccitt_run crc (b :: buf) = ccitt_run (crc16 lut b crc) buf := by
  rw [← ccitt_run_byte hlut, ← ccitt_run_append]
  rfl

/-- The loop of `crc16_buf` from any index and any register value. -/
theorem crc16_loop_ok {lut : Crc16SlicedLut} (hlut : Initialised lut) {p : List UInt8} {i n : Nat}
    (hin : i + n ≤ p.length) (S : UInt16) :
    crc16_loop lut p i n S = .ok (ccitt_run S ((p.drop i).take n)) := by
  induction n generalizing i S with
  | zero => simp [crc16_loop]
  | succ n ih =>
    have hi : i < p.length := by omega
    rw [crc16_loop, rd_ok hi, bind_ok, ih (by omega), drop_eq_byteAt_cons hi, List.take_succ_cons,
      ccitt_run_cons hlut]

theorem crc16_buf_ok {lut : Crc16SlicedLut} (hlut : Initialised lut) {buf : List UInt8} {len : Nat}
    (hlen : len ≤ buf.length) : crc16_buf lut (some buf) len = .ok (ccitt_run 0xffff (buf.take len)) := by
  rw [crc16_buf]
  by_cases hzero : len = 0
  · subst hzero
    rfl
  · simp only [if_neg hzero]
    exact crc16_loop_ok hlut (by omega) 0xffff

/-- Two bytes fill the register, so that they can be added to its value. -/
theorem ccitt_run_pair (crc : UInt16) (hi lo : UInt8) :
    (ccitt_run crc [hi, lo]).toBitVec = ccitt.clock^[16] (crc ^^^ be16 hi lo).toBitVec := by
  have hbits : [hi, lo].flatMap bits_msb = bits_msb hi ++ bits_msb lo := by simp
  have hload : ccitt.load 0 (bits_msb hi ++ bits_msb lo) = (be16 hi lo).toBitVec := by
    rw [Register.load_append, length_bits_msb, load_bits_msb, load_bits_msb_low, ← UInt16.toBitVec_xor, be16_xor]
    simp
  rw [ccitt_run, hbits]
  change ccitt.run _ _ = _
  rw [Register.run_eq_load ccitt _ _ (by simp), hload, UInt16.toBitVec_xor]
  simp

/-- Two bytes run the register to zero exactly if they are its value. -/
theorem ccitt_run_two (crc : UInt16) (hi lo : UInt8) : ccitt_run crc [hi, lo] = 0 ↔ crc = be16 hi lo := by
  constructor
  · intro hzero
    by_contra hne
    have hdiff : (crc ^^^ be16 hi lo).toBitVec ≠ 0#16 := by
      intro h
      apply hne
      exact UInt16.xor_eq_zero_iff.mp (UInt16.toBitVec_inj.mp h)
    apply ccitt.iterate_clock_ne_zero 16 hdiff
    rw [← ccitt_run_pair, hzero]
    rfl
  · intro heq
    apply UInt16.toBitVec_inj.mp
    rw [ccitt_run_pair, heq, UInt16.xor_self]
    exact ccitt.iterate_clock_zero 16

/-- The check of a packet is the register over the whole packet. -/
theorem pus_pkt_crc_valid_ok {lut : Crc16SlicedLut} (hlut : Initialised lut) {pkt : List UInt8}
    (hlong : 2 < pkt.length) :
    pus_pkt_crc_valid lut pkt pkt.length = .ok (if ccitt_run 0xffff pkt = 0 then 1 else 0) := by
  have hfield : pkt.drop (pkt.length - 2) = [byteAt pkt (pkt.length - 2), byteAt pkt (pkt.length - 1)] := by
    rw [drop_eq_byteAt_cons (by omega), show pkt.length - 2 + 1 = pkt.length - 1 by omega,
      drop_eq_byteAt_cons (by omega), show pkt.length - 1 + 1 = pkt.length by omega, List.drop_length]
  have hwhole : ccitt_run 0xffff pkt =
      ccitt_run (ccitt_run 0xffff (pkt.take (pkt.length - 2)))
        [byteAt pkt (pkt.length - 2), byteAt pkt (pkt.length - 1)] := by
    rw [← hfield, ← ccitt_run_append, List.take_append_drop]
  have hlen : ¬ pkt.length ≤ PUS_ECSS_CRC_LEN := by
    simp only [PUS_ECSS_CRC_LEN]
    omega
  rw [pus_pkt_crc_valid, if_neg hlen, crc16_buf_ok hlut (by omega), rd_ok (by omega), rd_ok (by omega)]
  simp only [bind_ok, hwhole, ccitt_run_two]
  rfl

/-- `crc16_buf` is the bit-serial register from `0xFFFF`, and the check of a
packet holds exactly if the register is zero behind its CRC bytes. -/
theorem crc16_buf_is_ccitt_false (lut : Crc16SlicedLut) :
    (∀ (buf : List UInt8) (len : Nat), len ≤ buf.length →
      crc16_buf (crc_init_lookup_table lut) (some buf) len = .ok (ccitt_run 0xffff (buf.take len))) ∧
    ∀ pkt : List UInt8, 2 < pkt.length →
      pus_pkt_crc_valid (crc_init_lookup_table lut) pkt pkt.length =
        .ok (if ccitt_run 0xffff pkt = 0 then 1 else 0) := by
  constructor
  · intro buf len hlen
    exact crc16_buf_ok (initialised_init lut) hlen
  · intro pkt hlong
    exact pus_pkt_crc_valid_ok (initialised_init lut) hlong

/-- A buffer of two bytes whose first byte is given, and a packet of three. -/
theorem crc16_buf_is_ccitt_false_three :
    crc16_buf (crc_init_lookup_table fun _ _ => 0) (some [0x00, 0xE1]) 1 =
        .ok (ccitt_run 0xffff ([0x00, 0xE1].take 1)) ∧
      pus_pkt_crc_valid (crc_init_lookup_table fun _ _ => 0) [0x00, 0xE1, 0xF0] 3 = .ok 1 := by
  obtain ⟨hbuf, hvalid⟩ := crc16_buf_is_ccitt_false fun _ _ => 0
  have hzero : ccitt_run 0xffff [0x00, 0xE1, 0xF0] = 0 := by decide +kernel
  have hthree := hvalid [0x00, 0xE1, 0xF0] (by decide)
  rw [if_pos hzero] at hthree
  exact ⟨hbuf [0x00, 0xE1] 1 (by decide), hthree⟩

/-- A packet that passes the check fails it after any error burst of up to 16
bits, wherever the burst lies. -/
theorem pus_pkt_crc_valid_burst (lut : Crc16SlicedLut) {pkt error : List UInt8}
    (hlen : pkt.length = error.length) (hlong : 2 < pkt.length)
    (hvalid : pus_pkt_crc_valid (crc_init_lookup_table lut) pkt pkt.length = .ok 1)
    (hburst : Burst 16 (error.flatMap bits_msb)) :
    pus_pkt_crc_valid (crc_init_lookup_table lut) (List.zipWith (· ^^^ ·) pkt error) pkt.length = .ok 0 := by
  have hsum : (List.zipWith (· ^^^ ·) pkt error).length = pkt.length := by
    rw [List.length_zipWith, ← hlen, Nat.min_self]
  have hclean : ccitt.run (0xffff : UInt16).toBitVec (pkt.flatMap bits_msb) = 0#16 := by
    rw [pus_pkt_crc_valid_ok (initialised_init lut) hlong] at hvalid
    by_cases hzero : ccitt_run 0xffff pkt = 0
    · exact UInt16.ofBitVec.inj hzero
    · simp [hzero] at hvalid
  have hbits : (List.zipWith (· ^^^ ·) pkt error).flatMap bits_msb =
      List.zipWith (· ^^ ·) (pkt.flatMap bits_msb) (error.flatMap bits_msb) :=
    flatMap_order_xor length_bits_msb bits_msb_xor hlen
  have hbitlen : (pkt.flatMap bits_msb).length = (error.flatMap bits_msb).length := by
    rw [length_flatMap_order length_bits_msb, length_flatMap_order length_bits_msb, hlen]
  have hdirty := ccitt.run_corrupted hbitlen hclean hburst
  have hnot : ccitt_run 0xffff (List.zipWith (· ^^^ ·) pkt error) ≠ 0 := by
    intro hzero
    apply hdirty
    rw [← hbits]
    exact UInt16.ofBitVec.inj hzero
  rw [← hsum, pus_pkt_crc_valid_ok (initialised_init lut) (by omega), if_neg hnot]

/-- A valid packet of three bytes and an error over the border to its CRC. -/
theorem pus_pkt_crc_valid_burst_border :
    pus_pkt_crc_valid (crc_init_lookup_table fun _ _ => 0) [0x01, 0x61, 0xF0] 3 = .ok 0 := by
  have hburst : Burst 16 ([0x01, 0x80, 0x00].flatMap bits_msb) := by
    apply @burst_of_length 16 7
    · decide
    · decide
  exact @pus_pkt_crc_valid_burst (fun _ _ => 0) [0x00, 0xE1, 0xF0] [0x01, 0x80, 0x00] rfl (by decide)
    (by decide +kernel) hburst

end spw_bridge.ecss
