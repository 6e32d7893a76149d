import SpwBridge.Library.Words
import SpwBridge.Memory

open words

namespace spw_bridge

def SPP_PKT_HDR_LEN : Nat := 6
def SPP_APID_OFFSET_1 : Nat := 0x00
def SPP_APID_OFFSET_2 : Nat := 0x01
def SPP_APID_OFFSET_1_MASK : UInt16 := 0x07
def SPP_SEQ_CNT_OFFSET_1 : Nat := 0x02
def SPP_SEQ_CNT_OFFSET_2 : Nat := 0x03
def SPP_SEQ_CNT_OFFSET_1_MASK : UInt16 := 0x3f

def ccsds_get_apid (pkt : List UInt8) : Except Fault UInt16 := do
  let b0 ← rd pkt SPP_APID_OFFSET_1
  let b1 ← rd pkt SPP_APID_OFFSET_2
  let hi := b0.toUInt16 &&& SPP_APID_OFFSET_1_MASK
  let lo := b1.toUInt16
  .ok ((hi <<< 8) ||| (lo &&& 0xff))

def ccsds_get_seq_cnt (pkt : List UInt8) : Except Fault UInt16 := do
  let b0 ← rd pkt SPP_SEQ_CNT_OFFSET_1
  let b1 ← rd pkt SPP_SEQ_CNT_OFFSET_2
  let hi := b0.toUInt16 &&& SPP_SEQ_CNT_OFFSET_1_MASK
  let lo := b1.toUInt16
  .ok ((hi <<< 8) ||| (lo &&& 0xff))

/-- The 11-bit application id of a space packet. -/
def packetApid (pkt : List UInt8) : Nat := (byteAt pkt 0).toNat % 2 ^ 3 * 2 ^ 8 + (byteAt pkt 1).toNat

/-- The 14-bit sequence count of a space packet. -/
def packetCount (pkt : List UInt8) : Nat := (byteAt pkt 2).toNat % 2 ^ 6 * 2 ^ 8 + (byteAt pkt 3).toNat

theorem packetCount_lt (pkt : List UInt8) : packetCount pkt < 2 ^ 14 := by
  have hlow := (byteAt pkt 3).toNat_lt
  have hhigh := Nat.mod_lt (byteAt pkt 2).toNat (Nat.two_pow_pos 6)
  simp only [packetCount]
  omega

/-- A field of two bytes whose first byte is masked to its low bits. -/
private theorem masked_field (b0 b1 : UInt8) (bits : Nat) (mask : UInt16) (hmask : mask.toNat = 2 ^ bits - 1) :
    (((b0.toUInt16 &&& mask) <<< 8) ||| (b1.toUInt16 &&& 0xff)).toNat =
      b0.toNat % 2 ^ bits * 2 ^ 8 + b1.toNat := by
  have h0 := b0.toNat_lt
  have h1 := b1.toNat_lt
  have hmod := Nat.mod_le b0.toNat (2 ^ bits)
  have hlow : b1.toNat &&& 255 = b1.toNat := by
    change b1.toNat &&& (2 ^ 8 - 1) = _
    rw [Nat.and_two_pow_sub_one_eq_mod]
    omega
  have hhigh : (b0.toNat % 2 ^ bits) <<< 8 % 2 ^ 16 = (b0.toNat % 2 ^ bits) <<< 8 := by
    rw [Nat.shiftLeft_eq]
    omega
  simp only [UInt16.toNat_or, UInt16.toNat_shiftLeft, UInt16.toNat_and, UInt8.toNat_toUInt16, hmask,
    Nat.and_two_pow_sub_one_eq_mod]
  change (b0.toNat % 2 ^ bits) <<< 8 % 2 ^ 16 ||| (b1.toNat &&& 255) = _
  rw [hlow, hhigh, shiftLeft_or_eq_add 8 h1]

theorem ccsds_get_apid_ok {pkt : List UInt8} (hlen : SPP_PKT_HDR_LEN ≤ pkt.length) :
    ∃ apid, ccsds_get_apid pkt = .ok apid ∧ apid.toNat = packetApid pkt := by
  simp only [SPP_PKT_HDR_LEN] at hlen
  refine ⟨_, ?_, masked_field (byteAt pkt 0) (byteAt pkt 1) 3 SPP_APID_OFFSET_1_MASK rfl⟩
  simp (disch := omega) only [ccsds_get_apid, SPP_APID_OFFSET_1, SPP_APID_OFFSET_2, rd_ok, bind_ok]

theorem ccsds_get_seq_cnt_ok {pkt : List UInt8} (hlen : SPP_PKT_HDR_LEN ≤ pkt.length) :
    ∃ count, ccsds_get_seq_cnt pkt = .ok count ∧ count.toNat = packetCount pkt := by
  simp only [SPP_PKT_HDR_LEN] at hlen
  refine ⟨_, ?_, masked_field (byteAt pkt 2) (byteAt pkt 3) 6 SPP_SEQ_CNT_OFFSET_1_MASK rfl⟩
  simp (disch := omega) only [ccsds_get_seq_cnt, SPP_SEQ_CNT_OFFSET_1, SPP_SEQ_CNT_OFFSET_2, rd_ok, bind_ok]

end spw_bridge
