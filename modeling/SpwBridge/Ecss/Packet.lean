import SpwBridge.Ecss.Bitman
import SpwBridge.Ecss.SpacePacket

open masks words

namespace spw_bridge.ecss

def PUS_ECSS_VER_OFFSET : Nat := 0x00
def PUS_ECSS_VER_MASK : UInt8 := 0xf0
def PUS_ECSS_VER_SHIFT : UInt8 := 0x04
def PUS_ECSS_TREF_OFFSET : Nat := 0x00
def PUS_ECSS_TREF_MASK : UInt8 := 0x0f
def PUS_ECSS_TREF_SHIFT : UInt8 := 0x00
def PUS_A_VERSION : UInt8 := 0x01
def PUS_C_VERSION : UInt8 := 0x02
def PUS_ECSS_ACK_OFFSET : Nat := 0x00
def PUS_ECSS_ACK_MASK : UInt8 := 0x0f
def PUS_ECSS_ACK_SHIFT : UInt8 := 0x00
def PUS_ACK_PKT_ACCEPT : UInt8 := 0b0001
def PUS_ACK_EXEC_START : UInt8 := 0b0010
def PUS_ACK_EXEC_PROGR : UInt8 := 0b0100
def PUS_ACK_EXEC_COMPL : UInt8 := 0b1000
def PUS_ECSS_ST_OFFSET : Nat := 0x01
def PUS_ECSS_SST_OFFSET : Nat := 0x02
def PUS_ECSS_TCNT_OFFSET : Nat := 0x03
def PUS_ECSS_DESTID_OFFSET : Nat := 0x05
def PUS_ECSS_TIME_OFFSET : Nat := 0x07
def PUS_ECSS_SRCID_OFFSET : Nat := 0x03
def PUS_C_SRCID_BITS : Nat := 2 * CHAR_BIT
def PUS_C_TC_SPARE_BITS : Nat := 0
def PUS_C_TM_SPARE_BITS : Nat := 0
def PUS_C_TM_TIME_OCTETS : Nat := 6

def ALIGN_MASK (x mask : UInt64) : UInt64 := (x + mask) &&& ~~~mask

/-- `p[off]` for `p = ccsds_get_payload(pkt)`, which is null for a null packet. -/
def rd_payload (pkt : Pkt) (off : Nat) : Except Fault UInt8 := rdp pkt (SPP_PKT_HDR_LEN + off)

/-- `p[off] = b` for `p = ccsds_get_payload(pkt)`. -/
def wr_payload (pkt : Pkt) (off : Nat) (b : UInt8) : Except Fault Pkt :=
  match pkt with
  | none => .error .null
  | some buf => do
    let buf ← wr buf (SPP_PKT_HDR_LEN + off) b
    .ok (some buf)

/-- The array that `ccsds_get_payload(pkt)` points to. -/
def ccsds_get_payload (pkt : Pkt) : Option (List UInt8) := pkt.map (List.drop SPP_PKT_HDR_LEN)

/-- The packet with another array behind its primary header. -/
def put_payload (pkt : Pkt) (payload : Option (List UInt8)) : Pkt :=
  pkt.map fun buf => buf.take SPP_PKT_HDR_LEN ++ payload.getD []

def ecss_pus_version_valid (v : UInt8) : Int :=
  if v = PUS_A_VERSION ∨ v = PUS_C_VERSION then 1 else 0

/-- `if (!ccsds_get_2nd_hdr_flag(pkt)) return refused;` before the rest. -/
def with_2nd_hdr {A : Type} (pkt : Pkt) (refused : A) (rest : Except Fault A) : Except Fault A := do
  let flag ← ccsds_get_2nd_hdr_flag pkt
  if flag = 0 then .ok refused else rest

/-- `if (ccsds_get_pkt_type(pkt) != type) return refused;` before the rest. -/
def with_pkt_type {A : Type} (pkt : Pkt) (type : UInt8) (refused : A) (rest : Except Fault A) : Except Fault A := do
  let t ← ccsds_get_pkt_type pkt
  if t ≠ type then .ok refused else rest

def ecss_get_pkt_version (pkt : Pkt) : Except Fault UInt8 :=
  with_2nd_hdr pkt 0xff do
    let b ← rd_payload pkt PUS_ECSS_VER_OFFSET
    .ok ((b &&& PUS_ECSS_VER_MASK) >>> PUS_ECSS_VER_SHIFT)

def ecss_get_sc_time_ref_status (pkt : Pkt) : Except Fault UInt8 :=
  with_2nd_hdr pkt 0xff <| with_pkt_type pkt SPP_PKT_TYPE_IS_TM 0xff do
    let b ← rd_payload pkt PUS_ECSS_TREF_OFFSET
    .ok ((b &&& PUS_ECSS_TREF_MASK) >>> PUS_ECSS_TREF_SHIFT)

def ecss_get_ack_flags (pkt : Pkt) : Except Fault UInt8 :=
  with_2nd_hdr pkt 0xff <| with_pkt_type pkt SPP_PKT_TYPE_IS_TC 0xff do
    let b ← rd_payload pkt PUS_ECSS_ACK_OFFSET
    .ok ((b &&& PUS_ECSS_ACK_MASK) >>> PUS_ECSS_ACK_SHIFT)

def ecss_get_service_type (pkt : Pkt) : Except Fault UInt8 :=
  if pkt = none then .ok 0 else rd_payload pkt PUS_ECSS_ST_OFFSET

def ecss_get_sub_service_type (pkt : Pkt) : Except Fault UInt8 :=
  with_2nd_hdr pkt 0 (rd_payload pkt PUS_ECSS_SST_OFFSET)

/-- `((uint16_t)p[off + 0] & 0xff) << 8 | (uint16_t)p[off + 1] & 0xff`. -/
def rd_payload_word (pkt : Pkt) (off : Nat) : Except Fault UInt16 := do
  let hi ← rd_payload pkt (off + 0)
  let lo ← rd_payload pkt (off + 1)
  .ok (((hi.toUInt16 &&& 0xff) <<< 8) ||| (lo.toUInt16 &&& 0xff))

def ecss_get_msg_type_cntr (pkt : Pkt) : Except Fault UInt16 :=
  with_2nd_hdr pkt 0 do
    let version ← ecss_get_pkt_version pkt
    if version ≠ PUS_C_VERSION then .ok 0
    else with_pkt_type pkt SPP_PKT_TYPE_IS_TM 0 (rd_payload_word pkt PUS_ECSS_TCNT_OFFSET)

def ecss_get_destination_id (pkt : Pkt) : Except Fault UInt16 :=
  with_2nd_hdr pkt 0xffff <|
    with_pkt_type pkt SPP_PKT_TYPE_IS_TM 0xffff (rd_payload_word pkt PUS_ECSS_DESTID_OFFSET)

def ecss_get_source_id (pkt : Pkt) : Except Fault UInt16 :=
  with_2nd_hdr pkt 0xffff <|
    with_pkt_type pkt SPP_PKT_TYPE_IS_TC 0xffff (rd_payload_word pkt PUS_ECSS_SRCID_OFFSET)

/-- The bits of a timestamp and where they lie in an array that holds them
alone. -/
def timestamp_bits : Nat := PUS_C_TM_TIME_OCTETS * CHAR_BIT
def timestamp_align : Nat := (ALIGN_MASK (UInt64.ofNat timestamp_bits) 0b111).toNat - timestamp_bits

def ecss_get_timestamp (pkt : Pkt) (ts : Option (List UInt8)) : Except Undef (Int × Option (List UInt8)) := do
  let flag ← access (ccsds_get_2nd_hdr_flag pkt)
  if flag = 0 then .ok (-1, ts)
  else if ts = none then .ok (-1, ts)
  else do
    let t ← access (ccsds_get_pkt_type pkt)
    if t ≠ SPP_PKT_TYPE_IS_TM then .ok (-1, ts)
    else do
      let (_, ts) ← bitcpy ts timestamp_align (ccsds_get_payload pkt) (PUS_ECSS_TIME_OFFSET * CHAR_BIT) timestamp_bits
      .ok (0, ts)

/-- `b = p[off]; b &= ~mask; b |= bits; p[off] = b;` in the secondary header. -/
def set_payload_masked (pkt : Pkt) (off : Nat) (mask bits : UInt8) : Except Fault (Int × Pkt) := do
  let b ← rd_payload pkt off
  let b := b &&& ~~~mask
  let b := b ||| bits
  let pkt ← wr_payload pkt off b
  .ok (0, pkt)

/-- `p[off + 0] = word >> 8; p[off + 1] = word & 0xff;` in the secondary header. -/
def set_payload_word (pkt : Pkt) (off : Nat) (word : UInt16) : Except Fault (Int × Pkt) := do
  let pkt ← wr_payload pkt (off + 0) ((word >>> 8) &&& 0xff).toUInt8
  let pkt ← wr_payload pkt (off + 1) (word &&& 0xff).toUInt8
  .ok (0, pkt)

def ecss_set_pkt_version (pkt : Pkt) (v : UInt8) : Except Fault (Int × Pkt) :=
  with_2nd_hdr pkt (-1, pkt) <|
    if ecss_pus_version_valid v = 0 then .ok (-1, pkt)
    else set_payload_masked pkt PUS_ECSS_VER_OFFSET PUS_ECSS_VER_MASK (v <<< PUS_ECSS_VER_SHIFT)

def ecss_set_sc_time_ref_status (pkt : Pkt) (ref : UInt8) : Except Fault (Int × Pkt) :=
  with_2nd_hdr pkt (-1, pkt) <| with_pkt_type pkt SPP_PKT_TYPE_IS_TM (-1, pkt) <|
    set_payload_masked pkt PUS_ECSS_TREF_OFFSET PUS_ECSS_TREF_MASK (ref <<< PUS_ECSS_TREF_SHIFT)

def ecss_set_ack_flags (pkt : Pkt) (f : UInt8) : Except Fault (Int × Pkt) :=
  with_2nd_hdr pkt (-1, pkt) <| with_pkt_type pkt SPP_PKT_TYPE_IS_TC (-1, pkt) <|
    if f &&& ~~~PUS_ECSS_ACK_MASK ≠ 0 then .ok (-1, pkt)
    else set_payload_masked pkt PUS_ECSS_ACK_OFFSET PUS_ECSS_ACK_MASK (f <<< PUS_ECSS_ACK_SHIFT)

def ecss_set_service_type (pkt : Pkt) (st : UInt8) : Except Fault (Int × Pkt) :=
  if pkt = none then .ok (-1, pkt)
  else with_2nd_hdr pkt (-1, pkt) <|
    if st = 0 then .ok (-1, pkt)
    else do
      let pkt ← wr_payload pkt PUS_ECSS_ST_OFFSET st
      .ok (0, pkt)

def ecss_set_sub_service_type (pkt : Pkt) (sst : UInt8) : Except Fault (Int × Pkt) :=
  with_2nd_hdr pkt (-1, pkt) <|
    if sst = 0 then .ok (-1, pkt)
    else do
      let pkt ← wr_payload pkt PUS_ECSS_SST_OFFSET sst
      .ok (0, pkt)

def ecss_set_msg_type_cntr (pkt : Pkt) (tcntr : UInt16) : Except Fault (Int × Pkt) :=
  with_2nd_hdr pkt (-1, pkt) do
    let version ← ecss_get_pkt_version pkt
    if version ≠ PUS_C_VERSION then .ok (-1, pkt)
    else with_pkt_type pkt SPP_PKT_TYPE_IS_TM (-1, pkt) (set_payload_word pkt PUS_ECSS_TCNT_OFFSET tcntr)

/-- A refusal is `(uint16_t) -1` here, as an `int`. -/
def ecss_set_destination_id (pkt : Pkt) (dest_id : UInt16) : Except Fault (Int × Pkt) :=
  with_2nd_hdr pkt (65535, pkt) <|
    with_pkt_type pkt SPP_PKT_TYPE_IS_TM (65535, pkt) (set_payload_word pkt PUS_ECSS_DESTID_OFFSET dest_id)

/-- A refusal is `(uint16_t) -1` here, as an `int`. -/
def ecss_set_source_id (pkt : Pkt) (src_id : UInt16) : Except Fault (Int × Pkt) :=
  with_2nd_hdr pkt (65535, pkt) <|
    with_pkt_type pkt SPP_PKT_TYPE_IS_TC (65535, pkt) (set_payload_word pkt PUS_ECSS_SRCID_OFFSET src_id)

def ecss_set_timestamp (pkt : Pkt) (ts : Option (List UInt8)) : Except Undef (Int × Pkt) := do
  let flag ← access (ccsds_get_2nd_hdr_flag pkt)
  if flag = 0 then .ok (-1, pkt)
  else if ts = none then .ok (-1, pkt)
  else do
    let t ← access (ccsds_get_pkt_type pkt)
    if t ≠ SPP_PKT_TYPE_IS_TM then .ok (-1, pkt)
    else do
      let (_, payload) ←
        bitcpy (ccsds_get_payload pkt) (PUS_ECSS_TIME_OFFSET * CHAR_BIT) ts timestamp_align timestamp_bits
      .ok (0, put_payload pkt payload)

def ecss_get_pkt_2nd_hdr_size (tmtc : Int) : UInt64 :=
  if tmtc > 1 then 0
  else
    let sz : UInt64 :=
      if tmtc = SPP_PKT_TYPE_IS_TC.toNat then
        UInt64.ofNat (PUS_ECSS_SRCID_OFFSET * CHAR_BIT) + UInt64.ofNat PUS_C_SRCID_BITS +
          UInt64.ofNat PUS_C_TC_SPARE_BITS
      else
        UInt64.ofNat (PUS_ECSS_TIME_OFFSET * CHAR_BIT) + UInt64.ofNat (PUS_C_TM_TIME_OCTETS * CHAR_BIT) +
          UInt64.ofNat PUS_C_TM_SPARE_BITS
    ALIGN_MASK sz 0b111 / UInt64.ofNat CHAR_BIT

def ecss_get_pkt_hdr_size (tmtc : Int) : UInt64 :=
  if tmtc > 1 then 0 else UInt64.ofNat SPP_PKT_HDR_LEN + ecss_get_pkt_2nd_hdr_size tmtc

/-- In bits. -/
def ecss_get_payload_offset (pkt : Pkt) : Except Fault UInt64 :=
  if pkt = none then .ok 0
  else do
    let t ← ccsds_get_pkt_type pkt
    .ok (ecss_get_pkt_hdr_size t.toNat <<< 3)

/-- One of the acknowledgement flags; none if there are no flags. -/
def ecss_get_ack (pkt : Pkt) (flag : UInt8) : Except Fault Int := do
  let a ← ecss_get_ack_flags pkt
  if a = 0xff then .ok 0
  else if a &&& flag ≠ 0 then .ok 1
  else .ok 0

def ecss_get_pkt_accept_ack (pkt : Pkt) : Except Fault Int := ecss_get_ack pkt PUS_ACK_PKT_ACCEPT
def ecss_get_exec_start_ack (pkt : Pkt) : Except Fault Int := ecss_get_ack pkt PUS_ACK_EXEC_START
def ecss_get_exec_progr_ack (pkt : Pkt) : Except Fault Int := ecss_get_ack pkt PUS_ACK_EXEC_PROGR
def ecss_get_exec_compl_ack (pkt : Pkt) : Except Fault Int := ecss_get_ack pkt PUS_ACK_EXEC_COMPL

def ecss_is_pkt_valid (pkt : Pkt) : Except Fault Int := do
  let version ← ccsds_get_pkt_version pkt
  if version ≠ 0 then .ok 0
  else do
    let flag ← ccsds_get_2nd_hdr_flag pkt
    if flag ≠ 0 then do
      let pus ← ecss_get_pkt_version pkt
      if ecss_pus_version_valid pus = 0 then .ok 0 else .ok 1
    else .ok 1

def ecss_get_pkt_size (pkt : Pkt) : Except Fault UInt64 := do
  let valid ← ecss_is_pkt_valid pkt
  if valid = 0 then .ok 0
  else do
    let data_len ← ccsds_get_data_len pkt
    .ok (UInt64.ofNat SPP_PKT_HDR_LEN + data_len.toUInt64)

def ecss_get_pld_size (pkt : Pkt) : Except Fault UInt64 := do
  let valid ← ecss_is_pkt_valid pkt
  if valid = 0 then .ok 0
  else do
    let data_len ← ccsds_get_data_len pkt
    let t ← ccsds_get_pkt_type pkt
    .ok (data_len.toUInt64 - ecss_get_pkt_2nd_hdr_size t.toNat)

end spw_bridge.ecss
