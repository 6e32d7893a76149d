import SpwBridge.Library.Masks
import SpwBridge.Ccsds

open masks words

namespace spw_bridge.ecss

def SPP_PKT_VER_OFFSET : Nat := 0x00
def SPP_PKT_VER_SHIFT : UInt8 := 0x05
def SPP_PKT_VER_MASK : UInt8 := 0xe0
def SPP_PKT_TYPE_OFFSET : Nat := 0x00
def SPP_PKT_TYPE_SHIFT : UInt8 := 0x04
def SPP_PKT_TYPE_MASK : UInt8 := 0x10
def SPP_PKT_TYPE_IS_TM : UInt8 := 0x00
def SPP_PKT_TYPE_IS_TC : UInt8 := 0x01
def SPP_2ND_HDR_FLAG_OFFSET : Nat := 0x00
def SPP_2ND_HDR_FLAG_SHIFT : UInt8 := 0x03
def SPP_2ND_HDR_FLAG_MASK : UInt8 := 0x0f
def SPP_SEQ_FLAGS_OFFSET : Nat := 0x02
def SPP_SEQ_FLAGS_SHIFT : UInt8 := 0x06
def SPP_SEQ_FLAGS_MASK : UInt8 := 0xc0
def SPP_SEQ_FLAG_UNSEG : UInt8 := 0x03
def SPP_LEN_LO_OFFSET : Nat := 0x05
def SPP_LEN_HI_OFFSET : Nat := 0x04

/-- A packet pointer, null or to the bytes of a packet. -/
abbrev Pkt := Option (List UInt8)

/-- `if (!pkt) return null;` before the body of a getter. -/
def unless_null {A : Type} (pkt : Pkt) (null : A) (body : List UInt8 → Except Fault A) : Except Fault A :=
  match pkt with
  | none => .ok null
  | some buf => body buf

def ccsds_get_pkt_version (pkt : Pkt) : Except Fault UInt8 :=
  unless_null pkt 0xff fun pkt => do
    let b ← rd pkt SPP_PKT_VER_OFFSET
    .ok (b >>> SPP_PKT_VER_SHIFT)

def ccsds_get_data_len (pkt : Pkt) : Except Fault UInt16 :=
  unless_null pkt 0 fun pkt => do
    let hi ← rd pkt SPP_LEN_HI_OFFSET
    let lo ← rd pkt SPP_LEN_LO_OFFSET
    let len := (hi.toUInt16 <<< 8) ||| (lo.toUInt16 &&& 0xff)
    .ok (len + 1)

def ccsds_get_pkt_type (pkt : Pkt) : Except Fault UInt8 :=
  unless_null pkt 0xff fun pkt => do
    let t ← rd pkt SPP_PKT_TYPE_OFFSET
    .ok ((t &&& SPP_PKT_TYPE_MASK) >>> SPP_PKT_TYPE_SHIFT)

def ccsds_get_2nd_hdr_flag (pkt : Pkt) : Except Fault UInt8 :=
  unless_null pkt 0xff fun pkt => do
    let t ← rd pkt SPP_2ND_HDR_FLAG_OFFSET
    .ok ((t &&& SPP_2ND_HDR_FLAG_MASK) >>> SPP_2ND_HDR_FLAG_SHIFT)

def ccsds_get_apid (pkt : Pkt) : Except Fault UInt16 :=
  unless_null pkt 0xffff fun pkt => spw_bridge.ccsds_get_apid pkt

def ccsds_get_seq_flags (pkt : Pkt) : Except Fault UInt8 :=
  unless_null pkt 0xff fun pkt => do
    let t ← rd pkt SPP_SEQ_FLAGS_OFFSET
    .ok ((t &&& SPP_SEQ_FLAGS_MASK) >>> SPP_SEQ_FLAGS_SHIFT)

def ccsds_get_seq_cnt (pkt : Pkt) : Except Fault UInt16 :=
  unless_null pkt 0xffff fun pkt => spw_bridge.ccsds_get_seq_cnt pkt

/-- `if (!pkt) return;` before the body of a setter. -/
def update_unless_null (pkt : Pkt) (body : List UInt8 → Except Fault (List UInt8)) : Except Fault Pkt :=
  match pkt with
  | none => .ok none
  | some buf => do
    let buf ← body buf
    .ok (some buf)

/-- `b = pkt[off]; b &= ~mask; b |= bits; pkt[off] = b;` -/
def set_masked (pkt : List UInt8) (off : Nat) (mask bits : UInt8) : Except Fault (List UInt8) := do
  let b ← rd pkt off
  let b := b &&& ~~~mask
  let b := b ||| bits
  wr pkt off b

def ccsds_set_pkt_version (pkt : Pkt) (v : UInt8) : Except Fault Pkt :=
  update_unless_null pkt fun pkt =>
    set_masked pkt SPP_PKT_VER_OFFSET SPP_PKT_VER_MASK (v <<< SPP_PKT_VER_SHIFT)

def ccsds_set_data_len (pkt : Pkt) (len : UInt16) : Except Fault Pkt :=
  update_unless_null pkt fun pkt => do
    let len := len - 1
    let pkt ← wr pkt SPP_LEN_HI_OFFSET (len >>> 8).toUInt8
    wr pkt SPP_LEN_LO_OFFSET (len &&& 0xff).toUInt8

def ccsds_set_pkt_type (pkt : Pkt) (t : UInt8) : Except Fault Pkt :=
  update_unless_null pkt fun pkt =>
    let t := if t ≠ 0 then 1 else t
    set_masked pkt SPP_PKT_TYPE_OFFSET SPP_PKT_TYPE_MASK (t <<< SPP_PKT_TYPE_SHIFT)

def ccsds_set_2nd_hdr_flag (pkt : Pkt) (t : UInt8) : Except Fault Pkt :=
  update_unless_null pkt fun pkt =>
    let t := if t ≠ 0 then 1 else t
    set_masked pkt SPP_2ND_HDR_FLAG_OFFSET SPP_2ND_HDR_FLAG_MASK (t <<< SPP_2ND_HDR_FLAG_SHIFT)

def ccsds_set_apid (pkt : Pkt) (a : UInt16) : Except Fault Pkt :=
  update_unless_null pkt fun pkt =>
    if a > ((1 : UInt16) <<< 11) - 1 then .ok pkt
    else do
      let pkt ← set_masked pkt SPP_APID_OFFSET_1 SPP_APID_OFFSET_1_MASK.toUInt8
        ((a >>> 8) &&& SPP_APID_OFFSET_1_MASK).toUInt8
      wr pkt SPP_APID_OFFSET_2 (a &&& 0xff).toUInt8

def ccsds_set_seq_flags (pkt : Pkt) (t : UInt8) : Except Fault Pkt :=
  update_unless_null pkt fun pkt =>
    if t > SPP_SEQ_FLAG_UNSEG then .ok pkt
    else set_masked pkt SPP_SEQ_FLAGS_OFFSET SPP_SEQ_FLAGS_MASK (t <<< SPP_SEQ_FLAGS_SHIFT)

def ccsds_set_seq_cnt (pkt : Pkt) (c : UInt16) : Except Fault Pkt :=
  update_unless_null pkt fun pkt =>
    if c > ((1 : UInt16) <<< 14) - 1 then .ok pkt
    else do
      let pkt ← set_masked pkt SPP_SEQ_CNT_OFFSET_1 SPP_SEQ_CNT_OFFSET_1_MASK.toUInt8
        ((c >>> 8) &&& SPP_SEQ_CNT_OFFSET_1_MASK).toUInt8
      wr pkt SPP_SEQ_CNT_OFFSET_2 (c &&& 0xff).toUInt8

/-- The fields of the primary header, as the getters give them. -/
structure SppHeader where
  pkt_version : UInt8
  pkt_type : UInt8
  sec_hdr_flag : UInt8
  apid : UInt16
  seq_flags : UInt8
  seq_cnt : UInt16
  data_len : UInt16
  deriving DecidableEq, Repr

/-- The seven getters on one packet. -/
def get_header (pkt : Pkt) : Except Fault SppHeader := do
  let pkt_version ← ccsds_get_pkt_version pkt
  let pkt_type ← ccsds_get_pkt_type pkt
  let sec_hdr_flag ← ccsds_get_2nd_hdr_flag pkt
  let apid ← ccsds_get_apid pkt
  let seq_flags ← ccsds_get_seq_flags pkt
  let seq_cnt ← ccsds_get_seq_cnt pkt
  let data_len ← ccsds_get_data_len pkt
  .ok { pkt_version, pkt_type, sec_hdr_flag, apid, seq_flags, seq_cnt, data_len }

/-- One call of a setter with its argument. -/
inductive SppSetter
  | pkt_version (v : UInt8)
  | pkt_type (t : UInt8)
  | sec_hdr_flag (t : UInt8)
  | apid (a : UInt16)
  | seq_flags (t : UInt8)
  | seq_cnt (c : UInt16)
  | data_len (len : UInt16)
  deriving DecidableEq, Repr

def SppSetter.call (pkt : Pkt) : SppSetter → Except Fault Pkt
  | .pkt_version v => ccsds_set_pkt_version pkt v
  | .pkt_type t => ccsds_set_pkt_type pkt t
  | .sec_hdr_flag t => ccsds_set_2nd_hdr_flag pkt t
  | .apid a => ccsds_set_apid pkt a
  | .seq_flags t => ccsds_set_seq_flags pkt t
  | .seq_cnt c => ccsds_set_seq_cnt pkt c
  | .data_len len => ccsds_set_data_len pkt len

/-- A sequence of calls on one packet. -/
def call_all (pkt : Pkt) : List SppSetter → Except Fault Pkt
  | [] => .ok pkt
  | setter :: rest => do
    let pkt ← setter.call pkt
    call_all pkt rest

/-- The arguments that the field can hold. -/
def SppSetter.InRange : SppSetter → Prop
  | .pkt_version v => v ≤ 7
  | .pkt_type t => t ≤ 1
  | .sec_hdr_flag t => t ≤ 1
  | .apid a => a ≤ 2047
  | .seq_flags t => t ≤ 3
  | .seq_cnt c => c ≤ 16383
  | .data_len _ => True

/-- The header in which a setter has replaced its own field alone. -/
def SppHeader.give (h : SppHeader) : SppSetter → SppHeader
  | .pkt_version v => { h with pkt_version := v }
  | .pkt_type t => { h with pkt_type := t }
  | .sec_hdr_flag t => { h with sec_hdr_flag := t }
  | .apid a => { h with apid := a }
  | .seq_flags t => { h with seq_flags := t }
  | .seq_cnt c => { h with seq_cnt := c }
  | .data_len len => { h with data_len := len }

/-- What a setter really does to the fields: the mask of the secondary header
flag also covers the upper bits of the application id. -/
def SppHeader.effect (h : SppHeader) : SppSetter → SppHeader
  | .sec_hdr_flag t => { h with sec_hdr_flag := t, apid := h.apid &&& 0xff }
  | setter => h.give setter

/-- The fields by the bits they occupy. -/
def headerOf (pkt : List UInt8) : SppHeader where
  pkt_version := (byteAt pkt 0 &&& 0xe0) >>> 5
  pkt_type := (byteAt pkt 0 &&& 0x10) >>> 4
  sec_hdr_flag := (byteAt pkt 0 &&& 0x08) >>> 3
  apid := be16 (byteAt pkt 0 &&& 0x07) (byteAt pkt 1)
  seq_flags := (byteAt pkt 2 &&& 0xc0) >>> 6
  seq_cnt := be16 (byteAt pkt 2 &&& 0x3f) (byteAt pkt 3)
  data_len := be16 (byteAt pkt 4) (byteAt pkt 5) + 1

theorem version_bits (b : UInt8) : b >>> SPP_PKT_VER_SHIFT = (b &&& 0xe0) >>> 5 := by
  revert b
  apply forall_byte
  decide +kernel

theorem flag_bits (b : UInt8) :
    (b &&& SPP_2ND_HDR_FLAG_MASK) >>> SPP_2ND_HDR_FLAG_SHIFT = (b &&& 0x08) >>> 3 := by
  revert b
  apply forall_byte
  decide +kernel

theorem low_byte (b : UInt8) : b.toUInt16 &&& 0xff = b.toUInt16 := by
  revert b
  apply forall_byte
  decide +kernel

/-- A field of two bytes whose first is masked. -/
theorem masked_be16 (b0 b1 mask : UInt8) :
    ((b0.toUInt16 &&& mask.toUInt16) <<< 8) ||| (b1.toUInt16 &&& 0xff) = be16 (b0 &&& mask) b1 := by
  rw [low_byte, be16, UInt8.toUInt16_and]

theorem get_pkt_version_ok {pkt : List UInt8} (hlen : 0 < pkt.length) :
    ccsds_get_pkt_version (some pkt) = .ok (headerOf pkt).pkt_version := by
  rw [ccsds_get_pkt_version, unless_null, SPP_PKT_VER_OFFSET, rd_ok hlen, bind_ok, version_bits]
  rfl

theorem get_pkt_type_ok {pkt : List UInt8} (hlen : 0 < pkt.length) :
    ccsds_get_pkt_type (some pkt) = .ok (headerOf pkt).pkt_type := by
  rw [ccsds_get_pkt_type, unless_null, SPP_PKT_TYPE_OFFSET, rd_ok hlen, bind_ok]
  rfl

theorem get_2nd_hdr_flag_ok {pkt : List UInt8} (hlen : 0 < pkt.length) :
    ccsds_get_2nd_hdr_flag (some pkt) = .ok (headerOf pkt).sec_hdr_flag := by
  rw [ccsds_get_2nd_hdr_flag, unless_null, SPP_2ND_HDR_FLAG_OFFSET, rd_ok hlen, bind_ok, flag_bits]
  rfl

theorem get_apid_ok {pkt : List UInt8} (hlen : 2 ≤ pkt.length) :
    ccsds_get_apid (some pkt) = .ok (headerOf pkt).apid := by
  have h0 : 0 < pkt.length := by omega
  have h1 : 1 < pkt.length := by omega
  rw [ccsds_get_apid, unless_null, spw_bridge.ccsds_get_apid, SPP_APID_OFFSET_1, SPP_APID_OFFSET_2, rd_ok h0,
    bind_ok, rd_ok h1, bind_ok]
  exact congrArg Except.ok (masked_be16 (byteAt pkt 0) (byteAt pkt 1) 0x07)

theorem get_seq_flags_ok {pkt : List UInt8} (hlen : 2 < pkt.length) :
    ccsds_get_seq_flags (some pkt) = .ok (headerOf pkt).seq_flags := by
  rw [ccsds_get_seq_flags, unless_null, SPP_SEQ_FLAGS_OFFSET, rd_ok hlen, bind_ok]
  rfl

theorem get_seq_cnt_ok {pkt : List UInt8} (hlen : 4 ≤ pkt.length) :
    ccsds_get_seq_cnt (some pkt) = .ok (headerOf pkt).seq_cnt := by
  have h2 : 2 < pkt.length := by omega
  have h3 : 3 < pkt.length := by omega
  rw [ccsds_get_seq_cnt, unless_null, spw_bridge.ccsds_get_seq_cnt, SPP_SEQ_CNT_OFFSET_1, SPP_SEQ_CNT_OFFSET_2,
    rd_ok h2, bind_ok, rd_ok h3, bind_ok]
  exact congrArg Except.ok (masked_be16 (byteAt pkt 2) (byteAt pkt 3) 0x3f)

theorem get_data_len_ok {pkt : List UInt8} (hlen : 6 ≤ pkt.length) :
    ccsds_get_data_len (some pkt) = .ok (headerOf pkt).data_len := by
  have h4 : 4 < pkt.length := by omega
  have h5 : 5 < pkt.length := by omega
  rw [ccsds_get_data_len, unless_null, SPP_LEN_HI_OFFSET, SPP_LEN_LO_OFFSET, rd_ok h4, bind_ok, rd_ok h5, bind_ok,
    low_byte]
  rfl

theorem get_header_ok {pkt : List UInt8} (hlen : 6 ≤ pkt.length) :
    get_header (some pkt) = .ok (headerOf pkt) := by
  rw [get_header, get_pkt_version_ok (by omega), bind_ok, get_pkt_type_ok (by omega), bind_ok,
    get_2nd_hdr_flag_ok (by omega), bind_ok, get_apid_ok (by omega), bind_ok, get_seq_flags_ok (by omega), bind_ok,
    get_seq_cnt_ok (by omega), bind_ok, get_data_len_ok hlen, bind_ok]

theorem set_masked_ok {pkt : List UInt8} {off : Nat} (hoff : off < pkt.length) (mask bits : UInt8) :
    set_masked pkt off mask bits = .ok (pkt.set off (put mask bits (byteAt pkt off))) := by
  rw [set_masked, rd_ok hoff, bind_ok, wr, if_pos hoff, put]

theorem byteAt_set {pkt : List UInt8} {i : Nat} (hi : i < pkt.length) (b : UInt8) (k : Nat) :
    byteAt (pkt.set i b) k = if i = k then b else byteAt pkt k := by
  simp only [byteAt, List.getD, List.getElem?_set]
  split
  · rename_i h
    subst h
    rfl
  · rfl

/-- What one call with an argument in range leaves. -/
structure Stored (pkt after : List UInt8) (setter : SppSetter) : Prop where
  length : after.length = pkt.length
  rest : after.drop 6 = pkt.drop 6
  header : headerOf after = (headerOf pkt).effect setter

theorem version_field {v : UInt8} (hv : v ≤ 7) : (v <<< 5) &&& ~~~0xe0 = 0 ∧ (v <<< 5) >>> 5 = v := by
  revert v
  apply forall_byte
  decide +kernel

theorem flag_field {t : UInt8} (ht : t ≤ 1) :
    (t <<< 4) &&& ~~~0x10 = 0 ∧ (t <<< 4) >>> 4 = t ∧
      (t <<< 3) &&& ~~~0x0f = 0 ∧ ((t <<< 3) &&& 0x08) >>> 3 = t ∧ (t <<< 3) &&& 0x07 = 0 := by
  revert t
  apply forall_byte
  decide +kernel

theorem seq_flags_field {t : UInt8} (ht : t ≤ 3) : (t <<< 6) &&& ~~~0xc0 = 0 ∧ (t <<< 6) >>> 6 = t := by
  revert t
  apply forall_byte
  decide +kernel

theorem stored_version {pkt : List UInt8} (hlen : 6 ≤ pkt.length) {v : UInt8} (hv : v ≤ 7) :
    Stored pkt (pkt.set 0 (put 0xe0 (v <<< 5) (byteAt pkt 0))) (.pkt_version v) := by
  have h0 : 0 < pkt.length := by omega
  obtain ⟨hwithin, hback⟩ := version_field hv
  have hsame := put_and_same (byteAt pkt 0) hwithin
  have htype := @put_and_other 0xe0 0x10 _ (byteAt pkt 0) hwithin rfl
  have hflag := @put_and_other 0xe0 0x08 _ (byteAt pkt 0) hwithin rfl
  have hapid := @put_and_other 0xe0 0x07 _ (byteAt pkt 0) hwithin rfl
  refine ⟨by simp, by rw [List.drop_set_of_lt (by omega)], ?_⟩
  simp [headerOf, byteAt_set h0, SppHeader.effect, SppHeader.give, hsame, hback, htype, hflag, hapid]

theorem stored_type {pkt : List UInt8} (hlen : 6 ≤ pkt.length) {t : UInt8} (ht : t ≤ 1) :
    Stored pkt (pkt.set 0 (put 0x10 (t <<< 4) (byteAt pkt 0))) (.pkt_type t) := by
  have h0 : 0 < pkt.length := by omega
  obtain ⟨hwithin, hback, _⟩ := flag_field ht
  have hsame := put_and_same (byteAt pkt 0) hwithin
  have hversion := @put_and_other 0x10 0xe0 _ (byteAt pkt 0) hwithin rfl
  have hflag := @put_and_other 0x10 0x08 _ (byteAt pkt 0) hwithin rfl
  have hapid := @put_and_other 0x10 0x07 _ (byteAt pkt 0) hwithin rfl
  refine ⟨by simp, by rw [List.drop_set_of_lt (by omega)], ?_⟩
  simp [headerOf, byteAt_set h0, SppHeader.effect, SppHeader.give, hsame, hback, hversion, hflag, hapid]

theorem be16_low_byte (b0 b1 : UInt8) : be16 b0 b1 &&& 0xff = be16 0 b1 := by
  have h1 := b1.toNat_lt
  apply UInt16.toNat_inj.mp
  rw [UInt16.toNat_and, toNat_be16, toNat_be16]
  change (b0.toNat * 2 ^ 8 + b1.toNat) &&& (2 ^ 8 - 1) = _
  rw [Nat.and_two_pow_sub_one_eq_mod]
  change _ = 0 * 2 ^ 8 + b1.toNat
  omega

/-- The flag takes the upper bits of the application id with it. -/
theorem stored_flag {pkt : List UInt8} (hlen : 6 ≤ pkt.length) {t : UInt8} (ht : t ≤ 1) :
    Stored pkt (pkt.set 0 (put 0x0f (t <<< 3) (byteAt pkt 0))) (.sec_hdr_flag t) := by
  have h0 : 0 < pkt.length := by omega
  obtain ⟨_, _, hwithin, hback, hclear⟩ := flag_field ht
  have hversion := @put_and_other 0x0f 0xe0 _ (byteAt pkt 0) hwithin rfl
  have htype := @put_and_other 0x0f 0x10 _ (byteAt pkt 0) hwithin rfl
  have hflag := @put_and_inside 0x0f 0x08 (t <<< 3) (byteAt pkt 0) rfl
  have hapid := @put_and_inside 0x0f 0x07 (t <<< 3) (byteAt pkt 0) rfl
  refine ⟨by simp, by rw [List.drop_set_of_lt (by omega)], ?_⟩
  simp [headerOf, byteAt_set h0, SppHeader.effect, be16_low_byte, hback, hversion, htype, hflag, hapid, hclear]

theorem stored_seq_flags {pkt : List UInt8} (hlen : 6 ≤ pkt.length) {t : UInt8} (ht : t ≤ 3) :
    Stored pkt (pkt.set 2 (put 0xc0 (t <<< 6) (byteAt pkt 2))) (.seq_flags t) := by
  have h2 : 2 < pkt.length := by omega
  obtain ⟨hwithin, hback⟩ := seq_flags_field ht
  have hsame := put_and_same (byteAt pkt 2) hwithin
  have hcnt := @put_and_other 0xc0 0x3f _ (byteAt pkt 2) hwithin rfl
  refine ⟨by simp, by rw [List.drop_set_of_lt (by omega)], ?_⟩
  simp [headerOf, byteAt_set h2, SppHeader.effect, SppHeader.give, hsame, hback, hcnt]

/-- The upper byte of a number that the masked field can hold is within the
mask. -/
theorem upper_field {x : UInt16} {mask : UInt8} {bits : Nat} (hmask : mask.toNat = 2 ^ bits - 1)
    (hx : x.toNat < 2 ^ bits * 2 ^ 8) :
    ((x >>> 8) &&& mask.toUInt16).toUInt8 = (x >>> 8).toUInt8 ∧ (x >>> 8).toUInt8 &&& ~~~mask = 0 := by
  have hupper : x.toNat / 2 ^ 8 < 2 ^ bits := Nat.div_lt_of_lt_mul (by rwa [Nat.mul_comm])
  have hbyte : (x >>> 8).toUInt8.toNat = x.toNat / 2 ^ 8 := by
    have hlt := x.toNat_lt
    rw [toNat_byte16]
    omega
  constructor
  · apply UInt8.toNat_inj.mp
    rw [UInt16.toUInt8_and, UInt8.toUInt8_toUInt16, UInt8.toNat_and, hbyte, hmask,
      Nat.and_two_pow_sub_one_eq_mod, Nat.mod_eq_of_lt hupper]
  · apply eq_of_bits
    intro i hi
    have hmaskbit : mask.toBitVec.getLsbD i = decide (i < bits) := by
      rw [← BitVec.testBit_toNat, UInt8.toNat_toBitVec, hmask, Nat.testBit_two_pow_sub_one]
    have hupperbit : bits ≤ i → (x >>> 8).toUInt8.toBitVec.getLsbD i = false := by
      intro hle
      rw [← BitVec.testBit_toNat, UInt8.toNat_toBitVec, hbyte]
      exact Nat.testBit_lt_two_pow (Nat.lt_of_lt_of_le hupper (Nat.pow_le_pow_right (by omega) hle))
    rw [UInt8.toBitVec_and, BitVec.getLsbD_and, UInt8.toBitVec_not, BitVec.getLsbD_not, hmaskbit]
    by_cases h : i < bits
    · simp [h]
    · rw [hupperbit (by omega)]
      simp

theorem stored_apid {pkt : List UInt8} (hlen : 6 ≤ pkt.length) {a : UInt16} (ha : a ≤ 2047) :
    Stored pkt ((pkt.set 0 (put 0x07 (a >>> 8).toUInt8 (byteAt pkt 0))).set 1 a.toUInt8) (.apid a) := by
  have h0 : 0 < pkt.length := by omega
  have h1 : 1 < (pkt.set 0 (put 0x07 (a >>> 8).toUInt8 (byteAt pkt 0))).length := by
    rw [List.length_set]
    omega
  have hrange : a.toNat < 2 ^ 3 * 2 ^ 8 := Nat.lt_succ_of_le ha
  obtain ⟨_, hwithin⟩ := @upper_field a 0x07 3 rfl hrange
  have hsame := put_and_same (byteAt pkt 0) hwithin
  have hversion := @put_and_other 0x07 0xe0 _ (byteAt pkt 0) hwithin rfl
  have htype := @put_and_other 0x07 0x10 _ (byteAt pkt 0) hwithin rfl
  have hflag := @put_and_other 0x07 0x08 _ (byteAt pkt 0) hwithin rfl
  refine ⟨by simp, by rw [List.drop_set_of_lt (by omega), List.drop_set_of_lt (by omega)], ?_⟩
  simp [headerOf, byteAt_set h0, byteAt_set h1, SppHeader.effect, SppHeader.give, hsame, hversion, htype, hflag]

theorem stored_seq_cnt {pkt : List UInt8} (hlen : 6 ≤ pkt.length) {c : UInt16} (hc : c ≤ 16383) :
    Stored pkt ((pkt.set 2 (put 0x3f (c >>> 8).toUInt8 (byteAt pkt 2))).set 3 c.toUInt8) (.seq_cnt c) := by
  have h2 : 2 < pkt.length := by omega
  have h3 : 3 < (pkt.set 2 (put 0x3f (c >>> 8).toUInt8 (byteAt pkt 2))).length := by
    rw [List.length_set]
    omega
  have hrange : c.toNat < 2 ^ 6 * 2 ^ 8 := Nat.lt_succ_of_le hc
  obtain ⟨_, hwithin⟩ := @upper_field c 0x3f 6 rfl hrange
  have hsame := put_and_same (byteAt pkt 2) hwithin
  have hflags := @put_and_other 0x3f 0xc0 _ (byteAt pkt 2) hwithin rfl
  refine ⟨by simp, by rw [List.drop_set_of_lt (by omega), List.drop_set_of_lt (by omega)], ?_⟩
  simp [headerOf, byteAt_set h2, byteAt_set h3, SppHeader.effect, SppHeader.give, hsame, hflags]

theorem stored_data_len {pkt : List UInt8} (hlen : 6 ≤ pkt.length) (len : UInt16) :
    Stored pkt ((pkt.set 4 ((len - 1) >>> 8).toUInt8).set 5 (len - 1).toUInt8) (.data_len len) := by
  have hfield : len - 1 + 1 = len := UInt16.sub_add_cancel len 1
  generalize len - 1 = field at hfield ⊢
  have h4 : 4 < pkt.length := by omega
  have h5 : 5 < (pkt.set 4 (field >>> 8).toUInt8).length := by
    rw [List.length_set]
    omega
  refine ⟨by simp, by rw [List.drop_set_of_lt (by omega), List.drop_set_of_lt (by omega)], ?_⟩
  simp [headerOf, byteAt_set h4, byteAt_set h5, SppHeader.effect, SppHeader.give, hfield]

theorem normalized_flag {t : UInt8} (ht : t ≤ 1) : (if t ≠ 0 then 1 else t) = t := by
  revert t
  apply forall_byte
  decide +kernel

/-- A setter of one masked byte on a packet that has it. -/
theorem update_masked {pkt : List UInt8} {off : Nat} (hoff : off < pkt.length) (mask bits : UInt8) :
    update_unless_null (some pkt) (fun pkt => set_masked pkt off mask bits) =
      .ok (some (pkt.set off (put mask bits (byteAt pkt off)))) := by
  rw [update_unless_null, set_masked_ok hoff]
  rfl

theorem wr_ok {pkt : List UInt8} {i : Nat} (hi : i < pkt.length) (b : UInt8) : wr pkt i b = .ok (pkt.set i b) :=
  if_pos hi

/-- Every setter with an argument in range stores it, and the flag takes the
upper bits of the application id with it. -/
theorem call_stored {pkt : List UInt8} (hlen : 6 ≤ pkt.length) {setter : SppSetter} (hrange : setter.InRange) :
    ∃ after, setter.call (some pkt) = .ok (some after) ∧ Stored pkt after setter := by
  have h0 : 0 < pkt.length := by omega
  have h2 : 2 < pkt.length := by omega
  cases setter with
  | pkt_version v => exact ⟨_, update_masked h0 _ _, stored_version hlen hrange⟩
  | pkt_type t =>
    refine ⟨_, ?_, stored_type hlen hrange⟩
    rw [SppSetter.call, ccsds_set_pkt_type, normalized_flag hrange]
    exact update_masked h0 _ _
  | sec_hdr_flag t =>
    refine ⟨_, ?_, stored_flag hlen hrange⟩
    rw [SppSetter.call, ccsds_set_2nd_hdr_flag, normalized_flag hrange]
    exact update_masked h0 _ _
  | apid a =>
    refine ⟨_, ?_, stored_apid hlen hrange⟩
    have hok : ¬ a > ((1 : UInt16) <<< 11) - 1 := UInt16.not_lt.mpr hrange
    have hupper := (@upper_field a 0x07 3 rfl (Nat.lt_succ_of_le hrange)).1
    rw [SppSetter.call, ccsds_set_apid, update_unless_null, if_neg hok, SPP_APID_OFFSET_1, set_masked_ok h0,
      bind_ok, SPP_APID_OFFSET_2, wr_ok (by rw [List.length_set]; omega), bind_ok, byte_of_low]
    exact congrArg (fun b => Except.ok (some ((pkt.set 0 (put 0x07 b (byteAt pkt 0))).set 1 a.toUInt8))) hupper
  | seq_flags t =>
    refine ⟨_, ?_, stored_seq_flags hlen hrange⟩
    have hok : ¬ t > SPP_SEQ_FLAG_UNSEG := UInt8.not_lt.mpr hrange
    rw [SppSetter.call, ccsds_set_seq_flags]
    simp only [if_neg hok]
    exact update_masked h2 _ _
  | seq_cnt c =>
    refine ⟨_, ?_, stored_seq_cnt hlen hrange⟩
    have hok : ¬ c > ((1 : UInt16) <<< 14) - 1 := UInt16.not_lt.mpr hrange
    have hupper := (@upper_field c 0x3f 6 rfl (Nat.lt_succ_of_le hrange)).1
    rw [SppSetter.call, ccsds_set_seq_cnt, update_unless_null, if_neg hok, SPP_SEQ_CNT_OFFSET_1, set_masked_ok h2,
      bind_ok, SPP_SEQ_CNT_OFFSET_2, wr_ok (by rw [List.length_set]; omega), bind_ok, byte_of_low]
    exact congrArg (fun b => Except.ok (some ((pkt.set 2 (put 0x3f b (byteAt pkt 2))).set 3 c.toUInt8))) hupper
  | data_len len =>
    refine ⟨_, ?_, stored_data_len hlen len⟩
    have h4 : 4 < pkt.length := by omega
    have h5 : 5 < (pkt.set 4 ((len - 1) >>> 8).toUInt8).length := by
      rw [List.length_set]
      omega
    simp only [SppSetter.call, ccsds_set_data_len, update_unless_null, SPP_LEN_HI_OFFSET, SPP_LEN_LO_OFFSET,
      wr_ok h4, bind_ok, wr_ok h5, byte_of_low]

/-- A run of calls keeps the bytes behind the header and applies the effects of
the setters one after the other. -/
theorem call_all_ok {pkt : List UInt8} (hlen : 6 ≤ pkt.length) {setters : List SppSetter}
    (hrange : ∀ setter ∈ setters, setter.InRange) :
    ∃ after, call_all (some pkt) setters = .ok (some after) ∧ after.length = pkt.length ∧
      after.drop 6 = pkt.drop 6 ∧ headerOf after = setters.foldl SppHeader.effect (headerOf pkt) := by
  induction setters generalizing pkt with
  | nil => exact ⟨pkt, rfl, rfl, rfl, rfl⟩
  | cons setter setters ih =>
    obtain ⟨next, hcall, hstored⟩ := call_stored hlen (hrange setter List.mem_cons_self)
    have hnext : 6 ≤ next.length := by
      rw [hstored.length]
      exact hlen
    obtain ⟨after, hrest, hafter, hdrop, hheader⟩ :=
      ih hnext fun s hs => hrange s (List.mem_cons_of_mem setter hs)
    refine ⟨after, ?_, ?_, ?_, ?_⟩
    · rw [call_all, hcall, bind_ok, hrest]
    · rw [hafter, hstored.length]
    · rw [hdrop, hstored.rest]
    · rw [hheader, hstored.header, List.foldl_cons]

/-- After the calls every getter gives what its own setter was given last, or
what it gave before, and the bytes behind the header are the same. -/
def FieldsIndependent (pkt : List UInt8) (setters : List SppSetter) : Prop :=
  ∀ before, get_header (some pkt) = .ok before →
    ∃ after, call_all (some pkt) setters = .ok (some after) ∧
      get_header (some after) = .ok (setters.foldl SppHeader.give before) ∧ after.drop 6 = pkt.drop 6

def SppSetter.newApid (apid : UInt16) : SppSetter → UInt16
  | .apid a => a
  | _ => apid

/-- The application id given last, or the one before the calls. -/
def lastApid (before : UInt16) (setters : List SppSetter) : UInt16 := setters.foldl SppSetter.newApid before

def SppSetter.flagBehind (behind : Bool) : SppSetter → Bool
  | .sec_hdr_flag _ => true
  | .apid _ => false
  | _ => behind

/-- The secondary header flag is set after the last application id, or with none
given. -/
def flagBehindApid (setters : List SppSetter) : Bool := setters.foldl SppSetter.flagBehind false

theorem lastApid_append (before : UInt16) (setters : List SppSetter) (setter : SppSetter) :
    lastApid before (setters ++ [setter]) = setter.newApid (lastApid before setters) := by
  simp [lastApid]

theorem flagBehindApid_append (setters : List SppSetter) (setter : SppSetter) :
    flagBehindApid (setters ++ [setter]) = setter.flagBehind (flagBehindApid setters) := by
  simp [flagBehindApid]

theorem cut_twice (cut : Bool) (a : UInt16) : (if cut then a &&& 0xff else a) &&& 0xff = a &&& 0xff := by
  cases cut with
  | false => rfl
  | true =>
    simp only [↓reduceIte]
    rw [UInt16.and_assoc, UInt16.and_self]

/-- The effects of a run: the application id is cut if the flag came behind it. -/
theorem foldl_effect (before : SppHeader) (setters : List SppSetter) :
    setters.foldl SppHeader.effect before =
      { setters.foldl SppHeader.give before with
        apid := if flagBehindApid setters then lastApid before.apid setters &&& 0xff
          else lastApid before.apid setters } := by
  induction setters using List.reverseRecOn with
  | nil => rfl
  | append_singleton setters setter ih =>
    rw [List.foldl_append, List.foldl_append, lastApid_append, flagBehindApid_append, List.foldl_cons,
      List.foldl_cons, List.foldl_nil, List.foldl_nil, ih]
    cases setter with
    | sec_hdr_flag t =>
      simp only [SppHeader.effect, SppHeader.give, SppSetter.newApid, SppSetter.flagBehind, cut_twice]
      rfl
    | _ => rfl

theorem lastApid_eq (before : SppHeader) (setters : List SppSetter) :
    (setters.foldl SppHeader.give before).apid = lastApid before.apid setters := by
  induction setters using List.reverseRecOn with
  | nil => rfl
  | append_singleton setters setter ih =>
    rw [lastApid_append, List.foldl_append, List.foldl_cons, List.foldl_nil]
    cases setter with
    | apid a => rfl
    | _ => exact ih

theorem and_byte_eq_iff (a : UInt16) : a &&& 0xff = a ↔ a < 256 := by
  have h : (a &&& 0xff).toNat = a.toNat % 2 ^ 8 := by
    rw [UInt16.toNat_and]
    exact Nat.and_two_pow_sub_one_eq_mod a.toNat 8
  rw [← UInt16.toNat_inj, h, UInt16.lt_iff_toNat_lt]
  change _ ↔ a.toNat < 256
  omega

/-- The fields are independent of each other in exactly the runs in which the
flag does not come behind an application id of more than a byte. -/
theorem spp_fields_independent_iff {pkt : List UInt8} (hlen : 6 ≤ pkt.length) {setters : List SppSetter}
    (hrange : ∀ setter ∈ setters, setter.InRange) {apid : UInt16} (hapid : ccsds_get_apid (some pkt) = .ok apid) :
    FieldsIndependent pkt setters ↔ flagBehindApid setters = false ∨ lastApid apid setters < 256 := by
  have hbefore : apid = (headerOf pkt).apid := by
    rw [get_apid_ok (by omega)] at hapid
    exact (Except.ok.inj hapid).symm
  obtain ⟨after, hcall, hafter, hdrop, hheader⟩ := call_all_ok hlen hrange
  rw [foldl_effect] at hheader
  have hsame : FieldsIndependent pkt setters ↔ headerOf after = setters.foldl SppHeader.give (headerOf pkt) := by
    constructor
    · intro h
      obtain ⟨after', hcall', hget, _⟩ := h _ (get_header_ok hlen)
      rw [hcall] at hcall'
      cases hcall'
      rw [get_header_ok (by omega)] at hget
      exact Except.ok.inj hget
    · intro h before hget
      rw [get_header_ok hlen] at hget
      cases hget
      exact ⟨after, hcall, by rw [get_header_ok (by omega), h], hdrop⟩
  rw [hsame, hheader, hbefore]
  cases hflag : flagBehindApid setters with
  | false =>
    simp [← lastApid_eq]
  | true =>
    rw [← and_byte_eq_iff, ← lastApid_eq]
    simp only [↓reduceIte, Bool.true_eq_false, false_or]
    constructor
    · intro h
      exact congrArg SppHeader.apid h
    · intro h
      rw [h]

/-- The flag is set first and the application id behind it. -/
theorem spp_fields_independent_iff_flag_first :
    FieldsIndependent [0x01, 0x23, 0x00, 0x00, 0x00, 0x00] [.sec_hdr_flag 1, .apid 0x345] := by
  have hrange : ∀ setter ∈ [SppSetter.sec_hdr_flag 1, .apid 0x345], setter.InRange := by
    simp only [List.mem_cons, List.not_mem_nil, or_false, forall_eq_or_imp, forall_eq, SppSetter.InRange]
    decide
  exact (spp_fields_independent_iff (by decide) hrange rfl).mpr (Or.inl rfl)

/-- Setting the flag of a packet with application id 0x123 leaves 0x023. -/
theorem not_spp_fields_independent :
    6 ≤ [0x01, 0x23, 0x00, 0x00, 0x00, 0x00].length ∧
      (∀ setter ∈ [SppSetter.sec_hdr_flag 1], setter.InRange) ∧
      ¬ FieldsIndependent [0x01, 0x23, 0x00, 0x00, 0x00, 0x00] [.sec_hdr_flag 1] := by
  refine ⟨by decide, ?_, ?_⟩
  · simp only [List.mem_cons, List.not_mem_nil, or_false, forall_eq, SppSetter.InRange]
    decide
  · intro h
    obtain ⟨after, hcall, hget, _⟩ := h ⟨0, 0, 0, 0x123, 0, 0, 1⟩ (by decide)
    have hafter : after = [0x08, 0x23, 0x00, 0x00, 0x00, 0x00] := by
      have hrun : call_all (some [0x01, 0x23, 0x00, 0x00, 0x00, 0x00]) [.sec_hdr_flag 1] =
          .ok (some [0x08, 0x23, 0x00, 0x00, 0x00, 0x00]) := by decide
      rw [hrun] at hcall
      exact (Option.some.inj (Except.ok.inj hcall)).symm
    subst hafter
    revert hget
    decide

end spw_bridge.ecss
