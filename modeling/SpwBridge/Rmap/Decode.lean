import SpwBridge.Rmap.Header

open words

namespace spw_bridge.rmap

def RMAP_DEST_ADDRESS : Nat := 0x00
def RMAP_PROTOCOL_ID_OFFSET : Nat := 0x01
def RMAP_INSTRUCTION : Nat := 0x02
def RMAP_CMD_DESTKEY : Nat := 0x03
def RMAP_REPLY_ADDR_START : Nat := 0x04
def RMAP_SRC_ADDR : Nat := 0x04
def RMAP_TRANS_ID_BYTE0 : Nat := 0x05
def RMAP_TRANS_ID_BYTE1 : Nat := 0x06
def RMAP_ADDR_BYTE0 : Nat := 0x08
def RMAP_ADDR_BYTE1 : Nat := 0x09
def RMAP_ADDR_BYTE2 : Nat := 0x0a
def RMAP_ADDR_BYTE3 : Nat := 0x0b
def RMAP_DATALEN_BYTE0 : Nat := 0x08
def RMAP_DATALEN_BYTE1 : Nat := 0x09
def RMAP_DATALEN_BYTE2 : Nat := 0x0a
def RMAP_HEADER_CRC : Nat := 0x0b
def RMAP_DATA_START : Nat := 0x0c

/-- The outcomes of the decoder's allocations: the packet, its reply path and
its data. -/
structure Alloc where
  pkt : Bool
  rpath : Bool
  data : Bool
  deriving DecidableEq, Repr

def Alloc.success : Alloc := ⟨true, true, true⟩

/-- `if (len > i) field = buf[i];` for a field that otherwise keeps its value. -/
def rd_if_present (buf : List UInt8) (i : Nat) (field : UInt8) : Except Fault UInt8 :=
  if buf.length > i then rd buf i else .ok field

/-- The decoder from the header CRC on; `n` is the skip over the reply path and
the address. -/
def rmap_pkt_data (alloc : Alloc) (buf : List UInt8) (pkt : RmapPkt) (n : Nat) :
    Except Fault (Option RmapPkt) := do
  let hdr_crc ← rd_if_present buf RMAP_HEADER_CRC pkt.hdr_crc
  let pkt := { pkt with hdr_crc }
  if pkt.data_len = 0 then .ok (some pkt)
  else if buf.length < RMAP_DATA_START + n + pkt.data_len.toNat then .ok none
  else if !alloc.data then .ok none
  else do
    let len := pkt.data_len.toNat
    let data ← copy_loop (List.replicate len 0) 0 buf (RMAP_DATA_START + n) len
    let data_crc ← rd_if_present buf (RMAP_DATA_START + n + len) pkt.data_crc
    .ok (some { pkt with data := some data, data_crc })

/-- The decoder from the data length on, which write replies do not have. -/
def rmap_pkt_data_len (alloc : Alloc) (buf : List UInt8) (pkt : RmapPkt) (n : Nat) :
    Except Fault (Option RmapPkt) :=
  if !(!pkt.ri.cmd_resp && pkt.ri.writeBit) then do
    let b0 ← rd buf (RMAP_DATALEN_BYTE0 + n)
    let b1 ← rd buf (RMAP_DATALEN_BYTE1 + n)
    let b2 ← rd buf (RMAP_DATALEN_BYTE2 + n)
    rmap_pkt_data alloc buf { pkt with data_len := be24 b0 b1 b2 } n
  else rmap_pkt_data alloc buf pkt n

/-- The decoder from the source address on; `n` is the skip over the reply
path. Only commands carry an address. -/
def rmap_pkt_src (alloc : Alloc) (buf : List UInt8) (pkt : RmapPkt) (n : Nat) :
    Except Fault (Option RmapPkt) := do
  let src ← rd buf (RMAP_SRC_ADDR + n)
  let id0 ← rd buf (RMAP_TRANS_ID_BYTE0 + n)
  let id1 ← rd buf (RMAP_TRANS_ID_BYTE1 + n)
  let pkt := { pkt with src, tr_id := be16 id0 id1 }
  if pkt.ri.cmd_resp then do
    let a0 ← rd buf (RMAP_ADDR_BYTE0 + n)
    let a1 ← rd buf (RMAP_ADDR_BYTE1 + n)
    let a2 ← rd buf (RMAP_ADDR_BYTE2 + n)
    let a3 ← rd buf (RMAP_ADDR_BYTE3 + n)
    rmap_pkt_data_len alloc buf { pkt with addr := be32 a0 a1 a2 a3 } (n + 4)
  else rmap_pkt_data_len alloc buf pkt n

/-- The decoder from the header size check on. Only commands carry a reply
path. -/
def rmap_pkt_rpath (alloc : Alloc) (buf : List UInt8) (pkt : RmapPkt) : Except Fault (Option RmapPkt) :=
  let min_hdr_size := rmap_get_min_hdr_size pkt
  if min_hdr_size < 0 then .ok none
  else if buf.length < min_hdr_size.toNat then .ok none
  else if pkt.ri.cmd_resp then
    let rpath_len := pkt.ri.reply_addr_len.toNat <<< 2
    if buf.length < min_hdr_size.toNat + rpath_len then .ok none
    else if !alloc.rpath then .ok none
    else do
      let rpath ← copy_loop (List.replicate rpath_len 0) 0 buf RMAP_REPLY_ADDR_START rpath_len
      rmap_pkt_src alloc buf { pkt with rpath := some rpath, rpath_len } rpath_len
  else rmap_pkt_src alloc buf pkt 0

/-- Create a packet from a buffer that starts at the target logical address.
`none` is the null pointer of the error path. -/
def rmap_pkt_from_buffer (alloc : Alloc) (buf : List UInt8) : Except Fault (Option RmapPkt) :=
  if buf.length < RMAP_HDR_MIN_SIZE_WRITE_REP then .ok none
  else do
    let proto_id ← rd buf RMAP_PROTOCOL_ID_OFFSET
    if proto_id ≠ RMAP_PROTOCOL_ID then .ok none
    else if !alloc.pkt then .ok none
    else do
      let dst ← rd buf RMAP_DEST_ADDRESS
      let instruction ← rd buf RMAP_INSTRUCTION
      let key ← rd buf RMAP_CMD_DESTKEY
      rmap_pkt_rpath alloc buf { rmap_create_packet with dst, proto_id, ri := .ofUInt8 instruction, key }

/-! ### What the decoder computes

The decoder tests the length of the buffer before every group of reads. Its
result is a function of the packet kind, which the instruction byte fixes. -/

/-- The instruction bit-field of the packet in `buf`. -/
def bufRi (buf : List UInt8) : RmapInstruction := .ofUInt8 (byteAt buf RMAP_INSTRUCTION)

/-- The bytes of the reply path that the decoder skips: replies carry none,
whatever their address length bits say. -/
def RmapInstruction.replyPathLen (ri : RmapInstruction) : Nat :=
  if ri.cmd_resp then ri.reply_addr_len.toNat * 4 else 0

/-- The header size without the header CRC. -/
def RmapInstruction.hdrSize (ri : RmapInstruction) : Nat := ri.minHdrSize + ri.replyPathLen

/-- All headers have a length field unless they are a write reply. -/
def RmapInstruction.hasLength (ri : RmapInstruction) : Bool := ri.cmd_resp || !ri.writeBit

/-- The data length announced by the packet in `buf`. The field is the last one
of the header. -/
def bufDataLen (buf : List UInt8) : UInt32 :=
  if (bufRi buf).hasLength then
    be24 (byteAt buf ((bufRi buf).hdrSize - 3)) (byteAt buf ((bufRi buf).hdrSize - 2))
      (byteAt buf ((bufRi buf).hdrSize - 1))
  else 0

/-- The packet that the decoder builds from `buf`. -/
def bufPkt (buf : List UInt8) : RmapPkt where
  path := none
  path_len := 0
  dst := byteAt buf 0
  proto_id := byteAt buf 1
  ri := bufRi buf
  key := byteAt buf 3
  src := byteAt buf (4 + (bufRi buf).replyPathLen)
  rpath := if (bufRi buf).cmd_resp then some ((buf.drop 4).take (bufRi buf).replyPathLen) else none
  rpath_len := (bufRi buf).replyPathLen
  tr_id := be16 (byteAt buf (5 + (bufRi buf).replyPathLen)) (byteAt buf (6 + (bufRi buf).replyPathLen))
  addr :=
    if (bufRi buf).cmd_resp then
      be32 (byteAt buf (8 + (bufRi buf).replyPathLen)) (byteAt buf (9 + (bufRi buf).replyPathLen))
        (byteAt buf (10 + (bufRi buf).replyPathLen)) (byteAt buf (11 + (bufRi buf).replyPathLen))
    else 0
  data :=
    if bufDataLen buf = 0 then none
    else some ((buf.drop ((bufRi buf).hdrSize + 1)).take (bufDataLen buf).toNat)
  data_len := bufDataLen buf
  hdr_crc := if buf.length > 11 then byteAt buf 11 else 0
  data_crc :=
    if bufDataLen buf ≠ 0 ∧ buf.length > (bufRi buf).hdrSize + 1 + (bufDataLen buf).toNat
    then byteAt buf ((bufRi buf).hdrSize + 1 + (bufDataLen buf).toNat) else 0

/-- The buffers that pass the checks up to the reply path: the whole header is
inside the buffer then. -/
structure HeaderAccepted (alloc : Alloc) (buf : List UInt8) : Prop where
  known : (bufRi buf).knownCmd
  proto : byteAt buf 1 = RMAP_PROTOCOL_ID
  header : (bufRi buf).hdrSize ≤ buf.length
  allocPkt : alloc.pkt
  allocRpath : (bufRi buf).cmd_resp → alloc.rpath

/-- The buffers that the decoder accepts. A non-zero length field must be
covered by the buffer, for whatever kind of packet. -/
structure Accepts (alloc : Alloc) (buf : List UInt8) : Prop extends HeaderAccepted alloc buf where
  data : bufDataLen buf ≠ 0 → (bufRi buf).hdrSize + 1 + (bufDataLen buf).toNat ≤ buf.length
  allocData : bufDataLen buf ≠ 0 → alloc.data

theorem RmapInstruction.minHdrSize_ge (ri : RmapInstruction) : 7 ≤ ri.minHdrSize := by
  unfold RmapInstruction.minHdrSize
  cases ri.cmd_resp <;> cases ri.writeBit <;> simp

theorem rd_if_present_eq (buf : List UInt8) (i : Nat) (field : UInt8) :
    rd_if_present buf i field = .ok (if buf.length > i then byteAt buf i else field) := by
  by_cases h : buf.length > i
  · rw [rd_if_present, if_pos h, if_pos h, rd_ok h]
  · rw [rd_if_present, if_neg h, if_neg h]

theorem rmap_pkt_data_eq (alloc : Alloc) (buf : List UInt8) (pkt : RmapPkt) (n : Nat) :
    rmap_pkt_data alloc buf pkt n =
      .ok (if pkt.data_len ≠ 0 ∧ (buf.length < 12 + n + pkt.data_len.toNat ∨ alloc.data = false) then none
        else some { pkt with
          hdr_crc := if buf.length > 11 then byteAt buf 11 else pkt.hdr_crc
          data := if pkt.data_len = 0 then pkt.data
            else some ((buf.drop (12 + n)).take pkt.data_len.toNat)
          data_crc := if pkt.data_len ≠ 0 ∧ buf.length > 12 + n + pkt.data_len.toNat
            then byteAt buf (12 + n + pkt.data_len.toNat) else pkt.data_crc }) := by
  simp only [rmap_pkt_data, RMAP_HEADER_CRC, RMAP_DATA_START, rd_if_present_eq, bind_ok]
  by_cases hzero : pkt.data_len = 0
  · simp [hzero]
  · rw [if_neg hzero]
    by_cases hshort : buf.length < 12 + n + pkt.data_len.toNat
    · simp [hzero, hshort]
    · cases halloc : alloc.data with
      | false => simp [hzero]
      | true =>
        have hroom : 12 + n + pkt.data_len.toNat ≤ buf.length := Nat.le_of_not_lt hshort
        simp [hzero, hshort, copy_loop_fresh hroom]

/-- With the header inside the buffer every field read succeeds. The length
field ends the header, also behind a reply path. -/
theorem rmap_pkt_src_eq {alloc : Alloc} {buf : List UInt8} {pkt : RmapPkt} {n : Nat}
    (hlen : pkt.ri.minHdrSize + n ≤ buf.length) :
    rmap_pkt_src alloc buf pkt n =
      rmap_pkt_data alloc buf { pkt with
        src := byteAt buf (4 + n)
        tr_id := be16 (byteAt buf (5 + n)) (byteAt buf (6 + n))
        addr := if pkt.ri.cmd_resp then
            be32 (byteAt buf (8 + n)) (byteAt buf (9 + n)) (byteAt buf (10 + n)) (byteAt buf (11 + n))
          else pkt.addr
        data_len := if pkt.ri.hasLength then
            be24 (byteAt buf (pkt.ri.minHdrSize + n - 3)) (byteAt buf (pkt.ri.minHdrSize + n - 2))
              (byteAt buf (pkt.ri.minHdrSize + n - 1))
          else pkt.data_len } (if pkt.ri.cmd_resp then n + 4 else n) := by
  have hmin := pkt.ri.minHdrSize_ge
  simp (disch := omega) only [rmap_pkt_src, rmap_pkt_data_len, RMAP_SRC_ADDR, RMAP_TRANS_ID_BYTE0,
    RMAP_TRANS_ID_BYTE1, RMAP_ADDR_BYTE0, RMAP_ADDR_BYTE1, RMAP_ADDR_BYTE2, RMAP_ADDR_BYTE3, RMAP_DATALEN_BYTE0,
    RMAP_DATALEN_BYTE1, RMAP_DATALEN_BYTE2, RmapInstruction.hasLength, rd_ok, bind_ok]
  unfold RmapInstruction.minHdrSize at hlen ⊢
  by_cases hresp : pkt.ri.cmd_resp = true
  · simp only [hresp, ↓reduceIte] at hlen
    have hfield : 15 + n - 3 = 8 + (n + 4) ∧ 15 + n - 2 = 9 + (n + 4) ∧ 15 + n - 1 = 10 + (n + 4) := by omega
    simp (disch := omega) only [hresp, ↓reduceIte, Bool.not_true, Bool.false_and, Bool.not_false, Bool.true_or,
      rd_ok, bind_ok, hfield]
  · rw [Bool.not_eq_true] at hresp
    by_cases hwrite : pkt.ri.writeBit = true
    · simp [hresp, hwrite]
    · rw [Bool.not_eq_true] at hwrite
      simp only [hresp, hwrite, Bool.false_eq_true, ↓reduceIte] at hlen
      have hfield : 11 + n - 3 = 8 + n ∧ 11 + n - 2 = 9 + n ∧ 11 + n - 1 = 10 + n := by omega
      simp (disch := omega) only [hresp, hwrite, Bool.false_eq_true, ↓reduceIte, Bool.not_false, Bool.and_false,
        Bool.false_or, rd_ok, bind_ok, hfield]

/-- The data field starts one byte behind the header, which is where the
decoder's running skip points. -/
theorem RmapInstruction.data_start {ri : RmapInstruction} (hlength : ri.hasLength) :
    12 + (if ri.cmd_resp then ri.replyPathLen + 4 else ri.replyPathLen) = ri.hdrSize + 1 := by
  unfold RmapInstruction.hdrSize RmapInstruction.minHdrSize
  cases hresp : ri.cmd_resp with
  | true => simp; omega
  | false =>
    have hwrite : ri.writeBit = false := by simpa [RmapInstruction.hasLength, hresp] using hlength
    simp [hwrite, RmapInstruction.replyPathLen, hresp]

theorem bufDataLen_eq_zero {buf : List UInt8} (hlength : ¬ (bufRi buf).hasLength) : bufDataLen buf = 0 := by
  simp [bufDataLen, hlength]

/-- Passing the size checks means that the whole header is inside the buffer. -/
theorem rmap_pkt_rpath_eq {alloc : Alloc} {buf : List UInt8} {pkt : RmapPkt}
    (hknown : pkt.ri.knownCmd) (hheader : pkt.ri.hdrSize ≤ buf.length)
    (halloc : pkt.ri.cmd_resp → alloc.rpath) :
    rmap_pkt_rpath alloc buf pkt =
      rmap_pkt_src alloc buf { pkt with
        rpath := if pkt.ri.cmd_resp then some ((buf.drop 4).take pkt.ri.replyPathLen) else pkt.rpath
        rpath_len := if pkt.ri.cmd_resp then pkt.ri.replyPathLen else pkt.rpath_len } pkt.ri.replyPathLen := by
  have hmin := pkt.ri.minHdrSize_ge
  simp only [RmapInstruction.hdrSize] at hheader
  have hnonneg : ¬ (pkt.ri.minHdrSize : Int) < 0 := by omega
  have hcovered : ¬ buf.length < pkt.ri.minHdrSize := by omega
  simp only [rmap_pkt_rpath, rmap_get_min_hdr_size_eq, hknown, ↓reduceIte, RMAP_REPLY_ADDR_START,
    Int.toNat_natCast, if_neg hnonneg, if_neg hcovered]
  by_cases hresp : pkt.ri.cmd_resp = true
  · have hskip : pkt.ri.reply_addr_len.toNat <<< 2 = pkt.ri.replyPathLen := by
      simp [RmapInstruction.replyPathLen, hresp, Nat.shiftLeft_eq]
    have hsize : pkt.ri.minHdrSize = 15 := by simp [RmapInstruction.minHdrSize, hresp]
    have hcovered : ¬ buf.length < pkt.ri.minHdrSize + pkt.ri.replyPathLen := by omega
    have hroom : 4 + pkt.ri.replyPathLen ≤ buf.length := by omega
    simp only [hresp, ↓reduceIte, hskip, halloc hresp, Bool.not_true, Bool.false_eq_true, if_neg hcovered,
      copy_loop_fresh hroom, bind_ok]
  · simp [hresp, RmapInstruction.replyPathLen]

theorem rmap_pkt_rpath_none {alloc : Alloc} {buf : List UInt8} {pkt : RmapPkt}
    (h : ¬ (pkt.ri.knownCmd ∧ pkt.ri.hdrSize ≤ buf.length ∧ (pkt.ri.cmd_resp → alloc.rpath))) :
    rmap_pkt_rpath alloc buf pkt = .ok none := by
  have hmin := pkt.ri.minHdrSize_ge
  simp only [rmap_pkt_rpath, rmap_get_min_hdr_size_eq, RMAP_REPLY_ADDR_START]
  by_cases hknown : pkt.ri.knownCmd = true
  · have hnonneg : ¬ (pkt.ri.minHdrSize : Int) < 0 := by omega
    simp only [hknown, ↓reduceIte, Int.toNat_natCast, if_neg hnonneg]
    by_cases hshort : buf.length < pkt.ri.minHdrSize
    · rw [if_pos hshort]
    · have hresp : pkt.ri.cmd_resp = true := by
        by_contra hreply
        apply h
        refine ⟨hknown, ?_, fun hcmd => absurd hcmd hreply⟩
        simp only [RmapInstruction.hdrSize, RmapInstruction.replyPathLen, if_neg hreply]
        omega
      have hskip : pkt.ri.reply_addr_len.toNat <<< 2 = pkt.ri.replyPathLen := by
        simp [RmapInstruction.replyPathLen, hresp, Nat.shiftLeft_eq]
      simp only [if_neg hshort, hresp, ↓reduceIte, hskip]
      by_cases hlong : buf.length < pkt.ri.minHdrSize + pkt.ri.replyPathLen
      · rw [if_pos hlong]
      · cases halloc : alloc.rpath with
        | false => simp
        | true => exact absurd ⟨hknown, by simpa [RmapInstruction.hdrSize] using hlong, fun _ => halloc⟩ h
  · simp [hknown]

/-- With the header inside the buffer, only a length field that the buffer does
not cover and a failed allocation are left to refuse it. -/
theorem rmap_pkt_from_buffer_eq {alloc : Alloc} {buf : List UInt8} (h : HeaderAccepted alloc buf) :
    rmap_pkt_from_buffer alloc buf =
      .ok (if bufDataLen buf ≠ 0 ∧
          (buf.length < (bufRi buf).hdrSize + 1 + (bufDataLen buf).toNat ∨ alloc.data = false) then none
        else some (bufPkt buf)) := by
  obtain ⟨hknown, hproto, hheader, hpkt, hrpath⟩ := h
  have hmin := (bufRi buf).minHdrSize_ge
  have hlen : 7 ≤ buf.length := by
    simp only [RmapInstruction.hdrSize] at hheader
    omega
  simp (disch := omega) only [rmap_pkt_from_buffer, RMAP_HDR_MIN_SIZE_WRITE_REP, RMAP_PROTOCOL_ID_OFFSET,
    RMAP_DEST_ADDRESS, RMAP_INSTRUCTION, RMAP_CMD_DESTKEY, if_neg (Nat.not_lt_of_le hlen), rd_ok, bind_ok, hproto,
    hpkt, ne_eq, not_true_eq_false, Bool.not_true, Bool.false_eq_true, ↓reduceIte]
  change rmap_pkt_rpath alloc buf { rmap_create_packet with
    dst := byteAt buf 0, proto_id := RMAP_PROTOCOL_ID, ri := bufRi buf, key := byteAt buf 3 } = _
  rw [rmap_pkt_rpath_eq hknown hheader hrpath, rmap_pkt_src_eq hheader, rmap_pkt_data_eq]
  have hpath : (if (bufRi buf).cmd_resp = true then (bufRi buf).replyPathLen else 0) =
      (bufRi buf).replyPathLen := by
    by_cases hresp : (bufRi buf).cmd_resp = true <;> simp [RmapInstruction.replyPathLen, hresp]
  by_cases hlength : (bufRi buf).hasLength = true
  · have hstart := RmapInstruction.data_start hlength
    have hfield : be24 (byteAt buf ((bufRi buf).minHdrSize + (bufRi buf).replyPathLen - 3))
        (byteAt buf ((bufRi buf).minHdrSize + (bufRi buf).replyPathLen - 2))
        (byteAt buf ((bufRi buf).minHdrSize + (bufRi buf).replyPathLen - 1)) = bufDataLen buf := by
      simp [bufDataLen, hlength, RmapInstruction.hdrSize]
    simp only [hlength, ↓reduceIte, hstart, hfield, rmap_create_packet, hpath, bufPkt, hproto]
  · have hzero := bufDataLen_eq_zero hlength
    simp [hlength, hzero, rmap_create_packet, hpath, bufPkt, hproto]

theorem rmap_pkt_from_buffer_none {alloc : Alloc} {buf : List UInt8} (h : ¬ HeaderAccepted alloc buf) :
    rmap_pkt_from_buffer alloc buf = .ok none := by
  by_cases hshort : buf.length < 7
  · simp [rmap_pkt_from_buffer, RMAP_HDR_MIN_SIZE_WRITE_REP, hshort]
  simp (disch := omega) only [rmap_pkt_from_buffer, RMAP_HDR_MIN_SIZE_WRITE_REP, RMAP_PROTOCOL_ID_OFFSET,
    RMAP_DEST_ADDRESS, RMAP_INSTRUCTION, RMAP_CMD_DESTKEY, if_neg hshort, rd_ok, bind_ok]
  by_cases hproto : byteAt buf 1 = RMAP_PROTOCOL_ID
  · cases hpkt : alloc.pkt with
    | false => simp [hproto]
    | true =>
      simp only [hproto, ne_eq, not_true_eq_false, Bool.not_true, Bool.false_eq_true, ↓reduceIte]
      apply rmap_pkt_rpath_none
      rintro ⟨hknown, hheader, hrpath⟩
      exact h ⟨hknown, hproto, hheader, hpkt, hrpath⟩
  · simp [hproto]

/-- The decoder reads nothing outside the buffer and writes nothing outside its
allocations: it returns a packet or the null pointer. -/
theorem rmap_pkt_from_buffer_total (alloc : Alloc) (buf : List UInt8) :
    ∃ result, rmap_pkt_from_buffer alloc buf = .ok result := by
  by_cases h : HeaderAccepted alloc buf
  · exact ⟨_, rmap_pkt_from_buffer_eq h⟩
  · exact ⟨none, rmap_pkt_from_buffer_none h⟩

/-- What the decoder accepts is exactly `Accepts`, and what it returns then is
`bufPkt`. -/
theorem rmap_pkt_from_buffer_some_iff {alloc : Alloc} {buf : List UInt8} {pkt : RmapPkt} :
    rmap_pkt_from_buffer alloc buf = .ok (some pkt) ↔ Accepts alloc buf ∧ pkt = bufPkt buf := by
  by_cases h : HeaderAccepted alloc buf
  · rw [rmap_pkt_from_buffer_eq h]
    constructor
    · intro hsome
      split at hsome
      · cases hsome
      · rename_i hcovered
        simp only [Except.ok.injEq, Option.some.injEq] at hsome
        refine ⟨⟨h, ?_, ?_⟩, hsome.symm⟩
        · intro hdata
          by_contra hshort
          exact hcovered ⟨hdata, Or.inl (by omega)⟩
        · intro hdata
          by_contra hfail
          exact hcovered ⟨hdata, Or.inr (by simpa using hfail)⟩
    · rintro ⟨haccepts, rfl⟩
      rw [if_neg]
      rintro ⟨hdata, hshort | hfail⟩
      · have := haccepts.data hdata
        omega
      · simp [haccepts.allocData hdata] at hfail
  · rw [rmap_pkt_from_buffer_none h]
    constructor
    · intro hnone
      cases hnone
    · rintro ⟨haccepts, _⟩
      exact absurd haccepts.toHeaderAccepted h

end spw_bridge.rmap
