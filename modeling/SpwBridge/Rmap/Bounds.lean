import SpwBridge.Rmap.Parse

open metered words

namespace spw_bridge.rmap

/-- The body of `copy_loop`. -/
def copy_byte (src : List UInt8) (doff soff i : Nat) (dst : List UInt8) : Except Fault (List UInt8) := do
  let b ← rd src (soff + i)
  wr dst (doff + i) b

/-- `copy_loop` with a note of its rounds. -/
def metered_copy (dst : List UInt8) (doff : Nat) (src : List UInt8) (soff n : Nat) : Metered Fault (List UInt8) :=
  loop (copy_byte src doff soff) 0 n dst

/-- `rmap_pkt_data` with a note of its loops. -/
def metered_pkt_data (alloc : Alloc) (buf : List UInt8) (pkt : RmapPkt) (n : Nat) :
    Metered Fault (Option RmapPkt) := do
  let hdr_crc ← statement (rd_if_present buf RMAP_HEADER_CRC pkt.hdr_crc)
  let pkt := { pkt with hdr_crc }
  if pkt.data_len = 0 then pure (some pkt)
  else if buf.length < RMAP_DATA_START + n + pkt.data_len.toNat then pure none
  else if !alloc.data then pure none
  else do
    let len := pkt.data_len.toNat
    let data ← metered_copy (List.replicate len 0) 0 buf (RMAP_DATA_START + n) len
    let data_crc ← statement (rd_if_present buf (RMAP_DATA_START + n + len) pkt.data_crc)
    pure (some { pkt with data := some data, data_crc })

/-- `rmap_pkt_data_len` with a note of its loops. -/
def metered_pkt_data_len (alloc : Alloc) (buf : List UInt8) (pkt : RmapPkt) (n : Nat) :
    Metered Fault (Option RmapPkt) :=
  if !(!pkt.ri.cmd_resp && pkt.ri.writeBit) then do
    let b0 ← statement (rd buf (RMAP_DATALEN_BYTE0 + n))
    let b1 ← statement (rd buf (RMAP_DATALEN_BYTE1 + n))
    let b2 ← statement (rd buf (RMAP_DATALEN_BYTE2 + n))
    metered_pkt_data alloc buf { pkt with data_len := be24 b0 b1 b2 } n
  else metered_pkt_data alloc buf pkt n

/-- `rmap_pkt_src` with a note of its loops. -/
def metered_pkt_src (alloc : Alloc) (buf : List UInt8) (pkt : RmapPkt) (n : Nat) :
    Metered Fault (Option RmapPkt) := do
  let src ← statement (rd buf (RMAP_SRC_ADDR + n))
  let id0 ← statement (rd buf (RMAP_TRANS_ID_BYTE0 + n))
  let id1 ← statement (rd buf (RMAP_TRANS_ID_BYTE1 + n))
  let pkt := { pkt with src, tr_id := be16 id0 id1 }
  if pkt.ri.cmd_resp then do
    let a0 ← statement (rd buf (RMAP_ADDR_BYTE0 + n))
    let a1 ← statement (rd buf (RMAP_ADDR_BYTE1 + n))
    let a2 ← statement (rd buf (RMAP_ADDR_BYTE2 + n))
    let a3 ← statement (rd buf (RMAP_ADDR_BYTE3 + n))
    metered_pkt_data_len alloc buf { pkt with addr := be32 a0 a1 a2 a3 } (n + 4)
  else metered_pkt_data_len alloc buf pkt n

/-- `rmap_pkt_rpath` with a note of its loops. -/
def metered_pkt_rpath (alloc : Alloc) (buf : List UInt8) (pkt : RmapPkt) : Metered Fault (Option RmapPkt) :=
  let min_hdr_size := rmap_get_min_hdr_size pkt
  if min_hdr_size < 0 then pure none
  else if buf.length < min_hdr_size.toNat then pure none
  else if pkt.ri.cmd_resp then
    let rpath_len := pkt.ri.reply_addr_len.toNat <<< 2
    if buf.length < min_hdr_size.toNat + rpath_len then pure none
    else if !alloc.rpath then pure none
    else do
      let rpath ← metered_copy (List.replicate rpath_len 0) 0 buf RMAP_REPLY_ADDR_START rpath_len
      metered_pkt_src alloc buf { pkt with rpath := some rpath, rpath_len } rpath_len
  else metered_pkt_src alloc buf pkt 0

/-- `rmap_pkt_from_buffer` with a note of how many rounds each loop made. -/
def metered_pkt_from_buffer (alloc : Alloc) (buf : List UInt8) : Metered Fault (Option RmapPkt) :=
  if buf.length < RMAP_HDR_MIN_SIZE_WRITE_REP then pure none
  else do
    let proto_id ← statement (rd buf RMAP_PROTOCOL_ID_OFFSET)
    if proto_id ≠ RMAP_PROTOCOL_ID then pure none
    else if !alloc.pkt then pure none
    else do
      let dst ← statement (rd buf RMAP_DEST_ADDRESS)
      let instruction ← statement (rd buf RMAP_INSTRUCTION)
      let key ← statement (rd buf RMAP_CMD_DESTKEY)
      metered_pkt_rpath alloc buf { rmap_create_packet with dst, proto_id, ri := .ofUInt8 instruction, key }

theorem rounds_copy (src dst : List UInt8) (doff soff i n made : Nat) :
    (rounds (copy_byte src doff soff) i n dst made).map Prod.fst = copy_loop dst (doff + i) src (soff + i) n := by
  induction n generalizing i dst made with
  | zero => rfl
  | succ n ih =>
    rw [rounds, copy_loop, copy_byte]
    cases rd src (soff + i) with
    | error e => rfl
    | ok b =>
      simp only [bind_ok]
      cases wr dst (doff + i) b with
      | error e => rfl
      | ok dst' => exact ih dst' (i + 1) (made + 1)

/-- Every round of a copy reads another byte of the source. -/
theorem metered_copy_meters (dst src : List UInt8) (doff soff n : Nat) :
    Meters src.length (metered_copy dst doff src soff n) (copy_loop dst doff src soff n) := by
  constructor
  · exact erases_loop (rounds_copy src dst doff soff 0 n 0)
  · apply within_loop
    intro i s s' hround
    rw [copy_byte, bind_eq_ok_iff] at hround
    obtain ⟨b, hread, _⟩ := hround
    unfold rd at hread
    split at hread
    · omega
    · cases hread

theorem pkt_data_meters (alloc : Alloc) (buf : List UInt8) (pkt : RmapPkt) (n : Nat) :
    Meters buf.length (metered_pkt_data alloc buf pkt n) (rmap_pkt_data alloc buf pkt n) := by
  apply meters_bind (meters_statement _ _)
  intro hdr_crc
  apply meters_ite (meters_pure _ _)
  apply meters_ite (meters_pure _ _)
  apply meters_ite (meters_pure _ _)
  apply meters_bind (metered_copy_meters _ _ _ _ _)
  intro data
  exact meters_bind (meters_statement _ _) fun _ => meters_pure _ _

theorem pkt_data_len_meters (alloc : Alloc) (buf : List UInt8) (pkt : RmapPkt) (n : Nat) :
    Meters buf.length (metered_pkt_data_len alloc buf pkt n) (rmap_pkt_data_len alloc buf pkt n) := by
  apply meters_ite
  · apply meters_bind (meters_statement _ _)
    intro b0
    apply meters_bind (meters_statement _ _)
    intro b1
    apply meters_bind (meters_statement _ _)
    intro b2
    exact pkt_data_meters _ _ _ _
  · exact pkt_data_meters _ _ _ _

theorem pkt_src_meters (alloc : Alloc) (buf : List UInt8) (pkt : RmapPkt) (n : Nat) :
    Meters buf.length (metered_pkt_src alloc buf pkt n) (rmap_pkt_src alloc buf pkt n) := by
  apply meters_bind (meters_statement _ _)
  intro src
  apply meters_bind (meters_statement _ _)
  intro id0
  apply meters_bind (meters_statement _ _)
  intro id1
  apply meters_ite
  · apply meters_bind (meters_statement _ _)
    intro a0
    apply meters_bind (meters_statement _ _)
    intro a1
    apply meters_bind (meters_statement _ _)
    intro a2
    apply meters_bind (meters_statement _ _)
    intro a3
    exact pkt_data_len_meters _ _ _ _
  · exact pkt_data_len_meters _ _ _ _

theorem pkt_rpath_meters (alloc : Alloc) (buf : List UInt8) (pkt : RmapPkt) :
    Meters buf.length (metered_pkt_rpath alloc buf pkt) (rmap_pkt_rpath alloc buf pkt) := by
  apply meters_ite (meters_pure _ _)
  apply meters_ite (meters_pure _ _)
  apply meters_ite
  · apply meters_ite (meters_pure _ _)
    apply meters_ite (meters_pure _ _)
    exact meters_bind (metered_copy_meters _ _ _ _ _) fun _ => pkt_src_meters _ _ _ _
  · exact pkt_src_meters _ _ _ _

theorem pkt_from_buffer_meters (alloc : Alloc) (buf : List UInt8) :
    Meters buf.length (metered_pkt_from_buffer alloc buf) (rmap_pkt_from_buffer alloc buf) := by
  apply meters_ite (meters_pure _ _)
  apply meters_bind (meters_statement _ _)
  intro proto_id
  apply meters_ite (meters_pure _ _)
  apply meters_ite (meters_pure _ _)
  apply meters_bind (meters_statement _ _)
  intro dst
  apply meters_bind (meters_statement _ _)
  intro instruction
  apply meters_bind (meters_statement _ _)
  intro key
  exact pkt_rpath_meters _ _ _

/-- Both RMAP decoders return for every buffer, so that no read leaves it and no
write leaves an allocation, and no loop of them makes more rounds than the
buffer has bytes. -/
theorem rmap_decoders_within_buffer (alloc : Alloc) (buf : List UInt8) :
    (∃ pkt made, rmap_pkt_from_buffer alloc buf = .ok pkt ∧ metered_pkt_from_buffer alloc buf [] = .ok pkt made ∧
      ∀ n ∈ made, n ≤ buf.length) ∧
    ∃ report made, rmap_parse_pkt buf buf.length [] = .ok report made ∧ ∀ n ∈ made, n ≤ buf.length := by
  constructor
  · obtain ⟨pkt, hpkt⟩ := rmap_pkt_from_buffer_total alloc buf
    obtain ⟨made, hrun, hmade⟩ := (pkt_from_buffer_meters alloc buf).returns hpkt
    exact ⟨pkt, made, hpkt, hrun, hmade⟩
  · exact (rmap_parse_pkt_runs buf).returns

end spw_bridge.rmap
