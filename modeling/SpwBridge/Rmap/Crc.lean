import SpwBridge.Rmap.Decode

namespace spw_bridge.rmap

/-- The decoded CRC fields are the CRC bytes of the packet, wherever the buffer
has them: the header CRC behind the header and the data CRC behind the data. -/
structure CrcsRight (buf : List UInt8) (pkt : RmapPkt) : Prop where
  hdr : pkt.ri.hdrSize < buf.length → pkt.hdr_crc = byteAt buf pkt.ri.hdrSize
  data : pkt.data_len ≠ 0 → pkt.ri.hdrSize + 1 + pkt.data_len.toNat < buf.length →
    pkt.data_crc = byteAt buf (pkt.ri.hdrSize + 1 + pkt.data_len.toNat)

/-- The buffers for which the fixed offset of the header CRC does no harm: a
header of that size, no byte behind the header, or the same value at both
places, where a short buffer counts as zero. -/
def FixedOffsetFits (buf : List UInt8) : Prop :=
  (bufRi buf).cmd_resp = false ∧ (bufRi buf).writeBit = false ∨
    buf.length ≤ (bufRi buf).hdrSize ∨
    byteAt buf (bufRi buf).hdrSize = byteAt buf RMAP_HEADER_CRC

/-- The decoder takes the header CRC from the fixed offset, without the skip
over the reply path and the address. -/
theorem bufPkt_hdr_crc (buf : List UInt8) : (bufPkt buf).hdr_crc = byteAt buf RMAP_HEADER_CRC := by
  by_cases hlong : buf.length > 11
  · simp [bufPkt, RMAP_HEADER_CRC, hlong]
  · simp [bufPkt, RMAP_HEADER_CRC, hlong, byteAt_eq_zero (Nat.le_of_not_lt hlong)]

/-- The data CRC is taken from behind the data. -/
theorem bufPkt_data_crc {buf : List UInt8} (hdata : (bufPkt buf).data_len ≠ 0)
    (hlong : (bufPkt buf).ri.hdrSize + 1 + (bufPkt buf).data_len.toNat < buf.length) :
    (bufPkt buf).data_crc = byteAt buf ((bufPkt buf).ri.hdrSize + 1 + (bufPkt buf).data_len.toNat) :=
  if_pos ⟨hdata, hlong⟩

theorem RmapInstruction.hdrSize_of_read_reply {ri : RmapInstruction} (hresp : ri.cmd_resp = false)
    (hwrite : ri.writeBit = false) : ri.hdrSize = RMAP_HEADER_CRC := by
  simp [RmapInstruction.hdrSize, RmapInstruction.minHdrSize, RmapInstruction.replyPathLen, RMAP_HEADER_CRC,
    hresp, hwrite]

/-- The decoded CRC fields are right for exactly those accepted buffers. -/
theorem rmap_pkt_crcs_right_iff {alloc : Alloc} {buf : List UInt8} {pkt : RmapPkt}
    (haccepted : rmap_pkt_from_buffer alloc buf = .ok (some pkt)) :
    CrcsRight buf pkt ↔ FixedOffsetFits buf := by
  obtain ⟨_, rfl⟩ := rmap_pkt_from_buffer_some_iff.mp haccepted
  have hri : (bufPkt buf).ri = bufRi buf := rfl
  constructor
  · intro hright
    by_cases hlong : (bufRi buf).hdrSize < buf.length
    · have hcrc := hright.hdr hlong
      rw [bufPkt_hdr_crc, hri] at hcrc
      exact Or.inr (Or.inr hcrc.symm)
    · exact Or.inr (Or.inl (Nat.le_of_not_lt hlong))
  · intro hfits
    refine ⟨fun hlong => ?_, bufPkt_data_crc⟩
    rw [bufPkt_hdr_crc, hri]
    rw [hri] at hlong
    rcases hfits with ⟨hresp, hwrite⟩ | hshort | hsame
    · rw [RmapInstruction.hdrSize_of_read_reply hresp hwrite]
    · omega
    · exact hsame.symm

/-- A read reply with one data byte. -/
theorem rmap_pkt_crcs_right_iff_read_reply :
    ∃ pkt, rmap_pkt_from_buffer .success [0x30, 0x01, 0x0c, 0, 0xfe, 0, 1, 0, 0, 0, 1, 0x55, 0xca, 0x66] =
        .ok (some pkt) ∧
      (CrcsRight [0x30, 0x01, 0x0c, 0, 0xfe, 0, 1, 0, 0, 0, 1, 0x55, 0xca, 0x66] pkt ↔
        FixedOffsetFits [0x30, 0x01, 0x0c, 0, 0xfe, 0, 1, 0, 0, 0, 1, 0x55, 0xca, 0x66]) :=
  have haccepted : rmap_pkt_from_buffer .success
      [0x30, 0x01, 0x0c, 0, 0xfe, 0, 1, 0, 0, 0, 1, 0x55, 0xca, 0x66] = .ok (some _) := rfl
  ⟨_, rfl, rmap_pkt_crcs_right_iff haccepted⟩

/-- In a write command the fixed offset is the last address byte, here 0x10,
and the header CRC is 0x55. -/
theorem rmap_pkt_hdr_crc_is_address :
    ∃ pkt, rmap_pkt_from_buffer .success
        [0xfe, 0x01, 0x64, 0xab, 0x30, 0, 2, 0, 0, 0, 0, 0x10, 0, 0, 2, 0x55, 0xde, 0xad, 0x66] =
          .ok (some pkt) ∧
      pkt.hdr_crc = 0x10 ∧
      ¬ CrcsRight [0xfe, 0x01, 0x64, 0xab, 0x30, 0, 2, 0, 0, 0, 0, 0x10, 0, 0, 2, 0x55, 0xde, 0xad, 0x66] pkt :=
  ⟨_, rfl, rfl, fun hright => absurd (hright.hdr (by decide)) (by decide)⟩

end spw_bridge.rmap
