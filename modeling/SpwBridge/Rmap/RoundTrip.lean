import SpwBridge.Rmap.Decode
import SpwBridge.Rmap.Setters

open words

namespace spw_bridge.rmap

/-- What a packet must satisfy for its header to say where the fields are: the
instruction byte announces the reply path that the header carries, and the data
length fits its field. -/
structure RmapPkt.Encodable (pkt : RmapPkt) : Prop where
  proto : pkt.proto_id = RMAP_PROTOCOL_ID
  fits : pkt.PathsFit
  known : pkt.ri.knownCmd
  reply_path : pkt.rpath_len = pkt.ri.replyPathLen
  data_len : pkt.data_len.toNat < 2 ^ 24

/-- Commands built by the setters are encodable. -/
theorem Built.encodable {pkt : RmapPkt} (hbuilt : Built pkt) (hresp : pkt.ri.cmd_resp) : pkt.Encodable := by
  obtain ⟨hproto, hfits, hwords, hknown, hdata⟩ := hbuilt.wellBuilt
  exact ⟨hproto, hfits, hknown hresp, by simpa [RmapInstruction.replyPathLen, hresp] using hwords, hdata⟩

/-- The header fields of `pkt` that a decoded packet has to repeat. -/
structure RmapPkt.SameHeader (pkt decoded : RmapPkt) : Prop where
  dst : decoded.dst = pkt.dst
  proto_id : decoded.proto_id = pkt.proto_id
  instruction : decoded.instruction = pkt.instruction
  key : decoded.key = pkt.key
  rpath_len : decoded.rpath_len = pkt.rpath_len
  replyPath : decoded.replyPath = pkt.replyPath
  src : decoded.src = pkt.src
  tr_id : decoded.tr_id = pkt.tr_id
  addr : pkt.ri.cmd_resp → decoded.addr = pkt.addr
  data_len : pkt.ri.hasLength → decoded.data_len = pkt.data_len

/-! ### The fields of an encoded header, read back -/

theorem RmapPkt.byteAt_header_fixed (pkt : RmapPkt) (rest : List UInt8) :
    byteAt (pkt.header ++ rest) 0 = pkt.dst ∧ byteAt (pkt.header ++ rest) 1 = pkt.proto_id ∧
      byteAt (pkt.header ++ rest) 2 = pkt.instruction ∧ byteAt (pkt.header ++ rest) 3 = pkt.key := by
  refine ⟨?_, ?_, ?_, ?_⟩ <;> simp [RmapPkt.header]

@[simp] theorem RmapPkt.bufRi_header (pkt : RmapPkt) (rest : List UInt8) :
    bufRi (pkt.header ++ rest) = pkt.ri := by
  rw [bufRi, RMAP_INSTRUCTION, (pkt.byteAt_header_fixed rest).2.2.1, RmapPkt.instruction,
    RmapInstruction.ofUInt8_toUInt8]

/-- Behind the reply path the header continues with its tail. -/
theorem RmapPkt.byteAt_header_tail {pkt : RmapPkt} (hpkt : pkt.Encodable) (rest : List UInt8) (i : Nat) :
    byteAt (pkt.header ++ rest) (4 + pkt.ri.replyPathLen + i) = byteAt (pkt.hdrTail ++ rest) i := by
  have hlen : ([pkt.dst, pkt.proto_id, pkt.instruction, pkt.key] ++ pkt.replyPath).length =
      4 + pkt.ri.replyPathLen := by
    simp [RmapPkt.replyPath_length hpkt.fits, hpkt.reply_path]
    omega
  rw [RmapPkt.header, List.append_assoc _ pkt.hdrTail, ← hlen, byteAt_append_right]

theorem RmapPkt.replyPath_header {pkt : RmapPkt} (hpkt : pkt.Encodable) (rest : List UInt8) :
    ((pkt.header ++ rest).drop 4).take pkt.ri.replyPathLen = pkt.replyPath := by
  have hlen : pkt.ri.replyPathLen = pkt.replyPath.length := by
    rw [RmapPkt.replyPath_length hpkt.fits, hpkt.reply_path]
  simp [RmapPkt.header, hlen]

theorem RmapPkt.header_length_eq {pkt : RmapPkt} (hpkt : pkt.Encodable) :
    pkt.header.length = pkt.ri.hdrSize := by
  rw [RmapPkt.header_length hpkt.fits, hpkt.reply_path, RmapInstruction.hdrSize]

/-- The length field is the last one of the header, behind everything that
shifts it. -/
theorem RmapPkt.bufDataLen_header {pkt : RmapPkt} (hpkt : pkt.Encodable) (rest : List UInt8) :
    bufDataLen (pkt.header ++ rest) = if pkt.ri.hasLength then pkt.data_len else 0 := by
  rw [bufDataLen, RmapPkt.bufRi_header]
  by_cases hlength : pkt.ri.hasLength = true
  · simp only [hlength, ↓reduceIte]
    have htail : ∀ i, byteAt (pkt.header ++ rest) (pkt.ri.hdrSize - 3 + i) =
        byteAt (pkt.hdrTail ++ rest) (pkt.ri.minHdrSize - 7 + i) := by
      intro i
      rw [← RmapPkt.byteAt_header_tail hpkt]
      congr 1
      have hmin : 11 ≤ pkt.ri.minHdrSize := by
        have hstart := RmapInstruction.data_start hlength
        simp only [RmapInstruction.hdrSize] at hstart
        split at hstart <;> omega
      simp only [RmapInstruction.hdrSize]
      omega
    have hsize : 3 ≤ pkt.ri.hdrSize := by
      have hmin := pkt.ri.minHdrSize_ge
      simp only [RmapInstruction.hdrSize]
      omega
    have h0 := htail 0
    have h1 := htail 1
    have h2 := htail 2
    have hsecond : pkt.ri.hdrSize - 3 + 1 = pkt.ri.hdrSize - 2 := by omega
    have hlast : pkt.ri.hdrSize - 3 + 2 = pkt.ri.hdrSize - 1 := by omega
    rw [Nat.add_zero] at h0
    rw [hsecond] at h1
    rw [hlast] at h2
    rw [h0, h1, h2]
    have hbytes := be24_bytes hpkt.data_len
    unfold RmapPkt.hdrTail RmapInstruction.minHdrSize
    by_cases hresp : pkt.ri.cmd_resp = true
    · simp [hresp, hbytes]
    · have hwrite : pkt.ri.writeBit = false := by simpa [RmapInstruction.hasLength, hresp] using hlength
      simp [hresp, hwrite, hbytes]
  · simp [hlength]

/-- Decoding what the header builder wrote gives every field back, whatever
follows the header. -/
theorem RmapPkt.bufPkt_header_sameHeader {pkt : RmapPkt} (hpkt : pkt.Encodable) (rest : List UInt8) :
    pkt.SameHeader (bufPkt (pkt.header ++ rest)) := by
  obtain ⟨hdst, hproto, hinstruction, hkey⟩ := pkt.byteAt_header_fixed rest
  have htail := RmapPkt.byteAt_header_tail hpkt rest
  have hat : ∀ i, 4 ≤ i → byteAt (pkt.header ++ rest) (i + pkt.ri.replyPathLen) =
      byteAt (pkt.hdrTail ++ rest) (i - 4) := by
    intro i hi
    rw [← htail (i - 4)]
    congr 1
    omega
  constructor
  · exact hdst
  · exact hproto
  · simp [bufPkt, RmapPkt.instruction]
  · exact hkey
  · simp [bufPkt, hpkt.reply_path]
  · have hpath := RmapPkt.replyPath_header hpkt rest
    by_cases hresp : pkt.ri.cmd_resp = true
    · rw [RmapPkt.replyPath]
      simp only [bufPkt, RmapPkt.bufRi_header, hresp, ↓reduceIte, hpath, Option.getD_some]
      rw [List.take_of_length_le]
      rw [RmapPkt.replyPath_length hpkt.fits, hpkt.reply_path]
    · have hempty : pkt.rpath_len = 0 := by simpa [RmapInstruction.replyPathLen, hresp] using hpkt.reply_path
      rw [RmapPkt.replyPath, RmapPkt.replyPath]
      simp [bufPkt, RmapInstruction.replyPathLen, hresp, hempty]
  · simp [bufPkt, hat, RmapPkt.hdrTail]
  · simp [bufPkt, hat, RmapPkt.hdrTail]
  · intro hresp
    simp [bufPkt, hat, hresp, RmapPkt.hdrTail]
  · intro hlength
    simp [bufPkt, RmapPkt.bufDataLen_header hpkt, hlength]

/-- Acceptance of an encoded packet comes down to the bytes behind the header:
they must cover the announced data and the CRC byte before it. -/
theorem RmapPkt.accepts_header_iff {pkt : RmapPkt} (hpkt : pkt.Encodable) (rest : List UInt8) :
    Accepts .success (pkt.header ++ rest) ↔
      (pkt.ri.hasLength → pkt.data_len ≠ 0 → 1 + pkt.data_len.toNat ≤ rest.length) := by
  have hlen := RmapPkt.header_length_eq hpkt
  have hdata := RmapPkt.bufDataLen_header hpkt rest
  constructor
  · intro haccepts hlength hnonzero
    have hcovered := haccepts.data
    rw [hdata, if_pos hlength, RmapPkt.bufRi_header, List.length_append, hlen] at hcovered
    have := hcovered hnonzero
    omega
  · intro hcovered
    refine ⟨⟨?_, ?_, ?_, rfl, fun _ => rfl⟩, ?_, fun _ => rfl⟩
    · simpa using hpkt.known
    · rw [(pkt.byteAt_header_fixed rest).2.1, hpkt.proto]
    · simp [hlen]
    · intro hnonzero
      rw [hdata] at hnonzero ⊢
      by_cases hlength : pkt.ri.hasLength = true
      · rw [if_pos hlength] at hnonzero ⊢
        have := hcovered hlength hnonzero
        rw [RmapPkt.bufRi_header, List.length_append, hlen]
        omega
      · simp [hlength] at hnonzero

/-- The decoded data and data CRC are the bytes behind the header CRC. -/
theorem RmapPkt.bufPkt_header_data {pkt : RmapPkt} (hpkt : pkt.Encodable) (hlength : pkt.ri.hasLength)
    (hdr_crc data_crc : UInt8) {data : List UInt8} (hdata : data.length = pkt.data_len.toNat)
    (hnonzero : pkt.data_len ≠ 0) :
    (bufPkt (pkt.header ++ hdr_crc :: (data ++ [data_crc]))).data = some data ∧
      (bufPkt (pkt.header ++ hdr_crc :: (data ++ [data_crc]))).data_crc = data_crc := by
  have hlen := RmapPkt.header_length_eq hpkt
  have hcrc : byteAt (pkt.header ++ hdr_crc :: (data ++ [data_crc]))
      (pkt.ri.hdrSize + 1 + pkt.data_len.toNat) = data_crc := by
    rw [← hlen, ← hdata, Nat.add_assoc, byteAt_append_right]
    simp [byteAt, Nat.add_comm 1]
  constructor
  · simp only [bufPkt, RmapPkt.bufDataLen_header hpkt, hlength, ↓reduceIte, hnonzero, RmapPkt.bufRi_header,
      ← hlen, ← hdata]
    rw [List.drop_append, List.drop_of_length_le (by omega)]
    simp
  · simp only [bufPkt, RmapPkt.bufDataLen_header hpkt, hlength, ↓reduceIte, RmapPkt.bufRi_header, hcrc]
    rw [if_pos]
    refine ⟨hnonzero, ?_⟩
    simp [hlen, hdata]
    omega

/-! ### Round trips -/

/-- The packets whose length field announces the data they carry, with that
data. A write reply has no length field and nothing depends on its data. -/
inductive CarriesData : RmapPkt → List UInt8 → Prop
  | command {pkt : RmapPkt} {data : List UInt8} (hbuilt : Built pkt) (hresp : pkt.ri.cmd_resp)
      (hcode : pkt.ri.writeBit ∨ pkt.ri.cmd.toNat = RMAP_READ_MODIFY_WRITE_ADDR_INC)
      (hdata : data.length = pkt.data_len.toNat) : CarriesData pkt data
  | read_reply {pkt : RmapPkt} {data : List UInt8} (hproto : pkt.proto_id = RMAP_PROTOCOL_ID)
      (hresp : pkt.ri.cmd_resp = false)
      (hcode : pkt.ri.cmd.toNat ∈ [RMAP_READ_ADDR_SINGLE, RMAP_READ_ADDR_INC, RMAP_READ_MODIFY_WRITE_ADDR_INC])
      (hfits : pkt.PathsFit) (hrpath : pkt.rpath_len = 0) (hlen : pkt.data_len.toNat ≤ RMAP_MAX_DATA_LEN)
      (hdata : data.length = pkt.data_len.toNat) : CarriesData pkt data
  | write_reply {pkt : RmapPkt} {data : List UInt8} (hproto : pkt.proto_id = RMAP_PROTOCOL_ID)
      (hresp : pkt.ri.cmd_resp = false) (hcode : pkt.ri.writeBit) (hfits : pkt.PathsFit)
      (hrpath : pkt.rpath_len = 0) (hlen : pkt.data_len.toNat ≤ RMAP_MAX_DATA_LEN)
      (hdata : data.length = pkt.data_len.toNat) : CarriesData pkt data

/-- All codes with the write bit are known. -/
theorem RmapInstruction.knownCmd_of_writeBit {ri : RmapInstruction} (hwrite : ri.writeBit) : ri.knownCmd := by
  have hcmd : ri.cmd.toNat < 16 := ri.cmd.isLt
  unfold RmapInstruction.writeBit at hwrite
  unfold RmapInstruction.knownCmd
  generalize ri.cmd.toNat = cmd at *
  interval_cases cmd <;> simp_all [RMAP_CMD_BIT_WRITE] <;> decide

theorem RmapInstruction.knownCmd_of_read {ri : RmapInstruction}
    (hread : ri.cmd.toNat ∈ [RMAP_READ_ADDR_SINGLE, RMAP_READ_ADDR_INC, RMAP_READ_MODIFY_WRITE_ADDR_INC]) :
    ri.knownCmd := by
  simp only [List.mem_cons, List.not_mem_nil, or_false] at hread
  unfold RmapInstruction.knownCmd
  rcases hread with hcmd | hcmd | hcmd <;> rw [hcmd] <;> rfl

theorem CarriesData.encodable {pkt : RmapPkt} {data : List UInt8} (hcarries : CarriesData pkt data) :
    pkt.Encodable := by
  cases hcarries with
  | command hbuilt hresp => exact hbuilt.encodable hresp
  | read_reply hproto hresp hcode hfits hrpath hlen =>
    refine ⟨hproto, hfits, RmapInstruction.knownCmd_of_read hcode, ?_, ?_⟩
    · simp [RmapInstruction.replyPathLen, hresp, hrpath]
    · simp only [RMAP_MAX_DATA_LEN] at hlen
      omega
  | write_reply hproto hresp hcode hfits hrpath hlen =>
    refine ⟨hproto, hfits, RmapInstruction.knownCmd_of_writeBit hcode, ?_, ?_⟩
    · simp [RmapInstruction.replyPathLen, hresp, hrpath]
    · simp only [RMAP_MAX_DATA_LEN] at hlen
      omega

theorem CarriesData.length {pkt : RmapPkt} {data : List UInt8} (hcarries : CarriesData pkt data) :
    data.length = pkt.data_len.toNat := by
  cases hcarries <;> assumption

/-- The bytes after the header: its CRC and, with data, the data and their CRC. -/
def crcAndData (pkt : RmapPkt) (hdr_crc : UInt8) (data : List UInt8) (data_crc : UInt8) : List UInt8 :=
  [hdr_crc] ++ if pkt.data_len ≠ 0 then data ++ [data_crc] else []

/-- The bytes of a built header behind the target path. -/
theorem RmapPkt.drop_targetPath {pkt : RmapPkt} (hfits : pkt.PathsFit) :
    (pkt.targetPath ++ pkt.header).drop pkt.path_len = pkt.header := by
  rw [← RmapPkt.targetPath_length hfits, List.drop_left]

/-- Decoding undoes encoding for every kind of packet that carries its data:
the header fields, and where the kind has a length field also the data and
their CRC, come back. -/
theorem rmap_pkt_from_buffer_build_hdr {pkt : RmapPkt} {data : List UInt8} (hcarries : CarriesData pkt data)
    (hdr_crc data_crc : UInt8) :
    ∃ hdr decoded, rmap_build_hdr pkt true = .ok (hdr.length, hdr) ∧
      rmap_pkt_from_buffer .success (hdr.drop pkt.path_len ++ crcAndData pkt hdr_crc data data_crc) =
        .ok (some decoded) ∧
      pkt.SameHeader decoded ∧
      (pkt.ri.hasLength → pkt.data_len ≠ 0 → decoded.data = some data ∧ decoded.data_crc = data_crc) := by
  have hpkt := hcarries.encodable
  have hlength := hcarries.length
  refine ⟨_, bufPkt (pkt.header ++ crcAndData pkt hdr_crc data data_crc), rmap_build_hdr_eq hpkt.fits, ?_,
    RmapPkt.bufPkt_header_sameHeader hpkt _, ?_⟩
  · rw [RmapPkt.drop_targetPath hpkt.fits, rmap_pkt_from_buffer_some_iff, RmapPkt.accepts_header_iff hpkt]
    refine ⟨fun _ hnonzero => ?_, rfl⟩
    simp [crcAndData, hnonzero, hlength]
    omega
  · intro hfield hnonzero
    simpa [crcAndData, hnonzero] using
      RmapPkt.bufPkt_header_data hpkt hfield hdr_crc data_crc hlength hnonzero

/-- A write command with a reply path and two bytes of data. -/
theorem rmap_pkt_from_buffer_build_hdr_write :
    ∃ pkt : RmapPkt, pkt.rpath_len = 4 ∧ pkt.data_len = 2 ∧ ∃ hdr decoded,
      rmap_build_hdr pkt true = .ok (hdr.length, hdr) ∧
      rmap_pkt_from_buffer .success (hdr.drop pkt.path_len ++ crcAndData pkt 0x5a [0xca, 0xfe] 0xa5) =
        .ok (some decoded) ∧
      pkt.SameHeader decoded ∧
      (pkt.ri.hasLength → pkt.data_len ≠ 0 → decoded.data = some [0xca, 0xfe] ∧ decoded.data_crc = 0xa5) :=
  have hbuilt := ((Built.create.call true (.cmd 0x8) rfl).call true
    (.reply_path (some [1, 2, 3, 4]) 4) rfl).call true (.data_len 2) rfl
  ⟨_, rfl, rfl, rmap_pkt_from_buffer_build_hdr (.command hbuilt rfl (.inl rfl) rfl) 0x5a 0xa5⟩

/-- The commands that read without modifying. -/
def RmapInstruction.isRead (ri : RmapInstruction) : Prop :=
  ri.cmd_resp ∧ ri.cmd.toNat ∈ [RMAP_READ_ADDR_SINGLE, RMAP_READ_ADDR_INC]

/-- A read command goes on the wire without a data field. The decoder asks for
the announced data nevertheless, so it gives back exactly those read commands
that request nothing. -/
theorem rmap_read_command_decodable_iff {pkt : RmapPkt} (hbuilt : Built pkt) (hread : pkt.ri.isRead)
    (hdr_crc : UInt8) :
    (∃ hdr decoded, rmap_build_hdr pkt true = .ok (hdr.length, hdr) ∧
      rmap_pkt_from_buffer .success (hdr.drop pkt.path_len ++ [hdr_crc]) = .ok (some decoded) ∧
      pkt.SameHeader decoded) ↔ pkt.data_len = 0 := by
  have hpkt := hbuilt.encodable hread.1
  have hlength : pkt.ri.hasLength := by simp [RmapInstruction.hasLength, hread.1]
  constructor
  · rintro ⟨hdr, decoded, hhdr, hdecode, _⟩
    rw [rmap_build_hdr_eq hpkt.fits] at hhdr
    simp only [Except.ok.injEq, Prod.mk.injEq] at hhdr
    rw [← hhdr.2, RmapPkt.drop_targetPath hpkt.fits, rmap_pkt_from_buffer_some_iff,
      RmapPkt.accepts_header_iff hpkt] at hdecode
    by_contra hnonzero
    have hcovered := hdecode.1 hlength hnonzero
    have hpositive : pkt.data_len.toNat ≠ 0 := by simpa [← UInt32.toNat_inj] using hnonzero
    simp only [List.length_cons, List.length_nil] at hcovered
    omega
  · intro hzero
    refine ⟨_, bufPkt (pkt.header ++ [hdr_crc]), rmap_build_hdr_eq hpkt.fits, ?_,
      RmapPkt.bufPkt_header_sameHeader hpkt _⟩
    rw [RmapPkt.drop_targetPath hpkt.fits, rmap_pkt_from_buffer_some_iff, RmapPkt.accepts_header_iff hpkt]
    exact ⟨fun _ hnonzero => absurd hzero hnonzero, rfl⟩

/-- A read command that requests four bytes. -/
private theorem built_read : Built { rmap_create_packet with
    dst := 0x20, ri := { rmap_create_packet.ri with cmd := 0x3, cmd_resp := true }, data_len := 4 } :=
  ((Built.create.call true (.dst 0x20) rfl).call true (.cmd 0x3) rfl).call true (.data_len 4) rfl

theorem rmap_read_command_decodable_iff_four :
    ∃ pkt : RmapPkt, Built pkt ∧ pkt.ri.isRead ∧
      ((∃ hdr decoded, rmap_build_hdr pkt true = .ok (hdr.length, hdr) ∧
        rmap_pkt_from_buffer .success (hdr.drop pkt.path_len ++ [0x5a]) = .ok (some decoded) ∧
        pkt.SameHeader decoded) ↔ pkt.data_len = 0) :=
  have hread : RmapInstruction.isRead ⟨0, 0x3, true, false⟩ := ⟨rfl, by decide⟩
  ⟨_, built_read, hread, rmap_read_command_decodable_iff built_read hread 0x5a⟩

/-- What goes on the wire for that command is refused. -/
theorem rmap_read_command_refused :
    ∃ pkt : RmapPkt, Built pkt ∧ pkt.ri.isRead ∧ pkt.data_len = 4 ∧
      rmap_build_hdr pkt true = .ok (15, [0x20, 0x01, 0x4c, 0, 0, 0, 0, 0, 0, 0, 0, 0, 0, 0, 4]) ∧
      rmap_pkt_from_buffer .success ([0x20, 0x01, 0x4c, 0, 0, 0, 0, 0, 0, 0, 0, 0, 0, 0, 4] ++ [0x5a]) =
        .ok none :=
  ⟨_, built_read, ⟨rfl, by decide⟩, rfl, rfl, rfl⟩

end spw_bridge.rmap
