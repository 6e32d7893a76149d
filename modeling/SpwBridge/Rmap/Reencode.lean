import SpwBridge.Rmap.Decode

open words

namespace spw_bridge.rmap

/-- The position of the byte that the encoder always writes as zero: the
extended address of commands, the reserved byte of other replies. Write replies
end before it. -/
def RmapInstruction.reservedAt (ri : RmapInstruction) : Nat := 7 + ri.replyPathLen

/-- The path arrays of a decoded packet hold what the lengths say. -/
theorem bufPkt_pathsFit {alloc : Alloc} {buf : List UInt8} (hheader : HeaderAccepted alloc buf) :
    (bufPkt buf).PathsFit := by
  refine ⟨Nat.zero_le _, ?_⟩
  have hsize := hheader.header
  simp only [RmapInstruction.hdrSize] at hsize
  by_cases hresp : (bufRi buf).cmd_resp = true
  · have hmin : (bufRi buf).minHdrSize = 15 := by simp [RmapInstruction.minHdrSize, hresp]
    simp only [bufPkt, hresp, ↓reduceIte, Option.getD_some, List.length_take, List.length_drop]
    omega
  · simp [bufPkt, RmapInstruction.replyPathLen, hresp]

theorem bufPkt_targetPath (buf : List UInt8) : (bufPkt buf).targetPath = [] := by
  simp [RmapPkt.targetPath, bufPkt]

/-- A stretch of a buffer, byte by byte. -/
theorem take_drop_eq_map {buf : List UInt8} {i n : Nat} (h : i + n ≤ buf.length) :
    (buf.drop i).take n = (List.range n).map fun k => byteAt buf (i + k) := by
  induction n generalizing i with
  | zero => simp
  | succ n ih =>
    rw [drop_eq_byteAt_cons (by omega), List.take_succ_cons, ih (by omega), List.range_succ_eq_map]
    simp [Nat.add_comm, Nat.add_left_comm]

/-- The fields behind the reply path, with the reserved byte cleared if the
header reaches it. -/
theorem bufPkt_hdrTail {buf : List UInt8} (hheader : (bufRi buf).hdrSize ≤ buf.length) :
    (bufPkt buf).hdrTail =
      if (bufRi buf).hasLength then
        ((buf.drop (4 + (bufRi buf).replyPathLen)).take ((bufRi buf).minHdrSize - 4)).set 3 0
      else (buf.drop (4 + (bufRi buf).replyPathLen)).take ((bufRi buf).minHdrSize - 4) := by
  have hmin := (bufRi buf).minHdrSize_ge
  have hsize : (bufRi buf).hdrSize = (bufRi buf).minHdrSize + (bufRi buf).replyPathLen := rfl
  have hri : (bufPkt buf).ri = bufRi buf := rfl
  have hid := bytes_be16 (byteAt buf (5 + (bufRi buf).replyPathLen)) (byteAt buf (6 + (bufRi buf).replyPathLen))
  rw [take_drop_eq_map (by omega), RmapPkt.hdrTail, hri]
  have hassoc : ∀ k, 4 + (bufRi buf).replyPathLen + k = 4 + k + (bufRi buf).replyPathLen := by
    intro k
    omega
  simp only [hassoc]
  by_cases hresp : (bufRi buf).cmd_resp = true
  · have hlength : (bufRi buf).hasLength = true := by simp [RmapInstruction.hasLength, hresp]
    have hfifteen : (bufRi buf).minHdrSize = 15 := by simp [RmapInstruction.minHdrSize, hresp]
    have haddr := bytes_be32 (byteAt buf (8 + (bufRi buf).replyPathLen))
      (byteAt buf (9 + (bufRi buf).replyPathLen)) (byteAt buf (10 + (bufRi buf).replyPathLen))
      (byteAt buf (11 + (bufRi buf).replyPathLen))
    have hlen := bytes_be24 (byteAt buf ((bufRi buf).hdrSize - 3)) (byteAt buf ((bufRi buf).hdrSize - 2))
      (byteAt buf ((bufRi buf).hdrSize - 1))
    have h3 : 15 + (bufRi buf).replyPathLen - 3 = 12 + (bufRi buf).replyPathLen := by omega
    have h2 : 15 + (bufRi buf).replyPathLen - 2 = 13 + (bufRi buf).replyPathLen := by omega
    have h1 : 15 + (bufRi buf).replyPathLen - 1 = 14 + (bufRi buf).replyPathLen := by omega
    rw [hsize, hfifteen, h3, h2, h1] at hlen
    simp only [bufPkt, bufDataLen, hresp, hlength, hfifteen, hsize, ↓reduceIte, hid, haddr, hlen, h3, h2, h1]
    simp [List.range_succ]
  · rw [Bool.not_eq_true] at hresp
    by_cases hwrite : (bufRi buf).writeBit = true
    · have hlength : (bufRi buf).hasLength = false := by simp [RmapInstruction.hasLength, hresp, hwrite]
      have hseven : (bufRi buf).minHdrSize = 7 := by simp [RmapInstruction.minHdrSize, hresp, hwrite]
      simp only [bufPkt, hresp, hwrite, hlength, hseven, hid, Bool.false_eq_true, ↓reduceIte]
      simp [List.range_succ]
    · rw [Bool.not_eq_true] at hwrite
      have hlength : (bufRi buf).hasLength = true := by simp [RmapInstruction.hasLength, hwrite]
      have heleven : (bufRi buf).minHdrSize = 11 := by simp [RmapInstruction.minHdrSize, hresp, hwrite]
      have hlen := bytes_be24 (byteAt buf (8 + (bufRi buf).replyPathLen))
        (byteAt buf (9 + (bufRi buf).replyPathLen)) (byteAt buf (10 + (bufRi buf).replyPathLen))
      have h3 : 11 + (bufRi buf).replyPathLen - 3 = 8 + (bufRi buf).replyPathLen := by omega
      have h2 : 11 + (bufRi buf).replyPathLen - 2 = 9 + (bufRi buf).replyPathLen := by omega
      have h1 : 11 + (bufRi buf).replyPathLen - 1 = 10 + (bufRi buf).replyPathLen := by omega
      simp only [bufPkt, bufDataLen, hresp, hwrite, hlength, heleven, hsize, hid, Bool.false_eq_true, ↓reduceIte,
        h3, h2, h1, hlen]
      simp [List.range_succ]

/-- Encoding a decoded packet restores the front of the buffer, up to the
reserved byte. -/
theorem bufPkt_header {buf : List UInt8} (hheader : (bufRi buf).hdrSize ≤ buf.length) :
    (bufPkt buf).header =
      if (bufRi buf).hasLength then (buf.take (bufRi buf).hdrSize).set (bufRi buf).reservedAt 0
      else buf.take (bufRi buf).hdrSize := by
  have hmin := (bufRi buf).minHdrSize_ge
  have hsize : (bufRi buf).hdrSize = 4 + (bufRi buf).replyPathLen + ((bufRi buf).minHdrSize - 4) := by
    simp only [RmapInstruction.hdrSize]
    omega
  have hfront : [(bufPkt buf).dst, (bufPkt buf).proto_id, (bufPkt buf).instruction, (bufPkt buf).key] =
      buf.take 4 := by
    have hroom : 0 + 4 ≤ buf.length := by omega
    have hbytes := take_drop_eq_map hroom
    rw [List.drop_zero] at hbytes
    rw [hbytes]
    simp [bufPkt, bufRi, RmapPkt.instruction, RMAP_INSTRUCTION, List.range_succ]
  have hpath : (bufPkt buf).replyPath = (buf.drop 4).take (bufRi buf).replyPathLen := by
    by_cases hresp : (bufRi buf).cmd_resp = true
    · simp [RmapPkt.replyPath, bufPkt, hresp, List.take_take]
    · simp [RmapPkt.replyPath, bufPkt, RmapInstruction.replyPathLen, hresp]
  have hmiddle : buf.take 4 ++ (buf.drop 4).take (bufRi buf).replyPathLen =
      buf.take (4 + (bufRi buf).replyPathLen) := by
    rw [List.take_add]
  have hfields : buf.take (bufRi buf).hdrSize = buf.take (4 + (bufRi buf).replyPathLen) ++
      (buf.drop (4 + (bufRi buf).replyPathLen)).take ((bufRi buf).minHdrSize - 4) := by
    rw [hsize, List.take_add]
  rw [RmapPkt.header, hfront, hpath, hmiddle, bufPkt_hdrTail hheader, hfields]
  by_cases hlength : (bufRi buf).hasLength = true
  · have hreserved : (bufRi buf).reservedAt =
        (buf.take (4 + (bufRi buf).replyPathLen)).length + 3 := by
      simp only [RmapInstruction.reservedAt, List.length_take]
      omega
    simp only [hlength, ↓reduceIte, hreserved, List.set_append_right _ _ (Nat.le_add_right _ _),
      Nat.add_sub_cancel_left]
  · simp [hlength]

/-- Encoding undoes decoding on every accepted buffer. The size query and the
header written agree, the header is the front of the buffer with the reserved
byte cleared, and the data follow behind the header CRC. -/
theorem rmap_build_hdr_pkt_from_buffer {alloc : Alloc} {buf : List UInt8} {pkt : RmapPkt}
    (haccepted : rmap_pkt_from_buffer alloc buf = .ok (some pkt)) :
    ∃ H : Nat, ∃ hdr, rmap_build_hdr pkt false = .ok ((H : Int), []) ∧
      rmap_build_hdr pkt true = .ok ((H : Int), hdr) ∧ H ≤ buf.length ∧
      hdr = (if pkt.ri.hasLength then (buf.take H).set (7 + pkt.rpath_len) 0 else buf.take H) ∧
      (pkt.data_len ≠ 0 → H + 1 + pkt.data_len.toNat ≤ buf.length ∧
        pkt.data = some ((buf.drop (H + 1)).take pkt.data_len.toNat)) := by
  obtain ⟨haccepts, rfl⟩ := rmap_pkt_from_buffer_some_iff.mp haccepted
  have hfits := bufPkt_pathsFit haccepts.toHeaderAccepted
  have hheader := bufPkt_header haccepts.header
  have hlength : (bufPkt buf).header.length = (bufRi buf).hdrSize := by
    rw [RmapPkt.header_length hfits]
    rfl
  refine ⟨(bufRi buf).hdrSize, (bufPkt buf).header, ?_, ?_, haccepts.header, hheader, ?_⟩
  · have hknown : (bufPkt buf).ri.knownCmd = true := haccepts.known
    simp only [rmap_build_hdr, Bool.not_false, ↓reduceIte, rmap_get_min_hdr_size_eq, hknown]
    simp [bufPkt, RmapInstruction.hdrSize]
  · rw [rmap_build_hdr_eq hfits, bufPkt_targetPath, List.nil_append, hlength]
  · intro hnonzero
    refine ⟨haccepts.data hnonzero, ?_⟩
    have hdata : bufDataLen buf ≠ 0 := hnonzero
    simp [bufPkt, hdata]

/-- A read reply whose address length bits are set although it has no path. -/
theorem rmap_build_hdr_pkt_from_buffer_reply :
    ∃ pkt : RmapPkt, pkt.ri.reply_addr_len = 3 ∧ pkt.ri.cmd_resp = false ∧ pkt.data_len = 1 ∧
      ∃ H : Nat, ∃ hdr, rmap_build_hdr pkt false = .ok ((H : Int), []) ∧
        rmap_build_hdr pkt true = .ok ((H : Int), hdr) ∧ H ≤ 13 ∧
        hdr = (if pkt.ri.hasLength
          then (([0x30, 0x01, 0x0f, 0, 0x20, 0, 7, 0xee, 0, 0, 1, 0xcc, 0xab] : List UInt8).take H).set
            (7 + pkt.rpath_len) 0
          else ([0x30, 0x01, 0x0f, 0, 0x20, 0, 7, 0xee, 0, 0, 1, 0xcc, 0xab] : List UInt8).take H) ∧
        (pkt.data_len ≠ 0 → H + 1 + pkt.data_len.toNat ≤ 13 ∧
          pkt.data = some ((([0x30, 0x01, 0x0f, 0, 0x20, 0, 7, 0xee, 0, 0, 1, 0xcc, 0xab] :
            List UInt8).drop (H + 1)).take pkt.data_len.toNat)) :=
  have haccepted : rmap_pkt_from_buffer .success [0x30, 0x01, 0x0f, 0, 0x20, 0, 7, 0xee, 0, 0, 1, 0xcc, 0xab] =
      .ok (some _) := rfl
  ⟨_, rfl, rfl, rfl, rmap_build_hdr_pkt_from_buffer haccepted⟩

end spw_bridge.rmap
