import SpwBridge.Rmap.Parse
import SpwBridge.Rmap.RoundTrip

open metered words

namespace spw_bridge.rmap

/-! ### The printout of a decoded packet -/

/-- The bytes of the data; a packet without data has none. -/
def RmapPkt.payload (pkt : RmapPkt) : List UInt8 := pkt.data.getD []

/-- A command as it is printed. The data of a read-modify-write are followed by
their mask. -/
def RmapPkt.cmdReport (pkt : RmapPkt) : CmdReport :=
  if pkt.ri.cmd.toNat ∈ [RMAP_READ_ADDR_SINGLE, RMAP_READ_ADDR_INC] then .read pkt.addr pkt.data_len
  else if pkt.ri.cmd.toNat = RMAP_READ_MODIFY_WRITE_ADDR_INC then
    .rmw pkt.addr pkt.data_len (pkt.payload.take (pkt.payload.length / 2))
      (pkt.payload.drop (pkt.payload.length / 2))
  else .write pkt.addr pkt.data_len pkt.payload

/-- A reply as it is printed. Writes that ask for no reply have none that the
printout knows. -/
def RmapPkt.replyReport (pkt : RmapPkt) : ReplyReport :=
  if pkt.ri.writeBit then
    if pkt.ri.cmd.toNat ∈ [RMAP_WRITE_ADDR_SINGLE_REPLY, RMAP_WRITE_ADDR_INC_REPLY,
      RMAP_WRITE_ADDR_SINGLE_VERIFY_REPLY, RMAP_WRITE_ADDR_INC_VERIFY_REPLY] then .write pkt.ri.cmd.toNat
    else .not_implemented pkt.ri.cmd.toNat
  else .read pkt.data_len pkt.payload

/-- A packet of `len` bytes as it is printed, if its header CRC is among them. The
status of a reply is where a command has its key. -/
def RmapPkt.report (len : Nat) (pkt : RmapPkt) : ParseReport :=
  if pkt.ri.cmd_resp then
    if len < 16 + pkt.rpath_len then .command_too_short len else .command pkt.cmdReport
  else if len < 8 then .reply_too_short len
  else .reply pkt.key (if pkt.key = 0 then some pkt.replyReport else none)

/-! ### What the loops print -/

theorem dump_rounds {pkt : List UInt8} {off i n made : Nat} {printed : List UInt8}
    (hin : off + (i + n) ≤ pkt.length) :
    rounds (dump_byte pkt off) i n printed made = .ok (printed ++ (pkt.drop (off + i)).take n, made + n) := by
  induction n generalizing i made printed with
  | zero => simp [rounds]
  | succ n ih =>
    have hoff : off + i < pkt.length := by omega
    have hround : dump_byte pkt off i printed = .ok (printed ++ [byteAt pkt (off + i)]) := by
      rw [dump_byte, rd_ok hoff, bind_ok]
    rw [rounds, hround]
    dsimp only
    rw [ih (by omega), drop_eq_byteAt_cons hoff, List.take_succ_cons, List.append_assoc, List.singleton_append,
      Nat.add_assoc off, Nat.add_right_comm made, Nat.add_assoc made]

/-- A loop prints its stretch of the packet. -/
theorem dump_erases {pkt : List UInt8} {off i n : Nat} (hin : off + (i + n) ≤ pkt.length) :
    Erases (loop (dump_byte pkt off) i n []) (.ok ((pkt.drop (off + i)).take n)) := by
  apply erases_loop
  rw [dump_rounds hin]
  rfl

/-! ### The fields that the printout reads -/

section fields

variable {buf : List UInt8}

/-- The packets that are printed in full: those with a header and with the data
that it announces. Read commands announce data that they do not carry. -/
structure Printable (buf : List UInt8) : Prop where
  known : (bufRi buf).knownCmd
  proto : byteAt buf 1 = RMAP_PROTOCOL_ID
  header : (bufRi buf).hdrSize ≤ buf.length
  data : bufDataLen buf ≠ 0 → ¬ (bufRi buf).isRead → (bufRi buf).hdrSize + 1 + (bufDataLen buf).toNat ≤ buf.length

theorem Accepts.printable {alloc : Alloc} (h : Accepts alloc buf) : Printable buf :=
  ⟨h.known, h.proto, h.header, fun hnonzero _ => h.data hnonzero⟩

theorem bufPkt_ri (buf : List UInt8) : (bufPkt buf).ri = bufRi buf := rfl

theorem bufPkt_payload (buf : List UInt8) :
    (bufPkt buf).payload = (buf.drop ((bufRi buf).hdrSize + 1)).take (bufDataLen buf).toNat := by
  by_cases hzero : bufDataLen buf = 0 <;> simp [RmapPkt.payload, bufPkt, hzero]

theorem Printable.covers (h : Printable buf) (hread : ¬ (bufRi buf).isRead)
    (hmore : (bufRi buf).hdrSize + 1 ≤ buf.length) :
    (bufRi buf).hdrSize + 1 + (bufDataLen buf).toNat ≤ buf.length := by
  by_cases hzero : bufDataLen buf = 0
  · simpa [hzero] using hmore
  · exact h.data hzero hread

/-- A length that the packet covers is not clamped. -/
theorem clamp_decoded {off : Nat} (hdata : off + (bufDataLen buf).toNat ≤ buf.length) :
    rmap_clamp_data_len (bufPkt buf).data_len buf.length off = bufDataLen buf :=
  if_neg (show ¬ (bufDataLen buf).toNat > buf.length - off by omega)

/-- A packet that ends with its header CRC has no data. -/
theorem bufPkt_no_payload (hend : buf.length ≤ (bufRi buf).hdrSize + 1) : (bufPkt buf).payload = [] := by
  rw [bufPkt_payload, List.drop_eq_nil_of_le hend, List.take_nil]

/-- The loop over all of the data. -/
theorem data_dumped (h : Printable buf) (hread : ¬ (bufRi buf).isRead)
    (hmore : (bufRi buf).hdrSize + 1 < buf.length) :
    Erases (loop (dump_byte buf ((bufRi buf).hdrSize + 1)) 0
      (rmap_clamp_data_len (bufPkt buf).data_len buf.length ((bufRi buf).hdrSize + 1)).toNat [])
      (.ok (bufPkt buf).payload) := by
  have hdata := h.covers hread hmore.le
  rw [clamp_decoded hdata, bufPkt_payload]
  exact dump_erases (by rwa [Nat.zero_add])

theorem replyPathLen_of_command (hcmd : (bufRi buf).cmd_resp) :
    (bufRi buf).reply_addr_len.toNat <<< 2 = (bufRi buf).replyPathLen := by
  simp [RmapInstruction.replyPathLen, hcmd, Nat.shiftLeft_eq]

/-- The data of a command start where the printout takes them from. -/
theorem command_data_off (hcmd : (bufRi buf).cmd_resp) :
    RMAP_DATA_START + RMAP_ADDR_EXTRA_OFFSET + (bufRi buf).replyPathLen = (bufRi buf).hdrSize + 1 := by
  simp only [RmapInstruction.hdrSize, RmapInstruction.minHdrSize, hcmd, RMAP_DATA_START, RMAP_ADDR_EXTRA_OFFSET,
    ↓reduceIte]
  omega

theorem cmd_addr_decoded (hcmd : (bufRi buf).cmd_resp) (hheader : (bufRi buf).hdrSize ≤ buf.length) :
    rmap_cmd_addr buf (bufRi buf).replyPathLen = .ok (bufPkt buf).addr := by
  simp only [RmapInstruction.hdrSize, RmapInstruction.minHdrSize, hcmd, ↓reduceIte] at hheader
  simp (disch := omega) only [rmap_cmd_addr, RMAP_ADDR_BYTE0, RMAP_ADDR_BYTE1, RMAP_ADDR_BYTE2, RMAP_ADDR_BYTE3,
    rd_ok, bind_ok, bufPkt, hcmd, ↓reduceIte]

/-- The length field is the end of the header. -/
theorem data_len_decoded {off : Nat} (hlength : (bufRi buf).hasLength) (hoff : 11 + off = (bufRi buf).hdrSize)
    (hheader : (bufRi buf).hdrSize ≤ buf.length) : rmap_read_data_len buf off = .ok (bufDataLen buf) := by
  simp (disch := omega) only [rmap_read_data_len, RMAP_DATALEN_BYTE0, RMAP_DATALEN_BYTE1, RMAP_DATALEN_BYTE2,
    rd_ok, bind_ok, bufDataLen, hlength, ↓reduceIte, ← hoff]
  congr <;> omega

theorem cmd_data_len_decoded (hcmd : (bufRi buf).cmd_resp) (hheader : (bufRi buf).hdrSize ≤ buf.length) :
    rmap_read_data_len buf (RMAP_ADDR_EXTRA_OFFSET + (bufRi buf).replyPathLen) = .ok (bufPkt buf).data_len := by
  apply data_len_decoded _ _ hheader
  · simp [RmapInstruction.hasLength, hcmd]
  · simp only [RmapInstruction.hdrSize, RmapInstruction.minHdrSize, hcmd, RMAP_ADDR_EXTRA_OFFSET, ↓reduceIte]
    omega

/-! ### Commands -/

theorem instruction_erases (h : CmdCovered buf) :
    Erases (statement (rd buf RMAP_INSTRUCTION)) (.ok (byteAt buf RMAP_INSTRUCTION)) :=
  h.instruction ▸ erases_statement _

theorem process_read_cmd_decoded (h : CmdCovered buf) (hcmd : (bufRi buf).cmd_resp)
    (hheader : (bufRi buf).hdrSize ≤ buf.length) :
    Erases (rmap_process_read_cmd buf) (.ok (.read (bufPkt buf).addr (bufPkt buf).data_len)) := by
  apply erases_bind_ok (instruction_erases h)
  dsimp only
  rw [← bufRi, replyPathLen_of_command hcmd, cmd_addr_decoded hcmd hheader, cmd_data_len_decoded hcmd hheader]
  exact erases_bind_ok (erases_statement _) (erases_bind_ok (erases_statement _) (erases_pure _))

theorem process_write_cmd_decoded (h : Printable buf) (hcovered : CmdCovered buf)
    (hcmd : (bufRi buf).cmd_resp) (hread : ¬ (bufRi buf).isRead) :
    Erases (rmap_process_write_cmd buf buf.length)
      (.ok (.write (bufPkt buf).addr (bufPkt buf).data_len (bufPkt buf).payload)) := by
  apply erases_bind_ok (instruction_erases hcovered)
  dsimp only
  rw [← bufRi, replyPathLen_of_command hcmd, cmd_addr_decoded hcmd h.header, cmd_data_len_decoded hcmd h.header,
    command_data_off hcmd]
  apply erases_bind_ok (erases_statement _)
  apply erases_bind_ok (erases_statement _)
  by_cases hmore : buf.length > (bufRi buf).hdrSize + 1
  · rw [if_pos hmore]
    exact erases_bind_ok (data_dumped h hread hmore) (erases_pure _)
  · rw [if_neg hmore, bufPkt_no_payload (by omega)]
    exact erases_pure _

theorem process_rmw_cmd_decoded (h : Printable buf) (hcovered : CmdCovered buf) (hcmd : (bufRi buf).cmd_resp)
    (hread : ¬ (bufRi buf).isRead) :
    Erases (rmap_process_rmw_cmd buf buf.length)
      (.ok (.rmw (bufPkt buf).addr (bufPkt buf).data_len
        ((bufPkt buf).payload.take ((bufPkt buf).payload.length / 2))
        ((bufPkt buf).payload.drop ((bufPkt buf).payload.length / 2)))) := by
  apply erases_bind_ok (instruction_erases hcovered)
  dsimp only
  rw [← bufRi, replyPathLen_of_command hcmd, cmd_addr_decoded hcmd h.header, cmd_data_len_decoded hcmd h.header,
    command_data_off hcmd]
  apply erases_bind_ok (erases_statement _)
  apply erases_bind_ok (erases_statement _)
  by_cases hmore : buf.length > (bufRi buf).hdrSize + 1
  · have hdata := h.covers hread hmore.le
    have hlen : (bufPkt buf).payload.length = (bufDataLen buf).toNat := by
      rw [bufPkt_payload, List.length_take, List.length_drop]
      omega
    have hhalf : (bufDataLen buf / 2).toNat = (bufDataLen buf).toNat / 2 := UInt32.toNat_div _ _
    rw [if_pos hmore, hlen, clamp_decoded hdata, hhalf, bufPkt_payload]
    -- the mask starts where half of the announced bytes end
    apply erases_bind_ok (a := ((buf.drop ((bufRi buf).hdrSize + 1)).take (bufDataLen buf).toNat).take
      ((bufDataLen buf).toNat / 2))
    · rw [List.take_take, Nat.min_eq_left (Nat.div_le_self _ _)]
      exact dump_erases (by omega)
    · apply erases_bind_ok (a := ((buf.drop ((bufRi buf).hdrSize + 1)).take (bufDataLen buf).toNat).drop
        ((bufDataLen buf).toNat / 2))
      · rw [List.drop_take, List.drop_drop]
        exact dump_erases (by omega)
      · exact erases_pure _
  · rw [if_neg hmore, bufPkt_no_payload (by omega)]
    exact erases_pure _

/-- A known code that neither reads nor modifies writes. -/
theorem RmapInstruction.writes_of_known {ri : RmapInstruction} (hknown : ri.knownCmd)
    (hread : ri.cmd.toNat ∉ [RMAP_READ_ADDR_SINGLE, RMAP_READ_ADDR_INC])
    (hrmw : ri.cmd.toNat ≠ RMAP_READ_MODIFY_WRITE_ADDR_INC) :
    ri.cmd.toNat ∈ [RMAP_WRITE_ADDR_SINGLE, RMAP_WRITE_ADDR_INC, RMAP_WRITE_ADDR_SINGLE_REPLY,
      RMAP_WRITE_ADDR_INC_REPLY, RMAP_WRITE_ADDR_SINGLE_VERIFY, RMAP_WRITE_ADDR_INC_VERIFY,
      RMAP_WRITE_ADDR_SINGLE_VERIFY_REPLY, RMAP_WRITE_ADDR_INC_VERIFY_REPLY] := by
  simp only [RmapInstruction.knownCmd, List.contains_iff_mem, List.mem_cons, List.not_mem_nil, or_false] at *
  tauto

theorem parse_cmd_pkt_decoded (h : Printable buf) (hcovered : CmdCovered buf) (hcmd : (bufRi buf).cmd_resp) :
    Erases (rmap_parse_cmd_pkt buf buf.length) (.ok (bufPkt buf).cmdReport) := by
  apply erases_bind_ok (instruction_erases hcovered)
  dsimp only
  rw [← bufRi, RmapPkt.cmdReport, bufPkt_ri]
  by_cases hread : (bufRi buf).cmd.toNat ∈ [RMAP_READ_ADDR_SINGLE, RMAP_READ_ADDR_INC]
  · rw [if_pos hread, if_pos hread]
    exact process_read_cmd_decoded hcovered hcmd h.header
  · rw [if_neg hread, if_neg hread]
    by_cases hrmw : (bufRi buf).cmd.toNat = RMAP_READ_MODIFY_WRITE_ADDR_INC
    · rw [if_pos hrmw, if_pos hrmw]
      exact process_rmw_cmd_decoded h hcovered hcmd fun hisRead => hread hisRead.2
    · rw [if_neg hrmw, if_neg hrmw, if_pos (RmapInstruction.writes_of_known h.known hread hrmw)]
      exact process_write_cmd_decoded h hcovered hcmd fun hisRead => hread hisRead.2

/-! ### Replies -/

/-- A reply has no reply path. -/
theorem replyPathLen_of_reply (hreply : (bufRi buf).cmd_resp = false) : (bufRi buf).replyPathLen = 0 := by
  simp [RmapInstruction.replyPathLen, hreply]

theorem process_read_reply_decoded (h : Printable buf) (hreply : (bufRi buf).cmd_resp = false)
    (hread : (bufRi buf).writeBit = false) :
    Erases (rmap_process_read_reply buf buf.length) (.ok (.read (bufPkt buf).data_len (bufPkt buf).payload)) := by
  have hsize : (bufRi buf).hdrSize = 11 := by
    simp [RmapInstruction.hdrSize, RmapInstruction.minHdrSize, hreply, hread, replyPathLen_of_reply]
  have hlength : (bufRi buf).hasLength := by simp [RmapInstruction.hasLength, hread]
  have hheader := h.header
  have hlong : ¬ buf.length < RMAP_DATALEN_BYTE2 + 1 := by
    simp only [RMAP_DATALEN_BYTE2]
    omega
  have hcommand : ¬ (bufRi buf).isRead := by simp [RmapInstruction.isRead, hreply]
  have hfield : rmap_read_data_len buf 0 = .ok (bufPkt buf).data_len :=
    data_len_decoded hlength hsize.symm h.header
  have hstart : RMAP_DATA_START = (bufRi buf).hdrSize + 1 := by rw [hsize, RMAP_DATA_START]
  rw [rmap_process_read_reply, if_neg hlong, hfield, hstart]
  apply erases_bind_ok (erases_statement _)
  by_cases hmore : buf.length > (bufRi buf).hdrSize + 1
  · rw [if_pos hmore]
    exact erases_bind_ok (data_dumped h hcommand hmore) (erases_pure _)
  · rw [if_neg hmore, bufPkt_no_payload (by omega)]
    exact erases_pure _

/-- The known codes without the write bit are those whose replies have data. -/
theorem RmapInstruction.reads_iff_of_known {ri : RmapInstruction} (hknown : ri.knownCmd) :
    ri.cmd.toNat ∈ [RMAP_READ_ADDR_SINGLE, RMAP_READ_ADDR_INC, RMAP_READ_MODIFY_WRITE_ADDR_INC] ↔
      ri.writeBit = false := by
  have hcmd : ri.cmd.toNat < 16 := ri.cmd.isLt
  unfold RmapInstruction.knownCmd at hknown
  unfold RmapInstruction.writeBit
  generalize ri.cmd.toNat = cmd at *
  interval_cases cmd <;> first | decide | cases hknown

theorem parse_reply_pkt_decoded (h : Printable buf) (hreply : (bufRi buf).cmd_resp = false)
    (hlong : 8 ≤ buf.length) :
    Erases (rmap_parse_reply_pkt buf buf.length) (.ok (bufPkt buf).replyReport) := by
  have hinstruction : rd buf RMAP_INSTRUCTION = .ok (byteAt buf RMAP_INSTRUCTION) :=
    rd_ok (by simp only [RMAP_INSTRUCTION]; omega)
  rw [rmap_parse_reply_pkt, hinstruction]
  apply erases_bind_ok (erases_statement _)
  dsimp only
  rw [← bufRi, RmapPkt.replyReport, bufPkt_ri]
  cases hwrite : (bufRi buf).writeBit with
  | false =>
    rw [if_pos ((RmapInstruction.reads_iff_of_known h.known).mpr hwrite), if_neg Bool.false_ne_true]
    exact process_read_reply_decoded h hreply hwrite
  | true =>
    have hnot := mt (RmapInstruction.reads_iff_of_known h.known).mp (by simp [hwrite])
    rw [if_neg hnot, if_pos rfl]
    split
    · exact erases_pure _
    · exact erases_pure _

/-! ### Packets -/

theorem parse_pkt_decoded (h : Printable buf) :
    Erases (rmap_parse_pkt buf buf.length) (.ok ((bufPkt buf).report buf.length)) := by
  have hmin := (bufRi buf).minHdrSize_ge
  have hheader := h.header
  rw [RmapInstruction.hdrSize] at hheader
  have hshort : ¬ buf.length < RMAP_REPLY_STATUS + 1 := by
    simp only [RMAP_REPLY_STATUS, RMAP_CMD_DESTKEY]
    omega
  have hproto : rd buf RMAP_PROTOCOL_ID_OFFSET = .ok RMAP_PROTOCOL_ID :=
    h.proto ▸ rd_ok (by simp only [RMAP_PROTOCOL_ID_OFFSET]; omega)
  have hinstruction : rd buf RMAP_INSTRUCTION = .ok (byteAt buf RMAP_INSTRUCTION) :=
    rd_ok (by simp only [RMAP_INSTRUCTION]; omega)
  have hstatus : rd buf RMAP_REPLY_STATUS = .ok (bufPkt buf).key :=
    rd_ok (by simp only [RMAP_REPLY_STATUS, RMAP_CMD_DESTKEY]; omega)
  rw [rmap_parse_pkt, if_neg hshort, hproto]
  apply erases_bind_ok (erases_statement _)
  rw [if_neg (not_not_intro rfl), hinstruction]
  apply erases_bind_ok (erases_statement _)
  dsimp only
  rw [← bufRi, RmapPkt.report, bufPkt_ri]
  cases hresp : (bufRi buf).cmd_resp with
  | true =>
    have hoff : RMAP_DATA_START + RMAP_ADDR_EXTRA_OFFSET + (bufRi buf).reply_addr_len.toNat <<< 2 =
        16 + (bufPkt buf).rpath_len := by
      rw [replyPathLen_of_command hresp]
      rfl
    rw [if_pos rfl, if_pos rfl, hoff]
    by_cases hend : buf.length < 16 + (bufPkt buf).rpath_len
    · rw [if_pos hend, if_pos hend]
      exact erases_pure _
    · rw [if_neg hend, if_neg hend]
      have hcovered : CmdCovered buf := ⟨by rw [replyPathLen_of_command hresp]; exact Nat.le_of_not_lt hend⟩
      exact erases_bind_ok (parse_cmd_pkt_decoded h hcovered hresp) (erases_pure _)
  | false =>
    have hoff : RMAP_HDR_MIN_SIZE_WRITE_REP + 1 = 8 := rfl
    rw [if_neg Bool.false_ne_true, if_neg Bool.false_ne_true, hoff]
    by_cases hend : buf.length < 8
    · rw [if_pos hend, if_pos hend]
      exact erases_pure _
    · rw [if_neg hend, if_neg hend, hstatus]
      apply erases_bind_ok (erases_statement _)
      rw [rmap_check_status]
      by_cases hkey : (bufPkt buf).key = 0
      · rw [if_pos hkey, if_pos hkey]
        exact erases_bind_ok (parse_reply_pkt_decoded h hresp (Nat.le_of_not_lt hend)) (erases_pure _)
      · rw [if_neg hkey, if_neg hkey]
        exact erases_pure _

end fields

/-! ### Encoded packets -/

section encoded

variable {pkt : RmapPkt} (hdr_crc : UInt8) {data : List UInt8} (rest : List UInt8)

/-- The packet with its data. -/
def RmapPkt.withData (pkt : RmapPkt) (data : List UInt8) : RmapPkt := { pkt with data := some data }

/-- What follows the header of an encoded packet: its CRC, the data that the
header announces, and anything. -/
theorem RmapPkt.printable_header (hpkt : pkt.Encodable)
    (hdata : pkt.ri.hasLength → ¬ pkt.ri.isRead → data.length = pkt.data_len.toNat) :
    Printable (pkt.header ++ (hdr_crc :: data ++ rest)) := by
  have hlen := RmapPkt.header_length_eq hpkt
  refine ⟨?_, ?_, ?_, fun hnonzero hread => ?_⟩
  · simpa using hpkt.known
  · rw [(pkt.byteAt_header_fixed _).2.1, hpkt.proto]
  · simp [hlen]
  · rw [RmapPkt.bufRi_header] at hread ⊢
    rw [RmapPkt.bufDataLen_header hpkt] at hnonzero ⊢
    by_cases hlength : pkt.ri.hasLength = true
    · rw [if_pos hlength, ← hdata hlength hread, List.length_append, hlen]
      simp
      omega
    · simp [hlength] at hnonzero

theorem RmapPkt.payload_header (hpkt : pkt.Encodable) (hlength : pkt.ri.hasLength)
    (hdata : data.length = pkt.data_len.toNat) :
    (bufPkt (pkt.header ++ (hdr_crc :: data ++ rest))).payload = data := by
  rw [bufPkt_payload, RmapPkt.bufRi_header, RmapPkt.bufDataLen_header hpkt, if_pos hlength,
    ← RmapPkt.header_length_eq hpkt, ← hdata, List.drop_length_add_append, List.cons_append, List.drop_one,
    List.tail_cons, List.take_left]

theorem RmapPkt.cmdReport_header (hpkt : pkt.Encodable) (hcmd : pkt.ri.cmd_resp)
    (hdata : ¬ pkt.ri.isRead → data.length = pkt.data_len.toNat) :
    (bufPkt (pkt.header ++ (hdr_crc :: data ++ rest))).cmdReport = (pkt.withData data).cmdReport := by
  have hlength : pkt.ri.hasLength := by simp [RmapInstruction.hasLength, hcmd]
  have hsame := RmapPkt.bufPkt_header_sameHeader hpkt (hdr_crc :: data ++ rest)
  rw [RmapPkt.cmdReport, bufPkt_ri, RmapPkt.bufRi_header, hsame.addr hcmd, hsame.data_len hlength]
  by_cases hread : pkt.ri.cmd.toNat ∈ [RMAP_READ_ADDR_SINGLE, RMAP_READ_ADDR_INC]
  · rw [if_pos hread]
    exact (if_pos hread).symm
  · rw [RmapPkt.payload_header hdr_crc rest hpkt hlength (hdata fun hisRead => hread hisRead.2)]
    rfl

theorem RmapPkt.replyReport_header (hpkt : pkt.Encodable)
    (hdata : pkt.ri.hasLength → data.length = pkt.data_len.toNat) :
    (bufPkt (pkt.header ++ (hdr_crc :: data ++ rest))).replyReport = (pkt.withData data).replyReport := by
  have hsame := RmapPkt.bufPkt_header_sameHeader hpkt (hdr_crc :: data ++ rest)
  rw [RmapPkt.replyReport, bufPkt_ri, RmapPkt.bufRi_header]
  cases hwrite : pkt.ri.writeBit with
  | true => exact (if_pos hwrite).symm
  | false =>
    have hlength : pkt.ri.hasLength := by simp [RmapInstruction.hasLength, hwrite]
    rw [hsame.data_len hlength, RmapPkt.payload_header hdr_crc rest hpkt hlength (hdata hlength)]
    exact (if_neg (by simp [RmapPkt.withData, hwrite])).symm

end encoded

/-- What is printed of an encoded packet are its own address, length and data,
whatever follows them, also of the read commands that the decoder refuses. -/
theorem rmap_parse_pkt_build_hdr {pkt : RmapPkt} (hpkt : pkt.Encodable) (hdr_crc : UInt8) {data : List UInt8}
    (hdata : pkt.ri.hasLength → ¬ pkt.ri.isRead → data.length = pkt.data_len.toNat) (rest : List UInt8) :
    ∃ hdr wire made, rmap_build_hdr pkt true = .ok (hdr.length, hdr) ∧
      wire = hdr.drop pkt.path_len ++ (hdr_crc :: data ++ rest) ∧
      rmap_parse_pkt wire wire.length [] = .ok
        (if pkt.ri.cmd_resp then .command (pkt.withData data).cmdReport
        else .reply pkt.key (if pkt.key = 0 then some (pkt.withData data).replyReport else none)) made := by
  have hlen := RmapPkt.header_length_eq hpkt
  have hmin := pkt.ri.minHdrSize_ge
  have hsame := RmapPkt.bufPkt_header_sameHeader hpkt (hdr_crc :: data ++ rest)
  obtain ⟨made, hrun⟩ := (parse_pkt_decoded (RmapPkt.printable_header hdr_crc rest hpkt hdata)).returns
  refine ⟨_, _, made, rmap_build_hdr_eq hpkt.fits, rfl, ?_⟩
  rw [RmapPkt.drop_targetPath hpkt.fits, hrun, RmapPkt.report, bufPkt_ri, RmapPkt.bufRi_header, hsame.key]
  congr 1
  cases hresp : pkt.ri.cmd_resp with
  | true =>
    have hdata' : ¬ pkt.ri.isRead → data.length = pkt.data_len.toNat :=
      hdata (by simp [RmapInstruction.hasLength, hresp])
    have hlong : ¬ (pkt.header ++ (hdr_crc :: data ++ rest)).length <
        16 + (bufPkt (pkt.header ++ (hdr_crc :: data ++ rest))).rpath_len := by
      rw [List.length_append, hlen, hsame.rpath_len, hpkt.reply_path, RmapInstruction.hdrSize,
        RmapInstruction.minHdrSize, hresp]
      simp
      omega
    rw [if_pos rfl, if_pos rfl, if_neg hlong, RmapPkt.cmdReport_header hdr_crc rest hpkt hresp hdata']
  | false =>
    have hdata' : pkt.ri.hasLength → data.length = pkt.data_len.toNat :=
      fun hlength => hdata hlength (by simp [RmapInstruction.isRead, hresp])
    have hlong : ¬ (pkt.header ++ (hdr_crc :: data ++ rest)).length < 8 := by
      rw [List.length_append, hlen, RmapInstruction.hdrSize]
      simp
      omega
    rw [if_neg Bool.false_ne_true, if_neg Bool.false_ne_true, if_neg hlong,
      RmapPkt.replyReport_header hdr_crc rest hpkt hdata']

/-- A read command that requests four bytes, with its header CRC behind it. -/
theorem rmap_parse_pkt_build_hdr_read :
    ∃ pkt : RmapPkt, pkt.ri.isRead ∧ pkt.data_len = 4 ∧ ∃ hdr wire made,
      rmap_build_hdr pkt true = .ok (hdr.length, hdr) ∧ wire = hdr.drop pkt.path_len ++ (0x5a :: [] ++ []) ∧
      rmap_parse_pkt wire wire.length [] = .ok
        (if pkt.ri.cmd_resp then .command (pkt.withData []).cmdReport
        else .reply pkt.key (if pkt.key = 0 then some (pkt.withData []).replyReport else none)) made :=
  have hbuilt := (Built.create.call true (.cmd 0x3) rfl).call true (.data_len 4) rfl
  have hread : RmapInstruction.isRead ⟨0, 0x3, true, false⟩ := ⟨rfl, by decide⟩
  ⟨_, hread, rfl, rmap_parse_pkt_build_hdr (hbuilt.encodable rfl) 0x5a (fun _ hnot => absurd hread hnot) []⟩

/-- The two readers of a packet agree: what the decoder accepts, whatever it is,
is printed with the address and the length that the decoder found and, but for a
read command, with the data, a reply with its status. Of a read command no data is
printed, also where the decoder took some. -/
theorem rmap_parse_pkt_decoded {alloc : Alloc} {buf : List UInt8} {pkt : RmapPkt}
    (h : rmap_pkt_from_buffer alloc buf = .ok (some pkt)) :
    ∃ made, rmap_parse_pkt buf buf.length [] = .ok (pkt.report buf.length) made := by
  obtain ⟨haccepts, rfl⟩ := rmap_pkt_from_buffer_some_iff.mp h
  exact (parse_pkt_decoded haccepts.printable).returns

/-- A write command with two bytes of data. -/
def writeCommand : List UInt8 :=
  [0x20, 0x01, 0x60, 0xab, 0x67, 0, 1, 0, 0x10, 0x20, 0x30, 0x40, 0, 0, 2, 0x5a, 0xca, 0xfe, 0xa5]

theorem rmap_parse_pkt_decoded_write :
    ∃ made, rmap_parse_pkt writeCommand writeCommand.length [] =
      .ok (.command (.write 0x10203040 2 [0xca, 0xfe])) made := by
  have hdecode : rmap_pkt_from_buffer .success writeCommand = .ok (some (bufPkt writeCommand)) := by decide
  have hreport : (bufPkt writeCommand).report writeCommand.length =
      .command (.write 0x10203040 2 [0xca, 0xfe]) := by decide
  exact hreport ▸ rmap_parse_pkt_decoded hdecode

end spw_bridge.rmap
