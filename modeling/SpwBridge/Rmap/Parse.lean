import SpwBridge.Library.Metered
import SpwBridge.Rmap.Decode

open metered words

namespace spw_bridge.rmap

def RMAP_REPLY_STATUS : Nat := RMAP_CMD_DESTKEY
def RMAP_ADDR_EXTRA_OFFSET : Nat := 4

/-- What is printed of a command: the address, the announced length and the
bytes of its data. -/
inductive CmdReport
  | read (addr data_len : UInt32)
  | write (addr data_len : UInt32) (data : List UInt8)
  | rmw (addr data_len : UInt32) (data mask : List UInt8)
  | not_implemented (cmd : Nat)
  deriving DecidableEq, Repr

/-- What is printed of a reply. -/
inductive ReplyReport
  | read_too_short (len : Nat)
  | read (data_len : UInt32) (data : List UInt8)
  | write (cmd : Nat)
  | not_implemented (cmd : Nat)
  deriving DecidableEq, Repr

/-- What `rmap_parse_pkt` prints. A reply is followed by its contents if its
status is zero. -/
inductive ParseReport
  | too_short (len : Nat)
  | not_rmap (proto_id : UInt8)
  | command_too_short (len : Nat)
  | command (report : CmdReport)
  | reply_too_short (len : Nat)
  | reply (status : UInt8) (report : Option ReplyReport)
  deriving DecidableEq, Repr

/-- The loop body `DBG("%02x:", pkt[off + i])`. -/
def dump_byte (pkt : List UInt8) (off i : Nat) (printed : List UInt8) : Except Fault (List UInt8) := do
  let b ← rd pkt (off + i)
  .ok (printed ++ [b])

def rmap_cmd_addr (pkt : List UInt8) (rpath_len : Nat) : Except Fault UInt32 := do
  let a0 ← rd pkt (RMAP_ADDR_BYTE0 + rpath_len)
  let a1 ← rd pkt (RMAP_ADDR_BYTE1 + rpath_len)
  let a2 ← rd pkt (RMAP_ADDR_BYTE2 + rpath_len)
  let a3 ← rd pkt (RMAP_ADDR_BYTE3 + rpath_len)
  .ok (be32 a0 a1 a2 a3)

/-- The length field, `off` bytes behind its place in a reply. -/
def rmap_read_data_len (pkt : List UInt8) (off : Nat) : Except Fault UInt32 := do
  let b0 ← rd pkt (RMAP_DATALEN_BYTE0 + off)
  let b1 ← rd pkt (RMAP_DATALEN_BYTE1 + off)
  let b2 ← rd pkt (RMAP_DATALEN_BYTE2 + off)
  .ok (be24 b0 b1 b2)

/-- `if (data_len > len - data_off) data_len = (uint32_t)(len - data_off);` -/
def rmap_clamp_data_len (data_len : UInt32) (len data_off : Nat) : UInt32 :=
  if data_len.toNat > len - data_off then UInt32.ofNat (len - data_off) else data_len

def rmap_process_write_cmd (pkt : List UInt8) (len : Nat) : Metered Fault CmdReport := do
  let instruction ← statement (rd pkt RMAP_INSTRUCTION)
  let rpath_len := (RmapInstruction.ofUInt8 instruction).reply_addr_len.toNat <<< 2
  let data_off := RMAP_DATA_START + RMAP_ADDR_EXTRA_OFFSET + rpath_len
  let addr ← statement (rmap_cmd_addr pkt rpath_len)
  let data_len ← statement (rmap_read_data_len pkt (RMAP_ADDR_EXTRA_OFFSET + rpath_len))
  if len > data_off then do
    let n := rmap_clamp_data_len data_len len data_off
    let data ← loop (dump_byte pkt data_off) 0 n.toNat []
    pure (.write addr data_len data)
  else pure (.write addr data_len [])

def rmap_process_read_cmd (pkt : List UInt8) : Metered Fault CmdReport := do
  let instruction ← statement (rd pkt RMAP_INSTRUCTION)
  let rpath_len := (RmapInstruction.ofUInt8 instruction).reply_addr_len.toNat <<< 2
  let addr ← statement (rmap_cmd_addr pkt rpath_len)
  let data_len ← statement (rmap_read_data_len pkt (RMAP_ADDR_EXTRA_OFFSET + rpath_len))
  pure (.read addr data_len)

def rmap_process_rmw_cmd (pkt : List UInt8) (len : Nat) : Metered Fault CmdReport := do
  let instruction ← statement (rd pkt RMAP_INSTRUCTION)
  let rpath_len := (RmapInstruction.ofUInt8 instruction).reply_addr_len.toNat <<< 2
  let data_off := RMAP_DATA_START + RMAP_ADDR_EXTRA_OFFSET + rpath_len
  let addr ← statement (rmap_cmd_addr pkt rpath_len)
  let data_len ← statement (rmap_read_data_len pkt (RMAP_ADDR_EXTRA_OFFSET + rpath_len))
  if len > data_off then do
    let n := rmap_clamp_data_len data_len len data_off
    let data ← loop (dump_byte pkt data_off) 0 (n / 2).toNat []
    let mask ← loop (dump_byte pkt data_off) (n / 2).toNat (n.toNat - (n / 2).toNat) []
    pure (.rmw addr data_len data mask)
  else pure (.rmw addr data_len [] [])

def rmap_process_read_reply (pkt : List UInt8) (len : Nat) : Metered Fault ReplyReport := do
  if len < RMAP_DATALEN_BYTE2 + 1 then pure (.read_too_short len)
  else do
    let data_len ← statement (rmap_read_data_len pkt 0)
    if len > RMAP_DATA_START then do
      let n := rmap_clamp_data_len data_len len RMAP_DATA_START
      let data ← loop (dump_byte pkt RMAP_DATA_START) 0 n.toNat []
      pure (.read data_len data)
    else pure (.read data_len [])

def rmap_parse_cmd_pkt (pkt : List UInt8) (len : Nat) : Metered Fault CmdReport := do
  let instruction ← statement (rd pkt RMAP_INSTRUCTION)
  let cmd := (RmapInstruction.ofUInt8 instruction).cmd.toNat
  if cmd ∈ [RMAP_READ_ADDR_SINGLE, RMAP_READ_ADDR_INC] then rmap_process_read_cmd pkt
  else if cmd = RMAP_READ_MODIFY_WRITE_ADDR_INC then rmap_process_rmw_cmd pkt len
  else if cmd ∈ [RMAP_WRITE_ADDR_SINGLE, RMAP_WRITE_ADDR_INC, RMAP_WRITE_ADDR_SINGLE_REPLY,
      RMAP_WRITE_ADDR_INC_REPLY, RMAP_WRITE_ADDR_SINGLE_VERIFY, RMAP_WRITE_ADDR_INC_VERIFY,
      RMAP_WRITE_ADDR_SINGLE_VERIFY_REPLY, RMAP_WRITE_ADDR_INC_VERIFY_REPLY] then
    rmap_process_write_cmd pkt len
  else pure (.not_implemented cmd)

def rmap_parse_reply_pkt (pkt : List UInt8) (len : Nat) : Metered Fault ReplyReport := do
  let instruction ← statement (rd pkt RMAP_INSTRUCTION)
  let cmd := (RmapInstruction.ofUInt8 instruction).cmd.toNat
  if cmd ∈ [RMAP_READ_ADDR_SINGLE, RMAP_READ_ADDR_INC, RMAP_READ_MODIFY_WRITE_ADDR_INC] then
    rmap_process_read_reply pkt len
  else if cmd ∈ [RMAP_WRITE_ADDR_SINGLE_REPLY, RMAP_WRITE_ADDR_INC_REPLY,
      RMAP_WRITE_ADDR_SINGLE_VERIFY_REPLY, RMAP_WRITE_ADDR_INC_VERIFY_REPLY] then pure (.write cmd)
  else pure (.not_implemented cmd)

/-- The status is printed and returned. -/
def rmap_check_status (status : UInt8) : UInt8 := status

/-- The debug printout of a packet that starts at the target logical address. -/
def rmap_parse_pkt (pkt : List UInt8) (len : Nat) : Metered Fault ParseReport := do
  if len < RMAP_REPLY_STATUS + 1 then pure (.too_short len)
  else do
    let proto_id ← statement (rd pkt RMAP_PROTOCOL_ID_OFFSET)
    if proto_id ≠ RMAP_PROTOCOL_ID then pure (.not_rmap proto_id)
    else do
      let instruction ← statement (rd pkt RMAP_INSTRUCTION)
      let ri := RmapInstruction.ofUInt8 instruction
      if ri.cmd_resp then
        let rpath_len := ri.reply_addr_len.toNat <<< 2
        if len < RMAP_DATA_START + RMAP_ADDR_EXTRA_OFFSET + rpath_len then pure (.command_too_short len)
        else do
          let report ← rmap_parse_cmd_pkt pkt len
          pure (.command report)
      else if len < RMAP_HDR_MIN_SIZE_WRITE_REP + 1 then pure (.reply_too_short len)
      else do
        let status ← statement (rd pkt RMAP_REPLY_STATUS)
        if rmap_check_status status = 0 then do
          let report ← rmap_parse_reply_pkt pkt len
          pure (.reply status (some report))
        else pure (.reply status none)

/-- The clamped length stays within the packet behind the data offset. -/
theorem clamp_data_len_le {data_len : UInt32} {len data_off : Nat} (hoff : data_off < len) :
    data_off + (rmap_clamp_data_len data_len len data_off).toNat ≤ len := by
  have hlt := data_len.toNat_lt
  unfold rmap_clamp_data_len
  split
  · rw [UInt32.toNat_ofNat']
    have hmod := Nat.mod_le (len - data_off) (2 ^ 32)
    omega
  · omega

/-- A stretch of the packet is printed within as many rounds as it has bytes. -/
theorem dump_runs {pkt : List UInt8} {off i n : Nat} (hin : off + (i + n) ≤ pkt.length) :
    Runs pkt.length (loop (dump_byte pkt off) i n []) := by
  apply runs_loop
  · intro k printed hk
    refine ⟨printed ++ [byteAt pkt (off + k)], ?_⟩
    rw [dump_byte, rd_ok (by omega), bind_ok]
  · omega

/-- The header of a command that passed the length check. -/
structure CmdCovered (pkt : List UInt8) : Prop where
  header : 16 + (bufRi pkt).reply_addr_len.toNat <<< 2 ≤ pkt.length

theorem CmdCovered.instruction {pkt : List UInt8} (h : CmdCovered pkt) :
    rd pkt RMAP_INSTRUCTION = .ok (byteAt pkt RMAP_INSTRUCTION) := by
  have hheader := h.header
  exact rd_ok (by simp only [RMAP_INSTRUCTION]; omega)

theorem CmdCovered.addr {pkt : List UInt8} (h : CmdCovered pkt) :
    ∃ addr, rmap_cmd_addr pkt ((bufRi pkt).reply_addr_len.toNat <<< 2) = .ok addr := by
  have hheader := h.header
  simp (disch := omega) only [rmap_cmd_addr, RMAP_ADDR_BYTE0, RMAP_ADDR_BYTE1, RMAP_ADDR_BYTE2, RMAP_ADDR_BYTE3,
    rd_ok, bind_ok]
  exact ⟨_, rfl⟩

theorem read_data_len_ok {pkt : List UInt8} {off : Nat} (hin : 11 + off ≤ pkt.length) :
    ∃ data_len, rmap_read_data_len pkt off = .ok data_len := by
  simp (disch := omega) only [rmap_read_data_len, RMAP_DATALEN_BYTE0, RMAP_DATALEN_BYTE1, RMAP_DATALEN_BYTE2,
    rd_ok, bind_ok]
  exact ⟨_, rfl⟩

theorem CmdCovered.data_len {pkt : List UInt8} (h : CmdCovered pkt) :
    ∃ data_len, rmap_read_data_len pkt
      (RMAP_ADDR_EXTRA_OFFSET + (bufRi pkt).reply_addr_len.toNat <<< 2) = .ok data_len := by
  have hheader := h.header
  apply read_data_len_ok
  simp only [RMAP_ADDR_EXTRA_OFFSET]
  omega

theorem process_read_cmd_runs {pkt : List UInt8} (h : CmdCovered pkt) :
    Runs pkt.length (rmap_process_read_cmd pkt) := by
  obtain ⟨addr, haddr⟩ := h.addr
  obtain ⟨data_len, hlen⟩ := h.data_len
  apply runs_bind_statement h.instruction
  apply runs_bind_statement haddr
  apply runs_bind_statement hlen
  exact runs_pure _ _

theorem process_write_cmd_runs {pkt : List UInt8} (h : CmdCovered pkt) :
    Runs pkt.length (rmap_process_write_cmd pkt pkt.length) := by
  obtain ⟨addr, haddr⟩ := h.addr
  obtain ⟨data_len, hlen⟩ := h.data_len
  apply runs_bind_statement h.instruction
  apply runs_bind_statement haddr
  apply runs_bind_statement hlen
  apply runs_ite
  · intro hmore
    apply runs_bind
    · apply dump_runs
      have hclamp := @clamp_data_len_le data_len _ _ hmore
      rw [Nat.zero_add]
      exact hclamp
    · exact fun data => runs_pure _ _
  · exact fun _ => runs_pure _ _

/-- The data and its mask share the clamped length. -/
theorem rmw_halves {n : UInt32} {off len : Nat} (h : off + n.toNat ≤ len) :
    off + (0 + (n / 2).toNat) ≤ len ∧ off + ((n / 2).toNat + (n.toNat - (n / 2).toNat)) ≤ len := by
  have hhalf : (n / 2).toNat ≤ n.toNat := by
    rw [UInt32.toNat_div]
    exact Nat.div_le_self _ _
  omega

theorem process_rmw_cmd_runs {pkt : List UInt8} (h : CmdCovered pkt) :
    Runs pkt.length (rmap_process_rmw_cmd pkt pkt.length) := by
  obtain ⟨addr, haddr⟩ := h.addr
  obtain ⟨data_len, hlen⟩ := h.data_len
  apply runs_bind_statement h.instruction
  apply runs_bind_statement haddr
  apply runs_bind_statement hlen
  apply runs_ite
  · intro hmore
    obtain ⟨hdata, hmask⟩ := rmw_halves (@clamp_data_len_le data_len _ _ hmore)
    apply runs_bind (dump_runs hdata)
    intro data
    apply runs_bind (dump_runs hmask)
    exact fun mask => runs_pure _ _
  · exact fun _ => runs_pure _ _

theorem process_read_reply_runs (pkt : List UInt8) :
    Runs pkt.length (rmap_process_read_reply pkt pkt.length) := by
  apply runs_ite
  · exact fun _ => runs_pure _ _
  · intro hlong
    simp only [RMAP_DATALEN_BYTE2] at hlong
    obtain ⟨data_len, hlen⟩ := @read_data_len_ok pkt 0 (by omega)
    apply runs_bind_statement hlen
    apply runs_ite
    · intro hmore
      apply runs_bind
      · apply dump_runs
        rw [Nat.zero_add]
        exact clamp_data_len_le hmore
      · exact fun data => runs_pure _ _
    · exact fun _ => runs_pure _ _

theorem parse_cmd_pkt_runs {pkt : List UInt8} (h : CmdCovered pkt) :
    Runs pkt.length (rmap_parse_cmd_pkt pkt pkt.length) := by
  apply runs_bind_statement h.instruction
  apply runs_ite (fun _ => process_read_cmd_runs h)
  intro _
  apply runs_ite (fun _ => process_rmw_cmd_runs h)
  intro _
  exact runs_ite (fun _ => process_write_cmd_runs h) (fun _ => runs_pure _ _)

theorem parse_reply_pkt_runs {pkt : List UInt8} (hlong : 8 ≤ pkt.length) :
    Runs pkt.length (rmap_parse_reply_pkt pkt pkt.length) := by
  apply runs_bind_statement (rd_ok (by simp only [RMAP_INSTRUCTION]; omega))
  apply runs_ite (fun _ => process_read_reply_runs pkt)
  intro _
  exact runs_ite (fun _ => runs_pure _ _) (fun _ => runs_pure _ _)

/-- The printout of any packet stays within it, by one length check for each
kind of packet. -/
theorem rmap_parse_pkt_runs (pkt : List UInt8) : Runs pkt.length (rmap_parse_pkt pkt pkt.length) := by
  apply runs_ite (fun _ => runs_pure _ _)
  intro hlong
  simp only [RMAP_REPLY_STATUS, RMAP_CMD_DESTKEY] at hlong
  apply runs_bind_statement (rd_ok (by simp only [RMAP_PROTOCOL_ID_OFFSET]; omega))
  apply runs_ite (fun _ => runs_pure _ _)
  intro _
  apply runs_bind_statement (rd_ok (by simp only [RMAP_INSTRUCTION]; omega))
  apply runs_ite
  · intro _
    apply runs_ite (fun _ => runs_pure _ _)
    intro hcovered
    simp only [RMAP_DATA_START, RMAP_ADDR_EXTRA_OFFSET, Nat.not_lt] at hcovered
    exact runs_bind (parse_cmd_pkt_runs ⟨hcovered⟩) fun _ => runs_pure _ _
  · intro _
    apply runs_ite (fun _ => runs_pure _ _)
    intro hreply
    simp only [RMAP_HDR_MIN_SIZE_WRITE_REP, Nat.not_lt] at hreply
    apply runs_bind_statement (rd_ok (by simp only [RMAP_REPLY_STATUS, RMAP_CMD_DESTKEY]; omega))
    apply runs_ite
    · exact fun _ => runs_bind (parse_reply_pkt_runs hreply) fun _ => runs_pure _ _
    · exact fun _ => runs_pure _ _

end spw_bridge.rmap
