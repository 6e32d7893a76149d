import SpwBridge.Net.Framers

open effect

namespace spw_bridge.net

variable {σ : Type}

/-- Hand a packet to the sniffer clients. The port is only opened when the
option is given. -/
def sniff_push (E : Env σ) (cfg : BridgeCfg) (buf : List UInt8) : Prog σ Unit := do
  let svc ← get_svc .sniff
  if svc.sock_fd = 0 then pure ()
  else if cfg.sniff_gresb then do
    let alloc ← malloc E
    match gresb_create_host_data_pkt alloc buf with
    | none => pure ()
    | some out => broadcast E .sniff (gresb_host_msg out)
  else broadcast E .sniff buf

def dgram_add_client (E : Env σ) (id : SvcId) (client : SockaddrIn) : Prog σ Unit := do
  let svc ← get_svc id
  if client ∈ svc.clients then pure ()
  else if svc.clients.length = svc.clients_cap then do
    let tmp ← malloc E
    if tmp then
      let cap := if svc.clients_cap ≠ 0 then svc.clients_cap * 2 else 4
      modify_svc id fun svc => { svc with clients := svc.clients ++ [client], clients_cap := cap }
    else pure ()
  else modify_svc id fun svc => { svc with clients := svc.clients ++ [client], clients_cap := svc.clients_cap }

def dgram_send_all (E : Env σ) (id : SvcId) (buf : List UInt8) : Prog σ Unit := do
  let svc ← get_svc id
  forM svc.clients fun client => do
    syscall fun s => ((), E.sendto s svc.sock_fd buf client)
    log_net (.sendto client buf)

def gresb_push_rx_clients (E : Env σ) (cfg : BridgeCfg) (buf : List UInt8) : Prog σ Unit := do
  let svc ← get_svc .gresb_rx
  if cfg.mode ≠ .MODE_SERVER ∨ svc.sock_fd = 0 then pure ()
  else do
    let alloc ← malloc E
    match gresb_create_host_data_pkt alloc buf with
    | none => pure ()
    | some gresb_pkt => broadcast E .gresb_rx (gresb_host_msg gresb_pkt)

/-- Forward a packet received on the SpW link to the net clients. -/
def net_forward_to_clients (E : Env σ) (cfg : BridgeCfg) (buf : List UInt8) : Prog σ Unit := do
  sniff_push E cfg buf
  if cfg.mode = .MODE_DGRAM then
    if cfg.enable_gresb then do
      let alloc ← malloc E
      match gresb_create_host_data_pkt alloc buf with
      | none => pure ()
      | some gresb_pkt => do
        dgram_send_all E .data (gresb_host_msg gresb_pkt)
        gresb_push_rx_clients E cfg buf
    else dgram_send_all E .data buf
  else if cfg.enable_gresb then do
    let alloc ← malloc E
    match gresb_create_host_data_pkt alloc buf with
    | none => pure ()
    | some gresb_pkt => do
      broadcast E .data (gresb_host_msg gresb_pkt)
      gresb_push_rx_clients E cfg buf
  else broadcast E .data buf

/-- The bytes before the data of a pseudo-RMAP reply. -/
def rmap_reply_hdr (pkt : rmap.RmapPkt) : List UInt8 :=
  [pkt.dst, UInt8.ofNat (pkt.ri.cmd.toNat &&& rmap.RMAP_CMD_BIT_WRITE),
    (pkt.addr >>> 24).toUInt8, (pkt.addr >>> 16).toUInt8, (pkt.addr >>> 8).toUInt8, pkt.addr.toUInt8,
    (pkt.data_len >>> 24).toUInt8, (pkt.data_len >>> 16).toUInt8, (pkt.data_len >>> 8).toUInt8,
    pkt.data_len.toUInt8]

/-- The size that is allocated for a reply message and sent: data only on
write. -/
def rmap_reply_size (pkt : rmap.RmapPkt) : Nat :=
  1 + 1 + 4 + 4 + if pkt.ri.writeBit then pkt.data_len.toNat else 0

/-- Fill the zeroed message buffer. The copy loop runs over `data_len` bytes,
whatever was allocated. -/
def rmap_reply_msg (pkt : rmap.RmapPkt) : Except Fault (List UInt8) :=
  let tmp := rmap_reply_hdr pkt ++ List.replicate (rmap_reply_size pkt - 10) 0
  match pkt.data with
  | none => if pkt.data_len = 0 then .ok tmp else .error .null
  | some data => copy_loop tmp 10 data 0 pkt.data_len.toNat

/-- Send a packet that decodes as RMAP to the clients of the RMAP service. -/
def rmap_reply_to_clients (E : Env σ) (cfg : BridgeCfg) (buf : List UInt8) : Prog σ Unit := do
  let alloc ← alloc_pkt E
  let pkt ← lift (rmap.rmap_pkt_from_buffer alloc (buf.drop cfg.skip_header_bytes))
  match pkt with
  | none => pure ()
  | some pkt => do
    let tmp ← malloc E
    if tmp then do
      let msg ← lift (rmap_reply_msg pkt)
      broadcast E .rmap msg
    else pure ()

/-- Check a packet against the counters of the direction from the SpW side. -/
def check_pus_sequence_rx (E : Env σ) (pkt : List UInt8) : Prog σ Unit := do
  let alloc ← malloc E
  let w ← get
  let (_, t) ← lift (check_pus_sequence alloc pkt w.pus_seq_rx)
  modify fun w => { w with pus_seq_rx := t }

/-- Handle a complete packet received on the SpW link. -/
def net_pkt_sink (E : Env σ) (cfg : BridgeCfg) (buf : List UInt8) : Prog σ Unit :=
  if buf.length ≤ cfg.skip_header_bytes then pure ()
  else if cfg.enable_rmap ∧ buf.length > cfg.skip_header_bytes + 1 ∧
      byteAt buf (cfg.skip_header_bytes + 1) = 0x1 then rmap_reply_to_clients E cfg buf
  else do
    if cfg.interpret_pus then check_pus_sequence_rx E (buf.drop cfg.skip_header_bytes)
    net_forward_to_clients E cfg (buf.drop cfg.skip_header_bytes)

/-- Handle a packet received on one of the two links in monitor mode: it is
copied verbatim to the other link and handed to the observing clients. -/
def spw_pkt_sink_monitor (E : Env σ) (cfg : BridgeCfg) (chan : Chan) (buf : List UInt8) : Prog σ Unit := do
  let w ← get
  if spw_link_ready cfg w then spw_send_packet_chan E (!chan) buf
  net_forward_to_clients E cfg buf

/-! ### What forwarding changes -/

section frames

variable {R : World σ → World σ → Prop} [IsPreorder (World σ) R] (hR : Sockets R)

include hR

theorem within_sniff_push (E : Env σ) (cfg : BridgeCfg) (buf : List UInt8) :
    Within R (sniff_push E cfg buf) := by
  refine within_bind (within_get_svc .sniff) fun svc => ?_
  refine within_ite (fun _ => within_pure _) fun _ => ?_
  refine within_ite (fun _ => ?_) fun _ => within_broadcast hR E .sniff buf
  apply within_bind (within_env hR _)
  intro alloc
  cases gresb_create_host_data_pkt alloc buf with
  | none => exact within_pure _
  | some out => exact within_broadcast hR E .sniff _

theorem within_dgram_send_all (E : Env σ) (id : SvcId) (buf : List UInt8) :
    Within R (dgram_send_all E id buf) := by
  refine within_bind (within_get_svc id) fun svc => within_forM fun client _ => ?_
  exact within_bind (within_env hR _) fun _ => within_log_net hR _

theorem within_gresb_push_rx_clients (E : Env σ) (cfg : BridgeCfg) (buf : List UInt8) :
    Within R (gresb_push_rx_clients E cfg buf) := by
  refine within_bind (within_get_svc .gresb_rx) fun svc => ?_
  refine within_ite (fun _ => within_pure _) fun _ => ?_
  apply within_bind (within_env hR _)
  intro alloc
  cases gresb_create_host_data_pkt alloc buf with
  | none => exact within_pure _
  | some out => exact within_broadcast hR E .gresb_rx _

theorem within_net_forward_to_clients (E : Env σ) (cfg : BridgeCfg) (buf : List UInt8) :
    Within R (net_forward_to_clients E cfg buf) := by
  apply within_bind (within_sniff_push hR E cfg buf)
  intro _
  refine within_ite (fun _ => within_ite (fun _ => ?_) fun _ => within_dgram_send_all hR E .data buf) fun _ =>
    within_ite (fun _ => ?_) fun _ => within_broadcast hR E .data buf
  · apply within_bind (within_env hR _)
    intro alloc
    cases gresb_create_host_data_pkt alloc buf with
    | none => exact within_pure _
    | some gresb_pkt =>
      exact within_bind (within_dgram_send_all hR E .data _) fun _ =>
        within_gresb_push_rx_clients hR E cfg buf
  · apply within_bind (within_env hR _)
    intro alloc
    cases gresb_create_host_data_pkt alloc buf with
    | none => exact within_pure _
    | some gresb_pkt =>
      exact within_bind (within_broadcast hR E .data _) fun _ =>
        within_gresb_push_rx_clients hR E cfg buf

omit hR in
theorem within_dgram_add_client (hR : Listens R) (E : Env σ) (id : SvcId) (client : SockaddrIn) :
    Within R (dgram_add_client E id client) := by
  refine within_bind (within_get_svc id) fun svc => ?_
  refine within_ite (fun _ => within_pure _) fun _ => within_ite (fun _ => ?_) fun _ => ?_
  · refine within_bind (within_call hR.toReceives _) fun tmp => within_ite (fun _ => ?_) fun _ => within_pure _
    exact within_modify fun w => hR.clients w id _ _
  · exact within_modify fun w => hR.clients w id _ _

end frames

end spw_bridge.net
