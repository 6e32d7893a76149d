import SpwBridge.Net.Forward

open effect words

namespace spw_bridge.net

variable {σ : Type}

/-- Receive one packet in the framing that the options select, with the sender
of a datagram. -/
def net_recv (E : Env σ) (cfg : BridgeCfg) (id : SvcId) (sockfd : Nat) :
    Prog σ (Option (List UInt8 × Option SockaddrIn)) :=
  if cfg.mode = .MODE_DGRAM then
    (Option.map fun (pkt, client) => (pkt, some client)) <$> recv_dgram_packet E sockfd
  else if cfg.interpret_pus then (Option.map fun pkt => (pkt, none)) <$> recv_pus_packet E id sockfd
  else if cfg.interpret_fee then (Option.map fun pkt => (pkt, none)) <$> recv_fee_packet E id sockfd
  else if cfg.enable_gresb then (Option.map fun pkt => (pkt, none)) <$> recv_gresb_packet E id sockfd
  else (Option.map fun pkt => (pkt, none)) <$> recv_raw_packet E id sockfd

/-- Only datagrams have a sender to register. -/
def register_sender (E : Env σ) (id : SvcId) : Option SockaddrIn → Prog σ Unit
  | none => pure ()
  | some client => dgram_add_client E id client

/-- The handler of the data service. Monitor mode only observes. -/
def net_to_spw (E : Env σ) (cfg : BridgeCfg) (id : SvcId) (sockfd : Nat) : Prog σ Unit := do
  let received ← net_recv E cfg id sockfd
  match received with
  | none => pure ()
  | some (pkt, client) => do
    sniff_push E cfg pkt
    register_sender E id client
    if cfg.enable_monitor then pure () else spw_send_packet E pkt

/-- The size field of a pseudo-RMAP command. -/
def rmap_cmd_size (hdr : List UInt8) : Nat :=
  (be32 (byteAt hdr 6) (byteAt hdr 7) (byteAt hdr 8) (byteAt hdr 9)).toNat

/-- Issue the command in `rec`; the payload of a write follows the header. -/
def rmap_issue (E : Env σ) (hdr rec : List UInt8) : Prog σ Unit :=
  if byteAt hdr 1 = 0 then
    spw_rmap_cmd E (byteAt hdr 0) 0 (be32 (byteAt hdr 2) (byteAt hdr 3) (byteAt hdr 4) (byteAt hdr 5)) []
  else
    spw_rmap_cmd E (byteAt hdr 0) 1 (be32 (byteAt hdr 2) (byteAt hdr 3) (byteAt hdr 4) (byteAt hdr 5))
      ((rec.drop 10).take (rmap_cmd_size hdr))

/-- The handler of the RMAP service. -/
def rmap_net_to_spw (E : Env σ) (sockfd : Nat) : Prog σ Unit := do
  let hdr ← peek_header E sockfd 10 .MSG_PEEK (rmap_conn_drop E sockfd)
  match hdr with
  | none => pure ()
  | some hdr =>
    if rmap_cmd_size hdr > MAX_SPW_PACKET_SIZE then rmap_conn_drop E sockfd
    else do
      let rec ← recv_body E sockfd (rmap_cmd_size hdr + 10) (rmap_conn_drop E sockfd)
      match rec with
      | none => pure ()
      | some rec => rmap_issue E hdr rec

/-- The handler of the GRESB transmit port. -/
def gresb_tx_to_spw (E : Env σ) (cfg : BridgeCfg) (sockfd : Nat) : Prog σ Unit := do
  let received ← recv_gresb_packet E .gresb_tx sockfd
  match received with
  | none => pure ()
  | some pkt => do
    sniff_push E cfg pkt
    if cfg.enable_monitor then pure () else spw_send_packet E pkt

def gresb_rx_discard_loop (E : Env σ) (id : SvcId) (sockfd : Nat) : Nat → Prog σ Unit
  | 0 => throw .hang
  | fuel + 1 => do
    let n ← recv E sockfd 4096 .MSG_DONTWAIT
    match n with
    | .error .EAGAIN => pure ()
    | .error _ | .bytes [] => conn_drop E id sockfd
    | .bytes (_ :: _) => gresb_rx_discard_loop E id sockfd fuel

/-- The handler of the GRESB receive port and of the sniffer: whatever a client
sends is discarded. -/
def gresb_rx_discard (E : Env σ) (id : SvcId) (sockfd : Nat) : Prog σ Unit := do
  let w ← get
  gresb_rx_discard_loop E id sockfd (E.patience w.env)

/-- The handler that `net_start` gives each service. -/
def handle_pkt (E : Env σ) (cfg : BridgeCfg) : SvcId → Nat → Prog σ Unit
  | .data => net_to_spw E cfg .data
  | .rmap => rmap_net_to_spw E
  | .gresb_tx => gresb_tx_to_spw E cfg
  | .gresb_rx => gresb_rx_discard E .gresb_rx
  | .sniff => gresb_rx_discard E .sniff

/-! ### What the handlers change before anything reaches the SpW side -/

section frames

variable {R : World σ → World σ → Prop} [IsPreorder (World σ) R]

theorem within_net_recv (hR : Listens R) (E : Env σ) (cfg : BridgeCfg) (id : SvcId) (sockfd : Nat) :
    Within R (net_recv E cfg id sockfd) := by
  have hS := hR.toReceives
  unfold net_recv
  refine within_ite (fun _ => within_map (within_recv_dgram_packet hS E sockfd) _) fun _ => ?_
  refine within_ite (fun _ => within_map (within_recv_pus_packet hR E id sockfd) _) fun _ => ?_
  refine within_ite (fun _ => within_map (within_recv_fee_packet hS E id sockfd) _) fun _ => ?_
  refine within_ite (fun _ => within_map (within_recv_gresb_packet hS E id sockfd) _) fun _ => ?_
  exact within_map (within_recv_raw_packet hS E id sockfd) _

theorem within_register_sender (hR : Listens R) (E : Env σ) (id : SvcId) (client : Option SockaddrIn) :
    Within R (register_sender E id client) := by
  cases client with
  | none => exact within_pure _
  | some client => exact within_dgram_add_client hR E id client

theorem within_gresb_rx_discard (hR : Receives R) (E : Env σ) (id : SvcId) (sockfd : Nat) :
    Within R (gresb_rx_discard E id sockfd) := by
  have hloop : ∀ fuel, Within R (gresb_rx_discard_loop E id sockfd fuel) := by
    intro fuel
    induction fuel with
    | zero => exact within_throw _
    | succ fuel ih =>
      apply within_bind (within_call hR _)
      intro n
      match n with
      | .error .EAGAIN => exact within_pure _
      | .error .EINTR | .error .ETIMEDOUT | .error (.other _) | .bytes [] =>
        exact within_conn_drop (hR.drops E id) sockfd
      | .bytes (_ :: _) => exact ih
  exact within_bind within_get fun w => hloop _

end frames

end spw_bridge.net
