import SpwBridge.Net.Boundaries
import SpwBridge.Net.Handlers

open effect framing words

namespace spw_bridge.net

variable {sockfd : Nat} {build : RmapRequest → Option (List UInt8)}

/-- A FEE packet: ten header bytes and the data that the length field counts. -/
def feeFormat : Format UInt8 where
  hdr := 10
  size front := (be16 (byteAt front 2) (byteAt front 3)).toNat + 10
  hdr_pos := Nat.zero_lt_succ _
  hdr_le _ := Nat.le_add_left 10 _

/-- What the RMAP service takes for one command: ten header bytes and as many
more as the size field says. -/
def rmapFormat : Format UInt8 where
  hdr := 10
  size front := (be32 (byteAt front 6) (byteAt front 7) (byteAt front 8) (byteAt front 9)).toNat + 10
  hdr_pos := Nat.zero_lt_succ _
  hdr_le _ := Nat.le_add_left 10 _

/-- The ways to cut a byte stream into packets for the SpW side. -/
inductive StreamKind
  | pus
  | fee
  | gresb
  | rmap
  deriving DecidableEq, Repr

def StreamKind.format : StreamKind → Format UInt8
  | .pus => pusFormat
  | .fee => feeFormat
  | .gresb => gresbFormat
  | .rmap => rmapFormat

/-- How a service frames its stream. Datagrams, raw streams and what is
discarded have no frames. -/
def framing (cfg : BridgeCfg) : SvcId → Option StreamKind
  | .data =>
    if cfg.mode = .MODE_DGRAM then none
    else if cfg.interpret_pus then some .pus
    else if cfg.interpret_fee then some .fee
    else if cfg.enable_gresb then some .gresb
    else none
  | .rmap => some .rmap
  | .gresb_tx => some .gresb
  | .gresb_rx | .sniff => none

/-- The complete packets of a kind. -/
def StreamKind.Packet (kind : StreamKind) (frame : List UInt8) : Prop :=
  kind.format.IsFrame frame ∧
    match kind with
    | .fee => byteAt frame 1 = FEE_DATA_PROTOCOL
    | .rmap => frame.length ≤ MAX_SPW_PACKET_SIZE + 10
    | .pus | .gresb => True

instance (kind : StreamKind) (frame : List UInt8) : Decidable (kind.Packet frame) := by
  cases kind <;> exact inferInstanceAs (Decidable (_ ∧ _))

/-- What a packet becomes on the SpW side. -/
def StreamKind.call (kind : StreamKind) (frame : List UInt8) : SpwCall :=
  match kind with
  | .pus | .fee => .send_packet false frame
  | .gresb => .send_packet false (frame.drop 4)
  | .rmap =>
    if byteAt frame 1 = 0 then
      .rmap_cmd (byteAt frame 0) 0 (be32 (byteAt frame 2) (byteAt frame 3) (byteAt frame 4) (byteAt frame 5)) []
    else
      .rmap_cmd (byteAt frame 0) 1 (be32 (byteAt frame 2) (byteAt frame 3) (byteAt frame 4) (byteAt frame 5))
        (frame.drop 10)

/-- The packets and commands that were handed to the SpW side. -/
def handed (calls : List SpwCall) : List SpwCall :=
  calls.filter fun
    | .rmap_cmd .. | .send_packet .. => true
    | .submit .. | .transmit .. => false

/-- A stretch of a run that takes `n` bytes from the connection and makes
`calls` of the SpW side. -/
structure Delivered (n : Nat) (calls : List SpwCall) (w after : World TcpState) : Prop where
  took : Took n w.env after.env
  svc : after.svc = w.svc
  spw : after.spw = w.spw
  handed : handed after.spw_log = handed w.spw_log ++ calls

theorem Delivered.refl (w : World TcpState) : Delivered 0 [] w w :=
  ⟨Took.refl _, rfl, rfl, (List.append_nil _).symm⟩

theorem Delivered.net_log (calls : List NetCall) (w : World TcpState) :
    Delivered 0 [] w { w with net_log := calls } :=
  ⟨Took.refl _, rfl, rfl, (List.append_nil _).symm⟩

theorem Delivered.trans {m n : Nat} {calls calls' : List SpwCall} {w mid after : World TcpState}
    (hfirst : Delivered m calls w mid) (hrest : Delivered n calls' mid after) (hm : m ≤ w.env.unread.length) :
    Delivered (m + n) (calls ++ calls') w after where
  took := hfirst.took.trans hrest.took hm
  svc := hrest.svc.trans hfirst.svc
  spw := hrest.spw.trans hfirst.spw
  handed := by rw [hrest.handed, hfirst.handed, List.append_assoc]

/-- What changes nothing may come first. -/
theorem Delivered.idle_trans {n : Nat} {calls : List SpwCall} {w mid after : World TcpState}
    (hfirst : Delivered 0 [] w mid) (hrest : Delivered n calls mid after) : Delivered n calls w after := by
  simpa using hfirst.trans hrest (Nat.zero_le _)

/-! ### Sending on -/

theorem send_all_tcp (fd : Nat) (msg : List UInt8) (w : World TcpState) :
    wp (send_all (tcpEnv sockfd build) fd msg) (fun ok after => ok = true ∧ Delivered 0 [] w after)
      (fun _ _ => False) w := by
  have hsend : ∀ s msg, (tcpEnv sockfd build).send s fd msg = (.sent msg.length, s) := fun _ _ => rfl
  have hpatience : (tcpEnv sockfd build).patience w.env = 1 := rfl
  cases msg with
  | nil =>
    simp only [send_all, send_all_loop, wp_bind, wp_log_net, wp_get, wp_pure]
    exact ⟨trivial, Delivered.net_log _ w⟩
  | cons b msg =>
    simp only [send_all, hpatience, send_all_loop, wp_bind, wp_log_net, wp_get, wp_syscall, hsend, List.drop_length,
      wp_pure]
    exact ⟨trivial, Delivered.net_log _ w⟩

theorem broadcast_tcp (id : SvcId) (msg : List UInt8) (w : World TcpState) :
    wp (broadcast (tcpEnv sockfd build) id msg) (fun _ after => Delivered 0 [] w after) (fun _ _ => False) w := by
  simp only [broadcast, wp_bind, wp_get_svc]
  refine wp_forM (fun fd _ mid hmid => ?_) (Delivered.refl w)
  simp only [wp_bind, wp_get_svc, wp_ite, wp_pure]
  split_ifs
  · apply wp_mono_post (send_all_tcp fd msg mid)
    rintro _ after ⟨rfl, hafter⟩
    simpa using hmid.idle_trans hafter
  · exact hmid

theorem sniff_push_tcp (cfg : BridgeCfg) (pkt : List UInt8) (w : World TcpState) :
    wp (sniff_push (tcpEnv sockfd build) cfg pkt) (fun _ after => Delivered 0 [] w after) (fun _ _ => False) w := by
  have halloc : (tcpEnv sockfd build).malloc w.env = (true, w.env) := rfl
  simp only [sniff_push, malloc, wp_bind, wp_get_svc, wp_ite, wp_syscall, halloc, wp_pure,
    gresb_create_host_data_pkt, Bool.not_true, Bool.false_eq_true, ↓reduceIte]
  split_ifs
  · exact Delivered.refl w
  · exact broadcast_tcp .sniff _ w
  · exact broadcast_tcp .sniff _ w

theorem spw_send_packet_tcp (pkt : List UInt8) {w : World TcpState} {st : SpwState} (hst : w.spw = some st) :
    wp (spw_send_packet (tcpEnv sockfd build) pkt) (fun _ after => Delivered 0 [.send_packet false pkt] w after)
      (fun _ _ => False) w := by
  have hcreate : (tcpEnv sockfd build).STAR_createPacket w.env = (true, w.env) := rfl
  have hoperation : (tcpEnv sockfd build).STAR_createTxOperation w.env = (true, w.env) := rfl
  have hsubmit : (tcpEnv sockfd build).STAR_submitTransferOperation w.env = (true, w.env) := rfl
  have hwait : (tcpEnv sockfd build).STAR_waitOnTransferOperationCompletion w.env = (true, w.env) := rfl
  simp only [spw_send_packet, spw_send_packet_chan, wp_bind, wp_log_spw, wp_tx_address, hst, wp_exit_unless,
    hcreate, hoperation, hsubmit, hwait, ↓reduceIte]
  exact ⟨Took.refl _, rfl, hst.symm, by simp [handed]⟩

/-- The RMAP service hands on the command in the frame that it took. -/
theorem rmap_issue_tcp {frame : List UInt8} (hframe : rmapFormat.IsFrame frame) {w : World TcpState}
    {st : SpwState} (hst : w.spw = some st) :
    wp (rmap_issue (tcpEnv sockfd build) (frame.take 10) frame)
      (fun _ after => Delivered 0 [StreamKind.rmap.call frame] w after) (fun _ _ => False) w := by
  have hsize : rmap_cmd_size (frame.take 10) = frame.length - 10 := by
    rw [← hframe]
    exact (Nat.add_sub_cancel _ 10).symm
  have hpayload : (frame.drop 10).take (frame.length - 10) = frame.drop 10 :=
    List.take_of_length_le (by simp)
  have hcmd : ∀ dst op addr data, wp (spw_rmap_cmd (tcpEnv sockfd build) dst op addr data)
      (fun _ after => Delivered 0 [.rmap_cmd dst op addr data] w after) (fun _ _ => False) w := by
    intro dst op addr data
    simp only [spw_rmap_cmd, wp_bind, wp_log_spw, wp_syscall]
    cases ((tcpEnv sockfd build).RMAP_BuildCommandPacket w.env _).1 with
    | none => exact ⟨Took.refl _, rfl, rfl, by simp [handed]⟩
    | some pkt =>
      simp only [wp_bind, wp_tx_address, hst, wp_log_spw, wp_syscall, wp_pure]
      exact ⟨Took.refl _, rfl, hst.symm, by simp [handed]⟩
  simp (disch := omega) only [rmap_issue, StreamKind.call, hsize, hpayload, byteAt_take]
  split
  · exact hcmd _ 0 _ []
  · exact hcmd _ 1 _ _

/-! ### Receiving a packet whose header has arrived -/

section receive

variable {β : Type} {F : Format UInt8} {frame rest : List UInt8} {drop : Prog TcpState Unit}
  {next : Option (List UInt8) → Prog TcpState β} {post : β → World TcpState → Prop}
  {fails : Halt → World TcpState → Prop} {w : World TcpState}

theorem receive_header (hframe : F.IsFrame frame) (hunread : w.env.unread = frame ++ rest)
    (hqueue : F.hdr ≤ w.env.queue.length) {flags : RecvFlags} (hpeek : flags.peek = true)
    (hnext : ∀ s, Took 0 w.env s → wp (next (some (frame.take F.hdr))) post fails { w with env := s }) :
    wp (peek_header (tcpEnv sockfd build) sockfd F.hdr flags drop >>= next) post fails w := by
  rw [wp_bind]
  refine wp_mono (peek_header_takes hpeek F.hdr_pos hqueue) ?_ fun _ _ h => h.elim
  rintro _ _ ⟨s, rfl, rfl, htook⟩
  rw [hunread, hframe.take_hdr]
  exact hnext s htook

theorem receive_body (hunread : w.env.unread = frame ++ rest) (hwire : [] ∉ w.env.wire) {n : Nat}
    (hn : n = frame.length) :
    wp (recv_body (tcpEnv sockfd build) sockfd n drop)
      (fun received after => received = some frame ∧ ∃ s, after = { w with env := s } ∧ Took frame.length w.env s)
      (fun _ _ => False) w := by
  subst hn
  apply wp_mono_post (recv_body_takes (by simp [hunread]) hwire)
  rintro _ _ ⟨s, rfl, rfl, htook⟩
  rw [hunread, List.take_left]
  exact ⟨rfl, s, rfl, htook⟩

end receive

/-- The connection holds a packet whose header has arrived. -/
structure Arrived (kind : StreamKind) (frame rest : List UInt8) (s : TcpState) : Prop where
  packet : kind.Packet frame
  unread : s.unread = frame ++ rest
  header : kind.format.hdr ≤ s.queue.length
  wire : [] ∉ s.wire

section framers

variable {frame rest : List UInt8} {w : World TcpState}

/-- After a look at the header the packet is still there. -/
theorem Arrived.peeked {kind : StreamKind} {s after : TcpState} (harrived : Arrived kind frame rest s)
    (htook : Took 0 s after) : after.unread = frame ++ rest ∧ [] ∉ after.wire :=
  ⟨htook.unread.trans harrived.unread, fun hmem => harrived.wire (htook.wire.mem hmem)⟩

theorem recv_pus_packet_tcp (id : SvcId) (harrived : Arrived .pus frame rest w.env) :
    wp (recv_pus_packet (tcpEnv sockfd build) id sockfd)
      (fun received after => received = some frame ∧ Delivered frame.length [] w after) (fun _ _ => False) w := by
  obtain ⟨hframe, _⟩ := harrived.packet
  refine receive_header hframe harrived.unread harrived.header rfl fun s htook => ?_
  obtain ⟨hunread, hwire⟩ := harrived.peeked htook
  rw [wp_bind]
  apply wp_mono_post (receive_body hunread hwire hframe)
  rintro _ _ ⟨rfl, s', rfl, htook'⟩
  simp only [wp_bind]
  apply wp_mono_post (check_pus_sequence_tx_world (tcpEnv sockfd build) frame _)
  rintro _ _ ⟨t, rfl⟩
  refine ⟨rfl, ?_, rfl, rfl, (List.append_nil _).symm⟩
  exact htook.idle_trans htook'

theorem recv_fee_packet_tcp (id : SvcId) (harrived : Arrived .fee frame rest w.env) :
    wp (recv_fee_packet (tcpEnv sockfd build) id sockfd)
      (fun received after => received = some frame ∧ Delivered frame.length [] w after) (fun _ _ => False) w := by
  obtain ⟨hframe, hprotocol⟩ := harrived.packet
  have hprotocol' : byteAt (frame.take feeFormat.hdr) 1 = FEE_DATA_PROTOCOL := by
    rw [byteAt_take (by decide)]
    exact hprotocol
  refine receive_header hframe harrived.unread harrived.header rfl fun s htook => ?_
  obtain ⟨hunread, hwire⟩ := harrived.peeked htook
  simp only [StreamKind.format, hprotocol', ne_eq, not_true_eq_false, ↓reduceIte]
  apply wp_mono_post (receive_body hunread hwire hframe)
  rintro _ _ ⟨rfl, s', rfl, htook'⟩
  exact ⟨rfl, htook.idle_trans htook', rfl, rfl, (List.append_nil _).symm⟩

theorem recv_gresb_packet_tcp (id : SvcId) (harrived : Arrived .gresb frame rest w.env) :
    wp (recv_gresb_packet (tcpEnv sockfd build) id sockfd)
      (fun received after => received = some (frame.drop 4) ∧ Delivered frame.length [] w after)
      (fun _ _ => False) w := by
  obtain ⟨hframe, _⟩ := harrived.packet
  have hsize : gresb_get_spw_data_size (frame.take gresbFormat.hdr) + GRESB_HDR_SIZE = frame.length := hframe
  have hfits : ¬ gresb_get_spw_data_size (frame.take gresbFormat.hdr) > MAX_SPW_PACKET_SIZE := by
    have hlt := gresb_get_spw_data_size_lt (frame.take gresbFormat.hdr)
    simp only [MAX_SPW_PACKET_SIZE, rmap.RMAP_MAX_DATA_LEN]
    omega
  refine receive_header hframe harrived.unread harrived.header rfl fun s htook => ?_
  obtain ⟨hunread, hwire⟩ := harrived.peeked htook
  simp only [StreamKind.format, hfits, ↓reduceIte]
  rw [wp_bind]
  apply wp_mono_post (receive_body hunread hwire hsize)
  rintro _ _ ⟨rfl, s', rfl, htook'⟩
  have halloc : (tcpEnv sockfd build).malloc s' = (true, s') := rfl
  have hpayload : (gresb_get_spw_data frame).take (gresb_get_spw_data_size (frame.take gresbFormat.hdr)) =
      frame.drop 4 := by
    rw [gresb_get_spw_data, List.take_of_length_le]
    · rfl
    · rw [List.length_drop]
      omega
  simp only [malloc, wp_bind, wp_syscall, halloc, ↓reduceIte, wp_pure, hpayload]
  exact ⟨trivial, htook.idle_trans htook', rfl, rfl, (List.append_nil _).symm⟩

/-- The command in a packet of the RMAP service is issued. -/
theorem rmap_net_to_spw_tcp (harrived : Arrived .rmap frame rest w.env) {st : SpwState} (hst : w.spw = some st) :
    wp (rmap_net_to_spw (tcpEnv sockfd build) sockfd)
      (fun _ after => Delivered frame.length [StreamKind.rmap.call frame] w after) (fun _ _ => False) w := by
  obtain ⟨hframe, hlength⟩ := harrived.packet
  have hsize : rmap_cmd_size (frame.take rmapFormat.hdr) + 10 = frame.length := hframe
  have hfits : ¬ rmap_cmd_size (frame.take rmapFormat.hdr) > MAX_SPW_PACKET_SIZE := by
    dsimp only at hlength
    omega
  refine receive_header hframe harrived.unread harrived.header rfl fun s htook => ?_
  obtain ⟨hunread, hwire⟩ := harrived.peeked htook
  simp only [StreamKind.format, hfits, ↓reduceIte]
  rw [wp_bind]
  apply wp_mono_post (receive_body hunread hwire hsize)
  rintro _ _ ⟨rfl, s', rfl, htook'⟩
  refine wp_mono_post (rmap_issue_tcp hframe hst) fun _ after hissued => ?_
  have htaken : Delivered frame.length [] w { w with env := s' } :=
    ⟨htook.idle_trans htook', rfl, rfl, (List.append_nil _).symm⟩
  exact htaken.trans hissued (by simp [harrived.unread])

/-- A received packet is handed on, unless the bridge only monitors. -/
theorem forward_received {cfg : BridgeCfg} (hmonitor : cfg.enable_monitor = false) {pkt : List UInt8}
    {st : SpwState} (hst : w.spw = some st) :
    wp (do sniff_push (tcpEnv sockfd build) cfg pkt
           if cfg.enable_monitor then pure () else spw_send_packet (tcpEnv sockfd build) pkt)
      (fun _ after => Delivered 0 [.send_packet false pkt] w after) (fun _ _ => False) w := by
  simp only [wp_bind, hmonitor, Bool.false_eq_true, ↓reduceIte]
  refine wp_mono_post (sniff_push_tcp cfg pkt w) fun _ mid hmid => ?_
  refine wp_mono_post (spw_send_packet_tcp pkt (hmid.spw.trans hst)) fun _ after hafter => ?_
  exact hmid.idle_trans hafter

theorem net_recv_tcp {cfg : BridgeCfg} {kind : StreamKind} (hkind : framing cfg .data = some kind)
    (harrived : Arrived kind frame rest w.env) :
    wp (net_recv (tcpEnv sockfd build) cfg .data sockfd)
      (fun received after => ∃ pkt, received = some (pkt, none) ∧ kind.call frame = .send_packet false pkt ∧
        Delivered frame.length [] w after) (fun _ _ => False) w := by
  simp only [framing] at hkind
  split_ifs at hkind with hmode hpus hfee hgresb
  · obtain rfl := Option.some.inj hkind
    simp only [net_recv, hmode, hpus, ↓reduceIte, wp_map]
    apply wp_mono_post (recv_pus_packet_tcp .data harrived)
    rintro _ after ⟨rfl, hafter⟩
    exact ⟨_, rfl, rfl, hafter⟩
  · obtain rfl := Option.some.inj hkind
    simp only [net_recv, hmode, hpus, hfee, Bool.false_eq_true, ↓reduceIte, wp_map]
    apply wp_mono_post (recv_fee_packet_tcp .data harrived)
    rintro _ after ⟨rfl, hafter⟩
    exact ⟨_, rfl, rfl, hafter⟩
  · obtain rfl := Option.some.inj hkind
    simp only [net_recv, hmode, hpus, hfee, hgresb, Bool.false_eq_true, ↓reduceIte, wp_map]
    apply wp_mono_post (recv_gresb_packet_tcp .data harrived)
    rintro _ after ⟨rfl, hafter⟩
    exact ⟨_, rfl, rfl, hafter⟩

/-- Every handler of a framed stream hands on the packet that has arrived. -/
theorem handle_pkt_tcp {cfg : BridgeCfg} {id : SvcId} {kind : StreamKind} (hkind : framing cfg id = some kind)
    (hactive : cfg.enable_monitor = false ∨ id = .rmap) (harrived : Arrived kind frame rest w.env)
    {st : SpwState} (hst : w.spw = some st) :
    wp (handle_pkt (tcpEnv sockfd build) cfg id sockfd)
      (fun _ after => Delivered frame.length [kind.call frame] w after) (fun _ _ => False) w := by
  have hroom : frame.length ≤ w.env.unread.length := by simp [harrived.unread]
  cases id with
  | data =>
    have hmonitor : cfg.enable_monitor = false := hactive.resolve_right (by decide)
    simp only [handle_pkt, net_to_spw, wp_bind]
    apply wp_mono_post (net_recv_tcp hkind harrived)
    rintro _ mid ⟨pkt, rfl, hcall, hmid⟩
    refine wp_mono_post (forward_received hmonitor (hmid.spw.trans hst)) fun _ after hafter => ?_
    rw [hcall]
    exact hmid.trans hafter hroom
  | gresb_tx =>
    have hmonitor : cfg.enable_monitor = false := hactive.resolve_right (by decide)
    obtain rfl := Option.some.inj hkind
    simp only [handle_pkt, gresb_tx_to_spw, wp_bind]
    apply wp_mono_post (recv_gresb_packet_tcp .gresb_tx harrived)
    rintro _ mid ⟨rfl, hmid⟩
    refine wp_mono_post (forward_received hmonitor (hmid.spw.trans hst)) fun _ after hafter => ?_
    exact hmid.trans hafter hroom
  | rmap =>
    obtain rfl := Option.some.inj hkind
    exact rmap_net_to_spw_tcp harrived hst
  | gresb_rx | sniff => simp [framing] at hkind

end framers

theorem conn_drop_quiet (E : Env TcpState) (id : SvcId) (sockfd : Nat) (w : World TcpState) :
    wp (conn_drop E id sockfd) (fun _ after => sockfd ∉ (after.svc id).conn_set ∧ after.spw_log = w.spw_log)
      (fun _ after => after.spw_log = w.spw_log) w := by
  simp [conn_drop, conn_del, close, fd_clr, wp_ite]

/-- A header that has arrived in part, with nothing else arriving, costs the
connection. -/
theorem handle_pkt_cut {cfg : BridgeCfg} {id : SvcId} {kind : StreamKind} (hkind : framing cfg id = some kind)
    {w : World TcpState} (hidle : w.env.sched = []) (hsome : w.env.queue ≠ [])
    (hcut : w.env.queue.length < kind.format.hdr) :
    wp (handle_pkt (tcpEnv sockfd build) cfg id sockfd)
      (fun _ after => sockfd ∉ (after.svc id).conn_set ∧ after.spw_log = w.spw_log)
      (fun _ after => after.spw_log = w.spw_log) w := by
  have hdrop := conn_drop_quiet (tcpEnv sockfd build) id sockfd w
  cases id with
  | data =>
    simp only [framing] at hkind
    split_ifs at hkind with hmode hpus hfee hgresb
    · obtain rfl := Option.some.inj hkind
      simp only [handle_pkt, net_to_spw, net_recv, hmode, hpus, ↓reduceIte, wp_bind, wp_map, recv_pus_packet]
      exact peek_header_cut rfl hidle hsome hcut hdrop
    · obtain rfl := Option.some.inj hkind
      simp only [handle_pkt, net_to_spw, net_recv, hmode, hpus, hfee, Bool.false_eq_true, ↓reduceIte, wp_bind,
        wp_map, recv_fee_packet]
      exact peek_header_cut rfl hidle hsome hcut hdrop
    · obtain rfl := Option.some.inj hkind
      simp only [handle_pkt, net_to_spw, net_recv, hmode, hpus, hfee, hgresb, Bool.false_eq_true, ↓reduceIte,
        wp_bind, wp_map, recv_gresb_packet]
      exact peek_header_cut rfl hidle hsome hcut hdrop
  | gresb_tx =>
    obtain rfl := Option.some.inj hkind
    simp only [handle_pkt, gresb_tx_to_spw, wp_bind, recv_gresb_packet]
    exact peek_header_cut rfl hidle hsome hcut hdrop
  | rmap =>
    obtain rfl := Option.some.inj hkind
    simp only [handle_pkt, rmap_net_to_spw, wp_bind]
    refine peek_header_cut rfl hidle hsome hcut ?_
    simp [rmap_conn_drop, conn_del, close, fd_clr]
  | gresb_rx | sniff => simp [framing] at hkind

end spw_bridge.net
