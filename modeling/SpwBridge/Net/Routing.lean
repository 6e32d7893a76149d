import SpwBridge.Net.Encapsulation

open effect spw_bridge.rmap

namespace spw_bridge.net

variable {σ : Type} {cfg : BridgeCfg} {buf : List UInt8}

/-- The packet is forwarded to the data service: each of its peers is handed it,
as it is or whole in one GRESB packet. -/
def Forwarded (cfg : BridgeCfg) (pkt : List UInt8) (w : World σ) (calls : List NetCall) : Prop :=
  ∃ msg, (if cfg.enable_gresb then Encapsulates msg pkt else msg = pkt) ∧
    if cfg.mode = .MODE_DGRAM then ∀ client ∈ (w.svc .data).clients, .sendto client msg ∈ calls
    else ∀ fd ∈ watched (w.svc .data), .send_all fd msg ∈ calls

/-- It is an RMAP packet that the clients of the enabled RMAP service are sent
in the pseudo-RMAP format. -/
def Replied (cfg : BridgeCfg) (buf : List UInt8) (w : World σ) (calls : List NetCall) : Prop :=
  cfg.enable_rmap = true ∧ ∃ pkt, Decoded cfg buf pkt ∧
    ∀ fd ∈ watched (w.svc .rmap), .send_all fd (replyContent pkt).encode ∈ calls

/-- As long as nothing fails, the packet without its leading bytes goes one of
the two ways. -/
def NotLost (cfg : BridgeCfg) (buf : List UInt8) : Prop :=
  ∀ {σ : Type} {E : Env σ}, Succeeds E → ∀ w, wp (net_pkt_sink E cfg buf)
    (fun _ after => ∃ calls, after.net_log = w.net_log ++ calls ∧
      (Forwarded cfg (buf.drop cfg.skip_header_bytes) w calls ∨ Replied cfg buf w calls)) (fun _ _ => False) w

/-- The routing test of the sink. -/
def LooksRmap (cfg : BridgeCfg) (buf : List UInt8) : Prop :=
  cfg.enable_rmap = true ∧ cfg.skip_header_bytes + 1 < buf.length ∧ byteAt buf (cfg.skip_header_bytes + 1) = 1

instance : Decidable (LooksRmap cfg buf) := inferInstanceAs (Decidable (_ ∧ _))

theorem mem_recipients {svc : NetService} {fd : Nat} {msg : List UInt8} (hfd : fd ∈ watched svc) :
    (fd, msg) ∈ recipients svc msg := by
  simp only [watched, Finset.mem_filter] at hfd
  simp [recipients, hfd.1, hfd.2]

theorem check_pus_sequence_rx_sends (E : Env σ) (pkt : List UInt8) (w : World σ) :
    wp (check_pus_sequence_rx E pkt)
      (fun _ after => ∃ t, after = { w with env := (E.malloc w.env).2, pus_seq_rx := t }) (fun _ _ => False) w := by
  obtain ⟨error, t, hcheck⟩ := check_pus_sequence_total (E.malloc w.env).1 pkt w.pus_seq_rx
  simp only [check_pus_sequence_rx, malloc, wp_bind, wp_syscall, wp_get, hcheck, wp_lift_ok, wp_modify]
  exact ⟨t, rfl⟩

/-- The sink away from its RMAP branch, up to the forwarding. -/
theorem wp_net_pkt_sink_forward {E : Env σ} (hlong : cfg.skip_header_bytes < buf.length) (hrmap : ¬ LooksRmap cfg buf)
    {post : Unit → World σ → Prop} {fails : Halt → World σ → Prop} {w : World σ}
    (hforward : ∀ s t, s = w.env ∨ s = (E.malloc w.env).2 →
      wp (net_forward_to_clients E cfg (buf.drop cfg.skip_header_bytes)) post fails
        { w with env := s, pus_seq_rx := t }) : wp (net_pkt_sink E cfg buf) post fails w := by
  have hrmap' : ¬ (cfg.enable_rmap = true ∧ buf.length > cfg.skip_header_bytes + 1 ∧
      byteAt buf (cfg.skip_header_bytes + 1) = 0x1) := hrmap
  rw [net_pkt_sink, if_neg (Nat.not_le_of_lt hlong), if_neg hrmap']
  by_cases hpus : cfg.interpret_pus = true
  · simp only [hpus, ↓reduceIte, wp_bind]
    refine wp_mono (check_pus_sequence_rx_sends E _ w) ?_ fun _ _ h => h.elim
    rintro _ _ ⟨t, rfl⟩
    exact hforward _ t (Or.inr rfl)
  · simp only [hpus, Bool.false_eq_true, ↓reduceIte]
    exact hforward w.env w.pus_seq_rx (Or.inl rfl)

/-- What forwarding hands out on the way of the data service. -/
theorem net_pkt_sink_forwards {E : Env σ} (hE : Succeeds E) (hlong : cfg.skip_header_bytes < buf.length)
    (hrmap : ¬ LooksRmap cfg buf) (w : World σ) :
    wp (net_pkt_sink E cfg buf) (fun _ after => ∃ calls, after.net_log = w.net_log ++ calls ∧
      messages calls = sniffed cfg w (buf.drop cfg.skip_header_bytes) ++
        (relayed_conn cfg w (buf.drop cfg.skip_header_bytes) ++ pushed_rx cfg w (buf.drop cfg.skip_header_bytes)) ∧
      datagrams calls = relayed_dgram cfg w (buf.drop cfg.skip_header_bytes)) (fun _ _ => False) w := by
  apply wp_net_pkt_sink_forward hlong hrmap
  intro s t _
  apply wp_mono_post (net_forward_to_clients_sends hE cfg _ _)
  rintro _ _ ⟨s', calls, rfl, hmessages, hdatagrams⟩
  exact ⟨calls, rfl, hmessages, hdatagrams⟩

/-- On the way of the RMAP service, for a packet that it can take. -/
theorem net_pkt_sink_replies {E : Env σ} (hE : Succeeds E) (hlong : cfg.skip_header_bytes < buf.length)
    (hrmap : LooksRmap cfg buf) {pkt : RmapPkt} (hdecoded : Decoded cfg buf pkt) (hfits : ReplyFits pkt)
    (w : World σ) :
    wp (net_pkt_sink E cfg buf) (fun _ after => ∃ calls, after.net_log = w.net_log ++ calls ∧
      messages calls = recipients (w.svc .rmap) (replyContent pkt).encode) (fun _ _ => False) w := by
  have hrmap' : cfg.enable_rmap = true ∧ buf.length > cfg.skip_header_bytes + 1 ∧
      byteAt buf (cfg.skip_header_bytes + 1) = 0x1 := hrmap
  rw [net_pkt_sink, if_neg (Nat.not_le_of_lt hlong), if_pos hrmap']
  apply rmap_reply_to_clients_broadcast hE.malloc hdecoded hfits
  intro s
  apply wp_mono_post (broadcast_sends hE .rmap _ _)
  rintro _ _ ⟨s', calls, rfl, hmessages, _⟩
  exact ⟨calls, rfl, hmessages⟩

/-- The packets that one of the two ways is open to: on the RMAP way those that
the decoder accepts and whose reply message fits its buffer, on the other way,
with GRESB encapsulation, those whose length fits the size field. -/
def Routable (cfg : BridgeCfg) (buf : List UInt8) : Prop :=
  if LooksRmap cfg buf then
    Accepts .success (buf.drop cfg.skip_header_bytes) ∧ ReplyFits (bufPkt (buf.drop cfg.skip_header_bytes))
  else cfg.enable_gresb = true → buf.length - cfg.skip_header_bytes < 2 ^ 24

/-- An RMAP packet passes the routing test. -/
theorem looksRmap_of_decoded (henabled : cfg.enable_rmap = true) {pkt : RmapPkt} (hdecoded : Decoded cfg buf pkt) :
    LooksRmap cfg buf := by
  obtain ⟨haccepts, _⟩ := rmap_pkt_from_buffer_some_iff.mp hdecoded
  have hheader := haccepts.header
  have hmin := (bufRi (buf.drop cfg.skip_header_bytes)).minHdrSize_ge
  have hproto := haccepts.proto
  rw [List.length_drop, RmapInstruction.hdrSize] at hheader
  refine ⟨henabled, by omega, ?_⟩
  rw [byteAt, List.getD_eq_getElem?_getD] at hproto ⊢
  rwa [List.getElem?_drop] at hproto

/-- What the one peer of the data service must have been handed. -/
theorem forwarded_peerWorld {pkt : List UInt8} {client : SockaddrIn} {calls : List NetCall}
    (hforwarded : Forwarded cfg pkt (peerWorld client) calls) :
    ∃ msg, (if cfg.enable_gresb then Encapsulates msg pkt else msg = pkt) ∧
      ((4, msg) ∈ messages calls ∨ (client, msg) ∈ datagrams calls) := by
  obtain ⟨msg, hmsg, hpeers⟩ := hforwarded
  refine ⟨msg, hmsg, ?_⟩
  split_ifs at hpeers with hmode
  · exact Or.inr (mem_datagrams.mpr (hpeers client (by simp [peerWorld])))
  · exact Or.inl (mem_messages.mpr (hpeers 4 (by simp [peerWorld, watched])))

/-- A packet that the decoder refuses is dropped on the RMAP way: nobody is
handed anything. -/
theorem not_notLost_of_refused (hlong : cfg.skip_header_bytes < buf.length) (hrmap : LooksRmap cfg buf)
    (hrefused : ¬ Accepts .success (buf.drop cfg.skip_header_bytes)) : ¬ NotLost cfg buf := by
  intro hlost
  have hnone : rmap_pkt_from_buffer ⟨true, true, true⟩ (buf.drop cfg.skip_header_bytes) = .ok none := by
    obtain ⟨result, hresult⟩ := rmap_pkt_from_buffer_total .success (buf.drop cfg.skip_header_bytes)
    cases result with
    | none => exact hresult
    | some pkt => exact absurd (rmap_pkt_from_buffer_some_iff.mp hresult).1 hrefused
  have hrmap' : cfg.enable_rmap = true ∧ buf.length > cfg.skip_header_bytes + 1 ∧
      byteAt buf (cfg.skip_header_bytes + 1) = 0x1 := hrmap
  have hsilent : wp (net_pkt_sink .quiet cfg buf) (fun _ after => after.net_log = []) (fun _ _ => False)
      (peerWorld ⟨0, 0⟩) := by
    rw [net_pkt_sink, if_neg (Nat.not_le_of_lt hlong), if_pos hrmap']
    simp only [rmap_reply_to_clients, alloc_pkt, malloc, Env.quiet, wp_bind, wp_syscall, wp_pure, hnone, wp_lift_ok]
    exact rfl
  obtain ⟨_, after, _, ⟨calls, hcalls, hways⟩, hlog⟩ := ok_of_wp_and (hlost succeeds_quiet (peerWorld ⟨0, 0⟩)) hsilent
  have hnothing : (peerWorld ⟨0, 0⟩).net_log ++ calls = [] := hcalls.symm.trans hlog
  obtain rfl : calls = [] := (List.append_eq_nil_iff.mp hnothing).2
  rcases hways with hforwarded | ⟨_, pkt, hdecoded, _⟩
  · obtain ⟨msg, _, hmem⟩ := forwarded_peerWorld hforwarded
    simp [messages, datagrams] at hmem
  · exact hrefused (rmap_pkt_from_buffer_some_iff.mp hdecoded).1

/-- One whose reply message does not fit its buffer ends the run. -/
theorem not_notLost_of_overrun (hlong : cfg.skip_header_bytes < buf.length) (hrmap : LooksRmap cfg buf)
    (haccepts : Accepts .success (buf.drop cfg.skip_header_bytes))
    (hfits : ¬ ReplyFits (bufPkt (buf.drop cfg.skip_header_bytes))) : ¬ NotLost cfg buf := by
  intro hlost
  have hrmap' : cfg.enable_rmap = true ∧ buf.length > cfg.skip_header_bytes + 1 ∧
      byteAt buf (cfg.skip_header_bytes + 1) = 0x1 := hrmap
  have hwp := hlost succeeds_quiet (peerWorld ⟨0, 0⟩)
  rw [net_pkt_sink, if_neg (Nat.not_le_of_lt hlong), if_pos hrmap'] at hwp
  have hdecoded : Decoded cfg buf (bufPkt (buf.drop cfg.skip_header_bytes)) :=
    rmap_pkt_from_buffer_some_iff.mpr ⟨haccepts, rfl⟩
  obtain ⟨after, hrun⟩ := rmap_reply_to_clients_overrun succeeds_quiet.malloc hdecoded hfits (peerWorld ⟨0, 0⟩)
  exact (wp_error hrun).mp hwp

/-- A packet of the data service that does not fit one GRESB packet. -/
theorem not_notLost_of_long (hlong : cfg.skip_header_bytes < buf.length) (hrmap : ¬ LooksRmap cfg buf)
    (hgresb : cfg.enable_gresb = true) (hsize : ¬ buf.length - cfg.skip_header_bytes < 2 ^ 24) :
    ¬ NotLost cfg buf := by
  intro hlost
  obtain ⟨_, after, _, ⟨calls, hcalls, hways⟩, calls', hcalls', hmessages, hdatagrams⟩ :=
    ok_of_wp_and (hlost succeeds_quiet (peerWorld ⟨0, 0⟩)) (net_pkt_sink_forwards succeeds_quiet hlong hrmap _)
  obtain rfl := List.append_cancel_left (hcalls.symm.trans hcalls')
  rcases hways with hforwarded | ⟨henabled, pkt, hdecoded, _⟩
  · obtain ⟨msg, hmsg, hmem⟩ := forwarded_peerWorld hforwarded
    have heq : msg = gresb_msg (buf.drop cfg.skip_header_bytes) := by
      have hclosed : ((peerWorld ⟨0, 0⟩).svc .sniff).sock_fd = 0 ∧ ((peerWorld ⟨0, 0⟩).svc .gresb_rx).sock_fd = 0 :=
        ⟨rfl, rfl⟩
      have hpeer : ∀ msg, recipients ((peerWorld ⟨0, 0⟩).svc .data) msg = [(4, msg)] := fun _ => rfl
      have hclients : ((peerWorld ⟨0, 0⟩).svc .data).clients = [⟨0, 0⟩] := rfl
      rw [hmessages, hdatagrams] at hmem
      by_cases hmode : cfg.mode = .MODE_DGRAM <;>
        simpa [sniffed, relayed_conn, relayed_dgram, pushed_rx, framed, hmode, hgresb, hclosed, hpeer, hclients]
          using hmem
    rw [if_pos hgresb, heq, gresb_msg_encapsulates_iff, List.length_drop] at hmsg
    exact hsize hmsg
  · exact hrmap (looksRmap_of_decoded henabled hdecoded)

/-- No packet is lost exactly when one of the two ways is open to it. -/
theorem net_pkt_sink_not_lost_iff (hlong : cfg.skip_header_bytes < buf.length) :
    NotLost cfg buf ↔ Routable cfg buf := by
  unfold Routable
  split_ifs with hrmap
  · constructor
    · intro hlost
      have haccepts : Accepts .success (buf.drop cfg.skip_header_bytes) := by
        by_contra hrefused
        exact not_notLost_of_refused hlong hrmap hrefused hlost
      refine ⟨haccepts, ?_⟩
      by_contra hfits
      exact not_notLost_of_overrun hlong hrmap haccepts hfits hlost
    · rintro ⟨haccepts, hfits⟩ σ E hE w
      have hdecoded : Decoded cfg buf (bufPkt (buf.drop cfg.skip_header_bytes)) :=
        rmap_pkt_from_buffer_some_iff.mpr ⟨haccepts, rfl⟩
      apply wp_mono_post (net_pkt_sink_replies hE hlong hrmap hdecoded hfits w)
      rintro _ after ⟨calls, hcalls, hmessages⟩
      refine ⟨calls, hcalls, Or.inr ⟨hrmap.1, _, hdecoded, fun fd hfd => ?_⟩⟩
      rw [← mem_messages, hmessages]
      exact mem_recipients hfd
  · constructor
    · intro hlost hgresb
      by_contra hsize
      exact not_notLost_of_long hlong hrmap hgresb hsize hlost
    · intro hsize σ E hE w
      apply wp_mono_post (net_pkt_sink_forwards hE hlong hrmap w)
      rintro _ after ⟨calls, hcalls, hmessages, hdatagrams⟩
      refine ⟨calls, hcalls, Or.inl ⟨framed cfg.enable_gresb (buf.drop cfg.skip_header_bytes), ?_, ?_⟩⟩
      · split_ifs with hgresb
        · rw [framed, if_pos hgresb, gresb_msg_encapsulates_iff, List.length_drop]
          exact hsize hgresb
        · rw [framed, if_neg hgresb]
      · split_ifs with hmode
        · intro client hclient
          rw [← mem_datagrams, hdatagrams, relayed_dgram, if_pos hmode]
          exact List.mem_map_of_mem hclient
        · intro fd hfd
          rw [← mem_messages, hmessages, relayed_conn, if_neg hmode]
          exact List.mem_append_right _ (List.mem_append_left _ (mem_recipients hfd))

/-- A server with the RMAP service. -/
def rmapServer : BridgeCfg := { bridge_cfg_init [] with enable_rmap := true }

/-- A PUS packet of APID 2 is forwarded. -/
theorem net_pkt_sink_not_lost_iff_pus :
    NotLost rmapServer [0x18, 0x02, 0xc0, 0x00, 0x00, 0x00, 0xaa] ↔
      Routable rmapServer [0x18, 0x02, 0xc0, 0x00, 0x00, 0x00, 0xaa] :=
  net_pkt_sink_not_lost_iff (by decide)

/-- The same packet with APID 1 goes to the RMAP decoder, which refuses it: no
peer gets anything. -/
theorem net_pkt_sink_loses_apid_one :
    (∃ after, net_pkt_sink .quiet rmapServer [0x18, 0x01, 0xc0, 0x00, 0x00, 0x00, 0xaa] (peerWorld ⟨0, 0⟩) =
        .ok () after ∧ after.net_log = []) ∧
      ¬ NotLost rmapServer [0x18, 0x01, 0xc0, 0x00, 0x00, 0x00, 0xaa] := by
  refine ⟨⟨_, rfl, rfl⟩, not_notLost_of_refused (by decide) (by decide) fun haccepts => ?_⟩
  have hsome := rmap_pkt_from_buffer_some_iff.mpr ⟨haccepts, rfl⟩
  have hnone : rmap_pkt_from_buffer .success [0x18, 0x01, 0xc0, 0x00, 0x00, 0x00, 0xaa] = .ok none := rfl
  cases hnone.symm.trans hsome

end spw_bridge.net
