import SpwBridge.Monitor
import SpwBridge.Net.Datagram
import SpwBridge.Net.Encapsulation

open effect framing words

namespace spw_bridge.net

variable {cfg : BridgeCfg} {payload : List UInt8}

/-- The message that a peer of the data service gets for a payload in some run:
on a connection that is not one of the sniffer or of the receive port as well, or
as a datagram. -/
def SentToPeer (cfg : BridgeCfg) (payload msg : List UInt8) : Prop :=
  ∃ (σ : Type) (E : Env σ) (w : World σ) (calls : List NetCall),
    (final (net_forward_to_clients E cfg payload w)).net_log = w.net_log ++ calls ∧
      if cfg.mode = .MODE_DGRAM then ∃ client, .sendto client msg ∈ calls
      else ∃ fd, fd ∉ (w.svc .sniff).conn_set ∧ .send_all fd msg ∈ calls

theorem sentToPeer_iff (hgresb : cfg.enable_gresb = true) {msg : List UInt8} :
    SentToPeer cfg payload msg ↔ msg = gresb_msg payload := by
  constructor
  · rintro ⟨σ, E, w, calls, hcalls, hsent⟩
    obtain ⟨_, calls', hcalls', hpermitted⟩ := net_forward_to_clients_sendsOnly E cfg payload w
    obtain rfl := List.append_cancel_left (hcalls.symm.trans hcalls')
    split_ifs at hsent
    · obtain ⟨client, hmem⟩ := hsent
      rcases created_of_permitted hgresb (hpermitted _ hmem) rfl with ⟨_, hmsg⟩ | ⟨_, fd, _, hcall⟩
      · exact hmsg
      · cases hcall
    · obtain ⟨fd, hout, hmem⟩ := hsent
      rcases created_of_permitted hgresb (hpermitted _ hmem) rfl with ⟨_, hmsg⟩ | ⟨_, fd', hfd', hcall⟩
      · exact hmsg
      · cases hcall
        exact absurd hfd' hout
  · rintro rfl
    obtain ⟨calls, hcalls, hmem⟩ := peerWorld_handed cfg payload ⟨0, 0⟩
    refine ⟨Unit, .quiet, peerWorld ⟨0, 0⟩, calls, hcalls, ?_⟩
    simp only [framed, hgresb, ↓reduceIte] at hmem
    split_ifs with hmode
    · rw [if_pos hmode] at hmem
      exact ⟨⟨0, 0⟩, hmem⟩
    · rw [if_neg hmode] at hmem
      exact ⟨4, by simp [peerWorld, World.fresh], hmem⟩

/-- A message from a data peer becomes exactly this packet on the SpW side: when
it is the datagram in the queue, or when it is what is unread of a connection,
the front of it having arrived that the framer looks at. -/
def Transmits (cfg : BridgeCfg) (msg payload : List UInt8) : Prop :=
  if cfg.mode = .MODE_DGRAM then
    ∀ (σ : Type) (sockfd : Nat) (S : DgramSocket σ sockfd) (client : SockaddrIn) (w : World σ),
      S.queue w.env = [(msg, client)] → w.is_client = false → spw_link_ready cfg w = true →
      wp (net_to_spw S.toEnv cfg .data sockfd)
        (fun _ after => handed after.spw_log = handed w.spw_log ++ [.send_packet false payload]) (fun _ _ => False) w
  else
    ∀ (sockfd : Nat) (build : RmapRequest → Option (List UInt8)) (w : World TcpState),
      w.env.unread = msg → [] ∉ w.env.wire →
      (∀ kind, framing cfg .data = some kind → min kind.format.hdr msg.length ≤ w.env.queue.length) →
      spw_link_ready cfg w = true →
      wp (net_to_spw (tcpEnv sockfd build) cfg .data sockfd)
        (fun _ after => handed after.spw_log = handed w.spw_log ++ [.send_packet false payload]) (fun _ _ => False) w

/-- What is sent for the payload comes back as the payload. -/
def Symmetric (cfg : BridgeCfg) (payload : List UInt8) : Prop :=
  ∀ msg, SentToPeer cfg payload msg → Transmits cfg msg payload

/-! ### The framer that fits -/

theorem gresb_msg_isFrame (hfits : payload.length < 2 ^ 24) : gresbFormat.IsFrame (gresb_msg payload) := by
  have hsize := gresb_get_spw_data_size_hdr payload.length []
  rw [gresb_msg_whole hfits, Format.IsFrame, List.length_append]
  rw [List.append_nil, Nat.mod_eq_of_lt hfits] at hsize
  have htake : (gresb_host_hdr payload.length ++ payload).take gresbFormat.hdr = gresb_host_hdr payload.length :=
    List.take_left' rfl
  rw [htake]
  exact (congrArg (· + 4) hsize).trans (Nat.add_comm _ _)

theorem gresb_msg_drop (hfits : payload.length < 2 ^ 24) : (gresb_msg payload).drop 4 = payload := by
  rw [gresb_msg_whole hfits]
  exact List.drop_left' rfl

/-- A received packet is handed on, if anything is. -/
theorem handed_of_received {sockfd : Nat} {build : RmapRequest → Option (List UInt8)}
    (hmonitor : cfg.enable_monitor = false) (pkt : List UInt8) (client : Option SockaddrIn) {w : World TcpState}
    {st : SpwState} (hst : w.spw = some st) :
    wp (do
      sniff_push (tcpEnv sockfd build) cfg pkt
      register_sender (tcpEnv sockfd build) .data client
      if cfg.enable_monitor then pure () else spw_send_packet (tcpEnv sockfd build) pkt)
      (fun _ after => handed after.spw_log = handed w.spw_log ++ [.send_packet false pkt]) (fun _ _ => True) w := by
  have hnet := network_spwSide (σ := TcpState)
  simp only [wp_bind, hmonitor, Bool.false_eq_true, ↓reduceIte]
  refine wp_mono ((within_sniff_push hnet.toSockets (tcpEnv sockfd build) cfg pkt).wp w) ?_ fun _ _ _ => trivial
  intro _ sniffed hsniffed
  rw [wp_bind]
  refine wp_mono ((within_register_sender hnet.listens (tcpEnv sockfd build) .data client).wp sniffed) ?_
    fun _ _ _ => trivial
  intro _ mid hregistered
  obtain ⟨hspw, hlog⟩ := Prod.mk.inj (hregistered.trans hsniffed)
  refine wp_mono (spw_send_packet_tcp pkt (hspw.trans hst)) ?_ fun _ _ h => h.elim
  intro _ after hafter
  rw [hafter.handed, hlog]

/-- Whatever is handed on was received. -/
theorem received_of_handed {sockfd : Nat} {build : RmapRequest → Option (List UInt8)}
    (hmonitor : cfg.enable_monitor = false) {w : World TcpState} {st : SpwState}
    (hst : w.spw = some st)
    (hhanded : wp (net_to_spw (tcpEnv sockfd build) cfg .data sockfd)
      (fun _ after => handed after.spw_log = handed w.spw_log ++ [.send_packet false payload]) (fun _ _ => False) w) :
    wp (net_recv (tcpEnv sockfd build) cfg .data sockfd)
      (fun received _ => ∃ client, received = some (payload, client)) (fun _ _ => False) w := by
  rw [net_to_spw, wp_bind] at hhanded
  have hkeeps := (within_net_recv network_spwSide.listens (tcpEnv sockfd build) cfg .data sockfd).wp w
  refine wp_mono (wp_and hhanded hkeeps) ?_ fun _ _ h => h.1
  rintro received mid ⟨hrest, hside⟩
  obtain ⟨hspw, hlog⟩ := Prod.mk.inj hside
  cases received with
  | none =>
    have hnone : handed mid.spw_log = handed w.spw_log ++ [.send_packet false payload] := hrest
    rw [hlog] at hnone
    simp at hnone
  | some received =>
    obtain ⟨pkt, client⟩ := received
    obtain ⟨_, after, _, hpayload, hpkt⟩ := ok_of_wp_and hrest (handed_of_received hmonitor pkt client (hspw.trans hst))
    rw [hlog] at hpkt
    have hsame := List.append_cancel_left (hpkt.symm.trans hpayload)
    simp only [List.cons.injEq, SpwCall.send_packet.injEq, true_and, and_true] at hsame
    exact ⟨client, by rw [hsame]⟩

/-! ### The framers that do not -/

/-- The bytes of a packet that is also the front of its own GRESB message repeat
every four bytes. -/
theorem byteAt_of_front (hfits : payload.length < 2 ^ 24) (hbegins : payload <+: gresb_msg payload) {i : Nat}
    (hi : i < payload.length) : byteAt payload i = byteAt (gresb_host_hdr payload.length ++ payload) i := by
  obtain ⟨rest, hrest⟩ := hbegins
  rw [gresb_msg_whole hfits] at hrest
  rw [← hrest, byteAt, byteAt, List.getD_append _ _ _ _ hi]

/-- Only one payload is a PUS packet at the front of its own message. -/
theorem pus_coincidence (hfits : payload.length < 2 ^ 24) (hframe : pusFormat.IsFrame payload)
    (hbegins : payload <+: gresb_msg payload) : payload = [0, 0, 0, 7, 0, 0, 0] := by
  have hsize : (be16 (byteAt (payload.take 6) 4) (byteAt (payload.take 6) 5)).toNat + 7 = payload.length := hframe
  have hlength : 7 ≤ payload.length := by omega
  have h0 : byteAt payload 0 = 0 := byteAt_of_front hfits hbegins (by omega)
  have h1 : byteAt payload 1 = UInt8.ofNat (payload.length >>> 16) := byteAt_of_front hfits hbegins (by omega)
  have h2 : byteAt payload 2 = UInt8.ofNat (payload.length >>> 8) := byteAt_of_front hfits hbegins (by omega)
  have h3 : byteAt payload 3 = UInt8.ofNat payload.length := byteAt_of_front hfits hbegins (by omega)
  -- from here on the header is followed by the payload itself
  have hrepeats : ∀ i, 4 + i < payload.length → byteAt payload (4 + i) = byteAt payload i := by
    intro i hi
    rw [byteAt_of_front hfits hbegins hi]
    exact byteAt_append_right (gresb_host_hdr payload.length) payload i
  have h4 : byteAt payload 4 = 0 := (hrepeats 0 (by omega)).trans h0
  have h5 : byteAt payload 5 = UInt8.ofNat (payload.length >>> 16) := (hrepeats 1 (by omega)).trans h1
  have h6 : byteAt payload 6 = UInt8.ofNat (payload.length >>> 8) := (hrepeats 2 (by omega)).trans h2
  rw [byteAt_take (by decide), byteAt_take (by decide), h4, h5, toNat_be16, UInt8.toNat_ofNat',
    Nat.shiftRight_eq_div_pow, UInt8.toNat_zero] at hsize
  have hseven : payload.length = 7 := by omega
  rw [hseven] at h1 h2 h3 h5 h6
  match payload, hseven with
  | [a0, a1, a2, a3, a4, a5, a6], _ =>
    simp only [byteAt_cons_zero, byteAt_cons_succ] at h0 h1 h2 h3 h4 h5 h6
    simp [h0, h1, h2, h3, h4, h5, h6]

/-- A FEE packet at the front of the message of a payload is shorter than the
payload. -/
theorem fee_no_coincidence (hfits : payload.length < 2 ^ 24)
    (hprotocol : byteAt (gresb_msg payload) 1 = FEE_DATA_PROTOCOL) :
    fee_packet_length (gresb_msg payload) < payload.length := by
  have h1 : byteAt (gresb_msg payload) 1 = UInt8.ofNat (payload.length >>> 16) := by
    rw [gresb_msg_whole hfits]
    rfl
  have h2 : byteAt (gresb_msg payload) 2 = UInt8.ofNat (payload.length >>> 8) := by
    rw [gresb_msg_whole hfits]
    rfl
  have h3 : byteAt (gresb_msg payload) 3 = UInt8.ofNat payload.length := by
    rw [gresb_msg_whole hfits]
    rfl
  have htop : payload.length / 2 ^ 16 % 2 ^ 8 = 0xf0 := by
    have htop := congrArg UInt8.toNat (h1.symm.trans hprotocol)
    rwa [UInt8.toNat_ofNat', Nat.shiftRight_eq_div_pow] at htop
  rw [fee_packet_length, h2, h3, toNat_be16, UInt8.toNat_ofNat', UInt8.toNat_ofNat', Nat.shiftRight_eq_div_pow,
    FEE_DATA_HDR_SIZE]
  omega

section whole

variable {sockfd : Nat} {build : RmapRequest → Option (List UInt8)} {w : World TcpState}

theorem recv_pus_packet_coincidence (hfits : payload.length < 2 ^ 24) (hunread : w.env.unread = gresb_msg payload)
    (hreceived : wp (recv_pus_packet (tcpEnv sockfd build) .data sockfd) (fun received _ => received = some payload)
      (fun _ _ => False) w) : payload = [0, 0, 0, 7, 0, 0, 0] := by
  have htakes := recv_pus_packet_takesFrame (tcpStream sockfd build) .data w
  obtain ⟨_, after, _, rfl, htaken⟩ := ok_of_wp_and hreceived htakes
  obtain ⟨frame, hframe, hstream, rfl⟩ := htaken
  exact pus_coincidence hfits hframe ⟨_, hstream.symm.trans hunread⟩

theorem gresb_msg_length (hfits : payload.length < 2 ^ 24) : (gresb_msg payload).length = payload.length + 4 := by
  rw [gresb_msg_whole hfits, List.length_append, Nat.add_comm]
  rfl

/-- A raw receive call takes all that is there. -/
theorem recv_raw_packet_all {queue : List UInt8} (hqueue : queue ≠ []) (henv : w.env = ⟨queue, [], []⟩) :
    wp (recv_raw_packet (tcpEnv sockfd build) .data sockfd) (fun received _ => received = some queue)
      (fun _ _ => True) w := by
  obtain ⟨b, bs, rfl⟩ := List.exists_cons_of_ne_nil hqueue
  simp [recv_raw_packet, recv, malloc, henv, tcpEnv, RecvFlags.none, TcpState.tick, TcpState.arrive,
    TcpState.await, RecvResult.clip]

/-- The message of a payload, all of it arrived, never makes the payload under
the FEE interpretation: it is received raw and whole, or a front of it is. -/
theorem recv_fee_packet_differs (hfits : payload.length < 2 ^ 24) (henv : w.env = ⟨gresb_msg payload, [], []⟩) :
    wp (recv_fee_packet (tcpEnv sockfd build) .data sockfd) (fun received _ => received ≠ some payload)
      (fun _ _ => True) w := by
  have hlength := gresb_msg_length hfits
  have hdrop : ∀ w, wp (conn_drop (tcpEnv sockfd build) .data sockfd) (fun _ _ => none ≠ some payload)
      (fun _ _ => True) w := fun w =>
    wp_mono (conn_drop_quiet (tcpEnv sockfd build) .data sockfd w) (fun _ _ _ => Option.some_ne_none payload ∘ Eq.symm)
      fun _ _ _ => trivial
  have hsome : gresb_msg payload ≠ [] := List.ne_nil_of_length_pos (by omega)
  have hunread : w.env.unread = gresb_msg payload := by rw [henv, TcpState.unread, List.flatten_nil, List.append_nil]
  simp only [recv_fee_packet, wp_bind]
  by_cases hshort : (gresb_msg payload).length < FEE_DATA_HDR_SIZE
  · exact peek_header_cut rfl (by rw [henv]) (by rwa [henv]) (by rwa [henv]) (hdrop w)
  · refine wp_mono (peek_header_takes rfl (by decide) (w := w) (by rw [henv]; exact Nat.le_of_not_lt hshort)) ?_
      fun _ _ h => h.elim
    rintro _ _ ⟨s, rfl, rfl, htook⟩
    have hs : s = ⟨gresb_msg payload, [], []⟩ := by
      have hwire := htook.wire
      have hsched := htook.sched
      have hqueue := htook.unread
      rw [henv, List.suffix_nil] at hwire hsched
      rw [hunread, TcpState.unread, hwire, List.flatten_nil, List.append_nil] at hqueue
      cases s
      simp_all
    subst hs
    simp only [hunread, wp_ite]
    split_ifs with hprotocol
    · apply wp_mono_post (recv_raw_packet_all hsome rfl)
      rintro _ _ rfl heq
      have hsame := congrArg List.length (Option.some.inj heq)
      omega
    · rw [Decidable.not_not, byteAt_take (by decide)] at hprotocol
      have hless := fee_no_coincidence hfits hprotocol
      refine recv_body_unread (tcpStream sockfd build) (fun bs _ _ hbs heq => ?_) fun _ => hdrop _
      have hsame := congrArg List.length (Option.some.inj heq)
      have hheader : ∀ i < FEE_DATA_HDR_SIZE, byteAt ((gresb_msg payload).take FEE_DATA_HDR_SIZE) i =
          byteAt (gresb_msg payload) i := fun i hi => byteAt_take hi
      simp only [fee_packet_length, hheader 2 (by decide), hheader 3 (by decide)] at hbs hless
      omega

end whole

/-! ### The configurations that fit -/

/-- A connection on descriptor 4 with nothing but the message, and the device
ready. -/
def messageWorld (msg : List UInt8) : World TcpState :=
  { World.fresh ⟨msg, [], []⟩ with spw := some ⟨[0xfe], fun _ => 1⟩ }

theorem messageWorld_unread (msg : List UInt8) : (messageWorld msg).env.unread = msg := List.append_nil msg

theorem messageWorld_ready (cfg : BridgeCfg) (msg : List UInt8) : spw_link_ready cfg (messageWorld msg) = true := by
  simp [spw_link_ready, messageWorld]

/-- In UDP mode the GRESB header is passed on. -/
theorem not_transmits_dgram (hmode : cfg.mode = .MODE_DGRAM) (hmonitor : cfg.enable_monitor = false)
    (hfits : payload.length < 2 ^ 24) : ¬ Transmits cfg (gresb_msg payload) payload := by
  intro htransmits
  rw [Transmits, if_pos hmode] at htransmits
  have hlength := gresb_msg_length hfits
  have hsome : gresb_msg payload ≠ [] := List.ne_nil_of_length_pos (by omega)
  have hready : spw_link_ready cfg (dgramWorld [(gresb_msg payload, ⟨0, 1⟩)]) = true := by
    simp [spw_link_ready, dgramWorld, hmonitor]
  have hpayload := htransmits _ 4 (dgramSocket 4) ⟨0, 1⟩ (dgramWorld [(gresb_msg payload, ⟨0, 1⟩)]) rfl rfl hready
  have hmsg := net_to_spw_dgram (S := dgramSocket 4) hmode hmonitor (w := dgramWorld [(gresb_msg payload, ⟨0, 1⟩)])
    rfl rfl hsome rfl
  obtain ⟨_, after, _, hhanded, hreceived⟩ := ok_of_wp_and hpayload hmsg
  have hsame := List.append_cancel_left (hreceived.handed.symm.trans hhanded)
  simp only [List.cons.injEq, SpwCall.send_packet.injEq, true_and, and_true] at hsame
  rw [hsame] at hlength
  omega

/-- What a message that has arrived whole is received as. -/
theorem received_of_transmits (hmode : cfg.mode ≠ .MODE_DGRAM) (hmonitor : cfg.enable_monitor = false)
    {msg : List UInt8} (htransmits : Transmits cfg msg payload) :
    wp (net_recv (tcpEnv 4 fun _ => none) cfg .data 4) (fun received _ => ∃ client, received = some (payload, client))
      (fun _ _ => False) (messageWorld msg) := by
  rw [Transmits, if_neg hmode] at htransmits
  exact received_of_handed hmonitor rfl
    (htransmits 4 (fun _ => none) (messageWorld msg) (messageWorld_unread msg) List.not_mem_nil
      (fun _ _ => Nat.min_le_right _ _) (messageWorld_ready cfg msg))

/-- A connection whose framer finds the payload as its first packet. -/
theorem transmits_of_packet (hmode : cfg.mode ≠ .MODE_DGRAM) (hmonitor : cfg.enable_monitor = false)
    {kind : StreamKind} (hkind : framing cfg .data = some kind) {msg frame rest : List UInt8}
    (hpacket : kind.Packet frame) (hmsg : msg = frame ++ rest) (hcall : kind.call frame = .send_packet false payload) :
    Transmits cfg msg payload := by
  rw [Transmits, if_neg hmode]
  intro sockfd build w hunread hwire hheader hready
  obtain ⟨st, hst⟩ := spw_some_of_ready hready
  have hhdr : kind.format.hdr ≤ w.env.queue.length := by
    have hle := hpacket.1.hdr_le_length
    have hqueue := hheader kind hkind
    rw [hmsg, List.length_append] at hqueue
    omega
  have hdelivered : wp (handle_pkt (tcpEnv sockfd build) cfg .data sockfd)
      (fun _ after => Delivered frame.length [kind.call frame] w after) (fun _ _ => False) w :=
    handle_pkt_tcp hkind (Or.inl hmonitor) ⟨hpacket, hunread.trans hmsg, hhdr, hwire⟩ hst
  apply wp_mono_post hdelivered
  intro _ after hafter
  rw [hafter.handed, hcall]

/-- The receive side mirrors the send side on connections without PUS and FEE
interpretation. UDP mode passes the GRESB header on, and the two interpretations
come before the GRESB framer; a single payload of seven bytes also survives the
PUS one. -/
theorem gresb_symmetric_iff (hgresb : cfg.enable_gresb = true) (hmonitor : cfg.enable_monitor = false)
    (hfits : payload.length < 2 ^ 24) :
    Symmetric cfg payload ↔ cfg.mode ≠ .MODE_DGRAM ∧
      if cfg.interpret_pus then payload = [0, 0, 0, 7, 0, 0, 0] else cfg.interpret_fee = false := by
  have hsent : SentToPeer cfg payload (gresb_msg payload) := (sentToPeer_iff hgresb).mpr rfl
  constructor
  · intro hsymmetric
    have htransmits := hsymmetric _ hsent
    have hmode : cfg.mode ≠ .MODE_DGRAM := fun hmode => not_transmits_dgram hmode hmonitor hfits htransmits
    have hreceived := received_of_transmits hmode hmonitor htransmits
    refine ⟨hmode, ?_⟩
    split_ifs with hpus
    · simp only [net_recv, hmode, hpus, ↓reduceIte, wp_map] at hreceived
      apply recv_pus_packet_coincidence hfits (messageWorld_unread (gresb_msg payload))
      apply wp_mono_post hreceived
      rintro (_ | received) _ ⟨client, hpkt⟩
      · cases hpkt
      · rw [(Prod.mk.inj (Option.some.inj hpkt)).1]
    · by_contra hfee
      rw [Bool.not_eq_false] at hfee
      simp only [net_recv, hmode, hpus, hfee, Bool.false_eq_true, ↓reduceIte, wp_map] at hreceived
      have hdiffers : wp (recv_fee_packet (tcpEnv 4 fun _ => none) .data 4) (fun received _ => received ≠ some payload)
          (fun _ _ => True) (messageWorld (gresb_msg payload)) := recv_fee_packet_differs hfits rfl
      obtain ⟨received, _, _, ⟨client, hpkt⟩, hne⟩ := ok_of_wp_and hreceived hdiffers
      cases received with
      | none => cases hpkt
      | some received =>
        apply hne
        rw [(Prod.mk.inj (Option.some.inj hpkt)).1]
  · rintro ⟨hmode, hflags⟩ msg hmsg
    obtain rfl := (sentToPeer_iff hgresb).mp hmsg
    split_ifs at hflags with hpus
    · subst hflags
      have hkind : framing cfg .data = some .pus := by simp [framing, hmode, hpus]
      have hfront : gresb_msg [0, 0, 0, 7, 0, 0, 0] = [0, 0, 0, 7, 0, 0, 0] ++ [7, 0, 0, 0] := by decide
      exact transmits_of_packet hmode hmonitor hkind (by decide) hfront rfl
    · have hframe : StreamKind.gresb.Packet (gresb_msg payload) := ⟨gresb_msg_isFrame hfits, trivial⟩
      have hkind : framing cfg .data = some .gresb := by simp [framing, hmode, hpus, hflags, hgresb]
      apply transmits_of_packet hmode hmonitor hkind hframe (List.append_nil _).symm
      rw [StreamKind.call, gresb_msg_drop hfits]

theorem gresb_symmetric_iff_server :
    Symmetric gresbServer [0xaa] ↔ gresbServer.mode ≠ .MODE_DGRAM ∧
      if gresbServer.interpret_pus then [(0xaa : UInt8)] = [0, 0, 0, 7, 0, 0, 0]
      else gresbServer.interpret_fee = false :=
  gresb_symmetric_iff rfl rfl (by decide)

/-- The same in UDP mode. -/
def gresbDgram : BridgeCfg := { gresbServer with mode := .MODE_DGRAM }

/-- There the message of the payload 0xaa is transmitted as a packet of five
bytes. -/
theorem gresb_dgram_not_symmetric :
    (∃ after, net_to_spw dgramEnv gresbDgram .data 4 (dgramWorld [(gresb_msg [0xaa], ⟨0, 1⟩)]) = .ok () after ∧
      handed after.spw_log = [.send_packet false [0, 0, 0, 1, 0xaa]]) ∧ ¬ Symmetric gresbDgram [0xaa] := by
  refine ⟨⟨_, rfl, rfl⟩, fun hsymmetric => ?_⟩
  have htransmits : Transmits gresbDgram (gresb_msg [0xaa]) [0xaa] := hsymmetric _ ((sentToPeer_iff rfl).mpr rfl)
  exact not_transmits_dgram rfl rfl (by decide) htransmits

end spw_bridge.net
