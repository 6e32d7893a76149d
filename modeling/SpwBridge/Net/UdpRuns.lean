import SpwBridge.Net.Datagram
import SpwBridge.Net.UdpPeers
import SpwBridge.Net.Unreliable

open effect tables

namespace spw_bridge.net

variable {σ : Type}

/-- The datagrams that a stretch of the network log has sent to a peer. -/
def datagrams_to (client : SockaddrIn) (calls : List NetCall) : List (List UInt8) :=
  ((datagrams calls).filter (·.1 = client)).map Prod.snd

@[simp] theorem datagrams_to_append (client : SockaddrIn) (calls calls' : List NetCall) :
    datagrams_to client (calls ++ calls') = datagrams_to client calls ++ datagrams_to client calls' := by
  rw [datagrams_to, datagrams_append, List.filter_append, List.map_append]
  rfl

/-- What the registered peers see of the bridge: the table and their datagrams. -/
def peer_side (client : SockaddrIn) (w : World σ) : List SockaddrIn × Nat × List (List UInt8) :=
  ((w.svc .data).clients, (w.svc .data).clients_cap, datagrams_to client w.net_log)

section quiet

variable (client : SockaddrIn) {E : Env σ} {cfg : BridgeCfg}

theorem serves_peer_side : Serves (Same (peer_side (σ := σ) client)) where
  env _ _ := rfl
  closed w sockfd := by
    change peer_side client _ = peer_side client w
    simp [peer_side, datagrams_to, datagrams]
  fd_clr w id sockfd := by
    change peer_side client _ = peer_side client w
    by_cases hid : SvcId.data = id
    · subst hid
      simp [peer_side, fd_clr]
    · simp [peer_side, hid]
  spw_log _ _ := rfl

theorem broadcast_peer_side (id : SvcId) (msg : List UInt8) : Keeps (peer_side client) (broadcast E id msg) := by
  have hlog : ∀ (w : World σ) (call : NetCall), datagrams_to client [call] = [] →
      Same (peer_side client) w { w with net_log := w.net_log ++ [call] } := by
    intro w call hcall
    change peer_side client _ = peer_side client w
    simp only [peer_side, datagrams_to_append, hcall, List.append_nil]
  have hsilent : Silent E id (Same (peer_side client)) :=
    ⟨fun _ _ _ => rfl, fun _ _ => rfl, fun w _ _ => hlog w _ rfl, fun w _ => hlog w _ rfl,
      fun w => (serves_peer_side client).fd_clr w id⟩
  exact fun w => within_broadcast_of_members hsilent msg w fun s fd _ _ => hlog s _ rfl

theorem sniff_push_peer_side (pkt : List UInt8) : Keeps (peer_side client) (sniff_push E cfg pkt) := by
  have hcall : ∀ w, Same (peer_side client) w { w with env := (E.malloc w.env).2 } := fun _ => rfl
  exact within_sniff_push_of hcall (broadcast_peer_side client .sniff) pkt

theorem rmap_reply_peer_side (buf : List UInt8) : Keeps (peer_side client) (rmap_reply_to_clients E cfg buf) := by
  have hcall : ∀ {α : Type} (f : σ → α × σ), Keeps (peer_side client) (syscall f) := fun _ _ => rfl
  have halloc : Keeps (peer_side client) (alloc_pkt E) :=
    within_bind (hcall _) fun _ => within_bind (hcall _) fun _ => within_bind (hcall _) fun _ => within_pure _
  apply within_bind halloc
  intro alloc
  refine within_bind (within_lift _) fun pkt => ?_
  cases pkt with
  | none => exact within_pure _
  | some pkt =>
    apply within_bind (hcall _)
    intro tmp
    exact within_ite (fun _ => within_bind (within_lift _) fun msg => broadcast_peer_side client .rmap msg) fun _ =>
      within_pure _

end quiet

/-! ### What a stretch of a run sends to a peer -/

/-- The peers of the data service are a table. -/
def Tabled (w : World σ) : Prop := ∃ t : PeerTable, Holds (w.svc .data) t

/-- A stretch of a run that sends a registered peer these datagrams, a stranger
none, and keeps the table. -/
structure Posts (client : SockaddrIn) (sent : List (List UInt8)) (w after : World σ) : Prop where
  tabled : Tabled after
  clients : (w.svc .data).clients <+: (after.svc .data).clients
  registered : client ∈ (w.svc .data).clients →
    datagrams_to client after.net_log = datagrams_to client w.net_log ++ sent
  stranger : client ∉ (after.svc .data).clients → datagrams_to client after.net_log = datagrams_to client w.net_log

section posts

variable {client : SockaddrIn} {sent sent' : List (List UInt8)} {w mid after : World σ}

theorem Posts.trans (hfirst : Posts client sent w mid) (hrest : Posts client sent' mid after) :
    Posts client (sent ++ sent') w after where
  tabled := hrest.tabled
  clients := hfirst.clients.trans hrest.clients
  registered hmem := by
    rw [hrest.registered (hfirst.clients.subset hmem), hfirst.registered hmem, List.append_assoc]
  stranger hout := by
    rw [hrest.stranger hout, hfirst.stranger fun hmid => hout (hrest.clients.subset hmid)]

theorem Posts.of_same (htabled : Tabled w) (hsame : peer_side client after = peer_side client w) :
    Posts client [] w after := by
  obtain ⟨t, hholds⟩ := htabled
  obtain ⟨hclients, hrest⟩ := Prod.mk.inj hsame
  obtain ⟨hcap, hdatagrams⟩ := Prod.mk.inj hrest
  refine ⟨⟨t, hclients.trans hholds.clients, hcap.trans hholds.clients_cap⟩, ?_, fun _ => ?_, fun _ => hdatagrams⟩
  · rw [hclients]
  · rw [hdatagrams, List.append_nil]

variable (client) in
/-- A packet goes to a registered peer once. -/
theorem dgram_send_all_posts (E : Env σ) (htabled : Tabled w) (msg : List UInt8) :
    wp (dgram_send_all E .data msg) (fun _ after => Posts client [msg] w after) (fun _ _ => False) w := by
  obtain ⟨t, hholds⟩ := htabled
  apply wp_mono_post (dgram_send_all_sends .data msg w)
  intro _ after hsends
  have hsent : datagrams_to client after.net_log = datagrams_to client w.net_log ++
      (((w.svc .data).clients.map fun client => (client, msg)).filter (·.1 = client)).map Prod.snd := by
    rw [datagrams_to, hsends.datagrams_eq, List.filter_append, List.map_append]
    rfl
  have hpeer : (((w.svc .data).clients.map fun client => (client, msg)).filter (·.1 = client)).map Prod.snd =
      ((w.svc .data).clients.filter (· = client)).map fun _ => msg := by
    rw [List.filter_map, List.map_map]
    rfl
  refine ⟨⟨t, hsends.svc ▸ hholds⟩, ?_, fun hmem => ?_, fun hout => ?_⟩
  · rw [hsends.svc]
  · have hnodup : (w.svc .data).clients.Nodup := hholds.clients ▸ t.nodup
    rw [hsent, hpeer, List.filter_eq, List.count_eq_one_of_mem hnodup hmem]
    rfl
  · rw [hsends.svc] at hout
    rw [hsent, hpeer, List.filter_eq_nil_iff.mpr]
    · exact List.append_nil _
    · rintro other hother heq
      exact hout (of_decide_eq_true heq ▸ hother)

variable (client) in
/-- Registering somebody changes nothing for the others. -/
theorem register_sender_posts (E : Env σ) (htabled : Tabled w) (sender : Option SockaddrIn) :
    wp (register_sender E .data sender) (fun _ after => Posts client [] w after) (fun _ _ => False) w := by
  cases sender with
  | none => exact .of_same htabled rfl
  | some sender =>
    obtain ⟨t, hholds⟩ := htabled
    have hlistens : Listens (Same fun w : World σ => datagrams_to client w.net_log) := by
      refine ⟨⟨fun _ _ => rfl, fun w sockfd => ?_, fun _ _ _ => rfl⟩, fun _ _ => rfl, fun _ _ _ _ => rfl⟩
      exact (datagrams_to_append client _ _).trans (List.append_nil _)
    have hquiet : Keeps (fun w => datagrams_to client w.net_log) (register_sender E .data (some sender)) :=
      within_register_sender hlistens E .data (some sender)
    obtain ⟨_, after, hrun, hsvc⟩ := ok_of_wp (dgram_add_client_add E .data sender hholds)
    have hsame : datagrams_to client after.net_log = datagrams_to client w.net_log := (wp_ok hrun).mp (hquiet.wp w)
    have hadded : Holds (after.svc .data) (t.add four_pos (E.malloc w.env).1 sender) := by
      rw [hsvc, Function.update_self]
      exact with_peers_holds _ _
    refine (wp_ok hrun).mpr ⟨⟨_, hadded⟩, ?_, fun _ => ?_, fun _ => hsame⟩
    · rw [hholds.clients, hadded.clients]
      exact t.prefix_add four_pos _ sender
    · rw [hsame, List.append_nil]

end posts

/-- A stretch of a run that sends a registered peer the messages, apart from those
for which there was no memory, and if the process ends from those that were left. -/
def Mailed (E : Env σ) (up : Bool) (client : SockaddrIn) (msgs : List (List UInt8)) (w after : World σ) : Prop :=
  ∃ sent, sent.Sublist msgs ∧ (Allocates E → sent <+: msgs ∧ (up = true → sent = msgs)) ∧ Posts client sent w after

section runs

variable {E : Env σ} {cfg : BridgeCfg} {client : SockaddrIn} {w mid after : World σ} {up : Bool}
  {msgs msgs' : List (List UInt8)}

theorem Mailed.nothing (hposts : Posts client [] w after) : Mailed E up client [] w after :=
  ⟨[], .refl _, fun _ => ⟨List.prefix_refl _, fun _ => rfl⟩, hposts⟩

theorem Mailed.trans (hfirst : Mailed E true client msgs w mid) (hrest : Mailed E up client msgs' mid after) :
    Mailed E up client (msgs ++ msgs') w after := by
  obtain ⟨sent, hsub, hall, hposts⟩ := hfirst
  obtain ⟨sent', hsub', hall', hposts'⟩ := hrest
  refine ⟨sent ++ sent', hsub.append hsub', fun hallocates => ?_, hposts.trans hposts'⟩
  obtain ⟨-, hwhole⟩ := hall hallocates
  obtain ⟨hbegins', hwhole'⟩ := hall' hallocates
  rw [hwhole rfl]
  exact ⟨(List.prefix_append_right_inj _).mpr hbegins', fun hup => congrArg _ (hwhole' hup)⟩

/-- The process may end before it has come to the messages. -/
theorem Mailed.ended (hmailed : Mailed E up client msgs w after) (more : List (List UInt8)) :
    Mailed E false client (msgs ++ more) w after := by
  obtain ⟨sent, hsub, hall, hposts⟩ := hmailed
  refine ⟨sent, hsub.trans (List.sublist_append_left _ _), fun hallocates => ⟨?_, nofun⟩, hposts⟩
  exact (hall hallocates).1.trans (List.prefix_append _ _)

theorem sniff_push_no_hang (hE : Patient E) (pkt : List UInt8) :
    wp (sniff_push E cfg pkt) (fun _ _ => True) (fun halt _ => halt ≠ .hang) w := by
  simp only [sniff_push, wp_bind, wp_get_svc, wp_ite, wp_pure]
  split
  · exact trivial
  · split
    · exact wp_gresb_try (fun _ _ => trivial) fun _ => broadcast_no_hang hE .sniff _
    · exact broadcast_no_hang hE .sniff pkt

theorem net_forward_to_clients_mailed (hE : Patient E) (hmode : cfg.mode = .MODE_DGRAM) (htabled : Tabled w)
    (pkt : List UInt8) :
    wp (net_forward_to_clients E cfg pkt) (fun _ after => Mailed E true client [framed cfg.enable_gresb pkt] w after)
      (fun halt after => halt ≠ .hang ∧ Mailed E false client [framed cfg.enable_gresb pkt] w after) w := by
  simp only [net_forward_to_clients, wp_bind, hmode, ↓reduceIte]
  apply wp_mono (wp_and (sniff_push_no_hang hE pkt) ((sniff_push_peer_side client pkt).wp w))
  · rintro _ mid ⟨-, hsniffed⟩
    have hmid : Posts client [] w mid := .of_same htabled hsniffed
    have hposted : ∀ {sent}, Posts client [framed cfg.enable_gresb pkt] mid sent →
        Mailed E true client [framed cfg.enable_gresb pkt] w sent := fun hsent =>
      ⟨_, .refl _, fun _ => ⟨List.prefix_refl _, fun _ => rfl⟩, hmid.trans hsent⟩
    cases hgresb : cfg.enable_gresb with
    | false =>
      simp only [hgresb, Bool.false_eq_true, ↓reduceIte, framed] at hposted ⊢
      exact wp_mono (dgram_send_all_posts client E hmid.tabled pkt) (fun _ _ h => hposted h) fun _ _ h => h.elim
    | true =>
      simp only [hgresb, ↓reduceIte, framed] at hposted ⊢
      have hcall : ∀ s, Posts client [] mid { mid with env := s } := fun _ => .of_same hmid.tabled rfl
      refine wp_gresb_try (fun s hnone => ?_) fun s => ?_
      · exact ⟨[], List.nil_sublist _, fun hallocates => absurd hallocates hnone, hmid.trans (hcall s)⟩
      · rw [wp_bind]
        refine wp_mono (dgram_send_all_posts client E (hcall s).tabled _) (fun _ sent hsent => ?_) fun _ _ h => h.elim
        have hserver : ∀ svc : NetService, cfg.mode ≠ .MODE_SERVER ∨ svc.sock_fd = 0 := fun _ => .inl (by simp [hmode])
        simp only [gresb_push_rx_clients, wp_bind, wp_get_svc, hserver, ↓reduceIte, wp_pure]
        exact hposted ((hcall s).trans hsent)
  · rintro halt after ⟨hhang, hafter⟩
    exact ⟨hhang, (Mailed.nothing (.of_same htabled hafter) : Mailed E true client [] w after).ended _⟩

theorem net_to_spw_posts (hmode : cfg.mode = .MODE_DGRAM) (htabled : Tabled w) (fd : Nat) :
    wp (handle_pkt E cfg .data fd) (fun _ after => Posts client [] w after) (fun _ after => Posts client [] w after)
      w := by
  have hserves := serves_peer_side (σ := σ) client
  have hkeeps : ∀ {α : Type} {x : Prog σ α}, Keeps (peer_side client) x → ∀ mid, Posts client [] w mid →
      wp x (fun _ after => Posts client [] w after) (fun _ after => Posts client [] w after) mid := by
    intro α x hx mid hmid
    have hafter : ∀ after, Same (peer_side client) mid after → Posts client [] w after := fun after h =>
      hmid.trans (.of_same hmid.tabled h)
    exact wp_mono (hx.wp mid) (fun _ => hafter) fun _ => hafter
  have hrecv : Keeps (peer_side client) (net_recv E cfg .data fd) := by
    rw [net_recv, if_pos hmode]
    exact within_map (within_recv_dgram_packet hserves.toReceives E fd) _
  rw [handle_pkt, net_to_spw, wp_bind]
  refine wp_mono_post (hkeeps hrecv w (.of_same htabled rfl)) ?_
  rintro (- | ⟨pkt, sender⟩) received hreceived
  · exact hreceived
  · simp only [wp_bind]
    apply wp_mono_post (hkeeps (sniff_push_peer_side client pkt) received hreceived)
    intro _ sniffed hsniffed
    rw [wp_bind]
    refine wp_mono (register_sender_posts client E hsniffed.tabled sender) ?_ fun _ _ h => h.elim
    intro _ registered hregistered
    rw [wp_ite]
    have hposts := hsniffed.trans hregistered
    split
    · exact hposts
    · exact hkeeps (within_spw_send_packet hserves pkt) registered hposts

/-- The step lemma. -/
theorem stepEvent_mailed (hE : Patient E) (hmonitor : cfg.enable_monitor = false) (hmode : cfg.mode = .MODE_DGRAM)
    (htabled : Tabled w) {event : BridgeEvent} (hstep : stepEvent E cfg w event = (after, up)) :
    Mailed E up client (messages_of cfg [event]) w after := by
  -- what an event without a message for the peers leaves behind
  have hquiet : forwarded cfg event = none →
      wp (handle_event E cfg event) (fun _ after => Posts client [] w after) (fun _ after => Posts client [] w after)
        w → Mailed E up client (messages_of cfg [event]) w after := by
    intro hnone hposts
    have hmessages : messages_of cfg [event] = [] := by simp [messages_of, hnone]
    have hpost := stepEvent_of_wp (fun after _ => Posts client [] w after) hposts
    rw [hstep] at hpost
    rw [hmessages]
    exact .nothing hpost
  have hkeeps : Keeps (peer_side client) (handle_event E cfg event) →
      wp (handle_event E cfg event) (fun _ after => Posts client [] w after) (fun _ after => Posts client [] w after)
        w := fun hkeeps =>
    wp_mono (hkeeps.wp w) (fun _ _ h => .of_same htabled h) fun _ _ h => .of_same htabled h
  cases event with
  | net id fd =>
    by_cases hid : id = .data
    · subst hid
      exact hquiet rfl (net_to_spw_posts hmode htabled fd)
    · exact hquiet rfl (hkeeps (within_side_service (serves_peer_side client) (sniff_push_peer_side client) hid fd))
  | accept id fd =>
    refine hquiet rfl (hkeeps fun w => ?_)
    change peer_side client { w with svc := Function.update w.svc id (accept_connections (w.svc id) fd) } =
      peer_side client w
    by_cases hid : SvcId.data = id
    · subst hid
      simp only [peer_side, Function.update_self, accept_connections]
      split <;> rfl
    · simp [peer_side, hid]
  | spw chan pkt =>
    have hsink : handle_event E cfg (.spw chan pkt) = net_pkt_sink E cfg pkt.val := by
      rw [handle_event, pkt_sink, if_neg (by simp [hmonitor])]
    by_cases hlong : pkt.val.length ≤ cfg.skip_header_bytes
    · refine hquiet (if_pos (.inl hlong)) (hkeeps ?_)
      rw [hsink, net_pkt_sink, if_pos hlong]
      exact within_pure _
    · by_cases hrmap : LooksRmap cfg pkt.val
      · refine hquiet (if_pos (.inr hrmap)) (hkeeps ?_)
        rw [hsink, net_pkt_sink_rmap E hlong hrmap]
        exact rmap_reply_peer_side client pkt.val
      · have hforwarded : messages_of cfg [.spw chan pkt] =
            [framed cfg.enable_gresb (pkt.val.drop cfg.skip_header_bytes)] := by
          simp [messages_of, forwarded, hlong, hrmap]
        have hwp : wp (net_pkt_sink E cfg pkt.val)
            (fun _ after => Mailed E true client (messages_of cfg [.spw chan pkt]) w after)
            (fun halt after => Mailed E (decide (halt = .hang)) client (messages_of cfg [.spw chan pkt]) w after)
            w := by
          rw [hforwarded]
          apply wp_net_pkt_sink_forward (Nat.lt_of_not_le hlong) hrmap
          intro s t _
          have hcall : Posts client [] w { w with env := s, pus_seq_rx := t } := .of_same htabled rfl
          apply wp_mono (net_forward_to_clients_mailed hE hmode hcall.tabled _)
          · exact fun _ after h => Mailed.trans (.nothing hcall) h
          · rintro halt after ⟨hhang, h⟩
            rw [decide_eq_false hhang]
            exact Mailed.trans (.nothing hcall) h
        rw [← hsink] at hwp
        have hpost := stepEvent_of_wp (fun after up => Mailed E up client (messages_of cfg [.spw chan pkt]) w after) hwp
        rwa [hstep] at hpost

/-- The run lemma, by induction over the events. -/
theorem runEvents_mailed (hE : Patient E) (hmonitor : cfg.enable_monitor = false) (hmode : cfg.mode = .MODE_DGRAM)
    (htabled : Tabled w) {events : List BridgeEvent} (hrun : runEvents E cfg w events = (after, up)) :
    Mailed E up client (messages_of cfg events) w after := by
  induction events generalizing w with
  | nil =>
    obtain ⟨rfl, rfl⟩ := Prod.mk.inj hrun
    exact .nothing (.of_same htabled rfl)
  | cons event events ih =>
    rw [runEvents_cons] at hrun
    rw [messages_of_cons]
    rcases hstep : stepEvent E cfg w event with ⟨mid, running⟩
    rw [hstep] at hrun
    have hfirst : Mailed E running client (messages_of cfg [event]) w mid :=
      stepEvent_mailed hE hmonitor hmode htabled hstep
    cases running with
    | false =>
      obtain ⟨rfl, rfl⟩ := Prod.mk.inj hrun
      exact hfirst.ended _
    | true =>
      have htabled' : Tabled mid := by
        obtain ⟨_, _, _, hposts⟩ := hfirst
        exact hposts.tabled
      exact hfirst.trans (ih htabled' hrun)

/-- The peers of a UDP bridge that is not in monitor mode are served, in an environment
that interrupts no send without end. In every run from an empty table: the peers that
have registered at some point are distinct and stay registered; from then on each of
them is sent the forwarded packets as datagrams of their own, in their order and each
once, apart from those for which there was no memory; and nobody else is sent
anything. -/
theorem udp_peers_served (hE : Patient E) (hmonitor : cfg.enable_monitor = false) (hmode : cfg.mode = .MODE_DGRAM)
    (hclients : (w.svc .data).clients = []) (hcap : (w.svc .data).clients_cap = 0) {before rest : List BridgeEvent}
    (hbefore : runEvents E cfg w before = (mid, true)) (hrest : runEvents E cfg mid rest = (after, up)) :
    (mid.svc .data).clients.Nodup ∧ (mid.svc .data).clients <+: (after.svc .data).clients ∧
      ∀ client,
        (client ∈ (mid.svc .data).clients → ∃ sent, sent.Sublist (messages_of cfg rest) ∧
          (Allocates E → sent <+: messages_of cfg rest ∧ (up = true → sent = messages_of cfg rest)) ∧
          datagrams_to client after.net_log = datagrams_to client mid.net_log ++ sent) ∧
        (client ∉ (after.svc .data).clients →
          datagrams_to client after.net_log = datagrams_to client mid.net_log) := by
  have hempty : Tabled w := ⟨.empty, hclients, hcap⟩
  have htabled : Tabled mid := by
    obtain ⟨_, _, _, hposts⟩ := @runEvents_mailed _ _ _ ⟨0, 0⟩ _ _ _ hE hmonitor hmode hempty _ hbefore
    exact hposts.tabled
  have hmailed : ∀ client, Mailed E up client (messages_of cfg rest) mid after := fun client =>
    runEvents_mailed hE hmonitor hmode htabled hrest
  refine ⟨?_, ?_, fun client => ?_⟩
  · obtain ⟨t, hholds⟩ := htabled
    exact hholds.clients ▸ t.nodup
  · obtain ⟨_, _, _, hposts⟩ := hmailed ⟨0, 0⟩
    exact hposts.clients
  · obtain ⟨sent, hsub, hall, hposts⟩ := hmailed client
    exact ⟨fun hmem => ⟨sent, hsub, hall, hposts.registered hmem⟩, hposts.stranger⟩

theorem dgramEnv_patient : Patient dgramEnv := fun sockfd => (dgramSocket sockfd).send_ends sockfd

/-- A datagram registers its sender, which gets the packet that comes next. -/
theorem udp_peers_served_sender :
    ∃ mid after, runEvents dgramEnv dgramCfg (dgramWorld [([1], ⟨9, 9⟩)]) [.net .data 4] = (mid, true) ∧
      runEvents dgramEnv dgramCfg mid [.spw false tunnelPacket] = (after, true) ∧
      (mid.svc .data).clients = [⟨9, 9⟩] ∧
      datagrams_to ⟨9, 9⟩ after.net_log = datagrams_to ⟨9, 9⟩ mid.net_log ++ [tunnelPacket.val] := by
  have hbefore : runEvents dgramEnv dgramCfg (dgramWorld [([1], ⟨9, 9⟩)]) [.net .data 4] =
      ((runEvents dgramEnv dgramCfg (dgramWorld [([1], ⟨9, 9⟩)]) [.net .data 4]).1, true) := Prod.ext rfl rfl
  generalize hmid : (runEvents dgramEnv dgramCfg (dgramWorld [([1], ⟨9, 9⟩)]) [.net .data 4]).1 = mid at hbefore
  have hclients : (mid.svc .data).clients = [⟨9, 9⟩] := hmid ▸ rfl
  have hrest : runEvents dgramEnv dgramCfg mid [.spw false tunnelPacket] =
      ((runEvents dgramEnv dgramCfg mid [.spw false tunnelPacket]).1, true) := hmid ▸ Prod.ext rfl rfl
  obtain ⟨-, -, hserved⟩ := udp_peers_served dgramEnv_patient rfl rfl rfl rfl hbefore hrest
  obtain ⟨sent, -, hall, hsent⟩ := (hserved ⟨9, 9⟩).1 (hclients ▸ List.mem_singleton_self _)
  rw [(hall fun _ => rfl).2 rfl] at hsent
  exact ⟨mid, _, hbefore, hrest, hclients, hsent⟩

end runs

end spw_bridge.net
