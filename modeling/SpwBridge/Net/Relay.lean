import SpwBridge.Net.Reply

open effect

namespace spw_bridge.net

variable {σ : Type}

/-! ### What forwarding sends at most -/

/-- A call hands out nothing but permitted messages: to the members of each
service its own, and to registered peers the datagrams. -/
def Permitted (conn : SvcId → List UInt8 → Prop) (dgram : List UInt8 → Prop) (w : World σ) : NetCall → Prop
  | .send_all sockfd msg => ∃ id, sockfd ∈ (w.svc id).conn_set ∧ conn id msg
  | .sendto _ msg => dgram msg
  | _ => True

/-- Connections are only lost, and all new calls are permitted. -/
structure SendsOnly (conn : SvcId → List UInt8 → Prop) (dgram : List UInt8 → Prop) (w after : World σ) : Prop where
  sets : ∀ id, (after.svc id).conn_set ⊆ (w.svc id).conn_set
  calls : ∃ calls, after.net_log = w.net_log ++ calls ∧ ∀ call ∈ calls, Permitted conn dgram w call

section only

variable {conn : SvcId → List UInt8 → Prop} {dgram : List UInt8 → Prop} {w after : World σ}

/-- A connection of a later state was one before. -/
theorem Permitted.earlier {call : NetCall} (hcall : Permitted conn dgram after call)
    (hsets : ∀ id, (after.svc id).conn_set ⊆ (w.svc id).conn_set) : Permitted conn dgram w call := by
  cases call with
  | send_all sockfd msg =>
    obtain ⟨id, hmem, hmsg⟩ := hcall
    exact ⟨id, hsets id hmem, hmsg⟩
  | sendto client msg => exact hcall
  | sent | close | select => exact trivial

instance : IsPreorder (World σ) (SendsOnly conn dgram) where
  refl w := ⟨fun _ => Finset.Subset.refl _, [], (List.append_nil _).symm, by simp⟩
  trans w mid after := by
    rintro ⟨hsets, calls, hcalls, hall⟩ ⟨hsets', calls', hcalls', hall'⟩
    refine ⟨fun id => (hsets' id).trans (hsets id), calls ++ calls', ?_, ?_⟩
    · rw [hcalls', hcalls, List.append_assoc]
    · intro call hcall
      rcases List.mem_append.mp hcall with hcall | hcall
      · exact hall call hcall
      · exact (hall' call hcall).earlier hsets

theorem sendsOnly_log {call : NetCall} (hcall : Permitted conn dgram w call) :
    SendsOnly conn dgram w { w with net_log := w.net_log ++ [call] } :=
  ⟨fun _ => Finset.Subset.refl _, [call], rfl, by simpa using hcall⟩

theorem sendsOnly_env (s : σ) : SendsOnly conn dgram w { w with env := s } :=
  ⟨fun _ => Finset.Subset.refl _, [], (List.append_nil _).symm, by simp⟩

theorem sendsOnly_silent (E : Env σ) (id : SvcId) : Silent E id (SendsOnly conn dgram) where
  send _ _ _ := sendsOnly_env _
  close _ _ := sendsOnly_env _
  sent _ _ _ := sendsOnly_log trivial
  closed _ _ := sendsOnly_log trivial
  fd_clr w sockfd := by
    refine ⟨fun other => ?_, [], (List.append_nil _).symm, by simp⟩
    by_cases hsame : other = id
    · subst hsame
      simp [fd_clr, Finset.erase_subset]
    · simp [hsame]

theorem broadcast_sendsOnly (E : Env σ) {id : SvcId} {msg : List UInt8} (hmsg : conn id msg) :
    Within (SendsOnly conn dgram) (broadcast E id msg) := fun w =>
  within_broadcast_of_members (sendsOnly_silent E id) msg w fun _ _ _ hmem => sendsOnly_log ⟨id, hmem, hmsg⟩

theorem dgram_send_all_sendsOnly (E : Env σ) (id : SvcId) {msg : List UInt8} (hmsg : dgram msg) :
    Within (SendsOnly conn dgram) (dgram_send_all E id msg) := by
  refine within_bind (within_get_svc id) fun svc => within_forM fun client _ => ?_
  have hsyscall : Within (SendsOnly conn dgram) (syscall fun s => ((), E.sendto s svc.sock_fd msg client)) :=
    fun w => sendsOnly_env _
  exact within_bind hsyscall fun _ w => sendsOnly_log hmsg

/-- Creating a GRESB packet and going on with it. Its `malloc()` has succeeded
then. -/
theorem gresb_create_sendsOnly (E : Env σ) (buf : List UInt8) {next : List UInt8 → Prog σ Unit}
    (hnext : (∃ s, (E.malloc s).1 = true) →
      Within (SendsOnly conn dgram) (next (gresb_host_hdr buf.length ++ buf))) :
    Within (SendsOnly conn dgram) (do
      let alloc ← malloc E
      match gresb_create_host_data_pkt alloc buf with
      | none => pure ()
      | some pkt => next pkt) := by
  intro w
  apply wp_final.mp
  simp only [malloc, wp_bind, wp_syscall, gresb_create_host_data_pkt_eq]
  cases halloc : (E.malloc w.env).1 with
  | false => exact sendsOnly_env _
  | true =>
    have hrest := (hnext ⟨w.env, halloc⟩).wp { w with env := (E.malloc w.env).2 }
    exact wp_mono hrest (fun _ _ h => trans_of _ (sendsOnly_env _) h) fun _ _ h => trans_of _ (sendsOnly_env _) h

end only

/-- The message of a packet after an allocation that succeeded. -/
def Created (E : Env σ) (buf msg : List UInt8) : Prop := (∃ s, (E.malloc s).1 = true) ∧ msg = gresb_msg buf

/-- What the clients of a service are sent for a packet. -/
def relayed (E : Env σ) (cfg : BridgeCfg) (buf : List UInt8) : SvcId → List UInt8 → Prop
  | .data => fun msg => if cfg.enable_gresb then Created E buf msg else msg = buf
  | .gresb_rx => fun msg => cfg.enable_gresb ∧ Created E buf msg
  | .sniff => fun msg => if cfg.sniff_gresb then Created E buf msg else msg = buf
  | .rmap | .gresb_tx => fun _ => False

/-- On every path, also on those that end in the middle of a broadcast. -/
theorem net_forward_to_clients_sendsOnly (E : Env σ) (cfg : BridgeCfg) (buf : List UInt8) :
    Within (SendsOnly (relayed E cfg buf) (relayed E cfg buf .data)) (net_forward_to_clients E cfg buf) := by
  have hsniff : Within (SendsOnly (relayed E cfg buf) (relayed E cfg buf .data)) (sniff_push E cfg buf) := by
    refine within_bind (within_get_svc .sniff) fun svc => ?_
    refine within_ite (fun _ => within_pure _) fun _ => within_ite (fun hgresb => ?_) fun hraw => ?_
    · apply gresb_create_sendsOnly E buf
      intro halloc
      exact broadcast_sendsOnly E (by simpa [relayed, hgresb] using ⟨halloc, rfl⟩)
    · exact broadcast_sendsOnly E (by simp [relayed, hraw])
  have hrx : cfg.enable_gresb = true →
      Within (SendsOnly (relayed E cfg buf) (relayed E cfg buf .data)) (gresb_push_rx_clients E cfg buf) := by
    intro hgresb
    refine within_bind (within_get_svc .gresb_rx) fun svc => within_ite (fun _ => within_pure _) fun _ => ?_
    apply gresb_create_sendsOnly E buf
    intro halloc
    exact broadcast_sendsOnly E ⟨hgresb, halloc, rfl⟩
  apply within_bind hsniff
  intro _
  refine within_ite (fun _ => within_ite (fun hgresb => ?_) fun hraw => ?_) fun _ =>
    within_ite (fun hgresb => ?_) fun hraw => ?_
  · apply gresb_create_sendsOnly E buf
    intro halloc
    have hmsg : relayed E cfg buf .data (gresb_msg buf) := by
      simpa [relayed, hgresb] using ⟨halloc, rfl⟩
    exact within_bind (dgram_send_all_sendsOnly E .data hmsg) fun _ => hrx hgresb
  · exact dgram_send_all_sendsOnly E .data (by simp [relayed, hraw])
  · apply gresb_create_sendsOnly E buf
    intro halloc
    have hmsg : relayed E cfg buf .data (gresb_msg buf) := by
      simpa [relayed, hgresb] using ⟨halloc, rfl⟩
    exact within_bind (broadcast_sendsOnly E hmsg) fun _ => hrx hgresb
  · exact broadcast_sendsOnly E (by simp [relayed, hraw])

/-! ### What forwarding sends when nothing fails -/

/-- Every allocation succeeds, and every message is sent whole. -/
structure Succeeds (E : Env σ) : Prop where
  malloc : ∀ s, (E.malloc s).1 = true
  send_all : ∀ sockfd msg w, ∃ after, send_all E sockfd msg w = .ok true after

/-- It is enough that each call takes all. -/
theorem send_all_takes_all {E : Env σ} (hsend : ∀ s fd msg, (E.send s fd msg).1 = .sent msg.length)
    (hpatience : ∀ s, E.patience s = 1) (sockfd : Nat) (msg : List UInt8) (w : World σ) :
    ∃ after, send_all E sockfd msg w = .ok true after := by
  have hwp : wp (send_all E sockfd msg) (fun ok _ => ok = true) (fun _ _ => False) w := by
    cases msg <;> simp [send_all, send_all_loop, hsend, hpatience]
  obtain ⟨_, after, hrun, rfl⟩ := ok_of_wp hwp
  exact ⟨after, hrun⟩

theorem succeeds_quiet : Succeeds .quiet where
  malloc _ := rfl
  send_all := send_all_takes_all (fun _ _ _ => rfl) fun _ => rfl

/-- A message for everybody whom the loop over a service reaches. -/
def recipients (svc : NetService) (msg : List UInt8) : List (Nat × List UInt8) :=
  ((List.range svc.nfds).filter (· ∈ svc.conn_set)).map fun fd => (fd, msg)

/-- A packet as it is sent with the GRESB option or without. -/
def framed (gresb : Bool) (buf : List UInt8) : List UInt8 := if gresb then gresb_msg buf else buf

section succeeds

variable {E : Env σ} (hE : Succeeds E)

include hE

theorem broadcast_sends (id : SvcId) (msg : List UInt8) (w : World σ) :
    wp (broadcast E id msg) (fun _ after => Sends (recipients (w.svc id) msg) [] w after) (fun _ _ => False) w := by
  have hsends : wp (broadcast E id msg) (fun _ after => ∃ msgs, Sends msgs [] w after) (fun _ _ => False) w := by
    apply wp_broadcast _ ⟨[], Sends.refl w⟩
    rintro fd s ⟨msgs, hs⟩ _
    obtain ⟨after, hrun⟩ := hE.send_all fd msg s
    have hafter := (wp_ok hrun).mp (send_all_sends E fd msg s)
    exact (wp_ok hrun).mpr ⟨_, hs.trans hafter⟩
  obtain ⟨_, after, hrun, msgs, hafter⟩ := ok_of_wp hsends
  have hmessages := (wp_ok hrun).mp (broadcast_messages E id msg w)
  rw [hafter.messages_eq] at hmessages
  rw [List.append_cancel_left hmessages] at hafter
  exact (wp_ok hrun).mpr hafter

omit hE in
theorem dgram_send_all_sends (id : SvcId) (msg : List UInt8) (w : World σ) :
    wp (dgram_send_all E id msg)
      (fun _ after => Sends [] ((w.svc id).clients.map fun client => (client, msg)) w after) (fun _ _ => False) w := by
  simp only [dgram_send_all, wp_bind, wp_get_svc]
  generalize (w.svc id).clients = clients, (w.svc id).sock_fd = sock_fd
  induction clients generalizing w with
  | nil => exact Sends.refl w
  | cons client clients ih =>
    simp only [List.forM_cons, wp_bind, wp_syscall, wp_log_net]
    apply wp_mono_post (ih _)
    intro _ after hafter
    exact (Sends.log _ (.sendto client msg)).trans hafter

/-- Going on with a created GRESB packet. -/
theorem wp_gresb_create {buf : List UInt8} {next : List UInt8 → Prog σ Unit} {post : Unit → World σ → Prop}
    {fails : Halt → World σ → Prop} {w : World σ}
    (hnext : ∀ s, wp (next (gresb_host_hdr buf.length ++ buf)) post fails { w with env := s }) :
    wp (do
      let alloc ← malloc E
      match gresb_create_host_data_pkt alloc buf with
      | none => pure ()
      | some pkt => next pkt) post fails w := by
  simp only [malloc, wp_bind, wp_syscall, gresb_create_host_data_pkt_eq, hE.malloc, ↓reduceIte]
  exact hnext _

/-- What the sniffer clients are handed for a packet. -/
def sniffed (cfg : BridgeCfg) (w : World σ) (buf : List UInt8) : List (Nat × List UInt8) :=
  if (w.svc .sniff).sock_fd = 0 then [] else recipients (w.svc .sniff) (framed cfg.sniff_gresb buf)

theorem sniff_push_sends (cfg : BridgeCfg) (buf : List UInt8) (w : World σ) :
    wp (sniff_push E cfg buf) (fun _ after => Sends (sniffed cfg w buf) [] w after) (fun _ _ => False) w := by
  unfold sniff_push sniffed framed
  simp only [wp_bind, wp_get_svc, wp_ite, wp_pure]
  split_ifs
  · exact Sends.refl w
  · apply wp_gresb_create hE
    intro s
    apply wp_mono_post (broadcast_sends hE .sniff _ _)
    intro _ after hafter
    exact (Sends.env s).idle_trans hafter
  · exact broadcast_sends hE .sniff buf w

/-- What the clients of the GRESB receive port are handed. -/
def pushed_rx (cfg : BridgeCfg) (w : World σ) (buf : List UInt8) : List (Nat × List UInt8) :=
  if cfg.enable_gresb = false ∨ cfg.mode ≠ .MODE_SERVER ∨ (w.svc .gresb_rx).sock_fd = 0 then []
  else recipients (w.svc .gresb_rx) (gresb_msg buf)

/-- The receive port is served last. -/
theorem gresb_push_rx_clients_sends {cfg : BridgeCfg} (hgresb : cfg.enable_gresb = true) (buf : List UInt8)
    {msgs : List (Nat × List UInt8)} {dgrams : List (SockaddrIn × List UInt8)} {w sent : World σ}
    (hsent : Sends msgs dgrams w sent) :
    wp (gresb_push_rx_clients E cfg buf) (fun _ after => Sends (msgs ++ pushed_rx cfg w buf) dgrams w after)
      (fun _ _ => False) sent := by
  unfold gresb_push_rx_clients pushed_rx
  simp only [wp_bind, wp_get_svc, wp_ite, wp_pure, hgresb, Bool.true_eq_false, false_or, hsent.svc]
  split_ifs
  · rwa [List.append_nil]
  · apply wp_gresb_create hE
    intro s
    apply wp_mono_post (broadcast_sends hE .gresb_rx _ _)
    intro _ after hafter
    have hpushed := hsent.trans ((Sends.env s).idle_trans hafter)
    rwa [List.append_nil, hsent.svc] at hpushed

/-- What the connected peers of the data service are handed. -/
def relayed_conn (cfg : BridgeCfg) (w : World σ) (buf : List UInt8) : List (Nat × List UInt8) :=
  if cfg.mode = .MODE_DGRAM then [] else recipients (w.svc .data) (framed cfg.enable_gresb buf)

/-- What its registered peers are sent as datagrams. -/
def relayed_dgram (cfg : BridgeCfg) (w : World σ) (buf : List UInt8) : List (SockaddrIn × List UInt8) :=
  if cfg.mode = .MODE_DGRAM then (w.svc .data).clients.map fun client => (client, framed cfg.enable_gresb buf)
  else []

theorem net_forward_to_clients_sends (cfg : BridgeCfg) (buf : List UInt8) (w : World σ) :
    wp (net_forward_to_clients E cfg buf)
      (fun _ after => Sends (sniffed cfg w buf ++ (relayed_conn cfg w buf ++ pushed_rx cfg w buf))
        (relayed_dgram cfg w buf) w after) (fun _ _ => False) w := by
  simp only [net_forward_to_clients, wp_bind]
  apply wp_mono_post (sniff_push_sends hE cfg buf w)
  intro _ mid hmid
  have hshift : ∀ after, Sends (relayed_conn cfg mid buf ++ pushed_rx cfg mid buf) (relayed_dgram cfg mid buf)
      mid after → Sends (sniffed cfg w buf ++ (relayed_conn cfg w buf ++ pushed_rx cfg w buf))
      (relayed_dgram cfg w buf) w after := by
    intro after hafter
    simp only [relayed_conn, pushed_rx, relayed_dgram, hmid.svc] at hafter ⊢
    exact hmid.trans hafter
  refine wp_mono_post ?_ fun _ => hshift
  by_cases hmode : cfg.mode = .MODE_DGRAM <;> by_cases hgresb : cfg.enable_gresb = true
  · simp only [hmode, hgresb, relayed_conn, relayed_dgram, framed, ↓reduceIte]
    apply wp_gresb_create hE
    intro s
    simp only [wp_bind]
    apply wp_mono_post (dgram_send_all_sends .data (gresb_msg buf) _)
    intro _ sent hsent
    exact gresb_push_rx_clients_sends hE hgresb buf ((Sends.env s).idle_trans hsent)
  · simp only [hmode, hgresb, relayed_conn, relayed_dgram, pushed_rx, framed, ↓reduceIte]
    exact dgram_send_all_sends .data buf mid
  · simp only [hmode, hgresb, relayed_conn, relayed_dgram, framed, ↓reduceIte]
    apply wp_gresb_create hE
    intro s
    simp only [wp_bind]
    apply wp_mono_post (broadcast_sends hE .data (gresb_msg buf) _)
    intro _ sent hsent
    exact gresb_push_rx_clients_sends hE hgresb buf ((Sends.env s).idle_trans hsent)
  · simp only [hmode, hgresb, relayed_conn, relayed_dgram, pushed_rx, framed, ↓reduceIte]
    apply wp_mono_post (broadcast_sends hE .data buf mid)
    intro _ after hafter
    simpa using hafter

end succeeds

end spw_bridge.net
