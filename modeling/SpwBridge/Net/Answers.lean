import SpwBridge.Bridge
import SpwBridge.Library.Projection

open effect spw_bridge.net

namespace spw_bridge

variable {σ : Type}

/-- A call into the environment with what it returned. `transmission` stands for the
calls that transmit a packet of the bridge. -/
inductive Answer
  | recv (sockfd n : Nat) (flags : RecvFlags) (r : RecvResult)
  | fionread (sockfd : Nat) (avail : Option Nat)
  | send (sockfd : Nat) (r : SendResult)
  | malloc (ok : Bool)
  | deadline_expired (expired : Bool)
  | transmission (ok : Bool)

/-- An environment that keeps a record of its answers. -/
def traced (E : Env σ) : Env (σ × List Answer) where
  recv s fd n flags :=
    ((E.recv s.1 fd n flags).1, (E.recv s.1 fd n flags).2, s.2 ++ [.recv fd n flags ((E.recv s.1 fd n flags).1.clip n)])
  fionread s fd := ((E.fionread s.1 fd).1, (E.fionread s.1 fd).2, s.2 ++ [.fionread fd (E.fionread s.1 fd).1])
  recvfrom s fd n := ((E.recvfrom s.1 fd n).1, (E.recvfrom s.1 fd n).2, s.2)
  send s fd buf := ((E.send s.1 fd buf).1, (E.send s.1 fd buf).2, s.2 ++ [.send fd (E.send s.1 fd buf).1])
  sendto s fd buf client := (E.sendto s.1 fd buf client, s.2)
  close s fd := (E.close s.1 fd, s.2)
  select s fds := ((E.select s.1 fds).1, (E.select s.1 fds).2, s.2)
  malloc s := ((E.malloc s.1).1, (E.malloc s.1).2, s.2 ++ [.malloc (E.malloc s.1).1])
  deadline_expired s :=
    ((E.deadline_expired s.1).1, (E.deadline_expired s.1).2, s.2 ++ [.deadline_expired (E.deadline_expired s.1).1])
  patience s := E.patience s.1
  device s := ((E.device s.1).1, (E.device s.1).2, s.2)
  STAR_openChannel s number := ((E.STAR_openChannel s.1 number).1, (E.STAR_openChannel s.1 number).2, s.2)
  STAR_createPacket s :=
    ((E.STAR_createPacket s.1).1, (E.STAR_createPacket s.1).2, s.2 ++ [.transmission (E.STAR_createPacket s.1).1])
  STAR_createTxOperation s :=
    ((E.STAR_createTxOperation s.1).1, (E.STAR_createTxOperation s.1).2,
      s.2 ++ [.transmission (E.STAR_createTxOperation s.1).1])
  STAR_submitTransferOperation s :=
    ((E.STAR_submitTransferOperation s.1).1, (E.STAR_submitTransferOperation s.1).2,
      s.2 ++ [.transmission (E.STAR_submitTransferOperation s.1).1])
  STAR_waitOnTransferOperationCompletion s :=
    ((E.STAR_waitOnTransferOperationCompletion s.1).1, (E.STAR_waitOnTransferOperationCompletion s.1).2,
      s.2 ++ [.transmission (E.STAR_waitOnTransferOperationCompletion s.1).1])
  STAR_transmitPacket s := ((E.STAR_transmitPacket s.1).1, (E.STAR_transmitPacket s.1).2, s.2)
  RMAP_BuildCommandPacket s request :=
    ((E.RMAP_BuildCommandPacket s.1 request).1, (E.RMAP_BuildCommandPacket s.1 request).2, s.2)

/-- A state with a record that is still empty. -/
def World.traced (w : World σ) : World (σ × List Answer) where
  env := (w.env, [])
  svc := w.svc
  is_client := w.is_client
  pus_seq_tx := w.pus_seq_tx
  pus_seq_rx := w.pus_seq_rx
  spw := w.spw
  net_log := w.net_log
  spw_log := w.spw_log

/-- The record left out. -/
def World.untraced (w : World (σ × List Answer)) : World σ where
  env := w.env.1
  svc := w.svc
  is_client := w.is_client
  pus_seq_tx := w.pus_seq_tx
  pus_seq_rx := w.pus_seq_rx
  spw := w.spw
  net_log := w.net_log
  spw_log := w.spw_log

/-- The calls that an event makes, with what they return. -/
def answers (E : Env σ) (cfg : BridgeCfg) (w : World σ) (event : BridgeEvent) : List Answer :=
  (final (handle_event (spw_bridge.traced E) cfg event w.traced)).env.2

section records

variable {E : Env σ} {s : σ × List Answer} {fd n : Nat}

theorem recv_recorded {flags : RecvFlags} {r : RecvResult} (hr : ((traced E).recv s fd n flags).1.clip n = r) :
    .recv fd n flags r ∈ ((traced E).recv s fd n flags).2.2 := hr ▸ List.mem_append_right _ (List.mem_singleton_self _)

theorem fionread_recorded {avail : Option Nat} (havail : ((traced E).fionread s fd).1 = avail) :
    .fionread fd avail ∈ ((traced E).fionread s fd).2.2 :=
  havail ▸ List.mem_append_right _ (List.mem_singleton_self _)

theorem send_recorded {buf : List UInt8} {r : SendResult} (hr : ((traced E).send s fd buf).1 = r) :
    .send fd r ∈ ((traced E).send s fd buf).2.2 := hr ▸ List.mem_append_right _ (List.mem_singleton_self _)

theorem malloc_recorded {ok : Bool} (hok : ((traced E).malloc s).1 = ok) : .malloc ok ∈ ((traced E).malloc s).2.2 :=
  hok ▸ List.mem_append_right _ (List.mem_singleton_self _)

theorem deadline_recorded {expired : Bool} (hexpired : ((traced E).deadline_expired s).1 = expired) :
    .deadline_expired expired ∈ ((traced E).deadline_expired s).2.2 :=
  hexpired ▸ List.mem_append_right _ (List.mem_singleton_self _)

end records

/-! ### The record changes nothing -/

/-- A program with the record does what another one does without it. -/
abbrev Untraced {α : Type} (x : Prog (σ × List Answer) α) (y : Prog σ α) : Prop := Projects World.untraced x y

section primitives

variable {α : Type}

theorem untraced_syscall {f : σ × List Answer → α × σ × List Answer} {g : σ → α × σ}
    (hf : ∀ s, ((f s).1, (f s).2.1) = g s.1) : Untraced (syscall f) (syscall g) := by
  intro w
  have hcall := hf w.env
  have hfst : (f w.env).1 = (g w.env.1).1 := congrArg Prod.fst hcall
  have hsnd : (f w.env).2.1 = (g w.env.1).2 := congrArg Prod.snd hcall
  simp only [syscall, project, World.untraced, hfst, hsnd]

theorem untraced_log_net (call : NetCall) : Untraced (σ := σ) (log_net call) (log_net call) := fun _ => rfl

theorem untraced_log_spw (call : SpwCall) : Untraced (σ := σ) (log_spw call) (log_spw call) := fun _ => rfl

theorem untraced_get_svc (id : SvcId) : Untraced (σ := σ) (get_svc id) (get_svc id) := fun _ => rfl

theorem untraced_modify_svc (id : SvcId) (f : NetService → NetService) :
    Untraced (σ := σ) (modify_svc id f) (modify_svc id f) := fun _ => rfl

theorem untraced_lift (x : Except Fault α) : Untraced (σ := σ) (lift x) (lift x) := by
  cases x with
  | ok a => exact projects_pure a
  | error fault => exact projects_throw _

theorem untraced_exit_unless {f : σ × List Answer → Bool × σ × List Answer} {g : σ → Bool × σ}
    (hf : ∀ s, ((f s).1, (f s).2.1) = g s.1) : Untraced (exit_unless f) (exit_unless g) := by
  apply projects_bind (untraced_syscall hf)
  intro ok
  exact projects_ite (projects_pure _) (projects_throw _)

theorem untraced_tx_address : Untraced (σ := σ) tx_address tx_address := by
  apply projects_get
  intro w
  have hspw : w.untraced.spw = w.spw := rfl
  rw [hspw]
  cases w.spw with
  | none => exact projects_throw _
  | some st => exact projects_pure _

end primitives

section handlers

variable (E : Env σ) (cfg : BridgeCfg) (id : SvcId) (fd : Nat)

theorem untraced_malloc : Untraced (malloc (traced E)) (malloc E) := untraced_syscall fun _ => rfl

theorem untraced_recv (n : Nat) (flags : RecvFlags) : Untraced (recv (traced E) fd n flags) (recv E fd n flags) :=
  untraced_syscall fun _ => rfl

theorem untraced_close : Untraced (close (traced E) fd) (close E fd) :=
  projects_bind (untraced_syscall fun _ => rfl) fun _ => untraced_log_net _

theorem untraced_conn_drop : Untraced (conn_drop (traced E) id fd) (conn_drop E id fd) := by
  refine projects_bind (untraced_close E fd) fun _ => projects_bind (untraced_modify_svc id _) fun _ => ?_
  apply projects_get
  intro w
  exact projects_ite (projects_throw _) (projects_pure _)

theorem untraced_rmap_conn_drop : Untraced (rmap_conn_drop (traced E) fd) (rmap_conn_drop E fd) :=
  projects_bind (untraced_close E fd) fun _ => untraced_modify_svc _ _

theorem untraced_drop_locked : Untraced (drop_locked (traced E) id fd) (drop_locked E id fd) := by
  cases id with
  | rmap => exact untraced_rmap_conn_drop E fd
  | data | gresb_tx | gresb_rx | sniff => exact untraced_conn_drop E _ fd

theorem untraced_send_all_loop (fuel : Nat) (buf : List UInt8) :
    Untraced (send_all_loop (traced E) fd fuel buf) (send_all_loop E fd fuel buf) := by
  induction fuel generalizing buf with
  | zero =>
    cases buf with
    | nil => exact projects_pure _
    | cons b buf => exact projects_throw _
  | succ fuel ih =>
    cases buf with
    | nil => exact projects_pure _
    | cons b buf =>
      apply projects_bind (untraced_syscall fun _ => rfl)
      intro n
      match n with
      | .error .EINTR => exact ih _
      | .error .EAGAIN | .error .ETIMEDOUT | .error (.other _) => exact projects_pure _
      | .sent n => exact projects_bind (untraced_log_net _) fun _ => ih _

theorem untraced_send_all (buf : List UInt8) : Untraced (send_all (traced E) fd buf) (send_all E fd buf) := by
  apply projects_bind (untraced_log_net _)
  intro _
  apply projects_get
  intro w
  exact untraced_send_all_loop E fd _ buf

theorem untraced_broadcast (msg : List UInt8) : Untraced (broadcast (traced E) id msg) (broadcast E id msg) := by
  apply projects_bind (untraced_get_svc id)
  intro svc
  apply projects_forM
  intro fd
  apply projects_bind (untraced_get_svc id)
  intro svc
  apply projects_ite _ (projects_pure _)
  apply projects_bind (untraced_send_all E fd msg)
  intro ok
  exact projects_ite (projects_pure _) (untraced_drop_locked E id fd)

theorem untraced_gresb_create {buf : List UInt8} {x : List UInt8 → Prog (σ × List Answer) Unit}
    {y : List UInt8 → Prog σ Unit} (hnext : ∀ gresb_pkt, Untraced (x gresb_pkt) (y gresb_pkt)) :
    Untraced
      (do
        let alloc ← malloc (traced E)
        match gresb_create_host_data_pkt alloc buf with
        | none => pure ()
        | some gresb_pkt => x gresb_pkt)
      (do
        let alloc ← malloc E
        match gresb_create_host_data_pkt alloc buf with
        | none => pure ()
        | some gresb_pkt => y gresb_pkt) := by
  apply projects_bind (untraced_malloc E)
  intro alloc
  cases gresb_create_host_data_pkt alloc buf with
  | none => exact projects_pure _
  | some gresb_pkt => exact hnext gresb_pkt

theorem untraced_sniff_push (buf : List UInt8) : Untraced (sniff_push (traced E) cfg buf) (sniff_push E cfg buf) := by
  apply projects_bind (untraced_get_svc .sniff)
  intro svc
  apply projects_ite (projects_pure _)
  exact projects_ite (untraced_gresb_create E fun _ => untraced_broadcast E .sniff _) (untraced_broadcast E .sniff buf)

theorem untraced_dgram_send_all (buf : List UInt8) :
    Untraced (dgram_send_all (traced E) id buf) (dgram_send_all E id buf) := by
  apply projects_bind (untraced_get_svc id)
  intro svc
  apply projects_forM
  intro client
  exact projects_bind (untraced_syscall fun _ => rfl) fun _ => untraced_log_net _

theorem untraced_gresb_push_rx_clients (buf : List UInt8) :
    Untraced (gresb_push_rx_clients (traced E) cfg buf) (gresb_push_rx_clients E cfg buf) := by
  apply projects_bind (untraced_get_svc .gresb_rx)
  intro svc
  apply projects_ite (projects_pure _)
  exact untraced_gresb_create E fun _ => untraced_broadcast E .gresb_rx _

theorem untraced_net_forward_to_clients (buf : List UInt8) :
    Untraced (net_forward_to_clients (traced E) cfg buf) (net_forward_to_clients E cfg buf) := by
  have hpush := untraced_gresb_push_rx_clients E cfg buf
  apply projects_bind (untraced_sniff_push E cfg buf)
  intro _
  apply projects_ite <;> apply projects_ite
  · exact untraced_gresb_create E fun _ => projects_bind (untraced_dgram_send_all E .data _) fun _ => hpush
  · exact untraced_dgram_send_all E .data buf
  · exact untraced_gresb_create E fun _ => projects_bind (untraced_broadcast E .data _) fun _ => hpush
  · exact untraced_broadcast E .data buf

theorem untraced_rmap_reply_to_clients (buf : List UInt8) :
    Untraced (rmap_reply_to_clients (traced E) cfg buf) (rmap_reply_to_clients E cfg buf) := by
  have halloc : Untraced (alloc_pkt (traced E)) (alloc_pkt E) :=
    projects_bind (untraced_malloc E) fun _ => projects_bind (untraced_malloc E) fun _ =>
      projects_bind (untraced_malloc E) fun _ => projects_pure _
  refine projects_bind halloc fun alloc => projects_bind (untraced_lift _) fun pkt => ?_
  cases pkt with
  | none => exact projects_pure _
  | some pkt =>
    apply projects_bind (untraced_malloc E)
    intro tmp
    apply projects_ite _ (projects_pure _)
    exact projects_bind (untraced_lift _) fun msg => untraced_broadcast E .rmap msg

theorem untraced_check_pus_sequence_rx (pkt : List UInt8) :
    Untraced (check_pus_sequence_rx (traced E) pkt) (check_pus_sequence_rx E pkt) := by
  refine projects_bind (untraced_malloc E) fun alloc => projects_get fun w => ?_
  exact projects_bind (untraced_lift _) fun _ => projects_modify fun _ => rfl

theorem untraced_check_pus_sequence_tx (pkt : List UInt8) :
    Untraced (check_pus_sequence_tx (traced E) pkt) (check_pus_sequence_tx E pkt) := by
  refine projects_bind (untraced_malloc E) fun alloc => projects_get fun w => ?_
  exact projects_bind (untraced_lift _) fun _ => projects_modify fun _ => rfl

theorem untraced_net_pkt_sink (buf : List UInt8) :
    Untraced (net_pkt_sink (traced E) cfg buf) (net_pkt_sink E cfg buf) := by
  have hforward := untraced_net_forward_to_clients E cfg (buf.drop cfg.skip_header_bytes)
  apply projects_ite (projects_pure _)
  apply projects_ite (untraced_rmap_reply_to_clients E cfg buf)
  exact projects_ite (projects_bind (untraced_check_pus_sequence_rx E _) fun _ => hforward) hforward

theorem untraced_spw_send_packet_chan (chan : Chan) (buf : List UInt8) :
    Untraced (spw_send_packet_chan (traced E) chan buf) (spw_send_packet_chan E chan buf) := by
  refine projects_bind (untraced_log_spw _) fun _ => projects_bind untraced_tx_address fun p_address => ?_
  refine projects_bind (untraced_exit_unless fun _ => rfl) fun _ => ?_
  refine projects_bind (untraced_exit_unless fun _ => rfl) fun _ => ?_
  refine projects_bind (untraced_exit_unless fun _ => rfl) fun _ => ?_
  exact projects_bind (untraced_log_spw _) fun _ => untraced_exit_unless fun _ => rfl

theorem untraced_pkt_sink (chan : Chan) (buf : List UInt8) :
    Untraced (pkt_sink (traced E) cfg chan buf) (pkt_sink E cfg chan buf) := by
  have hforward := untraced_net_forward_to_clients E cfg buf
  apply projects_ite _ (untraced_net_pkt_sink E cfg buf)
  apply projects_get
  intro w
  exact projects_ite (projects_bind (untraced_spw_send_packet_chan E _ buf) fun _ => hforward) hforward

section receiving

variable {drop : Prog (σ × List Answer) Unit} {drop' : Prog σ Unit} (hdrop : Untraced drop drop')

include hdrop

theorem untraced_expect (n : Nat) (r : RecvResult) : Untraced (expect n drop r) (expect n drop' r) := by
  cases r with
  | bytes bs => exact projects_ite (projects_pure _) (projects_bind hdrop fun _ => projects_pure _)
  | error errno => exact projects_bind hdrop fun _ => projects_pure _

theorem untraced_peek_header (n : Nat) (flags : RecvFlags) :
    Untraced (peek_header (traced E) fd n flags drop) (peek_header E fd n flags drop') :=
  projects_bind (untraced_recv E fd n flags) fun r => untraced_expect hdrop n r

omit hdrop in
theorem untraced_recv_exact_loop (fuel : Nat) (got : List UInt8) (left : Nat) :
    Untraced (recv_exact_loop (traced E) fd fuel got left) (recv_exact_loop E fd fuel got left) := by
  induction fuel generalizing got left with
  | zero =>
    cases left with
    | zero => exact projects_pure _
    | succ left => exact projects_throw _
  | succ fuel ih =>
    cases left with
    | zero => exact projects_pure _
    | succ left =>
      apply projects_bind (untraced_recv E fd _ _)
      intro r
      match r with
      | .error errno | .bytes [] => exact projects_pure _
      | .bytes (b :: bs) =>
        apply projects_bind (untraced_syscall fun _ => rfl)
        intro expired
        exact projects_ite (projects_pure _) (ih _ _)

theorem untraced_recv_body (n : Nat) : Untraced (recv_body (traced E) fd n drop) (recv_body E fd n drop') := by
  apply projects_bind (untraced_malloc E)
  intro buf
  apply projects_ite
  · exact projects_bind (untraced_recv_exact_loop E fd n [] n) fun r => untraced_expect hdrop n r
  · exact projects_bind hdrop fun _ => projects_pure _

end receiving

theorem untraced_recv_pus_packet : Untraced (recv_pus_packet (traced E) id fd) (recv_pus_packet E id fd) := by
  have hdrop := untraced_conn_drop E id fd
  apply projects_bind (untraced_peek_header E fd hdrop 6 _)
  intro hdr
  cases hdr with
  | none => exact projects_pure _
  | some hdr =>
    apply projects_bind (untraced_recv_body E fd hdrop _)
    intro pkt
    cases pkt with
    | none => exact projects_pure _
    | some pkt => exact projects_bind (untraced_check_pus_sequence_tx E pkt) fun _ => projects_pure _

theorem untraced_recv_raw_packet : Untraced (recv_raw_packet (traced E) id fd) (recv_raw_packet E id fd) := by
  have hdropped : Untraced (do conn_drop (traced E) id fd; pure (none : Option (List UInt8)))
      (do conn_drop E id fd; pure none) := projects_bind (untraced_conn_drop E id fd) fun _ => projects_pure _
  apply projects_bind (untraced_syscall fun _ => rfl)
  intro avail
  match avail with
  | none | some 0 => exact hdropped
  | some (avail + 1) =>
    apply projects_bind (untraced_malloc E)
    intro buf
    apply projects_ite _ hdropped
    apply projects_bind (untraced_recv E fd _ _)
    intro r
    match r with
    | .bytes (b :: bs) => exact projects_pure _
    | .bytes [] | .error errno => exact hdropped

theorem untraced_recv_dgram_packet : Untraced (recv_dgram_packet (traced E) fd) (recv_dgram_packet E fd) := by
  apply projects_bind (untraced_syscall fun _ => rfl)
  intro avail
  match avail with
  | none | some 0 => exact projects_pure _
  | some (avail + 1) =>
    apply projects_bind (untraced_malloc E)
    intro buf
    apply projects_ite _ (projects_pure _)
    apply projects_bind (untraced_syscall fun _ => rfl)
    intro r
    match r with
    | some (b :: bs, client) | some ([], client) | none => exact projects_pure _

theorem untraced_recv_fee_packet : Untraced (recv_fee_packet (traced E) id fd) (recv_fee_packet E id fd) := by
  have hdrop := untraced_conn_drop E id fd
  apply projects_bind (untraced_peek_header E fd hdrop _ _)
  intro hdr
  cases hdr with
  | none => exact projects_pure _
  | some hdr => exact projects_ite (untraced_recv_raw_packet E id fd) (untraced_recv_body E fd hdrop _)

theorem untraced_recv_gresb_packet : Untraced (recv_gresb_packet (traced E) id fd) (recv_gresb_packet E id fd) := by
  have hdrop := untraced_conn_drop E id fd
  have hdropped : Untraced (do conn_drop (traced E) id fd; pure (none : Option (List UInt8)))
      (do conn_drop E id fd; pure none) := projects_bind hdrop fun _ => projects_pure _
  apply projects_bind (untraced_peek_header E fd hdrop _ _)
  intro hdr
  cases hdr with
  | none => exact projects_pure _
  | some hdr =>
    apply projects_ite hdropped
    apply projects_bind (untraced_recv_body E fd hdrop _)
    intro pkt
    cases pkt with
    | none => exact projects_pure _
    | some pkt =>
      apply projects_bind (untraced_malloc E)
      intro buf
      exact projects_ite (projects_pure _) hdropped

theorem untraced_net_recv : Untraced (net_recv (traced E) cfg id fd) (net_recv E cfg id fd) := by
  apply projects_ite (projects_map (untraced_recv_dgram_packet E fd) _)
  apply projects_ite (projects_map (untraced_recv_pus_packet E id fd) _)
  apply projects_ite (projects_map (untraced_recv_fee_packet E id fd) _)
  exact projects_ite (projects_map (untraced_recv_gresb_packet E id fd) _)
    (projects_map (untraced_recv_raw_packet E id fd) _)

theorem untraced_register_sender (client : Option SockaddrIn) :
    Untraced (register_sender (traced E) id client) (register_sender E id client) := by
  cases client with
  | none => exact projects_pure _
  | some client =>
    apply projects_bind (untraced_get_svc id)
    intro svc
    refine projects_ite (projects_pure _) (projects_ite ?_ (untraced_modify_svc id _))
    apply projects_bind (untraced_malloc E)
    intro tmp
    exact projects_ite (untraced_modify_svc id _) (projects_pure _)

theorem untraced_net_to_spw : Untraced (net_to_spw (traced E) cfg id fd) (net_to_spw E cfg id fd) := by
  apply projects_bind (untraced_net_recv E cfg id fd)
  intro received
  match received with
  | none => exact projects_pure _
  | some (pkt, client) =>
    refine projects_bind (untraced_sniff_push E cfg pkt) fun _ => ?_
    refine projects_bind (untraced_register_sender E id client) fun _ => ?_
    exact projects_ite (projects_pure _) (untraced_spw_send_packet_chan E false pkt)

theorem untraced_gresb_tx_to_spw : Untraced (gresb_tx_to_spw (traced E) cfg fd) (gresb_tx_to_spw E cfg fd) := by
  apply projects_bind (untraced_recv_gresb_packet E .gresb_tx fd)
  intro received
  cases received with
  | none => exact projects_pure _
  | some pkt =>
    refine projects_bind (untraced_sniff_push E cfg pkt) fun _ => ?_
    exact projects_ite (projects_pure _) (untraced_spw_send_packet_chan E false pkt)

theorem untraced_spw_rmap_cmd (dst op : UInt8) (addr : UInt32) (data : List UInt8) :
    Untraced (spw_rmap_cmd (traced E) dst op addr data) (spw_rmap_cmd E dst op addr data) := by
  refine projects_bind (untraced_log_spw _) fun _ => projects_bind (untraced_syscall fun _ => rfl) fun pkt => ?_
  cases pkt with
  | none => exact projects_pure _
  | some pkt =>
    refine projects_bind untraced_tx_address fun _ => projects_bind (untraced_log_spw _) fun _ => ?_
    exact projects_bind (untraced_syscall fun _ => rfl) fun _ => projects_pure _

theorem untraced_rmap_net_to_spw : Untraced (rmap_net_to_spw (traced E) fd) (rmap_net_to_spw E fd) := by
  have hdrop := untraced_rmap_conn_drop E fd
  apply projects_bind (untraced_peek_header E fd hdrop 10 _)
  intro hdr
  cases hdr with
  | none => exact projects_pure _
  | some hdr =>
    apply projects_ite hdrop
    apply projects_bind (untraced_recv_body E fd hdrop _)
    intro rec
    cases rec with
    | none => exact projects_pure _
    | some rec => exact projects_ite (untraced_spw_rmap_cmd E _ _ _ _) (untraced_spw_rmap_cmd E _ _ _ _)

theorem untraced_gresb_rx_discard : Untraced (gresb_rx_discard (traced E) id fd) (gresb_rx_discard E id fd) := by
  have hloop : ∀ fuel, Untraced (gresb_rx_discard_loop (traced E) id fd fuel) (gresb_rx_discard_loop E id fd fuel) := by
    intro fuel
    induction fuel with
    | zero => exact projects_throw _
    | succ fuel ih =>
      apply projects_bind (untraced_recv E fd _ _)
      intro n
      match n with
      | .error .EAGAIN => exact projects_pure _
      | .error .EINTR | .error .ETIMEDOUT | .error (.other _) | .bytes [] => exact untraced_conn_drop E id fd
      | .bytes (_ :: _) => exact ih
  exact projects_get fun w => hloop _

/-- An event leads to the same state with and without the record. -/
theorem untraced_handle_event (event : BridgeEvent) :
    Untraced (handle_event (traced E) cfg event) (handle_event E cfg event) := by
  cases event with
  | spw chan pkt => exact untraced_pkt_sink E cfg chan pkt.val
  | accept id fd => exact untraced_modify_svc id fun svc => accept_connections svc fd
  | net id fd =>
    cases id with
    | data => exact untraced_net_to_spw E cfg .data fd
    | rmap => exact untraced_rmap_net_to_spw E fd
    | gresb_tx => exact untraced_gresb_tx_to_spw E cfg fd
    | gresb_rx | sniff => exact untraced_gresb_rx_discard E _ fd

end handlers

end spw_bridge
