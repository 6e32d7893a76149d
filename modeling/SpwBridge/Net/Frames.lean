import SpwBridge.Bridge
import SpwBridge.Net.Reply

open effect spw_bridge.net

namespace spw_bridge

variable {σ : Type}

theorem network_shrinks : Network (Shrinks (σ := σ)) where
  toSockets := sockets_shrinks
  pus_seq_tx _ _ _ := ⟨rfl, Finset.Subset.refl _⟩
  pus_seq_rx _ _ _ := ⟨rfl, Finset.Subset.refl _⟩
  clients w id clients cap other := by
    by_cases hsame : other = id
    · subst hsame
      simp
    · simp [hsame]

theorem within_spw_side {α : Type} {x : Prog σ α} (hx : Keeps World.svc x) : Within Shrinks x := fun w id => by
  have hsvc := hx w
  rw [Same] at hsvc
  rw [hsvc]
  exact ⟨rfl, Finset.Subset.refl _⟩

theorem keeps_exit_unless (f : σ → Bool × σ) : Keeps World.svc (exit_unless f) :=
  within_bind (fun _ => rfl) fun _ => within_ite (fun _ => within_pure _) fun _ => within_throw _

theorem keeps_tx_address : Keeps World.svc (tx_address : Prog σ (List UInt8)) := by
  refine within_bind within_get fun w => ?_
  cases w.spw with
  | none => exact within_throw _
  | some st => exact within_pure _

theorem keeps_spw_send_packet_chan (E : Env σ) (chan : Chan) (buf : List UInt8) :
    Keeps World.svc (spw_send_packet_chan E chan buf) := by
  have hlog : ∀ call, Keeps World.svc (log_spw call : Prog σ Unit) := fun _ _ => rfl
  apply within_bind (hlog _)
  intro _
  apply within_bind keeps_tx_address
  intro p_address
  apply within_bind (keeps_exit_unless _)
  intro _
  apply within_bind (keeps_exit_unless _)
  intro _
  apply within_bind (keeps_exit_unless _)
  intro _
  exact within_bind (hlog _) fun _ => keeps_exit_unless _

theorem keeps_spw_rmap_cmd (E : Env σ) (dst op : UInt8) (addr : UInt32) (data : List UInt8) :
    Keeps World.svc (spw_rmap_cmd E dst op addr data) := by
  have hlog : ∀ call, Keeps World.svc (log_spw call : Prog σ Unit) := fun _ _ => rfl
  apply within_bind (hlog _)
  intro _
  have hbuild : ∀ request, Keeps World.svc (syscall fun s => E.RMAP_BuildCommandPacket s request) := fun _ _ => rfl
  apply within_bind (hbuild _)
  intro pkt
  cases pkt with
  | none => exact within_pure _
  | some pkt =>
    apply within_bind keeps_tx_address
    intro _
    apply within_bind (hlog _)
    intro _
    have htransmit : Keeps World.svc (syscall E.STAR_transmitPacket) := fun _ => rfl
    exact within_bind htransmit fun _ => within_pure _

theorem handle_pkt_shrinks (E : Env σ) (cfg : BridgeCfg) (id : SvcId) (fd : Nat) :
    Within Shrinks (handle_pkt E cfg id fd) := by
  have hnet := network_shrinks (σ := σ)
  have hS := hnet.toSockets
  cases id with
  | data =>
    apply within_bind (within_net_recv hnet.listens E cfg .data fd)
    intro received
    match received with
    | none => exact within_pure _
    | some (pkt, client) =>
      apply within_bind (within_sniff_push hS E cfg pkt)
      intro _
      apply within_bind (within_register_sender hnet.listens E .data client)
      intro _
      exact within_ite (fun _ => within_pure _) fun _ => within_spw_side (keeps_spw_send_packet_chan E false pkt)
  | gresb_tx =>
    apply within_bind (within_recv_gresb_packet hS.receives E .gresb_tx fd)
    intro received
    cases received with
    | none => exact within_pure _
    | some pkt =>
      apply within_bind (within_sniff_push hS E cfg pkt)
      intro _
      exact within_ite (fun _ => within_pure _) fun _ => within_spw_side (keeps_spw_send_packet_chan E false pkt)
  | rmap =>
    have hdrop := within_rmap_conn_drop (hS.receives.drops E .rmap) fd
    apply within_bind (within_peek_header hS.receives E fd 10 .MSG_PEEK hdrop)
    intro hdr
    cases hdr with
    | none => exact within_pure _
    | some hdr =>
      refine within_ite (fun _ => hdrop) fun _ => ?_
      apply within_bind (within_recv_body hS.receives E fd _ hdrop)
      intro rec
      cases rec with
      | none => exact within_pure _
      | some rec =>
        exact within_ite (fun _ => within_spw_side (keeps_spw_rmap_cmd E _ _ _ _)) fun _ =>
          within_spw_side (keeps_spw_rmap_cmd E _ _ _ _)
  | gresb_rx | sniff => exact within_gresb_rx_discard hS.receives E _ fd

theorem rmap_reply_to_clients_shrinks (E : Env σ) (cfg : BridgeCfg) (buf : List UInt8) :
    Within Shrinks (rmap_reply_to_clients E cfg buf) := by
  have hS := sockets_shrinks (σ := σ)
  have halloc : Within Shrinks (alloc_pkt E) :=
    within_bind (within_env hS _) fun _ => within_bind (within_env hS _) fun _ =>
      within_bind (within_env hS _) fun _ => within_pure _
  apply within_bind halloc
  intro alloc
  refine within_bind (within_lift _) fun pkt => ?_
  cases pkt with
  | none => exact within_pure _
  | some pkt =>
    apply within_bind (within_env hS _)
    intro tmp
    exact within_ite (fun _ => within_bind (within_lift _) fun msg => within_broadcast hS E .rmap msg) fun _ =>
      within_pure _

theorem net_pkt_sink_shrinks (E : Env σ) (cfg : BridgeCfg) (buf : List UInt8) :
    Within Shrinks (net_pkt_sink E cfg buf) := by
  have hnet := network_shrinks (σ := σ)
  have hforward := within_net_forward_to_clients hnet.toSockets E cfg (buf.drop cfg.skip_header_bytes)
  refine within_ite (fun _ => within_pure _) fun _ => ?_
  refine within_ite (fun _ => rmap_reply_to_clients_shrinks E cfg buf) fun _ => ?_
  have hcheck : Within Shrinks (check_pus_sequence_rx E (buf.drop cfg.skip_header_bytes)) := by
    apply within_bind (within_env hnet.toSockets _)
    intro alloc
    refine within_bind within_get fun w => ?_
    refine within_bind (within_lift _) fun checked => ?_
    exact within_modify fun w => hnet.pus_seq_rx w _
  exact within_ite (fun _ => within_bind hcheck fun _ => hforward) fun _ => hforward

theorem pkt_sink_shrinks (E : Env σ) (cfg : BridgeCfg) (chan : Chan) (buf : List UInt8) :
    Within Shrinks (pkt_sink E cfg chan buf) := by
  refine within_ite (fun _ => ?_) fun _ => net_pkt_sink_shrinks E cfg buf
  have hforward := within_net_forward_to_clients sockets_shrinks E cfg buf
  refine within_bind within_get fun w => ?_
  exact within_ite (fun _ => within_bind (within_spw_side (keeps_spw_send_packet_chan E _ buf)) fun _ => hforward)
    fun _ => hforward

end spw_bridge
