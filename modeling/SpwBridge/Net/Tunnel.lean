import SpwBridge.Net.Segments
import SpwBridge.Net.Symmetry
import SpwBridge.Net.Traffic

open effect framing

namespace spw_bridge.net

variable {σ : Type}

/-! ### Runs of the near bridge -/

/-- What is left of a packet that is longer than the header bytes to drop. -/
def payload (cfg : BridgeCfg) (pkt : SpwPacket) : Option (List UInt8) :=
  if cfg.skip_header_bytes < pkt.val.length then some (pkt.val.drop cfg.skip_header_bytes) else none

/-- The messages of the data service for a sequence of packets. -/
def stream (cfg : BridgeCfg) (pkts : List SpwPacket) : List (List UInt8) :=
  (pkts.filterMap (payload cfg)).map (framed cfg.enable_gresb)

section runs

variable {E : Env σ} {cfg : BridgeCfg} {fd : Nat} {w : World σ}

theorem net_pkt_sink_bytes (hE : Succeeds E) (hmode : cfg.mode ≠ .MODE_DGRAM) (hpeer : Peer .data fd w)
    {pkt : SpwPacket} (hrmap : ¬ LooksRmap cfg pkt.val) :
    wp (net_pkt_sink E cfg pkt.val) (fun _ after => SendsBytes fd (stream cfg [pkt]).flatten w after)
      (fun _ _ => False) w := by
  by_cases hlong : cfg.skip_header_bytes < pkt.val.length
  · have hstream : (stream cfg [pkt]).flatten = framed cfg.enable_gresb (pkt.val.drop cfg.skip_header_bytes) := by
      simp [stream, payload, hlong]
    rw [hstream]
    apply wp_net_pkt_sink_forward hlong hrmap
    intro s t _
    have hpeer' : Peer .data fd { w with env := s, pus_seq_rx := t } := hpeer.same rfl
    apply wp_mono_post (net_forward_to_clients_bytes hE hpeer' _)
    intro _ after hafter
    rw [view, if_neg hmode] at hafter
    exact ⟨hafter.svc, hafter.sent⟩
  · have hstream : (stream cfg [pkt]).flatten = [] := by simp [stream, payload, hlong]
    rw [hstream, net_pkt_sink, if_pos (Nat.le_of_not_lt hlong)]
    exact SendsBytes.refl fd w

/-- A run of packets from the SpW link sends a peer the stream of their messages. -/
theorem runEvents_bytes (hE : Succeeds E) (hmonitor : cfg.enable_monitor = false) (hmode : cfg.mode ≠ .MODE_DGRAM)
    (hpeer : Peer .data fd w) (pkts : List SpwPacket) (hrmap : ∀ pkt ∈ pkts, ¬ LooksRmap cfg pkt.val) :
    ∃ after, runEvents E cfg w (pkts.map (.spw false)) = (after, true) ∧
      SendsBytes fd (stream cfg pkts).flatten w after := by
  induction pkts generalizing w with
  | nil => exact ⟨w, rfl, SendsBytes.refl fd w⟩
  | cons pkt pkts ih =>
    obtain ⟨hfirst, hrest⟩ := List.forall_mem_cons.mp hrmap
    obtain ⟨_, mid, hrun, hmid⟩ := ok_of_wp (net_pkt_sink_bytes hE hmode hpeer hfirst)
    have hstep : stepEvent E cfg w (.spw false pkt) = (mid, true) := by
      simp only [stepEvent, handle_event, pkt_sink, hmonitor, Bool.false_eq_true, ↓reduceIte, hrun]
    obtain ⟨after, hruns, hafter⟩ := ih (hpeer.same hmid.svc) hrest
    refine ⟨after, ?_, ?_⟩
    · rw [List.map_cons, runEvents_cons, hstep]
      exact hruns
    · have hstream : stream cfg (pkt :: pkts) = stream cfg [pkt] ++ stream cfg pkts := by
        rw [stream, stream, stream, ← List.map_append, ← List.filterMap_append, List.singleton_append]
      rw [hstream, List.flatten_append]
      exact hmid.trans hafter

end runs

/-! ### What the far bridge hands on -/

/-- Whether the message of a payload is a packet to the far bridge that it hands on
as that payload: with GRESB on both sides each payload that the size field can
count, without it the packets of the far framing. -/
def Carries (near far : BridgeCfg) (payload : List UInt8) : Prop :=
  match near.enable_gresb, framing far .data with
  | true, some .gresb => payload.length < 2 ^ 24
  | false, some .pus => StreamKind.pus.Packet payload
  | false, some .fee => StreamKind.fee.Packet payload
  | _, _ => False

theorem Carries.packet {near far : BridgeCfg} {payload : List UInt8} (hcarries : Carries near far payload)
    {kind : StreamKind} (hkind : framing far .data = some kind) :
    kind.Packet (framed near.enable_gresb payload) ∧
      kind.call (framed near.enable_gresb payload) = .send_packet false payload := by
  unfold Carries at hcarries
  rw [hkind] at hcarries
  cases hgresb : near.enable_gresb <;> cases kind <;> rw [hgresb] at hcarries <;> dsimp only at hcarries
  case false.pus | false.fee => exact ⟨hcarries, rfl⟩
  case true.gresb =>
    refine ⟨⟨gresb_msg_isFrame hcarries, trivial⟩, ?_⟩
    rw [framed, if_pos rfl, StreamKind.call, gresb_msg_drop hcarries]

/-- Two bridges make a tunnel, neither of them in monitor mode. Whatever packets the
near bridge receives from its link, as long as each payload that it forwards is one
that the framing of the far bridge carries, it sends a peer of its data service one
stream; and however that stream is cut into segments (outside the headers) and
whenever these arrive, the far bridge transmits exactly the packets without the bytes
that the near one drops, in their order. -/
theorem tunnel {E : Env σ} (hE : Succeeds E) {near far : BridgeCfg} (hnear : near.enable_monitor = false)
    (hfar : far.enable_monitor = false) (hmode : near.mode ≠ .MODE_DGRAM) {kind : StreamKind}
    (hkind : framing far .data = some kind) {fd : Nat} {w : World σ} (hpeer : Peer .data fd w)
    {pkts : List SpwPacket} (hrmap : ∀ pkt ∈ pkts, ¬ LooksRmap near pkt.val)
    (hcarries : ∀ pkt ∈ pkts.filterMap (payload near), Carries near far pkt) :
    (∃ after, runEvents E near w (pkts.map (.spw false)) = (after, true) ∧
      sent_to fd after.net_log = sent_to fd w.net_log ++ (stream near pkts).flatten) ∧
    ∀ (sockfd : Nat) (build : RmapRequest → Option (List UInt8)) (segments : List (List UInt8)),
      segments.flatten = (stream near pkts).flatten → [] ∉ segments →
      kind.format.Uncut (stream near pkts) segments →
      ∀ w' rounds, Receiving far .data sockfd segments w' →
        w'.env.sched.length + (stream near pkts).length ≤ rounds →
        handedOver sockfd build far .data rounds w' =
          (pkts.filterMap (payload near)).map (.send_packet false) := by
  constructor
  · obtain ⟨after, hrun, hafter⟩ := runEvents_bytes hE hnear hmode hpeer pkts hrmap
    exact ⟨after, hrun, hafter.sent⟩
  · intro sockfd build segments hsegments hnonempty huncut w' rounds hreceiving hrounds
    have hpackets : ∀ packet ∈ stream near pkts, kind.Packet packet := by
      intro packet hpacket
      obtain ⟨pkt, hpkt, rfl⟩ := List.mem_map.mp hpacket
      exact ((hcarries pkt hpkt).packet hkind).1
    rw [handedOver_uncut hkind (.inl hfar) hpackets hsegments hnonempty huncut hreceiving hrounds, stream, List.map_map]
    apply List.map_congr_left
    intro pkt hpkt
    exact ((hcarries pkt hpkt).packet hkind).2

theorem tunnelPacket_fits : [0xfe, 1, 2, 3].length < 2 ^ 32 := by decide

/-- A packet behind one byte of a path. -/
def tunnelPacket : SpwPacket := ⟨[0xfe, 1, 2, 3], tunnelPacket_fits⟩

/-- A GRESB server that drops the byte. -/
def tunnelCfg : BridgeCfg := { gresbServer with skip_header_bytes := 1 }

/-- Two packets, of which the far side gets the second one in two segments. -/
theorem tunnel_gresb :
    (∃ after, runEvents .quiet tunnelCfg (peerWorld ⟨0, 0⟩) [.spw false tunnelPacket, .spw false tunnelPacket] =
        (after, true) ∧ sent_to 4 after.net_log = [0, 0, 0, 3, 1, 2, 3, 0, 0, 0, 3, 1, 2, 3]) ∧
      handedOver 5 (fun _ => none) gresbServer .data 2
        (receivingWorld 5 (delivery [[0, 0, 0, 3, 1, 2, 3, 0, 0, 0, 3], [1, 2, 3]] 1 [])) =
        [.send_packet false [1, 2, 3], .send_packet false [1, 2, 3]] := by
  have hpeer : Peer .data 4 (peerWorld ⟨0, 0⟩) :=
    ⟨by decide, fun other hother => by simp [peerWorld, World.fresh, hother]⟩
  have hcarries : Carries tunnelCfg gresbServer [1, 2, 3] := by
    change 3 < 2 ^ 24
    decide
  have hpackets : ∀ pkt ∈ [tunnelPacket, tunnelPacket].filterMap (payload tunnelCfg),
      Carries tunnelCfg gresbServer pkt :=
    List.forall_mem_cons.mpr ⟨hcarries, List.forall_mem_singleton.mpr hcarries⟩
  obtain ⟨⟨after, hrun, hsent⟩, hfar⟩ := @tunnel _ _ succeeds_quiet tunnelCfg gresbServer rfl rfl (by decide) .gresb rfl
    4 _ hpeer [tunnelPacket, tunnelPacket] (by decide) hpackets
  refine ⟨⟨after, hrun, hsent⟩, ?_⟩
  exact hfar 5 (fun _ => none) [[0, 0, 0, 3, 1, 2, 3, 0, 0, 0, 3], [1, 2, 3]] rfl (by decide) (by decide) _ 2
    (receivingWorld_receiving gresbServer .data 5 _ _ _) (by decide)

end spw_bridge.net
