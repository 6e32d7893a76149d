import SpwBridge.Monitor
import SpwBridge.Net.Rounds

open effect framing

namespace spw_bridge.net

variable {sockfd : Nat} {build : RmapRequest → Option (List UInt8)} {cfg : BridgeCfg} {id : SvcId}
  {kind : StreamKind}

/-- The connection when `arrived` of its segments have arrived and `sched` says
when the others do. -/
def delivery (segments : List (List UInt8)) (arrived : Nat) (sched : List Nat) : TcpState :=
  ⟨(segments.take arrived).flatten, segments.drop arrived, sched⟩

/-- The service polls a connection on which the peer sends these segments and
from which nothing has been received yet. -/
structure Receiving (cfg : BridgeCfg) (id : SvcId) (sockfd : Nat) (segments : List (List UInt8))
    (w : World TcpState) : Prop where
  polled : Polled cfg id sockfd w
  log : w.spw_log = []
  env : ∃ arrived sched, w.env = delivery segments arrived sched

/-- What a number of rounds hands to the SpW side. -/
def handedOver (sockfd : Nat) (build : RmapRequest → Option (List UInt8)) (cfg : BridgeCfg) (id : SvcId)
    (rounds : Nat) (w : World TcpState) : List SpwCall :=
  handed (final (polls (tcpEnv sockfd build) cfg id rounds w)).spw_log

/-- Two ways of cutting one stream are alike: however the segments of either one
arrive, the same packets are handed on, given a round for each packet and for
each time that `select()` runs out. -/
def SameHandedOver (sockfd : Nat) (build : RmapRequest → Option (List UInt8)) (cfg : BridgeCfg) (id : SvcId)
    (packets segments segments' : List (List UInt8)) : Prop :=
  ∀ w w' rounds rounds', Receiving cfg id sockfd segments w → Receiving cfg id sockfd segments' w' →
    w.env.sched.length + packets.length ≤ rounds → w'.env.sched.length + packets.length ≤ rounds' →
    handedOver sockfd build cfg id rounds w = handedOver sockfd build cfg id rounds' w'

/-! ### Streams that are handed on whole -/

theorem delivery_unread (segments : List (List UInt8)) (arrived : Nat) (sched : List Nat) :
    (delivery segments arrived sched).unread = segments.flatten := by
  rw [TcpState.unread, delivery, ← List.flatten_append, List.take_append_drop]

/-- Without a cut inside a header all packets are handed on. -/
theorem handedOver_frames (hkind : framing cfg id = some kind) (hactive : cfg.enable_monitor = false ∨ id = .rmap)
    {w : World TcpState} (hpolled : Polled cfg id sockfd w) (hlog : w.spw_log = []) {packets : List (List UInt8)}
    (hpackets : ∀ packet ∈ packets, kind.Packet packet) (hunread : w.env.unread = packets.flatten)
    (hwire : [] ∉ w.env.wire) (huncut : kind.format.Uncut packets w.env.wire) {rounds : Nat}
    (hrounds : w.env.sched.length + packets.length ≤ rounds) :
    handedOver sockfd build cfg id rounds w = packets.map kind.call := by
  have hwp : wp (polls (tcpEnv sockfd build) cfg id rounds) _ _ w :=
    polls_frames hkind hactive hpolled hpackets hunread hwire huncut hrounds
  have hfinal := wp_final.mp (wp_mono hwp (fun _ _ h => h) fun _ _ h => h.elim)
  rw [handedOver, hfinal, hlog]
  rfl

theorem handedOver_uncut (hkind : framing cfg id = some kind)
    (hactive : cfg.enable_monitor = false ∨ id = .rmap) {packets segments : List (List UInt8)}
    (hpackets : ∀ packet ∈ packets, kind.Packet packet) (hstream : segments.flatten = packets.flatten)
    (hsegments : [] ∉ segments) (huncut : kind.format.Uncut packets segments) {w : World TcpState}
    (hw : Receiving cfg id sockfd segments w) {rounds : Nat}
    (hrounds : w.env.sched.length + packets.length ≤ rounds) :
    handedOver sockfd build cfg id rounds w = packets.map kind.call := by
  obtain ⟨arrived, sched, henv⟩ := hw.env
  have hwire : w.env.wire <:+ segments := by
    rw [henv]
    exact List.drop_suffix arrived segments
  refine handedOver_frames hkind hactive hw.polled hw.log hpackets ?_ (fun hmem => hsegments (hwire.mem hmem))
    (huncut.suffix List.suffix_rfl hwire) hrounds
  rw [henv, delivery_unread, hstream]

/-- Monitor mode hands on nothing that the other services receive. -/
theorem handedOver_monitor (hmonitor : cfg.enable_monitor = true) (hid : id ≠ .rmap) (rounds : Nat)
    {w : World TcpState} (hlog : w.spw_log = []) : handedOver sockfd build cfg id rounds w = [] := by
  have hnet := network_spwSide (σ := TcpState)
  have hhandle : ∀ fd, Keeps spwSide (handle_pkt (tcpEnv sockfd build) cfg id fd) := by
    intro fd
    cases id with
    | data => exact net_to_spw_keeps _ hmonitor .data fd
    | gresb_tx => exact gresb_tx_to_spw_keeps _ hmonitor fd
    | gresb_rx => exact within_gresb_rx_discard hnet.toSockets.receives _ .gresb_rx fd
    | sniff => exact within_gresb_rx_discard hnet.toSockets.receives _ .sniff fd
    | rmap => exact absurd rfl hid
  have hpolls : Keeps spwSide (polls (tcpEnv sockfd build) cfg id rounds) := by
    induction rounds with
    | zero => exact within_pure _
    | succ rounds ih => exact within_bind (within_poll_socket hnet.toSockets _ cfg id hhandle) fun _ => ih
  have hsame := (Prod.mk.inj (hpolls w)).2
  rw [handedOver, hsame, hlog]
  rfl

/-! ### Streams that are cut inside a header -/

/-- Where a cut lies inside a header, there are whole packets before it and a
part of that header. -/
theorem exists_cut {F : Format UInt8} {packets segments : List (List UInt8)}
    (hstream : segments.flatten = packets.flatten) (hcut : ¬ F.Uncut packets segments) :
    ∃ front rest whole others part, segments = front ++ rest ∧ packets = whole ++ others ∧ others ≠ [] ∧
      front.flatten = whole.flatten ++ part ∧ part ≠ [] ∧ part.length < F.hdr := by
  simp only [Format.Uncut, not_forall, not_or, Nat.not_le] at hcut
  obtain ⟨others, ⟨whole, rfl⟩, rest, ⟨front, rfl⟩, hafter, hinside⟩ := hcut
  rw [List.flatten_append, List.flatten_append] at hstream
  have hlength := congrArg List.length hstream
  rw [List.length_append, List.length_append] at hlength
  have hbegins : whole.flatten <+: front.flatten :=
    List.prefix_of_prefix_length_le (List.prefix_append _ _) (hstream ▸ List.prefix_append _ _) (by omega)
  obtain ⟨part, hpart⟩ := hbegins
  have hpartLength := congrArg List.length hpart
  rw [List.length_append] at hpartLength
  refine ⟨front, rest, whole, others, part, rfl, rfl, ?_, hpart.symm, ?_, by omega⟩
  · rintro rfl
    simp at hafter
  · rintro rfl
    simp only [List.length_nil] at hpartLength
    omega

/-- A world in which the service polls a fresh connection in a given state. -/
def receivingWorld (sockfd : Nat) (s : TcpState) : World TcpState :=
  { World.fresh s with svc := fun _ => ⟨0, {sockfd}, sockfd + 1, [], 0⟩, spw := some ⟨[], fun _ => 1⟩ }

theorem receivingWorld_polled (cfg : BridgeCfg) (id : SvcId) (sockfd : Nat) (s : TcpState) :
    Polled cfg id sockfd (receivingWorld sockfd s) where
  link := by simp [spw_link_ready, receivingWorld]
  member := Finset.mem_filter.mpr ⟨Finset.mem_singleton_self sockfd, Nat.lt_succ_self sockfd⟩

theorem receivingWorld_receiving (cfg : BridgeCfg) (id : SvcId) (sockfd : Nat) (segments : List (List UInt8))
    (arrived : Nat) (sched : List Nat) :
    Receiving cfg id sockfd segments (receivingWorld sockfd (delivery segments arrived sched)) :=
  ⟨receivingWorld_polled cfg id sockfd _, rfl, arrived, sched, rfl⟩

/-- A stream that is cut inside a header is handed on in part when the segments
after the cut are late. -/
theorem handedOver_cut (hkind : framing cfg id = some kind) (hactive : cfg.enable_monitor = false ∨ id = .rmap)
    {packets segments : List (List UInt8)} (hpackets : ∀ packet ∈ packets, kind.Packet packet)
    (hstream : segments.flatten = packets.flatten) (hsegments : [] ∉ segments)
    (hcut : ¬ kind.format.Uncut packets segments) :
    ∃ w, Receiving cfg id sockfd segments w ∧ w.env.sched = [] ∧
      ∀ rounds, (handedOver sockfd build cfg id rounds w).length < packets.length := by
  obtain ⟨front, rest, whole, others, part, rfl, rfl, hothers, hfront, hpart, hinside⟩ := exists_cut hstream hcut
  refine ⟨receivingWorld sockfd (delivery (front ++ rest) front.length []),
    receivingWorld_receiving cfg id sockfd _ _ _, rfl, fun rounds => ?_⟩
  have hqueue : (delivery (front ++ rest) front.length []).queue = whole.flatten ++ part := by
    rw [← hfront]
    simp [delivery]
  have hwire : [] ∉ (delivery (front ++ rest) front.length []).wire := fun hmem =>
    hsegments (List.mem_of_mem_drop hmem)
  have hwp : wp (polls (tcpEnv sockfd build) cfg id rounds) _ _ _ :=
    polls_cut hkind hactive rounds (receivingWorld_polled cfg id sockfd _)
      (fun packet hpacket => hpackets packet (List.mem_append_left _ hpacket)) rfl hqueue hwire hpart hinside
  have hbegins : handedOver sockfd build cfg id rounds
      (receivingWorld sockfd (delivery (front ++ rest) front.length [])) <+: whole.map kind.call :=
    wp_final.mp hwp
  have hlength := hbegins.length_le
  have hpos := List.length_pos_of_ne_nil hothers
  rw [List.length_map] at hlength
  rw [List.length_append]
  omega

/-- Segments that have all arrived are handed on whole. -/
theorem handedOver_arrived (hkind : framing cfg id = some kind)
    (hactive : cfg.enable_monitor = false ∨ id = .rmap) {packets segments : List (List UInt8)}
    (hpackets : ∀ packet ∈ packets, kind.Packet packet) (hstream : segments.flatten = packets.flatten) :
    ∃ w, Receiving cfg id sockfd segments w ∧ w.env.sched = [] ∧
      handedOver sockfd build cfg id packets.length w = packets.map kind.call := by
  refine ⟨receivingWorld sockfd (delivery segments segments.length []),
    receivingWorld_receiving cfg id sockfd _ _ _, rfl, ?_⟩
  have hwire : (delivery segments segments.length []).wire = [] := List.drop_length
  refine handedOver_frames hkind hactive (receivingWorld_polled cfg id sockfd _) rfl hpackets
    ((delivery_unread _ _ _).trans hstream) ?_ ?_ ?_
  · exact hwire ▸ List.not_mem_nil
  · exact hwire ▸ Format.uncut_nil fun packet hpacket => (hpackets packet hpacket).1
  · exact Nat.le_of_eq (Nat.zero_add _)

/-- If two ways of cutting a stream are alike, neither cuts a header: the
delivery in one piece would differ from the one with a part of a header. -/
theorem uncut_of_sameHandedOver (hkind : framing cfg id = some kind)
    (hactive : cfg.enable_monitor = false ∨ id = .rmap) {packets segments segments' : List (List UInt8)}
    (hpackets : ∀ packet ∈ packets, kind.Packet packet) (hstream : segments.flatten = packets.flatten)
    (hstream' : segments'.flatten = packets.flatten) (hsegments : [] ∉ segments)
    (hsame : SameHandedOver sockfd build cfg id packets segments segments') :
    kind.format.Uncut packets segments := by
  by_contra hcut
  obtain ⟨w, hw, hsched, hless⟩ := handedOver_cut hkind hactive hpackets hstream hsegments hcut
  obtain ⟨w', hw', hsched', hall⟩ := handedOver_arrived hkind hactive hpackets hstream'
  have hsame' := hsame w w' packets.length packets.length hw hw' (by simp [hsched]) (by simp [hsched'])
  have hlength := hless packets.length
  rw [hsame', hall, List.length_map] at hlength
  exact Nat.lt_irrefl _ hlength

theorem active_of_not_passive (hpassive : ¬ (cfg.enable_monitor = true ∧ id ≠ .rmap)) :
    cfg.enable_monitor = false ∨ id = .rmap := by
  rw [not_and_or, not_not] at hpassive
  simpa using hpassive

/-- Two ways of cutting a stream of packets into segments are alike if and only
if neither of them cuts a packet header, apart from services that monitor mode
keeps from handing on anything: `recv_exact` waits for the rest of a body, but a
header has to be there in one piece when the framer looks at it. -/
theorem segmentation_iff (hkind : framing cfg id = some kind) {packets segments segments' : List (List UInt8)}
    (hpackets : ∀ packet ∈ packets, kind.Packet packet) (hstream : segments.flatten = packets.flatten)
    (hstream' : segments'.flatten = packets.flatten) (hsegments : [] ∉ segments) (hsegments' : [] ∉ segments') :
    SameHandedOver sockfd build cfg id packets segments segments' ↔
      (cfg.enable_monitor = true ∧ id ≠ .rmap) ∨
        (kind.format.Uncut packets segments ∧ kind.format.Uncut packets segments') := by
  constructor
  · intro hsame
    by_cases hpassive : cfg.enable_monitor = true ∧ id ≠ .rmap
    · exact Or.inl hpassive
    · have hactive := active_of_not_passive hpassive
      have hsame' : SameHandedOver sockfd build cfg id packets segments' segments :=
        fun w w' rounds rounds' hw hw' hrounds hrounds' =>
          (hsame w' w rounds' rounds hw' hw hrounds' hrounds).symm
      exact Or.inr ⟨uncut_of_sameHandedOver hkind hactive hpackets hstream hstream' hsegments hsame,
        uncut_of_sameHandedOver hkind hactive hpackets hstream' hstream hsegments' hsame'⟩
  · intro halike w w' rounds rounds' hw hw' hrounds hrounds'
    by_cases hpassive : cfg.enable_monitor = true ∧ id ≠ .rmap
    · rw [handedOver_monitor hpassive.1 hpassive.2 rounds hw.log,
        handedOver_monitor hpassive.1 hpassive.2 rounds' hw'.log]
    · have hactive := active_of_not_passive hpassive
      obtain ⟨huncut, huncut'⟩ := halike.resolve_left hpassive
      rw [handedOver_uncut hkind hactive hpackets hstream hsegments huncut hw hrounds,
        handedOver_uncut hkind hactive hpackets hstream' hsegments' huncut' hw' hrounds']

/-- The PUS mode of the data service. -/
def pusCfg : BridgeCfg := { bridge_cfg_init [] with interpret_pus := true }

/-- A packet with a cut behind its header and the same packet in one piece. -/
theorem segmentation_iff_body :
    SameHandedOver 5 (fun _ => none) pusCfg .data [[0x18, 0x01, 0xc0, 0x00, 0x00, 0x01, 0xaa, 0xbb]]
        [[0x18, 0x01, 0xc0, 0x00, 0x00, 0x01, 0xaa], [0xbb]] [[0x18, 0x01, 0xc0, 0x00, 0x00, 0x01, 0xaa, 0xbb]] ↔
      (pusCfg.enable_monitor = true ∧ SvcId.data ≠ .rmap) ∨
        (pusFormat.Uncut [[0x18, 0x01, 0xc0, 0x00, 0x00, 0x01, 0xaa, 0xbb]]
            [[0x18, 0x01, 0xc0, 0x00, 0x00, 0x01, 0xaa], [0xbb]] ∧
          pusFormat.Uncut [[0x18, 0x01, 0xc0, 0x00, 0x00, 0x01, 0xaa, 0xbb]]
            [[0x18, 0x01, 0xc0, 0x00, 0x00, 0x01, 0xaa, 0xbb]]) :=
  have hkind : framing pusCfg .data = some .pus := rfl
  segmentation_iff hkind (by decide) rfl rfl (by decide) (by decide)

/-- A packet whose first segment ends after three header bytes is lost; in one
piece it is handed on. -/
theorem header_cut_differs :
    (∀ packet ∈ [[0x18, 0x01, 0xc0, 0x00, 0x00, 0x00, 0xaa]], StreamKind.pus.Packet packet) ∧
    ¬ SameHandedOver 5 (fun _ => none) pusCfg .data [[0x18, 0x01, 0xc0, 0x00, 0x00, 0x00, 0xaa]]
        [[0x18, 0x01, 0xc0], [0x00, 0x00, 0x00, 0xaa]] [[0x18, 0x01, 0xc0, 0x00, 0x00, 0x00, 0xaa]] := by
  refine ⟨by decide, fun hsame => ?_⟩
  have hequal := hsame (receivingWorld 5 (delivery [[0x18, 0x01, 0xc0], [0x00, 0x00, 0x00, 0xaa]] 1 []))
    (receivingWorld 5 (delivery [[0x18, 0x01, 0xc0, 0x00, 0x00, 0x00, 0xaa]] 1 [])) 1 1
    (receivingWorld_receiving pusCfg .data 5 _ _ _) (receivingWorld_receiving pusCfg .data 5 _ _ _)
    (by decide) (by decide)
  exact absurd hequal (by decide +kernel)

end spw_bridge.net
