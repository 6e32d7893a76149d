import SpwBridge.Bridge
import SpwBridge.Net.ClientStreams
import SpwBridge.Net.Routing

open effect spw_bridge.rmap

namespace spw_bridge.net

variable {σ : Type}

/-- What crosses the bridge: a packet from the link for the clients, the message of
an RMAP reply, and a packet that a client has sent. -/
inductive Traffic
  | to_net (pkt : List UInt8)
  | reply (msg : List UInt8)
  | from_net (pkt : List UInt8)

/-- Whether it comes from the link. -/
def Traffic.arriving : Traffic → Bool
  | .to_net _ | .reply _ => true
  | .from_net _ => false

/-- The packet that goes out on the link for it. -/
def Traffic.transmitted : Traffic → Option (List UInt8)
  | .to_net _ | .reply _ => none
  | .from_net pkt => some pkt

/-- What the link brings in with a packet. -/
def arrivals (cfg : BridgeCfg) (pkt : List UInt8) : List Traffic :=
  if pkt.length ≤ cfg.skip_header_bytes then []
  else if LooksRmap cfg pkt then
    match rmap_pkt_from_buffer .success (pkt.drop cfg.skip_header_bytes) with
    | .ok (some rmap_pkt) => [.reply (replyContent rmap_pkt).encode]
    | _ => []
  else [.to_net (pkt.drop cfg.skip_header_bytes)]

def event_arrivals (cfg : BridgeCfg) : BridgeEvent → List Traffic
  | .spw _ pkt => arrivals cfg pkt.val
  | .net _ _ | .accept _ _ => []

/-- The packet that a receive call returns, if it returns one. -/
def receipt {α : Type} : EStateM.Result Halt (World σ) (Option α) → Option α
  | .ok a _ => a
  | .error _ _ => none

/-- The packet of a client that an event takes, as the receive call of the handler
returns it. The commands of the pseudo-RMAP service are no packets. -/
def taken (E : Env σ) (cfg : BridgeCfg) (w : World σ) : BridgeEvent → Option (List UInt8)
  | .net .data fd => (receipt (net_recv E cfg .data fd w)).map Prod.fst
  | .net .gresb_tx fd => receipt (recv_gresb_packet E .gresb_tx fd w)
  | .net .rmap _ | .net .gresb_rx _ | .net .sniff _ | .spw _ _ | .accept _ _ => none

def event_traffic (E : Env σ) (cfg : BridgeCfg) (w : World σ) (event : BridgeEvent) : List Traffic :=
  event_arrivals cfg event ++ ((taken E cfg w event).map .from_net).toList

/-- The packets that the events of a run take from clients. -/
def run_taken (E : Env σ) (cfg : BridgeCfg) (w : World σ) : List BridgeEvent → List (List UInt8)
  | [] => []
  | event :: events => (taken E cfg w event).toList ++ run_taken E cfg (stepEvent E cfg w event).1 events

/-- The traffic of a run, in the order of its events. -/
def run_traffic (E : Env σ) (cfg : BridgeCfg) (w : World σ) : List BridgeEvent → List Traffic
  | [] => []
  | event :: events => event_traffic E cfg w event ++ run_traffic E cfg (stepEvent E cfg w event).1 events

theorem event_arrivals_arriving {cfg : BridgeCfg} {event : BridgeEvent} {t : Traffic}
    (ht : t ∈ event_arrivals cfg event) : t.arriving = true := by
  cases event with
  | net _ _ | accept _ _ => exact absurd ht List.not_mem_nil
  | spw _ pkt =>
    simp only [event_arrivals, arrivals] at ht
    split_ifs at ht
    · exact absurd ht List.not_mem_nil
    · split at ht
      · rw [List.mem_singleton.mp ht]
        rfl
      · exact absurd ht List.not_mem_nil
    · rw [List.mem_singleton.mp ht]
      rfl

theorem Traffic.transmitted_of_arriving {t : Traffic} (ht : t.arriving = true) : t.transmitted = none := by
  cases t with
  | to_net _ | reply _ => rfl
  | from_net _ => cases ht

/-- What the link brings in along a run. -/
theorem run_traffic_arriving (E : Env σ) (cfg : BridgeCfg) (w : World σ) (events : List BridgeEvent) :
    (run_traffic E cfg w events).filter Traffic.arriving = events.flatMap (event_arrivals cfg) := by
  induction events generalizing w with
  | nil => rfl
  | cons event events ih =>
    have harriving : (event_arrivals cfg event).filter Traffic.arriving = event_arrivals cfg event :=
      List.filter_eq_self.mpr fun _ => event_arrivals_arriving
    have htaken : ((taken E cfg w event).map Traffic.from_net).toList.filter Traffic.arriving = [] := by
      cases taken E cfg w event <;> rfl
    rw [run_traffic, event_traffic, List.filter_append, List.filter_append, ih, harriving, htaken, List.append_nil,
      List.flatMap_cons]

/-- What goes out on the link is what is taken from the clients. -/
theorem run_traffic_transmitted (E : Env σ) (cfg : BridgeCfg) (w : World σ) (events : List BridgeEvent) :
    (run_traffic E cfg w events).filterMap Traffic.transmitted = run_taken E cfg w events := by
  induction events generalizing w with
  | nil => rfl
  | cons event events ih =>
    have harriving : (event_arrivals cfg event).filterMap Traffic.transmitted = [] :=
      List.filterMap_eq_nil_iff.mpr fun _ ht => Traffic.transmitted_of_arriving (event_arrivals_arriving ht)
    have htaken : ((taken E cfg w event).map Traffic.from_net).toList.filterMap Traffic.transmitted =
        (taken E cfg w event).toList := by
      cases taken E cfg w event <;> rfl
    rw [run_traffic, event_traffic, List.filterMap_append, List.filterMap_append, ih, harriving, htaken,
      List.nil_append, run_taken]

/-- What a client of a service is sent for it: the sniffer sees both directions,
and nobody is sent anything on the GRESB transmit port. -/
def view (cfg : BridgeCfg) (sock_fd : SvcId → Nat) : SvcId → Traffic → List UInt8
  | .data, .to_net pkt => if cfg.mode = .MODE_DGRAM then [] else framed cfg.enable_gresb pkt
  | .gresb_rx, .to_net pkt =>
    if cfg.enable_gresb = false ∨ cfg.mode ≠ .MODE_SERVER ∨ sock_fd .gresb_rx = 0 then [] else gresb_msg pkt
  | .sniff, .to_net pkt | .sniff, .from_net pkt => if sock_fd .sniff = 0 then [] else framed cfg.sniff_gresb pkt
  | .rmap, .reply msg => msg
  | _, _ => []

/-- The packets that were transmitted for clients. -/
def sent_packets (calls : List SpwCall) : List (Chan × List UInt8) :=
  calls.filterMap fun
    | .send_packet chan pkt => some (chan, pkt)
    | _ => none

@[simp] theorem sent_packets_append (calls calls' : List SpwCall) :
    sent_packets (calls ++ calls') = sent_packets calls ++ sent_packets calls' := List.filterMap_append

/-- A connection of one service that no other service has. -/
structure Peer (id : SvcId) (fd : Nat) (w : World σ) : Prop where
  watched : fd ∈ watched (w.svc id)
  own : ∀ other, other ≠ id → fd ∉ (w.svc other).conn_set

theorem Peer.same {id : SvcId} {fd : Nat} {w after : World σ} (hpeer : Peer id fd w) (hsvc : after.svc = w.svc) :
    Peer id fd after where
  watched := hsvc ▸ hpeer.watched
  own := hsvc ▸ hpeer.own

/-- The sink at its RMAP branch. -/
theorem net_pkt_sink_rmap (E : Env σ) {cfg : BridgeCfg} {pkt : List UInt8}
    (hlong : ¬ pkt.length ≤ cfg.skip_header_bytes) (hrmap : LooksRmap cfg pkt) :
    net_pkt_sink E cfg pkt = rmap_reply_to_clients E cfg pkt := by
  have hrmap' : cfg.enable_rmap = true ∧ pkt.length > cfg.skip_header_bytes + 1 ∧
      byteAt pkt (cfg.skip_header_bytes + 1) = 0x1 := hrmap
  rw [net_pkt_sink, if_neg hlong, if_pos hrmap']

/-! ### The bytes of one packet -/

/-- A stretch of a run that sends these bytes on a descriptor and keeps all
connections. -/
structure SendsBytes (fd : Nat) (bytes : List UInt8) (w after : World σ) : Prop where
  svc : after.svc = w.svc
  sent : sent_to fd after.net_log = sent_to fd w.net_log ++ bytes

section bytes

variable {E : Env σ} {id : SvcId} {fd : Nat} {bytes bytes' : List UInt8} {w mid after : World σ}

theorem SendsBytes.refl (fd : Nat) (w : World σ) : SendsBytes fd [] w w := ⟨rfl, (List.append_nil _).symm⟩

theorem SendsBytes.trans (hfirst : SendsBytes fd bytes w mid) (hrest : SendsBytes fd bytes' mid after) :
    SendsBytes fd (bytes ++ bytes') w after where
  svc := hrest.svc.trans hfirst.svc
  sent := by rw [hrest.sent, hfirst.sent, List.append_assoc]

theorem SendsBytes.of_env {s : σ} (h : SendsBytes fd bytes { w with env := s } after) : SendsBytes fd bytes w after :=
  ⟨h.svc, h.sent⟩

/-- A broadcast reaches the connections of its service only. -/
theorem broadcast_bytes (hE : Succeeds E) (hpeer : Peer id fd w) (other : SvcId) (msg : List UInt8) :
    wp (broadcast E other msg) (fun _ after => SendsBytes fd (if other = id then msg else []) w after)
      (fun _ _ => False) w := by
  obtain ⟨_, after, hrun, hsends⟩ := ok_of_wp (broadcast_sends hE other msg w)
  refine (wp_ok hrun).mpr ⟨hsends.svc, ?_⟩
  split_ifs with hid
  · subst hid
    obtain ⟨hmem, hnfds⟩ := Finset.mem_filter.mp hpeer.watched
    have hhanded := (wp_ok hrun).mp (broadcast_handed hnfds hmem)
    cases hhanded with
    | whole hsent => exact hsent
    | cut _ _ _ _ hgone =>
      rw [hsends.svc] at hgone
      exact absurd hmem hgone
  · have hapart := (wp_ok hrun).mp (broadcast_apart (.inr (hpeer.own other hid)))
    exact hapart.sent.trans (List.append_nil _).symm

theorem dgram_send_all_bytes (w : World σ) (fd : Nat) (msg : List UInt8) :
    wp (dgram_send_all E .data msg) (fun _ after => SendsBytes fd [] w after) (fun _ _ => False) w := by
  simp only [dgram_send_all, wp_bind, wp_get_svc]
  apply wp_forM _ (SendsBytes.refl fd w)
  intro client _ s hs
  simp only [wp_bind, wp_syscall, wp_log_net]
  refine hs.trans ⟨rfl, ?_⟩
  rw [sent_to_append]
  simp [sent_to]

variable (hE : Succeeds E) {cfg : BridgeCfg}

include hE

theorem sniff_push_bytes (hpeer : Peer id fd w) (pkt : List UInt8) :
    wp (sniff_push E cfg pkt)
      (fun _ after => SendsBytes fd (view cfg (fun id => (w.svc id).sock_fd) id (.from_net pkt)) w after)
      (fun _ _ => False) w := by
  have hview : ∀ msg, msg = framed cfg.sniff_gresb pkt → (w.svc .sniff).sock_fd ≠ 0 →
      (if SvcId.sniff = id then msg else []) = view cfg (fun id => (w.svc id).sock_fd) id (.from_net pkt) := by
    rintro _ rfl hopen
    cases id <;> simp [view, hopen]
  simp only [sniff_push, wp_bind, wp_get_svc, wp_ite, wp_pure]
  split_ifs with hclosed hgresb
  · have hnone : view cfg (fun id => (w.svc id).sock_fd) id (.from_net pkt) = [] := by
      cases id <;> simp [view, hclosed]
    rw [hnone]
    exact SendsBytes.refl fd w
  · apply wp_gresb_create hE
    intro s
    rw [← hview _ (if_pos hgresb).symm hclosed]
    have hpeer' : Peer id fd { w with env := s } := hpeer.same rfl
    exact wp_mono_post (broadcast_bytes hE hpeer' .sniff _) fun _ after hafter => hafter.of_env
  · rw [← hview pkt (if_neg hgresb).symm hclosed]
    exact broadcast_bytes hE hpeer .sniff pkt

/-- What the receive port gets. -/
theorem gresb_push_bytes (hpeer : Peer id fd w) (hgresb : cfg.enable_gresb = true) (pkt : List UInt8) :
    wp (gresb_push_rx_clients E cfg pkt)
      (fun _ after => SendsBytes fd
        (if id = .gresb_rx then view cfg (fun id => (w.svc id).sock_fd) .gresb_rx (.to_net pkt) else []) w after)
      (fun _ _ => False) w := by
  simp only [gresb_push_rx_clients, wp_bind, wp_get_svc, wp_ite, wp_pure]
  split_ifs with hclosed hid hid
  · have hnone : view cfg (fun id => (w.svc id).sock_fd) .gresb_rx (.to_net pkt) = [] := if_pos (.inr hclosed)
    rw [hnone]
    exact SendsBytes.refl fd w
  · exact SendsBytes.refl fd w
  all_goals
    apply wp_gresb_create hE
    intro s
    have hpeer' : Peer id fd { w with env := s } := hpeer.same rfl
    apply wp_mono_post (broadcast_bytes hE hpeer' .gresb_rx _)
    intro _ after hafter
  · have hopen : view cfg (fun id => (w.svc id).sock_fd) .gresb_rx (.to_net pkt) = gresb_msg pkt :=
      if_neg (not_or.mpr ⟨by simp [hgresb], hclosed⟩)
    rw [if_pos hid.symm] at hafter
    rw [hopen]
    exact hafter.of_env
  · rw [if_neg (Ne.symm hid)] at hafter
    exact hafter.of_env

/-- A packet from the link, as each service shows it to its clients. -/
theorem net_forward_to_clients_bytes (hpeer : Peer id fd w) (pkt : List UInt8) :
    wp (net_forward_to_clients E cfg pkt)
      (fun _ after => SendsBytes fd (view cfg (fun id => (w.svc id).sock_fd) id (.to_net pkt)) w after)
      (fun _ _ => False) w := by
  simp only [net_forward_to_clients, wp_bind]
  apply wp_mono_post (sniff_push_bytes hE hpeer pkt)
  intro _ mid hmid
  have hpeer' := hpeer.same hmid.svc
  have hsock : (fun id => (mid.svc id).sock_fd) = fun id => (w.svc id).sock_fd := by rw [hmid.svc]
  -- what the data service and the receive port add to what the sniffer has got
  have hsum : view cfg (fun id => (w.svc id).sock_fd) id (.from_net pkt) ++
      ((if id = .data ∧ cfg.mode ≠ .MODE_DGRAM then framed cfg.enable_gresb pkt else []) ++
        if id = .gresb_rx then view cfg (fun id => (w.svc id).sock_fd) .gresb_rx (.to_net pkt) else []) =
      view cfg (fun id => (w.svc id).sock_fd) id (.to_net pkt) := by
    cases id <;> simp [view]
  have hpush : ∀ sent, cfg.enable_gresb = true →
      SendsBytes fd (if id = .data ∧ cfg.mode ≠ .MODE_DGRAM then framed cfg.enable_gresb pkt else []) mid sent →
      wp (gresb_push_rx_clients E cfg pkt)
        (fun _ after => SendsBytes fd (view cfg (fun id => (w.svc id).sock_fd) id (.to_net pkt)) w after)
        (fun _ _ => False) sent := by
    intro sent hgresb hsent
    apply wp_mono_post (gresb_push_bytes hE (hpeer'.same hsent.svc) hgresb pkt)
    intro _ after hafter
    rw [hsent.svc, hsock] at hafter
    rw [← hsum]
    exact hmid.trans (hsent.trans hafter)
  have hraw : ∀ after, cfg.enable_gresb = false →
      SendsBytes fd (if id = .data ∧ cfg.mode ≠ .MODE_DGRAM then framed cfg.enable_gresb pkt else []) mid after →
      SendsBytes fd (view cfg (fun id => (w.svc id).sock_fd) id (.to_net pkt)) w after := by
    intro after hgresb hafter
    have hnone : view cfg (fun id => (w.svc id).sock_fd) .gresb_rx (.to_net pkt) = [] := if_pos (.inl hgresb)
    rw [← hsum, hnone, ite_self, List.append_nil]
    exact hmid.trans hafter
  by_cases hmode : cfg.mode = .MODE_DGRAM <;> cases hgresb : cfg.enable_gresb <;>
    simp only [hmode, Bool.false_eq_true, ↓reduceIte]
  · apply wp_mono_post (dgram_send_all_bytes mid fd pkt)
    intro _ after hafter
    exact hraw after hgresb (by simpa [hmode] using hafter)
  · apply wp_gresb_create hE
    intro s
    rw [wp_bind]
    apply wp_mono_post (dgram_send_all_bytes _ fd _)
    intro _ sent hsent
    exact hpush sent hgresb (by simpa [hmode] using hsent.of_env)
  · apply wp_mono_post (broadcast_bytes hE hpeer' .data pkt)
    intro _ after hafter
    exact hraw after hgresb (by simpa [hmode, hgresb, framed, eq_comm] using hafter)
  · apply wp_gresb_create hE
    intro s
    rw [wp_bind]
    have hpeer'' : Peer id fd { mid with env := s } := hpeer'.same rfl
    apply wp_mono_post (broadcast_bytes hE hpeer'' .data _)
    intro _ sent hsent
    exact hpush sent hgresb (by simpa [hmode, hgresb, framed, eq_comm, gresb_msg] using hsent.of_env)

end bytes

/-! ### What a stretch of a run conveys -/

/-- The connections get what their services show of the traffic, as long as they
last. `accepted` are descriptors that come in between. -/
structure Conveys (cfg : BridgeCfg) (accepted : Nat → Prop) (traffic : List Traffic) (w after : World σ) : Prop where
  member : ∀ id fd, ¬ accepted fd → fd ∈ (after.svc id).conn_set → fd ∈ (w.svc id).conn_set
  nfds : ∀ id, (w.svc id).nfds ≤ (after.svc id).nfds
  sock_fd : ∀ id, (after.svc id).sock_fd = (w.svc id).sock_fd
  sent : ∀ id fd, ¬ accepted fd → Peer id fd w → fd ∈ (after.svc id).conn_set →
    sent_to fd after.net_log =
      sent_to fd w.net_log ++ traffic.flatMap (view cfg (fun id => (w.svc id).sock_fd) id)

section conveys

variable {cfg : BridgeCfg} {accepted : Nat → Prop} {traffic traffic' : List Traffic} {w mid after : World σ}

theorem Conveys.refl (cfg : BridgeCfg) (accepted : Nat → Prop) (w : World σ) : Conveys cfg accepted [] w w where
  member _ _ _ h := h
  nfds _ := Nat.le_refl _
  sock_fd _ := rfl
  sent _ _ _ _ _ := (List.append_nil _).symm

/-- A connection that is still there later has not been dropped in between. -/
theorem Conveys.peer (hconveys : Conveys cfg accepted traffic w mid) {id : SvcId} {fd : Nat} (hfd : ¬ accepted fd)
    (hpeer : Peer id fd w) (hmem : fd ∈ (mid.svc id).conn_set) : Peer id fd mid where
  watched := by
    have hbelow := (Finset.mem_filter.mp hpeer.watched).2
    exact Finset.mem_filter.mpr ⟨hmem, Nat.lt_of_lt_of_le hbelow (hconveys.nfds id)⟩
  own other hother h := hpeer.own other hother (hconveys.member other fd hfd h)

theorem Conveys.trans (hfirst : Conveys cfg accepted traffic w mid) (hrest : Conveys cfg accepted traffic' mid after) :
    Conveys cfg accepted (traffic ++ traffic') w after where
  member id fd hfd h := hfirst.member id fd hfd (hrest.member id fd hfd h)
  nfds id := (hfirst.nfds id).trans (hrest.nfds id)
  sock_fd id := (hrest.sock_fd id).trans (hfirst.sock_fd id)
  sent id fd hfd hpeer hmem := by
    have hmid := hrest.member id fd hfd hmem
    have hsock : (fun id => (mid.svc id).sock_fd) = fun id => (w.svc id).sock_fd := funext hfirst.sock_fd
    rw [hrest.sent id fd hfd (hfirst.peer hfd hpeer hmid) hmem, hfirst.sent id fd hfd hpeer hmid, hsock,
      List.flatMap_append, List.append_assoc]

/-- A stretch that keeps all connections. -/
theorem Conveys.of_bytes (hsvc : after.svc = w.svc)
    (hsent : ∀ id fd, Peer id fd w →
      SendsBytes fd (traffic.flatMap (view cfg (fun id => (w.svc id).sock_fd) id)) w after) :
    Conveys cfg accepted traffic w after where
  member id fd _ h := by rwa [hsvc] at h
  nfds id := by rw [hsvc]
  sock_fd id := by rw [hsvc]
  sent id fd _ hpeer _ := (hsent id fd hpeer).sent

instance : IsPreorder (World σ) (Conveys cfg accepted []) where
  refl := Conveys.refl cfg accepted
  trans _ _ _ h h' := h.trans h'

/-- A call into the environment. -/
theorem conveys_env (s : σ) : Conveys cfg accepted [] w { w with env := s } :=
  .of_bytes rfl fun _ _ _ => ⟨rfl, (List.append_nil _).symm⟩

/-- Whatever is received, and whoever is dropped then, nobody is sent anything. -/
theorem conveys_listens : Listens (Conveys (σ := σ) cfg accepted []) where
  env _ s := conveys_env s
  closed w sockfd := by
    refine .of_bytes rfl fun _ fd _ => ⟨rfl, ?_⟩
    rw [sent_to_append]
    simp [sent_to]
  fd_clr w id sockfd := by
    refine ⟨fun other fd _ h => ?_, fun other => ?_, fun other => ?_, fun _ _ _ _ _ => (List.append_nil _).symm⟩
    all_goals
      by_cases hid : other = id
      · subst hid
        simp_all [fd_clr]
      · simp_all
  pus_seq_tx w t := .of_bytes rfl fun _ _ _ => ⟨rfl, (List.append_nil _).symm⟩
  clients w id clients cap := by
    refine ⟨fun other fd _ h => ?_, fun other => ?_, fun other => ?_, fun _ _ _ _ _ => (List.append_nil _).symm⟩
    all_goals
      by_cases hid : other = id
      · subst hid
        simp_all
      · simp_all

theorem conveys_accept (id : SvcId) {fd : Nat} (hfd : accepted fd) :
    Conveys cfg accepted [] w { w with svc := Function.update w.svc id (accept_connections (w.svc id) fd) } where
  member other fd' hfd' h := by
    have hne : fd' ≠ fd := fun heq => hfd' (heq ▸ hfd)
    exact (accept_member hne).mp h
  nfds other := accept_nfds id fd
  sock_fd other := by
    by_cases hid : other = id
    · subst hid
      simp only [Function.update_self, accept_connections]
      split <;> rfl
    · simp [hid]
  sent _ _ _ _ _ := (List.append_nil _).symm

/-- The packets that have been transmitted so far. -/
def link_side (w : World σ) : List (Chan × List UInt8) := sent_packets w.spw_log

theorem network_link_side : Network (Same (link_side (σ := σ))) where
  env _ _ := rfl
  net_log _ _ := rfl
  fd_clr _ _ _ := rfl
  pus_seq_tx _ _ := rfl
  pus_seq_rx _ _ := rfl
  clients _ _ _ _ := rfl

/-- The packets of the traffic are the ones transmitted on the link. -/
def Transmitted (traffic : List Traffic) (w after : World σ) : Prop :=
  link_side after =
    link_side w ++ (traffic.filterMap Traffic.transmitted).map fun pkt => (false, pkt)

theorem Transmitted.trans (hfirst : Transmitted traffic w mid) (hrest : Transmitted traffic' mid after) :
    Transmitted (traffic ++ traffic') w after := by
  rw [Transmitted, hrest, hfirst, List.filterMap_append, List.map_append, List.append_assoc]

theorem Transmitted.of_same (hsame : link_side after = link_side w) : Transmitted [] w after :=
  hsame.trans (List.append_nil _).symm

/-- A stretch with this traffic, all of which goes where it should. -/
structure Relayed (cfg : BridgeCfg) (accepted : Nat → Prop) (traffic : List Traffic) (w after : World σ) : Prop where
  conveys : Conveys cfg accepted traffic w after
  transmitted : Transmitted traffic w after

theorem Relayed.refl (cfg : BridgeCfg) (accepted : Nat → Prop) (w : World σ) : Relayed cfg accepted [] w w :=
  ⟨.refl cfg accepted w, .of_same rfl⟩

theorem Relayed.trans (hfirst : Relayed cfg accepted traffic w mid) (hrest : Relayed cfg accepted traffic' mid after) :
    Relayed cfg accepted (traffic ++ traffic') w after where
  conveys := hfirst.conveys.trans hrest.conveys
  transmitted := hfirst.transmitted.trans hrest.transmitted

/-- A program that is away from the clients and from the link. -/
theorem wp_relayed_quiet {α : Type} {x : Prog σ α} (hconveys : Within (Conveys cfg accepted []) x)
    (hside : Keeps link_side x) (w : World σ) :
    wp x (fun _ after => Relayed cfg accepted [] w after) (fun _ after => Relayed cfg accepted [] w after) w := by
  have hboth := wp_and (hconveys.wp w) (hside.wp w)
  exact wp_mono hboth (fun _ _ h => ⟨h.1, .of_same h.2⟩) fun _ _ h => ⟨h.1, .of_same h.2⟩

end conveys

section handlers

variable {E : Env σ} (hE : Succeeds E) (cfg : BridgeCfg) (accepted : Nat → Prop) {w : World σ}

theorem spw_send_packet_relayed (pkt : List UInt8) :
    wp (spw_send_packet E pkt) (fun _ after => Conveys cfg accepted [] w after ∧ Transmitted [.from_net pkt] w after)
      (fun halt _ => halt ≠ .hang) w := by
  simp only [spw_send_packet, spw_send_packet_chan, wp_bind, wp_log_spw, wp_tx_address, wp_exit_unless]
  split
  · exact Halt.noConfusion
  · split_ifs with hpacket hoperation hsubmit hwait
    · refine ⟨.of_bytes rfl fun _ _ _ => ⟨rfl, (List.append_nil _).symm⟩, ?_⟩
      simp [Transmitted, link_side, sent_packets, Traffic.transmitted]
    all_goals exact Halt.noConfusion

/-- The handler of the RMAP service transmits no packet of a client. -/
theorem within_rmap_net_to_spw {R : World σ → World σ → Prop} [IsPreorder (World σ) R] (hR : Receives R)
    (hlog : ∀ w call, sent_packets [call] = [] → R w { w with spw_log := w.spw_log ++ [call] }) (E : Env σ) (fd : Nat) :
    Within R (rmap_net_to_spw E fd) := by
  have hlogged : ∀ call, sent_packets [call] = [] → Within R (log_spw call : Prog σ Unit) :=
    fun call hcall w => hlog w call hcall
  have hcmd : ∀ dst op addr data, Within R (spw_rmap_cmd E dst op addr data) := by
    intro dst op addr data
    apply within_bind (hlogged _ rfl)
    intro _
    apply within_bind (within_call hR _)
    intro pkt
    cases pkt with
    | none => exact within_pure _
    | some pkt =>
      have haddress : Within R (tx_address : Prog σ (List UInt8)) := by
        refine within_bind within_get fun w => ?_
        cases w.spw with
        | none => exact within_throw _
        | some st => exact within_pure _
      apply within_bind haddress
      intro _
      apply within_bind (hlogged _ rfl)
      intro _
      exact within_bind (within_call hR _) fun _ => within_pure _
  have hdrop := within_rmap_conn_drop (hR.drops E .rmap) fd
  apply within_bind (within_peek_header hR E fd 10 .MSG_PEEK hdrop)
  intro hdr
  cases hdr with
  | none => exact within_pure _
  | some hdr =>
    refine within_ite (fun _ => hdrop) fun _ => ?_
    apply within_bind (within_recv_body hR E fd _ hdrop)
    intro rec
    cases rec with
    | none => exact within_pure _
    | some rec => exact within_ite (fun _ => hcmd _ _ _ _) fun _ => hcmd _ _ _ _

theorem rmap_net_to_spw_relayed (fd : Nat) :
    wp (rmap_net_to_spw E fd) (fun _ after => Relayed cfg accepted [] w after)
      (fun _ after => Relayed cfg accepted [] w after) w := by
  apply wp_relayed_quiet
  · apply within_rmap_net_to_spw conveys_listens.toReceives
    exact fun w call _ => .of_bytes rfl fun _ _ _ => ⟨rfl, (List.append_nil _).symm⟩
  · apply within_rmap_net_to_spw network_link_side.toSockets.receives
    intro w call hcall
    change sent_packets (w.spw_log ++ [call]) = _
    rw [sent_packets_append, hcall, List.append_nil]
    rfl

include hE

theorem sniff_push_conveys (pkt : List UInt8) :
    wp (sniff_push E cfg pkt)
      (fun _ after => Conveys cfg accepted [.from_net pkt] w after ∧ link_side after = link_side w)
      (fun _ _ => False) w := by
  obtain ⟨_, after, hrun, hsends⟩ := ok_of_wp (sniff_push_sends hE cfg pkt w)
  refine (wp_ok hrun).mpr ⟨.of_bytes hsends.svc fun id fd hpeer => ?_, ?_⟩
  · rw [List.flatMap_singleton]
    exact (wp_ok hrun).mp (sniff_push_bytes hE hpeer pkt)
  · exact (wp_ok hrun).mp ((within_sniff_push network_link_side.toSockets E cfg pkt).wp w)

theorem net_forward_to_clients_relayed (pkt : List UInt8) :
    wp (net_forward_to_clients E cfg pkt) (fun _ after => Relayed cfg accepted [.to_net pkt] w after)
      (fun _ _ => False) w := by
  obtain ⟨_, after, hrun, hsends⟩ := ok_of_wp (net_forward_to_clients_sends hE cfg pkt w)
  refine (wp_ok hrun).mpr ⟨.of_bytes hsends.svc fun id fd hpeer => ?_, ?_⟩
  · rw [List.flatMap_singleton]
    exact (wp_ok hrun).mp (net_forward_to_clients_bytes hE hpeer pkt)
  · exact Transmitted.of_same ((wp_ok hrun).mp
      ((within_net_forward_to_clients network_link_side.toSockets E cfg pkt).wp w))

omit hE in
/-- Registering never fails: without memory for it the sender is left out. -/
theorem register_sender_returns (id : SvcId) (client : Option SockaddrIn) :
    wp (register_sender E id client) (fun _ _ => True) (fun _ _ => False) w := by
  cases client with
  | none => exact trivial
  | some client =>
    simp only [register_sender, dgram_add_client, malloc, wp_bind, wp_get_svc, wp_ite, wp_pure, wp_syscall,
      wp_modify_svc, ite_self]

/-- A received packet on its way to the link: the sniffer, the registration of the
sender, the transmission. -/
theorem received_relayed (id : SvcId) (pkt : List UInt8) (client : Option SockaddrIn) :
    wp (do sniff_push E cfg pkt; register_sender E id client; spw_send_packet E pkt)
      (fun _ after => Relayed cfg accepted [.from_net pkt] w after) (fun halt _ => halt ≠ .hang) w := by
  simp only [wp_bind]
  refine wp_mono (sniff_push_conveys hE cfg accepted pkt) ?_ fun _ _ h => h.elim
  rintro _ sniffed ⟨hsniffed, hshown⟩
  obtain ⟨_, registered, hrun, _⟩ := ok_of_wp (@register_sender_returns _ E sniffed id client)
  have hconveys : Conveys cfg accepted [] sniffed registered :=
    (wp_ok hrun).mp ((within_register_sender conveys_listens E id client).wp sniffed)
  have hside : link_side registered = link_side sniffed :=
    (wp_ok hrun).mp ((within_register_sender network_link_side.listens E id client).wp sniffed)
  rw [wp_bind, wp_ok hrun]
  apply wp_mono_post (spw_send_packet_relayed cfg accepted pkt)
  rintro _ after ⟨hafter, htransmitted⟩
  refine ⟨(hsniffed.trans hconveys).trans hafter, ?_⟩
  exact (Transmitted.of_same (hside.trans hshown)).trans htransmitted

omit hE in
/-- A handler that receives a packet, if there is one, and sends it on. -/
theorem receive_relayed {α : Type} {receive : Prog σ (Option α)} {next : Option α → Prog σ Unit} {pkt : α → List UInt8}
    {got : Option (List UInt8)} (hgot : got = (receipt (receive w)).map pkt)
    (hconveys : Within (Conveys cfg accepted []) receive) (hside : Keeps link_side receive)
    (hnone : next none = pure ())
    (hnext : ∀ a mid, wp (next (some a)) (fun _ after => Relayed cfg accepted [.from_net (pkt a)] mid after)
      (fun halt _ => halt ≠ .hang) mid) :
    wp (receive >>= next) (fun _ after => Relayed cfg accepted (got.map .from_net).toList w after)
      (fun halt after => halt = .hang → Relayed cfg accepted (got.map .from_net).toList w after) w := by
  have hquiet := wp_relayed_quiet hconveys hside w
  rw [wp_bind, hgot]
  cases hrun : receive w with
  | error halt mid => exact (wp_error hrun).mpr fun _ => (wp_error hrun).mp hquiet
  | ok received mid =>
    have hmid : Relayed cfg accepted [] w mid := (wp_ok hrun).mp hquiet
    apply (wp_ok hrun).mpr
    cases received with
    | none =>
      rw [hnone]
      exact hmid
    | some a =>
      exact wp_mono (hnext a mid) (fun _ after hafter => hmid.trans hafter)
        fun halt _ hdefined hhang => absurd hhang hdefined

theorem handle_pkt_relayed (hmonitor : cfg.enable_monitor = false) (id : SvcId) (fd : Nat) :
    wp (handle_pkt E cfg id fd) (fun _ after => Relayed cfg accepted (event_traffic E cfg w (.net id fd)) w after)
      (fun halt after => halt = .hang → Relayed cfg accepted (event_traffic E cfg w (.net id fd)) w after) w := by
  cases id with
  | data =>
    apply receive_relayed cfg accepted rfl (within_net_recv conveys_listens E cfg .data fd)
      (within_net_recv network_link_side.listens E cfg .data fd) rfl
    rintro ⟨pkt, client⟩ mid
    simpa only [hmonitor, Bool.false_eq_true, ↓reduceIte] using received_relayed hE cfg accepted .data pkt client
  | gresb_tx =>
    apply receive_relayed cfg accepted Option.map_id_apply.symm
      (within_recv_gresb_packet conveys_listens.toReceives E .gresb_tx fd)
      (within_recv_gresb_packet network_link_side.toSockets.receives E .gresb_tx fd) rfl
    intro pkt mid
    simpa only [hmonitor, Bool.false_eq_true, ↓reduceIte, register_sender, pure_bind, id_eq]
      using received_relayed hE cfg accepted .gresb_tx pkt none
  | rmap => exact wp_mono (rmap_net_to_spw_relayed cfg accepted fd) (fun _ _ h => h) fun _ _ h _ => h
  | gresb_rx | sniff =>
    exact wp_mono (wp_relayed_quiet (within_gresb_rx_discard conveys_listens.toReceives E _ fd)
      (within_gresb_rx_discard network_link_side.toSockets.receives E _ fd) w) (fun _ _ h => h) fun _ _ h _ => h

/-- An RMAP packet. One whose reply message does not fit its buffer ends the run. -/
theorem rmap_reply_to_clients_relayed {pkt : List UInt8} (hlong : ¬ pkt.length ≤ cfg.skip_header_bytes)
    (hrmap : LooksRmap cfg pkt) :
    wp (rmap_reply_to_clients E cfg pkt) (fun _ after => Relayed cfg accepted (arrivals cfg pkt) w after)
      (fun halt _ => halt ≠ .hang) w := by
  obtain ⟨result, hresult⟩ := rmap_pkt_from_buffer_total .success (pkt.drop cfg.skip_header_bytes)
  rw [arrivals, if_neg hlong, if_pos hrmap]
  cases result with
  | none =>
    have hnone : rmap_pkt_from_buffer ⟨true, true, true⟩ (pkt.drop cfg.skip_header_bytes) = .ok none := hresult
    simp only [hresult, rmap_reply_to_clients, alloc_pkt, malloc, wp_bind, wp_syscall, wp_pure, hE.malloc, hnone,
      wp_lift_ok]
    exact ⟨conveys_env _, .of_same rfl⟩
  | some rmap_pkt =>
    have hdecoded : Decoded cfg pkt rmap_pkt := hresult
    by_cases hfits : ReplyFits rmap_pkt
    · simp only [hresult]
      apply rmap_reply_to_clients_broadcast hE.malloc hdecoded hfits
      intro s
      obtain ⟨_, after, hrun, hsends⟩ := ok_of_wp (broadcast_sends hE .rmap (replyContent rmap_pkt).encode _)
      refine (wp_ok hrun).mpr ⟨.of_bytes hsends.svc fun id fd hpeer => ?_, .of_same ?_⟩
      · have hpeer' : Peer id fd { w with env := s } := hpeer.same rfl
        have hbytes := ((wp_ok hrun).mp (broadcast_bytes hE hpeer' .rmap _)).of_env
        rw [List.flatMap_singleton]
        cases id <;> simpa [view] using hbytes
      · exact (wp_ok hrun).mp ((within_broadcast network_link_side.toSockets E .rmap _).wp _)
    · obtain ⟨after, hrun⟩ := rmap_reply_to_clients_overrun hE.malloc hdecoded hfits w
      exact (wp_error hrun).mpr Halt.noConfusion

theorem net_pkt_sink_relayed (pkt : List UInt8) :
    wp (net_pkt_sink E cfg pkt) (fun _ after => Relayed cfg accepted (arrivals cfg pkt) w after)
      (fun halt _ => halt ≠ .hang) w := by
  by_cases hlong : pkt.length ≤ cfg.skip_header_bytes
  · rw [net_pkt_sink, if_pos hlong, arrivals, if_pos hlong]
    exact .refl cfg accepted w
  · by_cases hrmap : LooksRmap cfg pkt
    · rw [net_pkt_sink_rmap E hlong hrmap]
      exact rmap_reply_to_clients_relayed hE cfg accepted hlong hrmap
    · rw [arrivals, if_neg hlong, if_neg hrmap]
      apply wp_net_pkt_sink_forward (Nat.lt_of_not_le hlong) hrmap
      intro s t _
      refine wp_mono (net_forward_to_clients_relayed hE cfg accepted _) ?_ fun _ _ h => h.elim
      intro _ after hafter
      have hfirst : Relayed cfg accepted [] w { w with env := s, pus_seq_rx := t } :=
        ⟨.of_bytes rfl fun _ _ _ => ⟨rfl, (List.append_nil _).symm⟩, .of_same rfl⟩
      exact hfirst.trans hafter

/-- The step lemma. -/
theorem stepEvent_relayed (hmonitor : cfg.enable_monitor = false) {event : BridgeEvent}
    (haccepts : ∀ id fd, event = .accept id fd → accepted fd) {after : World σ}
    (hstep : stepEvent E cfg w event = (after, true)) :
    Relayed cfg accepted (event_traffic E cfg w event) w after := by
  have hwp : wp (handle_event E cfg event)
      (fun _ after => true = true → Relayed cfg accepted (event_traffic E cfg w event) w after)
      (fun halt after => decide (halt = .hang) = true → Relayed cfg accepted (event_traffic E cfg w event) w after)
      w := by
    cases event with
    | spw chan pkt =>
      have htraffic : event_traffic E cfg w (.spw chan pkt) = arrivals cfg pkt.val := List.append_nil _
      rw [handle_event, pkt_sink, if_neg (by simp [hmonitor]), htraffic]
      apply wp_mono (net_pkt_sink_relayed hE cfg accepted pkt.val)
      · exact fun _ after hafter _ => hafter
      · exact fun halt _ hdefined hhang => absurd (of_decide_eq_true hhang) hdefined
    | net id fd =>
      apply wp_mono (handle_pkt_relayed hE cfg accepted hmonitor id fd)
      · exact fun _ after hafter _ => hafter
      · exact fun halt after hafter hhang => hafter (of_decide_eq_true hhang)
    | accept id fd => exact fun _ => ⟨conveys_accept id (haccepts id fd rfl), .of_same rfl⟩
  have hpost :=
    stepEvent_of_wp (fun after up => up = true → Relayed cfg accepted (event_traffic E cfg w event) w after) hwp
  rw [hstep] at hpost
  exact hpost rfl

/-- The run lemma, by induction over the events. -/
theorem runEvents_relayed (hmonitor : cfg.enable_monitor = false) {events : List BridgeEvent}
    (haccepts : ∀ id fd, .accept id fd ∈ events → accepted fd) {after : World σ}
    (hrun : runEvents E cfg w events = (after, true)) :
    Relayed cfg accepted (run_traffic E cfg w events) w after := by
  induction events generalizing w with
  | nil =>
    obtain ⟨rfl, -⟩ := Prod.mk.inj hrun
    exact .refl cfg accepted w
  | cons event events ih =>
    rw [runEvents_cons] at hrun
    rcases hstep : stepEvent E cfg w event with ⟨mid, up⟩
    rw [hstep] at hrun
    cases up with
    | false => exact absurd (congrArg Prod.snd hrun) Bool.false_ne_true
    | true =>
      have hfirst : Relayed cfg accepted (event_traffic E cfg w event) w mid := by
        apply stepEvent_relayed hE cfg accepted hmonitor _ hstep
        rintro id fd rfl
        exact haccepts id fd (.head _)
      rw [run_traffic, hstep]
      exact hfirst.trans (ih (fun id fd haccept => haccepts id fd (.tail _ haccept)) hrun)

end handlers

/-- The bridge is a switch. In a run in which nothing that is sent fails, with the
traffic that its events make: what the link brings in is the packets of the run, in
their order, each as it is routed; the packets that go out on the link are those that
the receive calls of the data service and of the GRESB transmit port return, each once
and in their order (the commands of the pseudo-RMAP service, which go out too, are
none of them); and each client that stays connected gets, byte for byte and in the order
of the events, what its service shows of all of it. -/
theorem bridge_switches {E : Env σ} (hE : Succeeds E) {cfg : BridgeCfg} (hmonitor : cfg.enable_monitor = false)
    {w after : World σ} {events : List BridgeEvent} (hrun : runEvents E cfg w events = (after, true)) :
    (run_traffic E cfg w events).filter Traffic.arriving = events.flatMap (event_arrivals cfg) ∧
      (run_traffic E cfg w events).filterMap Traffic.transmitted = run_taken E cfg w events ∧
      sent_packets after.spw_log =
        sent_packets w.spw_log ++ (run_taken E cfg w events).map (fun pkt => (false, pkt)) ∧
      ∀ id fd, Peer id fd w → fd ∈ (after.svc id).conn_set → (∀ other, .accept other fd ∉ events) →
        sent_to fd after.net_log = sent_to fd w.net_log ++
          (run_traffic E cfg w events).flatMap (view cfg (fun id => (w.svc id).sock_fd) id) := by
  have hrelayed : Relayed cfg (fun fd => ∃ id, .accept id fd ∈ events) (run_traffic E cfg w events) w after :=
    runEvents_relayed hE cfg _ hmonitor (fun id fd haccept => ⟨id, haccept⟩) hrun
  have htransmitted := run_traffic_transmitted E cfg w events
  refine ⟨run_traffic_arriving E cfg w events, htransmitted, ?_, fun id fd hpeer hmem hnew => ?_⟩
  · rw [← htransmitted]
    exact hrelayed.transmitted
  · exact hrelayed.conveys.sent id fd (not_exists.mpr hnew) hpeer hmem

/-- A client that always has one more byte to send. -/
def chattyEnv : Env Unit :=
  { Env.quiet with fionread := fun _ _ => (some 1, ()), recv := fun _ _ n _ => (.bytes (List.replicate n 7), ()) }

/-- A raw server with one data client on descriptor 4 and a sniffer on 6. -/
def sniffedWorld : World Unit :=
  { World.fresh () with
    svc := fun
      | .data => ⟨3, {4}, 5, [], 0⟩
      | .sniff => ⟨5, {6}, 7, [], 0⟩
      | _ => ⟨0, ∅, 0, [], 0⟩
    spw := some ⟨[], fun _ => 1⟩ }

theorem chattyEnv_succeeds : Succeeds chattyEnv where
  malloc _ := rfl
  send_all := send_all_takes_all (fun _ _ _ => rfl) fun _ => rfl

theorem switchedPacket_fits : [1, 2].length < 2 ^ 32 := by decide

def switchedEvents : List BridgeEvent := [.spw false ⟨[1, 2], switchedPacket_fits⟩, .net .data 4]

/-- A packet comes in from the link, then one from the client; the sniffer sees both. -/
theorem bridge_switches_sniffed :
    ∃ after : World Unit, runEvents chattyEnv (bridge_cfg_init []) sniffedWorld switchedEvents = (after, true) ∧
      run_traffic chattyEnv (bridge_cfg_init []) sniffedWorld switchedEvents = [.to_net [1, 2], .from_net [7]] ∧
      sent_packets after.spw_log = [(false, [7])] ∧ sent_to 6 after.net_log = [1, 2, 7] := by
  have hup : (runEvents chattyEnv (bridge_cfg_init []) sniffedWorld switchedEvents).2 = true := by rfl
  obtain ⟨-, -, hpackets, hviews⟩ := bridge_switches chattyEnv_succeeds rfl (Prod.ext rfl hup)
  have hpeer : Peer .sniff 6 sniffedWorld := by
    refine ⟨by decide, fun other hother => ?_⟩
    cases other with
    | sniff => exact absurd rfl hother
    | data | rmap | gresb_tx | gresb_rx => decide
  have hnew : ∀ other, BridgeEvent.accept other 6 ∉ switchedEvents := fun other => by simp [switchedEvents]
  exact ⟨_, Prod.ext rfl hup, rfl, hpackets, hviews .sniff 6 hpeer (by decide) hnew⟩

end spw_bridge.net
