import SpwBridge.Bridge

open effect spw_bridge.net

namespace spw_bridge

variable {σ : Type}

/-- The packets on the wire of a channel. -/
def transmitted (chan : Chan) (calls : List SpwCall) : List (List UInt8) :=
  calls.filterMap fun
    | .submit chan' wire | .transmit chan' wire => if chan' = chan then some wire else none
    | _ => none

/-- The packets received on a channel. -/
def received (chan : Chan) (events : List BridgeEvent) : List (List UInt8) :=
  events.filterMap fun
    | .spw chan' pkt => if chan' = chan then some pkt.val else none
    | _ => none

@[simp] theorem received_append (chan : Chan) (events events' : List BridgeEvent) :
    received chan (events ++ events') = received chan events ++ received chan events' :=
  List.filterMap_append

/-- The part of the world that concerns the SpW side. -/
def spwSide (w : World σ) : Option SpwState × List SpwCall := (w.spw, w.spw_log)

theorem network_spwSide : Network (Same (spwSide (σ := σ))) where
  env _ _ := rfl
  net_log _ _ := rfl
  fd_clr _ _ _ := rfl
  pus_seq_tx _ _ := rfl
  pus_seq_rx _ _ := rfl
  clients _ _ _ _ := rfl

/-! ### Handlers that respect the mode -/

theorem net_to_spw_keeps (E : Env σ) {cfg : BridgeCfg} (hmonitor : cfg.enable_monitor = true) (id : SvcId)
    (sockfd : Nat) : Keeps spwSide (net_to_spw E cfg id sockfd) := by
  have hnet := network_spwSide (σ := σ)
  apply within_bind (within_net_recv hnet.listens E cfg id sockfd)
  intro received
  match received with
  | none => exact within_pure _
  | some (pkt, client) =>
    apply within_bind (within_sniff_push hnet.toSockets E cfg pkt)
    intro _
    apply within_bind (within_register_sender hnet.listens E id client)
    intro _
    exact within_ite (fun _ => within_pure _) fun h => absurd hmonitor h

theorem gresb_tx_to_spw_keeps (E : Env σ) {cfg : BridgeCfg} (hmonitor : cfg.enable_monitor = true)
    (sockfd : Nat) : Keeps spwSide (gresb_tx_to_spw E cfg sockfd) := by
  have hS := (network_spwSide (σ := σ)).toSockets
  apply within_bind (within_recv_gresb_packet hS.receives E .gresb_tx sockfd)
  intro received
  cases received with
  | none => exact within_pure _
  | some pkt =>
    apply within_bind (within_sniff_push hS E cfg pkt)
    intro _
    exact within_ite (fun _ => within_pure _) fun h => absurd hmonitor h

/-! ### The handler that does not -/

/-- The request that a pseudo-RMAP command makes of the packet library. -/
def commandRequest (hdr rec : List UInt8) : RmapRequest :=
  if byteAt hdr 1 = 0 then
    .read (byteAt hdr 0) RMAP_DEFAULT_SRC RMAP_DEFAULT_KEY
      (words.be32 (byteAt hdr 2) (byteAt hdr 3) (byteAt hdr 4) (byteAt hdr 5)) 5
  else
    .write (byteAt hdr 0) RMAP_DEFAULT_SRC RMAP_DEFAULT_KEY
      (words.be32 (byteAt hdr 2) (byteAt hdr 3) (byteAt hdr 4) (byteAt hdr 5))
      ((rec.drop 10).take (rmap_cmd_size hdr)) (UInt32.ofNat ((rec.drop 10).take (rmap_cmd_size hdr)).length)

/-- A complete pseudo-RMAP command is waiting on the descriptor: ten header
bytes to look at, a size that is not refused, memory for it, all its bytes to
receive, and a packet that the library builds for it. -/
def CommandPending (E : Env σ) (sockfd : Nat) (w : World σ) : Prop :=
  ∃ hdr w₁ w₂ rec w₃ pkt, recv E sockfd 10 .MSG_PEEK w = .ok (.bytes hdr) w₁ ∧ hdr.length = 10 ∧
    rmap_cmd_size hdr ≤ MAX_SPW_PACKET_SIZE ∧ malloc E w₁ = .ok true w₂ ∧
    recv_exact E sockfd (rmap_cmd_size hdr + 10) w₂ = .ok (.bytes rec) w₃ ∧
    rec.length = rmap_cmd_size hdr + 10 ∧
    (E.RMAP_BuildCommandPacket w₃.env (commandRequest hdr rec)).1 = some pkt

/-- What the SpW side sees of a stretch of a run that changes nothing of the
device state: the packets it adds to each channel. -/
def Transmits (wires : Chan → List (List UInt8)) (w after : World σ) : Prop :=
  after.spw = w.spw ∧ ∀ chan, transmitted chan after.spw_log = transmitted chan w.spw_log ++ wires chan

theorem transmits_none {w after : World σ} (hsame : spwSide after = spwSide w) :
    Transmits (fun _ => []) w after := by
  obtain ⟨hspw, hlog⟩ := Prod.mk.inj hsame
  exact ⟨hspw, fun chan => by rw [hlog, List.append_nil]⟩

theorem Transmits.trans_none {wires : Chan → List (List UInt8)} {w mid after : World σ}
    (hfirst : spwSide mid = spwSide w) (hrest : Transmits wires mid after) : Transmits wires w after := by
  obtain ⟨hspw, hlog⟩ := Prod.mk.inj hfirst
  exact ⟨hrest.1.trans hspw, fun chan => by rw [hrest.2 chan, hlog]⟩

theorem wp_keeps {α : Type} {x : Prog σ α} (hx : Keeps spwSide x) (w : World σ) :
    wp x (fun _ after => Transmits (fun _ => []) w after) (fun _ after => Transmits (fun _ => []) w after) w :=
  wp_mono (hx.wp w) (fun _ _ => transmits_none) fun _ _ => transmits_none

/-- The packets that the first channel gets for a request. -/
def builtWires (pkt : Option (List UInt8)) (chan : Chan) : List (List UInt8) :=
  match pkt with
  | none => []
  | some pkt => if false = chan then [pkt.take (pkt.length % 2 ^ 32)] else []

theorem rmap_issue_transmits (E : Env σ) (hdr rec : List UInt8) {w : World σ} {st : SpwState}
    (hst : w.spw = some st) :
    wp (rmap_issue E hdr rec)
      (fun _ after =>
        Transmits (builtWires (E.RMAP_BuildCommandPacket w.env (commandRequest hdr rec)).1) w after)
      (fun _ _ => False) w := by
  have hcmd : ∀ op addr data request, request = (if op ≠ 0 then
        RmapRequest.write (byteAt hdr 0) RMAP_DEFAULT_SRC RMAP_DEFAULT_KEY addr data (UInt32.ofNat data.length)
      else .read (byteAt hdr 0) RMAP_DEFAULT_SRC RMAP_DEFAULT_KEY addr 5) →
      wp (spw_rmap_cmd E (byteAt hdr 0) op addr data)
        (fun _ after => Transmits (builtWires (E.RMAP_BuildCommandPacket w.env request).1) w after)
        (fun _ _ => False) w := by
    rintro op addr data request rfl
    simp only [spw_rmap_cmd, wp_bind, wp_log_spw, wp_syscall]
    cases (E.RMAP_BuildCommandPacket w.env _).1 with
    | none => simp [Transmits, transmitted, builtWires]
    | some pkt =>
      simp only [wp_bind, wp_tx_address, hst, wp_log_spw, wp_syscall, wp_pure]
      refine ⟨hst.symm, fun chan => ?_⟩
      by_cases hchan : false = chan <;> simp [transmitted, builtWires, hchan]
  unfold rmap_issue
  by_cases hop : byteAt hdr 1 = 0
  · rw [if_pos hop]
    exact hcmd 0 _ [] _ (by simp [commandRequest, hop])
  · rw [if_neg hop]
    exact hcmd 1 _ _ _ (by simp [commandRequest, hop])

/-- A pending command is transmitted, in monitor mode as in any other. -/
theorem rmap_net_to_spw_pending {E : Env σ} {sockfd : Nat} {w : World σ} {st : SpwState} (hst : w.spw = some st)
    (hpending : CommandPending E sockfd w) :
    wp (rmap_net_to_spw E sockfd) (fun _ after => ∃ wire, Transmits (builtWires (some wire)) w after)
      (fun _ _ => False) w := by
  obtain ⟨hdr, w₁, w₂, rec, w₃, pkt, hpeek, hhdr, hsize, halloc, hexact, hrec, hbuilt⟩ := hpending
  have hS := (network_spwSide (σ := σ)).toSockets
  have hside : spwSide w₃ = spwSide w := by
    have h₁ : spwSide w₁ = spwSide w := (wp_ok hpeek).mp ((within_env hS _).wp w)
    have h₂ : spwSide w₂ = spwSide w₁ := (wp_ok halloc).mp ((within_env hS _).wp w₁)
    have h₃ : spwSide w₃ = spwSide w₂ := (wp_ok hexact).mp ((within_recv_exact_loop hS.receives E sockfd _ _ _).wp w₂)
    rw [h₃, h₂, h₁]
  have hst₃ : w₃.spw = some st := (Prod.mk.inj hside).1.trans hst
  simp only [rmap_net_to_spw, peek_header, recv_body, wp_bind, wp_ok hpeek, expect, hhdr, ↓reduceIte, wp_pure,
    if_neg (Nat.not_lt_of_le hsize), wp_ok halloc, wp_ok hexact, hrec]
  refine wp_mono_post (rmap_issue_transmits E hdr rec hst₃) fun _ after htransmits => ⟨pkt, ?_⟩
  rw [hbuilt] at htransmits
  exact htransmits.trans_none hside

/-- Without one the handler transmits nothing. -/
theorem rmap_net_to_spw_not_pending {E : Env σ} {sockfd : Nat} {w : World σ} {st : SpwState}
    (hst : w.spw = some st) (hpending : ¬ CommandPending E sockfd w) :
    wp (rmap_net_to_spw E sockfd) (fun _ after => Transmits (fun _ => []) w after)
      (fun _ after => Transmits (fun _ => []) w after) w := by
  have hS := (network_spwSide (σ := σ)).toSockets
  have hdrop := within_rmap_conn_drop (hS.receives.drops E .rmap) sockfd
  -- from any later state on the same side, the rest of the handler transmits nothing
  have hrest : ∀ {α : Type} {x : Prog σ α} {mid : World σ}, Keeps spwSide x → spwSide mid = spwSide w →
      wp x (fun _ after => Transmits (fun _ => []) w after) (fun _ after => Transmits (fun _ => []) w after) mid :=
    fun hx hmid => wp_mono (wp_keeps hx _) (fun _ _ h => h.trans_none hmid) fun _ _ h => h.trans_none hmid
  simp only [rmap_net_to_spw, peek_header, recv_body, wp_bind]
  refine wp_of_run (fun r w₁ hpeek => ?_) fun _ _ h => by cases h
  have h₁ : spwSide w₁ = spwSide w := (wp_ok hpeek).mp ((within_env hS _).wp w)
  refine wp_expect (fun hdr hr hhdr => ?_) fun _ => hrest hdrop h₁
  subst hr
  by_cases hsize : rmap_cmd_size hdr ≤ MAX_SPW_PACKET_SIZE
  · simp only [if_neg (Nat.not_lt_of_le hsize), wp_bind]
    refine wp_of_run (fun buf w₂ halloc => ?_) fun _ _ h => by cases h
    have h₂ : spwSide w₂ = spwSide w := ((wp_ok halloc).mp ((within_env hS _).wp w₁)).trans h₁
    cases buf with
    | false => exact hrest hdrop h₂
    | true =>
      simp only [↓reduceIte, wp_bind]
      have hexactKeeps :=
        within_recv_exact_loop hS.receives E sockfd (rmap_cmd_size hdr + 10) [] (rmap_cmd_size hdr + 10)
      refine wp_of_run (fun r w₃ hexact => ?_) fun halt w₃ hexact => ?_
      · have h₃ : spwSide w₃ = spwSide w := ((wp_ok hexact).mp (hexactKeeps.wp w₂)).trans h₂
        refine wp_expect (fun rec hr hrec => ?_) fun _ => hrest hdrop h₃
        subst hr
        have hst₃ : w₃.spw = some st := (Prod.mk.inj h₃).1.trans hst
        refine wp_mono (rmap_issue_transmits E hdr rec hst₃) (fun _ after htransmits => ?_) fun _ _ h => h.elim
        cases hbuilt : (E.RMAP_BuildCommandPacket w₃.env (commandRequest hdr rec)).1 with
        | none =>
          rw [hbuilt] at htransmits
          exact htransmits.trans_none h₃
        | some pkt =>
          exact absurd ⟨hdr, w₁, w₂, rec, w₃, pkt, hpeek, hhdr, hsize, halloc, hexact, hrec, hbuilt⟩ hpending
      · exact transmits_none (((wp_error hexact).mp (hexactKeeps.wp w₂)).trans h₂)
  · simpa only [if_pos (Nat.lt_of_not_le hsize)] using hrest hdrop h₁

/-! ### Runs in monitor mode -/

/-- A stretch of a run that is still going copied every packet received on the
other channel, in order; one that has ended copied the first of them. -/
def Passive (events : List BridgeEvent) (w : World σ) (outcome : World σ × Bool) : Prop :=
  ∀ chan, ∃ copies, transmitted chan outcome.1.spw_log = transmitted chan w.spw_log ++ copies ∧
    copies <+: received (!chan) events ∧ (outcome.2 = true → copies = received (!chan) events)

/-- With both channels open and no routing address, sending adds exactly the
packet to its channel, or the process exits. -/
theorem spw_send_packet_chan_transmits (E : Env σ) (chan : Chan) (pkt : SpwPacket) {w : World σ} {st : SpwState}
    (hst : w.spw = some st) (haddress : st.p_address = []) :
    wp (spw_send_packet_chan E chan pkt.val)
      (fun _ after => Transmits (fun chan' => if chan = chan' then [pkt.val] else []) w after)
      (fun halt after => halt = .exit ∧ (Transmits (fun _ => []) w after ∨
        Transmits (fun chan' => if chan = chan' then [pkt.val] else []) w after)) w := by
  have hwire : st.p_address ++ pkt.val.take (pkt.val.length % 2 ^ 32) = pkt.val := by
    rw [haddress, List.nil_append, Nat.mod_eq_of_lt pkt.property, List.take_length]
  simp only [spw_send_packet_chan, wp_bind, wp_log_spw, wp_tx_address, hst, wp_exit_unless, hwire]
  have hnone : ∀ env, Transmits (fun _ => []) w { w with
      env := env, spw := some st, spw_log := w.spw_log ++ [.send_packet chan pkt.val] } :=
    fun env => ⟨hst.symm, fun chan' => by simp [transmitted]⟩
  have hone : ∀ env, Transmits (fun chan' => if chan = chan' then [pkt.val] else []) w { w with
      env := env, spw := some st
      spw_log := w.spw_log ++ [.send_packet chan pkt.val] ++ [.submit chan pkt.val] } := by
    refine fun env => ⟨hst.symm, fun chan' => ?_⟩
    by_cases hchan : chan = chan' <;> simp [transmitted, hchan]
  split_ifs
  · exact hone _
  · exact ⟨trivial, Or.inr (hone _)⟩
  · exact ⟨trivial, Or.inl (hnone _)⟩
  · exact ⟨trivial, Or.inl (hnone _)⟩
  · exact ⟨trivial, Or.inl (hnone _)⟩

/-- Whether an event hands the RMAP service a complete command. -/
def CommandEvent (E : Env σ) (w : World σ) : BridgeEvent → Prop
  | .net .rmap sockfd => CommandPending E sockfd w
  | _ => False

theorem transmits_none_passive {events : List BridgeEvent} {w after : World σ} {alive : Bool}
    (hnone : ∀ chan, received chan events = []) (htransmits : Transmits (fun _ => []) w after) :
    Passive events w (after, alive) := fun chan =>
  ⟨[], htransmits.2 chan, by simp, fun _ => (hnone (!chan)).symm⟩

/-- Every event but a pending pseudo-RMAP command is passive and leaves the
device state alone. -/
theorem stepEvent_passive {E : Env σ} {cfg : BridgeCfg} (hmonitor : cfg.enable_monitor = true) {w : World σ}
    (hready : MonitorReady w) {event : BridgeEvent} (hevent : ¬ CommandEvent E w event) :
    Passive [event] w (stepEvent E cfg w event) ∧ (stepEvent E cfg w event).1.spw = w.spw := by
  obtain ⟨st, hst, haddress, hchans⟩ := hready
  have hnet := network_spwSide (σ := σ)
  -- a handler that keeps the SpW side, for an event without a received packet
  have hkeeps : (∀ chan, received chan [event] = []) → Keeps spwSide (handle_event E cfg event) →
      Passive [event] w (stepEvent E cfg w event) ∧ (stepEvent E cfg w event).1.spw = w.spw := by
    intro hnone hx
    exact stepEvent_of_wp (fun after alive => Passive [event] w (after, alive) ∧ after.spw = w.spw)
      (wp_mono (wp_keeps hx w) (fun _ _ h => ⟨transmits_none_passive hnone h, h.1⟩)
        fun _ _ h => ⟨transmits_none_passive hnone h, h.1⟩)
  cases event with
  | accept id fd => exact hkeeps (fun _ => rfl) (within_modify fun w => rfl)
  | net id sockfd =>
    cases id with
    | data => exact hkeeps (fun _ => rfl) (net_to_spw_keeps E hmonitor .data sockfd)
    | gresb_tx => exact hkeeps (fun _ => rfl) (gresb_tx_to_spw_keeps E hmonitor sockfd)
    | gresb_rx => exact hkeeps (fun _ => rfl) (within_gresb_rx_discard hnet.toSockets.receives E .gresb_rx sockfd)
    | sniff => exact hkeeps (fun _ => rfl) (within_gresb_rx_discard hnet.toSockets.receives E .sniff sockfd)
    | rmap =>
      refine stepEvent_of_wp (fun after alive => Passive _ w (after, alive) ∧ after.spw = w.spw) ?_
      exact wp_mono (rmap_net_to_spw_not_pending hst hevent)
        (fun _ _ h => ⟨transmits_none_passive (fun _ => rfl) h, h.1⟩)
        fun _ _ h => ⟨transmits_none_passive (fun _ => rfl) h, h.1⟩
  | spw chan pkt =>
    have hlink : spw_link_ready cfg w = true := by
      simp [spw_link_ready, hst, hmonitor, hchans]
    have hreceived : ∀ chan', received (!chan') [.spw chan pkt] = if (!chan) = chan' then [pkt.val] else [] := by
      intro chan'
      cases chan <;> cases chan' <;> rfl
    have hcopied : ∀ {after : World σ} {alive : Bool},
        Transmits (fun chan' => if (!chan) = chan' then [pkt.val] else []) w after →
        Passive [.spw chan pkt] w (after, alive) := fun h chan' =>
      ⟨_, h.2 chan', by rw [hreceived], fun _ => (hreceived chan').symm⟩
    refine stepEvent_of_wp (fun after alive => Passive _ w (after, alive) ∧ after.spw = w.spw) ?_
    simp only [handle_event, pkt_sink, hmonitor, ↓reduceIte, spw_pkt_sink_monitor, wp_bind, wp_get, hlink]
    refine wp_mono (spw_send_packet_chan_transmits E (!chan) pkt hst haddress) (fun _ mid hmid => ?_) ?_
    · have hforward := within_net_forward_to_clients hnet.toSockets E cfg pkt.val
      have hafter : ∀ after : World σ, spwSide after = spwSide mid →
          Transmits (fun chan' => if (!chan) = chan' then [pkt.val] else []) w after := by
        intro after hsame
        obtain ⟨hspw, hlog⟩ := Prod.mk.inj hsame
        exact ⟨hspw.trans hmid.1, fun chan' => by rw [hlog, hmid.2 chan']⟩
      exact wp_mono (hforward.wp mid) (fun _ after h => ⟨hcopied (hafter after h), (hafter after h).1⟩)
        fun _ after h => ⟨hcopied (hafter after h), (hafter after h).1⟩
    · rintro halt after ⟨rfl, hnone | hone⟩
      · refine ⟨fun chan' => ⟨[], hnone.2 chan', by simp, fun halive => ?_⟩, hnone.1⟩
        simp at halive
      · exact ⟨hcopied hone, hone.1⟩

/-- A pending command puts a packet on the first channel that nobody received. -/
theorem stepEvent_command {E : Env σ} {cfg : BridgeCfg} {w : World σ} (hready : MonitorReady w)
    {event : BridgeEvent} (hevent : CommandEvent E w event) :
    (stepEvent E cfg w event).2 = true ∧ received true [event] = [] ∧
      ∃ wire, transmitted false (stepEvent E cfg w event).1.spw_log = transmitted false w.spw_log ++ [wire] := by
  obtain ⟨st, hst, _, _⟩ := hready
  match event, hevent with
  | .net .rmap sockfd, hpending =>
    have hstep : (stepEvent E cfg w (.net .rmap sockfd)).2 = true ∧ ∃ wire,
        transmitted false (stepEvent E cfg w (.net .rmap sockfd)).1.spw_log =
          transmitted false w.spw_log ++ [wire] := stepEvent_of_wp
      (fun after alive => alive = true ∧
        ∃ wire, transmitted false after.spw_log = transmitted false w.spw_log ++ [wire])
      (wp_mono (rmap_net_to_spw_pending hst hpending)
        (fun _ after ⟨wire, htransmits⟩ => ⟨rfl, _, htransmits.2 false⟩) fun _ _ h => h.elim)
    exact ⟨hstep.1, rfl, hstep.2⟩

/-! ### Whole runs -/

/-- Passive stretches compose while the process is running. -/
theorem Passive.append {events events' : List BridgeEvent} {w mid : World σ} {outcome : World σ × Bool}
    (hfirst : Passive events w (mid, true)) (hrest : Passive events' mid outcome) :
    Passive (events ++ events') w outcome := by
  intro chan
  obtain ⟨copies, hcopies, _, hall⟩ := hfirst chan
  obtain ⟨copies', hcopies', hbegins', hall'⟩ := hrest chan
  have hdone : copies = received (!chan) events := hall rfl
  refine ⟨copies ++ copies', ?_, ?_, ?_⟩
  · rw [hcopies', hcopies, List.append_assoc]
  · rw [received_append, hdone]
    exact (List.prefix_append_right_inj _).mpr hbegins'
  · intro halive
    rw [received_append, hdone, hall' halive]

/-- The process stays passive through an ending: later events are not seen. -/
theorem Passive.ended {events : List BridgeEvent} (events' : List BridgeEvent) {w after : World σ}
    (hended : Passive events w (after, false)) : Passive (events ++ events') w (after, false) := by
  intro chan
  obtain ⟨copies, hcopies, hbegins, _⟩ := hended chan
  refine ⟨copies, hcopies, ?_, nofun⟩
  rw [received_append]
  exact hbegins.trans (List.prefix_append _ _)

/-- While no pseudo-RMAP command has been executed, the run is passive and the
device state is the one that was set up. -/
theorem runEvents_passive {E : Env σ} {cfg : BridgeCfg} (hmonitor : cfg.enable_monitor = true) {w : World σ}
    (hready : MonitorReady w) {events : List BridgeEvent}
    (hquiet : ∀ pre event, pre ++ [event] <+: events → (runEvents E cfg w pre).2 = true →
      ¬ CommandEvent E (runEvents E cfg w pre).1 event) :
    Passive events w (runEvents E cfg w events) ∧ (runEvents E cfg w events).1.spw = w.spw := by
  induction events using List.reverseRecOn with
  | nil =>
    refine ⟨fun chan => ⟨[], ?_, List.nil_prefix, fun _ => rfl⟩, rfl⟩
    rw [runEvents_nil, List.append_nil]
  | append_singleton events event ih =>
    obtain ⟨hpassive, hspw⟩ := ih fun pre other hpre =>
      hquiet pre other (hpre.trans (List.prefix_append _ _))
    rw [runEvents_concat]
    by_cases halive : (runEvents E cfg w events).2 = true
    · rw [if_pos halive]
      have hready' : MonitorReady (runEvents E cfg w events).1 := by
        unfold MonitorReady
        rwa [hspw]
      obtain ⟨hstep, hspw'⟩ := stepEvent_passive hmonitor hready' (hquiet events event List.prefix_rfl halive)
      refine ⟨Passive.append ?_ hstep, hspw'.trans hspw⟩
      rwa [← halive]
    · rw [if_neg halive]
      refine ⟨?_, hspw⟩
      have hended : runEvents E cfg w events = ((runEvents E cfg w events).1, false) :=
        Prod.ext rfl (by simpa using halive)
      rw [hended] at hpassive ⊢
      exact hpassive.ended [event]

/-- A passive run has executed no command: the packet of the first one was not
received on the other channel. -/
theorem no_command_of_passive {E : Env σ} {cfg : BridgeCfg} (hmonitor : cfg.enable_monitor = true) {w : World σ}
    (hready : MonitorReady w) {events : List BridgeEvent}
    (hpassive : ∀ pre, pre <+: events → Passive pre w (runEvents E cfg w pre)) :
    ∀ pre event, pre ++ [event] <+: events → (runEvents E cfg w pre).2 = true →
      ¬ CommandEvent E (runEvents E cfg w pre).1 event := by
  induction events using List.reverseRecOn with
  | nil =>
    intro pre event hpre
    simp at hpre
  | append_singleton events last ih =>
    have hearlier := ih fun pre hpre => hpassive pre (hpre.trans (List.prefix_append _ _))
    intro pre event hpre halive hcommand
    rcases List.prefix_concat_iff.mp hpre with heq | hinside
    · obtain ⟨rfl, rfl⟩ : pre = events ∧ event = last := by simpa using heq
      have hready' : MonitorReady (runEvents E cfg w pre).1 := by
        unfold MonitorReady
        rwa [(runEvents_passive hmonitor hready hearlier).2]
      obtain ⟨_, hnone, wire, hwire⟩ := stepEvent_command hready' hcommand
      obtain ⟨copies, hcopies, _, hall⟩ := hpassive pre (List.prefix_append _ _) false
      obtain ⟨copies', hcopies', hbegins', _⟩ := hpassive (pre ++ [event]) List.prefix_rfl false
      rw [runEvents_concat, if_pos halive, hwire, hcopies, List.append_assoc] at hcopies'
      have hmore : copies' = copies ++ [wire] := (List.append_cancel_left hcopies').symm
      have hlen := hbegins'.length_le
      rw [received_append, Bool.not_false, hnone, hmore, hall halive] at hlen
      simp at hlen
    · exact hearlier pre event hinside halive hcommand

/-- Monitor mode is passive throughout a run if and only if no pseudo-RMAP
command is ever complete when its service is polled: the RMAP handler is the
one that does not look at the mode. -/
theorem monitor_passive_iff {E : Env σ} {cfg : BridgeCfg} (hmonitor : cfg.enable_monitor = true) {w : World σ}
    (hready : MonitorReady w) (events : List BridgeEvent) :
    (∀ pre, pre <+: events → Passive pre w (runEvents E cfg w pre)) ↔
      ∀ pre event, pre ++ [event] <+: events → (runEvents E cfg w pre).2 = true →
        ¬ CommandEvent E (runEvents E cfg w pre).1 event :=
  ⟨no_command_of_passive hmonitor hready, fun hquiet _ hpre =>
    (runEvents_passive hmonitor hready fun pre' event hpre' => hquiet pre' event (hpre'.trans hpre)).1⟩

/-- A client of the RMAP service that has sent one read command, and the packet
that the library builds for it. -/
def readPeer : Env Unit :=
  { Env.quiet with
    recv := fun _ _ _ _ => (.bytes [0xfe, 0x00, 0x00, 0x00, 0x00, 0x10, 0x00, 0x00, 0x00, 0x00], ())
    RMAP_BuildCommandPacket := fun _ _ => (some
      [0xfe, 0x01, 0x4c, 0xab, 0x30, 0x00, 0x00, 0x00, 0x00, 0x00, 0x00, 0x10, 0x00, 0x00, 0x05, 0x8c], ()) }

/-- Monitor mode with the pseudo-RMAP service. -/
def monitorCfg : BridgeCfg :=
  { bridge_cfg_init [] with channel2 := 2, enable_monitor := true, enable_rmap := true }

/-- Both channels are open and a client is connected. -/
def monitorWorld : World Unit :=
  { World.fresh () with
    svc := fun id => if id = .rmap then accept_connections (bind_server_socket 3) 5 else bind_server_socket 0
    spw := some ⟨[], fun _ => 1⟩ }

theorem monitor_passive_iff_readPeer :
    (∀ pre, pre <+: [.net .rmap 5] → Passive pre monitorWorld (runEvents readPeer monitorCfg monitorWorld pre)) ↔
      ∀ pre event, pre ++ [event] <+: [.net .rmap 5] → (runEvents readPeer monitorCfg monitorWorld pre).2 = true →
        ¬ CommandEvent readPeer (runEvents readPeer monitorCfg monitorWorld pre).1 event :=
  monitor_passive_iff rfl ⟨_, rfl, rfl, fun _ => Nat.one_ne_zero⟩ [.net .rmap 5]

/-- The read command of that client goes out on the tapped link, on which
nothing was received. -/
theorem monitor_transmits_command :
    ¬ Passive [.net .rmap 5] monitorWorld (runEvents readPeer monitorCfg monitorWorld [.net .rmap 5]) := by
  intro hpassive
  obtain ⟨copies, hcopies, hbegins, _⟩ := hpassive false
  have htransmitted : transmitted false (runEvents readPeer monitorCfg monitorWorld [.net .rmap 5]).1.spw_log =
      [[0xfe, 0x01, 0x4c, 0xab, 0x30, 0x00, 0x00, 0x00, 0x00, 0x00, 0x00, 0x10, 0x00, 0x00, 0x05, 0x8c]] := by
    decide
  have hnone : copies = [] := List.prefix_nil.mp hbegins
  rw [htransmitted, hnone] at hcopies
  exact absurd hcopies (by decide)

end spw_bridge
