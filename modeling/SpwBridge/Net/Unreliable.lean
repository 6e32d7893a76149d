import SpwBridge.Net.Tunnel

open effect framing spw_bridge.rmap

namespace spw_bridge.net

variable {σ τ : Type}

/-- What the handlers of the services need of a relation, apart from the sniffer
and the sequence counters. -/
structure Serves (R : World σ → World σ → Prop) : Prop extends Receives R where
  spw_log : ∀ w call, R w { w with spw_log := w.spw_log ++ [call] }

section serves

variable {R : World σ → World σ → Prop} [IsPreorder (World σ) R] {E : Env σ} {cfg : BridgeCfg}

theorem within_sniff_push_of (hmalloc : ∀ w, R w { w with env := (E.malloc w.env).2 })
    (hbroadcast : ∀ msg, Within R (broadcast E .sniff msg)) (pkt : List UInt8) : Within R (sniff_push E cfg pkt) := by
  refine within_bind (within_get_svc .sniff) fun svc => ?_
  refine within_ite (fun _ => within_pure _) fun _ => ?_
  refine within_ite (fun _ => ?_) fun _ => hbroadcast pkt
  have hcall : Within R (malloc E) := hmalloc
  apply within_bind hcall
  intro alloc
  cases gresb_create_host_data_pkt alloc pkt with
  | none => exact within_pure _
  | some out => exact hbroadcast _

variable (hR : Serves R)

include hR

theorem within_spw_send_packet (pkt : List UInt8) : Within R (spw_send_packet E pkt) := by
  have hlog : ∀ call, Within R (log_spw call : Prog σ Unit) := fun call w => hR.spw_log w call
  have hexit : ∀ f, Within R (exit_unless f : Prog σ Unit) := fun f =>
    within_bind (within_call hR.toReceives f) fun _ => within_ite (fun _ => within_pure _) fun _ => within_throw _
  have haddress : Within R (tx_address : Prog σ (List UInt8)) := by
    refine within_bind within_get fun w => ?_
    cases w.spw with
    | none => exact within_throw _
    | some st => exact within_pure _
  apply within_bind (hlog _)
  intro _
  apply within_bind haddress
  intro _
  apply within_bind (hexit _)
  intro _
  apply within_bind (hexit _)
  intro _
  apply within_bind (hexit _)
  intro _
  exact within_bind (hlog _) fun _ => hexit _

variable (hsniff : ∀ pkt, Within R (sniff_push E cfg pkt))

include hsniff

/-- The handlers of the services beside the data service. -/
theorem within_side_service {id : SvcId} (hid : id ≠ .data) (fd : Nat) : Within R (handle_pkt E cfg id fd) := by
  cases id with
  | data => exact absurd rfl hid
  | gresb_tx =>
    apply within_bind (within_recv_gresb_packet hR.toReceives E .gresb_tx fd)
    intro received
    cases received with
    | none => exact within_pure _
    | some pkt =>
      apply within_bind (hsniff pkt)
      intro _
      exact within_ite (fun _ => within_pure _) fun _ => within_spw_send_packet hR pkt
  | rmap => exact within_rmap_net_to_spw hR.toReceives (fun w call _ => hR.spw_log w call) E fd
  | gresb_rx | sniff => exact within_gresb_rx_discard hR.toReceives E _ fd

/-- A handler is within a relation if what it pushes to the sniffer is. -/
theorem within_handle_pkt (hL : Listens R) (id : SvcId) (fd : Nat) : Within R (handle_pkt E cfg id fd) := by
  by_cases hid : id = .data
  · subst hid
    apply within_bind (within_net_recv hL E cfg .data fd)
    intro received
    match received with
    | none => exact within_pure _
    | some (pkt, client) =>
      apply within_bind (hsniff pkt)
      intro _
      apply within_bind (within_register_sender hL E .data client)
      intro _
      exact within_ite (fun _ => within_pure _) fun _ => within_spw_send_packet hR pkt
  · exact within_side_service hR hsniff hid fd

end serves

/-! ### What the near bridge sends -/

/-- No thread hangs in a send: it is not interrupted for ever. -/
def Patient (E : Env σ) : Prop := ∀ sockfd msg w after, send_all E sockfd msg w ≠ .error .hang after

/-- Memory does not run out. -/
def Allocates (E : Env σ) : Prop := ∀ s, (E.malloc s).1 = true

/-- A descriptor that no other service than the data service has, and that this one
reaches as long as it has it. -/
structure Line (fd : Nat) (w : World σ) : Prop where
  own : ∀ other, other ≠ .data → fd ∉ (w.svc other).conn_set
  below : fd ∈ (w.svc .data).conn_set → fd < (w.svc .data).nfds

theorem Peer.line {fd : Nat} {w : World σ} (hpeer : Peer .data fd w) : Line fd w :=
  ⟨hpeer.own, fun _ => (Finset.mem_filter.mp hpeer.watched).2⟩

/-- A stretch of a run that feeds a descriptor these messages: all of them while
it is connected, else a front of them. In a stretch that ends the process, a
connected one may have got less, too. -/
structure Feeds (up : Bool) (fd : Nat) (msgs : List (List UInt8)) (w after : World σ) : Prop where
  member : ∀ id, fd ∈ (after.svc id).conn_set → fd ∈ (w.svc id).conn_set
  nfds : (w.svc .data).nfds ≤ (after.svc .data).nfds
  sent : ∃ bytes, sent_to fd after.net_log = sent_to fd w.net_log ++ bytes ∧ bytes <+: msgs.flatten ∧
    (up = true → fd ∈ (after.svc .data).conn_set → bytes = msgs.flatten) ∧
    (fd ∉ (w.svc .data).conn_set → bytes = [])

section feeds

variable {up : Bool} {fd : Nat} {msgs msgs' : List (List UInt8)} {w mid after : World σ}

theorem Feeds.nothing (hmember : ∀ id, fd ∈ (after.svc id).conn_set → fd ∈ (w.svc id).conn_set)
    (hnfds : (w.svc .data).nfds ≤ (after.svc .data).nfds) (hsent : sent_to fd after.net_log = sent_to fd w.net_log) :
    Feeds up fd [] w after :=
  ⟨hmember, hnfds, [], by rw [hsent, List.append_nil], List.prefix_refl _, fun _ _ => rfl, fun _ => rfl⟩

theorem Feeds.refl (up : Bool) (fd : Nat) (w : World σ) : Feeds up fd [] w w := .nothing (fun _ h => h) le_rfl rfl

theorem Feeds.trans (hfirst : Feeds true fd msgs w mid) (hrest : Feeds up fd msgs' mid after) :
    Feeds up fd (msgs ++ msgs') w after where
  member id h := hfirst.member id (hrest.member id h)
  nfds := hfirst.nfds.trans hrest.nfds
  sent := by
    obtain ⟨bytes, hbytes, hbegins, hwhole, hgone⟩ := hfirst.sent
    obtain ⟨bytes', hbytes', hbegins', hwhole', hgone'⟩ := hrest.sent
    refine ⟨bytes ++ bytes', by rw [hbytes', hbytes, List.append_assoc], ?_, ?_, ?_⟩
    · rw [List.flatten_append]
      by_cases hmid : fd ∈ (mid.svc .data).conn_set
      · rw [hwhole rfl hmid]
        exact (List.prefix_append_right_inj _).mpr hbegins'
      · rw [hgone' hmid, List.append_nil]
        exact hbegins.trans (List.prefix_append _ _)
    · intro hup hafter
      rw [hwhole rfl (hrest.member .data hafter), hwhole' hup hafter, List.flatten_append]
    · intro hout
      rw [hgone hout, hgone' fun hmid => hout (hfirst.member .data hmid)]
      rfl

/-- If the process ends, it does not matter what else there was to send. -/
theorem Feeds.ended (hfeeds : Feeds up fd msgs w after) (more : List (List UInt8)) :
    Feeds false fd (msgs ++ more) w after where
  member := hfeeds.member
  nfds := hfeeds.nfds
  sent := by
    obtain ⟨bytes, hbytes, hbegins, -, hgone⟩ := hfeeds.sent
    refine ⟨bytes, hbytes, ?_, nofun, hgone⟩
    rw [List.flatten_append]
    exact hbegins.trans (List.prefix_append _ _)

theorem Feeds.line (hfeeds : Feeds up fd msgs w after) (hline : Line fd w) : Line fd after where
  own other hother h := hline.own other hother (hfeeds.member other h)
  below h := Nat.lt_of_lt_of_le (hline.below (hfeeds.member .data h)) hfeeds.nfds

theorem Apart.feeds (hapart : Apart fd w after) : Feeds up fd [] w after :=
  .nothing (fun id => (hapart.member id).mp) (hapart.nfds .data).ge hapart.sent

theorem Handed.feeds {msg : List UInt8} (hhanded : Handed .data fd msg w after) (hmem : fd ∈ (w.svc .data).conn_set) :
    Feeds up fd [msg] w after := by
  cases hhanded with
  | whole hsent hmember hnfds =>
    refine ⟨fun id => (hmember id).mp, (hnfds .data).ge, msg, hsent, ?_, fun _ _ => ?_, fun h => absurd hmem h⟩
    all_goals rw [List.flatten_singleton]
  | cut part hsent hbegins hpart hgone hmember hnfds =>
    refine ⟨fun id h => ?_, (hnfds .data).ge, part, hsent, ?_, fun _ h => absurd h hgone, fun h => absurd hmem h⟩
    · by_cases hid : id = .data
      · exact hid ▸ hmem
      · exact (hmember id hid).mp h
    · rwa [List.flatten_singleton]

/-- A stretch that sends a line nothing. -/
def Idle (fd : Nat) (w after : World σ) : Prop := Line fd w → Feeds true fd [] w after

instance : IsPreorder (World σ) (Idle fd) where
  refl w _ := .refl true fd w
  trans _ _ _ h h' hline := (h hline).trans (h' ((h hline).line hline))

theorem Idle.apart (hapart : Apart fd w after) : Idle fd w after := fun _ => hapart.feeds

theorem listens_idle (fd : Nat) : Listens (Idle fd : World σ → World σ → Prop) where
  env _ _ := .apart ⟨rfl, fun _ => Iff.rfl, fun _ => rfl⟩
  closed w sockfd := by
    refine .apart ⟨?_, fun _ => Iff.rfl, fun _ => rfl⟩
    rw [sent_to_append]
    simp [sent_to]
  fd_clr w id sockfd := by
    intro _
    refine .nothing (fun other h => ?_) ?_ rfl
    · by_cases hid : other = id
      · subst hid
        simp_all [net.fd_clr]
      · simpa [hid] using h
    · by_cases hid : SvcId.data = id
      · subst hid
        simp [net.fd_clr]
      · simp [hid]
  pus_seq_tx _ _ := .apart ⟨rfl, fun _ => Iff.rfl, fun _ => rfl⟩
  clients w id clients cap := by
    refine .apart ⟨rfl, fun other => ?_, fun other => ?_⟩
    all_goals
      by_cases hid : other = id
      · subst hid
        simp
      · simp [hid]

theorem serves_idle (fd : Nat) : Serves (Idle fd : World σ → World σ → Prop) :=
  ⟨(listens_idle fd).toReceives, fun _ _ => .apart ⟨rfl, fun _ => Iff.rfl, fun _ => rfl⟩⟩

theorem idle_accept (id : SvcId) {sockfd : Nat} (hne : fd ≠ sockfd) :
    Idle fd w { w with svc := Function.update w.svc id (accept_connections (w.svc id) sockfd) } :=
  fun _ => .nothing (fun _ => (accept_member hne).mp) (accept_nfds id sockfd) rfl

end feeds

section near

variable {E : Env σ}

/-- Creating a GRESB packet and going on with it, if there is memory for it. -/
theorem wp_gresb_try {buf : List UInt8} {next : List UInt8 → Prog σ Unit} {post : Unit → World σ → Prop}
    {fails : Halt → World σ → Prop} {w : World σ} (hnone : ∀ s, ¬ Allocates E → post () { w with env := s })
    (hnext : ∀ s, wp (next (gresb_host_hdr buf.length ++ buf)) post fails { w with env := s }) :
    wp (do
      let alloc ← malloc E
      match gresb_create_host_data_pkt alloc buf with
      | none => pure ()
      | some pkt => next pkt) post fails w := by
  simp only [malloc, wp_bind, wp_syscall, gresb_create_host_data_pkt_eq]
  cases halloc : (E.malloc w.env).1 with
  | false =>
    apply hnone
    intro hallocates
    rw [hallocates w.env] at halloc
    cases halloc
  | true => exact hnext _

variable (hE : Patient E) {cfg : BridgeCfg} {fd : Nat} {w : World σ}

include hE

theorem broadcast_no_hang (id : SvcId) (msg : List UInt8) :
    wp (broadcast E id msg) (fun _ _ => True) (fun halt _ => halt ≠ .hang) w := by
  apply wp_broadcast _ trivial
  intro fd s _ _
  have hsend : ∀ w, wp (send_all E fd msg) (fun _ _ => True) (fun halt _ => halt ≠ .hang) w := by
    intro w
    cases hresult : send_all E fd msg w with
    | ok ok sent => exact (wp_ok hresult).mpr trivial
    | error halt sent =>
      refine (wp_error hresult).mpr ?_
      rintro rfl
      exact hE fd msg w sent hresult
  apply wp_mono_post (hsend s)
  intro ok sent _
  cases ok with
  | true => exact trivial
  | false =>
    simp only [Bool.false_eq_true, ↓reduceIte, wp_drop_locked]
    split
    · exact Halt.noConfusion
    · exact trivial

/-- A broadcast of another service. -/
theorem broadcast_idle (hline : Line fd w) {id : SvcId} (hid : id ≠ .data) (msg : List UInt8) :
    wp (broadcast E id msg) (fun _ after => Feeds true fd [] w after)
      (fun halt after => halt ≠ .hang ∧ Feeds true fd [] w after) w :=
  wp_mono (wp_and (broadcast_no_hang hE id msg) (broadcast_apart (.inr (hline.own id hid))))
    (fun _ _ h => h.2.feeds) fun _ _ h => ⟨h.1, (h.2 h.1).feeds⟩

theorem broadcast_feeds (hline : Line fd w) (msg : List UInt8) :
    wp (broadcast E .data msg) (fun _ after => Feeds true fd [msg] w after)
      (fun halt after => halt ≠ .hang ∧ Feeds false fd [msg] w after) w := by
  by_cases hmem : fd ∈ (w.svc .data).conn_set
  · apply wp_mono (wp_and (broadcast_no_hang hE .data msg) (broadcast_handed (hline.below hmem) hmem))
    · exact fun _ _ h => h.2.feeds hmem
    · rintro halt after ⟨hhang, hhanded⟩
      refine ⟨hhang, ?_⟩
      cases hhanded hhang with
      | inl hapart => exact Feeds.ended (hapart.feeds : Feeds true fd [] w after) [msg]
      | inr hhanded => exact hhanded.feeds hmem
  · -- nobody is there any more to get it
    have hout : ∀ up after, Apart fd w after → Feeds up fd [msg] w after := by
      intro up after hapart
      refine ⟨fun id => (hapart.member id).mp, (hapart.nfds .data).ge, [], ?_, List.nil_prefix, fun _ h => ?_, ?_⟩
      · rw [hapart.sent, List.append_nil]
      · exact absurd ((hapart.member .data).mp h) hmem
      · exact fun _ => rfl
    apply wp_mono (wp_and (broadcast_no_hang hE .data msg) (broadcast_apart (.inr hmem)))
    · exact fun _ after h => hout true after h.2
    · exact fun _ after h => ⟨h.1, hout false after (h.2 h.1)⟩

theorem sniff_push_idle (hline : Line fd w) (pkt : List UInt8) :
    wp (sniff_push E cfg pkt) (fun _ after => Feeds true fd [] w after)
      (fun halt after => halt ≠ .hang ∧ Feeds true fd [] w after) w := by
  simp only [sniff_push, wp_bind, wp_get_svc, wp_ite, wp_pure]
  have hcall : ∀ s, Feeds true fd [] w { w with env := s } := fun _ => .nothing (fun _ h => h) le_rfl rfl
  split
  · exact .refl true fd w
  · split
    · refine wp_gresb_try (fun s _ => hcall s) fun s => ?_
      have hidle := @broadcast_idle _ _ hE _ _ ((hcall s).line hline) .sniff SvcId.noConfusion
      exact wp_mono (hidle _) (fun _ _ h => (hcall s).trans h) fun _ _ h => ⟨h.1, (hcall s).trans h.2⟩
    · exact @broadcast_idle _ _ hE _ _ hline .sniff SvcId.noConfusion pkt

theorem gresb_push_idle (hline : Line fd w) (pkt : List UInt8) :
    wp (gresb_push_rx_clients E cfg pkt) (fun _ after => Feeds true fd [] w after)
      (fun halt after => halt ≠ .hang ∧ Feeds true fd [] w after) w := by
  simp only [gresb_push_rx_clients, wp_bind, wp_get_svc, wp_ite, wp_pure]
  have hcall : ∀ s, Feeds true fd [] w { w with env := s } := fun _ => .nothing (fun _ h => h) le_rfl rfl
  split
  · exact .refl true fd w
  · refine wp_gresb_try (fun s _ => hcall s) fun s => ?_
    have hidle := @broadcast_idle _ _ hE _ _ ((hcall s).line hline) .gresb_rx SvcId.noConfusion
    exact wp_mono (hidle _) (fun _ _ h => (hcall s).trans h) fun _ _ h => ⟨h.1, (hcall s).trans h.2⟩

theorem within_sniff_push_idle (pkt : List UInt8) : Within (Idle fd) (sniff_push E cfg pkt) := by
  intro w hline
  apply wp_final.mp
  exact wp_mono (sniff_push_idle hE hline pkt) (fun _ _ h => h) fun _ _ h => h.2

/-- A stretch that feeds a descriptor what there is to send, apart from the messages for which there was no memory. -/
def Fed (E : Env σ) (up : Bool) (fd : Nat) (msgs : List (List UInt8)) (w after : World σ) : Prop :=
  ∃ sent, sent.Sublist msgs ∧ (Allocates E → sent = msgs) ∧ Feeds up fd sent w after

theorem net_forward_to_clients_fed (hmode : cfg.mode ≠ .MODE_DGRAM) (hline : Line fd w) (pkt : List UInt8) :
    wp (net_forward_to_clients E cfg pkt) (fun _ after => Fed E true fd [framed cfg.enable_gresb pkt] w after)
      (fun halt after => halt ≠ .hang ∧ Fed E false fd [framed cfg.enable_gresb pkt] w after) w := by
  have hended : ∀ after, Feeds true fd [] w after → Fed E false fd [framed cfg.enable_gresb pkt] w after :=
    fun after h => ⟨_, .refl _, fun _ => rfl, h.ended [framed cfg.enable_gresb pkt]⟩
  simp only [net_forward_to_clients, wp_bind, hmode, ↓reduceIte]
  refine wp_mono (sniff_push_idle hE hline pkt) ?_ fun _ after h => ⟨h.1, hended after h.2⟩
  intro _ mid hmid
  have hline' := hmid.line hline
  cases hgresb : cfg.enable_gresb with
  | false =>
    simp only [Bool.false_eq_true, ↓reduceIte, framed]
    apply wp_mono (broadcast_feeds hE hline' pkt)
    · exact fun _ after h => ⟨[pkt], .refl _, fun _ => rfl, hmid.trans h⟩
    · exact fun _ after h => ⟨h.1, [pkt], .refl _, fun _ => rfl, hmid.trans h.2⟩
  | true =>
    simp only [↓reduceIte, framed]
    have hcall : ∀ s, Feeds true fd [] mid { mid with env := s } := fun _ => .nothing (fun _ h => h) le_rfl rfl
    refine wp_gresb_try (fun s hnone => ?_) fun s => ?_
    · exact ⟨[], List.nil_sublist _, fun hallocates => absurd hallocates hnone, hmid.trans (hcall s)⟩
    · have hline'' := (hcall s).line hline'
      rw [wp_bind]
      apply wp_mono (broadcast_feeds hE hline'' _)
      · intro _ sent hsent
        have hall := hmid.trans ((hcall s).trans hsent)
        apply wp_mono (gresb_push_idle hE (hsent.line hline'') pkt)
        · exact fun _ after h => ⟨_, .refl _, fun _ => rfl, hall.trans h⟩
        · exact fun _ after h => ⟨h.1, _, .refl _, fun _ => rfl, (hall.trans h.2).ended []⟩
      · exact fun _ after h => ⟨h.1, _, .refl _, fun _ => rfl, hmid.trans ((hcall s).trans h.2)⟩

theorem within_rmap_reply_idle (buf : List UInt8) : Within (Idle fd) (rmap_reply_to_clients E cfg buf) := by
  have hcall : ∀ {α : Type} (f : σ → α × σ), Within (Idle fd) (syscall f) := fun f =>
    within_call (listens_idle fd).toReceives f
  have halloc : Within (Idle fd) (alloc_pkt E) :=
    within_bind (hcall _) fun _ => within_bind (hcall _) fun _ => within_bind (hcall _) fun _ => within_pure _
  have hbroadcast : ∀ msg, Within (Idle fd) (broadcast E .rmap msg) := by
    intro msg w hline
    apply wp_final.mp
    exact wp_mono (@broadcast_idle _ _ hE _ _ hline .rmap nofun msg) (fun _ _ h => h) fun _ _ h => h.2
  apply within_bind halloc
  intro alloc
  refine within_bind (within_lift _) fun pkt => ?_
  cases pkt with
  | none => exact within_pure _
  | some pkt =>
    apply within_bind (hcall _)
    intro tmp
    exact within_ite (fun _ => within_bind (within_lift _) fun msg => hbroadcast msg) fun _ => within_pure _

end near

/-- The packet that is forwarded to the clients of the data service for an event. -/
def forwarded (cfg : BridgeCfg) : BridgeEvent → Option (List UInt8)
  | .spw _ pkt =>
    if pkt.val.length ≤ cfg.skip_header_bytes ∨ LooksRmap cfg pkt.val then none
    else some (pkt.val.drop cfg.skip_header_bytes)
  | .net _ _ | .accept _ _ => none

/-- The messages of the data service for a sequence of events. -/
def messages_of (cfg : BridgeCfg) (events : List BridgeEvent) : List (List UInt8) :=
  (events.filterMap (forwarded cfg)).map (framed cfg.enable_gresb)

theorem messages_of_cons (cfg : BridgeCfg) (event : BridgeEvent) (events : List BridgeEvent) :
    messages_of cfg (event :: events) = messages_of cfg [event] ++ messages_of cfg events := by
  rw [messages_of, messages_of, messages_of, ← List.map_append, ← List.filterMap_append, List.singleton_append]

section runs

variable {E : Env σ} (hE : Patient E) {cfg : BridgeCfg} {fd : Nat} {w after : World σ} {up : Bool}

include hE

omit hE in
/-- An event that sends the line nothing. -/
theorem fed_of_idle {event : BridgeEvent} (hidle : Within (Idle fd) (handle_event E cfg event))
    (hnone : forwarded cfg event = none) (hline : Line fd w) (hstep : stepEvent E cfg w event = (after, up)) :
    Fed E up fd (messages_of cfg [event]) w after := by
  have hmessages : messages_of cfg [event] = [] := by simp [messages_of, hnone]
  have hpost := stepEvent_of_wp (fun after _ => Feeds true fd [] w after) (wp_final.mpr (hidle w hline))
  rw [hstep] at hpost
  rw [hmessages]
  refine ⟨[], .refl _, fun _ => rfl, ?_⟩
  cases up with
  | true => exact hpost
  | false => exact hpost.ended []

/-- The step lemma. -/
theorem stepEvent_fed (hmonitor : cfg.enable_monitor = false) (hmode : cfg.mode ≠ .MODE_DGRAM) (hline : Line fd w)
    {event : BridgeEvent} (hnew : ∀ id, event ≠ .accept id fd) (hstep : stepEvent E cfg w event = (after, up)) :
    Fed E up fd (messages_of cfg [event]) w after := by
  cases event with
  | net id sockfd =>
    have hidle : Within (Idle fd) (handle_pkt E cfg id sockfd) :=
      within_handle_pkt (serves_idle fd) (within_sniff_push_idle hE) (listens_idle fd) id sockfd
    exact fed_of_idle hidle rfl hline hstep
  | accept id sockfd =>
    have hne : fd ≠ sockfd := by
      rintro rfl
      exact hnew id rfl
    have hidle : Within (Idle fd) (handle_event E cfg (.accept id sockfd)) := fun w => idle_accept id hne
    exact fed_of_idle hidle rfl hline hstep
  | spw chan pkt =>
    have hsink : handle_event E cfg (.spw chan pkt) = net_pkt_sink E cfg pkt.val := by
      rw [handle_event, pkt_sink, if_neg (by simp [hmonitor])]
    by_cases hlong : pkt.val.length ≤ cfg.skip_header_bytes
    · refine fed_of_idle ?_ (if_pos (.inl hlong)) hline hstep
      rw [hsink, net_pkt_sink, if_pos hlong]
      exact within_pure _
    · by_cases hrmap : LooksRmap cfg pkt.val
      · refine fed_of_idle ?_ (if_pos (.inr hrmap)) hline hstep
        rw [hsink, net_pkt_sink_rmap E hlong hrmap]
        exact within_rmap_reply_idle hE pkt.val
      · have hforwarded : messages_of cfg [.spw chan pkt] =
            [framed cfg.enable_gresb (pkt.val.drop cfg.skip_header_bytes)] := by
          simp [messages_of, forwarded, hlong, hrmap]
        have hwp : wp (net_pkt_sink E cfg pkt.val)
            (fun _ after => Fed E true fd (messages_of cfg [.spw chan pkt]) w after)
            (fun halt after => Fed E (decide (halt = .hang)) fd (messages_of cfg [.spw chan pkt]) w after) w := by
          rw [hforwarded]
          apply wp_net_pkt_sink_forward (Nat.lt_of_not_le hlong) hrmap
          intro s t _
          have hcall : Feeds true fd [] w { w with env := s, pus_seq_rx := t } := .nothing (fun _ h => h) le_rfl rfl
          apply wp_mono (net_forward_to_clients_fed hE hmode (hcall.line hline) _)
          · rintro _ after ⟨sent, hsub, hall, hfeeds⟩
            exact ⟨sent, hsub, hall, hcall.trans hfeeds⟩
          · rintro halt after ⟨hhang, sent, hsub, hall, hfeeds⟩
            rw [decide_eq_false hhang]
            exact ⟨sent, hsub, hall, hcall.trans hfeeds⟩
        rw [← hsink] at hwp
        have hpost := stepEvent_of_wp (fun after up => Fed E up fd (messages_of cfg [.spw chan pkt]) w after) hwp
        rwa [hstep] at hpost

/-- The run lemma, by induction over the events. -/
theorem runEvents_fed (hmonitor : cfg.enable_monitor = false) (hmode : cfg.mode ≠ .MODE_DGRAM) (hline : Line fd w)
    {events : List BridgeEvent} (hnew : ∀ id, .accept id fd ∉ events)
    (hrun : runEvents E cfg w events = (after, up)) :
    ∃ sent, sent.Sublist (messages_of cfg events) ∧ (Allocates E → sent <+: messages_of cfg events) ∧
      Feeds up fd sent w after := by
  induction events generalizing w with
  | nil =>
    obtain ⟨rfl, rfl⟩ := Prod.mk.inj hrun
    exact ⟨[], .refl _, fun _ => List.prefix_refl _, .refl true fd w⟩
  | cons event events ih =>
    rw [runEvents_cons] at hrun
    rw [messages_of_cons]
    rcases hstep : stepEvent E cfg w event with ⟨mid, running⟩
    rw [hstep] at hrun
    have hevent : ∀ id, event ≠ .accept id fd := by
      rintro id rfl
      exact hnew id (.head _)
    obtain ⟨first, hsub, hall, hfirst⟩ := stepEvent_fed hE hmonitor hmode hline hevent hstep
    cases running with
    | false =>
      obtain ⟨rfl, rfl⟩ := Prod.mk.inj hrun
      exact ⟨first, hsub.trans (List.sublist_append_left _ _), fun h => ⟨_, congrArg (· ++ _) (hall h)⟩, hfirst⟩
    | true =>
      obtain ⟨rest, hsub', hall', hrest⟩ := ih (hfirst.line hline) (fun id h => hnew id (.tail _ h)) hrun
      refine ⟨first ++ rest, hsub.append hsub', fun h => ?_, hfirst.trans hrest⟩
      rw [hall h]
      exact (List.prefix_append_right_inj _).mpr (hall' h)

end runs

/-! ### What the far bridge takes -/

/-- The packet that a frame is for. -/
def StreamKind.payload (kind : StreamKind) (frame : List UInt8) : List UInt8 :=
  match kind with
  | .pus | .fee => frame
  | .gresb => frame.drop 4
  | .rmap => frame.drop 10

/-- The packets that a stretch of a run has transmitted. -/
def transmitted (w after : World τ) : List (Chan × List UInt8) := sent_packets (after.spw_log.drop w.spw_log.length)

theorem transmitted_of_log {w after : World τ} {calls : List SpwCall} (hlog : after.spw_log = w.spw_log ++ calls) :
    transmitted w after = sent_packets calls := by
  rw [transmitted, hlog, List.drop_left]

/-- Apart from receive calls, nothing is taken from the connection. -/
structure Untouched {sockfd : Nat} (T : TcpStream τ sockfd) : Prop where
  send : ∀ s fd buf, T.unread (T.send s fd buf).2 = T.unread s
  close : ∀ s fd, T.unread (T.close s fd) = T.unread s
  createPacket : ∀ s, T.unread (T.STAR_createPacket s).2 = T.unread s
  createTxOperation : ∀ s, T.unread (T.STAR_createTxOperation s).2 = T.unread s
  submitTransferOperation : ∀ s, T.unread (T.STAR_submitTransferOperation s).2 = T.unread s
  waitOnTransferOperationCompletion : ∀ s, T.unread (T.STAR_waitOnTransferOperationCompletion s).2 = T.unread s

/-- The data service handles the connection again and again as long as it has it,
with the packets that it transmits then. In between the rest of the bridge does
anything but read from the connection or put it back. -/
inductive Attended {sockfd : Nat} (T : TcpStream τ sockfd) (cfg : BridgeCfg) (w : World τ) :
    List (Chan × List UInt8) → Bool → World τ → Prop
  | start : Attended T cfg w [] true w
  | between {pkts : List (Chan × List UInt8)} {mid after : World τ} (hrun : Attended T cfg w pkts true mid)
      (hunread : T.unread after.env = T.unread mid.env)
      (hset : sockfd ∈ (after.svc .data).conn_set → sockfd ∈ (mid.svc .data).conn_set) :
      Attended T cfg w pkts true after
  | call {pkts : List (Chan × List UInt8)} {mid after : World τ} (hrun : Attended T cfg w pkts true mid)
      (hmem : sockfd ∈ (mid.svc .data).conn_set) (hcall : handle_pkt T.toEnv cfg .data sockfd mid = .ok () after) :
      Attended T cfg w (pkts ++ transmitted mid after) true after
  | halt {pkts : List (Chan × List UInt8)} {mid after : World τ} {halt : Halt}
      (hrun : Attended T cfg w pkts true mid) (hmem : sockfd ∈ (mid.svc .data).conn_set)
      (hcall : handle_pkt T.toEnv cfg .data sockfd mid = .error halt after) :
      Attended T cfg w (pkts ++ transmitted mid after) false after

section far

variable {sockfd : Nat} {T : TcpStream τ sockfd} (hT : Untouched T) {cfg : BridgeCfg} {kind : StreamKind}
  (hkind : framing cfg .data = some kind) {w : World τ}

/-- What is left on the connection, and what the SpW side was asked for. -/
def far_side {sockfd : Nat} (T : TcpStream τ sockfd) (w : World τ) : List UInt8 × List SpwCall :=
  (T.unread w.env, w.spw_log)

theorem listens_spw_log : Listens (Same (World.spw_log (σ := τ))) where
  env _ _ := rfl
  closed _ _ := rfl
  fd_clr _ _ _ := rfl
  pus_seq_tx _ _ := rfl
  clients _ _ _ _ := rfl

include hT in
theorem sniff_push_far_side (pkt : List UInt8) : Keeps (far_side T) (sniff_push T.toEnv cfg pkt) := by
  have hsilent : Silent T.toEnv .sniff (Same (far_side T)) := by
    refine ⟨fun w fd buf => ?_, fun w fd => ?_, fun _ _ _ => rfl, fun _ _ => rfl, fun _ _ => rfl⟩
    · exact congrArg (·, w.spw_log) (hT.send w.env fd buf)
    · exact congrArg (·, w.spw_log) (hT.close w.env fd)
  have hbroadcast : ∀ msg, Keeps (far_side T) (broadcast T.toEnv .sniff msg) := fun msg w =>
    within_broadcast_of_members hsilent msg w fun _ _ _ _ => rfl
  exact within_sniff_push_of (fun w => congrArg (·, w.spw_log) (T.malloc_unread w.env)) hbroadcast pkt

/-- Transmitting takes nothing from the connection. -/
theorem spw_send_packet_far_side (hT : Untouched T) (pkt : List UInt8) :
    wp (spw_send_packet T.toEnv pkt)
      (fun _ after => T.unread after.env = T.unread w.env ∧ transmitted w after = [(false, pkt)])
      (fun _ after => transmitted w after = [(false, pkt)]) w := by
  have hlog : ∀ after : World τ, ∀ calls, after.spw_log = w.spw_log ++ [.send_packet false pkt] ++ calls →
      sent_packets calls = [] → transmitted w after = [(false, pkt)] := by
    intro after calls hcalls hnone
    rw [List.append_assoc] at hcalls
    rw [transmitted_of_log hcalls, sent_packets_append, hnone]
    rfl
  have hfirst : ∀ after : World τ, after.spw_log = w.spw_log ++ [.send_packet false pkt] →
      transmitted w after = [(false, pkt)] := fun after h => hlog after [] (by rw [h, List.append_nil]) rfl
  simp only [spw_send_packet, spw_send_packet_chan, wp_bind, wp_log_spw, wp_tx_address, wp_exit_unless]
  split
  · exact hfirst _ rfl
  · split_ifs
    · refine ⟨?_, hlog _ [.submit false _] rfl rfl⟩
      rw [hT.waitOnTransferOperationCompletion, hT.submitTransferOperation, hT.createTxOperation, hT.createPacket]
    · exact hlog _ [.submit false _] rfl rfl
    all_goals exact hfirst _ rfl

/-- What comes next on the connection, if its header is there, is a packet that the framer takes for a frame. -/
def FrontFits (kind : StreamKind) (front : List UInt8) : Prop :=
  kind = .fee → FEE_DATA_HDR_SIZE ≤ front.length → byteAt front 1 = FEE_DATA_PROTOCOL

/-- The FEE framer takes a whole frame like the others, unless the protocol of what comes is another one. -/
theorem recv_fee_packet_takes (hfront : FrontFits .fee (T.unread w.env)) :
    wp (recv_fee_packet T.toEnv .data sockfd)
      (fun received after => match received with
        | some pkt => ∃ frame, feeFormat.IsFrame frame ∧ T.unread w.env = frame ++ T.unread after.env ∧ pkt = frame
        | none => sockfd ∉ (after.svc .data).conn_set)
      (fun _ after => sockfd ∉ (after.svc .data).conn_set) w := by
  have hdrop := conn_drop_forgets T.toEnv .data sockfd
  simp only [recv_fee_packet, wp_bind]
  refine peek_header_unread T rfl (fun s hs hlong => ?_) fun s => hdrop _
  have hprotocol : byteAt ((T.unread w.env).take FEE_DATA_HDR_SIZE) 1 = FEE_DATA_PROTOCOL := by
    rw [byteAt_take (by decide)]
    exact hfront rfl hlong
  simp only [hprotocol, ne_eq, not_true_eq_false, ↓reduceIte]
  refine recv_body_unread T (fun bs s' hbs hlength => ?_) fun s => hdrop _
  have hstream : T.unread w.env = bs ++ T.unread s' := hs ▸ hbs
  refine ⟨bs, Format.isFrame_of_front (T.unread s') ?_, hstream, rfl⟩
  rw [hlength, ← hstream]
  rfl

include hkind

/-- What the framer takes: a whole frame, or the connection is dropped. -/
theorem net_recv_takes (hfront : FrontFits kind (T.unread w.env)) :
    wp (net_recv T.toEnv cfg .data sockfd)
      (fun received after => match received with
        | some (pkt, client) => client = none ∧ ∃ frame, kind.format.IsFrame frame ∧
          T.unread w.env = frame ++ T.unread after.env ∧ pkt = kind.payload frame
        | none => sockfd ∉ (after.svc .data).conn_set)
      (fun _ after => sockfd ∉ (after.svc .data).conn_set) w := by
  simp only [framing] at hkind
  split_ifs at hkind with hmode hpus hfee' hgresb
  · obtain rfl := Option.some.inj hkind
    simp only [net_recv, hmode, hpus, ↓reduceIte, wp_map]
    apply wp_mono_post (recv_pus_packet_takesFrame T .data w)
    rintro (- | pkt) after hafter
    · exact hafter
    · exact ⟨rfl, hafter⟩
  · obtain rfl := Option.some.inj hkind
    simp only [net_recv, hmode, hpus, hfee', Bool.false_eq_true, ↓reduceIte, wp_map]
    apply wp_mono_post (recv_fee_packet_takes hfront)
    rintro (- | pkt) after hafter
    · exact hafter
    · exact ⟨rfl, hafter⟩
  · obtain rfl := Option.some.inj hkind
    simp only [net_recv, hmode, hpus, hfee', hgresb, Bool.false_eq_true, ↓reduceIte, wp_map]
    apply wp_mono_post (recv_gresb_packet_takesFrame T .data w)
    rintro (- | pkt) after hafter
    · exact hafter
    · exact ⟨rfl, hafter⟩

include hT

/-- What one call of the handler does to the connection. -/
theorem handle_pkt_takes (hmonitor : cfg.enable_monitor = false) (hfront : FrontFits kind (T.unread w.env)) :
    wp (handle_pkt T.toEnv cfg .data sockfd)
      (fun _ after =>
        (∃ frame, kind.format.IsFrame frame ∧ T.unread w.env = frame ++ T.unread after.env ∧
          transmitted w after = [(false, kind.payload frame)]) ∨
        sockfd ∉ (after.svc .data).conn_set ∧ transmitted w after = [])
      (fun _ after => transmitted w after = [] ∨ ∃ frame, kind.format.IsFrame frame ∧ frame <+: T.unread w.env ∧
        transmitted w after = [(false, kind.payload frame)]) w := by
  have hnone : ∀ {mid : World τ}, mid.spw_log = w.spw_log → transmitted w mid = [] := by
    intro mid hlog
    exact transmitted_of_log (hlog.trans (List.append_nil _).symm)
  rw [handle_pkt, net_to_spw, wp_bind]
  apply wp_mono (wp_and (net_recv_takes hkind hfront) ((within_net_recv listens_spw_log T.toEnv cfg .data sockfd).wp w))
  · rintro (- | ⟨pkt, client⟩) mid ⟨htakes, hlog⟩
    · exact .inr ⟨htakes, hnone hlog⟩
    · obtain ⟨rfl, frame, hframe, htaken, rfl⟩ := htakes
      simp only [hmonitor, Bool.false_eq_true, ↓reduceIte, register_sender, wp_bind]
      apply wp_mono ((sniff_push_far_side hT (kind.payload frame)).wp mid)
      · intro _ sniffed hsniffed
        obtain ⟨hunread, hlog'⟩ := Prod.mk.inj hsniffed
        have hcount : ∀ after, transmitted sniffed after = transmitted w after := by
          intro after
          rw [transmitted, transmitted, hlog', hlog]
        apply wp_mono (spw_send_packet_far_side hT (kind.payload frame))
        · rintro _ after ⟨hkept, hsent⟩
          refine .inl ⟨frame, hframe, ?_, (hcount after).symm.trans hsent⟩
          rw [hkept, hunread]
          exact htaken
        · intro _ after hsent
          exact .inr ⟨frame, hframe, ⟨_, htaken.symm⟩, (hcount after).symm.trans hsent⟩
      · intro _ after hafter
        exact .inl (hnone ((Prod.mk.inj hafter).2.trans hlog))
  · exact fun _ after h => .inl (hnone h.2)

omit hT hkind in
/-- Behind whole frames of a stream of packets the next packet begins. -/
theorem frontFits_behind {messages frames : List (List UInt8)} {rest : List UInt8}
    (hmessages : ∀ message ∈ messages, kind.Packet message) (hframes : ∀ frame ∈ frames, kind.format.IsFrame frame)
    (hbegins : frames.flatten ++ rest <+: messages.flatten) : FrontFits kind rest := by
  rintro rfl hlong
  have hdivided := Format.prefix_divide hframes ((List.prefix_append _ _).trans hbegins)
  rw [Format.divide_flatten fun message hmessage => (hmessages message hmessage).1] at hdivided
  obtain ⟨behind, rfl⟩ := hdivided
  rw [List.flatten_append, List.prefix_append_right_inj] at hbegins
  cases behind with
  | nil =>
    rw [List.prefix_nil.mp hbegins] at hlong
    exact absurd hlong (by decide)
  | cons message behind =>
    obtain ⟨hframe, hprotocol⟩ := hmessages message (List.mem_append_right _ List.mem_cons_self)
    have hprotocol' : byteAt message 1 = FEE_DATA_PROTOCOL := hprotocol
    obtain ⟨more, hmore⟩ := hbegins
    have hfront : rest.take FEE_DATA_HDR_SIZE = message.take FEE_DATA_HDR_SIZE := by
      rw [← List.take_append_of_le_length hlong, hmore, List.flatten_cons]
      exact hframe.take_hdr _
    rw [← byteAt_take (by decide : 1 < FEE_DATA_HDR_SIZE), hfront, byteAt_take (by decide), hprotocol']

/-- Whatever receive calls do on a stream of packets, the ones that are transmitted are the first of these. -/
theorem Attended.frames (hmonitor : cfg.enable_monitor = false) {messages : List (List UInt8)}
    (hmessages : ∀ message ∈ messages, kind.Packet message) (hunread : T.unread w.env <+: messages.flatten)
    {pkts : List (Chan × List UInt8)} {up : Bool} {after : World τ} (hrun : Attended T cfg w pkts up after) :
    ∃ frames : List (List UInt8), (∀ frame ∈ frames, kind.format.IsFrame frame) ∧ frames.flatten <+: T.unread w.env ∧
      pkts = frames.map (fun frame => (false, kind.payload frame)) ∧
      (up = true → sockfd ∈ (after.svc .data).conn_set → T.unread w.env = frames.flatten ++ T.unread after.env) := by
  induction hrun with
  | start => exact ⟨[], by simp, List.nil_prefix, rfl, fun _ _ => rfl⟩
  | between _ hunread hset ih =>
    obtain ⟨frames, hframes, hbegins, hpkts, hstream⟩ := ih
    exact ⟨frames, hframes, hbegins, hpkts, fun hup hmem => by rw [hunread, hstream hup (hset hmem)]⟩
  | @call pkts mid after _ hmem hcall ih =>
    obtain ⟨frames, hframes, hbegins, rfl, hstream⟩ := ih
    have hfront := frontFits_behind hmessages hframes (hstream rfl hmem ▸ hunread)
    have htakes := (wp_ok hcall).mp (handle_pkt_takes hT hkind hmonitor hfront)
    rcases htakes with ⟨frame, hframe, htaken, hsent⟩ | ⟨hgone, hsent⟩
    · have hfront : T.unread w.env = (frames ++ [frame]).flatten ++ T.unread after.env := by
        rw [hstream rfl hmem, htaken, List.flatten_append, List.flatten_singleton, List.append_assoc]
      refine ⟨frames ++ [frame], ?_, ⟨_, hfront.symm⟩, ?_, fun _ _ => hfront⟩
      · exact List.forall_mem_append.mpr ⟨hframes, List.forall_mem_singleton.mpr hframe⟩
      · rw [hsent, List.map_append]
        rfl
    · exact ⟨frames, hframes, hbegins, by rw [hsent, List.append_nil], fun _ h => absurd h hgone⟩
  | @halt pkts mid after _ _ hmem hcall ih =>
    obtain ⟨frames, hframes, hbegins, rfl, hstream⟩ := ih
    have hfront := frontFits_behind hmessages hframes (hstream rfl hmem ▸ hunread)
    have htakes := (wp_error hcall).mp (handle_pkt_takes hT hkind hmonitor hfront)
    rcases htakes with hsent | ⟨frame, hframe, ⟨rest, hrest⟩, hsent⟩
    · exact ⟨frames, hframes, hbegins, by rw [hsent, List.append_nil], nofun⟩
    · refine ⟨frames ++ [frame], ?_, ⟨rest, ?_⟩, ?_, nofun⟩
      · exact List.forall_mem_append.mpr ⟨hframes, List.forall_mem_singleton.mpr hframe⟩
      · rw [hstream rfl hmem, ← hrest, List.flatten_append, List.flatten_singleton, List.append_assoc]
      · rw [hsent, List.map_append]
        rfl

end far

/-! ### The tunnel -/

theorem Carries.payload {near far : BridgeCfg} {kind : StreamKind} (hkind : framing far .data = some kind)
    {pkt : List UInt8} (hcarries : Carries near far pkt) : kind.payload (framed near.enable_gresb pkt) = pkt := by
  unfold Carries at hcarries
  rw [hkind] at hcarries
  cases hgresb : near.enable_gresb <;> cases kind <;> rw [hgresb] at hcarries <;> dsimp only at hcarries
  case false.pus | false.fee => rfl
  case true.gresb => exact gresb_msg_drop hcarries

theorem map_payload {near far : BridgeCfg} {kind : StreamKind} (hkind : framing far .data = some kind)
    {pkts : List (List UInt8)} (hcarries : ∀ pkt ∈ pkts, Carries near far pkt) :
    (pkts.map (framed near.enable_gresb)).map kind.payload = pkts := by
  rw [List.map_map]
  calc pkts.map (kind.payload ∘ framed near.enable_gresb) = pkts.map id :=
        List.map_congr_left fun pkt hpkt => (hcarries pkt hpkt).payload hkind
    _ = pkts := List.map_id _

/-- A tunnel of two bridges, neither in monitor mode, is safe on any network that
carries payloads of the far bridge's framing. Whatever the sends and allocations of
the near bridge and the receive calls of the far one do, and wherever the connection
breaks off: as long as each payload that the near bridge had to forward is one that
the framing of the far bridge carries, the packets that the far bridge transmits for
the connection are the first ones of these payloads, in their order and unchanged, at
most without some for which the near bridge had no memory. -/
theorem tunnel_safe {E : Env σ} (hE : Patient E) {near far : BridgeCfg} (hnear : near.enable_monitor = false)
    (hfar : far.enable_monitor = false) (hmode : near.mode ≠ .MODE_DGRAM) {kind : StreamKind}
    (hkind : framing far .data = some kind) {fd : Nat} {w after : World σ} {up : Bool}
    {events : List BridgeEvent} (hpeer : Peer .data fd w) (hnew : ∀ id, .accept id fd ∉ events)
    (hcarries : ∀ pkt ∈ events.filterMap (forwarded near), Carries near far pkt)
    (hrun : runEvents E near w events = (after, up)) :
    ∃ stream relayed, sent_to fd after.net_log = sent_to fd w.net_log ++ stream ∧
      relayed.Sublist (events.filterMap (forwarded near)) ∧
      (Allocates E → relayed <+: events.filterMap (forwarded near)) ∧
      ∀ {τ : Type} {sockfd : Nat} (T : TcpStream τ sockfd) (w' after' : World τ) (pkts : List (Chan × List UInt8))
        (up' : Bool), Untouched T → T.unread w'.env <+: stream → Attended T far w' pkts up' after' →
        pkts <+: relayed.map fun pkt => (false, pkt) := by
  obtain ⟨sent, hsub, hall, hfeeds⟩ := runEvents_fed hE hnear hmode hpeer.line hnew hrun
  obtain ⟨stream, hstream, hbegins, -, -⟩ := hfeeds.sent
  obtain ⟨relayed, hrelayed, rfl⟩ := List.sublist_map_iff.mp hsub
  have hrelays : ∀ pkt ∈ relayed, Carries near far pkt := fun pkt hpkt => hcarries pkt (hrelayed.subset hpkt)
  refine ⟨stream, relayed, hstream, hrelayed, fun hallocates => ?_, ?_⟩
  · have hprefix := (hall hallocates).map kind.payload
    rwa [messages_of, map_payload hkind hrelays, map_payload hkind hcarries] at hprefix
  · intro τ sockfd T w' after' pkts up' hT hunread hattended
    -- the frames that were taken are the first messages of the near bridge
    have hmessages : ∀ message ∈ relayed.map (framed near.enable_gresb), kind.Packet message := by
      intro message hmessage
      obtain ⟨pkt, hpkt, rfl⟩ := List.mem_map.mp hmessage
      exact ((hrelays pkt hpkt).packet hkind).1
    obtain ⟨frames, hframes, hfront, rfl, -⟩ :=
      hattended.frames hT hkind hfar hmessages (hunread.trans hbegins)
    have hdivided := Format.prefix_divide hframes ((hfront.trans hunread).trans hbegins)
    rw [Format.divide_flatten fun message hmessage => (hmessages message hmessage).1] at hdivided
    have hprefix := (hdivided.map kind.payload).map fun pkt => ((false, pkt) : Chan × List UInt8)
    rwa [map_payload hkind hrelays, List.map_map] at hprefix

/-- A network that takes one message, two bytes of the next one and then nothing more. -/
def breakingEnv : Env Nat where
  recv s _ _ _ := (.error .EAGAIN, s)
  fionread s _ := (none, s)
  recvfrom s _ _ := (none, s)
  send s _ buf :=
    if s = 0 then (.sent buf.length, 1) else if s = 1 then (.sent 2, 2) else (.error (.other 104), s)
  sendto s _ _ _ := s
  close s _ := s
  select s _ := (∅, s)
  malloc s := (true, s)
  deadline_expired s := (false, s)
  patience _ := 2
  device s := (true, s)
  STAR_openChannel s number := (number + 1, s)
  STAR_createPacket s := (true, s)
  STAR_createTxOperation s := (true, s)
  STAR_submitTransferOperation s := (true, s)
  STAR_waitOnTransferOperationCompletion s := (true, s)
  STAR_transmitPacket s := (true, s)
  RMAP_BuildCommandPacket s _ := (some [], s)

theorem breakingEnv_patient : Patient breakingEnv := by
  intro sockfd msg w after hhang
  have hwp : wp (send_all breakingEnv sockfd msg) (fun _ _ => True) (fun halt _ => halt ≠ .hang) w := by
    rcases msg with _ | ⟨b, _ | ⟨b', _ | ⟨b'', msg⟩⟩⟩ <;> rcases hs : w.env with _ | _ | s <;>
      simp [send_all, send_all_loop, breakingEnv, hs]
  exact (wp_error hhang).mp hwp rfl

/-- A peer of the data service on descriptor 4. -/
def breakingWorld : World Nat :=
  { World.fresh 0 with svc := Function.update (World.fresh 0).svc .data ⟨3, {4}, 5, [], 4⟩ }

theorem untouched_tcpStream (sockfd : Nat) (build : RmapRequest → Option (List UInt8)) :
    Untouched (tcpStream sockfd build) where
  send _ _ _ := rfl
  close _ _ := rfl
  createPacket _ := rfl
  createTxOperation _ := rfl
  submitTransferOperation _ := rfl
  waitOnTransferOperationCompletion _ := rfl

/-- The connection breaks off in the second of two packets. -/
theorem tunnel_safe_broken :
    ∃ (relayed : List (List UInt8)) (pkts : List (Chan × List UInt8)) (after : World TcpState),
      relayed <+: [[1, 2, 3], [1, 2, 3]] ∧
      Attended (tcpStream 5 fun _ => none) gresbServer
        (receivingWorld 5 ⟨[0, 0, 0, 3, 1, 2, 3, 0, 0], [], []⟩) pkts true after ∧
      pkts = [(false, [1, 2, 3])] ∧ pkts <+: relayed.map fun pkt => (false, pkt) := by
  have hpeer : Peer .data 4 breakingWorld :=
    ⟨by decide, fun other hother => by simp [breakingWorld, World.fresh, hother]⟩
  have hcarries : Carries tunnelCfg gresbServer [1, 2, 3] := by
    change 3 < 2 ^ 24
    decide
  have hpackets : ∀ pkt ∈ [.spw false tunnelPacket, .spw false tunnelPacket].filterMap (forwarded tunnelCfg),
      Carries tunnelCfg gresbServer pkt :=
    List.forall_mem_cons.mpr ⟨hcarries, List.forall_mem_singleton.mpr hcarries⟩
  have hrun : runEvents breakingEnv tunnelCfg breakingWorld [.spw false tunnelPacket, .spw false tunnelPacket] =
      (_, true) := Prod.ext rfl rfl
  obtain ⟨stream, relayed, hstream, -, hall, hsafe⟩ :=
    @tunnel_safe _ _ breakingEnv_patient tunnelCfg gresbServer rfl rfl (by decide) .gresb rfl 4 _ _ _ _ hpeer
      (by simp) hpackets hrun
  have hcut : [0, 0, 0, 3, 1, 2, 3, 0, 0] = [] ++ stream := hstream
  have hattended : Attended (tcpStream 5 fun _ => none) gresbServer
      (receivingWorld 5 ⟨[0, 0, 0, 3, 1, 2, 3, 0, 0], [], []⟩) _ true _ :=
    .call (.call .start (by decide) rfl) (by decide) rfl
  have hbegins : (tcpStream 5 fun _ => none).unread ⟨[0, 0, 0, 3, 1, 2, 3, 0, 0], [], []⟩ <+: stream := by
    rw [List.nil_append] at hcut
    rw [← hcut]
    exact List.prefix_refl _
  exact ⟨relayed, _, _, hall fun _ => rfl, hattended, rfl,
    hsafe _ _ _ _ _ (untouched_tcpStream 5 _) hbegins hattended⟩

end spw_bridge.net
