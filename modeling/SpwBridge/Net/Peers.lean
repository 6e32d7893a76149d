import SpwBridge.Net.Answers
import SpwBridge.Net.Delivery
import SpwBridge.Net.Frames
import SpwBridge.Net.Routing

open effect spw_bridge.net

namespace spw_bridge

variable {σ : Type}

/-- There is an answer of this kind in the record. -/
def Recorded (P : Answer → Prop) (w : World (σ × List Answer)) : Prop := ∃ a ∈ w.env.2, P a

/-- A run that ends the process leaves such an answer behind. -/
def Blamed (P : Answer → Prop) (halt : Halt) (after : World (σ × List Answer)) : Prop := halt = .exit → Recorded P after

/-- How a run may end without `exit()`. -/
def NotExit (halt : Halt) (_ : World σ) : Prop := halt ≠ .exit

theorem NotExit.blamed {P : Answer → Prop} {halt : Halt} {after : World (σ × List Answer)} (h : NotExit halt after) :
    Blamed P halt after := fun hexit => absurd hexit h

theorem blamed_of_not_exit {P : Answer → Prop} {α : Type} {x : Prog (σ × List Answer) α} {w : World (σ × List Answer)}
    (hx : wp x (fun _ _ => True) NotExit w) : wp x (fun _ _ => True) (Blamed P) w :=
  wp_mono hx (fun _ _ h => h) fun _ _ h => h.blamed

/-- What a run that exits leaves behind is an answer of the event. -/
theorem exit_answers {P : Answer → Prop} {E : Env σ} {cfg : BridgeCfg} {event : BridgeEvent} {w after : World σ}
    (hblamed : wp (handle_event (traced E) cfg event) (fun _ _ => True) (Blamed P) w.traced)
    (hexit : handle_event E cfg event w = .error .exit after) : ∃ a ∈ answers E cfg w event, P a := by
  have hproject : project World.untraced (handle_event (traced E) cfg event w.traced) = .error .exit after :=
    (untraced_handle_event E cfg event w.traced).trans hexit
  unfold answers
  cases hrun : handle_event (traced E) cfg event w.traced with
  | ok _ _ =>
    rw [hrun] at hproject
    cases hproject
  | error halt traced =>
    rw [hrun] at hproject
    cases hproject
    exact (wp_error hrun).mp hblamed rfl

/-! ### Dropping and sending -/

section sending

variable {P : Answer → Prop} {E : Env σ} {id : SvcId} {fd : Nat} {w : World (σ × List Answer)}

theorem conn_drop_blamed (hbad : Recorded P w) :
    wp (conn_drop (traced E) id fd) (fun _ _ => True) (Blamed P) w := by
  rw [wp_conn_drop]
  split
  · exact fun _ => hbad
  · exact trivial

theorem drop_locked_blamed (hbad : Recorded P w) :
    wp (drop_locked (traced E) id fd) (fun _ after => Shrinks w after) (Blamed P) w := by
  have hshrinks := (within_drop_locked (sockets_shrinks.silent (traced E) id) fd).wp w
  have hblamed : wp (drop_locked (traced E) id fd) (fun _ _ => True) (Blamed P) w := by
    rw [wp_drop_locked]
    split
    · exact fun _ => hbad
    · exact trivial
  exact wp_mono (wp_and hshrinks hblamed) (fun _ _ h => h.1) fun _ _ h => h.2

/-- The failed sends of a service are of the kind. -/
def SendFaults (P : Answer → Prop) (id : SvcId) (w : World (σ × List Answer)) : Prop :=
  ∀ fd ∈ (w.svc id).conn_set, ∀ errno, errno ≠ .EINTR → P (.send fd (.error errno))

theorem SendFaults.shrinks {mid : World (σ × List Answer)} (hfaults : SendFaults P id w) (hmid : Shrinks w mid) :
    SendFaults P id mid := fun fd hfd => hfaults fd ((hmid id).2 hfd)

/-- A send that fails leaves its answer behind. -/
theorem send_all_loop_blamed (hfaults : ∀ errno, errno ≠ .EINTR → P (.send fd (.error errno))) (fuel : Nat)
    (buf : List UInt8) :
    wp (send_all_loop (traced E) fd fuel buf) (fun ok after => ok = true ∨ Recorded P after) NotExit w := by
  induction fuel generalizing buf w with
  | zero =>
    cases buf with
    | nil => exact .inl rfl
    | cons b buf => exact Halt.noConfusion
  | succ fuel ih =>
    cases buf with
    | nil => exact .inl rfl
    | cons b buf =>
      simp only [send_all_loop, wp_bind, wp_syscall]
      cases hsend : ((traced E).send w.env fd (b :: buf)).1 with
      | sent n =>
        simp only [wp_bind, wp_log_net]
        exact ih _
      | error errno =>
        cases errno with
        | EINTR => exact ih _
        | EAGAIN | ETIMEDOUT | other => exact .inr ⟨_, send_recorded hsend, hfaults _ Errno.noConfusion⟩

theorem broadcast_blamed (hfaults : SendFaults P id w) (msg : List UInt8) :
    wp (broadcast (traced E) id msg) (fun _ after => Shrinks w after) (Blamed P) w := by
  apply wp_broadcast _ (refl_of Shrinks w)
  intro fd s hs hmem
  have hloop : wp (send_all (traced E) fd msg) (fun ok after => ok = true ∨ Recorded P after) NotExit s := by
    simp only [send_all, wp_bind, wp_log_net, wp_get]
    exact send_all_loop_blamed (hfaults.shrinks hs fd hmem) _ msg
  refine wp_mono (wp_and hloop (send_all_sends (traced E) fd msg s)) ?_ fun _ _ h => h.1.blamed
  rintro ok sent ⟨hok, hsends⟩
  have hsent : Shrinks w sent := fun other => by
    rw [hsends.svc]
    exact hs other
  cases ok with
  | true => exact hsent
  | false =>
    have hbad := hok.resolve_left Bool.false_ne_true
    exact wp_mono_post (drop_locked_blamed hbad) fun _ _ h => trans_of Shrinks hsent h

theorem sniff_push_blamed (hfaults : SendFaults P .sniff w) (cfg : BridgeCfg) (buf : List UInt8) :
    wp (sniff_push (traced E) cfg buf) (fun _ after => Shrinks w after) (Blamed P) w := by
  simp only [sniff_push, malloc, wp_bind, wp_get_svc, wp_ite, wp_pure, wp_syscall, gresb_create_host_data_pkt_eq]
  split_ifs
  · exact refl_of Shrinks w
  · exact broadcast_blamed (w := { w with env := ((traced E).malloc w.env).2 }) hfaults _
  · exact refl_of Shrinks w
  · exact broadcast_blamed hfaults buf

end sending

/-! ### Receiving -/

/-- The answers that make a framer drop the connection are of the kind. -/
structure ReceiveFaults (P : Answer → Prop) (fd : Nat) : Prop where
  header : ∀ n flags r, flags.peek = true → (∀ bs, r = .bytes bs → bs.length ≠ n) → P (.recv fd n flags r)
  body : ∀ n r, (∀ b bs, r ≠ .bytes (b :: bs)) → P (.recv fd n .none r)
  avail : ∀ avail, (∀ n, avail ≠ some (n + 1)) → P (.fionread fd avail)
  malloc : P (.malloc false)
  deadline : P (.deadline_expired true)

section receiving

variable {P : Answer → Prop} {E : Env σ} {id : SvcId} {fd n : Nat} {w : World (σ × List Answer)}

/-- A framer that stops here drops the connection for an answer in the record. -/
theorem drop_none_blamed {α : Type} (hbad : Recorded P w) :
    wp (do conn_drop (traced E) id fd; pure (none : Option α)) (fun _ _ => True) (Blamed P) w := by
  rw [wp_bind]
  exact wp_mono_post (conn_drop_blamed hbad) fun _ _ h => h

theorem expect_blamed {r : RecvResult} (hr : (∃ bs, r = .bytes bs ∧ bs.length = n) ∨ Recorded P w) :
    wp (expect n (conn_drop (traced E) id fd) r) (fun _ _ => True) (Blamed P) w := by
  apply wp_expect fun _ _ _ => trivial
  intro hshort
  rcases hr with ⟨bs, rfl, hlength⟩ | hbad
  · exact absurd hlength (hshort bs rfl)
  · exact conn_drop_blamed hbad

variable (hfaults : ReceiveFaults P fd)

include hfaults

theorem peek_header_blamed {flags : RecvFlags} (hpeek : flags.peek = true) :
    wp (peek_header (traced E) fd n flags (conn_drop (traced E) id fd)) (fun _ _ => True) (Blamed P) w := by
  simp only [peek_header, recv, wp_bind, wp_syscall]
  apply expect_blamed
  by_cases hthere : ∃ bs, ((traced E).recv w.env fd n flags).1.clip n = .bytes bs ∧ bs.length = n
  · exact .inl hthere
  · refine .inr ⟨_, recv_recorded rfl, hfaults.header n flags _ hpeek fun bs hbs hlength => ?_⟩
    exact hthere ⟨bs, hbs, hlength⟩

theorem recv_exact_loop_blamed {fuel left : Nat} (got : List UInt8) :
    wp (recv_exact_loop (traced E) fd fuel got left)
      (fun r after => (∃ bs, r = .bytes bs ∧ bs.length = got.length + left) ∨ Recorded P after) NotExit w := by
  induction fuel generalizing got left w with
  | zero =>
    cases left with
    | zero => exact .inl ⟨got, rfl, rfl⟩
    | succ left => exact Halt.noConfusion
  | succ fuel ih =>
    cases left with
    | zero => exact .inl ⟨got, rfl, rfl⟩
    | succ left =>
      simp only [recv_exact_loop, recv, wp_bind, wp_syscall]
      rcases hrecv : ((traced E).recv w.env fd (left + 1) .none).1.clip (left + 1) with (_ | ⟨b, bs⟩) | errno
      · exact .inr ⟨_, recv_recorded hrecv, hfaults.body _ _ fun _ _ h => by cases h⟩
      · have htaken : bs.length ≤ left := by
          have hlength := RecvResult.clip_length hrecv
          simpa using hlength
        simp only [wp_bind, wp_syscall, wp_ite, wp_pure]
        split_ifs with hexpired
        · exact .inr ⟨_, deadline_recorded hexpired, hfaults.deadline⟩
        · apply wp_mono_post (ih (got ++ b :: bs))
          rintro r after (⟨bs', rfl, hlength⟩ | hbad)
          · refine .inl ⟨bs', rfl, ?_⟩
            simp only [List.length_append, List.length_cons] at hlength
            omega
          · exact .inr hbad
      · exact .inr ⟨_, recv_recorded hrecv, hfaults.body _ _ fun _ _ h => by cases h⟩

theorem recv_body_blamed :
    wp (recv_body (traced E) fd n (conn_drop (traced E) id fd)) (fun _ _ => True) (Blamed P) w := by
  simp only [recv_body, malloc, wp_bind, wp_syscall]
  cases hbuf : ((traced E).malloc w.env).1 with
  | false => exact drop_none_blamed ⟨_, malloc_recorded hbuf, hfaults.malloc⟩
  | true =>
    simp only [↓reduceIte, wp_bind]
    apply wp_mono (recv_exact_loop_blamed (w := { w with env := _ }) hfaults [])
    · intro r mid hr
      exact expect_blamed (by simpa using hr)
    · exact fun _ _ h => h.blamed

theorem recv_raw_packet_blamed : wp (recv_raw_packet (traced E) id fd) (fun _ _ => True) (Blamed P) w := by
  simp only [recv_raw_packet, wp_bind, wp_syscall]
  rcases havail : ((traced E).fionread w.env fd).1 with _ | _ | avail
  · exact drop_none_blamed ⟨_, fionread_recorded havail, hfaults.avail _ fun _ h => by cases h⟩
  · exact drop_none_blamed ⟨_, fionread_recorded havail, hfaults.avail _ fun _ h => by cases h⟩
  · simp only [malloc, wp_bind, wp_syscall]
    cases hbuf : ((traced E).malloc ((traced E).fionread w.env fd).2).1 with
    | false => exact drop_none_blamed ⟨_, malloc_recorded hbuf, hfaults.malloc⟩
    | true =>
      simp only [↓reduceIte, recv, wp_bind, wp_syscall]
      generalize ((traced E).malloc ((traced E).fionread w.env fd).2).2 = s
      rcases hrecv : ((traced E).recv s fd (avail + 1) .none).1.clip (avail + 1) with (_ | ⟨b, bs⟩) | errno
      · exact drop_none_blamed ⟨_, recv_recorded hrecv, hfaults.body _ _ fun _ _ h => by cases h⟩
      · exact trivial
      · exact drop_none_blamed ⟨_, recv_recorded hrecv, hfaults.body _ _ fun _ _ h => by cases h⟩

theorem recv_pus_packet_blamed : wp (recv_pus_packet (traced E) id fd) (fun _ _ => True) (Blamed P) w := by
  simp only [recv_pus_packet, wp_bind]
  apply wp_mono_post (peek_header_blamed hfaults rfl)
  intro hdr mid _
  cases hdr with
  | none => exact trivial
  | some hdr =>
    simp only [wp_bind]
    apply wp_mono_post (recv_body_blamed hfaults)
    intro pkt mid _
    cases pkt with
    | none => exact trivial
    | some pkt =>
      simp only [wp_bind]
      exact wp_mono (check_pus_sequence_tx_world (traced E) pkt mid) (fun _ _ _ => trivial) fun _ _ h => h.elim

theorem recv_fee_packet_blamed : wp (recv_fee_packet (traced E) id fd) (fun _ _ => True) (Blamed P) w := by
  simp only [recv_fee_packet, wp_bind]
  apply wp_mono_post (peek_header_blamed hfaults rfl)
  intro hdr mid _
  cases hdr with
  | none => exact trivial
  | some hdr =>
    simp only [wp_ite]
    split_ifs
    · exact recv_raw_packet_blamed hfaults
    · exact recv_body_blamed hfaults

theorem recv_gresb_packet_blamed : wp (recv_gresb_packet (traced E) id fd) (fun _ _ => True) (Blamed P) w := by
  simp only [recv_gresb_packet, wp_bind]
  apply wp_mono_post (peek_header_blamed hfaults rfl)
  intro hdr mid _
  cases hdr with
  | none => exact trivial
  | some hdr =>
    have hfits : ¬ gresb_get_spw_data_size hdr > MAX_SPW_PACKET_SIZE := by
      have hlt := gresb_get_spw_data_size_lt hdr
      simp only [MAX_SPW_PACKET_SIZE, rmap.RMAP_MAX_DATA_LEN]
      omega
    simp only [hfits, ↓reduceIte, wp_bind]
    apply wp_mono_post (recv_body_blamed hfaults)
    intro pkt mid _
    cases pkt with
    | none => exact trivial
    | some pkt =>
      simp only [malloc, wp_bind, wp_syscall]
      cases hbuf : ((traced E).malloc mid.env).1 with
      | false => exact drop_none_blamed ⟨_, malloc_recorded hbuf, hfaults.malloc⟩
      | true => exact trivial

/-- The data service drops its connection for an answer in the record. Datagrams
have none. -/
theorem net_recv_blamed (cfg : BridgeCfg) :
    wp (net_recv (traced E) cfg id fd) (fun _ after => Shrinks w after) (Blamed P) w := by
  have hshrinks := (within_net_recv network_shrinks.listens (traced E) cfg id fd).wp w
  suffices h : wp (net_recv (traced E) cfg id fd) (fun _ _ => True) (Blamed P) w from
    wp_mono (wp_and hshrinks h) (fun _ _ h => h.1) fun _ _ h => h.2
  unfold net_recv
  split_ifs <;> rw [wp_map]
  · simp only [recv_dgram_packet, wp_bind, wp_syscall]
    rcases ((traced E).fionread w.env fd).1 with _ | _ | avail
    · exact trivial
    · exact trivial
    · simp only [malloc, wp_bind, wp_syscall, wp_ite, wp_pure]
      split_ifs
      split <;> exact trivial
  · exact recv_pus_packet_blamed hfaults
  · exact recv_fee_packet_blamed hfaults
  · exact recv_gresb_packet_blamed hfaults
  · exact recv_raw_packet_blamed hfaults

end receiving

/-! ### Handlers that blame nobody -/

section rmap

variable {E : Env σ} {w : World σ} {cfg : BridgeCfg}

theorem wp_lift_not_exit {α : Type} {x : Except Fault α} {post : α → World σ → Prop}
    (hok : ∀ a, x = .ok a → post a w) : wp (lift x) post NotExit w := by
  cases x with
  | ok a => exact hok a rfl
  | error fault => exact Halt.noConfusion

/-- The RMAP service never ends the process: its drop functions do not. -/
theorem broadcast_rmap_not_exit (msg : List UInt8) : wp (broadcast E .rmap msg) (fun _ _ => True) NotExit w := by
  apply wp_broadcast _ trivial
  intro fd s _ _
  refine wp_mono (send_all_sends E fd msg s) ?_ fun halt _ hhang => ?_
  · intro ok sent _
    split
    · exact trivial
    · exact (wp_rmap_conn_drop E fd).mpr trivial
  · rw [hhang]
    exact Halt.noConfusion

theorem rmap_reply_to_clients_not_exit (buf : List UInt8) :
    wp (rmap_reply_to_clients E cfg buf) (fun _ _ => True) NotExit w := by
  simp only [rmap_reply_to_clients, alloc_pkt, malloc, wp_bind, wp_syscall, wp_pure]
  refine wp_lift_not_exit fun pkt _ => ?_
  cases pkt with
  | none => exact trivial
  | some pkt =>
    simp only [wp_bind, wp_syscall, wp_ite, wp_pure]
    split_ifs
    exact wp_lift_not_exit fun msg _ => broadcast_rmap_not_exit msg

theorem recv_exact_loop_not_exit (fd fuel : Nat) (got : List UInt8) (left : Nat) :
    wp (recv_exact_loop E fd fuel got left) (fun _ _ => True) NotExit w := by
  induction fuel generalizing got left w with
  | zero =>
    cases left with
    | zero => exact trivial
    | succ left => exact Halt.noConfusion
  | succ fuel ih =>
    cases left with
    | zero => exact trivial
    | succ left =>
      simp only [recv_exact_loop, recv, wp_bind, wp_syscall]
      rcases (E.recv w.env fd (left + 1) .none).1.clip (left + 1) with (_ | ⟨b, bs⟩) | errno
      · exact trivial
      · simp only [wp_bind, wp_syscall, wp_ite, wp_pure]
        split_ifs
        exact ih _ _
      · exact trivial

theorem rmap_issue_not_exit (hdr rec : List UInt8) : wp (rmap_issue E hdr rec) (fun _ _ => True) NotExit w := by
  have hcmd : ∀ dst op addr data, wp (spw_rmap_cmd E dst op addr data) (fun _ _ => True) NotExit w := by
    intro dst op addr data
    simp only [spw_rmap_cmd, wp_bind, wp_log_spw, wp_syscall]
    cases (E.RMAP_BuildCommandPacket w.env _).1 with
    | none => exact trivial
    | some pkt =>
      simp only [wp_bind, wp_tx_address]
      cases w.spw with
      | none => exact Halt.noConfusion
      | some st => exact trivial
  unfold rmap_issue
  split
  · exact hcmd _ _ _ _
  · exact hcmd _ _ _ _

theorem rmap_net_to_spw_not_exit (fd : Nat) : wp (rmap_net_to_spw E fd) (fun _ _ => True) NotExit w := by
  have hdrop : ∀ w, wp (rmap_conn_drop E fd) (fun _ _ => True) NotExit w := fun w =>
    (wp_rmap_conn_drop E fd).mpr trivial
  simp only [rmap_net_to_spw, peek_header, recv, wp_bind, wp_syscall]
  refine wp_expect (fun hdr _ _ => ?_) fun _ => hdrop _
  simp only [wp_ite]
  split_ifs
  · exact hdrop _
  · simp only [recv_body, malloc, wp_bind, wp_syscall, wp_ite]
    split_ifs
    · apply wp_mono_post (recv_exact_loop_not_exit fd _ [] _)
      intro r mid _
      exact wp_expect (fun rec _ _ => rmap_issue_not_exit hdr rec) fun _ => hdrop _
    · exact hdrop _

theorem register_sender_not_exit (id : SvcId) (client : Option SockaddrIn) :
    wp (register_sender E id client) (fun _ _ => True) NotExit w := by
  cases client with
  | none => exact trivial
  | some client =>
    simp only [register_sender, dgram_add_client, malloc, wp_bind, wp_get_svc, wp_ite, wp_pure, wp_syscall,
      wp_modify_svc, ite_self]

end rmap

/-! ### Handlers that may end the process -/

section handlers

variable {P : Answer → Prop} {E : Env σ} {cfg : BridgeCfg} {fd : Nat} {w : World (σ × List Answer)}

theorem spw_send_packet_chan_blamed (htransmission : P (.transmission false)) (chan : Chan) (buf : List UInt8) :
    wp (spw_send_packet_chan (traced E) chan buf) (fun _ after => after.svc = w.svc) (Blamed P) w := by
  have hcall : ∀ {s : List Answer} {ok : Bool}, ¬ ok = true → ∃ a ∈ s ++ [.transmission ok], P a := fun {s ok} hok =>
    ⟨.transmission ok, List.mem_append_right _ (List.mem_singleton_self _), by rwa [Bool.eq_false_iff.mpr hok]⟩
  simp only [spw_send_packet_chan, wp_bind, wp_log_spw, wp_tx_address, wp_exit_unless]
  cases w.spw with
  | none => exact Halt.noConfusion
  | some st =>
    dsimp only
    split_ifs with hpacket hoperation hsubmit hwait
    · exact fun _ => hcall hwait
    · exact fun _ => hcall hsubmit
    · exact fun _ => hcall hoperation
    · exact fun _ => hcall hpacket

/-- The data service. -/
theorem net_to_spw_blamed (hfaults : ReceiveFaults P fd) (hsniff : SendFaults P .sniff w)
    (htransmission : P (.transmission false)) :
    wp (net_to_spw (traced E) cfg .data fd) (fun _ _ => True) (Blamed P) w := by
  rw [net_to_spw, wp_bind]
  apply wp_mono_post (net_recv_blamed hfaults cfg)
  rintro (_ | ⟨pkt, client⟩) mid hmid
  · exact trivial
  · simp only [wp_bind]
    apply wp_mono_post (sniff_push_blamed (hsniff.shrinks hmid) cfg pkt)
    intro _ sniffed _
    rw [wp_bind]
    apply wp_mono_post (blamed_of_not_exit (register_sender_not_exit .data client))
    intro _ registered _
    split_ifs
    · exact trivial
    · exact wp_mono_post (spw_send_packet_chan_blamed htransmission false pkt) fun _ _ _ => trivial

/-- What clients send is discarded until nothing is left. -/
theorem gresb_rx_discard_blamed {id : SvcId}
    (hfaults : ∀ n flags r, (∀ b bs, r ≠ .bytes (b :: bs)) → r ≠ .error .EAGAIN → P (.recv fd n flags r)) :
    wp (gresb_rx_discard (traced E) id fd) (fun _ _ => True) (Blamed P) w := by
  simp only [gresb_rx_discard, wp_bind, wp_get]
  generalize (traced E).patience w.env = fuel
  induction fuel generalizing w with
  | zero => exact Halt.noConfusion
  | succ fuel ih =>
    simp only [gresb_rx_discard_loop, recv, wp_bind, wp_syscall]
    rcases hrecv : ((traced E).recv w.env fd 4096 .MSG_DONTWAIT).1.clip 4096 with (_ | ⟨b, bs⟩) | errno
    · exact conn_drop_blamed ⟨_, recv_recorded hrecv, hfaults _ _ _ (fun _ _ h => by cases h) fun h => by cases h⟩
    · exact ih
    · cases errno with
      | EAGAIN => exact trivial
      | EINTR | ETIMEDOUT | other =>
        exact conn_drop_blamed ⟨_, recv_recorded hrecv, hfaults _ _ _ (fun _ _ h => by cases h) fun h => by cases h⟩

/-- In client mode forwarding sends to the sniffer and on the data connection. -/
theorem net_forward_to_clients_blamed (hmode : cfg.mode = .MODE_CLIENT) (hsniff : SendFaults P .sniff w)
    (hdata : SendFaults P .data w) (buf : List UInt8) :
    wp (net_forward_to_clients (traced E) cfg buf) (fun _ _ => True) (Blamed P) w := by
  have hpush : ∀ after, wp (gresb_push_rx_clients (traced E) cfg buf) (fun _ _ => True) (Blamed P) after := by
    intro after
    simp [gresb_push_rx_clients, hmode]
  rw [net_forward_to_clients, wp_bind]
  apply wp_mono_post (sniff_push_blamed hsniff cfg buf)
  intro _ mid hmid
  rw [if_neg (by simp [hmode])]
  split_ifs
  · simp only [malloc, wp_bind, wp_syscall, gresb_create_host_data_pkt_eq]
    cases ((traced E).malloc mid.env).1 with
    | false => exact trivial
    | true =>
      simp only [↓reduceIte, wp_bind]
      have hcall : SendFaults P .data { mid with env := ((traced E).malloc mid.env).2 } := hdata.shrinks hmid
      exact wp_mono_post (broadcast_blamed hcall _) fun _ after _ => hpush after
  · exact wp_mono_post (broadcast_blamed (hdata.shrinks hmid) buf) fun _ _ _ => trivial

/-- A packet from the link, in either of the two sinks. -/
theorem pkt_sink_blamed (hmode : cfg.mode = .MODE_CLIENT) (hsniff : SendFaults P .sniff w)
    (hdata : SendFaults P .data w) (htransmission : P (.transmission false)) (chan : Chan) (pkt : List UInt8) :
    wp (pkt_sink (traced E) cfg chan pkt) (fun _ _ => True) (Blamed P) w := by
  rw [pkt_sink]
  split_ifs
  · simp only [spw_pkt_sink_monitor, wp_bind, wp_get]
    split_ifs
    · rw [wp_bind]
      apply wp_mono_post (spw_send_packet_chan_blamed htransmission _ _)
      intro _ mid hmid
      have hshrinks : Shrinks w mid := .of_svc hmid
      exact net_forward_to_clients_blamed hmode (hsniff.shrinks hshrinks) (hdata.shrinks hshrinks) _
    · exact net_forward_to_clients_blamed hmode hsniff hdata _
  · by_cases hlong : cfg.skip_header_bytes < pkt.length
    · by_cases hrmap : LooksRmap cfg pkt
      · have hrmap' : cfg.enable_rmap = true ∧ pkt.length > cfg.skip_header_bytes + 1 ∧
            byteAt pkt (cfg.skip_header_bytes + 1) = 0x1 := hrmap
        rw [net_pkt_sink, if_neg (Nat.not_le_of_lt hlong), if_pos hrmap']
        exact blamed_of_not_exit (rmap_reply_to_clients_not_exit pkt)
      · apply wp_net_pkt_sink_forward hlong hrmap
        intro s t _
        exact net_forward_to_clients_blamed (w := { w with env := s, pus_seq_rx := t }) hmode hsniff hdata _
    · rw [net_pkt_sink, if_pos (Nat.le_of_not_lt hlong)]
      exact trivial

end handlers

end spw_bridge
