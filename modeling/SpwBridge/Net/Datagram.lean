import SpwBridge.Net.Delivery
import SpwBridge.Net.Relay

open effect

namespace spw_bridge.net

variable {σ : Type} {sockfd : Nat}

/-- An environment in which a descriptor is a UDP socket with a queue of
datagrams and their senders. Allocations and the device work; sending to a
sniffer client may fail but ends. -/
structure DgramSocket (σ : Type) (sockfd : Nat) extends Env σ where
  queue : σ → List (List UInt8 × SockaddrIn)
  fionread_queue : ∀ s, (fionread s sockfd).1 = some ((queue s).head?.elim 0 fun dgram => dgram.1.length) ∧
    queue (fionread s sockfd).2 = queue s
  recvfrom_queue : ∀ {s dgram client rest} n, queue s = (dgram, client) :: rest →
    (recvfrom s sockfd n).1 = some (dgram.take n, client) ∧ queue (recvfrom s sockfd n).2 = rest
  malloc_queue : ∀ s, (malloc s).1 = true ∧ queue (malloc s).2 = queue s
  send_queue : ∀ s fd msg, queue (send s fd msg).2 = queue s
  send_ends : ∀ fd msg w after, send_all toEnv fd msg w ≠ .error .hang after
  close_queue : ∀ s fd, queue (close s fd) = queue s
  create_queue : ∀ s, (STAR_createPacket s).1 = true ∧ queue (STAR_createPacket s).2 = queue s
  operation_queue : ∀ s, (STAR_createTxOperation s).1 = true ∧ queue (STAR_createTxOperation s).2 = queue s
  submit_queue : ∀ s, (STAR_submitTransferOperation s).1 = true ∧
    queue (STAR_submitTransferOperation s).2 = queue s
  wait_queue : ∀ s, (STAR_waitOnTransferOperationCompletion s).1 = true ∧
    queue (STAR_waitOnTransferOperationCompletion s).2 = queue s

variable (S : DgramSocket σ sockfd)

/-- A stretch of a run that takes nothing from the queue and sends nothing to the
SpW side. -/
structure Undisturbed (w after : World σ) : Prop where
  queue : S.queue after.env = S.queue w.env
  is_client : after.is_client = w.is_client
  spw : after.spw = w.spw
  spw_log : after.spw_log = w.spw_log

instance : IsPreorder (World σ) (Undisturbed S) where
  refl _ := ⟨rfl, rfl, rfl, rfl⟩
  trans _ _ _ h h' :=
    ⟨h'.queue.trans h.queue, h'.is_client.trans h.is_client, h'.spw.trans h.spw, h'.spw_log.trans h.spw_log⟩

theorem undisturbed_silent (id : SvcId) : Silent S.toEnv id (Undisturbed S) where
  send _ _ _ := ⟨S.send_queue _ _ _, rfl, rfl, rfl⟩
  close _ _ := ⟨S.close_queue _ _, rfl, rfl, rfl⟩
  sent _ _ _ := ⟨rfl, rfl, rfl, rfl⟩
  closed _ _ := ⟨rfl, rfl, rfl, rfl⟩
  fd_clr _ _ := ⟨rfl, rfl, rfl, rfl⟩

/-- Without the shutdown of a client a broadcast returns. -/
theorem broadcast_undisturbed (id : SvcId) (msg : List UInt8) {w : World σ} (hclient : w.is_client = false) :
    wp (broadcast S.toEnv id msg) (fun _ after => Undisturbed S w after) (fun _ _ => False) w := by
  have hsilent := undisturbed_silent S id
  apply wp_broadcast _ (refl_of (Undisturbed S) w)
  intro fd s hs _
  have hsends : wp (send_all S.toEnv fd msg) (fun _ _ => True) (fun _ _ => False) s := by
    apply wp_of_run (fun _ _ _ => trivial)
    intro halt after hrun
    have hhang := (wp_error hrun).mp (send_all_sends S.toEnv fd msg s)
    rw [hhang] at hrun
    exact S.send_ends fd msg s after hrun
  have hframe : Within (Undisturbed S) (send_all S.toEnv fd msg) := by
    have hlog : Within (Undisturbed S) (log_net (.send_all fd msg)) := fun _ => ⟨rfl, rfl, rfl, rfl⟩
    refine within_bind hlog fun _ => within_bind within_get fun w => ?_
    exact within_send_all_loop hsilent fd _ msg
  refine wp_mono (wp_and hsends (hframe.wp s)) ?_ fun _ _ h => h.1
  rintro ok sent ⟨_, hsent⟩
  have hall := trans_of (Undisturbed S) hs hsent
  split
  · exact hall
  · have hstays : ¬ (id ≠ .rmap ∧ sent.is_client = true) := by simp [hall.is_client, hclient]
    have hdropped : Undisturbed S sent (dropped S.toEnv id fd sent) := ⟨S.close_queue _ _, rfl, rfl, rfl⟩
    rw [wp_drop_locked, if_neg hstays]
    exact trans_of (Undisturbed S) hall hdropped

theorem sniff_push_undisturbed (cfg : BridgeCfg) (pkt : List UInt8) {w : World σ} (hclient : w.is_client = false) :
    wp (sniff_push S.toEnv cfg pkt) (fun _ after => Undisturbed S w after) (fun _ _ => False) w := by
  have halloc := S.malloc_queue w.env
  simp only [sniff_push, malloc, wp_bind, wp_get_svc, wp_ite, wp_syscall, wp_pure, gresb_create_host_data_pkt_eq,
    halloc.1, ↓reduceIte]
  split_ifs
  · exact refl_of (Undisturbed S) w
  · have hgranted : Undisturbed S w { w with env := (S.malloc w.env).2 } := ⟨halloc.2, rfl, rfl, rfl⟩
    refine wp_mono_post (broadcast_undisturbed S .sniff _ (w := { w with env := _ }) hclient) ?_
    intro _ after hafter
    exact trans_of (Undisturbed S) hgranted hafter
  · exact broadcast_undisturbed S .sniff pkt hclient

theorem dgram_add_client_undisturbed (id : SvcId) (client : SockaddrIn) (w : World σ) :
    wp (dgram_add_client S.toEnv id client) (fun _ after => Undisturbed S w after) (fun _ _ => False) w := by
  have halloc := S.malloc_queue w.env
  simp only [dgram_add_client, malloc, wp_bind, wp_get_svc, wp_ite, wp_syscall, wp_pure, wp_modify_svc, halloc.1,
    ↓reduceIte]
  split_ifs
  · exact refl_of (Undisturbed S) w
  · exact ⟨halloc.2, rfl, rfl, rfl⟩
  · exact ⟨halloc.2, rfl, rfl, rfl⟩
  · exact ⟨rfl, rfl, rfl, rfl⟩

/-- One stretch of a run on the socket: it removes `n` datagrams from the queue
and hands `calls` to the SpW side. -/
structure Received (n : Nat) (calls : List SpwCall) (w after : World σ) : Prop where
  queue : S.queue after.env = (S.queue w.env).drop n
  is_client : after.is_client = w.is_client
  spw : after.spw = w.spw
  handed : handed after.spw_log = net.handed w.spw_log ++ calls

variable {S}

theorem Undisturbed.received {w after : World σ} (hsame : Undisturbed S w after) : Received S 0 [] w after where
  queue := hsame.queue
  is_client := hsame.is_client
  spw := hsame.spw
  handed := by rw [hsame.spw_log, List.append_nil]

theorem Received.trans {m n : Nat} {calls calls' : List SpwCall} {w mid after : World σ}
    (hfirst : Received S m calls w mid) (hrest : Received S n calls' mid after) :
    Received S (m + n) (calls ++ calls') w after where
  queue := by rw [hrest.queue, hfirst.queue, List.drop_drop]
  is_client := hrest.is_client.trans hfirst.is_client
  spw := hrest.spw.trans hfirst.spw
  handed := by rw [hrest.handed, hfirst.handed, List.append_assoc]

theorem spw_send_packet_dgram (pkt : List UInt8) {w : World σ} {st : SpwState} (hst : w.spw = some st) :
    wp (spw_send_packet S.toEnv pkt) (fun _ after => Received S 0 [.send_packet false pkt] w after)
      (fun _ _ => False) w := by
  have hcreate := S.create_queue w.env
  have hoperation := S.operation_queue (S.STAR_createPacket w.env).2
  have hsubmit := S.submit_queue (S.STAR_createTxOperation (S.STAR_createPacket w.env).2).2
  have hwait := S.wait_queue
    (S.STAR_submitTransferOperation (S.STAR_createTxOperation (S.STAR_createPacket w.env).2).2).2
  simp only [spw_send_packet, spw_send_packet_chan, wp_bind, wp_log_spw, wp_tx_address, hst, wp_exit_unless,
    hcreate.1, hoperation.1, hsubmit.1, hwait.1, ↓reduceIte]
  refine ⟨?_, rfl, hst.symm, by simp [handed]⟩
  rw [hwait.2, hsubmit.2, hoperation.2, hcreate.2, List.drop_zero]

/-- A datagram at the head of the queue is received whole. -/
theorem recv_dgram_packet_head {dgram : List UInt8} {client : SockaddrIn} {rest : List (List UInt8 × SockaddrIn)}
    (hdgram : dgram ≠ []) {w : World σ} (hqueue : S.queue w.env = (dgram, client) :: rest) :
    wp (recv_dgram_packet S.toEnv sockfd)
      (fun received after => received = some (dgram, client) ∧ ∃ s, after = { w with env := s } ∧ S.queue s = rest)
      (fun _ _ => False) w := by
  obtain ⟨havail, hkept⟩ := S.fionread_queue w.env
  obtain ⟨halloc, hkept'⟩ := S.malloc_queue (S.fionread w.env sockfd).2
  rw [hqueue] at hkept
  rw [hkept] at hkept'
  obtain ⟨b, bs, rfl⟩ := List.exists_cons_of_ne_nil hdgram
  obtain ⟨hreceived, hremoved⟩ := S.recvfrom_queue (b :: bs).length hkept'
  rw [List.take_length] at hreceived
  rw [hqueue] at havail
  simp only [List.head?_cons, Option.elim_some, List.length_cons] at havail hreceived hremoved
  simp only [recv_dgram_packet, malloc, wp_bind, wp_syscall, havail, halloc, ↓reduceIte, hreceived, wp_pure]
  refine ⟨?_, _, rfl, hremoved⟩
  rw [List.take_of_length_le (Nat.le_of_eq (List.length_cons))]

/-- An empty datagram is not told from an empty queue, and stays. -/
theorem recv_dgram_packet_empty {w : World σ}
    (hempty : (S.queue w.env).head?.elim 0 (fun dgram => dgram.1.length) = 0) :
    wp (recv_dgram_packet S.toEnv sockfd)
      (fun received after => received = none ∧ Undisturbed S w after) (fun _ _ => False) w := by
  obtain ⟨havail, hkept⟩ := S.fionread_queue w.env
  rw [hempty] at havail
  simp only [recv_dgram_packet, wp_bind, wp_syscall, havail, wp_pure]
  exact ⟨trivial, hkept, rfl, rfl, rfl⟩

section calls

variable {cfg : BridgeCfg} (hmode : cfg.mode = .MODE_DGRAM) {w : World σ}

include hmode

/-- One call with a datagram at the head of the queue. -/
theorem net_to_spw_dgram (hmonitor : cfg.enable_monitor = false) (hclient : w.is_client = false) {st : SpwState}
    (hst : w.spw = some st) {dgram : List UInt8} {client : SockaddrIn} {rest : List (List UInt8 × SockaddrIn)}
    (hdgram : dgram ≠ []) (hqueue : S.queue w.env = (dgram, client) :: rest) :
    wp (net_to_spw S.toEnv cfg .data sockfd) (fun _ after => Received S 1 [.send_packet false dgram] w after)
      (fun _ _ => False) w := by
  simp only [net_to_spw, net_recv, hmode, hmonitor, Bool.false_eq_true, ↓reduceIte, wp_bind, wp_map]
  apply wp_mono_post (recv_dgram_packet_head hdgram hqueue)
  rintro _ _ ⟨rfl, s, rfl, hrest⟩
  have htaken : Received S 1 [] w { w with env := s } :=
    ⟨by rw [hqueue]; exact hrest, rfl, rfl, (List.append_nil _).symm⟩
  simp only [Option.map_some, wp_bind, register_sender]
  apply wp_mono_post (sniff_push_undisturbed S cfg dgram (w := { w with env := s }) hclient)
  intro _ sniffed hsniffed
  rw [wp_bind]
  apply wp_mono_post (dgram_add_client_undisturbed S .data client sniffed)
  intro _ registered hregistered
  have hbefore := htaken.trans (hsniffed.received.trans hregistered.received)
  apply wp_mono_post (spw_send_packet_dgram dgram (hbefore.spw.trans hst))
  intro _ after hafter
  exact hbefore.trans hafter

/-- One call with an empty one there. -/
theorem net_to_spw_dgram_empty (hempty : (S.queue w.env).head?.elim 0 (fun dgram => dgram.1.length) = 0) :
    wp (net_to_spw S.toEnv cfg .data sockfd) (fun _ after => Undisturbed S w after) (fun _ _ => False) w := by
  simp only [net_to_spw, net_recv, hmode, ↓reduceIte, wp_bind, wp_map]
  apply wp_mono_post (recv_dgram_packet_empty hempty)
  rintro _ after ⟨rfl, hafter⟩
  exact hafter

end calls

/-- A number of calls of the handler, one after the other. -/
def net_to_spw_calls (E : Env σ) (cfg : BridgeCfg) (sockfd : Nat) : Nat → Prog σ Unit
  | 0 => pure ()
  | calls + 1 => do
    net_to_spw_calls E cfg sockfd calls
    net_to_spw E cfg .data sockfd

/-- The packets for the SpW side in a queue of datagrams. -/
def queued_packets (queue : List (List UInt8 × SockaddrIn)) : List SpwCall :=
  (queue.filter fun dgram => dgram.1 ≠ []).map fun dgram => .send_packet false dgram.1

/-- Each call removes one datagram from the queue as long as there are any, and
the ones with data are handed to the SpW side in order. -/
def Drains (S : DgramSocket σ sockfd) (cfg : BridgeCfg) (w : World σ) : Prop :=
  ∀ calls ≤ (S.queue w.env).length, wp (net_to_spw_calls S.toEnv cfg sockfd calls)
    (fun _ after => S.queue after.env = (S.queue w.env).drop calls ∧
      handed after.spw_log = handed w.spw_log ++ queued_packets ((S.queue w.env).take calls)) (fun _ _ => False) w

theorem queued_packets_take_succ {queue rest : List (List UInt8 × SockaddrIn)} {dgram : List UInt8}
    {client : SockaddrIn} (hdgram : dgram ≠ []) {calls : Nat} (hrest : queue.drop calls = (dgram, client) :: rest) :
    queued_packets (queue.take (calls + 1)) = queued_packets (queue.take calls) ++ [.send_packet false dgram] := by
  have hhead : queue[calls]? = some (dgram, client) := by
    rw [← List.head?_drop, hrest, List.head?_cons]
  rw [queued_packets, List.take_add_one, hhead, List.filter_append, List.map_append]
  simp [queued_packets, hdgram]

/-- Without empty datagrams the calls take one after the other. -/
theorem net_to_spw_calls_received {cfg : BridgeCfg} (hmode : cfg.mode = .MODE_DGRAM)
    (hmonitor : cfg.enable_monitor = false) {w : World σ} (hclient : w.is_client = false) {st : SpwState}
    (hst : w.spw = some st) (hfull : ∀ dgram ∈ S.queue w.env, dgram.1 ≠ []) {calls : Nat}
    (hcalls : calls ≤ (S.queue w.env).length) :
    wp (net_to_spw_calls S.toEnv cfg sockfd calls)
      (fun _ after => Received S calls (queued_packets ((S.queue w.env).take calls)) w after) (fun _ _ => False) w := by
  induction calls with
  | zero => exact ⟨rfl, rfl, rfl, (List.append_nil _).symm⟩
  | succ calls ih =>
    rw [net_to_spw_calls, wp_bind]
    apply wp_mono_post (ih (Nat.le_of_succ_le hcalls))
    intro _ mid hmid
    obtain ⟨⟨dgram, client⟩, rest, hrest⟩ : ∃ head rest, (S.queue w.env).drop calls = head :: rest := by
      refine List.exists_cons_of_ne_nil fun hnil => ?_
      rw [List.drop_eq_nil_iff] at hnil
      omega
    have hdgram : dgram ≠ [] := hfull (dgram, client) (List.mem_of_mem_drop (hrest ▸ List.mem_cons_self))
    apply wp_mono_post (net_to_spw_dgram hmode hmonitor (hmid.is_client.trans hclient) (hmid.spw.trans hst) hdgram
      (hmid.queue.trans hrest))
    intro _ after hafter
    rw [queued_packets_take_succ hdgram hrest]
    exact hmid.trans hafter

/-- The queue drains exactly when it holds no empty datagram: FIONREAD is zero
for one, and the handler returns without the `recvfrom()` that would remove
it. -/
theorem dgram_drains_iff (S : DgramSocket σ sockfd) {cfg : BridgeCfg} (hmode : cfg.mode = .MODE_DGRAM)
    (hmonitor : cfg.enable_monitor = false) {w : World σ} (hclient : w.is_client = false)
    (hready : spw_link_ready cfg w = true) :
    Drains S cfg w ↔ ∀ dgram ∈ S.queue w.env, dgram.1 ≠ [] := by
  constructor
  · rintro hdrains ⟨_, client⟩ hmem rfl
    obtain ⟨calls, hlt, hget⟩ := List.getElem_of_mem hmem
    have hbefore := hdrains calls (Nat.le_of_lt hlt)
    have hnext := hdrains (calls + 1) hlt
    rw [net_to_spw_calls, wp_bind] at hnext
    obtain ⟨_, mid, _, ⟨hmid, _⟩, hlast⟩ := ok_of_wp_and hbefore hnext
    have hempty : (S.queue mid.env).head?.elim 0 (fun dgram => dgram.1.length) = 0 := by
      rw [hmid, List.head?_drop, List.getElem?_eq_getElem hlt, hget]
      rfl
    have hstuck := net_to_spw_dgram_empty hmode hempty
    obtain ⟨_, after, _, ⟨hafter, _⟩, hsame⟩ :=
      ok_of_wp_and hlast hstuck
    have hlength := congrArg List.length (hafter.symm.trans (hsame.queue.trans hmid))
    simp only [List.length_drop] at hlength
    omega
  · intro hfull calls hcalls
    obtain ⟨st, hst⟩ := spw_some_of_ready hready
    apply wp_mono_post (net_to_spw_calls_received hmode hmonitor hclient hst hfull hcalls)
    intro _ after hafter
    exact ⟨hafter.queue, hafter.handed⟩

/-- A UDP socket on which nothing fails. -/
def dgramEnv : Env (List (List UInt8 × SockaddrIn)) where
  recv s _ _ _ := (.error .EAGAIN, s)
  fionread s _ := (some (s.head?.elim 0 fun dgram => dgram.1.length), s)
  recvfrom s _ n := (s.head?.map fun dgram => (dgram.1.take n, dgram.2), s.tail)
  send s _ buf := (.sent buf.length, s)
  sendto s _ _ _ := s
  close s _ := s
  select s watched := (if s = [] then ∅ else watched, s)
  malloc s := (true, s)
  deadline_expired s := (false, s)
  patience _ := 1
  device s := (true, s)
  STAR_openChannel s number := (number + 1, s)
  STAR_createPacket s := (true, s)
  STAR_createTxOperation s := (true, s)
  STAR_submitTransferOperation s := (true, s)
  STAR_waitOnTransferOperationCompletion s := (true, s)
  STAR_transmitPacket s := (true, s)
  RMAP_BuildCommandPacket s _ := (some [], s)

def dgramSocket (sockfd : Nat) : DgramSocket (List (List UInt8 × SockaddrIn)) sockfd where
  toEnv := dgramEnv
  queue s := s
  fionread_queue _ := ⟨rfl, rfl⟩
  recvfrom_queue := by
    rintro _ dgram client rest n rfl
    exact ⟨rfl, rfl⟩
  malloc_queue _ := ⟨rfl, rfl⟩
  send_queue _ _ _ := rfl
  send_ends fd msg w after hhang := by
    obtain ⟨sent, hsent⟩ := send_all_takes_all (E := dgramEnv) (fun _ _ _ => rfl) (fun _ => rfl) fd msg w
    rw [hsent] at hhang
    cases hhang
  close_queue _ _ := rfl
  create_queue _ := ⟨rfl, rfl⟩
  operation_queue _ := ⟨rfl, rfl⟩
  submit_queue _ := ⟨rfl, rfl⟩
  wait_queue _ := ⟨rfl, rfl⟩

/-- The bridge in UDP mode with its socket on descriptor 4. -/
def dgramWorld (queue : List (List UInt8 × SockaddrIn)) : World (List (List UInt8 × SockaddrIn)) :=
  { World.fresh queue with
    svc := Function.update (World.fresh queue).svc .data ⟨4, {4}, 5, [], 0⟩
    spw := some ⟨[0xfe], fun chan => if chan then 0 else 1⟩ }

def dgramCfg : BridgeCfg := { bridge_cfg_init [] with mode := .MODE_DGRAM }

theorem dgram_drains_iff_two :
    Drains (dgramSocket 4) dgramCfg (dgramWorld [([1], ⟨0, 1⟩), ([2, 3], ⟨0, 2⟩)]) ↔
      ∀ dgram ∈ [([(1 : UInt8)], (⟨0, 1⟩ : SockaddrIn)), ([2, 3], ⟨0, 2⟩)], dgram.1 ≠ [] :=
  dgram_drains_iff (dgramSocket 4) rfl rfl rfl rfl

/-- An empty datagram in front: two calls leave both datagrams where they are and
transmit nothing. -/
theorem dgram_empty_stays :
    (∃ after, net_to_spw_calls dgramEnv dgramCfg 4 2 (dgramWorld [([], ⟨0, 1⟩), ([2, 3], ⟨0, 2⟩)]) = .ok () after ∧
        after.env = [([], ⟨0, 1⟩), ([2, 3], ⟨0, 2⟩)] ∧ after.spw_log = []) ∧
      ¬ Drains (dgramSocket 4) dgramCfg (dgramWorld [([], ⟨0, 1⟩), ([2, 3], ⟨0, 2⟩)]) := by
  refine ⟨⟨_, rfl, rfl, rfl⟩, fun hdrains => ?_⟩
  have hdrained : [([], ⟨0, 1⟩), ([2, 3], ⟨0, 2⟩)] = ([] : List (List UInt8 × SockaddrIn)) ∧ _ :=
    hdrains 2 (Nat.le_refl 2)
  exact absurd hdrained.1 (List.cons_ne_nil _ _)

end spw_bridge.net
