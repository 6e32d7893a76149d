import Mathlib.Data.Finset.Lattice.Lemmas
import SpwBridge.Net.Delivery

open effect framing

namespace spw_bridge.net

variable {sockfd : Nat} {build : RmapRequest → Option (List UInt8)}

/-! ### Rounds of the service -/

/-- The service polls the connection. -/
structure Polled (cfg : BridgeCfg) (id : SvcId) (sockfd : Nat) (w : World TcpState) : Prop where
  link : spw_link_ready cfg w = true
  member : sockfd ∈ watched (w.svc id)

theorem Polled.same {cfg : BridgeCfg} {id : SvcId} {w after : World TcpState} (hpolled : Polled cfg id sockfd w)
    (hsvc : after.svc = w.svc) (hspw : after.spw = w.spw) : Polled cfg id sockfd after where
  link := by
    have hlink := hpolled.link
    unfold spw_link_ready at hlink ⊢
    rwa [hspw]
  member := by
    rw [hsvc]
    exact hpolled.member

theorem Polled.delivered {cfg : BridgeCfg} {id : SvcId} {w after : World TcpState} {n : Nat}
    {calls : List SpwCall} (hpolled : Polled cfg id sockfd w) (hdelivered : Delivered n calls w after) :
    Polled cfg id sockfd after :=
  hpolled.same hdelivered.svc hdelivered.spw

theorem Polled.spw {cfg : BridgeCfg} {id : SvcId} {w : World TcpState} (hpolled : Polled cfg id sockfd w) :
    ∃ st, w.spw = some st := by
  have hlink := hpolled.link
  unfold spw_link_ready at hlink
  cases hst : w.spw with
  | none => simp [hst] at hlink
  | some st => exact ⟨st, rfl⟩

/-- A round in which the connection is not reported. -/
theorem poll_socket_idle {cfg : BridgeCfg} {id : SvcId} {w : World TcpState} {handle : Nat → Prog TcpState Unit}
    (hidle : w.env.select.queue = [] ∨ sockfd ∉ (w.svc id).conn_set) :
    wp (poll_socket (tcpEnv sockfd build) cfg id handle)
      (fun _ after => (spw_link_ready cfg w = true → after.env = w.env.select) ∧ Delivered 0 [] w after)
      (fun _ _ => False) w := by
  by_cases hlink : spw_link_ready cfg w = true
  swap
  · simp only [poll_socket, poll_socket_ready, wp_bind, wp_get, hlink, Bool.false_eq_true, ↓reduceIte, wp_pure,
      List.forM_nil]
    exact ⟨False.elim, Delivered.refl w⟩
  have hselect : (tcpEnv sockfd build).select w.env (watched (w.svc id)) = (∅, w.env.select) := by
    rcases hidle with hempty | hgone
    · simp [tcpEnv, hempty]
    · have hout : watched (w.svc id) ∩ {sockfd} = ∅ :=
        Finset.inter_singleton_of_notMem fun hmem => hgone (Finset.mem_filter.mp hmem).1
      simp [tcpEnv, hout]
  have hnone : ((List.range (w.svc id).nfds).filter fun fd =>
      fd ∈ (∅ : Finset Nat) ∩ watched (w.svc id) ∧ fd ∈ (w.svc id).conn_set) = [] := by
    simp
  simp only [poll_socket, poll_socket_ready, wp_bind, wp_get, hlink, ↓reduceIte, wp_get_svc, wp_log_net,
    wp_syscall, hselect, wp_pure, hnone, List.forM_nil]
  exact ⟨fun _ => trivial, w.env.select_took, rfl, rfl, (List.append_nil _).symm⟩

/-- A round in which it is. -/
theorem poll_socket_ready_tcp {cfg : BridgeCfg} {id : SvcId} {w : World TcpState}
    {handle : Nat → Prog TcpState Unit} {post : Unit → World TcpState → Prop}
    {fails : Halt → World TcpState → Prop} (hpolled : Polled cfg id sockfd w) (hready : w.env.select.queue ≠ [])
    (hhandle : ∀ calls, wp (handle sockfd) post fails { w with env := w.env.select, net_log := calls }) :
    wp (poll_socket (tcpEnv sockfd build) cfg id handle) post fails w := by
  have hselect : (tcpEnv sockfd build).select w.env (watched (w.svc id)) =
      (watched (w.svc id) ∩ {sockfd}, w.env.select) := by
    simp [tcpEnv, hready]
  obtain ⟨hconn, hlt⟩ : sockfd ∈ (w.svc id).conn_set ∧ sockfd < (w.svc id).nfds := by
    simpa [watched] using hpolled.member
  have hone : ((List.range (w.svc id).nfds).filter fun fd =>
      fd ∈ watched (w.svc id) ∩ {sockfd} ∩ watched (w.svc id) ∧ fd ∈ (w.svc id).conn_set) = [sockfd] := by
    rw [List.filter_congr (q := fun fd => fd = sockfd), List.filter_eq,
      List.count_eq_one_of_mem List.nodup_range (List.mem_range.mpr hlt)]
    · rfl
    · intro fd _
      by_cases hfd : fd = sockfd
      · subst hfd
        simp [hconn, hpolled.member]
      · simp [hfd]
  simp only [poll_socket, poll_socket_ready, wp_bind, wp_get, hpolled.link, ↓reduceIte, wp_get_svc, wp_log_net,
    wp_syscall, hselect, wp_pure, hone, List.forM_cons, List.forM_nil]
  exact hhandle _

/-- The loop of the service's thread, for a number of rounds. -/
def polls {σ : Type} (E : Env σ) (cfg : BridgeCfg) (id : SvcId) : Nat → Prog σ Unit
  | 0 => pure ()
  | rounds + 1 => do
    poll_socket E cfg id (handle_pkt E cfg id)
    polls E cfg id rounds

section rounds

variable {cfg : BridgeCfg} {id : SvcId} {kind : StreamKind} {w : World TcpState}

/-- One round hands on the first packet once its header is there. -/
theorem poll_socket_frame (hkind : framing cfg id = some kind) (hactive : cfg.enable_monitor = false ∨ id = .rmap)
    (hpolled : Polled cfg id sockfd w) {frame rest : List UInt8} (hframe : kind.Packet frame)
    (hunread : w.env.unread = frame ++ rest) (hwire : [] ∉ w.env.wire)
    (hheader : kind.format.hdr ≤ w.env.select.queue.length) :
    wp (poll_socket (tcpEnv sockfd build) cfg id (handle_pkt (tcpEnv sockfd build) cfg id))
      (fun _ after => Delivered frame.length [kind.call frame] w after) (fun _ _ => False) w := by
  have hready : w.env.select.queue ≠ [] :=
    List.ne_nil_of_length_pos (Nat.lt_of_lt_of_le kind.format.hdr_pos hheader)
  have hselect := w.env.select_took
  obtain ⟨st, hst⟩ := hpolled.spw
  refine poll_socket_ready_tcp hpolled hready fun calls => ?_
  have harrived : Arrived kind frame rest w.env.select :=
    ⟨hframe, hselect.unread.trans hunread, hheader, fun hmem => hwire (hselect.wire.mem hmem)⟩
  refine wp_mono_post (handle_pkt_tcp (w := { w with env := w.env.select, net_log := calls }) hkind hactive harrived
    hst) fun _ after hafter => ?_
  have hselected : Delivered 0 [] w { w with env := w.env.select, net_log := calls } :=
    ⟨hselect, rfl, rfl, (List.append_nil _).symm⟩
  exact hselected.idle_trans hafter

theorem frames_eq_nil {frames : List (List UInt8)} (hframes : ∀ frame ∈ frames, kind.Packet frame)
    (hnone : frames.flatten = []) : frames = [] := by
  cases frames with
  | nil => rfl
  | cons frame frames =>
    have hle := (hframes frame List.mem_cons_self).1.hdr_le_length
    have hpos := kind.format.hdr_pos
    have hempty := List.flatten_eq_nil_iff.mp hnone frame List.mem_cons_self
    rw [hempty, List.length_nil] at hle
    omega

/-- As long as no segment ends inside a header, the rounds hand on every packet:
each one takes the next packet or uses up the schedule. -/
theorem polls_frames (hkind : framing cfg id = some kind) (hactive : cfg.enable_monitor = false ∨ id = .rmap)
    {rounds : Nat} (hpolled : Polled cfg id sockfd w) {frames : List (List UInt8)}
    (hframes : ∀ frame ∈ frames, kind.Packet frame) (hunread : w.env.unread = frames.flatten)
    (hwire : [] ∉ w.env.wire) (huncut : kind.format.Uncut frames w.env.wire)
    (hrounds : w.env.sched.length + frames.length ≤ rounds) :
    wp (polls (tcpEnv sockfd build) cfg id rounds)
      (fun _ after => handed after.spw_log = handed w.spw_log ++ frames.map kind.call) (fun _ _ => False) w := by
  induction rounds generalizing w frames with
  | zero =>
    obtain rfl : frames = [] := List.eq_nil_of_length_eq_zero (by omega)
    simp [polls]
  | succ rounds ih =>
    rw [polls, wp_bind]
    have hselect := w.env.select_took
    by_cases hidle : w.env.select.queue = []
    · apply wp_mono_post (poll_socket_idle (Or.inl hidle))
      rintro _ after ⟨henv, hafter⟩
      have hless : after.env.sched.length + frames.length ≤ rounds := by
        rcases TcpState.select_idle hwire hidle with ⟨hdone, hsched⟩ | hless
        · have hnone : frames = [] := frames_eq_nil hframes (hunread.symm.trans hdone)
          have hsched' := hafter.took.sched.length_le
          rw [hsched, List.length_nil] at hsched'
          rw [hnone, List.length_nil]
          omega
        · rw [henv hpolled.link]
          omega
      refine wp_mono_post (ih (hpolled.delivered hafter) hframes (hafter.took.unread.trans hunread)
        (fun hmem => hwire (hafter.took.wire.mem hmem)) (huncut.suffix List.suffix_rfl hafter.took.wire) hless)
        fun _ last hlast => ?_
      rw [hlast, hafter.handed, List.append_nil]
    · have hlength := congrArg List.length (hselect.unread.trans hunread)
      have hsome := List.length_pos_of_ne_nil hidle
      rw [TcpState.length_unread] at hlength
      cases frames with
      | nil =>
        rw [List.flatten_nil, List.length_nil] at hlength
        omega
      | cons frame frames =>
        have hheader : kind.format.hdr ≤ w.env.select.queue.length := by
          rcases huncut _ List.suffix_rfl _ hselect.wire with hover | hheader <;> omega
        refine wp_mono_post (poll_socket_frame hkind hactive hpolled (hframes frame List.mem_cons_self) hunread hwire
          hheader) fun _ after hafter => ?_
        have hsched := hafter.took.sched.length_le
        have hrest : after.env.unread = frames.flatten := by
          rw [hafter.took.unread, hunread, List.flatten_cons, List.drop_left]
        refine wp_mono_post (ih (hpolled.delivered hafter) (fun other hother => hframes other
          (List.mem_cons_of_mem _ hother)) hrest (fun hmem => hwire (hafter.took.wire.mem hmem))
          (huncut.suffix (List.suffix_cons _ _) hafter.took.wire) ?_) fun _ last hlast => ?_
        · simp only [List.length_cons] at hrounds
          omega
        · rw [hlast, hafter.handed, List.append_assoc]
          rfl

/-- A connection that was dropped hands on nothing more. -/
theorem polls_gone (rounds : Nat) (hgone : sockfd ∉ (w.svc id).conn_set) :
    wp (polls (tcpEnv sockfd build) cfg id rounds) (fun _ after => handed after.spw_log = handed w.spw_log)
      (fun _ _ => False) w := by
  induction rounds generalizing w with
  | zero => exact rfl
  | succ rounds ih =>
    rw [polls, wp_bind]
    apply wp_mono_post (poll_socket_idle (Or.inr hgone))
    rintro _ after ⟨_, hafter⟩
    have hgone' : sockfd ∉ (after.svc id).conn_set := by rwa [hafter.svc]
    refine wp_mono_post (ih hgone') fun _ last hlast => ?_
    rw [hlast, hafter.handed, List.append_nil]

/-- When the last segment to arrive ends inside a header, the packets before it
are all that is ever handed on. -/
theorem polls_cut (hkind : framing cfg id = some kind) (hactive : cfg.enable_monitor = false ∨ id = .rmap)
    (rounds : Nat) (hpolled : Polled cfg id sockfd w) {frames : List (List UInt8)} {part : List UInt8}
    (hframes : ∀ frame ∈ frames, kind.Packet frame) (hidle : w.env.sched = [])
    (hqueue : w.env.queue = frames.flatten ++ part) (hwire : [] ∉ w.env.wire) (hpart : part ≠ [])
    (hcut : part.length < kind.format.hdr) :
    wp (polls (tcpEnv sockfd build) cfg id rounds)
      (fun _ after => handed after.spw_log <+: handed w.spw_log ++ frames.map kind.call)
      (fun _ after => handed after.spw_log <+: handed w.spw_log ++ frames.map kind.call) w := by
  induction rounds generalizing w frames with
  | zero => exact List.prefix_append _ _
  | succ rounds ih =>
    rw [polls, wp_bind]
    have hsome : w.env.queue ≠ [] := by simp [hqueue, hpart]
    have hselect := TcpState.select_eq hidle hsome
    cases frames with
    | nil =>
      simp only [List.flatten_nil, List.nil_append] at hqueue
      simp only [List.map_nil, List.append_nil]
      refine poll_socket_ready_tcp hpolled (by rwa [hselect]) fun calls => ?_
      rw [hselect]
      refine wp_mono (handle_pkt_cut (w := { w with env := w.env, net_log := calls }) hkind hidle hsome
        (by rwa [hqueue])) (fun _ mid hmid => ?_) fun _ after hafter => ?_
      · refine wp_mono (polls_gone rounds hmid.1) (fun _ after hafter => ?_) fun _ _ h => h.elim
        rw [hafter, hmid.2]
      · rw [hafter]
    | cons frame frames =>
      obtain ⟨hframe, hrest⟩ := List.forall_mem_cons.mp hframes
      have hunread : w.env.unread = frame ++ (frames.flatten ++ part ++ w.env.wire.flatten) := by
        simp [TcpState.unread, hqueue]
      have hlength : frame.length < w.env.queue.length := by
        have hpos := List.length_pos_of_ne_nil hpart
        simp only [hqueue, List.flatten_cons, List.length_append]
        omega
      have hheader : kind.format.hdr ≤ w.env.select.queue.length := by
        have hle := hframe.1.hdr_le_length
        rw [hselect]
        omega
      refine wp_mono (poll_socket_frame hkind hactive hpolled hframe hunread hwire hheader)
        (fun _ mid hmid => ?_) fun _ _ h => h.elim
      -- nothing arrived meanwhile, so the queue has just lost the packet
      have hwire' := hmid.took.lazy hidle hlength
      have hqueue' : mid.env.queue = frames.flatten ++ part := by
        have hleft := hmid.took.unread
        rw [hunread, List.drop_left, TcpState.unread, hwire'] at hleft
        exact List.append_cancel_right hleft
      have hnext := ih (hpolled.delivered hmid) hrest (List.suffix_nil.mp (hidle ▸ hmid.took.sched)) hqueue'
        (by rwa [hwire'])
      have hcalls : handed mid.spw_log ++ frames.map kind.call =
          handed w.spw_log ++ (frame :: frames).map kind.call := by
        rw [hmid.handed, List.append_assoc]
        rfl
      rwa [hcalls] at hnext

end rounds

end spw_bridge.net
