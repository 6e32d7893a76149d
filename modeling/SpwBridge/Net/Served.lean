import SpwBridge.Net.Service

open effect

namespace spw_bridge.net

variable {σ : Type}

/-- The messages that a stretch of the network log hands to `send_all`, with
their descriptors. -/
def messages (calls : List NetCall) : List (Nat × List UInt8) :=
  calls.filterMap fun
    | .send_all sockfd msg => some (sockfd, msg)
    | _ => none

@[simp] theorem messages_append (calls calls' : List NetCall) :
    messages (calls ++ calls') = messages calls ++ messages calls' :=
  List.filterMap_append

/-- The datagrams of such a stretch, with the peers that they go to. -/
def datagrams (calls : List NetCall) : List (SockaddrIn × List UInt8) :=
  calls.filterMap fun
    | .sendto client msg => some (client, msg)
    | _ => none

@[simp] theorem datagrams_append (calls calls' : List NetCall) :
    datagrams (calls ++ calls') = datagrams calls ++ datagrams calls' :=
  List.filterMap_append

/-- A stretch of a run that hands out messages and datagrams and changes nothing
else of the bridge. -/
def Sends (msgs : List (Nat × List UInt8)) (dgrams : List (SockaddrIn × List UInt8)) (w after : World σ) : Prop :=
  ∃ s calls, after = { w with env := s, net_log := w.net_log ++ calls } ∧ messages calls = msgs ∧
    datagrams calls = dgrams

section sends

variable {msgs msgs' : List (Nat × List UInt8)} {dgrams dgrams' : List (SockaddrIn × List UInt8)}
  {w mid after : World σ}

theorem Sends.log (s : σ) (call : NetCall) :
    Sends (messages [call]) (datagrams [call]) w { w with env := s, net_log := w.net_log ++ [call] } :=
  ⟨s, [call], rfl, rfl, rfl⟩

theorem Sends.env (s : σ) : Sends [] [] w { w with env := s } := ⟨s, [], by rw [List.append_nil], rfl, rfl⟩

theorem Sends.refl (w : World σ) : Sends [] [] w w := Sends.env w.env

theorem Sends.trans (hfirst : Sends msgs dgrams w mid) (hrest : Sends msgs' dgrams' mid after) :
    Sends (msgs ++ msgs') (dgrams ++ dgrams') w after := by
  obtain ⟨s, calls, rfl, rfl, rfl⟩ := hfirst
  obtain ⟨s', calls', rfl, rfl, rfl⟩ := hrest
  exact ⟨s', calls ++ calls', by rw [List.append_assoc], messages_append _ _, datagrams_append _ _⟩

/-- Nothing is handed out before the rest. -/
theorem Sends.idle_trans (hfirst : Sends [] [] w mid) (hrest : Sends msgs dgrams mid after) :
    Sends msgs dgrams w after := hfirst.trans hrest

theorem Sends.svc (hsends : Sends msgs dgrams w after) : after.svc = w.svc := by
  obtain ⟨s, calls, rfl, _⟩ := hsends
  rfl

theorem Sends.messages_eq (hsends : Sends msgs dgrams w after) :
    messages after.net_log = messages w.net_log ++ msgs := by
  obtain ⟨s, calls, rfl, rfl, _⟩ := hsends
  exact messages_append _ _

theorem Sends.datagrams_eq (hsends : Sends msgs dgrams w after) :
    datagrams after.net_log = datagrams w.net_log ++ dgrams := by
  obtain ⟨s, calls, rfl, _, rfl⟩ := hsends
  exact datagrams_append _ _

end sends

/-! ### What a broadcast sends -/

/-- Sending to one client hands over no message but its own and changes no
connection set. -/
theorem send_all_loop_sends (E : Env σ) (sockfd fuel : Nat) (buf : List UInt8) (w : World σ) :
    wp (send_all_loop E sockfd fuel buf) (fun _ after => Sends [] [] w after) (fun halt _ => halt = .hang) w := by
  induction fuel generalizing buf w with
  | zero =>
    cases buf with
    | nil => exact Sends.refl w
    | cons b buf => exact rfl
  | succ fuel ih =>
    cases buf with
    | nil => exact Sends.refl w
    | cons b buf =>
      simp only [send_all_loop, wp_bind, wp_syscall]
      cases (E.send w.env sockfd (b :: buf)).1 with
      | sent n =>
        simp only [wp_bind, wp_log_net]
        apply wp_mono_post (ih _ _)
        intro ok after hafter
        exact (Sends.log _ (.sent sockfd _)).idle_trans hafter
      | error errno =>
        cases errno with
        | EINTR =>
          apply wp_mono_post (ih _ _)
          intro ok after hafter
          exact (Sends.env _).idle_trans hafter
        | EAGAIN | ETIMEDOUT | other => exact Sends.env _

theorem send_all_sends (E : Env σ) (sockfd : Nat) (msg : List UInt8) (w : World σ) :
    wp (send_all E sockfd msg) (fun _ after => Sends [(sockfd, msg)] [] w after) (fun halt _ => halt = .hang) w := by
  simp only [send_all, wp_bind, wp_log_net, wp_get]
  apply wp_mono_post (send_all_loop_sends E sockfd _ msg _)
  intro ok after hafter
  exact (Sends.log w.env (.send_all sockfd msg)).trans hafter

theorem send_all_messages (E : Env σ) (sockfd : Nat) (msg : List UInt8) (w : World σ) :
    wp (send_all E sockfd msg)
      (fun _ after => after.svc = w.svc ∧ messages after.net_log = messages w.net_log ++ [(sockfd, msg)])
      (fun halt _ => halt.Defined) w := by
  refine wp_mono (send_all_sends E sockfd msg w) (fun _ _ hafter => ⟨hafter.svc, hafter.messages_eq⟩) ?_
  rintro _ _ rfl fault ⟨⟩

/-- Dropping a client takes only that client out of the set. -/
theorem drop_locked_conn_set (E : Env σ) (id : SvcId) (sockfd : Nat) (w : World σ) :
    wp (drop_locked E id sockfd)
      (fun _ after => (after.svc id).conn_set = (w.svc id).conn_set.erase sockfd ∧
        messages after.net_log = messages w.net_log) (fun halt _ => halt.Defined) w := by
  rw [wp_drop_locked]
  split_ifs
  · simp [Halt.Defined]
  · simp [dropped, fd_clr, messages]

/-- The loop of a broadcast, over any stretch of descriptors. A client dropped
on the way has had its turn, so the set seen at the start decides. -/
theorem broadcast_loop_messages (E : Env σ) (id : SvcId) (msg : List UInt8) {fds : List Nat} (hfds : fds.Nodup)
    (w : World σ) :
    wp (forM fds fun fd => do
        let svc ← get_svc id
        if fd ∈ svc.conn_set then do
          let ok ← send_all E fd msg
          if ok then pure () else drop_locked E id fd
        else pure ())
      (fun _ after => messages after.net_log = messages w.net_log ++
        (fds.filter (· ∈ (w.svc id).conn_set)).map fun fd => (fd, msg)) (fun halt _ => halt.Defined) w := by
  induction fds generalizing w with
  | nil => simp
  | cons fd fds ih =>
    obtain ⟨hfresh, hrest⟩ := List.nodup_cons.mp hfds
    simp only [List.forM_cons, wp_bind, wp_get_svc, wp_ite, wp_pure]
    by_cases hmem : fd ∈ (w.svc id).conn_set
    · simp only [hmem, ↓reduceIte]
      apply wp_mono_post (send_all_messages E fd msg w)
      rintro ok sent ⟨hsvc, hmessages⟩
      cases ok with
      | true =>
        simp only [↓reduceIte, wp_pure]
        apply wp_mono_post (ih hrest sent)
        intro _ after hafter
        simp [hafter, hmessages, hsvc, hmem]
      | false =>
        simp only [Bool.false_eq_true, ↓reduceIte]
        apply wp_mono_post (drop_locked_conn_set E id fd sent)
        rintro _ dropped ⟨hset, hdropped⟩
        apply wp_mono_post (ih hrest dropped)
        intro _ after hafter
        have hsame : fds.filter (· ∈ (dropped.svc id).conn_set) = fds.filter (· ∈ (w.svc id).conn_set) := by
          apply List.filter_congr
          intro other hother
          have hne : other ≠ fd := fun h => hfresh (h ▸ hother)
          simp [hset, hsvc, hne]
        simp [hafter, hdropped, hmessages, hsame, hmem]
    · simp only [hmem, ↓reduceIte]
      apply wp_mono_post (ih hrest w)
      intro _ after hafter
      simp [hafter, hmem]

/-- A broadcast that returns has handed its message to the members below
`nfds`, in order of their descriptors. -/
theorem broadcast_messages (E : Env σ) (id : SvcId) (msg : List UInt8) (w : World σ) :
    wp (broadcast E id msg)
      (fun _ after => messages after.net_log = messages w.net_log ++
        ((List.range (w.svc id).nfds).filter (· ∈ (w.svc id).conn_set)).map fun fd => (fd, msg))
      (fun halt _ => halt.Defined) w := by
  simp only [broadcast, wp_bind, wp_get_svc]
  exact broadcast_loop_messages E id msg List.nodup_range w

/-! ### Served services -/

/-- Every connected peer of the service is reached: broadcasts hand their
message to exactly the members, once each, and `select()` watches all of them. -/
structure Served (svc : NetService) : Prop where
  below : ∀ fd ∈ svc.conn_set, fd < svc.nfds
  broadcast : ∀ {σ : Type} (E : Env σ) (id : SvcId) (msg : List UInt8) (w after : World σ),
    w.svc id = svc → broadcast E id msg w = .ok () after →
    ∃ fds : List Nat, fds.Nodup ∧ (∀ fd, fd ∈ fds ↔ fd ∈ svc.conn_set) ∧
      messages after.net_log = messages w.net_log ++ fds.map fun fd => (fd, msg)
  select : ∀ {σ : Type} (E : Env σ) (cfg : BridgeCfg) (id : SvcId) (w : World σ),
    w.svc id = svc → spw_link_ready cfg w →
    ∃ ready after, poll_socket_ready E cfg id w = .ok ready after ∧
      after.net_log = w.net_log ++ [.select svc.conn_set]

/-- The bound on the members is all that the two loops need. -/
theorem served_of_below {svc : NetService} (hbelow : ∀ fd ∈ svc.conn_set, fd < svc.nfds) : Served svc where
  below := hbelow
  broadcast := by
    intro σ E id msg w after hsvc hrun
    refine ⟨(List.range svc.nfds).filter (· ∈ svc.conn_set), List.nodup_range.filter _, ?_, ?_⟩
    · intro fd
      simp only [List.mem_filter, List.mem_range, decide_eq_true_eq]
      exact ⟨fun h => h.2, fun h => ⟨hbelow fd h, h⟩⟩
    · have hmessages := (wp_ok hrun).mp (broadcast_messages E id msg w)
      rw [hmessages, hsvc]
  select := by
    intro σ E cfg id w hsvc hready
    have hall : watched svc = svc.conn_set := Finset.filter_true_of_mem hbelow
    have hwp : wp (poll_socket_ready E cfg id)
        (fun _ after => after.net_log = w.net_log ++ [.select svc.conn_set]) (fun _ _ => False) w := by
      simp only [poll_socket_ready, wp_bind, wp_get, hready, ↓reduceIte, wp_get_svc, wp_log_net, wp_syscall,
        wp_pure, hsvc, hall]
    exact ok_of_wp hwp

/-- A connection event of one service. -/
inductive ConnStep
  | accept (fd : Nat)
  | drop (fd : Nat)

/-- `accept()` returns a descriptor that is not open; only a connected one is
dropped. -/
def ConnStep.Allowed (svc : NetService) : ConnStep → Prop
  | .accept fd => fd < FD_SETSIZE ∧ fd ∉ svc.conn_set
  | .drop fd => fd ∈ svc.conn_set

instance (svc : NetService) : (step : ConnStep) → Decidable (step.Allowed svc)
  | .accept fd => inferInstanceAs (Decidable (fd < FD_SETSIZE ∧ fd ∉ svc.conn_set))
  | .drop fd => inferInstanceAs (Decidable (fd ∈ svc.conn_set))

def ConnStep.apply (svc : NetService) : ConnStep → NetService
  | .accept fd => accept_connections svc fd
  | .drop fd => fd_clr svc fd

/-- The service after a sequence of events from `bind_server_socket` on. -/
def runSteps (sock_fd : Nat) (steps : List ConnStep) : NetService :=
  steps.foldl ConnStep.apply (bind_server_socket sock_fd)

/-- Each event of the sequence can happen where it stands. -/
def Legal (sock_fd : Nat) (steps : List ConnStep) : Prop :=
  ∀ pre step, pre ++ [step] <+: steps → step.Allowed (runSteps sock_fd pre)

theorem runSteps_append (sock_fd : Nat) (steps : List ConnStep) (step : ConnStep) :
    runSteps sock_fd (steps ++ [step]) = step.apply (runSteps sock_fd steps) := by
  simp [runSteps]

theorem legal_nil (sock_fd : Nat) : Legal sock_fd [] := by
  intro pre step hpre
  simp at hpre

theorem legal_append {sock_fd : Nat} (steps : List ConnStep) {step : ConnStep}
    (hsteps : Legal sock_fd steps) (hstep : step.Allowed (runSteps sock_fd steps)) :
    Legal sock_fd (steps ++ [step]) := by
  intro pre last hpre
  rw [List.prefix_concat_iff] at hpre
  rcases hpre with heq | hpre
  · obtain ⟨rfl, hlast⟩ := List.append_inj' heq rfl
    rw [List.singleton_inj.mp hlast]
    exact hstep
  · exact hsteps pre last hpre

/-- Away from the boundary `fd = nfds` an event keeps the members below `nfds`. -/
theorem ConnStep.apply_below {svc : NetService} {step : ConnStep}
    (hbelow : ∀ fd ∈ svc.conn_set, fd < svc.nfds) (hboundary : ∀ fd, step = .accept fd → fd ≠ svc.nfds) :
    ∀ fd ∈ (step.apply svc).conn_set, fd < (step.apply svc).nfds := by
  intro fd hmem
  cases step with
  | drop dropped => exact hbelow fd (Finset.mem_of_mem_erase hmem)
  | accept accepted =>
    have hne := hboundary accepted rfl
    simp only [ConnStep.apply, accept_connections] at hmem ⊢
    split at hmem
    · rename_i hrefused
      rw [if_pos hrefused]
      exact hbelow fd hmem
    · rename_i htaken
      rw [if_neg htaken]
      rw [Finset.mem_insert] at hmem
      dsimp only
      rcases hmem with rfl | hmem
      · split <;> omega
      · have := hbelow fd hmem
        split <;> omega

/-- The comparison `fd > svc->nfds` leaves `nfds` alone when a connection gets
the descriptor `nfds` itself, which is then served by nobody. In every run,
each state reached is served exactly when no connection does. -/
theorem served_run_iff {sock_fd : Nat} {steps : List ConnStep} (hlegal : Legal sock_fd steps) :
    (∀ pre, pre <+: steps → Served (runSteps sock_fd pre)) ↔
      ∀ pre fd, pre ++ [.accept fd] <+: steps → fd ≠ (runSteps sock_fd pre).nfds := by
  constructor
  · intro hserved pre fd hpre hboundary
    have hbelow := (hserved _ hpre).below
    obtain ⟨hsize, _⟩ := hlegal pre (.accept fd) hpre
    rw [runSteps_append] at hbelow
    simp only [ConnStep.apply, accept_connections, if_neg (Nat.not_le_of_lt hsize)] at hbelow
    have hlt := hbelow fd (Finset.mem_insert_self _ _)
    split at hlt <;> omega
  · intro hboundary pre
    induction pre using List.reverseRecOn with
    | nil =>
      intro _
      apply served_of_below
      intro fd hmem
      simp [runSteps, bind_server_socket] at hmem
    | append_singleton pre step ih =>
      intro hpre
      have hserved := ih ((List.prefix_append pre [step]).trans hpre)
      rw [runSteps_append]
      apply served_of_below
      apply ConnStep.apply_below hserved.below
      rintro fd rfl
      exact hboundary pre fd hpre

theorem served_run_iff_reused_descriptor :
    Legal 3 [.accept 4, .drop 4, .accept 4, .accept 7] ∧
      ((∀ pre, pre <+: [.accept 4, .drop 4, .accept 4, .accept 7] → Served (runSteps 3 pre)) ↔
        ∀ pre fd, pre ++ [.accept fd] <+: [.accept 4, .drop 4, .accept 4, .accept 7] →
          fd ≠ (runSteps 3 pre).nfds) :=
  have hlegal : Legal 3 [.accept 4, .drop 4, .accept 4, .accept 7] :=
    legal_append [.accept 4, .drop 4, .accept 4]
      (legal_append [.accept 4, .drop 4]
        (legal_append [.accept 4]
          (legal_append [] (legal_nil 3) (by decide))
          (by decide))
        (by decide))
      (by decide)
  ⟨hlegal, served_run_iff hlegal⟩

/-- Two peers on consecutive descriptors: the second one is never served. -/
theorem accept_at_nfds_not_served :
    Legal 3 [.accept 4, .accept 5] ∧ (runSteps 3 [.accept 4, .accept 5]).conn_set = {4, 5} ∧
      (runSteps 3 [.accept 4, .accept 5]).nfds = 5 ∧ ¬ Served (runSteps 3 [.accept 4, .accept 5]) := by
  have hnfds : (runSteps 3 [.accept 4, .accept 5]).nfds = 5 := rfl
  have hset : (runSteps 3 [.accept 4, .accept 5]).conn_set = {4, 5} := by decide
  refine ⟨?_, hset, hnfds, ?_⟩
  · exact legal_append [.accept 4]
      (legal_append [] (legal_nil 3) (by decide)) (by decide)
  · intro hserved
    have hlt := hserved.below 5 (by rw [hset]; decide)
    rw [hnfds] at hlt
    exact absurd hlt (Nat.lt_irrefl 5)

end spw_bridge.net
