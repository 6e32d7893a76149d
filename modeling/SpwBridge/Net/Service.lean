import SpwBridge.Spw.Transmit

open effect

namespace spw_bridge.net

variable {σ : Type}

def FD_SETSIZE : Nat := 1024

/-- The service that `bind_server_socket` leaves: an empty set, `nfds` still
zero from `calloc()`. -/
def bind_server_socket (sock_fd : Nat) : NetService := ⟨sock_fd, ∅, 0, [], 0⟩

/-- What one accepted connection does to its service. Descriptors that do not
fit an `fd_set` are refused. -/
def accept_connections (svc : NetService) (fd : Nat) : NetService :=
  if FD_SETSIZE ≤ fd then svc
  else { svc with
    conn_set := insert fd svc.conn_set
    nfds := if fd > svc.nfds then fd + 1 else svc.nfds }

/-- `FD_CLR(sockfd, &svc->conn_set)`. -/
def fd_clr (svc : NetService) (sockfd : Nat) : NetService :=
  { svc with conn_set := svc.conn_set.erase sockfd }

def conn_del (id : SvcId) (sockfd : Nat) : Prog σ Unit := modify_svc id fun svc => fd_clr svc sockfd

/-- Close a connection and forget it; a client that loses one shuts down. -/
def conn_drop (E : Env σ) (id : SvcId) (sockfd : Nat) : Prog σ Unit := do
  close E sockfd
  conn_del id sockfd
  let w ← get
  if w.is_client then throw .exit

/-- The same for a caller that holds the lock of the service. -/
def conn_drop_locked (E : Env σ) (id : SvcId) (sockfd : Nat) : Prog σ Unit := conn_drop E id sockfd

def rmap_conn_drop (E : Env σ) (sockfd : Nat) : Prog σ Unit := do
  close E sockfd
  conn_del .rmap sockfd

def rmap_conn_drop_locked (E : Env σ) (sockfd : Nat) : Prog σ Unit := rmap_conn_drop E sockfd

/-- The loop of `send_all`; it goes round again after a partial send and after
an interrupted one. -/
def send_all_loop (E : Env σ) (sockfd : Nat) : Nat → List UInt8 → Prog σ Bool
  | _, [] => pure true
  | 0, _ :: _ => throw .hang
  | fuel + 1, b :: buf => do
    let n ← syscall fun s => E.send s sockfd (b :: buf)
    match n with
    | .error .EINTR => send_all_loop E sockfd fuel (b :: buf)
    | .error _ => pure false
    | .sent n => do
      log_net (.sent sockfd ((b :: buf).take n))
      send_all_loop E sockfd fuel ((b :: buf).drop n)

def send_all (E : Env σ) (sockfd : Nat) (buf : List UInt8) : Prog σ Bool := do
  log_net (.send_all sockfd buf)
  let w ← get
  send_all_loop E sockfd (E.patience w.env) buf

/-- The drop that the broadcasts of a service use. -/
def drop_locked (E : Env σ) : SvcId → Nat → Prog σ Unit
  | .rmap => rmap_conn_drop_locked E
  | id => conn_drop_locked E id

/-- The broadcast under the service lock that the senders share:
`for (fd = 0; fd < svc->nfds; fd++)` over the members of the set, dropping
those whose send fails. -/
def broadcast (E : Env σ) (id : SvcId) (msg : List UInt8) : Prog σ Unit := do
  let svc ← get_svc id
  forM (List.range svc.nfds) fun fd => do
    let svc ← get_svc id
    if fd ∈ svc.conn_set then do
      let ok ← send_all E fd msg
      if ok then pure () else drop_locked E id fd
    else pure ()

/-- The descriptors that `select()` looks at when it is called with the set and
the `nfds` of a service. -/
def watched (svc : NetService) : Finset Nat := svc.conn_set.filter (· < svc.nfds)

/-- One round of `poll_socket` up to the handler calls: the descriptors that
are reported readable and still connected. -/
def poll_socket_ready (E : Env σ) (cfg : BridgeCfg) (id : SvcId) : Prog σ (List Nat) := do
  let w ← get
  if spw_link_ready cfg w then do
    let svc ← get_svc id
    log_net (.select (watched svc))
    let readset ← syscall fun s => E.select s (watched svc)
    let now ← get_svc id
    pure ((List.range svc.nfds).filter fun fd => fd ∈ readset ∩ watched svc ∧ fd ∈ now.conn_set)
  else pure []

/-- One round of `poll_socket`. -/
def poll_socket (E : Env σ) (cfg : BridgeCfg) (id : SvcId) (handle_pkt : Nat → Prog σ Unit) : Prog σ Unit := do
  let ready ← poll_socket_ready E cfg id
  forM ready handle_pkt

/-! ### What the sockets change -/

/-- A relation that does not depend on the environment, the network log or the
connection sets holds across every operation on sockets. -/
structure Sockets (R : World σ → World σ → Prop) : Prop where
  env : ∀ w s, R w { w with env := s }
  net_log : ∀ w call, R w { w with net_log := w.net_log ++ [call] }
  fd_clr : ∀ w id sockfd, R w { w with svc := Function.update w.svc id (fd_clr (w.svc id) sockfd) }

theorem within_get_svc {R : World σ → World σ → Prop} [IsPreorder (World σ) R] (id : SvcId) :
    Within R (get_svc id : Prog σ NetService) :=
  within_bind within_get fun _ => within_pure _

/-- The part of that which sending to the clients of one service needs, apart
from the messages themselves. -/
structure Silent (E : Env σ) (id : SvcId) (R : World σ → World σ → Prop) : Prop where
  send : ∀ w sockfd buf, R w { w with env := (E.send w.env sockfd buf).2 }
  close : ∀ w sockfd, R w { w with env := E.close w.env sockfd }
  sent : ∀ w sockfd bytes, R w { w with net_log := w.net_log ++ [.sent sockfd bytes] }
  closed : ∀ w sockfd, R w { w with net_log := w.net_log ++ [.close sockfd] }
  fd_clr : ∀ w sockfd, R w { w with svc := Function.update w.svc id (fd_clr (w.svc id) sockfd) }

/-- The part of that which dropping a connection needs. -/
structure Drops (E : Env σ) (id : SvcId) (R : World σ → World σ → Prop) : Prop where
  close : ∀ w sockfd, R w { w with env := E.close w.env sockfd }
  closed : ∀ w sockfd, R w { w with net_log := w.net_log ++ [.close sockfd] }
  fd_clr : ∀ w sockfd, R w { w with svc := Function.update w.svc id (fd_clr (w.svc id) sockfd) }

theorem Silent.drops {E : Env σ} {id : SvcId} {R : World σ → World σ → Prop} (hR : Silent E id R) : Drops E id R :=
  ⟨hR.close, hR.closed, hR.fd_clr⟩

/-- What receiving needs: it makes calls into the environment and drops
connections. -/
structure Receives (R : World σ → World σ → Prop) : Prop where
  env : ∀ w s, R w { w with env := s }
  closed : ∀ w sockfd, R w { w with net_log := w.net_log ++ [.close sockfd] }
  fd_clr : ∀ w id sockfd, R w { w with svc := Function.update w.svc id (fd_clr (w.svc id) sockfd) }

theorem Sockets.receives {R : World σ → World σ → Prop} (hR : Sockets R) : Receives R :=
  ⟨hR.env, fun w _ => hR.net_log w _, hR.fd_clr⟩

theorem Receives.drops {R : World σ → World σ → Prop} (hR : Receives R) (E : Env σ) (id : SvcId) : Drops E id R :=
  ⟨fun w _ => hR.env w _, hR.closed, fun w => hR.fd_clr w id⟩

theorem Sockets.silent {R : World σ → World σ → Prop} (hR : Sockets R) (E : Env σ) (id : SvcId) :
    Silent E id R where
  send w _ _ := hR.env w _
  close w _ := hR.env w _
  sent w _ _ := hR.net_log w _
  closed w _ := hR.net_log w _
  fd_clr w := hR.fd_clr w id

/-- The world without a connection that was closed. -/
def dropped (E : Env σ) (id : SvcId) (sockfd : Nat) (w : World σ) : World σ :=
  { w with
    env := E.close w.env sockfd
    net_log := w.net_log ++ [.close sockfd]
    svc := Function.update w.svc id (fd_clr (w.svc id) sockfd) }

section drops

variable {post : Unit → World σ → Prop} {fails : Halt → World σ → Prop} {w : World σ}

theorem wp_conn_drop (E : Env σ) (id : SvcId) (sockfd : Nat) :
    wp (conn_drop E id sockfd) post fails w ↔
      if w.is_client then fails .exit (dropped E id sockfd w) else post () (dropped E id sockfd w) := by
  simp only [conn_drop, close, conn_del, wp_bind, wp_syscall, wp_log_net, wp_modify_svc, wp_get, wp_ite, wp_throw,
    wp_pure]
  rfl

theorem wp_rmap_conn_drop (E : Env σ) (sockfd : Nat) :
    wp (rmap_conn_drop E sockfd) post fails w ↔ post () (dropped E .rmap sockfd w) := by
  simp only [rmap_conn_drop, close, conn_del, wp_bind, wp_syscall, wp_log_net, wp_modify_svc]
  rfl

/-- Only the drop of the RMAP service does not end a client. -/
theorem wp_drop_locked (E : Env σ) (id : SvcId) (sockfd : Nat) :
    wp (drop_locked E id sockfd) post fails w ↔
      if id ≠ .rmap ∧ w.is_client then fails .exit (dropped E id sockfd w) else post () (dropped E id sockfd w) := by
  cases id with
  | rmap =>
    rw [if_neg fun h => h.1 rfl]
    exact wp_rmap_conn_drop E sockfd
  | data | gresb_tx | gresb_rx | sniff => simpa [drop_locked, conn_drop_locked] using wp_conn_drop E _ sockfd

end drops

/-- A broadcast keeps an invariant that each of its sends keeps, the drop after
a failed one included. -/
theorem wp_broadcast {E : Env σ} {id : SvcId} {msg : List UInt8} {inv : World σ → Prop}
    {fails : Halt → World σ → Prop}
    (hsend : ∀ fd s, inv s → fd ∈ (s.svc id).conn_set →
      wp (send_all E fd msg)
        (fun ok sent => if ok then inv sent else wp (drop_locked E id fd) (fun _ => inv) fails sent) fails s)
    {w : World σ} (hw : inv w) : wp (broadcast E id msg) (fun _ => inv) fails w := by
  simp only [broadcast, wp_bind, wp_get_svc]
  refine wp_forM (fun fd _ s hs => ?_) hw
  simp only [wp_bind, wp_get_svc, wp_ite, wp_pure]
  split
  · rename_i hmem
    apply wp_mono_post (hsend fd s hs hmem)
    intro ok sent hsent
    cases ok <;> exact hsent
  · exact hs

section drops

variable {R : World σ → World σ → Prop} [IsPreorder (World σ) R] {E : Env σ} {id : SvcId} (hR : Drops E id R)

include hR

theorem within_close (sockfd : Nat) : Within R (close E sockfd) := by
  have hsyscall : Within R (syscall fun s => ((), E.close s sockfd)) := fun w => hR.close w sockfd
  exact within_bind hsyscall fun _ w => hR.closed w sockfd

theorem within_conn_drop (sockfd : Nat) : Within R (conn_drop E id sockfd) := by
  apply within_bind (within_close hR sockfd)
  intro _
  have hdel : Within R (conn_del id sockfd : Prog σ Unit) := fun w => hR.fd_clr w sockfd
  apply within_bind hdel
  intro _
  refine within_bind within_get fun w => ?_
  exact within_ite (fun _ => within_throw _) fun _ => within_pure _

omit hR in
theorem within_rmap_conn_drop (hR : Drops E .rmap R) (sockfd : Nat) : Within R (rmap_conn_drop E sockfd) :=
  within_bind (within_close hR sockfd) fun _ w => hR.fd_clr w sockfd

end drops

section silent

variable {R : World σ → World σ → Prop} [IsPreorder (World σ) R] {E : Env σ} {id : SvcId} (hR : Silent E id R)

include hR

theorem within_send_all_loop (sockfd fuel : Nat) (buf : List UInt8) :
    Within R (send_all_loop E sockfd fuel buf) := by
  induction fuel generalizing buf with
  | zero =>
    cases buf with
    | nil => exact within_pure _
    | cons b buf => exact within_throw _
  | succ fuel ih =>
    cases buf with
    | nil => exact within_pure _
    | cons b buf =>
      have hsyscall : Within R (syscall fun s => E.send s sockfd (b :: buf)) := fun w => hR.send w sockfd _
      apply within_bind hsyscall
      intro n
      cases n with
      | sent n => exact within_bind (fun w => hR.sent w sockfd _) fun _ => ih _
      | error errno =>
        cases errno with
        | EINTR => exact ih _
        | EAGAIN | ETIMEDOUT | other => exact within_pure _

theorem within_drop_locked (sockfd : Nat) : Within R (drop_locked E id sockfd) := by
  cases id with
  | rmap => exact within_rmap_conn_drop hR.drops sockfd
  | data | gresb_tx | gresb_rx | sniff => exact within_conn_drop hR.drops sockfd

/-- A broadcast takes the steps that sending takes, and hands its message to
members of the set. -/
theorem within_broadcast_of_members (msg : List UInt8) (w : World σ)
    (hsend : ∀ s fd, R w s → fd ∈ (s.svc id).conn_set →
      R s { s with net_log := s.net_log ++ [.send_all fd msg] }) : R w (final (broadcast E id msg w)) := by
  apply wp_final.mp
  apply wp_broadcast _ (refl_of R w)
  intro fd s hs hmem
  have hhanded : R w { s with net_log := s.net_log ++ [.send_all fd msg] } := trans_of R hs (hsend s fd hs hmem)
  simp only [send_all, wp_bind, wp_log_net, wp_get]
  refine wp_mono ((within_send_all_loop hR fd _ msg).wp _) ?_ fun _ _ h => trans_of R hhanded h
  intro ok sent hsent
  have hsent' := trans_of R hhanded hsent
  split
  · exact hsent'
  · exact wp_mono ((within_drop_locked hR fd).wp sent) (fun _ _ h => trans_of R hsent' h)
      fun _ _ h => trans_of R hsent' h

end silent

section sockets

variable {R : World σ → World σ → Prop} (hR : Sockets R)

include hR

theorem within_log_net (call : NetCall) : Within R (log_net call : Prog σ Unit) := fun w => hR.net_log w call

theorem within_env {α : Type} (f : σ → α × σ) : Within R (syscall f) := fun w => hR.env w _

variable [IsPreorder (World σ) R]

theorem within_broadcast (E : Env σ) (id : SvcId) (msg : List UInt8) : Within R (broadcast E id msg) :=
  fun w => within_broadcast_of_members (hR.silent E id) msg w fun s _ _ _ => hR.net_log s _

theorem within_poll_socket (E : Env σ) (cfg : BridgeCfg) (id : SvcId) {handle_pkt : Nat → Prog σ Unit}
    (hhandle : ∀ fd, Within R (handle_pkt fd)) : Within R (poll_socket E cfg id handle_pkt) := by
  refine within_bind ?_ fun ready => within_forM fun fd _ => hhandle fd
  refine within_bind within_get fun w => within_ite (fun _ => ?_) fun _ => within_pure _
  refine within_bind (within_get_svc id) fun svc => ?_
  apply within_bind (within_log_net hR _)
  intro _
  apply within_bind (within_env hR _)
  intro readset
  exact within_bind (within_get_svc id) fun now => within_pure _

end sockets

end spw_bridge.net
