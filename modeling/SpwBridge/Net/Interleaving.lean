import Mathlib.Data.Finset.Lattice.Lemmas
import Mathlib.Data.Finset.SDiff
import SpwBridge.Library.Handles
import SpwBridge.Library.Runs
import SpwBridge.Net.Served

open effect handles runs

namespace spw_bridge.net

/-- Where the accept thread of a service is: in `accept()`, or between it and the
locked section that enters the descriptor. -/
inductive AcceptPc
  | accepting
  | accepted (fd conn : Nat)
  deriving DecidableEq, Repr

/-- Where `poll_socket` is: before the section that copies the set, in `select()`,
before the section that checks the membership again, in the loop of handler
calls; and within a handler that drops its connection, before `close()` or
before the section of `conn_del`. From `select()` on it holds the connections
that were reported, which the code does not know. -/
inductive PollPc
  | copy
  | select (readset : Finset Nat) (n : Nat)
  | recheck (readset : Finset Nat) (n : Nat) (reported : Nat → Option Nat)
  | handling (todo : List Nat) (reported : Nat → Option Nat)
  | closing (fd : Nat) (conn : Option Nat) (todo : List Nat) (reported : Nat → Option Nat)
  | deleting (fd : Nat) (todo : List Nat) (reported : Nat → Option Nat)

/-- A service with its threads. The table has the accepted connections. -/
structure Serving where
  svc : NetService
  table : Table
  acceptor : AcceptPc
  poll : PollPc

/-- The atomic steps: `accept()` with the number that it returns, the section that
follows it; the first section of `poll_socket`, `select()` with what it finds
readable, the second section, a call of the handler, which may find its
connection broken, `close()` and the section of `conn_del` in its drop; and a
broadcast with the descriptors whose send fails. -/
inductive ServingStep
  | accept (fd : Nat)
  | enter
  | copy
  | select (ready : Finset Nat)
  | recheck
  | handle (broken : Bool)
  | close
  | del
  | broadcast (failed : Finset Nat)

namespace Serving

/-- `conn_drop_locked` for a connection whose send failed. -/
def conn_drop_locked (s : Serving) (fd : Nat) : Serving :=
  { s with svc := fd_clr s.svc fd, table := s.table.close fd (s.table.opened fd) }

/-- The loop of a broadcast over the members of the set. -/
def broadcast (failed : Finset Nat) : List Nat → Serving → Serving
  | [], s => s
  | fd :: fds, s => broadcast failed fds (if fd ∈ s.svc.conn_set ∧ fd ∈ failed then s.conn_drop_locked fd else s)

/-- One atomic step. `select()` fails on a set with a closed descriptor. A step of
a thread that is somewhere else changes nothing. -/
def step (s : Serving) : ServingStep → Serving
  | .accept fd =>
    match s.acceptor with
    | .accepting =>
      if s.table.opened fd = none then
        { s with table := s.table.accept fd, acceptor := .accepted fd s.table.next }
      else s
    | .accepted _ _ => s
  | .enter =>
    match s.acceptor with
    | .accepting => s
    | .accepted fd conn =>
      if FD_SETSIZE ≤ fd then { s with table := s.table.close fd (some conn), acceptor := .accepting }
      else { s with svc := accept_connections s.svc fd, acceptor := .accepting }
  | .copy =>
    match s.poll with
    | .copy => { s with poll := .select s.svc.conn_set s.svc.nfds }
    | _ => s
  | .select ready =>
    match s.poll with
    | .select readset n =>
      let looked := readset.filter (· < n)
      if (∀ fd ∈ looked, s.table.opened fd ≠ none) ∧ ready ∩ looked ≠ ∅ then
        { s with poll := .recheck (ready ∩ looked) n s.table.opened }
      else { s with poll := .copy }
    | _ => s
  | .recheck =>
    match s.poll with
    | .recheck readset n reported =>
      { s with poll := .handling ((List.range n).filter fun fd => fd ∈ readset ∧ fd ∈ s.svc.conn_set) reported }
    | _ => s
  | .handle broken =>
    match s.poll with
    | .handling [] _ => { s with poll := .copy }
    | .handling (fd :: todo) reported =>
      { s with poll := if broken then .closing fd (s.table.opened fd) todo reported else .handling todo reported }
    | _ => s
  | .close =>
    match s.poll with
    | .closing fd conn todo reported => { s with table := s.table.close fd conn, poll := .deleting fd todo reported }
    | _ => s
  | .del =>
    match s.poll with
    | .deleting fd todo reported => { s with svc := fd_clr s.svc fd, poll := .handling todo reported }
    | _ => s
  | .broadcast failed => broadcast failed (List.range s.svc.nfds) s

/-- What a step does, case by case, when its thread is there for it. -/
inductive Moves (s : Serving) : ServingStep → Serving → Prop
  | accept {fd : Nat} (haccept : s.acceptor = .accepting) (hfree : s.table.opened fd = none) :
      Moves s (.accept fd) { s with table := s.table.accept fd, acceptor := .accepted fd s.table.next }
  | refuse {fd conn : Nat} (hheld : s.acceptor = .accepted fd conn) (hlarge : FD_SETSIZE ≤ fd) :
      Moves s .enter { s with table := s.table.close fd (some conn), acceptor := .accepting }
  | enter {fd conn : Nat} (hheld : s.acceptor = .accepted fd conn) (hsmall : fd < FD_SETSIZE) :
      Moves s .enter { s with svc := accept_connections s.svc fd, acceptor := .accepting }
  | copy (hpoll : s.poll = .copy) : Moves s .copy { s with poll := .select s.svc.conn_set s.svc.nfds }
  | select {ready readset : Finset Nat} {n : Nat} (hpoll : s.poll = .select readset n)
      (hlive : ∀ fd ∈ readset.filter (· < n), s.table.opened fd ≠ none) :
      Moves s (.select ready) { s with poll := .recheck (ready ∩ readset.filter (· < n)) n s.table.opened }
  | retry {ready readset : Finset Nat} {n : Nat} (hpoll : s.poll = .select readset n) :
      Moves s (.select ready) { s with poll := .copy }
  | recheck {readset : Finset Nat} {n : Nat} {reported : Nat → Option Nat}
      (hpoll : s.poll = .recheck readset n reported) :
      Moves s .recheck { s with
        poll := .handling ((List.range n).filter fun fd => fd ∈ readset ∧ fd ∈ s.svc.conn_set) reported }
  | finish {broken : Bool} {reported : Nat → Option Nat} (hpoll : s.poll = .handling [] reported) :
      Moves s (.handle broken) { s with poll := .copy }
  | handle {fd : Nat} {todo : List Nat} {reported : Nat → Option Nat}
      (hpoll : s.poll = .handling (fd :: todo) reported) :
      Moves s (.handle false) { s with poll := .handling todo reported }
  | broken {fd : Nat} {todo : List Nat} {reported : Nat → Option Nat}
      (hpoll : s.poll = .handling (fd :: todo) reported) :
      Moves s (.handle true) { s with poll := .closing fd (s.table.opened fd) todo reported }
  | close {fd : Nat} {conn : Option Nat} {todo : List Nat} {reported : Nat → Option Nat}
      (hpoll : s.poll = .closing fd conn todo reported) :
      Moves s .close { s with table := s.table.close fd conn, poll := .deleting fd todo reported }
  | del {fd : Nat} {todo : List Nat} {reported : Nat → Option Nat} (hpoll : s.poll = .deleting fd todo reported) :
      Moves s .del { s with svc := fd_clr s.svc fd, poll := .handling todo reported }
  | broadcast (failed : Finset Nat) : Moves s (.broadcast failed) (broadcast failed (List.range s.svc.nfds) s)

theorem step_moves (s : Serving) (a : ServingStep) : s.step a = s ∨ s.Moves a (s.step a) := by
  cases a with
  | accept fd =>
    simp only [step]
    split
    next haccept =>
      split_ifs with hfree
      · exact Or.inr (.accept haccept hfree)
      · exact Or.inl rfl
    next => exact Or.inl rfl
  | enter =>
    simp only [step]
    split
    next => exact Or.inl rfl
    next hheld =>
      split_ifs with hlarge
      · exact Or.inr (.refuse hheld hlarge)
      · exact Or.inr (.enter hheld (Nat.lt_of_not_le hlarge))
  | copy =>
    simp only [step]
    split
    next hpoll => exact Or.inr (.copy hpoll)
    next => exact Or.inl rfl
  | select ready =>
    simp only [step]
    split
    next hpoll =>
      split_ifs with hlive
      · exact Or.inr (.select hpoll hlive.1)
      · exact Or.inr (.retry hpoll)
    next => exact Or.inl rfl
  | recheck =>
    simp only [step]
    split
    next hpoll => exact Or.inr (.recheck hpoll)
    next => exact Or.inl rfl
  | handle broken =>
    simp only [step]
    split
    next hpoll => exact Or.inr (.finish hpoll)
    next hpoll =>
      cases broken
      · exact Or.inr (.handle hpoll)
      · exact Or.inr (.broken hpoll)
    next => exact Or.inl rfl
  | close =>
    simp only [step]
    split
    next hpoll => exact Or.inr (.close hpoll)
    next => exact Or.inl rfl
  | del =>
    simp only [step]
    split
    next hpoll => exact Or.inr (.del hpoll)
    next => exact Or.inl rfl
  | broadcast failed => exact Or.inr (.broadcast failed)

/-- A service as `net_start` leaves it: its threads are at their beginning, and
the set has its open connections. -/
structure Started (s : Serving) : Prop where
  conn_set : ∀ fd, fd ∈ s.svc.conn_set ↔ s.table.opened fd ≠ none
  fits : ∀ fd ∈ s.svc.conn_set, fd < FD_SETSIZE
  closes : s.table.closes = []
  acceptor : s.acceptor = .accepting
  poll : s.poll = .copy

/-- A service that listens. -/
def listening (sock_fd : Nat) : Serving := ⟨bind_server_socket sock_fd, .empty, .accepting, .copy⟩

theorem listening_started (sock_fd : Nat) : (listening sock_fd).Started where
  conn_set fd := by simp [listening, bind_server_socket, Table.empty]
  fits _ h := absurd h (Finset.notMem_empty _)
  closes := rfl
  acceptor := rfl
  poll := rfl

/-! ### Broadcasts -/

/-- What each drop of a broadcast keeps, the broadcast keeps. -/
theorem broadcast_invariant {inv : Serving → Prop} {failed : Finset Nat}
    (hdrop : ∀ s fd, inv s → fd ∈ s.svc.conn_set → fd ∈ failed → inv (s.conn_drop_locked fd)) (fds : List Nat)
    {s : Serving} (hs : inv s) : inv (broadcast failed fds s) := by
  induction fds generalizing s with
  | nil => exact hs
  | cons fd fds ih =>
    apply ih
    split_ifs with hfd
    · exact hdrop s fd hs hfd.1 hfd.2
    · exact hs

/-! ### Without interleaving -/

/-- The steps of one round up to the handler calls are `poll_socket_ready`. -/
theorem round_alone {σ : Type} {E : Env σ} {cfg : BridgeCfg} {id : SvcId} {w after : World σ} {ready : List Nat}
    (hready : spw_link_ready cfg w = true) (hround : poll_socket_ready E cfg id w = .ok ready after) {s : Serving}
    (hsvc : s.svc = w.svc id) (hpoll : s.poll = .copy) (hopen : ∀ fd ∈ watched s.svc, s.table.opened fd ≠ none) :
    ∃ readable, run step s [.copy, .select readable, .recheck] =
      { s with poll := if ready = [] then .copy else .handling ready s.table.opened } := by
  have hwp : wp (poll_socket_ready E cfg id) (fun ready _ => ready = (List.range s.svc.nfds).filter fun fd =>
      fd ∈ (E.select w.env (watched s.svc)).1 ∩ watched s.svc ∧ fd ∈ s.svc.conn_set) (fun _ _ => True) w := by
    simp [poll_socket_ready, wp_bind, wp_get, hready, hsvc]
  have hfound := (wp_ok hround).mp hwp
  refine ⟨(E.select w.env (watched s.svc)).1, ?_⟩
  have hlooked : s.svc.conn_set.filter (· < s.svc.nfds) = watched s.svc := rfl
  by_cases hnone : (E.select w.env (watched s.svc)).1 ∩ watched s.svc = ∅
  · have hempty : ready = [] := by simp [hfound, hnone]
    simp [step, hpoll, hlooked, hnone, hempty]
  · obtain ⟨fd, hfd⟩ := Finset.nonempty_iff_ne_empty.mpr hnone
    have hwatched := Finset.mem_filter.mp (Finset.mem_inter.mp hfd).2
    have hmem : fd ∈ ready := by
      rw [hfound, List.mem_filter]
      exact ⟨List.mem_range.mpr hwatched.2, by simpa only [decide_eq_true_eq] using ⟨hfd, hwatched.1⟩⟩
    have hlive : (∀ fd ∈ watched s.svc, s.table.opened fd ≠ none) ∧
        (E.select w.env (watched s.svc)).1 ∩ watched s.svc ≠ ∅ := ⟨hopen, hnone⟩
    rw [if_neg (List.ne_nil_of_mem hmem)]
    simp only [run_cons, run_nil, step, hpoll, hlooked, if_pos hlive, hfound]

/-- A service without some of its connections. -/
def without (svc : NetService) (lost : Finset Nat) : NetService := { svc with conn_set := svc.conn_set \ lost }

theorem fd_clr_without (svc : NetService) (lost : Finset Nat) (fd : Nat) :
    fd_clr (without svc lost) fd = without svc (insert fd lost) := by
  rw [fd_clr, without, without, Finset.sdiff_insert]

theorem without_empty (svc : NetService) : without svc ∅ = svc := by rw [without, Finset.sdiff_empty]

/-- A broadcast loses the connections whose send fails. -/
theorem broadcast_svc (failed : Finset Nat) (fds : List Nat) (s : Serving) :
    (broadcast failed fds s).svc = without s.svc (fds.toFinset ∩ failed) := by
  induction fds generalizing s with
  | nil => exact (without_empty s.svc).symm
  | cons fd fds ih =>
    rw [broadcast, ih, List.toFinset_cons]
    by_cases hfailed : fd ∈ failed
    · rw [Finset.insert_inter_of_mem hfailed]
      split_ifs with hfd
      · have hdropped : (s.conn_drop_locked fd).svc = without s.svc {fd} := by
          rw [conn_drop_locked, fd_clr, without, Finset.sdiff_singleton_eq_erase]
        rw [hdropped, without, without, without, sdiff_sdiff_left, Finset.sup_eq_union, ← Finset.insert_eq]
      · have habsent : fd ∉ s.svc.conn_set := fun h => hfd ⟨h, hfailed⟩
        rw [without, without, Finset.sdiff_insert_of_notMem habsent]
    · rw [Finset.insert_inter_of_notMem hfailed, if_neg fun h => hfailed h.2]

/-- The step of a broadcast is `broadcast`. -/
theorem broadcast_alone {σ : Type} {E : Env σ} {id : SvcId} {msg : List UInt8} {w after : World σ}
    (hbroadcast : net.broadcast E id msg w = .ok () after) {s : Serving} (hsvc : s.svc = w.svc id) :
    ∃ failed, (s.step (.broadcast failed)).svc = after.svc id := by
  let kept : World σ → Prop := fun t => ∃ lost ⊆ (List.range s.svc.nfds).toFinset, t.svc id = without s.svc lost
  have hwp : wp (net.broadcast E id msg) (fun _ => kept) (fun _ _ => True) w := by
    simp only [net.broadcast, wp_bind, wp_get_svc]
    refine wp_forM (fun fd hfd t ht => ?_) ⟨∅, Finset.empty_subset _, by rw [without_empty, hsvc]⟩
    obtain ⟨lost, hlost, ht⟩ := ht
    simp only [wp_bind, wp_get_svc, wp_ite, wp_pure]
    split
    · refine wp_mono (send_all_sends E fd msg t) (fun ok sent hsent => ?_) fun _ _ _ => trivial
      have hsame := congrFun hsent.svc id
      split
      · exact ⟨lost, hlost, hsame.trans ht⟩
      · rw [wp_drop_locked]
        split
        · trivial
        · have hlost' : insert fd lost ⊆ (List.range s.svc.nfds).toFinset :=
            Finset.insert_subset (List.mem_toFinset.mpr (hsvc ▸ hfd)) hlost
          have hclosed : (dropped E id fd sent).svc id = fd_clr (sent.svc id) fd := Function.update_self _ _ _
          exact ⟨insert fd lost, hlost', by rw [hclosed, hsame, ht, fd_clr_without]⟩
    · exact ⟨lost, hlost, ht⟩
  obtain ⟨lost, hlost, hafter⟩ := (wp_ok hbroadcast).mp hwp
  refine ⟨lost, ?_⟩
  rw [step, broadcast_svc, Finset.inter_eq_right.mpr hlost, hafter]

/-- The steps of a drop are `conn_drop`. -/
theorem drop_alone {s : Serving} {fd : Nat} {conn : Option Nat} {todo : List Nat} {reported : Nat → Option Nat}
    (hpoll : s.poll = .closing fd conn todo reported) :
    run step s [.close, .del] =
      { s with svc := fd_clr s.svc fd, table := s.table.close fd conn, poll := .handling todo reported } := by
  simp [step, hpoll]

end Serving

end spw_bridge.net
