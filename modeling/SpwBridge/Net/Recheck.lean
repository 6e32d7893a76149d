import SpwBridge.Net.Interleaving

open handles runs

namespace spw_bridge.net

/-- The descriptors whose handler is still to be called in the loop of
`poll_socket`. -/
def PollPc.waiting : PollPc → List Nat
  | .handling todo _ | .closing _ _ todo _ | .deleting _ todo _ => todo
  | .copy | .select _ _ | .recheck _ _ _ => []

/-- The connections that `select()` has reported for them. -/
def PollPc.reported : PollPc → Nat → Option Nat
  | .recheck _ _ reported | .handling _ reported | .closing _ _ _ reported | .deleting _ _ reported => reported
  | .copy | .select _ _ => fun _ => none

namespace Serving

/-- A handler is called on a descriptor while the connection is open under it that
`select()` has reported. -/
def HandlesOpen (s : Serving) : ServingStep → Prop
  | .handle _ => ∀ fd todo reported, s.poll = .handling (fd :: todo) reported →
      ∃ conn, reported fd = some conn ∧ s.table.opened fd = some conn
  | _ => True

/-- At the check of the membership no reported number is back in the set for
another connection, and no broadcast drops a connection that has passed the
check and whose handler is still to be called. -/
def Steady (s : Serving) : ServingStep → Prop
  | .recheck => ∀ readset n reported, s.poll = .recheck readset n reported →
      ∀ fd ∈ readset, fd ∈ s.svc.conn_set → s.table.opened fd = reported fd
  | .broadcast failed => ∀ fd ∈ s.poll.waiting, fd ∈ s.svc.conn_set → fd ∉ failed
  | _ => True

/-- What waits for its handler is open. -/
structure Waits (s : Serving) : Prop where
  fits : ∀ fd ∈ s.svc.conn_set, fd < FD_SETSIZE
  readable : ∀ {readset n reported}, s.poll = .recheck readset n reported → ∀ fd ∈ readset, reported fd ≠ none
  small : ∀ fd ∈ s.poll.waiting, fd < FD_SETSIZE
  opened : ∀ fd ∈ s.poll.waiting, ∃ conn, s.poll.reported fd = some conn ∧ s.table.opened fd = some conn
  nodup : s.poll.waiting.Nodup
  closing : ∀ {fd conn todo reported}, s.poll = .closing fd conn todo reported → fd ∉ todo

theorem Started.waits {s : Serving} (hs : s.Started) : s.Waits where
  fits := hs.fits
  readable h := by rw [hs.poll] at h; cases h
  small fd h := by rw [hs.poll] at h; cases h
  opened fd h := by rw [hs.poll] at h; cases h
  nodup := by rw [hs.poll]; exact List.nodup_nil
  closing h := by rw [hs.poll] at h; cases h

section steps

variable {s : Serving}

/-- The poll thread stays where it is while the descriptors that wait are left
alone. -/
theorem Waits.aside (hs : s.Waits) {after : Serving} (hpoll : after.poll = s.poll)
    (hfits : ∀ fd ∈ after.svc.conn_set, fd < FD_SETSIZE)
    (hopened : ∀ fd ∈ s.poll.waiting, after.table.opened fd = s.table.opened fd) : after.Waits where
  fits := hfits
  readable h := hs.readable (hpoll ▸ h)
  small fd hfd := hs.small fd (hpoll ▸ hfd)
  opened fd hfd := by
    rw [hpoll] at hfd ⊢
    rw [hopened fd hfd]
    exact hs.opened fd hfd
  nodup := hpoll ▸ hs.nodup
  closing h := hs.closing (hpoll ▸ h)

theorem Waits.accept (hs : s.Waits) {fd : Nat} (hfree : s.table.opened fd = none) (acceptor : AcceptPc) :
    Waits { s with table := s.table.accept fd, acceptor := acceptor } := by
  refine hs.aside rfl hs.fits fun fd' hfd' => ?_
  obtain ⟨conn, -, hopen⟩ := hs.opened fd' hfd'
  have hne : fd' ≠ fd := fun h => by rw [h, hfree] at hopen; cases hopen
  exact Function.update_of_ne hne _ _

theorem Waits.refuse (hs : s.Waits) {fd : Nat} (hlarge : FD_SETSIZE ≤ fd) (meant : Option Nat) (acceptor : AcceptPc) :
    Waits { s with table := s.table.close fd meant, acceptor := acceptor } := by
  refine hs.aside rfl hs.fits fun fd' hfd' => ?_
  have hne : fd' ≠ fd := fun h => Nat.not_lt_of_le hlarge (h ▸ hs.small fd' hfd')
  exact Function.update_of_ne hne _ _

theorem Waits.enter (hs : s.Waits) {fd : Nat} (hsmall : fd < FD_SETSIZE) (acceptor : AcceptPc) :
    Waits { s with svc := accept_connections s.svc fd, acceptor := acceptor } := by
  refine hs.aside rfl (fun fd' hfd' => ?_) fun _ _ => rfl
  simp only [accept_connections, if_neg (Nat.not_le_of_lt hsmall)] at hfd'
  rcases Finset.mem_insert.mp hfd' with rfl | hold
  · exact hsmall
  · exact hs.fits fd' hold

theorem Waits.conn_drop_locked (hs : s.Waits) {fd : Nat} (hfd : fd ∉ s.poll.waiting) :
    (s.conn_drop_locked fd).Waits := by
  refine hs.aside rfl (fun fd' hfd' => hs.fits fd' (Finset.mem_erase.mp hfd').2) fun fd' hfd' => ?_
  have hne : fd' ≠ fd := fun h => hfd (h ▸ hfd')
  exact Function.update_of_ne hne _ _

/-- A broadcast that spares what waits. -/
theorem Waits.broadcast (hs : s.Waits) {failed : Finset Nat}
    (hspared : ∀ fd ∈ s.poll.waiting, fd ∈ s.svc.conn_set → fd ∉ failed) (fds : List Nat) :
    (Serving.broadcast failed fds s).Waits := by
  have hkept : (Serving.broadcast failed fds s).Waits ∧ (Serving.broadcast failed fds s).poll = s.poll ∧
      (Serving.broadcast failed fds s).svc.conn_set ⊆ s.svc.conn_set := by
    have hdrop : ∀ (t : Serving) (fd : Nat), t.Waits ∧ t.poll = s.poll ∧ t.svc.conn_set ⊆ s.svc.conn_set →
        fd ∈ t.svc.conn_set → fd ∈ failed → (t.conn_drop_locked fd).Waits ∧ (t.conn_drop_locked fd).poll = s.poll ∧
          (t.conn_drop_locked fd).svc.conn_set ⊆ s.svc.conn_set := by
      rintro t fd ⟨ht, hpoll, hsub⟩ hmem hfailed
      have hfd : fd ∉ t.poll.waiting := fun hwaits => hspared fd (hpoll ▸ hwaits) (hsub hmem) hfailed
      exact ⟨ht.conn_drop_locked hfd, hpoll, (Finset.erase_subset _ _).trans hsub⟩
    exact broadcast_invariant hdrop fds ⟨hs, rfl, Finset.Subset.refl _⟩
  exact hkept.1

theorem Waits.select (hs : s.Waits) {readset : Finset Nat} {n : Nat} (ready : Finset Nat)
    (hlive : ∀ fd ∈ readset.filter (· < n), s.table.opened fd ≠ none) :
    Waits { s with poll := .recheck (ready ∩ readset.filter (· < n)) n s.table.opened } where
  fits := hs.fits
  readable h fd hfd := by
    cases h
    exact hlive fd (Finset.mem_inter.mp hfd).2
  small _ h := by cases h
  opened _ h := by cases h
  nodup := List.nodup_nil
  closing h := by cases h

theorem Waits.recheck (hs : s.Waits) {readset : Finset Nat} {n : Nat} {reported : Nat → Option Nat}
    (hpoll : s.poll = .recheck readset n reported)
    (hsteady : ∀ fd ∈ readset, fd ∈ s.svc.conn_set → s.table.opened fd = reported fd) :
    Waits { s with
      poll := .handling ((List.range n).filter fun fd => fd ∈ readset ∧ fd ∈ s.svc.conn_set) reported } where
  fits := hs.fits
  readable h := by cases h
  small fd hfd := by
    have hmem : fd ∈ readset ∧ fd ∈ s.svc.conn_set := by simpa using (List.mem_filter.mp hfd).2
    exact hs.fits fd hmem.2
  opened fd hfd := by
    have hmem : fd ∈ readset ∧ fd ∈ s.svc.conn_set := by simpa using (List.mem_filter.mp hfd).2
    obtain ⟨conn, hconn⟩ := Option.ne_none_iff_exists'.mp (hs.readable hpoll fd hmem.1)
    exact ⟨conn, hconn, (hsteady fd hmem.1 hmem.2).trans hconn⟩
  nodup := List.nodup_range.filter _
  closing h := by cases h

/-- The next handler call, with or without a drop that begins. -/
theorem Waits.handle (hs : s.Waits) {fd : Nat} {todo : List Nat} {reported : Nat → Option Nat}
    (hpoll : s.poll = .handling (fd :: todo) reported) {poll : PollPc}
    (hnext : poll = .handling todo reported ∨ poll = .closing fd (s.table.opened fd) todo reported) :
    Waits { s with poll := poll } := by
  have hwaiting : s.poll.waiting = fd :: todo := by rw [hpoll]; rfl
  have hreported : s.poll.reported = reported := by rw [hpoll]; rfl
  have hnodup := List.nodup_cons.mp (hwaiting ▸ hs.nodup)
  have hsmall : ∀ fd' ∈ todo, fd' < FD_SETSIZE := fun fd' h => hs.small fd' (hwaiting ▸ List.mem_cons_of_mem _ h)
  have hopened : ∀ fd' ∈ todo, ∃ conn, reported fd' = some conn ∧ s.table.opened fd' = some conn := fun fd' h => by
    have hopen := hs.opened fd' (hwaiting ▸ List.mem_cons_of_mem _ h)
    rwa [hreported] at hopen
  rcases hnext with rfl | rfl
  · exact ⟨hs.fits, nofun, hsmall, hopened, hnodup.2, nofun⟩
  · refine ⟨hs.fits, nofun, hsmall, hopened, hnodup.2, fun h => ?_⟩
    cases h
    exact hnodup.1

theorem Waits.drop_close (hs : s.Waits) {fd : Nat} {conn : Option Nat} {todo : List Nat}
    {reported : Nat → Option Nat} (hpoll : s.poll = .closing fd conn todo reported) :
    Waits { s with table := s.table.close fd conn, poll := .deleting fd todo reported } where
  fits := hs.fits
  readable h := by cases h
  small fd' h := hs.small fd' (by rw [hpoll]; exact h)
  opened fd' h := by
    have hne : fd' ≠ fd := fun heq => hs.closing hpoll (heq ▸ h)
    have hopen := hs.opened fd' (by rw [hpoll]; exact h)
    rw [hpoll] at hopen
    obtain ⟨conn', hreported, hopened⟩ := hopen
    exact ⟨conn', hreported, (Function.update_of_ne hne _ _).trans hopened⟩
  nodup := by
    have hnodup := hs.nodup
    rwa [hpoll] at hnodup
  closing h := by cases h

theorem Waits.drop_del (hs : s.Waits) {fd : Nat} {todo : List Nat} {reported : Nat → Option Nat}
    (hpoll : s.poll = .deleting fd todo reported) :
    Waits { s with svc := fd_clr s.svc fd, poll := .handling todo reported } where
  fits fd' h := hs.fits fd' (Finset.mem_erase.mp h).2
  readable h := by cases h
  small fd' h := hs.small fd' (by rw [hpoll]; exact h)
  opened fd' h := by
    have hopen := hs.opened fd' (by rw [hpoll]; exact h)
    rwa [hpoll] at hopen
  nodup := by
    have hnodup := hs.nodup
    rwa [hpoll] at hnodup
  closing h := by cases h

theorem Waits.idle (hs : s.Waits) {poll : PollPc} (hnone : poll.waiting = [])
    (hrecheck : ∀ readset n reported, poll ≠ .recheck readset n reported)
    (hclosing : ∀ fd conn todo reported, poll ≠ .closing fd conn todo reported) : Waits { s with poll := poll } where
  fits := hs.fits
  readable h := absurd h (hrecheck _ _ _)
  small fd h := by rw [hnone] at h; cases h
  opened fd h := by rw [hnone] at h; cases h
  nodup := by rw [hnone]; exact List.nodup_nil
  closing h := absurd h (hclosing _ _ _ _)

theorem Waits.step (hs : s.Waits) {a : ServingStep} (hsteady : s.Steady a) : (s.step a).Waits := by
  rcases s.step_moves a with hstay | hmoves
  · rwa [hstay]
  · generalize s.step a = after at hmoves
    cases hmoves with
    | accept _ hfree => exact hs.accept hfree _
    | refuse _ hlarge => exact hs.refuse hlarge _ _
    | enter _ hsmall => exact hs.enter hsmall _
    | copy | retry | finish => exact hs.idle rfl (by simp) (by simp)
    | select _ hlive => exact hs.select _ hlive
    | recheck hpoll => exact hs.recheck hpoll (hsteady _ _ _ hpoll)
    | handle hpoll => exact hs.handle hpoll (Or.inl rfl)
    | broken hpoll => exact hs.handle hpoll (Or.inr rfl)
    | close hpoll => exact hs.drop_close hpoll
    | del hpoll => exact hs.drop_del hpoll
    | broadcast failed => exact hs.broadcast hsteady _

theorem Waits.handlesOpen (hs : s.Waits) (a : ServingStep) : s.HandlesOpen a := by
  cases a with
  | handle broken =>
    intro fd todo reported hpoll
    have hopen := hs.opened fd (by rw [hpoll]; exact List.mem_cons_self)
    rwa [hpoll] at hopen
  | accept | enter | copy | select | recheck | close | del | broadcast => trivial

end steps

/-- Over every steady run of a service, each handler call finds the connection that
was reported. -/
theorem handlers_run_on_open {s : Serving} (hs : s.Started) {steps : List ServingStep}
    (hsteps : Along step Steady s steps) : Along step HandlesOpen s steps :=
  (hsteps.maintains (fun _ a hwaits hsteady => ⟨hwaits.handlesOpen a, hwaits.step hsteady⟩) hs.waits).1

/-- Two connections, of which one is dropped by a broadcast in time for the check. -/
theorem handlers_run_on_open_dropped :
    Along step HandlesOpen (listening 4) [.accept 5, .enter, .accept 6, .enter, .copy, .select {5, 6},
      .broadcast {6}, .recheck, .handle true, .close, .del] := by
  apply handlers_run_on_open (listening_started 4)
  refine ⟨trivial, trivial, trivial, trivial, trivial, trivial, nofun, ?_, trivial, trivial, trivial, trivial⟩
  intro readset n reported hpoll
  cases hpoll
  decide

/-- A broadcast drops a connection that has passed the check before its handler is
called; and a number comes back between `select()` and the check. -/
theorem handler_runs_on_closed :
    ¬ Along step HandlesOpen (listening 4)
        [.accept 5, .enter, .copy, .select {5}, .recheck, .broadcast {5}, .handle true] ∧
      ¬ Along step HandlesOpen (listening 4)
        [.accept 5, .enter, .copy, .select {5}, .broadcast {5}, .accept 5, .enter, .recheck, .handle true] := by
  constructor
  · intro hopen
    obtain ⟨conn, -, hclosed⟩ := hopen.2.2.2.2.2.2.1 5 [] _ rfl
    cases hclosed
  · intro hopen
    obtain ⟨conn, hreported, hother⟩ := hopen.2.2.2.2.2.2.2.2.1 5 [] _ rfl
    exact absurd (hother.trans hreported.symm) (by decide)

end Serving

end spw_bridge.net
