import SpwBridge.Net.Interleaving

open handles runs

namespace spw_bridge.net.Serving

/-- The accept thread has a number that it has not entered yet. -/
def Held (s : Serving) (fd : Nat) : Prop := ∃ conn, s.acceptor = .accepted fd conn

/-- A drop has closed a number and not yet removed it from the set. -/
def Deleting (s : Serving) (fd : Nat) : Prop := ∃ todo reported, s.poll = .deleting fd todo reported

/-- A drop is about to close a number. -/
def Closing (s : Serving) (fd : Nat) (conn : Option Nat) : Prop :=
  ∃ todo reported, s.poll = .closing fd conn todo reported

/-- No thread is in the middle of accepting or dropping a connection. -/
def Quiescent (s : Serving) : Prop :=
  s.acceptor = .accepting ∧ (∀ fd conn, ¬ s.Closing fd conn) ∧ ∀ fd, ¬ s.Deleting fd

/-- The set is what is connected, and connections are closed once and by their own
drop. -/
structure Bookkept (s : Serving) : Prop where
  conn_set : s.Quiescent → ∀ fd, fd ∈ s.svc.conn_set ↔ s.table.opened fd ≠ none
  once : (closed s.table.closes).Nodup
  own : Meant s.table.closes

/-- `accept()` returns no number that a drop is about to close. A number is entered
while its connection is still open and no drop is between `close()` and the
removal of that number. -/
def Timely (s : Serving) : ServingStep → Prop
  | .accept fd => ∀ conn, ¬ s.Closing fd conn
  | .enter => ∀ fd conn, s.acceptor = .accepted fd conn → fd < FD_SETSIZE →
      s.table.opened fd = some conn ∧ ¬ s.Deleting fd
  | _ => True

/-- What the threads keep between them: an open number is in the set or held, and
a number in the set is open or being deleted. -/
structure Tracked (s : Serving) : Prop where
  listed : ∀ fd ∈ s.svc.conn_set, s.table.opened fd ≠ none ∨ s.Deleting fd
  served : ∀ fd, s.table.opened fd ≠ none → fd ∈ s.svc.conn_set ∨ s.Held fd
  fits : ∀ fd ∈ s.svc.conn_set, fd < FD_SETSIZE
  held : ∀ {fd conn c}, s.acceptor = .accepted fd conn → s.table.opened fd = some c → c = conn
  closing : ∀ {fd conn c}, s.Closing fd conn → s.table.opened fd = some c → conn = some c
  deleting : ∀ {fd}, s.Deleting fd → s.table.opened fd = none ∨ s.Held fd
  own : Meant s.table.closes

theorem Started.tracked {s : Serving} (hs : s.Started) : s.Tracked where
  listed fd hfd := Or.inl ((hs.conn_set fd).mp hfd)
  served fd hfd := Or.inl ((hs.conn_set fd).mpr hfd)
  fits := hs.fits
  held h := by rw [hs.acceptor] at h; cases h
  closing h := by obtain ⟨_, _, h⟩ := h; rw [hs.poll] at h; cases h
  deleting h := by obtain ⟨_, _, h⟩ := h; rw [hs.poll] at h; cases h
  own := by rw [hs.closes]; exact nofun

theorem Tracked.bookkept {s : Serving} (hs : s.Tracked) : s.Bookkept where
  conn_set hquiet fd := by
    obtain ⟨haccept, -, hdeleting⟩ := hquiet
    constructor
    · intro hfd
      exact (hs.listed fd hfd).resolve_right (hdeleting fd)
    · intro hopen
      refine (hs.served fd hopen).resolve_right ?_
      rintro ⟨conn, hheld⟩
      rw [haccept] at hheld
      cases hheld
  once := s.table.once
  own := hs.own

section steps

variable {s : Serving}

theorem not_held (haccept : s.acceptor = .accepting) (fd : Nat) : ¬ s.Held fd := by
  rintro ⟨conn, hheld⟩
  rw [haccept] at hheld
  cases hheld

/-- The accept thread holds only the number that it has got last. -/
theorem Held.eq {fd fd' conn : Nat} (h : s.Held fd') (hheld : s.acceptor = .accepted fd conn) : fd' = fd := by
  obtain ⟨conn', h⟩ := h
  rw [hheld] at h
  cases h
  rfl

theorem Deleting.eq {fd fd' : Nat} {todo : List Nat} {reported : Nat → Option Nat} (h : s.Deleting fd')
    (hpoll : s.poll = .deleting fd todo reported) : fd' = fd := by
  obtain ⟨_, _, h⟩ := h
  rw [hpoll] at h
  cases h
  rfl

/-- A poll thread that goes on without touching a connection. -/
theorem Tracked.goto (hs : s.Tracked) (hbusy : ∀ fd, ¬ s.Deleting fd) {poll : PollPc}
    (hclosing : ∀ {fd conn todo reported}, poll = .closing fd conn todo reported → conn = s.table.opened fd)
    (hdeleting : ∀ fd todo reported, poll ≠ .deleting fd todo reported) : Tracked { s with poll := poll } where
  listed fd hfd := Or.inl ((hs.listed fd hfd).resolve_right (hbusy fd))
  served := hs.served
  fits := hs.fits
  held := hs.held
  closing hpoll hopen := by
    obtain ⟨todo, reported, hpoll⟩ := hpoll
    rw [hclosing hpoll, hopen]
  deleting h := by
    obtain ⟨todo, reported, h⟩ := h
    exact absurd h (hdeleting _ todo reported)
  own := hs.own

theorem Tracked.accept (hs : s.Tracked) {fd : Nat} (haccept : s.acceptor = .accepting)
    (hfree : s.table.opened fd = none) (htimely : ∀ conn, ¬ s.Closing fd conn) :
    Tracked { s with table := s.table.accept fd, acceptor := .accepted fd s.table.next } where
  listed fd' hfd' := by
    refine (hs.listed fd' hfd').imp_left fun hopen => ?_
    have hne : fd' ≠ fd := fun h => hopen (h ▸ hfree)
    simpa [Function.update_of_ne hne] using hopen
  served fd' hopen := by
    by_cases hfd : fd' = fd
    · exact Or.inr ⟨s.table.next, by rw [hfd]⟩
    · refine Or.inl ((hs.served fd' ?_).resolve_right ?_)
      · simpa [Function.update_of_ne hfd] using hopen
      · exact not_held haccept fd'
  fits := hs.fits
  held h hopen := by
    cases h
    simpa using hopen.symm
  closing hclosing hopen := by
    rename_i fd' conn c
    by_cases hfd : fd' = fd
    · subst hfd
      exact absurd hclosing (htimely conn)
    · exact hs.closing hclosing (by simpa [Function.update_of_ne hfd] using hopen)
  deleting hdeleting := by
    rename_i fd'
    by_cases hfd : fd' = fd
    · exact Or.inr ⟨s.table.next, by rw [hfd]⟩
    · have hnone := (hs.deleting hdeleting).resolve_right (not_held haccept fd')
      exact Or.inl (by simpa [Function.update_of_ne hfd] using hnone)
  own := hs.own

theorem Tracked.refuse (hs : s.Tracked) {fd conn : Nat} (hheld : s.acceptor = .accepted fd conn)
    (hlarge : FD_SETSIZE ≤ fd) :
    Tracked { s with table := s.table.close fd (some conn), acceptor := .accepting } where
  listed fd' hfd' := by
    have hne : fd' ≠ fd := fun h => Nat.not_lt_of_le hlarge (h ▸ hs.fits fd' hfd')
    refine (hs.listed fd' hfd').imp_left fun hopen => ?_
    simpa [Function.update_of_ne hne] using hopen
  served fd' hopen := by
    obtain ⟨c, hc⟩ := Option.ne_none_iff_exists'.mp hopen
    obtain ⟨hne, hopen⟩ := Table.update_none hc
    exact Or.inl ((hs.served fd' (by simp [hopen])).resolve_right fun h => hne (h.eq hheld))
  fits := hs.fits
  held h _ := by cases h
  closing hclosing hopen := hs.closing hclosing (Table.update_none hopen).2
  deleting hdeleting := by
    rename_i fd'
    by_cases hfd : fd' = fd
    · exact Or.inl (by simp [hfd])
    · refine Or.inl ((Table.close_opened _ _ _ ▸ Function.update_of_ne hfd _ _).trans ?_)
      exact (hs.deleting hdeleting).resolve_right fun h => hfd (h.eq hheld)
  own := meant_append hs.own fun c hc => by rw [hs.held hheld hc]

theorem mem_accept_connections {svc : NetService} {fd fd' : Nat} (hsmall : fd < FD_SETSIZE) :
    fd' ∈ (accept_connections svc fd).conn_set ↔ fd' = fd ∨ fd' ∈ svc.conn_set := by
  rw [accept_connections, if_neg (Nat.not_le_of_lt hsmall)]
  exact Finset.mem_insert

theorem Tracked.enter (hs : s.Tracked) {fd conn : Nat} (hheld : s.acceptor = .accepted fd conn)
    (hsmall : fd < FD_SETSIZE) (hopen : s.table.opened fd = some conn) (hdeleting : ¬ s.Deleting fd) :
    Tracked { s with svc := accept_connections s.svc fd, acceptor := .accepting } where
  listed fd' hfd' := by
    rcases (mem_accept_connections hsmall).mp hfd' with rfl | hold
    · exact Or.inl (by simp [hopen])
    · exact hs.listed fd' hold
  served fd' hopen' := by
    refine Or.inl ((mem_accept_connections hsmall).mpr ?_)
    by_cases hfd : fd' = fd
    · exact Or.inl hfd
    · exact Or.inr ((hs.served fd' hopen').resolve_right fun h => hfd (h.eq hheld))
  fits fd' hfd' := by
    rcases (mem_accept_connections hsmall).mp hfd' with rfl | hold
    · exact hsmall
    · exact hs.fits fd' hold
  held h _ := by cases h
  closing := hs.closing
  deleting hdel := by
    rename_i fd'
    exact Or.inl ((hs.deleting hdel).resolve_right fun h => hdeleting (h.eq hheld ▸ hdel))
  own := hs.own

theorem Tracked.drop_close (hs : s.Tracked) {fd : Nat} {conn : Option Nat} {todo : List Nat}
    {reported : Nat → Option Nat} (hpoll : s.poll = .closing fd conn todo reported) :
    Tracked { s with table := s.table.close fd conn, poll := .deleting fd todo reported } where
  listed fd' hfd' := by
    by_cases hfd : fd' = fd
    · exact Or.inr ⟨todo, reported, by rw [hfd]⟩
    · refine Or.inl ?_
      rw [Table.close_opened, Function.update_of_ne hfd]
      refine (hs.listed fd' hfd').resolve_right ?_
      rintro ⟨_, _, hother⟩
      rw [hpoll] at hother
      cases hother
  served fd' hopen := by
    obtain ⟨c, hc⟩ := Option.ne_none_iff_exists'.mp hopen
    exact hs.served fd' (by simp [(Table.update_none hc).2])
  fits := hs.fits
  held hheld hopen := hs.held hheld (Table.update_none hopen).2
  closing h _ := by
    obtain ⟨_, _, h⟩ := h
    cases h
  deleting h := by
    obtain ⟨_, _, h⟩ := h
    cases h
    exact Or.inl (by simp)
  own := meant_append hs.own fun c hc => hs.closing ⟨todo, reported, hpoll⟩ hc

theorem Tracked.drop_del (hs : s.Tracked) {fd : Nat} {todo : List Nat} {reported : Nat → Option Nat}
    (hpoll : s.poll = .deleting fd todo reported) :
    Tracked { s with svc := fd_clr s.svc fd, poll := .handling todo reported } where
  listed fd' hfd' := by
    obtain ⟨hne, hold⟩ := Finset.mem_erase.mp hfd'
    exact Or.inl ((hs.listed fd' hold).resolve_right fun h => hne (h.eq hpoll))
  served fd' hopen := by
    by_cases hfd : fd' = fd
    · subst hfd
      exact Or.inr ((hs.deleting ⟨todo, reported, hpoll⟩).resolve_left hopen)
    · exact (hs.served fd' hopen).imp_left fun hold => Finset.mem_erase.mpr ⟨hfd, hold⟩
  fits fd' hfd' := hs.fits fd' (Finset.mem_erase.mp hfd').2
  held := hs.held
  closing h _ := by
    obtain ⟨_, _, h⟩ := h
    cases h
  deleting h := by
    obtain ⟨_, _, h⟩ := h
    cases h
  own := hs.own

theorem Tracked.conn_drop_locked (hs : s.Tracked) (fd : Nat) : (s.conn_drop_locked fd).Tracked where
  listed fd' hfd' := by
    obtain ⟨hne, hold⟩ := Finset.mem_erase.mp hfd'
    refine (hs.listed fd' hold).imp_left fun hopen => ?_
    simpa [Serving.conn_drop_locked, Function.update_of_ne hne] using hopen
  served fd' hopen := by
    obtain ⟨c, hc⟩ := Option.ne_none_iff_exists'.mp hopen
    obtain ⟨hne, hopen⟩ := Table.update_none hc
    exact (hs.served fd' (by simp [hopen])).imp_left fun hold => Finset.mem_erase.mpr ⟨hne, hold⟩
  fits fd' hfd' := hs.fits fd' (Finset.mem_erase.mp hfd').2
  held hheld hopen := hs.held hheld (Table.update_none hopen).2
  closing hclosing hopen := hs.closing hclosing (Table.update_none hopen).2
  deleting hdeleting := by
    rename_i fd'
    by_cases hfd : fd' = fd
    · exact Or.inl (by simp [Serving.conn_drop_locked, hfd])
    · refine (hs.deleting hdeleting).imp_left fun hnone => ?_
      simpa [Serving.conn_drop_locked, Function.update_of_ne hfd] using hnone
  own := meant_append hs.own fun c hc => hc

theorem Tracked.broadcast (hs : s.Tracked) (failed : Finset Nat) (fds : List Nat) :
    (Serving.broadcast failed fds s).Tracked :=
  broadcast_invariant (fun _ fd hs _ _ => hs.conn_drop_locked fd) fds hs

/-- A timely step keeps track. -/
theorem Tracked.step (hs : s.Tracked) {a : ServingStep} (htimely : s.Timely a) : (s.step a).Tracked := by
  rcases s.step_moves a with hstay | hmoves
  · rwa [hstay]
  · generalize s.step a = after at hmoves
    cases hmoves with
    | accept haccept hfree => exact hs.accept haccept hfree htimely
    | refuse hheld hlarge => exact hs.refuse hheld hlarge
    | enter hheld hsmall =>
      obtain ⟨hopen, hdeleting⟩ := htimely _ _ hheld hsmall
      exact hs.enter hheld hsmall hopen hdeleting
    | copy hpoll | select hpoll | retry hpoll | recheck hpoll | finish hpoll | handle hpoll =>
      exact hs.goto (fun fd => by simp [Deleting, hpoll]) (by simp) (by simp)
    | broken hpoll =>
      apply hs.goto (fun fd => by simp [Deleting, hpoll])
      · intro fd' conn todo' reported' h
        cases h
        rfl
      · simp
    | close hpoll => exact hs.drop_close hpoll
    | del hpoll => exact hs.drop_del hpoll
    | broadcast failed => exact hs.broadcast failed _

end steps

/-- Over every timely run of a service, its bookkeeping is right. -/
theorem bookkeeping_survives {s : Serving} (hs : s.Started) {steps : List ServingStep}
    (hsteps : Along step Timely s steps) : (run step s steps).Bookkept :=
  (hsteps.invariant (fun _ _ htracked htimely => htracked.step htimely) hs.tracked).bookkept

/-- A connection on descriptor 5 that is served and found broken. -/
def brokenPeer : List ServingStep := [.accept 5, .enter, .copy, .select {5}, .recheck, .handle true]

/-- The number is used again after the drop. -/
theorem bookkeeping_survives_after_drop :
    (run step (listening 4) (brokenPeer ++ [.close, .del, .accept 5, .enter])).Bookkept := by
  apply bookkeeping_survives (listening_started 4)
  have henters : ∀ {fd conn fd' conn' : Nat}, AcceptPc.accepted fd conn = .accepted fd' conn' →
      fd' = fd ∧ conn' = conn := by
    intro fd conn fd' conn' h
    cases h
    exact ⟨rfl, rfl⟩
  refine ⟨?_, ?_, trivial, trivial, trivial, trivial, trivial, trivial, ?_, ?_, trivial⟩
  · rintro conn ⟨_, _, h⟩
    cases h
  · intro fd conn h _
    obtain ⟨rfl, rfl⟩ := henters h
    exact ⟨rfl, fun ⟨_, _, h⟩ => by cases h⟩
  · rintro conn ⟨_, _, h⟩
    cases h
  · intro fd conn h _
    obtain ⟨rfl, rfl⟩ := henters h
    exact ⟨rfl, fun ⟨_, _, h⟩ => by cases h⟩

/-- Used again between `close()` and the removal, the number of the new peer is
removed; used again between a failed receive and `close()`, the new peer is
closed. -/
theorem bookkeeping_lost :
    ¬ (run step (listening 4) (brokenPeer ++ [.close, .accept 5, .enter, .del])).Bookkept ∧
      ¬ (run step (listening 4) (brokenPeer ++ [.broadcast {5}, .accept 5, .close])).Bookkept := by
  constructor
  · intro hkept
    have hquiet : (run step (listening 4) (brokenPeer ++ [.close, .accept 5, .enter, .del])).Quiescent := by
      refine ⟨rfl, ?_, ?_⟩
      · rintro fd conn ⟨_, _, h⟩
        cases h
      · rintro fd ⟨_, _, h⟩
        cases h
    exact absurd ((hkept.conn_set hquiet 5).mpr (by decide)) (by decide)
  · intro hkept
    have hown := hkept.own ⟨some 0, some 1⟩ (by decide) 1 rfl
    cases hown

end spw_bridge.net.Serving
