import SpwBridge.Library.Ownership
import SpwBridge.Spw.Operations

open ownership runs

namespace spw_bridge.spw

/-! ### Threads that have ended -/

namespace MainPc

/-- `net_stop` has joined the network threads. -/
def PastNet (main : MainPc) : Prop := main ≠ .spw_request_shutdown ∧ main ≠ .net_stop

/-- `spw_stop_poll` has joined the poll threads. -/
def PastPoll (main : MainPc) : Prop := main = .spw_dispose_ops ∨ main = .done

end MainPc

namespace Transfers

variable {T : Type}

/-- Threads that have ended or been joined do nothing any more. -/
structure Joined (s : Transfers T) : Prop where
  idle : ∀ t, s.net_ended t = true → s.call (.net t) = none
  sinks : ∀ chan, s.call (.poll chan) ≠ none → s.poll chan = .sink
  single : s.enable_monitor = false → s.poll true = .ended
  net : s.main.PastNet → ∀ t, s.net_ended t = true
  first : s.main = .join true ∨ s.main.PastPoll → s.poll false = .ended
  second : s.main.PastPoll → s.poll true = .ended

/-- At the end nobody is in a call and nobody polls. -/
theorem Joined.quiet {s : Transfers T} (hjoined : s.Joined) (hmain : s.main.PastPoll) :
    (∀ caller, s.call caller = none) ∧ ∀ chan, s.poll chan = .ended := by
  have hpoll : ∀ chan, s.poll chan = .ended := by
    intro chan
    cases chan with
    | false => exact hjoined.first (.inr hmain)
    | true => exact hjoined.second hmain
  have hnet : s.main.PastNet := by
    rcases hmain with h | h <;> simp [h, MainPc.PastNet]
  refine ⟨?_, hpoll⟩
  intro caller
  cases caller with
  | net t => exact hjoined.idle t (hjoined.net hnet t)
  | poll chan =>
    by_contra hcall
    have hsink := hjoined.sinks chan hcall
    rw [hpoll chan] at hsink
    cases hsink

theorem exit_joined (s : Transfers T) : s.exit.Joined where
  idle _ _ := rfl
  sinks _ hcall := absurd rfl hcall
  single _ := rfl
  net _ _ := rfl
  first _ := rfl
  second _ := rfl

theorem initial_joined (enable_monitor : Bool) : (initial T enable_monitor .spw_request_shutdown).Joined where
  idle _ _ := rfl
  sinks _ hcall := absurd rfl hcall
  single hmonitor := by
    change enable_monitor = false at hmonitor
    simp [initial, hmonitor]
  net hpast := absurd rfl hpast.1
  first hmain := by rcases hmain with h | h | h <;> cases h
  second hmain := by rcases hmain with h | h <;> cases h

theorem goto_ended {s : Transfers T} {chan own : Chan} {pc : PollPc} (hown : s.poll own = .ended)
    (hchan : s.poll chan ≠ .ended) : (s.goto chan pc).poll own = .ended := by
  have hne : own ≠ chan := by
    rintro rfl
    exact hchan hown
  exact (goto_of_ne hne).trans hown

/-- A poll thread that has not ended goes on; no call of it is under way. -/
theorem Joined.goto {s : Transfers T} (hjoined : s.Joined) {chan : Chan} (pc : PollPc)
    (hpoll : s.poll chan ≠ .ended) (hcall : s.call (.poll chan) = none) : (s.goto chan pc).Joined where
  idle := hjoined.idle
  sinks own hown := by
    have hne : own ≠ chan := by
      rintro rfl
      exact hown hcall
    exact (goto_of_ne hne).trans (hjoined.sinks own hown)
  single h := goto_ended (hjoined.single h) hpoll
  net := hjoined.net
  first h := goto_ended (hjoined.first h) hpoll
  second h := goto_ended (hjoined.second h) hpoll

variable [DecidableEq T]

/-- A call begins, goes on or ends. -/
theorem Joined.call_at {s : Transfers T} (hjoined : s.Joined) {caller : Caller T} (pc : Option SendPc)
    (hcaller : s.call caller ≠ none ∨ ∃ chan, s.CanCall chan caller) : (s.call_at caller pc).Joined where
  idle t ht := by
    have hne : Caller.net t ≠ caller := by
      rintro rfl
      rcases hcaller with hcall | ⟨chan, hcan⟩
      · exact hcall (hjoined.idle t ht)
      · exact Bool.noConfusion (ht.symm.trans hcan)
    exact (call_at_of_ne hne).trans (hjoined.idle t ht)
  sinks own hown := by
    by_cases heq : Caller.poll own = caller
    · subst heq
      rcases hcaller with hcall | ⟨chan, _, hsink, _⟩
      · exact hjoined.sinks own hcall
      · exact hsink
    · have hcall : s.call (.poll own) ≠ none := fun h => hown ((call_at_of_ne heq).trans h)
      exact hjoined.sinks own hcall
  single := hjoined.single
  net := hjoined.net
  first := hjoined.first
  second := hjoined.second

/-- A network thread ends. -/
theorem Joined.cancel {s : Transfers T} (hjoined : s.Joined) (t : T) :
    ({ s with net_ended := Function.update s.net_ended t true }.call_at (.net t) none).Joined where
  idle u hu := by
    rcases update_cases hu with ⟨rfl, _⟩ | ⟨hne, hold⟩
    · exact Function.update_self _ _ _
    · have hother : Caller.net u ≠ .net t := fun h => hne (Caller.net.inj h)
      exact (call_at_of_ne hother).trans (hjoined.idle u hold)
  sinks chan hcall := by
    have hother : Caller.poll chan ≠ .net t := by simp
    have hcall' : s.call (.poll chan) ≠ none := fun h => hcall ((call_at_of_ne hother).trans h)
    exact hjoined.sinks chan hcall'
  single := hjoined.single
  net hmain u := by
    change Function.update s.net_ended t true u = true
    by_cases heq : u = t
    · rw [heq, Function.update_self]
    · rw [Function.update_of_ne heq]
      exact hjoined.net hmain u
  first := hjoined.first
  second := hjoined.second

variable [Fintype T]

theorem Joined.step {s : Transfers T} (hjoined : s.Joined) (a : TransferStep T) : (s.step a).Joined := by
  rcases s.step_moves a with hsame | hmoves
  · rw [hsame]
    exact hjoined
  · generalize s.step a = s' at hmoves
    cases hmoves with
    | exit => exact s.exit_joined
    | begin hcan hfree => exact hjoined.call_at _ (.inr ⟨_, hcan⟩)
    | create hcall | store hcall | submit hcall | wait hcall | clear hcall | dispose hcall =>
      apply Joined.call_at
      · exact { hjoined with }
      · exact .inl (by simp [hcall])
    | rx_create hcall hpoll | rx_store hcall hpoll =>
      apply Joined.goto
      · exact { hjoined with }
      · simp [hpoll]
      · exact hcall
    | goto hcall hpoll => exact hjoined.goto _ hpoll hcall
    | cancel t => exact hjoined.cancel t
    | request hmain =>
      exact { hjoined with
        net := fun h => absurd rfl h.2
        first := by simp [MainPc.PastPoll]
        second := by simp [MainPc.PastPoll] }
    | net_stop hmain hended =>
      exact { hjoined with
        net := fun _ => hended
        first := by simp [MainPc.PastPoll]
        second := by simp [MainPc.PastPoll] }
    | set_shutdown hmain =>
      exact { hjoined with
        net := fun _ => hjoined.net (by simp [hmain, MainPc.PastNet])
        first := by simp [MainPc.PastPoll]
        second := by simp [MainPc.PastPoll] }
    | cancel_waits hmain =>
      exact { hjoined with
        net := fun _ => hjoined.net (by simp [hmain, MainPc.PastNet])
        first := by simp [MainPc.PastPoll]
        second := by simp [MainPc.PastPoll] }
    | @join chan status hmain hended =>
      have hfirst : s.poll false = .ended := by
        cases chan with
        | false => exact hended
        | true => exact hjoined.first (.inl hmain)
      have hsecond : ¬ (s.enable_monitor ∧ chan = false) → s.poll true = .ended := by
        intro hlast
        cases chan with
        | true => exact hended
        | false => exact hjoined.single (by simpa using hlast)
      exact { hjoined with
        net := fun _ => hjoined.net (by simp [hmain, MainPc.PastNet])
        first := fun _ => hfirst
        second := by
          intro hpast
          apply hsecond
          intro hmore
          rw [if_pos hmore] at hpast
          rcases hpast with h | h <;> cases h }
    | dispose_ops hmain =>
      exact { hjoined with
        net := fun _ => hjoined.net (by simp [hmain, MainPc.PastNet])
        first := fun _ => hjoined.first (.inr (.inl hmain))
        second := fun _ => hjoined.second (.inl hmain) }

/-! ### Operations and their owners -/

end Transfers

/-- Who answers for an operation: the call that sends with it or the receive loop
of a channel. -/
inductive Owner (T : Type)
  | send (chan : Chan) (caller : Caller T)
  | receive (chan : Chan)

def Owner.chan {T : Type} : Owner T → Chan
  | .send chan _ => chan
  | .receive chan => chan

/-- The operation that a call has. -/
def SendPc.op : SendPc → Option Nat
  | .create _ => none
  | .store _ op | .submit _ op | .wait _ op | .clear _ op | .dispose _ op => some op

def SendPc.chan : SendPc → Chan
  | .create chan | .store chan _ | .submit chan _ | .wait chan _ | .clear chan _ | .dispose chan _ => chan

namespace Transfers

variable {T : Type}

/-- The operations as a ledger: what a thread has or a slot refers to is live and
owned by that call or receive loop. A slot never refers to the operation that its
call is about to dispose, nor to the one that the receive loop is about to store. -/
structure Accounts (l : Ledger (Owner T)) (s : Transfers T) : Prop where
  next : l.next = s.next
  released : l.released = s.disposed
  calls : ∀ {caller pc op}, s.call caller = some pc → pc.op = some op → l.Live op (.send pc.chan caller)
  stores : ∀ {chan op}, s.poll chan = .store op → l.Live op (.receive chan)
  tx : s.main ≠ .done → ∀ {chan op}, s.pus_tx_transfer_op chan = some op →
    ∃ caller, l.Live op (.send chan caller) ∧ s.call caller ≠ some (.dispose chan op)
  rx : s.main ≠ .done → ∀ {chan op}, s.pus_rx_transfer_op chan = some op →
    l.Live op (.receive chan) ∧ s.poll chan ≠ .store op

theorem initial_accounts (enable_monitor : Bool) (main : MainPc) :
    Accounts (.empty (.receive false)) (initial T enable_monitor main) where
  next := rfl
  released := rfl
  calls h := by cases h
  stores {chan op} h := by
    change (if chan = false ∨ enable_monitor then PollPc.top else .ended) = .store op at h
    split at h <;> cases h
  tx _ {_ _} h := by cases h
  rx _ {_ _} h := by cases h

section accounts

variable {l : Ledger (Owner T)} {s : Transfers T}

theorem Accounts.exit (haccounts : Accounts l s) (hmain : s.main ≠ .done) : Accounts l s.exit where
  next := haccounts.next
  released := haccounts.released
  calls h := by cases h
  stores h := by cases h
  tx _ {_ _} h := by
    obtain ⟨caller, hlive, _⟩ := haccounts.tx hmain h
    exact ⟨caller, hlive, by simp [Transfers.exit]⟩
  rx _ {_ _} h := ⟨(haccounts.rx hmain h).1, by simp [Transfers.exit]⟩

/-- `main` goes on, and slots keep what they refer to. -/
theorem Accounts.main (haccounts : Accounts l s) (hmain : s.main ≠ .done) (shutdown : Bool) (cancelled : List Nat)
    (main : MainPc) : Accounts l { s with shutdown := shutdown, cancelled := cancelled, main := main } :=
  { haccounts with
    tx := fun _ => haccounts.tx hmain
    rx := fun _ => haccounts.rx hmain }

/-- A poll thread goes on with what it has. -/
theorem Accounts.goto (haccounts : Accounts l s) (chan : Chan) (pc : PollPc) (hstore : ∀ op, pc ≠ .store op) :
    Accounts l (s.goto chan pc) where
  next := haccounts.next
  released := haccounts.released
  calls := haccounts.calls
  stores {own op} h := by
    rcases goto_cases h with ⟨_, hpc⟩ | ⟨_, hold⟩
    · exact absurd hpc (hstore op)
    · exact haccounts.stores hold
  tx hmain {_ _} h := haccounts.tx hmain h
  rx hmain {own op} h := by
    obtain ⟨hlive, hne⟩ := haccounts.rx hmain h
    refine ⟨hlive, ?_⟩
    intro hpoll
    rcases goto_cases hpoll with ⟨_, hpc⟩ | ⟨_, hold⟩
    · exact hstore op hpc
    · exact hne hold

/-- The receive loop is about to store a new operation. -/
theorem Accounts.goto_store (haccounts : Accounts l s) {chan : Chan} {op : Nat} (hlive : l.Live op (.receive chan))
    (hfresh : s.main ≠ .done → s.pus_rx_transfer_op chan ≠ some op) : Accounts l (s.goto chan (.store op)) where
  next := haccounts.next
  released := haccounts.released
  calls := haccounts.calls
  stores {own other} h := by
    rcases goto_cases h with ⟨rfl, hpc⟩ | ⟨_, hold⟩
    · exact PollPc.store.inj hpc ▸ hlive
    · exact haccounts.stores hold
  tx hmain {_ _} h := haccounts.tx hmain h
  rx hmain {own other} h := by
    obtain ⟨hother, hne⟩ := haccounts.rx hmain h
    refine ⟨hother, ?_⟩
    intro hpoll
    rcases goto_cases hpoll with ⟨rfl, hpc⟩ | ⟨_, hold⟩
    · exact hfresh hmain (PollPc.store.inj hpc ▸ h)
    · exact hne hold

/-- It stores it. -/
theorem Accounts.rx_store (haccounts : Accounts l s) {chan : Chan} {op : Nat} (hpoll : s.poll chan = .store op) :
    Accounts l
      ({ s with pus_rx_transfer_op := Function.update s.pus_rx_transfer_op chan (some op) }.goto chan
        (.submit op)) where
  next := haccounts.next
  released := haccounts.released
  calls := haccounts.calls
  stores h := (haccounts.goto chan (.submit op) (by simp)).stores h
  tx hmain {_ _} h := haccounts.tx hmain h
  rx hmain {own other} h := by
    rcases update_cases h with ⟨rfl, hop⟩ | ⟨_, hold⟩
    · exact ⟨Option.some.inj hop ▸ haccounts.stores hpoll, by simp [Transfers.goto]⟩
    · exact (haccounts.goto chan (.submit op) (by simp)).rx hmain hold

/-- An operation is created. -/
theorem Accounts.give (haccounts : Accounts l s) (o : Owner T) :
    Accounts (l.give o) { s with next := s.next + 1 } where
  next := congrArg (· + 1) haccounts.next
  released := haccounts.released
  calls h hop := (haccounts.calls h hop).give o
  stores h := (haccounts.stores h).give o
  tx hmain {_ _} h := by
    obtain ⟨caller, hlive, hne⟩ := haccounts.tx hmain h
    exact ⟨caller, hlive.give o, hne⟩
  rx hmain {_ _} h := by
    obtain ⟨hlive, hne⟩ := haccounts.rx hmain h
    exact ⟨hlive.give o, hne⟩

/-- Operations are disposed that no thread has and, until the end, no slot refers
to. -/
theorem Accounts.release (haccounts : Accounts l s) {ops : List Nat} (hdistinct : ops.Nodup)
    (hlive : ∀ op ∈ ops, ∃ o, l.Live op o)
    (hcalls : ∀ caller pc op, s.call caller = some pc → pc.op = some op → op ∉ ops)
    (hstores : ∀ chan op, s.poll chan = .store op → op ∉ ops)
    (htx : s.main ≠ .done → ∀ chan op, s.pus_tx_transfer_op chan = some op → op ∉ ops)
    (hrx : s.main ≠ .done → ∀ chan op, s.pus_rx_transfer_op chan = some op → op ∉ ops) :
    Accounts (l.release ops hdistinct hlive) { s with disposed := s.disposed ++ ops } where
  next := haccounts.next
  released := congrArg (· ++ ops) haccounts.released
  calls {caller pc op} h hop := (haccounts.calls h hop).release hdistinct hlive (hcalls caller pc op h hop)
  stores {chan op} h := (haccounts.stores h).release hdistinct hlive (hstores chan op h)
  tx hmain {chan op} h := by
    obtain ⟨caller, hop, hne⟩ := haccounts.tx hmain h
    exact ⟨caller, hop.release hdistinct hlive (htx hmain chan op h), hne⟩
  rx hmain {chan op} h := by
    obtain ⟨hop, hne⟩ := haccounts.rx hmain h
    exact ⟨hop.release hdistinct hlive (hrx hmain chan op h), hne⟩

/-- The section of `spw_setup_rx_op`. -/
theorem Accounts.setup_rx_op (haccounts : Accounts l s) {chan : Chan} {op : Nat} (hmain : s.main ≠ .done)
    (hpoll : s.poll chan = .store op) :
    ∃ l', Accounts l'
      ({ s with
        disposed := s.disposed ++ (s.pus_rx_transfer_op chan).toList
        pus_rx_transfer_op := Function.update s.pus_rx_transfer_op chan (some op) }.goto chan (.submit op)) := by
  have hold : ∀ other ∈ (s.pus_rx_transfer_op chan).toList, l.Live other (.receive chan) ∧ other ≠ op := by
    intro other hother
    obtain ⟨hlive, hne⟩ := haccounts.rx hmain (Option.mem_toList.mp hother)
    refine ⟨hlive, ?_⟩
    rintro rfl
    exact hne hpoll
  have hdistinct : (s.pus_rx_transfer_op chan).toList.Nodup := by
    cases s.pus_rx_transfer_op chan with
    | none => exact List.nodup_nil
    | some old => exact List.nodup_singleton old
  refine ⟨_, (haccounts.rx_store hpoll).release hdistinct (fun other h => ⟨_, (hold other h).1⟩) ?_ ?_ ?_ ?_⟩
  · intro caller pc other h hpc hmem
    cases (haccounts.calls h hpc).unique (hold other hmem).1
  · intro own other h hmem
    rcases goto_cases h with ⟨_, hpc⟩ | ⟨hne, hbefore⟩
    · cases hpc
    · have howner := (haccounts.stores hbefore).unique (hold other hmem).1
      exact hne (Owner.receive.inj howner)
  · intro _ own other h hmem
    obtain ⟨caller, hlive, _⟩ := haccounts.tx hmain h
    cases hlive.unique (hold other hmem).1
  · intro _ own other h hmem
    rcases update_cases h with ⟨_, hop⟩ | ⟨hne, hbefore⟩
    · exact (hold other hmem).2 (Option.some.inj hop).symm
    · have howner := (haccounts.rx hmain hbefore).1.unique (hold other hmem).1
      exact hne (Owner.receive.inj howner)

/-- What `spw_dispose_ops` disposes for a channel is live and belongs to it. -/
theorem Accounts.live_of_slot (haccounts : Accounts l s) (hmain : s.main ≠ .done) {status : Nat → TransferStatus}
    {chan : Chan} {op : Nat}
    (hop : op ∈ dispose_slot status (s.pus_rx_transfer_op chan) ++ dispose_slot status (s.pus_tx_transfer_op chan)) :
    ∃ o, l.Live op o ∧ o.chan = chan := by
  rcases List.mem_append.mp hop with hrx | htx
  · have hslot := Option.mem_toList.mp (List.mem_filter.mp hrx).1
    exact ⟨_, (haccounts.rx hmain hslot).1, rfl⟩
  · have hslot := Option.mem_toList.mp (List.mem_filter.mp htx).1
    obtain ⟨caller, hlive, _⟩ := haccounts.tx hmain hslot
    exact ⟨_, hlive, rfl⟩

theorem Accounts.nodup_dispose_ops (haccounts : Accounts l s) (hmain : s.main ≠ .done)
    (status : Nat → TransferStatus) : (s.spw_dispose_ops status).Nodup := by
  have hslot : ∀ slot, (dispose_slot status slot).Nodup := by
    intro slot
    apply List.Nodup.filter
    cases slot with
    | none => exact List.nodup_nil
    | some op => exact List.nodup_singleton op
  refine List.nodup_flatMap.mpr ⟨?_, ?_⟩
  · intro chan _
    refine List.nodup_append.mpr ⟨hslot _, hslot _, ?_⟩
    rintro op hrx _ htx rfl
    have hreceived := (haccounts.rx hmain (Option.mem_toList.mp (List.mem_filter.mp hrx).1)).1
    obtain ⟨caller, hsent, _⟩ := haccounts.tx hmain (Option.mem_toList.mp (List.mem_filter.mp htx).1)
    cases hreceived.unique hsent
  · have hchans : s.chans.Nodup := by
      unfold chans
      split <;> decide
    apply hchans.imp
    intro chan chan' hne op hop hop'
    obtain ⟨o, hlive, hchan⟩ := haccounts.live_of_slot hmain hop
    obtain ⟨o', hlive', hchan'⟩ := haccounts.live_of_slot hmain hop'
    rw [hlive.unique hlive'] at hchan
    exact hne (hchan.symm.trans hchan')

/-- The section of `spw_dispose_ops`, with all threads at their end. -/
theorem Accounts.dispose_ops (haccounts : Accounts l s) (hjoined : s.Joined) (hmain : s.main = .spw_dispose_ops)
    (status : Nat → TransferStatus) :
    ∃ l', Accounts l' { s with disposed := s.disposed ++ s.spw_dispose_ops status, main := .done } := by
  obtain ⟨hcalls, hpolls⟩ := hjoined.quiet (.inl hmain)
  have hbefore : s.main ≠ .done := by simp [hmain]
  have hdone : Accounts l { s with main := .done } :=
    { haccounts with
      tx := fun h => absurd rfl h
      rx := fun h => absurd rfl h }
  have hlive : ∀ op ∈ s.spw_dispose_ops status, ∃ o, l.Live op o := by
    intro op hop
    obtain ⟨chan, _, hslot⟩ := List.mem_flatMap.mp hop
    obtain ⟨o, ho, _⟩ := haccounts.live_of_slot hbefore hslot
    exact ⟨o, ho⟩
  refine ⟨_, hdone.release (haccounts.nodup_dispose_ops hbefore status) hlive ?_ ?_ ?_ ?_⟩
  · intro caller pc op h
    cases (hcalls caller).symm.trans h
  · intro chan op h
    cases (hpolls chan).symm.trans h
  · exact fun h => absurd rfl h
  · exact fun h => absurd rfl h

variable [DecidableEq T]

/-- A call begins, goes on with its operation or ends; slots may get it. -/
theorem Accounts.call_at (haccounts : Accounts l s) {caller : Caller T} {pc : Option SendPc}
    {slots : Chan → Option Nat}
    (hpc : ∀ pc' op, pc = some pc' → pc'.op = some op → l.Live op (.send pc'.chan caller))
    (hslots : ∀ chan op, slots chan = some op → pc ≠ some (.dispose chan op) ∧
      (s.pus_tx_transfer_op chan = some op ∨ l.Live op (.send chan caller))) :
    Accounts l ({ s with pus_tx_transfer_op := slots }.call_at caller pc) where
  next := haccounts.next
  released := haccounts.released
  calls {other pc' op} h hop := by
    rcases call_at_cases h with ⟨rfl, hnew⟩ | ⟨_, hold⟩
    · exact hpc pc' op hnew hop
    · exact haccounts.calls hold hop
  stores := haccounts.stores
  tx hmain {chan op} h := by
    obtain ⟨hpc', hslot⟩ := hslots chan op h
    have hkept : ∀ other, s.call other ≠ some (.dispose chan op) ∨ other = caller →
        (s.call_at caller pc).call other ≠ some (.dispose chan op) := by
      intro other hother hcall
      rcases call_at_cases hcall with ⟨_, hnew⟩ | ⟨hne, hold⟩
      · exact hpc' hnew
      · rcases hother with hbefore | heq
        · exact hbefore hold
        · exact hne heq
    rcases hslot with hold | hnew
    · obtain ⟨other, hlive, hne⟩ := haccounts.tx hmain hold
      exact ⟨other, hlive, hkept other (.inl hne)⟩
    · exact ⟨caller, hnew, hkept caller (.inr rfl)⟩
  rx hmain {_ _} h := haccounts.rx hmain h

/-- The step of a call that disposes its operation. -/
theorem Accounts.dispose (haccounts : Accounts l s) {caller : Caller T} {chan : Chan} {op : Nat}
    (hcall : s.call caller = some (.dispose chan op)) :
    ∃ l', Accounts l' ({ s with disposed := s.disposed ++ [op] }.call_at caller none) := by
  have hop : l.Live op (.send chan caller) := haccounts.calls hcall rfl
  have hlive : ∀ other ∈ [op], ∃ o, l.Live other o := by
    intro other hother
    rw [List.mem_singleton.mp hother]
    exact ⟨_, hop⟩
  have hreturned : Accounts l (s.call_at caller none) :=
    haccounts.call_at (by simp) fun chan op h => ⟨by simp, .inl h⟩
  refine ⟨_, hreturned.release (List.nodup_singleton op) hlive ?_ ?_ ?_ ?_⟩
  · intro other pc op' h hpc hmem
    rw [List.mem_singleton] at hmem
    subst hmem
    rcases call_at_cases h with ⟨_, hnew⟩ | ⟨hne, hold⟩
    · cases hnew
    · have howner := (haccounts.calls hold hpc).unique hop
      exact hne (Owner.send.inj howner).2
  · intro own op' h hmem
    rw [List.mem_singleton] at hmem
    subst hmem
    cases (haccounts.stores h).unique hop
  · intro hmain own op' h hmem
    rw [List.mem_singleton] at hmem
    subst hmem
    obtain ⟨other, hlive', hne⟩ := haccounts.tx hmain h
    obtain ⟨hchan, hcaller⟩ := Owner.send.inj (hlive'.unique hop)
    subst hchan hcaller
    exact hne hcall
  · intro hmain own op' h hmem
    rw [List.mem_singleton] at hmem
    subst hmem
    cases (haccounts.rx hmain h).1.unique hop

variable [Fintype T]

/-- The step lemma. -/
theorem Accounts.step (haccounts : Accounts l s) (hjoined : s.Joined) (a : TransferStep T) :
    ∃ l', Accounts l' (s.step a) := by
  have hbusy : (∃ caller, s.call caller ≠ none) ∨ (∃ chan, s.poll chan ≠ .ended) → s.main ≠ .done := by
    intro hlive hmain
    obtain ⟨hcalls, hpolls⟩ := hjoined.quiet (.inr hmain)
    rcases hlive with ⟨caller, hcaller⟩ | ⟨chan, hchan⟩
    · exact hcaller (hcalls caller)
    · exact hchan (hpolls chan)
  rcases s.step_moves a with hsame | hmoves
  · rw [hsame]
    exact ⟨l, haccounts⟩
  · generalize s.step a = s' at hmoves
    cases hmoves with
    | exit _ hlive => exact ⟨l, haccounts.exit (hbusy hlive)⟩
    | begin hcan hfree =>
      refine ⟨l, haccounts.call_at ?_ fun chan op h => ⟨by simp, .inl h⟩⟩
      rintro _ op ⟨⟩ ⟨⟩
    | @create caller chan status hcall =>
      refine ⟨_, (haccounts.give (.send chan caller)).call_at ?_ fun chan op h => ⟨by simp, .inl h⟩⟩
      rintro _ op ⟨⟩ ⟨⟩
      rw [← haccounts.next]
      exact Ledger.live_give l _
    | @store caller chan op status hcall =>
      have hop : l.Live op (.send chan caller) := haccounts.calls hcall rfl
      refine ⟨l, haccounts.call_at ?_ fun own other h => ⟨by simp, ?_⟩⟩
      · rintro _ _ ⟨⟩ ⟨⟩
        exact hop
      · rcases update_cases h with ⟨rfl, hnew⟩ | ⟨_, hold⟩
        · exact .inr (Option.some.inj hnew ▸ hop)
        · exact .inl hold
    | @submit caller chan op status hcall | @wait caller chan op status hcall =>
      have hop : l.Live op (.send chan caller) := haccounts.calls hcall rfl
      refine ⟨l, haccounts.call_at ?_ fun chan op h => ⟨by simp, .inl h⟩⟩
      rintro _ _ ⟨⟩ ⟨⟩
      exact hop
    | @clear caller chan op status hcall =>
      have hop : l.Live op (.send chan caller) := haccounts.calls hcall rfl
      refine ⟨l, haccounts.call_at ?_ fun own other h => ?_⟩
      · rintro _ _ ⟨⟩ ⟨⟩
        exact hop
      · -- the slot has another operation now, or none
        split at h
        case isTrue =>
          have hne : own ≠ chan := by
            rintro rfl
            rw [Function.update_self] at h
            cases h
          rw [Function.update_of_ne hne] at h
          exact ⟨by simp [hne.symm], .inl h⟩
        case isFalse hother =>
          refine ⟨?_, .inl h⟩
          rintro ⟨⟩
          exact hother h
    | dispose hcall => exact haccounts.dispose hcall
    | @rx_create chan status hcall hpoll =>
      have hmain := hbusy (.inr ⟨chan, by simp [hpoll]⟩)
      refine ⟨_, (haccounts.give (.receive chan)).goto_store ?_ ?_⟩
      · rw [← haccounts.next]
        exact Ledger.live_give l _
      · intro _ hslot
        have hlt := (haccounts.rx hmain hslot).1.lt_next
        rw [haccounts.next] at hlt
        exact Nat.lt_irrefl _ hlt
    | @rx_store chan op status hcall hpoll =>
      exact haccounts.setup_rx_op (hbusy (.inr ⟨chan, by simp [hpoll]⟩)) hpoll
    | goto hcall hpoll hstore => exact ⟨l, haccounts.goto _ _ hstore⟩
    | cancel t =>
      have hended : Accounts l { s with net_ended := Function.update s.net_ended t true } := { haccounts with }
      exact ⟨l, hended.call_at (by simp) fun chan op h => ⟨by simp, .inl h⟩⟩
    | request hmain => exact ⟨l, haccounts.main (by simp [hmain]) _ _ _⟩
    | net_stop hmain hended => exact ⟨l, haccounts.main (by simp [hmain]) _ _ _⟩
    | set_shutdown hmain => exact ⟨l, haccounts.main (by simp [hmain]) _ _ _⟩
    | cancel_waits hmain => exact ⟨l, haccounts.main (by simp [hmain]) _ _ _⟩
    | @join chan status hmain hended => exact ⟨l, haccounts.main (by simp [hmain]) _ _ _⟩
    | dispose_ops hmain => exact haccounts.dispose_ops hjoined hmain _

end accounts

variable [DecidableEq T] [Fintype T]

/-- No transfer operation is disposed twice. In every run of the senders, the
receive loops and the end of `main`, with any results of the device API and with
network threads cancelled anywhere, each operation is disposed at most once, and
until `spw_dispose_ops` has run no slot refers to one that has been disposed. -/
theorem disposed_at_most_once (enable_monitor : Bool) {s : Transfers T}
    (hreached : (initial T enable_monitor .spw_request_shutdown).Reaches s) :
    s.disposed.Nodup ∧ (s.main ≠ .done → ∀ chan op,
      s.pus_tx_transfer_op chan = some op ∨ s.pus_rx_transfer_op chan = some op → op ∉ s.disposed) := by
  have hstep : ∀ (s : Transfers T) a, (s.Joined ∧ ∃ l, Accounts l s) →
      (s.step a).Joined ∧ ∃ l, Accounts l (s.step a) := by
    rintro s a ⟨hjoined, l, haccounts⟩
    exact ⟨hjoined.step a, haccounts.step hjoined a⟩
  obtain ⟨_, l, haccounts⟩ := hreached.invariant hstep
    ⟨initial_joined enable_monitor, _, initial_accounts enable_monitor .spw_request_shutdown⟩
  rw [← haccounts.released]
  refine ⟨l.once, ?_⟩
  intro hmain chan op hslot
  rcases hslot with htx | hrx
  · obtain ⟨caller, hlive, _⟩ := haccounts.tx hmain htx
    exact hlive.kept
  · exact (haccounts.rx hmain hrx).1.kept

/-- Two senders on one channel. The one that stored last is cancelled before it
submits; the receive loop has been round twice. -/
def cancelledSender : List (TransferStep Bool) :=
  List.flatten
    [[.begin (.net false) false, .begin (.net true) false, .send (.net false) .COMPLETE, .send (.net true) .COMPLETE,
      .send (.net false) .COMPLETE, .send (.net true) .COMPLETE],
    List.replicate 4 (.send (.net false) .COMPLETE),
    List.replicate 5 (.poll false .COMPLETE),
    List.replicate 2 (.poll false .other),
    List.replicate 5 (.poll false .COMPLETE),
    [.main fun _ => .other, .cancel false, .cancel true],
    List.replicate 3 (.main fun _ => .other),
    [.poll false .CANCELLED, .main fun _ => .other]]

theorem disposed_at_most_once_cancelled :
    ∃ s, (initial Bool false .spw_request_shutdown).Reaches s ∧ s.pus_tx_transfer_op false = some 1 ∧
      s.disposed = [0, 2] ∧ s.disposed.Nodup ∧ 1 ∉ s.disposed := by
  have hreached : (initial Bool false .spw_request_shutdown).Reaches _ := ⟨cancelledSender, rfl⟩
  obtain ⟨honce, hslots⟩ := disposed_at_most_once false hreached
  exact ⟨_, hreached, by decide, by decide, honce, hslots (by decide) false 1 (.inl (by decide))⟩

end Transfers

end spw_bridge.spw
