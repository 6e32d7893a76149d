import Mathlib.Data.Fintype.Basic
import SpwBridge.Config
import SpwBridge.Library.Runs
import SpwBridge.Spw.Transmit

open effect runs

namespace spw_bridge.spw

/-- What a call of the device API returns. A call without a status of its own
succeeds with `COMPLETE`. -/
inductive TransferStatus
  | COMPLETE
  | CANCELLED
  | other
  deriving DecidableEq, Repr

/-- The next operation of a call of `spw_send_packet_chan`: to create the
transfer operation, to store it under the lock, to submit it, to wait for it, to
clear its slot under the lock, to dispose it. -/
inductive SendPc
  | create (chan : Chan)
  | store (chan : Chan) (op : Nat)
  | submit (chan : Chan) (op : Nat)
  | wait (chan : Chan) (op : Nat)
  | clear (chan : Chan) (op : Nat)
  | dispose (chan : Chan) (op : Nat)
  deriving DecidableEq, Repr

/-- The next operation of a `poll_spw` thread: the check at the top of the loop;
the creation, the section and the submission of `spw_setup_rx_op`; the second
check, the wait, the third check and the packet sink. -/
inductive PollPc
  | top
  | create
  | store (op : Nat)
  | submit (op : Nat)
  | check (op : Nat)
  | wait (op : Nat)
  | woken (status : TransferStatus)
  | sink
  | ended
  deriving DecidableEq, Repr

/-- The next operation of `main` once it winds down. `spw_stop_poll` sets the
flag, cancels the waits under the lock and joins the threads. -/
inductive MainPc
  | spw_request_shutdown
  | net_stop
  | set_shutdown
  | cancel_waits
  | join (chan : Chan)
  | spw_dispose_ops
  | done
  | exited
  deriving DecidableEq, Repr

/-- Who calls `spw_send_packet_chan`: a network thread, or in monitor mode the
packet sink of a poll thread. -/
inductive Caller (T : Type)
  | net (t : T)
  | poll (chan : Chan)
  deriving DecidableEq, Repr

/-- The transfer operations and the threads that use them. Operations are
numbered in the order of their creation; `disposed` are the arguments of the
calls of `STAR_disposeTransferOperation`, `cancelled` those of
`STAR_cancelTransferOperationWaits`. -/
structure Transfers (T : Type) where
  enable_monitor : Bool
  shutdown : Bool
  pus_tx_transfer_op : Chan → Option Nat
  pus_rx_transfer_op : Chan → Option Nat
  next : Nat
  disposed : List Nat
  cancelled : List Nat
  main : MainPc
  poll : Chan → PollPc
  call : Caller T → Option SendPc
  net_ended : T → Bool

/-- A thread calls `spw_send_packet_chan` or goes on within it; a poll thread goes
on; a network thread ends, cancelled or not; `main` goes on. What the device API
returns is part of the step, for `spw_dispose_ops` the status of each
operation. -/
inductive TransferStep (T : Type)
  | begin (caller : Caller T) (chan : Chan)
  | send (caller : Caller T) (status : TransferStatus)
  | poll (chan : Chan) (status : TransferStatus)
  | cancel (t : T)
  | main (status : Nat → TransferStatus)

namespace Transfers

variable {T : Type}

/-- The channels that the loops run over. -/
def chans (s : Transfers T) : List Chan := if s.enable_monitor then [false, true] else [false]

/-- `spw_setup_device` has returned. -/
def initial (T : Type) (enable_monitor : Bool) (main : MainPc) : Transfers T where
  enable_monitor := enable_monitor
  shutdown := false
  pus_tx_transfer_op _ := none
  pus_rx_transfer_op _ := none
  next := 0
  disposed := []
  cancelled := []
  main := main
  poll chan := if chan = false ∨ enable_monitor then .top else .ended
  call _ := none
  net_ended _ := false

/-- The end of the process. -/
def exit (s : Transfers T) : Transfers T :=
  { s with main := .exited, poll := fun _ => .ended, call := fun _ => none, net_ended := fun _ => true }

def goto (s : Transfers T) (chan : Chan) (pc : PollPc) : Transfers T :=
  { s with poll := Function.update s.poll chan pc }

/-- At a place of an updated function there is the new value or what was there. -/
theorem update_cases {A B : Type} [DecidableEq A] {f : A → B} {a x : A} {b c : B}
    (h : Function.update f a b x = c) : (x = a ∧ b = c) ∨ (x ≠ a ∧ f x = c) := by
  by_cases heq : x = a
  · subst heq
    rw [Function.update_self] at h
    exact .inl ⟨rfl, h⟩
  · rw [Function.update_of_ne heq] at h
    exact .inr ⟨heq, h⟩

@[simp] theorem goto_self (s : Transfers T) (chan : Chan) (pc : PollPc) : (s.goto chan pc).poll chan = pc :=
  Function.update_self _ _ _

theorem goto_of_ne {s : Transfers T} {chan own : Chan} {pc : PollPc} (hne : own ≠ chan) :
    (s.goto chan pc).poll own = s.poll own := Function.update_of_ne hne _ _

theorem goto_cases {s : Transfers T} {chan own : Chan} {pc pc' : PollPc} (h : (s.goto chan pc).poll own = pc') :
    (own = chan ∧ pc = pc') ∨ (own ≠ chan ∧ s.poll own = pc') := update_cases h

/-- One operation of a `poll_spw` thread. -/
def poll_step (s : Transfers T) (chan : Chan) (status : TransferStatus) : Transfers T :=
  match s.poll chan with
  | .top => s.goto chan (if s.shutdown then .ended else .create)
  | .create =>
    if status = .COMPLETE then { s with next := s.next + 1 }.goto chan (.store s.next) else s.exit
  | .store op =>
    { s with
      disposed := s.disposed ++ (s.pus_rx_transfer_op chan).toList
      pus_rx_transfer_op := Function.update s.pus_rx_transfer_op chan (some op) }.goto chan (.submit op)
  | .submit op => if status = .COMPLETE then s.goto chan (.check op) else s.exit
  | .check op => s.goto chan (if s.shutdown then .ended else .wait op)
  | .wait _ => s.goto chan (if status = .CANCELLED then .ended else .woken status)
  | .woken status => s.goto chan (if s.shutdown then .ended else if status = .COMPLETE then .sink else .top)
  | .sink => s.goto chan .top
  | .ended => s

/-- What `spw_dispose_ops` does with a slot: a cancelled operation has been freed
by the API. -/
def dispose_slot (status : Nat → TransferStatus) (slot : Option Nat) : List Nat :=
  slot.toList.filter fun op => status op ≠ .CANCELLED

/-- The operations that `spw_dispose_ops` disposes, in order. -/
def spw_dispose_ops (s : Transfers T) (status : Nat → TransferStatus) : List Nat :=
  s.chans.flatMap fun i =>
    dispose_slot status (s.pus_rx_transfer_op i) ++ dispose_slot status (s.pus_tx_transfer_op i)

/-- One operation of `main`. It waits in `net_stop` for all network threads and at
a join for its poll thread. -/
def main_step [Fintype T] (s : Transfers T) (status : Nat → TransferStatus) : Transfers T :=
  match s.main with
  | .spw_request_shutdown => { s with shutdown := true, main := .net_stop }
  | .net_stop => if ∀ t, s.net_ended t = true then { s with main := .set_shutdown } else s
  | .set_shutdown => { s with shutdown := true, main := .cancel_waits }
  | .cancel_waits =>
    { s with
      cancelled := s.cancelled ++ s.chans.flatMap fun i => (s.pus_rx_transfer_op i).toList
      main := .join false }
  | .join chan =>
    if s.poll chan = .ended then
      { s with main := if s.enable_monitor ∧ chan = false then .join true else .spw_dispose_ops }
    else s
  | .spw_dispose_ops => { s with disposed := s.disposed ++ s.spw_dispose_ops status, main := .done }
  | .done => s
  | .exited => s

variable [DecidableEq T]

def call_at (s : Transfers T) (caller : Caller T) (pc : Option SendPc) : Transfers T :=
  { s with call := Function.update s.call caller pc }

theorem call_at_of_ne {s : Transfers T} {caller other : Caller T} {pc : Option SendPc} (hne : other ≠ caller) :
    (s.call_at caller pc).call other = s.call other := Function.update_of_ne hne _ _

theorem call_at_cases {s : Transfers T} {caller other : Caller T} {pc pc' : Option SendPc}
    (h : (s.call_at caller pc).call other = pc') :
    (other = caller ∧ pc = pc') ∨ (other ≠ caller ∧ s.call other = pc') := update_cases h

/-- Whether a thread can call `spw_send_packet_chan` for a channel now. A poll
thread sends on the other channel. -/
def CanCall (s : Transfers T) (chan : Chan) : Caller T → Prop
  | .net t => s.net_ended t = false
  | .poll own => s.enable_monitor ∧ s.poll own = .sink ∧ chan = !own

instance (s : Transfers T) (chan : Chan) : (caller : Caller T) → Decidable (s.CanCall chan caller)
  | .net t => inferInstanceAs (Decidable (s.net_ended t = false))
  | .poll own => inferInstanceAs (Decidable (s.enable_monitor = true ∧ s.poll own = .sink ∧ chan = !own))

/-- One operation of a call of `spw_send_packet_chan`. The status of a finished
wait is read back from a variable that all callers share: any value may come. -/
def send_step (s : Transfers T) (caller : Caller T) (status : TransferStatus) : Transfers T :=
  match s.call caller with
  | none => s
  | some (.create chan) =>
    if status = .COMPLETE then { s with next := s.next + 1 }.call_at caller (some (.store chan s.next)) else s.exit
  | some (.store chan op) =>
    { s with
      pus_tx_transfer_op := Function.update s.pus_tx_transfer_op chan (some op) }.call_at caller
        (some (.submit chan op))
  | some (.submit chan op) =>
    if status = .COMPLETE then s.call_at caller (some (.wait chan op)) else s.exit
  | some (.wait chan op) =>
    if status = .COMPLETE then s.call_at caller (some (.clear chan op)) else s.exit
  | some (.clear chan op) =>
    { s with
      pus_tx_transfer_op :=
        if s.pus_tx_transfer_op chan = some op then Function.update s.pus_tx_transfer_op chan none
        else s.pus_tx_transfer_op }.call_at caller (some (.dispose chan op))
  | some (.dispose _ op) => { s with disposed := s.disposed ++ [op] }.call_at caller none

/-- One step of one thread. A step of a thread that is somewhere else changes
nothing. A poll thread in the middle of a call is within its sink. -/
def step [Fintype T] (s : Transfers T) : TransferStep T → Transfers T
  | .begin caller chan =>
    if s.CanCall chan caller ∧ s.call caller = none then s.call_at caller (some (.create chan)) else s
  | .send caller status => s.send_step caller status
  | .poll chan status => if s.call (.poll chan) = none then s.poll_step chan status else s
  | .cancel t => { s with net_ended := Function.update s.net_ended t true }.call_at (.net t) none
  | .main status => s.main_step status

/-- A run leads from one state to another. -/
def Reaches [Fintype T] (s s' : Transfers T) : Prop := ∃ actions, run step s actions = s'

/-! ### Without interleaving -/

def status_of (ok : Bool) : TransferStatus := if ok then .COMPLETE else .other

/-- The steps of a call, with the results that the environment gives it. -/
def call_steps {σ : Type} (E : Env σ) (env : σ) (caller : Caller T) (chan : Chan) : List (TransferStep T) :=
  let packet := E.STAR_createPacket env
  let operation := E.STAR_createTxOperation packet.2
  let submit := E.STAR_submitTransferOperation operation.2
  let wait := E.STAR_waitOnTransferOperationCompletion submit.2
  [.begin caller chan, .send caller (status_of (packet.1 && operation.1)), .send caller .COMPLETE,
    .send caller (status_of submit.1), .send caller (status_of wait.1), .send caller .COMPLETE,
    .send caller .COMPLETE]

/-- On its own a call is `spw_send_packet_chan`: where that returns, the call has
created one operation and disposed it; where that exits, so does the call. -/
theorem call_alone [Fintype T] {σ : Type} (E : Env σ) (buf : List UInt8) {w : World σ} {st : SpwState}
    (hst : w.spw = some st) {s : Transfers T} {caller : Caller T} {chan : Chan} (hcan : s.CanCall chan caller)
    (hfree : s.call caller = none) :
    wp (spw_send_packet_chan E chan buf)
      (fun _ _ => run step s (call_steps E w.env caller chan) =
        { s with
          next := s.next + 1
          disposed := s.disposed ++ [s.next]
          pus_tx_transfer_op := Function.update s.pus_tx_transfer_op chan none })
      (fun halt _ => halt = .exit ∧ (run step s (call_steps E w.env caller chan)).main = .exited) w := by
  have hcalls : Function.update s.call caller none = s.call := by
    rw [← hfree, Function.update_eq_self]
  simp only [spw_send_packet_chan, wp_bind, wp_log_spw, wp_tx_address, hst, wp_exit_unless]
  split_ifs with hpacket hoperation hsubmit hwait <;>
    simp_all [call_steps, step, send_step, call_at, status_of, exit]

/-! ### What a step can do -/

/-- What a step does, case by case, when its thread is there for it. -/
inductive Moves (s : Transfers T) : TransferStep T → Transfers T → Prop
  | exit (a : TransferStep T) (hlive : (∃ caller, s.call caller ≠ none) ∨ ∃ chan, s.poll chan ≠ .ended) :
      Moves s a s.exit
  | begin {caller : Caller T} {chan : Chan} (hcan : s.CanCall chan caller) (hfree : s.call caller = none) :
      Moves s (.begin caller chan) (s.call_at caller (some (.create chan)))
  | create {caller : Caller T} {chan : Chan} {status : TransferStatus}
      (hcall : s.call caller = some (.create chan)) :
      Moves s (.send caller status) ({ s with next := s.next + 1 }.call_at caller (some (.store chan s.next)))
  | store {caller : Caller T} {chan : Chan} {op : Nat} {status : TransferStatus}
      (hcall : s.call caller = some (.store chan op)) :
      Moves s (.send caller status)
        ({ s with pus_tx_transfer_op := Function.update s.pus_tx_transfer_op chan (some op) }.call_at caller
          (some (.submit chan op)))
  | submit {caller : Caller T} {chan : Chan} {op : Nat} {status : TransferStatus}
      (hcall : s.call caller = some (.submit chan op)) :
      Moves s (.send caller status) (s.call_at caller (some (.wait chan op)))
  | wait {caller : Caller T} {chan : Chan} {op : Nat} {status : TransferStatus}
      (hcall : s.call caller = some (.wait chan op)) :
      Moves s (.send caller status) (s.call_at caller (some (.clear chan op)))
  | clear {caller : Caller T} {chan : Chan} {op : Nat} {status : TransferStatus}
      (hcall : s.call caller = some (.clear chan op)) :
      Moves s (.send caller status)
        ({ s with
          pus_tx_transfer_op :=
            if s.pus_tx_transfer_op chan = some op then Function.update s.pus_tx_transfer_op chan none
            else s.pus_tx_transfer_op }.call_at caller (some (.dispose chan op)))
  | dispose {caller : Caller T} {chan : Chan} {op : Nat} {status : TransferStatus}
      (hcall : s.call caller = some (.dispose chan op)) :
      Moves s (.send caller status) ({ s with disposed := s.disposed ++ [op] }.call_at caller none)
  | rx_create {chan : Chan} {status : TransferStatus} (hcall : s.call (.poll chan) = none)
      (hpoll : s.poll chan = .create) :
      Moves s (.poll chan status) ({ s with next := s.next + 1 }.goto chan (.store s.next))
  | rx_store {chan : Chan} {op : Nat} {status : TransferStatus} (hcall : s.call (.poll chan) = none)
      (hpoll : s.poll chan = .store op) :
      Moves s (.poll chan status)
        ({ s with
          disposed := s.disposed ++ (s.pus_rx_transfer_op chan).toList
          pus_rx_transfer_op := Function.update s.pus_rx_transfer_op chan (some op) }.goto chan (.submit op))
  | goto {chan : Chan} {pc : PollPc} {status : TransferStatus} (hcall : s.call (.poll chan) = none)
      (hpoll : s.poll chan ≠ .ended) (hstore : ∀ op, pc ≠ .store op) (hsubmit : ∀ op, pc ≠ .submit op)
      (hcheck : ∀ op, pc = .check op → s.poll chan = .submit op)
      (hwait : ∀ op, pc = .wait op → s.poll chan = .check op ∧ s.shutdown = false) :
      Moves s (.poll chan status) (s.goto chan pc)
  | cancel (t : T) :
      Moves s (.cancel t) ({ s with net_ended := Function.update s.net_ended t true }.call_at (.net t) none)
  | request {status : Nat → TransferStatus} (hmain : s.main = .spw_request_shutdown) :
      Moves s (.main status) { s with shutdown := true, main := .net_stop }
  | net_stop {status : Nat → TransferStatus} (hmain : s.main = .net_stop) (hended : ∀ t, s.net_ended t = true) :
      Moves s (.main status) { s with main := .set_shutdown }
  | set_shutdown {status : Nat → TransferStatus} (hmain : s.main = .set_shutdown) :
      Moves s (.main status) { s with shutdown := true, main := .cancel_waits }
  | cancel_waits {status : Nat → TransferStatus} (hmain : s.main = .cancel_waits) :
      Moves s (.main status)
        { s with
          cancelled := s.cancelled ++ s.chans.flatMap fun i => (s.pus_rx_transfer_op i).toList
          main := .join false }
  | join {chan : Chan} {status : Nat → TransferStatus} (hmain : s.main = .join chan)
      (hended : s.poll chan = .ended) :
      Moves s (.main status)
        { s with main := if s.enable_monitor ∧ chan = false then .join true else .spw_dispose_ops }
  | dispose_ops {status : Nat → TransferStatus} (hmain : s.main = .spw_dispose_ops) :
      Moves s (.main status) { s with disposed := s.disposed ++ s.spw_dispose_ops status, main := .done }

theorem send_step_moves (s : Transfers T) (caller : Caller T) (status : TransferStatus) :
    s.send_step caller status = s ∨ s.Moves (.send caller status) (s.send_step caller status) := by
  unfold send_step
  split
  next => exact .inl rfl
  next hcall =>
    split
    · exact .inr (.create hcall)
    · exact .inr (.exit _ (.inl ⟨caller, by simp [hcall]⟩))
  next hcall => exact .inr (.store hcall)
  next hcall =>
    split
    · exact .inr (.submit hcall)
    · exact .inr (.exit _ (.inl ⟨caller, by simp [hcall]⟩))
  next hcall =>
    split
    · exact .inr (.wait hcall)
    · exact .inr (.exit _ (.inl ⟨caller, by simp [hcall]⟩))
  next hcall => exact .inr (.clear hcall)
  next hcall => exact .inr (.dispose hcall)

/-- A poll thread that goes on without an operation. -/
theorem Moves.plain {s : Transfers T} {chan : Chan} {pc : PollPc} {status : TransferStatus}
    (hcall : s.call (.poll chan) = none) (hpoll : s.poll chan ≠ .ended)
    (hpc : ∀ op, pc ≠ .store op ∧ pc ≠ .submit op ∧ pc ≠ .check op ∧ pc ≠ .wait op) :
    s.Moves (.poll chan status) (s.goto chan pc) := by
  apply Moves.goto hcall hpoll
  · exact fun op => (hpc op).1
  · exact fun op => (hpc op).2.1
  · exact fun op h => absurd h (hpc op).2.2.1
  · exact fun op h => absurd h (hpc op).2.2.2

theorem poll_step_moves {s : Transfers T} {chan : Chan} (hcall : s.call (.poll chan) = none)
    (status : TransferStatus) :
    s.poll_step chan status = s ∨ s.Moves (.poll chan status) (s.poll_step chan status) := by
  unfold poll_step
  split
  next hpoll =>
    right
    apply Moves.plain hcall (by simp [hpoll])
    intro op
    split <;> simp
  next hpoll =>
    split
    · exact .inr (.rx_create hcall hpoll)
    · exact .inr (.exit _ (.inr ⟨chan, by simp [hpoll]⟩))
  next hpoll => exact .inr (.rx_store hcall hpoll)
  next hpoll =>
    split
    · right
      apply Moves.goto hcall (by simp [hpoll]) <;> simp [hpoll]
    · exact .inr (.exit _ (.inr ⟨chan, by simp [hpoll]⟩))
  next hpoll =>
    right
    split
    · exact .plain hcall (by simp [hpoll]) (by simp)
    · apply Moves.goto hcall (by simp [hpoll]) <;> simp_all
  next hpoll =>
    right
    apply Moves.plain hcall (by simp [hpoll])
    intro op
    split <;> simp
  next hpoll =>
    right
    apply Moves.plain hcall (by simp [hpoll])
    intro op
    split
    · simp
    · split <;> simp
  next hpoll => exact .inr (.plain hcall (by simp [hpoll]) (by simp))
  next => exact .inl rfl

theorem main_step_moves [Fintype T] (s : Transfers T) (status : Nat → TransferStatus) :
    s.main_step status = s ∨ s.Moves (.main status) (s.main_step status) := by
  unfold main_step
  split
  next hmain => exact .inr (.request hmain)
  next hmain =>
    split
    next hended => exact .inr (.net_stop hmain hended)
    next => exact .inl rfl
  next hmain => exact .inr (.set_shutdown hmain)
  next hmain => exact .inr (.cancel_waits hmain)
  next hmain =>
    split
    next hended => exact .inr (.join hmain hended)
    next => exact .inl rfl
  next hmain => exact .inr (.dispose_ops hmain)
  next => exact .inl rfl
  next => exact .inl rfl

theorem step_moves [Fintype T] (s : Transfers T) (a : TransferStep T) : s.step a = s ∨ s.Moves a (s.step a) := by
  cases a with
  | begin caller chan =>
    simp only [step]
    split
    next hcan => exact .inr (.begin hcan.1 hcan.2)
    next => exact .inl rfl
  | send caller status => exact send_step_moves s caller status
  | poll chan status =>
    simp only [step]
    split
    next hcall => exact poll_step_moves hcall status
    next => exact .inl rfl
  | cancel t => exact .inr (.cancel t)
  | main status => exact main_step_moves s status

/-- What every step keeps holds in every state that runs reach. -/
theorem Reaches.invariant [Fintype T] {inv : Transfers T → Prop} (hstep : ∀ s a, inv s → inv (s.step a))
    {s s' : Transfers T} (hreaches : s.Reaches s') (hs : inv s) : inv s' := by
  obtain ⟨actions, rfl⟩ := hreaches
  exact (along_trivial actions).invariant (fun s a h _ => hstep s a h) hs

end Transfers

end spw_bridge.spw
