import SpwBridge.Bridge
import SpwBridge.Spw.Operations

open effect runs

namespace spw_bridge.spw

variable {σ : Type}

/-- What a round of `poll_spw` meets: the shutdown flag at its three checks, what
the device API returns, and the packet with the handle of its data. -/
structure RxRound where
  top : Bool
  created : Bool
  submitted : Bool
  check : Bool
  status : TransferStatus
  woken : Bool
  pkt : SpwPacket
  buffer : Nat

/-- Where the loop stands: whether it goes on, the packet data that it keeps, and
the arguments of `STAR_destroyPacketData`. -/
structure RxLoop where
  going : Bool
  spw_recv_buffer : Option Nat
  destroyed : List Nat

/-- The calls that create and submit a receive operation. -/
def spw_setup_rx_op (round : RxRound) : Prog σ Unit := do
  if round.created then pure () else throw .exit
  if round.submitted then pure () else throw .exit

/-- The loop of a `poll_spw` thread over a number of rounds. -/
def poll_spw (sink : List UInt8 → Prog σ Unit) : List RxRound → Option Nat → List Nat → Prog σ RxLoop
  | [], spw_recv_buffer, destroyed => pure ⟨true, spw_recv_buffer, destroyed⟩
  | round :: rounds, spw_recv_buffer, destroyed =>
    if round.top then pure ⟨false, spw_recv_buffer, destroyed⟩
    else do
      spw_setup_rx_op round
      if round.check ∨ round.status = .CANCELLED ∨ round.woken then
        pure ⟨false, none, destroyed ++ spw_recv_buffer.toList⟩
      else if round.status ≠ .COMPLETE then poll_spw sink rounds none (destroyed ++ spw_recv_buffer.toList)
      else do
        sink round.pkt.val
        poll_spw sink rounds (some round.buffer) (destroyed ++ spw_recv_buffer.toList)

/-- The loop goes on after this round. -/
def RxRound.GoesOn (round : RxRound) : Prop :=
  round.top = false ∧ round.created = true ∧ round.submitted = true ∧ round.check = false ∧
    round.status ≠ .CANCELLED ∧ round.woken = false

instance (round : RxRound) : Decidable round.GoesOn := inferInstanceAs (Decidable (_ ∧ _))

/-- The rounds that receive a packet. -/
def received : List RxRound → List RxRound
  | [] => []
  | round :: rounds =>
    if round.GoesOn then if round.status = .COMPLETE then round :: received rounds else received rounds else []

/-! ### One round -/

section rounds

variable {sink : List UInt8 → Prog σ Unit} {round : RxRound} (rounds : List RxRound) (spw_recv_buffer : Option Nat)
  (destroyed : List Nat)

theorem poll_spw_goes (hgoes : round.GoesOn) :
    poll_spw sink (round :: rounds) spw_recv_buffer destroyed =
      if round.status = .COMPLETE then do
        sink round.pkt.val
        poll_spw sink rounds (some round.buffer) (destroyed ++ spw_recv_buffer.toList)
      else poll_spw sink rounds none (destroyed ++ spw_recv_buffer.toList) := by
  obtain ⟨hseen, hcreated, hsubmitted, hcheck, hstatus, hwoken⟩ := hgoes
  rw [poll_spw]
  by_cases hcomplete : round.status = .COMPLETE <;>
    simp [spw_setup_rx_op, hseen, hcreated, hsubmitted, hcheck, hstatus, hwoken, hcomplete]

/-- At the top the packet data is kept, at the later checks it has been destroyed. -/
theorem poll_spw_ends (hgoes : ¬ round.GoesOn)
    (hsetup : round.top = false → round.created = true ∧ round.submitted = true) :
    ∃ fin : RxLoop, fin.going = false ∧
      fin.destroyed ++ fin.spw_recv_buffer.toList = destroyed ++ spw_recv_buffer.toList ∧
      poll_spw sink (round :: rounds) spw_recv_buffer destroyed = pure fin := by
  cases hseen : round.top with
  | true =>
    refine ⟨⟨false, spw_recv_buffer, destroyed⟩, rfl, rfl, ?_⟩
    rw [poll_spw, if_pos hseen]
  | false =>
    obtain ⟨hcreated, hsubmitted⟩ := hsetup hseen
    have hends : round.check = true ∨ round.status = .CANCELLED ∨ round.woken = true := by
      simp only [RxRound.GoesOn] at hgoes
      grind
    refine ⟨⟨false, none, destroyed ++ spw_recv_buffer.toList⟩, rfl, List.append_nil _, ?_⟩
    rw [poll_spw]
    simp [spw_setup_rx_op, hseen, hcreated, hsubmitted, hends]

theorem poll_spw_exits (hseen : round.top = false) (hsetup : ¬ (round.created = true ∧ round.submitted = true)) :
    poll_spw sink (round :: rounds) spw_recv_buffer destroyed = throw .exit := by
  rw [poll_spw, if_neg (by simp [hseen])]
  cases hcreated : round.created with
  | false =>
    simp only [spw_setup_rx_op, hcreated]
    rfl
  | true =>
    have hsubmitted : round.submitted = false := by simpa [hcreated] using hsetup
    simp only [spw_setup_rx_op, hcreated, hsubmitted]
    rfl

end rounds

/-! ### The loop as a run of events -/

/-- The events of the packets that a channel receives. -/
def spw_events (chan : Chan) (rounds : List RxRound) : List BridgeEvent :=
  (received rounds).map fun round => .spw chan round.pkt

theorem spw_events_cons {chan : Chan} {round : RxRound} (rounds : List RxRound) (hgoes : round.GoesOn) :
    spw_events chan (round :: rounds) =
      if round.status = .COMPLETE then .spw chan round.pkt :: spw_events chan rounds else spw_events chan rounds := by
  rw [spw_events, received, if_pos hgoes]
  split <;> rfl

/-! ### The loop as steps of the thread -/

section steps

variable {T : Type} {chan : Chan}

/-- `main` sets the flag and the thread sees it set. -/
def seen_steps (chan : Chan) : List (TransferStep T) := [.main fun _ => .other, .poll chan .COMPLETE]

/-- The steps of a round. -/
def round_steps (chan : Chan) (round : RxRound) : List (TransferStep T) :=
  if round.top then seen_steps chan
  else
    [.poll chan .COMPLETE, .poll chan (Transfers.status_of round.created), .poll chan .COMPLETE,
      .poll chan (Transfers.status_of round.submitted)] ++
    if round.check then seen_steps chan
    else
      [.poll chan .COMPLETE, .poll chan round.status] ++
      if round.status = .CANCELLED then []
      else if round.woken then seen_steps chan
      else .poll chan .COMPLETE :: if round.status = .COMPLETE then [.poll chan .COMPLETE] else []

def loop_steps (chan : Chan) : List RxRound → List (TransferStep T)
  | [] => []
  | round :: rounds => round_steps chan round ++ if round.GoesOn then loop_steps chan rounds else []

namespace Transfers

/-- A thread at the top of its loop before the shutdown. -/
structure AtTop (s : Transfers T) (chan : Chan) : Prop where
  poll : s.poll chan = .top
  call : s.call (.poll chan) = none
  main : s.main = .spw_request_shutdown
  shutdown : s.shutdown = false

/-- A round that the loop goes on after, as one step. -/
def after_round (s : Transfers T) (chan : Chan) : Transfers T :=
  { s with
    next := s.next + 1
    disposed := s.disposed ++ (s.pus_rx_transfer_op chan).toList
    pus_rx_transfer_op := Function.update s.pus_rx_transfer_op chan (some s.next) }

theorem AtTop.after_round {s : Transfers T} (htop : s.AtTop chan) : (s.after_round chan).AtTop chan :=
  ⟨htop.poll, htop.call, htop.main, htop.shutdown⟩

/-- The operations that the thread has stored: those disposed and the one in its slot. -/
def stored (s : Transfers T) (chan : Chan) : List Nat := s.disposed ++ (s.pus_rx_transfer_op chan).toList

theorem stored_after_round (s : Transfers T) (chan : Chan) :
    (s.after_round chan).stored chan = s.stored chan ++ [s.next] := by
  simp [stored, after_round]

/-- What the steps of the thread have done when its loop returns: it has stored
each operation created since. -/
structure Returned (s : Transfers T) (chan : Chan) (s' : Transfers T) (going : Bool) : Prop where
  poll : s'.poll chan = if going then .top else .ended
  stored : ∃ count, s'.next = s.next + count ∧ s'.stored chan = s.stored chan ++ List.range' s.next count

theorem Returned.of_after_round {s s' : Transfers T} {going : Bool}
    (hreturned : (s.after_round chan).Returned chan s' going) : s.Returned chan s' going := by
  obtain ⟨hpoll, count, hnext, hstored⟩ := hreturned
  refine ⟨hpoll, count + 1, ?_, ?_⟩
  · have hone : (s.after_round chan).next = s.next + 1 := rfl
    omega
  · rw [hstored, stored_after_round, List.append_assoc, List.range'_succ]
    rfl

variable [DecidableEq T] [Fintype T]

/-- How often the thread is within its sink along a run. -/
def sinks (s : Transfers T) (chan : Chan) : List (TransferStep T) → Nat
  | [] => 0
  | a :: actions => (if s.poll chan = .sink then 1 else 0) + (s.step a).sinks chan actions

theorem sinks_append (s : Transfers T) (actions later : List (TransferStep T)) :
    s.sinks chan (actions ++ later) = s.sinks chan actions + (run step s actions).sinks chan later := by
  induction actions generalizing s with
  | nil => simp [sinks]
  | cons a actions ih =>
    rw [List.cons_append, sinks, sinks, ih, run_cons]
    omega

theorem round_goes {s : Transfers T} {round : RxRound} (htop : s.AtTop chan) (hgoes : round.GoesOn) :
    run step s (round_steps chan round) = s.after_round chan ∧
      s.sinks chan (round_steps chan round) = if round.status = .COMPLETE then 1 else 0 := by
  obtain ⟨hpoll, hcall, hmain, hshutdown⟩ := htop
  have hback : Function.update s.poll chan .top = s.poll := by rw [← hpoll, Function.update_eq_self]
  obtain ⟨hseen, hcreated, hsubmitted, hcheck, hstatus, hwoken⟩ := hgoes
  by_cases hcomplete : round.status = .COMPLETE <;>
    simp [round_steps, hseen, hcreated, hsubmitted, hcheck, hstatus, hwoken, hcomplete, step, poll_step, hpoll, hcall,
      hshutdown, goto, status_of, after_round, hback, sinks]

/-- Within the sink of a round, for the first time. -/
theorem round_sinks {s : Transfers T} {round : RxRound} (htop : s.AtTop chan) (hgoes : round.GoesOn)
    (hcomplete : round.status = .COMPLETE) :
    (run step s (round_steps chan round).dropLast).poll chan = .sink ∧
      s.sinks chan (round_steps chan round).dropLast = 0 := by
  obtain ⟨hpoll, hcall, hmain, hshutdown⟩ := htop
  obtain ⟨hseen, hcreated, hsubmitted, hcheck, hstatus, hwoken⟩ := hgoes
  constructor <;>
  simp [round_steps, hseen, hcreated, hsubmitted, hcheck, hwoken, hcomplete, step, poll_step, hpoll, hcall,
    hshutdown, goto, status_of, sinks]

/-- The flag ends the loop, at whichever of its checks it is seen, and so does a cancelled wait. -/
theorem round_ends {s : Transfers T} {round : RxRound} (htop : s.AtTop chan) (hgoes : ¬ round.GoesOn)
    (hsetup : round.top = false → round.created = true ∧ round.submitted = true) :
    s.Returned chan (run step s (round_steps chan round)) false ∧ s.sinks chan (round_steps chan round) = 0 := by
  obtain ⟨hpoll, hcall, hmain, hshutdown⟩ := htop
  suffices h : (run step s (round_steps chan round)).poll chan = .ended ∧
      (∃ count, (run step s (round_steps chan round)).next = s.next + count ∧
        (run step s (round_steps chan round)).stored chan = s.stored chan ++ List.range' s.next count) ∧
      s.sinks chan (round_steps chan round) = 0 by
    obtain ⟨hended, hstored, hsinks⟩ := h
    exact ⟨⟨hended, hstored⟩, hsinks⟩
  cases hseen : round.top with
  | true =>
    refine ⟨?_, ⟨0, ?_⟩, ?_⟩ <;>
    simp [round_steps, seen_steps, hseen, step, main_step, poll_step, hpoll, hcall, hmain, goto, stored, sinks]
  | false =>
    obtain ⟨hcreated, hsubmitted⟩ := hsetup hseen
    cases hcheck : round.check with
    | true =>
      refine ⟨?_, ⟨1, ?_⟩, ?_⟩ <;>
      simp [round_steps, seen_steps, hseen, hcreated, hsubmitted, hcheck, step, main_step, poll_step, hpoll, hcall,
        hmain, hshutdown, goto, status_of, stored, sinks]
    | false =>
      by_cases hstatus : round.status = .CANCELLED
      · refine ⟨?_, ⟨1, ?_⟩, ?_⟩ <;>
        simp [round_steps, hseen, hcreated, hsubmitted, hcheck, hstatus, step, poll_step, hpoll, hcall, hshutdown,
          goto, status_of, stored, sinks]
      · have hwoken : round.woken = true := by
          by_contra hnot
          exact hgoes ⟨hseen, hcreated, hsubmitted, hcheck, hstatus, by simpa using hnot⟩
        refine ⟨?_, ⟨1, ?_⟩, ?_⟩ <;>
        simp [round_steps, seen_steps, hseen, hcreated, hsubmitted, hcheck, hstatus, hwoken, step, main_step,
          poll_step, hpoll, hcall, hmain, hshutdown, goto, status_of, stored, sinks]

/-- Nothing goes on after the end of the process. -/
theorem exit_step (s : Transfers T) (a : TransferStep T) : s.exit.step a = s.exit := by
  cases a with
  | begin caller chan => cases caller <;> simp [step, exit, CanCall]
  | send caller status => simp [step, exit, send_step]
  | poll chan status => simp [step, exit, poll_step]
  | cancel t =>
    simp [step, exit, call_at]
  | main status => simp [step, exit, main_step]

theorem run_exit (s : Transfers T) (actions : List (TransferStep T)) : run step s.exit actions = s.exit := by
  induction actions with
  | nil => rfl
  | cons a actions ih => rw [run_cons, exit_step, ih]

theorem sinks_exit (s : Transfers T) (actions : List (TransferStep T)) : s.exit.sinks chan actions = 0 := by
  induction actions with
  | nil => rfl
  | cons a actions ih => rw [sinks, exit_step, ih, if_neg (by simp [exit])]

/-- An operation that is not set up ends the process. -/
theorem round_exits {s : Transfers T} {round : RxRound} (htop : s.AtTop chan) (hseen : round.top = false)
    (hsetup : ¬ (round.created = true ∧ round.submitted = true)) :
    (run step s (round_steps chan round)).main = .exited ∧ s.sinks chan (round_steps chan round) = 0 := by
  obtain ⟨hpoll, hcall, hmain, hshutdown⟩ := htop
  have hexits : ∃ s' : Transfers T, run step s
      [.poll chan .COMPLETE, .poll chan (status_of round.created), .poll chan .COMPLETE,
        .poll chan (status_of round.submitted)] = s'.exit ∧
      s.sinks chan [.poll chan .COMPLETE, .poll chan (status_of round.created), .poll chan .COMPLETE,
        .poll chan (status_of round.submitted)] = 0 := by
    cases hcreated : round.created with
    | false =>
      refine ⟨s.goto chan .create, ?_, ?_⟩ <;>
      simp [step, poll_step, hpoll, hcall, hshutdown, goto, status_of, exit, sinks]
    | true =>
      have hsubmitted : round.submitted = false := by simpa [hcreated] using hsetup
      refine ⟨(s.after_round chan).goto chan (.submit s.next), ?_, ?_⟩ <;>
      simp [step, poll_step, hpoll, hcall, hshutdown, hsubmitted, goto, status_of, exit, after_round, sinks]
  obtain ⟨s', hs', hsinks⟩ := hexits
  rw [round_steps, hseen, if_neg (by decide), run_append, sinks_append, hs', run_exit, hsinks, sinks_exit]
  exact ⟨rfl, rfl⟩

section leaving

variable {σ : Type} {E : Env σ} {cfg : BridgeCfg} {w mid after : World σ} {events : List BridgeEvent} {halt : Halt}
  {s : Transfers T} {steps later : List (TransferStep T)}

/-- How the loop can leave the program. To the bridge it does so within the sink of
the last one of the packets `handled` so far, or behind them with an operation that
was not set up; to the other threads within the sink, in which it has been once for
each of the packets before that one, or with the process. -/
def Stopped (E : Env σ) (cfg : BridgeCfg) (w : World σ) (events : List BridgeEvent) (s : Transfers T) (chan : Chan)
    (steps : List (TransferStep T)) (halt : Halt) (after : World σ) : Prop :=
  ∃ handled taken, handled <+: events ∧ taken <+: steps ∧
    (runEvents E cfg w handled = (after, decide (halt = .hang)) ∧ (run step s taken).poll chan = .sink ∧
        handled.length = s.sinks chan taken + 1 ∨
      runEvents E cfg w handled = (after, true) ∧ halt = .exit ∧ (run step s taken).main = .exited ∧
        handled.length = s.sinks chan taken)

/-- A round without a packet first. -/
theorem Stopped.after_steps (hsinks : s.sinks chan steps = 0)
    (hstopped : Stopped E cfg w events (run step s steps) chan later halt after) :
    Stopped E cfg w events s chan (steps ++ later) halt after := by
  obtain ⟨handled, taken, hevents, hsteps, hleft⟩ := hstopped
  refine ⟨handled, steps ++ taken, hevents, (List.prefix_append_right_inj steps).mpr hsteps, ?_⟩
  rwa [run_append, sinks_append, hsinks, Nat.zero_add]

/-- A round with one. -/
theorem Stopped.after_packet {event : BridgeEvent} (hstep : stepEvent E cfg w event = (mid, true))
    (hsinks : s.sinks chan steps = 1)
    (hstopped : Stopped E cfg mid events (run step s steps) chan later halt after) :
    Stopped E cfg w (event :: events) s chan (steps ++ later) halt after := by
  obtain ⟨handled, taken, hevents, hsteps, hleft⟩ := hstopped
  refine ⟨event :: handled, steps ++ taken, List.cons_prefix_cons.mpr ⟨rfl, hevents⟩,
    (List.prefix_append_right_inj steps).mpr hsteps, ?_⟩
  rw [runEvents_cons, hstep, if_pos rfl, run_append, sinks_append, hsinks, List.length_cons]
  rcases hleft with ⟨hrun, hpoll, hlength⟩ | ⟨hrun, hexit, hmain, hlength⟩
  · exact .inl ⟨hrun, hpoll, by omega⟩
  · exact .inr ⟨hrun, hexit, hmain, by omega⟩

/-- The loop to both models, by induction over its rounds. The thread hands each
packet that it receives to the sink of the bridge, once and in order, and does
nothing else to the bridge, and all packet data but the last is destroyed once; it
takes the steps of the thread, returns where they end and is in the sink as often as
they are. -/
theorem poll_spw_rounds (rounds : List RxRound) (spw_recv_buffer : Option Nat) (destroyed : List Nat) (w : World σ)
    {s : Transfers T} (htop : s.AtTop chan) :
    wp (poll_spw (pkt_sink E cfg chan) rounds spw_recv_buffer destroyed)
      (fun fin after =>
        (runEvents E cfg w (spw_events chan rounds) = (after, true) ∧
          fin.destroyed ++ fin.spw_recv_buffer.toList =
            destroyed ++ spw_recv_buffer.toList ++ (received rounds).map RxRound.buffer) ∧
        s.Returned chan (run step s (loop_steps chan rounds)) fin.going ∧
          s.sinks chan (loop_steps chan rounds) = (received rounds).length)
      (Stopped E cfg w (spw_events chan rounds) s chan (loop_steps chan rounds)) w := by
  induction rounds generalizing s spw_recv_buffer destroyed w with
  | nil => exact ⟨⟨rfl, (List.append_nil _).symm⟩, ⟨htop.poll, 0, rfl, by simp [loop_steps]⟩, rfl⟩
  | cons round rounds ih =>
    by_cases hgoes : round.GoesOn
    · obtain ⟨hrun, hsinks⟩ := round_goes htop hgoes
      rw [spw_events_cons rounds hgoes, loop_steps, if_pos hgoes, received, if_pos hgoes,
        poll_spw_goes rounds spw_recv_buffer destroyed hgoes]
      split_ifs with hcomplete
      · rw [if_pos hcomplete] at hsinks
        rw [wp_bind]
        apply wp_of_run
        · intro _ mid hcall
          have hstep : stepEvent E cfg w (.spw chan round.pkt) = (mid, true) := by
            simp only [stepEvent, handle_event, hcall]
          apply wp_mono (ih (some round.buffer) (destroyed ++ spw_recv_buffer.toList) mid htop.after_round)
          · rintro fin after ⟨⟨hevents, hbuffers⟩, hreturned, hlater⟩
            rw [runEvents_cons, hstep, run_append, sinks_append, hrun, hsinks, hlater, List.length_cons, Nat.add_comm]
            exact ⟨⟨hevents, by rw [hbuffers]; simp⟩, hreturned.of_after_round, rfl⟩
          · intro halt after hstopped
            rw [← hrun] at hstopped
            exact hstopped.after_packet hstep hsinks
        · intro halt after hcall
          have hsunk := round_sinks htop hgoes hcomplete
          refine ⟨[.spw chan round.pkt], (round_steps chan round).dropLast,
            List.cons_prefix_cons.mpr ⟨rfl, List.nil_prefix⟩,
            (List.dropLast_prefix _).trans (List.prefix_append _ _), .inl ⟨?_, hsunk.1, by rw [hsunk.2]; rfl⟩⟩
          cases halt with
          | hang | exit | fault => simp [runEvents, stepEvent, handle_event, hcall]
      · rw [if_neg hcomplete] at hsinks
        apply wp_mono (ih none (destroyed ++ spw_recv_buffer.toList) w htop.after_round)
        · rintro fin after ⟨⟨hevents, hbuffers⟩, hreturned, hlater⟩
          rw [run_append, sinks_append, hrun, hsinks, hlater, Nat.zero_add]
          exact ⟨⟨hevents, by rw [hbuffers]; simp⟩, hreturned.of_after_round, rfl⟩
        · intro halt after hstopped
          rw [← hrun] at hstopped
          exact hstopped.after_steps hsinks
    · rw [spw_events, loop_steps, if_neg hgoes, List.append_nil, received, if_neg hgoes]
      by_cases hsetup : round.top = false → round.created = true ∧ round.submitted = true
      · obtain ⟨fin, hgoing, hbuffers, hpure⟩ := poll_spw_ends rounds spw_recv_buffer destroyed hgoes hsetup
        rw [hpure, wp_pure, hgoing]
        exact ⟨⟨rfl, by simpa using hbuffers⟩, round_ends htop hgoes hsetup⟩
      · obtain ⟨hseen, hsetup⟩ := Classical.not_imp.mp hsetup
        obtain ⟨hmain, hsinks⟩ := round_exits htop hseen hsetup
        rw [poll_spw_exits rounds spw_recv_buffer destroyed hseen hsetup, wp_throw]
        exact ⟨[], _, List.nil_prefix, List.prefix_rfl, .inr ⟨rfl, rfl, hmain, hsinks.symm⟩⟩

end leaving

end Transfers

/-- A receive thread is the loop that the two models of it say: to the bridge it
is the run of the packets that it receives, with each packet's data destroyed once
but for the last; to the other threads it is one stretch of the steps of the
transfer operations, in its sink once for each of these packets (the calls within
a sink are steps of their own). Where it leaves the program both models say where:
within the sink of the same packet, or with an operation that was not set up behind
as many packets. -/
theorem poll_spw_refines [DecidableEq T] [Fintype T] (E : Env σ) (cfg : BridgeCfg) (chan : Chan)
    (rounds : List RxRound) (w : World σ) {s : Transfers T} (htop : s.AtTop chan) :
    wp (poll_spw (pkt_sink E cfg chan) rounds none [])
      (fun fin after =>
        runEvents E cfg w (spw_events chan rounds) = (after, true) ∧
          fin.destroyed ++ fin.spw_recv_buffer.toList = (received rounds).map RxRound.buffer ∧
          s.Returned chan (run Transfers.step s (loop_steps chan rounds)) fin.going ∧
          s.sinks chan (loop_steps chan rounds) = (received rounds).length)
      (fun halt after =>
        Transfers.Stopped E cfg w (spw_events chan rounds) s chan (loop_steps chan rounds) halt after) w := by
  apply wp_mono_post (Transfers.poll_spw_rounds rounds none [] w htop)
  rintro fin after ⟨⟨hevents, hbuffers⟩, hreturned, hsinks⟩
  exact ⟨hevents, hbuffers, hreturned, hsinks⟩

theorem receivedPacket_fits : [1, 2, 3].length < 2 ^ 32 := by decide

def receivedPacket : SpwPacket := ⟨[1, 2, 3], receivedPacket_fits⟩

/-- One packet is received, the next wait is cancelled. -/
def cancelledRounds : List RxRound :=
  [⟨false, true, true, false, .COMPLETE, false, receivedPacket, 7⟩,
    ⟨false, true, true, false, .CANCELLED, false, receivedPacket, 8⟩]

theorem poll_spw_refines_cancelled :
    wp (poll_spw (pkt_sink .quiet (bridge_cfg_init [1]) false) cancelledRounds none [])
      (fun fin after =>
        runEvents .quiet (bridge_cfg_init [1]) (.fresh ()) [.spw false receivedPacket] = (after, true) ∧
          fin.destroyed ++ fin.spw_recv_buffer.toList = [7] ∧
          (Transfers.initial Unit false .spw_request_shutdown).sinks false (loop_steps false cancelledRounds) = 1)
      (Transfers.Stopped .quiet (bridge_cfg_init [1]) (.fresh ()) [.spw false receivedPacket]
        (Transfers.initial Unit false .spw_request_shutdown) false (loop_steps false cancelledRounds)) (.fresh ()) := by
  have htop : (Transfers.initial Unit false .spw_request_shutdown).AtTop false := ⟨rfl, rfl, rfl, rfl⟩
  apply wp_mono (poll_spw_refines .quiet (bridge_cfg_init [1]) false cancelledRounds (.fresh ()) htop)
  · exact fun fin after h => ⟨h.1, h.2.1, h.2.2.2⟩
  · exact fun halt after h => h

end steps

end spw_bridge.spw
