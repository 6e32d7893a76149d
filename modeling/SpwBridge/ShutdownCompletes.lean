import SpwBridge.Library.Completion
import SpwBridge.Shutdown

open cancellation runs

namespace spw_bridge.shutdown

/-- All threads have ended, and no lock is left behind. -/
structure Finished (s : System Mutex Worker Call) : Prop where
  ended : ∀ worker, s.ended worker = true
  free : ∀ m, s.owner m = none

/-! ### What `main` finds when it has joined the threads -/

/-- Every SpW thread has ended or is still to be joined, and `main` ends at the end
of its code. -/
structure Joining (cfg : BridgeCfg) (s : System Mutex Worker Call) : Prop where
  stopping : Stopping cfg s
  polls : ∀ chan, .join (.poll_spw chan) ∈ s.code .main ∨ s.ended (.poll_spw chan) = true
  main : s.ended .main = true → s.code .main = []

theorem running_joining (cfg : BridgeCfg) : Joining cfg (running cfg) where
  stopping := running_stopping cfg
  polls chan := by
    by_cases hcreated : chan ∈ spw_threads cfg
    · refine Or.inl (List.mem_append_right _ (List.mem_cons_of_mem _ ?_))
      exact List.mem_map.mpr ⟨chan, hcreated, rfl⟩
    · exact Or.inr (by simp [running, created, hcreated])
  main h := by simp [running, created] at h

section joining

variable {cfg : BridgeCfg} {s : System Mutex Worker Call}

theorem Joining.step (hs : Joining cfg s) {a : Worker × Bool} (hspared : Spared s a) : Joining cfg (s.step a) where
  stopping := hs.stopping.step hspared
  polls chan := by
    rcases hs.polls chan with hjoin | hended
    · exact (System.step_join hjoin).imp_right System.step_ended
    · exact Or.inr (System.step_ended hended)
  main hended := by
    have hcancelled : s.cancelled .main = false := by
      by_contra h
      exact absurd (hs.stopping.disciplined.killed .main (by simpa using h)) nofun
    exact System.step_ended_code hcancelled hs.main hended

theorem Joining.finished (hs : Joining cfg s) (hmain : s.ended .main = true) : Finished s := by
  have hnil := hs.main hmain
  have hended : ∀ worker, s.ended worker = true := by
    intro worker
    cases worker with
    | main => exact hmain
    | net thread => exact (hs.stopping.joins thread).resolve_left (by simp [hnil])
    | poll_spw chan => exact (hs.polls chan).resolve_left (by simp [hnil])
  refine ⟨hended, fun m => ?_⟩
  by_contra howned
  obtain ⟨worker, howner⟩ := Option.ne_none_iff_exists'.mp howned
  exact hs.stopping.disciplined.ended worker (hended worker) m howner

end joining

/-- What `main` releases after its joins nobody uses any more: in every run in which
no thread is cancelled within `sniff_push`, the threads have ended and left no lock
behind once `main` is through. -/
theorem shutdown_finished (cfg : BridgeCfg) {actions : List (Worker × Bool)}
    (hactions : Along System.step Spared (running cfg) actions)
    (hmain : (run System.step (running cfg) actions).ended .main = true) :
    Finished (run System.step (running cfg) actions) :=
  (hactions.invariant (fun _ _ hs hspared => hs.step hspared) (running_joining cfg)).finished hmain

/-- The threads of the server with the sniffer end one after the other. -/
theorem shutdown_finished_sniffed :
    Finished (run System.step (running sniffedCfg) (stopping (net_stop_threads sniffedCfg) ++
      turns (.poll_spw false) [false, false] ++ turns .main (List.replicate 8 false))) :=
  shutdown_finished sniffedCfg (by decide +kernel) (by decide +kernel)

/-! ### Whether `main` gets through -/

/-- `main` waits for the others, which wait for nobody. -/
def rank : Worker → Nat
  | .main => 1
  | .net _ | .poll_spw _ => 0

/-- The threads of the network and of SpaceWire wait for no thread. -/
theorem joins_nil (cfg : BridgeCfg) {worker : Worker} (hne : worker ≠ .main) : (running cfg).joins worker = [] := by
  have hmay : ∀ script : Code, (Script.may script).joins = script.joins := fun script => by
    simp [Script.may, Script.joins]
  have hlocked : ∀ m (script : Code), (Script.locked m script).joins = script.joins := fun m script => by
    simp [Script.locked, Script.joins]
  have hforward : (net_forward_to_clients cfg).joins = [] := by
    simp [net_forward_to_clients, sniff_push, dgram_send_all, gresb_push_rx_clients, broadcast, send_all,
      Script.steps, Script.joins, apply_ite Script.joins, hmay, hlocked]
  cases worker with
  | main => exact absurd rfl hne
  | poll_spw chan =>
    simp [System.joins, running, code, poll_spw, spw_pkt_sink_monitor, net_pkt_sink, rmap_reply_to_clients, broadcast,
      send_all, spw_send_packet_chan, hforward, Script.steps, Script.joins, apply_ite Script.joins, hmay, hlocked]
  | net thread =>
    cases thread with
    | accept_connections id =>
      simp [System.joins, running, code, accept_connections, Script.steps, Script.joins, hmay, hlocked]
    | poll_socket id =>
      have hhandle : (handle_pkt cfg id).joins = [] := by
        cases id <;>
          simp [handle_pkt, net_to_spw, recv_packet, conn_drop, conn_del, sniff_push, dgram_add_client, broadcast,
            send_all, spw_send_packet_chan, rmap_net_to_spw, gresb_tx_to_spw, gresb_rx_discard, Script.steps,
            Script.joins, apply_ite Script.joins, hmay, hlocked]
      simp [System.joins, running, code, poll_socket, hhandle, Script.steps, Script.joins, hmay, hlocked]

theorem running_ranked (cfg : BridgeCfg) : (running cfg).Ranked rank := by
  intro worker other hother
  cases worker with
  | main =>
    cases other with
    | main =>
      have hnet : Worker.main ∉ (net_stop cfg).flatMap Script.joins := by
        simp [net_stop, List.flatMap_map, Script.joins]
      have hpoll : Worker.main ∉ (spw_stop_poll cfg).flatMap Script.joins := by
        simp [spw_stop_poll, List.flatMap_map, Script.joins, Script.locked]
      have hmain : Worker.main ∈ (net_stop cfg ++ spw_stop_poll cfg).flatMap Script.joins := hother
      rw [List.flatMap_append, List.mem_append] at hmain
      exact absurd hmain (not_or.mpr ⟨hnet, hpoll⟩)
    | net thread => exact Nat.one_pos
    | poll_spw chan => exact Nat.one_pos
  | net thread | poll_spw chan => simp [joins_nil] at hother

def workers : List Worker :=
  .main :: .poll_spw false :: .poll_spw true ::
    [SvcId.data, .rmap, .gresb_tx, .gresb_rx, .sniff].flatMap fun id => (net.served id).map .net

theorem mem_workers (worker : Worker) : worker ∈ workers := by
  cases worker with
  | main => decide
  | poll_spw chan => cases chan <;> decide
  | net thread =>
    cases thread with
    | accept_connections id => cases id <;> decide
    | poll_socket id => cases id <;> decide

/-- Without the sniffer the shutdown can be completed from every state. -/
theorem shutdown_completes {cfg : BridgeCfg} (hsniff : cfg.enable_sniff = false) (actions : List (Worker × Bool)) :
    ∃ more, Finished (run System.step (running cfg) (actions ++ more)) := by
  have hcovered : System.Covered (exposed cfg) killable := by
    intro worker m hkillable
    cases worker with
    | net thread => simp [exposed, hsniff]
    | main | poll_spw chan => cases hkillable
  have hs := (running_disciplined cfg).reached hcovered actions
  obtain ⟨more, hended, hfree⟩ := hs.completes hcovered ((running_ranked cfg).reached actions) mem_workers
  exact ⟨more, by rw [run_append]; exact ⟨hended, hfree⟩⟩

/-! ### With the sniffer -/

/-- A configuration with the sniffer, as far as the threads depend on it. -/
def sniffedBy (mode : NetMode) (enable_rmap enable_gresb enable_monitor : Bool) : BridgeCfg :=
  { bridge_cfg_init [] with mode, enable_rmap, enable_gresb, enable_monitor, enable_sniff := true }

theorem running_sniffed {cfg : BridgeCfg} (hsniff : cfg.enable_sniff = true) :
    running cfg = running (sniffedBy cfg.mode cfg.enable_rmap cfg.enable_gresb cfg.enable_monitor) := by
  cases cfg
  subst hsniff
  simp only [running, System.mk.injEq]
  refine ⟨?_, trivial, ?_, trivial⟩
  · funext worker
    cases worker with
    | main | poll_spw chan => rfl
    | net thread => cases thread <;> rfl
  · funext worker
    cases worker <;> rfl

/-- The data service is at the first `send()` to the sniffer and cancelled there,
the SpW thread waits for the lock, and `main` has yet to join it. -/
def AboutToEnd (s : System Mutex Worker Call) : Prop :=
  s.owner (.lock .sniff) = some (.net (.poll_socket .data)) ∧ s.cancelled (.net (.poll_socket .data)) = true ∧
    atPoint (s.code (.net (.poll_socket .data))) = true ∧ s.ended (.net (.poll_socket .data)) = false ∧
    s.ended (.poll_spw false) = false ∧ (s.code (.poll_spw false)).head? = some (.lock (.lock .sniff)) ∧
    .join (.poll_spw false) ∈ s.code .main

instance (s : System Mutex Worker Call) : Decidable (AboutToEnd s) := inferInstanceAs (Decidable (_ ∧ _))

/-- Both threads relay a packet to the sniffer, then `main` cancels the first two
network threads. -/
def relaying (cfg : BridgeCfg) : List (Worker × Bool) :=
  turns (.net (.poll_socket .data)) ([true, false, false, false, false, false, false, false, false, false, false, true,
      false, false, false, false, false, false, false, true, false, false, false, false, false] ++
    (if cfg.mode = .MODE_DGRAM then [false] else []) ++ [true, false, false, false, true, false, true]) ++
    turns (.poll_spw false) ([true, false, false, false, false, false, false, false, true] ++
      if cfg.enable_monitor then [false, false, false, false, false, true, false]
      else [true, false, false, true, false]) ++
    turns .main [false, false]

theorem relaying_reaches (mode : NetMode) (enable_rmap enable_gresb enable_monitor : Bool) :
    Along System.step Spared (running (sniffedBy mode enable_rmap enable_gresb enable_monitor))
        (relaying (sniffedBy mode enable_rmap enable_gresb enable_monitor)) ∧
      AboutToEnd (run System.step (running (sniffedBy mode enable_rmap enable_gresb enable_monitor))
        (relaying (sniffedBy mode enable_rmap enable_gresb enable_monitor))) := by
  cases mode <;> cases enable_rmap <;> cases enable_gresb <;> cases enable_monitor <;> decide +kernel

/-- With the sniffer a cancelled thread may leave its lock, and `main` then never gets
through. -/
theorem shutdown_stuck {cfg : BridgeCfg} (hsniff : cfg.enable_sniff = true) :
    ∃ actions, ∀ more, ¬ Finished (run System.step (running cfg) (actions ++ more)) := by
  have hreaches := relaying_reaches cfg.mode cfg.enable_rmap cfg.enable_gresb cfg.enable_monitor
  rw [← running_sniffed hsniff] at hreaches
  generalize relaying (sniffedBy cfg.mode cfg.enable_rmap cfg.enable_gresb cfg.enable_monitor) = actions at hreaches
  obtain ⟨hspared, howner, hcancelled, hpoint, hlive, hpoll, hhead, hjoin⟩ := hreaches
  have hs := hspared.invariant (fun _ _ hs hspared => hs.step hspared) (running_stopping cfg)
  generalize hreached : run System.step (running cfg) actions = s at *
  -- the thread ends in its `send()`
  have hends := System.step_at_point hlive hcancelled hpoint false
  have horphaned := hs.disciplined.orphans howner
  obtain ⟨rest, hcode⟩ : ∃ rest, s.code (.poll_spw false) = .lock (.lock .sniff) :: rest :=
    List.head?_eq_some_iff.mp hhead
  refine ⟨actions ++ [(.net (.poll_socket .data), false)], fun more hfinished => ?_⟩
  rw [run_append, run_append, hreached, run_cons, run_nil, hends] at hfinished
  have hblocked := horphaned.blocks (u := .poll_spw false) (v := .main) hpoll hcode hjoin more
  exact absurd ((hfinished.ended (.poll_spw false)).symm.trans hblocked.1) nofun

/-- The shutdown can be completed from every state of every run exactly when there is
no sniffer. -/
theorem shutdown_completes_iff (cfg : BridgeCfg) :
    (∀ actions, ∃ more, Finished (run System.step (running cfg) (actions ++ more))) ↔ cfg.enable_sniff = false := by
  constructor
  · intro hcompletes
    by_contra hsniff
    obtain ⟨actions, hstuck⟩ := shutdown_stuck (by simpa using hsniff)
    obtain ⟨more, hfinished⟩ := hcompletes actions
    exact hstuck more hfinished
  · exact fun hsniff actions => shutdown_completes hsniff actions

end spw_bridge.shutdown
