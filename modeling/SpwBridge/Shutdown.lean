import SpwBridge.Library.Cancellation
import SpwBridge.Net.Threads

open cancellation runs

namespace spw_bridge.shutdown

/-- The locks of the services and the lock of the transfer operations. -/
inductive Mutex
  | lock (id : SvcId)
  | pus_op_lock
  deriving DecidableEq, Repr

/-- The threads of the bridge but the keyboard monitor, which takes no lock. -/
inductive Worker
  | main
  | net (thread : net.Thread)
  | poll_spw (chan : Chan)
  deriving DecidableEq, Repr

/-- The calls at which a thread can be cancelled. -/
inductive Call
  | send
  | recv
  | recvfrom
  | accept
  | select
  | close
  | usleep
  deriving DecidableEq, Repr

abbrev Code := Script Mutex Worker Call

/-! ### The locks and the cancellation points of the functions -/

def accept_connections (id : SvcId) : Code :=
  .loop (.steps [.point .accept,
    .choice (.may (.point .usleep)) (.choice (.point .close) (.locked (.lock id) .skip))])

def conn_del (id : SvcId) : Code := .locked (.lock id) .skip

/-- Also `rmap_conn_drop`. -/
def conn_drop (id : SvcId) : Code := .steps [.point .close, conn_del id]

def send_all : Code := .loop (.point .send)

/-- The sends of a broadcast with the drops of `conn_drop_locked`. -/
def broadcast (id : SvcId) : Code := .locked (.lock id) (.loop (.steps [send_all, .may (.point .close)]))

/-- The sniffer has a socket when the option is given. -/
def sniff_push (cfg : BridgeCfg) : Code := if cfg.enable_sniff then .may (broadcast .sniff) else .skip

def dgram_add_client : Code := .locked (.lock .data) .skip

/-- Also `spw_send_packet`. -/
def spw_send_packet_chan : Code :=
  .steps [.locked .pus_op_lock .skip, .point .usleep, .locked .pus_op_lock .skip]

/-- The receive calls of a framer. -/
def recv_packet (cfg : BridgeCfg) : Code :=
  if cfg.mode = .MODE_DGRAM then .may (.point .recvfrom) else .loop (.point .recv)

/-- A packet that was received, or the drop of its connection. -/
def net_to_spw (cfg : BridgeCfg) : Code :=
  .steps [recv_packet cfg, .choice (if cfg.mode = .MODE_DGRAM then .skip else conn_drop .data)
    (.steps [sniff_push cfg, if cfg.mode = .MODE_DGRAM then dgram_add_client else .skip,
      if cfg.enable_monitor then .skip else spw_send_packet_chan])]

def rmap_net_to_spw : Code := .steps [.loop (.point .recv), .may (conn_drop .rmap)]

def gresb_tx_to_spw (cfg : BridgeCfg) : Code :=
  .steps [.loop (.point .recv), .choice (conn_drop .gresb_tx)
    (.steps [sniff_push cfg, if cfg.enable_monitor then .skip else spw_send_packet_chan])]

def gresb_rx_discard (id : SvcId) : Code := .steps [.loop (.point .recv), .may (conn_drop id)]

/-- The handler that `net_start` gives each service. -/
def handle_pkt (cfg : BridgeCfg) : SvcId → Code
  | .data => net_to_spw cfg
  | .rmap => rmap_net_to_spw
  | .gresb_tx => gresb_tx_to_spw cfg
  | .gresb_rx => gresb_rx_discard .gresb_rx
  | .sniff => gresb_rx_discard .sniff

def poll_socket (cfg : BridgeCfg) (id : SvcId) : Code :=
  .loop (.choice (.point .usleep) (.steps [.locked (.lock id) .skip, .point .select,
    .may (.steps [.locked (.lock id) .skip, .loop (handle_pkt cfg id)])]))

def dgram_send_all : Code := .locked (.lock .data) .skip

def gresb_push_rx_clients (cfg : BridgeCfg) : Code :=
  if cfg.mode = .MODE_SERVER then .may (broadcast .gresb_rx) else .skip

/-- The path of `net_forward_to_clients` that a packet takes depends on the mode;
it ends early when an envelope is not created. -/
def net_forward_to_clients (cfg : BridgeCfg) : Code :=
  .steps [sniff_push cfg, .may (.steps [if cfg.mode = .MODE_DGRAM then dgram_send_all else broadcast .data,
    if cfg.enable_gresb then gresb_push_rx_clients cfg else .skip])]

def rmap_reply_to_clients : Code := .may (broadcast .rmap)

def net_pkt_sink (cfg : BridgeCfg) : Code :=
  .may (.choice (if cfg.enable_rmap then rmap_reply_to_clients else .skip) (net_forward_to_clients cfg))

def spw_pkt_sink_monitor (cfg : BridgeCfg) : Code := .steps [.may spw_send_packet_chan, net_forward_to_clients cfg]

def poll_spw (cfg : BridgeCfg) : Code :=
  .loop (.steps [.locked .pus_op_lock .skip,
    .may (if cfg.enable_monitor then spw_pkt_sink_monitor cfg else net_pkt_sink cfg)])

/-- The threads that `net_stop` cancels and joins, in its order. -/
def net_stop_threads (cfg : BridgeCfg) : List net.Thread :=
  (if cfg.mode = .MODE_SERVER then net.served .data else [.poll_socket .data]) ++
    (if cfg.enable_rmap then net.served .rmap else []) ++
    (if cfg.enable_gresb ∧ cfg.mode = .MODE_SERVER then net.served .gresb_tx ++ net.served .gresb_rx else []) ++
    if cfg.enable_sniff then net.served .sniff else []

/-- `net_stop` cancels all threads before it joins the first. -/
def net_stop (cfg : BridgeCfg) : List Code :=
  (net_stop_threads cfg).map (fun thread => .cancel (.net thread)) ++
    (net_stop_threads cfg).map fun thread => .join (.net thread)

/-- The SpW threads of `spw_setup_device`. -/
def spw_threads (cfg : BridgeCfg) : List Chan := if cfg.enable_monitor then [false, true] else [false]

def spw_stop_poll (cfg : BridgeCfg) : List Code :=
  .locked .pus_op_lock .skip :: (spw_threads cfg).map fun chan => .join (.poll_spw chan)

def code (cfg : BridgeCfg) : Worker → List Code
  | .main => net_stop cfg ++ spw_stop_poll cfg
  | .net (.accept_connections id) => [accept_connections id]
  | .net (.poll_socket id) => [poll_socket cfg id]
  | .poll_spw _ => [poll_spw cfg]

/-- The threads that there are. -/
def created (cfg : BridgeCfg) : Worker → Bool
  | .main => true
  | .net thread => thread ∈ net.net_start cfg
  | .poll_spw chan => chan ∈ spw_threads cfg

/-- The running bridge, which `main` may begin to stop at any time. -/
def running (cfg : BridgeCfg) : System Mutex Worker Call where
  code := code cfg
  cancelled _ := false
  ended worker := !created cfg worker
  owner _ := none

/-! ### Discipline -/

/-- Only `net_stop` cancels, and only the network threads. -/
def killable : Worker → Bool
  | .net _ => true
  | .main | .poll_spw _ => false

/-- What a thread may own at a cancellation point: of those that are cancelled
only the lock of the sniffer. -/
def exposed (cfg : BridgeCfg) : Worker → Mutex → Bool
  | .net _, m => m == .lock .sniff && cfg.enable_sniff
  | .main, _ | .poll_spw _, _ => true

section keeps

variable {e : Mutex → Bool}

theorem keeps_call (c : Call) : Keeps e killable none (.point c : Code) := keeps_point c rfl

theorem keeps_section (m : Mutex) : Keeps e killable none (.locked m .skip : Code) := keeps_skip.locked

theorem keeps_conn_drop (id : SvcId) : Keeps e killable none (conn_drop id) :=
  (keeps_call .close).seq ((keeps_section (.lock id)).seq keeps_skip)

/-- A broadcast sends and closes under its lock. -/
theorem keeps_broadcast {id : SvcId} (hexposed : e (.lock id) = true) : Keeps e killable none (broadcast id) := by
  have hall : (some (Mutex.lock id)).all e := by simpa using hexposed
  have hpoint : ∀ c, Keeps e killable (some (.lock id)) (.point c : Code) := fun c => keeps_point c hall
  have hsend : Keeps e killable (some (.lock id)) send_all := (hpoint .send).loop
  exact (hsend.seq ((hpoint .close).may.seq keeps_skip)).loop.locked

theorem keeps_sniff_push {cfg : BridgeCfg} (hexposed : cfg.enable_sniff = true → e (.lock .sniff) = true) :
    Keeps e killable none (sniff_push cfg) :=
  .ite (fun hsniff => (keeps_broadcast (hexposed hsniff)).may) fun _ => keeps_skip

theorem keeps_spw_send_packet_chan : Keeps e killable none spw_send_packet_chan :=
  (keeps_section _).seq ((keeps_call .usleep).seq ((keeps_section _).seq keeps_skip))

theorem keeps_recv : Keeps e killable none (.loop (.point .recv) : Code) := (keeps_call .recv).loop

/-- The handlers, but for the sniffer, keep cancellation points out of their
sections. -/
theorem keeps_handle_pkt {cfg : BridgeCfg} (hexposed : cfg.enable_sniff = true → e (.lock .sniff) = true) (id : SvcId) :
    Keeps e killable none (handle_pkt cfg id) := by
  have hsniff := keeps_sniff_push hexposed
  have hsend : Keeps e killable none (if cfg.enable_monitor then .skip else spw_send_packet_chan) :=
    .ite (fun _ => keeps_skip) fun _ => keeps_spw_send_packet_chan
  cases id with
  | data =>
    have hrecv : Keeps e killable none (recv_packet cfg) :=
      .ite (fun _ => (keeps_call .recvfrom).may) fun _ => keeps_recv
    have hdrop : Keeps e killable none (if cfg.mode = .MODE_DGRAM then .skip else conn_drop .data) :=
      .ite (fun _ => keeps_skip) fun _ => keeps_conn_drop .data
    have hadd : Keeps e killable none (if cfg.mode = .MODE_DGRAM then dgram_add_client else .skip) :=
      .ite (fun _ => keeps_section _) fun _ => keeps_skip
    exact hrecv.seq ((hdrop.choice (hsniff.seq (hadd.seq (hsend.seq keeps_skip)))).seq keeps_skip)
  | rmap => exact keeps_recv.seq ((keeps_conn_drop .rmap).may.seq keeps_skip)
  | gresb_tx =>
    exact keeps_recv.seq (((keeps_conn_drop .gresb_tx).choice (hsniff.seq (hsend.seq keeps_skip))).seq keeps_skip)
  | gresb_rx => exact keeps_recv.seq ((keeps_conn_drop .gresb_rx).may.seq keeps_skip)
  | sniff => exact keeps_recv.seq ((keeps_conn_drop .sniff).may.seq keeps_skip)

theorem keeps_poll_socket {cfg : BridgeCfg} (hexposed : cfg.enable_sniff = true → e (.lock .sniff) = true)
    (id : SvcId) : Keeps e killable none (poll_socket cfg id) := by
  have hsection := keeps_section (e := e) (.lock id)
  have hround := hsection.seq ((keeps_handle_pkt hexposed id).loop.seq keeps_skip)
  exact ((keeps_call .usleep).choice (hsection.seq ((keeps_call .select).seq (hround.may.seq keeps_skip)))).loop

theorem keeps_accept_connections (id : SvcId) : Keeps e killable none (accept_connections id) := by
  have hfailed : Keeps e killable none (.may (.point .usleep) : Code) := (keeps_call .usleep).may
  have haccepted := (keeps_call (e := e) .close).choice (keeps_section (.lock id))
  exact ((keeps_call .accept).seq ((hfailed.choice haccepted).seq keeps_skip)).loop

/-- The SpW threads send under the locks; nobody cancels them. -/
theorem keeps_poll_spw (cfg : BridgeCfg) (hexposed : ∀ m, e m = true) : Keeps e killable none (poll_spw cfg) := by
  have hpush : Keeps e killable none (gresb_push_rx_clients cfg) :=
    .ite (fun _ => (keeps_broadcast (hexposed _)).may) fun _ => keeps_skip
  have hdata : Keeps e killable none (if cfg.mode = .MODE_DGRAM then dgram_send_all else broadcast .data) :=
    .ite (fun _ => keeps_section _) fun _ => keeps_broadcast (hexposed _)
  have hgresb : Keeps e killable none (if cfg.enable_gresb then gresb_push_rx_clients cfg else .skip) :=
    .ite (fun _ => hpush) fun _ => keeps_skip
  have hforward : Keeps e killable none (net_forward_to_clients cfg) :=
    (keeps_sniff_push fun _ => hexposed _).seq ((hdata.seq (hgresb.seq keeps_skip)).may.seq keeps_skip)
  have hreply : Keeps e killable none (if cfg.enable_rmap then rmap_reply_to_clients else .skip) :=
    .ite (fun _ => (keeps_broadcast (hexposed _)).may) fun _ => keeps_skip
  have hmonitor : Keeps e killable none (spw_pkt_sink_monitor cfg) :=
    keeps_spw_send_packet_chan.may.seq (hforward.seq keeps_skip)
  have hsink : Keeps e killable none (if cfg.enable_monitor then spw_pkt_sink_monitor cfg else net_pkt_sink cfg) :=
    .ite (fun _ => hmonitor) fun _ => (hreply.choice hforward).may
  exact ((keeps_section _).seq (hsink.may.seq keeps_skip)).loop

end keeps

/-- Every thread keeps the discipline of the locks. -/
theorem running_disciplined (cfg : BridgeCfg) : (running cfg).Disciplined (exposed cfg) killable where
  live worker _ := by
    refine ⟨none, holds_none ?_, fun m => by simp [running]⟩
    cases worker with
    | main =>
      have hstop : ∀ script ∈ net_stop cfg, Keeps (exposed cfg .main) killable none script := by
        intro script hscript
        rcases List.mem_append.mp hscript with hcancel | hjoin
        · obtain ⟨thread, -, rfl⟩ := List.mem_map.mp hcancel
          exact keeps_cancel rfl
        · obtain ⟨thread, -, rfl⟩ := List.mem_map.mp hjoin
          exact keeps_join _
      have hpoll : ∀ script ∈ spw_stop_poll cfg, Keeps (exposed cfg .main) killable none script := by
        intro script hscript
        rcases List.mem_cons.mp hscript with rfl | hjoin
        · exact keeps_section _
        · obtain ⟨chan, -, rfl⟩ := List.mem_map.mp hjoin
          exact keeps_join _
      exact fun script hscript => (List.mem_append.mp hscript).elim (hstop script) (hpoll script)
    | net thread =>
      have hexposed : cfg.enable_sniff = true → exposed cfg (.net thread) (.lock .sniff) = true := fun h => by
        simp [exposed, h]
      intro script hscript
      cases thread with
      | accept_connections id =>
        rw [List.mem_singleton.mp hscript]
        exact keeps_accept_connections id
      | poll_socket id =>
        rw [List.mem_singleton.mp hscript]
        exact keeps_poll_socket hexposed id
    | poll_spw chan =>
      intro script hscript
      rw [List.mem_singleton.mp hscript]
      exact keeps_poll_spw cfg fun _ => rfl
  ended _ _ _ h := by cases h
  killed _ h := by cases h

/-! ### After `net_stop` -/

/-- `net_stop` has returned: no network thread is still to be joined. -/
def NetStopped (s : System Mutex Worker Call) : Prop := ∀ thread, .join (.net thread) ∉ s.code .main

/-- No ended thread owns a mutex; and once `net_stop` has returned, a SpW thread
that waits for a mutex is let in after some steps of the owner. -/
structure LeftFree (s : System Mutex Worker Call) : Prop where
  orphan : ∀ worker, s.ended worker = true → ∀ m, s.owner m ≠ some worker
  unblocked : NetStopped s → ∀ chan m rest, s.code (.poll_spw chan) = .lock m :: rest →
    ∃ (worker : Worker) (choices : List Bool),
      (run System.step s (choices.map fun taken => (worker, taken))).owner m = none

/-- No thread is cancelled in the locked section of `sniff_push`: none ends at a
cancellation point with the lock of the sniffer. -/
def Spared (s : System Mutex Worker Call) (a : Worker × Bool) : Prop :=
  s.cancelled a.1 = true → atPoint (s.code a.1) = true → s.owner (.lock .sniff) ≠ some a.1

instance (s : System Mutex Worker Call) (a : Worker × Bool) : Decidable (Spared s a) :=
  inferInstanceAs (Decidable (_ → _ → _))

/-- `net_stop` joins the threads that `net_start` has created. -/
theorem net_stop_threads_perm (cfg : BridgeCfg) (thread : net.Thread) :
    thread ∈ net_stop_threads cfg ↔ thread ∈ net.net_start cfg := by
  simp only [net_stop_threads, net.net_start, List.mem_append]
  tauto

/-- The discipline, and every network thread ended or still to be joined. -/
structure Stopping (cfg : BridgeCfg) (s : System Mutex Worker Call) : Prop where
  disciplined : s.Disciplined (exposed cfg) killable
  joins : ∀ thread, .join (.net thread) ∈ s.code .main ∨ s.ended (.net thread) = true

theorem running_stopping (cfg : BridgeCfg) : Stopping cfg (running cfg) where
  disciplined := running_disciplined cfg
  joins thread := by
    by_cases hcreated : thread ∈ net.net_start cfg
    · have hjoined : .join (.net thread) ∈ net_stop cfg := by
        refine List.mem_append_right _ (List.mem_map.mpr ⟨thread, ?_, rfl⟩)
        exact (net_stop_threads_perm cfg thread).mpr hcreated
      exact Or.inl (List.mem_append_left _ hjoined)
    · exact Or.inr (by simp [running, created, hcreated])

section stopping

variable {cfg : BridgeCfg} {s : System Mutex Worker Call}

/-- Of the locks only that of the sniffer can be owned at a cancellation point by a
thread that is cancelled. -/
theorem Stopping.owned (hs : Stopping cfg s) {worker : Worker} (hcancelled : s.cancelled worker = true)
    (hpoint : atPoint (s.code worker) = true) {m : Mutex} (howner : s.owner m = some worker) :
    m = .lock .sniff ∧ cfg.enable_sniff = true := by
  have hexposed := hs.disciplined.exposed_at_point hpoint howner
  have hkillable := hs.disciplined.killed worker hcancelled
  cases worker with
  | net thread => simpa [exposed] using hexposed
  | main | poll_spw chan => cases hkillable

theorem Stopping.safe (hs : Stopping cfg s) {a : Worker × Bool} (hspared : Spared s a) : s.Safe a := by
  intro hcancelled hpoint m howner
  obtain ⟨rfl, -⟩ := hs.owned hcancelled hpoint howner
  exact hspared hcancelled hpoint howner

theorem Stopping.spared (hs : Stopping cfg s) (hsniff : cfg.enable_sniff = false) (a : Worker × Bool) : Spared s a := by
  intro hcancelled hpoint howner
  exact absurd (hsniff.symm.trans (hs.owned hcancelled hpoint howner).2) nofun

theorem Stopping.step (hs : Stopping cfg s) {a : Worker × Bool} (hspared : Spared s a) : Stopping cfg (s.step a) where
  disciplined := hs.disciplined.step (hs.safe hspared)
  joins thread := by
    rcases hs.joins thread with hjoin | hended
    · exact (System.step_join hjoin).imp_right System.step_ended
    · exact Or.inr (System.step_ended hended)

theorem Stopping.leftFree (hs : Stopping cfg s) : LeftFree s where
  orphan := hs.disciplined.ended
  unblocked hstopped chan m rest _ := by
    cases howner : s.owner m with
    | none => exact ⟨.main, [], howner⟩
    | some worker =>
      have hspared : killable worker = false := by
        cases worker with
        | net thread =>
          have hended := (hs.joins thread).resolve_left (hstopped thread)
          exact absurd howner (hs.disciplined.ended _ hended m)
        | main | poll_spw => rfl
      exact ⟨worker, hs.disciplined.releases hspared howner⟩

end stopping

/-- In every run in which no thread is cancelled within `sniff_push`, no lock is left
behind. -/
theorem shutdown_leaves_no_lock (cfg : BridgeCfg) {actions : List (Worker × Bool)}
    (hactions : Along System.step Spared (running cfg) actions) : LeftFree (run System.step (running cfg) actions) :=
  (hactions.invariant (fun _ _ hs hspared => hs.step hspared) (running_stopping cfg)).leftFree

/-- A server with the sniffer. -/
def sniffedCfg : BridgeCfg := { bridge_cfg_init [] with enable_sniff := true }

/-- Operations of one thread with its choices. -/
def turns (worker : Worker) (choices : List Bool) : List (Worker × Bool) := choices.map fun taken => (worker, taken)

/-- The shutdown of the threads of that server, of which some end here. -/
def stopping (ending : List net.Thread) : List (Worker × Bool) :=
  turns .main [false, false, false, false] ++ ending.flatMap (fun thread => turns (.net thread) [true, true, false]) ++
    turns .main [false, false, false, false]

theorem shutdown_leaves_no_lock_sniffed :
    LeftFree (run System.step (running sniffedCfg) (stopping (net_stop_threads sniffedCfg))) :=
  shutdown_leaves_no_lock sniffedCfg (by decide)

/-- The data service relays a packet to the sniffer up to the first `send()`. -/
def sniffing : List (Worker × Bool) :=
  turns (.net (.poll_socket .data)) [true, false, false, false, false, false, false, false, false, false, false, true,
    false, false, false, false, false, false, false, true, false, false, false, false, false, true, false, false,
    false, true, false, true]

/-- Cancelled in that `send()`, the thread ends with the lock of the sniffer, and
`net_stop` returns. -/
theorem shutdown_leaves_sniff_lock :
    NetStopped (run System.step (running sniffedCfg) (sniffing ++ stopping (net_stop_threads sniffedCfg))) ∧
      ¬ LeftFree (run System.step (running sniffedCfg) (sniffing ++ stopping (net_stop_threads sniffedCfg))) := by
  constructor
  · have hcode : (run System.step (running sniffedCfg) (sniffing ++ stopping (net_stop_threads sniffedCfg))).code
        .main = spw_stop_poll sniffedCfg := by decide +kernel
    intro thread hjoin
    rw [hcode, spw_stop_poll] at hjoin
    simp [spw_threads, sniffedCfg, bridge_cfg_init, Script.locked] at hjoin
  · intro hfree
    exact hfree.orphan (.net (.poll_socket .data)) (by decide +kernel) (.lock .sniff) (by decide +kernel)

/-- Without the sniffer no run leaves a lock behind. -/
theorem shutdown_without_sniffer {cfg : BridgeCfg} (hsniff : cfg.enable_sniff = false)
    (actions : List (Worker × Bool)) : LeftFree (run System.step (running cfg) actions) := by
  have hstep : ∀ s a, Stopping cfg s → True → Stopping cfg (System.step s a) := fun s a hs _ =>
    hs.step (hs.spared hsniff a)
  exact ((along_trivial actions).invariant hstep (running_stopping cfg)).leftFree

end spw_bridge.shutdown
