import SpwBridge.Net.Handlers

open effect

namespace spw_bridge

variable {σ : Type}

/-- A packet that the device API delivers; its length is a 32-bit number. -/
abbrev SpwPacket := { pkt : List UInt8 // pkt.length < 2 ^ 32 }

/-- What the threads of the bridge react to: a packet on a SpW channel, a
readable descriptor of a service, a new connection. -/
inductive BridgeEvent
  | spw (chan : Chan) (pkt : SpwPacket)
  | net (id : SvcId) (sockfd : Nat)
  | accept (id : SvcId) (fd : Nat)

/-- The packet sink that `main` selects. -/
def pkt_sink (E : Env σ) (cfg : BridgeCfg) (chan : Chan) (buf : List UInt8) : Prog σ Unit :=
  if cfg.enable_monitor then net.spw_pkt_sink_monitor E cfg chan buf else net.net_pkt_sink E cfg buf

def handle_event (E : Env σ) (cfg : BridgeCfg) : BridgeEvent → Prog σ Unit
  | .spw chan pkt => pkt_sink E cfg chan pkt.val
  | .net id sockfd => net.handle_pkt E cfg id sockfd
  | .accept id fd => modify_svc id fun svc => net.accept_connections svc fd

/-- The bridge after an event, and whether the process is still running. A loop
that hangs takes only its own thread along. -/
def stepEvent (E : Env σ) (cfg : BridgeCfg) (w : World σ) (event : BridgeEvent) : World σ × Bool :=
  match handle_event E cfg event w with
  | .ok _ after => (after, true)
  | .error .hang after => (after, true)
  | .error _ after => (after, false)

/-- A run over a sequence of events, up to the exit of the process. -/
def runEvents (E : Env σ) (cfg : BridgeCfg) (w : World σ) : List BridgeEvent → World σ × Bool
  | [] => (w, true)
  | event :: events =>
    if (stepEvent E cfg w event).2 then runEvents E cfg (stepEvent E cfg w event).1 events
    else stepEvent E cfg w event

/-- What an event leaves behind, whichever way its handler ends. -/
theorem stepEvent_of_wp {E : Env σ} {cfg : BridgeCfg} {w : World σ} {event : BridgeEvent}
    (post : World σ → Bool → Prop)
    (hwp : wp (handle_event E cfg event) (fun _ after => post after true)
      (fun halt after => post after (decide (halt = .hang))) w) :
    post (stepEvent E cfg w event).1 (stepEvent E cfg w event).2 := by
  unfold wp at hwp
  unfold stepEvent
  cases hrun : handle_event E cfg event w with
  | ok _ after =>
    rw [hrun] at hwp
    exact hwp
  | error halt after =>
    rw [hrun] at hwp
    cases halt with
    | hang | exit | fault => exact hwp

theorem runEvents_nil (E : Env σ) (cfg : BridgeCfg) (w : World σ) : runEvents E cfg w [] = (w, true) := rfl

theorem runEvents_cons (E : Env σ) (cfg : BridgeCfg) (w : World σ) (event : BridgeEvent)
    (events : List BridgeEvent) :
    runEvents E cfg w (event :: events) =
      if (stepEvent E cfg w event).2 then runEvents E cfg (stepEvent E cfg w event).1 events
      else stepEvent E cfg w event := rfl

/-- A run that is still going takes one more event, one that has ended does
not. -/
theorem runEvents_concat (E : Env σ) (cfg : BridgeCfg) (w : World σ) (events : List BridgeEvent)
    (event : BridgeEvent) :
    runEvents E cfg w (events ++ [event]) =
      if (runEvents E cfg w events).2 then stepEvent E cfg (runEvents E cfg w events).1 event
      else runEvents E cfg w events := by
  induction events generalizing w with
  | nil =>
    simp only [List.nil_append, runEvents_cons, runEvents_nil, ↓reduceIte]
    split
    · rename_i hstep
      exact Prod.ext rfl hstep.symm
    · rfl
  | cons first events ih =>
    rw [List.cons_append, runEvents_cons, runEvents_cons]
    by_cases hstep : (stepEvent E cfg w first).2 = true
    · rw [if_pos hstep, if_pos hstep, ih]
    · rw [if_neg hstep, if_neg hstep, if_neg hstep]

end spw_bridge
