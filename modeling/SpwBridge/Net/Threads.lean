import SpwBridge.Config

namespace spw_bridge.net

/-- The network threads, one or two for each service. -/
inductive Thread
  | accept_connections (id : SvcId)
  | poll_socket (id : SvcId)
  deriving DecidableEq, Repr

/-- The threads of a service that listens. -/
def served (id : SvcId) : List Thread := [.accept_connections id, .poll_socket id]

/-- The threads that `net_start` creates, in its order. Only a server accepts on
the data service. -/
def net_start (cfg : BridgeCfg) : List Thread :=
  (if cfg.mode = .MODE_SERVER then served .data else [.poll_socket .data]) ++
    (if cfg.enable_gresb ∧ cfg.mode = .MODE_SERVER then served .gresb_tx ++ served .gresb_rx else []) ++
    (if cfg.enable_sniff then served .sniff else []) ++
    if cfg.enable_rmap then served .rmap else []

end spw_bridge.net
