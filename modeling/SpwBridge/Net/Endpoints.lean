import SpwBridge.Net.Threads
import SpwBridge.Settings
import SpwBridge.World

open overwrites strings

namespace spw_bridge.net

def GRESB_VLINK_PORT_BASE : Nat := 3000
def GRESB_SNIFF_PORT : Nat := 3064

/-- The transmit port of a virtual link, or minus one. -/
def gresb_get_virtual_link_tx_port (link : Nat) : Int :=
  if (link : Int) > GRESB_VLINK_MAX then -1 else GRESB_VLINK_PORT_BASE + 2 * link

/-- The receive port of a virtual link, or minus one. -/
def gresb_get_virtual_link_rx_port (link : Nat) : Int :=
  if (link : Int) > GRESB_VLINK_MAX then -1 else GRESB_VLINK_PORT_BASE + 2 * link + 1

/-- What `%d` prints. -/
def print_int (n : Int) : List Char := if n < 0 then '-' :: decimal n.natAbs else decimal n.natAbs

/-- A url in `<ip>:<port>` form, in an array of 256 characters. -/
def print_url (host : List Char) (port : Int) : List Char := snprintf 256 (host ++ ':' :: print_int port)

/-- The endpoint of a url in `<ip>:<port>` form. Without memory the process
exits; a part that is not there is a null pointer. -/
def sockaddr_from_url (str : Bool) (url : List Char) : Except Halt SockaddrIn :=
  if str then
    match tokens ':' url with
    | ip :: port :: _ => .ok ⟨inet_addr ip, UInt16.ofInt (atoi port)⟩
    | _ => .error (.fault .null)
  else .error .exit

/-- How `net_start` opens a service. -/
inductive Opening
  | bind_server_socket
  | bind_dgram_socket
  | connect_client_socket
  deriving DecidableEq, Repr

/-- A service that `net_start` opens, with its host and its port. -/
structure Endpoint where
  id : SvcId
  opening : Opening
  host : List Char
  port : Int

def Endpoint.url (endpoint : Endpoint) : List Char := print_url endpoint.host endpoint.port

/-- The services that `net_start` opens, in its order. Only the traffic sniffer
of a client has a host of its own. -/
def endpoints (cfg : Settings) : List Endpoint :=
  [⟨.data, match cfg.mode with
      | .MODE_SERVER => .bind_server_socket
      | .MODE_DGRAM => .bind_dgram_socket
      | .MODE_CLIENT => .connect_client_socket, cfg.host, cfg.port⟩] ++
    (if cfg.enable_gresb ∧ cfg.mode = .MODE_SERVER then
      [⟨.gresb_tx, .bind_server_socket, cfg.host, gresb_get_virtual_link_tx_port cfg.gresb_link⟩,
        ⟨.gresb_rx, .bind_server_socket, cfg.host, gresb_get_virtual_link_rx_port cfg.gresb_link⟩] else []) ++
    (if cfg.enable_sniff then
      [⟨.sniff, .bind_server_socket, if cfg.mode = .MODE_CLIENT then DEFAULT_ADDR else cfg.host,
        GRESB_SNIFF_PORT⟩] else []) ++
    if cfg.enable_rmap then [⟨.rmap, .bind_server_socket, cfg.host, cfg.rmap_port⟩] else []

/-- The services that listen are those with a thread that accepts. -/
theorem endpoints_accept (cfg : Settings) (id : SvcId) :
    (∃ endpoint ∈ endpoints cfg, endpoint.id = id ∧ endpoint.opening = .bind_server_socket) ↔
      .accept_connections id ∈ net_start cfg.toBridgeCfg := by
  unfold endpoints net_start served
  cases hmode : cfg.mode <;> cases hgresb : cfg.enable_gresb <;> cases hsniff : cfg.enable_sniff <;>
    cases hrmap : cfg.enable_rmap <;> cases id <;> simp

/-! ### Urls -/

/-- A url of a host and a port is read back as they are. -/
theorem sockaddr_from_url_print {host : List Char} {port : Nat} (hhost : Settings.HostFits host)
    (hport : port < 2 ^ 16) :
    sockaddr_from_url true (print_url host port) = .ok ⟨inet_addr host, UInt16.ofInt port⟩ := by
  have hprint : print_int port = decimal port := by simp [print_int]
  have hdigits : (decimal port).length ≤ 5 := (Nat.length_toDigits_le_iff (by decide) (by decide)).mpr (by omega)
  have hfits : (host ++ ':' :: decimal port).length ≤ 255 := by
    have := hhost.fits
    simp only [List.length_append, List.length_cons]
    omega
  have hcolon : ':' ∉ decimal port := by
    intro hmem
    have h := isDigit_of_mem_decimal hmem
    cases h
  have htokens : tokens ':' (host ++ ':' :: decimal port) = [host, decimal port] := by
    rw [tokens, List.splitOn_append_cons_self_of_not_mem hhost.whole, List.splitOn_eq_singleton hcolon]
    simp [hhost.found, decimal_ne_nil]
  rw [print_url, hprint, snprintf, List.take_of_length_le hfits, sockaddr_from_url, if_pos rfl, htokens]
  simp only [atoi_decimal (Nat.lt_trans hport (by decide))]

end spw_bridge.net

namespace spw_bridge.Opt

/-- The port that an option gives. -/
def port_arg (opt : Opt) : Option Nat :=
  match opt.opt, opt.optarg with
  | 'p', some optarg => Settings.parse_port optarg
  | 'r', some optarg =>
    match tokens ':' optarg with
    | _ :: port :: _ => Settings.parse_port port
    | _ => none
  | _, _ => none

/-- The host that an option asks `getaddrinfo` for. -/
def host_arg (opt : Opt) : Option (List Char) :=
  match opt.opt, opt.optarg with
  | 's', some optarg => some optarg
  | 'r', some optarg =>
    match tokens ':' optarg with
    | host :: _ => some (optarg.takeWhile (· = ':') ++ host)
    | _ => none
  | _, _ => none

/-- The first IPv4 address of the host that an option gives, if it has one. -/
def address (getaddrinfo : List Char → Option (List (Option UInt32))) (opt : Opt) : Option (Option UInt32) :=
  opt.host_arg.map fun arg => ((getaddrinfo arg).getD []).findSome? id

end spw_bridge.Opt

namespace spw_bridge.Settings

variable {getaddrinfo : List Char → Option (List (Option UInt32))}

/-- The settings that few options change are the same. -/
structure SameEndpoint (cfg after : Settings) : Prop where
  port : after.port = cfg.port
  host : after.host = cfg.host

/-- What a host is after an option: the address that it gives, or what it was. -/
def HostSet (set : Option (Option UInt32)) (host after : List Char) : Prop :=
  match set with
  | none => after = host
  | some none => True
  | some (some addr) => inet_addr after = addr

theorem SameEndpoint.set {cfg after : Settings} {opt : Opt} (hsame : SameEndpoint cfg after)
    (hport : opt.port_arg = none) (hhost : opt.host_arg = none) :
    after.port = opt.port_arg.getD cfg.port ∧ HostSet (opt.address getaddrinfo) cfg.host after.host := by
  rw [hport, Opt.address, hhost]
  exact ⟨hsame.port, hsame.host⟩

theorem resolve_host_addr_set {arg host after : List Char}
    (hresolve : resolve_host_addr getaddrinfo arg host = some after) (before : List Char) :
    HostSet (some (((getaddrinfo arg).getD []).findSome? id)) before after := by
  obtain ⟨res, hres, hafter⟩ := Option.map_eq_some_iff.mp hresolve
  rw [hres, Option.getD_some, ← List.head?_filterMap]
  cases hfound : res.filterMap id with
  | nil => trivial
  | cons addr found =>
    simp only [hfound] at hafter
    subst hafter
    exact inet_addr_ntop addr

theorem opt_client_endpoint {cfg after : Settings} {optarg : List Char} {next : Option (List Char)}
    (hopt : cfg.opt_client getaddrinfo optarg = some after) :
    after.port = (Opt.port_arg ⟨'r', some optarg, next⟩).getD cfg.port ∧
      HostSet (Opt.address getaddrinfo ⟨'r', some optarg, next⟩) cfg.host after.host := by
  unfold opt_client at hopt
  rcases htokens : tokens ':' optarg with _ | ⟨host, _ | ⟨port, rest⟩⟩ <;> rw [htokens] at hopt
  · cases hopt
  · cases hopt
  · obtain ⟨number, hport, hhost⟩ := Option.bind_eq_some_iff.mp hopt
    obtain ⟨found, hresolve, rfl⟩ := Option.map_eq_some_iff.mp hhost
    simp only [Opt.port_arg, Opt.address, Opt.host_arg, htokens, hport, Option.getD_some, Option.map_some, true_and]
    exact resolve_host_addr_set hresolve cfg.host

theorem opt_gresb_endpoint {cfg after : Settings} {optarg : Option (List Char)}
    (hopt : cfg.opt_gresb optarg = some after) : SameEndpoint cfg after := by
  cases optarg with
  | none =>
    cases hopt
    exact ⟨rfl, rfl⟩
  | some optarg =>
    simp only [opt_gresb] at hopt
    split at hopt
    · cases hopt
    · cases hopt
      exact ⟨rfl, rfl⟩

theorem opt_sniff_endpoint {cfg after : Settings} {optarg : Option (List Char)}
    (hopt : cfg.opt_sniff optarg = some after) : SameEndpoint cfg after := by
  cases optarg with
  | none =>
    cases hopt
    exact ⟨rfl, rfl⟩
  | some optarg =>
    simp only [opt_sniff] at hopt
    split at hopt
    · cases hopt
    · cases hopt
      exact ⟨rfl, rfl⟩

theorem opt_rmap_endpoint (cfg : Settings) (next : Option (List Char)) : SameEndpoint cfg (cfg.opt_rmap next) := by
  unfold opt_rmap
  split
  · exact ⟨rfl, rfl⟩
  · dsimp only
    split <;> exact ⟨rfl, rfl⟩

theorem opt_monitor_endpoint {cfg after : Settings} {optarg : List Char}
    (hopt : cfg.opt_monitor optarg = some after) : SameEndpoint cfg after := by
  unfold opt_monitor at hopt
  split at hopt
  · dsimp only at hopt
    split at hopt
    · cases hopt
      exact ⟨rfl, rfl⟩
    · cases hopt
  · cases hopt

/-- An accepted option sets the port and the host that it gives, and no other
option does. -/
theorem parse_option_endpoint {cfg after : Settings} {opt : Opt}
    (hopt : cfg.parse_option getaddrinfo opt = some after) :
    after.port = opt.port_arg.getD cfg.port ∧ HostSet (opt.address getaddrinfo) cfg.host after.host := by
  obtain ⟨c, optarg, next⟩ := opt
  unfold parse_option at hopt
  dsimp only at hopt
  split at hopt
  case h_4 optarg =>
    obtain ⟨port, hport, rfl⟩ := Option.map_eq_some_iff.mp hopt
    refine ⟨?_, rfl⟩
    change port = (parse_port optarg).getD cfg.port
    rw [hport]
    rfl
  case h_5 optarg =>
    obtain ⟨host, hresolve, rfl⟩ := Option.map_eq_some_iff.mp hopt
    exact ⟨rfl, resolve_host_addr_set hresolve cfg.host⟩
  case h_6 => exact opt_client_endpoint hopt
  case h_9 =>
    unfold opt_link_speed at hopt
    split at hopt
    · cases hopt
    · cases hopt
      exact ⟨rfl, rfl⟩
  case h_10 =>
    unfold opt_link_id at hopt
    split at hopt
    · cases hopt
    · cases hopt
      exact ⟨rfl, rfl⟩
  case h_16 => exact (opt_gresb_endpoint hopt).set rfl rfl
  case h_18 =>
    cases hopt
    exact (opt_rmap_endpoint cfg next).set rfl rfl
  case h_19 => exact (opt_monitor_endpoint hopt).set rfl rfl
  case h_22 => exact (opt_sniff_endpoint hopt).set rfl rfl
  case h_23 => cases hopt
  all_goals
    cases hopt
    exact ⟨rfl, rfl⟩

/-- The last port and the last host of a command line count. -/
theorem parse_options_endpoint {cfg after : Settings} {opts : List Opt}
    (hparse : cfg.parse_options getaddrinfo opts = some after) :
    after.port = (latest Opt.port_arg opts).getD cfg.port ∧
      HostSet (latest (Opt.address getaddrinfo) opts) cfg.host after.host := by
  induction opts generalizing cfg with
  | nil =>
    cases hparse
    exact ⟨rfl, rfl⟩
  | cons opt opts ih =>
    obtain ⟨mid, hopt, hrest⟩ := Option.bind_eq_some_iff.mp hparse
    obtain ⟨hport, hhost⟩ := parse_option_endpoint hopt
    obtain ⟨hport', hhost'⟩ := ih hrest
    refine ⟨by rw [hport', hport, latest_cons_getD], ?_⟩
    rw [latest_cons]
    cases hlast : latest (Opt.address getaddrinfo) opts with
    | none =>
      -- behind this option the host stays as it is
      rw [hlast] at hhost'
      rw [Option.none_or, hhost']
      exact hhost
    | some set =>
      rw [hlast] at hhost'
      cases set with
      | none => trivial
      | some addr => exact hhost'

end spw_bridge.Settings

namespace spw_bridge.net

/-! ### The endpoints of a command line -/

/-- The ports that other services than the data and the pseudo-RMAP service
listen on. -/
def fixed_ports (cfg : Settings) : List Int :=
  (if cfg.enable_gresb ∧ cfg.mode = .MODE_SERVER then
    [gresb_get_virtual_link_tx_port cfg.gresb_link, gresb_get_virtual_link_rx_port cfg.gresb_link] else []) ++
    if cfg.enable_sniff then [(GRESB_SNIFF_PORT : Int)] else []

/-- The given ports are none of the fixed ones and differ. -/
structure PortsApart (cfg : Settings) : Prop where
  data : cfg.mode = .MODE_SERVER → (cfg.port : Int) ∉ fixed_ports cfg
  rmap : cfg.enable_rmap = true → (cfg.rmap_port : Int) ∉ fixed_ports cfg
  both : cfg.mode = .MODE_SERVER → cfg.enable_rmap = true → cfg.rmap_port ≠ cfg.port

def listeners (cfg : Settings) : List Endpoint :=
  (endpoints cfg).filter fun endpoint => endpoint.opening = .bind_server_socket

/-- What is known of an endpoint: its port is one, and its url is read back as its
host and its port. -/
structure Endpoint.Reachable (endpoint : Endpoint) : Prop where
  port : 1 ≤ endpoint.port ∧ endpoint.port < 2 ^ 16
  url : sockaddr_from_url true endpoint.url = .ok ⟨inet_addr endpoint.host, UInt16.ofInt endpoint.port⟩

theorem Endpoint.reachable {id : SvcId} {opening : Opening} {host : List Char} {port : Nat}
    (hhost : Settings.HostFits host) (hport : 1 ≤ port ∧ port < 2 ^ 16) :
    Endpoint.Reachable ⟨id, opening, host, port⟩ where
  port := by dsimp only; omega
  url := sockaddr_from_url_print hhost hport.2

theorem virtual_link_ports {link : Nat} (hlink : link ≤ 5) :
    gresb_get_virtual_link_tx_port link = (3000 + 2 * link : Nat) ∧
      gresb_get_virtual_link_rx_port link = (3001 + 2 * link : Nat) := by
  have hsmall : ¬ (link : Int) > GRESB_VLINK_MAX := by
    unfold GRESB_VLINK_MAX
    omega
  rw [gresb_get_virtual_link_tx_port, gresb_get_virtual_link_rx_port, if_neg hsmall, if_neg hsmall,
    GRESB_VLINK_PORT_BASE]
  omega

theorem endpoints_reachable {cfg : Settings} (hvalid : cfg.Valid) : ∀ endpoint ∈ endpoints cfg, endpoint.Reachable := by
  obtain ⟨htx, hrx⟩ := virtual_link_ports hvalid.gresb_link
  have hlink := hvalid.gresb_link
  have hdefault : Settings.HostFits DEFAULT_ADDR := by constructor <;> decide
  have hport := hvalid.port
  have hrmap := hvalid.rmap_port
  intro endpoint hmem
  rcases List.mem_append.mp hmem with hmem | hmem
  · rcases List.mem_append.mp hmem with hmem | hmem
    · rcases List.mem_append.mp hmem with hmem | hmem
      · rw [List.mem_singleton] at hmem
        subst hmem
        exact Endpoint.reachable hvalid.host (by omega)
      · split at hmem
        · rw [htx, hrx] at hmem
          rcases List.mem_pair.mp hmem with rfl | rfl
          · exact Endpoint.reachable hvalid.host (by omega)
          · exact Endpoint.reachable hvalid.host (by omega)
        · cases hmem
    · split at hmem
      · rw [List.mem_singleton] at hmem
        subst hmem
        split
        · exact Endpoint.reachable hdefault (by decide)
        · exact Endpoint.reachable hvalid.host (by decide)
      · cases hmem
  · split at hmem
    · rw [List.mem_singleton] at hmem
      subst hmem
      exact Endpoint.reachable hvalid.host (by omega)
    · cases hmem

theorem listeners_ports (cfg : Settings) : (listeners cfg).map Endpoint.port =
    (if cfg.mode = .MODE_SERVER then [(cfg.port : Int)] else []) ++
      (fixed_ports cfg ++ if cfg.enable_rmap then [(cfg.rmap_port : Int)] else []) := by
  unfold listeners endpoints fixed_ports
  cases hmode : cfg.mode <;> cases hgresb : cfg.enable_gresb <;> cases hsniff : cfg.enable_sniff <;>
    cases hrmap : cfg.enable_rmap <;> simp

theorem fixed_ports_nodup {cfg : Settings} (hvalid : cfg.Valid) : (fixed_ports cfg).Nodup := by
  obtain ⟨htx, hrx⟩ := virtual_link_ports hvalid.gresb_link
  have hlink := hvalid.gresb_link
  have hsniff : GRESB_SNIFF_PORT = 3064 := rfl
  rw [fixed_ports, htx, hrx, hsniff]
  refine List.nodup_append.mpr ⟨?_, ?_, ?_⟩
  · split
    · rw [List.nodup_cons, List.mem_singleton]
      exact ⟨by omega, List.nodup_singleton _⟩
    · exact List.nodup_nil
  · split
    · exact List.nodup_singleton _
    · exact List.nodup_nil
  · intro a ha b hb
    split at ha <;> split at hb <;> simp only [List.mem_cons, List.not_mem_nil, or_false] at ha hb
    omega

/-- No two services listen on one port exactly when the given ports are apart. -/
theorem listeners_nodup_iff {cfg : Settings} (hvalid : cfg.Valid) :
    ((listeners cfg).map Endpoint.port).Nodup ↔ PortsApart cfg := by
  have hfixed := fixed_ports_nodup hvalid
  rw [listeners_ports, List.nodup_append, List.nodup_append]
  constructor
  · rintro ⟨_, ⟨_, _, hrmap⟩, hdata⟩
    constructor
    case data =>
      intro hmode hmem
      rw [if_pos hmode] at hdata
      exact hdata _ (List.mem_singleton_self _) _ (List.mem_append_left _ hmem) rfl
    case rmap =>
      intro henabled hmem
      rw [if_pos henabled] at hrmap
      exact hrmap _ hmem _ (List.mem_singleton_self _) rfl
    case both =>
      intro hmode henabled heq
      rw [if_pos hmode, if_pos henabled] at hdata
      exact hdata _ (List.mem_singleton_self _) _ (List.mem_append_right _ (List.mem_singleton_self _)) (by rw [heq])
  · intro hapart
    refine ⟨?_, ⟨hfixed, ?_, ?_⟩, ?_⟩
    · split
      · exact List.nodup_singleton _
      · exact List.nodup_nil
    · split
      · exact List.nodup_singleton _
      · exact List.nodup_nil
    · rintro a ha b hb rfl
      split at hb
      case isTrue henabled =>
        rw [List.mem_singleton] at hb
        exact hapart.rmap henabled (hb ▸ ha)
      case isFalse => cases hb
    · rintro a ha b hb rfl
      split at ha
      case isTrue hmode =>
        rw [List.mem_singleton] at ha
        subst ha
        rcases List.mem_append.mp hb with hb | hb
        · exact hapart.data hmode hb
        · split at hb
          case isTrue henabled =>
            rw [List.mem_singleton] at hb
            exact hapart.both hmode henabled (by omega)
          case isFalse => cases hb
      case isFalse => cases ha

/-- What a command line makes of the network side: every service has a port, and
its url is read back as its host and its port; the data port is the last one that
an option gives; where the last host that an option gives has an IPv4 address, the
host is its first one, and without a host it is the wildcard (of a last host without
such an address nothing is said); and the services can all listen exactly where the
given ports are apart. -/
theorem net_start_endpoints (getaddrinfo : List Char → Option (List (Option UInt32))) {path : List UInt8}
    (hsize : path.length = 256) {opts : List Opt} {cfg : Settings}
    (hparse : (settings_init path).parse_options getaddrinfo opts = some cfg) :
    (∀ endpoint ∈ endpoints cfg, endpoint.Reachable) ∧
      cfg.port = (latest Opt.port_arg opts).getD DEFAULT_PORT ∧
      (∀ addr, latest (Opt.address getaddrinfo) opts = some (some addr) → inet_addr cfg.host = addr) ∧
      (latest (Opt.address getaddrinfo) opts = none → inet_addr cfg.host = 0) ∧
      (((listeners cfg).map Endpoint.port).Nodup ↔ PortsApart cfg) := by
  have hvalid := Settings.parse_options_valid (Settings.settings_init_valid hsize) hparse
  obtain ⟨hport, hhost⟩ := Settings.parse_options_endpoint hparse
  refine ⟨endpoints_reachable hvalid, hport, ?_, ?_, listeners_nodup_iff hvalid⟩
  · intro addr hlast
    rw [hlast] at hhost
    exact hhost
  · intro hlast
    rw [hlast] at hhost
    have hzero : (settings_init path).host = inet_ntop 0 := rfl
    rw [hhost, hzero, inet_addr_ntop]

/-- A server on a named host with a hexadecimal port, virtual link 3 and
pseudo-RMAP. -/
def serverOptions : List Opt :=
  [⟨'s', some ['b', 'o', 'x'], none⟩, ⟨'p', some ['0', 'x', '5', '0'], none⟩, ⟨'G', some ['3'], none⟩,
    ⟨'R', none, some ['8', '1']⟩]

/-- The box has an address of another family and an IPv4 address. -/
def boxAddresses (_ : List Char) : Option (List (Option UInt32)) := some [none, some 0x0a000001]

theorem net_start_endpoints_server :
    ∃ cfg, (settings_init (List.replicate 256 0)).parse_options boxAddresses serverOptions = some cfg ∧
      cfg.port = 80 ∧ inet_addr cfg.host = 0x0a000001 ∧ ((listeners cfg).map Endpoint.port).Nodup := by
  obtain ⟨_, hport, hhost, _, hnodup⟩ :=
    @net_start_endpoints boxAddresses (List.replicate 256 0) List.length_replicate serverOptions _ rfl
  refine ⟨_, rfl, hport, hhost _ rfl, hnodup.mpr ?_⟩
  constructor <;> decide

end spw_bridge.net
