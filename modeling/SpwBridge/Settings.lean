import SpwBridge.Library.Decimal
import SpwBridge.OptionOrder

open strings

namespace spw_bridge

def DEFAULT_PORT : Nat := 1234
def DEFAULT_ADDR : List Char := ['0', '.', '0', '.', '0', '.', '0']
def DEFAULT_RMAP_PORT : Nat := 2345
def DEFAULT_LINK_SPEED : Nat := 10

/-- All settings of `struct bridge_cfg`. A link speed is a whole number, as the
option gives it. -/
structure Settings extends LinkCfg where
  port : Nat
  rmap_port : Nat
  gresb_link : Nat
  dev_num : Nat
  reset_dev : Bool
  sig_rate : Nat
  pkt_throttle_usec : Nat
  interpret_rmap : Bool
  pus_debug : Bool
  debug_short : Bool
  crc_check : Bool
  host : List Char

/-- An option as `getopt` returns it, with the element of `argv` that it would go
on with. -/
structure Opt where
  opt : Char
  optarg : Option (List Char)
  next : Option (List Char)

/-- The settings without any option. -/
def settings_init (path : List UInt8) : Settings where
  toLinkCfg := link_cfg_init path
  port := DEFAULT_PORT
  rmap_port := DEFAULT_RMAP_PORT
  gresb_link := 0
  dev_num := 0
  reset_dev := false
  sig_rate := DEFAULT_LINK_SPEED
  pkt_throttle_usec := 0
  interpret_rmap := false
  pus_debug := false
  debug_short := false
  crc_check := true
  host := DEFAULT_ADDR

/-- What `snprintf` stores in an array of `size` characters. -/
def snprintf (size : Nat) (str : List Char) : List Char := str.take (size - 1)

namespace Settings

section options

-- the addresses that `getaddrinfo` finds for a host, those of other families as none
variable (getaddrinfo : List Char → Option (List (Option UInt32)))

/-- The host of an argument: its first IPv4 address, without one the text in
front of the first colon. -/
def resolve_host_addr (arg host : List Char) : Option (List Char) :=
  (getaddrinfo arg).map fun res =>
    match res.filterMap id, tokens ':' arg with
    | addr :: _, _ => inet_ntop addr
    | [], node_addr :: _ => snprintf 128 node_addr
    | [], [] => host

def opt_dev_num (cfg : Settings) (optarg : List Char) : Settings :=
  { cfg with dev_num := uint32 (strtol optarg 0).1 }

def opt_channel (cfg : Settings) (optarg : List Char) : Settings :=
  { cfg with channel := uint32 (strtol optarg 0).1, link_id := uint32 (strtol optarg 0).1 }

def opt_path (cfg : Settings) (optarg : List Char) : Settings :=
  let parsed := parse_path 256 (tokens ':' optarg) cfg.path cfg.path_len
  { cfg with path := parsed.1, path_len := parsed.2 }

/-- The port of an argument. -/
def parse_port (arg : List Char) : Option Nat :=
  if (strtol arg 0).1 < 1 ∨ (strtol arg 0).1 > 65535 then none else some (strtol arg 0).1.toNat

def opt_port (cfg : Settings) (optarg : List Char) : Option Settings :=
  (parse_port optarg).map fun port => { cfg with port := port }

def opt_source (cfg : Settings) (optarg : List Char) : Option Settings :=
  (resolve_host_addr getaddrinfo optarg cfg.host).map fun host => { cfg with host := host }

/-- Client mode. The host is resolved from the argument that `strtok` has cut
behind the first token. -/
def opt_client (cfg : Settings) (optarg : List Char) : Option Settings :=
  match tokens ':' optarg with
  | host :: port :: _ =>
    (parse_port port).bind fun port =>
      (resolve_host_addr getaddrinfo (optarg.takeWhile (· = ':') ++ host) (snprintf 128 host)).map fun host =>
        { cfg with mode := .MODE_CLIENT, port := port, host := host }
  | _ => none

def opt_skip_header (cfg : Settings) (optarg : List Char) : Settings :=
  { cfg with skip_header_bytes := (strtol optarg 0).1.toNat }

/-- A negative delay is none, a longer one is cut to 32 bits. -/
def opt_throttle (cfg : Settings) (optarg : List Char) : Settings :=
  { cfg with pkt_throttle_usec := (strtol optarg 0).1.toNat % 2 ^ 32 }

def opt_link_speed (cfg : Settings) (optarg : List Char) : Option Settings :=
  if strtoul optarg 0 < 2 ∨ strtoul optarg 0 > 400 then none else some { cfg with sig_rate := strtoul optarg 0 }

def opt_link_id (cfg : Settings) (optarg : List Char) : Option Settings :=
  if (strtol optarg 0).1 < 0 ∨ (strtol optarg 0).1 > 255 then none
  else some { cfg with link_id := uint32 (strtol optarg 0).1 }

def opt_gresb (cfg : Settings) : Option (List Char) → Option Settings
  | none => some { cfg with enable_gresb := true }
  | some optarg =>
    let (link, endp) := strtol optarg 0
    if endp ≠ [] ∨ link < 0 ∨ link > GRESB_VLINK_MAX then none
    else some { cfg with gresb_link := uint32 link, enable_gresb := true }

def opt_sniff (cfg : Settings) : Option (List Char) → Option Settings
  | none => some { cfg with enable_sniff := true }
  | some optarg => if optarg ≠ ['g'] then none else some { cfg with sniff_gresb := true, enable_sniff := true }

/-- Pseudo-RMAP, on the port that the next element of `argv` may give. -/
def opt_rmap (cfg : Settings) (next : Option (List Char)) : Settings :=
  match next with
  | none => { cfg with enable_rmap := true }
  | some arg =>
    let (p, endp) := strtol arg 0
    if endp = [] ∧ p > 0 ∧ p ≤ 65535 then { cfg with rmap_port := uint32 p, enable_rmap := true }
    else { cfg with enable_rmap := true }

def opt_monitor (cfg : Settings) (optarg : List Char) : Option Settings :=
  match strtol optarg 0 with
  | (chan1, ':' :: chans) =>
    let (chan2, endp) := strtol chans 0
    if ':' :: chans ≠ optarg ∧ endp = [] ∧ chans ≠ [] then
      some { cfg with
        channel := uint32 chan1
        channel2 := uint32 chan2
        link_id := uint32 chan1
        enable_monitor := true }
    else none
  | _ => none

/-- What one option of the command line does. Without a result the process
exits. -/
def parse_option (cfg : Settings) (opt : Opt) : Option Settings :=
  match opt.opt, opt.optarg with
  | 'i', some optarg => some (cfg.opt_dev_num optarg)
  | 'c', some optarg => some (cfg.opt_channel optarg)
  | 'n', some optarg => some (cfg.opt_path optarg)
  | 'p', some optarg => cfg.opt_port optarg
  | 's', some optarg => cfg.opt_source getaddrinfo optarg
  | 'r', some optarg => cfg.opt_client getaddrinfo optarg
  | 'd', some optarg => some (cfg.opt_skip_header optarg)
  | 't', some optarg => some (cfg.opt_throttle optarg)
  | 'S', some optarg => cfg.opt_link_speed optarg
  | 'L', some optarg => cfg.opt_link_id optarg
  | 'P', none => some { cfg with interpret_pus := true }
  | 'D', none => some { cfg with pus_debug := true }
  | 'N', none => some { cfg with debug_short := true }
  | 'C', none => some { cfg with crc_check := false }
  | 'F', none => some { cfg with interpret_fee := true }
  | 'G', optarg => cfg.opt_gresb optarg
  | 'u', none => some { cfg with mode := .MODE_DGRAM }
  | 'R', none => some (cfg.opt_rmap opt.next)
  | 'M', some optarg => cfg.opt_monitor optarg
  | 'E', none => some { cfg with interpret_rmap := true }
  | 'X', none => some { cfg with reset_dev := true }
  | 'W', optarg => cfg.opt_sniff optarg
  | _, _ => none

/-- The settings after a list of options. -/
def parse_options (cfg : Settings) : List Opt → Option Settings
  | [] => some cfg
  | opt :: opts => (cfg.parse_option getaddrinfo opt).bind fun cfg => cfg.parse_options opts

end options

/-! ### The settings with the link -/

variable {getaddrinfo : List Char → Option (List (Option UInt32))}

/-- Whether `getaddrinfo` finds a host. -/
def resolves (getaddrinfo : List Char → Option (List (Option UInt32))) (arg : List Char) : Bool :=
  (getaddrinfo arg).isSome

theorem parse_port_eq (arg : List Char) :
    parse_port arg = if spw_bridge.parse_port arg then some (strtol arg 0).1.toNat else none := by
  unfold parse_port spw_bridge.parse_port
  grind

theorem resolve_isSome (getaddrinfo : List Char → Option (List (Option UInt32))) (arg host : List Char) :
    (resolve_host_addr getaddrinfo arg host).isSome = resolves getaddrinfo arg := Option.isSome_map

theorem opt_client_link (cfg : Settings) (optarg : List Char) :
    (cfg.opt_client getaddrinfo optarg).map Settings.toLinkCfg =
      (spw_bridge.opt_client (resolves getaddrinfo) cfg.toBridgeCfg optarg).map fun after =>
        { toBridgeCfg := after, link_id := cfg.link_id } := by
  rw [opt_client, spw_bridge.opt_client]
  rcases tokens ':' optarg with _ | ⟨host, _ | ⟨port, rest⟩⟩
  · rfl
  · rfl
  · have hfound := resolve_isSome getaddrinfo (optarg.takeWhile (· = ':') ++ host) (snprintf 128 host)
    dsimp only
    rw [parse_port_eq, ← hfound]
    cases resolve_host_addr getaddrinfo (optarg.takeWhile (· = ':') ++ host) (snprintf 128 host) <;>
      cases spw_bridge.parse_port port <;> rfl

theorem opt_gresb_link (cfg : Settings) (optarg : Option (List Char)) :
    (cfg.opt_gresb optarg).map Settings.toLinkCfg =
      (spw_bridge.opt_gresb cfg.toBridgeCfg optarg).map fun after =>
        { toBridgeCfg := after, link_id := cfg.link_id } := by
  cases optarg with
  | none => rfl
  | some optarg =>
    simp only [opt_gresb, spw_bridge.opt_gresb]
    split_ifs <;> first | rfl | grind

theorem opt_sniff_link (cfg : Settings) (optarg : Option (List Char)) :
    (cfg.opt_sniff optarg).map Settings.toLinkCfg =
      (spw_bridge.opt_sniff cfg.toBridgeCfg optarg).map fun after =>
        { toBridgeCfg := after, link_id := cfg.link_id } := by
  cases optarg with
  | none => rfl
  | some optarg =>
    simp only [opt_sniff, spw_bridge.opt_sniff]
    split_ifs <;> first | rfl | contradiction

theorem opt_rmap_link (cfg : Settings) (next : Option (List Char)) :
    (cfg.opt_rmap next).toLinkCfg = { cfg.toLinkCfg with enable_rmap := true } := by
  unfold opt_rmap
  split
  · rfl
  · dsimp only
    split_ifs <;> rfl

theorem opt_monitor_link (cfg : Settings) (optarg : List Char) :
    (cfg.opt_monitor optarg).map Settings.toLinkCfg =
      (spw_bridge.opt_monitor cfg.toBridgeCfg optarg).map fun after =>
        { toBridgeCfg := after, link_id := after.channel } := by
  rw [opt_monitor, spw_bridge.opt_monitor]
  rcases strtol optarg 0 with ⟨chan1, _ | ⟨colon, chans⟩⟩
  · rfl
  · by_cases hcolon : colon = ':'
    · subst hcolon
      change Option.map _ (if _ then _ else _) = Option.map _ (if _ then _ else _)
      split_ifs <;> rfl
    · simp [hcolon]

/-- An option does to the settings with the link what the model of these says. -/
theorem parse_option_link (cfg : Settings) (opt : Opt) :
    (cfg.parse_option getaddrinfo opt).map Settings.toLinkCfg =
      parse_link_option (resolves getaddrinfo) cfg.toLinkCfg (opt.opt, opt.optarg) := by
  obtain ⟨c, optarg, next⟩ := opt
  unfold parse_option
  dsimp only
  split
  case h_4 optarg =>
    rw [opt_port, parse_port_eq, parse_link_option, spw_bridge.parse_option]
    cases spw_bridge.parse_port optarg <;> rfl
  case h_5 optarg =>
    rw [opt_source, resolve_host_addr, parse_link_option, spw_bridge.parse_option, resolves]
    cases getaddrinfo optarg <;> rfl
  case h_6 optarg => exact opt_client_link cfg optarg
  case h_9 optarg =>
    have hrange : spw_bridge.opt_link_speed optarg = decide ¬ (strtoul optarg 0 < 2 ∨ strtoul optarg 0 > 400) := by
      grind [spw_bridge.opt_link_speed]
    rw [opt_link_speed, parse_link_option, spw_bridge.parse_option, hrange]
    by_cases hbad : strtoul optarg 0 < 2 ∨ strtoul optarg 0 > 400
    · rw [if_pos hbad, decide_eq_false (not_not_intro hbad)]
      rfl
    · rw [if_neg hbad, decide_eq_true hbad]
      rfl
  case h_10 optarg =>
    have hrange : spw_bridge.opt_link_id optarg = decide ¬ ((strtol optarg 0).1 < 0 ∨ (strtol optarg 0).1 > 255) := by
      grind [spw_bridge.opt_link_id]
    rw [opt_link_id, parse_link_option, spw_bridge.parse_option, hrange]
    by_cases hbad : (strtol optarg 0).1 < 0 ∨ (strtol optarg 0).1 > 255
    · rw [if_pos hbad, decide_eq_false (not_not_intro hbad)]
      rfl
    · rw [if_neg hbad, decide_eq_true hbad]
      rfl
  case h_16 => exact opt_gresb_link cfg _
  case h_18 => exact congrArg some (opt_rmap_link cfg next)
  case h_19 optarg => exact opt_monitor_link cfg optarg
  case h_22 => exact opt_sniff_link cfg _
  case h_23 =>
    rw [parse_link_option]
    unfold spw_bridge.parse_option
    grind
  all_goals rfl

theorem parse_options_link (cfg : Settings) (opts : List Opt) :
    (cfg.parse_options getaddrinfo opts).map Settings.toLinkCfg =
      parse_link_options (resolves getaddrinfo) cfg.toLinkCfg (opts.map fun opt => (opt.opt, opt.optarg)) := by
  induction opts generalizing cfg with
  | nil => rfl
  | cons opt opts ih =>
    rw [parse_options, List.map_cons, parse_link_options, ← parse_option_link]
    cases cfg.parse_option getaddrinfo opt with
    | none => rfl
    | some after => exact ih after


/-! ### Settings that a command line can give -/

/-- A host that fits its array and that `strtok` finds whole in front of a
colon. -/
structure HostFits (host : List Char) : Prop where
  found : host ≠ []
  fits : host.length < 128
  whole : ':' ∉ host

/-- What every accepted option keeps of the settings. -/
structure Valid (cfg : Settings) : Prop where
  port : 1 ≤ cfg.port ∧ cfg.port ≤ 65535
  rmap_port : 1 ≤ cfg.rmap_port ∧ cfg.rmap_port ≤ 65535
  gresb_link : cfg.gresb_link ≤ 5
  dev_num : cfg.dev_num < 2 ^ 32
  channel : cfg.channel < 2 ^ 32 ∧ cfg.channel2 < 2 ^ 32
  link_id : cfg.link_id = cfg.channel ∨ cfg.link_id ≤ 255
  sig_rate : 2 ≤ cfg.sig_rate ∧ cfg.sig_rate ≤ 400
  pkt_throttle_usec : cfg.pkt_throttle_usec < 2 ^ 32
  path : cfg.path.length = 256
  path_len : cfg.path_len ≤ 256
  sniff : cfg.sniff_gresb = true → cfg.enable_sniff = true
  host : HostFits cfg.host

theorem settings_init_valid {path : List UInt8} (hsize : path.length = 256) : (settings_init path).Valid := by
  constructor
  case link_id => exact .inl rfl
  case path => exact hsize
  case host => constructor <;> simp [settings_init, DEFAULT_ADDR]
  all_goals simp [settings_init, link_cfg_init, bridge_cfg_init, DEFAULT_PORT, DEFAULT_RMAP_PORT, DEFAULT_CHAN,
    DEFAULT_LINK_SPEED]

theorem uint32_lt (tmp : Int) : uint32 tmp < 2 ^ 32 := by
  unfold uint32
  omega

theorem not_mem_of_mem_splitOn {delim : Char} {str token : List Char} (hmem : token ∈ str.splitOn delim) :
    delim ∉ token := by
  induction str generalizing token with
  | nil =>
    rw [List.splitOn_nil, List.mem_singleton] at hmem
    rw [hmem]
    exact List.not_mem_nil
  | cons c str ih =>
    rw [List.splitOn_cons_eq_if_modifyHead] at hmem
    split at hmem
    · rcases List.mem_cons.mp hmem with rfl | hmem
      · exact List.not_mem_nil
      · exact ih hmem
    · rename_i hc
      cases hparts : str.splitOn delim with
      | nil => exact absurd hparts (List.splitOn_ne_nil _ _)
      | cons part parts =>
        rw [hparts, List.modifyHead_cons] at hmem
        rcases List.mem_cons.mp hmem with rfl | hmem
        · have hne : c ≠ delim := by simpa using hc
          rw [List.mem_cons, not_or]
          exact ⟨hne.symm, ih (hparts ▸ List.mem_cons_self)⟩
        · exact ih (hparts ▸ List.mem_cons_of_mem _ hmem)

/-- A token of `strtok` is a host. -/
theorem hostFits_token {str token : List Char} (hmem : token ∈ tokens ':' str) : HostFits (snprintf 128 token) := by
  obtain ⟨hsplit, hne⟩ := List.mem_filter.mp hmem
  have hnil : token ≠ [] := by simpa using hne
  refine ⟨?_, ?_, ?_⟩
  · rw [snprintf, Ne, List.take_eq_nil_iff]
    simpa using hnil
  · rw [snprintf, List.length_take]
    omega
  · intro hcolon
    exact not_mem_of_mem_splitOn hsplit (List.mem_of_mem_take hcolon)

theorem hostFits_inet_ntop (addr : UInt32) : HostFits (inet_ntop addr) := by
  refine ⟨inet_ntop_ne_nil addr, Nat.lt_of_le_of_lt (length_inet_ntop addr) (by decide), ?_⟩
  intro hcolon
  rcases mem_inet_ntop hcolon with h | h <;> cases h

theorem hostFits_resolve {arg host after : List Char} (hhost : HostFits host)
    (hresolve : resolve_host_addr getaddrinfo arg host = some after) : HostFits after := by
  obtain ⟨res, _, rfl⟩ := Option.map_eq_some_iff.mp hresolve
  split
  · exact hostFits_inet_ntop _
  · rename_i htokens
    exact hostFits_token (htokens ▸ List.mem_cons_self)
  · exact hhost

theorem parse_port_range {arg : List Char} {port : Nat} (hport : parse_port arg = some port) :
    1 ≤ port ∧ port ≤ 65535 := by
  unfold parse_port at hport
  grind

theorem opt_client_valid {cfg after : Settings} {optarg : List Char} (hvalid : cfg.Valid)
    (hopt : cfg.opt_client getaddrinfo optarg = some after) : after.Valid := by
  unfold opt_client at hopt
  split at hopt
  · rename_i host port rest htokens
    obtain ⟨number, hport, hhost⟩ := Option.bind_eq_some_iff.mp hopt
    obtain ⟨found, hresolve, rfl⟩ := Option.map_eq_some_iff.mp hhost
    have htoken : HostFits (snprintf 128 host) := hostFits_token (htokens ▸ List.mem_cons_self)
    exact { hvalid with port := parse_port_range hport, host := hostFits_resolve htoken hresolve }
  · cases hopt

theorem opt_gresb_valid {cfg after : Settings} {optarg : Option (List Char)} (hvalid : cfg.Valid)
    (hopt : cfg.opt_gresb optarg = some after) : after.Valid := by
  cases optarg with
  | none =>
    cases hopt
    exact { hvalid with }
  | some optarg =>
    simp only [opt_gresb] at hopt
    split at hopt
    · cases hopt
    · cases hopt
      refine { hvalid with gresb_link := ?_ }
      dsimp only [uint32, GRESB_VLINK_MAX] at *
      omega

theorem opt_sniff_valid {cfg after : Settings} {optarg : Option (List Char)} (hvalid : cfg.Valid)
    (hopt : cfg.opt_sniff optarg = some after) : after.Valid := by
  cases optarg with
  | none =>
    cases hopt
    exact { hvalid with sniff := fun _ => rfl }
  | some optarg =>
    simp only [opt_sniff] at hopt
    split at hopt
    · cases hopt
    · cases hopt
      exact { hvalid with sniff := fun _ => rfl }

theorem opt_rmap_valid {cfg : Settings} (hvalid : cfg.Valid) (next : Option (List Char)) :
    (cfg.opt_rmap next).Valid := by
  unfold opt_rmap
  split
  · exact { hvalid with }
  · dsimp only
    split
    · refine { hvalid with rmap_port := ?_ }
      dsimp only [uint32]
      omega
    · exact { hvalid with }

theorem opt_monitor_valid {cfg after : Settings} {optarg : List Char} (hvalid : cfg.Valid)
    (hopt : cfg.opt_monitor optarg = some after) : after.Valid := by
  unfold opt_monitor at hopt
  split at hopt
  · dsimp only at hopt
    split at hopt
    · cases hopt
      exact { hvalid with channel := ⟨uint32_lt _, uint32_lt _⟩, link_id := .inl rfl }
    · cases hopt
  · cases hopt

/-- An accepted option keeps the settings valid. -/
theorem parse_option_valid {cfg after : Settings} {opt : Opt} (hvalid : cfg.Valid)
    (hopt : cfg.parse_option getaddrinfo opt = some after) : after.Valid := by
  obtain ⟨c, optarg, next⟩ := opt
  unfold parse_option at hopt
  dsimp only at hopt
  split at hopt
  case h_1 =>
    cases hopt
    exact { hvalid with dev_num := uint32_lt _ }
  case h_2 =>
    cases hopt
    exact { hvalid with channel := ⟨uint32_lt _, hvalid.channel.2⟩, link_id := .inl rfl }
  case h_3 optarg =>
    cases hopt
    obtain ⟨⟨hsize, hlen⟩, _⟩ := opt_path_route ⟨hvalid.path, hvalid.path_len⟩ optarg
    exact { hvalid with path := hsize, path_len := hlen }
  case h_4 =>
    obtain ⟨port, hport, rfl⟩ := Option.map_eq_some_iff.mp hopt
    exact { hvalid with port := parse_port_range hport }
  case h_5 =>
    obtain ⟨host, hresolve, rfl⟩ := Option.map_eq_some_iff.mp hopt
    exact { hvalid with host := hostFits_resolve hvalid.host hresolve }
  case h_6 => exact opt_client_valid hvalid hopt
  case h_7 =>
    cases hopt
    exact { hvalid with }
  case h_8 =>
    cases hopt
    exact { hvalid with pkt_throttle_usec := Nat.mod_lt _ (by decide) }
  case h_9 =>
    unfold opt_link_speed at hopt
    split at hopt
    · cases hopt
    · cases hopt
      exact { hvalid with sig_rate := by dsimp only; omega }
  case h_10 =>
    unfold opt_link_id at hopt
    split at hopt
    · cases hopt
    · cases hopt
      refine { hvalid with link_id := .inr ?_ }
      dsimp only [uint32]
      omega
  case h_16 => exact opt_gresb_valid hvalid hopt
  case h_18 =>
    cases hopt
    exact opt_rmap_valid hvalid _
  case h_19 => exact opt_monitor_valid hvalid hopt
  case h_22 => exact opt_sniff_valid hvalid hopt
  case h_23 => cases hopt
  all_goals
    cases hopt
    exact { hvalid with }

/-- A command line that is accepted leaves valid settings. -/
theorem parse_options_valid {cfg after : Settings} {opts : List Opt} (hvalid : cfg.Valid)
    (hparse : cfg.parse_options getaddrinfo opts = some after) : after.Valid := by
  induction opts generalizing cfg with
  | nil =>
    cases hparse
    exact hvalid
  | cons opt opts ih =>
    obtain ⟨mid, hopt, hrest⟩ := Option.bind_eq_some_iff.mp hparse
    exact ih (parse_option_valid hvalid hopt) hrest

end Settings

end spw_bridge
