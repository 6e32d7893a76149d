import SpwBridge.Config
import SpwBridge.Library.Strings

open strings

namespace spw_bridge

def GRESB_VLINK_MAX : Int := 5

/-- A value of `strtol` stored as 32 bits. -/
def uint32 (tmp : Int) : Nat := (tmp % 2 ^ 32).toNat

def opt_channel (cfg : BridgeCfg) (optarg : List Char) : BridgeCfg :=
  { cfg with channel := uint32 (strtol optarg 0).1 }

/-- Store the nodes of a list behind the first `len` ones, as far as there is
room. A node is truncated to a byte. -/
def parse_path (max_nodes : Nat) : List (List Char) → List UInt8 → Nat → List UInt8 × Nat
  | [], path, len => (path, len)
  | node_addr :: nodes, path, len =>
    if max_nodes ≤ len then (path, len)
    else parse_path max_nodes nodes (path.set len (UInt8.ofInt (strtol node_addr 16).1)) (len + 1)

def opt_path (cfg : BridgeCfg) (optarg : List Char) : BridgeCfg :=
  let parsed := parse_path 256 (tokens ':' optarg) cfg.path cfg.path_len
  { cfg with path := parsed.1, path_len := parsed.2 }

/-- Whether a port is valid. -/
def parse_port (arg : List Char) : Bool := 1 ≤ (strtol arg 0).1 && (strtol arg 0).1 ≤ 65535

section options

-- whether `getaddrinfo` finds a host
variable (resolves : List Char → Bool)

/-- Client mode. The host is resolved from the argument that `strtok` has cut
behind the first token. -/
def opt_client (cfg : BridgeCfg) (optarg : List Char) : Option BridgeCfg :=
  match tokens ':' optarg with
  | host :: port :: _ =>
    if parse_port port && resolves (optarg.takeWhile (· = ':') ++ host) then some { cfg with mode := .MODE_CLIENT }
    else none
  | _ => none

def opt_skip_header (cfg : BridgeCfg) (optarg : List Char) : BridgeCfg :=
  { cfg with skip_header_bytes := (strtol optarg 0).1.toNat }

/-- Whether a link speed is accepted. -/
def opt_link_speed (optarg : List Char) : Bool := 2 ≤ strtoul optarg 0 && strtoul optarg 0 ≤ 400

/-- Whether a link id is accepted. -/
def opt_link_id (optarg : List Char) : Bool := 0 ≤ (strtol optarg 0).1 && (strtol optarg 0).1 ≤ 255

def opt_gresb (cfg : BridgeCfg) : Option (List Char) → Option BridgeCfg
  | none => some { cfg with enable_gresb := true }
  | some optarg =>
    let (link, endp) := strtol optarg 0
    if endp = [] ∧ 0 ≤ link ∧ link ≤ GRESB_VLINK_MAX then some { cfg with enable_gresb := true } else none

def opt_sniff (cfg : BridgeCfg) : Option (List Char) → Option BridgeCfg
  | none => some { cfg with enable_sniff := true }
  | some optarg => if optarg = ['g'] then some { cfg with sniff_gresb := true, enable_sniff := true } else none

/-- Monitor mode on two channels, each given by at least one character. -/
def opt_monitor (cfg : BridgeCfg) (optarg : List Char) : Option BridgeCfg :=
  match strtol optarg 0 with
  | (chan1, ':' :: chans) =>
    let (chan2, endp) := strtol chans 0
    if ':' :: chans ≠ optarg ∧ endp = [] ∧ chans ≠ [] then
      some { cfg with channel := uint32 chan1, channel2 := uint32 chan2, enable_monitor := true }
    else none
  | _ => none

/-- What one option of the command line does, given by its letter and its
argument. Without a result the process exits: the option is unknown, asks for
help, lacks its argument or has an invalid one. -/
def parse_option (cfg : BridgeCfg) : Char × Option (List Char) → Option BridgeCfg
  | ('i', some _) => some cfg
  | ('c', some optarg) => some (opt_channel cfg optarg)
  | ('n', some optarg) => some (opt_path cfg optarg)
  | ('p', some optarg) => if parse_port optarg then some cfg else none
  | ('s', some optarg) => if resolves optarg then some cfg else none
  | ('r', some optarg) => opt_client resolves cfg optarg
  | ('d', some optarg) => some (opt_skip_header cfg optarg)
  | ('t', some _) => some cfg
  | ('S', some optarg) => if opt_link_speed optarg then some cfg else none
  | ('L', some optarg) => if opt_link_id optarg then some cfg else none
  | ('P', none) => some { cfg with interpret_pus := true }
  | ('D', none) => some cfg
  | ('N', none) => some cfg
  | ('C', none) => some cfg
  | ('F', none) => some { cfg with interpret_fee := true }
  | ('G', optarg) => opt_gresb cfg optarg
  | ('u', none) => some { cfg with mode := .MODE_DGRAM }
  | ('R', none) => some { cfg with enable_rmap := true }
  | ('M', some optarg) => opt_monitor cfg optarg
  | ('E', none) => some cfg
  | ('X', none) => some cfg
  | ('W', optarg) => opt_sniff cfg optarg
  | _ => none

/-- The settings after a list of options. -/
def parse_options (cfg : BridgeCfg) : List (Char × Option (List Char)) → Option BridgeCfg
  | [] => some cfg
  | opt :: opts => (parse_option resolves cfg opt).bind fun cfg => parse_options cfg opts

end options

/-! ### The routing path -/

/-- The nodes that an option adds to the routing path. -/
def nodes : Char × Option (List Char) → List UInt8
  | ('n', some optarg) => (tokens ':' optarg).map fun node_addr => UInt8.ofInt (strtol node_addr 16).1
  | _ => []

/-- The routing path of the settings. -/
def BridgeCfg.route (cfg : BridgeCfg) : List UInt8 := cfg.path.take cfg.path_len

/-- The array of the routing path and the part of it that is in use. -/
structure RouteFits (cfg : BridgeCfg) : Prop where
  size : cfg.path.length = 256
  path_len : cfg.path_len ≤ 256

/-- The routing path of a list of options: the nodes in their order, as many as
the array holds. -/
def route (opts : List (Char × Option (List Char))) : List UInt8 := (opts.flatMap nodes).take 256

/-- Cutting a prefix early loses nothing of the cut. -/
theorem take_take_append (n : Nat) (front back : List UInt8) :
    ((front.take n) ++ back).take n = (front ++ back).take n := by
  rw [List.take_append, List.take_append, List.take_take, Nat.min_self, List.length_take]
  rcases Nat.le_total n front.length with hle | hle
  · rw [Nat.min_eq_left hle, Nat.sub_self, Nat.sub_eq_zero_of_le hle]
  · rw [Nat.min_eq_right hle]

theorem take_set_succ {path : List UInt8} {len : Nat} (hlen : len < path.length) (node : UInt8) :
    (path.set len node).take (len + 1) = path.take len ++ [node] := by
  rw [List.take_succ_eq_append_getElem (by simpa using hlen), List.getElem_set_self,
    List.take_set_of_le (Nat.le_refl len)]

/-- The array keeps its size, and the nodes go behind those it has. -/
theorem parse_path_spec {max_nodes : Nat} (list : List (List Char)) {path : List UInt8} {len : Nat}
    (hsize : path.length = max_nodes) (hlen : len ≤ max_nodes) :
    (parse_path max_nodes list path len).1.length = max_nodes ∧ (parse_path max_nodes list path len).2 ≤ max_nodes ∧
      (parse_path max_nodes list path len).1.take (parse_path max_nodes list path len).2 =
        (path.take len ++ list.map fun node_addr => UInt8.ofInt (strtol node_addr 16).1).take max_nodes := by
  induction list generalizing path len with
  | nil =>
    have hshort : (path.take len).length ≤ max_nodes := by
      rw [List.length_take]
      omega
    simp [parse_path, hsize, hlen, List.take_of_length_le hshort]
  | cons node_addr list ih =>
    rw [parse_path]
    split_ifs with hfull
    · obtain rfl : len = max_nodes := Nat.le_antisymm hlen hfull
      have hwhole : (path.take len).length = len := by rw [List.length_take, hsize, Nat.min_self]
      exact ⟨hsize, hlen, by rw [List.take_append_of_le_length (Nat.le_of_eq hwhole.symm), List.take_take,
        Nat.min_self]⟩
    · have hroom : len < path.length := hsize ▸ Nat.lt_of_not_le hfull
      have hset : (path.set len (UInt8.ofInt (strtol node_addr 16).1)).length = max_nodes := by simpa using hsize
      obtain ⟨hsize', hlen', htake⟩ := ih hset (hsize ▸ hroom : len + 1 ≤ max_nodes)
      exact ⟨hsize', hlen', by rw [htake, take_set_succ hroom, List.append_assoc, List.map_cons, List.singleton_append]⟩

theorem opt_path_route {cfg : BridgeCfg} (hfits : RouteFits cfg) (optarg : List Char) :
    RouteFits (opt_path cfg optarg) ∧
      (opt_path cfg optarg).route = (cfg.route ++ nodes ('n', some optarg)).take 256 := by
  obtain ⟨hsize, hlen, htake⟩ := parse_path_spec (tokens ':' optarg) hfits.size hfits.path_len
  exact ⟨⟨hsize, hlen⟩, htake⟩

theorem RouteFits.take_route {cfg : BridgeCfg} (hfits : RouteFits cfg) : cfg.route.take 256 = cfg.route := by
  apply List.take_of_length_le
  have := hfits.path_len
  rw [BridgeCfg.route, List.length_take]
  omega

/-- The settings that few options change are the same. -/
structure SameRoute (cfg after : BridgeCfg) : Prop where
  path : after.path = cfg.path
  path_len : after.path_len = cfg.path_len
  channel : after.channel = cfg.channel
  channel2 : after.channel2 = cfg.channel2

theorem opt_client_same {resolves : List Char → Bool} {cfg after : BridgeCfg} {optarg : List Char}
    (hopt : opt_client resolves cfg optarg = some after) : SameRoute cfg after := by
  unfold opt_client at hopt
  split at hopt
  · split at hopt
    · cases hopt
      exact ⟨rfl, rfl, rfl, rfl⟩
    · cases hopt
  · cases hopt

theorem opt_gresb_same {cfg after : BridgeCfg} {optarg : Option (List Char)}
    (hopt : opt_gresb cfg optarg = some after) : SameRoute cfg after := by
  cases optarg with
  | none =>
    cases hopt
    exact ⟨rfl, rfl, rfl, rfl⟩
  | some optarg =>
    simp only [opt_gresb] at hopt
    split at hopt
    · cases hopt
      exact ⟨rfl, rfl, rfl, rfl⟩
    · cases hopt

theorem opt_sniff_same {cfg after : BridgeCfg} {optarg : Option (List Char)}
    (hopt : opt_sniff cfg optarg = some after) : SameRoute cfg after := by
  cases optarg with
  | none =>
    cases hopt
    exact ⟨rfl, rfl, rfl, rfl⟩
  | some optarg =>
    simp only [opt_sniff] at hopt
    split at hopt
    · cases hopt
      exact ⟨rfl, rfl, rfl, rfl⟩
    · cases hopt

/-- What an accepted option does to the path and the channels. -/
inductive Routes (cfg : BridgeCfg) : Char × Option (List Char) → BridgeCfg → Prop
  | path (optarg : List Char) : Routes cfg ('n', some optarg) (opt_path cfg optarg)
  | channel (optarg : List Char) : Routes cfg ('c', some optarg) (opt_channel cfg optarg)
  | monitor {optarg : List Char} {after : BridgeCfg} (hopt : opt_monitor cfg optarg = some after) :
      Routes cfg ('M', some optarg) after
  | other {opt : Char × Option (List Char)} {after : BridgeCfg} (hpath : ∀ optarg, opt ≠ ('n', some optarg))
      (hchannel : ∀ optarg, opt ≠ ('c', some optarg)) (hmonitor : ∀ optarg, opt ≠ ('M', some optarg))
      (hsame : SameRoute cfg after) : Routes cfg opt after

theorem parse_option_routes {resolves : List Char → Bool} {cfg after : BridgeCfg} {opt : Char × Option (List Char)}
    (hopt : parse_option resolves cfg opt = some after) : Routes cfg opt after := by
  unfold parse_option at hopt
  split at hopt
  case h_2 optarg =>
    cases hopt
    exact .channel optarg
  case h_3 optarg =>
    cases hopt
    exact .path optarg
  case h_19 optarg => exact .monitor hopt
  case h_6 => exact .other (by simp) (by simp) (by simp) (opt_client_same hopt)
  case h_16 => exact .other (by simp) (by simp) (by simp) (opt_gresb_same hopt)
  case h_22 => exact .other (by simp) (by simp) (by simp) (opt_sniff_same hopt)
  case h_4 | h_5 | h_9 | h_10 =>
    split at hopt
    · cases hopt
      exact .other (by simp) (by simp) (by simp) ⟨rfl, rfl, rfl, rfl⟩
    · cases hopt
  case h_23 => cases hopt
  all_goals
    cases hopt
    exact .other (by simp) (by simp) (by simp) ⟨rfl, rfl, rfl, rfl⟩

/-- Every option but the path leaves the path. -/
theorem parse_option_keeps {resolves : List Char → Bool} {cfg cfg' : BridgeCfg} {opt : Char × Option (List Char)}
    (hother : ∀ optarg, opt ≠ ('n', some optarg)) (hopt : parse_option resolves cfg opt = some cfg') :
    cfg'.path = cfg.path ∧ cfg'.path_len = cfg.path_len ∧ nodes opt = [] := by
  have hnodes : nodes opt = [] := by
    unfold nodes
    split
    · exact absurd rfl (hother _)
    · rfl
  have hkept : cfg'.path = cfg.path ∧ cfg'.path_len = cfg.path_len := by
    cases parse_option_routes hopt with
    | path optarg => exact absurd rfl (hother optarg)
    | channel => exact ⟨rfl, rfl⟩
    | monitor hmonitor => grind [opt_monitor]
    | other _ _ _ hsame => exact ⟨hsame.path, hsame.path_len⟩
  exact ⟨hkept.1, hkept.2, hnodes⟩

/-- An option adds its nodes. -/
theorem parse_option_route {resolves : List Char → Bool} {cfg cfg' : BridgeCfg} (hfits : RouteFits cfg)
    {opt : Char × Option (List Char)} (hopt : parse_option resolves cfg opt = some cfg') :
    RouteFits cfg' ∧ cfg'.route = (cfg.route ++ nodes opt).take 256 := by
  by_cases hpath : ∃ optarg, opt = ('n', some optarg)
  · obtain ⟨optarg, rfl⟩ := hpath
    cases hopt
    exact opt_path_route hfits optarg
  · obtain ⟨hsame, hlen, hnodes⟩ := parse_option_keeps (fun optarg heq => hpath ⟨optarg, heq⟩) hopt
    have hroute : cfg'.route = cfg.route := by rw [BridgeCfg.route, BridgeCfg.route, hsame, hlen]
    exact ⟨⟨hsame ▸ hfits.size, hlen ▸ hfits.path_len⟩, by rw [hroute, hnodes, List.append_nil, hfits.take_route]⟩

theorem parse_options_route {resolves : List Char → Bool} {cfg cfg' : BridgeCfg} (hfits : RouteFits cfg)
    {opts : List (Char × Option (List Char))} (hparse : parse_options resolves cfg opts = some cfg') :
    cfg'.route = (cfg.route ++ opts.flatMap nodes).take 256 := by
  induction opts generalizing cfg with
  | nil =>
    cases hparse
    rw [List.flatMap_nil, List.append_nil, hfits.take_route]
  | cons opt opts ih =>
    obtain ⟨mid, hopt, hrest⟩ := Option.bind_eq_some_iff.mp hparse
    obtain ⟨hfits', hroute⟩ := parse_option_route hfits hopt
    rw [ih hfits' hrest, hroute, List.flatMap_cons, ← List.append_assoc, take_take_append]

/-- The options of a command line configure the path of its nodes. -/
theorem route_eq {resolves : List Char → Bool} {path : List UInt8} (hsize : path.length = 256) {cfg : BridgeCfg}
    {opts : List (Char × Option (List Char))}
    (hparse : parse_options resolves (bridge_cfg_init path) opts = some cfg) : cfg.route = route opts := by
  have hfits : RouteFits (bridge_cfg_init path) := ⟨hsize, Nat.zero_le _⟩
  rw [parse_options_route hfits hparse]
  rfl

end spw_bridge
