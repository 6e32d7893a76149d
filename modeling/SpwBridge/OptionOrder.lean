import SpwBridge.Library.Latest
import SpwBridge.Options

open overwrites strings

namespace spw_bridge

/-- The settings with the link whose speed is set. -/
structure LinkCfg extends BridgeCfg where
  link_id : Nat

def link_cfg_init (path : List UInt8) : LinkCfg where
  toBridgeCfg := bridge_cfg_init path
  link_id := (bridge_cfg_init path).channel

section options

variable (resolves : List Char → Bool)

/-- The link id that an option leaves, where `cfg` are the settings behind it.
A channel option sets the link to its channel, a monitor option to its first
one. -/
def option_link_id (cfg : BridgeCfg) (link_id : Nat) : Char × Option (List Char) → Nat
  | ('c', some _) => cfg.channel
  | ('L', some optarg) => uint32 (strtol optarg 0).1
  | ('M', some _) => cfg.channel
  | _ => link_id

def parse_link_option (cfg : LinkCfg) (opt : Char × Option (List Char)) : Option LinkCfg :=
  (parse_option resolves cfg.toBridgeCfg opt).map fun after =>
    { toBridgeCfg := after, link_id := option_link_id after cfg.link_id opt }

def parse_link_options (cfg : LinkCfg) : List (Char × Option (List Char)) → Option LinkCfg
  | [] => some cfg
  | opt :: opts => (parse_link_option resolves cfg opt).bind fun cfg => parse_link_options cfg opts

/-- The link id beside them leaves the other settings as they are. -/
theorem parse_link_options_settings (cfg : LinkCfg) (opts : List (Char × Option (List Char))) :
    (parse_link_options resolves cfg opts).map LinkCfg.toBridgeCfg = parse_options resolves cfg.toBridgeCfg opts := by
  induction opts generalizing cfg with
  | nil => rfl
  | cons opt opts ih =>
    rw [parse_link_options, parse_options, parse_link_option]
    cases parse_option resolves cfg.toBridgeCfg opt with
    | none => rfl
    | some after =>
      rw [Option.map_some, Option.bind_some, Option.bind_some, ih]

end options

/-! ### What single options set -/

/-- The argument of a channel option. -/
def channel_arg : Char × Option (List Char) → Option Nat
  | ('c', some optarg) => some (uint32 (strtol optarg 0).1)
  | _ => none

/-- The argument of a link option. -/
def link_arg : Char × Option (List Char) → Option Nat
  | ('L', some optarg) => some (uint32 (strtol optarg 0).1)
  | _ => none

/-- The two channels of a monitor option. -/
def monitor_arg : Char × Option (List Char) → Option (Nat × Nat)
  | ('M', some optarg) =>
    some (uint32 (strtol optarg 0).1, uint32 (strtol (strtol optarg 0).2.tail 0).1)
  | _ => none

/-- What an option stores as the channel. -/
def stored_channel (opt : Char × Option (List Char)) : Option Nat :=
  ((monitor_arg opt).map Prod.fst).or (channel_arg opt)

/-- What an option stores as the link id. -/
def stored_link (opt : Char × Option (List Char)) : Option Nat := (link_arg opt).or (stored_channel opt)

theorem opt_monitor_stores {cfg after : BridgeCfg} {optarg : List Char} (hopt : opt_monitor cfg optarg = some after) :
    after.channel = uint32 (strtol optarg 0).1 ∧
      after.channel2 = uint32 (strtol (strtol optarg 0).2.tail 0).1 := by
  unfold opt_monitor at hopt
  split at hopt
  · rename_i chan1 chans hparse
    dsimp only at hopt
    split at hopt
    · cases hopt
      rw [hparse]
      exact ⟨rfl, rfl⟩
    · cases hopt
  · cases hopt

/-- Options other than the three leave the channels. -/
theorem parse_option_channels {resolves : List Char → Bool} {cfg after : BridgeCfg}
    {opt : Char × Option (List Char)} (hopt : parse_option resolves cfg opt = some after) :
    after.channel = (stored_channel opt).getD cfg.channel ∧
      after.channel2 = ((monitor_arg opt).map Prod.snd).getD cfg.channel2 := by
  cases parse_option_routes hopt with
  | path => exact ⟨rfl, rfl⟩
  | channel => exact ⟨rfl, rfl⟩
  | monitor hmonitor => exact opt_monitor_stores hmonitor
  | other _ hchannel hmonitor hsame =>
    have hchannels : channel_arg opt = none := by
      unfold channel_arg
      split
      · exact absurd rfl (hchannel _)
      · rfl
    have hmonitors : monitor_arg opt = none := by
      unfold monitor_arg
      split
      · exact absurd rfl (hmonitor _)
      · rfl
    rw [stored_channel, hchannels, hmonitors]
    exact ⟨hsame.channel, hsame.channel2⟩

/-- What one option sets. -/
theorem parse_link_option_sets {resolves : List Char → Bool} {cfg after : LinkCfg}
    {opt : Char × Option (List Char)} (hopt : parse_link_option resolves cfg opt = some after) :
    after.channel = (stored_channel opt).getD cfg.channel ∧
      after.channel2 = ((monitor_arg opt).map Prod.snd).getD cfg.channel2 ∧
      after.link_id = (stored_link opt).getD cfg.link_id := by
  obtain ⟨settings, hparse, hafter⟩ := Option.map_eq_some_iff.mp hopt
  obtain ⟨hchannel, hchannel2⟩ := parse_option_channels hparse
  subst hafter
  refine ⟨hchannel, hchannel2, ?_⟩
  change option_link_id settings cfg.link_id opt = _
  unfold option_link_id
  split
  case h_1 optarg => exact hchannel
  case h_2 optarg => rfl
  case h_3 optarg => exact hchannel
  case h_4 hchan hlink hmonitor => grind [stored_link, link_arg, stored_channel, monitor_arg, channel_arg]

/-- What a sequence of options leaves: the last option that stores a setting
decides it. -/
theorem parse_link_options_sets {resolves : List Char → Bool} {cfg after : LinkCfg}
    {opts : List (Char × Option (List Char))} (hparse : parse_link_options resolves cfg opts = some after) :
    after.channel = (latest stored_channel opts).getD cfg.channel ∧
      after.channel2 = (latest (fun opt => (monitor_arg opt).map Prod.snd) opts).getD cfg.channel2 ∧
      after.link_id = (latest stored_link opts).getD cfg.link_id := by
  induction opts generalizing cfg with
  | nil =>
    cases hparse
    exact ⟨rfl, rfl, rfl⟩
  | cons opt opts ih =>
    obtain ⟨mid, hopt, hrest⟩ := Option.bind_eq_some_iff.mp hparse
    obtain ⟨hchannel, hchannel2, hlink⟩ := parse_link_option_sets hopt
    obtain ⟨hchannel', hchannel2', hlink'⟩ := ih hrest
    refine ⟨?_, ?_, ?_⟩
    · rw [hchannel', hchannel, latest_cons_getD]
    · rw [hchannel2', hchannel2, latest_cons_getD]
    · rw [hlink', hlink, latest_cons_getD]

/-! ### The order of the options -/

/-- Each letter decides for itself: the last link option the link id, without
one the first monitor channel or the channel, and the last monitor option both
channels. -/
structure SetByLetter (opts : List (Char × Option (List Char))) (cfg : LinkCfg) : Prop where
  link_id : cfg.link_id =
    (latest link_arg opts).getD (((latest monitor_arg opts).map Prod.fst).getD cfg.channel)
  monitor : ∀ chans, latest monitor_arg opts = some chans → cfg.channel = chans.1 ∧ cfg.channel2 = chans.2

/-- No option that stands last overwrites a setting of another letter with a
different number: of the channel and monitor options behind the last link option
the last one names that link, and the last of the channel options behind the last
monitor option names its first channel. -/
structure OrderHarmless (opts : List (Char × Option (List Char))) : Prop where
  link : ∀ before opt behind link_id, opts = before ++ opt :: behind → link_arg opt = some link_id →
    latest link_arg behind = none → ∀ channel, latest stored_channel behind = some channel → channel = link_id
  monitor : ∀ before opt behind chans, opts = before ++ opt :: behind → monitor_arg opt = some chans →
    latest monitor_arg behind = none → ∀ channel, latest channel_arg behind = some channel → channel = chans.1

theorem stored_channel_split {before behind : List (Char × Option (List Char))} {opt : Char × Option (List Char)}
    {chans : Nat × Nat} (hopt : monitor_arg opt = some chans) (hbehind : latest monitor_arg behind = none) :
    latest stored_channel (before ++ opt :: behind) = (latest channel_arg behind).or (some chans.1) := by
  apply latest_or_split
  · rw [hopt]
    rfl
  · rw [latest_map, hbehind]
    rfl

/-- Where the order is harmless, each letter decides for itself, and nowhere
else. -/
theorem setByLetter_iff {resolves : List Char → Bool} {path : List UInt8} {cfg : LinkCfg}
    {opts : List (Char × Option (List Char))}
    (hparse : parse_link_options resolves (link_cfg_init path) opts = some cfg) :
    SetByLetter opts cfg ↔ OrderHarmless opts := by
  obtain ⟨hchannel, hchannel2, hlink⟩ := parse_link_options_sets hparse
  constructor
  · intro hset
    constructor
    case link =>
      intro before opt behind link_id hopts hopt hbehind channel hlast
      have hexpected : latest link_arg opts = some link_id := by
        rw [hopts, latest_append, latest_cons, hbehind, hopt]
        rfl
      have hstored : latest stored_link opts = some channel := by
        rw [hopts]
        change latest (fun opt => (link_arg opt).or (stored_channel opt)) _ = _
        rw [latest_or_split hopt hbehind, hlast]
        rfl
      have hid := hset.link_id
      rw [hlink, hstored, hexpected] at hid
      exact hid
    case monitor =>
      intro before opt behind chans hopts hopt hbehind channel hlast
      have hexpected : latest monitor_arg opts = some chans := by
        rw [hopts, latest_append, latest_cons, hbehind, hopt]
        rfl
      obtain ⟨hfirst, _⟩ := hset.monitor chans hexpected
      rw [hchannel, hopts, stored_channel_split hopt hbehind, hlast] at hfirst
      exact hfirst
  · intro hharmless
    have hmonitor : ∀ chans, latest monitor_arg opts = some chans → cfg.channel = chans.1 ∧ cfg.channel2 = chans.2 := by
      intro chans hchans
      obtain ⟨before, opt, behind, hopts, hopt, hbehind⟩ := exists_of_latest hchans
      constructor
      · have hkept := hharmless.monitor before opt behind chans hopts hopt hbehind
        rw [hchannel, hopts, stored_channel_split hopt hbehind]
        cases hlast : latest channel_arg behind with
        | none => rfl
        | some channel => exact hkept channel hlast
      · rw [hchannel2, latest_map, hchans]
        rfl
    refine ⟨?_, hmonitor⟩
    cases hlinks : latest link_arg opts with
    | some link_id =>
      obtain ⟨before, opt, behind, hopts, hopt, hbehind⟩ := exists_of_latest hlinks
      have hkept := hharmless.link before opt behind link_id hopts hopt hbehind
      rw [hlink, hopts]
      change (latest (fun opt => (link_arg opt).or (stored_channel opt)) _).getD _ = _
      rw [latest_or_split hopt hbehind]
      cases hlast : latest stored_channel behind with
      | none => rfl
      | some channel => exact hkept channel hlast
    | none =>
      -- without a link option the link id follows the channel
      have hfollows : cfg.link_id = cfg.channel := by
        rw [hlink, hchannel]
        change (latest (fun opt => (link_arg opt).or (stored_channel opt)) opts).getD _ = _
        rw [latest_or_of_none stored_channel hlinks]
        rfl
      cases hchans : latest monitor_arg opts with
      | none => exact hfollows
      | some chans =>
        obtain ⟨hfirst, _⟩ := hmonitor chans hchans
        exact hfollows.trans hfirst

/-- Two sequences have the same options of each letter, in the same order. -/
def SameByLetter (opts opts' : List (Char × Option (List Char))) : Prop :=
  ∀ letter, opts.filter (fun opt => opt.1 == letter) = opts'.filter fun opt => opt.1 == letter

/-- What the options of one letter set is the same for both. -/
theorem latest_of_letter {B : Type} {f : Char × Option (List Char) → Option B} {letter : Char}
    {opts opts' : List (Char × Option (List Char))} (hf : ∀ opt, (opt.1 == letter) = false → f opt = none)
    (hsame : SameByLetter opts opts') : latest f opts = latest f opts' := by
  rw [← latest_filter hf opts, ← latest_filter hf opts', hsame letter]

theorem channel_arg_letter (opt : Char × Option (List Char)) (hletter : (opt.1 == 'c') = false) :
    channel_arg opt = none := by
  unfold channel_arg
  split
  · cases hletter
  · rfl

theorem link_arg_letter (opt : Char × Option (List Char)) (hletter : (opt.1 == 'L') = false) :
    link_arg opt = none := by
  unfold link_arg
  split
  · cases hletter
  · rfl

theorem monitor_arg_letter (opt : Char × Option (List Char)) (hletter : (opt.1 == 'M') = false) :
    monitor_arg opt = none := by
  unfold monitor_arg
  split
  · cases hletter
  · rfl

/-- Settings that each letter decides for itself do not depend on how the
letters are mixed. -/
theorem SetByLetter.same {resolves : List Char → Bool} {path : List UInt8} {cfg cfg' : LinkCfg}
    {opts opts' : List (Char × Option (List Char))}
    (hparse : parse_link_options resolves (link_cfg_init path) opts = some cfg)
    (hparse' : parse_link_options resolves (link_cfg_init path) opts' = some cfg')
    (hset : SetByLetter opts cfg) (hset' : SetByLetter opts' cfg') (hsame : SameByLetter opts opts') :
    cfg'.link_id = cfg.link_id ∧ cfg'.channel = cfg.channel ∧ cfg'.channel2 = cfg.channel2 := by
  obtain ⟨hchannel, hchannel2, _⟩ := parse_link_options_sets hparse
  obtain ⟨hchannel', hchannel2', _⟩ := parse_link_options_sets hparse'
  have hchan := latest_of_letter channel_arg_letter hsame
  have hlink := latest_of_letter link_arg_letter hsame
  have hmonitor := latest_of_letter monitor_arg_letter hsame
  have hfirst : cfg'.channel = cfg.channel := by
    cases hchans : latest monitor_arg opts with
    | some chans => rw [(hset.monitor chans hchans).1, (hset'.monitor chans (hmonitor ▸ hchans)).1]
    | none =>
      have hnone : latest (fun opt => (monitor_arg opt).map Prod.fst) opts = none := by rw [latest_map, hchans]; rfl
      have hnone' : latest (fun opt => (monitor_arg opt).map Prod.fst) opts' = none := by
        rw [latest_map, ← hmonitor, hchans]
        rfl
      rw [hchannel, hchannel']
      change (latest (fun opt => ((monitor_arg opt).map Prod.fst).or (channel_arg opt)) _).getD _ =
        (latest (fun opt => ((monitor_arg opt).map Prod.fst).or (channel_arg opt)) _).getD _
      rw [latest_or_of_none channel_arg hnone, latest_or_of_none channel_arg hnone', hchan]
  refine ⟨?_, hfirst, ?_⟩
  · rw [hset.link_id, hset'.link_id, hlink, hmonitor, hfirst]
  · rw [hchannel2, hchannel2', latest_map, latest_map, hmonitor]

/-- Each letter decides for itself exactly where the order of the options is
harmless; and any two such sequences with the same options of each letter leave
the same settings. -/
theorem option_order_iff (resolves : List Char → Bool) (path : List UInt8)
    (opts : List (Char × Option (List Char))) (cfg : LinkCfg)
    (hparse : parse_link_options resolves (link_cfg_init path) opts = some cfg) :
    (SetByLetter opts cfg ↔ OrderHarmless opts) ∧
      ∀ opts' cfg', parse_link_options resolves (link_cfg_init path) opts' = some cfg' →
        SameByLetter opts opts' → OrderHarmless opts → OrderHarmless opts' →
        cfg'.link_id = cfg.link_id ∧ cfg'.channel = cfg.channel ∧ cfg'.channel2 = cfg.channel2 := by
  refine ⟨setByLetter_iff hparse, ?_⟩
  intro opts' cfg' hparse' hsame hharmless hharmless'
  exact SetByLetter.same hparse hparse' ((setByLetter_iff hparse).mpr hharmless)
    ((setByLetter_iff hparse').mpr hharmless') hsame

/-- A channel option that names the first monitor channel may stand behind the
monitor option. -/
theorem option_order_swapped :
    ∃ cfg cfg',
      parse_link_options (fun _ => true) (link_cfg_init [])
        [('c', some ['1']), ('M', some ['1', ':', '2']), ('L', some ['3'])] = some cfg ∧
      parse_link_options (fun _ => true) (link_cfg_init [])
        [('M', some ['1', ':', '2']), ('c', some ['1']), ('L', some ['3'])] = some cfg' ∧
      cfg'.link_id = cfg.link_id ∧ cfg'.channel = cfg.channel ∧ cfg'.channel2 = cfg.channel2 := by
  obtain ⟨hset, hsettings⟩ := option_order_iff (fun _ => true) []
    [('c', some ['1']), ('M', some ['1', ':', '2']), ('L', some ['3'])] _ rfl
  obtain ⟨hset', _⟩ := option_order_iff (fun _ => true) []
    [('M', some ['1', ':', '2']), ('c', some ['1']), ('L', some ['3'])] _ rfl
  have hsame : SameByLetter [('c', some ['1']), ('M', some ['1', ':', '2']), ('L', some ['3'])]
      [('M', some ['1', ':', '2']), ('c', some ['1']), ('L', some ['3'])] := by
    intro letter
    by_cases hletter : 'c' = letter
    · subst hletter
      rfl
    · have hother : ('c' == letter) = false := by simpa using hletter
      simp [List.filter_cons, hother]
  have hharmless := hset.mp ⟨rfl, fun chans hchans => by cases hchans; exact ⟨rfl, rfl⟩⟩
  have hharmless' := hset'.mp ⟨rfl, fun chans hchans => by cases hchans; exact ⟨rfl, rfl⟩⟩
  exact ⟨_, _, rfl, rfl, hsettings _ _ rfl hsame hharmless hharmless'⟩

/-- A link option in front of a channel option is lost. -/
theorem option_order_matters :
    ¬ ∀ (resolves : List Char → Bool) (path : List UInt8) (opts : List (Char × Option (List Char))) (cfg : LinkCfg),
      parse_link_options resolves (link_cfg_init path) opts = some cfg → SetByLetter opts cfg := by
  intro hall
  have hset := hall (fun _ => true) [] [('L', some ['5']), ('c', some ['2'])] _ rfl
  have hlink : 2 = 5 := hset.link_id
  omega

end spw_bridge
