import SpwBridge.Library.Runs
import SpwBridge.Net.ClientStreams
import SpwBridge.Net.Frames
import SpwBridge.Net.Peers

open effect runs spw_bridge.net

namespace spw_bridge

variable {σ : Type}

/-- The services that `net_start` starts. -/
def Started (cfg : BridgeCfg) : SvcId → Prop
  | .data => True
  | .rmap => cfg.enable_rmap = true
  | .gresb_tx | .gresb_rx => cfg.enable_gresb = true ∧ cfg.mode = .MODE_SERVER
  | .sniff => cfg.enable_sniff = true

/-- The events that the threads of a client react to. -/
def Enabled (cfg : BridgeCfg) (w : World σ) : BridgeEvent → Prop
  | .spw _ _ => True
  | .net id fd => Started cfg id ∧ fd ∈ (w.svc id).conn_set
  | .accept id _ => Started cfg id ∧ id ≠ .data

/-- The data service has no connection but the one that `connect_client_socket`
made. -/
def Linked (sock : Nat) (w : World σ) : Prop := (w.svc .data).conn_set ⊆ {sock}

/-- An event handled without `exit()`. -/
def NoExit (E : Env σ) (cfg : BridgeCfg) (w : World σ) (event : BridgeEvent) : Prop :=
  ∀ after, handle_event E cfg event w ≠ .error .exit after

/-- The connection on a descriptor delivers an end of file or an error. That
nothing arrives in time and that a call is interrupted are no errors of it. -/
inductive Answer.Breaks (sock : Nat) : Answer → Prop
  | eof (n : Nat) (flags : RecvFlags) : Breaks sock (.recv sock n flags (.bytes []))
  | recv_error (n : Nat) (flags : RecvFlags) {errno : Errno} (herrno : ¬ (errno = .EAGAIN ∨ errno = .EINTR)) :
      Breaks sock (.recv sock n flags (.error errno))
  | send_error {errno : Errno} (herrno : errno ≠ .EINTR) : Breaks sock (.send sock (.error errno))

/-- What else can end the process in an event: a send to a client of the sniffer
fails, or such a client is gone when what it sends is discarded; on the data
connection the header has not arrived whole, nothing has arrived, a call is
interrupted or times out, memory or the time for a packet has run out; and a call
that transmits fails. -/
inductive Spoils (w : World σ) : BridgeEvent → Answer → Prop
  | sniffed (event : BridgeEvent) {fd : Nat} {errno : Errno} (hfd : fd ∈ (w.svc .sniff).conn_set)
      (herrno : errno ≠ .EINTR) : Spoils w event (.send fd (.error errno))
  | discarded {fd n : Nat} {flags : RecvFlags} {r : RecvResult} (hbytes : ∀ b bs, r ≠ .bytes (b :: bs))
      (hmore : r ≠ .error .EAGAIN) : Spoils w (.net .sniff fd) (.recv fd n flags r)
  | header {fd n : Nat} {flags : RecvFlags} {bs : List UInt8} (hpeek : flags.peek = true) (hshort : bs.length ≠ n) :
      Spoils w (.net .data fd) (.recv fd n flags (.bytes bs))
  | interrupted {fd n : Nat} {flags : RecvFlags} {errno : Errno} (herrno : errno = .EAGAIN ∨ errno = .EINTR) :
      Spoils w (.net .data fd) (.recv fd n flags (.error errno))
  | nothing {fd : Nat} {avail : Option Nat} (havail : ∀ n, avail ≠ some (n + 1)) :
      Spoils w (.net .data fd) (.fionread fd avail)
  | malloc (fd : Nat) : Spoils w (.net .data fd) (.malloc false)
  | deadline (fd : Nat) : Spoils w (.net .data fd) (.deadline_expired true)
  | transmission (event : BridgeEvent) : Spoils w event (.transmission false)

theorem receiveFaults_data (w : World σ) (sock : Nat) :
    ReceiveFaults (fun a => a.Breaks sock ∨ Spoils w (.net .data sock) a) sock := by
  have herror : ∀ n flags errno, (Answer.recv sock n flags (.error errno)).Breaks sock ∨
      Spoils w (.net .data sock) (.recv sock n flags (.error errno)) := by
    intro n flags errno
    by_cases herrno : errno = .EAGAIN ∨ errno = .EINTR
    · exact .inr (.interrupted herrno)
    · exact .inl (.recv_error n flags herrno)
  constructor
  · intro n flags r hpeek hshort
    cases r with
    | bytes bs => exact .inr (.header hpeek (hshort bs rfl))
    | error errno => exact herror n flags errno
  · intro n r hbytes
    match r with
    | .bytes [] => exact .inl (.eof n .none)
    | .bytes (b :: bs) => exact absurd rfl (hbytes b bs)
    | .error errno => exact herror n .none errno
  · exact fun avail havail => .inr (.nothing havail)
  · exact .inr (.malloc sock)
  · exact .inr (.deadline sock)

/-- An event of a client that ends the process has an answer to blame for it. -/
theorem handle_event_blamed {E : Env σ} {cfg : BridgeCfg} (hmode : cfg.mode = .MODE_CLIENT) {sock : Nat} {w : World σ}
    (hlinked : Linked sock w) {event : BridgeEvent} (henabled : Enabled cfg w event) :
    wp (handle_event (traced E) cfg event) (fun _ _ => True) (Blamed fun a => a.Breaks sock ∨ Spoils w event a)
      w.traced := by
  have hsniff : SendFaults (fun a => a.Breaks sock ∨ Spoils w event a) .sniff w.traced :=
    fun fd hfd errno herrno => .inr (.sniffed event hfd herrno)
  have hdata : SendFaults (fun a => a.Breaks sock ∨ Spoils w event a) .data w.traced := by
    intro fd hfd errno herrno
    obtain rfl := Finset.mem_singleton.mp (hlinked hfd)
    exact .inl (.send_error herrno)
  cases event with
  | accept id fd => exact trivial
  | spw chan pkt => exact pkt_sink_blamed hmode hsniff hdata (.inr (.transmission _)) chan pkt.val
  | net id fd =>
    obtain ⟨hstarted, hmem⟩ := henabled
    cases id with
    | data =>
      obtain rfl := Finset.mem_singleton.mp (hlinked hmem)
      exact net_to_spw_blamed (receiveFaults_data w fd) hsniff (.inr (.transmission _))
    | rmap => exact blamed_of_not_exit (rmap_net_to_spw_not_exit fd)
    | gresb_tx | gresb_rx => exact absurd (hstarted.2.symm.trans hmode) (by decide)
    | sniff => exact gresb_rx_discard_blamed fun n flags r hbytes hmore => .inr (.discarded hbytes hmore)

/-- What happens to a running client: an event, or a change outside, such as a
peer that goes away or data that arrives. -/
inductive ClientStep (σ : Type)
  | event (event : BridgeEvent)
  | outside (s : σ)

def clientStep (E : Env σ) (cfg : BridgeCfg) (w : World σ) : ClientStep σ → World σ
  | .event event => (stepEvent E cfg w event).1
  | .outside s => { w with env := s }

/-- The steps of a client on whose data connection no call of them meets an end of
file or an error. -/
def Possible (E : Env σ) (cfg : BridgeCfg) (sock : Nat) (w : World σ) : ClientStep σ → Prop
  | .event event => Enabled cfg w event ∧ ∀ a ∈ answers E cfg w event, ¬ a.Breaks sock
  | .outside _ => True

theorem stepEvent_linked {E : Env σ} {cfg : BridgeCfg} {sock : Nat} {w : World σ} (hlinked : Linked sock w)
    {event : BridgeEvent} (henabled : Enabled cfg w event) : Linked sock (stepEvent E cfg w event).1 := by
  have hshrinks : ∀ {x : Prog σ Unit}, Within Shrinks x → handle_event E cfg event = x →
      Linked sock (stepEvent E cfg w event).1 := by
    rintro x hx rfl
    apply stepEvent_of_wp fun after _ => Linked sock after
    have hkept : ∀ after, Shrinks w after → Linked sock after := fun after h => (h .data).2.trans hlinked
    exact wp_mono (hx.wp w) (fun _ => hkept) fun _ => hkept
  cases event with
  | spw chan pkt => exact hshrinks (pkt_sink_shrinks E cfg chan pkt.val) rfl
  | net id fd => exact hshrinks (handle_pkt_shrinks E cfg id fd) rfl
  | accept id fd =>
    have hother : .data ≠ id := Ne.symm henabled.2
    apply stepEvent_of_wp fun after _ => Linked sock after
    rw [handle_event, wp_modify_svc]
    simpa [Linked, Function.update_of_ne hother] using hlinked

def StepNoExit (E : Env σ) (cfg : BridgeCfg) (w : World σ) : ClientStep σ → Prop
  | .event event => NoExit E cfg w event
  | .outside _ => True

/-- The other calls of a step do not spoil it either. -/
def StepSpares (E : Env σ) (cfg : BridgeCfg) (w : World σ) : ClientStep σ → Prop
  | .event event => ∀ a ∈ answers E cfg w event, ¬ Spoils w event a
  | .outside _ => True

/-- In every run of a client none of whose calls meets an end of file or an error
on the data connection, nor what else can end the process, no event ends it. -/
theorem client_run_no_exit {E : Env σ} {cfg : BridgeCfg} (hmode : cfg.mode = .MODE_CLIENT) {sock : Nat} {w : World σ}
    (hlinked : Linked sock w) {steps : List (ClientStep σ)}
    (hsteps : Along (clientStep E cfg) (fun w step => Possible E cfg sock w step ∧ StepSpares E cfg w step) w steps) :
    Along (clientStep E cfg) (StepNoExit E cfg) w steps := by
  refine (hsteps.maintains (fun w step hlinked hstep => ?_) hlinked).1
  cases step with
  | outside s => exact ⟨trivial, hlinked⟩
  | event event =>
    obtain ⟨⟨henabled, hunbroken⟩, hspares⟩ := hstep
    refine ⟨fun after hexit => ?_, stepEvent_linked hlinked henabled⟩
    obtain ⟨a, ha, hblamed⟩ := exit_answers (handle_event_blamed hmode hlinked henabled) hexit
    exact hblamed.elim (hunbroken a ha) (hspares a ha)

/-- The client of the sniffer in the runs below, on descriptor 7. -/
inductive Sniffer
  | sends
  | listens
  | gone

/-- Peers that are there, but for the client of the sniffer once it is gone. -/
def clientEnv : Env Sniffer where
  recv s fd n _ :=
    if fd = 7 then
      match s with
      | .sends => (.bytes [0], .listens)
      | .listens => (.error .EAGAIN, .listens)
      | .gone => (.bytes [], .gone)
    else (.bytes (List.replicate n 0), s)
  fionread s _ := (some 1, s)
  recvfrom s _ _ := (none, s)
  send s _ buf := (.sent buf.length, s)
  sendto s _ _ _ := s
  close s _ := s
  select s watched := (watched, s)
  malloc s := (true, s)
  deadline_expired s := (false, s)
  patience _ := 2
  device s := (true, s)
  STAR_openChannel s number := (number + 1, s)
  STAR_createPacket s := (true, s)
  STAR_createTxOperation s := (true, s)
  STAR_submitTransferOperation s := (true, s)
  STAR_waitOnTransferOperationCompletion s := (true, s)
  STAR_transmitPacket s := (true, s)
  RMAP_BuildCommandPacket s _ := (some [], s)

def clientCfg : BridgeCfg := { bridge_cfg_init [] with mode := .MODE_CLIENT, enable_sniff := true }

/-- A client connected on descriptor 4, with the sniffer port open. -/
def linkedWorld : World Sniffer :=
  { World.fresh Sniffer.sends with
    is_client := true
    svc := fun
      | .data => ⟨0, {4}, 5, [], 0⟩
      | .sniff => ⟨5, ∅, 0, [], 0⟩
      | _ => ⟨0, ∅, 0, [], 0⟩
    spw := some ⟨[], fun _ => 1⟩ }

theorem linkedPacket_fits : [1, 2, 3].length < 2 ^ 32 := by decide

/-- A sniffer client connects and sends something, and then it is handed a packet
of the data connection and one of the link. -/
def sniffedSteps : List (ClientStep Sniffer) :=
  [.event (.accept .sniff 7), .event (.net .sniff 7), .event (.net .data 4),
    .event (.spw false ⟨[1, 2, 3], linkedPacket_fits⟩)]

theorem client_run_no_exit_sniffer :
    Along (clientStep clientEnv clientCfg) (StepNoExit clientEnv clientCfg) linkedWorld sniffedSteps ∧
      sent_to 7 (run (clientStep clientEnv clientCfg) linkedWorld sniffedSteps).net_log = [0, 1, 2, 3] := by
  have hmeets : ∀ {w : World Sniffer} {event : BridgeEvent} {calls : List Answer},
      (∀ a ∈ calls, ¬ a.Breaks 4 ∧ ¬ Spoils w event a) → answers clientEnv clientCfg w event = calls →
      Enabled clientCfg w event →
      Possible clientEnv clientCfg 4 w (.event event) ∧ StepSpares clientEnv clientCfg w (.event event) := by
    rintro w event _ hcalls rfl henabled
    exact ⟨⟨henabled, fun a ha => (hcalls a ha).1⟩, fun a ha => (hcalls a ha).2⟩
  have hsent : ∀ {w : World Sniffer} {event : BridgeEvent} (fd n : Nat),
      ¬ (Answer.send fd (.sent n)).Breaks 4 ∧ ¬ Spoils w event (.send fd (.sent n)) := fun {_ _} fd n =>
    ⟨fun h => (by cases h), fun h => (by cases h)⟩
  have haccept : ∀ a ∈ ([] : List Answer), ¬ a.Breaks 4 ∧ ¬ Spoils linkedWorld (.accept .sniff 7) a :=
    fun a ha => absurd ha List.not_mem_nil
  have hdiscard : ∀ w : World Sniffer, ∀ a ∈ [Answer.recv 7 4096 .MSG_DONTWAIT (.bytes [0]),
      .recv 7 4096 .MSG_DONTWAIT (.error .EAGAIN)], ¬ a.Breaks 4 ∧ ¬ Spoils w (.net .sniff 7) a := by
    intro w a ha
    simp only [List.mem_cons, List.not_mem_nil, or_false] at ha
    rcases ha with rfl | rfl
    · refine ⟨fun h => (by cases h), fun h => ?_⟩
      cases h with
      | discarded hbytes _ => exact hbytes _ _ rfl
    · refine ⟨fun h => (by cases h), fun h => ?_⟩
      cases h with
      | discarded _ hmore => exact hmore rfl
  have hdata : ∀ w : World Sniffer, ∀ a ∈ [Answer.fionread 4 (some 1), .malloc true, .recv 4 1 .none (.bytes [0]),
      .send 7 (.sent 1)] ++ List.replicate 4 (.transmission true), ¬ a.Breaks 4 ∧ ¬ Spoils w (.net .data 4) a := by
    intro w a ha
    simp only [List.cons_append, List.nil_append, List.replicate, List.mem_cons, List.not_mem_nil, or_false] at ha
    rcases ha with rfl | rfl | rfl | rfl | rfl | rfl | rfl | rfl
    · refine ⟨fun h => (by cases h), fun h => ?_⟩
      cases h with
      | nothing havail => exact havail 0 rfl
    · exact ⟨fun h => (by cases h), fun h => (by cases h)⟩
    · refine ⟨fun h => (by cases h), fun h => ?_⟩
      cases h with
      | header hpeek => cases hpeek
    · exact hsent 7 1
    all_goals exact ⟨fun h => (by cases h), fun h => (by cases h)⟩
  have hlink : ∀ w : World Sniffer, ∀ pkt, ∀ a ∈ [Answer.send 7 (.sent 3), .send 4 (.sent 3)],
      ¬ a.Breaks 4 ∧ ¬ Spoils w (.spw false pkt) a := by
    intro w pkt a ha
    simp only [List.mem_cons, List.not_mem_nil, or_false] at ha
    rcases ha with rfl | rfl
    · exact hsent 7 3
    · exact hsent 4 3
  refine ⟨@client_run_no_exit _ _ _ rfl 4 _ (Finset.Subset.refl _) _ ⟨?_, ?_, ?_, ?_, trivial⟩, rfl⟩
  · exact hmeets haccept rfl ⟨rfl, by decide⟩
  · exact hmeets (hdiscard _) rfl ⟨rfl, by decide⟩
  · exact hmeets (hdata _) rfl ⟨trivial, by decide⟩
  · exact hmeets (hlink _ _) rfl trivial

/-- When that client disconnects, the bridge exits, with its data connection
up. -/
theorem client_exits_for_sniffer :
    Along (clientStep clientEnv clientCfg) (Possible clientEnv clientCfg 4) linkedWorld
        [.event (.accept .sniff 7), .outside .gone, .event (.net .sniff 7)] ∧
      ¬ Along (clientStep clientEnv clientCfg) (StepNoExit clientEnv clientCfg) linkedWorld
        [.event (.accept .sniff 7), .outside .gone, .event (.net .sniff 7)] := by
  have hgone : ∀ a ∈ [Answer.recv 7 4096 .MSG_DONTWAIT (.bytes [])], ¬ a.Breaks 4 := by
    intro a ha h
    obtain rfl := List.mem_singleton.mp ha
    cases h
  refine ⟨⟨⟨⟨rfl, by decide⟩, fun a ha => absurd ha List.not_mem_nil⟩, trivial, ⟨⟨rfl, by decide⟩, hgone⟩, trivial⟩, ?_⟩
  rintro ⟨_, _, hexit, _⟩
  exact hexit _ rfl

end spw_bridge
