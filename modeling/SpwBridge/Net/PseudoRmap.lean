import SpwBridge.Net.Segments

open effect framing words

namespace spw_bridge.net

variable {sockfd : Nat} {build : RmapRequest → Option (List UInt8)} {cfg : BridgeCfg}

/-- A pseudo-RMAP command of a client. The size field of a read announces
nothing. -/
inductive Command
  | read (dst : UInt8) (addr size : UInt32) (hsize : size.toNat ≤ MAX_SPW_PACKET_SIZE)
  | write (dst op : UInt8) (addr : UInt32) (data : List UInt8) (hop : op ≠ 0)
      (hdata : data.length ≤ MAX_SPW_PACKET_SIZE)

/-- The ten bytes that every command begins with. -/
def command_header (dst op : UInt8) (addr size : UInt32) : List UInt8 :=
  [dst, op, (addr >>> 24).toUInt8, (addr >>> 16).toUInt8, (addr >>> 8).toUInt8, addr.toUInt8,
    (size >>> 24).toUInt8, (size >>> 16).toUInt8, (size >>> 8).toUInt8, size.toUInt8]

/-- The documented format: the header, and for a write its payload. -/
def Command.encode : Command → List UInt8
  | .read dst addr size _ => command_header dst 0 addr size
  | .write dst op addr data _ _ => command_header dst op addr (UInt32.ofNat data.length) ++ data

/-- The `spw_rmap_cmd` call that the command asks for. -/
def Command.call : Command → SpwCall
  | .read dst addr _ _ => .rmap_cmd dst 0 addr []
  | .write dst _ addr data _ _ => .rmap_cmd dst 1 addr data

/-- Whether the command is as long as its size field says. -/
def Command.Sized : Command → Prop
  | .read _ _ size _ => size = 0
  | .write .. => True

/-! ### Commands as frames -/

theorem command_header_isFrame_iff (dst op : UInt8) (addr size : UInt32) (data : List UInt8) :
    rmapFormat.IsFrame (command_header dst op addr size ++ data) ↔ size.toNat = data.length := by
  have hfield : be32 (size >>> 24).toUInt8 (size >>> 16).toUInt8 (size >>> 8).toUInt8 size.toUInt8 = size :=
    be32_bytes size
  simp only [Format.IsFrame, rmapFormat, command_header, List.cons_append, List.nil_append, List.take_succ_cons,
    List.take_zero, byteAt_cons_succ, byteAt_cons_zero, hfield, List.length_cons]
  omega

theorem Command.size_write {data : List UInt8} (hdata : data.length ≤ MAX_SPW_PACKET_SIZE) :
    (UInt32.ofNat data.length).toNat = data.length := by
  simp only [MAX_SPW_PACKET_SIZE, rmap.RMAP_MAX_DATA_LEN] at hdata
  rw [UInt32.toNat_ofNat']
  omega

theorem Command.encode_isFrame_iff (c : Command) : rmapFormat.IsFrame c.encode ↔ c.Sized := by
  cases c with
  | read dst addr size hsize =>
    have hframe := command_header_isFrame_iff dst 0 addr size []
    rw [List.append_nil, List.length_nil] at hframe
    rw [encode, hframe, Sized, ← UInt32.toNat_inj]
    rfl
  | write dst op addr data hop hdata =>
    rw [encode, command_header_isFrame_iff]
    exact iff_of_true (size_write hdata) trivial

theorem Command.length_encode_le (c : Command) : c.encode.length ≤ MAX_SPW_PACKET_SIZE + 10 := by
  cases c with
  | read dst addr size hsize => simp [encode, command_header]
  | write dst op addr data hop hdata =>
    simp only [encode, command_header, List.length_append, List.length_cons, List.length_nil]
    omega

/-- A command in step with its size field is taken for what it is. -/
theorem Command.call_encode (c : Command) : StreamKind.rmap.call c.encode = c.call := by
  cases c with
  | read dst addr size hsize => simp [StreamKind.call, encode, call, command_header]
  | write dst op addr data hop hdata => simp [StreamKind.call, encode, call, command_header, hop]

/-- What is taken for a command is at least as long as the command is on the
wire. -/
theorem Command.length_encode_le_of_call {c : Command} {frame : List UInt8} (hframe : rmapFormat.IsFrame frame)
    (hcall : StreamKind.rmap.call frame = c.call) : c.encode.length ≤ frame.length := by
  have hle : 10 ≤ frame.length := hframe.hdr_le_length
  cases c with
  | read dst addr size hsize => simpa [encode, command_header] using hle
  | write dst op addr data hop hdata =>
    simp only [StreamKind.call, call] at hcall
    split at hcall
    · simp at hcall
    · simp only [SpwCall.rmap_cmd.injEq] at hcall
      have hlength := congrArg List.length hcall.2.2.2
      rw [List.length_drop] at hlength
      simp only [encode, command_header, List.length_append, List.length_cons, List.length_nil]
      omega

/-- Frames that are taken for some commands are together at least as long as
these are on the wire. -/
theorem length_commands_le {frames : List (List UInt8)} {commands : List Command}
    (hframes : ∀ frame ∈ frames, rmapFormat.IsFrame frame)
    (hcalls : frames.map StreamKind.rmap.call = commands.map Command.call) :
    (commands.map Command.encode).flatten.length ≤ frames.flatten.length := by
  induction commands generalizing frames with
  | nil => exact Nat.zero_le _
  | cons c commands ih =>
    cases frames with
    | nil => simp at hcalls
    | cons frame frames =>
      obtain ⟨hframe, hrest⟩ := List.forall_mem_cons.mp hframes
      obtain ⟨hcall, hcalls⟩ := List.cons.inj hcalls
      have hfirst := Command.length_encode_le_of_call hframe hcall
      have htail := ih hrest hcalls
      simp only [List.map_cons, List.flatten_cons, List.length_append]
      omega

/-- If such frames also come from the front of the commands on the wire, they
are the commands. -/
theorem frames_eq_commands {frames : List (List UInt8)} {commands : List Command}
    (hframes : ∀ frame ∈ frames, rmapFormat.IsFrame frame)
    (hcalls : frames.map StreamKind.rmap.call = commands.map Command.call)
    (hbegins : frames.flatten <+: (commands.map Command.encode).flatten) :
    frames = commands.map Command.encode := by
  induction commands generalizing frames with
  | nil => simpa using hcalls
  | cons c commands ih =>
    cases frames with
    | nil => simp at hcalls
    | cons frame frames =>
      obtain ⟨hframe, hrest⟩ := List.forall_mem_cons.mp hframes
      obtain ⟨hcall, hcalls⟩ := List.cons.inj hcalls
      have hfirst := Command.length_encode_le_of_call hframe hcall
      have htail := length_commands_le hrest hcalls
      have htotal := hbegins.length_le
      obtain ⟨rest, hstream⟩ := hbegins
      simp only [List.map_cons, List.flatten_cons, List.length_append] at htotal
      simp only [List.map_cons, List.flatten_cons, List.append_assoc] at hstream
      obtain ⟨hhead, hstream⟩ := List.append_inj hstream (by omega)
      rw [hhead, ih hrest hcalls ⟨rest, hstream⟩, List.map_cons]

/-! ### The handler on any stream -/

/-- One frame was taken from the front of the stream, and the command that it
reads as was issued. -/
structure Issued (frame : List UInt8) (w after : World TcpState) : Prop where
  isFrame : rmapFormat.IsFrame frame
  unread : w.env.unread = frame ++ after.env.unread
  svc : after.svc = w.svc
  spw : after.spw = w.spw
  handed : handed after.spw_log = handed w.spw_log ++ [StreamKind.rmap.call frame]

/-- The handler issues what it reads in one frame, or it drops the connection. -/
theorem rmap_net_to_spw_issues {w : World TcpState} {st : SpwState} (hst : w.spw = some st) :
    wp (rmap_net_to_spw (tcpEnv sockfd build) sockfd)
      (fun _ after => (∃ frame, Issued frame w after) ∨
        (sockfd ∉ (after.svc .rmap).conn_set ∧ handed after.spw_log = handed w.spw_log))
      (fun _ _ => False) w := by
  have hdrop : ∀ s, wp (rmap_conn_drop (tcpEnv sockfd build) sockfd)
      (fun _ after => (∃ frame, Issued frame w after) ∨
        (sockfd ∉ (after.svc .rmap).conn_set ∧ handed after.spw_log = handed w.spw_log))
      (fun _ _ => False) { w with env := s } := by
    intro s
    refine Or.inr ⟨?_, rfl⟩
    simp [fd_clr]
  simp only [rmap_net_to_spw, wp_bind]
  refine peek_header_unread (tcpStream sockfd build) rfl (fun s hs _ => ?_) hdrop
  simp only [wp_ite, wp_bind]
  split_ifs
  · exact hdrop s
  · refine recv_body_unread (tcpStream sockfd build) (fun bs s' hbs hlength => ?_) hdrop
    have hstream : (tcpStream sockfd build).unread w.env = bs ++ s'.unread := hs.symm.trans hbs
    have hframe : rmapFormat.IsFrame bs := by
      refine Format.isFrame_of_front s'.unread ?_
      rw [hlength, hstream]
      rfl
    have hheader : (bs ++ s'.unread).take 10 = bs.take 10 := hframe.take_hdr s'.unread
    rw [hstream, hheader]
    refine wp_mono_post (rmap_issue_tcp (w := { w with env := s' }) hframe hst) fun _ after hafter => ?_
    exact Or.inl ⟨bs, hframe, hstream.trans (by rw [hafter.took.unread, List.drop_zero]), hafter.svc, hafter.spw,
      hafter.handed⟩

/-- In any number of rounds, the commands that are handed on are read in frames
from the front of the stream. -/
theorem polls_issues (rounds : Nat) {w : World TcpState} (hpolled : Polled cfg .rmap sockfd w) :
    wp (polls (tcpEnv sockfd build) cfg .rmap rounds)
      (fun _ after => ∃ frames : List (List UInt8), (∀ frame ∈ frames, rmapFormat.IsFrame frame) ∧
        frames.flatten <+: w.env.unread ∧
        handed after.spw_log = handed w.spw_log ++ frames.map StreamKind.rmap.call)
      (fun _ _ => False) w := by
  induction rounds generalizing w with
  | zero => exact ⟨[], by simp, List.nil_prefix, (List.append_nil _).symm⟩
  | succ rounds ih =>
    rw [polls, wp_bind]
    by_cases hidle : w.env.select.queue = []
    · apply wp_mono_post (poll_socket_idle (Or.inl hidle))
      rintro _ mid ⟨_, hmid⟩
      apply wp_mono_post (ih (hpolled.delivered hmid))
      rintro _ after ⟨frames, hframes, hbegins, hafter⟩
      rw [hmid.took.unread] at hbegins
      exact ⟨frames, hframes, hbegins, by rw [hafter, hmid.handed, List.append_nil]⟩
    · obtain ⟨st, hst⟩ := hpolled.spw
      refine poll_socket_ready_tcp hpolled hidle fun calls => ?_
      have hselect : w.env.select.unread = w.env.unread := w.env.select_took.unread
      refine wp_mono (rmap_net_to_spw_issues (w := { w with env := w.env.select, net_log := calls }) hst) ?_
        fun _ _ h => h.elim
      rintro _ mid (⟨frame, hissued⟩ | ⟨hgone, hmid⟩)
      · apply wp_mono_post (ih (hpolled.same hissued.svc hissued.spw))
        rintro _ after ⟨frames, hframes, hbegins, hafter⟩
        refine ⟨frame :: frames, List.forall_mem_cons.mpr ⟨hissued.isFrame, hframes⟩, ?_, ?_⟩
        · rw [← hselect, hissued.unread, List.flatten_cons]
          exact (List.prefix_append_right_inj frame).mpr hbegins
        · rw [hafter, hissued.handed, List.append_assoc]
          rfl
      · refine wp_mono_post (polls_gone rounds hgone) fun _ after hafter => ?_
        exact ⟨[], by simp, List.nil_prefix, by rw [hafter, hmid, List.map_nil, List.append_nil]⟩

/-! ### The service on a stream of commands -/

/-- The commands that a client has sent back to back, all of them arrived. -/
def commandQueue (commands : List Command) : TcpState := ⟨(commands.map Command.encode).flatten, [], []⟩

/-- A sequence of commands is executed as it was sent if and only if the size
field of each read in it is zero: the handler takes as many payload bytes as the
field says, for reads too. -/
theorem pseudo_rmap_commands_iff (commands : List Command) {w : World TcpState}
    (hpolled : Polled cfg .rmap sockfd w) (hlog : w.spw_log = []) (henv : w.env = commandQueue commands) :
    (∀ rounds, commands.length ≤ rounds →
      handedOver sockfd build cfg .rmap rounds w = commands.map Command.call) ↔ ∀ c ∈ commands, c.Sized := by
  have hunread : w.env.unread = (commands.map Command.encode).flatten := by
    simp [henv, commandQueue, TcpState.unread]
  constructor
  · intro hexecuted
    have hwp : wp (polls (tcpEnv sockfd build) cfg .rmap commands.length) _ _ w :=
      polls_issues commands.length hpolled
    obtain ⟨frames, hframes, hbegins, hhanded⟩ := wp_final.mp (wp_mono hwp (fun _ _ h => h) fun _ _ h => h.elim)
    have hcalls : frames.map StreamKind.rmap.call = commands.map Command.call := by
      rw [← hexecuted commands.length le_rfl, handedOver, hhanded, hlog]
      rfl
    have hcommands := frames_eq_commands hframes hcalls (hunread ▸ hbegins)
    intro c hc
    refine c.encode_isFrame_iff.mp (hframes c.encode ?_)
    rw [hcommands]
    exact List.mem_map_of_mem hc
  · intro hsized rounds hrounds
    have hpackets : ∀ packet ∈ commands.map Command.encode, StreamKind.rmap.Packet packet := by
      intro packet hpacket
      obtain ⟨c, hc, rfl⟩ := List.mem_map.mp hpacket
      exact ⟨c.encode_isFrame_iff.mpr (hsized c hc), c.length_encode_le⟩
    have hframes : ∀ packet ∈ commands.map Command.encode, rmapFormat.IsFrame packet :=
      fun packet hpacket => (hpackets packet hpacket).1
    have hkind : framing cfg .rmap = some .rmap := rfl
    rw [handedOver_frames hkind (Or.inr rfl) hpolled hlog hpackets hunread, List.map_map]
    · exact List.map_congr_left fun c _ => c.call_encode
    · simp [henv, commandQueue]
    · rw [henv]
      exact Format.uncut_nil hframes
    · simpa [henv, commandQueue] using hrounds

/-- A write of two bytes and a read whose size field is zero. -/
theorem pseudo_rmap_commands_iff_write :
    (∀ rounds, 2 ≤ rounds →
      handedOver 5 (fun _ => none) (bridge_cfg_init []) .rmap rounds (receivingWorld 5 (commandQueue
          [.write 0xfe 1 0x10 [0xde, 0xad] (by decide) (by decide), .read 0xfe 0x20 0 (by decide)])) =
        [.rmap_cmd 0xfe 1 0x10 [0xde, 0xad], .rmap_cmd 0xfe 0 0x20 []]) ↔
      ∀ c ∈ [Command.write 0xfe 1 0x10 [0xde, 0xad] (by decide) (by decide), .read 0xfe 0x20 0 (by decide)],
        c.Sized :=
  pseudo_rmap_commands_iff
    [.write 0xfe 1 0x10 [0xde, 0xad] (by decide) (by decide), .read 0xfe 0x20 0 (by decide)]
    (receivingWorld_polled (bridge_cfg_init []) .rmap 5 _) rfl rfl

/-- A read with the size field 10 swallows the read behind it, which is not
issued. -/
theorem pseudo_rmap_read_swallows :
    ¬ ∀ rounds, 2 ≤ rounds →
      handedOver 5 (fun _ => none) (bridge_cfg_init []) .rmap rounds (receivingWorld 5 (commandQueue
          [.read 0xfe 0x10 10 (by decide), .read 0xfe 0x20 0 (by decide)])) =
        [.rmap_cmd 0xfe 0 0x10 [], .rmap_cmd 0xfe 0 0x20 []] := by
  intro hexecuted
  exact absurd (hexecuted 2 le_rfl) (by decide +kernel)

end spw_bridge.net
