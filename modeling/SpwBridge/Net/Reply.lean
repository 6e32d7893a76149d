import SpwBridge.Library.Framing
import SpwBridge.Net.Forward
import SpwBridge.Net.Served

open effect framing words spw_bridge.rmap

namespace spw_bridge.net

variable {σ : Type}

/-- What a pseudo-RMAP message says. -/
structure ReplyContent where
  dst : UInt8
  op : UInt8
  addr : UInt32
  data : List UInt8
  deriving DecidableEq, Repr

/-- The documented format: ten bytes of header, then as many data bytes as the
size field says. -/
def ReplyContent.encode (c : ReplyContent) : List UInt8 :=
  let size := UInt32.ofNat c.data.length
  [c.dst, c.op, (c.addr >>> 24).toUInt8, (c.addr >>> 16).toUInt8, (c.addr >>> 8).toUInt8, c.addr.toUInt8,
    (size >>> 24).toUInt8, (size >>> 16).toUInt8, (size >>> 8).toUInt8, size.toUInt8] ++ c.data

def ReplyContent.parse (msg : List UInt8) : ReplyContent where
  dst := byteAt msg 0
  op := byteAt msg 1
  addr := be32 (byteAt msg 2) (byteAt msg 3) (byteAt msg 4) (byteAt msg 5)
  data := msg.drop 10

/-- The framing of the message stream by its size field. -/
def replyFormat : Format UInt8 where
  hdr := 10
  size front := 10 + (be32 (byteAt front 6) (byteAt front 7) (byteAt front 8) (byteAt front 9)).toNat
  hdr_pos := by decide
  hdr_le _ := Nat.le_add_right 10 _

@[simp] theorem ReplyContent.parse_encode (c : ReplyContent) : parse c.encode = c := by
  simp [parse, encode]

theorem ReplyContent.encode_isFrame {c : ReplyContent} (hdata : c.data.length < 2 ^ 32) :
    replyFormat.IsFrame c.encode := by
  have hsize : (UInt32.ofNat c.data.length).toNat = c.data.length := by
    rw [UInt32.toNat_ofNat']
    omega
  simp [Format.IsFrame, replyFormat, encode, hsize]
  omega

/-- The messages put together parse back into what they say. -/
theorem ReplyContent.parse_stream {contents : List ReplyContent}
    (hdata : ∀ c ∈ contents, c.data.length < 2 ^ 32) :
    (replyFormat.divide (contents.map encode).flatten).map parse = contents := by
  rw [Format.divide_flatten, List.map_map]
  · simp [Function.comp_def]
  · intro msg hmsg
    obtain ⟨c, hc, rfl⟩ := List.mem_map.mp hmsg
    exact encode_isFrame (hdata c hc)

/-! ### The message of one packet -/

/-- What the message about a packet has to say. -/
def replyContent (pkt : RmapPkt) : ReplyContent where
  dst := pkt.dst
  op := UInt8.ofNat (pkt.ri.cmd.toNat &&& RMAP_CMD_BIT_WRITE)
  addr := pkt.addr
  data := pkt.data.getD []

/-- The packets for which the allocated size covers the copied data: those with
the write bit and those without data. -/
def ReplyFits (pkt : RmapPkt) : Prop := pkt.ri.writeBit ∨ pkt.data_len = 0

instance (pkt : RmapPkt) : Decidable (ReplyFits pkt) := inferInstanceAs (Decidable (_ ∨ _))

/-- A decoded packet holds as many data bytes as its length says. -/
theorem bufPkt_data_length {alloc : Alloc} {buf : List UInt8} (haccepts : Accepts alloc buf) :
    ((bufPkt buf).data.getD []).length = (bufPkt buf).data_len.toNat := by
  have hlen : (bufPkt buf).data_len = bufDataLen buf := rfl
  by_cases hzero : bufDataLen buf = 0
  · simp [bufPkt, hzero]
  · have hcovered := haccepts.data hzero
    rw [hlen]
    simp only [bufPkt, hzero, ↓reduceIte, Option.getD_some, List.length_take, List.length_drop]
    omega

theorem bufPkt_data_isSome {buf : List UInt8} : (bufPkt buf).data = none ↔ (bufPkt buf).data_len = 0 := by
  have hlen : (bufPkt buf).data_len = bufDataLen buf := rfl
  by_cases hzero : bufDataLen buf = 0 <;> simp [bufPkt, hzero]

/-- With room for the data the message is the documented one. -/
theorem rmap_reply_msg_ok {alloc : Alloc} {buf : List UInt8} (haccepts : Accepts alloc buf)
    (hfits : ReplyFits (bufPkt buf)) :
    rmap_reply_msg (bufPkt buf) = .ok (replyContent (bufPkt buf)).encode := by
  have hlength := bufPkt_data_length haccepts
  have hnone : (bufPkt buf).data = none ↔ (bufPkt buf).data_len = 0 := bufPkt_data_isSome
  unfold rmap_reply_msg
  cases hdata : (bufPkt buf).data with
  | none =>
    have hzero := hnone.mp hdata
    simp [hzero, rmap_reply_size, rmap_reply_hdr, replyContent, ReplyContent.encode, hdata]
  | some data =>
    have hnonzero : (bufPkt buf).data_len ≠ 0 := by
      intro hzero
      rw [hnone.mpr hzero] at hdata
      cases hdata
    have hwrite : (bufPkt buf).ri.writeBit = true := hfits.resolve_right hnonzero
    rw [hdata, Option.getD_some] at hlength
    have hsize : rmap_reply_size (bufPkt buf) - 10 = (bufPkt buf).data_len.toNat := by
      simp [rmap_reply_size, hwrite]
    have htmp : (rmap_reply_hdr (bufPkt buf) ++ List.replicate (bufPkt buf).data_len.toNat 0).length =
        10 + (bufPkt buf).data_len.toNat := by
      rw [List.length_append, List.length_replicate]
      rfl
    have hhdr : (rmap_reply_hdr (bufPkt buf) ++ List.replicate (bufPkt buf).data_len.toNat 0).take 10 =
        rmap_reply_hdr (bufPkt buf) := List.take_left' rfl
    dsimp only
    rw [hsize, copy_loop_ok (by omega) (by omega), hhdr, List.drop_zero, List.take_of_length_le (by omega),
      List.drop_of_length_le (by omega), List.append_nil]
    simp [rmap_reply_hdr, replyContent, ReplyContent.encode, hdata, hlength]

/-- Without it the first data byte is written behind the allocated buffer. -/
theorem rmap_reply_msg_overrun {alloc : Alloc} {buf : List UInt8} (haccepts : Accepts alloc buf)
    (hfits : ¬ ReplyFits (bufPkt buf)) : rmap_reply_msg (bufPkt buf) = .error (.write 10) := by
  have hlength := bufPkt_data_length haccepts
  obtain ⟨hwrite, hnonzero⟩ := not_or.mp hfits
  have hpositive : (bufPkt buf).data_len.toNat ≠ 0 := by simpa [← UInt32.toNat_inj] using hnonzero
  unfold rmap_reply_msg
  cases hdata : (bufPkt buf).data with
  | none => exact absurd (bufPkt_data_isSome.mp hdata) hnonzero
  | some data =>
    rw [hdata, Option.getD_some] at hlength
    have htmp : (rmap_reply_hdr (bufPkt buf) ++
        List.replicate (rmap_reply_size (bufPkt buf) - 10) 0).length = 10 := by
      simp [rmap_reply_hdr, rmap_reply_size, hwrite]
    dsimp only
    rw [copy_loop_overrun (by omega) (by omega) (by omega), htmp]

/-! ### The stream of messages to a client -/

/-- The messages handed over for one descriptor. -/
def streamTo (fd : Nat) (calls : List NetCall) : List (List UInt8) :=
  (messages calls).filterMap fun (sockfd, msg) => if sockfd = fd then some msg else none

/-- Services lose connections and keep their `nfds`. -/
def Shrinks (w after : World σ) : Prop :=
  ∀ id, (after.svc id).nfds = (w.svc id).nfds ∧ (after.svc id).conn_set ⊆ (w.svc id).conn_set

instance : IsPreorder (World σ) Shrinks where
  refl _ _ := ⟨rfl, Finset.Subset.refl _⟩
  trans _ _ _ h h' id := ⟨(h' id).1.trans (h id).1, (h' id).2.trans (h id).2⟩

theorem Shrinks.of_svc {w after : World σ} (hsvc : after.svc = w.svc) : Shrinks w after := fun id => by
  rw [hsvc]
  exact ⟨rfl, Finset.Subset.refl _⟩

theorem sockets_shrinks : Sockets (Shrinks (σ := σ)) where
  env _ _ _ := ⟨rfl, Finset.Subset.refl _⟩
  net_log _ _ _ := ⟨rfl, Finset.Subset.refl _⟩
  fd_clr w id sockfd other := by
    by_cases hsame : other = id
    · subst hsame
      simp [fd_clr, Finset.erase_subset]
    · simp [hsame]

/-- The packet is what the decoder makes of the received bytes. -/
def Decoded (cfg : BridgeCfg) (buf : List UInt8) (pkt : RmapPkt) : Prop :=
  rmap_pkt_from_buffer .success (buf.drop cfg.skip_header_bytes) = .ok (some pkt)

/-- One call, for a packet whose message fits, is a broadcast of that message. -/
theorem rmap_reply_to_clients_broadcast {E : Env σ} (hmalloc : ∀ s, (E.malloc s).1 = true) {cfg : BridgeCfg}
    {buf : List UInt8} {pkt : RmapPkt} (hdecoded : Decoded cfg buf pkt) (hfits : ReplyFits pkt) {w : World σ}
    {post : Unit → World σ → Prop} {fails : Halt → World σ → Prop}
    (hbroadcast : ∀ s, wp (broadcast E .rmap (replyContent pkt).encode) post fails { w with env := s }) :
    wp (rmap_reply_to_clients E cfg buf) post fails w := by
  obtain ⟨haccepts, rfl⟩ := rmap_pkt_from_buffer_some_iff.mp hdecoded
  have hmsg := rmap_reply_msg_ok haccepts hfits
  have hsuccess : rmap_pkt_from_buffer ⟨true, true, true⟩ (buf.drop cfg.skip_header_bytes) =
      .ok (some (bufPkt (buf.drop cfg.skip_header_bytes))) := hdecoded
  simp only [rmap_reply_to_clients, alloc_pkt, malloc, wp_bind, wp_syscall, wp_pure, hmalloc, hsuccess,
    wp_lift_ok, ↓reduceIte, hmsg]
  exact hbroadcast _

/-- Every client of the service then gets the documented message. -/
theorem rmap_reply_to_clients_fits {E : Env σ} (hmalloc : ∀ s, (E.malloc s).1 = true) {cfg : BridgeCfg}
    {buf : List UInt8} {pkt : RmapPkt} (hdecoded : Decoded cfg buf pkt) (hfits : ReplyFits pkt) (w : World σ) :
    wp (rmap_reply_to_clients E cfg buf)
      (fun _ after => messages after.net_log = messages w.net_log ++
          ((List.range (w.svc .rmap).nfds).filter (· ∈ (w.svc .rmap).conn_set)).map
            (fun fd => (fd, (replyContent pkt).encode)) ∧ Shrinks w after)
      (fun halt _ => halt.Defined) w := by
  apply rmap_reply_to_clients_broadcast hmalloc hdecoded hfits
  intro s
  have hmessages := broadcast_messages E .rmap (replyContent pkt).encode { w with env := s }
  have hshrinks := (within_broadcast sockets_shrinks E .rmap (replyContent pkt).encode).wp { w with env := s }
  exact wp_mono (wp_and hmessages hshrinks) (fun _ _ h => h) fun _ _ h => h.1

/-- One call, for a packet whose message does not fit. -/
theorem rmap_reply_to_clients_overrun {E : Env σ} (hmalloc : ∀ s, (E.malloc s).1 = true) {cfg : BridgeCfg}
    {buf : List UInt8} {pkt : RmapPkt} (hdecoded : Decoded cfg buf pkt) (hfits : ¬ ReplyFits pkt) (w : World σ) :
    ∃ after, rmap_reply_to_clients E cfg buf w = .error (.fault (.write 10)) after := by
  obtain ⟨haccepts, rfl⟩ := rmap_pkt_from_buffer_some_iff.mp hdecoded
  have hmsg := rmap_reply_msg_overrun haccepts hfits
  have hsuccess : rmap_pkt_from_buffer ⟨true, true, true⟩ (buf.drop cfg.skip_header_bytes) =
      .ok (some (bufPkt (buf.drop cfg.skip_header_bytes))) := hdecoded
  have hwp : wp (rmap_reply_to_clients E cfg buf) (fun _ _ => False)
      (fun halt _ => halt = .fault (.write 10)) w := by
    simp only [rmap_reply_to_clients, alloc_pkt, malloc, wp_bind, wp_syscall, wp_pure, hmalloc, hsuccess,
      wp_lift_ok, ↓reduceIte, hmsg, wp_lift_error]
  obtain ⟨halt, after, hrun, rfl⟩ := error_of_wp hwp
  exact ⟨after, hrun⟩

/-- A broadcast to distinct descriptors gives each of them the message once. -/
theorem filterMap_broadcast (fd : Nat) (msg : List UInt8) {fds : List Nat} (hfds : fds.Nodup) :
    (fds.map fun other => (other, msg)).filterMap (fun (sockfd, msg) => if sockfd = fd then some msg else none) =
      if fd ∈ fds then [msg] else [] := by
  induction fds with
  | nil => rfl
  | cons other fds ih =>
    obtain ⟨hfresh, hrest⟩ := List.nodup_cons.mp hfds
    rw [List.map_cons, List.filterMap_cons, ih hrest]
    by_cases hsame : other = fd
    · subst hsame
      simp [hfresh]
    · have hne : fd ≠ other := fun h => hsame h.symm
      simp [hsame, hne]

/-- What a broadcast adds to the stream of a client. -/
theorem streamTo_broadcast {w after : World σ} {id : SvcId} {msg : List UInt8} (fd : Nat)
    (hmessages : messages after.net_log = messages w.net_log ++
      ((List.range (w.svc id).nfds).filter (· ∈ (w.svc id).conn_set)).map fun fd => (fd, msg)) :
    streamTo fd after.net_log =
      streamTo fd w.net_log ++ if fd ∈ watched (w.svc id) then [msg] else [] := by
  have hmem : fd ∈ (List.range (w.svc id).nfds).filter (· ∈ (w.svc id).conn_set) ↔
      fd ∈ watched (w.svc id) := by
    simp [watched, and_comm]
  rw [streamTo, hmessages, List.filterMap_append, filterMap_broadcast fd msg (List.nodup_range.filter _)]
  simp only [hmem]
  rfl

/-- The bridge writes only inside the buffers it allocates, and each client that
it serves receives the documented messages of the packets, in order: of all of
them while it stays connected, of the first ones otherwise. The stream parses
back into what the packets say. -/
structure RepliesRight (E : Env σ) (cfg : BridgeCfg) (received : List (List UInt8 × RmapPkt)) (w : World σ) :
    Prop where
  inside : ∀ fault after, (forM received fun p => rmap_reply_to_clients E cfg p.1) w ≠ .error (.fault fault) after
  stream : ∀ after, (forM received fun p => rmap_reply_to_clients E cfg p.1) w = .ok () after →
    ∀ fd ∈ watched (w.svc .rmap), ∃ n,
      streamTo fd after.net_log =
        streamTo fd w.net_log ++ (received.take n).map (fun p => (replyContent p.2).encode) ∧
      (fd ∈ (after.svc .rmap).conn_set → received.take n = received) ∧
      (replyFormat.divide ((received.take n).map fun p => (replyContent p.2).encode).flatten).map
        ReplyContent.parse = (received.take n).map fun p => replyContent p.2

/-- The run over a sequence of packets whose messages fit. -/
theorem rmap_reply_run {E : Env σ} (hmalloc : ∀ s, (E.malloc s).1 = true) {cfg : BridgeCfg}
    {received : List (List UInt8 × RmapPkt)} (hdecoded : ∀ p ∈ received, Decoded cfg p.1 p.2)
    (hfits : ∀ p ∈ received, ReplyFits p.2) (w : World σ) :
    wp (forM received fun p => rmap_reply_to_clients E cfg p.1)
      (fun _ after => Shrinks w after ∧ ∀ fd, ∃ n,
        streamTo fd after.net_log =
          streamTo fd w.net_log ++ (received.take n).map (fun p => (replyContent p.2).encode) ∧
        (fd ∈ watched (w.svc .rmap) → fd ∈ (after.svc .rmap).conn_set → received.take n = received) ∧
        (fd ∉ watched (w.svc .rmap) → received.take n = []))
      (fun halt _ => halt.Defined) w := by
  induction received generalizing w with
  | nil =>
    simp only [List.forM_nil, wp_pure]
    exact ⟨refl_of Shrinks w, fun fd => ⟨0, by simp⟩⟩
  | cons p received ih =>
    simp only [List.forM_cons, wp_bind]
    apply wp_mono_post (rmap_reply_to_clients_fits hmalloc (hdecoded p List.mem_cons_self)
      (hfits p List.mem_cons_self) w)
    rintro _ next ⟨hmessages, hshrinks⟩
    apply wp_mono_post (ih (fun q hq => hdecoded q (List.mem_cons_of_mem p hq))
      (fun q hq => hfits q (List.mem_cons_of_mem p hq)) next)
    rintro _ after ⟨hrest, hstreams⟩
    refine ⟨trans_of Shrinks hshrinks hrest, fun fd => ?_⟩
    obtain ⟨n, hstream, hstays, hleft⟩ := hstreams fd
    have hfirst := streamTo_broadcast fd hmessages
    have hstill : fd ∈ watched (next.svc .rmap) → fd ∈ watched (w.svc .rmap) := by
      obtain ⟨hnfds, hset⟩ := hshrinks .rmap
      simp only [watched, Finset.mem_filter, hnfds]
      exact fun h => ⟨hset h.1, h.2⟩
    by_cases hserved : fd ∈ watched (w.svc .rmap)
    · refine ⟨n + 1, ?_, ?_, fun h => absurd hserved h⟩
      · rw [hstream, hfirst, if_pos hserved]
        simp
      · intro _ hafter
        have hnext : fd ∈ watched (next.svc .rmap) := by
          simp only [watched, Finset.mem_filter] at hserved ⊢
          exact ⟨(hrest .rmap).2 hafter, (hshrinks .rmap).1 ▸ hserved.2⟩
        rw [List.take_succ_cons, hstays hnext hafter]
    · have hgone : fd ∉ watched (next.svc .rmap) := fun h => hserved (hstill h)
      refine ⟨0, ?_, fun h => absurd h hserved, fun _ => rfl⟩
      rw [hstream, hfirst, if_neg hserved, hleft hgone]
      simp

/-- A run that meets a packet whose message does not fit, with no client whose
sends could end it earlier. -/
theorem rmap_reply_run_overrun {E : Env σ} (hmalloc : ∀ s, (E.malloc s).1 = true) {cfg : BridgeCfg}
    {received : List (List UInt8 × RmapPkt)} (hdecoded : ∀ p ∈ received, Decoded cfg p.1 p.2)
    (hover : ∃ p ∈ received, ¬ ReplyFits p.2) {w : World σ} (hnfds : (w.svc .rmap).nfds = 0) :
    ∃ after, (forM received fun p => rmap_reply_to_clients E cfg p.1) w = .error (.fault (.write 10)) after := by
  induction received generalizing w with
  | nil => simp at hover
  | cons p received ih =>
    have hp := hdecoded p List.mem_cons_self
    have hwp : wp (forM (p :: received) fun p => rmap_reply_to_clients E cfg p.1) (fun _ _ => False)
        (fun halt _ => halt = .fault (.write 10)) w := by
      simp only [List.forM_cons, wp_bind]
      by_cases hfits : ReplyFits p.2
      · have hlater : ∃ q ∈ received, ¬ ReplyFits q.2 := by
          obtain ⟨q, hq, hbad⟩ := hover
          rcases List.mem_cons.mp hq with rfl | hq
          · exact absurd hfits hbad
          · exact ⟨q, hq, hbad⟩
        apply rmap_reply_to_clients_broadcast hmalloc hp hfits
        intro s
        -- with no descriptor below `nfds` the broadcast does nothing
        simp only [broadcast, wp_bind, wp_get_svc, hnfds, List.range_zero, List.forM_nil, wp_pure]
        obtain ⟨after, hrun⟩ := ih (fun q hq => hdecoded q (List.mem_cons_of_mem p hq)) hlater
          (w := { w with env := s }) hnfds
        exact (wp_error hrun).mpr rfl
      · obtain ⟨after, hrun⟩ := rmap_reply_to_clients_overrun hmalloc hp hfits w
        exact (wp_error hrun).mpr rfl
    obtain ⟨halt, after, hrun, rfl⟩ := error_of_wp hwp
    exact ⟨after, hrun⟩

/-- The reply stream is right in every world exactly when every decoded packet
has the write bit or no data: only then the allocated size covers the data that
the copy loop writes. -/
theorem rmap_reply_stream_iff [Inhabited σ] {E : Env σ} (hmalloc : ∀ s, (E.malloc s).1 = true) (cfg : BridgeCfg)
    {received : List (List UInt8 × RmapPkt)} (hdecoded : ∀ p ∈ received, Decoded cfg p.1 p.2) :
    (∀ w, RepliesRight E cfg received w) ↔ ∀ p ∈ received, ReplyFits p.2 := by
  constructor
  · intro hright
    by_contra hover
    simp only [not_forall] at hover
    obtain ⟨p, hp, hbad⟩ := hover
    obtain ⟨after, hrun⟩ := rmap_reply_run_overrun hmalloc hdecoded ⟨p, hp, hbad⟩
      (w := World.fresh default) rfl
    exact (hright _).inside _ after hrun
  · intro hfits w
    have hwp := rmap_reply_run hmalloc hdecoded hfits w
    constructor
    · intro fault after hrun
      exact (wp_error hrun).mp hwp fault rfl
    · intro after hrun fd hserved
      obtain ⟨_, hstreams⟩ := (wp_ok hrun).mp hwp
      obtain ⟨n, hstream, hstays, _⟩ := hstreams fd
      refine ⟨n, hstream, hstays hserved, ?_⟩
      have hsizes : ∀ c ∈ (received.take n).map fun p => replyContent p.2, c.data.length < 2 ^ 32 := by
        intro c hc
        obtain ⟨p, hp, rfl⟩ := List.mem_map.mp hc
        obtain ⟨haccepts, hpkt⟩ := rmap_pkt_from_buffer_some_iff.mp (hdecoded p (List.mem_of_mem_take hp))
        have hlength := bufPkt_data_length haccepts
        rw [← hpkt] at hlength
        simp only [replyContent, hlength]
        exact p.2.data_len.toNat_lt
      simpa [Function.comp_def] using ReplyContent.parse_stream hsizes

/-- A write reply and a write command with two data bytes. -/
theorem rmap_reply_stream_iff_write :
    ∃ received : List (List UInt8 × RmapPkt), received.map Prod.fst =
        [[0x30, 0x01, 0x28, 0, 0xfe, 0, 1, 0x55],
          [0xfe, 0x01, 0x64, 0xab, 0x30, 0, 2, 0, 0, 0, 0x10, 0, 0, 0, 2, 0x55, 0xde, 0xad, 0x66]] ∧
      ((∀ w, RepliesRight .quiet (bridge_cfg_init []) received w) ↔ ∀ p ∈ received, ReplyFits p.2) := by
  refine ⟨[[0x30, 0x01, 0x28, 0, 0xfe, 0, 1, 0x55],
    [0xfe, 0x01, 0x64, 0xab, 0x30, 0, 2, 0, 0, 0, 0x10, 0, 0, 0, 2, 0x55, 0xde, 0xad, 0x66]].map
      fun buf => (buf, bufPkt buf), rfl,
    rmap_reply_stream_iff (E := .quiet) (fun _ => rfl) (bridge_cfg_init []) ?_⟩
  simp only [List.map_cons, List.map_nil, List.forall_mem_cons, List.not_mem_nil, false_implies, implies_true,
    and_true]
  exact ⟨rfl, rfl⟩

/-- A read reply with five data bytes makes the bridge write behind its ten-byte
buffer. -/
theorem rmap_reply_read_overruns :
    ∃ pkt : RmapPkt, Decoded (bridge_cfg_init [])
        [0x30, 0x01, 0x0c, 0, 0xfe, 0, 1, 0, 0, 0, 5, 0x55, 1, 2, 3, 4, 5, 0x66] pkt ∧ pkt.data_len = 5 ∧
      ∃ after, rmap_reply_to_clients .quiet (bridge_cfg_init [])
        [0x30, 0x01, 0x0c, 0, 0xfe, 0, 1, 0, 0, 0, 5, 0x55, 1, 2, 3, 4, 5, 0x66] (World.fresh ()) =
          .error (.fault (.write 10)) after :=
  ⟨_, rfl, rfl, _, rfl⟩

end spw_bridge.net
