import SpwBridge.Net.Boundaries

open effect framing

namespace spw_bridge.net

variable {σ : Type} {sockfd : Nat}

theorem host_hdr_pos : 0 < 4 := Nat.succ_pos 3

theorem host_hdr_le (front : List UInt8) : 4 ≤ gresb_get_host_data_pkt_size front := Nat.le_add_right 4 _

/-- A host-to-GRESB message, as long as the library says. -/
def hostFormat : Format UInt8 where
  hdr := 4
  size front := gresb_get_host_data_pkt_size front
  hdr_pos := host_hdr_pos
  hdr_le := host_hdr_le

/-- The size of a message is in its header. -/
theorem host_size_of_header {msg : List UInt8} (hmsg : hostFormat.IsFrame msg) :
    gresb_get_host_data_pkt_size msg = msg.length := by
  rw [← hmsg]
  change gresb_get_host_data_pkt_size msg = gresb_get_host_data_pkt_size (msg.take 4)
  simp [gresb_get_host_data_pkt_size, gresb_host_pkt_get_data_size, byteAt_take]

/-- A connection that delivers without error: a header that has been sent is
there to be looked at, a receive call gets some of the bytes that are left, and
no allocation fails. Any stream can come in on it. -/
structure TcpStream.Delivers (T : TcpStream σ sockfd) : Prop where
  malloc : ∀ s, (T.malloc s).1 = true
  deadline : ∀ s, (T.deadline_expired s).1 = false
  peek : ∀ s n flags, flags.peek = true → n ≤ (T.unread s).length →
    (T.recv s sockfd n flags).1.clip n = .bytes ((T.unread s).take n)
  recv : ∀ s n, T.unread s ≠ [] → 0 < n → ∃ b bs, (T.recv s sockfd n .none).1.clip n = .bytes (b :: bs)
  every : ∀ stream, ∃ s, T.unread s = stream

/-! ### Calls on such a connection -/

section delivers

variable {T : TcpStream σ sockfd} (hT : T.Delivers)

include hT

/-- `recv_exact` gets all that it asks for. -/
theorem recv_exact_loop_delivers {fuel left : Nat} (hfuel : left ≤ fuel) (got : List UInt8) {w : World σ}
    (hleft : left ≤ (T.unread w.env).length) :
    wp (recv_exact_loop T.toEnv sockfd fuel got left)
      (fun r after => ∃ s, after = { w with env := s } ∧ r = .bytes (got ++ (T.unread w.env).take left) ∧
        T.unread s = (T.unread w.env).drop left)
      (fun _ _ => False) w := by
  induction fuel generalizing got left w with
  | zero =>
    obtain rfl : left = 0 := Nat.le_zero.mp hfuel
    exact ⟨w.env, rfl, by simp, rfl⟩
  | succ fuel ih =>
    cases left with
    | zero => exact ⟨w.env, rfl, by simp, rfl⟩
    | succ left =>
      have hunread : T.unread w.env ≠ [] := List.ne_nil_of_length_pos (by omega)
      obtain ⟨b, bs, hrecv⟩ := hT.recv w.env (left + 1) hunread (Nat.succ_pos left)
      obtain ⟨⟨rest, hrest⟩, htaken⟩ := T.recv_bytes hrecv
      have hlength := RecvResult.clip_length hrecv
      have hdeadline := T.deadline_unread (T.recv w.env sockfd (left + 1) .none).2
      have hafter : T.unread (T.deadline_expired (T.recv w.env sockfd (left + 1) .none).2).2 = rest := by
        rw [hdeadline, htaken, ← hrest]
        simp [RecvFlags.none]
      have htotal := congrArg List.length hrest
      simp only [List.length_append, List.length_cons] at htotal hlength
      simp only [recv_exact_loop, recv, wp_bind, wp_syscall, hrecv, hT.deadline, Bool.false_eq_true, ↓reduceIte]
      have hroom : left - bs.length ≤ (T.unread
          (T.deadline_expired (T.recv w.env sockfd (left + 1) .none).2).2).length := by
        rw [hafter]
        omega
      apply wp_mono_post (ih (by omega) (got ++ b :: bs) hroom)
      rintro r after ⟨s, hsame, hr, hs⟩
      have hcount : left + 1 = (b :: bs).length + (left - bs.length) := by
        rw [List.length_cons]
        omega
      refine ⟨s, hsame, ?_, ?_⟩
      · rw [hr, hafter, ← hrest, hcount, List.take_length_add_append, List.append_assoc]
      · rw [hs, hafter, ← hrest, hcount, List.drop_length_add_append]

variable {n : Nat} {drop : Prog σ Unit} {post : Option (List UInt8) → World σ → Prop}
  {fails : Halt → World σ → Prop} {w : World σ}

theorem recv_body_delivers (hroom : n ≤ (T.unread w.env).length)
    (hgot : ∀ s, T.unread s = (T.unread w.env).drop n →
      post (some ((T.unread w.env).take n)) { w with env := s }) :
    wp (recv_body T.toEnv sockfd n drop) post fails w := by
  have hmalloc := T.malloc_unread w.env
  have hlength : ((T.unread w.env).take n).length = n := by
    rw [List.length_take]
    omega
  simp only [recv_body, malloc, wp_bind, wp_syscall, hT.malloc, ↓reduceIte]
  apply wp_mono (recv_exact_loop_delivers hT le_rfl [] (by rw [hmalloc]; exact hroom))
  · rintro r after ⟨s, rfl, rfl, hs⟩
    rw [hmalloc] at hs
    simp only [hmalloc, List.nil_append, expect, hlength, ↓reduceIte, wp_pure]
    exact hgot s hs
  · exact fun _ _ h => h.elim

theorem peek_header_delivers {flags : RecvFlags} (hpeek : flags.peek = true) (hroom : n ≤ (T.unread w.env).length)
    (hgot : ∀ s, T.unread s = T.unread w.env → post (some ((T.unread w.env).take n)) { w with env := s }) :
    wp (peek_header T.toEnv sockfd n flags drop) post fails w := by
  have hlook := hT.peek w.env n flags hpeek hroom
  obtain ⟨_, hunread⟩ := T.recv_bytes hlook
  rw [hpeek, if_pos rfl, List.drop_zero] at hunread
  have hlength : ((T.unread w.env).take n).length = n := by
    rw [List.length_take]
    omega
  simp only [peek_header, recv, wp_bind, wp_syscall, hlook, expect, hlength, ↓reduceIte, wp_pure]
  exact hgot _ hunread

/-- A call of the receiver takes the header and as many bytes as its size field
says, and returns a packet. -/
theorem recv_gresb_packet_delivers (id : SvcId)
    (hn : gresb_get_spw_data_size ((T.unread w.env).take 4) = n) (hroom : n + 4 ≤ (T.unread w.env).length) :
    wp (recv_gresb_packet T.toEnv id sockfd)
      (fun received after => received ≠ none ∧ T.unread after.env = (T.unread w.env).drop (n + 4))
      (fun _ _ => False) w := by
  have hlt := gresb_get_spw_data_size_lt ((T.unread w.env).take 4)
  have hsize : ¬ n > MAX_SPW_PACKET_SIZE := by
    rw [MAX_SPW_PACKET_SIZE, rmap.RMAP_MAX_DATA_LEN]
    omega
  simp only [recv_gresb_packet, GRESB_HDR_SIZE, wp_bind]
  apply peek_header_delivers hT rfl (by omega)
  intro s hs
  simp only [hn, hsize, ↓reduceIte, wp_bind]
  apply recv_body_delivers hT (by rw [hs]; exact hroom)
  intro s' hs'
  simp only [malloc, wp_bind, wp_syscall, hT.malloc, ↓reduceIte, wp_pure]
  refine ⟨Option.some_ne_none _, ?_⟩
  rw [T.malloc_unread, hs', hs]

end delivers

/-! ### A stream of messages -/

/-- The receiver and the library agree on the messages at the front of a stream:
each call takes one message off, as long as the library says, and returns a
packet for data messages only. In between the rest of the bridge does anything
but read from the connection. -/
def AgreesOn (T : TcpStream σ sockfd) (id : SvcId) : List (List UInt8) → World σ → Prop
  | [], _ => True
  | msg :: msgs, w => wp (recv_gresb_packet T.toEnv id sockfd)
    (fun received after => T.unread after.env = (T.unread w.env).drop (gresb_get_host_data_pkt_size msg) ∧
      (received ≠ none → byteAt msg 0 = GRESB_FROM_HOST_DATA) ∧
      ∀ next : World σ, T.unread next.env = T.unread after.env → AgreesOn T id msgs next)
    (fun _ _ => False) w

section agrees

variable {T : TcpStream σ sockfd} {id : SvcId}

/-- The receiver's size of a message, in a stream that begins with it. -/
theorem receiver_size {msg : List UInt8} (hmsg : hostFormat.IsFrame msg) (rest : List UInt8) :
    gresb_get_spw_data_size ((msg ++ rest).take 4) = gresb_get_spw_data_size msg := by
  have hheader : (msg ++ rest).take 4 = msg.take 4 := hmsg.take_hdr rest
  rw [hheader]
  simp [gresb_get_spw_data_size, byteAt_take]

/-- On a data message both sizes are the same. -/
theorem data_size {msg : List UInt8} (hdata : byteAt msg 0 = GRESB_FROM_HOST_DATA) :
    gresb_get_host_data_pkt_size msg = gresb_get_spw_data_size msg + 4 := by
  rw [gresb_get_host_data_pkt_size, gresb_host_pkt_get_data_size, if_pos hdata, Nat.add_comm]
  rfl

/-- A data message is taken as one. -/
theorem data_message_taken (hT : T.Delivers) (id : SvcId) {msg rest : List UInt8} (hmsg : hostFormat.IsFrame msg)
    (hdata : byteAt msg 0 = GRESB_FROM_HOST_DATA) {w : World σ} (hunread : T.unread w.env = msg ++ rest) :
    wp (recv_gresb_packet T.toEnv id sockfd) (fun _ after => T.unread after.env = rest) (fun _ _ => False) w := by
  have hsize : gresb_get_spw_data_size msg + 4 = msg.length := by
    rw [← data_size hdata, host_size_of_header hmsg]
  have hheader : gresb_get_spw_data_size ((T.unread w.env).take 4) = gresb_get_spw_data_size msg := by
    rw [hunread]
    exact receiver_size hmsg rest
  have hroom : gresb_get_spw_data_size msg + 4 ≤ (T.unread w.env).length := by
    rw [hunread, List.length_append, hsize]
    exact Nat.le_add_right _ _
  apply wp_mono_post (recv_gresb_packet_delivers hT id hheader hroom)
  rintro received after ⟨_, hafter⟩
  rw [hafter, hunread, hsize, List.drop_left]

/-- A message of any other protocol becomes a packet too. -/
theorem control_message_returned (hT : T.Delivers) (id : SvcId) {msg rest : List UInt8}
    (hmsg : hostFormat.IsFrame msg) (hrest : gresb_get_spw_data_size msg ≤ rest.length) {w : World σ}
    (hunread : T.unread w.env = msg ++ rest) :
    wp (recv_gresb_packet T.toEnv id sockfd) (fun received _ => received ≠ none) (fun _ _ => False) w := by
  have hheader : gresb_get_spw_data_size ((T.unread w.env).take 4) = gresb_get_spw_data_size msg := by
    rw [hunread]
    exact receiver_size hmsg rest
  have hroom : gresb_get_spw_data_size msg + 4 ≤ (T.unread w.env).length := by
    have hle : 4 ≤ msg.length := hmsg.hdr_le_length
    rw [hunread, List.length_append]
    omega
  apply wp_mono_post (recv_gresb_packet_delivers hT id hheader hroom)
  rintro received after ⟨hreceived, _⟩
  exact hreceived

/-- Data messages are taken one after the other. -/
theorem agrees_on_data (hT : T.Delivers) (id : SvcId) {msgs : List (List UInt8)}
    (hmsgs : ∀ msg ∈ msgs, hostFormat.IsFrame msg) (hdata : ∀ msg ∈ msgs, byteAt msg 0 = GRESB_FROM_HOST_DATA)
    {w : World σ} (hbegins : msgs.flatten <+: T.unread w.env) : AgreesOn T id msgs w := by
  induction msgs generalizing w with
  | nil => exact trivial
  | cons msg msgs ih =>
    obtain ⟨hmsg, hmsgs'⟩ := List.forall_mem_cons.mp hmsgs
    obtain ⟨hfirst, hdata'⟩ := List.forall_mem_cons.mp hdata
    obtain ⟨rest, hrest⟩ := hbegins
    rw [List.flatten_cons, List.append_assoc] at hrest
    apply wp_mono_post (data_message_taken hT id hmsg hfirst hrest.symm)
    intro received after hafter
    refine ⟨?_, fun _ => hfirst, ?_⟩
    · rw [hafter, ← hrest, host_size_of_header hmsg, List.drop_left]
    · intro next hnext
      exact ih hmsgs' hdata' ⟨rest, by rw [hnext, hafter]⟩

end agrees

/-- The receiver agrees with the library on the messages that streams begin with
exactly when all of them are data messages: it does not look at the protocol. -/
theorem gresb_receiver_agrees_iff (T : TcpStream σ sockfd) (hT : T.Delivers) (id : SvcId)
    (msgs : List (List UInt8)) (hmsgs : ∀ msg ∈ msgs, hostFormat.IsFrame msg) :
    (∀ w : World σ, msgs.flatten <+: T.unread w.env → AgreesOn T id msgs w) ↔
      ∀ msg ∈ msgs, byteAt msg 0 = GRESB_FROM_HOST_DATA := by
  constructor
  · intro hagrees
    induction msgs with
    | nil => simp
    | cons msg msgs ih =>
      obtain ⟨hmsg, hmsgs'⟩ := List.forall_mem_cons.mp hmsgs
      have hfirst : byteAt msg 0 = GRESB_FROM_HOST_DATA := by
        -- as many octets follow as the receiver takes for the message
        obtain ⟨s, hs⟩ := hT.every (msg ++ (msgs.flatten ++ List.replicate (gresb_get_spw_data_size msg) 0))
        have hcall := hagrees (World.fresh s) ⟨List.replicate (gresb_get_spw_data_size msg) 0, by
          rw [List.flatten_cons, List.append_assoc]
          exact hs.symm⟩
        have hreturned := @control_message_returned σ sockfd T hT id msg
          (msgs.flatten ++ List.replicate (gresb_get_spw_data_size msg) 0) hmsg (by simp) (World.fresh s) hs
        rw [AgreesOn] at hcall
        obtain ⟨received, after, _, ⟨_, honly, _⟩, hpacket⟩ := ok_of_wp_and hcall hreturned
        exact honly hpacket
      rw [List.forall_mem_cons]
      refine ⟨hfirst, ih hmsgs' ?_⟩
      intro w hbegins
      obtain ⟨s, hs⟩ := hT.every (msg ++ T.unread w.env)
      have hcall := hagrees (World.fresh s) (by
        rw [List.flatten_cons]
        change _ <+: T.unread s
        rw [hs]
        exact List.prefix_append_right_inj msg |>.mpr hbegins)
      have htaken := @data_message_taken σ sockfd T hT id msg (T.unread w.env) hmsg hfirst (World.fresh s) hs
      rw [AgreesOn] at hcall
      obtain ⟨received, after, _, ⟨_, _, hlater⟩, hafter⟩ := ok_of_wp_and hcall htaken
      exact hlater w hafter.symm
  · intro hdata w hbegins
    exact agrees_on_data hT id hmsgs hdata hbegins

/-- A connection on which all that was sent has arrived. -/
def arrivedStream (sockfd : Nat) : TcpStream (List UInt8) sockfd where
  recv s fd n flags :=
    if fd ≠ sockfd then (.error .EAGAIN, s)
    else (.bytes (s.take n), s.drop (if flags.peek then 0 else n))
  fionread s _ := (some s.length, s)
  recvfrom s _ _ := (none, s)
  send s _ buf := (.sent buf.length, s)
  sendto s _ _ _ := s
  close s _ := s
  select s watched := (watched, s)
  malloc s := (true, s)
  deadline_expired s := (false, s)
  patience _ := 1
  device s := (true, s)
  STAR_openChannel s number := (number + 1, s)
  STAR_createPacket s := (true, s)
  STAR_createTxOperation s := (true, s)
  STAR_submitTransferOperation s := (true, s)
  STAR_waitOnTransferOperationCompletion s := (true, s)
  STAR_transmitPacket s := (true, s)
  RMAP_BuildCommandPacket s _ := (none, s)
  unread s := s
  recv_bytes := by
    intro s n flags bs hrecv
    simp only [ne_eq, not_true_eq_false, ↓reduceIte, RecvResult.clip, List.take_take, Nat.min_self,
      RecvResult.bytes.injEq] at hrecv ⊢
    subst hrecv
    refine ⟨List.take_prefix n s, ?_⟩
    split
    · rfl
    · rw [List.length_take]
      rcases Nat.le_total n s.length with hle | hle
      · rw [Nat.min_eq_left hle]
      · rw [Nat.min_eq_right hle, List.drop_length, List.drop_eq_nil_of_le hle]
  recv_error := by
    intro s n flags errno hrecv
    simp [RecvResult.clip] at hrecv
  malloc_unread _ := rfl
  deadline_unread _ := rfl

theorem arrivedStream_delivers (sockfd : Nat) : (arrivedStream sockfd).Delivers where
  malloc _ := rfl
  deadline _ := rfl
  peek := by
    intro s n flags _ _
    simp [arrivedStream, RecvResult.clip]
  recv := by
    intro s n hs hn
    obtain ⟨b, bs, rfl⟩ := List.exists_cons_of_ne_nil hs
    obtain ⟨m, rfl⟩ := Nat.exists_eq_succ_of_ne_zero (Nat.ne_of_gt hn)
    simp [arrivedStream, RecvResult.clip]
  every stream := ⟨stream, rfl⟩

/-- Two data messages, the second one empty. -/
theorem gresb_receiver_agrees_data :
    AgreesOn (arrivedStream 5) .gresb_tx [[0x00, 0x00, 0x00, 0x01, 0xaa], [0x00, 0x00, 0x00, 0x00]]
      (World.fresh [0x00, 0x00, 0x00, 0x01, 0xaa, 0x00, 0x00, 0x00, 0x00]) := by
  have hagrees := gresb_receiver_agrees_iff (arrivedStream 5) (arrivedStream_delivers 5) .gresb_tx
    [[0x00, 0x00, 0x00, 0x01, 0xaa], [0x00, 0x00, 0x00, 0x00]] (by decide)
  exact hagrees.mpr (by decide) _ (List.prefix_refl _)

/-- A configuration message of four octets takes an octet of the data message
behind it along. -/
theorem gresb_receiver_disagrees :
    ¬ ∀ msgs : List (List UInt8), (∀ msg ∈ msgs, hostFormat.IsFrame msg) →
      ∀ w : World (List UInt8), msgs.flatten <+: w.env → AgreesOn (arrivedStream 5) .gresb_tx msgs w := by
  intro hall
  have hcall := hall [[0x01, 0x00, 0x00, 0x01], [0x00, 0x00, 0x00, 0x01, 0xaa]] (by decide)
    (World.fresh [0x01, 0x00, 0x00, 0x01, 0x00, 0x00, 0x00, 0x01, 0xaa]) (List.prefix_refl _)
  have hsize : [0x00, 0x00, 0x00, 0x01, 0xaa] = ([0x00, 0x00, 0x01, 0xaa] : List UInt8) := hcall.1.symm
  cases hsize

end spw_bridge.net
