import SpwBridge.Library.Framing
import SpwBridge.Net.Tcp

open effect framing words

namespace spw_bridge.net

variable {σ : Type} {sockfd : Nat}

/-- A PUS packet: six header bytes, seven bytes more in all than the length
field says. -/
def pusFormat : Format UInt8 where
  hdr := 6
  size front := (be16 (byteAt front 4) (byteAt front 5)).toNat + 7
  hdr_pos := Nat.zero_lt_succ _
  hdr_le _ := by omega

/-- A GRESB packet: four header bytes, the last three the size of the payload. -/
def gresbFormat : Format UInt8 where
  hdr := 4
  size front := (be24 (byteAt front 1) (byteAt front 2) (byteAt front 3)).toNat + 4
  hdr_pos := Nat.zero_lt_succ _
  hdr_le _ := Nat.le_add_left 4 _

/-! ### One call -/

theorem conn_drop_forgets (E : Env σ) (id : SvcId) (sockfd : Nat) (w : World σ) :
    wp (conn_drop E id sockfd) (fun _ after => sockfd ∉ (after.svc id).conn_set)
      (fun _ after => sockfd ∉ (after.svc id).conn_set) w := by
  simp [conn_drop, conn_del, close, fd_clr, wp_ite]

theorem check_pus_sequence_tx_world (E : Env σ) (pkt : List UInt8) (w : World σ) :
    wp (check_pus_sequence_tx E pkt)
      (fun _ after => ∃ t, after = { w with env := (E.malloc w.env).2, pus_seq_tx := t }) (fun _ _ => False) w := by
  obtain ⟨error, t, hcheck⟩ := check_pus_sequence_total (E.malloc w.env).1 pkt w.pus_seq_tx
  simp only [check_pus_sequence_tx, malloc, wp_bind, wp_syscall, wp_get, hcheck, wp_lift_ok, wp_modify]
  exact ⟨t, rfl⟩

/-- What one call of a framer does to its connection: it takes one whole frame
and returns its payload, or it returns nothing and the connection is dropped. -/
def TakesFrame (T : TcpStream σ sockfd) (id : SvcId) (F : Format UInt8) (payload : List UInt8 → List UInt8)
    (framer : Prog σ (Option (List UInt8))) : Prop :=
  ∀ w, wp framer
    (fun received after => match received with
      | some pkt => ∃ frame, F.IsFrame frame ∧ T.unread w.env = frame ++ T.unread after.env ∧ pkt = payload frame
      | none => sockfd ∉ (after.svc id).conn_set)
    (fun _ after => sockfd ∉ (after.svc id).conn_set) w

theorem recv_pus_packet_takesFrame (T : TcpStream σ sockfd) (id : SvcId) :
    TakesFrame T id pusFormat (fun frame => frame) (recv_pus_packet T.toEnv id sockfd) := by
  intro w
  have hdrop := conn_drop_forgets T.toEnv id sockfd
  simp only [recv_pus_packet, wp_bind]
  refine peek_header_unread T rfl (fun s hs _ => ?_) fun s => hdrop _
  simp only [wp_bind]
  refine recv_body_unread T (fun bs s' hbs hlength => ?_) fun s => hdrop _
  simp only [wp_bind]
  refine wp_mono (check_pus_sequence_tx_world T.toEnv bs _) ?_ fun _ _ h => h.elim
  rintro _ after ⟨t, rfl⟩
  -- the header that was looked at is the front of the bytes that were taken
  have hstream : T.unread w.env = bs ++ T.unread s' := hs ▸ hbs
  refine ⟨bs, Format.isFrame_of_front (T.unread s') ?_, ?_, rfl⟩
  · rw [hlength, ← hstream]
    rfl
  · rw [hstream, T.malloc_unread]

theorem recv_gresb_packet_takesFrame (T : TcpStream σ sockfd) (id : SvcId) :
    TakesFrame T id gresbFormat (fun frame => frame.drop 4) (recv_gresb_packet T.toEnv id sockfd) := by
  intro w
  have hdrop := conn_drop_forgets T.toEnv id sockfd
  simp only [recv_gresb_packet, wp_bind]
  refine peek_header_unread T rfl (fun s hs _ => ?_) fun s => hdrop _
  simp only [wp_ite, wp_bind]
  split_ifs
  · exact hdrop _
  · refine recv_body_unread T (fun bs s' hbs hlength => ?_) fun s => hdrop _
    simp only [malloc, wp_bind, wp_syscall, wp_ite, wp_pure]
    split_ifs
    · have hstream : T.unread w.env = bs ++ T.unread s' := hs ▸ hbs
      refine ⟨bs, Format.isFrame_of_front (T.unread s') ?_, ?_, ?_⟩
      · rw [hlength, ← hstream]
        rfl
      · rw [hstream, T.malloc_unread]
      · rw [gresb_get_spw_data, List.take_of_length_le]
        · rfl
        · rw [List.length_drop, hlength]
          simp
    · exact hdrop _

/-! ### Repeated calls -/

/-- What a call of a framer returned to its caller. -/
def returned : EStateM.Result Halt (World σ) (Option (List UInt8)) → Option (List UInt8)
  | .ok received _ => received
  | .error _ _ => none

/-- The framer called again and again for one connection, as long as that is in
the set of its service, with the results of the calls. In between the rest of
the bridge does anything but read from the connection or put it back. -/
inductive FramerRun (T : TcpStream σ sockfd) (id : SvcId) (framer : Prog σ (Option (List UInt8))) :
    World σ → List (Option (List UInt8)) → World σ → Prop
  | start (w : World σ) : FramerRun T id framer w [] w
  | between {w mid after : World σ} {results : List (Option (List UInt8))}
      (hrun : FramerRun T id framer w results mid) (hunread : T.unread after.env = T.unread mid.env)
      (hset : sockfd ∈ (after.svc id).conn_set → sockfd ∈ (mid.svc id).conn_set) :
      FramerRun T id framer w results after
  | call {w mid : World σ} {results : List (Option (List UInt8))} (hrun : FramerRun T id framer w results mid)
      (hmem : sockfd ∈ (mid.svc id).conn_set) :
      FramerRun T id framer w (results ++ [returned (framer mid)]) (final (framer mid))

variable {T : TcpStream σ sockfd} {id : SvcId} {F : Format UInt8} {payload : List UInt8 → List UInt8}
  {framer : Prog σ (Option (List UInt8))}

/-- What holds of a connection after any number of calls: so far whole frames
were taken, or the last call failed and the connection is gone. -/
inductive Position (T : TcpStream σ sockfd) (id : SvcId) (F : Format UInt8) (payload : List UInt8 → List UInt8)
    (stream : List UInt8) : List (Option (List UInt8)) → World σ → Prop
  | boundary (frames : List (List UInt8)) {w : World σ} (hframes : ∀ frame ∈ frames, F.IsFrame frame)
      (hstream : stream = frames.flatten ++ T.unread w.env) :
      Position T id F payload stream (frames.map fun frame => some (payload frame)) w
  | dropped (frames : List (List UInt8)) {w : World σ} (hframes : ∀ frame ∈ frames, F.IsFrame frame)
      (hbegins : frames.flatten <+: stream) (hset : sockfd ∉ (w.svc id).conn_set) :
      Position T id F payload stream ((frames.map fun frame => some (payload frame)) ++ [none]) w

theorem FramerRun.position (hframer : TakesFrame T id F payload framer) {w after : World σ}
    {results : List (Option (List UInt8))} (hrun : FramerRun T id framer w results after) :
    Position T id F payload (T.unread w.env) results after := by
  induction hrun with
  | start => exact .boundary [] (by simp) rfl
  | between hrun hunread hset ih =>
    cases ih with
    | boundary _ hframes hstream => exact .boundary _ hframes (by rw [hstream, hunread])
    | dropped _ hframes hbegins hgone => exact .dropped _ hframes hbegins fun hmem => hgone (hset hmem)
  | @call mid results hrun hmem ih =>
    have hcall := hframer mid
    cases ih with
    | dropped _ _ _ hgone => exact absurd hmem hgone
    | boundary frames hframes hstream =>
      have hfailed : ∀ gone : World σ, sockfd ∉ (gone.svc id).conn_set → Position T id F payload
          (T.unread w.env) ((frames.map fun frame => some (payload frame)) ++ [none]) gone :=
        fun gone => .dropped frames hframes ⟨_, hstream.symm⟩
      unfold wp at hcall
      cases hresult : framer mid with
      | error halt gone =>
        rw [hresult] at hcall
        exact hfailed gone hcall
      | ok received next =>
        rw [hresult] at hcall
        cases received with
        | none => exact hfailed next hcall
        | some pkt =>
          obtain ⟨frame, hframe, htaken, rfl⟩ := hcall
          have hmap : (frames.map fun frame => some (payload frame)) ++ [some (payload frame)] =
              (frames ++ [frame]).map fun frame => some (payload frame) := by
            rw [List.map_append, List.map_cons, List.map_nil]
          rw [returned, hmap]
          refine .boundary (frames ++ [frame]) ?_ ?_
          · intro other hother
            rcases List.mem_append.mp hother with hother | hother
            · exact hframes other hother
            · exact List.mem_singleton.mp hother ▸ hframe
          · rw [final, List.flatten_append, List.flatten_singleton, List.append_assoc, ← htaken, hstream]

/-- A connection that is gone stays untouched. -/
theorem FramerRun.gone {w after : World σ} {results : List (Option (List UInt8))}
    (hrun : FramerRun T id framer w results after) (hgone : sockfd ∉ (w.svc id).conn_set) :
    results = [] ∧ T.unread after.env = T.unread w.env ∧ sockfd ∉ (after.svc id).conn_set := by
  induction hrun with
  | start => exact ⟨rfl, rfl, hgone⟩
  | between hrun hunread hset ih =>
    obtain ⟨hresults, hmid, hout⟩ := ih
    exact ⟨hresults, hunread.trans hmid, fun hmem => hout (hset hmem)⟩
  | call hrun hmem ih => exact absurd hmem ih.2.2

/-- A framer that keeps the boundaries of a stream: what its calls returned are
the first packets of the one division of the stream, and after a failed call the
connection is dropped, so that nothing more is taken from it. -/
structure KeepsBoundaries (T : TcpStream σ sockfd) (id : SvcId) (F : Format UInt8)
    (payload : List UInt8 → List UInt8) (framer : Prog σ (Option (List UInt8))) (w : World σ)
    (results : List (Option (List UInt8))) (after : World σ) : Prop where
  packets : ∃ frames rest, F.IsDivision (T.unread w.env) frames rest ∧
    (∀ frames' rest', F.IsDivision (T.unread w.env) frames' rest' → frames' = frames) ∧
    results.filterMap (fun received => received) <+: frames.map payload
  dropped : none ∈ results → sockfd ∉ (after.svc id).conn_set
  nothing_more : none ∈ results → ∀ results' later, FramerRun T id framer after results' later →
    results' = [] ∧ T.unread later.env = T.unread after.env

/-- Taking whole frames is enough. -/
theorem FramerRun.keepsBoundaries (hframer : TakesFrame T id F payload framer) {w after : World σ}
    {results : List (Option (List UInt8))} (hrun : FramerRun T id framer w results after) :
    KeepsBoundaries T id F payload framer w results after := by
  have hposition := hrun.position hframer
  have hreturned : ∀ frames : List (List UInt8),
      (frames.map fun frame => some (payload frame)).filterMap (fun received => received) = frames.map payload := by
    intro frames
    rw [List.filterMap_map]
    exact congrFun List.filterMap_eq_map frames
  have hdropped : none ∈ results → sockfd ∉ (after.svc id).conn_set := by
    intro hnone
    cases hposition with
    | boundary frames hframes hstream => simp at hnone
    | dropped frames hframes hbegins hset => exact hset
  refine ⟨?_, hdropped, fun hnone results' later hlater => ?_⟩
  · obtain ⟨rest, hdivision⟩ := F.divide_isDivision (T.unread w.env)
    refine ⟨_, rest, hdivision, fun frames' rest' hother => hother.unique, ?_⟩
    cases hposition with
    | boundary frames hframes hstream =>
      rw [hreturned]
      exact (Format.prefix_divide hframes ⟨_, hstream.symm⟩).map payload
    | dropped frames hframes hbegins hset =>
      rw [List.filterMap_append, hreturned, List.filterMap_cons_none rfl, List.filterMap_nil, List.append_nil]
      exact (Format.prefix_divide hframes hbegins).map payload
  · obtain ⟨hresults, hunread, _⟩ := hlater.gone (hdropped hnone)
    exact ⟨hresults, hunread⟩

/-- The PUS framer and the GRESB framer keep the boundaries of every stream,
whatever the receive calls and the allocations do. -/
theorem framers_keep_boundaries (T : TcpStream σ sockfd) (id : SvcId) (w after : World σ)
    (results : List (Option (List UInt8))) :
    (FramerRun T id (recv_pus_packet T.toEnv id sockfd) w results after →
      KeepsBoundaries T id pusFormat (fun frame => frame) (recv_pus_packet T.toEnv id sockfd) w results after) ∧
    (FramerRun T id (recv_gresb_packet T.toEnv id sockfd) w results after →
      KeepsBoundaries T id gresbFormat (fun frame => frame.drop 4) (recv_gresb_packet T.toEnv id sockfd)
        w results after) :=
  ⟨FramerRun.keepsBoundaries (recv_pus_packet_takesFrame T id),
    FramerRun.keepsBoundaries (recv_gresb_packet_takesFrame T id)⟩

/-- A client on descriptor 5 of every service that has sent `queue`. -/
def clientWorld (queue : List UInt8) : World TcpState :=
  { World.fresh ⟨queue, [], []⟩ with svc := fun _ => ⟨3, {5}, 6, [], 0⟩ }

/-- Each framer gets a packet and then the front of another one. -/
theorem framers_keep_boundaries_short :
    (∃ after, KeepsBoundaries (tcpStream 5 fun _ => none) .data pusFormat (fun frame => frame)
      (recv_pus_packet (tcpStream 5 fun _ => none).toEnv .data 5)
      (clientWorld [0x18, 0x01, 0xc0, 0x00, 0x00, 0x00, 0xaa, 0x18, 0x01])
      [some [0x18, 0x01, 0xc0, 0x00, 0x00, 0x00, 0xaa], none] after) ∧
    ∃ after, KeepsBoundaries (tcpStream 5 fun _ => none) .gresb_tx gresbFormat (fun frame => frame.drop 4)
      (recv_gresb_packet (tcpStream 5 fun _ => none).toEnv .gresb_tx 5)
      (clientWorld [0x00, 0x00, 0x00, 0x02, 0xaa, 0xbb, 0x00, 0x00, 0x00])
      [some [0xaa, 0xbb], none] after :=
  ⟨⟨_, (framers_keep_boundaries (tcpStream 5 fun _ => none) .data _ _ _).1
      (.call (.call (.start _) (by decide)) (by decide))⟩,
    ⟨_, (framers_keep_boundaries (tcpStream 5 fun _ => none) .gresb_tx _ _ _).2
      (.call (.call (.start _) (by decide)) (by decide))⟩⟩

end spw_bridge.net
