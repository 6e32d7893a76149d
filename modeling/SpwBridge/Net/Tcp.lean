import SpwBridge.Net.Stream

open effect

namespace spw_bridge.net

variable {sockfd : Nat}

/-! ### A connection fed by segments -/

/-- The receiving end of a connection: the bytes that have arrived, the segments
that are under way, and how many of these arrive before each of the next
calls. -/
structure TcpState where
  queue : List UInt8
  wire : List (List UInt8)
  sched : List Nat
  deriving DecidableEq, Repr

namespace TcpState

/-- All that has not been taken yet. -/
def unread (s : TcpState) : List UInt8 := s.queue ++ s.wire.flatten

/-- The next `n` segments arrive. -/
def arrive (n : Nat) (s : TcpState) : TcpState :=
  { s with queue := s.queue ++ (s.wire.take n).flatten, wire := s.wire.drop n }

/-- What arrives before a call. -/
def tick (s : TcpState) : TcpState := { s.arrive (s.sched.headD 0) with sched := s.sched.tail }

/-- A call that waits for data lets one more segment arrive. -/
def await (s : TcpState) : TcpState := if s.queue = [] then s.arrive 1 else s

/-- What `select()` waits for: it may time out as long as there is a schedule. -/
def select (s : TcpState) : TcpState := if s.sched = [] then s.tick.await else s.tick

end TcpState

/-- The connection on `sockfd`, in an environment without errors: only a receive
call that must not wait, or one on a connection on which nothing more comes,
returns without data. `build` is the RMAP packet library. -/
def tcpEnv (sockfd : Nat) (build : RmapRequest → Option (List UInt8)) : Env TcpState where
  recv s fd n flags :=
    if fd ≠ sockfd then (.error .EAGAIN, s)
    else
      let now := if flags.dontwait then s.tick else s.tick.await
      if now.queue = [] then (.error .EAGAIN, now)
      else (.bytes (now.queue.take n), { now with queue := now.queue.drop (if flags.peek then 0 else n) })
  fionread s fd := (if fd = sockfd then some s.queue.length else none, s)
  recvfrom s _ _ := (none, s)
  send s _ buf := (.sent buf.length, s)
  sendto s _ _ _ := s
  close s _ := s
  select s watched := (if s.select.queue = [] then ∅ else watched ∩ {sockfd}, s.select)
  malloc s := (true, s)
  deadline_expired s := (false, s)
  patience _ := 1
  device s := (true, s)
  STAR_openChannel s number := (number + 1, s)
  STAR_createPacket s := (true, s)
  STAR_createTxOperation s := (true, s)
  STAR_submitTransferOperation s := (true, s)
  STAR_waitOnTransferOperationCompletion s := (true, s)
  STAR_transmitPacket s := (true, s)
  RMAP_BuildCommandPacket s request := (build request, s)

/-- A step of the connection that takes `n` bytes. Without a schedule, and as
long as bytes stay in the queue, nothing arrives meanwhile. -/
structure Took (n : Nat) (s after : TcpState) : Prop where
  unread : after.unread = s.unread.drop n
  wire : after.wire <:+ s.wire
  sched : after.sched <:+ s.sched
  lazy : s.sched = [] → n < s.queue.length → after.wire = s.wire

namespace TcpState

@[simp] theorem unread_arrive (n : Nat) (s : TcpState) : (s.arrive n).unread = s.unread := by
  rw [unread, unread, arrive, List.append_assoc, ← List.flatten_append, List.take_append_drop]

@[simp] theorem unread_tick (s : TcpState) : s.tick.unread = s.unread := unread_arrive _ s

@[simp] theorem unread_await (s : TcpState) : s.await.unread = s.unread := by
  unfold await
  split
  · exact unread_arrive 1 s
  · rfl

end TcpState

theorem Took.refl (s : TcpState) : Took 0 s s :=
  ⟨rfl, List.suffix_rfl, List.suffix_rfl, fun _ _ => rfl⟩

/-- The queue is what is unread and not on the wire. -/
theorem TcpState.length_unread (s : TcpState) : s.unread.length = s.queue.length + s.wire.flatten.length :=
  List.length_append

theorem length_flatten_le_of_suffix {α : Type} {ws wire : List (List α)} (hws : ws <:+ wire) :
    ws.flatten.length ≤ wire.flatten.length := by
  obtain ⟨front, rfl⟩ := hws
  simp

/-- Taking `n` bytes shortens the queue by at most that. -/
theorem Took.queue_length {n : Nat} {s after : TcpState} (htook : Took n s after) (hn : n ≤ s.unread.length) :
    s.queue.length ≤ after.queue.length + n := by
  have hlength := congrArg List.length htook.unread
  have hwire := length_flatten_le_of_suffix htook.wire
  rw [List.length_drop, TcpState.length_unread, TcpState.length_unread] at hlength
  rw [TcpState.length_unread] at hn
  omega

/-- Steps compose. -/
theorem Took.trans {m n : Nat} {s mid after : TcpState} (hfirst : Took m s mid) (hrest : Took n mid after)
    (hm : m ≤ s.unread.length) : Took (m + n) s after where
  unread := by rw [hrest.unread, hfirst.unread, List.drop_drop]
  wire := hrest.wire.trans hfirst.wire
  sched := hrest.sched.trans hfirst.sched
  lazy := by
    intro hsched hqueue
    have hmid := hfirst.queue_length hm
    have hidle : mid.sched = [] := List.suffix_nil.mp (hsched ▸ hfirst.sched)
    rw [hrest.lazy hidle (by omega), hfirst.lazy hsched (by omega)]

theorem Took.idle_trans {n : Nat} {s mid after : TcpState} (hfirst : Took 0 s mid) (hrest : Took n mid after) :
    Took n s after := by
  simpa using hfirst.trans hrest (Nat.zero_le _)

theorem TcpState.tick_took (s : TcpState) : Took 0 s s.tick where
  unread := unread_tick s
  wire := List.drop_suffix _ s.wire
  sched := List.tail_suffix s.sched
  lazy := by
    intro hsched _
    simp [tick, arrive, hsched]

theorem TcpState.tick_eq {s : TcpState} (hidle : s.sched = []) : s.tick = s := by
  obtain ⟨queue, wire, sched⟩ := s
  subst hidle
  simp [tick, arrive]

/-- Waiting changes nothing while there is data. -/
theorem TcpState.await_eq {s : TcpState} (hqueue : s.queue ≠ []) : s.await = s := if_neg hqueue

/-- Waiting brings data if anything is left to come. -/
theorem TcpState.await_queue {s : TcpState} (hunread : s.unread ≠ []) (hwire : [] ∉ s.wire) :
    s.await.queue ≠ [] := by
  unfold await
  split
  · rename_i hempty
    obtain ⟨queue, wire, sched⟩ := s
    cases wire with
    | nil => simp_all [unread]
    | cons segment wire =>
      simp only [List.mem_cons, not_or] at hwire
      simpa [arrive] using fun _ => Ne.symm hwire.1
  · assumption

theorem TcpState.await_took (s : TcpState) : Took 0 s s.await where
  unread := unread_await s
  wire := by
    unfold await
    split
    · exact List.drop_suffix 1 s.wire
    · exact List.suffix_rfl
  sched := by
    unfold await
    split <;> exact List.suffix_rfl
  lazy := by
    intro _ hqueue
    rw [await_eq (List.ne_nil_of_length_pos hqueue)]

theorem TcpState.tick_await_took (s : TcpState) : Took 0 s s.tick.await :=
  s.tick_took.idle_trans s.tick.await_took

theorem TcpState.select_took (s : TcpState) : Took 0 s s.select := by
  unfold select
  split
  · exact s.tick_await_took
  · exact s.tick_took

/-- Without a schedule a queue with data is reported as it is. -/
theorem TcpState.select_eq {s : TcpState} (hidle : s.sched = []) (hqueue : s.queue ≠ []) : s.select = s := by
  rw [select, if_pos hidle, tick_eq hidle, await_eq hqueue]

/-- If nothing is reported, then nothing is left to come or the schedule goes
on. -/
theorem TcpState.select_idle {s : TcpState} (hwire : [] ∉ s.wire) (hidle : s.select.queue = []) :
    (s.unread = [] ∧ s.sched = []) ∨ s.select.sched.length < s.sched.length := by
  by_cases hsched : s.sched = []
  · refine Or.inl ⟨?_, hsched⟩
    by_contra hunread
    rw [select, if_pos hsched, tick_eq hsched] at hidle
    exact await_queue hunread hwire hidle
  · right
    have hpos := List.length_pos_of_ne_nil hsched
    rw [select, if_neg hsched, tick, List.length_tail]
    omega

/-- Taking bytes off the queue. -/
theorem TcpState.take_took (n : Nat) (s : TcpState) :
    Took (s.queue.take n).length s { s with queue := s.queue.drop n } where
  unread := by
    have hdrop : s.queue.drop (min n s.queue.length) = s.queue.drop n := by
      rcases Nat.le_total n s.queue.length with hle | hle
      · rw [Nat.min_eq_left hle]
      · rw [Nat.min_eq_right hle, List.drop_length, List.drop_eq_nil_of_le hle]
    simp only [unread, List.length_take]
    rw [List.drop_append_of_le_length (Nat.min_le_right _ _), hdrop]
  wire := List.suffix_rfl
  sched := List.suffix_rfl
  lazy _ _ := rfl

/-! ### Receiving on it -/

section tcp

variable {build : RmapRequest → Option (List UInt8)}

/-- A look at the queue, while it is not empty, waits for nothing. -/
theorem tcpEnv_recv_peek {flags : RecvFlags} (hpeek : flags.peek = true) {s : TcpState} (hqueue : s.queue ≠ [])
    (n : Nat) :
    (tcpEnv sockfd build).recv s sockfd n flags = (.bytes (s.tick.queue.take n), s.tick) := by
  have htick : s.tick.queue ≠ [] := by simp [TcpState.tick, TcpState.arrive, hqueue]
  simp [tcpEnv, hpeek, TcpState.await_eq htick, htick]

/-- A blocking receive call gets some of the bytes that are left. -/
theorem tcpEnv_recv_take (sockfd : Nat) (build : RmapRequest → Option (List UInt8)) {s : TcpState}
    (hunread : s.unread ≠ []) (hwire : [] ∉ s.wire) {n : Nat} (hn : 0 < n) :
    ∃ bs after, (tcpEnv sockfd build).recv s sockfd n .none = (.bytes bs, after) ∧ bs ≠ [] ∧ bs.length ≤ n ∧
      bs <+: s.unread ∧ Took bs.length s after := by
  have hawait := s.tick_await_took
  have hqueue : s.tick.await.queue ≠ [] :=
    TcpState.await_queue (by simpa using hunread) fun hmem => hwire (s.tick_took.wire.mem hmem)
  refine ⟨s.tick.await.queue.take n, { s.tick.await with queue := s.tick.await.queue.drop n }, ?_, ?_, ?_, ?_, ?_⟩
  · simp [tcpEnv, RecvFlags.none, hqueue]
  · simp [hqueue, Nat.ne_of_gt hn]
  · exact List.length_take_le _ _
  · rw [← s.tick.unread_await.trans s.unread_tick, TcpState.unread]
    exact (List.take_prefix _ _).trans (List.prefix_append _ _)
  · exact hawait.idle_trans (s.tick.await.take_took n)

/-- `recv_exact` gets all that it asks for once that much is under way. -/
theorem recv_exact_loop_takes {fuel left : Nat} (hfuel : left ≤ fuel) (got : List UInt8) {w : World TcpState}
    (hleft : left ≤ w.env.unread.length) (hwire : [] ∉ w.env.wire) :
    wp (recv_exact_loop (tcpEnv sockfd build) sockfd fuel got left)
      (fun r after => ∃ s, after = { w with env := s } ∧ r = .bytes (got ++ w.env.unread.take left) ∧
        Took left w.env s)
      (fun _ _ => False) w := by
  induction fuel generalizing got left w with
  | zero =>
    obtain rfl : left = 0 := Nat.le_zero.mp hfuel
    exact ⟨w.env, rfl, by simp, Took.refl _⟩
  | succ fuel ih =>
    cases left with
    | zero => exact ⟨w.env, rfl, by simp, Took.refl _⟩
    | succ left =>
      have hunread : w.env.unread ≠ [] := List.ne_nil_of_length_pos (by omega)
      obtain ⟨bs, s, hrecv, hbs, hlength, ⟨rest, hrest⟩, htook⟩ :=
        tcpEnv_recv_take sockfd build hunread hwire (Nat.succ_pos left)
      have hclip : (RecvResult.bytes bs).clip (left + 1) = .bytes bs := by
        rw [RecvResult.clip, List.take_of_length_le hlength]
      simp only [recv_exact_loop, recv, wp_bind, wp_syscall, hrecv, hclip]
      cases bs with
      | nil => exact absurd rfl hbs
      | cons b bs =>
        simp only [List.length_cons] at hlength
        have hafter : s.unread = rest := by
          rw [htook.unread, ← hrest, List.drop_left]
        have hexpired : ((tcpEnv sockfd build).deadline_expired s) = (false, s) := rfl
        simp only [wp_bind, wp_syscall, hexpired, Bool.false_eq_true, ↓reduceIte]
        have htotal := congrArg List.length hrest
        simp only [List.length_append, List.length_cons] at htotal
        have hrest' : left - bs.length ≤ fuel := by omega
        apply wp_mono_post (ih hrest' (got ++ b :: bs) (w := { w with env := s })
          (by rw [hafter]; omega) fun hmem => hwire (htook.wire.mem hmem))
        rintro r after ⟨s', rfl, rfl, htook'⟩
        refine ⟨s', rfl, ?_, ?_⟩
        · have hleft' : left + 1 = (b :: bs).length + (left - bs.length) := by
            simp only [List.length_cons]
            omega
          rw [List.append_assoc, hafter, ← hrest, hleft', List.take_length_add_append]
        · have hall := htook.trans htook' (by simp only [List.length_cons]; omega)
          have hsum : (b :: bs).length + (left - bs.length) = left + 1 := by
            simp only [List.length_cons]
            omega
          rwa [hsum] at hall

variable {n : Nat} {drop : Prog TcpState Unit}

theorem recv_body_takes {w : World TcpState} (hn : n ≤ w.env.unread.length) (hwire : [] ∉ w.env.wire) :
    wp (recv_body (tcpEnv sockfd build) sockfd n drop)
      (fun r after => ∃ s, after = { w with env := s } ∧ r = some (w.env.unread.take n) ∧ Took n w.env s)
      (fun _ _ => False) w := by
  have halloc : (tcpEnv sockfd build).malloc w.env = (true, w.env) := rfl
  simp only [recv_body, malloc, wp_bind, wp_syscall, halloc, ↓reduceIte]
  apply wp_mono_post (recv_exact_loop_takes le_rfl [] hn hwire)
  rintro r after ⟨s, rfl, rfl, htook⟩
  have hlength : (w.env.unread.take n).length = n := by simp [hn]
  simp only [expect, List.nil_append, hlength, ↓reduceIte, wp_pure]
  exact ⟨s, rfl, trivial, htook⟩

/-- A look at a header that has arrived shows all of it. -/
theorem peek_header_takes {flags : RecvFlags} (hpeek : flags.peek = true) (hpos : 0 < n) {w : World TcpState}
    (hn : n ≤ w.env.queue.length) :
    wp (peek_header (tcpEnv sockfd build) sockfd n flags drop)
      (fun r after => ∃ s, after = { w with env := s } ∧ r = some (w.env.unread.take n) ∧ Took 0 w.env s)
      (fun _ _ => False) w := by
  have hqueue : w.env.queue ≠ [] := List.ne_nil_of_length_pos (by omega)
  have hshown : w.env.tick.queue.take n = w.env.unread.take n := by
    rw [TcpState.tick, TcpState.arrive, TcpState.unread, List.take_append_of_le_length hn,
      List.take_append_of_le_length hn]
  have hlength : (w.env.unread.take n).length = n := by
    rw [List.length_take, TcpState.length_unread]
    omega
  simp only [peek_header, recv, wp_bind, wp_syscall, tcpEnv_recv_peek hpeek hqueue, hshown, RecvResult.clip,
    List.take_take, Nat.min_self, expect, hlength, ↓reduceIte, wp_pure]
  exact ⟨_, rfl, trivial, w.env.tick_took⟩

/-- A look at a header that has arrived in part, with nothing else arriving,
drops the connection. -/
theorem peek_header_cut {flags : RecvFlags} (hpeek : flags.peek = true) {w : World TcpState}
    (hidle : w.env.sched = []) (hsome : w.env.queue ≠ []) (hn : w.env.queue.length < n)
    {post : Option (List UInt8) → World TcpState → Prop} {fails : Halt → World TcpState → Prop}
    (hdrop : wp drop (fun _ => post none) fails w) :
    wp (peek_header (tcpEnv sockfd build) sockfd n flags drop) post fails w := by
  have htick := TcpState.tick_eq hidle
  have hshown : w.env.queue.take n = w.env.queue := List.take_of_length_le (Nat.le_of_lt hn)
  simp only [peek_header, recv, wp_bind, wp_syscall, tcpEnv_recv_peek hpeek hsome, htick, RecvResult.clip,
    hshown]
  refine wp_expect (fun bs hr hlength => ?_) fun _ => hdrop
  obtain rfl := RecvResult.bytes.inj hr
  omega

end tcp

/-- What any receive call on the connection does. -/
theorem tcpEnv_recv_eq (sockfd : Nat) (build : RmapRequest → Option (List UInt8)) (s : TcpState) (n : Nat)
    (flags : RecvFlags) :
    ∃ now : TcpState, now.unread = s.unread ∧
      (tcpEnv sockfd build).recv s sockfd n flags =
        if now.queue = [] then (.error .EAGAIN, now)
        else (.bytes (now.queue.take n), { now with queue := now.queue.drop (if flags.peek then 0 else n) }) := by
  refine ⟨if flags.dontwait then s.tick else s.tick.await, ?_, ?_⟩
  · split <;> simp
  · simp [tcpEnv]

/-- The connection as a stream. -/
def tcpStream (sockfd : Nat) (build : RmapRequest → Option (List UInt8)) : TcpStream TcpState sockfd where
  toEnv := tcpEnv sockfd build
  unread := TcpState.unread
  recv_bytes := by
    intro s n flags bs hrecv
    obtain ⟨now, hnow, heq⟩ := tcpEnv_recv_eq sockfd build s n flags
    rw [heq] at hrecv ⊢
    split at hrecv
    · simp [RecvResult.clip] at hrecv
    · rename_i hqueue
      simp only [RecvResult.clip, RecvResult.bytes.injEq, List.take_take, Nat.min_self] at hrecv
      subst hrecv
      rw [if_neg hqueue, ← hnow]
      refine ⟨(List.take_prefix _ _).trans (List.prefix_append _ _), ?_⟩
      split
      · rfl
      · exact (now.take_took n).unread
  recv_error := by
    intro s n flags errno hrecv
    obtain ⟨now, hnow, heq⟩ := tcpEnv_recv_eq sockfd build s n flags
    rw [heq] at hrecv ⊢
    split at hrecv
    · rename_i hqueue
      rw [if_pos hqueue, hnow]
    · simp [RecvResult.clip] at hrecv
  malloc_unread _ := rfl
  deadline_unread _ := rfl

end spw_bridge.net
