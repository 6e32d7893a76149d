import SpwBridge.Net.Forward

open effect

namespace spw_bridge.net

variable {σ : Type}

/-- The bytes that a stretch of the network log has sent on a descriptor. -/
def sent_to (fd : Nat) (calls : List NetCall) : List UInt8 :=
  calls.flatMap fun
    | .sent sockfd bytes => if sockfd = fd then bytes else []
    | _ => []

@[simp] theorem sent_to_append (fd : Nat) (calls calls' : List NetCall) :
    sent_to fd (calls ++ calls') = sent_to fd calls ++ sent_to fd calls' :=
  List.flatMap_append

/-! ### What one broadcast does to a connection -/

/-- A stretch of a run that sends nothing on a descriptor and neither connects
nor drops it. -/
structure Apart (fd : Nat) (w after : World σ) : Prop where
  sent : sent_to fd after.net_log = sent_to fd w.net_log
  member : ∀ id, fd ∈ (after.svc id).conn_set ↔ fd ∈ (w.svc id).conn_set
  nfds : ∀ id, (after.svc id).nfds = (w.svc id).nfds

theorem Apart.refl (fd : Nat) (w : World σ) : Apart fd w w := ⟨rfl, fun _ => Iff.rfl, fun _ => rfl⟩

theorem Apart.trans {fd : Nat} {w mid after : World σ} (hfirst : Apart fd w mid) (hrest : Apart fd mid after) :
    Apart fd w after where
  sent := hrest.sent.trans hfirst.sent
  member id := (hrest.member id).trans (hfirst.member id)
  nfds id := (hrest.nfds id).trans (hfirst.nfds id)

instance (fd : Nat) : IsPreorder (World σ) (Apart fd) where
  refl := Apart.refl fd
  trans _ _ _ := Apart.trans

/-- What `send_all` has done: it sent a part of the message, all of it if it
succeeded and not all of it otherwise. -/
structure SentPart (sockfd : Nat) (msg : List UInt8) (ok : Bool) (part : List UInt8) (w after : World σ) : Prop where
  svc : after.svc = w.svc
  sent : ∀ fd, sent_to fd after.net_log = sent_to fd w.net_log ++ if fd = sockfd then part else []
  begins : part <+: msg
  whole : ok = true ↔ part = msg

theorem send_all_loop_part (E : Env σ) (sockfd fuel : Nat) (buf : List UInt8) (w : World σ) :
    wp (send_all_loop E sockfd fuel buf) (fun ok after => ∃ part, SentPart sockfd buf ok part w after)
      (fun halt _ => halt = .hang) w := by
  induction fuel generalizing buf w with
  | zero =>
    cases buf with
    | nil => exact ⟨[], rfl, by simp, List.prefix_refl _, by simp⟩
    | cons b buf => exact rfl
  | succ fuel ih =>
    cases buf with
    | nil => exact ⟨[], rfl, by simp, List.prefix_refl _, by simp⟩
    | cons b buf =>
      simp only [send_all_loop, wp_bind, wp_syscall]
      cases (E.send w.env sockfd (b :: buf)).1 with
      | sent n =>
        simp only [wp_bind, wp_log_net]
        apply wp_mono_post (ih _ _)
        rintro ok after ⟨part, hsvc, hsent, hbegins, hwhole⟩
        have hsplit := List.take_append_drop n (b :: buf)
        refine ⟨(b :: buf).take n ++ part, hsvc, ?_, ?_, ?_⟩
        · intro fd
          rw [hsent fd, sent_to_append, List.append_assoc]
          by_cases hfd : fd = sockfd
          · simp [sent_to, hfd]
          · simp [sent_to, hfd, Ne.symm hfd]
        · obtain ⟨rest, hrest⟩ := hbegins
          exact ⟨rest, by rw [List.append_assoc, hrest, hsplit]⟩
        · rw [hwhole]
          constructor
          · intro hpart
            rw [hpart, hsplit]
          · intro hall
            exact List.append_cancel_left (hall.trans hsplit.symm)
      | error errno =>
        cases errno with
        | EINTR =>
          apply wp_mono_post (ih _ _)
          rintro ok after ⟨part, hsvc, hsent, hbegins, hwhole⟩
          exact ⟨part, hsvc, hsent, hbegins, hwhole⟩
        | EAGAIN | ETIMEDOUT | other => exact ⟨[], rfl, by simp, List.nil_prefix, by simp⟩

theorem send_all_part (E : Env σ) (sockfd : Nat) (msg : List UInt8) (w : World σ) :
    wp (send_all E sockfd msg) (fun ok after => ∃ part, SentPart sockfd msg ok part w after)
      (fun halt _ => halt = .hang) w := by
  simp only [send_all, wp_bind, wp_log_net, wp_get]
  apply wp_mono_post (send_all_loop_part E sockfd _ msg _)
  rintro ok after ⟨part, hsvc, hsent, hbegins, hwhole⟩
  refine ⟨part, hsvc, ?_, hbegins, hwhole⟩
  intro fd
  rw [hsent fd, sent_to_append]
  simp [sent_to]

/-- Sending on another descriptor. -/
theorem SentPart.apart {sockfd fd : Nat} {msg part : List UInt8} {ok : Bool} {w after : World σ}
    (hsent : SentPart sockfd msg ok part w after) (hne : fd ≠ sockfd) : Apart fd w after where
  sent := by
    rw [hsent.sent fd, if_neg hne, List.append_nil]
  member id := by rw [hsent.svc]
  nfds id := by rw [hsent.svc]

/-- A drop takes its own descriptor out of the set and sends nothing. -/
theorem dropped_apart (E : Env σ) (id : SvcId) {sockfd fd : Nat} (hne : fd ≠ sockfd) (w : World σ) :
    Apart fd w (dropped E id sockfd w) where
  sent := by
    rw [dropped, sent_to_append]
    simp [sent_to]
  member other := by
    by_cases hid : other = id
    · subst hid
      simp [dropped, fd_clr, hne]
    · simp [dropped, hid]
  nfds other := by
    by_cases hid : other = id
    · subst hid
      simp [dropped, fd_clr]
    · simp [dropped, hid]

/-- What a broadcast does to a connection that it reaches: the message is sent,
or a part of it and the connection is dropped. -/
inductive Handed (id : SvcId) (fd : Nat) (msg : List UInt8) (w after : World σ) : Prop
  | whole (hsent : sent_to fd after.net_log = sent_to fd w.net_log ++ msg)
      (hmember : ∀ other, fd ∈ (after.svc other).conn_set ↔ fd ∈ (w.svc other).conn_set)
      (hnfds : ∀ other, (after.svc other).nfds = (w.svc other).nfds)
  | cut (part : List UInt8) (hsent : sent_to fd after.net_log = sent_to fd w.net_log ++ part)
      (hbegins : part <+: msg) (hpart : part ≠ msg) (hgone : fd ∉ (after.svc id).conn_set)
      (hmember : ∀ other, other ≠ id → (fd ∈ (after.svc other).conn_set ↔ fd ∈ (w.svc other).conn_set))
      (hnfds : ∀ other, (after.svc other).nfds = (w.svc other).nfds)

section turns

variable {E : Env σ} {id : SvcId} {fd : Nat} {msg : List UInt8} {w mid after : World σ}

theorem Apart.handed (hfirst : Apart fd w mid) (hrest : Handed id fd msg mid after) : Handed id fd msg w after := by
  cases hrest with
  | whole hsent hmember hnfds =>
    apply Handed.whole (by rw [hsent, hfirst.sent])
    · exact fun other => (hmember other).trans (hfirst.member other)
    · exact fun other => (hnfds other).trans (hfirst.nfds other)
  | cut part hsent hbegins hpart hgone hmember hnfds =>
    apply Handed.cut part (by rw [hsent, hfirst.sent]) hbegins hpart hgone
    · exact fun other hother => (hmember other hother).trans (hfirst.member other)
    · exact fun other => (hnfds other).trans (hfirst.nfds other)

theorem Handed.apart (hfirst : Handed id fd msg w mid) (hrest : Apart fd mid after) : Handed id fd msg w after := by
  cases hfirst with
  | whole hsent hmember hnfds =>
    apply Handed.whole (by rw [hrest.sent, hsent])
    · exact fun other => (hrest.member other).trans (hmember other)
    · exact fun other => (hrest.nfds other).trans (hnfds other)
  | cut part hsent hbegins hpart hgone hmember hnfds =>
    apply Handed.cut part (by rw [hrest.sent, hsent]) hbegins hpart
    · exact fun hmem => hgone ((hrest.member id).mp hmem)
    · exact fun other hother => (hrest.member other).trans (hmember other hother)
    · exact fun other => (hrest.nfds other).trans (hnfds other)

/-- The turn of one descriptor in the loop of a broadcast. -/
def turn (E : Env σ) (id : SvcId) (msg : List UInt8) (fd : Nat) : Prog σ Unit := do
  let svc ← get_svc id
  if fd ∈ svc.conn_set then do
    let ok ← send_all E fd msg
    if ok then pure () else drop_locked E id fd
  else pure ()

/-- The turn of another descriptor, or of one that is not connected. -/
theorem turn_apart {other : Nat} (hother : fd ≠ other ∨ fd ∉ (w.svc id).conn_set) :
    wp (turn E id msg other) (fun _ after => Apart fd w after)
      (fun halt after => halt ≠ .hang → Apart fd w after) w := by
  simp only [turn, wp_bind, wp_get_svc, wp_ite, wp_pure]
  split
  · rename_i hmem
    have hne : fd ≠ other := by
      rintro rfl
      rcases hother with hne | hout
      · exact hne rfl
      · exact hout hmem
    apply wp_mono (send_all_part E other msg w)
    · rintro ok mid ⟨part, hpart⟩
      have hmid := hpart.apart hne
      cases ok with
      | true => exact hmid
      | false =>
        have hdropped := hmid.trans (dropped_apart E id hne mid)
        simp only [Bool.false_eq_true, ↓reduceIte, wp_drop_locked]
        split
        · exact fun _ => hdropped
        · exact hdropped
    · intro halt after hhang hdefined
      exact absurd hhang hdefined
  · exact Apart.refl fd w

/-- The turn of a connected descriptor. -/
theorem turn_handed (hmem : fd ∈ (w.svc id).conn_set) :
    wp (turn E id msg fd) (fun _ after => Handed id fd msg w after)
      (fun halt after => halt ≠ .hang → Handed id fd msg w after) w := by
  simp only [turn, wp_bind, wp_get_svc, hmem, ↓reduceIte]
  apply wp_mono (send_all_part E fd msg w)
  · rintro ok mid ⟨part, hpart⟩
    have hsent := hpart.sent fd
    rw [if_pos rfl] at hsent
    cases ok with
    | true =>
      rw [hpart.whole.mp rfl] at hsent
      exact .whole hsent (fun other => by rw [hpart.svc]) fun other => by rw [hpart.svc]
    | false =>
      have hshort : part ≠ msg := fun h => Bool.false_ne_true (hpart.whole.mpr h)
      have hdropped : Handed id fd msg w (dropped E id fd mid) := by
        apply Handed.cut part _ hpart.begins hshort
        · simp [dropped, fd_clr]
        · intro other hother
          simp [dropped, hother, hpart.svc]
        · intro other
          by_cases hid : other = id
          · subst hid
            simp [dropped, fd_clr, hpart.svc]
          · simp [dropped, hid, hpart.svc]
        · rw [dropped, sent_to_append, hsent]
          simp [sent_to]
      simp only [Bool.false_eq_true, ↓reduceIte, wp_drop_locked]
      split
      · exact fun _ => hdropped
      · exact hdropped
  · intro halt after hhang hdefined
    exact absurd hhang hdefined

/-- The turns of descriptors among which this one is not, or not connected. -/
theorem turns_apart {fds : List Nat} (hother : fd ∉ fds ∨ fd ∉ (w.svc id).conn_set) :
    wp (forM fds (turn E id msg)) (fun _ after => Apart fd w after)
      (fun halt after => halt ≠ .hang → Apart fd w after) w := by
  induction fds generalizing w with
  | nil => exact Apart.refl fd w
  | cons x fds ih =>
    have hfirst : fd ≠ x ∨ fd ∉ (w.svc id).conn_set := by
      rcases hother with hnot | hout
      · exact .inl fun h => hnot (h ▸ List.mem_cons_self)
      · exact .inr hout
    rw [List.forM_cons, wp_bind]
    apply wp_mono (turn_apart hfirst)
    · intro _ mid hmid
      have hrest : fd ∉ fds ∨ fd ∉ (mid.svc id).conn_set := by
        rcases hother with hnot | hout
        · exact .inl fun h => hnot (List.mem_cons_of_mem x h)
        · exact .inr fun h => hout ((hmid.member id).mp h)
      apply wp_mono (ih hrest)
      · exact fun _ after hafter => hmid.trans hafter
      · exact fun halt after hafter hdefined => hmid.trans (hafter hdefined)
    · exact fun halt after hafter => hafter

/-- The turns of descriptors with this one among them. If the program exits on
the way, its turn may not have come. -/
theorem turns_handed {fds : List Nat} (hfds : fds.Nodup) (hfd : fd ∈ fds) (hmem : fd ∈ (w.svc id).conn_set) :
    wp (forM fds (turn E id msg)) (fun _ after => Handed id fd msg w after)
      (fun halt after => halt ≠ .hang → Apart fd w after ∨ Handed id fd msg w after) w := by
  induction fds generalizing w with
  | nil => cases hfd
  | cons x fds ih =>
    obtain ⟨hfresh, hrest⟩ := List.nodup_cons.mp hfds
    rw [List.forM_cons, wp_bind]
    by_cases hturn : fd = x
    · subst hturn
      apply wp_mono (turn_handed hmem)
      · intro _ mid hmid
        apply wp_mono (turns_apart (.inl hfresh))
        · exact fun _ after hafter => hmid.apart hafter
        · exact fun halt after hafter hdefined => .inr (hmid.apart (hafter hdefined))
      · exact fun halt after hafter hdefined => .inr (hafter hdefined)
    · have hlater : fd ∈ fds := by
        rcases List.mem_cons.mp hfd with h | h
        · exact absurd h hturn
        · exact h
      apply wp_mono (turn_apart (.inl hturn))
      · intro _ mid hmid
        apply wp_mono (ih hrest hlater ((hmid.member id).mpr hmem))
        · exact fun _ after hafter => hmid.handed hafter
        · intro halt after hafter hdefined
          rcases hafter hdefined with h | h
          · exact .inl (hmid.trans h)
          · exact .inr (hmid.handed h)
      · exact fun halt after hafter hdefined => .inl (hafter hdefined)

/-- A broadcast of another service, or one that does not reach the descriptor. -/
theorem broadcast_apart (hother : (w.svc id).nfds ≤ fd ∨ fd ∉ (w.svc id).conn_set) :
    wp (broadcast E id msg) (fun _ after => Apart fd w after)
      (fun halt after => halt ≠ .hang → Apart fd w after) w := by
  simp only [broadcast, wp_bind, wp_get_svc]
  apply turns_apart
  rcases hother with hover | hout
  · left
    rw [List.mem_range]
    omega
  · exact .inr hout

/-- A broadcast that reaches the descriptor. -/
theorem broadcast_handed (hbelow : fd < (w.svc id).nfds) (hmem : fd ∈ (w.svc id).conn_set) :
    wp (broadcast E id msg) (fun _ after => Handed id fd msg w after)
      (fun halt after => halt ≠ .hang → Apart fd w after ∨ Handed id fd msg w after) w := by
  simp only [broadcast, wp_bind, wp_get_svc]
  exact turns_handed List.nodup_range (List.mem_range.mpr hbelow) hmem

end turns

/-! ### Runs of broadcasts -/

/-- Broadcasts one after the other, with connections that come in between and
with anything else that sends nothing and drops no connection. Descriptors that
`accept()` returns meet `accepts`. The run is over when the program exits. -/
inductive BroadcastRun (E : Env σ) (accepts : Nat → Prop) (w : World σ) :
    List (SvcId × List UInt8) → Bool → World σ → Prop
  | start : BroadcastRun E accepts w [] true w
  | quiet {bs : List (SvcId × List UInt8)} {mid after : World σ} (hrun : BroadcastRun E accepts w bs true mid)
      (hquiet : ∀ fd, Apart fd mid after) : BroadcastRun E accepts w bs true after
  | accept {bs : List (SvcId × List UInt8)} {mid : World σ} (hrun : BroadcastRun E accepts w bs true mid)
      (id : SvcId) (fd : Nat) (haccepts : accepts fd) :
      BroadcastRun E accepts w bs true
        { mid with svc := Function.update mid.svc id (accept_connections (mid.svc id) fd) }
  | broadcast {bs : List (SvcId × List UInt8)} {mid after : World σ} (hrun : BroadcastRun E accepts w bs true mid)
      (id : SvcId) (msg : List UInt8) (hcall : net.broadcast E id msg mid = .ok () after) :
      BroadcastRun E accepts w (bs ++ [(id, msg)]) true after
  | halt {bs : List (SvcId × List UInt8)} {mid after : World σ} (hrun : BroadcastRun E accepts w bs true mid)
      (id : SvcId) (msg : List UInt8) (halt : Halt) (hends : halt ≠ .hang)
      (hcall : net.broadcast E id msg mid = .error halt after) :
      BroadcastRun E accepts w (bs ++ [(id, msg)]) false after
  | stop {bs : List (SvcId × List UInt8)} {after : World σ} (hrun : BroadcastRun E accepts w bs true after) :
      BroadcastRun E accepts w bs false after

/-- The messages of one service. -/
def of_service (id : SvcId) (bs : List (SvcId × List UInt8)) : List (List UInt8) :=
  (bs.filter (·.1 = id)).map Prod.snd

/-- How a connection stands during a run, which starts with its descriptor below
`nfds` or not: it has got nothing since its descriptor is still not below `nfds`; it
has got all messages, those from some point on where it has waited; or it was dropped
within a message. -/
inductive Standing (below : Prop) (id : SvcId) (fd : Nat) (msgs : List (List UInt8)) (stream : List UInt8)
    (w : World σ) : Prop
  | waiting (hwaits : ¬ below) (hmem : fd ∈ (w.svc id).conn_set) (hnfds : (w.svc id).nfds ≤ fd)
      (hstream : stream = [])
  | served (before served : List (List UInt8)) (hmsgs : msgs = before ++ served) (hfirst : below → before = [])
      (hmem : fd ∈ (w.svc id).conn_set) (hnfds : fd < (w.svc id).nfds) (hstream : stream = served.flatten)
  | cut (before served : List (List UInt8)) (msg : List UInt8) (behind : List (List UInt8)) (part : List UInt8)
      (hmsgs : msgs = before ++ served ++ msg :: behind) (hfirst : below → before = []) (hbegins : part <+: msg)
      (hpart : part ≠ msg) (hgone : fd ∉ (w.svc id).conn_set) (hstream : stream = served.flatten ++ part)

/-- The bytes sent on a connection are complete messages of consecutive
broadcasts. Of a connection that starts `below` `nfds` they begin with the first
one. One that is still there has got the last one too, unless the program has
exited, perhaps before the turn of the connection; on a connection that is gone the
bytes end in a proper prefix of the next message. -/
def StreamWhole (below : Prop) (up : Bool) (msgs : List (List UInt8)) (stream : List UInt8) (connected : Prop) :
    Prop :=
  ∃ before served rest, msgs = before ++ served ++ rest ∧ (below → before = []) ∧
    (connected ∧ stream = served.flatten ∧ rest.length ≤ 1 ∧ (up = true → rest = []) ∨
      ¬ connected ∧ ∃ msg behind part, rest = msg :: behind ∧ part <+: msg ∧ part ≠ msg ∧
        stream = served.flatten ++ part)

section standing

variable {E : Env σ} {accepts : Nat → Prop} {below : Prop} {id : SvcId} {fd : Nat} {msgs : List (List UInt8)}
  {stream : List UInt8} {w mid after : World σ}

theorem Standing.streamWhole (hstanding : Standing below id fd msgs stream w) (up : Bool) :
    StreamWhole below up msgs stream (fd ∈ (w.svc id).conn_set) := by
  cases hstanding with
  | waiting hwaits hmem hnfds hstream =>
    exact ⟨msgs, [], [], by simp, fun h => absurd h hwaits, .inl ⟨hmem, hstream, by simp, fun _ => rfl⟩⟩
  | served before served hmsgs hfirst hmem hnfds hstream =>
    exact ⟨before, served, [], by rw [hmsgs, List.append_nil], hfirst, .inl ⟨hmem, hstream, by simp, fun _ => rfl⟩⟩
  | cut before served msg behind part hmsgs hfirst hbegins hpart hgone hstream =>
    exact ⟨before, served, msg :: behind, hmsgs, hfirst,
      .inr ⟨hgone, msg, behind, part, rfl, hbegins, hpart, hstream⟩⟩

/-- The program exits in a broadcast before the turn of the connection has come. -/
theorem Standing.passed_over (hstanding : Standing below id fd msgs stream mid) (msg : List UInt8)
    (hmem : fd ∈ (mid.svc id).conn_set) (hnfds : fd < (mid.svc id).nfds) :
    StreamWhole below false (msgs ++ [msg]) stream (fd ∈ (mid.svc id).conn_set) := by
  cases hstanding with
  | waiting _ _ hover => omega
  | cut _ _ _ _ _ _ _ _ _ hgone => exact absurd hmem hgone
  | served before served hmsgs hfirst _ _ hstream =>
    exact ⟨before, served, [msg], by rw [hmsgs], hfirst,
      .inl ⟨hmem, hstream, by simp, fun h => Bool.noConfusion h⟩⟩

/-- Steps that leave the connection alone. -/
theorem Standing.apart (hstanding : Standing below id fd msgs stream mid) (h : Apart fd mid after) :
    Standing below id fd msgs stream after := by
  cases hstanding with
  | waiting hwaits hmem hnfds hstream =>
    exact .waiting hwaits ((h.member id).mpr hmem) (by rw [h.nfds id]; exact hnfds) hstream
  | served before served hmsgs hfirst hmem hnfds hstream =>
    exact .served before served hmsgs hfirst ((h.member id).mpr hmem) (by rw [h.nfds id]; exact hnfds) hstream
  | cut before served msg behind part hmsgs hfirst hbegins hpart hgone hstream =>
    exact .cut before served msg behind part hmsgs hfirst hbegins hpart (fun hmem => hgone ((h.member id).mp hmem))
      hstream

/-- Broadcasts that do not reach the connection, because it waits or is gone. -/
theorem Standing.missed (hstanding : Standing below id fd msgs stream mid) (msg : List UInt8)
    (hmissed : (mid.svc id).nfds ≤ fd ∨ fd ∉ (mid.svc id).conn_set) :
    Standing below id fd (msgs ++ [msg]) stream mid := by
  cases hstanding with
  | waiting hwaits hmem hnfds hstream => exact .waiting hwaits hmem hnfds hstream
  | served before served hmsgs hfirst hmem hnfds hstream =>
    rcases hmissed with hover | hout
    · omega
    · exact absurd hmem hout
  | cut before served next behind part hmsgs hfirst hbegins hpart hgone hstream =>
    exact .cut before served next (behind ++ [msg]) part (by rw [hmsgs]; simp) hfirst hbegins hpart hgone hstream

/-- A broadcast that reaches it. -/
theorem Standing.handed (hstanding : Standing below id fd msgs stream mid) {msg : List UInt8}
    (hmem : fd ∈ (mid.svc id).conn_set) (hnfds : fd < (mid.svc id).nfds) (hhanded : Handed id fd msg mid after) :
    ∃ more, sent_to fd after.net_log = sent_to fd mid.net_log ++ more ∧
      Standing below id fd (msgs ++ [msg]) (stream ++ more) after := by
  cases hstanding with
  | waiting _ _ hover => omega
  | cut _ _ _ _ _ _ _ _ _ hgone => exact absurd hmem hgone
  | served before served hmsgs hfirst _ _ hstream =>
    cases hhanded with
    | whole hsent hmember hnfds' =>
      refine ⟨msg, hsent, .served before (served ++ [msg]) ?_ hfirst ((hmember id).mpr hmem) ?_ ?_⟩
      · rw [hmsgs, List.append_assoc]
      · rw [hnfds' id]
        exact hnfds
      · rw [hstream, List.flatten_append, List.flatten_singleton]
    | cut part hsent hbegins hpart hgone hmember hnfds' =>
      exact ⟨part, hsent, .cut before served msg [] part (by rw [hmsgs]) hfirst hbegins hpart hgone (by rw [hstream])⟩

end standing

@[simp] theorem of_service_own (id : SvcId) (bs : List (SvcId × List UInt8)) (msg : List UInt8) :
    of_service id (bs ++ [(id, msg)]) = of_service id bs ++ [msg] := by
  simp [of_service]

theorem of_service_other {id other : SvcId} (hother : other ≠ id) (bs : List (SvcId × List UInt8))
    (msg : List UInt8) : of_service id (bs ++ [(other, msg)]) = of_service id bs := by
  simp [of_service, hother]

section runs

variable {E : Env σ} {accepts : Nat → Prop} {id : SvcId} {fd : Nat} {bs : List (SvcId × List UInt8)} {up : Bool}
  {w mid after : World σ}

theorem accept_member {other : SvcId} {accepted : Nat} (hne : fd ≠ accepted) :
    fd ∈ (Function.update mid.svc other (accept_connections (mid.svc other) accepted) id).conn_set ↔
      fd ∈ (mid.svc id).conn_set := by
  by_cases hid : id = other
  · subst hid
    rw [Function.update_self, accept_connections]
    split
    · exact Iff.rfl
    · simp [hne]
  · rw [Function.update_of_ne hid]

theorem accept_nfds (other : SvcId) (accepted : Nat) :
    (mid.svc id).nfds ≤ (Function.update mid.svc other (accept_connections (mid.svc other) accepted) id).nfds := by
  by_cases hid : id = other
  · subst hid
    rw [Function.update_self, accept_connections]
    split
    · exact Nat.le_refl _
    · dsimp only
      split <;> omega
  · rw [Function.update_of_ne hid]

/-- Another connection comes. It may raise `nfds` over a waiting one. -/
theorem Standing.accept {below : Prop} {msgs : List (List UInt8)} {stream : List UInt8}
    (hstanding : Standing below id fd msgs stream mid) (other : SvcId) {accepted : Nat} (hne : fd ≠ accepted) :
    Standing below id fd msgs stream
      { mid with svc := Function.update mid.svc other (accept_connections (mid.svc other) accepted) } := by
  have hmember := @accept_member σ id fd mid other accepted hne
  have hle := @accept_nfds σ id mid other accepted
  cases hstanding with
  | waiting hwaits hmem hnfds hstream =>
    by_cases hreached : (Function.update mid.svc other (accept_connections (mid.svc other) accepted) id).nfds ≤ fd
    · exact .waiting hwaits (hmember.mpr hmem) hreached hstream
    · exact .served msgs [] (by simp) (fun h => absurd h hwaits) (hmember.mpr hmem) (Nat.lt_of_not_le hreached) hstream
  | served before served hmsgs hfirst hmem hnfds hstream =>
    exact .served before served hmsgs hfirst (hmember.mpr hmem) (Nat.lt_of_lt_of_le hnfds hle) hstream
  | cut before served msg behind part hmsgs hfirst hbegins hpart hgone hstream =>
    exact .cut before served msg behind part hmsgs hfirst hbegins hpart (fun h => hgone (hmember.mp h)) hstream

/-- The connection in one state of a run: its bytes since the start, and no
other service has its descriptor. -/
structure Stands (id : SvcId) (fd : Nat) (w : World σ) (msgs : List (List UInt8)) (stream : List UInt8)
    (after : World σ) : Prop where
  sent : sent_to fd after.net_log = sent_to fd w.net_log ++ stream
  standing : Standing (fd < (w.svc id).nfds) id fd msgs stream after
  own : ∀ other, other ≠ id → fd ∉ (after.svc other).conn_set

theorem Stands.apart {msgs : List (List UInt8)} {stream : List UInt8} (hstands : Stands id fd w msgs stream mid)
    (hapart : Apart fd mid after) : Stands id fd w msgs stream after where
  sent := hapart.sent.trans hstands.sent
  standing := hstands.standing.apart hapart
  own other hother hmem := hstands.own other hother ((hapart.member other).mp hmem)

theorem Stands.missed {msgs : List (List UInt8)} {stream : List UInt8} (hstands : Stands id fd w msgs stream mid)
    (msg : List UInt8) (hmissed : (mid.svc id).nfds ≤ fd ∨ fd ∉ (mid.svc id).conn_set) :
    Stands id fd w (msgs ++ [msg]) stream mid where
  sent := hstands.sent
  standing := hstands.standing.missed msg hmissed
  own := hstands.own

theorem Stands.handed {msgs : List (List UInt8)} {stream msg : List UInt8} (hstands : Stands id fd w msgs stream mid)
    (hmem : fd ∈ (mid.svc id).conn_set) (hnfds : fd < (mid.svc id).nfds) (hhanded : Handed id fd msg mid after) :
    ∃ stream', Stands id fd w (msgs ++ [msg]) stream' after := by
  obtain ⟨more, hmore, hafter⟩ := hstands.standing.handed hmem hnfds hhanded
  refine ⟨stream ++ more, by rw [hmore, hstands.sent, List.append_assoc], hafter, ?_⟩
  intro other hother hmem'
  cases hhanded with
  | whole _ hmember _ => exact hstands.own other hother ((hmember other).mp hmem')
  | cut _ _ _ _ _ hmember _ => exact hstands.own other hother ((hmember other hother).mp hmem')

theorem Stands.streamWhole {msgs : List (List UInt8)} {stream : List UInt8}
    (hstands : Stands id fd w msgs stream after) (up : Bool) :
    sent_to fd after.net_log = sent_to fd w.net_log ++ stream ∧
      StreamWhole (fd < (w.svc id).nfds) up msgs stream (fd ∈ (after.svc id).conn_set) :=
  ⟨hstands.sent, hstands.standing.streamWhole up⟩

theorem missed_of_not_reached (hreached : ¬ (fd < (mid.svc id).nfds ∧ fd ∈ (mid.svc id).conn_set)) :
    (mid.svc id).nfds ≤ fd ∨ fd ∉ (mid.svc id).conn_set := by
  by_cases hnfds : fd < (mid.svc id).nfds
  · exact .inr fun hmem => hreached ⟨hnfds, hmem⟩
  · exact .inl (Nat.le_of_not_lt hnfds)

/-- The step lemma: a broadcast of any service that returns. -/
theorem Stands.broadcast {stream : List UInt8} (hstands : Stands id fd w (of_service id bs) stream mid)
    (other : SvcId) (msg : List UInt8) (hcall : net.broadcast E other msg mid = .ok () after) :
    ∃ stream', Stands id fd w (of_service id (bs ++ [(other, msg)])) stream' after := by
  by_cases hid : other = id
  · subst hid
    rw [of_service_own]
    by_cases hreached : fd < (mid.svc other).nfds ∧ fd ∈ (mid.svc other).conn_set
    · obtain ⟨hnfds, hmem⟩ := hreached
      have hhanded := (wp_ok hcall).mp (@broadcast_handed σ E other fd msg mid hnfds hmem)
      exact hstands.handed hmem hnfds hhanded
    · have hmissed := missed_of_not_reached hreached
      have hapart := (wp_ok hcall).mp (@broadcast_apart σ E other fd msg mid hmissed)
      exact ⟨stream, (hstands.missed msg hmissed).apart hapart⟩
  · rw [of_service_other hid]
    have hapart := (wp_ok hcall).mp (@broadcast_apart σ E other fd msg mid (.inr (hstands.own other hid)))
    exact ⟨stream, hstands.apart hapart⟩

/-- The last broadcast, within which the program exits: the turn of the
connection may not have come. -/
theorem Stands.halt {stream : List UInt8} (hstands : Stands id fd w (of_service id bs) stream mid)
    (other : SvcId) (msg : List UInt8) {halt : Halt} (hends : halt ≠ .hang)
    (hcall : net.broadcast E other msg mid = .error halt after) :
    ∃ stream', sent_to fd after.net_log = sent_to fd w.net_log ++ stream' ∧
      StreamWhole (fd < (w.svc id).nfds) false (of_service id (bs ++ [(other, msg)])) stream'
        (fd ∈ (after.svc id).conn_set) := by
  by_cases hid : other = id
  · subst hid
    rw [of_service_own]
    by_cases hreached : fd < (mid.svc other).nfds ∧ fd ∈ (mid.svc other).conn_set
    · obtain ⟨hnfds, hmem⟩ := hreached
      rcases (wp_error hcall).mp (@broadcast_handed σ E other fd msg mid hnfds hmem) hends with hapart | hhanded
      · -- it is still connected, so its stream ends at a message
        have hafter := hstands.apart hapart
        have hnfds' : fd < (after.svc other).nfds := by
          rw [hapart.nfds other]
          exact hnfds
        exact ⟨stream, hafter.sent, hafter.standing.passed_over msg ((hapart.member other).mpr hmem) hnfds'⟩
      · obtain ⟨stream', hafter⟩ := hstands.handed hmem hnfds hhanded
        exact ⟨stream', hafter.streamWhole false⟩
    · have hmissed := missed_of_not_reached hreached
      have hapart := (wp_error hcall).mp (@broadcast_apart σ E other fd msg mid hmissed) hends
      exact ⟨stream, ((hstands.missed msg hmissed).apart hapart).streamWhole false⟩
  · rw [of_service_other hid]
    have hapart := (wp_error hcall).mp (@broadcast_apart σ E other fd msg mid (.inr (hstands.own other hid))) hends
    exact ⟨stream, (hstands.apart hapart).streamWhole false⟩

/-- The run lemma: from the state in which it is connected on, a connection
stands as it should in each state of a run, and its stream is whole at the end. -/
theorem BroadcastRun.stream (hrun : BroadcastRun E accepts w bs up after) (hfresh : ¬ accepts fd)
    (hmem : fd ∈ (w.svc id).conn_set) (hown : ∀ other, other ≠ id → fd ∉ (w.svc other).conn_set) :
    ∃ stream, (up = true → Stands id fd w (of_service id bs) stream after) ∧
      sent_to fd after.net_log = sent_to fd w.net_log ++ stream ∧
      StreamWhole (fd < (w.svc id).nfds) up (of_service id bs) stream (fd ∈ (after.svc id).conn_set) := by
  have hstands : ∀ {bs stream after}, Stands id fd w (of_service id bs) stream after →
      ∃ stream, (true = true → Stands id fd w (of_service id bs) stream after) ∧
        sent_to fd after.net_log = sent_to fd w.net_log ++ stream ∧
        StreamWhole (fd < (w.svc id).nfds) true (of_service id bs) stream (fd ∈ (after.svc id).conn_set) :=
    fun h => ⟨_, fun _ => h, h.streamWhole true⟩
  induction hrun with
  | start =>
    have hfirst : Standing (fd < (w.svc id).nfds) id fd (of_service id []) [] w := by
      by_cases hnfds : fd < (w.svc id).nfds
      · exact .served [] [] rfl (fun _ => rfl) hmem hnfds rfl
      · exact .waiting hnfds hmem (Nat.le_of_not_lt hnfds) rfl
    exact hstands ⟨by rw [List.append_nil], hfirst, hown⟩
  | @quiet bs mid after _ hquiet ih =>
    obtain ⟨stream, hmid, _⟩ := ih
    exact hstands ((hmid rfl).apart (hquiet fd))
  | @accept bs mid _ other accepted haccepts ih =>
    obtain ⟨stream, hmid, _⟩ := ih
    obtain ⟨hsent, hstanding, hown'⟩ := hmid rfl
    have hne : fd ≠ accepted := by
      rintro rfl
      exact hfresh haccepts
    exact hstands ⟨hsent, hstanding.accept other hne,
      fun third hthird h => hown' third hthird ((accept_member hne).mp h)⟩
  | @broadcast bs mid after _ other msg hcall ih =>
    obtain ⟨stream, hmid, _⟩ := ih
    obtain ⟨stream', hafter⟩ := (hmid rfl).broadcast other msg hcall
    exact hstands hafter
  | @halt bs mid after _ other msg halt hends hcall ih =>
    obtain ⟨stream, hmid, _⟩ := ih
    obtain ⟨stream', hsent, hwhole⟩ := (hmid rfl).halt other msg hends hcall
    exact ⟨stream', fun h => Bool.noConfusion h, hsent, hwhole⟩
  | stop _ ih =>
    obtain ⟨stream, hmid, _⟩ := ih
    exact ⟨stream, fun h => Bool.noConfusion h, (hmid rfl).streamWhole false⟩

/-- Nothing more is sent on a descriptor that is connected nowhere. -/
theorem BroadcastRun.gone (hrun : BroadcastRun E accepts w bs up after) (hfresh : ¬ accepts fd)
    (hgone : ∀ id, fd ∉ (w.svc id).conn_set) :
    sent_to fd after.net_log = sent_to fd w.net_log ∧ ∀ id, fd ∉ (after.svc id).conn_set := by
  induction hrun with
  | start => exact ⟨rfl, hgone⟩
  | quiet _ hquiet ih =>
    have hapart := hquiet fd
    exact ⟨hapart.sent.trans ih.1, fun id h => ih.2 id ((hapart.member id).mp h)⟩
  | accept _ other accepted haccepts ih =>
    have hne : fd ≠ accepted := by
      rintro rfl
      exact hfresh haccepts
    exact ⟨ih.1, fun id h => ih.2 id ((accept_member hne).mp h)⟩
  | broadcast _ id msg hcall ih =>
    have hapart := (wp_ok hcall).mp (broadcast_apart (.inr (ih.2 id)))
    exact ⟨hapart.sent.trans ih.1, fun other h => ih.2 other ((hapart.member other).mp h)⟩
  | halt _ id msg halt hends hcall ih =>
    have hapart := (wp_error hcall).mp (broadcast_apart (.inr (ih.2 id))) hends
    exact ⟨hapart.sent.trans ih.1, fun other h => ih.2 other ((hapart.member other).mp h)⟩
  | stop _ ih => exact ih

/-- Runs compose while the program goes on. -/
theorem BroadcastRun.trans {bs' : List (SvcId × List UInt8)} (hrun : BroadcastRun E accepts w bs true mid)
    (hrest : BroadcastRun E accepts mid bs' up after) : BroadcastRun E accepts w (bs ++ bs') up after := by
  induction hrest with
  | start =>
    rw [List.append_nil]
    exact hrun
  | quiet _ hquiet ih => exact .quiet ih hquiet
  | accept _ id fd haccepts ih => exact .accept ih id fd haccepts
  | broadcast _ id msg hcall ih =>
    rw [← List.append_assoc]
    exact .broadcast ih id msg hcall
  | halt _ id msg halt hends hcall ih =>
    rw [← List.append_assoc]
    exact .halt ih id msg halt hends hcall
  | stop _ ih => exact .stop ih

end runs

/-! ### The calls that broadcast -/

/-- A program whose runs consist of broadcasts and of steps that send nothing on
any connection. -/
def Broadcasts {α : Type} (E : Env σ) (accepts : Nat → Prop) (x : Prog σ α) : Prop :=
  ∀ w, wp x (fun _ after => ∃ bs, BroadcastRun E accepts w bs true after)
    (fun halt after => halt ≠ .hang → ∃ bs, BroadcastRun E accepts w bs false after) w

section broadcasts

variable {α β : Type} {E : Env σ} {accepts : Nat → Prop}

theorem broadcasts_pure (a : α) : Broadcasts E accepts (pure a : Prog σ α) := fun _ => ⟨[], .start⟩

theorem broadcasts_bind {x : Prog σ α} {f : α → Prog σ β} (hx : Broadcasts E accepts x)
    (hf : ∀ a, Broadcasts E accepts (f a)) : Broadcasts E accepts (x >>= f) := by
  intro w
  rw [wp_bind]
  apply wp_mono (hx w)
  · rintro a mid ⟨bs, hmid⟩
    apply wp_mono (hf a mid)
    · rintro b after ⟨bs', hafter⟩
      exact ⟨bs ++ bs', hmid.trans hafter⟩
    · intro halt after hafter hends
      obtain ⟨bs', hrest⟩ := hafter hends
      exact ⟨bs ++ bs', hmid.trans hrest⟩
  · exact fun halt after hafter => hafter

theorem broadcasts_ite {c : Prop} [Decidable c] {x y : Prog σ α} (hx : Broadcasts E accepts x)
    (hy : Broadcasts E accepts y) : Broadcasts E accepts (if c then x else y) := by
  split
  · exact hx
  · exact hy

/-- Programs that leave every connection alone. -/
theorem broadcasts_of_apart {x : Prog σ α} (hx : ∀ fd, Within (Apart fd) x) : Broadcasts E accepts x := by
  intro w
  apply wp_of_run
  · intro a after hrun
    refine ⟨[], .quiet .start fun fd => ?_⟩
    have hfinal := hx fd w
    rwa [hrun] at hfinal
  · intro halt after hrun _
    refine ⟨[], .stop (.quiet .start fun fd => ?_)⟩
    have hfinal := hx fd w
    rwa [hrun] at hfinal

theorem broadcasts_broadcast (id : SvcId) (msg : List UInt8) : Broadcasts E accepts (broadcast E id msg) := by
  intro w
  apply wp_of_run
  · intro _ after hrun
    exact ⟨[(id, msg)], .broadcast .start id msg hrun⟩
  · intro halt after hrun hends
    exact ⟨[(id, msg)], .halt .start id msg halt hends hrun⟩

theorem broadcasts_get_svc (id : SvcId) : Broadcasts E accepts (get_svc id : Prog σ NetService) :=
  broadcasts_of_apart fun _ => within_get_svc id

theorem apart_syscall (fd : Nat) (f : σ → α × σ) : Within (Apart fd) (syscall f) :=
  fun _ => ⟨rfl, fun _ => Iff.rfl, fun _ => rfl⟩

theorem broadcasts_malloc : Broadcasts E accepts (malloc E) := broadcasts_of_apart fun fd => apart_syscall fd _

/-- Framing for the GRESB protocol, as every sender does it. -/
theorem broadcasts_gresb_create (buf : List UInt8) {next : List UInt8 → Prog σ Unit}
    (hnext : ∀ gresb_pkt, Broadcasts E accepts (next gresb_pkt)) :
    Broadcasts E accepts (do
      let alloc ← malloc E
      match gresb_create_host_data_pkt alloc buf with
      | none => pure ()
      | some gresb_pkt => next gresb_pkt) := by
  apply broadcasts_bind broadcasts_malloc
  intro alloc
  cases gresb_create_host_data_pkt alloc buf with
  | none => exact broadcasts_pure ()
  | some gresb_pkt => exact hnext gresb_pkt

theorem broadcasts_dgram_send_all (id : SvcId) (buf : List UInt8) :
    Broadcasts E accepts (dgram_send_all E id buf) := by
  apply broadcasts_of_apart
  intro fd
  refine within_bind (within_get_svc id) fun svc => ?_
  apply within_forM
  intro client _
  apply within_bind (apart_syscall fd _)
  intro _ w
  refine ⟨?_, fun _ => Iff.rfl, fun _ => rfl⟩
  change sent_to fd (w.net_log ++ [.sendto client buf]) = _
  rw [sent_to_append]
  simp [sent_to]

theorem broadcasts_sniff_push (cfg : BridgeCfg) (buf : List UInt8) : Broadcasts E accepts (sniff_push E cfg buf) := by
  apply broadcasts_bind (broadcasts_get_svc .sniff)
  intro svc
  apply broadcasts_ite (broadcasts_pure ())
  apply broadcasts_ite
  · exact broadcasts_gresb_create buf fun gresb_pkt => broadcasts_broadcast .sniff (gresb_host_msg gresb_pkt)
  · exact broadcasts_broadcast .sniff buf

theorem broadcasts_gresb_push_rx_clients (cfg : BridgeCfg) (buf : List UInt8) :
    Broadcasts E accepts (gresb_push_rx_clients E cfg buf) := by
  apply broadcasts_bind (broadcasts_get_svc .gresb_rx)
  intro svc
  apply broadcasts_ite (broadcasts_pure ())
  exact broadcasts_gresb_create buf fun gresb_pkt => broadcasts_broadcast .gresb_rx (gresb_host_msg gresb_pkt)

theorem broadcasts_net_forward_to_clients (cfg : BridgeCfg) (buf : List UInt8) :
    Broadcasts E accepts (net_forward_to_clients E cfg buf) := by
  apply broadcasts_bind (broadcasts_sniff_push cfg buf)
  intro _
  apply broadcasts_ite
  · apply broadcasts_ite
    · apply broadcasts_gresb_create buf
      intro gresb_pkt
      exact broadcasts_bind (broadcasts_dgram_send_all .data _) fun _ => broadcasts_gresb_push_rx_clients cfg buf
    · exact broadcasts_dgram_send_all .data buf
  · apply broadcasts_ite
    · apply broadcasts_gresb_create buf
      intro gresb_pkt
      exact broadcasts_bind (broadcasts_broadcast .data _) fun _ => broadcasts_gresb_push_rx_clients cfg buf
    · exact broadcasts_broadcast .data buf

theorem broadcasts_lift {A : Type} (x : Except Fault A) : Broadcasts E accepts (lift x : Prog σ A) :=
  broadcasts_of_apart fun _ => within_lift x

theorem broadcasts_rmap_reply_to_clients (cfg : BridgeCfg) (buf : List UInt8) :
    Broadcasts E accepts (rmap_reply_to_clients E cfg buf) := by
  have halloc : Broadcasts E accepts (alloc_pkt E) :=
    broadcasts_bind broadcasts_malloc fun _ => broadcasts_bind broadcasts_malloc fun _ =>
      broadcasts_bind broadcasts_malloc fun _ => broadcasts_pure _
  apply broadcasts_bind halloc
  intro alloc
  apply broadcasts_bind (broadcasts_lift _)
  intro pkt
  cases pkt with
  | none => exact broadcasts_pure ()
  | some pkt =>
    apply broadcasts_bind broadcasts_malloc
    intro tmp
    apply broadcasts_ite
    · exact broadcasts_bind (broadcasts_lift _) fun msg => broadcasts_broadcast .rmap msg
    · exact broadcasts_pure ()

end broadcasts

/-- The calls that the other threads make to send to the clients. -/
inductive SendCall
  | net_forward_to_clients (buf : List UInt8)
  | gresb_push_rx_clients (buf : List UInt8)
  | sniff_push (buf : List UInt8)
  | rmap_reply_to_clients (buf : List UInt8)

def SendCall.run (E : Env σ) (cfg : BridgeCfg) : SendCall → Prog σ Unit
  | .net_forward_to_clients buf => net.net_forward_to_clients E cfg buf
  | .gresb_push_rx_clients buf => net.gresb_push_rx_clients E cfg buf
  | .sniff_push buf => net.sniff_push E cfg buf
  | .rmap_reply_to_clients buf => net.rmap_reply_to_clients E cfg buf

/-- Calls one after the other, as the locks order them, with connections that
come in between. A call that the program exits from is the last one. -/
inductive CallRun (E : Env σ) (cfg : BridgeCfg) (accepts : Nat → Prop) (w : World σ) : Bool → World σ → Prop
  | start : CallRun E cfg accepts w true w
  | quiet {mid after : World σ} (hrun : CallRun E cfg accepts w true mid) (hquiet : ∀ fd, Apart fd mid after) :
      CallRun E cfg accepts w true after
  | accept {mid : World σ} (hrun : CallRun E cfg accepts w true mid) (id : SvcId) (fd : Nat)
      (haccepts : accepts fd) :
      CallRun E cfg accepts w true
        { mid with svc := Function.update mid.svc id (accept_connections (mid.svc id) fd) }
  | call {mid after : World σ} (hrun : CallRun E cfg accepts w true mid) (call : SendCall)
      (hcall : call.run E cfg mid = .ok () after) : CallRun E cfg accepts w true after
  | halt {mid after : World σ} (hrun : CallRun E cfg accepts w true mid) (call : SendCall) (halt : Halt)
      (hends : halt ≠ .hang) (hcall : call.run E cfg mid = .error halt after) : CallRun E cfg accepts w false after

section calls

variable {E : Env σ} {cfg : BridgeCfg} {accepts : Nat → Prop} {up : Bool} {w after : World σ}

theorem broadcasts_call (call : SendCall) : Broadcasts E accepts (call.run E cfg) := by
  cases call with
  | net_forward_to_clients buf => exact broadcasts_net_forward_to_clients cfg buf
  | gresb_push_rx_clients buf => exact broadcasts_gresb_push_rx_clients cfg buf
  | sniff_push buf => exact broadcasts_sniff_push cfg buf
  | rmap_reply_to_clients buf => exact broadcasts_rmap_reply_to_clients cfg buf

/-- A run of calls is a run of the broadcasts that they make. -/
theorem CallRun.broadcasts (hrun : CallRun E cfg accepts w up after) :
    ∃ bs, BroadcastRun E accepts w bs up after := by
  induction hrun with
  | start => exact ⟨[], .start⟩
  | quiet _ hquiet ih =>
    obtain ⟨bs, hbs⟩ := ih
    exact ⟨bs, .quiet hbs hquiet⟩
  | accept _ id fd haccepts ih =>
    obtain ⟨bs, hbs⟩ := ih
    exact ⟨bs, .accept hbs id fd haccepts⟩
  | @call mid after _ call hcall ih =>
    obtain ⟨bs, hbs⟩ := ih
    obtain ⟨bs', hbs'⟩ := (wp_ok hcall).mp (@broadcasts_call σ E cfg accepts call mid)
    exact ⟨bs ++ bs', hbs.trans hbs'⟩
  | @halt mid after _ call halt hends hcall ih =>
    obtain ⟨bs, hbs⟩ := ih
    obtain ⟨bs', hbs'⟩ := (wp_error hcall).mp (@broadcasts_call σ E cfg accepts call mid) hends
    exact ⟨bs ++ bs', hbs.trans hbs'⟩

/-- Client streams stay whole. The calls that send to clients make broadcasts
and do nothing else to connections; and in every run of broadcasts of any threads,
in the order that the locks give them and with whatever `send()` does, the bytes
sent on a connection are complete messages of consecutive broadcasts of its
service: of all of them where the connection is below `nfds` from the start on and
still there, but for the last one of a program that has exited. If they end within a
message, the connection is gone, and it stays so and gets nothing more. -/
theorem client_streams_whole (E : Env σ) (cfg : BridgeCfg) (accepts : Nat → Prop) (w : World σ) :
    (∀ up after, CallRun E cfg accepts w up after → ∃ bs, BroadcastRun E accepts w bs up after) ∧
      ∀ bs up after, BroadcastRun E accepts w bs up after →
        ∀ id fd, fd ∈ (w.svc id).conn_set → (∀ other, other ≠ id → fd ∉ (w.svc other).conn_set) →
          ¬ accepts fd →
          ∃ stream, sent_to fd after.net_log = sent_to fd w.net_log ++ stream ∧
            StreamWhole (fd < (w.svc id).nfds) up (of_service id bs) stream (fd ∈ (after.svc id).conn_set) ∧
            (up = true → fd ∉ (after.svc id).conn_set →
              ∀ bs' up' later, BroadcastRun E accepts after bs' up' later →
                sent_to fd later.net_log = sent_to fd after.net_log ∧ fd ∉ (later.svc id).conn_set) := by
  refine ⟨fun up after hrun => hrun.broadcasts, ?_⟩
  intro bs up after hrun id fd hmem hown hfresh
  obtain ⟨stream, hstands, hsent, hwhole⟩ := hrun.stream hfresh hmem hown
  refine ⟨stream, hsent, hwhole, ?_⟩
  intro hup hgone bs' up' later hlater
  have hnowhere : ∀ other, fd ∉ (after.svc other).conn_set := by
    intro other
    by_cases hid : other = id
    · rw [hid]
      exact hgone
    · exact (hstands hup).own other hid
  obtain ⟨hnothing, hout⟩ := hlater.gone hfresh hnowhere
  exact ⟨hnothing, hout id⟩

/-- Sends take one byte at a time and fail with two bytes to go. -/
def resetEnv : Env Unit :=
  { Env.quiet with
    patience := fun _ => 8
    send := fun _ _ buf => if buf.length = 2 then (.error (.other 104), ()) else (.sent 1, ()) }

/-- One connection of the data service. -/
def streamWorld : World Unit :=
  { World.fresh () with svc := fun id => if id = .data then ⟨3, {5}, 6, [], 0⟩ else ⟨0, ∅, 0, [], 0⟩ }

theorem client_streams_whole_reset :
    (∃ after, CallRun resetEnv (bridge_cfg_init []) (fun _ => False) streamWorld true after ∧
      ∃ bs, BroadcastRun resetEnv (fun _ => False) streamWorld bs true after) ∧
    ∃ after, BroadcastRun resetEnv (fun _ => False) streamWorld
        [(.data, [9]), (.data, [1, 2, 3, 4]), (.data, [7])] true after ∧
      ∃ stream, sent_to 5 after.net_log = sent_to 5 streamWorld.net_log ++ stream ∧
        StreamWhole (5 < 6) true [[9], [1, 2, 3, 4], [7]] stream (5 ∈ (after.svc .data).conn_set) := by
  have hcall : CallRun resetEnv (bridge_cfg_init []) (fun _ => False) streamWorld true _ :=
    .call .start (.net_forward_to_clients [1, 2, 3, 4]) rfl
  have hwhole : broadcast resetEnv .data [9] streamWorld = .ok ()
      { streamWorld with net_log := [.send_all 5 [9], .sent 5 [9]] } := rfl
  have hcut : broadcast resetEnv .data [1, 2, 3, 4] { streamWorld with net_log := [.send_all 5 [9], .sent 5 [9]] } =
      .ok () (dropped resetEnv .data 5 { streamWorld with
        net_log := [.send_all 5 [9], .sent 5 [9], .send_all 5 [1, 2, 3, 4], .sent 5 [1], .sent 5 [2]] }) := rfl
  have hrun : BroadcastRun resetEnv (fun _ => False) streamWorld
      [(.data, [9]), (.data, [1, 2, 3, 4]), (.data, [7])] true _ :=
    .broadcast (.broadcast (.broadcast .start .data [9] hwhole) .data [1, 2, 3, 4] hcut) .data [7] rfl
  have hown : ∀ other, other ≠ SvcId.data → 5 ∉ (streamWorld.svc other).conn_set := by
    intro other hother
    simp [streamWorld, hother]
  obtain ⟨hbroadcasts, hstreams⟩ :=
    client_streams_whole resetEnv (bridge_cfg_init []) (fun _ => False) streamWorld
  obtain ⟨stream, hsent, hstream, _⟩ := hstreams _ _ _ hrun .data 5 (by decide) hown not_false
  exact ⟨⟨_, hcall, hbroadcasts _ _ hcall⟩, _, hrun, stream, hsent, hstream⟩

end calls

end spw_bridge.net
