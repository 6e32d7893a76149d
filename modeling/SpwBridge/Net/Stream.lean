import SpwBridge.Net.Framers

open effect

namespace spw_bridge.net

variable {σ : Type} {sockfd : Nat}

/-- An environment in which a descriptor is a TCP connection. `unread` is what
the peer sends on it and no receive call has taken yet; how much of it a call
returns, and whether it fails, is left open. -/
structure TcpStream (σ : Type) (sockfd : Nat) extends Env σ where
  unread : σ → List UInt8
  recv_bytes : ∀ {s n flags bs}, (recv s sockfd n flags).1.clip n = .bytes bs → bs <+: unread s ∧
    unread (recv s sockfd n flags).2 = (unread s).drop (if flags.peek then 0 else bs.length)
  recv_error : ∀ {s n flags errno}, (recv s sockfd n flags).1.clip n = .error errno →
    unread (recv s sockfd n flags).2 = unread s
  malloc_unread : ∀ s, unread (malloc s).2 = unread s
  deadline_unread : ∀ s, unread (deadline_expired s).2 = unread s

theorem RecvResult.clip_length {n : Nat} {r : RecvResult} {bs : List UInt8} (hclip : r.clip n = .bytes bs) :
    bs.length ≤ n := by
  cases r with
  | error errno => simp [RecvResult.clip] at hclip
  | bytes raw =>
    rw [RecvResult.clip, RecvResult.bytes.injEq] at hclip
    rw [← hclip]
    exact List.length_take_le _ _

/-! ### What the receiving functions take from a connection -/

section stream

variable (T : TcpStream σ sockfd)

/-- Whatever `recv_exact` gets it takes from the front of the stream; if it is
as much as it was asked for, it returns exactly that. -/
theorem recv_exact_loop_unread {fuel left : Nat} (hfuel : left ≤ fuel) (got : List UInt8) (w : World σ) :
    wp (recv_exact_loop T.toEnv sockfd fuel got left)
      (fun r after => ∃ s taken, after = { w with env := s } ∧ T.unread w.env = taken ++ T.unread s ∧
        ∀ bs, r = .bytes bs → bs.length = got.length + left → bs = got ++ taken)
      (fun _ _ => False) w := by
  induction fuel generalizing got left w with
  | zero =>
    obtain rfl : left = 0 := Nat.le_zero.mp hfuel
    exact ⟨w.env, [], rfl, rfl, by rintro _ ⟨⟩ _; simp⟩
  | succ fuel ih =>
    cases left with
    | zero => exact ⟨w.env, [], rfl, rfl, by rintro _ ⟨⟩ _; simp⟩
    | succ left =>
      simp only [recv_exact_loop, recv, wp_bind, wp_syscall]
      cases hrecv : (T.recv w.env sockfd (left + 1) .none).1.clip (left + 1) with
      | error errno =>
        refine ⟨_, [], rfl, (T.recv_error hrecv).symm, ?_⟩
        rintro _ ⟨⟩
      | bytes bs =>
        obtain ⟨⟨rest, hrest⟩, hunread⟩ := T.recv_bytes hrecv
        have hlength := RecvResult.clip_length hrecv
        have hafter : T.unread (T.recv w.env sockfd (left + 1) .none).2 = rest := by
          rw [hunread, ← hrest]
          simp [RecvFlags.none]
        cases bs with
        | nil =>
          refine ⟨_, [], rfl, ?_, ?_⟩
          · rw [hafter, ← hrest]
          · rintro _ ⟨⟩ hshort
            simp at hshort
        | cons b bs =>
          simp only [wp_bind, wp_syscall, wp_ite, wp_pure]
          have hdeadline := T.deadline_unread (T.recv w.env sockfd (left + 1) .none).2
          split_ifs
          · refine ⟨_, b :: bs, rfl, ?_, ?_⟩
            · rw [hdeadline, hafter, hrest]
            · rintro _ ⟨⟩
          · simp only [List.length_cons] at hlength
            apply wp_mono_post (ih (by omega) _ _)
            rintro r after ⟨s, taken, hafter', htaken, hexact⟩
            refine ⟨s, b :: bs ++ taken, hafter', ?_, ?_⟩
            · rw [List.append_assoc, ← htaken, hdeadline, hafter, hrest]
            · intro bs' hr hbs'
              rw [hexact bs' hr (by simp; omega), List.append_assoc]

variable {n : Nat} {flags : RecvFlags} {drop : Prog σ Unit} {post : Option (List UInt8) → World σ → Prop}
  {fails : Halt → World σ → Prop} {w : World σ}

/-- Looking at a header takes nothing. A short look drops the connection. -/
theorem peek_header_unread (hpeek : flags.peek = true)
    (hgot : ∀ s, T.unread s = T.unread w.env → n ≤ (T.unread w.env).length →
      post (some ((T.unread w.env).take n)) { w with env := s })
    (hdrop : ∀ s, wp drop (fun _ => post none) fails { w with env := s }) :
    wp (peek_header T.toEnv sockfd n flags drop) post fails w := by
  simp only [peek_header, recv, wp_bind, wp_syscall]
  refine wp_expect (fun bs hrecv hlength => ?_) fun _ => hdrop _
  obtain ⟨hbegins, hunread⟩ := T.recv_bytes hrecv
  rw [hpeek, if_pos rfl, List.drop_zero] at hunread
  have hle := hbegins.length_le
  rw [List.prefix_iff_eq_take.mp hbegins, hlength]
  exact hgot _ hunread (by omega)

/-- Pulling in a packet takes exactly its bytes, or drops the connection. -/
theorem recv_body_unread
    (hgot : ∀ bs s, T.unread w.env = bs ++ T.unread s → bs.length = n → post (some bs) { w with env := s })
    (hdrop : ∀ s, wp drop (fun _ => post none) fails { w with env := s }) :
    wp (recv_body T.toEnv sockfd n drop) post fails w := by
  simp only [recv_body, malloc, wp_bind, wp_syscall, wp_ite]
  split_ifs
  · refine wp_mono (recv_exact_loop_unread T le_rfl [] _) ?_ fun _ _ h => h.elim
    rintro r after ⟨s, taken, rfl, htaken, hexact⟩
    refine wp_expect (fun bs hr hlength => ?_) fun _ => hdrop s
    rw [T.malloc_unread] at htaken
    have hbs := hexact bs hr (by simpa using hlength)
    rw [List.nil_append] at hbs
    exact hgot bs s (by rw [htaken, hbs]) hlength
  · exact hdrop _

end stream

end spw_bridge.net
