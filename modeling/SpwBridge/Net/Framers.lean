import SpwBridge.Gresb
import SpwBridge.Net.Service

open effect words

namespace spw_bridge.net

variable {σ : Type}

def FEE_DATA_PROTOCOL : UInt8 := 0xF0

/-- `sizeof(struct fee_data_hdr)`. -/
def FEE_DATA_HDR_SIZE : Nat := 10

def MAX_SPW_PACKET_SIZE : Nat := rmap.RMAP_MAX_DATA_LEN

/-- The loop of `recv_exact`, with the bytes that it has got and the number
that is left. Every round that goes on takes at least one byte. -/
def recv_exact_loop (E : Env σ) (sockfd : Nat) : Nat → List UInt8 → Nat → Prog σ RecvResult
  | _, got, 0 => pure (.bytes got)
  | 0, _, _ + 1 => throw .hang
  | fuel + 1, got, left + 1 => do
    let r ← recv E sockfd (left + 1) .none
    match r with
    | .error errno => pure (.error errno)
    | .bytes [] => pure (.bytes [])
    | .bytes (b :: bs) => do
      let expired ← syscall E.deadline_expired
      if expired then pure (.error .ETIMEDOUT)
      else recv_exact_loop E sockfd fuel (got ++ b :: bs) (left - bs.length)

def recv_exact (E : Env σ) (sockfd n : Nat) : Prog σ RecvResult := recv_exact_loop E sockfd n [] n

/-- Keep what a receive call returned if it is exactly `n` bytes, drop the
connection otherwise. -/
def expect (n : Nat) (drop : Prog σ Unit) : RecvResult → Prog σ (Option (List UInt8))
  | .bytes bs => if bs.length = n then pure (some bs) else do
    drop
    pure none
  | .error _ => do
    drop
    pure none

/-- The two ways on from a receive call. -/
theorem wp_expect {n : Nat} {drop : Prog σ Unit} {r : RecvResult} {post : Option (List UInt8) → World σ → Prop}
    {fails : Halt → World σ → Prop} {w : World σ}
    (hgot : ∀ bs, r = .bytes bs → bs.length = n → post (some bs) w)
    (hdrop : (∀ bs, r = .bytes bs → bs.length ≠ n) → wp drop (fun _ => post none) fails w) :
    wp (expect n drop r) post fails w := by
  cases r with
  | bytes bs =>
    by_cases hlen : bs.length = n
    · simpa [expect, hlen] using hgot bs rfl hlen
    · have hshort := hdrop fun bs' heq => by
        cases heq
        exact hlen
      simpa [expect, hlen] using hshort
  | error errno =>
    have herror := hdrop fun bs heq => by cases heq
    simpa [expect] using herror

/-- The look at the header that every framer starts with. -/
def peek_header (E : Env σ) (sockfd n : Nat) (flags : RecvFlags) (drop : Prog σ Unit) :
    Prog σ (Option (List UInt8)) := do
  let r ← recv E sockfd n flags
  expect n drop r

/-- Pull in a whole packet of `n` bytes into a buffer allocated for it. -/
def recv_body (E : Env σ) (sockfd n : Nat) (drop : Prog σ Unit) : Prog σ (Option (List UInt8)) := do
  let buf ← malloc E
  if buf then do
    let r ← recv_exact E sockfd n
    expect n drop r
  else do
    drop
    pure none

/-- Check a packet against the counters of the direction to the SpW side. -/
def check_pus_sequence_tx (E : Env σ) (pkt : List UInt8) : Prog σ Unit := do
  let alloc ← malloc E
  let w ← get
  let (_, t) ← lift (check_pus_sequence alloc pkt w.pus_seq_tx)
  modify fun w => { w with pus_seq_tx := t }

/-- The packet length that a PUS header announces. -/
def pus_packet_length (hdr : List UInt8) : Nat := (be16 (byteAt hdr 4) (byteAt hdr 5)).toNat + 1 + 6

def recv_pus_packet (E : Env σ) (id : SvcId) (sockfd : Nat) : Prog σ (Option (List UInt8)) := do
  let hdr ← peek_header E sockfd 6 .MSG_PEEK (conn_drop E id sockfd)
  match hdr with
  | none => pure none
  | some hdr => do
    let pkt ← recv_body E sockfd (pus_packet_length hdr) (conn_drop E id sockfd)
    match pkt with
    | none => pure none
    | some pkt => do
      check_pus_sequence_tx E pkt
      pure (some pkt)

/-- One `recv()` of what is available. -/
def recv_raw_packet (E : Env σ) (id : SvcId) (sockfd : Nat) : Prog σ (Option (List UInt8)) := do
  let avail ← syscall fun s => E.fionread s sockfd
  match avail with
  | none | some 0 => do
    conn_drop E id sockfd
    pure none
  | some (avail + 1) => do
    let buf ← malloc E
    if buf then do
      let r ← recv E sockfd (avail + 1) .none
      match r with
      | .bytes (b :: bs) => pure (some (b :: bs))
      | _ => do
        conn_drop E id sockfd
        pure none
    else do
      conn_drop E id sockfd
      pure none

/-- One datagram with its sender. Failures leave the socket alone. -/
def recv_dgram_packet (E : Env σ) (sockfd : Nat) : Prog σ (Option (List UInt8 × SockaddrIn)) := do
  let avail ← syscall fun s => E.fionread s sockfd
  match avail with
  | none | some 0 => pure none
  | some (avail + 1) => do
    let buf ← malloc E
    if buf then do
      let r ← syscall fun s => E.recvfrom s sockfd (avail + 1)
      match r with
      | some (b :: bs, client) => pure (some ((b :: bs).take (avail + 1), client))
      | _ => pure none
    else pure none

/-- The packet length that a FEE header announces. -/
def fee_packet_length (hdr : List UInt8) : Nat :=
  (be16 (byteAt hdr 2) (byteAt hdr 3)).toNat + FEE_DATA_HDR_SIZE

/-- Packets of any other protocol are received raw. -/
def recv_fee_packet (E : Env σ) (id : SvcId) (sockfd : Nat) : Prog σ (Option (List UInt8)) := do
  let hdr ← peek_header E sockfd FEE_DATA_HDR_SIZE .MSG_PEEK (conn_drop E id sockfd)
  match hdr with
  | none => pure none
  | some hdr =>
    if byteAt hdr 1 ≠ FEE_DATA_PROTOCOL then recv_raw_packet E id sockfd
    else recv_body E sockfd (fee_packet_length hdr) (conn_drop E id sockfd)

/-- The payload is copied to a buffer of its own, whose allocation may fail
when the packet has already been taken from the stream. -/
def recv_gresb_packet (E : Env σ) (id : SvcId) (sockfd : Nat) : Prog σ (Option (List UInt8)) := do
  let hdr ← peek_header E sockfd GRESB_HDR_SIZE .MSG_PEEK_DONTWAIT (conn_drop E id sockfd)
  match hdr with
  | none => pure none
  | some hdr =>
    if gresb_get_spw_data_size hdr > MAX_SPW_PACKET_SIZE then do
      conn_drop E id sockfd
      pure none
    else do
      let pkt ← recv_body E sockfd (gresb_get_spw_data_size hdr + GRESB_HDR_SIZE) (conn_drop E id sockfd)
      match pkt with
      | none => pure none
      | some pkt => do
        let buf ← malloc E
        if buf then pure (some ((gresb_get_spw_data pkt).take (gresb_get_spw_data_size hdr)))
        else do
          conn_drop E id sockfd
          pure none

/-! ### What the framers change -/

/-- A relation that also ignores the tables of the network side holds across
everything that this side does by itself. -/
structure Network (R : World σ → World σ → Prop) : Prop extends Sockets R where
  pus_seq_tx : ∀ w t, R w { w with pus_seq_tx := t }
  pus_seq_rx : ∀ w t, R w { w with pus_seq_rx := t }
  clients : ∀ w id clients cap, R w { w with
    svc := Function.update w.svc id { w.svc id with clients := clients, clients_cap := cap } }

/-- What receiving a packet and registering its sender needs. -/
structure Listens (R : World σ → World σ → Prop) : Prop extends Receives R where
  pus_seq_tx : ∀ w t, R w { w with pus_seq_tx := t }
  clients : ∀ w id clients cap, R w { w with
    svc := Function.update w.svc id { w.svc id with clients := clients, clients_cap := cap } }

theorem Network.listens {R : World σ → World σ → Prop} (hR : Network R) : Listens R :=
  ⟨hR.toSockets.receives, hR.pus_seq_tx, hR.clients⟩

section frames

variable {R : World σ → World σ → Prop} [IsPreorder (World σ) R]

theorem within_expect {n : Nat} {drop : Prog σ Unit} (hdrop : Within R drop) (r : RecvResult) :
    Within R (expect n drop r) := by
  cases r with
  | bytes bs => exact within_ite (fun _ => within_pure _) fun _ => within_bind hdrop fun _ => within_pure _
  | error errno => exact within_bind hdrop fun _ => within_pure _

variable (hR : Receives R)

include hR

omit [IsPreorder (World σ) R] in
theorem within_call {α : Type} (f : σ → α × σ) : Within R (syscall f) := fun w => hR.env w _

theorem within_recv_exact_loop (E : Env σ) (sockfd fuel : Nat) (got : List UInt8) (left : Nat) :
    Within R (recv_exact_loop E sockfd fuel got left) := by
  induction fuel generalizing got left with
  | zero =>
    cases left with
    | zero => exact within_pure _
    | succ left => exact within_throw _
  | succ fuel ih =>
    cases left with
    | zero => exact within_pure _
    | succ left =>
      apply within_bind (within_call hR _)
      intro r
      match r with
      | .error errno => exact within_pure _
      | .bytes [] => exact within_pure _
      | .bytes (b :: bs) =>
        apply within_bind (within_call hR _)
        intro expired
        exact within_ite (fun _ => within_pure _) fun _ => ih _ _

theorem within_peek_header (E : Env σ) (sockfd n : Nat) (flags : RecvFlags) {drop : Prog σ Unit}
    (hdrop : Within R drop) : Within R (peek_header E sockfd n flags drop) :=
  within_bind (within_call hR _) fun r => within_expect hdrop r

theorem within_recv_body (E : Env σ) (sockfd n : Nat) {drop : Prog σ Unit} (hdrop : Within R drop) :
    Within R (recv_body E sockfd n drop) := by
  refine within_bind (within_call hR _) fun buf => within_ite (fun _ => ?_) fun _ => ?_
  · exact within_bind (within_recv_exact_loop hR E sockfd n [] n) fun r => within_expect hdrop r
  · exact within_bind hdrop fun _ => within_pure _

theorem within_recv_raw_packet (E : Env σ) (id : SvcId) (sockfd : Nat) :
    Within R (recv_raw_packet E id sockfd) := by
  have hfail : Within R (do conn_drop E id sockfd; pure none : Prog σ (Option (List UInt8))) :=
    within_bind (within_conn_drop (hR.drops E id) sockfd) fun _ => within_pure _
  apply within_bind (within_call hR _)
  intro avail
  match avail with
  | none | some 0 => exact hfail
  | some (avail + 1) =>
    refine within_bind (within_call hR _) fun buf => within_ite (fun _ => ?_) fun _ => hfail
    apply within_bind (within_call hR _)
    intro r
    match r with
    | .bytes (b :: bs) => exact within_pure _
    | .bytes [] | .error _ => exact hfail

theorem within_recv_dgram_packet (E : Env σ) (sockfd : Nat) : Within R (recv_dgram_packet E sockfd) := by
  apply within_bind (within_call hR _)
  intro avail
  match avail with
  | none | some 0 => exact within_pure _
  | some (avail + 1) =>
    refine within_bind (within_call hR _) fun buf => within_ite (fun _ => ?_) fun _ => within_pure _
    apply within_bind (within_call hR _)
    intro r
    match r with
    | some (b :: bs, client) => exact within_pure _
    | some ([], client) | none => exact within_pure _

theorem within_recv_fee_packet (E : Env σ) (id : SvcId) (sockfd : Nat) :
    Within R (recv_fee_packet E id sockfd) := by
  have hdrop := within_conn_drop (hR.drops E id) sockfd
  apply within_bind (within_peek_header hR E sockfd _ _ hdrop)
  intro hdr
  cases hdr with
  | none => exact within_pure _
  | some hdr =>
    exact within_ite (fun _ => within_recv_raw_packet hR E id sockfd) fun _ =>
      within_recv_body hR E sockfd _ hdrop

theorem within_recv_gresb_packet (E : Env σ) (id : SvcId) (sockfd : Nat) :
    Within R (recv_gresb_packet E id sockfd) := by
  have hdrop := within_conn_drop (hR.drops E id) sockfd
  have hfail : Within R (do conn_drop E id sockfd; pure none : Prog σ (Option (List UInt8))) :=
    within_bind hdrop fun _ => within_pure _
  apply within_bind (within_peek_header hR E sockfd _ _ hdrop)
  intro hdr
  cases hdr with
  | none => exact within_pure _
  | some hdr =>
    refine within_ite (fun _ => hfail) fun _ => ?_
    apply within_bind (within_recv_body hR E sockfd _ hdrop)
    intro pkt
    cases pkt with
    | none => exact within_pure _
    | some pkt =>
      apply within_bind (within_call hR _)
      intro buf
      exact within_ite (fun _ => within_pure _) fun _ => hfail

omit hR in
theorem within_check_pus_sequence_tx (hR : Listens R) (E : Env σ) (pkt : List UInt8) :
    Within R (check_pus_sequence_tx E pkt) := by
  apply within_bind (within_call hR.toReceives _)
  intro alloc
  refine within_bind within_get fun w => ?_
  refine within_bind (within_lift _) fun checked => ?_
  exact within_modify fun w => hR.pus_seq_tx w _

omit hR in
theorem within_recv_pus_packet (hR : Listens R) (E : Env σ) (id : SvcId) (sockfd : Nat) :
    Within R (recv_pus_packet E id sockfd) := by
  have hdrop := within_conn_drop (hR.toReceives.drops E id) sockfd
  apply within_bind (within_peek_header hR.toReceives E sockfd _ _ hdrop)
  intro hdr
  cases hdr with
  | none => exact within_pure _
  | some hdr =>
    apply within_bind (within_recv_body hR.toReceives E sockfd _ hdrop)
    intro pkt
    cases pkt with
    | none => exact within_pure _
    | some pkt => exact within_bind (within_check_pus_sequence_tx hR E pkt) fun _ => within_pure _

end frames

end spw_bridge.net
