import SpwBridge.Config
import SpwBridge.Library.Effect
import SpwBridge.Net.Sequence
import SpwBridge.Rmap.Decode

open effect

namespace spw_bridge

inductive Errno
  | EAGAIN
  | EINTR
  | ETIMEDOUT
  | other (code : Nat)
  deriving DecidableEq, Repr

structure RecvFlags where
  peek : Bool
  dontwait : Bool
  deriving DecidableEq, Repr

def RecvFlags.none : RecvFlags := ⟨false, false⟩
def RecvFlags.MSG_PEEK : RecvFlags := ⟨true, false⟩
def RecvFlags.MSG_DONTWAIT : RecvFlags := ⟨false, true⟩
def RecvFlags.MSG_PEEK_DONTWAIT : RecvFlags := ⟨true, true⟩

/-- What a receive call returns: a count with that many bytes, where none means
end of file, or minus one with an error number. -/
inductive RecvResult
  | bytes (bs : List UInt8)
  | error (errno : Errno)
  deriving DecidableEq, Repr

inductive SendResult
  | sent (count : Nat)
  | error (errno : Errno)
  deriving DecidableEq, Repr

/-- A request to the RMAP packet library. -/
inductive RmapRequest
  | write (dst src key : UInt8) (addr : UInt32) (data : List UInt8) (size : UInt32)
  | read (dst src key : UInt8) (addr : UInt32) (size : UInt32)
  deriving DecidableEq, Repr

/-- Everything outside the program: the kernel, the C library and the device
API, as functions of a state of their own. `patience` bounds how often a loop
without a bound of its own goes round before its thread counts as hung. -/
structure Env (σ : Type) where
  recv : σ → Nat → Nat → RecvFlags → RecvResult × σ
  fionread : σ → Nat → Option Nat × σ
  recvfrom : σ → Nat → Nat → Option (List UInt8 × SockaddrIn) × σ
  send : σ → Nat → List UInt8 → SendResult × σ
  sendto : σ → Nat → List UInt8 → SockaddrIn → σ
  close : σ → Nat → σ
  select : σ → Finset Nat → Finset Nat × σ
  malloc : σ → Bool × σ
  deadline_expired : σ → Bool × σ
  patience : σ → Nat
  device : σ → Bool × σ
  STAR_openChannel : σ → Nat → Nat × σ
  STAR_createPacket : σ → Bool × σ
  STAR_createTxOperation : σ → Bool × σ
  STAR_submitTransferOperation : σ → Bool × σ
  STAR_waitOnTransferOperationCompletion : σ → Bool × σ
  STAR_transmitPacket : σ → Bool × σ
  RMAP_BuildCommandPacket : σ → RmapRequest → Option (List UInt8) × σ

/-- An environment in which every call succeeds, nothing arrives and every send
takes all bytes. -/
def Env.quiet : Env Unit where
  recv _ _ _ _ := (.error .EAGAIN, ())
  fionread _ _ := (none, ())
  recvfrom _ _ _ := (none, ())
  send _ _ buf := (.sent buf.length, ())
  sendto _ _ _ _ := ()
  close _ _ := ()
  select _ _ := (∅, ())
  malloc _ := (true, ())
  deadline_expired _ := (false, ())
  patience _ := 1
  device _ := (true, ())
  STAR_openChannel _ number := (number + 1, ())
  STAR_createPacket _ := (true, ())
  STAR_createTxOperation _ := (true, ())
  STAR_submitTransferOperation _ := (true, ())
  STAR_waitOnTransferOperationCompletion _ := (true, ())
  STAR_transmitPacket _ := (true, ())
  RMAP_BuildCommandPacket _ _ := (some [], ())

/-- What the program asked the network to do. `sent` records the bytes that one
`send()` took. -/
inductive NetCall
  | send_all (sockfd : Nat) (msg : List UInt8)
  | sent (sockfd : Nat) (bytes : List UInt8)
  | sendto (client : SockaddrIn) (msg : List UInt8)
  | close (sockfd : Nat)
  | select (watched : Finset Nat)

/-- What the program asked the SpW side to do. `submit` and `transmit` are the
packets on the wire of a channel. -/
inductive SpwCall
  | rmap_cmd (dst op : UInt8) (addr : UInt32) (data : List UInt8)
  | send_packet (chan : Chan) (pkt : List UInt8)
  | submit (chan : Chan) (wire : List UInt8)
  | transmit (chan : Chan) (wire : List UInt8)
  deriving DecidableEq, Repr

/-- The state of the running bridge and of its environment. The logs only
record; no function reads them. -/
structure World (σ : Type) where
  env : σ
  svc : SvcId → NetService
  is_client : Bool
  pus_seq_tx : net.PusSeqTable
  pus_seq_rx : net.PusSeqTable
  spw : Option SpwState
  net_log : List NetCall
  spw_log : List SpwCall

/-- A world with no connections, empty tables and empty logs. -/
def World.fresh {σ : Type} (env : σ) : World σ where
  env := env
  svc _ := ⟨0, ∅, 0, [], 0⟩
  is_client := false
  pus_seq_tx := .empty
  pus_seq_rx := .empty
  spw := none
  net_log := []
  spw_log := []

/-- Why a call did not return: the process exited, a loop did not end, or the
access that follows is undefined. -/
inductive Halt
  | exit
  | hang
  | fault (fault : Fault)
  deriving DecidableEq, Repr

/-- Everything but undefined behaviour. -/
def Halt.Defined (halt : Halt) : Prop := ∀ fault, halt ≠ .fault fault

abbrev Prog (σ : Type) := EStateM Halt (World σ)

variable {σ α : Type}

/-- A call into the environment. -/
def syscall (f : σ → α × σ) : Prog σ α := fun w =>
  .ok (f w.env).1 { w with env := (f w.env).2 }

def lift : Except Fault α → Prog σ α
  | .ok a => pure a
  | .error fault => throw (.fault fault)

def log_net (call : NetCall) : Prog σ Unit := modify fun w => { w with net_log := w.net_log ++ [call] }

def log_spw (call : SpwCall) : Prog σ Unit := modify fun w => { w with spw_log := w.spw_log ++ [call] }

/-- A receive call never returns more bytes than it was asked for. -/
def RecvResult.clip (n : Nat) : RecvResult → RecvResult
  | .bytes bs => .bytes (bs.take n)
  | .error errno => .error errno

def recv (E : Env σ) (sockfd n : Nat) (flags : RecvFlags) : Prog σ RecvResult :=
  syscall fun s => ((E.recv s sockfd n flags).1.clip n, (E.recv s sockfd n flags).2)

def malloc (E : Env σ) : Prog σ Bool := syscall E.malloc

def close (E : Env σ) (sockfd : Nat) : Prog σ Unit := do
  syscall fun s => ((), E.close s sockfd)
  log_net (.close sockfd)

/-- The outcomes of the three allocations of the RMAP decoder. -/
def alloc_pkt (E : Env σ) : Prog σ rmap.Alloc := do
  let pkt ← malloc E
  let rpath ← malloc E
  let data ← malloc E
  pure ⟨pkt, rpath, data⟩

def get_svc (id : SvcId) : Prog σ NetService := do
  let w ← get
  pure (w.svc id)

def modify_svc (id : SvcId) (f : NetService → NetService) : Prog σ Unit :=
  modify fun w => { w with svc := Function.update w.svc id (f (w.svc id)) }

section rules

variable {w : World σ} {fails : Halt → World σ → Prop}

@[simp] theorem wp_syscall {post : α → World σ → Prop} (f : σ → α × σ) :
    wp (syscall f) post fails w ↔ post (f w.env).1 { w with env := (f w.env).2 } := Iff.rfl

@[simp] theorem wp_lift_ok {post : α → World σ → Prop} (a : α) :
    wp (lift (.ok a)) post fails w ↔ post a w := Iff.rfl

@[simp] theorem wp_lift_error {post : α → World σ → Prop} (fault : Fault) :
    wp (lift (.error fault)) post fails w ↔ fails (.fault fault) w := Iff.rfl

@[simp] theorem wp_log_net {post : Unit → World σ → Prop} (call : NetCall) :
    wp (log_net call) post fails w ↔ post () { w with net_log := w.net_log ++ [call] } := Iff.rfl

@[simp] theorem wp_log_spw {post : Unit → World σ → Prop} (call : SpwCall) :
    wp (log_spw call) post fails w ↔ post () { w with spw_log := w.spw_log ++ [call] } := Iff.rfl

@[simp] theorem wp_get_svc {post : NetService → World σ → Prop} (id : SvcId) :
    wp (get_svc id) post fails w ↔ post (w.svc id) w := Iff.rfl

@[simp] theorem wp_modify_svc {post : Unit → World σ → Prop} (id : SvcId) (f : NetService → NetService) :
    wp (modify_svc id f) post fails w ↔
      post () { w with svc := Function.update w.svc id (f (w.svc id)) } := Iff.rfl

end rules

/-! ### Frames of the primitives

A call into the environment changes nothing of the bridge. -/

section frames

variable {R : World σ → World σ → Prop}

theorem within_lift [IsPreorder (World σ) R] (x : Except Fault α) : Within R (lift x : Prog σ α) := by
  cases x with
  | ok a => exact within_pure a
  | error fault => exact within_throw _

end frames

end spw_bridge
