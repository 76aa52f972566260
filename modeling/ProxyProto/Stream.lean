import ProxyProto.Wire

/-!
# The socket and the buffered reader in front of it

The peer's bytes arrive as a schedule of segments: chunks that one read can
return, and pauses longer than any read deadline. A read of the socket returns
a prefix of the next chunk, or a timeout at a pause while a deadline is set, or
`io.EOF` at the end. `bufio.Reader` holds the bytes read from the socket but
not yet handed out; its operations are modelled on the code of the standard
library: `fill`, the fill loop of `Peek`, `ReadByte`, `Read` with its direct
read for large buffers, and `io.ReadFull` on top of it.

The invariant every operation keeps is that the bytes it hands out, followed by
what is still buffered and what the socket has not delivered yet, are exactly
what was there before (`*_data` lemmas). On a live socket, open and without a
read deadline, the operations also return as much as the stream holds
(`*_live` lemmas).

## Implementation notes

A socket read into a buffer of at least one byte returns data or an error,
never neither, so the loop of `maxConsecutiveEmptyReads` reads in `fill` runs
once, and `Recv` carries that in its type. The fill loop of `Peek` and the loop
of `io.ReadAtLeast` take `n` passes as fuel: every pass that does not stop the
loop adds a byte, so `n` passes are always enough (`fillUntil_live`,
`readAtLeast_live`).
-/

namespace ProxyProto

/-- What the peer side delivers next: a chunk one read can return, or a pause
longer than any read deadline. -/
inductive Segment where
  | data (c : UInt8) (cs : Bytes)
  | stall
  deriving DecidableEq, Repr

namespace Segment

/-- The bytes of a delivery schedule. -/
def bytes : List Segment → Bytes
  | [] => []
  | .data c cs :: rest => c :: cs ++ bytes rest
  | .stall :: rest => bytes rest

/-- The unread part of a chunk, put back in front of the schedule. -/
def unread : Bytes → List Segment → List Segment
  | [], rest => rest
  | c :: cs, rest => .data c cs :: rest

@[simp] theorem bytes_nil : bytes [] = [] := rfl
@[simp] theorem bytes_data (c : UInt8) (cs : Bytes) (rest : List Segment) :
    bytes (.data c cs :: rest) = c :: cs ++ bytes rest := rfl
@[simp] theorem bytes_stall (rest : List Segment) : bytes (.stall :: rest) = bytes rest := rfl

@[simp] theorem bytes_unread (xs : Bytes) (rest : List Segment) :
    bytes (unread xs rest) = xs ++ bytes rest := by
  cases xs <;> simp [unread]

end Segment

/-- The result of one socket read into a buffer of at least one byte. -/
inductive Recv where
  | data (c : UInt8) (cs : Bytes)
  | fail (e : Error)
  deriving DecidableEq, Repr

/-- The bytes a read returned. -/
def Recv.bytes : Recv → Bytes
  | .data c cs => c :: cs
  | .fail _ => []

@[simp] theorem Recv.bytes_data (c : UInt8) (cs : Bytes) : (Recv.data c cs).bytes = c :: cs := rfl
@[simp] theorem Recv.bytes_fail (e : Error) : (Recv.fail e).bytes = [] := rfl

/-- A read of at most `k` bytes (`k > 0`) from the schedule under a read deadline
(`0` is the zero time: none). Without a deadline a pause only delays the read. -/
def Segment.recv (k deadline : Nat) : List Segment → Recv × List Segment
  | [] => (.fail .eof, [])
  | .stall :: rest => if deadline = 0 then recv k deadline rest else (.fail .timeout, rest)
  | .data c cs :: rest => (.data c (cs.take (k - 1)), unread (cs.drop (k - 1)) rest)

/-- A read hands out a prefix of the schedule's bytes and leaves the rest. -/
theorem Segment.recv_bytes (k deadline : Nat) (segs : List Segment) :
    (recv k deadline segs).1.bytes ++ bytes (recv k deadline segs).2 = bytes segs := by
  induction segs with
  | nil => rfl
  | cons seg rest ih =>
    cases seg with
    | data c cs => simp [recv, ← List.append_assoc]
    | stall =>
      by_cases h : deadline = 0
      · subst h; simpa [recv] using ih
      · simp [recv, h]

/-- Without a deadline a read returns `io.EOF` only at the end, and otherwise
between one and `k` bytes. -/
theorem Segment.recv_live (k : Nat) (hk : 0 < k) (segs : List Segment) :
    (bytes segs = [] ∧ recv k 0 segs = (.fail .eof, [])) ∨
    (∃ c cs rest, recv k 0 segs = (.data c cs, rest) ∧ cs.length < k ∧
      c :: cs ++ bytes rest = bytes segs) := by
  induction segs with
  | nil => exact .inl ⟨rfl, rfl⟩
  | cons seg rest ih =>
    cases seg with
    | data c cs =>
      refine .inr ⟨c, cs.take (k - 1), _, rfl, by simp; omega, ?_⟩
      simp [← List.append_assoc]
    | stall => simpa [recv] using ih

theorem Segment.recv_length (k deadline : Nat) (hk : 0 < k) (segs : List Segment) :
    (recv k deadline segs).1.bytes.length ≤ k := by
  induction segs with
  | nil => simp [recv]
  | cons seg rest ih =>
    cases seg with
    | data c cs => simp [recv]; omega
    | stall =>
      by_cases h : deadline = 0
      · subst h; simpa [recv] using ih
      · simp [recv, h]

/-- The errors a socket read reports: the end of the stream, a passed deadline,
a closed socket. -/
def Error.fromSocket : Error → Bool
  | .eof | .timeout | .closed => true
  | _ => false

/-- A failed read reports a socket error, and the end of the stream only when
no bytes are left. -/
theorem Segment.recv_fail (k deadline : Nat) (segs : List Segment) {e : Error}
    (h : (recv k deadline segs).1 = .fail e) : e.fromSocket ∧ (e = .eof → bytes segs = []) := by
  induction segs with
  | nil => cases h; exact ⟨rfl, fun _ => rfl⟩
  | cons seg rest ih =>
    cases seg with
    | data c cs => cases h
    | stall =>
      unfold recv at h; split at h
      · simpa using ih h
      · cases h; exact ⟨rfl, nofun⟩

/-- The underlying `net.Conn`, with the time `time.Now()` reads. -/
structure Socket where
  input : List Segment
  readDeadline : Nat
  clock : Nat
  closed : Bool
  localAddr : Option Addr
  remoteAddr : Option Addr
  deriving DecidableEq, Repr

namespace Socket

/-- `Read` into a buffer of `k > 0` bytes. -/
def recv (k : Nat) (s : Socket) : Recv × Socket :=
  if s.closed then (.fail .closed, s)
  else ((Segment.recv k s.readDeadline s.input).1, { s with input := (Segment.recv k s.readDeadline s.input).2 })

/-- `Read` into a buffer of `k` bytes; a read of no bytes on an open socket returns at once. -/
def read (k : Nat) (s : Socket) : (Bytes × Option Error) × Socket :=
  if k = 0 ∧ s.closed = false then (([], none), s)
  else
    match s.recv k with
    | (.data c cs, s') => ((c :: cs, none), s')
    | (.fail e, s') => (([], some e), s')

/-- `SetReadDeadline`. -/
def setReadDeadline (t : Nat) (s : Socket) : Option Error × Socket :=
  if s.closed then (some .closed, s) else (none, { s with readDeadline := t })

/-- `Close`. -/
def close (s : Socket) : Option Error × Socket :=
  if s.closed then (some .closed, s) else (none, { s with closed := true })

/-- The bytes the socket has yet to deliver. -/
def pending (s : Socket) : Bytes := Segment.bytes s.input

/-- Open and without a read deadline: every read waits for data or the end. -/
def Live (s : Socket) : Prop := s.closed = false ∧ s.readDeadline = 0

@[simp] theorem live_input (s : Socket) (x : List Segment) :
    ({ s with input := x } : Socket).Live ↔ s.Live := Iff.rfl

theorem recv_live {s : Socket} (hs : s.Live) (k : Nat) (hk : 0 < k) :
    (s.pending = [] ∧ s.recv k = (.fail .eof, { s with input := [] })) ∨
    (∃ c cs s', s.recv k = (.data c cs, s') ∧ cs.length < k ∧
      c :: cs ++ s'.pending = s.pending ∧ s'.Live) := by
  obtain ⟨hc, hd⟩ := hs
  unfold recv pending
  rcases Segment.recv_live k hk s.input with ⟨he, hr⟩ | ⟨c, cs, rest, hr, hl, hb⟩
  · exact .inl ⟨he, by simp [hc, hd, hr]⟩
  · exact .inr ⟨c, cs, { s with input := rest }, by simp [hc, hd, hr], hl,
      by simpa [pending] using hb, hc, hd⟩

theorem recv_length (k : Nat) (hk : 0 < k) (s : Socket) : (s.recv k).1.bytes.length ≤ k := by
  unfold recv; split
  · simp
  · exact Segment.recv_length k _ hk _

theorem recv_pending (k : Nat) (s : Socket) :
    (s.recv k).1.bytes ++ (s.recv k).2.pending = s.pending := by
  unfold recv; split <;> simp [pending, Segment.recv_bytes]

/-- A read changes nothing but the schedule. -/
theorem recv_frame (k : Nat) (s : Socket) : (s.recv k).2 = { s with input := (s.recv k).2.input } := by
  unfold recv; split <;> rfl

theorem recv_data {k : Nat} {s s' : Socket} {c : UInt8} {cs : Bytes}
    (h : s.recv k = (.data c cs, s')) : c :: cs ++ s'.pending = s.pending := by
  simpa [h] using recv_pending k s

theorem recv_fail {k : Nat} {s s' : Socket} {e : Error}
    (h : s.recv k = (.fail e, s')) : s'.pending = s.pending := by
  simpa [h] using recv_pending k s

/-- `LocalAddr` and `RemoteAddr`. -/
def addrs (s : Socket) : Option Addr × Option Addr := (s.localAddr, s.remoteAddr)

@[simp] theorem recv_addrs (k : Nat) (s : Socket) : (s.recv k).2.addrs = s.addrs := by
  rw [recv_frame]; rfl

/-- What a read leaves of a socket: all but the segments it still has to deliver. -/
def control (s : Socket) : Socket := { s with input := [] }

@[simp] theorem recv_control (k : Nat) (s : Socket) : (s.recv k).2.control = s.control := by
  rw [recv_frame]; rfl

@[simp] theorem read_control (k : Nat) (s : Socket) : (s.read k).2.control = s.control := by
  unfold read; split_ifs
  · rfl
  · split <;> rename_i h <;> simpa [h] using recv_control k s

@[simp] theorem control_readDeadline (s : Socket) : s.control.readDeadline = s.readDeadline := rfl

@[simp] theorem control_closed (s : Socket) : s.control.closed = s.closed := rfl

@[simp] theorem setReadDeadline_addrs (t : Nat) (s : Socket) : (s.setReadDeadline t).2.addrs = s.addrs := by
  unfold setReadDeadline; split <;> rfl

@[simp] theorem setReadDeadline_closed (t : Nat) (s : Socket) : (s.setReadDeadline t).2.closed = s.closed := by
  unfold setReadDeadline; split <;> rfl

theorem setReadDeadline_readDeadline (t : Nat) (s : Socket) :
    (s.setReadDeadline t).2.readDeadline = if s.closed then s.readDeadline else t := by
  unfold setReadDeadline; split <;> simp_all

@[simp] theorem setReadDeadline_pending (t : Nat) (s : Socket) :
    (s.setReadDeadline t).2.pending = s.pending := by
  unfold setReadDeadline; split <;> rfl

theorem recv_error {k : Nat} {s s' : Socket} {e : Error} (h : s.recv k = (.fail e, s')) :
    e.fromSocket ∧ (e = .eof → s.pending = []) := by
  unfold recv at h; split at h
  · cases h; exact ⟨rfl, nofun⟩
  · exact Segment.recv_fail _ _ _ (congrArg Prod.fst h)

/-- What a socket read hands out, followed by what is left, is what was there. -/
theorem read_pending (k : Nat) (s : Socket) : (s.read k).1.1 ++ (s.read k).2.pending = s.pending := by
  unfold read; split
  · rfl
  · split
    · next h => simpa using recv_data h
    · next h => simpa using recv_fail h

@[simp] theorem read_addrs (k : Nat) (s : Socket) : (s.read k).2.addrs = s.addrs := by
  unfold read; split
  · rfl
  · split <;> next h => simpa [h] using recv_addrs k s

/-- A socket read that fails reports a socket error, and the end of the stream
only when nothing is left to deliver. -/
theorem read_error {k : Nat} {s : Socket} {e : Error} (h : (s.read k).1.2 = some e) :
    e.fromSocket ∧ (e = .eof → (s.read k).1.1 = [] ∧ s.pending = []) := by
  unfold read at h ⊢; split at h
  · cases h
  · rename_i hk; rw [if_neg hk]
    split at h
    · cases h
    · next h' => cases h; exact ⟨(recv_error h').1, fun he => ⟨rfl, (recv_error h').2 he⟩⟩

end Socket

/-- `bufio.Reader`: the bytes `buf[r:w]` read but not handed out, the buffer's
size and the pending read error. -/
structure BufReader where
  buf : Bytes
  size : Nat
  err : Option Error
  minReadBufferSize_le : 16 ≤ size
  deriving DecidableEq

namespace BufReader

/-- `NewReaderSize(rd, size)` after `Reset`: empty, at least 16 bytes. -/
def newReaderSize (size : Nat) : BufReader :=
  ⟨[], max size 16, none, Nat.le_max_right _ _⟩

/-- The bytes still to come through the reader: buffered, then not yet delivered. -/
def data (b : BufReader) (s : Socket) : Bytes := b.buf ++ s.pending

/-- `fill`: one socket read into the room after the buffered bytes. -/
def fill (b : BufReader) (s : Socket) : BufReader × Socket :=
  match s.recv (b.size - b.buf.length) with
  | (.data c cs, s') => ({ b with buf := b.buf ++ c :: cs }, s')
  | (.fail e, s') => ({ b with err := some e }, s')

/-- The fill loop of `Peek`: fill while fewer than `n` bytes are buffered, the
buffer has room and no error is pending. -/
def fillUntil (n : Nat) : Nat → BufReader → Socket → BufReader × Socket
  | 0, b, s => (b, s)
  | fuel + 1, b, s =>
    if b.buf.length < n ∧ b.buf.length < b.size ∧ b.err = none then
      fillUntil n fuel (b.fill s).1 (b.fill s).2
    else (b, s)

/-- `Peek(n)`: the next `n` bytes without consuming them. -/
def peek (n : Nat) (b : BufReader) (s : Socket) : (Bytes × Option Error) × BufReader × Socket :=
  let r := fillUntil n n b s
  if r.1.size < n then ((r.1.buf, some .bufferFull), r)
  else if r.1.buf.length < n then
    ((r.1.buf, some (r.1.err.getD .bufferFull)), { r.1 with err := none }, r.2)
  else ((r.1.buf.take n, none), r)

/-- `Buffered`. -/
def buffered (b : BufReader) : Nat := b.buf.length

/-- `ReadByte`. -/
def readByte (b : BufReader) (s : Socket) : Except Error UInt8 × BufReader × Socket :=
  match b.buf, b.err with
  | c :: rest, _ => (.ok c, { b with buf := rest }, s)
  | [], some e => (.error e, { b with err := none }, s)
  | [], none =>
    match s.recv b.size with
    | (.data c cs, s') => (.ok c, { b with buf := cs }, s')
    | (.fail e, s') => (.error e, b, s')

/-- `Read` into a buffer of `k` bytes. -/
def read (k : Nat) (b : BufReader) (s : Socket) : (Bytes × Option Error) × BufReader × Socket :=
  if k = 0 then
    if 0 < b.buf.length then (([], none), b, s) else (([], b.err), { b with err := none }, s)
  else
    match b.buf, b.err with
    | _ :: _, _ => ((b.buf.take k, none), { b with buf := b.buf.drop k }, s)
    | [], some e => (([], some e), { b with err := none }, s)
    | [], none =>
      if b.size ≤ k then
        match s.recv k with
        | (.data c cs, s') => ((c :: cs, none), b, s')
        | (.fail e, s') => (([], some e), b, s')
      else
        match s.recv b.size with
        | (.data c cs, s') => (((c :: cs).take k, none), { b with buf := (c :: cs).drop k }, s')
        | (.fail e, s') => (([], some e), b, s')

/-! ### What the reader hands out is what the stream held -/

theorem fill_data (b : BufReader) (s : Socket) : (b.fill s).1.data (b.fill s).2 = b.data s := by
  unfold fill; split
  · next h => simpa [data] using Socket.recv_data h
  · next h => simpa [data] using Socket.recv_fail h

theorem fillUntil_data (n fuel : Nat) (b : BufReader) (s : Socket) :
    (fillUntil n fuel b s).1.data (fillUntil n fuel b s).2 = b.data s := by
  induction fuel generalizing b s with
  | zero => rfl
  | succ fuel ih => unfold fillUntil; split <;> simp [ih, fill_data]

theorem peek_data (n : Nat) (b : BufReader) (s : Socket) :
    (b.peek n s).2.1.data (b.peek n s).2.2 = b.data s := by
  unfold peek; dsimp only; split
  · exact fillUntil_data n n b s
  · split <;> exact fillUntil_data n n b s

theorem readByte_ok_data {b b' : BufReader} {s s' : Socket} {c : UInt8}
    (h : b.readByte s = (.ok c, b', s')) : b.data s = c :: b'.data s' := by
  unfold readByte at h
  split at h
  · cases h; simp_all [data]
  · cases h
  · next hb _ =>
    split at h
    · next h' => cases h; simpa [data, hb] using (Socket.recv_data h').symm
    · cases h

theorem read_data (k : Nat) (b : BufReader) (s : Socket) :
    (b.read k s).1.1 ++ (b.read k s).2.1.data (b.read k s).2.2 = b.data s := by
  unfold read
  split
  · split <;> rfl
  · split
    · simp [data, ← List.append_assoc]
    · rfl
    · next hb _ =>
      split
      · split
        · next h => simpa [data, hb] using Socket.recv_data h
        · next h => simpa [data, hb] using Socket.recv_fail h
      · split
        · next h => simpa [data, hb, ← List.append_assoc] using Socket.recv_data h
        · next h => simpa [data, hb] using Socket.recv_fail h

@[simp] theorem readByte_size (b : BufReader) (s : Socket) : (b.readByte s).2.1.size = b.size := by
  unfold readByte; split
  · rfl
  · rfl
  · split <;> rfl

@[simp] theorem read_size (k : Nat) (b : BufReader) (s : Socket) : (b.read k s).2.1.size = b.size := by
  unfold read; split
  · split <;> rfl
  · split
    · rfl
    · rfl
    · split <;> split <;> rfl

/-- `Read` hands out at most as many bytes as asked for. -/
theorem read_length_le (k : Nat) (b : BufReader) (s : Socket) : (b.read k s).1.1.length ≤ k := by
  unfold read; split
  · split <;> simp_all
  · split
    · simp only [List.length_take]; omega
    · simp
    · split
      · split
        · next h => have := Socket.recv_length k (by omega) s; simp_all
        · simp
      · split
        · simp only [List.length_take]; omega
        · simp

/-! ### What the reader's operations keep -/

/-- What every operation of the reader keeps: the socket's addresses, and a
pending error that the socket reported. -/
def Keeps (A : Option Addr × Option Addr) (st : BufReader × Socket) : Prop :=
  st.2.addrs = A ∧ st.1.err.all Error.fromSocket

section Keeps

variable {A : Option Addr × Option Addr} {b : BufReader} {s : Socket}

theorem recv_keeps {k : Nat} {r : Recv} {s' : Socket} (h : s.recv k = (r, s')) (hk : Keeps A (b, s)) :
    s'.addrs = A ∧ ∀ e, r = .fail e → e.fromSocket := by
  have ha := Socket.recv_addrs k s
  rw [h] at ha
  exact ⟨ha.trans hk.1, fun e he => (Socket.recv_error (he ▸ h)).1⟩

theorem fill_keeps (h : Keeps A (b, s)) : Keeps A (b.fill s) := by
  unfold fill; split <;> rename_i h'
  · exact ⟨(recv_keeps h' h).1, h.2⟩
  · exact ⟨(recv_keeps h' h).1, by simp [(recv_keeps h' h).2 _ rfl]⟩

theorem fillUntil_keeps (n fuel : Nat) :
    ∀ {b : BufReader} {s : Socket}, Keeps A (b, s) → Keeps A (fillUntil n fuel b s) := by
  induction fuel with
  | zero => exact id
  | succ fuel ih =>
    intro b s h; unfold fillUntil; split
    · exact ih (fill_keeps h)
    · exact h

theorem peek_keeps (n : Nat) (h : Keeps A (b, s)) : Keeps A (b.peek n s).2 := by
  have hf := fillUntil_keeps n n h
  unfold peek; dsimp only; split
  · exact hf
  · split
    · exact ⟨hf.1, rfl⟩
    · exact hf

theorem readByte_keeps (h : Keeps A (b, s)) : Keeps A (b.readByte s).2 := by
  unfold readByte; split
  · exact h
  · exact ⟨h.1, rfl⟩
  · split <;> rename_i h' <;> exact ⟨(recv_keeps h' h).1, h.2⟩

/-- `Read` keeps the reader's state, and every error it returns is the socket's. -/
theorem read_keeps (k : Nat) (h : Keeps A (b, s)) :
    Keeps A (b.read k s).2 ∧ (b.read k s).1.2.all Error.fromSocket := by
  unfold read; split
  · split
    · exact ⟨h, rfl⟩
    · exact ⟨⟨h.1, rfl⟩, h.2⟩
  · split
    · exact ⟨h, rfl⟩
    · rename_i he; exact ⟨⟨h.1, rfl⟩, by simpa [he] using h.2⟩
    · split <;> split <;> rename_i h' <;>
        first
        | exact ⟨⟨(recv_keeps h' h).1, h.2⟩, rfl⟩
        | exact ⟨⟨(recv_keeps h' h).1, h.2⟩, by simp [(recv_keeps h' h).2 _ rfl]⟩

end Keeps

/-! ### A read changes nothing of the socket but its schedule -/

section Control

variable {b : BufReader} {s : Socket}

theorem fill_control : (b.fill s).2.control = s.control := by
  unfold fill; split <;> rename_i h <;> simpa [h] using Socket.recv_control (b.size - b.buf.length) s

theorem fillUntil_control (n fuel : Nat) : ∀ {b : BufReader} {s : Socket},
    (fillUntil n fuel b s).2.control = s.control := by
  induction fuel with
  | zero => intros; rfl
  | succ fuel ih => intro b s; unfold fillUntil; split <;> simp only [ih, fill_control]

theorem peek_control (n : Nat) : (b.peek n s).2.2.control = s.control := by
  unfold peek; dsimp only; split_ifs <;> exact fillUntil_control n n

theorem readByte_control : (b.readByte s).2.2.control = s.control := by
  unfold readByte; split
  · rfl
  · rfl
  · split <;> rename_i h <;> simpa [h] using Socket.recv_control b.size s

theorem read_control (k : Nat) : (b.read k s).2.2.control = s.control := by
  unfold read; split_ifs
  · rfl
  · rfl
  all_goals
    split
    · rfl
    · rfl
    · split <;> rename_i h <;> first
        | simpa [h] using Socket.recv_control k s
        | simpa [h] using Socket.recv_control b.size s

end Control

/-- A `Peek` that succeeds returns the next `n` bytes and leaves them buffered. -/
theorem peek_ok {n : Nat} {b b' : BufReader} {s s' : Socket} {p : Bytes}
    (h : b.peek n s = ((p, none), b', s')) :
    p = (b.data s).take n ∧ b'.data s' = b.data s ∧ n ≤ b'.buf.length := by
  have hd := peek_data n b s
  rw [h] at hd
  unfold peek at h; dsimp only at h
  split at h
  · cases h
  · split at h
    · cases h
    · next hlt =>
      simp only [Prod.mk.injEq] at h
      obtain ⟨⟨rfl, -⟩, hr⟩ := h
      rw [hr] at hlt ⊢
      have hlen : n ≤ b'.buf.length := by simpa using hlt
      exact ⟨by rw [← hd, data, List.take_append_of_le_length hlen], hd, hlen⟩

/-! ### On a live socket the reader returns what the stream holds -/

/-- A state the reader's own operations leave it in: no pending error, and the
buffered bytes fit the buffer. -/
def Good (b : BufReader) : Prop := b.err = none ∧ b.buf.length ≤ b.size

@[simp] theorem fill_size (b : BufReader) (s : Socket) : (b.fill s).1.size = b.size := by
  unfold fill; split <;> rfl

theorem fill_live {b : BufReader} {s : Socket} (hs : s.Live) (hb : b.Good)
    (hroom : b.buf.length < b.size) :
    (b.fill s).2.Live ∧ ((s.pending = [] ∧ (b.fill s).1.buf = b.buf ∧ (b.fill s).1.err = some .eof) ∨
      ((b.fill s).1.Good ∧ b.buf.length < (b.fill s).1.buf.length)) := by
  rcases Socket.recv_live hs (b.size - b.buf.length) (by omega) with
    ⟨he, hr⟩ | ⟨c, cs, s', hr, hl, -, hs'⟩
  · simp [fill, hr, he, hs]
  · simp only [fill, hr, hs', true_and]
    exact .inr ⟨⟨hb.1, by simp; omega⟩, by simp⟩

theorem fillUntil_stop {n : Nat} {b : BufReader} {s : Socket}
    (h : ¬(b.buf.length < n ∧ b.buf.length < b.size ∧ b.err = none)) (fuel : Nat) :
    fillUntil n fuel b s = (b, s) := by
  cases fuel <;> simp [fillUntil, h]

/-- The fill loop of `Peek` buffers `min n size` bytes, or everything up to the end. -/
theorem fillUntil_live (n : Nat) : ∀ (fuel : Nat) (b : BufReader) (s : Socket), s.Live → b.Good →
    n ≤ b.buf.length + fuel →
    (fillUntil n fuel b s).2.Live ∧ (fillUntil n fuel b s).1.size = b.size ∧
    (fillUntil n fuel b s).1.buf.length ≤ b.size ∧
    ((min n b.size ≤ (fillUntil n fuel b s).1.buf.length ∧ (fillUntil n fuel b s).1.err = none) ∨
     ((fillUntil n fuel b s).2.pending = [] ∧ (fillUntil n fuel b s).1.err = some .eof ∧
      (fillUntil n fuel b s).1.buf.length < min n b.size)) := by
  intro fuel
  induction fuel with
  | zero =>
    intro b s hs hb hn
    exact ⟨hs, rfl, hb.2, .inl ⟨show min n b.size ≤ b.buf.length by omega, hb.1⟩⟩
  | succ fuel ih =>
    intro b s hs hb hn
    by_cases hc : b.buf.length < n ∧ b.buf.length < b.size ∧ b.err = none
    · simp only [fillUntil, if_pos hc]
      rcases fill_live hs hb hc.2.1 with ⟨hs', ⟨he, hbuf, herr⟩ | ⟨hg, hlt⟩⟩
      · rw [fillUntil_stop (by simp [herr])]
        have hp : (b.fill s).2.pending = s.pending := by
          simpa [data, hbuf] using fill_data b s
        exact ⟨hs', by simp, by simp [hbuf]; omega, .inr ⟨hp.trans he, herr, by simp [hbuf]; omega⟩⟩
      · obtain ⟨h1, h2, h3, h4⟩ := ih _ _ hs' hg (by omega)
        exact ⟨h1, by simp [h2], by simpa using h3, by simpa using h4⟩
    · rw [fillUntil_stop hc]
      have : ¬(b.buf.length < n ∧ b.buf.length < b.size) := fun h => hc ⟨h.1, h.2, hb.1⟩
      exact ⟨hs, rfl, hb.2, .inl ⟨show min n b.size ≤ b.buf.length by omega, hb.1⟩⟩

@[simp] theorem fillUntil_size (n fuel : Nat) (b : BufReader) (s : Socket) :
    (fillUntil n fuel b s).1.size = b.size := by
  induction fuel generalizing b s with
  | zero => rfl
  | succ fuel ih => unfold fillUntil; split <;> simp [ih]

/-- `Peek(n)` within the buffer's size, after its fill loop. -/
theorem peek_of_le {n : Nat} {b : BufReader} {s : Socket} (hn : n ≤ b.size) :
    b.peek n s =
      if (fillUntil n n b s).1.buf.length < n then
        (((fillUntil n n b s).1.buf, some ((fillUntil n n b s).1.err.getD .bufferFull)),
          { (fillUntil n n b s).1 with err := none }, (fillUntil n n b s).2)
      else (((fillUntil n n b s).1.buf.take n, none), fillUntil n n b s) := by
  simp only [peek, fillUntil_size, if_neg (show ¬ b.size < n by omega)]

/-- `Peek(n)` within the buffer's size returns the next `n` bytes, or all that is
left and `io.EOF`, and after it at least `n` bytes are buffered when the stream had them. -/
theorem peek_live {b : BufReader} {s : Socket} (hs : s.Live) (hb : b.Good) {n : Nat}
    (hn : n ≤ b.size) :
    (b.peek n s).1 = ((b.data s).take n, if n ≤ (b.data s).length then none else some .eof) ∧
    (b.peek n s).2.1.Good ∧ (b.peek n s).2.2.Live ∧ (b.peek n s).2.1.size = b.size ∧
    (b.peek n s).2.1.data (b.peek n s).2.2 = b.data s ∧
    (n ≤ (b.data s).length → n ≤ (b.peek n s).2.1.buf.length) := by
  have hd : (fillUntil n n b s).1.buf ++ (fillUntil n n b s).2.pending = b.data s :=
    fillUntil_data n n b s
  obtain ⟨hl, hsz, hfit, ⟨hmin, herr⟩ | ⟨hpend, herr, hlt⟩⟩ :=
    fillUntil_live n n b s hs hb (by omega)
  · have hn' : n ≤ (fillUntil n n b s).1.buf.length := by omega
    have hdl : n ≤ (b.data s).length := by rw [← hd]; simp; omega
    rw [peek_of_le hn, if_neg (by omega)]
    refine ⟨?_, ⟨herr, hfit.trans_eq hsz.symm⟩, hl, hsz, by simpa [data] using hd, fun _ => hn'⟩
    rw [if_pos hdl, ← hd, List.take_append_of_le_length hn']
  · rw [hpend, List.append_nil] at hd
    have hlt' : (fillUntil n n b s).1.buf.length < n := by omega
    rw [peek_of_le hn, if_pos hlt']
    refine ⟨?_, ⟨rfl, by simpa [hsz] using hfit⟩, hl, by simp, by simp [data, hpend, hd], ?_⟩
    · simp [herr, ← hd, List.take_of_length_le hlt'.le, show ¬ n ≤ _ from Nat.not_le.mpr hlt']
    · rw [← hd]; omega

theorem readByte_live {b : BufReader} {s : Socket} (hs : s.Live) (hb : b.Good) :
    (b.readByte s).2.1.Good ∧ (b.readByte s).2.2.Live ∧ (b.readByte s).2.1.size = b.size ∧
    (b.readByte s).1 = match b.data s with
      | [] => .error .eof
      | c :: _ => .ok c := by
  obtain ⟨herr, hfit⟩ := hb
  match hbuf : b.buf with
  | c :: rest =>
    have : rest.length ≤ b.size := by rw [hbuf] at hfit; simp at hfit; omega
    simp [readByte, hbuf, data, herr, this, hs, Good]
  | [] =>
    rcases Socket.recv_live hs b.size (by have := b.minReadBufferSize_le; omega) with
      ⟨he, hr⟩ | ⟨c, cs, s', hr, hl, hp, hs'⟩
    · simp [readByte, hbuf, herr, hr, data, he, hs, Good, hfit]
    · simp only [readByte, hbuf, herr, hr, data, List.nil_append, ← hp]
      simp [Good, hs']; omega

theorem read_live {b : BufReader} {s : Socket} (hs : s.Live) (hb : b.Good) {k : Nat} (hk : 0 < k) :
    (b.read k s).2.1.Good ∧ (b.read k s).2.2.Live ∧ (b.read k s).2.1.size = b.size ∧
    ((b.data s = [] ∧ (b.read k s).1.2 = some .eof) ∨
     (0 < (b.read k s).1.1.length ∧ (b.read k s).1.1.length ≤ k ∧ (b.read k s).1.2 = none)) := by
  obtain ⟨herr, hfit⟩ := hb
  have h16 := b.minReadBufferSize_le
  match hbuf : b.buf with
  | c :: rest =>
    rw [hbuf] at hfit
    simp [read, hbuf, hs, Good, herr, show k ≠ 0 by omega]
    simp at hfit; omega
  | [] =>
    by_cases hsz : b.size ≤ k
    · rcases Socket.recv_live hs k hk with ⟨he, hr⟩ | ⟨c, cs, s', hr, hl, -, hs'⟩
      · simp [read, hbuf, herr, hsz, hr, hs, Good, data, he, show k ≠ 0 by omega]
      · simp [read, hbuf, herr, hsz, hr, hs', Good, show k ≠ 0 by omega]; omega
    · rcases Socket.recv_live hs b.size (by omega) with ⟨he, hr⟩ | ⟨c, cs, s', hr, hl, -, hs'⟩
      · simp [read, hbuf, herr, hsz, hr, hs, Good, data, he, show k ≠ 0 by omega]
      · simp [read, hbuf, herr, hsz, hr, hs', Good, show k ≠ 0 by omega]; omega

end BufReader

/-- The loop of `io.ReadAtLeast` over a reader `rd`: read into the rest of the
buffer until `want` bytes are in or an error stops it. -/
def readAtLeast {σ : Type} (rd : Nat → σ → (Bytes × Option Error) × σ) (want : Nat) :
    Nat → Bytes → σ → (Bytes × Option Error) × σ
  | 0, got, st => ((got, none), st)
  | fuel + 1, got, st =>
    if got.length < want then
      match rd (want - got.length) st with
      | ((bs, none), st') => readAtLeast rd want fuel (got ++ bs) st'
      | ((bs, some e), st') => ((got ++ bs, some e), st')
    else ((got, none), st)

/-- `io.ReadFull` of `want` bytes. -/
def readFull {σ : Type} (rd : Nat → σ → (Bytes × Option Error) × σ) (want : Nat) (st : σ) :
    Except Error Bytes × σ :=
  let r := readAtLeast rd want want [] st
  if want ≤ r.1.1.length then (.ok r.1.1, r.2)
  else if 0 < r.1.1.length ∧ r.1.2 = some .eof then (.error .unexpectedEOF, r.2)
  else (.error (r.1.2.getD .unexpectedEOF), r.2)

section ReadFull

variable {σ : Type} {rd : Nat → σ → (Bytes × Option Error) × σ} {D : σ → Bytes} {P : σ → Prop}

/-- A reader whose reads hand out a prefix of the bytes `D` it holds. -/
def Consumes (rd : Nat → σ → (Bytes × Option Error) × σ) (D : σ → Bytes) : Prop :=
  ∀ k st, (rd k st).1.1 ++ D (rd k st).2 = D st

/-- A reader that, in states `P`, hands out between one and `k` of its bytes, or
`io.EOF` at the end. -/
def Streams (rd : Nat → σ → (Bytes × Option Error) × σ) (D : σ → Bytes) (P : σ → Prop) : Prop :=
  ∀ k st, 0 < k → P st → P (rd k st).2 ∧ (rd k st).1.1 ++ D (rd k st).2 = D st ∧
    ((D st = [] ∧ (rd k st).1.2 = some .eof) ∨
     (0 < (rd k st).1.1.length ∧ (rd k st).1.1.length ≤ k ∧ (rd k st).1.2 = none))

theorem readAtLeast_data (h : Consumes rd D) (want fuel : Nat) (got : Bytes) (st : σ) :
    (readAtLeast rd want fuel got st).1.1 ++ D (readAtLeast rd want fuel got st).2 = got ++ D st := by
  induction fuel generalizing got st with
  | zero => rfl
  | succ fuel ih =>
    unfold readAtLeast
    split
    · have := h (want - got.length) st
      split
      · next hr => rw [ih, List.append_assoc]; simpa [hr] using congrArg (got ++ ·) this
      · next hr => simpa [hr] using congrArg (got ++ ·) this
    · rfl

theorem readFull_snd (want : Nat) (st : σ) :
    (readFull rd want st).2 = (readAtLeast rd want want [] st).2 := by
  unfold readFull; dsimp only; split
  · rfl
  · split <;> rfl

/-- What every read of the reader keeps, `io.ReadFull` keeps. -/
theorem readFull_preserves (Q : σ → Prop) (h : ∀ k st, Q st → Q (rd k st).2) (want : Nat) {st : σ}
    (hq : Q st) : Q (readFull rd want st).2 := by
  rw [readFull_snd]
  suffices ∀ fuel got st, Q st → Q (readAtLeast rd want fuel got st).2 from this want [] st hq
  intro fuel
  induction fuel with
  | zero => exact fun _ _ => id
  | succ fuel ih =>
    intro got st hq
    unfold readAtLeast
    split
    · have hq' := h (want - got.length) st hq
      split <;> rename_i hr <;> rw [hr] at hq'
      · exact ih _ _ hq'
      · exact hq'
    · exact hq

/-- A successful `io.ReadFull` of a reader that never returns more than asked
returns exactly `want` bytes. -/
theorem readFull_ok_length (h : ∀ k st, (rd k st).1.1.length ≤ k) {want : Nat} {st st' : σ}
    {out : Bytes} (hr : readFull rd want st = (.ok out, st')) : out.length = want := by
  have hle : ∀ fuel got st, got.length ≤ want → (readAtLeast rd want fuel got st).1.1.length ≤ want := by
    intro fuel
    induction fuel with
    | zero => intro got st hg; exact hg
    | succ fuel ih =>
      intro got st hg
      unfold readAtLeast
      split
      · have := h (want - got.length) st
        split
        · next hr => exact ih _ _ (by simp [hr] at this ⊢; omega)
        · next hr => simp [hr] at this ⊢; omega
      · exact hg
  have := hle want [] st (by simp)
  unfold readFull at hr; dsimp only at hr
  split at hr
  · cases hr; omega
  · split at hr <;> cases hr

theorem readFull_data (h : Consumes rd D) {want : Nat} {st st' : σ} {out : Bytes}
    (hr : readFull rd want st = (.ok out, st')) : out ++ D st' = D st := by
  have := readAtLeast_data h want want [] st
  unfold readFull at hr; dsimp only at hr
  split at hr
  · cases hr; simpa using this
  · split at hr <;> cases hr

/-- The `io.ReadAtLeast` loop returns the next bytes up to `want`, or stops at the end. -/
theorem readAtLeast_streams (h : Streams rd D P) (want : Nat) :
    ∀ fuel got st, P st → got.length ≤ want → want ≤ got.length + fuel →
    P (readAtLeast rd want fuel got st).2 ∧
    (readAtLeast rd want fuel got st).1.1 ++ D (readAtLeast rd want fuel got st).2 = got ++ D st ∧
    (want ≤ got.length + (D st).length →
      (readAtLeast rd want fuel got st).1 = (got ++ (D st).take (want - got.length), none)) ∧
    ((D st).length < want - got.length → (readAtLeast rd want fuel got st).1.2 = some .eof) := by
  intro fuel
  induction fuel with
  | zero =>
    intro got st hp hle hfuel
    have : want - got.length = 0 := by omega
    simp [readAtLeast, hp, this]
  | succ fuel ih =>
    intro got st hp hle hfuel
    by_cases hlt : got.length < want
    · obtain ⟨hp', hd, ⟨hD, he⟩ | ⟨hpos, hk, he⟩⟩ := h (want - got.length) st (by omega) hp
      · have hbs : (rd (want - got.length) st).1.1 = [] ∧ D (rd (want - got.length) st).2 = [] := by
          simpa [hD] using hd
        simp only [readAtLeast, if_pos hlt]
        rw [show rd (want - got.length) st = (((rd (want - got.length) st).1.1, some .eof),
          (rd (want - got.length) st).2) from by rw [← he]]
        dsimp only
        refine ⟨hp', by simp [hbs, hD], fun h' => by simp [hD] at h'; omega, fun _ => rfl⟩
      · set bs := (rd (want - got.length) st).1.1
        simp only [readAtLeast, if_pos hlt]
        rw [show rd (want - got.length) st = ((bs, none), (rd (want - got.length) st).2) from by
          rw [← he]]
        dsimp only
        obtain ⟨h1, h2, h3, h4⟩ := ih (got ++ bs) _ hp' (by simp; omega) (by simp; omega)
        have hD : D st = bs ++ D (rd (want - got.length) st).2 := hd.symm
        refine ⟨h1, by rw [hD]; simpa using h2, fun h' => ?_,
          fun h' => h4 (by simp [hD] at h'; simp; omega)⟩
        rw [h3 (by simp [hD] at h'; simp; omega), hD, List.take_append_eq_append_take,
          List.take_of_length_le (by omega : bs.length ≤ want - got.length)]
        simp [Nat.sub_sub]
    · have : want - got.length = 0 := by omega
      simp [readAtLeast, hlt, hp, this]

/-- `io.ReadFull` returns the next `want` bytes when the reader holds them, and an
error otherwise. -/
theorem readFull_streams (h : Streams rd D P) (want : Nat) (st : σ) (hp : P st) :
    P (readFull rd want st).2 ∧
    (want ≤ (D st).length → (readFull rd want st).1 = .ok ((D st).take want) ∧
      D (readFull rd want st).2 = (D st).drop want) ∧
    ((D st).length < want → ∃ e, (readFull rd want st).1 = .error e) := by
  obtain ⟨h1, h2, h3, h4⟩ := readAtLeast_streams h want want [] st hp (by simp) (by simp)
  simp only [List.length_nil, Nat.sub_zero, List.nil_append, Nat.zero_add] at h2 h3 h4
  refine ⟨readFull_snd want st ▸ h1, fun hw => ?_, fun hw => ?_⟩
  · have hr := h3 hw
    have hl : want ≤ (readAtLeast rd want want [] st).1.1.length := by rw [hr]; simp; omega
    have hfull : readFull rd want st = (.ok ((D st).take want), (readAtLeast rd want want [] st).2) := by
      unfold readFull; dsimp only; rw [if_pos hl, hr]
    refine ⟨by rw [hfull], ?_⟩
    have : (D st).take want ++ D (readFull rd want st).2 = D st := by
      rw [hfull]; simpa [hr] using h2
    rw [← this, List.drop_left' (by simp; omega)]
  · have hl : ¬ want ≤ (readAtLeast rd want want [] st).1.1.length := by
      have := congrArg List.length h2; simp at this; omega
    unfold readFull; dsimp only; rw [if_neg hl]; split <;> exact ⟨_, rfl⟩

end ReadFull

namespace BufReader

/-- `Read` on the reader, as a reader of `io.ReadFull`. -/
def reader (k : Nat) (st : BufReader × Socket) : (Bytes × Option Error) × (BufReader × Socket) :=
  st.1.read k st.2

theorem reader_consumes : Consumes reader (fun st => st.1.data st.2) :=
  fun k st => read_data k st.1 st.2

theorem reader_length_le (k : Nat) (st : BufReader × Socket) : (reader k st).1.1.length ≤ k :=
  read_length_le k st.1 st.2

theorem reader_streams (size : Nat) :
    Streams reader (fun st => st.1.data st.2) (fun st => st.1.Good ∧ st.2.Live ∧ st.1.size = size) := by
  intro k st hk ⟨hb, hs, hsz⟩
  obtain ⟨h1, h2, h3, h4⟩ := read_live hs hb hk
  exact ⟨⟨h1, h2, h3.trans hsz⟩, read_data k st.1 st.2, h4⟩

end BufReader

end ProxyProto
