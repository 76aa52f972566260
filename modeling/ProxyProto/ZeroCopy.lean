import ProxyProto.Wire

/-!
# The zero-copy loops

`ZeroCopy` copies from one connection to another through the routine the build
binds `zeroCopyImpl` to: `fallbackCopy`, which is `io.CopyBuffer`, or one of
`netpollZeroCopy`, `epollZeroCopy` and `spliceZeroCopy`, which drive the system
calls themselves. Each routine here runs over the bytes the source will deliver
and an answer for every system call it issues, and logs what it reads from the
source and writes to the destination.

A copy keeps its contract (`CopyContract`) when after every event the bytes
written are a prefix of the bytes read, the count it returns is the number of
bytes written, and it returns no error only after the end of the source with
every byte read written. `fallbackCopy` keeps it for every source and all
answers (`fallbackCopy_contract`). `epollZeroCopy` writes a chunk only in the
round that read it and only while the destination was reported writable: what
it cannot write then is overwritten by the next read. What it writes it still
read, in the order read, and its count is what it wrote (`epollZeroCopy_inOrder`).
`netpollZeroCopy` and `spliceZeroCopy` return no error when a poll times out
after the first byte was written, and `spliceZeroCopy` falls back to
`io.CopyBuffer` on `EINVAL` and returns its count alone.

## Implementation notes

Each system call takes its answer from its own queue: `read` and the first
`splice` (from the source into the pipe) from `reads`, `write` and the second
`splice` (from the pipe) from `writes`, `poll` and `epoll_wait` from `polls`. A
call whose queue is empty leaves the routine waiting, and its run has no
result. The set-up calls (`File`, `SetNonblock`, the socket options, `EpollCtl`,
`Pipe`) are taken to succeed and both connections to be TCP connections. A read
takes at most the buffer's length and what the source still holds, and one that
takes nothing is the end of the stream; a write takes at most what it is given.
An empty buffer is the nil buffer: `io.CopyBuffer` then allocates 32 KiB, the
other routines 64 KiB. The loops run on fuel, one unit an iteration, and every
iteration uses an answer, so the fuel the routines start with never runs out
before the answers.
-/

namespace ProxyProto

/-- The `errno` values the loops tell apart. -/
inductive Errno where
  /-- `EAGAIN`, which is also `EWOULDBLOCK` -/
  | EAGAIN
  | EINTR
  | ECONNRESET
  | EPIPE
  | EINVAL
  | other (code : Nat)
  deriving DecidableEq, Repr

/-- What `read`, `write` or `splice` reports: the count of bytes it moved, or an error. -/
inductive IoResult where
  | moved (n : Nat)
  | errno (e : Errno)
  deriving DecidableEq, Repr

/-- An event `epoll_wait` reports for one descriptor. -/
inductive EpollEvent where
  /-- on the source: `EPOLLIN` or `EPOLLRDHUP`, and `EPOLLERR` or `EPOLLHUP` -/
  | src (readable hangup : Bool)
  /-- on the destination: `EPOLLOUT`, and `EPOLLERR` or `EPOLLHUP` -/
  | dst (writable hangup : Bool)
  deriving DecidableEq, Repr

/-- What `epoll_wait` or `poll` reports: the ready events, none at the timeout, or an error. -/
inductive PollResult where
  | events (evs : List EpollEvent)
  | errno (e : Errno)
  deriving DecidableEq, Repr

/-- The answers to the system calls of one copy, a queue for each kind of call. -/
structure Answers where
  reads : List IoResult
  writes : List IoResult
  polls : List PollResult
  deriving DecidableEq, Repr

/-- The error values the copy routines return. -/
inductive CopyError where
  | errno (e : Errno)
  /-- `io.EOF` -/
  | eof
  /-- `io.ErrShortWrite` -/
  | shortWrite
  /-- `errors.New("destination connection error")` -/
  | destination
  /-- `errors.New("write timeout")` -/
  | writeTimeout
  /-- `errors.New("zero bytes written during splice")` -/
  | zeroSplice
  deriving DecidableEq, Repr

/-- What a copy does to the two streams. -/
inductive IoEvent where
  /-- bytes taken from the source -/
  | read (bytes : Bytes)
  /-- the source reported the end of its stream -/
  | eof
  /-- bytes handed to the destination -/
  | wrote (bytes : Bytes)
  deriving DecidableEq, Repr

/-- The state of a copy: what the source still holds, the count of bytes
written (`total`), the log, and the answers not yet used. -/
structure Copy where
  src : Bytes
  total : Nat
  log : List IoEvent
  reads : List IoResult
  writes : List IoResult
  polls : List PollResult

/-- What a run of a copy routine ends with: its log, and the count and error it
returned, or `none` while it waits for an answer the queues do not hold. -/
structure CopyRun where
  log : List IoEvent
  result : Option (Nat × Option CopyError)

/-- How an inner loop hands back to its routine. -/
inductive Flow where
  /-- the loop is over and the routine goes on -/
  | next
  /-- the routine returns this error, with its count -/
  | ret (e : Option CopyError)
  /-- a call found no answer: the routine waits -/
  | wait

namespace Copy

/-- A read answered with `n` into a buffer of `bufLen` bytes: the bytes it took,
none at the end of the stream. -/
def take (c : Copy) (bufLen n : Nat) : Bytes × Copy :=
  let b := c.src.take (min n bufLen)
  (b, { c with src := c.src.drop (min n bufLen), log := c.log ++ [if b = [] then .eof else .read b] })

/-- A write of `chunk` answered with `w`: it takes at most the chunk. -/
def wrote (c : Copy) (chunk : Bytes) (w : Nat) : Copy :=
  { c with total := c.total + min w chunk.length, log := c.log ++ [.wrote (chunk.take w)] }

/-- `return total, e`. -/
def ret (c : Copy) (e : Option CopyError) : CopyRun := ⟨c.log, some (c.total, e)⟩

/-- The routine waits for an answer. -/
def wait (c : Copy) : CopyRun := ⟨c.log, none⟩

/-- `waitForIO` of `spliceZeroCopy`: a `poll` on one descriptor for at most a
second, ready when `poll` counts a ready descriptor. -/
def waitForIO (c : Copy) : Option (Except Errno Bool × Copy) :=
  match c.polls with
  | [] => none
  | .errno e :: polls => some (.error e, { c with polls := polls })
  | .events evs :: polls => some (.ok (decide (0 < evs.length)), { c with polls := polls })

/-- `waitReadReady(srcFd)` of `netpollZeroCopy`, the same `poll` on the source. -/
def waitReadReady (c : Copy) : Option (Except Errno Bool × Copy) := c.waitForIO

/-- `waitWriteReady(dstFd)` of `netpollZeroCopy`, the same `poll` on the destination. -/
def waitWriteReady (c : Copy) : Option (Except Errno Bool × Copy) := c.waitForIO

end Copy

/-! ### The contract of a copy -/

/-- The bytes an event took from the source. -/
def IoEvent.readBytes : IoEvent → Bytes
  | .read b => b
  | _ => []

/-- The bytes an event handed to the destination. -/
def IoEvent.wroteBytes : IoEvent → Bytes
  | .wrote b => b
  | _ => []

/-- The event a read logs takes the bytes it read and writes none. -/
@[simp] theorem readBytes_ite_eof (b : Bytes) : (if b = [] then IoEvent.eof else .read b).readBytes = b := by
  split_ifs with hb <;> simp [hb, IoEvent.readBytes]

@[simp] theorem wroteBytes_ite_eof (b : Bytes) : (if b = [] then IoEvent.eof else .read b).wroteBytes = [] := by
  split_ifs <;> rfl

/-- The bytes a log took from the source. -/
def readOf (log : List IoEvent) : Bytes := log.flatMap IoEvent.readBytes

/-- The bytes a log handed to the destination. -/
def writtenOf (log : List IoEvent) : Bytes := log.flatMap IoEvent.wroteBytes

@[simp] theorem readOf_nil : readOf [] = [] := rfl
@[simp] theorem writtenOf_nil : writtenOf [] = [] := rfl
@[simp] theorem readOf_append (l l' : List IoEvent) : readOf (l ++ l') = readOf l ++ readOf l' :=
  List.flatMap_append ..
@[simp] theorem writtenOf_append (l l' : List IoEvent) : writtenOf (l ++ l') = writtenOf l ++ writtenOf l' :=
  List.flatMap_append ..
@[simp] theorem readOf_cons (x : IoEvent) (l : List IoEvent) : readOf (x :: l) = x.readBytes ++ readOf l := rfl
@[simp] theorem writtenOf_cons (x : IoEvent) (l : List IoEvent) :
    writtenOf (x :: l) = x.wroteBytes ++ writtenOf l := rfl

/-- After every event of the log, the bytes written are a prefix of the bytes read. -/
def WritesFollowReads (log : List IoEvent) : Prop :=
  ∀ k, writtenOf (log.take k) <+: readOf (log.take k)

theorem writesFollowReads_nil : WritesFollowReads [] := fun k => by simp

/-- A relation between the bytes written and read that holds after every event of
a log holds after every event of one more when it holds after that event. -/
theorem forall_take_snoc {R : Bytes → Bytes → Prop} {log : List IoEvent} {x : IoEvent}
    (h : ∀ k, R (writtenOf (log.take k)) (readOf (log.take k)))
    (hx : R (writtenOf (log ++ [x])) (readOf (log ++ [x]))) :
    ∀ k, R (writtenOf ((log ++ [x]).take k)) (readOf ((log ++ [x]).take k)) := by
  intro k
  rw [List.take_append_eq_append_take]
  by_cases hk : k ≤ log.length
  · simpa [Nat.sub_eq_zero_of_le hk] using h k
  · rwa [List.take_of_length_le (by omega), List.take_of_length_le (by simp; omega)]

/-- An event keeps the writes behind the reads when they are behind after it. -/
theorem WritesFollowReads.snoc {log : List IoEvent} {x : IoEvent} (h : WritesFollowReads log)
    (hx : writtenOf (log ++ [x]) <+: readOf (log ++ [x])) : WritesFollowReads (log ++ [x]) :=
  forall_take_snoc (R := List.IsPrefix) h hx

/-- After every event of the log, the bytes written are a sublist of the bytes read:
each byte written was read, and the bytes written keep the order they were read in. -/
def WritesWithinReads (log : List IoEvent) : Prop :=
  ∀ k, (writtenOf (log.take k)).Sublist (readOf (log.take k))

theorem WritesFollowReads.within {log : List IoEvent} (h : WritesFollowReads log) :
    WritesWithinReads log :=
  fun k => (h k).sublist

/-- A run keeps the order of the bytes: after every event the bytes written are a
prefix of the bytes read, the count it returns is the number of bytes written, and
it returns no error only with every byte it read written. -/
structure CopyRun.Orderly (r : CopyRun) : Prop where
  follow : WritesFollowReads r.log
  count : ∀ n e, r.result = some (n, e) → n = (writtenOf r.log).length
  drained : ∀ n, r.result = some (n, none) → writtenOf r.log = readOf r.log

/-- The contract of a copy: it keeps the order of the bytes, and it returns no error
only after the source reported the end of its stream. -/
structure CopyContract (r : CopyRun) : Prop where
  orderly : r.Orderly
  ended : ∀ n, r.result = some (n, none) → IoEvent.eof ∈ r.log

/-- What a run keeps when it may leave bytes out: after every event the bytes
written are a sublist of the bytes read, and the count it returns is the number of
bytes written. -/
structure CopyRun.InOrder (r : CopyRun) : Prop where
  within : WritesWithinReads r.log
  count : ∀ n e, r.result = some (n, e) → n = (writtenOf r.log).length

theorem CopyRun.Orderly.inOrder {r : CopyRun} (h : r.Orderly) : r.InOrder :=
  ⟨h.follow.within, h.count⟩

namespace Copy

/-- The state a routine starts in. -/
def start (src : Bytes) (a : Answers) : Copy := ⟨src, 0, [], a.reads, a.writes, a.polls⟩

/-- Between a read and the writes it calls for: the writes followed the reads, what
was written followed by the chunk `b` still to write is what was read, and the count
is what was written. At the head of a loop nothing is pending. -/
structure Pending (b : Bytes) (c : Copy) : Prop where
  follow : WritesFollowReads c.log
  written : writtenOf c.log ++ b = readOf c.log
  total : c.total = (writtenOf c.log).length

section Pending

variable {b : Bytes} {c c' : Copy}

theorem pending_start (src : Bytes) (a : Answers) : (start src a).Pending [] :=
  ⟨writesFollowReads_nil, rfl, rfl⟩

/-- What only uses up answers keeps what is pending. -/
theorem Pending.frame (h : c.Pending b) (hlog : c'.log = c.log) (ht : c'.total = c.total) : c'.Pending b :=
  ⟨hlog ▸ h.follow, hlog ▸ h.written, by rw [ht, hlog]; exact h.total⟩

/-- A read at the head of a loop leaves the chunk it took pending, and one that
took nothing logged the end of the source. -/
theorem Pending.take {rs : List IoResult} {bufLen n : Nat} (h : c.Pending [])
    (ht : { c with reads := rs }.take bufLen n = (b, c')) : c'.Pending b ∧ (b = [] → IoEvent.eof ∈ c'.log) := by
  simp only [Copy.take, Prod.mk.injEq] at ht
  obtain ⟨rfl, rfl⟩ := ht
  have hw := h.written
  rw [List.append_nil] at hw
  refine ⟨⟨h.follow.snoc ?_, ?_, ?_⟩, fun hb => by simp [hb]⟩ <;>
    simp only [writtenOf_append, readOf_append, writtenOf_cons, readOf_cons, readBytes_ite_eof,
      wroteBytes_ite_eof, writtenOf_nil, readOf_nil, List.append_nil, hw, h.total]
  exact List.prefix_append _ _

/-- A write of the pending chunk moves what it took to what was written. -/
theorem Pending.wrote (h : c.Pending b) (ws : List IoResult) (w : Nat) :
    ({ c with writes := ws }.wrote b w).Pending (b.drop w) := by
  have hw := h.written
  refine ⟨h.follow.snoc ?_, ?_, ?_⟩ <;>
    simp [Copy.wrote, h.total, IoEvent.readBytes, IoEvent.wroteBytes, ← hw, List.take_prefix]

/-- A `poll` keeps what is pending. -/
theorem Pending.poll {r} (hw : c.waitForIO = some (r, c')) (h : c.Pending b) : c'.Pending b := by
  unfold Copy.waitForIO at hw
  split at hw <;> cases hw <;> exact h.frame rfl rfl

/-- A return keeps the order when it returns no error only with nothing pending. -/
theorem Pending.ret_orderly {e : Option CopyError} (h : c.Pending b) (he : e = none → b = []) :
    (c.ret e).Orderly :=
  ⟨h.follow, fun _ _ hr => by cases hr; exact h.total,
    fun _ hr => by cases hr; simpa [he rfl] using h.written⟩

theorem Pending.wait_orderly (h : c.Pending b) : c.wait.Orderly :=
  ⟨h.follow, nofun, nofun⟩

theorem Pending.ret_contract {e : Option CopyError} (h : c.Pending []) (he : e = none → IoEvent.eof ∈ c.log) :
    CopyContract (c.ret e) :=
  ⟨h.ret_orderly fun _ => rfl, fun _ hr => by cases hr; exact he rfl⟩

theorem Pending.error_contract (h : c.Pending b) (e : CopyError) : CopyContract (c.ret (some e)) :=
  ⟨h.ret_orderly nofun, nofun⟩

theorem Pending.wait_contract (h : c.Pending b) : CopyContract c.wait :=
  ⟨h.wait_orderly, nofun⟩

end Pending

end Copy

/-! ### `fallbackCopy` -/

/-- The loop of `io.CopyBuffer`: read a chunk, write it, stop at the end of the
source, at an error, or at a short write. -/
def fallbackLoop (bufLen : Nat) : Nat → Copy → CopyRun
  | 0, c => c.wait
  | fuel + 1, c =>
    match c.reads with
    | [] => c.wait
    | .errno e :: reads => { c with reads := reads }.ret (some (.errno e))
    | .moved n :: reads =>
      match { c with reads := reads }.take bufLen n with
      | (b, c) =>
        if b = [] then c.ret none
        else
          match c.writes with
          | [] => c.wait
          | .errno e :: writes => { c with writes := writes }.ret (some (.errno e))
          | .moved w :: writes =>
            if w < b.length then ({ c with writes := writes }.wrote b w).ret (some .shortWrite)
            else fallbackLoop bufLen fuel ({ c with writes := writes }.wrote b w)

/-- `io.CopyBuffer(dst, src, buf)` from the state a routine reached, with a buffer
of `bufLen` bytes: its count starts from zero. -/
def Copy.copyBuffer (c : Copy) (bufLen : Nat) : CopyRun :=
  fallbackLoop (if bufLen = 0 then 32768 else bufLen) (c.reads.length + 1) { c with total := 0 }

/-- `fallbackCopy(src, dst, buf)`, that is `io.CopyBuffer(dst, src, buf)`, with a
buffer of `bufLen` bytes. -/
def fallbackCopy (bufLen : Nat) (src : Bytes) (a : Answers) : CopyRun :=
  (Copy.start src a).copyBuffer bufLen

theorem fallbackLoop_contract (bufLen : Nat) : ∀ (fuel : Nat) (c : Copy), c.Pending [] →
    CopyContract (fallbackLoop bufLen fuel c)
  | 0, c, hc => hc.wait_contract
  | fuel + 1, c, hc => by
    unfold fallbackLoop
    rcases c.reads with _ | ⟨n | e, reads⟩
    · exact hc.wait_contract
    · dsimp only
      generalize hp : { c with reads := reads }.take bufLen n = p
      obtain ⟨b, c'⟩ := p
      obtain ⟨hb, heof⟩ := hc.take hp
      dsimp only
      split_ifs with hnil
      · subst hnil
        exact hb.ret_contract fun _ => heof rfl
      rcases c'.writes with _ | ⟨w | e, writes⟩
      · exact hb.wait_contract
      · have hw := hb.wrote writes w
        dsimp only
        split_ifs with hlt
        · exact hw.error_contract _
        · rw [List.drop_eq_nil_of_le (not_lt.1 hlt)] at hw
          exact fallbackLoop_contract bufLen fuel _ hw
      · exact (hb.frame rfl rfl).error_contract _
    · exact (hc.frame rfl rfl).error_contract _

/-- A run with the count it returns raised by `t`. -/
def CopyRun.raise (r : CopyRun) (t : Nat) : CopyRun := ⟨r.log, r.result.map fun p => (p.1 + t, p.2)⟩

/-- The loop of `io.CopyBuffer` adds what it writes to the count it starts from. -/
theorem fallbackLoop_raise (bufLen t : Nat) : ∀ (fuel : Nat) (c : Copy),
    fallbackLoop bufLen fuel { c with total := c.total + t } = (fallbackLoop bufLen fuel c).raise t
  | 0, c => rfl
  | fuel + 1, c => by
    unfold fallbackLoop
    dsimp only
    rcases c.reads with _ | ⟨n | e, reads⟩
    · rfl
    · simp only [Copy.take]
      split_ifs
      · rfl
      rcases c.writes with _ | ⟨w | e, writes⟩
      · rfl
      · dsimp only
        split_ifs
        · simp only [Copy.wrote, Copy.ret, CopyRun.raise, Option.map_some', Nat.add_right_comm]
        · rw [← fallbackLoop_raise]
          simp only [Copy.wrote, Nat.add_right_comm]
      · rfl
    · rfl

/-- What a run keeps when its count may leave out bytes it wrote: the writes follow
the reads, the count is at most what was written, and it returns no error only with
every byte it read written. -/
structure CopyRun.Follows (r : CopyRun) : Prop where
  follow : WritesFollowReads r.log
  count : ∀ n e, r.result = some (n, e) → n ≤ (writtenOf r.log).length
  drained : ∀ n, r.result = some (n, none) → writtenOf r.log = readOf r.log

theorem CopyRun.Orderly.follows {r : CopyRun} (h : r.Orderly) : r.Follows :=
  ⟨h.follow, fun n e he => (h.count n e he).le, h.drained⟩

theorem CopyRun.Orderly.of_raise {r : CopyRun} {t : Nat} (h : (r.raise t).Orderly) : r.Follows := by
  refine ⟨h.follow, fun n e he => ?_, fun n he => h.drained (n + t) (by simp [CopyRun.raise, he])⟩
  have := h.count (n + t) e (by simp [CopyRun.raise, he])
  simp only [CopyRun.raise] at this
  omega

/-- `io.CopyBuffer` from a state with nothing pending counts only what it writes itself. -/
theorem Copy.Pending.copyBuffer_follows {c : Copy} (h : c.Pending []) (bufLen : Nat) :
    (c.copyBuffer bufLen).Follows := by
  refine CopyRun.Orderly.of_raise (t := c.total) ?_
  have hc : Copy.Pending [] { c with total := 0 + c.total } := h.frame rfl (Nat.zero_add _)
  rw [Copy.copyBuffer, ← fallbackLoop_raise]
  exact (fallbackLoop_contract _ _ _ hc).orderly

/-- `fallbackCopy` keeps the contract of a copy for every source and all answers. -/
theorem fallbackCopy_contract (bufLen : Nat) (src : Bytes) (a : Answers) :
    CopyContract (fallbackCopy bufLen src a) :=
  fallbackLoop_contract _ _ _ (Copy.pending_start src a)

/-- What an inner loop hands back keeps the order: the routine goes on with nothing
pending, or it returns an error or waits with some chunk pending. -/
def Flow.Orderly : Flow × Copy → Prop
  | (.next, c) => c.Pending []
  | (.ret e, c) => e ≠ none ∧ ∃ b, c.Pending b
  | (.wait, c) => ∃ b, c.Pending b

/-- The routine keeps the order after an inner loop that keeps it, when it goes on
to keep it from every state with nothing pending. -/
theorem Flow.Orderly.run {p : Flow × Copy} (h : Flow.Orderly p) {P : CopyRun → Prop}
    (hP : ∀ r : CopyRun, r.Orderly → P r) {k : Copy → CopyRun} (hk : ∀ c, c.Pending [] → P (k c)) :
    P (match p with
      | (.next, c) => k c
      | (.ret e, c) => c.ret e
      | (.wait, c) => c.wait) := by
  rcases p with ⟨_ | e | _, c⟩
  · exact hk c h
  · obtain ⟨he, b, hb⟩ := h
    exact hP _ (hb.ret_orderly fun h => absurd h he)
  · exact hP _ h.choose_spec.wait_orderly

/-! ### `netpollZeroCopy` -/

/-- The write phase of `netpollZeroCopy`: write `buf[writeOffset:n]` until all of
it is written, waiting for the destination on `EAGAIN`. -/
def netpollWrites : Nat → Bytes → Copy → Flow × Copy
  | 0, _, c => (.wait, c)
  | fuel + 1, chunk, c =>
    match c.writes with
    | [] => (.wait, c)
    | .errno .EAGAIN :: writes =>
      match { c with writes := writes }.waitWriteReady with
      | none => (.wait, c)
      | some (.error e, c) => (.ret (some (.errno e)), c)
      | some (.ok false, c) => (.ret (some .writeTimeout), c)
      | some (.ok true, c) => netpollWrites fuel chunk c
    | .errno e :: writes => (.ret (some (.errno e)), { c with writes := writes })
    | .moved w :: writes =>
      if chunk.length ≤ w then (.next, { c with writes := writes }.wrote chunk w)
      else netpollWrites fuel (chunk.drop w) ({ c with writes := writes }.wrote chunk w)

theorem netpollWrites_orderly : ∀ (fuel : Nat) {b : Bytes} {c : Copy}, c.Pending b →
    Flow.Orderly (netpollWrites fuel b c)
  | 0, _, _, h => ⟨_, h⟩
  | fuel + 1, b, c, h => by
    unfold netpollWrites
    split
    · exact ⟨_, h⟩
    · split
      · exact ⟨_, h⟩
      next hp => exact ⟨nofun, _, Copy.Pending.poll hp (h.frame rfl rfl)⟩
      next hp => exact ⟨nofun, _, Copy.Pending.poll hp (h.frame rfl rfl)⟩
      next hp => exact netpollWrites_orderly fuel (Copy.Pending.poll hp (h.frame rfl rfl))
    · exact ⟨nofun, _, h.frame rfl rfl⟩
    next w writes _ =>
      split_ifs with hw
      · have := h.wrote writes w
        rwa [List.drop_eq_nil_of_le hw] at this
      · exact netpollWrites_orderly fuel (h.wrote writes w)

/-- The copy loop of `netpollZeroCopy`. -/
def netpollLoop (bufLen : Nat) : Nat → Copy → CopyRun
  | 0, c => c.wait
  | fuel + 1, c =>
    match c.reads with
    | [] => c.wait
    | .errno .EAGAIN :: reads =>
      match { c with reads := reads }.waitReadReady with
      | none => c.wait
      | some (.error e, c) => c.ret (some (.errno e))
      | some (.ok false, c) => if 0 < c.total then c.ret none else c.ret (some .eof)
      | some (.ok true, c) => netpollLoop bufLen fuel c
    | .errno e :: reads => { c with reads := reads }.ret (if e = Errno.ECONNRESET then none else some (.errno e))
    | .moved n :: reads =>
      match { c with reads := reads }.take bufLen n with
      | (b, c) =>
        if b = [] then c.ret none
        else
          match netpollWrites (c.writes.length + 1) b c with
          | (.next, c) => netpollLoop bufLen fuel c
          | (.ret e, c) => c.ret e
          | (.wait, c) => c.wait

/-- `netpollZeroCopy(src, dst, buf)`, where `tcp` says whether both connections are
TCP connections. -/
def netpollZeroCopy (tcp : Bool) (bufLen : Nat) (src : Bytes) (a : Answers) : CopyRun :=
  if tcp then netpollLoop (if bufLen = 0 then 65536 else bufLen) (a.reads.length + 1) (Copy.start src a)
  else fallbackCopy bufLen src a

theorem netpollLoop_orderly (bufLen : Nat) : ∀ (fuel : Nat) (c : Copy), c.Pending [] →
    (netpollLoop bufLen fuel c).Orderly
  | 0, c, hc => hc.wait_orderly
  | fuel + 1, c, hc => by
    unfold netpollLoop
    split
    · exact hc.wait_orderly
    · split
      · exact hc.wait_orderly
      next hp => exact (Copy.Pending.poll hp (hc.frame rfl rfl)).ret_orderly nofun
      next hp =>
        have := Copy.Pending.poll hp (hc.frame rfl rfl)
        split_ifs
        · exact this.ret_orderly fun _ => rfl
        · exact this.ret_orderly nofun
      next hp => exact netpollLoop_orderly bufLen fuel _ (Copy.Pending.poll hp (hc.frame rfl rfl))
    · exact (hc.frame rfl rfl).ret_orderly fun _ => rfl
    next n reads _ =>
      generalize hp : { c with reads := reads }.take bufLen n = p
      obtain ⟨b, c'⟩ := p
      obtain ⟨hb, -⟩ := hc.take hp
      dsimp only
      split_ifs with hnil
      · exact hb.ret_orderly fun _ => hnil
      · exact (netpollWrites_orderly _ hb).run (fun _ h => h) fun c h => netpollLoop_orderly bufLen fuel c h

/-- `netpollZeroCopy` keeps the order of the bytes for every source and all answers. -/
theorem netpollZeroCopy_orderly (tcp : Bool) (bufLen : Nat) (src : Bytes) (a : Answers) :
    (netpollZeroCopy tcp bufLen src a).Orderly := by
  unfold netpollZeroCopy
  split
  · exact netpollLoop_orderly _ _ _ (Copy.pending_start src a)
  · exact (fallbackCopy_contract bufLen src a).orderly

/-! ### `epollZeroCopy` -/

/-- The scan of the events `epoll_wait` reported, in order: whether the source is
readable and the destination writable, or what the routine returns when one of
them reported an error or a hang-up. -/
def epollScan (total : Nat) : List EpollEvent → Bool → Bool → Except (Option CopyError) (Bool × Bool)
  | [], readReady, writeReady => .ok (readReady, writeReady)
  | .src readable hangup :: evs, readReady, writeReady =>
    if hangup then .error (if 0 < total then none else some .eof)
    else epollScan total evs (readReady || readable) writeReady
  | .dst writable hangup :: evs, readReady, writeReady =>
    if hangup then .error (some .destination)
    else epollScan total evs readReady (writeReady || writable)

/-- The write loop of `epollZeroCopy` once `epoll_wait` reported the destination
writable: write `buf[writeOffset:n]` until all of it is written, and leave the loop
at `EAGAIN`. -/
def epollWrites : Nat → Bytes → Copy → Flow × Copy
  | 0, _, c => (.wait, c)
  | fuel + 1, chunk, c =>
    match c.writes with
    | [] => (.wait, c)
    | .errno .EAGAIN :: writes => (.next, { c with writes := writes })
    | .errno e :: writes => (.ret (some (.errno e)), { c with writes := writes })
    | .moved w :: writes =>
      if chunk.length ≤ w then (.next, { c with writes := writes }.wrote chunk w)
      else epollWrites fuel (chunk.drop w) ({ c with writes := writes }.wrote chunk w)

/-- The copy loop of `epollZeroCopy`, one `epoll_wait` an iteration; the event array
holds two events. A chunk read while the destination was not reported writable is
not written, and the write loop leaves the rest of its chunk at `EAGAIN`: the next
read fills the buffer again. -/
def epollLoop (bufLen : Nat) : Nat → Copy → CopyRun
  | 0, c => c.wait
  | fuel + 1, c =>
    match c.polls with
    | [] => c.wait
    | .errno .EINTR :: polls => epollLoop bufLen fuel { c with polls := polls }
    | .errno e :: polls => { c with polls := polls }.ret (some (.errno e))
    | .events [] :: polls =>
      if 0 < c.total then { c with polls := polls }.ret none
      else epollLoop bufLen fuel { c with polls := polls }
    | .events evs :: polls =>
      match epollScan c.total (evs.take 2) false false with
      | .error e => { c with polls := polls }.ret e
      | .ok (false, _) => epollLoop bufLen fuel { c with polls := polls }
      | .ok (true, writeReady) =>
        match c.reads with
        | [] => c.wait
        | .errno .EAGAIN :: reads => epollLoop bufLen fuel { c with reads := reads, polls := polls }
        | .errno e :: reads =>
          { c with reads := reads, polls := polls }.ret (if e = Errno.ECONNRESET then none else some (.errno e))
        | .moved n :: reads =>
          match { c with reads := reads, polls := polls }.take bufLen n with
          | (b, c) =>
            if b = [] then c.ret none
            else if writeReady then
              match epollWrites (c.writes.length + 1) b c with
              | (.next, c) => epollLoop bufLen fuel c
              | (.ret e, c) => c.ret e
              | (.wait, c) => c.wait
            else epollLoop bufLen fuel c

/-- `epollZeroCopy(src, dst, buf)`, where `tcp` says whether both connections are
TCP connections. -/
def epollZeroCopy (tcp : Bool) (bufLen : Nat) (src : Bytes) (a : Answers) : CopyRun :=
  if tcp then epollLoop (if bufLen = 0 then 65536 else bufLen) (a.polls.length + 1) (Copy.start src a)
  else fallbackCopy bufLen src a

/-- Between a read of `epollZeroCopy` and its writes: the writes stayed within the
reads, what was written followed by the chunk `b` still to write is within what was
read, and the count is what was written. -/
structure Copy.Within (b : Bytes) (c : Copy) : Prop where
  within : WritesWithinReads c.log
  written : (writtenOf c.log ++ b).Sublist (readOf c.log)
  total : c.total = (writtenOf c.log).length

namespace Copy

section Within

variable {b : Bytes} {c c' : Copy}

theorem Pending.within (h : c.Pending b) : c.Within b :=
  ⟨h.follow.within, h.written ▸ List.Sublist.refl _, h.total⟩

theorem Within.frame (h : c.Within b) (hlog : c'.log = c.log) (ht : c'.total = c.total) : c'.Within b :=
  ⟨hlog ▸ h.within, hlog ▸ h.written, by rw [ht, hlog]; exact h.total⟩

/-- The rest of a chunk may be dropped. -/
theorem Within.forget (h : c.Within b) : c.Within [] :=
  ⟨h.within, by simpa using (List.sublist_append_left _ b).trans h.written, h.total⟩

/-- A read with nothing pending leaves the chunk it took pending. -/
theorem Within.take {bufLen n : Nat} (ht : c.take bufLen n = (b, c')) (h : c.Within []) : c'.Within b := by
  simp only [Copy.take, Prod.mk.injEq] at ht
  obtain ⟨rfl, rfl⟩ := ht
  have hw : (writtenOf c.log).Sublist (readOf c.log) := by simpa using h.written
  refine ⟨forall_take_snoc (R := List.Sublist) h.within ?_, ?_, ?_⟩ <;>
    simp only [writtenOf_append, readOf_append, writtenOf_cons, readOf_cons, readBytes_ite_eof,
      wroteBytes_ite_eof, writtenOf_nil, readOf_nil, List.append_nil]
  · exact hw.trans (List.sublist_append_left _ _)
  · exact hw.append_right _
  · exact h.total

/-- A write of the pending chunk moves what it took to what was written. -/
theorem Within.wrote (h : c.Within b) (ws : List IoResult) (w : Nat) :
    ({ c with writes := ws }.wrote b w).Within (b.drop w) := by
  have hw : writtenOf c.log ++ b.take w ++ b.drop w = writtenOf c.log ++ b := by
    rw [List.append_assoc, List.take_append_drop]
  refine ⟨forall_take_snoc (R := List.Sublist) h.within ?_, ?_, ?_⟩ <;>
    simp only [Copy.wrote, writtenOf_append, readOf_append, writtenOf_cons, readOf_cons, IoEvent.wroteBytes,
      IoEvent.readBytes, writtenOf_nil, readOf_nil, List.append_nil]
  · exact ((List.take_sublist w b).append_left _).trans h.written
  · rw [hw]; exact h.written
  · rw [h.total, List.length_append, List.length_take, Nat.min_comm]

theorem Within.ret (h : c.Within b) (e : Option CopyError) : (c.ret e).InOrder :=
  ⟨h.within, fun _ _ hr => by cases hr; exact h.total⟩

theorem Within.wait (h : c.Within b) : c.wait.InOrder :=
  ⟨h.within, nofun⟩

end Within

end Copy

/-- The write loop of `epollZeroCopy` hands back a state the copy loop can go on
from: what it did not write of its chunk is left out. -/
theorem epollWrites_within : ∀ (fuel : Nat) {b : Bytes} {c : Copy}, c.Within b →
    (epollWrites fuel b c).2.Within []
  | 0, _, _, h => h.forget
  | fuel + 1, b, c, h => by
    unfold epollWrites
    split
    · exact h.forget
    · exact Copy.Within.forget (h.frame rfl rfl)
    · exact Copy.Within.forget (h.frame rfl rfl)
    next w writes _ =>
      split_ifs with hw
      · have := h.wrote writes w
        rwa [List.drop_eq_nil_of_le hw] at this
      · exact epollWrites_within fuel (h.wrote writes w)

theorem epollLoop_inOrder (bufLen : Nat) : ∀ (fuel : Nat) (c : Copy), c.Within [] →
    (epollLoop bufLen fuel c).InOrder
  | 0, c, hc => hc.wait
  | fuel + 1, c, hc => by
    unfold epollLoop
    split
    · exact hc.wait
    · exact epollLoop_inOrder bufLen fuel _ (hc.frame rfl rfl)
    · exact (hc.frame rfl rfl).ret _
    · split_ifs
      · exact (hc.frame rfl rfl).ret _
      · exact epollLoop_inOrder bufLen fuel _ (hc.frame rfl rfl)
    next polls _ _ =>
      split
      · exact (hc.frame rfl rfl).ret _
      · exact epollLoop_inOrder bufLen fuel _ (hc.frame rfl rfl)
      split
      · exact hc.wait
      · exact epollLoop_inOrder bufLen fuel _ (hc.frame rfl rfl)
      · exact (hc.frame rfl rfl).ret _
      next n reads _ =>
        generalize hp : { c with reads := reads, polls := polls }.take bufLen n = p
        obtain ⟨b, c'⟩ := p
        have hb := Copy.Within.take hp (hc.frame rfl rfl)
        dsimp only
        split_ifs
        · exact hb.ret _
        · have hq := epollWrites_within (c'.writes.length + 1) hb
          generalize epollWrites (c'.writes.length + 1) b c' = q at hq
          rcases q with ⟨_ | e | _, c''⟩
          · exact epollLoop_inOrder bufLen fuel _ hq
          · exact hq.ret e
          · exact hq.wait
        · exact epollLoop_inOrder bufLen fuel _ hb.forget

/-- `epollZeroCopy` may leave bytes out, but for every source and all answers each
byte it writes was read, the bytes it writes keep the order they were read in, and
the count it returns is the number of bytes it wrote. -/
theorem epollZeroCopy_inOrder (tcp : Bool) (bufLen : Nat) (src : Bytes) (a : Answers) :
    (epollZeroCopy tcp bufLen src a).InOrder := by
  unfold epollZeroCopy
  split
  · exact epollLoop_inOrder _ _ _ (Copy.pending_start src a).within
  · exact (fallbackCopy_contract bufLen src a).orderly.inOrder

/-! ### `spliceZeroCopy` -/

/-- The second `splice` of `spliceZeroCopy`: move what the pipe holds to the
destination, waiting for it on `EAGAIN`. -/
def spliceWrites : Nat → Bytes → Copy → Flow × Copy
  | 0, _, c => (.wait, c)
  | fuel + 1, pipe, c =>
    match c.writes with
    | [] => (.wait, c)
    | .errno .EAGAIN :: writes =>
      match Copy.waitForIO { c with writes := writes } with
      | none => (.wait, c)
      | some (.error e, c) => (.ret (some (.errno e)), c)
      | some (.ok false, c) => (.ret (some .writeTimeout), c)
      | some (.ok true, c) => spliceWrites fuel pipe c
    | .errno e :: writes => (.ret (some (.errno e)), { c with writes := writes })
    | .moved 0 :: writes => (.ret (some .zeroSplice), { c with writes := writes })
    | .moved w :: writes =>
      if pipe.length ≤ w then (.next, { c with writes := writes }.wrote pipe w)
      else spliceWrites fuel (pipe.drop w) ({ c with writes := writes }.wrote pipe w)

/-- The copy loop of `spliceZeroCopy`: the first `splice` moves at most 64 KiB from
the source into the pipe. On `EINVAL` the routine returns what `io.CopyBuffer`
returns from there, with a buffer of `bufLen` bytes. -/
def spliceLoop (bufLen : Nat) : Nat → Copy → CopyRun
  | 0, c => c.wait
  | fuel + 1, c =>
    match c.reads with
    | [] => c.wait
    | .errno .EAGAIN :: reads =>
      match Copy.waitForIO { c with reads := reads } with
      | none => c.wait
      | some (.error e, c) => c.ret (some (.errno e))
      | some (.ok false, c) => if 0 < c.total then c.ret none else spliceLoop bufLen fuel c
      | some (.ok true, c) => spliceLoop bufLen fuel c
    | .errno .EINVAL :: reads => { c with reads := reads }.copyBuffer bufLen
    | .errno e :: reads =>
      { c with reads := reads }.ret
        (if e = Errno.ECONNRESET ∨ e = Errno.EPIPE then none else some (.errno e))
    | .moved n :: reads =>
      match { c with reads := reads }.take 65536 n with
      | (b, c) =>
        if b = [] then c.ret none
        else
          match spliceWrites (c.writes.length + 1) b c with
          | (.next, c) => spliceLoop bufLen fuel c
          | (.ret e, c) => c.ret e
          | (.wait, c) => c.wait

/-- `spliceZeroCopy(src, dst, buf)`, where `tcp` says whether both connections are
TCP connections. -/
def spliceZeroCopy (tcp : Bool) (bufLen : Nat) (src : Bytes) (a : Answers) : CopyRun :=
  if tcp then spliceLoop bufLen (a.reads.length + 1) (Copy.start src a)
  else fallbackCopy bufLen src a

theorem spliceWrites_orderly : ∀ (fuel : Nat) {b : Bytes} {c : Copy}, c.Pending b →
    Flow.Orderly (spliceWrites fuel b c)
  | 0, _, _, h => ⟨_, h⟩
  | fuel + 1, b, c, h => by
    unfold spliceWrites
    split
    · exact ⟨_, h⟩
    · split
      · exact ⟨_, h⟩
      next hp => exact ⟨nofun, _, Copy.Pending.poll hp (h.frame rfl rfl)⟩
      next hp => exact ⟨nofun, _, Copy.Pending.poll hp (h.frame rfl rfl)⟩
      next hp => exact spliceWrites_orderly fuel (Copy.Pending.poll hp (h.frame rfl rfl))
    · exact ⟨nofun, _, h.frame rfl rfl⟩
    · exact ⟨nofun, _, h.frame rfl rfl⟩
    next w writes _ _ =>
      split_ifs with hw
      · have := h.wrote writes w
        rwa [List.drop_eq_nil_of_le hw] at this
      · exact spliceWrites_orderly fuel (h.wrote writes w)

theorem spliceLoop_follows (bufLen : Nat) : ∀ (fuel : Nat) (c : Copy), c.Pending [] →
    (spliceLoop bufLen fuel c).Follows
  | 0, c, hc => hc.wait_orderly.follows
  | fuel + 1, c, hc => by
    unfold spliceLoop
    split
    · exact hc.wait_orderly.follows
    · split
      · exact hc.wait_orderly.follows
      next hp => exact CopyRun.Orderly.follows ((Copy.Pending.poll hp (hc.frame rfl rfl)).ret_orderly nofun)
      next hp =>
        have := Copy.Pending.poll hp (hc.frame rfl rfl)
        split_ifs
        · exact (this.ret_orderly fun _ => rfl).follows
        · exact spliceLoop_follows bufLen fuel _ this
      next hp => exact spliceLoop_follows bufLen fuel _ (Copy.Pending.poll hp (hc.frame rfl rfl))
    · refine Copy.Pending.copyBuffer_follows ?_ bufLen
      exact hc.frame rfl rfl
    · exact ((hc.frame rfl rfl).ret_orderly fun _ => rfl).follows
    next n reads _ =>
      generalize hp : { c with reads := reads }.take 65536 n = p
      obtain ⟨b, c'⟩ := p
      obtain ⟨hb, -⟩ := hc.take hp
      dsimp only
      split_ifs with hnil
      · exact (hb.ret_orderly fun _ => hnil).follows
      · exact (spliceWrites_orderly _ hb).run (fun _ h => h.follows) fun c h => spliceLoop_follows bufLen fuel c h

/-- `spliceZeroCopy` writes what it read in order and returns no error only with
everything it read written, for every source and all answers; its count is at most
what it wrote. -/
theorem spliceZeroCopy_follows (tcp : Bool) (bufLen : Nat) (src : Bytes) (a : Answers) :
    (spliceZeroCopy tcp bufLen src a).Follows := by
  unfold spliceZeroCopy
  split
  · exact spliceLoop_follows _ _ _ (Copy.pending_start src a)
  · exact (fallbackCopy_contract bufLen src a).orderly.follows

/-! ### The routine `zeroCopyImpl` is bound to -/

/-- The routines the build binds `zeroCopyImpl` to: `fallbackCopy` by default, and
on Linux the one of the others the build tag `netpoll`, `epoll` or `splice` selects. -/
inductive ZeroCopyImpl where
  /-- `fallbackCopy` -/
  | fallback
  /-- `netpollZeroCopy` -/
  | netpoll
  /-- `epollZeroCopy` -/
  | epoll
  /-- `spliceZeroCopy` -/
  | splice
  deriving DecidableEq, Repr

/-- `zeroCopyImpl(src, dst, buf)`, where `tcp` says whether both connections are
TCP connections and `bufLen` is the length of `buf`. -/
def ZeroCopyImpl.run : ZeroCopyImpl → Bool → Nat → Bytes → Answers → CopyRun
  | .fallback, _ => fallbackCopy
  | .netpoll, tcp => netpollZeroCopy tcp
  | .epoll, tcp => epollZeroCopy tcp
  | .splice, tcp => spliceZeroCopy tcp

/-- `ZeroCopy(src, dst)`: `zeroCopyImpl` with a buffer of 64 KiB. -/
def zeroCopy (impl : ZeroCopyImpl) (tcp : Bool) (src : Bytes) (a : Answers) : CopyRun :=
  impl.run tcp 65536 src a

/-- Two bytes, each read in its own round, where the first round's `epoll_wait`
reports only the source: the first byte is read and never written. -/
def epollSkipAnswers : Answers :=
  ⟨[.moved 1, .moved 1, .moved 0], [.moved 1],
    [.events [.src true false], .events [.src true false, .dst true false], .events [.src true false]]⟩

/-- `epollZeroCopy` returns `(1, nil)` at the end of the source having written the
second byte of two and not the first. -/
theorem epollZeroCopy_skips :
    zeroCopy .epoll true [97, 98] epollSkipAnswers =
      ⟨[.read [97], .read [98], .wrote [98], .eof], some (1, none)⟩ := by rfl

/-- One byte written, then a read that finds nothing ready and a `poll` that times out. -/
def pollTimeoutAnswers : Answers := ⟨[.moved 1, .errno .EAGAIN], [.moved 1], [.events []]⟩

/-- `netpollZeroCopy` returns `(1, nil)` at a `poll` timeout, before the end of the source. -/
theorem netpollZeroCopy_timeout :
    zeroCopy .netpoll true [97, 98] pollTimeoutAnswers = ⟨[.read [97], .wrote [97]], some (1, none)⟩ := by
  rfl

/-- One byte through the pipe, then `EINVAL` and `io.CopyBuffer` for the rest. -/
def spliceInvalAnswers : Answers := ⟨[.moved 1, .errno .EINVAL, .moved 1, .moved 0], [.moved 1, .moved 1], []⟩

/-- `spliceZeroCopy` returns the count of `io.CopyBuffer` alone after `EINVAL`:
`(1, nil)` having written two bytes. -/
theorem spliceZeroCopy_inval_count :
    zeroCopy .splice true [97, 98] spliceInvalAnswers =
      ⟨[.read [97], .wrote [97], .read [98], .wrote [98], .eof], some (1, none)⟩ := by rfl

/-- Of the routines `zeroCopyImpl` can be bound to, only `fallbackCopy` keeps the
contract of a copy for every source and all answers. -/
theorem zeroCopyImpl_contract (impl : ZeroCopyImpl) :
    (∀ tcp bufLen src a, CopyContract (impl.run tcp bufLen src a)) ↔ impl = .fallback := by
  refine ⟨fun h => ?_, by rintro rfl; exact fun _ => fallbackCopy_contract⟩
  cases impl with
  | fallback => rfl
  | netpoll =>
    have h := (h true 65536 [97, 98] pollTimeoutAnswers).ended 1
    rw [show ZeroCopyImpl.netpoll.run true 65536 _ _ = _ from netpollZeroCopy_timeout] at h
    exact absurd (h rfl) (by decide)
  | epoll =>
    have h := (h true 65536 [97, 98] epollSkipAnswers).orderly.follow 3
    rw [show ZeroCopyImpl.epoll.run true 65536 _ _ = _ from epollZeroCopy_skips] at h
    exact absurd h (by decide)
  | splice =>
    have h := (h true 65536 [97, 98] spliceInvalAnswers).orderly.count 1 none
    rw [show ZeroCopyImpl.splice.run true 65536 _ _ = _ from spliceZeroCopy_inval_count] at h
    exact absurd (h rfl) (by decide)

end ProxyProto
