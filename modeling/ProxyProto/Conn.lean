import ProxyProto.HeaderRead

/-!
# The connection wrapper

`Conn` is the state of a `proxyproto.Conn`: the one-shot latch and the error it
stored, the socket, the pooled `bufio.Reader`, the reader `Read` forwards to,
the header, and the options. Every call the package exports on it is a function
of the state, `Conn.call`, and a sequence of calls is `Conn.run`. A call can
dereference a nil `io.Reader` or `*bufio.Reader`; that outcome is
`Panic.nilDereference`.

## Implementation notes

The Go fields map as follows: `readDeadline` is the stored `time.Time` (`0` is
the zero time, also what `Load` of an empty `atomic.Value` gives), `once` is
whether the latch has run, `reader` is `io.MultiReader(br, conn)` with the
readers it still holds, `p.conn` after the swap in `Read`, or nil after `Close`.
`InitConn` only sets socket options and is left out. `WriteTo` is `io.Copy`
from the socket, which reads until the end or an error.
-/

namespace ProxyProto

/-- A reader `io.MultiReader` still holds. -/
inductive Source where
  | bufReader
  | conn
  deriving DecidableEq, Repr

/-- `p.reader`. -/
inductive Reader where
  /-- `io.MultiReader(br, conn)`, with the readers not yet exhausted -/
  | multi (readers : List Source)
  /-- `p.conn`, after the swap in `Read` -/
  | conn
  /-- nil, after `Close` -/
  | nil
  deriving DecidableEq, Repr

/-- A method call on a nil `io.Reader` or `*bufio.Reader`. -/
inductive Panic where
  | nilDereference
  deriving DecidableEq, Repr

/-- `Validator`: the error a header is refused with, if any. -/
abbrev Validator := Header → Option Error

/-- `proxyproto.Conn`. -/
structure Conn where
  readDeadline : Nat
  once : Bool
  readErr : Option Error
  conn : Socket
  bufReader : Option BufReader
  reader : Reader
  header : Option Header
  proxyHeaderPolicy : Policy
  validate : Option Validator
  readHeaderTimeout : Int

/-- The options `NewConn` takes. -/
inductive ConnOption where
  /-- Modelled from the spec: `WithPolicy`, which sets the policy (§4.8) -/
  | withPolicy (p : Policy)
  | validateHeader (v : Option Validator)
  | setReadHeaderTimeout (t : Int)

/-- One option applied to the connection under construction. -/
def ConnOption.apply (c : Conn) : ConnOption → Conn
  | .withPolicy p => { c with proxyHeaderPolicy := p }
  | .validateHeader v => if v.isSome then { c with validate := v } else c
  | .setReadHeaderTimeout t => if 0 ≤ t then { c with readHeaderTimeout := t } else c

/-- `NewConn`, with a pooled reader of `size` bytes: the policy's zero value is
`USE`, the first of the enumeration. -/
def newConn (size : Nat) (conn : Socket) (opts : List ConnOption) : Conn :=
  opts.foldl ConnOption.apply
    ⟨0, false, none, conn, some (BufReader.newReaderSize size), .multi [.bufReader, .conn], none,
      .USE, none, 0⟩

/-- `DefaultReadHeaderTimeout` (v2.go), ten seconds, in nanoseconds. -/
def DefaultReadHeaderTimeout : Int := 10000000000

/-- The `Conn` that `Listener.Accept` returns for a policy other than `SKIP`. -/
def acceptConn (size : Nat) (conn : Socket) (policy : Policy) (validate : Option Validator)
    (readHeaderTimeout : Int) : Conn :=
  { newConn size conn [.withPolicy policy, .validateHeader validate] with
    readHeaderTimeout := if readHeaderTimeout = 0 then DefaultReadHeaderTimeout else readHeaderTimeout }

namespace Conn

/-- What `readHeader` makes of the result of `Read`: a timeout under the header
deadline is no header, no header is an error only under `REQUIRE`, and a
header is refused under `REJECT`, checked by the validator and kept under `USE`
and `REQUIRE`, and dropped otherwise. -/
def settle (c : Conn) (r : Except Error Header) : Option Error × Conn :=
  let err : Option Error := match r with
    | .ok _ => none
    | .error e => if 0 < c.readHeaderTimeout ∧ e.isTimeout then some .noProxyProtocol else some e
  if err = some .noProxyProtocol then
    (if c.proxyHeaderPolicy = .REQUIRE then err else none, c)
  else
    match r with
    | .error _ => (err, c)
    | .ok h =>
      match c.proxyHeaderPolicy with
      | .REJECT => (some .superfluousProxyHeader, c)
      | .USE | .REQUIRE =>
        match c.validate.bind (· h) with
        | some e => (some e, c)
        | none => (none, { c with header := some h })
      | _ => (none, c)

/-- The header deadline `readHeader` installs when the timeout is positive:
`time.Now()` plus the timeout. -/
def installDeadline (c : Conn) : Option Error × Socket :=
  if 0 < c.readHeaderTimeout then c.conn.setReadDeadline (c.conn.clock + c.readHeaderTimeout.toNat)
  else (none, c.conn)

/-- `readHeader`: install the header deadline, `Read` through the buffered
reader, restore the stored deadline, and settle. -/
def readHeader (c : Conn) : Except Panic (Option Error × Conn) :=
  match c.installDeadline, c.bufReader with
  | (some e, s), _ => .ok (some e, { c with conn := s })
  | (none, _), none => .error .nilDereference
  | (none, s), some br =>
    let (r, br, s) := ProxyProto.read br s
    let s := if 0 < c.readHeaderTimeout then (s.setReadDeadline c.readDeadline).2 else s
    .ok ({ c with conn := s, bufReader := some br }.settle r)

/-- `p.once.Do(func() { p.readErr = p.readHeader() })`. -/
def headerOnce (c : Conn) : Except Panic Conn :=
  if c.once then .ok c else
    match c.readHeader with
    | .error p => .error p
    | .ok (err, c) => .ok { c with once := true, readErr := err }

/-- The latch of `Read`, which also swaps the reader for the socket when the
header read left nothing buffered. -/
def readOnce (c : Conn) : Except Panic Conn :=
  if c.once then .ok c else
    match c.headerOnce with
    | .error p => .error p
    | .ok c =>
      if c.readErr = none ∧ c.bufReader.map BufReader.buffered = some 0 then .ok { c with reader := .conn }
      else .ok c

end Conn

/-- `Read` on one of the readers the multireader holds. -/
def Source.read (k : Nat) (b : BufReader) (s : Socket) : Source → (Bytes × Option Error) × BufReader × Socket
  | .bufReader => b.read k s
  | .conn => ((s.read k).1, b, (s.read k).2)

/-- One `Read` of `io.MultiReader`: a reader at its end is dropped, and its
`io.EOF` is passed on only when no reader is left. -/
def multiRead (k : Nat) :
    List Source → BufReader → Socket → (Bytes × Option Error) × List Source × BufReader × Socket
  | [], b, s => (([], some .eof), [], b, s)
  | src :: rest, b, s =>
    let (r, b, s) := src.read k b s
    if r.2 = some .eof then
      if 0 < r.1.length then ((r.1, if rest = [] then some .eof else none), rest, b, s)
      else multiRead k rest b s
    else (r, src :: rest, b, s)

/-- `io.Copy` from the socket: reads until the end, reported as no error, or
until another error. -/
def Socket.copy : Nat → Socket → Bytes × Option Error × Socket
  | 0, s => ([], none, s)
  | fuel + 1, s =>
    match s.read 32768 with
    | ((out, some e), s) => (out, if e = .eof then none else some e, s)
    | ((out, none), s) =>
      let r := Socket.copy fuel s
      (out ++ r.1, r.2.1, r.2.2)

/-- The calls the package exports on a `Conn` that touch its state. -/
inductive Call where
  | read (k : Nat)
  | proxyHeader
  | localAddr
  | remoteAddr
  | setDeadline (t : Nat)
  | setReadDeadline (t : Nat)
  | close
  | writeTo
  deriving DecidableEq, Repr

/-- What a call returns. -/
inductive Reply where
  | read (bytes : Bytes) (err : Option Error)
  | header (h : Option Header)
  | addr (a : Option Addr)
  | done (err : Option Error)
  | copied (bytes : Bytes) (err : Option Error)
  deriving DecidableEq, Repr

namespace Conn

/-- The rest of `Read` after the latch: the stored error, or a read of `p.reader`. -/
def forward (k : Nat) (c : Conn) : Except Panic (Reply × Conn) :=
  match c.readErr, c.reader, c.bufReader with
  | some e, _, _ => .ok (.read [] (some e), c)
  | none, .conn, _ =>
    .ok (.read (c.conn.read k).1.1 (c.conn.read k).1.2, { c with conn := (c.conn.read k).2 })
  | none, .multi rs, some b =>
    let (r, rs, b, s) := multiRead k rs b c.conn
    .ok (.read r.1 r.2, { c with reader := .multi rs, bufReader := some b, conn := s })
  | none, _, _ => .error .nilDereference

/-- `Read`. -/
def read (k : Nat) (c : Conn) : Except Panic (Reply × Conn) :=
  match c.readOnce with
  | .error p => .error p
  | .ok c => c.forward k

/-- Whether the addresses come from the socket: no header kept, a `LOCAL`
header, or a stored error. -/
def socketAddrs (c : Conn) : Bool :=
  c.header.isNone || (c.header.map (·.command.isLocal)).getD false || c.readErr.isSome

/-- The call on a connection whose latch has run or is run by it. -/
def call (c : Conn) : Call → Except Panic (Reply × Conn)
  | .read k => c.read k
  | .proxyHeader => (c.headerOnce).map fun c => (.header c.header, c)
  | .localAddr =>
    (c.headerOnce).map fun c =>
      (.addr (if c.socketAddrs then c.conn.localAddr else c.header.bind (·.destinationAddr)), c)
  | .remoteAddr =>
    (c.headerOnce).map fun c =>
      (.addr (if c.socketAddrs then c.conn.remoteAddr else c.header.bind (·.sourceAddr)), c)
  | .setDeadline t =>
    .ok (.done (c.conn.setReadDeadline t).1, { c with readDeadline := t, conn := (c.conn.setReadDeadline t).2 })
  | .setReadDeadline t =>
    .ok (.done (c.conn.setReadDeadline t).1, { c with readDeadline := t, conn := (c.conn.setReadDeadline t).2 })
  | .close =>
    .ok (.done c.conn.close.1, { c with bufReader := none, reader := .nil, conn := c.conn.close.2 })
  | .writeTo =>
    let r := c.conn.copy (c.conn.pending.length + 1)
    .ok (.copied r.1 r.2.1, { c with conn := r.2.2 })

/-- A sequence of calls, with the replies in order, stopped by a panic. -/
def run (c : Conn) : List Call → Except Panic (List Reply × Conn)
  | [] => .ok ([], c)
  | k :: ks =>
    match c.call k with
    | .error p => .error p
    | .ok (r, c) =>
      match run c ks with
      | .error p => .error p
      | .ok (rs, c) => .ok (r :: rs, c)

end Conn

/-- The stream of a version-1 `UNKNOWN` header followed by four bytes of payload. -/
def unknownHeaderSocket : Socket :=
  ⟨[.data 0x50 (ascii "ROXY UNKNOWN\r\nHELO")], 0, 0, false, none, none⟩

/-- `Close` drops both readers. On a connection whose header read installs no
deadline, a `Read` after it runs the header read on the nil `*bufio.Reader`;
after a header read that stored no error, it calls the nil `io.Reader`. -/
theorem read_after_close_panics (size : Nat) (s : Socket) (p : Policy) (v : Option Validator)
    (k : Nat) :
    (newConn size s [.withPolicy p, .validateHeader v]).run [.close, .read k] = .error .nilDereference ∧
    (acceptConn size s p v (-1)).run [.close, .read k] = .error .nilDereference ∧
    (newConn 4096 unknownHeaderSocket []).run [.read 4, .close, .read 4] = .error .nilDereference := by
  refine ⟨?_, ?_, rfl⟩ <;>
    by_cases hv : v.isSome <;>
    simp [newConn, acceptConn, ConnOption.apply, hv, Conn.run, Conn.call, Conn.read, Conn.readOnce,
      Conn.headerOnce, Conn.readHeader, Conn.installDeadline, Conn.forward]

/-- `WriteTo` copies from the socket itself: the header read never runs and
the header's bytes reach the writer, where `Read` returns only the payload. -/
theorem writeTo_forwards_header :
    ((newConn 4096 unknownHeaderSocket []).run [.writeTo]).map Prod.fst =
      .ok [.copied (ascii "PROXY UNKNOWN\r\nHELO") none] ∧
    ((newConn 4096 unknownHeaderSocket []).run [.read 100, .read 100]).map Prod.fst =
      .ok [.read (ascii "HELO") none, .read [] (some .eof)] :=
  ⟨rfl, rfl⟩

end ProxyProto
