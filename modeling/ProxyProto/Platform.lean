import ProxyProto.Latch

/-!
# The size of the pooled reader

`readerPool` makes each `bufio.Reader` with `GetOptimalBufferSize()`, which is
`amd64GetOptimalBufferSize` or `arm64GetOptimalBufferSize`: 4 KiB on Linux,
16 KiB on macOS, 8 KiB elsewhere. `parseVersion2` peeks at the whole payload
before reading it, and a `Peek` beyond the buffer fails with `ErrBufferFull`,
which the parser reports as `ErrInvalidLength`. So a version-2 header whose
payload is longer than the buffer is refused however much of it was sent,
while the protocol allows payloads up to 65535 bytes.

## Implementation notes

The two functions of the source differ only in their comments; both are
`optimalBufferSize` applied to the architecture's `archDefaultBufferSize`.
`genericGetOptimalBufferSize`, built on the other architectures, has its own
table and keeps its own body. `runtime.GOOS` is a parameter.
-/

namespace ProxyProto

/-- The body `amd64GetOptimalBufferSize` and `arm64GetOptimalBufferSize` share:
`archDefaultBufferSize` on Linux, a size per system elsewhere. -/
def optimalBufferSize (archDefaultBufferSize : Nat) (goos : String) : Nat :=
  if goos = "linux" then archDefaultBufferSize
  else if goos = "darwin" then 16 * 1024
  else if goos = "windows" then 8 * 1024
  else 8 * 1024

/-- `amd64GetOptimalBufferSize`, with `archDefaultBufferSize` 4 KiB. -/
def amd64GetOptimalBufferSize (goos : String) : Nat := optimalBufferSize 4096 goos

/-- `arm64GetOptimalBufferSize`, with `archDefaultBufferSize` 4 KiB. -/
def arm64GetOptimalBufferSize (goos : String) : Nat := optimalBufferSize 4096 goos

/-- `genericGetOptimalBufferSize`, on architectures other than amd64 and arm64:
8 KiB on Linux and macOS, 4 KiB elsewhere. -/
def genericGetOptimalBufferSize (goos : String) : Nat :=
  if goos = "linux" then 8 * 1024
  else if goos = "darwin" then 8 * 1024
  else if goos = "windows" then 4 * 1024
  else 4 * 1024

/-- The pooled reader holds at most 16 KiB, beyond the page size. -/
theorem optimalBufferSize_le (d : Nat) (goos : String) : optimalBufferSize d goos ≤ max d 16384 := by
  unfold optimalBufferSize; split_ifs <;> omega

/-- On a live socket, a connection from `NewConn` whose reader is smaller than a
well-formed version-2 header's payload fails its header read with
`ErrInvalidLength`, and `Read` returns it. -/
theorem newConn_read_bufferFull (size : Nat) (P : Policy) (V : Option Validator) {s : Socket}
    (hs : s.Live) (hsig : s.pending.take 12 = SIGV2) (hacc : V2Accepts s.pending)
    (hsize : max size 16 < v2Length s.pending) (k : Nat) :
    ((newConn size s [.withPolicy P, .validateHeader V]).run [.read k]).map Prod.fst =
      .ok [.read [] (some .invalidLength)] := by
  obtain ⟨o, rs, c', ho, hr, hobs, -⟩ := run_fresh (fresh_newConn size s [.withPolicy P, .validateHeader V])
    (show (Call.read k).readsHeader from rfl) [] (by simp)
  have hread : (read (BufReader.newReaderSize size) s).1 = .error .invalidLength :=
    read_bufferFull hs ⟨rfl, Nat.zero_le _⟩ hsig hacc hsize
  have hout : o = .failed .invalidLength := by
    cases V <;> simp [newConn, ConnOption.apply, Conn.headerOutcome, Conn.installDeadline, hread,
      HeaderOutcome.ofRead] at ho <;> exact ho.symm
  subst hout
  rw [hr]
  obtain ⟨r, hob, rfl⟩ : ∃ r, Observes _ s.addrs (.read k) r ∧ rs = [r] := by
    cases hobs with | cons h1 h2 => cases h2; exact ⟨_, h1, rfl⟩
  simp only [Observes, settledAs] at hob
  rw [hob]; rfl

/-- On amd64 and arm64 the header read of a connection from `NewConn` fails
with `ErrInvalidLength` on every well-formed version-2 header whose payload is
longer than 16 KiB, sent whole. -/
theorem read_long_payload_invalidLength (goos : String) (P : Policy) (V : Option Validator) {s : Socket}
    (hs : s.Live) (hsig : s.pending.take 12 = SIGV2) (hacc : V2Accepts s.pending)
    (hlong : 16384 < v2Length s.pending) (k : Nat) :
    ((newConn (amd64GetOptimalBufferSize goos) s [.withPolicy P, .validateHeader V]).run [.read k]).map
        Prod.fst = .ok [.read [] (some .invalidLength)] ∧
    ((newConn (arm64GetOptimalBufferSize goos) s [.withPolicy P, .validateHeader V]).run [.read k]).map
        Prod.fst = .ok [.read [] (some .invalidLength)] := by
  have := optimalBufferSize_le 4096 goos
  exact ⟨newConn_read_bufferFull _ P V hs hsig hacc (by simp only [amd64GetOptimalBufferSize]; omega) k,
    newConn_read_bufferFull _ P V hs hsig hacc (by simp only [arm64GetOptimalBufferSize]; omega) k⟩

/-- A `PROXY` header over TCP and IPv4 declaring the largest payload, 65535
bytes, all of them sent. -/
def longPayloadSocket : Socket :=
  ⟨[.data 0x0D (SIGV2.tail ++ 0x21 :: 0x11 :: 0xFF :: 0xFF :: List.replicate 65535 0)], 0, 0, false, none, none⟩

theorem read_long_payload_invalidLength_linux :
    longPayloadSocket.Live ∧ longPayloadSocket.pending.take 12 = SIGV2 ∧ V2Accepts longPayloadSocket.pending ∧
    16384 < v2Length longPayloadSocket.pending ∧
    ((newConn (amd64GetOptimalBufferSize "linux") longPayloadSocket [.withPolicy .USE, .validateHeader none]).run
        [.read 4096]).map Prod.fst = .ok [.read [] (some .invalidLength)] ∧
    ((newConn (arm64GetOptimalBufferSize "linux") longPayloadSocket [.withPolicy .USE, .validateHeader none]).run
        [.read 4096]).map Prod.fst = .ok [.read [] (some .invalidLength)] :=
  have hp : longPayloadSocket.pending = SIGV2 ++ 0x21 :: 0x11 :: 0xFF :: 0xFF :: List.replicate 65535 0 := by
    simp only [Socket.pending, longPayloadSocket, Segment.bytes_data, Segment.bytes_nil, List.append_nil]; rfl
  have hs : longPayloadSocket.Live := ⟨rfl, rfl⟩
  have hsig : longPayloadSocket.pending.take 12 = SIGV2 := by rw [hp]; rfl
  have hacc : V2Accepts longPayloadSocket.pending := by
    rw [hp]
    exact ⟨_, _, _, _, v2Prefix_append_sigv2 _ _ _ _ _, by decide, by decide, by decide,
      by rw [List.length_replicate]; decide⟩
  have hlong : 16384 < v2Length longPayloadSocket.pending := by
    rw [hp, v2Length, v2Prefix_append_sigv2]; decide
  ⟨hs, hsig, hacc, hlong, read_long_payload_invalidLength "linux" .USE none hs hsig hacc hlong 4096⟩

end ProxyProto
