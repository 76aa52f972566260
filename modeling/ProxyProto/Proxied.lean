import ProxyProto.Listener
import ProxyProto.V1RoundTrip

/-!
# What a server sees of a proxied connection

A proxy in front of a server opens each connection with a header naming the
client. The server wraps the connection with a listener or with `NewConn`. When
the proxy sent a text header at the start of its first chunk, the `Conn` a
listener without a policy function returns reports a header equal to it
(`accept_formatVersion1`). When the proxy sent a binary header, `NewConn` does
the same (`newConn_formatVersion2`). In both cases the remote and local addresses
are the header's source and destination under `PROXY`, and the socket's own
under `LOCAL`, the command of a proxy's health check (`AccessorsReport`).

## Implementation notes

`NewConn` installs no header deadline, and the binary parser is followed on a
live socket. A listener installs one; the text header comes in the first chunk,
which a deadline does not hold back.
-/

namespace ProxyProto

open AddressFamilyAndProtocol ProtocolVersionAndCommand

/-! ### The replies for a kept header -/

/-- A fresh connection under `USE` with no validator whose header read finds a
header answers `ProxyHeader` with it and `RemoteAddr` and `LocalAddr` with the
addresses it settles on. -/
theorem run_accessors_parsed {A : Option Addr × Option Addr} {conn : Conn} (hf : Fresh A conn)
    (hP : conn.proxyHeaderPolicy = .USE) (hV : conn.validate = none) {h : Header}
    (ho : conn.headerOutcome = some (.parsed h)) :
    ∃ conn', conn.run [.proxyHeader, .remoteAddr, .localAddr] =
      .ok ([.header (some h), .addr (headerAddr (some h) A.2 (·.sourceAddr)),
        .addr (headerAddr (some h) A.1 (·.destinationAddr))], conn') := by
  obtain ⟨o, rs, conn', ho', hr, hobs, -⟩ := run_fresh hf (show Call.proxyHeader.readsHeader from rfl)
    [.remoteAddr, .localAddr] (by simp)
  obtain rfl : o = .parsed h := Option.some.inj (ho'.symm.trans ho)
  rw [hP, hV] at hobs
  rcases hobs with _ | ⟨h1, _ | ⟨h2, _ | ⟨h3, hnil⟩⟩⟩
  cases hnil
  simp only [Observes, settledAs, if_true, true_or] at h1 h2 h3
  exact ⟨conn', by rw [hr, h1, h2, h3]⟩

/-- What the accessors of a connection over `s` whose proxy sent `h` should
report: under `PROXY` the header's source and destination, under `LOCAL` the
socket's own remote and local addresses. -/
def AccessorsReport (h : Header) (s : Socket) (src dst : Option Addr) : Prop :=
  (h.command = PROXY → Addr.optEqual src h.sourceAddr ∧ Addr.optEqual dst h.destinationAddr) ∧
    (h.command = LOCAL → src = s.remoteAddr ∧ dst = s.localAddr)

/-- A header equal to `h`, compared field by field, has its command and addresses. -/
theorem Header.equal_fields {h' h : Header} (heq : h'.equal h) :
    h'.command = h.command ∧ Addr.optEqual h'.sourceAddr h.sourceAddr ∧
      Addr.optEqual h'.destinationAddr h.destinationAddr := by
  simp only [Header.equal, Bool.and_eq_true, beq_iff_eq] at heq
  exact ⟨heq.1.1.1.1.2, heq.1.1.2, heq.1.2⟩

/-- The addresses settled from a header equal to `h` are the ones to report. -/
theorem accessorsReport_headerAddr {h' h : Header} (heq : h'.equal h) (s : Socket) :
    AccessorsReport h s (headerAddr (some h') s.remoteAddr (·.sourceAddr))
      (headerAddr (some h') s.localAddr (·.destinationAddr)) := by
  obtain ⟨hcmd, hsrc, hdst⟩ := Header.equal_fields heq
  refine ⟨fun hpx => ?_, fun hl => ?_⟩
  · simp only [headerAddr, hcmd, hpx, if_neg (show PROXY ≠ LOCAL by decide)]
    exact ⟨hsrc, hdst⟩
  · simp [headerAddr, hcmd, hl]

/-- The latch's outcome when the header deadline goes in and `Read` returns a header. -/
theorem Conn.headerOutcome_of_read {c : Conn} {b b' : BufReader} {s s' : Socket} {h : Header}
    (hd : c.installDeadline = (none, s)) (hb : c.bufReader = some b) (hr : ProxyProto.read b s = (.ok h, b', s')) :
    c.headerOutcome = some (.parsed h) := by
  simp only [Conn.headerOutcome, hd, hb, hr, HeaderOutcome.ofRead]

/-! ### A text header, through the listener -/

/-- The header deadline leaves an open socket open, with what it has to deliver. -/
theorem Conn.installDeadline_open {c : Conn} (hc : c.conn.closed = false) :
    (c.installDeadline).1 = none ∧ (c.installDeadline).2.closed = false ∧
      (c.installDeadline).2.input = c.conn.input := by
  unfold Conn.installDeadline Socket.setReadDeadline
  split_ifs <;> simp_all

/-- A listener with no policy function and no validator accepts a connection
whose upstream proxy sent a header of the text format at the start of its first
chunk, within the pooled reader's size: the `Conn` it returns reports a header
equal to it, and as its remote and local addresses the header's source and
destination under `PROXY`, the socket's own under `UNKNOWN`. -/
theorem accept_formatVersion1 {l : Listener} (hl : l.policy = none ∧ l.connPolicy = none)
    (hv : l.validateHeader = none) {h : Header} (hwf : h.WellFormedV1)
    {line : Bytes} (hfmt : formatVersion1 h = .ok line) {size : Nat} (hsize : line.length ≤ size)
    {s : Socket} (hc : s.closed = false) {c : UInt8} {cs : Bytes} {segs : List Segment}
    (hin : s.input = .data c cs :: segs) (hpre : line <+: c :: cs) (rest : List (Except Error Socket)) :
    ∃ conn h' src dst conn', l.accept size (.ok s :: rest) = (.wrapped conn, [], rest) ∧
      conn.run [.proxyHeader, .remoteAddr, .localAddr] = .ok ([.header (some h'), .addr src, .addr dst], conn') ∧
      h'.equal h ∧ AccessorsReport h s src dst := by
  have hacc : l.accept size (.ok s :: rest) =
      (.wrapped (acceptConn size s .USE none l.readHeaderTimeout), [], rest) := by
    simp [Listener.accept, Listener.decidePolicy, hl.1, hl.2, hv]
  obtain ⟨hf, hconn, hP, hV, -⟩ := Listener.acceptConn_fields size s .USE none l.readHeaderTimeout
  set conn := acceptConn size s .USE none l.readHeaderTimeout
  obtain ⟨hd1, hd2, hd3⟩ := Conn.installDeadline_open (c := conn) (hconn ▸ hc)
  obtain ⟨h', b', s', hread, heq, -⟩ := read_formatVersion1 hwf hfmt (b := BufReader.newReaderSize size) rfl rfl
    (hsize.trans (Nat.le_max_left _ _)) hd2 (hd3.trans (hconn ▸ hin)) hpre
  have ho := Conn.headerOutcome_of_read (Prod.ext hd1 rfl) rfl hread
  obtain ⟨conn', hr⟩ := run_accessors_parsed hf hP hV ho
  exact ⟨conn, h', _, _, conn', hacc, hr, heq, accessorsReport_headerAddr heq s⟩

/-- A TCP over IPv4 header of the text format. -/
def tcp4V1Header : Header :=
  ⟨1, PROXY, TCPv4, some (.tcp ⟨[192, 168, 0, 1]⟩ 56324), some (.tcp ⟨[10, 0, 0, 1]⟩ 443), []⟩

/-- A connection whose first chunk is that header's line and the start of a request. -/
def tcp4V1Socket : Socket :=
  ⟨[.data 0x50 (ascii "ROXY TCP4 192.168.0.1 10.0.0.1 56324 443\r\nGET /")], 0, 0, false, none, none⟩

theorem accept_formatVersion1_tcp4 :
    tcp4V1Header.WellFormedV1 ∧ ∃ conn h' src dst conn',
      (⟨none, none, none, 0⟩ : Listener).accept 4096 [.ok tcp4V1Socket] = (.wrapped conn, [], []) ∧
      conn.run [.proxyHeader, .remoteAddr, .localAddr] = .ok ([.header (some h'), .addr src, .addr dst], conn') ∧
      h'.equal tcp4V1Header ∧ AccessorsReport tcp4V1Header tcp4V1Socket src dst :=
  have hwf : tcp4V1Header.WellFormedV1 := ⟨rfl, rfl, .tcp4 rfl rfl (by decide) (by decide)⟩
  ⟨hwf, accept_formatVersion1 ⟨rfl, rfl⟩ rfl hwf
    (show formatVersion1 tcp4V1Header = .ok (ascii "PROXY TCP4 192.168.0.1 10.0.0.1 56324 443\r\n") from rfl)
    (show _ ≤ 4096 by decide) (show tcp4V1Socket.closed = false from rfl) rfl ⟨ascii "GET /", rfl⟩ []⟩

/-! ### A binary header, through `NewConn` -/

/-- On a live socket, `Read` with a good reader that can hold the payload reads a
formatted binary header of the data model back, and leaves what followed. -/
theorem read_of_formatVersion2 {h : Header} (hwf : h.WellFormedV2) {bytes : Bytes}
    (hfmt : formatVersion2 h = .ok bytes) {b : BufReader} {s : Socket} (hs : s.Live) (hb : b.Good)
    {rest : Bytes} (hd : b.data s = bytes ++ rest)
    (hsize : addressBlockSize h.transportProtocol + h.rawTLVs.length ≤ b.size) :
    ∃ h' b' s', read b s = (.ok h', b', s') ∧ h'.equal h ∧ b'.data s' = rest := by
  obtain ⟨payload, hfmt', hlen, heq⟩ := formatVersion2_ok hwf
  rw [hfmt] at hfmt'
  cases hfmt'
  obtain ⟨-, hc, hun, hep, hfit⟩ := hwf
  have hsig : (b.data s).take 12 = SIGV2 := by simp [hd, List.append_assoc]
  obtain ⟨b1, s1, hr, hg1, hl1, hsz1, hd1⟩ := read_sigv2_live hs hb hsig
  have hpre := v2Prefix_format h.command.val h.transportProtocol.val payload rest (by omega)
  rw [← hd, ← hd1] at hpre
  have hacc : V2Accepts (b1.data s1) := by
    refine ⟨_, _, _, _, hpre, ?_, ?_, ?_, by simp⟩
    · rcases hc with hc | hc <;> simp [hc] <;> rfl
    · simpa using hun
    · simpa [hlen] using validateLength_of_endpoints hep (Nat.le_add_right _ _)
  obtain ⟨h', b', s', hp⟩ := parseVersion2_live hl1 hg1 hacc (by simp [v2Length, hpre]; omega)
  obtain ⟨-, c', t', L', rest', hpre', hh, hd'⟩ := parseVersion2_ok hp
  obtain ⟨rfl, rfl, rfl, rfl⟩ : _ = c' ∧ _ = t' ∧ _ = L' ∧ _ = rest' := by simpa [hpre] using hpre'
  refine ⟨h', b', s', hr.trans hp, ?_, ?_⟩
  · rw [hh, List.take_left' rfl]; exact heq
  · rw [hd', List.drop_left' rfl]

/-- `NewConn` over a live connection whose upstream proxy sent a binary header of
the data model, followed by anything, with a pooled reader that can hold its
payload: the `Conn` reports a header equal to it, and as its remote and local
addresses the header's source and destination under `PROXY`, the socket's own
under `LOCAL`. -/
theorem newConn_formatVersion2 {h : Header} (hwf : h.WellFormedV2) {bytes : Bytes}
    (hfmt : formatVersion2 h = .ok bytes) {size : Nat}
    (hsize : addressBlockSize h.transportProtocol + h.rawTLVs.length ≤ size) {s : Socket} (hs : s.Live)
    {rest : Bytes} (hin : s.pending = bytes ++ rest) :
    ∃ h' src dst conn', (newConn size s []).run [.proxyHeader, .remoteAddr, .localAddr] =
        .ok ([.header (some h'), .addr src, .addr dst], conn') ∧
      h'.equal h ∧ AccessorsReport h s src dst := by
  obtain ⟨h', b', s', hread, heq, -⟩ := read_of_formatVersion2 hwf hfmt (b := BufReader.newReaderSize size) hs
    ⟨rfl, Nat.zero_le _⟩ (by rw [BufReader.data, ← hin]; rfl) (hsize.trans (Nat.le_max_left _ _))
  have ho := Conn.headerOutcome_of_read (c := newConn size s []) rfl rfl hread
  obtain ⟨conn', hr⟩ := run_accessors_parsed (fresh_newConn size s []) rfl rfl ho
  exact ⟨h', _, _, conn', hr, heq, accessorsReport_headerAddr heq s⟩

/-- A client behind a proxy: its binary header over TCP4 carrying one TLV, then the
start of a request. -/
def tcp4V2Client : Socket :=
  ⟨[.data 0x0D (SIGV2.tail ++ [0x21, 0x11, 0x00, 0x10, 10, 0, 0, 1, 10, 0, 0, 2, 0x01, 0xBB, 0x1F, 0x90,
    0x01, 0x00, 0x01, 0x41] ++ ascii "GET /")], 0, 0, false, none, none⟩

theorem newConn_formatVersion2_tcp4 :
    tcp4Header.WellFormedV2 ∧ ∃ h' src dst conn',
      (newConn 4096 tcp4V2Client []).run [.proxyHeader, .remoteAddr, .localAddr] =
        .ok ([.header (some h'), .addr src, .addr dst], conn') ∧
      h'.equal tcp4Header ∧ AccessorsReport tcp4Header tcp4V2Client src dst :=
  have hwf : tcp4Header.WellFormedV2 :=
    ⟨rfl, .inr rfl, by decide, .ipv4 (.inl rfl) rfl rfl (by decide) (by decide), by decide⟩
  ⟨hwf, newConn_formatVersion2 hwf
    (show formatVersion2 tcp4Header = .ok (SIGV2 ++ [0x21, 0x11, 0x00, 0x10, 10, 0, 0, 1, 10, 0, 0, 2,
      0x01, 0xBB, 0x1F, 0x90, 0x01, 0x00, 0x01, 0x41]) from rfl)
    (show _ ≤ 4096 by decide) ⟨rfl, rfl⟩ (show tcp4V2Client.pending = _ ++ ascii "GET /" from rfl)⟩

end ProxyProto
