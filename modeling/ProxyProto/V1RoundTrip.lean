import ProxyProto.HeaderRead
import ProxyProto.V2RoundTrip

/-!
# Formatting a version-1 header and reading it back

`formatVersion1` writes a header as the text line `PROXY <transport> <source>
<destination> <source port> <destination port>\r\n`, or `PROXY UNKNOWN\r\n`
for a transport the text format has no token for. For every header the text
format can carry (`Header.WellFormedV1`), `parseVersion1` reads the line back
from a buffer that holds it, with its IPs compared as addresses, and leaves what
followed; and `Read`, on an empty reader whose socket delivers the line at the
start of its first chunk, returns the header and goes on right after the line.

## Implementation notes

The parser reads the line byte by byte and gives up when its reader has nothing
buffered before the `\n` (`ErrCantReadVersion1Header`), so the connection-level
result asks for the line in the first chunk, within the reader's size. The
tokens are the formatter's: `net.IP.String` and `strconv.Itoa`, whose text round
trips are in `ProxyProto.Text`.
-/

namespace ProxyProto

open AddressFamilyAndProtocol ProtocolVersionAndCommand

/-- The port `strconv.Itoa` writes reads back under `parseV1PortNumber`. -/
theorem parseV1PortNumber_itoa {p : Int} (hp : 0 ≤ p ∧ p ≤ 65535) : parseV1PortNumber (itoa p) = .ok p := by
  rw [parseV1PortNumber, atoi_itoa (by omega) (by omega)]
  exact if_neg (by omega)

theorem parseV1IPAddress_string4 {ip : IP} (h : ip.bytes.length = 4) : parseV1IPAddress TCPv4 ip.string = .ok ip := by
  rw [parseV1IPAddress, IP.string_of_length4 h, parseAddr_string4 h]
  rfl

theorem parseV1IPAddress_string6 {ip : IP} (h : ip.bytes.length = 16) (h4 : ip.to4 = none) :
    parseV1IPAddress TCPv6 ip.string = .ok ip := by
  rw [parseV1IPAddress, IP.string_of_to4 h h4, parseAddr_string6 h]
  rfl

/-- A line of six space-free tokens ending in `\r\n`, the second naming a TCP
transport: the parser reads its addresses and ports in order. -/
theorem parseV1Line_join {tp : AddressFamilyAndProtocol} {tok a d p q : Bytes}
    (htok : v1Transport tok = some tp) (hne : tp ≠ UNSPEC) (hfree : ∀ x ∈ [SIGV1, tok, a, d, p, q], 0x20 ∉ x) :
    parseV1Line (join 0x20 [SIGV1, tok, a, d, p, q] ++ [0x0D, 0x0A]) = (do
      let sourceIP ← parseV1IPAddress tp a
      let destIP ← parseV1IPAddress tp d
      let sourcePort ← parseV1PortNumber p
      let destPort ← parseV1PortNumber q
      .ok ⟨1, PROXY, tp, some (.tcp sourceIP sourcePort), some (.tcp destIP destPort), []⟩) := by
  generalize hl : join 0x20 [SIGV1, tok, a, d, p, q] = l
  have hsplit : split l 0x20 = [SIGV1, tok, a, d, p, q] := hl ▸ split_join hfree (List.cons_ne_nil _ _)
  have htake : (l ++ [0x0D, 0x0A]).take ((l ++ [0x0D, 0x0A]).length - 2) = l := by simp
  unfold parseV1Line
  rw [if_neg (by simp [List.getElem_append_right]), htake, hsplit]
  simp [htok, hne]
  rfl

/-- Such a line whose addresses and ports read back under its transport. -/
theorem parseV1Line_tcp {tp : AddressFamilyAndProtocol} {tok : Bytes} {s d : IP} {sp dp : Int}
    (htok : v1Transport tok = some tp) (hne : tp ≠ UNSPEC)
    (hs : parseV1IPAddress tp s.string = .ok s) (hd : parseV1IPAddress tp d.string = .ok d)
    (hsp : 0 ≤ sp ∧ sp ≤ 65535) (hdp : 0 ≤ dp ∧ dp ≤ 65535)
    (hfree : ∀ x ∈ [SIGV1, tok, s.string, d.string, itoa sp, itoa dp], 0x20 ∉ x) :
    parseV1Line (join 0x20 [SIGV1, tok, s.string, d.string, itoa sp, itoa dp] ++ [0x0D, 0x0A]) =
      .ok ⟨1, PROXY, tp, some (.tcp s sp), some (.tcp d dp), []⟩ := by
  rw [parseV1Line_join htok hne hfree, hs, hd, parseV1PortNumber_itoa hsp, parseV1PortNumber_itoa hdp]
  rfl

/-- The endpoints the text format carries back: none under `UNKNOWN` with the
command `LOCAL`, and under `PROXY` two TCP addresses with ports in `0..65535`,
IPv4 addresses in either form for `TCP4`, sixteen-byte addresses that are not
IPv4 addresses mapped into IPv6 for `TCP6`. -/
inductive V1Endpoints : ProtocolVersionAndCommand → AddressFamilyAndProtocol → Option Addr → Option Addr → Prop
  | unknown : V1Endpoints LOCAL UNSPEC none none
  | tcp4 {src dst : IP} {sp dp : Int} (hsrc : src.to4.isSome) (hdst : dst.to4.isSome)
      (hsp : 0 ≤ sp ∧ sp ≤ 65535) (hdp : 0 ≤ dp ∧ dp ≤ 65535) :
      V1Endpoints PROXY TCPv4 (some (.tcp src sp)) (some (.tcp dst dp))
  | tcp6 {src dst : IP} {sp dp : Int} (hsrc : src.bytes.length = 16 ∧ src.to4 = none)
      (hdst : dst.bytes.length = 16 ∧ dst.to4 = none) (hsp : 0 ≤ sp ∧ sp ≤ 65535)
      (hdp : 0 ≤ dp ∧ dp ≤ 65535) :
      V1Endpoints PROXY TCPv6 (some (.tcp src sp)) (some (.tcp dst dp))

/-- A header of version 1 the text format can carry: no TLVs, and the endpoints
of its command and transport. -/
def Header.WellFormedV1 (h : Header) : Prop :=
  h.version = 1 ∧ h.rawTLVs = [] ∧ V1Endpoints h.command h.transportProtocol h.sourceAddr h.destinationAddr

/-- The formatter accepts `h`, and the parser, reading the line from a good buffer
that holds it followed by anything, gives `h` back and leaves what followed. -/
def RoundTripsV1 (h : Header) : Prop :=
  ∃ line, formatVersion1 h = .ok line ∧ ∀ (b : BufReader) (s : Socket) (rest : Bytes), b.Good →
    b.buf = line ++ rest → ∃ h', parseVersion1 b s = (.ok h', { b with buf := rest }, s) ∧ h'.equal h

/-- A buffered line of at most 107 bytes goes whole to `parseV1Line`. -/
theorem parseVersion1_of_buf {l rest : Bytes} {b : BufReader} {s : Socket} (hl : 0x0A ∉ l)
    (hlen : l.length < 107) (hb : b.buf = l ++ 0x0A :: rest) :
    parseVersion1 b s = (parseV1Line (l ++ [0x0A]), { b with buf := rest }, s) := by
  unfold parseVersion1
  rw [readLine_buffered hl hb (show ([] : Bytes).length + 107 = 107 from rfl) (by decide),
    if_pos (by simpa using hlen)]
  rfl

/-- What `net.IP.String` writes for an address the text format carries: no space,
no newline, at most 40 bytes. -/
def V1Text (t : Bytes) : Prop := 0x20 ∉ t ∧ 0x0A ∉ t ∧ t.length ≤ 40

theorem itoa_v1Text {p : Int} (hp : 0 ≤ p ∧ p ≤ 65535) : V1Text (itoa p) ∧ (itoa p).length ≤ 5 := by
  have heq : itoa p = decimal p.toNat := by simp [itoa, show ¬p < 0 by omega]
  have hlen := length_decimal_le (k := 5) (by decide) (show p.toNat < 10 ^ 5 by omega)
  rw [heq]
  exact ⟨⟨fun h => decimal_free _ h (by decide), fun h => decimal_free _ h (by decide), by omega⟩, hlen⟩

theorem v1Text_string4 {ip : IP} (h : ip.bytes.length = 4) : V1Text ip.string := by
  rw [IP.string_of_length4 h]
  exact ⟨fun hm => string4_free _ _ hm (by decide), fun hm => string4_free _ _ hm (by decide),
    by have := length_string4_le h; omega⟩

theorem v1Text_string6 {ip : IP} (h : ip.bytes.length = 16) (h4 : ip.to4 = none) : V1Text ip.string := by
  rw [IP.string_of_to4 h h4]
  exact ⟨fun hm => string6_free _ _ hm (by decide), fun hm => string6_free _ _ hm (by decide), length_string6_le _⟩

/-- A buffer that starts with such a line, its addresses written by
`net.IP.String` and its ports by `strconv.Itoa`: `parseVersion1` hands the whole
line to `parseV1Line` and keeps what followed. -/
theorem parseVersion1_join {tok a d : Bytes} {sp dp : Int} (htl : tok.length = 4 ∧ 0x20 ∉ tok ∧ 0x0A ∉ tok)
    (ha : V1Text a) (hd : V1Text d) (hsp : 0 ≤ sp ∧ sp ≤ 65535) (hdp : 0 ≤ dp ∧ dp ≤ 65535)
    {b : BufReader} {s : Socket} {rest : Bytes}
    (hb : b.buf = join 0x20 [SIGV1, tok, a, d, itoa sp, itoa dp] ++ [0x0D, 0x0A] ++ rest) :
    parseVersion1 b s =
      (parseV1Line (join 0x20 [SIGV1, tok, a, d, itoa sp, itoa dp] ++ [0x0D, 0x0A]), { b with buf := rest }, s) := by
  obtain ⟨⟨-, hspn, -⟩, hspl⟩ := itoa_v1Text hsp
  obtain ⟨⟨-, hdpn, -⟩, hdpl⟩ := itoa_v1Text hdp
  have hjoin : join 0x20 [SIGV1, tok, a, d, itoa sp, itoa dp] =
      SIGV1 ++ 0x20 :: tok ++ 0x20 :: a ++ 0x20 :: d ++ 0x20 :: itoa sp ++ 0x20 :: itoa dp := by
    simp [join]
  have hnl : 0x0A ∉ join 0x20 [SIGV1, tok, a, d, itoa sp, itoa dp] ++ [0x0D] := by
    rw [hjoin]; simp [htl.2.2, ha.2.1, hd.2.1, hspn, hdpn, SIGV1]
  have hlen : (join 0x20 [SIGV1, tok, a, d, itoa sp, itoa dp] ++ [0x0D]).length < 107 := by
    have := ha.2.2; have := hd.2.2
    rw [hjoin]; simp [SIGV1, htl.1]; omega
  rw [parseVersion1_of_buf hnl hlen (by rw [hb]; simp : b.buf = _ ++ 0x0A :: rest), List.append_assoc,
    List.singleton_append]

/-- The round trip of a TCP header, from what its family gives: the formatter's
line, the transport token, and addresses that read back and are the header's. -/
theorem roundTripsV1_tcp {h : Header} {tp : AddressFamilyAndProtocol} {tok : Bytes} {s d : IP} {sp dp : Int}
    (hfmt : formatVersion1 h = .ok (join 0x20 [SIGV1, tok, s.string, d.string, itoa sp, itoa dp] ++ [0x0D, 0x0A]))
    (htok : v1Transport tok = some tp) (hne : tp ≠ UNSPEC) (htl : tok.length = 4 ∧ 0x20 ∉ tok ∧ 0x0A ∉ tok)
    (hs : parseV1IPAddress tp s.string = .ok s) (hd : parseV1IPAddress tp d.string = .ok d)
    (hst : V1Text s.string) (hdt : V1Text d.string) (hsp : 0 ≤ sp ∧ sp ≤ 65535) (hdp : 0 ≤ dp ∧ dp ≤ 65535)
    (heq : Header.equal ⟨1, PROXY, tp, some (.tcp s sp), some (.tcp d dp), []⟩ h) : RoundTripsV1 h := by
  refine ⟨_, hfmt, fun b sk rest _ hb => ⟨_, ?_, heq⟩⟩
  rw [parseVersion1_join htl hst hdt hsp hdp hb, parseV1Line_tcp htok hne hs hd hsp hdp
    (by simp [htl.2.1, hst.1, hdt.1, (itoa_v1Text hsp).1.1, (itoa_v1Text hdp).1.1, SIGV1])]

/-- The line `formatVersion1` writes for two TCP endpoints, as six tokens. -/
theorem formatVersion1_tcp {tp : AddressFamilyAndProtocol} {src dst s d : IP} (sp dp : Int)
    (htp : tp = TCPv4 ∨ tp = TCPv6) (hs : (if tp = TCPv4 then IP.to4 else IP.to16) src = some s)
    (hd : (if tp = TCPv4 then IP.to4 else IP.to16) dst = some d) :
    formatVersion1 ⟨1, PROXY, tp, some (.tcp src sp), some (.tcp dst dp), []⟩ =
      .ok (join 0x20 [SIGV1, if tp = TCPv4 then ascii "TCP4" else ascii "TCP6", s.string, d.string, itoa sp, itoa dp] ++
        [0x0D, 0x0A]) := by
  have hn : ¬(tp ≠ TCPv4 ∧ tp ≠ TCPv6) := by tauto
  simp only [formatVersion1, if_neg hn]
  rw [hs, hd]
  simp [join, ascii, show ' '.toUInt8 = 0x20 from rfl, show '\r'.toUInt8 = 0x0D from rfl,
    show '\n'.toUInt8 = 0x0A from rfl]

/-- Every header of the text format's data model round-trips: `PROXY` over TCP4
or TCP6 between two addresses of the family and two ports, and `LOCAL` with no
endpoints under `UNKNOWN`. -/
theorem formatVersion1_round_trip {h : Header} (hwf : h.WellFormedV1) : RoundTripsV1 h := by
  obtain ⟨v, c, tp, src, dst, tlvs⟩ := h
  obtain ⟨hv, htlv, hep⟩ := hwf
  dsimp only at hv htlv hep
  subst hv htlv
  cases hep with
  | unknown =>
    refine ⟨_, rfl, fun b sk rest _ hb => ⟨_, parseVersion1_of_buf (l := ascii "PROXY UNKNOWN\r") (by decide) (by decide)
      (by rw [hb]; rfl : b.buf = _ ++ 0x0A :: rest), by decide⟩⟩
  | @tcp4 src dst sp dp hsrc hdst hsp hdp =>
    obtain ⟨s, hs⟩ := Option.isSome_iff_exists.mp hsrc
    obtain ⟨d, hd⟩ := Option.isSome_iff_exists.mp hdst
    have hfmt := formatVersion1_tcp sp dp (.inl rfl) (by simpa using hs) (by simpa using hd)
    rw [if_pos rfl] at hfmt
    exact roundTripsV1_tcp hfmt rfl (by decide) (by decide) (parseV1IPAddress_string4 (IP.to4_length hs))
      (parseV1IPAddress_string4 (IP.to4_length hd)) (v1Text_string4 (IP.to4_length hs))
      (v1Text_string4 (IP.to4_length hd)) hsp hdp
      (by simp [Header.equal, Addr.optEqual, Addr.equal, IP.equal_of_to4 hs, IP.equal_of_to4 hd])
  | @tcp6 src dst sp dp hsrc hdst hsp hdp =>
    have hs : src.to16 = some src := by simp [IP.to16, hsrc.1]
    have hd : dst.to16 = some dst := by simp [IP.to16, hdst.1]
    have hfmt := formatVersion1_tcp sp dp (.inr rfl) (by simpa using hs) (by simpa using hd)
    rw [if_neg (by decide)] at hfmt
    exact roundTripsV1_tcp hfmt rfl (by decide) (by decide) (parseV1IPAddress_string6 hsrc.1 hsrc.2)
      (parseV1IPAddress_string6 hdst.1 hdst.2) (v1Text_string6 hsrc.1 hsrc.2) (v1Text_string6 hdst.1 hdst.2) hsp hdp
      (by simp [Header.equal, Addr.optEqual, Addr.equal, IP.equal_refl])

/-! ### Reading the line off a connection -/

/-- A peek within what is buffered reads nothing from the socket. -/
theorem BufReader.peek_buffered {n : Nat} {b : BufReader} {s : Socket} (hn : n ≤ b.buf.length)
    (hsz : n ≤ b.size) : b.peek n s = ((b.buf.take n, none), b, s) := by
  rw [BufReader.peek_of_le hsz, BufReader.fillUntil_stop (by omega)]
  exact if_neg (Nat.not_lt.mpr hn)

/-- The first fill of an empty reader takes the peer's first chunk, as much of it as fits. -/
theorem BufReader.fill_first {b : BufReader} {s : Socket} {c : UInt8} {cs : Bytes} {segs : List Segment}
    (hb : b.buf = []) (hc : s.closed = false) (hin : s.input = .data c cs :: segs) :
    b.fill s = ({ b with buf := c :: cs.take (b.size - 1) },
      { s with input := Segment.unread (cs.drop (b.size - 1)) segs }) := by
  simp [BufReader.fill, Socket.recv, Segment.recv, hb, hc, hin]

/-- `Read` on an empty reader whose first chunk starts with `PROXY `: one fill,
and the line parser runs on the buffer. -/
theorem read_first_chunk {b : BufReader} {s : Socket} {c : UInt8} {cs : Bytes} {segs : List Segment}
    (hb : b.buf = []) (herr : b.err = none) (hc : s.closed = false) (hin : s.input = .data c cs :: segs)
    (hsig : (c :: cs.take (b.size - 1)).take 6 = SIGV1 ++ [0x20]) :
    read b s = parseVersion1 { b with buf := c :: cs.take (b.size - 1) }
      { s with input := Segment.unread (cs.drop (b.size - 1)) segs } := by
  have h16 := b.minReadBufferSize_le
  have hlen : 6 ≤ (c :: cs.take (b.size - 1)).length := by
    have := congrArg List.length hsig
    have h6 : (SIGV1 ++ [(0x20 : UInt8)]).length = 6 := rfl
    rw [List.length_take, h6] at this
    omega
  have hc50 : c = 0x50 := by simpa [SIGV1] using congrArg List.head? hsig
  have hp1 : b.peek 1 s = (([c], none), { b with buf := c :: cs.take (b.size - 1) },
      { s with input := Segment.unread (cs.drop (b.size - 1)) segs }) := by
    rw [BufReader.peek_of_le (by omega), show BufReader.fillUntil 1 1 b s = b.fill s by
      simp [BufReader.fillUntil, hb, herr, show 0 < b.size by omega], BufReader.fill_first hb hc hin]
    rfl
  subst hc50
  simp only [read, hp1, if_true, peekSignature]
  rw [BufReader.peek_buffered hlen (by simp; omega)]
  dsimp only
  rw [hsig, if_pos rfl]

/-- Every line the formatter writes starts with `PROXY `. -/
theorem formatVersion1_sig {h : Header} {line : Bytes} (hfmt : formatVersion1 h = .ok line) :
    SIGV1 ++ [0x20] <+: line := by
  unfold formatVersion1 at hfmt
  split_ifs at hfmt
  · cases hfmt; exact ⟨ascii "UNKNOWN\r\n", rfl⟩
  all_goals
    split at hfmt <;> try cases hfmt
    dsimp only at hfmt
    split at hfmt <;> cases hfmt
    simp [SIGV1, List.append_assoc, show ascii " " = [0x20] from rfl]

/-- A header of the text format, sent by the proxy at the start of its first
chunk, is read back by `Read` on an empty reader with room for the line; the
reader is left holding the rest of what it took, the socket changes only in what
it has still to deliver, and the stream goes on right after the line. -/
theorem read_formatVersion1 {h : Header} (hwf : h.WellFormedV1) {line : Bytes} (hfmt : formatVersion1 h = .ok line)
    {b : BufReader} (hb : b.buf = []) (herr : b.err = none) (hsize : line.length ≤ b.size) {s : Socket}
    (hc : s.closed = false) {c : UInt8} {cs : Bytes} {segs : List Segment} (hin : s.input = .data c cs :: segs)
    (hpre : line <+: c :: cs) :
    ∃ h' b' s', read b s = (.ok h', b', s') ∧ h'.equal h ∧ b'.Good ∧ s'.control = s.control ∧
      b'.data s' = (c :: cs).drop line.length ++ Segment.bytes segs := by
  obtain ⟨line', hfmt', hrt⟩ := formatVersion1_round_trip hwf
  obtain rfl : line = line' := by rw [hfmt] at hfmt'; cases hfmt'; rfl
  obtain ⟨t, ht⟩ := hpre
  have h16 := b.minReadBufferSize_le
  have hbuf : c :: cs.take (b.size - 1) = line ++ t.take (b.size - line.length) := by
    rw [← List.take_succ_cons, ← ht, List.take_append_eq_append_take, List.take_of_length_le (by omega),
      show b.size - 1 + 1 = b.size by omega]
  have hsig : (c :: cs.take (b.size - 1)).take 6 = SIGV1 ++ [0x20] := by
    rw [hbuf, List.prefix_iff_eq_take.mp ((formatVersion1_sig hfmt).trans (List.prefix_append _ _))]
    rfl
  have hrest : t.drop (b.size - line.length) = cs.drop (b.size - 1) := by
    have := congrArg (List.drop b.size) ht
    rwa [List.drop_append_eq_append_drop, List.drop_eq_nil_of_le (by omega), List.nil_append,
      show b.size = b.size - 1 + 1 by omega, List.drop_succ_cons, show b.size - 1 + 1 = b.size by omega] at this
  have hgood : ({ b with buf := c :: cs.take (b.size - 1) } : BufReader).Good := ⟨herr, by simp; omega⟩
  obtain ⟨h', hp, heq⟩ := hrt { b with buf := c :: cs.take (b.size - 1) } _ _ hgood hbuf
  rw [read_first_chunk hb herr hc hin hsig]
  refine ⟨h', _, _, hp, heq, ⟨herr, by simp⟩, rfl, ?_⟩
  rw [BufReader.data, Socket.pending, Segment.bytes_unread, ← hrest, ← List.append_assoc, List.take_append_drop,
    ← ht, List.drop_left]

end ProxyProto
