import ProxyProto.V1
import ProxyProto.V2Parse

/-!
# Reading a header off a stream

`read` peeks at the start of the stream and hands it to `parseVersion1` or
`parseVersion2`, or reports `ErrNoProxyProtocol` having consumed nothing.
`headerLength` is the protocol's framing of the header at the front of a
stream, the bytes a successful parse consumes.

## Implementation notes

`Read` and the policy enumeration live in files of the repository that are not
under `src/`; both are modelled from the spec (§4.5, §4.6). A peek that meets
the end of the stream reports that there is no header, as the wrapper's
"Bypass" state of §4.7 needs; any other peek error is passed on.
-/

namespace ProxyProto

open ProtocolVersionAndCommand

/-- Modelled from the spec: the header policies, in the order §4.6 lists them. -/
inductive Policy where
  | USE
  | IGNORE
  | REJECT
  | REQUIRE
  | SKIP
  deriving DecidableEq, Repr

/-- The error `Read` reports for a failed peek: the end of the stream means no header. -/
def peekError (e : Error) : Error := if e = .eof then .noProxyProtocol else e

/-- Peek at the next `n` bytes and hand the stream to `parse` when they are the
signature `sig`; anything else is no header. -/
def peekSignature (n : Nat) (sig : Bytes)
    (parse : BufReader → Socket → Except Error Header × BufReader × Socket) (b : BufReader) (s : Socket) :
    Except Error Header × BufReader × Socket :=
  match b.peek n s with
  | ((_, some e), b, s) => (.error (peekError e), b, s)
  | ((p, none), b, s) => if p = sig then parse b s else (.error .noProxyProtocol, b, s)

/-- Modelled from the spec: `Read`, which classifies the stream by peeking (§4.5):
`PROXY ` goes to version 1, the binary signature to version 2. -/
def read (b : BufReader) (s : Socket) : Except Error Header × BufReader × Socket :=
  match b.peek 1 s with
  | ((_, some e), b, s) => (.error (peekError e), b, s)
  | ((p, none), b, s) =>
    if p = [0x50] then peekSignature 6 (SIGV1 ++ [0x20]) parseVersion1 b s
    else if p = [0x0D] then peekSignature 12 SIGV2 parseVersion2 b s
    else (.error .noProxyProtocol, b, s)

/-- The header at the front of a stream, as the protocol frames it: the line
through its `\n` for version 1, the 16 fixed bytes and the declared payload for
version 2, nothing otherwise. -/
def headerLength (d : Bytes) : Nat :=
  if d.take 6 = SIGV1 ++ [0x20] then d.indexOf 0x0A + 1
  else if d.take 12 = SIGV2 then 16 + v2Length d
  else 0

/-! ### What `Read` can do -/

section

variable {b b' : BufReader} {s s' : Socket}

/-- Everything a signature peek can do: fail having consumed nothing, or hand
the unconsumed stream to its parser. -/
theorem peekSignature_cases (n : Nat) (sig : Bytes)
    (parse : BufReader → Socket → Except Error Header × BufReader × Socket) (b : BufReader) (s : Socket) :
    ∃ b' s', b'.data s' = b.data s ∧ (∀ A, BufReader.Keeps A (b, s) → BufReader.Keeps A (b', s')) ∧
      ((∃ e, peekSignature n sig parse b s = (.error e, b', s')) ∨
       ((b.data s).take n = sig ∧ peekSignature n sig parse b s = parse b' s')) := by
  have hd := BufReader.peek_data n b s
  have hk : ∀ A, BufReader.Keeps A (b, s) → BufReader.Keeps A (b.peek n s).2 :=
    fun _ => BufReader.peek_keeps n
  unfold peekSignature
  split <;> rename_i hp <;> rw [hp] at hd hk
  · exact ⟨_, _, hd, hk, .inl ⟨_, rfl⟩⟩
  · split_ifs with hsig
    · exact ⟨_, _, hd, hk, .inr ⟨by rw [← (BufReader.peek_ok hp).1, hsig], rfl⟩⟩
    · exact ⟨_, _, hd, hk, .inl ⟨_, rfl⟩⟩

/-- Everything `Read` can do: fail having consumed nothing, or hand the
unconsumed stream to the parser its signature names. -/
theorem read_cases (b : BufReader) (s : Socket) :
    ∃ b' s', b'.data s' = b.data s ∧ (∀ A, BufReader.Keeps A (b, s) → BufReader.Keeps A (b', s')) ∧
      ((∃ e, read b s = (.error e, b', s')) ∨
       ((b.data s).take 6 = SIGV1 ++ [0x20] ∧ read b s = parseVersion1 b' s') ∨
       ((b.data s).take 12 = SIGV2 ∧ read b s = parseVersion2 b' s')) := by
  have hd := BufReader.peek_data 1 b s
  have hk : ∀ A, BufReader.Keeps A (b, s) → BufReader.Keeps A (b.peek 1 s).2 :=
    fun _ => BufReader.peek_keeps 1
  unfold read
  split <;> rename_i hp <;> rw [hp] at hd hk
  · exact ⟨_, _, hd, hk, .inl ⟨_, rfl⟩⟩
  next b1 s1 =>
  split_ifs
  · obtain ⟨b', s', hd', hk', h | ⟨hsig, h⟩⟩ := peekSignature_cases 6 (SIGV1 ++ [0x20]) parseVersion1 b1 s1
    · exact ⟨b', s', hd'.trans hd, fun A h' => hk' A (hk A h'), .inl h⟩
    · exact ⟨b', s', hd'.trans hd, fun A h' => hk' A (hk A h'), .inr (.inl ⟨hd ▸ hsig, h⟩)⟩
  · obtain ⟨b', s', hd', hk', h | ⟨hsig, h⟩⟩ := peekSignature_cases 12 SIGV2 parseVersion2 b1 s1
    · exact ⟨b', s', hd'.trans hd, fun A h' => hk' A (hk A h'), .inl h⟩
    · exact ⟨b', s', hd'.trans hd, fun A h' => hk' A (hk A h'), .inr (.inr ⟨hd ▸ hsig, h⟩)⟩
  · exact ⟨_, _, hd, hk, .inl ⟨_, rfl⟩⟩

/-- `Read` keeps the socket's addresses and the reader's errors the socket's. -/
theorem read_keeps {A : Option Addr × Option Addr} (h : BufReader.Keeps A (b, s)) :
    BufReader.Keeps A (read b s).2 := by
  obtain ⟨b', s', -, hk, ⟨e, hr⟩ | ⟨-, hr⟩ | ⟨-, hr⟩⟩ := read_cases b s <;> rw [hr]
  · exact hk A h
  · exact parseVersion1_keeps (hk A h)
  · exact parseVersion2_keeps (hk A h)

theorem peekSignature_control (n : Nat) (sig : Bytes)
    {parse : BufReader → Socket → Except Error Header × BufReader × Socket}
    (hp : ∀ b s, (parse b s).2.2.control = s.control) : (peekSignature n sig parse b s).2.2.control = s.control := by
  have hk : (b.peek n s).2.2.control = s.control := BufReader.peek_control n
  unfold peekSignature; split <;> rename_i hpk <;> rw [hpk] at hk
  · exact hk
  · split_ifs
    · exact (hp _ _).trans hk
    · exact hk

/-- `Read` changes nothing of the socket but its schedule. -/
theorem read_control : (read b s).2.2.control = s.control := by
  have hk : (b.peek 1 s).2.2.control = s.control := BufReader.peek_control 1
  unfold read; split <;> rename_i hpk <;> rw [hpk] at hk
  · exact hk
  · split_ifs
    · exact (peekSignature_control 6 _ fun _ _ => parseVersion1_control).trans hk
    · exact (peekSignature_control 12 _ fun _ _ => parseVersion2_control).trans hk
    · exact hk

/-- A version-1 header is the line through the first `\n`. -/
theorem headerLength_v1 {d l r : Bytes} (hsig : d.take 6 = SIGV1 ++ [0x20]) (hd : d = l ++ 0x0A :: r)
    (hl : 0x0A ∉ l) : headerLength d = l.length + 1 := by
  unfold headerLength
  rw [if_pos hsig, hd, List.indexOf_append_of_not_mem hl, List.indexOf_cons_self]

/-- A version-2 header is the 16 fixed bytes and the declared payload. -/
theorem headerLength_v2 {d : Bytes} (hsig : d.take 12 = SIGV2) : headerLength d = 16 + v2Length d := by
  have h6 : d.take 6 ≠ SIGV1 ++ [0x20] := by
    rw [show d.take 6 = (d.take 12).take 6 by rw [List.take_take]; rfl, hsig]; decide
  unfold headerLength
  rw [if_neg h6, if_pos hsig]

/-- A header `Read` returns was framed as the protocol frames it: exactly
`headerLength` bytes of the stream are gone, and the header is a version-1 line
or `v2Header` of a payload under a supported command. -/
theorem read_ok {h : Header} (hr : read b s = (.ok h, b', s')) :
    b'.data s' = (b.data s).drop (headerLength (b.data s)) ∧
    ((∃ line, parseV1Line line = .ok h) ∨
      ∃ c t payload, (⟨c⟩ : ProtocolVersionAndCommand).supported ∧ h = v2Header c t payload) := by
  obtain ⟨b1, s1, hd, -, ⟨e, hr'⟩ | ⟨hsig, hr'⟩ | ⟨hsig, hr'⟩⟩ := read_cases b s <;> rw [hr'] at hr
  · cases hr
  · obtain ⟨l, hl, hn, hdl⟩ := parseVersion1_ok hr
    rw [← hd, headerLength_v1 (hd ▸ hsig) hdl hn, hdl]
    exact ⟨by simp, .inl ⟨_, hl⟩⟩
  · obtain ⟨⟨c', t', L', rest', hpre', hsup, -⟩, c, t, L, rest, hpre, rfl, hdr⟩ := parseVersion2_ok hr
    obtain ⟨rfl, -⟩ := Prod.mk.inj (Option.some.inj (hpre'.symm.trans hpre))
    refine ⟨?_, .inr ⟨c', t, _, hsup, rfl⟩⟩
    rw [← hd, headerLength_v2 (hd ▸ hsig), hdr, v2Prefix_rest hpre, List.drop_drop]
    simp [v2Length, hpre, Nat.add_comm]

/-- A header `Read` returns is `LOCAL` or `PROXY`. -/
theorem read_ok_command {h : Header} (hr : read b s = (.ok h, b', s')) :
    h.command = LOCAL ∨ h.command = PROXY := by
  rcases (read_ok hr).2 with ⟨line, hl⟩ | ⟨c, t, payload, hsup, rfl⟩
  · rcases parseV1Line_ok hl with h | ⟨h, -⟩
    · exact .inl h
    · exact .inr h
  · simpa [ProtocolVersionAndCommand.supported, v2Header] using hsup

/-- A `PROXY` header `Read` returns carries both addresses exactly when its
transport resolves them, each of the kind the transport names. -/
theorem read_ok_proxy {h : Header} (hr : read b s = (.ok h, b', s')) (hpx : h.command = PROXY) :
    (h.transportProtocol.resolves ↔ h.sourceAddr.isSome ∧ h.destinationAddr.isSome) ∧
    h.sourceAddr.all h.transportProtocol.names ∧ h.destinationAddr.all h.transportProtocol.names := by
  rcases (read_ok hr).2 with ⟨line, hl⟩ | ⟨c, t, payload, -, rfl⟩
  · rcases parseV1Line_ok hl with h | ⟨-, htp, ⟨ip, p, hsrc⟩, ip', p', hdst⟩
    · exact absurd (h.symm.trans hpx) (by decide)
    · rw [hsrc, hdst]
      rcases htp with htp | htp <;> rw [htp] <;> exact ⟨⟨fun _ => ⟨rfl, rfl⟩, fun _ => rfl⟩, rfl, rfl⟩
  · obtain ⟨⟨h1, h2⟩, h3, h4⟩ := v2Addresses_resolves ⟨t⟩ payload
    simp only [v2Header]
    rw [h1, h2]
    exact ⟨by simp, h3, h4⟩

/-- `Read` reports no header, or a timeout, only from a peek: nothing of the
stream is consumed. -/
theorem read_error_data {e : Error} (hr : read b s = (.error e, b', s'))
    (he : e = .noProxyProtocol ∨ e = .timeout) : b'.data s' = b.data s := by
  obtain ⟨b1, s1, hd, -, ⟨e', hr'⟩ | ⟨-, hr'⟩ | ⟨-, hr'⟩⟩ := read_cases b s <;> rw [hr'] at hr
  · cases hr; exact hd
  · have := parseVersion1_error (congrArg Prod.fst hr); rcases he with rfl | rfl <;> simp at this
  · have := parseVersion2_error (congrArg Prod.fst hr); rcases he with rfl | rfl <;> simp at this

/-- On a live socket, a signature peek within the buffer sees the signature and
hands the whole stream to its parser. -/
theorem peekSignature_live (hs : s.Live) (hb : b.Good) {n : Nat} {sig : Bytes}
    (parse : BufReader → Socket → Except Error Header × BufReader × Socket)
    (hn : n ≤ b.size) (hlen : n ≤ (b.data s).length) (hsig : (b.data s).take n = sig) :
    ∃ b' s', peekSignature n sig parse b s = parse b' s' ∧ b'.Good ∧ s'.Live ∧ b'.size = b.size ∧
      b'.data s' = b.data s := by
  obtain ⟨b', s', hp, hd, -, hg, hl, hsz⟩ := peek_full hs hb hn hlen
  exact ⟨b', s', by simp only [peekSignature, hp, hsig, if_true], hg, hl, hsz, hd⟩

/-- On a live socket, a stream that starts with the binary signature goes to
`parseVersion2` whole. -/
theorem read_sigv2_live (hs : s.Live) (hb : b.Good) (hsig : (b.data s).take 12 = SIGV2) :
    ∃ b' s', read b s = parseVersion2 b' s' ∧ b'.Good ∧ s'.Live ∧ b'.size = b.size ∧
      b'.data s' = b.data s := by
  have h16 := b.minReadBufferSize_le
  have hlen : 12 ≤ (b.data s).length := by
    have := congrArg List.length hsig; simp [SIGV2] at this; omega
  obtain ⟨b1, s1, hp, hd1, -, hg1, hl1, hsz1⟩ :=
    peek_full hs hb (show 1 ≤ b.size by omega) (show 1 ≤ (b.data s).length by omega)
  have h1 : (b.data s).take 1 = [0x0D] := by
    rw [show (b.data s).take 1 = ((b.data s).take 12).take 1 by rw [List.take_take]; rfl, hsig]; rfl
  obtain ⟨b2, s2, hp2, hg2, hl2, hsz2, hd2⟩ := peekSignature_live hl1 hg1 parseVersion2
    (show 12 ≤ b1.size by omega) (by rw [hd1]; exact hlen) (show (b1.data s1).take 12 = SIGV2 by rw [hd1, hsig])
  refine ⟨b2, s2, ?_, hg2, hl2, by omega, hd2.trans hd1⟩
  simp only [read, hp, h1, if_neg (show ([0x0D] : Bytes) ≠ [0x50] by decide), if_true]
  exact hp2
/-- On a live socket, a version-2 stream whose declared payload is longer than
the reader's buffer fails with `ErrInvalidLength`, however much of it was sent. -/
theorem read_bufferFull {b : BufReader} {s : Socket} (hs : s.Live) (hb : b.Good)
    (hsig : (b.data s).take 12 = SIGV2) (hacc : V2Accepts (b.data s)) (hsize : b.size < v2Length (b.data s)) :
    (read b s).1 = .error .invalidLength := by
  obtain ⟨b1, s1, hr, hg1, hl1, hsz1, hd1⟩ := read_sigv2_live hs hb hsig
  obtain ⟨c, t, L, rest, hpre, hsup, hun, hval, -⟩ := hacc
  have hL : v2Length (b.data s) = L := by simp [v2Length, hpre]
  rw [← hd1] at hpre
  obtain ⟨b2, s2, hp, -, -, hsz2, -⟩ := parseVersion2_live_prefix hl1 hg1 hpre hsup hun
  rw [hr, hp]
  exact readPayload_bufferFull hval (by omega)

end

end ProxyProto
