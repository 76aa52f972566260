import ProxyProto.V2

/-!
# What `parseVersion2` accepts, and what it returns

The parser is read off the bytes it is given: `v2Prefix` names the command, the
transport, the declared length `L` and what follows, `V2Accepts` is the set of
streams the code accepts, and `v2Header` the header it builds from them.

On any socket, a successful parse consumed exactly `16 + L` bytes, the stream
was in `V2Accepts`, and the header is `v2Header` of the payload
(`parseVersion2_ok`): the payload reads after a successful `Peek(L)` never reach
the socket. On a live socket whose reader can hold `L` bytes, every stream in
`V2Accepts` is accepted (`parseVersion2_live`).

## Implementation notes

`V2Accepts` is the code's own condition, not the protocol's: any transport byte
that `validateLength` classifies passes, and bytes with an unspecified or
unknown nibble reach `newIPAddr` or skip the address block.
-/

namespace ProxyProto

open AddressFamilyAndProtocol ProtocolVersionAndCommand

/-- The fixed fields after the signature: command, transport, declared length, rest. -/
def v2Prefix (d : Bytes) : Option (UInt8 × UInt8 × Nat × Bytes) :=
  match d.drop 12 with
  | c :: t :: hi :: lo :: rest => some (c, t, be16 hi lo, rest)
  | _ => none

/-- The size of the fixed address block `parseVersion2` reads for a transport. -/
def addressBlockSize (tp : AddressFamilyAndProtocol) : Nat :=
  if tp = UNSPEC then 0
  else if tp.isIPv4 then lengthV4
  else if tp.isIPv6 then lengthV6
  else if tp.isUnix then lengthUnix
  else 0

/-- The addresses at the start of a payload, as the transport lays them out. -/
def v2Addresses (tp : AddressFamilyAndProtocol) (payload : Bytes) : Option Addr × Option Addr :=
  if tp = UNSPEC then (none, none)
  else if tp.isIPv4 then addr4 tp payload
  else if tp.isIPv6 then addr6 tp payload
  else if tp.isUnix then addrUnix tp payload
  else (none, none)

/-- The transports for which the parser builds addresses: a stream or datagram
socket over IPv4 or IPv6, and every Unix transport. -/
def AddressFamilyAndProtocol.resolves (tp : AddressFamilyAndProtocol) : Bool :=
  ((tp.isIPv4 || tp.isIPv6) && (tp.isStream || tp.isDatagram)) || tp.isUnix

/-- Whether an address is of the kind a transport names: `TCPAddr` for a stream
over IP, `UDPAddr` for a datagram over IP, `UnixAddr` for the Unix family. -/
def AddressFamilyAndProtocol.names (tp : AddressFamilyAndProtocol) : Addr → Bool
  | .tcp _ _ => (tp.isIPv4 || tp.isIPv6) && tp.isStream
  | .udp _ _ => (tp.isIPv4 || tp.isIPv6) && tp.isDatagram
  | .unix _ _ => tp.isUnix

theorem newIPAddr_isSome (tp : AddressFamilyAndProtocol) (ip : IP) (port : Nat) :
    (newIPAddr tp ip port).isSome = (tp.isStream || tp.isDatagram) := by
  unfold newIPAddr; split_ifs <;> simp_all

theorem newIPAddr_all_names {tp : AddressFamilyAndProtocol} (h : (tp.isIPv4 || tp.isIPv6) = true) (ip : IP)
    (port : Nat) : (newIPAddr tp ip port).all tp.names := by
  unfold newIPAddr; split_ifs <;> simp_all [AddressFamilyAndProtocol.names]

/-- The parser builds both addresses exactly for the transports that resolve
them, each of the kind the transport names. -/
theorem v2Addresses_resolves (tp : AddressFamilyAndProtocol) (a : Bytes) :
    ((v2Addresses tp a).1.isSome = tp.resolves ∧ (v2Addresses tp a).2.isSome = tp.resolves) ∧
    ((v2Addresses tp a).1.all tp.names ∧ (v2Addresses tp a).2.all tp.names) := by
  unfold v2Addresses AddressFamilyAndProtocol.resolves
  split_ifs with h0 h4 h6 hu
  · subst h0; decide
  · have : tp.isIPv6 = false ∧ tp.isUnix = false := by simp_all [isIPv4, isIPv6, isUnix]
    simp [addr4, newIPAddr_isSome, newIPAddr_all_names, h4, this]
  · have : tp.isUnix = false := by simp_all [isIPv6, isUnix]
    simp [addr6, newIPAddr_isSome, newIPAddr_all_names, h4, h6, this]
  · simp [addrUnix, h4, h6, hu, AddressFamilyAndProtocol.names]
  · simp [h4, h6, hu]

/-- The header a payload describes: the addresses at its start, the rest as TLVs. -/
def v2Header (c t : UInt8) (payload : Bytes) : Header :=
  ⟨2, ⟨c⟩, ⟨t⟩, (v2Addresses ⟨t⟩ payload).1, (v2Addresses ⟨t⟩ payload).2,
    payload.drop (addressBlockSize ⟨t⟩)⟩

/-- The streams `parseVersion2` accepts: a supported command, `UNSPEC` only under
`LOCAL`, a length `validateLength` allows, and the whole payload present. -/
def V2Accepts (d : Bytes) : Prop :=
  ∃ c t L rest, v2Prefix d = some (c, t, L, rest) ∧ (⟨c⟩ : ProtocolVersionAndCommand).supported ∧
    ¬((⟨t⟩ : AddressFamilyAndProtocol) = UNSPEC ∧ (⟨c⟩ : ProtocolVersionAndCommand) ≠ LOCAL) ∧
    validateLength ⟨t⟩ L ∧ L ≤ rest.length

/-- The declared payload length, `0` on a stream too short to declare one. -/
def v2Length (d : Bytes) : Nat :=
  match v2Prefix d with
  | some (_, _, L, _) => L
  | none => 0

theorem addressBlockSize_le {tp : AddressFamilyAndProtocol} {L : Nat} (h : validateLength tp L) :
    addressBlockSize tp ≤ L := by
  unfold validateLength at h; unfold addressBlockSize
  split_ifs at h <;> simp_all [lengthV4, lengthV6, lengthUnix] <;> split <;> omega

theorem slice_take {a : Bytes} {i j n : Nat} (h : j ≤ n) : slice (a.take n) i j = slice a i j := by
  simp only [slice, List.drop_take]
  rw [List.take_take, min_eq_left (by omega)]

theorem be16At_take {a : Bytes} {i n : Nat} (h : i + 2 ≤ n) : be16At (a.take n) i = be16At a i := by
  simp only [be16At, List.getD_eq_getElem?_getD, List.getElem?_take_of_lt (by omega : i < n),
    List.getElem?_take_of_lt (by omega : i + 1 < n)]

/-- The addresses depend only on the fixed block. -/
theorem v2Addresses_take {tp : AddressFamilyAndProtocol} {a : Bytes} {n : Nat}
    (h : addressBlockSize tp ≤ n) : v2Addresses tp (a.take n) = v2Addresses tp a := by
  unfold addressBlockSize at h; unfold v2Addresses
  by_cases h0 : tp = UNSPEC
  · simp [h0]
  by_cases h4 : tp.isIPv4
  · simp only [h0, h4, if_false, if_true, lengthV4] at h ⊢
    simp (disch := omega) only [addr4, slice_take, be16At_take]
  by_cases h6 : tp.isIPv6
  · simp only [h0, h4, h6, if_false, if_true, Bool.false_eq_true, lengthV6] at h ⊢
    simp (disch := omega) only [addr6, slice_take, be16At_take]
  by_cases hu : tp.isUnix
  · simp only [h0, h4, h6, hu, if_false, if_true, Bool.false_eq_true, lengthUnix] at h ⊢
    simp (disch := omega) only [addrUnix, slice_take]
  simp [h0, h4, h6, hu]

/-! ### Reading the payload out of the buffer -/

theorem limitedRead_buffered {N k : Nat} {b : BufReader} {s : Socket} (hk : 0 < k) (hN : 0 < N)
    (hbuf : N ≤ b.buf.length) :
    limitedRead k (N, b, s) =
      ((b.buf.take (min k N), none), (N - min k N, { b with buf := b.buf.drop (min k N) }, s)) := by
  obtain ⟨c, rest, hb⟩ : ∃ c rest, b.buf = c :: rest := List.exists_cons_of_ne_nil
    (by intro h; rw [h] at hbuf; simp at hbuf; omega)
  have hlen : (b.buf.take (min k N)).length = min k N := by simp; omega
  simp only [limitedRead, if_neg (show N ≠ 0 by omega), BufReader.read,
    if_neg (show min k N ≠ 0 by omega), hb]
  simp only [← hb, hlen]

theorem readAtLeast_done {σ : Type} {rd : Nat → σ → (Bytes × Option Error) × σ} {want : Nat}
    {got : Bytes} (h : want ≤ got.length) (fuel : Nat) (st : σ) :
    readAtLeast rd want fuel got st = ((got, none), st) := by
  cases fuel <;> simp [readAtLeast, Nat.not_lt.mpr h]

/-- `io.ReadFull` through the payload reader takes the bytes straight out of the buffer. -/
theorem readFull_limited {n N : Nat} {b : BufReader} {s : Socket} (hn : n ≤ N)
    (hbuf : N ≤ b.buf.length) :
    readFull limitedRead n (N, b, s) = (.ok (b.buf.take n), (N - n, { b with buf := b.buf.drop n }, s)) := by
  rcases Nat.eq_zero_or_pos n with rfl | hpos
  · simp [readFull, readAtLeast_done]
  · obtain ⟨m, rfl⟩ : ∃ m, n = m + 1 := ⟨n - 1, by omega⟩
    have hlen : (b.buf.take (m + 1)).length = m + 1 := by simp; omega
    simp only [readFull, readAtLeast, List.length_nil, Nat.zero_lt_succ, if_true, Nat.sub_zero,
      limitedRead_buffered (Nat.zero_lt_succ m) (show 0 < N by omega) hbuf,
      min_eq_left hn, List.nil_append, readAtLeast_done (le_of_eq hlen.symm), hlen, le_refl]

theorem readAddresses_buffered {tp : AddressFamilyAndProtocol} {N : Nat} {b : BufReader}
    {s : Socket} (hfix : addressBlockSize tp ≤ N) (hbuf : N ≤ b.buf.length) :
    readAddresses tp (N, b, s) = (.ok (v2Addresses tp b.buf),
      (N - addressBlockSize tp, { b with buf := b.buf.drop (addressBlockSize tp) }, s)) := by
  unfold addressBlockSize at hfix ⊢; unfold readAddresses v2Addresses
  by_cases h0 : tp = UNSPEC
  · simp [h0]
  by_cases h4 : tp.isIPv4
  · simp only [h0, h4, if_false, if_true, lengthV4] at hfix ⊢
    simp [readFull_limited hfix hbuf, addr4, slice_take, be16At_take]
  by_cases h6 : tp.isIPv6
  · simp only [h0, h4, h6, if_false, if_true, Bool.false_eq_true, lengthV6] at hfix ⊢
    simp [readFull_limited hfix hbuf, addr6, slice_take, be16At_take]
  by_cases hu : tp.isUnix
  · simp only [h0, h4, h6, hu, if_false, if_true, Bool.false_eq_true, lengthUnix] at hfix ⊢
    simp [readFull_limited hfix hbuf, addrUnix, slice_take]
  simp [h0, h4, h6, hu]

theorem readTLVs_buffered {N : Nat} {b : BufReader} {s : Socket} (hbuf : N ≤ b.buf.length) :
    readTLVs (N, b, s) = (.ok (b.buf.take N), (0, { b with buf := b.buf.drop N }, s)) := by
  unfold readTLVs
  split
  · simp [readFull_limited (le_refl N) hbuf]
  · next h => obtain rfl : N = 0 := by omega
              simp

theorem skipBytes_ok {n : Nat} : ∀ {b b' : BufReader} {s s' : Socket},
    skipBytes n b s = (.ok (), b', s') →
    n ≤ (b.data s).length ∧ b'.data s' = (b.data s).drop n ∧ b'.size = b.size := by
  induction n with
  | zero => intro b b' s s' h; cases h; simp
  | succ n ih =>
    intro b b' s s' h
    unfold skipBytes at h
    split at h
    · cases h
    · next c b1 s1 hrb =>
      obtain ⟨h1, h2, h3⟩ := ih h
      have hsz : b1.size = b.size := by simpa [hrb] using BufReader.readByte_size b s
      rw [BufReader.readByte_ok_data hrb]
      exact ⟨by simp; omega, by simp [h2], h3.trans hsz⟩

theorem validateLength_zero {tp : AddressFamilyAndProtocol} (h : validateLength tp 0) :
    addressBlockSize tp = 0 ∧ ∀ a, v2Addresses tp a = (none, none) := by
  have hfam : tp.isIPv4 = false ∧ tp.isIPv6 = false ∧ tp.isUnix = false := by
    unfold validateLength at h; split_ifs at h <;> simp_all [lengthV4, lengthV6, lengthUnix]
  simp [addressBlockSize, v2Addresses, hfam]

/-- After a successful `Peek(L)` the payload reads take the payload out of the
buffer: what is left of `readPayload` is the `Peek` and `v2Header` of the bytes
it made sure of. -/
theorem readPayload_peeked {c t : UInt8} {L : Nat} {b : BufReader} {s : Socket}
    (hval : validateLength ⟨t⟩ L) (hL : L ≠ 0) :
    readPayload c t L b s =
      match b.peek L s with
      | ((_, some _), b, s) => (.error .invalidLength, b, s)
      | ((_, none), b, s) => (.ok (v2Header c t (b.buf.take L)), { b with buf := b.buf.drop L }, s) := by
  unfold readPayload
  rw [if_neg (by simpa using hval), if_neg hL]
  rcases hpeek : b.peek L s with ⟨⟨p, _ | e⟩, b5, s5⟩
  · have hbuf := (BufReader.peek_ok hpeek).2.2
    have hfix := addressBlockSize_le hval
    simp only [readAddresses_buffered hfix hbuf]
    rw [readTLVs_buffered (by simp only [List.length_drop]; omega)]
    simp only [v2Header, v2Addresses_take hfix, List.drop_take, List.drop_drop, Nat.add_sub_of_le hfix]
  · rfl

/-- What a successful `readPayload` read: a payload of the declared length, and
the header is `v2Header` of it. -/
theorem readPayload_ok {c t : UInt8} {L : Nat} {b b' : BufReader} {s s' : Socket} {h : Header}
    (hp : readPayload c t L b s = (.ok h, b', s')) :
    validateLength ⟨t⟩ L ∧ L ≤ (b.data s).length ∧ h = v2Header c t ((b.data s).take L) ∧
      b'.data s' = (b.data s).drop L := by
  have hval : validateLength ⟨t⟩ L := by
    by_contra hval; simp [readPayload, hval] at hp
  by_cases hz : L = 0
  · subst hz
    simp only [readPayload, hval, Bool.not_true, if_false, if_true, Prod.mk.injEq] at hp
    obtain ⟨⟨rfl⟩, rfl, rfl⟩ := hp
    obtain ⟨hfix, hnone⟩ := validateLength_zero hval
    exact ⟨hval, Nat.zero_le _, by simp [v2Header, hnone, hfix], rfl⟩
  rw [readPayload_peeked hval hz] at hp
  split at hp
  · cases hp
  next b5 s5 hpeek =>
  simp only [Prod.mk.injEq, Except.ok.injEq] at hp
  obtain ⟨rfl, rfl, rfl⟩ := hp
  obtain ⟨-, hd, hbuf⟩ := BufReader.peek_ok hpeek
  rw [← hd]
  exact ⟨hval, by simp [BufReader.data]; omega,
    by simp [BufReader.data, List.take_append_of_le_length hbuf],
    by simp [BufReader.data, List.drop_append_of_le_length hbuf]⟩

/-- `readPayload` fails only with `ErrInvalidLength`: once the `Peek` succeeded,
the payload reads cannot fail. -/
theorem readPayload_error {c t : UInt8} {L : Nat} {b : BufReader} {s : Socket} {e : Error}
    (hp : (readPayload c t L b s).1 = .error e) : e = .invalidLength := by
  by_cases hval : validateLength ⟨t⟩ L
  · by_cases hz : L = 0
    · subst hz; simp [readPayload, hval] at hp
    · rw [readPayload_peeked hval hz] at hp; split at hp <;> cases hp; rfl
  · simp only [readPayload, hval, Bool.not_false, if_true, Except.error.injEq] at hp; exact hp.symm

/-- A successful parse, on any socket, read a stream in `V2Accepts`, built
`v2Header` of its payload, and consumed exactly the 16 fixed bytes and the
payload. -/
theorem parseVersion2_ok {b b' : BufReader} {s s' : Socket} {h : Header}
    (hp : parseVersion2 b s = (.ok h, b', s')) :
    V2Accepts (b.data s) ∧ ∃ c t L rest, v2Prefix (b.data s) = some (c, t, L, rest) ∧
      h = v2Header c t (rest.take L) ∧ b'.data s' = rest.drop L := by
  unfold parseVersion2 at hp
  split at hp
  · cases hp
  next b1 s1 hskip =>
  split at hp
  · cases hp
  next b13 b2 s2 h13 =>
  split at hp
  · cases hp
  next hsup =>
  split at hp
  · cases hp
  next b14 b3 s3 h14 =>
  split at hp
  · cases hp
  next hunspec =>
  split at hp
  · cases hp
  next lb b4 s4 hlen =>
  obtain ⟨h12, hd1, -⟩ := skipBytes_ok hskip
  have hd2 := BufReader.readByte_ok_data h13
  have hd3 := BufReader.readByte_ok_data h14
  have hd4 := readFull_data BufReader.reader_consumes hlen
  have hl4 := readFull_ok_length BufReader.reader_length_le hlen
  obtain ⟨hi, lo, rfl⟩ : ∃ hi lo, lb = [hi, lo] := by
    match lb, hl4 with
    | [hi, lo], _ => exact ⟨hi, lo, rfl⟩
  have hpre : v2Prefix (b.data s) = some (b13, b14, be16 hi lo, b4.data s4) := by
    simp only [v2Prefix, ← hd1, hd2, hd3, ← hd4]; rfl
  obtain ⟨hval, hL, rfl, hd⟩ := readPayload_ok hp
  exact ⟨⟨b13, b14, _, _, hpre, by simpa using hsup, hunspec, hval, hL⟩, b13, b14, _, _, hpre, rfl, hd⟩

/-- The errors `parseVersion2` returns: one for each fixed field, and
`ErrInvalidLength`. -/
theorem parseVersion2_error {b : BufReader} {s : Socket} {e : Error} (hp : (parseVersion2 b s).1 = .error e) :
    e ∈ [.cantReadProtocolVersionAndCommand, .unsupportedProtocolVersionAndCommand,
      .cantReadAddressFamilyAndProtocol, .unsupportedAddressFamilyAndProtocol, .cantReadLength,
      .invalidLength] := by
  unfold parseVersion2 at hp
  repeat' split at hp
  all_goals first | (cases hp; simp) | simp [readPayload_error hp]

section Keeps

variable {A : Option Addr × Option Addr} {b : BufReader} {s : Socket}

theorem skipBytes_keeps (n : Nat) :
    ∀ {b : BufReader} {s : Socket}, BufReader.Keeps A (b, s) → BufReader.Keeps A (skipBytes n b s).2 := by
  induction n with
  | zero => exact id
  | succ n ih =>
    intro b s h
    have hk := BufReader.readByte_keeps h
    unfold skipBytes; split <;> rename_i hr <;> rw [hr] at hk
    · exact hk
    · exact ih hk

theorem readPayload_keeps {c t : UInt8} {L : Nat} (h : BufReader.Keeps A (b, s)) :
    BufReader.Keeps A (readPayload c t L b s).2 := by
  by_cases hval : validateLength ⟨t⟩ L
  · by_cases hz : L = 0
    · subst hz; simpa [readPayload, hval] using h
    · have hk := BufReader.peek_keeps L h
      rw [readPayload_peeked hval hz]
      split <;> rename_i hpeek <;> rw [hpeek] at hk <;> exact hk
  · simpa [readPayload, hval] using h

theorem parseVersion2_keeps (h : BufReader.Keeps A (b, s)) : BufReader.Keeps A (parseVersion2 b s).2 := by
  have h1 := skipBytes_keeps 12 h
  unfold parseVersion2
  split <;> rename_i hsk <;> rw [hsk] at h1
  · exact h1
  have h2 := BufReader.readByte_keeps h1
  split <;> rename_i hr13 <;> rw [hr13] at h2
  · exact h2
  split
  · exact h2
  have h3 := BufReader.readByte_keeps h2
  split <;> rename_i hr14 <;> rw [hr14] at h3
  · exact h3
  split
  · exact h3
  have h4 := @readFull_preserves _ BufReader.reader (BufReader.Keeps A)
    (fun k _ hk => (BufReader.read_keeps k hk).1) 2 _ h3
  dsimp only at h4
  split <;> rename_i hrf <;> rw [hrf] at h4
  · exact h4
  · exact readPayload_keeps h4

end Keeps

section Control

variable {b : BufReader} {s : Socket}

theorem skipBytes_control (n : Nat) : ∀ {b : BufReader} {s : Socket},
    (skipBytes n b s).2.2.control = s.control := by
  induction n with
  | zero => intros; rfl
  | succ n ih =>
    intro b s
    have hk : (b.readByte s).2.2.control = s.control := BufReader.readByte_control
    unfold skipBytes; split <;> rename_i hr <;> rw [hr] at hk
    · exact hk
    · exact ih.trans hk

theorem readPayload_control {c t : UInt8} {L : Nat} : (readPayload c t L b s).2.2.control = s.control := by
  by_cases hval : validateLength ⟨t⟩ L
  · by_cases hz : L = 0
    · subst hz; simp [readPayload, hval]
    · have hk : (b.peek L s).2.2.control = s.control := BufReader.peek_control L
      rw [readPayload_peeked hval hz]
      split <;> rename_i hpeek <;> rw [hpeek] at hk <;> exact hk
  · simp [readPayload, hval]

theorem parseVersion2_control : (parseVersion2 b s).2.2.control = s.control := by
  have h1 : (skipBytes 12 b s).2.2.control = s.control := skipBytes_control 12
  unfold parseVersion2
  split <;> rename_i hsk <;> rw [hsk] at h1
  · exact h1
  next b1 s1 =>
  have h2 : (b1.readByte s1).2.2.control = s1.control := BufReader.readByte_control
  split <;> rename_i hr13 <;> rw [hr13] at h2
  · exact h2.trans h1
  split
  · exact h2.trans h1
  next b2 s2 _ =>
  have h3 : (b2.readByte s2).2.2.control = s2.control := BufReader.readByte_control
  split <;> rename_i hr14 <;> rw [hr14] at h3
  · exact (h3.trans h2).trans h1
  split
  · exact (h3.trans h2).trans h1
  next b3 s3 _ =>
  have h4 := @readFull_preserves _ BufReader.reader (fun st => st.2.control = s3.control)
    (fun k st hk => (@BufReader.read_control st.1 st.2 k).trans hk) 2 (b3, s3) rfl
  dsimp only at h4
  split <;> rename_i hrf <;> rw [hrf] at h4
  · exact ((h4.trans h3).trans h2).trans h1
  · exact (((readPayload_control).trans h4).trans h3 |>.trans h2).trans h1

end Control

/-- A payload longer than the reader's buffer fails its `Peek` with
`ErrBufferFull`, which the parser reports as `ErrInvalidLength`. -/
theorem readPayload_bufferFull {c t : UInt8} {L : Nat} {b : BufReader} {s : Socket}
    (hval : validateLength ⟨t⟩ L) (hsize : b.size < L) :
    (readPayload c t L b s).1 = .error .invalidLength := by
  have hpk : (b.peek L s).1.2 = some .bufferFull := by simp [BufReader.peek, hsize]
  unfold readPayload
  rw [if_neg (by simpa using hval), if_neg (by omega)]
  split
  · rfl
  · next h => simp [h] at hpk

/-! ### On a live socket every stream in `V2Accepts` is accepted -/

theorem v2Prefix_eq_some {d rest : Bytes} {c t : UInt8} {L : Nat} :
    v2Prefix d = some (c, t, L, rest) ↔ ∃ hi lo, d.drop 12 = c :: t :: hi :: lo :: rest ∧ L = be16 hi lo := by
  unfold v2Prefix
  split
  · next hd => simp only [Option.some.injEq, Prod.mk.injEq, hd, List.cons.injEq]; aesop
  · next hn => simp only [reduceCtorEq, false_iff, not_exists, not_and]
               intro hi lo hd; exact absurd hd (hn _ _ _ _ _)

theorem v2Prefix_rest {d rest : Bytes} {c t : UInt8} {L : Nat}
    (h : v2Prefix d = some (c, t, L, rest)) : rest = d.drop 16 := by
  obtain ⟨hi, lo, hd, -⟩ := v2Prefix_eq_some.mp h
  rw [show 16 = 12 + 4 from rfl, ← List.drop_drop, hd]; rfl

/-- The fixed fields right after the signature. -/
theorem v2Prefix_append_sigv2 (c t hi lo : UInt8) (rest : Bytes) :
    v2Prefix (SIGV2 ++ c :: t :: hi :: lo :: rest) = some (c, t, be16 hi lo, rest) := rfl

theorem readByte_cons {b : BufReader} {s : Socket} (hs : s.Live) (hb : b.Good) {c : UInt8} {r : Bytes}
    (hd : b.data s = c :: r) :
    ∃ b' s', b.readByte s = (.ok c, b', s') ∧ b'.Good ∧ s'.Live ∧ b'.size = b.size ∧ b'.data s' = r := by
  obtain ⟨hg, hl, hsz, hr⟩ := BufReader.readByte_live hs hb
  rw [hd] at hr
  have heq : b.readByte s = (.ok c, (b.readByte s).2.1, (b.readByte s).2.2) := by
    rw [← show (b.readByte s).1 = .ok c from hr]
  have hdat := BufReader.readByte_ok_data heq
  rw [hd, List.cons.injEq] at hdat
  exact ⟨_, _, heq, hg, hl, hsz, hdat.2.symm⟩

theorem skipBytes_live {n : Nat} : ∀ {b : BufReader} {s : Socket}, s.Live → b.Good →
    n ≤ (b.data s).length → ∃ b' s', skipBytes n b s = (.ok (), b', s') ∧ b'.Good ∧ s'.Live ∧
      b'.size = b.size ∧ b'.data s' = (b.data s).drop n := by
  induction n with
  | zero => intro b s hs hb _; exact ⟨b, s, rfl, hb, hs, rfl, rfl⟩
  | succ n ih =>
    intro b s hs hb hn
    obtain ⟨c, r, hd⟩ : ∃ c r, b.data s = c :: r :=
      List.exists_cons_of_ne_nil (by intro h; rw [h] at hn; simp at hn)
    obtain ⟨b1, s1, hrb, hg, hl, hsz, hr⟩ := readByte_cons hs hb hd
    obtain ⟨b2, s2, hsk, hg2, hl2, hsz2, hr2⟩ := ih hl hg (by rw [hr]; rw [hd] at hn; simp at hn; omega)
    refine ⟨b2, s2, by rw [skipBytes, hrb]; exact hsk, hg2, hl2, hsz2.trans hsz, ?_⟩
    rw [hr2, hr, hd]; rfl

theorem readFull_two {b : BufReader} {s : Socket} (hs : s.Live) (hb : b.Good) {hi lo : UInt8}
    {r : Bytes} (hd : b.data s = hi :: lo :: r) :
    ∃ b' s', readFull BufReader.reader 2 (b, s) = (.ok [hi, lo], b', s') ∧ b'.Good ∧ s'.Live ∧
      b'.size = b.size ∧ b'.data s' = r := by
  obtain ⟨⟨hg, hl, hsz⟩, h2, -⟩ :=
    readFull_streams (BufReader.reader_streams b.size) 2 (b, s) ⟨hb, hs, rfl⟩
  obtain ⟨hok, hdat⟩ := h2 (by simp [hd])
  simp only [hd, List.take_succ_cons, List.take_zero, List.drop_succ_cons, List.drop_zero] at hok hdat
  exact ⟨_, _, by rw [← hok], hg, hl, hsz, hdat⟩

theorem peek_full {b : BufReader} {s : Socket} (hs : s.Live) (hb : b.Good) {n : Nat}
    (hn : n ≤ b.size) (hd : n ≤ (b.data s).length) :
    ∃ b' s', b.peek n s = (((b.data s).take n, none), b', s') ∧ b'.data s' = b.data s ∧
      n ≤ b'.buf.length ∧ b'.Good ∧ s'.Live ∧ b'.size = b.size := by
  obtain ⟨h1, h2, h3, h4, h5, h6⟩ := BufReader.peek_live hs hb hn
  rw [if_pos hd] at h1
  exact ⟨_, _, by rw [← h1], h5, h6 hd, h2, h3, h4⟩

/-- On a live socket the fixed fields are read off the stream, and what is left
to do is `readPayload`. -/
theorem parseVersion2_live_prefix {b : BufReader} {s : Socket} (hs : s.Live) (hb : b.Good)
    {c t : UInt8} {L : Nat} {rest : Bytes} (hpre : v2Prefix (b.data s) = some (c, t, L, rest))
    (hsup : (⟨c⟩ : ProtocolVersionAndCommand).supported)
    (hun : ¬((⟨t⟩ : AddressFamilyAndProtocol) = UNSPEC ∧ (⟨c⟩ : ProtocolVersionAndCommand) ≠ LOCAL)) :
    ∃ b' s', parseVersion2 b s = readPayload c t L b' s' ∧ b'.Good ∧ s'.Live ∧
      b'.size = b.size ∧ b'.data s' = rest := by
  obtain ⟨hi, lo, hdrop, rfl⟩ := v2Prefix_eq_some.mp hpre
  have h12 : 12 ≤ (b.data s).length := by
    have := congrArg List.length hdrop; simp at this; omega
  obtain ⟨b1, s1, hsk, hg1, hl1, hsz1, hd1⟩ := skipBytes_live hs hb h12
  rw [hdrop] at hd1
  obtain ⟨b2, s2, hr13, hg2, hl2, hsz2, hd2⟩ := readByte_cons hl1 hg1 hd1
  obtain ⟨b3, s3, hr14, hg3, hl3, hsz3, hd3⟩ := readByte_cons hl2 hg2 hd2
  obtain ⟨b4, s4, hrf, hg4, hl4, hsz4, hd4⟩ := readFull_two hl3 hg3 hd3
  refine ⟨b4, s4, ?_, hg4, hl4, by omega, hd4⟩
  simp only [parseVersion2, hsk, hr13, hr14, hrf, hsup, hun, Bool.not_true, if_false]
  rfl

theorem readPayload_live {c t : UInt8} {L : Nat} {b : BufReader} {s : Socket} (hs : s.Live)
    (hb : b.Good) (hval : validateLength ⟨t⟩ L) (hL : L ≤ (b.data s).length) (hLs : L ≤ b.size) :
    ∃ h b' s', readPayload c t L b s = (.ok h, b', s') := by
  unfold readPayload
  rw [if_neg (by simpa using hval)]
  split
  · exact ⟨_, _, _, rfl⟩
  obtain ⟨b5, s5, hpk, -, hbuf, -⟩ := peek_full hs hb hLs hL
  have hfix := addressBlockSize_le hval
  simp only [hpk, readAddresses_buffered hfix hbuf]
  rw [readTLVs_buffered]
  · exact ⟨_, _, _, rfl⟩
  · simp; omega

/-- On a live socket, with a reader that can hold the declared length, every
stream in `V2Accepts` parses. -/
theorem parseVersion2_live {b : BufReader} {s : Socket} (hs : s.Live) (hb : b.Good)
    (hacc : V2Accepts (b.data s)) (hsize : v2Length (b.data s) ≤ b.size) :
    ∃ h b' s', parseVersion2 b s = (.ok h, b', s') := by
  obtain ⟨c, t, L, rest, hpre, hsup, hun, hval, hL⟩ := hacc
  have hLs : L ≤ b.size := by simpa only [v2Length, hpre] using hsize
  obtain ⟨b', s', hp, hg, hl, hsz, hd⟩ := parseVersion2_live_prefix hs hb hpre hsup hun
  rw [hp]
  exact readPayload_live hl hg hval (by rw [hd]; exact hL) (by omega)

/-! ### The parser's acceptance set -/

/-- What `parseVersion2` does with a stream: it succeeds exactly on `V2Accepts`,
and a success consumed the 16 fixed bytes and the declared payload, and built
`v2Header` of that payload. -/
def ParsesAsV2 (b : BufReader) (s : Socket) : Prop :=
  ((∃ h b' s', parseVersion2 b s = (.ok h, b', s')) ↔ V2Accepts (b.data s)) ∧
  ∀ h b' s', parseVersion2 b s = (.ok h, b', s') → ∃ c t L rest,
    v2Prefix (b.data s) = some (c, t, L, rest) ∧ h = v2Header c t (rest.take L) ∧
    b'.data s' = (b.data s).drop (16 + L)

theorem parseVersion2_iff {b : BufReader} {s : Socket} (hs : s.Live) (hb : b.Good)
    (hsize : v2Length (b.data s) ≤ b.size) : ParsesAsV2 b s := by
  refine ⟨⟨fun ⟨_, _, _, hp⟩ => (parseVersion2_ok hp).1, (parseVersion2_live hs hb · hsize)⟩,
    fun h b' s' hp => ?_⟩
  obtain ⟨-, c, t, L, rest, hpre, hh, hd⟩ := parseVersion2_ok hp
  refine ⟨c, t, L, rest, hpre, hh, ?_⟩
  rw [hd, v2Prefix_rest hpre, List.drop_drop, Nat.add_comm]

/-- A `PROXY` stream whose transport byte `0x13` names the IPv4 family and no socket type. -/
def unlistedTransportSocket : Socket :=
  ⟨[.data 0x0D (SIGV2.tail ++ [0x21, 0x13, 0x00, 0x0C] ++ List.replicate 12 0)], 0, 0, false, none, none⟩

theorem parseVersion2_iff_unlisted :
    unlistedTransportSocket.Live ∧ (BufReader.newReaderSize 4096).Good ∧
      v2Length ((BufReader.newReaderSize 4096).data unlistedTransportSocket) ≤
        (BufReader.newReaderSize 4096).size ∧
      ParsesAsV2 (BufReader.newReaderSize 4096) unlistedTransportSocket :=
  have hs : unlistedTransportSocket.Live := ⟨rfl, rfl⟩
  have hb : (BufReader.newReaderSize 4096).Good := ⟨rfl, by decide⟩
  have hsize : v2Length ((BufReader.newReaderSize 4096).data unlistedTransportSocket) ≤
      (BufReader.newReaderSize 4096).size := by decide
  ⟨hs, hb, hsize, parseVersion2_iff hs hb hsize⟩

/-- The transport byte `0x13` is none of the seven the protocol defines, yet the
parser accepts it under `PROXY`, with no addresses. -/
theorem parseVersion2_accepts_unlisted_transport :
    ¬ (⟨0x13⟩ : AddressFamilyAndProtocol).AddressCarrying ∧ (⟨0x13⟩ : AddressFamilyAndProtocol) ≠ UNSPEC ∧
    (parseVersion2 (BufReader.newReaderSize 4096) unlistedTransportSocket).1 =
      .ok ⟨2, PROXY, ⟨0x13⟩, none, none, []⟩ :=
  ⟨by decide, by decide, rfl⟩

end ProxyProto
