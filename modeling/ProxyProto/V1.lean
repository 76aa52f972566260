import ProxyProto.Stream
import ProxyProto.Text

/-!
# The text header of version 1

`parseVersion1` reads the line byte by byte up to its `\n`, at most 107 bytes
and only while the reader still has bytes buffered, checks the `\r\n`, splits
the line on spaces and reads the transport, the two addresses and the two
ports. `formatVersion1` writes the line back from a header.

A TCP over IPv6 header whose addresses are IPv4 addresses mapped into IPv6 is
written with dotted addresses, which `parseV1IPAddress` refuses under `TCP6`.

## Implementation notes

The line loop runs on fuel `107`: every round adds a byte to the line and the
loop stops when the line reaches 107 bytes, so the fuel never runs out first.
-/

namespace ProxyProto

open AddressFamilyAndProtocol ProtocolVersionAndCommand

/-- `initVersion1`: version 1, command `PROXY`. -/
def initVersion1 : Header := ⟨1, PROXY, UNSPEC, none, none, []⟩

/-- The loop of `parseVersion1` that reads the line into `buf`. -/
def readLine : Nat → Bytes → BufReader → Socket → Except Error Bytes × BufReader × Socket
  | 0, _, b, s => (.error .version1HeaderTooLong, b, s)
  | fuel + 1, buf, b, s =>
    match b.readByte s with
    | (.error e, b, s) => (.error (.cantReadVersion1HeaderOf e), b, s)
    | (.ok c, b, s) =>
      if c = 0x0A then (.ok (buf ++ [c]), b, s)
      else if (buf ++ [c]).length = 107 then (.error .version1HeaderTooLong, b, s)
      else if b.buffered = 0 then (.error .cantReadVersion1Header, b, s)
      else readLine fuel (buf ++ [c]) b s

/-- `parseV1PortNumber`. -/
def parseV1PortNumber (portStr : Bytes) : Except Error Int :=
  match atoi portStr with
  | some port => if port < 0 ∨ 65535 < port then .error .invalidPortNumber else .ok port
  | none => .error .invalidPortNumber

/-- `parseV1IPAddress`: an IPv4 address under `TCP4`, an IPv6 one (mapped
IPv4 included) under `TCP6`. -/
def parseV1IPAddress (protocol : AddressFamilyAndProtocol) (addrStr : Bytes) : Except Error IP :=
  match parseAddr addrStr with
  | none => .error .invalidAddress
  | some addr =>
    if protocol = TCPv4 ∧ addr.is4 then .ok ⟨addr.asSlice⟩
    else if protocol = TCPv6 ∧ (addr.is6 || addr.is4In6) then .ok ⟨addr.asSlice⟩
    else .error .invalidAddress

/-- The transport token of the line. -/
def v1Transport (token : Bytes) : Option AddressFamilyAndProtocol :=
  if token = ascii "TCP4" then some TCPv4
  else if token = ascii "TCP6" then some TCPv6
  else if token = ascii "UNKNOWN" then some UNSPEC
  else none

/-- What `parseVersion1` makes of a line that ends in `\n`. -/
def parseV1Line (buf : Bytes) : Except Error Header :=
  if buf.length < 2 ∨ buf.getD (buf.length - 2) 0 ≠ 0x0D then .error .lineMustEndWithCrlf else
  let tokens := split (buf.take (buf.length - 2)) 0x20
  if tokens.length < 2 then .error .cantReadAddressFamilyAndProtocol else
  match v1Transport (tokens.getD 1 []) with
  | none => .error .cantReadAddressFamilyAndProtocol
  | some tp =>
    if tp ≠ UNSPEC ∧ tokens.length < 6 then .error .cantReadAddressFamilyAndProtocol
    else if tp = UNSPEC then .ok { initVersion1 with transportProtocol := tp, command := LOCAL }
    else do
      let sourceIP ← parseV1IPAddress tp (tokens.getD 2 [])
      let destIP ← parseV1IPAddress tp (tokens.getD 3 [])
      let sourcePort ← parseV1PortNumber (tokens.getD 4 [])
      let destPort ← parseV1PortNumber (tokens.getD 5 [])
      .ok { initVersion1 with
        transportProtocol := tp
        sourceAddr := some (.tcp sourceIP sourcePort)
        destinationAddr := some (.tcp destIP destPort) }

/-- `parseVersion1`. -/
def parseVersion1 (b : BufReader) (s : Socket) : Except Error Header × BufReader × Socket :=
  match readLine 107 [] b s with
  | (.error e, b, s) => (.error e, b, s)
  | (.ok buf, b, s) => (parseV1Line buf, b, s)

/-! ### What the parser consumes and returns -/

theorem parseV1IPAddress_error {tp : AddressFamilyAndProtocol} {a : Bytes} {e : Error}
    (h : parseV1IPAddress tp a = .error e) : e = .invalidAddress := by
  unfold parseV1IPAddress at h
  split at h
  · cases h; rfl
  · split_ifs at h; cases h; rfl

theorem parseV1PortNumber_error {a : Bytes} {e : Error}
    (h : parseV1PortNumber a = .error e) : e = .invalidPortNumber := by
  unfold parseV1PortNumber at h
  split at h
  · split_ifs at h; cases h; rfl
  · cases h; rfl

/-- A chain of fallible steps that succeeds took every step. -/
theorem bind_eq_ok_inv {ε α β : Type} {x : Except ε α} {f : α → Except ε β} {r : β}
    (h : (x >>= f) = .ok r) : ∃ a, x = .ok a ∧ f a = .ok r := by
  cases x <;> simp_all [bind, Except.bind]

/-- A chain of fallible steps that fails failed at its first step or later. -/
theorem bind_eq_error_inv {ε α β : Type} {x : Except ε α} {f : α → Except ε β} {e : ε}
    (h : (x >>= f) = .error e) : x = .error e ∨ ∃ a, f a = .error e := by
  cases x <;> simp_all [bind, Except.bind]; exact ⟨_, h⟩

/-- The errors of the line itself: its ending, its transport and field count,
an address, a port. -/
theorem parseV1Line_error {buf : Bytes} {e : Error} (h : parseV1Line buf = .error e) :
    e ∈ [.lineMustEndWithCrlf, .cantReadAddressFamilyAndProtocol, .invalidAddress, .invalidPortNumber] := by
  unfold parseV1Line at h; dsimp only at h
  split at h; · cases h; simp
  split at h; · cases h; simp
  split at h; · cases h; simp
  split at h; · cases h; simp
  split at h; · cases h
  rcases bind_eq_error_inv h with h | ⟨_, h⟩
  · simp [parseV1IPAddress_error h]
  rcases bind_eq_error_inv h with h | ⟨_, h⟩
  · simp [parseV1IPAddress_error h]
  rcases bind_eq_error_inv h with h | ⟨_, h⟩
  · simp [parseV1PortNumber_error h]
  rcases bind_eq_error_inv h with h | ⟨_, h⟩
  · simp [parseV1PortNumber_error h]
  · cases h

/-- The transports of the version-1 line. -/
theorem v1Transport_some {tok : Bytes} {tp : AddressFamilyAndProtocol} (h : v1Transport tok = some tp) :
    tp = TCPv4 ∨ tp = TCPv6 ∨ tp = UNSPEC := by
  unfold v1Transport at h; split_ifs at h <;> cases h <;> simp

/-- A line the parser accepts is `LOCAL` for `UNKNOWN`, and otherwise `PROXY`
over TCP with two TCP addresses. -/
theorem parseV1Line_ok {line : Bytes} {h : Header} (hp : parseV1Line line = .ok h) :
    h.command = LOCAL ∨ (h.command = PROXY ∧ (h.transportProtocol = TCPv4 ∨ h.transportProtocol = TCPv6) ∧
      (∃ ip port, h.sourceAddr = some (.tcp ip port)) ∧ ∃ ip port, h.destinationAddr = some (.tcp ip port)) := by
  unfold parseV1Line at hp; dsimp only at hp
  split at hp; · cases hp
  split at hp; · cases hp
  split at hp; · cases hp
  next tp htp =>
  split at hp; · cases hp
  split at hp
  · cases hp; exact .inl rfl
  next hU =>
  obtain ⟨_, -, hp⟩ := bind_eq_ok_inv hp
  obtain ⟨_, -, hp⟩ := bind_eq_ok_inv hp
  obtain ⟨_, -, hp⟩ := bind_eq_ok_inv hp
  obtain ⟨_, -, ⟨⟩⟩ := bind_eq_ok_inv hp
  rcases v1Transport_some htp with rfl | rfl | rfl
  all_goals first
    | exact absurd rfl hU
    | exact .inr ⟨rfl, by simp, ⟨_, _, rfl⟩, _, _, rfl⟩

section

variable {A : Option Addr × Option Addr} {b b' : BufReader} {s s' : Socket}

/-- A line `readLine` returns is the bytes it consumed, up to and including the
first `\n`. -/
theorem readLine_ok {fuel : Nat} {buf line : Bytes} (h : readLine fuel buf b s = (.ok line, b', s')) :
    ∃ l, line = buf ++ l ++ [0x0A] ∧ 0x0A ∉ l ∧ b.data s = l ++ 0x0A :: b'.data s' := by
  induction fuel generalizing buf b s with
  | zero => cases h
  | succ fuel ih =>
    unfold readLine at h
    split at h
    · cases h
    next c b1 s1 hrb =>
    have hd := BufReader.readByte_ok_data hrb
    split_ifs at h with hc
    · simp only [Prod.mk.injEq, Except.ok.injEq] at h
      obtain ⟨rfl, rfl, rfl⟩ := h
      exact ⟨[], by simp [hc], by simp, by simp [hd, hc]⟩
    · cases h
    · cases h
    · obtain ⟨l, rfl, hl, hd'⟩ := ih h
      exact ⟨c :: l, by simp, by simp [hl, Ne.symm hc], by rw [hd, hd']; rfl⟩

/-- The errors of the line loop. -/
theorem readLine_error {fuel : Nat} {buf : Bytes} {e : Error} (h : (readLine fuel buf b s).1 = .error e) :
    e ∈ [.version1HeaderTooLong, .cantReadVersion1Header] ∨ ∃ cause, e = .cantReadVersion1HeaderOf cause := by
  induction fuel generalizing buf b s with
  | zero => cases h; simp
  | succ fuel ih =>
    unfold readLine at h
    split at h
    · cases h; exact .inr ⟨_, rfl⟩
    · split_ifs at h
      all_goals first | (cases h <;> simp) | exact ih h

theorem readLine_keeps (fuel : Nat) :
    ∀ {buf : Bytes} {b : BufReader} {s : Socket}, BufReader.Keeps A (b, s) →
      BufReader.Keeps A (readLine fuel buf b s).2 := by
  induction fuel with
  | zero => exact id
  | succ fuel ih =>
    intro buf b s h
    have hk := BufReader.readByte_keeps h
    unfold readLine; split <;> rename_i hr <;> rw [hr] at hk
    · exact hk
    · split_ifs
      · exact hk
      · exact hk
      · exact hk
      · exact ih hk

/-- A successful parse consumed the line through its first `\n`, and the header
is what `parseV1Line` makes of that line. -/
theorem parseVersion1_ok {h : Header} (hp : parseVersion1 b s = (.ok h, b', s')) :
    ∃ l, parseV1Line (l ++ [0x0A]) = .ok h ∧ 0x0A ∉ l ∧ b.data s = l ++ 0x0A :: b'.data s' := by
  unfold parseVersion1 at hp
  split at hp
  · cases hp
  next line b1 s1 hr =>
  obtain ⟨l, rfl, hl, hd⟩ := readLine_ok hr
  simp only [Prod.mk.injEq] at hp
  obtain ⟨hh, rfl, rfl⟩ := hp
  exact ⟨l, by simpa using hh, hl, hd⟩

/-- The errors `parseVersion1` returns. -/
theorem parseVersion1_error {e : Error} (hp : (parseVersion1 b s).1 = .error e) :
    e ∈ [.version1HeaderTooLong, .cantReadVersion1Header, .lineMustEndWithCrlf,
      .cantReadAddressFamilyAndProtocol, .invalidAddress, .invalidPortNumber] ∨
    ∃ cause, e = .cantReadVersion1HeaderOf cause := by
  unfold parseVersion1 at hp
  split at hp
  · next hr =>
    cases hp
    exact (readLine_error (congrArg Prod.fst hr)).imp_left (List.subset_append_left _ _ ·)
  · exact .inl (List.mem_cons_of_mem _ (List.mem_cons_of_mem _ (parseV1Line_error hp)))

theorem readLine_control (fuel : Nat) : ∀ {buf : Bytes} {b : BufReader} {s : Socket},
    (readLine fuel buf b s).2.2.control = s.control := by
  induction fuel with
  | zero => intros; rfl
  | succ fuel ih =>
    intro buf b s
    have hk : (b.readByte s).2.2.control = s.control := BufReader.readByte_control
    unfold readLine; split <;> rename_i hr <;> rw [hr] at hk
    · exact hk
    · split_ifs
      · exact hk
      · exact hk
      · exact hk
      · exact ih.trans hk

theorem parseVersion1_control : (parseVersion1 b s).2.2.control = s.control := by
  have hk : (readLine 107 [] b s).2.2.control = s.control := readLine_control 107
  unfold parseVersion1; split <;> rename_i hr <;> rw [hr] at hk <;> exact hk

theorem parseVersion1_keeps (h : BufReader.Keeps A (b, s)) : BufReader.Keeps A (parseVersion1 b s).2 := by
  have hk : BufReader.Keeps A (readLine 107 [] b s).2 := readLine_keeps 107 h
  unfold parseVersion1; split <;> rename_i hr <;> rw [hr] at hk <;> exact hk
end

/-! ### The line the parser accepts -/

/-- An address token valid for the transport: an IPv4 address under `TCP4`, an
IPv6 address (mapped IPv4 included) under `TCP6`. -/
def ValidV1Address (tp : AddressFamilyAndProtocol) (a : Bytes) : Prop :=
  ∃ addr, parseAddr a = some addr ∧ (tp = TCPv4 ∧ addr.is4 ∨ tp = TCPv6 ∧ (addr.is6 || addr.is4In6))

/-- A port token: a decimal integer in `0..65535`. -/
def ValidV1Port (p : Bytes) : Prop :=
  ∃ n, atoi p = some n ∧ 0 ≤ n ∧ n ≤ 65535

/-- The tokens after `PROXY` of an address-carrying line: `TCP4` or `TCP6`,
two addresses of that family, two ports. -/
def V1AddressTokens (tokens : List Bytes) : Prop :=
  ∃ tp, (tokens.getD 1 [] = ascii "TCP4" ∧ tp = TCPv4 ∨ tokens.getD 1 [] = ascii "TCP6" ∧ tp = TCPv6) ∧
    ValidV1Address tp (tokens.getD 2 []) ∧ ValidV1Address tp (tokens.getD 3 []) ∧
    ValidV1Port (tokens.getD 4 []) ∧ ValidV1Port (tokens.getD 5 [])

theorem parseV1IPAddress_isOk {tp : AddressFamilyAndProtocol} {a : Bytes} :
    (∃ ip, parseV1IPAddress tp a = .ok ip) ↔ ValidV1Address tp a := by
  unfold parseV1IPAddress ValidV1Address
  cases parseAddr a with
  | none => simp
  | some addr => dsimp only; split_ifs <;> simp_all

theorem parseV1PortNumber_isOk {p : Bytes} : (∃ n, parseV1PortNumber p = .ok n) ↔ ValidV1Port p := by
  unfold parseV1PortNumber ValidV1Port
  cases atoi p with
  | none => simp
  | some n =>
    simp only [Option.some.injEq, exists_eq_left']
    by_cases h : n < 0 ∨ 65535 < n
    · rw [if_pos h]; exact ⟨fun ⟨_, h⟩ => (by cases h), fun _ => by omega⟩
    · rw [if_neg h]; exact ⟨fun _ => by omega, fun _ => ⟨n, rfl⟩⟩

/-- The transport tokens of the line. -/
theorem v1Transport_eq_some {tok : Bytes} {tp : AddressFamilyAndProtocol} :
    v1Transport tok = some tp ↔ tok = ascii "TCP4" ∧ tp = TCPv4 ∨ tok = ascii "TCP6" ∧ tp = TCPv6 ∨
      tok = ascii "UNKNOWN" ∧ tp = UNSPEC := by
  have h46 : ascii "TCP4" ≠ ascii "TCP6" := by decide
  have h4u : ascii "TCP4" ≠ ascii "UNKNOWN" := by decide
  have h6u : ascii "TCP6" ≠ ascii "UNKNOWN" := by decide
  unfold v1Transport
  split_ifs <;> subst_vars <;> simp_all [eq_comm]

/-- The address tokens of a line whose transport carries addresses. -/
theorem V1AddressTokens_iff {tokens : List Bytes} {tp : AddressFamilyAndProtocol}
    (hv : v1Transport (tokens.getD 1 []) = some tp) (hne : tp ≠ UNSPEC) :
    V1AddressTokens tokens ↔ ValidV1Address tp (tokens.getD 2 []) ∧ ValidV1Address tp (tokens.getD 3 []) ∧
      ValidV1Port (tokens.getD 4 []) ∧ ValidV1Port (tokens.getD 5 []) := by
  have h46 : ascii "TCP4" ≠ ascii "TCP6" := by decide
  unfold V1AddressTokens
  rcases v1Transport_eq_some.1 hv with ⟨ht, rfl⟩ | ⟨ht, rfl⟩ | ⟨-, rfl⟩
  · rw [ht]; simp [h46]
  · rw [ht]; simp [h46.symm]
  · exact absurd rfl hne

/-- A chain of fallible steps succeeds exactly when its first step does and the
rest succeeds from there. -/
theorem exists_bind_eq_ok {ε α β : Type} {x : Except ε α} {f : α → Except ε β} :
    (∃ r, (x >>= f) = .ok r) ↔ ∃ a, x = .ok a ∧ ∃ r, f a = .ok r := by
  cases x <;> simp [bind, Except.bind]

/-- A line ending in `\n` parses exactly when it ends in `\r\n` and its tokens
name `UNKNOWN`, or at least six tokens carry a TCP transport, two addresses and
two ports. -/
theorem parseV1Line_isOk (line : Bytes) :
    (∃ h, parseV1Line (line ++ [0x0A]) = .ok h) ↔ ∃ body, line = body ++ [0x0D] ∧
      ((split body 0x20).getD 1 [] = ascii "UNKNOWN" ∨
        6 ≤ (split body 0x20).length ∧ V1AddressTokens (split body 0x20)) := by
  rcases List.eq_nil_or_concat line with rfl | ⟨body, x, rfl⟩
  · simp [parseV1Line]
  rw [List.concat_eq_append]
  have hlast : (body ++ [x] ++ [0x0A]).getD ((body ++ [x] ++ [0x0A]).length - 2) 0 = x := by
    rw [List.getD_eq_getElem?_getD, List.append_assoc, List.getElem?_append_right (by simp)]
    simp
  have htake : (body ++ [x] ++ [0x0A]).take ((body ++ [x] ++ [0x0A]).length - 2) = body := by simp
  have hlen : ¬(body ++ [x] ++ [0x0A]).length < 2 := by simp
  unfold parseV1Line
  simp only [hlast, htake, hlen, false_or]
  by_cases hx : x = 0x0D
  case neg =>
    simp only [hx, ne_eq, not_false_eq_true, if_true]
    constructor
    · rintro ⟨_, ⟨⟩⟩
    · rintro ⟨_, h, -⟩
      exact absurd (by simpa using congrArg List.getLast? h) hx
  subst hx
  simp only [ne_eq, not_true_eq_false, if_false, List.append_cancel_right_eq, exists_eq_left']
  generalize split body 0x20 = tokens
  cases hv : v1Transport (tokens.getD 1 []) with
  | none =>
    have hU : tokens.getD 1 [] ≠ ascii "UNKNOWN" := fun h => by rw [h] at hv; cases hv
    have hT : ¬V1AddressTokens tokens := fun ⟨_, h, _⟩ => by
      rcases h with ⟨h, -⟩ | ⟨h, -⟩ <;> rw [h] at hv <;> cases hv
    split_ifs <;> exact ⟨by rintro ⟨_, ⟨⟩⟩, fun h => (h.elim hU fun h => hT h.2).elim⟩
  | some tp =>
  have h2 : ¬tokens.length < 2 := fun hl => by
    rw [List.getD_eq_getElem?_getD, List.getElem?_eq_none (by omega)] at hv; cases hv
  rw [if_neg h2]
  dsimp only
  by_cases hne : tp = UNSPEC
  · subst hne
    have ht : tokens.getD 1 [] = ascii "UNKNOWN" := by
      rcases v1Transport_eq_some.1 hv with ⟨-, h⟩ | ⟨-, h⟩ | ⟨h, -⟩ <;> first | exact h | cases h
    simp only [not_true_eq_false, false_and, if_false, if_true]
    exact ⟨fun _ => .inl ht, fun _ => ⟨_, rfl⟩⟩
  have hU : tokens.getD 1 [] ≠ ascii "UNKNOWN" := fun h => by
    rw [h] at hv; cases hv; exact hne rfl
  simp only [hne, not_false_eq_true, true_and, if_false, hU, false_or, V1AddressTokens_iff hv hne]
  split_ifs with h6
  · exact ⟨by rintro ⟨_, ⟨⟩⟩, fun h => absurd h.1 (by omega)⟩
  · simp only [exists_bind_eq_ok, Except.ok.injEq, exists_eq', and_true, exists_and_right,
      parseV1IPAddress_isOk, parseV1PortNumber_isOk]
    exact (and_iff_right (by omega)).symm

section Buffered

variable {b : BufReader} {s : Socket}

/-- `ReadByte` on a buffered byte takes it from the buffer. -/
theorem BufReader.readByte_cons {c : UInt8} {cs : Bytes} (hb : b.buf = c :: cs) :
    b.readByte s = (.ok c, { b with buf := cs }, s) := by
  simp [BufReader.readByte, hb]

/-- The line loop over a buffer that holds the rest of the line: the line and its
`\n` when they fit in 107 bytes, and otherwise `ErrVersion1HeaderTooLong` after
107 bytes. -/
theorem readLine_buffered {l rest acc : Bytes} {fuel : Nat} (hl : 0x0A ∉ l)
    (hb : b.buf = l ++ 0x0A :: rest) (hf : acc.length + fuel = 107) (ha : acc.length < 107) :
    readLine fuel acc b s =
      if acc.length + l.length < 107 then (.ok (acc ++ l ++ [0x0A]), { b with buf := rest }, s)
      else (.error .version1HeaderTooLong, { b with buf := b.buf.drop (107 - acc.length) }, s) := by
  obtain ⟨fuel, rfl⟩ : ∃ f, fuel = f + 1 := ⟨fuel - 1, by omega⟩
  induction l generalizing acc fuel b with
  | nil =>
    rw [readLine, BufReader.readByte_cons hb]
    simp [ha]
  | cons c l ih =>
    have hc : c ≠ 0x0A := fun h => hl (h ▸ List.mem_cons_self _ _)
    rw [List.cons_append] at hb
    rw [readLine, BufReader.readByte_cons hb]
    simp only [if_neg hc, List.length_append, List.length_cons, List.length_nil, Nat.zero_add]
    by_cases h107 : acc.length + 1 = 107
    · rw [if_pos h107, if_neg (by omega), hb, show 107 - acc.length = 1 by omega]
      rfl
    · have hbuf : ({ b with buf := l ++ 0x0A :: rest } : BufReader).buffered ≠ 0 := by
        simp [BufReader.buffered]
      obtain ⟨fuel, rfl⟩ : ∃ f, fuel = f + 1 := ⟨fuel - 1, by omega⟩
      have hlen : (acc ++ [c]).length = acc.length + 1 := by simp
      rw [if_neg h107, if_neg hbuf, @ih _ (acc ++ [c]) (fun h => hl (List.mem_cons_of_mem _ h)) rfl
        (by omega) fuel (by omega), hb, show 107 - acc.length = 107 - (acc ++ [c]).length + 1 by omega]
      simp only [List.length_append, List.length_singleton, List.append_assoc, List.singleton_append,
        List.cons_append, List.drop_succ_cons]
      split_ifs <;> first | rfl | omega

/-- On a stream whose buffer already holds `PROXY `, the rest of the first line
and its `\n`, `parseVersion1` takes at most 107 bytes from the buffer and none
from the socket. It succeeds exactly when the line has at most 107 bytes, ends in
`\r\n`, and its tokens name `UNKNOWN`, or number at least six with a TCP
transport, two addresses of its family and two ports in range; it has then taken
exactly the line. -/
theorem parseVersion1_buffered (l rest : Bytes) (hl : 0x0A ∉ l)
    (hb : b.buf = ascii "PROXY " ++ l ++ 0x0A :: rest) :
    (∃ n ≤ 107, (parseVersion1 b s).2 = ({ b with buf := b.buf.drop n }, s)) ∧
    ((∃ h, (parseVersion1 b s).1 = .ok h) ↔
      (ascii "PROXY " ++ l ++ [0x0A]).length ≤ 107 ∧ ∃ body, ascii "PROXY " ++ l = body ++ [0x0D] ∧
        ((split body 0x20).getD 1 [] = ascii "UNKNOWN" ∨
          6 ≤ (split body 0x20).length ∧ V1AddressTokens (split body 0x20))) ∧
    ∀ h, (parseVersion1 b s).1 = .ok h → (parseVersion1 b s).2 = ({ b with buf := rest }, s) := by
  have hl' : 0x0A ∉ ascii "PROXY " ++ l := by
    simp only [List.mem_append, not_or]; exact ⟨by decide, hl⟩
  have hb' : b.buf = (ascii "PROXY " ++ l) ++ 0x0A :: rest := by rw [hb, List.append_assoc]
  unfold parseVersion1
  rw [@readLine_buffered b s _ rest [] 107 hl' hb' rfl (by decide)]
  simp only [List.length_nil, Nat.zero_add, List.nil_append, List.length_append, List.length_singleton]
  split_ifs with hlt
  · refine ⟨⟨(ascii "PROXY " ++ l).length + 1, by simp at hlt ⊢; omega, ?_⟩, ?_, fun _ _ => rfl⟩
    · rw [hb', show ascii "PROXY " ++ l ++ 0x0A :: rest = (ascii "PROXY " ++ l ++ [0x0A]) ++ rest by simp,
        List.drop_left' (by simp; omega)]
    · rw [parseV1Line_isOk]
      exact ⟨fun h => ⟨by simp at hlt ⊢; omega, h⟩, fun h => h.2⟩
  · exact ⟨⟨107, le_rfl, rfl⟩, ⟨by rintro ⟨_, ⟨⟩⟩, fun h => absurd h.1 (by simp at hlt ⊢; omega)⟩, by
      rintro _ ⟨⟩⟩

end Buffered

/-- A buffered line of seven tokens is accepted: the parser asks for at least six. -/
theorem parseVersion1_buffered_seven_tokens :
    0x0A ∉ ascii "TCP4 1.1.1.1 2.2.2.2 1 2 3\r" ∧
    (⟨ascii "PROXY TCP4 1.1.1.1 2.2.2.2 1 2 3\r\n", 4096, none, by decide⟩ : BufReader).buf =
      ascii "PROXY " ++ ascii "TCP4 1.1.1.1 2.2.2.2 1 2 3\r" ++ [0x0A] ∧
    ∃ h, (parseVersion1 ⟨ascii "PROXY TCP4 1.1.1.1 2.2.2.2 1 2 3\r\n", 4096, none, by decide⟩
      ⟨[], 0, 0, false, none, none⟩).1 = .ok h :=
  ⟨by decide, by decide,
    (@parseVersion1_buffered ⟨ascii "PROXY TCP4 1.1.1.1 2.2.2.2 1 2 3\r\n", 4096, none, by decide⟩
      ⟨[], 0, 0, false, none, none⟩ (ascii "TCP4 1.1.1.1 2.2.2.2 1 2 3\r") [] (by decide) (by decide)).2.1.2
      ⟨by decide, ascii "PROXY TCP4 1.1.1.1 2.2.2.2 1 2 3", by decide, .inr ⟨by decide, TCPv4, .inl ⟨rfl, rfl⟩,
        ⟨_, rfl, .inl ⟨rfl, rfl⟩⟩, ⟨_, rfl, .inl ⟨rfl, rfl⟩⟩, ⟨1, rfl, by decide, by decide⟩,
        ⟨2, rfl, by decide, by decide⟩⟩⟩⟩

/-- `Header.formatVersion1`. -/
def formatVersion1 (header : Header) : Except Error Bytes :=
  if header.transportProtocol ≠ TCPv4 ∧ header.transportProtocol ≠ TCPv6 then
    .ok (ascii "PROXY UNKNOWN\r\n")
  else
    match header.sourceAddr, header.destinationAddr with
    | some (.tcp sip sport), some (.tcp dip dport) =>
      let conv := if header.transportProtocol = TCPv4 then IP.to4 else IP.to16
      match conv sip, conv dip with
      | some sourceIP, some destIP =>
        .ok (SIGV1 ++ ascii " " ++
          (if header.transportProtocol = TCPv4 then ascii "TCP4" else ascii "TCP6") ++ ascii " " ++
          sourceIP.string ++ ascii " " ++ destIP.string ++ ascii " " ++ itoa sport ++ ascii " " ++
          itoa dport ++ ascii "\r\n")
      | _, _ => .error .invalidAddress
    | _, _ => .error .invalidAddress

/-- A TCP over IPv6 header between two IPv4 addresses mapped into IPv6. -/
def mappedTCP6Header : Header :=
  ⟨1, PROXY, TCPv6, some (.tcp ⟨IP.v4InV6Prefix ++ [10, 1, 1, 1]⟩ 1000),
    some (.tcp ⟨IP.v4InV6Prefix ++ [10, 1, 1, 2]⟩ 2000), []⟩

/-- The formatter writes the mapped addresses dotted, and the parser, reading
that line from its buffer before anything else, refuses a dotted address under
`TCP6`. -/
theorem parseVersion1_formatVersion1_mapped (rest : Bytes) (s : Socket) :
    formatVersion1 mappedTCP6Header = .ok (ascii "PROXY TCP6 10.1.1.1 10.1.1.2 1000 2000\r\n") ∧
    (parseVersion1 ⟨ascii "PROXY TCP6 10.1.1.1 10.1.1.2 1000 2000\r\n" ++ rest, 4096, none, by decide⟩ s).1 =
      .error .invalidAddress :=
  ⟨rfl, rfl⟩

end ProxyProto
