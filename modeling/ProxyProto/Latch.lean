import ProxyProto.Conn

/-!
# The one-shot header read, and what every later call observes

Whichever of `Read`, `ProxyHeader`, `LocalAddr` and `RemoteAddr` is called first
runs the header read. The connection then settles into an error that every
`Read` returns and a header that `ProxyHeader` returns, and the accessors'
addresses follow from that header. `settledAs` is the table the package
documents for each outcome of the header read (`HeaderOutcome`), and
`settle_eq_settledAs` shows that the code's `settle` computes it.

`Settled` is the state the latch leaves: every call but `Close` observes it and
keeps it (`call_settled`), so a whole run observes it (`run_settled`). `Fresh`
is the state `NewConn` leaves, which deadlines keep; the first call that reads
the header takes it to `Settled` (`call_fresh`).

A header the parsers accept under `PROXY` with a transport byte that resolves
no addresses is kept under `USE` and `REQUIRE`, and then the accessors return
nil in place of the socket's addresses.

## Implementation notes

`Close` drops both readers, after which calls can dereference nil; the runs
here make no `Close` call. The socket's addresses are `Socket.addrs`, which no
read or deadline changes (`BufReader.Keeps`).
-/

namespace ProxyProto
open ProtocolVersionAndCommand

/-! ### What the calls keep -/

section Keeps

variable {A : Option Addr × Option Addr} {b : BufReader} {s : Socket}

theorem Source.read_keeps (k : Nat) (src : Source) (h : BufReader.Keeps A (b, s)) :
    BufReader.Keeps A (src.read k b s).2 ∧ (src.read k b s).1.2.all Error.fromSocket := by
  cases src with
  | bufReader => exact BufReader.read_keeps k h
  | conn =>
    refine ⟨⟨by simp [Source.read, h.1], h.2⟩, ?_⟩
    cases he : (s.read k).1.2 with
    | none => simp [Source.read, he]
    | some e => simp [Source.read, he, (Socket.read_error he).1]

theorem multiRead_keeps (k : Nat) : ∀ (rs : List Source) {b : BufReader} {s : Socket},
    BufReader.Keeps A (b, s) →
      BufReader.Keeps A (multiRead k rs b s).2.2 ∧ (multiRead k rs b s).1.2.all Error.fromSocket
  | [], _, _, h => ⟨h, rfl⟩
  | src :: rest, b, s, h => by
    obtain ⟨hk, he⟩ := Source.read_keeps k src h
    simp only [multiRead]
    split_ifs <;> first | exact ⟨hk, rfl⟩ | exact multiRead_keeps k rest hk | exact ⟨hk, he⟩

@[simp] theorem Socket.copy_addrs (fuel : Nat) (s : Socket) : (s.copy fuel).2.2.addrs = s.addrs := by
  induction fuel generalizing s with
  | zero => rfl
  | succ fuel ih =>
    unfold Socket.copy; split <;> rename_i h <;> have := Socket.read_addrs 32768 s <;> rw [h] at this
    · exact this
    · exact (ih _).trans this

@[simp] theorem Conn.installDeadline_addrs (c : Conn) : c.installDeadline.2.addrs = c.conn.addrs := by
  unfold Conn.installDeadline; split <;> simp

@[simp] theorem Conn.installDeadline_pending (c : Conn) : c.installDeadline.2.pending = c.conn.pending := by
  unfold Conn.installDeadline; split <;> simp

end Keeps

/-! ### What the header read found, and what the package documents for it -/

/-- What the header read found: a header, no header, or an error. -/
inductive HeaderOutcome where
  | parsed (h : Header)
  | noHeader
  | failed (e : Error)

/-- The outcome a result of `Read` is: `ErrNoProxyProtocol`, and a timeout while
the header deadline is installed, mean that there is no header. -/
def HeaderOutcome.ofRead (deadline : Bool) : Except Error Header → HeaderOutcome
  | .ok h => .parsed h
  | .error e => if e = .noProxyProtocol ∨ (deadline ∧ e = .timeout) then .noHeader else .failed e

/-- How many bytes of the stream `d` the header read takes for an outcome: the
header's for a header, none for no header; an error may stop anywhere. -/
def HeaderOutcome.consumed (d : Bytes) : HeaderOutcome → Option Nat
  | .parsed _ => some (headerLength d)
  | .noHeader => some 0
  | .failed _ => none

/-- A header read that found a header or none took exactly the header's bytes
off the stream. -/
theorem read_consumed {b b' : BufReader} {s s' : Socket} {r : Except Error Header}
    (hr : ProxyProto.read b s = (r, b', s')) (deadline : Bool) {n : Nat}
    (hn : (HeaderOutcome.ofRead deadline r).consumed (b.data s) = some n) : b'.data s' = (b.data s).drop n := by
  cases r with
  | ok h => cases hn; exact (read_ok hr).1
  | error e =>
    simp only [HeaderOutcome.ofRead] at hn
    split_ifs at hn with hno
    · cases hn; exact (read_error_data hr (hno.imp_right (·.2))).trans (List.drop_zero _).symm
    · cases hn

/-- What the header read of `c` finds: the error installing its deadline, or
the outcome of `Read` through the buffered reader; `none` when there is no
reader. -/
def Conn.headerOutcome (c : Conn) : Option HeaderOutcome :=
  match c.installDeadline, c.bufReader with
  | (some e, _), _ => some (.failed e)
  | (none, _), none => none
  | (none, s), some br => some (.ofRead (0 < c.readHeaderTimeout) (ProxyProto.read br s).1)

/-- The state the package documents for each outcome: the error every `Read`
returns, and the header `ProxyHeader` returns. Under `USE` and `REQUIRE` a header
is kept when there is no validator or the validator accepts it, and its error is
returned otherwise; `REJECT` refuses a header; the other policies drop it. No
header is an error only under `REQUIRE`. -/
def settledAs (policy : Policy) (validate : Option Validator) : HeaderOutcome → Option Error × Option Header
  | .parsed h =>
    if policy = .USE ∨ policy = .REQUIRE then
      match validate with
      | none => (none, some h)
      | some v =>
        match v h with
        | none => (none, some h)
        | some e => (some e, none)
    else if policy = .REJECT then (some .superfluousProxyHeader, none)
    else (none, none)
  | .noHeader => (if policy = .REQUIRE then some .noProxyProtocol else none, none)
  | .failed e => (some e, none)

/-- A kept header comes with no error. -/
theorem settledAs_kept (policy : Policy) (validate : Option Validator) (o : HeaderOutcome) :
    (settledAs policy validate o).2.isSome → (settledAs policy validate o).1 = none := by
  cases o with
  | parsed h =>
    simp only [settledAs]
    split_ifs
    · cases validate with
      | none => simp
      | some v => cases hv : v h <;> simp [hv]
    all_goals simp
  | noHeader | failed _ => simp [settledAs]

/-- The code's `settle` computes the documented table, on a connection that has
no header yet. -/
theorem settle_eq_settledAs (c : Conn) (hh : c.header = none) (r : Except Error Header) :
    c.settle r =
      ((settledAs c.proxyHeaderPolicy c.validate (.ofRead (0 < c.readHeaderTimeout) r)).1,
        { c with header := (settledAs c.proxyHeaderPolicy c.validate (.ofRead (0 < c.readHeaderTimeout) r)).2 }) := by
  obtain ⟨rd, once, re, conn, br, rr, hdr, pol, val, t⟩ := c
  subst hh
  cases r with
  | ok h =>
    cases pol <;> cases val <;> simp [Conn.settle, settledAs, HeaderOutcome.ofRead]
    all_goals next v => cases hv : v h <;> simp [hv]
  | error e =>
    by_cases hno : e = .noProxyProtocol ∨ (0 < t ∧ e = .timeout)
    · have ho : HeaderOutcome.ofRead (0 < t) (.error e) = .noHeader := if_pos (by simpa using hno)
      have herr : (if 0 < t ∧ e.isTimeout then some Error.noProxyProtocol else some e) =
          some .noProxyProtocol := by
        rcases hno with rfl | ⟨ht, rfl⟩ <;> simp [Error.isTimeout, *]
      rw [ho]; cases pol <;> simp [Conn.settle, herr, settledAs]
    · have ho : HeaderOutcome.ofRead (0 < t) (.error e) = .failed e := if_neg (by simpa using hno)
      have herr : (if 0 < t ∧ e.isTimeout then some Error.noProxyProtocol else some e) = some e := by
        rw [if_neg]; rintro ⟨ht, hto⟩; exact hno (.inr ⟨ht, by cases e <;> simp_all [Error.isTimeout]⟩)
      have hne : e ≠ .noProxyProtocol := fun h => hno (.inl h)
      rw [ho]; cases pol <;> simp [Conn.settle, herr, settledAs, hne]

/-! ### What every call observes once the latch has run -/

/-- The address an accessor returns from a settled header: the header's, unless
there is none or it is `LOCAL`, and the socket's otherwise. -/
def headerAddr (hdr : Option Header) (sock : Option Addr) (pick : Header → Option Addr) : Option Addr :=
  match hdr with
  | some h => if h.command = LOCAL then sock else pick h
  | none => sock

/-- What a call returns on a connection settled into `st`, over a socket whose
addresses are `A`: `Read` fails with the settled error, or reads the stream and
reports only the socket's errors; `ProxyHeader` returns the settled header; the
accessors return its addresses. -/
def Observes (st : Option Error × Option Header) (A : Option Addr × Option Addr) : Call → Reply → Prop
  | .read _, r =>
    match st.1 with
    | some e => r = .read [] (some e)
    | none => ∃ out e, r = .read out e ∧ e.all Error.fromSocket
  | .proxyHeader, r => r = .header st.2
  | .localAddr, r => r = .addr (headerAddr st.2 A.1 (·.destinationAddr))
  | .remoteAddr, r => r = .addr (headerAddr st.2 A.2 (·.sourceAddr))
  | .setDeadline _, r | .setReadDeadline _, r | .close, r => ∃ e, r = .done e
  | .writeTo, r => ∃ out e, r = .copied out e

/-- A connection whose latch has run and settled into `st`, over a socket whose
addresses are `A`. -/
structure Settled (st : Option Error × Option Header) (A : Option Addr × Option Addr) (c : Conn) : Prop where
  once : c.once = true
  readErr : c.readErr = st.1
  header : c.header = st.2
  kept : st.2.isSome → st.1 = none
  reader : c.reader ≠ .nil
  bufReader : ∃ b, c.bufReader = some b ∧ BufReader.Keeps A (b, c.conn)

section Settled

variable {st : Option Error × Option Header} {A : Option Addr × Option Addr} {c : Conn}

theorem Settled.addrs (hc : Settled st A c) : c.conn.addrs = A := by
  obtain ⟨b, -, hk⟩ := hc.bufReader; exact hk.1

/-- The accessors' choice between the socket's and the header's address. -/
theorem Settled.accessor (hc : Settled st A c) (sock : Option Addr) (pick : Header → Option Addr) :
    (if c.socketAddrs then sock else c.header.bind pick) = headerAddr st.2 sock pick := by
  unfold Conn.socketAddrs headerAddr
  rw [hc.header, hc.readErr]
  cases hh : st.2 with
  | none => simp
  | some h =>
    rw [hc.kept (by simp [hh])]
    by_cases hl : h.command = LOCAL <;> simp [hl, ProtocolVersionAndCommand.isLocal]

/-- After the latch, `Read` returns the settled error or reads the stream. -/
theorem forward_settled (hc : Settled st A c) (k : Nat) :
    ∃ r c', c.forward k = .ok (r, c') ∧ Observes st A (.read k) r ∧ Settled st A c' := by
  obtain ⟨b, hb, hk⟩ := hc.bufReader
  unfold Conn.forward
  split
  · next e he => exact ⟨_, _, rfl, by simp [Observes, ← hc.readErr, he], hc⟩
  · next he _ =>
    refine ⟨_, _, rfl, ?_, hc.once, hc.readErr, hc.header, hc.kept, hc.reader,
      b, hb, by simpa [BufReader.Keeps] using hk⟩
    simp only [Observes, ← hc.readErr, he]
    refine ⟨_, _, rfl, ?_⟩
    cases h : (c.conn.read k).1.2 with
    | none => rfl
    | some e => simp [(Socket.read_error h).1]
  · next rs b' he _ hb' =>
    rw [hb, Option.some.injEq] at hb'
    subst hb'
    obtain ⟨hk', he'⟩ := multiRead_keeps k rs hk
    refine ⟨_, _, rfl, ?_, hc.once, hc.readErr, hc.header, hc.kept, nofun, _, rfl, hk'⟩
    simp only [Observes, ← hc.readErr, he]
    exact ⟨_, _, rfl, he'⟩
  · next he hr hbr =>
    exfalso
    cases hr' : c.reader with
    | nil => exact hc.reader hr'
    | conn => exact hr hr'
    | multi rs => exact hbr rs b hr' hb

/-- Every call but `Close` on a settled connection observes the settled state,
and keeps it. -/
theorem call_settled (hc : Settled st A c) {x : Call} (hx : x ≠ .close) :
    ∃ r c', c.call x = .ok (r, c') ∧ Observes st A x r ∧ Settled st A c' := by
  have hon : c.headerOnce = .ok c := by simp [Conn.headerOnce, hc.once]
  have ha := hc.addrs
  obtain ⟨b, hb, hk⟩ := hc.bufReader
  have hkeep : ∀ s : Socket, s.addrs = c.conn.addrs → BufReader.Keeps A (b, s) :=
    fun s hs => ⟨hs.trans hk.1, hk.2⟩
  cases x with
  | read k =>
    have : c.read k = c.forward k := by simp [Conn.read, Conn.readOnce, hc.once]
    rw [Conn.call, this]; exact forward_settled hc k
  | proxyHeader => exact ⟨_, _, by rw [Conn.call, hon]; rfl, by simp [Observes, hc.header], hc⟩
  | localAddr =>
    refine ⟨_, _, by rw [Conn.call, hon]; rfl, ?_, hc⟩
    simp only [Observes, hc.accessor]; rw [← ha]; rfl
  | remoteAddr =>
    refine ⟨_, _, by rw [Conn.call, hon]; rfl, ?_, hc⟩
    simp only [Observes, hc.accessor]; rw [← ha]; rfl
  | setDeadline t | setReadDeadline t =>
    exact ⟨_, _, rfl, ⟨_, rfl⟩, hc.once, hc.readErr, hc.header, hc.kept, hc.reader, b, hb, hkeep _ (by simp)⟩
  | close => exact absurd rfl hx
  | writeTo =>
    exact ⟨_, _, rfl, ⟨_, _, rfl⟩, hc.once, hc.readErr, hc.header, hc.kept, hc.reader, b, hb,
      hkeep _ (by simp)⟩

/-- A run of calls without `Close` on a settled connection: every call observes
the settled state. -/
theorem run_settled (hc : Settled st A c) (post : List Call) (hpost : ∀ x ∈ post, x ≠ .close) :
    ∃ rs c', c.run post = .ok (rs, c') ∧ List.Forall₂ (Observes st A) post rs ∧ Settled st A c' := by
  induction post generalizing c with
  | nil => exact ⟨[], c, rfl, .nil, hc⟩
  | cons x post ih =>
    obtain ⟨r, c1, h1, ho, hc1⟩ := call_settled hc (hpost x (.head _))
    obtain ⟨rs, c2, h2, hos, hc2⟩ := ih hc1 fun y hy => hpost y (.tail _ hy)
    exact ⟨r :: rs, c2, by simp [Conn.run, h1, h2], .cons ho hos, hc2⟩

end Settled

/-! ### The latch -/

/-- A connection whose latch has not run, as `NewConn` leaves it up to
deadlines: no header, the multireader over both readers, and an empty buffered
reader over the socket. -/
structure Fresh (A : Option Addr × Option Addr) (c : Conn) : Prop where
  once : c.once = false
  header : c.header = none
  reader : c.reader = .multi [.bufReader, .conn]
  bufReader : ∃ b, c.bufReader = some b ∧ b.buf = [] ∧ BufReader.Keeps A (b, c.conn)

section Fresh

variable {A : Option Addr × Option Addr} {c : Conn}

/-- What the header read does to a fresh connection: it settles into the
documented state of what it found, keeps the reader's frame, and takes exactly
the header's bytes off the stream when it found a header or none. -/
theorem readHeader_fresh (hc : Fresh A c) :
    ∃ o b' s', c.headerOutcome = some o ∧
      c.readHeader = .ok ((settledAs c.proxyHeaderPolicy c.validate o).1,
        { c with conn := s', bufReader := some b', header := (settledAs c.proxyHeaderPolicy c.validate o).2 }) ∧
      BufReader.Keeps A (b', s') ∧
      ∀ n, o.consumed c.conn.pending = some n → b'.data s' = c.conn.pending.drop n := by
  obtain ⟨b, hb, hbuf, hk⟩ := hc.bufReader
  have hia := c.installDeadline_addrs
  have hip := c.installDeadline_pending
  unfold Conn.readHeader Conn.headerOutcome
  rw [hb]
  rcases hi : c.installDeadline with ⟨_ | e, s1⟩ <;> rw [hi] at hia hip
  · have hk2 : BufReader.Keeps A (ProxyProto.read b s1).2 := read_keeps ⟨hia.trans hk.1, hk.2⟩
    have hd : b.data s1 = c.conn.pending := by simp [BufReader.data, hbuf, ← hip]
    rcases hr : ProxyProto.read b s1 with ⟨r, b2, s2⟩
    rw [hr] at hk2
    simp only [hr]
    generalize hs3 : (if 0 < c.readHeaderTimeout then (s2.setReadDeadline c.readDeadline).2 else s2) = s3
    have hs3' : s3.addrs = s2.addrs ∧ b2.data s3 = b2.data s2 := by subst hs3; split <;> simp [BufReader.data]
    refine ⟨_, b2, s3, rfl, congrArg Except.ok (settle_eq_settledAs { c with conn := s3, bufReader := some b2 }
      hc.header r), ⟨hs3'.1.trans hk2.1, hk2.2⟩, fun n hn => ?_⟩
    rw [← hd] at hn ⊢
    exact hs3'.2.trans (read_consumed hr _ hn)
  · refine ⟨_, b, _, rfl, ?_, ⟨hia.trans hk.1, hk.2⟩, fun n hn => by cases hn⟩
    rw [show (settledAs c.proxyHeaderPolicy c.validate (.failed e)).2 = c.header from hc.header.symm]; rfl

/-- The header read settles a fresh connection into the documented state of
what it found, with the rest of the stream behind the buffered reader. -/
theorem headerOnce_fresh (hc : Fresh A c) :
    ∃ o c', c.headerOutcome = some o ∧ c.headerOnce = .ok c' ∧
      Settled (settledAs c.proxyHeaderPolicy c.validate o) A c' ∧ c'.reader = c.reader ∧
      ∀ n, o.consumed c.conn.pending = some n →
        ∃ b, c'.bufReader = some b ∧ b.data c'.conn = c.conn.pending.drop n := by
  obtain ⟨o, b', s', ho, hr, hk, hd⟩ := readHeader_fresh hc
  rw [Conn.headerOnce, if_neg (by simp [hc.once]), hr]
  exact ⟨o, _, ho, rfl, ⟨rfl, rfl, rfl, settledAs_kept _ _ _, by rw [hc.reader]; exact nofun, b', rfl, hk⟩, rfl,
    fun n hn => ⟨b', rfl, hd n hn⟩⟩

/-- The calls that run the header read. -/
def Call.readsHeader : Call → Bool
  | .read _ | .proxyHeader | .localAddr | .remoteAddr => true
  | _ => false

/-- The first call that reads the header settles a fresh connection, and
observes the state it settled into. -/
theorem call_fresh (hc : Fresh A c) {x : Call} (hx : x.readsHeader) :
    ∃ o r c', c.headerOutcome = some o ∧ c.call x = .ok (r, c') ∧
      Observes (settledAs c.proxyHeaderPolicy c.validate o) A x r ∧
      Settled (settledAs c.proxyHeaderPolicy c.validate o) A c' := by
  obtain ⟨o, c1, ho, h1, hs1, -⟩ := headerOnce_fresh hc
  by_cases hrd : ∃ k, x = .read k
  · obtain ⟨k, rfl⟩ := hrd
    obtain ⟨c2, hro, hs2⟩ : ∃ c2, c.readOnce = .ok c2 ∧
        Settled (settledAs c.proxyHeaderPolicy c.validate o) A c2 := by
      simp only [Conn.readOnce, hc.once, h1, Bool.false_eq_true, if_false]
      split_ifs
      · exact ⟨_, rfl, hs1.once, hs1.readErr, hs1.header, hs1.kept, nofun, hs1.bufReader⟩
      · exact ⟨_, rfl, hs1⟩
    obtain ⟨r, c', hf, hob, hs'⟩ := forward_settled hs2 k
    exact ⟨o, r, c', ho, by rw [Conn.call, Conn.read, hro]; exact hf, hob, hs'⟩
  · obtain ⟨r, c', hcall, hob, hs'⟩ := call_settled hs1 (show x ≠ .close by rintro rfl; cases hx)
    refine ⟨o, r, c', ho, ?_, hob, hs'⟩
    have hon1 : c1.headerOnce = .ok c1 := by simp [Conn.headerOnce, hs1.once]
    rw [← hcall]
    cases x with
    | read k => exact (hrd ⟨k, rfl⟩).elim
    | proxyHeader | localAddr | remoteAddr => simp only [Conn.call, h1, hon1]
    | _ => cases hx


/-- The calls that only set a deadline. -/
def Call.setsDeadline : Call → Bool
  | .setDeadline _ | .setReadDeadline _ => true
  | _ => false

/-- `NewConn`'s options set the policy, the validator and the timeout, and nothing else. -/
theorem foldl_apply_frame (opts : List ConnOption) (c : Conn) :
    (opts.foldl ConnOption.apply c).once = c.once ∧ (opts.foldl ConnOption.apply c).header = c.header ∧
    (opts.foldl ConnOption.apply c).reader = c.reader ∧
    (opts.foldl ConnOption.apply c).bufReader = c.bufReader ∧ (opts.foldl ConnOption.apply c).conn = c.conn := by
  induction opts generalizing c with
  | nil => exact ⟨rfl, rfl, rfl, rfl, rfl⟩
  | cons o opts ih =>
    rw [List.foldl_cons]
    refine (ih _).imp (·.trans ?_) (.imp (·.trans ?_) (.imp (·.trans ?_) (.imp (·.trans ?_) (·.trans ?_)))) <;>
      cases o <;> simp only [ConnOption.apply] <;> (try split) <;> rfl

theorem fresh_newConn (size : Nat) (s : Socket) (opts : List ConnOption) : Fresh s.addrs (newConn size s opts) := by
  obtain ⟨h1, h2, h3, h4, h5⟩ := foldl_apply_frame opts
    ⟨0, false, none, s, some (BufReader.newReaderSize size), .multi [.bufReader, .conn], none, .USE, none, 0⟩
  exact ⟨h1, h2, h3, _, h4, rfl, by unfold newConn; rw [h5]; exact ⟨rfl, rfl⟩⟩

/-- Setting deadlines leaves a connection fresh, with its options and the
stream its socket holds. -/
theorem run_setsDeadline (hc : Fresh A c) {pre : List Call} (hpre : ∀ x ∈ pre, x.setsDeadline)
    {rs : List Reply} {c' : Conn} (h : c.run pre = .ok (rs, c')) :
    Fresh A c' ∧ c'.proxyHeaderPolicy = c.proxyHeaderPolicy ∧ c'.validate = c.validate ∧
      c'.readHeaderTimeout = c.readHeaderTimeout ∧ c'.conn.pending = c.conn.pending := by
  induction pre generalizing c rs with
  | nil => cases h; exact ⟨hc, rfl, rfl, rfl, rfl⟩
  | cons x pre ih =>
    obtain ⟨b, hb, hbuf, hk⟩ := hc.bufReader
    have hx := hpre x (.head _)
    obtain ⟨t, rfl | rfl⟩ : ∃ t, x = .setDeadline t ∨ x = .setReadDeadline t := by
      cases x with
      | setDeadline t => exact ⟨t, .inl rfl⟩
      | setReadDeadline t => exact ⟨t, .inr rfl⟩
      | _ => cases hx
    all_goals
      simp only [Conn.run, Conn.call] at h
      split at h
      · cases h
      next rs' c1 h1 =>
        obtain ⟨-, rfl⟩ := Prod.mk.inj (Except.ok.inj h)
        have hf1 : Fresh A { c with readDeadline := t, conn := (c.conn.setReadDeadline t).2 } :=
          ⟨hc.once, hc.header, hc.reader, b, hb, hbuf, ⟨by simp [hk.1], hk.2⟩⟩
        obtain ⟨hf, h2, h3, h4, h5⟩ := ih hf1 (fun y hy => hpre y (.tail _ hy)) h1
        refine ⟨hf, h2, h3, h4, h5.trans ?_⟩
        unfold Socket.setReadDeadline; split <;> rfl

/-- A run from a fresh connection: the first call that reads the header settles
it, and every call up to a `Close` observes the state documented for what the
header read found. -/
theorem run_fresh (hc : Fresh A c) {t : Call} (ht : t.readsHeader) (post : List Call)
    (hpost : ∀ x ∈ post, x ≠ .close) :
    ∃ o rs c', c.headerOutcome = some o ∧ c.run (t :: post) = .ok (rs, c') ∧
      List.Forall₂ (Observes (settledAs c.proxyHeaderPolicy c.validate o) A) (t :: post) rs ∧
      Settled (settledAs c.proxyHeaderPolicy c.validate o) A c' := by
  obtain ⟨o, r, c1, ho, h1, hob, hs1⟩ := call_fresh hc ht
  obtain ⟨rs, c', h2, hobs, hs'⟩ := run_settled hs1 post hpost
  exact ⟨o, r :: rs, c', ho, by simp [Conn.run, h1, h2], .cons hob hobs, hs'⟩

end Fresh

/-- The connection `NewConn` builds with a policy, a validator and a header
timeout, after some deadlines: fresh, with those options. -/
theorem newConn_run_setsDeadline (size : Nat) (s : Socket) (P : Policy) (V : Option Validator) (T : Int)
    {pre : List Call} (hpre : ∀ x ∈ pre, x.setsDeadline) {rs0 : List Reply} {c : Conn}
    (hc : (newConn size s [.withPolicy P, .validateHeader V, .setReadHeaderTimeout T]).run pre = .ok (rs0, c)) :
    Fresh s.addrs c ∧ c.proxyHeaderPolicy = P ∧ c.validate = V ∧
      c.conn.pending = s.pending := by
  obtain ⟨hf, hP, hV, -, hpend⟩ := run_setsDeadline (fresh_newConn size s _) hpre hc
  refine ⟨hf, ?_, ?_, ?_⟩ <;> [rw [hP]; rw [hV]; rw [hpend]] <;>
    cases V <;> simp only [newConn, ConnOption.apply, List.foldl, Option.isSome_some, Option.isSome_none,
      if_true, Bool.false_eq_true, if_false] <;> split_ifs <;> rfl

/-- Whichever of `Read`, `ProxyHeader`, `LocalAddr` and `RemoteAddr` comes
first, after any deadlines, the header read runs once, and every call up to a
`Close` observes the state documented for what it found. -/
theorem header_read_settles (size : Nat) (s : Socket) (P : Policy) (V : Option Validator) (T : Int)
    {pre : List Call} (hpre : ∀ x ∈ pre, x.setsDeadline) {rs0 : List Reply} {c : Conn}
    (hc : (newConn size s [.withPolicy P, .validateHeader V, .setReadHeaderTimeout T]).run pre = .ok (rs0, c))
    {t : Call} (ht : t.readsHeader) {post : List Call} (hpost : ∀ x ∈ post, x ≠ .close) :
    ∃ o rs c', c.headerOutcome = some o ∧ c.run (t :: post) = .ok (rs, c') ∧
      List.Forall₂ (Observes (settledAs P V o) s.addrs) (t :: post) rs := by
  obtain ⟨hf, rfl, rfl, -⟩ := newConn_run_setsDeadline size s P V T hpre hc
  obtain ⟨o, rs, c', ho, hr, hobs, -⟩ := run_fresh hf ht post hpost
  exact ⟨o, rs, c', ho, hr, hobs⟩

theorem header_read_settles_unknown :
    (∀ x ∈ ([] : List Call), x.setsDeadline) ∧
    (newConn 4096 unknownHeaderSocket [.withPolicy .USE, .validateHeader none, .setReadHeaderTimeout 0]).run [] =
      .ok ([], newConn 4096 unknownHeaderSocket [.withPolicy .USE, .validateHeader none, .setReadHeaderTimeout 0]) ∧
    (Call.read 4).readsHeader ∧ (∀ x ∈ [Call.proxyHeader, .remoteAddr, .read 4], x ≠ .close) ∧
    ∃ o rs c',
      (newConn 4096 unknownHeaderSocket [.withPolicy .USE, .validateHeader none, .setReadHeaderTimeout 0]).headerOutcome =
        some o ∧
      (newConn 4096 unknownHeaderSocket [.withPolicy .USE, .validateHeader none, .setReadHeaderTimeout 0]).run
        [.read 4, .proxyHeader, .remoteAddr, .read 4] = .ok (rs, c') ∧
      List.Forall₂ (Observes (settledAs .USE none o) unknownHeaderSocket.addrs)
        [.read 4, .proxyHeader, .remoteAddr, .read 4] rs :=
  have hpre : ∀ x ∈ ([] : List Call), x.setsDeadline := by simp
  have ht : (Call.read 4).readsHeader := rfl
  have hpost : ∀ x ∈ [Call.proxyHeader, .remoteAddr, .read 4], x ≠ .close := by decide
  ⟨hpre, rfl, ht, hpost, header_read_settles 4096 unknownHeaderSocket .USE none 0 hpre rfl ht hpost⟩

/-! ### The deadline the header read leaves -/

/-- The deadline a call sets through the connection, if it sets one. -/
def Call.deadline : Call → Option Nat
  | .setDeadline t | .setReadDeadline t => some t
  | _ => none

/-- The last deadline the calls set through the connection, `d` if none. -/
def lastDeadline (d : Nat) (pre : List Call) : Nat :=
  pre.foldl (fun d x => x.deadline.getD d) d

theorem Source.read_control (k : Nat) (src : Source) (b : BufReader) (s : Socket) :
    (src.read k b s).2.2.control = s.control := by
  cases src <;> simp [Source.read, BufReader.read_control]

theorem multiRead_control (k : Nat) : ∀ (rs : List Source) (b : BufReader) (s : Socket),
    (multiRead k rs b s).2.2.2.control = s.control
  | [], _, _ => rfl
  | src :: rest, b, s => by
    have hk := Source.read_control k src b s
    simp only [multiRead]
    split_ifs <;> first | exact hk | exact (multiRead_control k rest _ _).trans hk

/-- The rest of `Read` only reads from the socket. -/
theorem Conn.forward_control {c c' : Conn} {k : Nat} {r : Reply} (h : c.forward k = .ok (r, c')) :
    c'.conn.control = c.conn.control := by
  unfold Conn.forward at h
  split at h
  · cases h; rfl
  · cases h; exact Socket.read_control k c.conn
  · cases h; exact multiRead_control k _ _ _
  · cases h

theorem Conn.settle_conn (c : Conn) (r : Except Error Header) : (c.settle r).2.conn = c.conn := by
  unfold Conn.settle
  dsimp only
  split_ifs
  · rfl
  · rfl
  · rcases r with e | h
    · rfl
    · dsimp only; split <;> (try split) <;> rfl

/-- The deadline the header read leaves on the socket: the one stored in the
connection when it installed its own on an open socket, and the socket's own
otherwise. -/
theorem Conn.readHeader_deadline {c : Conn} {err : Option Error} {c' : Conn}
    (h : c.readHeader = .ok (err, c')) :
    c'.conn.closed = c.conn.closed ∧
    c'.conn.readDeadline = if 0 < c.readHeaderTimeout ∧ c.conn.closed = false then c.readDeadline
      else c.conn.readDeadline := by
  unfold Conn.readHeader at h
  rcases hi : c.installDeadline with ⟨_ | e, s1⟩ <;> rw [hi] at h
  · rcases hbr : c.bufReader with _ | b <;> rw [hbr] at h
    · cases h
    rcases hr : ProxyProto.read b s1 with ⟨r, b2, s2⟩
    have hc2 : s2.control = s1.control := by simpa [hr] using @read_control b s1
    have hcl := congrArg Socket.closed hc2
    have hdl := congrArg Socket.readDeadline hc2
    simp only [Socket.control_closed, Socket.control_readDeadline] at hcl hdl
    simp only [hr] at h
    have hc' := congrArg (fun p => p.2.conn) (Except.ok.inj h)
    simp only [Conn.settle_conn] at hc'
    rw [← hc']
    unfold Conn.installDeadline at hi
    split_ifs at hi with hT
    · unfold Socket.setReadDeadline at hi
      split_ifs at hi with hc
      · cases hi
      obtain ⟨-, rfl⟩ := Prod.mk.inj hi
      simp [hT, hc, hcl, Socket.setReadDeadline_readDeadline]
    · obtain ⟨-, rfl⟩ := Prod.mk.inj hi
      simp [hT, hcl, hdl]
  · dsimp only at h
    have hc' := congrArg (fun p => p.2.conn) (Except.ok.inj h)
    dsimp only at hc'
    rw [← hc']
    unfold Conn.installDeadline at hi
    split_ifs at hi with hT
    · unfold Socket.setReadDeadline at hi
      split_ifs at hi with hc
      · obtain ⟨-, rfl⟩ := Prod.mk.inj hi
        simp [hT, hc]
      · cases hi
    · cases hi

/-- A call that runs the header read leaves the socket as the header read did. -/
theorem Conn.call_control {c c2 c' : Conn} {err : Option Error} {r : Reply} {t : Call}
    (hon : c.once = false) (hh : c.readHeader = .ok (err, c2)) (ht : t.readsHeader)
    (hc : c.call t = .ok (r, c')) : c'.conn.control = c2.conn.control := by
  have h1 : c.headerOnce = .ok { c2 with once := true, readErr := err } := by
    simp [Conn.headerOnce, hon, hh]
  cases t with
  | read k =>
    simp only [Conn.call, Conn.read, Conn.readOnce, hon, h1, Bool.false_eq_true, if_false] at hc
    split_ifs at hc <;> dsimp only at hc <;> have := Conn.forward_control hc <;> exact this
  | proxyHeader | localAddr | remoteAddr =>
    simp only [Conn.call, h1, Except.map] at hc
    cases hc; rfl
  | _ => cases ht

/-- Deadlines set through a connection: the connection stores the last, and the
socket takes it unless it is closed. -/
theorem run_setsDeadline_deadline (c : Conn) {pre : List Call} (hpre : ∀ x ∈ pre, x.setsDeadline) :
    ∃ rs c', c.run pre = .ok (rs, c') ∧ c'.readDeadline = lastDeadline c.readDeadline pre ∧
      c'.conn.closed = c.conn.closed ∧
      c'.conn.readDeadline = if c.conn.closed then c.conn.readDeadline else lastDeadline c.conn.readDeadline pre := by
  induction pre generalizing c with
  | nil => exact ⟨[], c, rfl, rfl, rfl, by split <;> rfl⟩
  | cons x pre ih =>
    obtain ⟨t, hx, hd⟩ : ∃ t, c.call x = .ok (.done (c.conn.setReadDeadline t).1,
        { c with readDeadline := t, conn := (c.conn.setReadDeadline t).2 }) ∧ x.deadline = some t := by
      have := hpre x (.head _)
      cases x with
      | setDeadline t | setReadDeadline t => exact ⟨t, rfl, rfl⟩
      | _ => cases this
    obtain ⟨rs, c', hr, h1, h2, h3⟩ := ih { c with readDeadline := t, conn := (c.conn.setReadDeadline t).2 }
      fun y hy => hpre y (.tail _ hy)
    have hlast : ∀ d, lastDeadline d (x :: pre) = lastDeadline t pre := fun d => by
      simp [lastDeadline, hd]
    refine ⟨.done (c.conn.setReadDeadline t).1 :: rs, c', by simp [Conn.run, hx, hr], by rw [h1, hlast],
      by rw [h2]; simp, ?_⟩
    rw [h3, hlast]
    simp only [Socket.setReadDeadline_closed, Socket.setReadDeadline_readDeadline]
    split_ifs <;> rfl

/-- After deadlines set through a connection, the call that runs the header read
leaves on the socket, when the header timeout is positive, the last of those
deadlines (the zero time if none), or on a closed socket the deadline it had;
and when the timeout is not positive, the deadline it found. -/
theorem header_read_restores_deadline {A : Option Addr × Option Addr} {c : Conn} (hc : Fresh A c)
    (h0 : c.readDeadline = 0) {pre : List Call} (hpre : ∀ x ∈ pre, x.setsDeadline) {t : Call}
    (ht : t.readsHeader) :
    ∃ rs c1 r c', c.run pre = .ok (rs, c1) ∧ c1.call t = .ok (r, c') ∧
      (0 < c.readHeaderTimeout →
        c'.conn.readDeadline = if c.conn.closed then c.conn.readDeadline else lastDeadline 0 pre) ∧
      (c.readHeaderTimeout ≤ 0 → c'.conn.readDeadline = c1.conn.readDeadline) := by
  obtain ⟨rs, c1, hr, hd1, hcl1, hdl1⟩ := run_setsDeadline_deadline c hpre
  obtain ⟨hf1, -, -, hT, -⟩ := run_setsDeadline hc hpre hr
  obtain ⟨o, b', s', -, hh, -⟩ := readHeader_fresh hf1
  obtain ⟨-, r, c', -, hcall, -⟩ := call_fresh hf1 ht
  obtain ⟨hcl2, hdl2⟩ := Conn.readHeader_deadline hh
  have hdl : c'.conn.readDeadline = s'.readDeadline := by
    simpa using congrArg Socket.readDeadline (Conn.call_control hf1.once hh ht hcall)
  refine ⟨rs, c1, r, c', hr, hcall, fun hpos => ?_, fun hneg => ?_⟩
  · rw [hdl, hdl2, hT, hd1, h0, hcl1, hdl1]
    cases c.conn.closed <;> simp [hpos]
  · rw [hdl, hdl2, hT, if_neg (by omega)]

/-- `NewConn` with a header timeout, one `SetReadDeadline`, then `Read`. -/
theorem header_read_restores_deadline_unknown :
    Fresh unknownHeaderSocket.addrs (newConn 4096 unknownHeaderSocket [.setReadHeaderTimeout 5]) ∧
    (newConn 4096 unknownHeaderSocket [.setReadHeaderTimeout 5]).readDeadline = 0 ∧
    (∀ x ∈ [Call.setReadDeadline 7], x.setsDeadline) ∧ (Call.read 4).readsHeader ∧
    ∃ rs c1 r c', (newConn 4096 unknownHeaderSocket [.setReadHeaderTimeout 5]).run [.setReadDeadline 7] =
        .ok (rs, c1) ∧ c1.call (.read 4) = .ok (r, c') ∧
      (0 < (newConn 4096 unknownHeaderSocket [.setReadHeaderTimeout 5]).readHeaderTimeout →
        c'.conn.readDeadline = if (newConn 4096 unknownHeaderSocket [.setReadHeaderTimeout 5]).conn.closed
          then (newConn 4096 unknownHeaderSocket [.setReadHeaderTimeout 5]).conn.readDeadline
          else lastDeadline 0 [.setReadDeadline 7]) ∧
      ((newConn 4096 unknownHeaderSocket [.setReadHeaderTimeout 5]).readHeaderTimeout ≤ 0 →
        c'.conn.readDeadline = c1.conn.readDeadline) :=
  have hf := fresh_newConn 4096 unknownHeaderSocket [.setReadHeaderTimeout 5]
  have hpre : ∀ x ∈ [Call.setReadDeadline 7], x.setsDeadline := by decide
  ⟨hf, rfl, hpre, rfl, header_read_restores_deadline hf rfl hpre rfl⟩

/-! ### The addresses the accessors return -/

/-- The header a connection settles on is the one the header read parsed. -/
theorem settledAs_header {P : Policy} {V : Option Validator} {o : HeaderOutcome} {h : Header}
    (hh : (settledAs P V o).2 = some h) : o = .parsed h := by
  cases o with
  | parsed h' =>
    simp only [settledAs] at hh
    split_ifs at hh
    · cases V with
      | none => cases hh; rfl
      | some v => cases hv : v h' <;> simp [hv] at hh; cases hh; rfl
  | noHeader | failed _ => simp [settledAs] at hh

/-- A parsed outcome is a header `Read` returned. -/
theorem Conn.headerOutcome_parsed {c : Conn} {h : Header} (ho : c.headerOutcome = some (.parsed h)) :
    ∃ b s b' s', ProxyProto.read b s = (.ok h, b', s') := by
  unfold Conn.headerOutcome at ho
  split at ho
  · cases ho
  · cases ho
  · next s1 br _ _ =>
    rcases hr : ProxyProto.read br s1 with ⟨r, b', s'⟩
    rw [hr] at ho
    cases r with
    | ok h' => cases ho; exact ⟨_, _, _, _, hr⟩
    | error e => simp only [HeaderOutcome.ofRead, Option.some.injEq] at ho; split_ifs at ho

/-- An accessor returns nil on a socket that has both addresses only from a kept
header that is not `LOCAL` and lacks the address. -/
theorem Observes.addr_none {st : Option Error × Option Header} {A : Option Addr × Option Addr} {x : Call}
    (hob : Observes st A x (.addr none)) (hA : A.1.isSome ∧ A.2.isSome) :
    ∃ h, st.2 = some h ∧ h.command ≠ LOCAL ∧ (h.destinationAddr = none ∨ h.sourceAddr = none) := by
  cases x <;> simp only [Observes, Reply.addr.injEq, reduceCtorEq, exists_const, false_and,
    exists_false] at hob
  case read => split at hob <;> exact hob.elim
  all_goals
    unfold headerAddr at hob
    split at hob
    · next h hh =>
      split_ifs at hob with hl
      · simp [← hob] at hA
      · first | exact ⟨h, hh, hl, .inl hob.symm⟩ | exact ⟨h, hh, hl, .inr hob.symm⟩
    · simp [← hob] at hA

theorem forall₂_mem_right {α β : Type} {R : α → β → Prop} :
    ∀ {l₁ : List α} {l₂ : List β}, List.Forall₂ R l₁ l₂ → ∀ {b : β}, b ∈ l₂ → ∃ a ∈ l₁, R a b
  | _, _, .nil, _, hb => absurd hb (List.not_mem_nil _)
  | _, _, .cons hab h, _, hb => by
    rcases List.mem_cons.mp hb with rfl | hb
    · exact ⟨_, .head _, hab⟩
    · obtain ⟨a, ha, h'⟩ := forall₂_mem_right h hb
      exact ⟨a, .tail _ ha, h'⟩

/-- The `0x13` stream, on a socket with both addresses. -/
def unlistedTransportConnSocket : Socket :=
  { unlistedTransportSocket with
    localAddr := some (.tcp ⟨[10, 0, 0, 1]⟩ 443), remoteAddr := some (.tcp ⟨[10, 0, 0, 2]⟩ 51000) }

/-- Under the default policy the `PROXY` header with transport byte `0x13` is
kept, and both accessors return its nil addresses in place of the socket's. -/
theorem accessors_nil_unlisted_transport :
    unlistedTransportConnSocket.localAddr.isSome ∧ unlistedTransportConnSocket.remoteAddr.isSome ∧
    ((newConn 4096 unlistedTransportConnSocket []).run [.remoteAddr, .localAddr]).map Prod.fst =
      .ok [.addr none, .addr none] :=
  ⟨rfl, rfl, rfl⟩

/-- On a socket that has both addresses, an accessor returns nil only when the
header read kept a `PROXY` header whose transport resolves no addresses; and a
`PROXY` header the header read accepts carries both addresses exactly when its
transport resolves them, each of the kind the transport names. -/
theorem accessors_non_nil (size : Nat) (s : Socket) (P : Policy) (V : Option Validator) (T : Int)
    {pre : List Call} (hpre : ∀ x ∈ pre, x.setsDeadline) {rs0 : List Reply} {c : Conn}
    (hc : (newConn size s [.withPolicy P, .validateHeader V, .setReadHeaderTimeout T]).run pre = .ok (rs0, c))
    {t : Call} (ht : t.readsHeader) {post : List Call} (hpost : ∀ x ∈ post, x ≠ .close)
    (hA : s.localAddr.isSome ∧ s.remoteAddr.isSome) :
    ∃ o rs c', c.headerOutcome = some o ∧ c.run (t :: post) = .ok (rs, c') ∧
      (Reply.addr none ∈ rs → ∃ h, (settledAs P V o).2 = some h ∧ h.command = PROXY ∧
        h.transportProtocol.resolves = false) ∧
      ∀ h, o = .parsed h → h.command = PROXY →
        (h.transportProtocol.resolves ↔ h.sourceAddr.isSome ∧ h.destinationAddr.isSome) ∧
        h.sourceAddr.all h.transportProtocol.names ∧ h.destinationAddr.all h.transportProtocol.names := by
  obtain ⟨hf, rfl, rfl, -⟩ := newConn_run_setsDeadline size s P V T hpre hc
  obtain ⟨o, rs, c', ho, hr, hobs, -⟩ := run_fresh hf ht post hpost
  have hread : ∀ h, o = .parsed h → ∃ b s b' s', read b s = (.ok h, b', s') := by
    rintro h rfl; exact Conn.headerOutcome_parsed ho
  refine ⟨o, rs, c', ho, hr, fun hmem => ?_, fun h hoh hpx => ?_⟩
  · obtain ⟨x, -, hob⟩ := forall₂_mem_right hobs hmem
    obtain ⟨h, hh, hl, hnone⟩ := hob.addr_none hA
    obtain ⟨b, s1, b', s', hrd⟩ := hread h (settledAs_header hh)
    have hpx : h.command = PROXY := (read_ok_command hrd).resolve_left hl
    have hiff := (read_ok_proxy hrd hpx).1
    refine ⟨h, hh, hpx, ?_⟩
    rcases hnone with hn | hn <;> simpa [hn] using hiff
  · obtain ⟨b, s1, b', s', hrd⟩ := hread h hoh
    exact read_ok_proxy hrd hpx

theorem accessors_non_nil_unlisted :
    (∀ x ∈ ([] : List Call), x.setsDeadline) ∧
    (newConn 4096 unlistedTransportConnSocket [.withPolicy .USE, .validateHeader none, .setReadHeaderTimeout 0]).run [] =
      .ok ([], newConn 4096 unlistedTransportConnSocket [.withPolicy .USE, .validateHeader none, .setReadHeaderTimeout 0]) ∧
    Call.remoteAddr.readsHeader ∧ (∀ x ∈ [Call.localAddr], x ≠ .close) ∧
    (unlistedTransportConnSocket.localAddr.isSome ∧ unlistedTransportConnSocket.remoteAddr.isSome) ∧
    ∃ o rs c',
      (newConn 4096 unlistedTransportConnSocket [.withPolicy .USE, .validateHeader none, .setReadHeaderTimeout 0]).headerOutcome =
        some o ∧
      (newConn 4096 unlistedTransportConnSocket [.withPolicy .USE, .validateHeader none, .setReadHeaderTimeout 0]).run
        [.remoteAddr, .localAddr] = .ok (rs, c') ∧
      (Reply.addr none ∈ rs → ∃ h, (settledAs .USE none o).2 = some h ∧ h.command = PROXY ∧
        h.transportProtocol.resolves = false) ∧
      ∀ h, o = .parsed h → h.command = PROXY →
        (h.transportProtocol.resolves ↔ h.sourceAddr.isSome ∧ h.destinationAddr.isSome) ∧
        h.sourceAddr.all h.transportProtocol.names ∧ h.destinationAddr.all h.transportProtocol.names :=
  have hpre : ∀ x ∈ ([] : List Call), x.setsDeadline := by simp
  have ht : Call.remoteAddr.readsHeader := rfl
  have hpost : ∀ x ∈ [Call.localAddr], x ≠ .close := by decide
  ⟨hpre, rfl, ht, hpost, ⟨rfl, rfl⟩,
    accessors_non_nil 4096 unlistedTransportConnSocket .USE none 0 hpre rfl ht hpost ⟨rfl, rfl⟩⟩

end ProxyProto
