import ProxyProto.Latch

/-!
# What `Read` hands out

When the header read ends without an error, `Read` hands out the stream with
exactly the header's bytes taken off its front, or all of it when there was no
header: every byte once and in order, whether it comes through the multireader
over the buffered reader or straight from the socket after the swap, and
`io.EOF` only once all of it has been handed out.

The bytes still to come are the connection's view (`Conn.view`). Every call
hands out a prefix of the view and leaves the rest as the new view
(`call_streaming`), so a run hands out the view it started from
(`run_streaming`); the header read leaves as view the stream after the header
(`call_fresh_streaming`).

## Implementation notes

The multireader drops its readers from the front, so it holds a suffix of
`[br, conn]`. The buffered reader reads the socket the reader after it reads,
so the view is what the first reader still holds. `WriteTo` copies from the
socket behind the buffered reader and `Close` drops the readers; the runs here
make neither call.
-/

namespace ProxyProto

/-- The bytes a reply hands out of the stream: those `Read` returned. -/
def Reply.bytes : Reply → Bytes
  | .read out _ => out
  | _ => []

/-- The bytes still to come through the readers the multireader holds: the
first reader's, since the buffered reader reads the socket behind it. -/
def multiView : List Source → BufReader → Socket → Bytes
  | .bufReader :: _, b, s => b.data s
  | .conn :: _, _, s => s.pending
  | [], _, _ => []

/-- The bytes still to come through `p.reader`. -/
def Conn.view (c : Conn) : Bytes :=
  match c.reader, c.bufReader with
  | .conn, _ => c.conn.pending
  | .multi rs, some b => multiView rs b c.conn
  | _, _ => []

/-- The view depends on the socket only through the bytes it has yet to deliver. -/
theorem Conn.view_congr {c c' : Conn} (hr : c'.reader = c.reader) (hb : c'.bufReader = c.bufReader)
    (hp : c'.conn.pending = c.conn.pending) : c'.view = c.view := by
  unfold Conn.view; rw [hr, hb]
  cases c.reader with
  | conn => exact hp
  | nil => rfl
  | multi rs =>
    cases c.bufReader with
    | none => rfl
    | some b =>
      cases rs with
      | nil => rfl
      | cons src _ => cases src <;> simp [multiView, BufReader.data, hp]

/-- Replies `rs` hand out `d` and leave `v` to come: what they returned, then
`v`, is `d`, and after an `io.EOF` nothing is left. -/
def Delivers (rs : List Reply) (v d : Bytes) : Prop :=
  (rs.map Reply.bytes).flatten ++ v = d ∧ ((∃ out, Reply.read out (some .eof) ∈ rs) → v = [])

theorem Delivers.nil (v : Bytes) : Delivers [] v v := ⟨rfl, fun ⟨_, h⟩ => nomatch h⟩

/-- One stretch of replies after another hands out what the first started from. -/
theorem Delivers.append {rs₁ rs₂ : List Reply} {d v₁ v₂ : Bytes} (h₁ : Delivers rs₁ v₁ d)
    (h₂ : Delivers rs₂ v₂ v₁) : Delivers (rs₁ ++ rs₂) v₂ d := by
  refine ⟨by rw [List.map_append, List.flatten_append, List.append_assoc, h₂.1, h₁.1], ?_⟩
  rintro ⟨out, hout⟩
  rcases List.mem_append.1 hout with h | h
  · have h₂' := h₂.1
    rw [h₁.2 ⟨out, h⟩, List.append_eq_nil] at h₂'
    exact h₂'.2
  · exact h₂.2 ⟨out, h⟩

/-- A reply that hands out nothing leaves the view as it was. -/
theorem Delivers.quiet {r : Reply} {v v' : Bytes} (hr : r.bytes = []) (he : ∀ out, r ≠ .read out (some .eof))
    (hv : v' = v) : Delivers [r] v' v :=
  ⟨by simp [hr, hv], fun ⟨out, h⟩ => absurd (List.mem_singleton.1 h).symm (he out)⟩

/-! ### The readers of the multireader -/

/-- A failed read of the buffered reader hands out nothing and leaves nothing buffered. -/
theorem BufReader.read_error_buf {k : Nat} {b : BufReader} {s : Socket} {e : Error}
    (h : (b.read k s).1.2 = some e) : (b.read k s).1.1 = [] ∧ (b.read k s).2.1.buf = [] := by
  unfold BufReader.read at h ⊢
  split
  · split <;> simp_all
  · split <;> (try split) <;> (try split) <;> simp_all

/-- What one reader hands out, followed by what it still holds, is what it held. -/
theorem Source.read_view (k : Nat) (b : BufReader) (s : Socket) (src : Source) (rest : List Source) :
    (src.read k b s).1.1 ++ multiView (src :: rest) (src.read k b s).2.1 (src.read k b s).2.2 =
      multiView (src :: rest) b s := by
  cases src with
  | bufReader => exact BufReader.read_data k b s
  | conn => exact Socket.read_pending k s

/-- A reader at its end hands out nothing, and leaves the rest of the stream to
the reader after it. -/
theorem Source.read_eof {k : Nat} {b : BufReader} {s : Socket} {src : Source} {rest : List Source}
    (hrs : src :: rest <:+ [.bufReader, .conn]) (h : (src.read k b s).1.2 = some .eof) :
    (src.read k b s).1.1 = [] ∧
      multiView (src :: rest) (src.read k b s).2.1 (src.read k b s).2.2 =
        multiView rest (src.read k b s).2.1 (src.read k b s).2.2 := by
  obtain ⟨rfl, rfl⟩ | ⟨rfl, rfl⟩ : (src = .bufReader ∧ rest = [.conn]) ∨ (src = .conn ∧ rest = []) := by
    simpa [List.suffix_cons_iff] using hrs
  all_goals simp only [Source.read] at h ⊢
  · have he := BufReader.read_error_buf h
    exact ⟨he.1, by simp [multiView, Source.read, BufReader.data, he.2]⟩
  · obtain ⟨hout, hp⟩ := (Socket.read_error h).2 rfl
    have hd := Socket.read_pending k s
    rw [hout, hp, List.nil_append] at hd
    exact ⟨hout, hd⟩

/-- The multireader holds a suffix of the readers it held, and passes on
`io.EOF` only when it holds none. -/
theorem multiRead_readers (k : Nat) : ∀ (rs : List Source) (b : BufReader) (s : Socket),
    (multiRead k rs b s).2.1 <:+ rs ∧ ((multiRead k rs b s).1.2 = some .eof → (multiRead k rs b s).2.1 = [])
  | [], _, _ => ⟨List.suffix_refl _, fun _ => rfl⟩
  | src :: rest, b, s => by
    rcases hr : src.read k b s with ⟨r, b', s'⟩
    simp only [multiRead, hr]
    split_ifs with he hl hrest
    · exact ⟨List.suffix_cons _ _, fun _ => hrest⟩
    · exact ⟨List.suffix_cons _ _, nofun⟩
    · exact (multiRead_readers k rest b' s').imp_left (·.trans (List.suffix_cons _ _))
    · exact ⟨List.suffix_refl _, fun h => absurd h he⟩

/-- What the multireader hands out, followed by what its readers still hold, is
what they held. -/
theorem multiRead_view (k : Nat) : ∀ {rs : List Source} (b : BufReader) (s : Socket),
    rs <:+ [.bufReader, .conn] →
      (multiRead k rs b s).1.1 ++
          multiView (multiRead k rs b s).2.1 (multiRead k rs b s).2.2.1 (multiRead k rs b s).2.2.2 =
        multiView rs b s
  | [], _, _, _ => rfl
  | src :: rest, b, s, hrs => by
    have hv := Source.read_view k b s src rest
    have he := @Source.read_eof k b s src rest hrs
    rcases hr : src.read k b s with ⟨r, b', s'⟩
    rw [hr] at hv he
    dsimp only at hv he
    simp only [multiRead, hr]
    by_cases hre : r.2 = some .eof
    · obtain ⟨hout, hrest⟩ := he hre
      rw [if_pos hre, if_neg (by simp [hout]), multiRead_view k b' s' ((List.suffix_cons _ _).trans hrs),
        ← hv, hout, hrest]; rfl
    · rw [if_neg hre]; exact hv

/-! ### Reading the stream once the latch has run -/

/-- A connection whose latch has run without storing an error, reading through
the socket or through the multireader over a suffix of its two readers. -/
structure Streaming (c : Conn) : Prop where
  once : c.once = true
  readErr : c.readErr = none
  reader : c.reader = .conn ∨ ∃ rs b, c.reader = .multi rs ∧ rs <:+ [.bufReader, .conn] ∧ c.bufReader = some b

section Streaming

variable {c : Conn}

/-- After the latch, `Read` hands out a prefix of the view. -/
theorem forward_streaming (hc : Streaming c) (k : Nat) :
    ∃ r c', c.forward k = .ok (r, c') ∧ Streaming c' ∧ Delivers [r] c'.view c.view := by
  unfold Conn.forward
  split
  · next e he => cases hc.readErr.symm.trans he
  · next hr =>
    refine ⟨_, _, rfl, ⟨hc.once, hc.readErr, .inl hr⟩, ?_, ?_⟩
    · simpa [Reply.bytes, Conn.view, hr] using Socket.read_pending k c.conn
    · rintro ⟨out, h⟩
      obtain ⟨-, he⟩ := Reply.read.inj (List.mem_singleton.1 h)
      have hd := Socket.read_pending k c.conn
      rw [((Socket.read_error he.symm).2 rfl).2, List.append_eq_nil] at hd
      simpa [Conn.view, hr] using hd.2
  · next rs b _ hr hb =>
    have hrs : rs <:+ [.bufReader, .conn] := by
      rcases hc.reader with h | ⟨rs', b', h, hrs', -⟩
      · cases hr.symm.trans h
      · cases hr.symm.trans h; exact hrs'
    have hv := multiRead_view k b c.conn hrs
    obtain ⟨hsuf, heof⟩ := multiRead_readers k rs b c.conn
    rcases hm : multiRead k rs b c.conn with ⟨r, rs', b', s'⟩
    rw [hm] at hv hsuf heof
    dsimp only at hv hsuf heof
    refine ⟨_, _, rfl, ⟨hc.once, hc.readErr, .inr ⟨rs', b', rfl, hsuf.trans hrs, rfl⟩⟩, ?_, ?_⟩
    · simpa [Reply.bytes, Conn.view, hr, hb] using hv
    · rintro ⟨out, h⟩
      obtain ⟨-, he⟩ := Reply.read.inj (List.mem_singleton.1 h)
      simp [Conn.view, heof he.symm, multiView]
  · next hr hbr =>
    exfalso
    rcases hc.reader with h | ⟨rs, b, h, -, hb⟩
    · exact hr h
    · exact hbr rs b h hb

/-- Every call but `Close` and `WriteTo` keeps a connection streaming, and hands
out a prefix of its view. -/
theorem call_streaming (hc : Streaming c) {x : Call} (hx : x ≠ .close ∧ x ≠ .writeTo) :
    ∃ r c', c.call x = .ok (r, c') ∧ Streaming c' ∧ Delivers [r] c'.view c.view := by
  have hon : c.headerOnce = .ok c := by simp [Conn.headerOnce, hc.once]
  cases x with
  | read k =>
    have : c.read k = c.forward k := by simp [Conn.read, Conn.readOnce, hc.once]
    rw [Conn.call, this]; exact forward_streaming hc k
  | proxyHeader | localAddr | remoteAddr =>
    refine ⟨_, _, by rw [Conn.call, hon]; rfl, hc, ?_⟩
    exact .quiet rfl nofun rfl
  | setDeadline t | setReadDeadline t =>
    exact ⟨_, _, rfl, ⟨hc.once, hc.readErr, hc.reader⟩, .quiet rfl nofun (Conn.view_congr rfl rfl (by simp))⟩
  | close => exact absurd rfl hx.1
  | writeTo => exact absurd rfl hx.2

/-- A run without `Close` and `WriteTo` hands out the view it started from, in order. -/
theorem run_streaming (hc : Streaming c) (xs : List Call) (hxs : ∀ x ∈ xs, x ≠ .close ∧ x ≠ .writeTo) :
    ∃ rs c', c.run xs = .ok (rs, c') ∧ Streaming c' ∧ Delivers rs c'.view c.view := by
  induction xs generalizing c with
  | nil => exact ⟨[], c, rfl, hc, .nil _⟩
  | cons x xs ih =>
    obtain ⟨r, c₁, h₁, hs₁, hd₁⟩ := call_streaming hc (hxs x (.head _))
    obtain ⟨rs, c₂, h₂, hs₂, hd₂⟩ := ih hs₁ fun y hy => hxs y (.tail _ hy)
    exact ⟨r :: rs, c₂, by simp [Conn.run, h₁, h₂], hs₂, hd₁.append hd₂⟩

end Streaming

/-! ### The header read -/

/-- The header read ends without an error only when it found a header or none,
and then it took a known number of bytes. -/
theorem settledAs_consumed {P : Policy} {V : Option Validator} {o : HeaderOutcome}
    (h : (settledAs P V o).1 = none) (d : Bytes) : ∃ n, o.consumed d = some n := by
  cases o with
  | parsed _ | noHeader => exact ⟨_, rfl⟩
  | failed e => cases h

/-- The first call that reads the header, when the header read ends without an
error, leaves the connection streaming what the header left of the stream. -/
theorem call_fresh_streaming {A : Option Addr × Option Addr} {c : Conn} (hc : Fresh A c) {x : Call}
    (hx : x.readsHeader) {o : HeaderOutcome} (ho : c.headerOutcome = some o)
    (herr : (settledAs c.proxyHeaderPolicy c.validate o).1 = none) :
    ∃ n r c', o.consumed c.conn.pending = some n ∧ c.call x = .ok (r, c') ∧ Streaming c' ∧
      Delivers [r] c'.view (c.conn.pending.drop n) := by
  obtain ⟨o', c₁, ho', h₁, hs₁, hr₁, hd₁⟩ := headerOnce_fresh hc
  obtain rfl : o' = o := Option.some.inj (ho'.symm.trans ho)
  obtain ⟨n, hn⟩ := settledAs_consumed herr c.conn.pending
  obtain ⟨b, hb, hd⟩ := hd₁ n hn
  have hr : c₁.reader = .multi [.bufReader, .conn] := hr₁.trans hc.reader
  have hs : Streaming c₁ := ⟨hs₁.once, hs₁.readErr.trans herr, .inr ⟨_, b, hr, List.suffix_refl _, hb⟩⟩
  have hv : c₁.view = c.conn.pending.drop n := by simp [Conn.view, hr, hb, multiView, hd]
  cases x with
  | read k =>
    obtain ⟨c₂, hro, hs₂, hv₂⟩ : ∃ c₂, c.readOnce = .ok c₂ ∧ Streaming c₂ ∧ c₂.view = c₁.view := by
      simp only [Conn.readOnce, hc.once, h₁, Bool.false_eq_true, if_false]
      split_ifs with hsw
      · have hbuf : b.buf = [] := by simpa [hb, BufReader.buffered] using hsw.2
        exact ⟨_, rfl, ⟨hs.once, hs.readErr, .inl rfl⟩,
          by simp [Conn.view, hr, hb, multiView, BufReader.data, hbuf]⟩
      · exact ⟨_, rfl, hs, rfl⟩
    obtain ⟨r, c', hf, hs', hd'⟩ := forward_streaming hs₂ k
    exact ⟨n, r, c', hn, by rw [Conn.call, Conn.read, hro]; exact hf, hs', by rwa [← hv, ← hv₂]⟩
  | proxyHeader | localAddr | remoteAddr =>
    refine ⟨n, _, c₁, hn, by rw [Conn.call, h₁]; rfl, hs, ?_⟩
    exact .quiet rfl nofun hv
  | _ => cases hx

/-- Whichever call reads the header first, after any deadlines, when the header
read ends without an error the later `Read`s hand out the stream with exactly
the header's bytes taken off its front, or all of it when there was no header:
what they returned is at every call a prefix of it, and all of it once `Read`
has returned `io.EOF`. -/
theorem reads_deliver_stream (size : Nat) (s : Socket) (P : Policy) (V : Option Validator) (T : Int)
    {pre : List Call} (hpre : ∀ x ∈ pre, x.setsDeadline) {rs0 : List Reply} {c : Conn}
    (hc : (newConn size s [.withPolicy P, .validateHeader V, .setReadHeaderTimeout T]).run pre = .ok (rs0, c))
    {t : Call} (ht : t.readsHeader) {post : List Call} (hpost : ∀ x ∈ post, x ≠ .close ∧ x ≠ .writeTo) :
    ∃ o rs c', c.headerOutcome = some o ∧ c.run (t :: post) = .ok (rs, c') ∧
      ((settledAs P V o).1 = none →
        ∃ n, o.consumed s.pending = some n ∧
          (rs.map Reply.bytes).flatten ++ c'.view = s.pending.drop n ∧
          ((∃ out, Reply.read out (some .eof) ∈ rs) → (rs.map Reply.bytes).flatten = s.pending.drop n)) := by
  obtain ⟨hf, rfl, rfl, hpend⟩ := newConn_run_setsDeadline size s P V T hpre hc
  obtain ⟨o, rs, c', ho, hr, -⟩ := run_fresh hf ht post fun x hx => (hpost x hx).1
  by_cases herr : (settledAs c.proxyHeaderPolicy c.validate o).1 = none
  · obtain ⟨n, r, c₁, hn, h₁, hs₁, hd₁⟩ := call_fresh_streaming hf ht ho herr
    obtain ⟨rs', c₂, h₂, -, hd₂⟩ := run_streaming hs₁ post hpost
    obtain ⟨hd, heof⟩ := hd₁.append hd₂
    rw [hpend] at hn hd
    refine ⟨o, r :: rs', c₂, ho, by simp [Conn.run, h₁, h₂], fun _ => ⟨n, hn, hd, fun he => ?_⟩⟩
    rw [← hd, heof he, List.append_nil]; rfl
  · exact ⟨o, rs, c', ho, hr, fun h => absurd h herr⟩

theorem reads_deliver_stream_unknown :
    (∀ x ∈ ([] : List Call), x.setsDeadline) ∧
    (newConn 4096 unknownHeaderSocket [.withPolicy .USE, .validateHeader none, .setReadHeaderTimeout 0]).run [] =
      .ok ([], newConn 4096 unknownHeaderSocket [.withPolicy .USE, .validateHeader none, .setReadHeaderTimeout 0]) ∧
    (Call.proxyHeader).readsHeader ∧ (∀ x ∈ [Call.read 2, .read 4, .read 4], x ≠ .close ∧ x ≠ .writeTo) ∧
    ∃ o rs c',
      (newConn 4096 unknownHeaderSocket [.withPolicy .USE, .validateHeader none, .setReadHeaderTimeout 0]).headerOutcome =
        some o ∧
      (newConn 4096 unknownHeaderSocket [.withPolicy .USE, .validateHeader none, .setReadHeaderTimeout 0]).run
        [.proxyHeader, .read 2, .read 4, .read 4] = .ok (rs, c') ∧
      ((settledAs .USE none o).1 = none →
        ∃ n, o.consumed unknownHeaderSocket.pending = some n ∧
          (rs.map Reply.bytes).flatten ++ c'.view = unknownHeaderSocket.pending.drop n ∧
          ((∃ out, Reply.read out (some .eof) ∈ rs) →
            (rs.map Reply.bytes).flatten = unknownHeaderSocket.pending.drop n)) :=
  have hpre : ∀ x ∈ ([] : List Call), x.setsDeadline := by simp
  have ht : (Call.proxyHeader).readsHeader := rfl
  have hpost : ∀ x ∈ [Call.read 2, .read 4, .read 4], x ≠ .close ∧ x ≠ .writeTo := by decide
  ⟨hpre, rfl, ht, hpost, reads_deliver_stream 4096 unknownHeaderSocket .USE none 0 hpre rfl ht hpost⟩

end ProxyProto
