import ProxyProto.Latch

/-!
# The listener

`Listener.Accept` takes connections from the wrapped listener until it has one
to return. It asks the policy function, if one is set, for each connection: a
connection the policy cannot decide for is closed, and the call goes on after
an `ErrInvalidUpstream` and returns any other error. A `SKIP` connection is
returned as it is, and any other is wrapped in a `Conn` with the decided
policy, the listener's validator and its header timeout. `Listener.accept` is
one call over the outcomes of the wrapped listener's `Accept`, and
`accept_consumes` says what a call takes and what it does with each
connection.

## Implementation notes

The wrapped listener is the list of what its successive `Accept` calls return.
`InitConn` only sets socket options and is left out. A call that has consumed
every outcome without returning waits for the next connection; it ends as
`waiting`. A policy error is a value of the package, of a caller, or an error
that wraps another, which `errors.Is` unwraps.
-/

namespace ProxyProto

/-- The error a policy function returns: an error value, or an error wrapping
another (`fmt.Errorf` with `%w`). -/
inductive PolicyError where
  | error (e : Error)
  | wrapping (msg : Nat) (inner : PolicyError)
  deriving DecidableEq, Repr

/-- `errors.Is(err, ErrInvalidUpstream)`. -/
def PolicyError.isInvalidUpstream : PolicyError → Bool
  | .error e => e == .invalidUpstream
  | .wrapping _ inner => inner.isInvalidUpstream

/-- `Listener`: the policy functions, the validator and the header timeout. -/
structure Listener where
  /-- `Policy`, given the upstream address -/
  policy : Option (Option Addr → Except PolicyError Policy)
  /-- `ConnPolicy`, given the upstream and the downstream address -/
  connPolicy : Option (Option Addr → Option Addr → Except PolicyError Policy)
  validateHeader : Option Validator
  readHeaderTimeout : Int

/-- How one call of `Listener.Accept` ends. -/
inductive Accepted where
  /-- returns the connection unwrapped, for `SKIP` -/
  | raw (conn : Socket)
  /-- returns a `Conn` wrapping the connection -/
  | wrapped (conn : Conn)
  /-- returns the policy's error, the connection closed -/
  | policyError (err : PolicyError)
  /-- returns the wrapped listener's error -/
  | acceptError (err : Error)
  /-- panics: both `Policy` and `ConnPolicy` are set -/
  | bothPolicies
  /-- waits for a connection the outcomes do not hold -/
  | waiting

namespace Listener

/-- The policy's decision for a connection, `none` when no policy function is set. -/
def decidePolicy (l : Listener) (conn : Socket) : Option (Except PolicyError Policy) :=
  match l.policy, l.connPolicy with
  | some f, _ => some (f conn.remoteAddr)
  | none, some g => some (g conn.remoteAddr conn.localAddr)
  | none, none => none

/-- The listener's policy function returns `r` for the connection: `Policy`,
given the upstream address, when it is set, and otherwise `ConnPolicy`, given
the upstream and the downstream address. -/
def Decides (l : Listener) (conn : Socket) (r : Except PolicyError Policy) : Prop :=
  (∃ f, l.policy = some f ∧ f conn.remoteAddr = r) ∨
    (l.policy = none ∧ ∃ g, l.connPolicy = some g ∧ g conn.remoteAddr conn.localAddr = r)

theorem decidePolicy_eq_some {l : Listener} {conn : Socket} {r : Except PolicyError Policy} :
    l.decidePolicy conn = some r ↔ l.Decides conn r := by
  unfold decidePolicy Decides
  rcases l.policy with _ | f <;> rcases l.connPolicy with _ | g <;>
    simp only [Option.some.injEq, reduceCtorEq, false_and, exists_false, exists_eq_left', true_and, false_or,
      or_false]

theorem decidePolicy_eq_none {l : Listener} {conn : Socket} :
    l.decidePolicy conn = none ↔ l.policy = none ∧ l.connPolicy = none := by
  rcases hp : l.policy with _ | f <;> rcases hc : l.connPolicy with _ | g <;> simp [decidePolicy, hp, hc]

/-- `Accept`, with a pooled reader of `size` bytes, over the outcomes of the
wrapped listener's `Accept`: how it ends, the connections it closed as `Close`
left them, and the outcomes it left. -/
def accept (l : Listener) (size : Nat) :
    List (Except Error Socket) → Accepted × List Socket × List (Except Error Socket)
  | [] => (.waiting, [], [])
  | .error e :: rest => (.acceptError e, [], rest)
  | .ok conn :: rest =>
    if l.policy.isSome ∧ l.connPolicy.isSome then (.bothPolicies, [], rest)
    else
      match l.decidePolicy conn with
      | some (.error e) =>
        if e.isInvalidUpstream then
          let r := l.accept size rest
          (r.1, conn.close.2 :: r.2.1, r.2.2)
        else (.policyError e, [conn.close.2], rest)
      | some (.ok p) =>
        if p = .SKIP then (.raw conn, [], rest)
        else (.wrapped (acceptConn size conn p l.validateHeader l.readHeaderTimeout), [], rest)
      | none => (.wrapped (acceptConn size conn .USE l.validateHeader l.readHeaderTimeout), [], rest)

/-- What a call does with the connection it ends on: returns it unwrapped for
`SKIP`; wraps it in a fresh `Conn` with the decided policy (`USE` without a
policy function), the listener's validator and its header timeout (the default
for zero); or closes it and returns a policy error other than `ErrInvalidUpstream`.
`closedLast` is what it closed of it. -/
def Handles (l : Listener) (size : Nat) (conn : Socket) (o : Accepted) (closedLast : List Socket) : Prop :=
  (l.Decides conn (.ok .SKIP) ∧ o = .raw conn ∧ closedLast = []) ∨
  (∃ p c, (l.Decides conn (.ok p) ∧ p ≠ .SKIP ∨ l.policy = none ∧ l.connPolicy = none ∧ p = .USE) ∧
    o = .wrapped c ∧ c = acceptConn size conn p l.validateHeader l.readHeaderTimeout ∧
    Fresh conn.addrs c ∧ c.conn = conn ∧ c.proxyHeaderPolicy = p ∧
    c.validate = l.validateHeader ∧
    c.readHeaderTimeout = (if l.readHeaderTimeout = 0 then DefaultReadHeaderTimeout else l.readHeaderTimeout) ∧
    closedLast = []) ∨
  (∃ e, l.Decides conn (.error e) ∧ e.isInvalidUpstream = false ∧ o = .policyError e ∧
    closedLast = [conn.close.2])

/-- The `Conn` the listener builds is fresh, over the connection, with the
policy, the validator and the header timeout it was given (the default for zero). -/
theorem acceptConn_fields (size : Nat) (conn : Socket) (p : Policy) (v : Option Validator) (T : Int) :
    Fresh conn.addrs (acceptConn size conn p v T) ∧ (acceptConn size conn p v T).conn = conn ∧
    (acceptConn size conn p v T).proxyHeaderPolicy = p ∧ (acceptConn size conn p v T).validate = v ∧
    (acceptConn size conn p v T).readHeaderTimeout =
      (if T = 0 then DefaultReadHeaderTimeout else T) := by
  have hf := fresh_newConn size conn [.withPolicy p, .validateHeader v]
  refine ⟨⟨hf.once, hf.header, hf.reader, hf.bufReader⟩, ?_, ?_, ?_, rfl⟩ <;>
    cases v <;> simp [acceptConn, newConn, ConnOption.apply]

/-- One call of `Accept` on a listener with at most one policy function: it
consumes connections rejected with `ErrInvalidUpstream`, closing each, and
then waits, returns the wrapped listener's error, or handles the connection
it ends on; it leaves the outcomes after that. -/
theorem accept_consumes (l : Listener) (size : Nat) (hl : ¬(l.policy.isSome ∧ l.connPolicy.isSome))
    (outs : List (Except Error Socket)) :
    ∃ rejected : List Socket,
      (∀ c ∈ rejected, ∃ e, l.Decides c (.error e) ∧ e.isInvalidUpstream) ∧
      ((outs = rejected.map .ok ∧ l.accept size outs = (.waiting, rejected.map (·.close.2), [])) ∨
       (∃ e rest, outs = rejected.map .ok ++ .error e :: rest ∧
          l.accept size outs = (.acceptError e, rejected.map (·.close.2), rest)) ∨
       (∃ conn rest o closedLast, outs = rejected.map .ok ++ .ok conn :: rest ∧
          Handles l size conn o closedLast ∧
          l.accept size outs = (o, rejected.map (·.close.2) ++ closedLast, rest))) := by
  have hwrap : ∀ conn p,
      (l.Decides conn (.ok p) ∧ p ≠ .SKIP ∨ l.policy = none ∧ l.connPolicy = none ∧ p = .USE) →
      Handles l size conn (.wrapped (acceptConn size conn p l.validateHeader l.readHeaderTimeout)) [] :=
    fun conn p hp =>
      let ⟨h1, h2, h3, h4, h5⟩ := acceptConn_fields size conn p l.validateHeader l.readHeaderTimeout
      .inr (.inl ⟨p, _, hp, rfl, rfl, h1, h2, h3, h4, h5, rfl⟩)
  induction outs with
  | nil => exact ⟨[], List.forall_mem_nil _, .inl ⟨rfl, rfl⟩⟩
  | cons x rest ih =>
    rcases x with e | conn
    · exact ⟨[], List.forall_mem_nil _, .inr (.inl ⟨e, rest, rfl, rfl⟩)⟩
    rw [accept, if_neg hl]
    rcases hd : l.decidePolicy conn with _ | (e | p)
    · have hn := decidePolicy_eq_none.1 hd
      exact ⟨[], List.forall_mem_nil _,
        .inr (.inr ⟨conn, rest, _, [], rfl, hwrap conn .USE (.inr ⟨hn.1, hn.2, rfl⟩), rfl⟩)⟩
    · have he := decidePolicy_eq_some.1 hd
      cases hu : e.isInvalidUpstream
      · exact ⟨[], List.forall_mem_nil _,
          .inr (.inr ⟨conn, rest, _, _, rfl, .inr (.inr ⟨e, he, hu, rfl, rfl⟩), by simp [hu]⟩)⟩
      obtain ⟨rej, hrej, h⟩ := ih
      refine ⟨conn :: rej, ?_, ?_⟩
      · exact List.forall_mem_cons.2 ⟨⟨e, he, hu⟩, hrej⟩
      simp only [hu, if_true]
      rcases h with ⟨rfl, h⟩ | ⟨e', rest', rfl, h⟩ | ⟨c, rest', o, last, rfl, hh, h⟩ <;> rw [h]
      · exact .inl ⟨rfl, rfl⟩
      · exact .inr (.inl ⟨e', rest', rfl, rfl⟩)
      · exact .inr (.inr ⟨c, rest', o, last, rfl, hh, rfl⟩)
    · have hp := decidePolicy_eq_some.1 hd
      by_cases hs : p = .SKIP
      · subst hs
        exact ⟨[], List.forall_mem_nil _, .inr (.inr ⟨conn, rest, _, [], rfl, .inl ⟨hp, rfl, rfl⟩, rfl⟩)⟩
      · exact ⟨[], List.forall_mem_nil _,
          .inr (.inr ⟨conn, rest, _, [], rfl, hwrap conn p (.inl ⟨hp, hs⟩), by simp [hs]⟩)⟩

/-- A listener without a policy function, over one connection. -/
theorem accept_consumes_unknown :
    ¬((⟨none, none, none, 0⟩ : Listener).policy.isSome ∧ (⟨none, none, none, 0⟩ : Listener).connPolicy.isSome) ∧
    ∃ rejected : List Socket,
      (∀ c ∈ rejected, ∃ e, (⟨none, none, none, 0⟩ : Listener).Decides c (.error e) ∧ e.isInvalidUpstream) ∧
      ((([.ok unknownHeaderSocket] : List (Except Error Socket)) = rejected.map .ok ∧
          (⟨none, none, none, 0⟩ : Listener).accept 4096 [.ok unknownHeaderSocket] =
            (.waiting, rejected.map (·.close.2), [])) ∨
       (∃ e rest, ([.ok unknownHeaderSocket] : List (Except Error Socket)) = rejected.map .ok ++ .error e :: rest ∧
          (⟨none, none, none, 0⟩ : Listener).accept 4096 [.ok unknownHeaderSocket] =
            (.acceptError e, rejected.map (·.close.2), rest)) ∨
       (∃ conn rest o closedLast, ([.ok unknownHeaderSocket] : List (Except Error Socket)) = rejected.map .ok ++ .ok conn :: rest ∧
          Handles ⟨none, none, none, 0⟩ 4096 conn o closedLast ∧
          (⟨none, none, none, 0⟩ : Listener).accept 4096 [.ok unknownHeaderSocket] =
            (o, rejected.map (·.close.2) ++ closedLast, rest))) :=
  have hl : ¬((⟨none, none, none, 0⟩ : Listener).policy.isSome ∧
      (⟨none, none, none, 0⟩ : Listener).connPolicy.isSome) := by simp
  ⟨hl, accept_consumes ⟨none, none, none, 0⟩ 4096 hl [.ok unknownHeaderSocket]⟩

end Listener

end ProxyProto
