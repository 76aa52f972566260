import ProxyProto.Listener

/-!
# A server's accept loop over the listener

A server hands the listener to a loop that calls `Accept` again after every
return (`server.Serve(proxyListener)` in the package's example). One call may
close and skip several connections rejected with `ErrInvalidUpstream` before it
returns. Over the whole loop this is the same as deciding each connection of the
wrapped listener on its own, in the order they come (`acceptLoop_eq`): no
connection is lost, none is handed out or closed twice, and none is handled out
of turn.
-/

namespace ProxyProto

namespace Listener

/-- A caller that calls `Accept` again after every return, until a call waits
for a connection the outcomes do not hold: the results of the calls that
returned and the connections closed, in order. At most `fuel` calls. -/
def acceptLoop (l : Listener) (size : Nat) : Nat → List (Except Error Socket) → List Accepted × List Socket
  | 0, _ => ([], [])
  | fuel + 1, outs =>
    match l.accept size outs with
    | (.waiting, closed, _) => ([], closed)
    | (o, closed, rest) =>
      let r := l.acceptLoop size fuel rest
      (o :: r.1, closed ++ r.2)

/-- What becomes of one outcome of the wrapped listener, decided on its own: the
result a call returns for it, if any, and what is closed of it. A connection
rejected with `ErrInvalidUpstream` is closed and returned by no call. -/
def handle (l : Listener) (size : Nat) : Except Error Socket → Option Accepted × List Socket
  | .error e => (some (.acceptError e), [])
  | .ok conn =>
    match l.decidePolicy conn with
    | some (.error e) => (if e.isInvalidUpstream then none else some (.policyError e), [conn.close.2])
    | some (.ok p) =>
      (some (if p = .SKIP then .raw conn else .wrapped (acceptConn size conn p l.validateHeader l.readHeaderTimeout)),
        [])
    | none => (some (.wrapped (acceptConn size conn .USE l.validateHeader l.readHeaderTimeout)), [])

/-- A handled outcome never leaves a call waiting. -/
theorem handle_ne_waiting (l : Listener) (size : Nat) (x : Except Error Socket) :
    (l.handle size x).1 ≠ some .waiting := by
  unfold handle
  split
  · simp
  · split
    · split <;> simp
    · split <;> simp
    · simp

section

variable {l : Listener} {size : Nat}

/-- One call over an outcome it returns for. -/
theorem accept_cons_some (hl : ¬(l.policy.isSome ∧ l.connPolicy.isSome)) {x : Except Error Socket}
    {o : Accepted} {cl : List Socket} (hx : l.handle size x = (some o, cl)) (rest : List (Except Error Socket)) :
    l.accept size (x :: rest) = (o, cl, rest) := by
  rcases x with e | conn
  · cases hx; rfl
  · simp only [handle] at hx
    simp only [accept, if_neg hl]
    split at hx
    · split_ifs at hx with he <;> cases hx
      simp [*]
    · cases hx; split_ifs <;> simp [*]
    · cases hx; simp [*]

/-- One call over an outcome it skips: it closes the connection and goes on. -/
theorem accept_cons_none (hl : ¬(l.policy.isSome ∧ l.connPolicy.isSome)) {x : Except Error Socket}
    {cl : List Socket} (hx : l.handle size x = (none, cl)) (rest : List (Except Error Socket)) :
    l.accept size (x :: rest) =
      ((l.accept size rest).1, cl ++ (l.accept size rest).2.1, (l.accept size rest).2.2) := by
  rcases x with e | conn
  · cases hx
  · simp only [handle] at hx
    simp only [accept, if_neg hl]
    split at hx
    · split_ifs at hx with he <;> cases hx
      simp [*]
    · cases hx
    · cases hx

/-- The loop over an outcome a call returns for. -/
theorem acceptLoop_cons_some (hl : ¬(l.policy.isSome ∧ l.connPolicy.isSome)) {x : Except Error Socket}
    {o : Accepted} {cl : List Socket} (hx : l.handle size x = (some o, cl)) (fuel : Nat)
    (rest : List (Except Error Socket)) :
    l.acceptLoop size (fuel + 1) (x :: rest) =
      (o :: (l.acceptLoop size fuel rest).1, cl ++ (l.acceptLoop size fuel rest).2) := by
  have hw : o ≠ .waiting := fun h => handle_ne_waiting l size x (by rw [hx, h])
  rw [acceptLoop, accept_cons_some hl hx]
  split
  · next h => cases h; exact absurd rfl hw
  · next h => cases h; rfl

/-- The loop over an outcome a call skips: the same calls, with the connection closed first. -/
theorem acceptLoop_cons_none (hl : ¬(l.policy.isSome ∧ l.connPolicy.isSome)) {x : Except Error Socket}
    {cl : List Socket} (hx : l.handle size x = (none, cl)) (fuel : Nat) (rest : List (Except Error Socket)) :
    l.acceptLoop size (fuel + 1) (x :: rest) =
      ((l.acceptLoop size (fuel + 1) rest).1, cl ++ (l.acceptLoop size (fuel + 1) rest).2) := by
  rw [acceptLoop, acceptLoop, accept_cons_none hl hx]
  obtain ⟨o, closed, rest'⟩ := l.accept size rest
  cases o <;> simp

/-- A server's accept loop, given a call for each connection and one more, over a
listener with at most one policy function: the calls return, in order, the
result of deciding each outcome of the wrapped listener on its own, and close,
in order, what each decision closes. -/
theorem acceptLoop_eq (hl : ¬(l.policy.isSome ∧ l.connPolicy.isSome)) :
    ∀ (outs : List (Except Error Socket)) (fuel : Nat), outs.length < fuel →
      l.acceptLoop size fuel outs =
        (outs.filterMap fun x => (l.handle size x).1, outs.flatMap fun x => (l.handle size x).2)
  | [], fuel + 1, _ => rfl
  | x :: rest, fuel + 1, hn => by
    rcases hx : l.handle size x with ⟨_ | o, cl⟩
    · rw [acceptLoop_cons_none hl hx, acceptLoop_eq hl rest (fuel + 1) (by simp at hn; omega)]
      simp [hx]
    · rw [acceptLoop_cons_some hl hx, acceptLoop_eq hl rest fuel (by simp at hn; omega)]
      simp [hx]

end

/-- A listener whose policy rejects connections with no upstream address as not
from a trusted upstream, and uses the header of the others. -/
def trustedOnly : Listener :=
  ⟨some fun a => if a = none then .error (.error .invalidUpstream) else .ok .USE, none, none, 0⟩

/-- The loop over a connection from nowhere, an error of the wrapped listener and
a connection from an upstream. -/
theorem acceptLoop_eq_trustedOnly :
    ¬(trustedOnly.policy.isSome ∧ trustedOnly.connPolicy.isSome) ∧
    ([.ok ⟨[], 0, 0, false, none, none⟩, .error .timeout,
        .ok ⟨[], 0, 0, false, none, some (.tcp ⟨[10, 0, 0, 1]⟩ 443)⟩] : List (Except Error Socket)).length < 4 ∧
    trustedOnly.acceptLoop 4096 4 [.ok ⟨[], 0, 0, false, none, none⟩, .error .timeout,
        .ok ⟨[], 0, 0, false, none, some (.tcp ⟨[10, 0, 0, 1]⟩ 443)⟩] =
      (([.ok ⟨[], 0, 0, false, none, none⟩, .error .timeout,
          .ok ⟨[], 0, 0, false, none, some (.tcp ⟨[10, 0, 0, 1]⟩ 443)⟩] : List (Except Error Socket)).filterMap
          fun x => (trustedOnly.handle 4096 x).1,
        ([.ok ⟨[], 0, 0, false, none, none⟩, .error .timeout,
          .ok ⟨[], 0, 0, false, none, some (.tcp ⟨[10, 0, 0, 1]⟩ 443)⟩] : List (Except Error Socket)).flatMap
          fun x => (trustedOnly.handle 4096 x).2) :=
  ⟨by decide, by decide, acceptLoop_eq (by decide) _ 4 (by decide)⟩

end Listener

end ProxyProto
