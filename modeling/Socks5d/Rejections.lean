import Socks5d.RequestMessages
import Socks5d.System

/-
  What happens to a request that the parser rejects: nothing.
  The errors of the parser are no end of the request for
  `request_is_done`, and the answers that `request_process`
  has for them are never reached.

  Main declarations:
    * `RejectionAnswered`
    * `rejected_waits`, `failed_waits`
-/

namespace Socks5d

/-
  What is asked of the call in which a request is rejected:
  the connection ends, or a failure is answered, with its own
  status for a command and for an address type.
-/
def RejectionAnswered
    (s : St)
    (r : St × Nat)
    (state : RequestState) : Prop :=
  r.2 = ERROR ∨
    (r.2 = REQUEST_WRITE ∧
      ∃ status : SocksReplyStatus, status ≠ .succeeded ∧
        r.1.conn.writeBuffer.pending =
          s.conn.writeBuffer.pending ++ replyBytes status ∧
        (state = .errorUnsupportedCmd →
          status.code = 0x07) ∧
        (state = .errorUnsupportedType →
          status.code = 0x08))

section Rejecting

variable {key : Key}
variable {a : Answers}
variable {s : St}
variable {p q : RequestParser}

theorem errorHandler_request
    (key : Key)
    (s : St)
    (status : SocksReplyStatus) :
    (errorHandler key s status).conn.request =
      s.conn.request := by
  rcases replied_eq s status with ⟨wb, log, hEq, _⟩
  have hSame : (replied s status).conn.request =
      s.conn.request := by
    rw [hEq]
  exact hSame

/- `request_process` leaves the parser alone. -/
theorem requestProcess_fed
    (key : Key)
    (a : Answers)
    (request : Request)
    (s : St) :
    (requestProcess key a request s).1.conn.request.parser =
      s.conn.request.parser := by
  unfold requestProcess
  split
  · rw [errorHandler_request]
  · split
    · rfl
    · split
      · rfl
      · split
        · unfold requestProcessDomain
          dsimp only
          split
          · split
            · rw [errorHandler_request]
            · split
              · rfl
              · rfl
          · rw [errorHandler_request]
            rfl
        · rw [errorHandler_request]

/- A failed parser is not done. -/
theorem RequestState.Failed.going
    {state : RequestState}
    (h : state.Failed) : requestIsDone state = false := by
  cases state with
  | error => rfl
  | errorUnsupportedCmd => rfl
  | errorUnsupportedType => rfl
  | errorUnsupportedVersion => rfl
  | _ => exact h.elim

/- A parser that fails in a call was fed in it. -/
theorem requestRead_failed
    (hParser : s.conn.request.parser = some p)
    (hGoing : ¬ p.state.Failed)
    (hAfter : (requestRead key a s).1.conn.request.parser =
      some q)
    (hFailed : q.state.Failed) :
    ∃ bytes, requestRead key a s =
      ((requestFed key bytes p s).1, REQUEST_READ) := by
  have hOld : s.conn.request.parser ≠ some q := by
    intro hBad
    rw [Option.some.inj (hParser.symm.trans hBad)] at hGoing
    exact hGoing hFailed
  unfold requestRead at hAfter ⊢
  split at hAfter
  · exact absurd hAfter hOld
  · rename_i hStatus
    rw [if_neg hStatus]
    simp only [hParser] at hAfter ⊢
    split at hAfter
    · exact absurd hAfter hOld
    · rename_i hSome
      rw [if_neg hSome]
      have hFed : (requestFed key (s.recvBytes a) p
          s).1.conn.request.parser =
            some (requestFed key (s.recvBytes a) p s).2 := rfl
      have hIs : (requestFed key (s.recvBytes a) p s).2 =
          q := by
        split at hAfter
        · rw [requestProcess_fed, hFed] at hAfter
          exact Option.some.inj hAfter
        · rw [hFed] at hAfter
          exact Option.some.inj hAfter
      rw [hIs, hFailed.going]
      exact ⟨_, rfl⟩

/-
  In whatever call the parser enters one of its error states,
  `request_read` stays in `REQUEST_READ`, with no reply: the
  request is neither answered nor is the connection ended.
-/
theorem rejected_waits
    (key : Key)
    (a : Answers)
    (s : St)
    (hParser : s.conn.request.parser = some p)
    (hGoing : ¬ p.state.Failed)
    (hAfter : (requestRead key a s).1.conn.request.parser =
      some q)
    (hFailed : q.state.Failed) :
    (requestRead key a s).2 = REQUEST_READ ∧
      (requestRead key a s).1.conn.writeBuffer =
        s.conn.writeBuffer ∧
      ¬ RejectionAnswered s (requestRead key a s)
        q.state := by
  rcases requestRead_failed hParser hGoing hAfter hFailed with
    ⟨bytes, hEq⟩
  rw [hEq]
  refine ⟨rfl, rfl, ?_⟩
  rintro (hBad | ⟨hBad, _⟩)
  · nomatch hBad
  · nomatch hBad

/- A failed parser stays as it is, whatever it is fed. -/
theorem requestConsume_failed_state
    {limit : Nat}
    (hFailed : p.state.Failed)
    (b : Buffer limit) :
    (requestConsume b p).1.state = p.state := by
  unfold requestConsume
  rw [(b.feed_eq RequestParser.reader p).1]
  refine RequestParser.reader.consume_invariant
    (P := fun q => q.state = p.state) ?_ rfl b.pending
  intro q byte hSame
  show (requestParserFeed q byte).state = p.state
  unfold requestParserFeed
  cases hIs : q.state <;> rw [← hSame, hIs] at hFailed <;>
    first | exact hFailed.elim | exact hIs.symm.trans hSame

/-
  What comes after a rejected request is read and thrown
  away, until the client ends the connection.
-/
theorem failed_waits
    (key : Key)
    (a : Answers)
    (s : St)
    (hStatus : s.conn.request.status = .succeeded)
    (hParser : s.conn.request.parser = some p)
    (hFailed : p.state.Failed)
    (hBytes : s.recvBytes a ≠ []) :
    (requestRead key a s).2 = REQUEST_READ ∧
      (requestRead key a s).1.conn.writeBuffer =
        s.conn.writeBuffer ∧
      (requestRead key a s).1.conn.request.status =
        .succeeded ∧
      ∃ q, (requestRead key a s).1.conn.request.parser =
        some q ∧ q.state.Failed := by
  have hState := requestConsume_failed_state hFailed
    (s.conn.readBuffer.writeAdv (s.recvBytes a))
  have hFed : (requestFed key (s.recvBytes a) p s).2 =
      (requestConsume (s.conn.readBuffer.writeAdv
        (s.recvBytes a)) p).1 := rfl
  have hEq : requestRead key a s =
      ((requestFed key (s.recvBytes a) p s).1,
        REQUEST_READ) := by
    unfold requestRead
    simp only [hStatus, hParser, ne_eq, not_true_eq_false,
      if_false, hBytes]
    rw [hFed, hState, hFailed.going]
    rfl
  rw [hEq]
  refine ⟨rfl, rfl, hStatus, _, rfl, ?_⟩
  rw [hState]
  exact hFailed

/- A client whose hello has been answered. -/
def helloRun : List Label := [
  .read 3 { accept := some 5 },
  .read 5 { recv := some [5, 1, 0] },
  .write 5 { send := some 100 }]

/- The world before its request. -/
def requestWorld : World :=
  runTo helloRun (smallServer 0 ⟨fun _ => {}, 0⟩
    ⟨fun _ => {}, 0⟩)

/- It asks for `BIND`. -/
def bindAnswers : Answers :=
  { recv := some [5, 2, 0, 1, 127, 0, 0, 1, 0, 80] }

/- In a world that a run leads to, `BIND` is not answered. -/
theorem rejected_bind :
    server.Reachable requestWorld ∧
      (requestWorld.conn 0).current = some REQUEST_READ ∧
      (requestWorld.conn 0).request.parser =
        some requestParserInit ∧
      (requestRead ⟨5, 0⟩ bindAnswers
        (requestWorld.view 0)).1.conn.request.parser.map
          RequestParser.state = some .errorUnsupportedCmd ∧
      (requestRead ⟨5, 0⟩ bindAnswers
        (requestWorld.view 0)).2 = REQUEST_READ ∧
      ¬ RejectionAnswered (requestWorld.view 0)
        (requestRead ⟨5, 0⟩ bindAnswers
          (requestWorld.view 0)) .errorUnsupportedCmd := by
  have hState : (requestRead ⟨5, 0⟩ bindAnswers
      (requestWorld.view 0)).2 = REQUEST_READ := by
    decide +kernel
  refine ⟨?_, by decide +kernel, by decide +kernel,
    by decide +kernel, hState, ?_⟩
  · exact reachable_runTo helloRun
      (.init (smallServer_initial _ _ (by decide) (Or.inl rfl)))
  · rintro (hBad | ⟨hBad, _⟩)
    · nomatch hState.symm.trans hBad
    · nomatch hState.symm.trans hBad

theorem rejected_waits_bind :
    (requestRead ⟨5, 0⟩ bindAnswers
        (requestWorld.view 0)).2 = REQUEST_READ ∧
      (requestRead ⟨5, 0⟩ bindAnswers
          (requestWorld.view 0)).1.conn.writeBuffer =
        (requestWorld.view 0).conn.writeBuffer ∧
      ¬ RejectionAnswered (requestWorld.view 0)
        (requestRead ⟨5, 0⟩ bindAnswers
          (requestWorld.view 0)) .errorUnsupportedCmd := by
  have hParser : (requestWorld.view 0).conn.request.parser =
      some requestParserInit := by decide +kernel
  have hAfter : (requestRead ⟨5, 0⟩ bindAnswers
      (requestWorld.view 0)).1.conn.request.parser =
        some { state := .errorUnsupportedCmd } := by
    decide +kernel
  exact rejected_waits ⟨5, 0⟩ bindAnswers
    (requestWorld.view 0) hParser id hAfter trivial

end Rejecting

end Socks5d
