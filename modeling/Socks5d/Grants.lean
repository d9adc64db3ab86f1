import Socks5d.MngDialogue

/-
  A request that was answered with a success was granted: in
  its turn there was room for what it adds, and the answer
  that was stored for it is the only one.

  Main declarations:
    * `Policy.Grants`, `AnswerFixed`
    * `answerFixed_runTo`
    * `Inv.exec_said`, `adjustments_split`
    * `adjustment_granted`
-/

------------------------------------------------------------
-- What Is Granted
------------------------------------------------------------

namespace Socks5d

namespace Policy

variable {p : Policy}
variable {r : Adjustment}

/-
  There is room for the user, if one is added, and one that
  is deleted was not given with `-u`.
-/
def Grants (p : Policy) : Adjustment → Prop
| .addUser _ _ => p.users.length < maxUsers
| .deleteUser username => freesOwn p.users username = true
| _ => True

theorem apply_length
    (h : p.users.length ≤ maxUsers)
    (r : Adjustment) :
    (p.apply r).users.length ≤ maxUsers := by
  cases r with
  | addUser username password =>
      unfold apply
      dsimp only
      split
      · rename_i hRoom
        rw [List.length_append]
        exact hRoom
      · exact h
  | deleteUser username =>
      unfold apply
      dsimp only
      split
      · exact List.length_eraseP_le.trans h
      · exact h
  | disableAuth option => exact h
  | disablePasswordDissectors value => exact h

theorem applyAll_length
    (h : p.users.length ≤ maxUsers)
    (requests : List (ConnId × Adjustment)) :
    (p.applyAll requests).users.length ≤ maxUsers := by
  induction requests generalizing p with
  | nil => exact h
  | cons request rest ih => exact ih (apply_length h request.2)

/- The status says whether there was room. -/
theorem grants_of_status
    (hRoom : p.users.length ≤ maxUsers)
    (h : p.status r = some .succeeded) : p.Grants r := by
  cases r with
  | addUser username password =>
      refine Nat.lt_of_le_of_ne hRoom fun hFull => ?_
      have hBad : p.status (.addUser username password) =
          some .maxUsersReached := if_pos hFull
      nomatch h.symm.trans hBad
  | deleteUser username =>
      by_contra hNot
      have hBad : p.status (.deleteUser username) = none :=
        if_neg hNot
      nomatch h.symm.trans hBad
  | disableAuth option => trivial
  | disablePasswordDissectors value => trivial

/- Only a success starts with a zero. -/
theorem grants_of_zero
    {rest : List UInt8}
    (hRoom : p.users.length ≤ maxUsers)
    (h : 0x00 :: rest <+: p.answer r) : p.Grants r := by
  cases hStatus : p.status r with
  | none =>
      have hNone : p.answer r = [] := by
        unfold answer
        rw [hStatus]
      rw [hNone] at h
      nomatch List.prefix_nil.mp h
  | some status =>
      rw [answer_eq hStatus] at h
      rw [succeeded_of_zero h] at hStatus
      exact grants_of_status hRoom hStatus

end Policy

end Socks5d

------------------------------------------------------------
-- The Answer Is The Only One
------------------------------------------------------------

namespace Socks5d

/- The answer is stored, and nothing else is said any more. -/
structure AnswerFixed
    (answers : List UInt8)
    (c : Conn) : Prop where
  service : c.isSocks = false
  late : ∃ state, c.current = some state ∧
    MNG_REQUEST_WRITE ≤ state
  sent : c.wire <+: answers
  stored : c.current = some MNG_REQUEST_WRITE →
    c.replied = answers

section Fixing

variable {w w' : World}
variable {k : ConnId}
variable {key : Key}
variable {a : Answers}
variable {s t u : St}
variable {r : St × Nat}
variable {state : Nat}
variable {answers : List UInt8}

/- Once there is an answer, it is all that a call sends. -/
theorem MngTurn.only_answers
    (h : MngTurn k key a s r)
    (hState : s.conn.current = some state)
    (hLate : MNG_REQUEST_WRITE ≤ state) :
    s.conn.current = some MNG_REQUEST_WRITE ∧
      r = mngRequestWrite key a s := by
  have hEarly : ∀ early, s.conn.current = some early →
      ¬ early < MNG_REQUEST_WRITE := by
    intro early hIs
    rw [← Option.some.inj (hState.symm.trans hIs)]
    exact Nat.not_lt.mpr hLate
  cases h with
  | helloRead hIs => exact absurd (by decide) (hEarly _ hIs)
  | helloWrite hIs => exact absurd (by decide) (hEarly _ hIs)
  | authRead hIs => exact absurd (by decide) (hEarly _ hIs)
  | authWrite hIs => exact absurd (by decide) (hEarly _ hIs)
  | request other hIs _ _ _ _ hHandled =>
      cases hHandled with
      | index => exact absurd (by decide) (hEarly _ hIs)
      | params => exact absurd (by decide) (hEarly _ hIs)
      | answer => exact ⟨hIs, rfl⟩

theorem AnswerFixed.turn
    (h : AnswerFixed answers s.conn)
    (hTurn : MngTurn k key a s r)
    (hJump : MngJump key a r.1 r.2 u) :
    AnswerFixed answers u.conn := by
  rcases h.late with ⟨state, hState, hLate⟩
  rcases hTurn.only_answers hState hLate with
    ⟨hAnswering, hCall⟩
  rcases mngRequestWrite_said key a s with
    ⟨hNext, hSent, hStored⟩
  rw [← hCall] at hNext hSent hStored
  rw [h.stored hAnswering] at hSent hStored
  have hJumped := hJump.jumped
  refine ⟨?_, ⟨r.2, hJumped.current, hNext⟩, ?_, ?_⟩
  · exact hJumped.service.trans
      (hTurn.service.trans h.service)
  · rw [hJump.silent.sent]
    exact hSent
  · intro hIs
    rw [hJump.silent.replied]
    exact hStored
      (Option.some.inj (hJumped.current.symm.trans hIs))

theorem AnswerFixed.event
    (h : AnswerFixed answers s.conn)
    (hEvent : MngEvent k key a s t) :
    AnswerFixed answers t.conn := by
  cases hEvent with
  | going r _ hTurn hJump => exact h.turn hTurn hJump
  | ends r u hTurn hJump =>
      rw [mngDone_conn]
      exact h.turn hTurn hJump

/- Whatever happens to the connection, or to others. -/
theorem AnswerFixed.change
    (h : AnswerFixed answers (w.conn k))
    (hOld : k < w.next)
    (hChange : Change w k w') :
    AnswerFixed answers (w'.conn k) := by
  cases hChange with
  | same _ hConn =>
      rw [hConn]
      exact h
  | born isSocks client hNew =>
      exact absurd hOld (by
        rw [hNew]
        exact Nat.lt_irrefl _)
  | resolution addresses _ _ hConn =>
      rw [hConn]
      exact ⟨h.service, h.late, h.sent, h.stored⟩
  | socks key a t hLive hSocks =>
      nomatch h.service.symm.trans hSocks
  | mng key a t hLive hMng hEvent hConn =>
      rw [hConn]
      rcases h.late with ⟨state, hState, _⟩
      have hSame : handleFirst clientMng key a (w.view k) =
          w.view k := by
        rw [handleFirst_eq rfl, if_neg]
        intro hBad
        nomatch hState.symm.trans hBad
      rw [hSame] at hEvent
      exact AnswerFixed.event (s := w.view k) h hEvent
  | block job rest a t hStarter hWaits =>
      nomatch h.service.symm.trans hWaits.service

theorem AnswerFixed.micros
    (h : AnswerFixed answers (w.conn k))
    (hInv : Inv w)
    (hOld : k < w.next)
    (hMicros : Relation.ReflTransGen Micro w w') :
    Inv w' ∧ k < w'.next ∧
      AnswerFixed answers (w'.conn k) := by
  induction hMicros with
  | refl => exact ⟨hInv, hOld, h⟩
  | tail _ hStep ih =>
      rcases ih with ⟨hMid, hLt, hFixed⟩
      have hNext := Nat.lt_of_lt_of_le hLt hStep.next_le
      exact ⟨hStep.inv hMid, hNext,
        hFixed.change hLt (hStep.change hNext)⟩

theorem answerFixed_runTo
    (hReach : server.Reachable w)
    (hOld : k < w.next)
    (h : AnswerFixed answers (w.conn k))
    (labels : List Label) :
    AnswerFixed answers ((runTo labels w).conn k) := by
  induction labels generalizing w with
  | nil => exact h
  | cons l rest ih =>
      unfold runTo
      by_cases hEnabled : Enabled w l = true
      · rw [if_pos hEnabled]
        rcases h.micros (reachable_inv hReach) hOld
          ((reachable_inv hReach).micros hEnabled) with
          ⟨_, hLt, hFixed⟩
        exact ih (hReach.step ⟨hEnabled, rfl⟩) hLt hFixed
      · rw [if_neg hEnabled]
        exact ih hReach hOld h

end Fixing

end Socks5d

------------------------------------------------------------
-- What Was Told As Done
------------------------------------------------------------

namespace Socks5d

section Granting

variable {w w' : World}
variable {k : ConnId}
variable {r : Adjustment}
variable {l : Label}
variable {labels : List Label}

/- A small step that completes a request answers it. -/
theorem Micro.said
    (h : Micro w w')
    (hInv : Inv w)
    (hKept : ∀ k < w.next,
      MngKept w.srv.admins k (w.conn k))
    (hOld : k < w.next)
    (hBefore : (w.conn k).carriedOut = none)
    (hAfter : (w'.conn k).carriedOut = some r) :
    (w.conn k).isSocks = false ∧
      StatusSaid w.srv.policy r (w.conn k) (w'.conn k) := by
  have hMng : (w.conn k).isSocks = false := by
    cases hSocks : (w.conn k).isSocks with
    | false => rfl
    | true =>
        rw [carriedOut_socks
          ((h.service hInv hOld).trans hSocks)] at hAfter
        nomatch hAfter
  refine ⟨hMng, ?_⟩
  cases h.change (Nat.lt_of_lt_of_le hOld h.next_le) with
  | same _ hConn =>
      rw [hConn, hBefore] at hAfter
      nomatch hAfter
  | born isSocks client hNew =>
      exact absurd hOld (by
        rw [hNew]
        exact Nat.lt_irrefl _)
  | resolution addresses _ _ hConn =>
      rw [hConn] at hAfter
      nomatch hBefore.symm.trans hAfter
  | socks key a t hLive hSocks =>
      nomatch hMng.symm.trans hSocks
  | block job rest a t hStarter hWaits =>
      nomatch hMng.symm.trans hWaits.service
  | mng key a t hLive _ hEvent hConn =>
      rw [hConn] at hAfter ⊢
      rcases hInv.first hLive clientMng rfl key a with
        ⟨hSrv, _⟩
      rcases hEvent.carries
        ((first_conn clientMng rfl key a (w.view k)).trans hMng)
        (mngKept_preserved.started (s := w.view k) key a
          clientMng rfl (hKept k hOld)) with
        ⟨hSame, _⟩ | ⟨_, other, hIs, _, hSaid⟩
      · rw [hSame, first_carriedOut (s := w.view k) hMng
          (hKept k hOld) key a] at hAfter
        nomatch hBefore.symm.trans hAfter
      · rw [Option.some.inj (hIs.symm.trans hAfter), hSrv]
          at hSaid
        -- the parameters are not read in the first state
        rw [handleFirst_eq rfl] at hSaid
        split at hSaid
        · nomatch (helloReadInit_current key a
            (w.view k)).symm.trans hSaid.reading
        · exact hSaid

/- A step that completes a request answers it. -/
theorem Inv.exec_said
    (h : Inv w)
    (hKept : ∀ k < w.next,
      MngKept w.srv.admins k (w.conn k))
    (hEnabled : Enabled w l = true)
    (hBefore : w.carried k = none)
    (hAfter : (exec w l).carried k = some r) :
    k < w.next ∧ (w.conn k).isSocks = false ∧
      StatusSaid w.srv.policy r (w.conn k)
        ((exec w l).conn k) := by
  have hMoves : (exec w l).carried ≠ w.carried := by
    intro hSame
    rw [hSame, hBefore] at hAfter
    nomatch hAfter
  have hOld : k < w.next := by
    have hAdjusts := h.exec_adjusts hKept hEnabled
    generalize (w.served l).bind
      (w.completed (exec w l)) = request at hAdjusts
    cases hAdjusts with
    | none hCarried => exact absurd hCarried hMoves
    | some j _ hOld _ hCarried =>
        by_cases hIs : k = j
        · rw [hIs]
          exact hOld
        · rw [hCarried, Function.update_of_ne hIs, hBefore]
            at hAfter
          nomatch hAfter
  refine ⟨hOld, ?_⟩
  rcases h.exec_micro hEnabled with
    ⟨a, rfl⟩ | hSame | hStep
  · exact absurd (h.loop_adjusts hKept a _).1 hMoves
  · rw [hSame] at hMoves
    exact absurd rfl hMoves
  · have hLt := Nat.lt_of_lt_of_le hOld hStep.next_le
    unfold World.carried at hBefore hAfter
    rw [if_pos hOld] at hBefore
    rw [if_pos hLt] at hAfter
    exact hStep.said h hKept hOld hBefore hAfter

/- The step of a run that completes a request. -/
theorem adjustments_split
    (hIn : (k, r) ∈ adjustments labels w) :
    ∃ early l late,
      Enabled (runTo early w) l = true ∧
        (runTo early w).carried k = none ∧
        (exec (runTo early w) l).carried k = some r ∧
        runTo labels w =
          runTo late (exec (runTo early w) l) ∧
        ∃ after, adjustments labels w =
          adjustments early w ++ (k, r) :: after := by
  induction labels generalizing w with
  | nil => exact absurd hIn List.not_mem_nil
  | cons l rest ih =>
      unfold adjustments at hIn
      dsimp only at hIn
      rcases List.mem_append.mp hIn with hFirst | hRest
      · rw [Option.mem_toList] at hFirst
        rcases Option.bind_eq_some_iff.mp hFirst with
          ⟨j, _, hDone⟩
        unfold World.completed at hDone
        split at hDone
        · rename_i hNone
          rcases Option.map_eq_some_iff.mp hDone with
            ⟨_, hSome, hPair⟩
          injection hPair with hConn hRequest
          rw [hConn] at hNone hSome
          rw [hRequest] at hSome
          by_cases hEnabled : Enabled w l = true
          · refine ⟨[], l, rest, hEnabled, hNone, ?_, ?_,
              adjustments rest
                (if Enabled w l then exec w l else w), ?_⟩
            · rw [if_pos hEnabled] at hSome
              exact hSome
            · show runTo rest (if _ then _ else _) = _
              rw [if_pos hEnabled]
              rfl
            · show Option.toList _ ++ adjustments rest _ = _
              rw [hFirst]
              rfl
          · rw [if_neg hEnabled] at hSome
            exact absurd (hSome.symm.trans hNone)
              (Option.some_ne_none r)
        · exact absurd hDone.symm (Option.some_ne_none _)
      · rcases ih hRest with ⟨early, label, late, hEnabled,
          hNone, hSome, hRun, after, hAll⟩
        refine ⟨l :: early, label, late, hEnabled, hNone,
          hSome, hRun, after, ?_⟩
        show _ ++ adjustments rest _ =
          (_ ++ adjustments early _) ++ _
        rw [hAll, List.append_assoc]

/-
  Where the client has been sent the bytes of a success, the
  request was granted in its turn.
-/
theorem adjustment_granted
    {x m y : UInt8}
    (hInit : Initial w)
    (hRoom : w.srv.users.count ≤ maxUsers)
    (hIn : (k, r) ∈ adjustments labels w)
    (hTold : [x, m, y, 0x00, 0x00] <+:
      ((runTo labels w).conn k).wire) :
    ∃ before after,
      adjustments labels w = before ++ (k, r) :: after ∧
        (w.srv.policy.applyAll before).Grants r := by
  rcases adjustments_split hIn with ⟨early, l, late, hEnabled,
    hNone, hSome, hRun, after, hAll⟩
  have hReach := reachable_runTo early (.init hInit)
  rcases (reachable_inv hReach).exec_said
    (reachable_kept hReach) hEnabled hNone hSome with
    ⟨hOld, hMng, hSaid⟩
  have hDialogue := ((conn_invariant dialogue_preserved hReach
    hOld).2 hMng).dialogue _ hSaid.reading
  cases hDialogue with
  | ended _ hOver => exact absurd hOver (by decide)
  | params greeting hGreeting n hAdmission _ =>
      rcases hSaid.said with ⟨part, hPart, hReply⟩
      rw [hAdmission] at hReply
      have hNext : server.Reachable
          (exec (runTo early w) l) :=
        hReach.step ⟨hEnabled, rfl⟩
      have hLt : k < (exec (runTo early w) l).next := by
        unfold World.carried at hSome
        by_contra hNot
        rw [if_neg hNot] at hSome
        nomatch hSome
      have hStill : ((exec (runTo early w) l).conn
          k).isSocks = false := by
        unfold World.carried at hSome
        rw [if_pos hLt] at hSome
        cases hSocks : ((exec (runTo early w) l).conn
            k).isSocks with
        | false => rfl
        | true =>
            rw [carriedOut_socks hSocks] at hSome
            nomatch hSome
      have hFixed : AnswerFixed (admission n ++ part)
          ((exec (runTo early w) l).conn k) := by
        refine ⟨hStill, ⟨_, hSaid.answering, Nat.le_refl _⟩,
          ?_, fun _ => hReply⟩
        rw [← hReply]
        exact wire_replied _
      have hLast := answerFixed_runTo hNext hLt hFixed late
      rw [hRun] at hTold
      rcases told_after_admission
        (hTold.trans hLast.sent) with ⟨_, rest, hZero⟩
      rw [hZero] at hPart
      have hPolicy :=
        (adjusted_runTo early (.init hInit)).policy
      refine ⟨adjustments early w, after, hAll, ?_⟩
      rw [← hPolicy]
      refine Policy.grants_of_zero ?_ hPart
      rw [hPolicy]
      apply Policy.applyAll_length
      exact w.srv.users.length_list.trans_le hRoom

end Granting

end Socks5d
