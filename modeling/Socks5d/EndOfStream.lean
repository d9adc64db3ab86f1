import Socks5d.CopyProgress
import Socks5d.Streams

/-
  The end of the stream of one side while relaying: what is
  pending for the other side at that moment is never sent.

  Main declarations:
    * `Conn.HandedOver`
    * `Stopped`, `Flow`
    * `Flow.relay`, `handed_over_iff`
-/

------------------------------------------------------------
-- Streams That Have Ended
------------------------------------------------------------

namespace Socks5d

/- What has been noted since a connection was as in `c`. -/
def Conn.since (c d : Conn) : List Ev :=
  d.log.drop c.log.length

/-
  From `c` to `d`, the other peer was sent all that was
  pending for it in `c` and all that was read from this one.
-/
def Conn.HandedOver
    (peer : Side)
    (c d : Conn) : Prop :=
  bytesTo peer.other (c.since d) =
    (c.rb peer).pending ++ bytesFrom peer (c.since d)

/-
  The stream of a side has ended with some bytes pending for
  the other one: they are still there, this side is not read
  any more, and the other one is not written.
-/
structure Stopped
    (c : Conn)
    (side : Side)
    (unsent : List UInt8) : Prop where
  left : (c.rb side).pending = unsent
  unread : ¬ c.OpenRead side
  unwritten : ¬ c.OpenWrite side.other ∨
    c.fdOf side.other = -1

/-
  From `c` to `d` nothing was lost or reordered, and the
  streams that have ended in between are stopped.
-/
structure Flow (c d : Conn) : Prop where
  passed : Passed c d
  stopped : ∀ side unsent,
    .eof side unsent ∈ c.since d → Stopped d side unsent

section Flowing

variable {c d e : Conn}
variable {s t : St}
variable {side peer : Side}
variable {unsent : List UInt8}

theorem Conn.since_eq
    {events : List Ev}
    (h : d.log = c.log ++ events) :
    c.since d = events := by
  unfold Conn.since
  rw [h, List.drop_left]

theorem Conn.since_self
    (c : Conn) : c.since c = [] :=
  c.since_eq (List.append_nil _).symm

/- What is noted later comes behind. -/
theorem Conn.since_append
    {events : List Ev}
    (h : Passed c d)
    (hLog : e.log = d.log ++ events) :
    c.since e = c.since d ++ events := by
  rcases h with ⟨first, hFirst, _⟩
  rw [Conn.since_eq hFirst]
  apply Conn.since_eq
  rw [hLog, hFirst, List.append_assoc]

theorem Passed.trans
    (h : Passed c d)
    (h' : Passed d e) : Passed c e := by
  rcases h with ⟨first, hFirst, hUp, hDown⟩
  rcases h' with ⟨second, hSecond, hUp', hDown'⟩
  refine ⟨first ++ second, ?_, ?_, ?_⟩
  · rw [hSecond, hFirst, List.append_assoc]
  · rw [bytesTo_append, List.append_assoc, hUp',
      ← List.append_assoc, hUp, bytesFrom_append,
      List.append_assoc]
  · rw [bytesTo_append, List.append_assoc, hDown',
      ← List.append_assoc, hDown, bytesFrom_append,
      List.append_assoc]

/- The two equations, for either side. -/
theorem Passed.both
    (h : Passed c d)
    (peer : Side) :
    bytesTo peer.other (c.since d) ++ (d.rb peer).pending =
      (c.rb peer).pending ++ bytesFrom peer (c.since d) := by
  rcases h with ⟨events, hLog, hUp, hDown⟩
  rw [Conn.since_eq hLog]
  cases peer with
  | client => exact hUp
  | origin => exact hDown

/- All has been handed over when nothing is pending. -/
theorem Passed.handedOver_iff
    (h : Passed c d)
    (peer : Side) :
    c.HandedOver peer d ↔ (d.rb peer).pending = [] := by
  have hSide := h.both peer
  unfold Conn.HandedOver
  rw [← hSide]
  exact List.self_eq_append_right

/- Only the two sides of a stopped stream matter. -/
theorem Stopped.of_eq
    (h : Stopped c side unsent)
    (hRb : d.rb side = c.rb side)
    (hFd : d.fdOf side.other = c.fdOf side.other)
    (hRead : d.OpenRead side → c.OpenRead side)
    (hWrite : d.OpenWrite side.other →
      c.OpenWrite side.other) :
    Stopped d side unsent where
  left := by
    rw [hRb]
    exact h.left
  unread hBad := h.unread (hRead hBad)
  unwritten := by
    rw [hFd]
    exact h.unwritten.imp_left fun hNot hBad =>
      hNot (hWrite hBad)

/- Closing operations opens none. -/
theorem copyShut_opens
    {own theirs : Interest → Interest}
    (hOwn : ∀ i, ((own i).read = true → i.read = true) ∧
      ((own i).write = true → i.write = true))
    (hTheirs : ∀ i, ((theirs i).read = true → i.read = true) ∧
      ((theirs i).write = true → i.write = true))
    (c : Conn)
    (side at_ : Side) :
    ((copyShut own theirs side c).OpenRead at_ →
        c.OpenRead at_) ∧
      ((copyShut own theirs side c).OpenWrite at_ →
        c.OpenWrite at_) := by
  unfold Conn.OpenRead Conn.OpenWrite
  rcases Side.eq_or_eq_other side at_ with hSelf | hOther
  · rw [hSelf, copyShut_self]
    exact hOwn _
  · rw [hOther]
    by_cases hNone : (c.copySt side.other).fd = -1
    · rw [copyShut_other_none side c hNone]
      exact ⟨id, id⟩
    · rw [copyShut_other side c hNone]
      exact hTheirs _

theorem clearRead_opens
    (i : Interest) :
    (i.clearRead.read = true → i.read = true) ∧
      (i.clearRead.write = true → i.write = true) := by
  refine ⟨?_, id⟩
  intro hBad
  nomatch hBad

theorem clearWrite_opens
    (i : Interest) :
    (i.clearWrite.read = true → i.read = true) ∧
      (i.clearWrite.write = true → i.write = true) := by
  refine ⟨id, ?_⟩
  intro hBad
  nomatch hBad

end Flowing

end Socks5d

------------------------------------------------------------
-- One Call
------------------------------------------------------------

namespace Socks5d

section Calls

variable {c d : Conn}
variable {s t : St}
variable {side peer : Side}
variable {unsent : List UInt8}

/- A shutdown leaves the buffers and the descriptors. -/
theorem Stopped.shut
    (h : Stopped s.conn peer unsent)
    {own theirs : Interest → Interest}
    (hOwn : ∀ i, ((own i).read = true → i.read = true) ∧
      ((own i).write = true → i.write = true))
    (hTheirs : ∀ i, ((theirs i).read = true → i.read = true) ∧
      ((theirs i).write = true → i.write = true))
    (side : Side)
    (event : Ev) :
    Stopped (St.note { s with
      conn := copyShut own theirs side s.conn } event).conn
        peer unsent := by
  refine h.of_eq ?_ ?_ ?_ ?_
  · rcases copyShut_eq side s.conn own theirs with
      ⟨_, _, hEq⟩
    show (copyShut own theirs side s.conn).rb peer = _
    rw [hEq]
    cases peer <;> rfl
  · exact fdOf_copyShut side s.conn peer.other
  · exact (copyShut_opens hOwn hTheirs s.conn side peer).1
  · exact (copyShut_opens hOwn hTheirs s.conn side
      peer.other).2

/-
  A stream that has stopped stays so: the calls that would
  change its buffer are not asked for.
-/
theorem Stopped.relay
    (h : Stopped s.conn peer unsent)
    (hSide : s.conn.fdOf side ≠ -1)
    (hAsked : RelayAsked side s t) :
    Stopped t.conn peer unsent := by
  rcases hAsked with ⟨hRead, hCall⟩ | ⟨hWrite, hCall⟩
  · have hOpen : s.conn.OpenRead side :=
      ((Bool.and_eq_true _ _).mp hRead).1
    have hOther : peer = side.other := by
      rcases Side.eq_or_eq_other side peer with hSelf | hOther
      · rw [← hSelf] at hOpen
        exact absurd hOpen h.unread
      · exact hOther
    rcases hCall with hEnded | ⟨bytes, hGot⟩
    · rw [hEnded]
      exact h.shut clearRead_opens clearWrite_opens side _
    · rcases copyGot_eq side bytes s with
        ⟨m, parser, found, hEq, _⟩
      rw [hGot, hEq]
      refine h.of_eq ?_ ?_ ?_ ?_
      · rw [hOther]
        exact Conn.rb_setRb_other s.conn side _
      · cases side <;> cases peer <;> rfl
      · cases side <;> exact id
      · cases side <;> exact id
  · have hOpen : s.conn.OpenWrite side :=
      ((Bool.and_eq_true _ _).mp hWrite).1
    have hSelf : side = peer := by
      rcases Side.eq_or_eq_other peer side with hSelf | hOther
      · exact hSelf
      · rw [hOther] at hOpen hSide
        rcases h.unwritten with hNot | hNone
        · exact absurd hOpen hNot
        · exact absurd hNone hSide
    subst hSelf
    rcases hCall with hFailed | ⟨n, hSent⟩
    · rw [hFailed]
      exact h.shut clearWrite_opens clearRead_opens side _
    · rw [hSent]
      refine h.of_eq ?_ ?_ ?_ ?_
      · cases side <;> rfl
      · cases side <;> rfl
      · cases side <;> exact id
      · cases side <;> exact id

/- The end of a stream stops it with what is pending. -/
theorem copyEnded_stopped
    (hCopying : Copying s.conn)
    (side : Side) :
    Stopped (copyEnded side s).conn side
      (s.conn.rb side).pending := by
  refine ⟨?_, ?_, ?_⟩
  · rcases copyShut_eq side s.conn Interest.clearRead
      Interest.clearWrite with ⟨_, _, hEq⟩
    show ((copyShut Interest.clearRead Interest.clearWrite
      side s.conn).rb side).pending = _
    rw [hEq]
    cases side <;> rfl
  · show ¬ ((copyShut Interest.clearRead Interest.clearWrite
      side s.conn).copySt side).interest.read = true
    rw [copyShut_self]
    exact Bool.false_ne_true
  · by_cases hNone : s.conn.fdOf side.other = -1
    · right
      exact (fdOf_copyShut side s.conn side.other).trans hNone
    · left
      rw [← hCopying.fds side.other] at hNone
      show ¬ ((copyShut Interest.clearRead Interest.clearWrite
        side s.conn).copySt side.other).interest.write = true
      rw [copyShut_other side s.conn hNone]
      exact Bool.false_ne_true

/- Only `copy_read` notes that a stream has ended. -/
theorem Relay.eofs
    (h : Relay side s t) :
    ∃ events, t.conn.log = s.conn.log ++ events ∧
      ∀ peer unsent, .eof peer unsent ∈ events →
        t = copyEnded side s ∧ peer = side ∧
          unsent = (s.conn.rb side).pending := by
  cases h with
  | ended =>
      have hLog := copyEnded_log side s
      refine ⟨_, hLog, ?_⟩
      intro peer unsent hIn
      injection List.mem_singleton.mp hIn with hPeer hUnsent
      exact ⟨rfl, hPeer, hUnsent⟩
  | got bytes hSome hRoom =>
      rcases copyGot_eq side bytes s with
        ⟨m, parser, found, hEq, hFound⟩
      rw [hEq]
      refine ⟨_, rfl, ?_⟩
      intro peer unsent hIn
      rcases List.mem_cons.mp hIn with hBad | hBad
      · nomatch hBad
      · exact (hFound _ hBad).elim
  | sendFailed =>
      have hLog := copySendFailed_log side s
      refine ⟨_, hLog, ?_⟩
      intro peer unsent hIn
      nomatch List.mem_singleton.mp hIn
  | sent n =>
      have hLog := copySent_log side n s
      refine ⟨_, hLog, ?_⟩
      intro peer unsent hIn
      nomatch List.mem_singleton.mp hIn

/- One call keeps the streams that have ended stopped. -/
theorem Flow.relay
    (h : Flow c s.conn)
    (hCopying : Copying s.conn)
    (hSide : s.conn.fdOf side ≠ -1)
    (hRelay : Relay side s t)
    (hAsked : RelayAsked side s t) : Flow c t.conn where
  passed := h.passed.trans hRelay.passed
  stopped := by
    intro peer unsent hIn
    rcases hRelay.eofs with ⟨events, hLog, hEofs⟩
    rw [Conn.since_append h.passed hLog] at hIn
    rcases List.mem_append.mp hIn with hOld | hNew
    · exact (h.stopped peer unsent hOld).relay hSide hAsked
    · rcases hEofs peer unsent hNew with
        ⟨hEnded, hPeer, hUnsent⟩
      rw [hEnded, hPeer, hUnsent]
      exact copyEnded_stopped hCopying side

/- So does the entry into another state. -/
theorem Flow.enters
    (h : Flow c s.conn)
    (next : Nat)
    (parser : Option RequestParser) :
    Flow c (entered next
      { s with conn.request.parser := parser }).conn where
  passed := by
    refine h.passed.trans (.of_mute (.single rfl ?_) rfl rfl)
    exact fun _ => ⟨rfl, rfl⟩
  stopped := by
    intro peer unsent hIn
    have hLog : (entered next { s with
        conn.request.parser := parser }).conn.log =
          s.conn.log ++ [.enter next] := rfl
    rw [Conn.since_append h.passed hLog] at hIn
    rcases List.mem_append.mp hIn with hOld | hNew
    · refine (h.stopped peer unsent hOld).of_eq ?_ ?_ id id
      · cases peer <;> rfl
      · cases peer <;> rfl
    · nomatch List.mem_singleton.mp hNew

theorem Flow.refl
    (c : Conn) : Flow c c where
  passed := .of_mute (.of_eq rfl) rfl rfl
  stopped := by
    intro peer unsent hIn
    rw [c.since_self] at hIn
    nomatch hIn

/- Relaying keeps the account, with any dissectors. -/
theorem flow_kept
    (c : Conn) :
    KeptByRelay (fun _ => True) (Flow c) where
  relay _ _ _ _ hCopying hSide hRelay hAsked h :=
    h.relay hCopying hSide hRelay hAsked
  enters next _ parser h := h.enters next parser

end Calls

end Socks5d

------------------------------------------------------------
-- Whole Runs
------------------------------------------------------------

namespace Socks5d

/- A step of the server. -/
def Steps (w w' : World) : Prop :=
  ∃ l, server.step w l w'

section Runs

variable {w w' : World}
variable {k : ConnId}

/-
  From any moment of relaying on, and for a peer whose
  stream has ended since then with some bytes pending: all
  that was read from it has been sent to the other one if and
  only if there were none.
-/
theorem handed_over_iff
    (hReach : server.Reachable w)
    (hOld : k < w.next)
    (hSocks : (w.conn k).isSocks = true)
    (hCopy : (w.conn k).current = some COPY)
    (hRun : Relation.ReflTransGen Steps w w')
    {peer : Side}
    {unsent : List UInt8}
    (hEof : .eof peer unsent ∈
      (w.conn k).since (w'.conn k)) :
    (w.conn k).HandedOver peer (w'.conn k) ↔
      unsent = [] := by
  have hWith : Relation.ReflTransGen
      (StepWith fun _ => True) w w' :=
    Relation.ReflTransGen.mono
      (fun _ _ hStep => ⟨trivial, hStep⟩) _ _ hRun
  have hFlow := ((flow_kept (w.conn k)).run hReach hOld
    hSocks hCopy (Flow.refl _) hWith).2.kept
  rw [hFlow.passed.handedOver_iff peer,
    (hFlow.stopped peer unsent hEof).left]

theorem steps_runTo
    (labels : List Label)
    (w : World) :
    Relation.ReflTransGen Steps w (runTo labels w) := by
  induction labels generalizing w with
  | nil => exact .refl
  | cons l rest ih =>
      unfold runTo
      by_cases hEnabled : Enabled w l = true
      · rw [if_pos hEnabled]
        exact .head ⟨l, hEnabled, rfl⟩ (ih _)
      · rw [if_neg hEnabled]
        exact ih _

end Runs

/- Three bytes that are sent on, then both streams end. -/
def drainedRun : List Label := [
  relayedLabel, .write 6 { send := some 100 },
  .read 5 { recv := some [] }, .read 6 { recv := some [] }]

/- The same, but the origin server is slow. -/
def undrainedRun : List Label := [
  relayedLabel, .read 5 { recv := some [] },
  .read 6 { recv := some [] }]

theorem handed_over_iff_drained :
    let w := relayingWorld []
    let w' := runTo drainedRun w
    bytesFrom .client ((w.conn 0).since (w'.conn 0)) =
        [1, 2, 3] ∧
      (w'.conn 0).current = some DONE ∧
      ((w.conn 0).HandedOver .client (w'.conn 0) ↔
        ([] : List UInt8) = []) := by
  intro w w'
  have hReach : server.Reachable w :=
    relayingWorld_reachable []
  have hRun : Relation.ReflTransGen Steps w w' :=
    steps_runTo drainedRun w
  have hEof : .eof .client [] ∈
      (w.conn 0).since (w'.conn 0) := by decide +kernel
  exact ⟨by decide +kernel, by decide +kernel,
    handed_over_iff hReach (by decide +kernel)
      (by decide +kernel) (by decide +kernel) hRun hEof⟩

/- Three bytes are read and no `send` fails, and at `DONE`
  nothing has been sent. -/
theorem handed_over_iff_undrained :
    let w := relayingWorld []
    let w' := runTo undrainedRun w
    server.Reachable w ∧ (w.conn 0).isSocks = true ∧
      (w.conn 0).CopyBegins ∧
      Relation.ReflTransGen Steps w w' ∧
      .eof .client [1, 2, 3] ∈
        (w.conn 0).since (w'.conn 0) ∧
      (∀ peer, .sendError peer ∉ (w'.conn 0).log) ∧
      (w'.conn 0).current = some DONE ∧
      bytesFrom .client ((w.conn 0).since (w'.conn 0)) =
        [1, 2, 3] ∧
      bytesTo .origin ((w.conn 0).since (w'.conn 0)) = [] ∧
      ¬ (w.conn 0).HandedOver .client (w'.conn 0) := by
  intro w w'
  have hBegins : (w.conn 0).CopyBegins := by
    unfold Conn.CopyBegins
    decide +kernel
  have hNone : ∀ peer, .sendError peer ∉
      (w'.conn 0).log := by
    intro peer
    cases peer <;> decide +kernel
  refine ⟨relayingWorld_reachable [], by decide +kernel,
    hBegins, steps_runTo undrainedRun w, by decide +kernel,
    hNone, by decide +kernel, by decide +kernel,
    by decide +kernel, ?_⟩
  unfold Conn.HandedOver
  decide +kernel

end Socks5d
