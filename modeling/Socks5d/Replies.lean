import Socks5d.ConnRuns

/-
  What the reply states put on the wire, however few bytes
  each `send` takes.

  Main declarations:
    * `ReplyState` and `ReplyState.write`
    * `Answering`
    * `replies_once_iff`
    * `userpassRead_written`
-/

------------------------------------------------------------
-- The Handlers
------------------------------------------------------------

namespace Socks5d

/- The states in which a reply is sent. -/
inductive ReplyState where
  | hello
  | userpass
  | request
  | mngRequest
deriving DecidableEq

namespace ReplyState

def state : ReplyState → Nat
| hello => HELLO_WRITE
| userpass => USERPASS_WRITE
| request => REQUEST_WRITE
| mngRequest => MNG_REQUEST_WRITE

/- `on_write_ready` -/
def write : ReplyState → Key → Answers → St → St × Nat
| hello => helloWrite
| userpass => authWrite
| request => requestWrite
| mngRequest => mngRequestWrite

/- Where the state goes when `send` has failed. -/
def error
    (s : St) : ReplyState → Nat
| hello => s.conn.errorState
| userpass => s.conn.errorState
| request => ERROR
| mngRequest => MNG_ERROR

/- Only `auth_write` builds its reply in every call. -/
def prepare
    (s : St) : ReplyState → St
| userpass => authReply s
| _ => s

/- The reply of a connection that has entered the state. -/
def reply
    (c : Conn) : ReplyState → List UInt8
| userpass => [userpassMethodVersion, c.authentication]
| _ => c.writeBuffer.pending

end ReplyState

/- The bytes that a `send` took. -/
def Ev.sent : Ev → List UInt8
| .send _ bytes => bytes
| _ => []

/- All bytes that were put on the wire. -/
def Conn.wire (c : Conn) : List UInt8 :=
  c.log.flatMap Ev.sent

/- These, and the bytes that wait for `send`. -/
def Conn.replied (c : Conn) : List UInt8 :=
  c.wire ++ c.writeBuffer.pending

/-
  The calls between the entry and the exit of a reply state,
  with the answers of the system: what the connections share
  may change in between, and the state is left without error.
-/
inductive Answering
    (kind : ReplyState)
    (key : Key) : St → List Answers → St → Prop where
  | leave
      (s : St)
      (a : Answers)
      (hLeaves : (kind.write key a s).2 ≠ kind.state)
      (hFine : (kind.write key a s).2 ≠ kind.error s) :
      Answering kind key s [a] (kind.write key a s).1
  | again
      (s : St)
      (a : Answers)
      (hStays : (kind.write key a s).2 = kind.state)
      (t : St)
      (hSame : t.conn = (kind.write key a s).1.conn)
      (rest : List Answers)
      (u : St)
      (hRest : Answering kind key t rest u) :
      Answering kind key s (a :: rest) u

end Socks5d

------------------------------------------------------------
-- One Call
------------------------------------------------------------

namespace Socks5d

/- An event that is no `send` leaves the wire alone. -/
theorem St.note_wire
    (s : St)
    {event : Ev}
    (hSent : event.sent = []) :
    (s.note event).conn.wire = s.conn.wire := by
  unfold Conn.wire
  show (s.conn.log ++ [event]).flatMap Ev.sent = _
  rw [List.flatMap_append, List.flatMap_singleton, hSent,
    List.append_nil]

section Calls

variable {kind : ReplyState}
variable {key : Key}
variable {a : Answers}
variable {s t u : St}
variable {answers : List Answers}
variable {n : Nat}

/- The room of a buffer does not shrink while it is read. -/
theorem Buffer.room_readAdv
    {limit : Nat}
    (b : Buffer limit)
    (n : Nat) : b.room ≤ (b.readAdv n).room := by
  have hFits := b.fits
  by_cases hAll : b.pending.drop n = []
  · unfold Buffer.room Buffer.readAdv
    simp only [hAll, if_true, List.length_nil]
    omega
  · have hLess : n < b.pending.length := by
      by_contra hNot
      exact hAll (List.drop_eq_nil_of_le (Nat.not_lt.mp hNot))
    unfold Buffer.room Buffer.readAdv
    simp only [hAll, if_false, List.length_drop]
    omega

/- `send` moves bytes from the buffer to the wire. -/
theorem sendPending_wire
    (key : Key)
    (n : Nat)
    (s : St) :
    (sendPending key n s).conn.wire =
        s.conn.wire ++ s.conn.writeBuffer.pending.take n ∧
      (sendPending key n s).conn.writeBuffer.pending =
        s.conn.writeBuffer.pending.drop n ∧
      (sendPending key n s).conn.authentication =
        s.conn.authentication ∧
      s.conn.writeBuffer.room ≤
        (sendPending key n s).conn.writeBuffer.room := by
  refine ⟨?_, ?_, rfl, ?_⟩
  · unfold Conn.wire
    show (s.conn.log ++ [Ev.send _ _]).flatMap Ev.sent = _
    rw [List.flatMap_append]
    congr 1
    exact List.append_nil _
  · show s.conn.writeBuffer.pending.drop
      (s.conn.writeBuffer.pending.take n).length = _
    rw [List.length_take]
    rcases Nat.le_total n s.conn.writeBuffer.pending.length with
      hLe | hGe
    · rw [Nat.min_eq_left hLe]
    · rw [Nat.min_eq_right hGe, List.drop_length,
        List.drop_eq_nil_of_le hGe]
  · exact Buffer.room_readAdv _ _

theorem sendPending_replied
    (key : Key)
    (n : Nat)
    (s : St) :
    (sendPending key n s).conn.replied = s.conn.replied := by
  rcases sendPending_wire key n s with ⟨hWire, hLeft, _⟩
  unfold Conn.replied
  rw [hWire, hLeft, List.append_assoc, List.take_append_drop]

/-
  A call of `send` that takes `n` of the pending bytes, fewer
  than there are: they are on the wire, and the rest is left.
-/
structure ShortSend
    (wire pending : List UInt8)
    (n : Nat)
    (d : Conn) : Prop where
  short : n < pending.length
  wire : d.wire = wire ++ pending.take n
  left : d.writeBuffer.pending = pending.drop n

theorem sendPending_short
    {key : Key}
    {n : Nat}
    (hLeft : (sendPending key n
      s).conn.writeBuffer.pending ≠ []) :
    ShortSend s.conn.wire s.conn.writeBuffer.pending n
      (sendPending key n s).conn := by
  rcases sendPending_wire key n s with ⟨hWire, hRest, _⟩
  refine ⟨?_, hWire, hRest⟩
  rw [hRest] at hLeft
  by_contra hAll
  exact hLeft (List.drop_eq_nil_of_le (Nat.not_lt.mp hAll))

/- `auth_reply` appends its two bytes if there is room. -/
theorem authReply_stored
    (hRoom : 2 ≤ s.conn.writeBuffer.room) :
    authReply s =
      { s with
        conn.writeBuffer := s.conn.writeBuffer.writeAdv
          [userpassMethodVersion, s.conn.authentication] } := by
  unfold authReply marshalPair
  rw [if_neg (Nat.not_lt.mpr hRoom)]

theorem authReply_pending
    (hRoom : 2 ≤ s.conn.writeBuffer.room) :
    (authReply s).conn.writeBuffer.pending =
      s.conn.writeBuffer.pending ++
        [userpassMethodVersion, s.conn.authentication] := by
  rw [authReply_stored hRoom, Buffer.writeAdv_pending,
    List.take_of_length_le hRoom]

theorem authReply_wire
    (s : St) :
    (authReply s).conn.wire = s.conn.wire ∧
      (authReply s).conn.authentication =
        s.conn.authentication := by
  rcases authReply_eq s with ⟨wb, hReply⟩
  rw [hReply]
  exact ⟨rfl, rfl⟩

theorem authReply_replied
    (s : St) :
    ∃ more, (authReply s).conn.replied =
      s.conn.replied ++ more := by
  by_cases hRoom : 2 ≤ s.conn.writeBuffer.room
  · refine ⟨[userpassMethodVersion, s.conn.authentication],
      ?_⟩
    unfold Conn.replied
    rw [(authReply_wire s).1, authReply_pending hRoom,
      List.append_assoc]
  · have hSame : authReply s = s := by
      unfold authReply marshalPair
      rw [if_pos (Nat.not_le.mp hRoom)]
    exact ⟨[], by rw [hSame, List.append_nil]⟩

/-
  One call of a reply state: without an error it sends what
  is prepared, and it stays while bytes are left.
-/
theorem ReplyState.write_sends
    (kind : ReplyState)
    (hFine : (kind.write key a s).2 ≠ kind.error s) :
    ∃ n, a.send = some n ∧
      (kind.write key a s).1.conn =
        (sendPending key n (kind.prepare s)).conn ∧
      ((sendPending key n
          (kind.prepare s)).conn.writeBuffer.pending ≠ [] →
        (kind.write key a s).2 = kind.state) := by
  have hService : (authReply s).conn.errorState =
      s.conn.errorState := by
    rcases authReply_eq s with ⟨wb, hReply⟩
    rw [hReply]
    rfl
  cases hSend : a.send with
  | none =>
      exfalso
      apply hFine
      cases kind with
      | hello =>
          show (helloWrite key a s).2 = _
          unfold helloWrite
          rw [hSend]
          rfl
      | userpass =>
          show (authWrite key a s).2 = _
          unfold authWrite
          rw [hSend]
          exact hService
      | request =>
          show (requestWrite key a s).2 = _
          unfold requestWrite
          rw [hSend]
          rfl
      | mngRequest =>
          show (mngRequestWrite key a s).2 = _
          unfold mngRequestWrite
          rw [hSend]
          rfl
  | some n =>
      refine ⟨n, rfl, ?_, ?_⟩
      · cases kind with
        | hello =>
            show (helloWrite key a s).1.conn = _
            unfold helloWrite
            rw [hSend]
            dsimp only
            repeat' split
            all_goals rfl
        | userpass =>
            show (authWrite key a s).1.conn = _
            unfold authWrite
            rw [hSend]
            dsimp only
            repeat' split
            all_goals rfl
        | request =>
            show (requestWrite key a s).1.conn = _
            unfold requestWrite
            rw [hSend]
            dsimp only
            repeat' split
            all_goals rfl
        | mngRequest =>
            show (mngRequestWrite key a s).1.conn = _
            unfold mngRequestWrite
            rw [hSend]
            dsimp only
            repeat' split
            all_goals rfl
      · intro hLeft
        have hRead := (Buffer.canRead_eq_true_iff _).mpr hLeft
        cases kind with
        | hello =>
            show (helloWrite key a s).2 = _
            unfold helloWrite
            rw [hSend]
            exact congrArg Prod.snd (if_pos hRead)
        | userpass =>
            show (authWrite key a s).2 = _
            unfold authWrite
            rw [hSend]
            exact congrArg Prod.snd (if_pos hRead)
        | request =>
            show (requestWrite key a s).2 = _
            unfold requestWrite
            rw [hSend]
            exact congrArg Prod.snd (if_pos hRead)
        | mngRequest =>
            show (mngRequestWrite key a s).2 = _
            unfold mngRequestWrite
            rw [hSend]
            exact congrArg Prod.snd (if_pos hRead)

/- A state is left for another one than itself. -/
theorem ReplyState.state_ne_error
    (kind : ReplyState)
    (s : St) : kind.state ≠ kind.error s := by
  cases kind with
  | hello =>
      exact (s.conn.over_ne HELLO_WRITE (by decide)).1.symm
  | userpass =>
      exact (s.conn.over_ne USERPASS_WRITE (by decide)).1.symm
  | request =>
      show REQUEST_WRITE ≠ ERROR
      decide
  | mngRequest =>
      show MNG_REQUEST_WRITE ≠ MNG_ERROR
      decide

/- `auth_write` stays only while bytes are left. -/
theorem authWrite_leaves
    (hSend : a.send = some n)
    (hSent : (sendPending key n
      (authReply s)).conn.writeBuffer.pending = []) :
    (authWrite key a s).2 ≠ USERPASS_WRITE := by
  have hRead := (Buffer.canRead_eq_false_iff _).mpr hSent
  have hNot : ¬ (sendPending key n
      (authReply s)).conn.writeBuffer.canRead = true := by
    rw [hRead]
    exact Bool.false_ne_true
  unfold authWrite
  rw [hSend]
  dsimp only
  rw [if_neg hNot]
  split
  · exact (Conn.over_ne _ USERPASS_WRITE (by decide)).2
  · split
    · show REQUEST_READ ≠ USERPASS_WRITE
      decide
    · exact (Conn.over_ne _ USERPASS_WRITE (by decide)).1

end Calls

end Socks5d

------------------------------------------------------------
-- The Run
------------------------------------------------------------

namespace Socks5d

section Runs

variable {kind : ReplyState}
variable {key : Key}
variable {a : Answers}
variable {s t u : St}
variable {answers : List Answers}

/-
  All that was prepared is on the wire when the state is
  left, and more only where a call prepares more. The
  induction is on the calls.
-/
theorem Answering.total
    (h : Answering kind key s answers u) :
    ∃ more, u.conn.wire =
        (kind.prepare s).conn.replied ++ more ∧
      (kind ≠ .userpass → more = []) := by
  induction h with
  | leave s a hLeaves hFine =>
      rcases kind.write_sends hFine with
        ⟨n, _, hConn, hStays⟩
      have hSent : (sendPending key n (kind.prepare
          s)).conn.writeBuffer.pending = [] := by
        by_contra hLeft
        exact hLeaves (hStays hLeft)
      refine ⟨[], ?_, fun _ => rfl⟩
      have hAll := sendPending_replied key n (kind.prepare s)
      unfold Conn.replied at hAll ⊢
      rw [hSent, List.append_nil] at hAll
      rw [hConn, hAll, List.append_nil]
  | again s a hStays t hSame rest u hRest ih =>
      have hFine : (kind.write key a s).2 ≠ kind.error s := by
        rw [hStays]
        exact kind.state_ne_error s
      rcases kind.write_sends hFine with ⟨n, _, hConn, _⟩
      have hAll := sendPending_replied key n (kind.prepare s)
      rcases ih with ⟨more, hWire, hNone⟩
      rw [← hConn, ← hSame] at hAll
      by_cases hKind : kind = .userpass
      · subst hKind
        rcases authReply_replied t with ⟨again, hAgain⟩
        refine ⟨again ++ more, ?_, fun hBad =>
          absurd rfl hBad⟩
        rw [hWire, ← List.append_assoc]
        congr 1
        exact hAgain.trans (congrArg (· ++ again) hAll)
      · refine ⟨more, ?_, fun _ => hNone hKind⟩
        have hPlain : ∀ v : St, kind.prepare v = v := by
          intro v
          cases kind with
          | userpass => exact absurd rfl hKind
          | _ => rfl
        rw [hPlain] at hWire hAll ⊢
        rw [hWire, hAll]

/- With a first `send` that takes less, the reply is doubled. -/
theorem Answering.doubled
    (hStays : (authWrite key a s).2 = USERPASS_WRITE)
    (hEmpty : s.conn.writeBuffer.pending = [])
    (hSame : t.conn = (authWrite key a s).1.conn)
    (hRest : Answering .userpass key t answers u) :
    ∃ more, u.conn.wire = s.conn.wire ++
      [userpassMethodVersion, s.conn.authentication] ++
        [userpassMethodVersion, s.conn.authentication] ++
          more := by
  have hFine : (ReplyState.userpass.write key a s).2 ≠
      ReplyState.userpass.error s := by
    have hIs : (ReplyState.userpass.write key a s).2 =
        USERPASS_WRITE := hStays
    rw [hIs]
    exact ReplyState.userpass.state_ne_error s
  rcases ReplyState.userpass.write_sends hFine with
    ⟨n, _, hConn, _⟩
  have hConn' : t.conn =
      (sendPending key n (authReply s)).conn :=
    hSame.trans hConn
  have hRoom : s.conn.writeBuffer.room = rawBuffSize :=
    Buffer.room_of_pending_nil hEmpty
  have hSpace : 2 ≤ s.conn.writeBuffer.room := by
    rw [hRoom]
    decide
  have hPending := authReply_pending hSpace
  rw [hEmpty, List.nil_append] at hPending
  have hLeft : 2 ≤ (authReply s).conn.writeBuffer.room := by
    have hRead := s.conn.writeBuffer.compacted hEmpty
    unfold Buffer.room
    rw [hPending, authReply_stored hSpace]
    show 2 ≤ 2048 - (s.conn.writeBuffer.read + 2)
    omega
  rcases sendPending_wire key n (authReply s) with
    ⟨_, _, hKept, hMore⟩
  have hAgain : 2 ≤ t.conn.writeBuffer.room := by
    rw [hConn']
    exact Nat.le_trans hLeft hMore
  have hSecond : (authReply t).conn.replied =
      t.conn.replied ++
        [userpassMethodVersion, t.conn.authentication] := by
    unfold Conn.replied
    rw [(authReply_wire t).1, authReply_pending hAgain,
      List.append_assoc]
  rcases hRest.total with ⟨more, hTotal, _⟩
  refine ⟨more, ?_⟩
  rw [hTotal]
  have hFirst : t.conn.replied = s.conn.wire ++
      [userpassMethodVersion, s.conn.authentication] := by
    have hAll := sendPending_replied key n (authReply s)
    rw [← hConn'] at hAll
    rw [hAll]
    unfold Conn.replied
    rw [(authReply_wire s).1, hPending]
  have hAuth : t.conn.authentication =
      s.conn.authentication := by
    rw [hConn', hKept, (authReply_wire s).2]
  show (authReply t).conn.replied ++ more = _
  rw [hSecond, hFirst, hAuth]

/-
  Between the entry of a reply state and its exit without an
  error, the reply is put on the wire exactly once, if and
  only if the state is not `USERPASS_WRITE` or its first
  `send` takes both bytes: `auth_write` builds the reply again
  in every call. The write buffer is empty when that state is
  entered (`userpassRead_written`).
-/
theorem replies_once_iff
    (h : Answering kind key s answers u)
    (hEntered : kind = .userpass →
      s.conn.writeBuffer.pending = []) :
    u.conn.wire = s.conn.wire ++ kind.reply s.conn ↔
      (kind = .userpass →
        ∃ a rest n, answers = a :: rest ∧ a.send = some n ∧
          2 ≤ n) := by
  by_cases hKind : kind = .userpass
  · subst hKind
    have hEmpty := hEntered rfl
    have hRoom : s.conn.writeBuffer.room = rawBuffSize :=
      Buffer.room_of_pending_nil hEmpty
    have hSpace : 2 ≤ s.conn.writeBuffer.room := by
      rw [hRoom]
      decide
    have hPending := authReply_pending hSpace
    rw [hEmpty, List.nil_append] at hPending
    have hOnce : (authReply s).conn.replied = s.conn.wire ++
        [userpassMethodVersion, s.conn.authentication] := by
      unfold Conn.replied
      rw [(authReply_wire s).1, hPending]
    cases h with
    | leave _ a hLeaves hFine =>
        rcases ReplyState.userpass.write_sends hFine with
          ⟨n, hSend, hConn, hStays⟩
        have hSent : (sendPending key n
            (authReply s)).conn.writeBuffer.pending = [] := by
          by_contra hLeft
          exact hLeaves (hStays hLeft)
        have hAll := sendPending_replied key n (authReply s)
        constructor
        · intro _ _
          refine ⟨a, [], n, rfl, hSend, ?_⟩
          rw [(sendPending_wire key n (authReply s)).2.1,
            hPending] at hSent
          exact List.drop_eq_nil_iff.mp hSent
        · intro _
          rw [hConn]
          have hLast := hAll.trans hOnce
          unfold Conn.replied at hLast
          rw [hSent, List.append_nil] at hLast
          exact hLast
    | again _ a hStays t hSame rest _ hRest =>
        constructor
        · intro hBad
          rcases Answering.doubled hStays hEmpty hSame hRest with
            ⟨more, hTwice⟩
          have hLength := congrArg List.length
            (hBad.symm.trans hTwice)
          simp only [ReplyState.reply, List.length_append,
            List.length_cons, List.length_nil] at hLength
          omega
        · intro hWhole
          rcases hWhole rfl with ⟨b, more, n, hIs, hSend, hTwo⟩
          have hHere : a = b := (List.cons.inj hIs).1
          rw [← hHere] at hSend
          have hSent : (sendPending key n
              (authReply s)).conn.writeBuffer.pending =
                [] := by
            rw [(sendPending_wire key n (authReply s)).2.1,
              hPending]
            exact List.drop_eq_nil_of_le hTwo
          exact absurd hStays (authWrite_leaves hSend hSent)
  · have hPlain : kind.prepare s = s ∧
        kind.reply s.conn = s.conn.writeBuffer.pending := by
      cases kind with
      | userpass => exact absurd rfl hKind
      | _ => exact ⟨rfl, rfl⟩
    rcases h.total with ⟨more, hWire, hNone⟩
    rw [hNone hKind, List.append_nil, hPlain.1] at hWire
    constructor
    · intro _ hBad
      exact absurd hBad hKind
    · intro _
      rw [hPlain.2]
      exact hWire

end Runs

/- A client that has sent its password. -/
def passwordWorld : World :=
  runTo [
      .read 3 { accept := some 5 },
      .read 5 { recv := some [5, 1, 2] },
      .write 5 { send := some 100 },
      .read 5 { recv := some [1, 1, 0x61, 1, 0x62] }]
    (smallServer methodUsernamePassword
      (UserTable.push ⟨fun _ => {}, 0⟩
        { name := some [0x61], pass := some [0x62] })
      ⟨fun _ => {}, 0⟩)

/- Both bytes are taken at once. -/
theorem replies_once_whole :
    (authWrite ⟨5, 0⟩ { send := some 2 }
        (passwordWorld.view 0)).1.conn.wire =
      (passwordWorld.conn 0).wire ++ [0x01, 0x00] := by
  have hRun : Answering .userpass ⟨5, 0⟩
      (passwordWorld.view 0) [{ send := some 2 }]
      (authWrite ⟨5, 0⟩ { send := some 2 }
        (passwordWorld.view 0)).1 := by
    refine Answering.leave _ _ ?_ ?_
    · show (authWrite _ _ _).2 ≠ USERPASS_WRITE
      decide +kernel
    · show (authWrite _ _ _).2 ≠ Conn.errorState _
      decide +kernel
  have hAll := (replies_once_iff hRun (fun _ => by
    decide +kernel)).mpr fun _ =>
      ⟨_, [], 2, rfl, rfl, Nat.le_refl 2⟩
  have hReply : ReplyState.userpass.reply
      (passwordWorld.view 0).conn = [0x01, 0x00] := by
    decide +kernel
  rw [hReply] at hAll
  exact hAll

/- The first `send` takes one of the two bytes. -/
theorem replies_twice :
    server.Reachable passwordWorld ∧
      (passwordWorld.conn 0).current = some USERPASS_WRITE ∧
      (passwordWorld.conn 0).writeBuffer.pending = [] ∧
      ∃ u, Answering .userpass ⟨5, 0⟩ (passwordWorld.view 0)
          [{ send := some 1 }, { send := some 3 }] u ∧
        u.conn.wire = (passwordWorld.conn 0).wire ++
          [0x01, 0x00, 0x01, 0x00] := by
  refine ⟨?_, by decide +kernel, by decide +kernel, ?_⟩
  · exact reachable_runTo _
      (.init (smallServer_initial _ _ (by decide) (Or.inr rfl)))
  · let first := (authWrite ⟨5, 0⟩ { send := some 1 }
      (passwordWorld.view 0)).1
    let second := (authWrite ⟨5, 0⟩ { send := some 3 }
      first).1
    refine ⟨second, ?_, ?_⟩
    · refine .again _ _ ?_ first rfl _ _ ?_
      · show (authWrite _ _ _).2 = USERPASS_WRITE
        decide +kernel
      · refine Answering.leave _ _ ?_ ?_
        · show (authWrite _ _ _).2 ≠ USERPASS_WRITE
          decide +kernel
        · show (authWrite _ _ _).2 ≠ Conn.errorState _
          decide +kernel
    · decide +kernel

end Socks5d

------------------------------------------------------------
-- The Entry
------------------------------------------------------------

namespace Socks5d

section Entering

variable {k : ConnId}
variable {key : Key}
variable {a : Answers}
variable {s u : St}
variable {r : St × Nat}
variable {attached : Attachment}

theorem HelloRead.ne_userpassRead
    (h : HelloRead key a s attached r) :
    r.2 ≠ USERPASS_READ := by
  have hError := (s.conn.over_ne USERPASS_READ
    (by decide)).1
  cases h with
  | failed => exact hError
  | ended => exact hError
  | refused => exact hError
  | more =>
      show HELLO_READ ≠ USERPASS_READ
      decide
  | answered =>
      show HELLO_WRITE ≠ USERPASS_READ
      decide

theorem AuthWrite.ne_userpassRead
    (h : AuthWrite key a s attached r) :
    r.2 ≠ USERPASS_READ := by
  have hOver := (authReply s).conn.over_ne USERPASS_READ
    (by decide)
  cases h with
  | failed => exact hOver.1
  | refused => exact hOver.2
  | more =>
      show USERPASS_WRITE ≠ USERPASS_READ
      decide
  | passed =>
      show REQUEST_READ ≠ USERPASS_READ
      decide

/- `hello_write` goes on when everything has been sent. -/
theorem HelloWrite.written
    (h : HelloWrite key a s attached r)
    (hNext : r.2 = USERPASS_READ) :
    r.1.conn.writeBuffer.pending = [] := by
  have hOver := s.conn.over_ne USERPASS_READ
    (by decide)
  cases h with
  | failed => exact absurd hNext hOver.1
  | refused => exact absurd hNext hOver.2
  | more => nomatch hNext
  | request => nomatch hNext
  | userpass n hSend hSent => exact hSent

/- `auth_read` does not write. -/
theorem AuthRead.written
    (h : AuthRead key a s attached r)
    (hNext : r.2 = USERPASS_READ) :
    r.1.conn.writeBuffer = s.conn.writeBuffer := by
  have hError := (s.conn.over_ne USERPASS_READ
    (by decide)).1
  cases h with
  | failed => exact absurd hNext hError
  | ended => exact absurd hNext hError
  | rejected => exact absurd hNext hError
  | more => rfl
  | answered bytes _ _ _ _ hProcess =>
      cases hProcess with
      | _ => nomatch hNext

theorem authReadInit_written
    (key : Key)
    (a : Answers)
    (s : St) :
    (authReadInit key a s).conn.writeBuffer =
      s.conn.writeBuffer := by
  unfold authReadInit
  split
  · rfl
  · rfl

/- Nothing waits for `send` in `USERPASS_READ`. -/
theorem userpassRead_preserved :
    Preserved fun _ _ c => c.current = some USERPASS_READ →
      c.writeBuffer.pending = [] := by
  constructor
  · intro admins k isSocks client hBad
    nomatch hBad
  · intro admins k c addresses hState _ hBad
    nomatch hState.symm.trans hBad
  · intro k s request hState _ hBad
    nomatch hState.symm.trans hBad
  · intro k key a s _ _ hBad
    have hNow : (helloReadInit key a
        (entered HELLO_READ s)).conn.current =
          some HELLO_READ := by
      unfold helloReadInit
      split
      · rfl
      · rfl
    nomatch hNow.symm.trans hBad
  · intro k key a s r u _ hSound hOwns hTurn hJump hBefore
      hNow
    have hCurrent := hTurn.current hSound hOwns
    generalize hNext : r.2 = next at hJump
    cases hJump with
    | stay _ hState =>
        have hHere := hCurrent.symm.trans hNow
        have hIs : r.2 = USERPASS_READ := hNext.trans
          (Option.some.inj (hState.symm.trans hNow))
        cases hTurn with
        | authRead _ _ _ _ _ hCall =>
            rw [hCall.written hIs]
            exact hBefore hHere
        | helloRead hBad => nomatch hBad.symm.trans hHere
        | helloWrite hBad => nomatch hBad.symm.trans hHere
        | authWrite hBad => nomatch hBad.symm.trans hHere
        | requestRead hBad => nomatch hBad.symm.trans hHere
        | requestResolvDone hBad =>
            nomatch hBad.symm.trans hHere
        | connectingWrite hBad =>
            nomatch hBad.symm.trans hHere
        | requestWrite hBad => nomatch hBad.symm.trans hHere
        | relay hBad => nomatch hBad.symm.trans hHere
    | plain _ hPlain =>
        have hIs : next = USERPASS_READ := Option.some.inj hNow
        rw [hIs] at hPlain
        rcases hPlain with h | h | h | h | h | h <;> nomatch h
    | userpassRead hState =>
        have hHere := hCurrent.symm.trans hState
        rw [authReadInit_written]
        show r.1.conn.writeBuffer.pending = []
        cases hTurn with
        | helloWrite _ _ _ _ _ _ hCall =>
            exact hCall.written hNext
        | helloRead hBad => nomatch hBad.symm.trans hHere
        | authRead hBad => nomatch hBad.symm.trans hHere
        | authWrite hBad => nomatch hBad.symm.trans hHere
        | requestRead hBad => nomatch hBad.symm.trans hHere
        | requestResolvDone hBad =>
            nomatch hBad.symm.trans hHere
        | connectingWrite hBad =>
            nomatch hBad.symm.trans hHere
        | requestWrite hBad => nomatch hBad.symm.trans hHere
        | relay hBad => nomatch hBad.symm.trans hHere
    | requestRead _ _ hInit =>
        have hIs : u.conn.current = some REQUEST_READ := by
          cases hInit with
          | ready => rfl
          | starved => rfl
        nomatch hIs.symm.trans hNow
    | connecting _ parser _ hInit =>
        have hIs : u.conn.current =
            some REQUEST_CONNECTING := hInit.aside.current
        nomatch hIs.symm.trans hNow
    | copy => nomatch hNow
  · intro k key a s r u _ hTurn hJump hBefore hNow
    have hCurrent := hTurn.current
    generalize hNext : r.2 = next at hJump
    cases hJump with
    | stay _ hState =>
        have hHere := hCurrent.symm.trans hNow
        have hIs : r.2 = USERPASS_READ := hNext.trans
          (Option.some.inj (hState.symm.trans hNow))
        cases hTurn with
        | authRead _ _ _ hCall =>
            rw [hCall.written hIs]
            exact hBefore hHere
        | helloRead hBad => nomatch hBad.symm.trans hHere
        | helloWrite hBad => nomatch hBad.symm.trans hHere
        | authWrite hBad => nomatch hBad.symm.trans hHere
        | request state hState hRequest =>
            rw [Option.some.inj (hState.symm.trans hHere)]
              at hRequest
            rcases hRequest with h | h | h <;> nomatch h
    | plain _ hPlain =>
        have hIs : next = USERPASS_READ := Option.some.inj hNow
        rw [hIs] at hPlain
        rcases hPlain with h | h | h | h | h <;> nomatch h
    | userpassRead hOther =>
        rw [authReadInit_written]
        show r.1.conn.writeBuffer.pending = []
        cases hTurn with
        | helloWrite _ _ _ _ _ hCall =>
            exact hCall.written hNext
        | helloRead _ _ _ _ _ hCall =>
            exact absurd hNext hCall.ne_userpassRead
        | authRead hHere =>
            exact absurd (hCurrent.trans hHere) hOther
        | authWrite _ _ _ hCall =>
            exact absurd hNext hCall.ne_userpassRead
        | request state hState hRequest _ _ hCall =>
            exfalso
            cases hCall with
            | stay t next _ _ hSame =>
                have hIs : next = USERPASS_READ := hNext
                rw [← Option.some.inj
                  (hSame.symm.trans hState), hIs] at hRequest
                rcases hRequest with h | h | h <;> nomatch h
            | writes => nomatch hNext
            | reads => nomatch hNext
            | ends t next hOver =>
                have hIs : next = USERPASS_READ := hNext
                rw [hIs] at hOver
                rcases hOver with h | h <;> nomatch h
    | request _ hRequest _ _ hFrame =>
        have hIs : u.conn.current = some next := hFrame.current
        rw [Option.some.inj (hIs.symm.trans hNow)] at hRequest
        rcases hRequest with h | h <;> nomatch h

/-
  In every reachable world the write buffer of a connection
  in `USERPASS_READ` is empty, and `auth_read` does not write:
  so it is when `USERPASS_WRITE` is entered.
-/
theorem userpassRead_written
    {w : World}
    (hReach : server.Reachable w)
    (hOld : k < w.next)
    (hState : (w.conn k).current = some USERPASS_READ) :
    (w.conn k).writeBuffer.pending = [] :=
  conn_invariant userpassRead_preserved hReach hOld hState

end Entering

end Socks5d
