import Socks5d.ConnRuns
import Socks5d.Steady

/-
  Management requests over whole runs: what may change the
  settings that all connections share, and how often.

  Main declarations:
    * `Server.settings`
    * `ParamsRead`, `mngRequestRead_outcome`
    * `mngParamsBlocks`, `ParamsGoing`, `MngReading`
    * `ParamsComplete`, `MngEvent.settings`
    * `Serving`, `Completes`, `mng_atomic`
-/

------------------------------------------------------------
-- Settings
------------------------------------------------------------

namespace Socks5d

/- The users, `auth_method` and `password_dissectors`. -/
def Server.settings
    (srv : Server) : UserTable × UInt8 × UInt8 :=
  (srv.users, srv.authMethod, srv.passwordDissectors)

theorem SameShared.settings
    {x y : Server}
    (h : SameShared x y) : y.settings = x.settings := by
  unfold Server.settings
  rw [h.users, h.authMethod, h.dissectors]

section Settings

variable {k : ConnId}
variable {key : Key}
variable {a : Answers}
variable {s t u : St}

theorem marshal_settings
    (s : St)
    (need : Nat)
    (bytes : List UInt8) :
    (marshal s need bytes).srv.settings =
      s.srv.settings := by
  unfold marshal
  split
  · rfl
  · rfl

theorem mngRefuse_settings
    (key : Key)
    (status : MngReplyStatus)
    (s : St) :
    (mngRefuse key status s).1.srv.settings =
      s.srv.settings :=
  marshal_settings _ _ _

/- An index alone changes nothing. -/
theorem processMngIndex_settings
    (s : St)
    (index : MngIndex) :
    (processMngIndex s index).1.srv.settings =
      s.srv.settings := by
  have hList : (listUsersMngRequestMarshall
      s).srv.settings = s.srv.settings := by
    unfold listUsersMngRequestMarshall
    simp only []
    split
    · split
      · rfl
      · exact marshal_settings _ _ _
    · rfl
  unfold processMngIndex
  simp only []
  split
  · exact marshal_settings _ _ _
  · exact hList
  all_goals first
    | exact marshal_settings _ _ _
    | rfl

theorem mngRequestIndexRead_settings
    (key : Key)
    (a : Answers)
    (s : St) :
    (mngRequestIndexRead key a s).1.srv.settings =
      s.srv.settings := by
  unfold mngRequestIndexRead
  split
  · exact mngRefuse_settings _ _ _
  · split
    · exact mngRefuse_settings _ _ _
    · simp only []
      split
      · rfl
      · generalize consume (s.conn.readBuffer.writeAdv
          ((a.recv.getD []).take 1))
          s.conn.mngRequest.parser = fed
        split
        · split
          · exact mngRefuse_settings _ _ _
          · have hIndex := processMngIndex_settings
              { St.note { s with
                    conn.readBuffer := fed.buffer
                    conn.mngRequest.parser := fed.parser }
                  (.recv (s.conn.sideOf key.fd)
                    ((a.recv.getD []).take 1)) with
                conn.mngRequest.index :=
                  ((fed.parser.resultAt 0).getD []).getD 0 0 }
              (((fed.parser.resultAt 0).getD []).getD 0 0)
            split
            · exact hIndex
            · split
              · exact hIndex
              · exact hIndex
        · rfl

theorem mngRequestWrite_settings
    (key : Key)
    (a : Answers)
    (s : St) :
    (mngRequestWrite key a s).1.srv.settings =
      s.srv.settings := by
  unfold mngRequestWrite
  split
  · rfl
  · simp only []
    split
    · rfl
    · rfl

end Settings

end Socks5d

------------------------------------------------------------
-- Reading The Parameters
------------------------------------------------------------

namespace Socks5d

/- The blocks of the parameters of an index. -/
def mngParamsBlocks (index : MngIndex) :
    Option (List Block) :=
  match index with
  | MngIndex.addUser => some mngRequestIndexAddUserBlocks
  | MngIndex.deleteUser =>
      some mngRequestIndexDeleteUserBlocks
  | MngIndex.disableAuth =>
      some mngRequestIndexYesNoValueBlocks
  | MngIndex.disablePasswordDissectors =>
      some mngRequestIndexYesNoValueBlocks
  | _ => none

/- `recv`, `buffer_write_adv` and `consume` -/
def mngFed
    (key : Key)
    (bytes : List UInt8)
    (s : St) : St :=
  let rb := s.conn.readBuffer.writeAdv bytes
  let fed := consume rb s.conn.mngRequest.parser
  St.note { s with
      conn.readBuffer := fed.buffer
      conn.mngRequest.parser := fed.parser }
    (.recv (s.conn.sideOf key.fd) bytes)

/- The outcomes of `mng_request_read` on a registered client. -/
inductive ParamsRead
    (key : Key)
    (a : Answers)
    (s : St)
    (attached : Attachment) : St × Nat → Prop where
  | refused
      (hStatus : s.conn.mngRequest.status ≠ .succeeded) :
      ParamsRead key a s attached
        (mngRefuse key s.conn.mngRequest.status s)
  | ended
      (hStatus : s.conn.mngRequest.status = .succeeded)
      (hBytes : s.recvBytes a = []) :
      ParamsRead key a s attached
        (s.note (.eof (s.conn.sideOf key.fd) []), MNG_ERROR)
  | more
      (hStatus : s.conn.mngRequest.status = .succeeded)
      (hSome : s.recvBytes a ≠ [])
      (hGoing : isDone (mngFed key (s.recvBytes a)
        s).conn.mngRequest.parser.current = false) :
      ParamsRead key a s attached
        (mngFed key (s.recvBytes a) s, MNG_REQUEST_READ)
  | failed
      (hStatus : s.conn.mngRequest.status = .succeeded)
      (hError : (mngFed key (s.recvBytes a)
        s).conn.mngRequest.parser.current = .errorRead) :
      ParamsRead key a s attached
        ((mngFed key (s.recvBytes a) s).arm key.fd opWrite
          attached, MNG_ERROR)
  | applied
      (hStatus : s.conn.mngRequest.status = .succeeded)
      (hSome : s.recvBytes a ≠ [])
      (hDone : (mngFed key (s.recvBytes a)
        s).conn.mngRequest.parser.current = .doneRead) :
      ParamsRead key a s attached
        (processMngParamsRequest
          ((mngFed key (s.recvBytes a) s).arm key.fd opWrite
            attached), MNG_REQUEST_WRITE)

theorem mngRequestRead_outcome
    {key : Key}
    {s : St}
    {interest : Interest}
    {attached : Attachment}
    (hHas : s.srv.sel.Has key.fd interest attached)
    (a : Answers) :
    ParamsRead key a s attached (mngRequestRead key a s) := by
  unfold mngRequestRead
  by_cases hStatus : s.conn.mngRequest.status ≠ .succeeded
  · rw [if_pos hStatus]
    exact .refused hStatus
  rw [if_neg hStatus]
  rw [not_not] at hStatus
  by_cases hNone : s.recvBytes a = []
  · simp only [hNone, if_true]
    exact .ended hStatus hNone
  simp only [hNone, if_false]
  have hSome : (s.conn.readBuffer.writeAdv
      (s.recvBytes a)).pending ≠ [] := by
    rw [Buffer.writeAdv_pending, St.take_recvBytes rfl]
    exact fun hNil =>
      hNone (List.append_eq_nil_iff.1 hNil).2
  have hState := consume_state hSome
    s.conn.mngRequest.parser
  have hFlag := consume_error hSome s.conn.mngRequest.parser
  have hFed : (mngFed key (s.recvBytes a) s).srv.sel.Has
      key.fd interest attached := hHas
  have hSet := St.setInterest_of_has hFed opWrite
  unfold mngFed at hSet
  simp only [hState, hFlag, hSet, if_true]
  cases hCurrent : (mngFed key (s.recvBytes a)
      s).conn.mngRequest.parser.current with
  | singleRead =>
      have hGoing : isDone (mngFed key (s.recvBytes a)
          s).conn.mngRequest.parser.current = false := by
        rw [hCurrent]
        rfl
      rw [if_neg (by
        rw [Bool.not_eq_true]
        exact hGoing)]
      exact .more hStatus hNone hGoing
  | readN =>
      have hGoing : isDone (mngFed key (s.recvBytes a)
          s).conn.mngRequest.parser.current = false := by
        rw [hCurrent]
        rfl
      rw [if_neg (by
        rw [Bool.not_eq_true]
        exact hGoing)]
      exact .more hStatus hNone hGoing
  | longRead =>
      have hGoing : isDone (mngFed key (s.recvBytes a)
          s).conn.mngRequest.parser.current = false := by
        rw [hCurrent]
        rfl
      rw [if_neg (by
        rw [Bool.not_eq_true]
        exact hGoing)]
      exact .more hStatus hNone hGoing
  | doneRead =>
      have hParser : (consume (s.conn.readBuffer.writeAdv
          (s.recvBytes a))
          s.conn.mngRequest.parser).parser.current =
            .doneRead := hCurrent
      simp only [hParser]
      exact .applied hStatus hNone hCurrent
  | errorRead =>
      have hParser : (consume (s.conn.readBuffer.writeAdv
          (s.recvBytes a))
          s.conn.mngRequest.parser).parser.current =
            .errorRead := hCurrent
      simp only [hParser]
      exact .failed hStatus hCurrent

/-
  The parser of the parameters of an index, between two
  calls: what it was fed is the start of a message.
-/
structure ParamsGoing
    (fed : List UInt8)
    (m : MngRequestSt) : Prop where
  blocks : ∃ blocks, mngParamsBlocks m.index = some blocks ∧
    Progress blocks fed m.parser
  going : isDone m.parser.current = false

theorem mngParamsBlocks_wellFormed
    {index : MngIndex}
    {blocks : List Block}
    (h : mngParamsBlocks index = some blocks) :
    ∀ block ∈ blocks, block.WellFormed := by
  have hCounted : ∀ block ∈ [Block.counted, .counted],
      block.WellFormed := by
    intro block hMem
    simp only [List.mem_cons, List.not_mem_nil, or_false,
      or_self] at hMem
    rw [hMem]
    trivial
  have hValue : ∀ block ∈ [Block.fixed 1 none],
      block.WellFormed := by
    intro block hMem
    rw [List.mem_singleton.1 hMem]
    exact Nat.one_pos
  unfold mngParamsBlocks at h
  split at h
  · rw [← Option.some.inj h]
    exact hCounted
  · rw [← Option.some.inj h]
    intro block hMem
    exact hCounted block (List.mem_cons_of_mem _ hMem)
  · rw [← Option.some.inj h]
    exact hValue
  · rw [← Option.some.inj h]
    exact hValue
  · nomatch h

/- What one call feeds to the parser of the parameters. -/
theorem ParamsGoing.fed
    {fed : List UInt8}
    {s : St}
    (h : ParamsGoing fed s.conn.mngRequest)
    (key : Key)
    (a : Answers) :
    ∃ blocks used,
      mngParamsBlocks s.conn.mngRequest.index = some blocks ∧
      s.conn.readBuffer.pending ++ s.recvBytes a =
        used ++ (mngFed key (s.recvBytes a)
          s).conn.readBuffer.pending ∧
      Progress blocks (fed ++ used) (mngFed key
        (s.recvBytes a) s).conn.mngRequest.parser := by
  rcases h.blocks with ⟨blocks, hIndex, hProgress⟩
  have hStored := St.take_recvBytes (s := s) (a := a) rfl
  rcases Progress.of_consume
      (mngParamsBlocks_wellFormed hIndex) hProgress h.going
      (s.conn.readBuffer.writeAdv (s.recvBytes a)) with
    ⟨used, hSplit, hUsed, _⟩
  rw [Buffer.writeAdv_pending, hStored] at hSplit
  exact ⟨blocks, used, hIndex, hSplit, hUsed⟩

end Socks5d

------------------------------------------------------------
-- The State That Reads Parameters
------------------------------------------------------------

namespace Socks5d

/- A request with parameters starts with a fresh parser. -/
theorem mngParams_start
    {index : MngIndex}
    {blocks : List Block}
    (h : mngParamsBlocks index = some blocks)
    {m : MngRequestSt}
    (hIndex : m.index = index)
    (hParser : m.parser = blockParser blocks) :
    ParamsGoing [] m := by
  subst hIndex
  have hSome : blocks ≠ [] := by
    unfold mngParamsBlocks at h
    split at h
    all_goals first
      | (rw [← Option.some.inj h]; exact List.cons_ne_nil _ _)
      | nomatch h
  have hGoing : isDone (blockParser blocks).current =
      false := by
    unfold mngParamsBlocks at h
    split at h
    all_goals first
      | (rw [← Option.some.inj h]; rfl)
      | nomatch h
  refine ⟨⟨blocks, h, ?_⟩, ?_⟩
  · rw [hParser]
    exact Progress.start (mngParamsBlocks_wellFormed h) hSome
  · rw [hParser]
    exact hGoing

/- `mng_request_init`, for an index with parameters -/
theorem mngRequestInit_eq
    {s : St}
    {blocks : List Block}
    (h : mngParamsBlocks s.conn.mngRequest.index =
      some blocks)
    (key : Key)
    (a : Answers) :
    mngRequestInit key a s =
      mngParserInit a .mngRequest blocks s := by
  unfold mngParamsBlocks at h
  unfold mngRequestInit
  split at h
  · rename_i hIndex
    rw [hIndex, ← Option.some.inj h]
    rfl
  · rename_i hIndex
    rw [hIndex, ← Option.some.inj h]
    rfl
  · rename_i hIndex
    rw [hIndex, ← Option.some.inj h]
    rfl
  · rename_i hIndex
    rw [hIndex, ← Option.some.inj h]
    rfl
  · nomatch h

/-
  In `MNG_REQUEST_READ` the parser is that of the index, and
  was fed the start of a message.
-/
def MngReading (c : Conn) : Prop :=
  c.isSocks = false → c.current = some MNG_REQUEST_READ →
    c.mngRequest.status = .succeeded →
      ∃ fed, ParamsGoing fed c.mngRequest

section Reading

variable {k : ConnId}
variable {key : Key}
variable {a : Answers}
variable {s u : St}
variable {r : St × Nat}

/- A call of the state that stays in it. -/
theorem ParamsRead.reading
    {attached : Attachment}
    (h : ParamsRead key a s attached r)
    (hNext : r.2 = MNG_REQUEST_READ)
    (hBefore : s.conn.mngRequest.status = .succeeded →
      ∃ fed, ParamsGoing fed s.conn.mngRequest) :
    r.1.conn.mngRequest.status = .succeeded →
      ∃ fed, ParamsGoing fed r.1.conn.mngRequest := by
  cases h with
  | refused hStatus =>
      have hEither : (mngRefuse key s.conn.mngRequest.status
          s).2 = MNG_REQUEST_WRITE ∨
          (mngRefuse key s.conn.mngRequest.status s).2 =
            MNG_ERROR := by
        unfold mngRefuse setInterestKey
        simp only []
        split
        · exact Or.inl rfl
        · exact Or.inr rfl
      rw [hNext] at hEither
      rcases hEither with hBad | hBad
      · exact absurd hBad (by decide)
      · exact absurd hBad (by decide)
  | ended hStatus hBytes => nomatch hNext
  | failed hStatus hError => nomatch hNext
  | applied hStatus hSome hDone =>
      nomatch hNext
  | more hStatus hSome hGoing =>
      intro _
      rcases hBefore hStatus with ⟨fed, hFed⟩
      rcases hFed.fed key a with
        ⟨blocks, used, hIndex, _, hUsed⟩
      exact ⟨fed ++ used, ⟨blocks, hIndex, hUsed⟩, hGoing⟩

/- Entering the state builds the parser of the index. -/
theorem mngRequestInit_reading
    (hIndex : ∃ blocks,
      mngParamsBlocks s.conn.mngRequest.index = some blocks)
    (key : Key)
    (a : Answers) :
    (mngRequestInit key a s).conn.mngRequest.status =
        .succeeded →
      ∃ fed, ParamsGoing fed
        (mngRequestInit key a s).conn.mngRequest := by
  rcases hIndex with ⟨blocks, hBlocks⟩
  rw [mngRequestInit_eq hBlocks]
  unfold mngParserInit
  split
  · intro _
    exact ⟨[], mngParams_start hBlocks rfl rfl⟩
  · intro hBad
    nomatch hBad

/- Who heads for a state that reads a request, and with what. -/
theorem MngTurn.heads
    (h : MngTurn k key a s r)
    (hNext : r.2 = MNG_REQUEST_READ_INDEX ∨
      r.2 = MNG_REQUEST_READ)
    (hState : r.1.conn.current ≠ some r.2) :
    (r.2 = MNG_REQUEST_READ_INDEX ∧
        r.1.conn.writeBuffer.pending = []) ∨
      (r.2 = MNG_REQUEST_READ ∧
        ∃ blocks, mngParamsBlocks r.1.conn.mngRequest.index =
          some blocks) := by
  have hOver : s.conn.errorState ≠ r.2 ∧
      s.conn.doneState ≠ r.2 := by
    rcases hNext with hIs | hIs
    · rw [hIs]
      exact s.conn.over_ne _ (by decide)
    · rw [hIs]
      exact s.conn.over_ne _ (by decide)
  cases h with
  | helloRead _ _ _ _ _ hCall =>
      cases hCall with
      | failed => exact absurd rfl hOver.1
      | ended => exact absurd rfl hOver.1
      | more => exact hNext.elim nofun nofun
      | refused => exact absurd rfl hOver.1
      | answered => exact hNext.elim nofun nofun
  | helloWrite _ _ _ _ _ hCall =>
      cases hCall with
      | failed => exact absurd rfl hOver.1
      | more => exact hNext.elim nofun nofun
      | refused => exact absurd rfl hOver.2
      | userpass => exact hNext.elim nofun nofun
      | request n hSend hSent => exact Or.inl ⟨rfl, hSent⟩
  | authRead _ _ _ hCall =>
      cases hCall with
      | failed => exact absurd rfl hOver.1
      | ended => exact absurd rfl hOver.1
      | more => exact hNext.elim nofun nofun
      | rejected => exact absurd rfl hOver.1
      | answered _ _ _ _ _ hProcess =>
          cases hProcess <;> exact hNext.elim nofun nofun
  | authWrite _ _ _ hCall =>
      rcases authReply_eq s with ⟨wb, hReply⟩
      have hReplied : (authReply s).conn.errorState =
            s.conn.errorState ∧
          (authReply s).conn.doneState =
            s.conn.doneState := by
        rw [hReply]
        exact ⟨rfl, rfl⟩
      cases hCall with
      | failed => exact absurd hReplied.1.symm hOver.1
      | more => exact hNext.elim nofun nofun
      | refused => exact absurd hReplied.2.symm hOver.2
      | passed n hSend hSent => exact Or.inl ⟨rfl, hSent⟩
  | request state hCurrent hRequest hShape _ hCall =>
      cases hCall with
      | stay t next hFrame hSel hStays =>
          exact absurd (hFrame.current.trans hStays) hState
      | writes t hFrame hSel => exact hNext.elim nofun nofun
      | reads t hFrame hSel hIndex =>
          refine Or.inr ⟨rfl, ?_⟩
          rcases hIndex with hIs | hIs | hIs | hIs
          all_goals
            rw [hIs]
            exact ⟨_, rfl⟩
      | ends t next hEnds hFrame hSel =>
          rcases hEnds with hIs | hIs
          · rw [hIs] at hNext
            exact hNext.elim nofun nofun
          · rw [hIs] at hNext
            exact hNext.elim nofun nofun

/-
  What holds in a state that reads a request: a call that
  stays in the state keeps it, and entering the state sets it
  up.
-/
theorem preserved_reading
    {P : Conn → Prop}
    {state : Nat}
    (hReads : state = MNG_REQUEST_READ_INDEX ∨
      state = MNG_REQUEST_READ)
    (hSame : ∀ c addresses log, P c →
      P { c with originResolution := addresses, log := log })
    (hStays : ∀ k key a s r, MngShape k s.srv.sel s.conn →
      MngHandled key a s state r →
        key.fd = s.conn.clientFd → r.2 = state →
          P s.conn → P r.1.conn)
    (hEnters : ∀ k key a s r u, s.conn.isSocks = false →
      MngTurn k key a s r → r.2 = state →
        r.1.conn.current ≠ some r.2 →
          MngInit key a r.1 state u → P u.conn) :
    Preserved fun _ _ c =>
      c.isSocks = false → c.current = some state → P c := by
  have hLate : USERPASS_WRITE < state := by
    rcases hReads with hIs | hIs
    · rw [hIs]
      decide
    · rw [hIs]
      decide
  constructor
  · intro admins k isSocks client _ hBad
    nomatch hBad
  · intro admins k c addresses _ hBefore hMng hState
    exact hSame c addresses c.log (hBefore hMng hState)
  · intro k s request _ hBefore hMng hState
    exact hSame s.conn _ _ (hBefore hMng hState)
  · intro k key a s _ _ _ hState
    have hHello : (helloReadInit key a
        (entered HELLO_READ s)).conn.current =
          some HELLO_READ := by
      unfold helloReadInit
      split
      · rfl
      · rfl
    rw [hHello] at hState
    rw [← Option.some.inj hState] at hLate
    exact absurd hLate (by decide)
  · intro k key a s r u hSocks hSound hOwns hTurn hJump _ hMng
    have hService := hJump.service.trans
      (hTurn.service hSound hOwns)
    rw [hMng, hSocks] at hService
    nomatch hService
  · intro k key a s r u hMng hTurn hJump hBefore _ hState
    generalize hReturned : r.2 = next at hJump
    cases hJump with
    | stay _ hStill hNext =>
        have hHere := hState
        rw [hTurn.current] at hHere
        have hNextEq : r.2 = state :=
          hReturned.trans
            (Option.some.inj (hStill.symm.trans hState))
        have hPast : ∀ early, s.conn.current = some early →
            USERPASS_WRITE < early := by
          intro early hEarly
          rw [Option.some.inj (hEarly.symm.trans hHere)]
          exact hLate
        cases hTurn with
        | helloRead hOther =>
            exact absurd (hPast _ hOther) (by decide)
        | helloWrite hOther =>
            exact absurd (hPast _ hOther) (by decide)
        | authRead hOther =>
            exact absurd (hPast _ hOther) (by decide)
        | authWrite hOther =>
            exact absurd (hPast _ hOther) (by decide)
        | request _ hCurrent _ hShape _ _ hHandled hFd =>
            rw [hHere] at hCurrent
            rw [← Option.some.inj hCurrent] at hHandled
            exact hStays k key a s r hShape hHandled hFd
              hNextEq (hBefore hMng hHere)
    | plain _ hNext hNot =>
        have hEq : next = state := Option.some.inj hState
        rw [hEq] at hNext
        rcases hReads with hIs | hIs
        · rw [hIs] at hNext
          exact absurd hNext (by decide)
        · rw [hIs] at hNext
          exact absurd hNext (by decide)
    | userpassRead hNot =>
        have hOther : (authReadInit key a
            (entered USERPASS_READ r.1)).conn.current =
              some USERPASS_READ := by
          unfold authReadInit
          split
          · rfl
          · rfl
        rw [hOther] at hState
        rw [← Option.some.inj hState] at hLate
        exact absurd hLate (by decide)
    | request _ hNext hNot _ hFrame hSel hInit =>
        have hEq : next = state :=
          Option.some.inj (hFrame.current.symm.trans hState)
        rw [hEq] at hInit
        rw [← hReturned] at hNot
        exact hEnters k key a s r _ hMng hTurn
          (hReturned.trans hEq) hNot hInit

/- What happens to a connection keeps `MngReading`. -/
theorem mngReading_preserved :
    Preserved fun _ _ c => MngReading c := by
  refine preserved_reading (P := fun c =>
    c.mngRequest.status = .succeeded →
      ∃ fed, ParamsGoing fed c.mngRequest) (Or.inr rfl)
    (fun _ _ _ hBefore => hBefore) ?_ ?_
  · intro k key a s r hShape hHandled hFd hNext hBefore
    cases hHandled with
    | params =>
        rcases hShape.client_has with ⟨interest, hClient⟩
        rw [← hFd] at hClient
        exact (mngRequestRead_outcome hClient a).reading hNext
          hBefore
  · intro k key a s r u _ hTurn hNext hNot hInit
    rcases hTurn.heads (Or.inr hNext) hNot with
      ⟨hOther, _⟩ | ⟨_, hIndex⟩
    · nomatch hNext.symm.trans hOther
    · cases hInit with
      | params =>
          exact mngRequestInit_reading
            (s := entered MNG_REQUEST_READ r.1) hIndex key a

end Reading

end Socks5d

------------------------------------------------------------
-- What Changes The Settings
------------------------------------------------------------

namespace Socks5d

/- The bytes are a whole message of some blocks. -/
def WholeMessage
    (blocks : List Block)
    (bytes : List UInt8) : Prop :=
  ∃ fields : List (Block × List UInt8),
    fields.map Prod.fst = blocks ∧
      (∀ entry ∈ fields, entry.1.Accepts entry.2) ∧
      bytes = encodeAll fields

/- A parser that is done was fed a whole message. -/
theorem Progress.whole
    {blocks : List Block}
    {fed : List UInt8}
    {p : Parser}
    (h : Progress blocks fed p)
    (hDone : p.current = .doneRead) :
    WholeMessage blocks fed := by
  cases h with
  | inFixed => nomatch hDone
  | atCounted => nomatch hDone
  | inCounted => nomatch hDone
  | rejected => nomatch hDone
  | finished done error hBlocks hAccepts =>
      exact ⟨done, hBlocks.symm, hAccepts, rfl⟩

/-
  The step in which the parameters of a request are complete:
  the bytes fed before it and those it takes from the buffer
  are a whole message, and the table has room for a user that
  is to be added.
-/
structure ParamsComplete
    (a : Answers)
    (s u : St) : Prop where
  state : s.conn.current = some MNG_REQUEST_READ
  message : ∃ blocks before used,
    mngParamsBlocks s.conn.mngRequest.index = some blocks ∧
    Progress blocks before s.conn.mngRequest.parser ∧
    isDone s.conn.mngRequest.parser.current = false ∧
    s.conn.readBuffer.pending ++ s.recvBytes a =
      used ++ u.conn.readBuffer.pending ∧
    WholeMessage blocks (before ++ used)
  hasRoom : s.conn.mngRequest.index = MngIndex.addUser →
    s.srv.users.count ≠ maxUsers
  next : u.conn.current = some MNG_REQUEST_WRITE

section Changing

variable {k : ConnId}
variable {key : Key}
variable {a : Answers}
variable {s t u : St}
variable {r : St × Nat}

/- Adding a user to a full table changes nothing. -/
theorem processMngParamsRequest_full
    (hIndex : s.conn.mngRequest.index = MngIndex.addUser)
    (hFull : s.srv.users.count = maxUsers) :
    (processMngParamsRequest s).srv.settings =
      s.srv.settings := by
  unfold processMngParamsRequest
  simp only [hIndex, hFull, if_true]
  exact marshal_settings _ _ _

theorem processMngParamsRequest_conn
    (s : St) :
    (processMngParamsRequest s).conn.readBuffer =
      s.conn.readBuffer := by
  have hMarshal : ∀ (t : St) need bytes,
      (marshal t need bytes).conn.readBuffer =
        t.conn.readBuffer := by
    intro t need bytes
    unfold marshal
    split
    · rfl
    · rfl
  unfold processMngParamsRequest
  simp only []
  split
  · split
    · exact hMarshal _ _ _
    · exact hMarshal _ _ _
  · split
    · rfl
    · exact hMarshal _ _ _
  · exact hMarshal _ _ _
  · exact hMarshal _ _ _
  · exact hMarshal _ _ _

/- A call of a handler keeps the settings, or completes. -/
theorem ParamsRead.settings
    {attached : Attachment}
    (h : ParamsRead key a s attached r)
    (hState : s.conn.current = some MNG_REQUEST_READ)
    (hBefore : s.conn.mngRequest.status = .succeeded →
      ∃ fed, ParamsGoing fed s.conn.mngRequest) :
    r.1.srv.settings = s.srv.settings ∨
      (r.2 = MNG_REQUEST_WRITE ∧
        ParamsComplete a s (entered MNG_REQUEST_WRITE
          r.1)) := by
  cases h with
  | refused hStatus => exact Or.inl (mngRefuse_settings _ _ _)
  | ended hStatus hBytes => exact Or.inl rfl
  | more hStatus hSome hGoing => exact Or.inl rfl
  | failed hStatus hError => exact Or.inl rfl
  | applied hStatus hSome hDone =>
      by_cases hFull :
          s.conn.mngRequest.index = MngIndex.addUser ∧
            s.srv.users.count = maxUsers
      · left
        exact processMngParamsRequest_full (s := (mngFed key
          (s.recvBytes a) s).arm key.fd opWrite attached)
          hFull.1 hFull.2
      · right
        rcases hBefore hStatus with ⟨fed, hFed⟩
        rcases hFed.fed key a with
          ⟨blocks, used, hBlocks, hSplit, hUsed⟩
        rcases hFed.blocks with ⟨other, hOther, hProgress⟩
        rw [hBlocks] at hOther
        rw [← Option.some.inj hOther] at hProgress
        refine ⟨rfl, hState, ?_, ?_, rfl⟩
        · refine ⟨blocks, fed, used, hBlocks, hProgress,
            hFed.going, ?_, hUsed.whole hDone⟩
          have hBuffer := processMngParamsRequest_conn
            ((mngFed key (s.recvBytes a) s).arm key.fd
              opWrite attached)
          show _ = used ++ (processMngParamsRequest
            _).conn.readBuffer.pending
          rw [hBuffer]
          exact hSplit
        · exact fun hAdd hCount => hFull ⟨hAdd, hCount⟩

theorem MngTurn.settings
    (h : MngTurn k key a s r)
    (hBefore : s.conn.current = some MNG_REQUEST_READ →
      s.conn.mngRequest.status = .succeeded →
        ∃ fed, ParamsGoing fed s.conn.mngRequest) :
    r.1.srv.settings = s.srv.settings ∨
      (r.2 = MNG_REQUEST_WRITE ∧
        ParamsComplete a s (entered MNG_REQUEST_WRITE
          r.1)) := by
  cases h with
  | helloRead _ _ _ _ _ hCall =>
      left
      cases hCall <;> rfl
  | helloWrite _ _ _ _ _ hCall =>
      left
      cases hCall <;> rfl
  | authRead _ _ _ hCall =>
      left
      cases hCall with
      | failed hFailed => rfl
      | ended hBytes => rfl
      | more bytes hBytes hSome hGoing => rfl
      | rejected bytes hBytes processed hProcess =>
          exact hProcess.shared.settings
      | answered bytes hBytes hSome hDone processed
          hProcess =>
          exact hProcess.shared.settings
  | authWrite _ _ _ hCall =>
      left
      rcases authReply_eq s with ⟨wb, hReply⟩
      cases hCall <;> (rw [hReply]; rfl)
  | request state hState _ hShape _ _ hHandled hFd =>
      cases hHandled with
      | index =>
          exact Or.inl (mngRequestIndexRead_settings _ _ _)
      | params =>
          rcases hShape.client_has with ⟨interest, hClient⟩
          rw [← hFd] at hClient
          exact (mngRequestRead_outcome hClient a).settings
            hState (hBefore hState)
      | answer => exact Or.inl (mngRequestWrite_settings _ _ _)

theorem MngJump.settings
    {next : Nat}
    (h : MngJump key a s next u) :
    u.srv.settings = s.srv.settings := by
  have hInit : ∀ site blocks (t : St),
      (mngParserInit a site blocks t).srv.settings =
        t.srv.settings := by
    intro site blocks t
    unfold mngParserInit
    split
    · rfl
    · rfl
  cases h with
  | stay _ hState hNext => rfl
  | plain _ hNext hState => rfl
  | userpassRead hState =>
      unfold authReadInit
      split
      · rfl
      · rfl
  | request _ hNext hState _ hFrame hSel hEnters =>
      cases hEnters with
      | index => exact hInit _ _ _
      | params =>
          unfold mngRequestInit
          split
          · exact hInit _ _ _
          · exact hInit _ _ _
          · exact hInit _ _ _
          · exact hInit _ _ _
          · rfl

/- An event keeps the settings, or completes a request. -/
theorem MngEvent.settings
    (h : MngEvent k key a s t)
    (hBefore : s.conn.current = some MNG_REQUEST_READ →
      s.conn.mngRequest.status = .succeeded →
        ∃ fed, ParamsGoing fed s.conn.mngRequest) :
    t.srv.settings = s.srv.settings ∨
      ParamsComplete a s t := by
  cases h with
  | going r _ hTurn hJump hNext =>
      rcases hTurn.settings hBefore with hSame |
        ⟨hWrite, hComplete⟩
      · exact Or.inl (hJump.settings.trans hSame)
      · right
        rw [hWrite] at hJump
        have hState := hTurn.current.trans hComplete.state
        cases hJump with
        | stay _ hStays =>
            rw [hState] at hStays
            nomatch Option.some.inj hStays
        | plain =>
            exact ⟨hComplete.state, hComplete.message,
              hComplete.hasRoom, hComplete.next⟩
        | request _ hRequest =>
            rcases hRequest with hBad | hBad
            · nomatch hBad
            · nomatch hBad
  | ends r u hTurn hJump hNext =>
      left
      have hDone := (doneFd_shared u.conn.clientFd u).settings
      refine hDone.trans (hJump.settings.trans ?_)
      rcases hTurn.settings hBefore with hSame | ⟨hWrite, _⟩
      · exact hSame
      · rw [hWrite] at hNext
        rcases hNext with hBad | hBad
        · nomatch hBad
        · nomatch hBad

end Changing

end Socks5d

------------------------------------------------------------
-- Steps Of The Server
------------------------------------------------------------

namespace Socks5d

/- The event is one on a slot of connection `k`. -/
def Serving
    (w : World)
    (k : ConnId) :
    Label → Prop
| .read fd _ => ∃ item, w.srv.sel.fds fd = some item ∧
    item.attached.data? = some k
| .write fd _ => ∃ item, w.srv.sel.fds fd = some item ∧
    item.attached.data? = some k
| _ => False

/- The answers that the calls of an event on a slot get. -/
def Label.answers? : Label → Option Answers
| .read _ a => some a
| .write _ a => some a
| _ => none

/-
  With the given answers, connection `k` completes the
  parameters of a request.
-/
structure Completes
    (w : World)
    (k : ConnId)
    (a : Answers)
    (w' : World) : Prop where
  accepted : k < w.next
  service : (w.conn k).isSocks = false
  params : ParamsComplete a (w.view k) (w'.view k)

section Steps

variable {w w' : World}
variable {k : ConnId}
variable {fd : Fd}
variable {item : Item}
variable {key : Key}
variable {a : Answers}
variable {t : St}

theorem World.view_put
    (w : World)
    (k : ConnId)
    (t : St) : (w.put k t).view k = t := by
  unfold World.view
  rw [w.put_conn_self k t]
  rfl

/- An event of a SOCKS connection keeps the settings. -/
theorem Inv.socks_settings
    (h : Inv w)
    (hLive : w.Live k)
    (hEvent : SocksEvent k key a
      (handleFirst clientStatbl key a (w.view k)) t) :
    (w.put k t).srv.settings = w.srv.settings := by
  rcases h.first hLive clientStatbl rfl key
    a with ⟨hSrv, hSound, hOwns⟩
  show t.srv.settings = w.srv.settings
  rw [← hSrv]
  cases hEvent.threads hSound hOwns with
  | same hSame => exact hSame.settings
  | started request hSame => exact hSame.settings

/- One of a management connection may complete a request. -/
theorem Inv.mng_settings
    (h : Inv w)
    (hReading : ∀ k < w.next, MngReading (w.conn k))
    (hLive : w.Live k)
    (hMng : (w.conn k).isSocks = false)
    (hEvent : MngEvent k key a
      (handleFirst clientMng key a (w.view k)) t) :
    (w.put k t).srv.settings = w.srv.settings ∨
      Completes w k a (w.put k t) := by
  rcases h.first hLive clientMng rfl key a with ⟨hSrv, _⟩
  rcases first_srv clientMng rfl key a (w.view k) with
    ⟨_, _, _, hStarted⟩
  have hBefore : (handleFirst clientMng key a
      (w.view k)).conn.current = some MNG_REQUEST_READ →
      handleFirst clientMng key a (w.view k) =
        w.view k := by
    intro hState
    rcases hStarted with hSame | hHello
    · exact hSame
    · rw [hHello] at hState
      exact absurd hState (by decide)
  rcases hEvent.settings (by
      intro hState hStatus
      have hSame := hBefore hState
      rw [hSame] at hState hStatus ⊢
      exact hReading k hLive.1 hMng hState hStatus) with
    hSame | hComplete
  · left
    show t.srv.settings = w.srv.settings
    rw [hSame, hSrv]
  · right
    rw [hBefore hComplete.state] at hComplete
    refine ⟨hLive.1, hMng, ?_⟩
    rw [w.view_put k t]
    exact hComplete

/- Only a completed request changes the settings. -/
theorem Micro.settings
    (h : Micro w w')
    (hInv : Inv w)
    (hReading : ∀ k < w.next, MngReading (w.conn k)) :
    w'.srv.settings = w.srv.settings ∨
      ∃ k a, Completes w k a w' := by
  cases h with
  | accepted => exact Or.inl rfl
  | socks k key a interest t hLive hSocks hKey hArmed hEvent
      hAfter =>
      exact Or.inl (hInv.socks_settings hLive hEvent)
  | mng k key a t hLive hMng hEvent hAfter =>
      rcases hInv.mng_settings hReading hLive hMng hEvent with
        hSame | hComplete
      · exact Or.inl hSame
      · exact Or.inr ⟨k, a, hComplete⟩
  | block job rest a t hJobs hWaits hEvent hAfter =>
      left
      have hOwns := (hInv.wired _ hWaits.live).owns
      show t.srv.settings = w.srv.settings
      cases hEvent.threads hInv.sound
          (hOwns.of_eq rfl rfl rfl) with
      | same hSame => exact hSame.settings
      | started request hSame => exact hSame.settings
  | threadStart => exact Or.inl rfl
  | threadDone => exact Or.inl rfl

/- The same of a dispatched event, with its answers. -/
theorem Dispatch.settings
    (h : Dispatch w fd a w')
    (hInv : Inv w)
    (hReading : ∀ k < w.next, MngReading (w.conn k)) :
    w'.srv.settings = w.srv.settings ∨
      ∃ k, Completes w k a w' := by
  cases h with
  | accept isSocks =>
      left
      rcases passiveAccept_cases isSocks a w with hSame |
        ⟨client, _, _, _, _, hEq⟩
      · rw [hSame]
      · rw [hEq]
        rfl
  | socks k interest t hLive hSocks hKey hArmed hEvent
      hAfter =>
      exact Or.inl (hInv.socks_settings hLive hEvent)
  | mng k t hLive hMng hEvent hAfter =>
      rcases hInv.mng_settings hReading hLive hMng hEvent with
        hSame | hComplete
      · exact Or.inl hSame
      · exact Or.inr ⟨k, hComplete⟩

/- A connection that completes a request is changed. -/
theorem Completes.changed
    (h : Completes w k a w') : w'.conn k ≠ w.conn k := by
  intro hSame
  have hBefore : (w.conn k).current =
      some MNG_REQUEST_READ := h.params.state
  have hAfter : (w'.conn k).current =
      some MNG_REQUEST_WRITE := h.params.next
  rw [hSame, hBefore] at hAfter
  exact absurd hAfter (by decide)

theorem passiveAccept_conn
    (isSocks : Bool)
    (a : Answers)
    (hOld : k < w.next) :
    (passiveAccept isSocks a w).conn k = w.conn k := by
  rcases passiveAccept_cases isSocks a w with hSame |
    ⟨client, _, _, _, _, hEq⟩
  · rw [hSame]
  · rw [hEq]
    exact Function.update_of_ne (Nat.ne_of_lt hOld) _ _

/- Events reach one connection, that of the item. -/
theorem handleRead_conn
    (hOld : k < w.next)
    (hOther : item.attached.data? ≠ some k)
    (a : Answers) :
    (handleRead fd item.attached a w).conn k =
      w.conn k := by
  cases hAttached : item.attached with
  | socksListener => exact passiveAccept_conn true a hOld
  | mngListener => exact passiveAccept_conn false a hOld
  | socks data =>
      rw [hAttached] at hOther
      exact w.put_conn_of_ne _ fun hEq =>
        hOther (congrArg some hEq.symm)
  | mng data =>
      rw [hAttached] at hOther
      exact w.put_conn_of_ne _ fun hEq =>
        hOther (congrArg some hEq.symm)

theorem handleWrite_conn
    (hOther : item.attached.data? ≠ some k)
    (a : Answers) :
    (handleWrite fd item.attached a w).conn k =
      w.conn k := by
  cases hAttached : item.attached with
  | socksListener => rfl
  | mngListener => rfl
  | socks data =>
      rw [hAttached] at hOther
      exact w.put_conn_of_ne _ fun hEq =>
        hOther (congrArg some hEq.symm)
  | mng data =>
      rw [hAttached] at hOther
      exact w.put_conn_of_ne _ fun hEq =>
        hOther (congrArg some hEq.symm)

/- A turn of the notification loop is one of its starter. -/
theorem Inv.block_settings
    (h : Inv w)
    (hReading : ∀ k < w.next, MngReading (w.conn k))
    {job : BlockingJob}
    {rest : List BlockingJob}
    (hJobs : w.srv.jobs = job :: rest)
    (a : Answers) :
    (handleBlockTurn a w).srv.settings = w.srv.settings := by
  have hWaits := h.jobs job (by
    rw [hJobs]
    exact List.mem_cons_self)
  rcases (h.block_micro hJobs a).settings h hReading with
    hSame | ⟨k, _, hComplete⟩
  · exact hSame
  · exfalso
    by_cases hStarter : k = job.starter
    · have hMng := hComplete.service
      rw [hStarter, hWaits.service] at hMng
      nomatch hMng
    · apply hComplete.changed
      rw [h.block_turn hJobs a]
      exact w.put_conn_of_ne _ hStarter

theorem Micro.reading
    (h : Micro w w')
    (hInv : Inv w)
    (hReading : ∀ k < w.next, MngReading (w.conn k)) :
    ∀ k < w'.next, MngReading (w'.conn k) := fun _ hLt =>
  mngReading_preserved.change hInv hReading (h.change hLt)

/- A small step that leaves the settings alone. -/
def QuietMicro (w w' : World) : Prop :=
  Micro w w' ∧ w'.srv.settings = w.srv.settings

theorem Inv.loop_quiet
    (h : Inv w)
    (hReading : ∀ k < w.next, MngReading (w.conn k))
    (a : Nat → Answers)
    (turns : Nat) :
    Relation.ReflTransGen QuietMicro w
      (notificationLoop a turns w) := by
  refine Inv.loop_rule
    (P := fun v => ∀ k < v.next, MngReading (v.conn k))
    (fun _ => .refl) ?_ h hReading a turns
  intro v job rest answers hInv hReads hJobs
  have hTurn := hInv.block_micro hJobs answers
  have hQuiet : QuietMicro v (handleBlockTurn answers v) :=
    ⟨hTurn, hInv.block_settings hReads hJobs _⟩
  exact ⟨hTurn.reading hInv hReads,
    fun u hSteps => .head hQuiet hSteps⟩

theorem Inv.loop_settings
    (h : Inv w)
    (hReading : ∀ k < w.next, MngReading (w.conn k))
    (a : Nat → Answers)
    (turns : Nat) :
    (notificationLoop a turns w).srv.settings =
      w.srv.settings := by
  have hQuiet := h.loop_quiet hReading a turns
  generalize notificationLoop a turns w = v at hQuiet
  induction hQuiet with
  | refl => rfl
  | tail _ hLast ih => exact hLast.2.trans ih

/- What quiet small steps keep. -/
theorem Inv.quiet_keeps
    {P : World → Prop}
    (h : Inv w)
    (hStep : ∀ w w', Inv w → Micro w w' →
      w'.srv.settings = w.srv.settings → P w → P w')
    (hSteps : Relation.ReflTransGen QuietMicro w w')
    (hBefore : P w) : Inv w' ∧ P w' := by
  induction hSteps with
  | refl => exact ⟨h, hBefore⟩
  | tail _ hLast ih =>
      exact ⟨hLast.1.inv ih.1,
        hStep _ _ ih.1 hLast.1 hLast.2 ih.2⟩

/-
  A step of the server does nothing, or is one small step, or
  some that leave the settings alone.
-/
theorem Inv.exec_cases
    (h : Inv w)
    (hReading : ∀ k < w.next, MngReading (w.conn k))
    {l : Label}
    (hEnabled : Enabled w l = true) :
    exec w l = w ∨ Micro w (exec w l) ∨
      Relation.ReflTransGen QuietMicro w (exec w l) := by
  rcases h.exec_micro hEnabled with
    ⟨a, rfl⟩ | hSame | hStep
  · exact Or.inr (Or.inr (h.loop_quiet hReading a _))
  · exact Or.inl hSame
  · exact Or.inr (Or.inl hStep)

/- The slot a request is completed on is the connection's. -/
theorem Completes.of_read
    (h : Completes w k a (exec w (.read fd a))) :
    Serving w k (.read fd a) := by
  have hChanged := h.changed
  unfold exec at hChanged
  cases hItem : w.srv.sel.fds fd with
  | none =>
      simp only [hItem] at hChanged
      exact absurd rfl hChanged
  | some item =>
      simp only [hItem] at hChanged
      refine ⟨item, hItem, ?_⟩
      by_contra hOther
      exact hChanged (handleRead_conn h.accepted hOther a)

theorem Completes.of_write
    (h : Completes w k a (exec w (.write fd a))) :
    Serving w k (.write fd a) := by
  have hChanged := h.changed
  unfold exec at hChanged
  cases hItem : w.srv.sel.fds fd with
  | none =>
      simp only [hItem] at hChanged
      exact absurd rfl hChanged
  | some item =>
      simp only [hItem] at hChanged
      refine ⟨item, hItem, ?_⟩
      by_contra hOther
      exact hChanged (handleWrite_conn hOther a)

/- Only an event of the completing connection does it. -/
theorem Inv.exec_settings
    (h : Inv w)
    (hReading : ∀ k < w.next, MngReading (w.conn k))
    {l : Label}
    (hEnabled : Enabled w l = true) :
    (exec w l).srv.settings = w.srv.settings ∨
      ∃ k a, l.answers? = some a ∧ Serving w k l ∧
        Completes w k a (exec w l) := by
  cases l with
  | read fd a =>
      have hDispatch : exec w (.read fd a) = w ∨
          Dispatch w fd a (exec w (.read fd a)) :=
        h.exec_read hEnabled
      rcases hDispatch with hSame | hDispatch
      · rw [hSame]
        exact Or.inl rfl
      · rcases hDispatch.settings h hReading with
          hSame | ⟨k, hComplete⟩
        · exact Or.inl hSame
        · exact Or.inr ⟨k, a, rfl, hComplete.of_read,
            hComplete⟩
  | write fd a =>
      have hDispatch : exec w (.write fd a) = w ∨
          Dispatch w fd a (exec w (.write fd a)) :=
        h.exec_write hEnabled
      rcases hDispatch with hSame | hDispatch
      · rw [hSame]
        exact Or.inl rfl
      · rcases hDispatch.settings h hReading with
          hSame | ⟨k, hComplete⟩
        · exact Or.inl hSame
        · exact Or.inr ⟨k, a, rfl, hComplete.of_write,
            hComplete⟩
  | notify a =>
      exact Or.inl (h.loop_settings hReading a _)
  | threadStart i =>
      left
      show (requestResolvBlocking i w).srv.settings = _
      unfold requestResolvBlocking
      split
      · rfl
      · split
        · rfl
        · rfl
  | threadDone i addresses a =>
      left
      show (requestResolvNotify i addresses a w).srv.settings =
        _
      unfold requestResolvNotify
      split
      · rfl
      · rfl

end Steps

end Socks5d

------------------------------------------------------------
-- At Most Once
------------------------------------------------------------

namespace Socks5d

/- A management connection whose request was handled. -/
def MngAnswering (c : Conn) : Prop :=
  c.isSocks = false ∧
    ∃ state, c.current = some state ∧
      MNG_REQUEST_WRITE ≤ state

section Once

variable {w w' : World}
variable {k : ConnId}
variable {key : Key}
variable {a : Answers}
variable {s t u : St}
variable {r : St × Nat}

/- There is no way back from the answer. -/
theorem MngTurn.answering
    (h : MngTurn k key a s r)
    (hBefore : MngAnswering s.conn) :
    MNG_REQUEST_WRITE ≤ r.2 := by
  rcases hBefore with ⟨_, state, hState, hLate⟩
  have hNot : ∀ early, s.conn.current = some early →
      ¬ early < MNG_REQUEST_WRITE := by
    intro early hEarly
    rw [hState] at hEarly
    rw [← Option.some.inj hEarly]
    exact Nat.not_lt.mpr hLate
  cases h with
  | helloRead hOther => exact absurd (by decide) (hNot _ hOther)
  | helloWrite hOther =>
      exact absurd (by decide) (hNot _ hOther)
  | authRead hOther => exact absurd (by decide) (hNot _ hOther)
  | authWrite hOther =>
      exact absurd (by decide) (hNot _ hOther)
  | request other hOther _ _ _ _ hHandled =>
      cases hHandled with
      | index => exact absurd (by decide) (hNot _ hOther)
      | params => exact absurd (by decide) (hNot _ hOther)
      | answer =>
          unfold mngRequestWrite
          split
          · exact (by decide : MNG_REQUEST_WRITE ≤ MNG_ERROR)
          · simp only []
            split
            · exact Nat.le_refl _
            · exact (by decide :
                MNG_REQUEST_WRITE ≤ MNG_DONE)

theorem MngEvent.answering
    (h : MngEvent k key a s t)
    (hBefore : MngAnswering s.conn) :
    MngAnswering t.conn := by
  have hBoth : ∀ r u, MngTurn k key a s r →
      MngJump key a r.1 r.2 u → MngAnswering u.conn := by
    intro r u hTurn hJump
    have hLate := hTurn.answering hBefore
    have hService : r.1.conn.isSocks = false :=
      hTurn.service.trans hBefore.1
    generalize r.2 = next at hJump hLate
    cases hJump with
    | stay _ hState hNext =>
        exact ⟨hService, next, hState, hLate⟩
    | plain _ hNext hState =>
        exact ⟨hService, next, rfl, hLate⟩
    | userpassRead hState => exact absurd hLate (by decide)
    | request _ hNext =>
        rcases hNext with hEq | hEq
        · rw [hEq] at hLate
          exact absurd hLate (by decide)
        · rw [hEq] at hLate
          exact absurd hLate (by decide)
  cases h with
  | going r u hTurn hJump hNext => exact hBoth r _ hTurn hJump
  | ends r u hTurn hJump hNext =>
      rw [mngDone_conn]
      exact hBoth r u hTurn hJump

theorem Micro.answering
    (h : Micro w w')
    (hOld : k < w.next)
    (hBefore : MngAnswering (w.conn k)) :
    MngAnswering (w'.conn k) := by
  cases h.change (Nat.lt_of_lt_of_le hOld h.next_le) with
  | same _ hConn =>
      rw [hConn]
      exact hBefore
  | born isSocks client hNew =>
      exact absurd hOld (by rw [hNew]; exact Nat.lt_irrefl _)
  | resolution addresses _ hState hConn =>
      rw [hConn]
      exact hBefore
  | socks key a t hLive hSocks =>
      rw [hBefore.1] at hSocks
      nomatch hSocks
  | mng key a t hLive hMng hEvent hConn =>
      rw [hConn]
      apply hEvent.answering
      rcases hBefore.2 with ⟨state, hState, _⟩
      have hStarted : handleFirst clientMng key a
          (w.view k) = w.view k := by
        have hSome : (w.view k).conn.current ≠ none := by
          show (w.conn k).current ≠ none
          rw [hState]
          exact Option.some_ne_none _
        rw [handleFirst_eq rfl, if_neg hSome]
      rw [hStarted]
      exact hBefore
  | block job rest a t hStarter hWaits =>
      have hSocks : (w.conn k).isSocks = true := hWaits.service
      rw [hBefore.1] at hSocks
      nomatch hSocks

/- No connection changes its service. -/
theorem Micro.service
    (h : Micro w w')
    (hInv : Inv w)
    (hOld : k < w.next) :
    (w'.conn k).isSocks = (w.conn k).isSocks := by
  cases h.change (Nat.lt_of_lt_of_le hOld h.next_le) with
  | same _ hConn => rw [hConn]
  | born isSocks client hNew =>
      exact absurd hOld (by rw [hNew]; exact Nat.lt_irrefl _)
  | resolution addresses _ hState hConn => rw [hConn]
  | socks key a t hLive hSocks hEvent hConn =>
      rcases hInv.first hLive clientStatbl rfl key
        a with ⟨_, hSound, hOwns⟩
      rw [hConn]
      exact (hEvent.service hSound hOwns).trans
        (first_conn clientStatbl rfl key a (w.view k))
  | mng key a t hLive hMng hEvent hConn =>
      rw [hConn]
      exact hEvent.service.trans
        (first_conn clientMng rfl key a (w.view k))
  | block job rest a t hStarter hWaits hEvent hConn =>
      rw [hConn]
      subst hStarter
      exact hEvent.service hInv.sound
        ((hInv.wired _ hWaits.live).owns.of_eq rfl rfl rfl)

/- Small steps in a row keep what one keeps. -/
theorem micros_keep
    {P : Conn → Prop}
    (hStep : ∀ w w', Inv w → Micro w w' → k < w.next →
      P (w.conn k) → P (w'.conn k))
    (hSteps : Relation.ReflTransGen Micro w w')
    (h : Inv w)
    (hOld : k < w.next)
    (hBefore : P (w.conn k)) :
    Inv w' ∧ k < w'.next ∧ P (w'.conn k) := by
  induction hSteps with
  | refl => exact ⟨h, hOld, hBefore⟩
  | tail _ hLast ih =>
      exact ⟨hLast.inv ih.1,
        Nat.lt_of_lt_of_le ih.2.1 hLast.next_le,
        hStep _ _ ih.1 hLast ih.2.1 ih.2.2⟩

/- So does a run. -/
theorem runTo_keeps
    {P : Conn → Prop}
    (hStep : ∀ w w', Inv w → Micro w w' → k < w.next →
      P (w.conn k) → P (w'.conn k))
    (labels : List Label)
    (h : Inv w)
    (hOld : k < w.next)
    (hBefore : P (w.conn k)) :
    Inv (runTo labels w) ∧ k < (runTo labels w).next ∧
      P ((runTo labels w).conn k) := by
  induction labels generalizing w with
  | nil => exact ⟨h, hOld, hBefore⟩
  | cons l rest ih =>
      unfold runTo
      by_cases hEnabled : Enabled w l = true
      · rw [if_pos hEnabled]
        rcases micros_keep hStep (h.micros hEnabled) h hOld
          hBefore with ⟨hInv, hLt, hHolds⟩
        exact ih hInv hLt hHolds
      · rw [if_neg hEnabled]
        exact ih h hOld hBefore

/- An event that serves two connections serves one. -/
theorem Serving.unique
    {l : Label}
    {i j : ConnId}
    (hI : Serving w i l)
    (hJ : Serving w j l) : i = j := by
  cases l with
  | read fd a =>
      rcases hI with ⟨item, hItem, hData⟩
      rcases hJ with ⟨other, hOther, hData'⟩
      rw [hItem] at hOther
      rw [← Option.some.inj hOther, hData] at hData'
      exact Option.some.inj hData'
  | write fd a =>
      rcases hI with ⟨item, hItem, hData⟩
      rcases hJ with ⟨other, hOther, hData'⟩
      rw [hItem] at hOther
      rw [← Option.some.inj hOther, hData] at hData'
      exact Option.some.inj hData'
  | notify a => exact hI.elim
  | threadStart i => exact hI.elim
  | threadDone i addresses a => exact hI.elim

/- A connection that is answering completes nothing. -/
theorem MngAnswering.not_completes
    (h : MngAnswering (w.conn k)) :
    ¬ Completes w k a w' := by
  intro hCompletes
  rcases h.2 with ⟨state, hState, hLate⟩
  have hReading : (w.conn k).current =
      some MNG_REQUEST_READ := hCompletes.params.state
  rw [hState] at hReading
  rw [Option.some.inj hReading] at hLate
  exact absurd hLate (by decide)

/-
  The users, `auth_method` and `password_dissectors` change
  only in the step of a management connection in which, with
  the bytes that `recv` returns there, the parameters of one
  of the four requests are complete, and later events of that
  connection leave them as they are.
-/
theorem mng_atomic
    (hReach : server.Reachable w)
    {l : Label}
    (hEnabled : Enabled w l = true)
    (hChange : (exec w l).srv.settings ≠ w.srv.settings) :
    ∃ k a, l.answers? = some a ∧ Serving w k l ∧
      Completes w k a (exec w l) ∧ ∀ labels later,
        Enabled (runTo labels (exec w l)) later = true →
        Serving (runTo labels (exec w l)) k later →
          (exec (runTo labels (exec w l)) later).srv.settings =
            (runTo labels (exec w l)).srv.settings := by
  have hReading : ∀ {w}, server.Reachable w →
      ∀ k < w.next, MngReading (w.conn k) :=
    fun hReach k hLt =>
      conn_invariant mngReading_preserved hReach hLt
  have hInv := reachable_inv hReach
  rcases hInv.exec_settings (hReading hReach) hEnabled with
    hSame | ⟨k, a, hAnswers, hServing, hCompletes⟩
  · exact absurd hSame hChange
  refine ⟨k, a, hAnswers, hServing, hCompletes, ?_⟩
  intro labels later hLater hServes
  have hAfter := hReach.step (show server.step w l _ from
    ⟨hEnabled, rfl⟩)
  rcases micros_keep (P := fun c => c.isSocks = false)
    (fun _ _ hInv hMicro hOld hMng =>
      (hMicro.service hInv hOld).trans hMng)
    (hInv.micros hEnabled) hInv hCompletes.accepted
    hCompletes.service with ⟨hKept, hOld, hMng⟩
  have hNow : MngAnswering ((exec w l).conn k) :=
    ⟨hMng, MNG_REQUEST_WRITE, hCompletes.params.next,
      Nat.le_refl _⟩
  rcases runTo_keeps (P := MngAnswering)
    (fun _ _ _ hMicro hOld => hMicro.answering hOld)
    labels hKept hOld hNow with ⟨hLast, _, hAnswering⟩
  have hRun := reachable_runTo labels hAfter
  rcases hLast.exec_settings (hReading hRun) hLater with
    hSame | ⟨j, _, _, hOther, hAgain⟩
  · exact hSame
  · rw [hOther.unique hServes] at hAgain
    exact absurd hAgain hAnswering.not_completes

end Once

------------------------------------------------------------
-- A Request That Turns Authentication Off
------------------------------------------------------------

/- An administrator `a` logs in and sends the index. -/
def disableAuthRun : List Label := [
  .read 4 { accept := some 5 },
  .read 5 { recv := some [1, 1, 2] },
  .write 5 { send := some 100 },
  .read 5 { recv := some [1, 1, 0x61, 1, 0x62] },
  .write 5 { send := some 100 },
  .read 5 { recv := some [0x0C] }]

/- The world before the parameter. -/
def disableAuthWorld : World :=
  runTo disableAuthRun (smallServer methodUsernamePassword
    ⟨fun _ => {}, 0⟩
    (addUser ⟨fun _ => {}, 0⟩ [0x61] [0x62]))

theorem disableAuth_atomic :
    ∃ k, Serving disableAuthWorld k
        (.read 5 { recv := some [1] }) ∧
      Completes disableAuthWorld k { recv := some [1] }
        (exec disableAuthWorld
          (.read 5 { recv := some [1] })) := by
  have hReach : server.Reachable disableAuthWorld :=
    reachable_runTo disableAuthRun
      (.init (smallServer_initial _ _ (by decide) (Or.inr rfl)))
  rcases mng_atomic (l := .read 5 { recv := some [1] })
    hReach (by decide +kernel) (fun hSame => absurd
      (congrArg (fun x => x.2.1) hSame)
      (by decide +kernel)) with
    ⟨k, a, hAnswers, hServing, hDone, _⟩
  have hSame : { recv := some [1] } = a :=
    Option.some.inj hAnswers
  rw [← hSame] at hDone
  exact ⟨k, hServing, hDone⟩

end Socks5d
