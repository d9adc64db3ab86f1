import Socks5d.Authentication
import Socks5d.System

/-
  Runs of `auth_read`: when `auth_process` sees a whole
  message, over every stream and every segmentation.

  Main declarations:
    * `Progress.auth_version`, `Progress.auth_whole`
    * `authCalls`, `versionByte`
    * `AuthClean`, `auth_clean_iff`
-/

------------------------------------------------------------
-- The Parser On Each Prefix
------------------------------------------------------------

namespace Socks5d

/- The blocks before a preset one: only the first is preset. -/
theorem authBlocks_fixed
    {done : List (Block × List UInt8)}
    {size : UInt8}
    {check : Option Check}
    {rest : List Block}
    (h : authBlocks =
      done.map Prod.fst ++ .fixed size check :: rest) :
    done = [] ∧ size = 1 ∧ check = some checkVersion := by
  rcases done with _ | ⟨first, _ | ⟨second, _ | ⟨third, more⟩⟩⟩
  · simp only [authBlocks, List.map_nil, List.nil_append,
      List.cons.injEq, Block.fixed.injEq] at h
    exact ⟨rfl, h.1.1.symm, h.1.2.symm⟩
  · simp [authBlocks] at h
  · simp [authBlocks] at h
  · simp [authBlocks] at h

/- The version that the check lets through. -/
theorem checkVersion_iff
    (b : UInt8) :
    (checkVersion ([b] ++ [0]) 1).1 = true ↔ b = 0x01 := by
  by_cases hOne : b = 0x01
  · subst hOne
    exact ⟨fun _ => rfl, fun _ => rfl⟩
  · have hRefused : checkVersion ([b] ++ [0]) 1 =
        (false, some versionError) :=
      if_pos (Or.inr fun hHead =>
        hOne (Option.some.inj hHead))
    rw [hRefused]
    exact ⟨fun hBad => Bool.noConfusion hBad,
      fun hBad => absurd hBad hOne⟩

/- The first byte of any stored fields is the version. -/
theorem encodeAll_version
    {done : List (Block × List UInt8)}
    {rest : List Block}
    (hBlocks : authBlocks = done.map Prod.fst ++ rest)
    (hDone : ∀ entry ∈ done, entry.1.Accepts entry.2)
    (hSome : done ≠ []) :
    (encodeAll done).head? = some 0x01 := by
  cases done with
  | nil => exact absurd rfl hSome
  | cons entry more =>
      rcases entry with ⟨block, field⟩
      have hBlock := hDone _ List.mem_cons_self
      rw [List.map_cons, List.cons_append] at hBlocks
      have hFirst : block =
          Block.fixed 1 (some checkVersion) :=
        (List.cons.inj hBlocks).1.symm
      subst hFirst
      rcases List.length_eq_one_iff.1 hBlock.1 with ⟨b, rfl⟩
      have hVersion := hBlock.2 checkVersion rfl
      rw [(checkVersion_iff b).1 hVersion]
      rfl

/-
  A parser in progress has read nothing, or accepted the
  version, or refused it and stopped there.
-/
theorem Progress.auth_version
    {fed : List UInt8}
    {p : Parser}
    (h : Progress authBlocks fed p) :
    (fed = [] ∧ p.current = .longRead) ∨
      (fed.head? = some 0x01 ∧ p.current ≠ .errorRead) ∨
      ∃ b, fed = [b] ∧ b ≠ 0x01 ∧ p.current = .errorRead := by
  cases h with
  | inFixed done size check rest field error hBlocks hDone
      hField =>
      rcases authBlocks_fixed hBlocks with ⟨rfl, rfl, _⟩
      have hNil : field = [] :=
        List.length_eq_zero_iff.1 (Nat.lt_one_iff.1 hField)
      subst hNil
      exact Or.inl ⟨rfl, rfl⟩
  | atCounted done rest error hBlocks hDone =>
      refine Or.inr (Or.inl ⟨?_, fun hBad => nomatch hBad⟩)
      refine encodeAll_version hBlocks hDone ?_
      rintro rfl
      nomatch (List.cons.inj hBlocks).1
  | inCounted done size rest field error hBlocks hDone
      hField =>
      refine Or.inr (Or.inl ⟨?_, fun hBad => nomatch hBad⟩)
      have hSome : done ≠ [] := by
        rintro rfl
        nomatch (List.cons.inj hBlocks).1
      have hHead := encodeAll_version hBlocks hDone hSome
      rw [List.head?_append, hHead]
      rfl
  | finished done error hBlocks hDone =>
      refine Or.inr (Or.inl ⟨?_, fun hBad => nomatch hBad⟩)
      have hAll : authBlocks = done.map Prod.fst ++ [] := by
        rw [List.append_nil]
        exact hBlocks
      refine encodeAll_version hAll hDone ?_
      rintro rfl
      nomatch hBlocks
  | rejected done size check rest field error hBlocks hDone
      hField hCheck =>
      rcases authBlocks_fixed hBlocks with ⟨rfl, rfl, hEq⟩
      rcases List.length_eq_one_iff.1 hField with ⟨b, rfl⟩
      rw [Option.some.inj hEq] at hCheck
      refine Or.inr (Or.inr ⟨b, rfl, ?_, rfl⟩)
      intro hOne
      rw [(checkVersion_iff b).2 hOne] at hCheck
      exact nomatch hCheck

/- A parser that is done has the whole message. -/
theorem Progress.auth_whole
    {fed : List UInt8}
    {p : Parser}
    (h : Progress authBlocks fed p)
    (hDone : p.current = .doneRead) :
    ∃ name pass : List UInt8,
      fed = 0x01 :: UInt8.ofNat name.length :: name ++
        UInt8.ofNat pass.length :: pass ∧
      name.length < 256 ∧ pass.length < 256 ∧
      p.resultAt 2 = some (name ++ [0]) ∧
      p.resultAt 4 = some (pass ++ [0]) := by
  cases h with
  | inFixed => nomatch hDone
  | atCounted => nomatch hDone
  | inCounted => nomatch hDone
  | rejected => nomatch hDone
  | finished done error hBlocks hAccepts =>
      rcases done with _ | ⟨⟨block, version⟩, _ |
        ⟨⟨second, name⟩, _ | ⟨⟨third, pass⟩, more⟩⟩⟩
      · nomatch hBlocks
      · nomatch hBlocks
      · nomatch hBlocks
      · have hMore : more = [] := by
          simp only [authBlocks, List.map_cons,
            List.cons.injEq, List.nil_eq,
            List.map_eq_nil_iff] at hBlocks
          exact hBlocks.2.2.2
        subst hMore
        simp only [authBlocks, List.map_cons, List.map_nil,
          List.cons.injEq, and_true] at hBlocks
        rcases hBlocks with ⟨rfl, rfl, rfl⟩
        have hVersion := hAccepts _ List.mem_cons_self
        have hName := hAccepts (.counted, name) (by simp)
        have hPass := hAccepts (.counted, pass) (by simp)
        rcases List.length_eq_one_iff.1 hVersion.1 with
          ⟨b, rfl⟩
        have hOne := (checkVersion_iff b).1
          (hVersion.2 checkVersion rfl)
        subst hOne
        refine ⟨name, pass, ?_, hName, hPass, rfl, rfl⟩
        simp [encodeAll, Block.encode]

theorem authBlocks_wellFormed :
    ∀ block ∈ authBlocks, block.WellFormed := by
  intro block hMem
  simp only [authBlocks, List.mem_cons,
    List.not_mem_nil, or_false] at hMem
  rcases hMem with rfl | rfl | rfl
  · exact Nat.one_pos
  · trivial
  · trivial

end Socks5d

------------------------------------------------------------
-- Runs
------------------------------------------------------------

namespace Socks5d

/-
  A call of `auth_read`: the server as the other connections
  have left it, and what the system answers.
-/
structure AuthCall where
  srv : Server
  answers : Answers

/-
  The calls while the connection stays in its state, each
  with the state it starts from and with its result.
-/
def authCalls
    (key : Key) :
    List AuthCall → St → List (St × (St × Nat))
| [], _ => []
| call :: rest, s =>
    let s := { s with srv := call.srv }
    let r := authRead key call.answers s
    (s, r) ::
      if r.2 = USERPASS_READ then authCalls key rest r.1
      else []

/- The first byte that the first call has for the parser. -/
def versionByte
    (calls : List AuthCall)
    (s : St) : Option UInt8 :=
  match calls with
  | [] => none
  | call :: _ =>
      if s.recvBytes call.answers = [] then none
      else (s.conn.readBuffer.pending ++
        s.recvBytes call.answers).head?

/-
  `auth_process`, which counts an attempt, has been run only
  on a message whose two strings are there.
-/
def OnlyWhole
    (s : St)
    (r : St × Nat) : Prop :=
  r.1.srv.metrics.historicAuthAttempts ≠
      s.srv.metrics.historicAuthAttempts →
    r.1.conn.userpass.parser.current = .doneRead ∧
      ∃ username password,
        r.1.conn.userpass.parser.resultAt 2 =
            some username ∧
          r.1.conn.userpass.parser.resultAt 4 =
            some password

/- The call only moves the connection to its error state. -/
def OnlyError
    (s : St)
    (r : St × Nat) : Prop :=
  r.2 = s.conn.errorState ∧
    r.1.srv.metrics = s.srv.metrics ∧
    r.1.srv.fault = s.srv.fault ∧
    r.1.conn.authentication = s.conn.authentication

/-
  What a run should be: no attempt without a whole message,
  and nothing but an error for a version other than 0x01.
-/
def AuthClean
    (key : Key)
    (calls : List AuthCall)
    (s : St) : Prop :=
  (∀ call ∈ authCalls key calls s,
    OnlyWhole call.1 call.2) ∧
  ((∃ b, versionByte calls s = some b ∧ b ≠ 0x01) →
    ∀ call ∈ authCalls key calls s,
      OnlyError call.1 call.2)

/- Every way through `auth_process` counts an attempt. -/
theorem AuthProcess.counted
    {s : St}
    {r : St × Nat}
    (h : AuthProcess s r) :
    r.1.srv.metrics.historicAuthAttempts =
        s.srv.metrics.historicAuthAttempts + 1 ∧
      r.1.conn.userpass = s.conn.userpass := by
  cases h with
  | accepted => exact ⟨rfl, rfl⟩
  | denied => exact ⟨rfl, rfl⟩
  | noEntries => exact ⟨rfl, rfl⟩
  | crashed => exact ⟨rfl, rfl⟩

theorem count_moves
    (n : UInt64) : n + 1 ≠ n := by
  intro hSame
  have hOne : (1 : UInt64) = 0 := by grind
  exact absurd hOne (by decide)

/- What `consume` makes of the bytes of one call. -/
theorem authFed_progress
    (key : Key)
    {s : St}
    {a : Answers}
    {fed : List UInt8}
    (h : Progress authBlocks fed s.conn.userpass.parser)
    (hGoing : isDone s.conn.userpass.parser.current = false) :
    let bytes := s.recvBytes a
    let after := (authFed key bytes s).1
    ∃ used,
      s.conn.readBuffer.pending ++ bytes =
          used ++ after.conn.readBuffer.pending ∧
        Progress authBlocks (fed ++ used)
          after.conn.userpass.parser ∧
        (isDone after.conn.userpass.parser.current = true ∨
          after.conn.readBuffer.pending = []) := by
  have hStored := St.take_recvBytes (s := s) (a := a) rfl
  have hFed := Progress.of_consume authBlocks_wellFormed h
    hGoing (s.conn.readBuffer.writeAdv (s.recvBytes a))
  rw [Buffer.writeAdv_pending, hStored] at hFed
  exact hFed

/-
  The first bytes of a message: with the version 0x01 they
  are not refused, with another they are.
-/
theorem authFed_version
    {key : Key}
    {s : St}
    {a : Answers}
    {b : UInt8}
    (h : Progress authBlocks [] s.conn.userpass.parser)
    (hFirst : (s.conn.readBuffer.pending ++
      s.recvBytes a).head? = some b) :
    (authFed key (s.recvBytes a)
        s).1.conn.userpass.parser.current = .errorRead ↔
      b ≠ 0x01 := by
  have hGoing : isDone s.conn.userpass.parser.current =
      false := by
    rcases h.auth_version with ⟨_, hLong⟩ | ⟨hBad, _⟩ |
      ⟨_, hBad, _⟩
    · rw [hLong]
      rfl
    · nomatch hBad
    · nomatch hBad
  rcases authFed_progress key (a := a) h hGoing with
    ⟨used, hSplit, hUsed, hEnd⟩
  rw [List.nil_append] at hUsed
  rw [hSplit] at hFirst
  rcases hUsed.auth_version with ⟨rfl, hLong⟩ |
    ⟨hOne, hFine⟩ | ⟨c, rfl, hOther, hError⟩
  · rw [hLong] at hEnd
    rcases hEnd with hBad | hNil
    · nomatch hBad
    · rw [hNil] at hFirst
      nomatch hFirst
  · rw [List.head?_append, hOne] at hFirst
    rw [← Option.some.inj hFirst]
    exact ⟨fun hBad => absurd hBad hFine,
      fun hBad => absurd rfl hBad⟩
  · rw [← Option.some.inj hFirst]
    exact ⟨fun _ => hOther, fun _ => hError⟩

/-
  Between two calls: what was fed so far is the start of a
  message that was not refused.
-/
structure AuthGoing
    (fed : List UInt8)
    (s : St) : Prop where
  progress : Progress authBlocks fed s.conn.userpass.parser
  going : isDone s.conn.userpass.parser.current = false
  fine : s.conn.userpass.failed = false

/- A version that was read was accepted. -/
theorem AuthGoing.accepted
    {fed : List UInt8}
    {s : St}
    (h : AuthGoing fed s)
    (hFed : fed ≠ []) : fed.head? = some 0x01 := by
  rcases h.progress.auth_version with
    ⟨hNil, _⟩ | ⟨hHead, _⟩ | ⟨_, _, _, hError⟩
  · exact absurd hNil hFed
  · exact hHead
  · have hGoing := h.going
    rw [hError] at hGoing
    nomatch hGoing

/-
  One call on a message whose version is 0x01, or is not yet
  there.
-/
theorem AuthGoing.call
    {key : Key}
    {fed : List UInt8}
    {s : St}
    {interest : Interest}
    {attached : Attachment}
    (h : AuthGoing fed s)
    (hHas : s.srv.sel.Has key.fd interest attached)
    (a : Answers)
    (hVersion : fed ≠ [] ∨ s.recvBytes a = [] ∨
      (s.conn.readBuffer.pending ++ s.recvBytes a).head? =
        some 0x01) :
    OnlyWhole s (authRead key a s) ∧
      ((authRead key a s).2 = USERPASS_READ →
        ∃ more, more ≠ [] ∧
          AuthGoing more (authRead key a s).1) := by
  have hState := (s.conn.over_ne USERPASS_READ
    (by decide)).1
  rcases authFed_progress key (a := a) h.progress
    h.going with ⟨used, hSplit, hUsed, hEnd⟩
  have hRead := authRead_outcome hHas a
  generalize authRead key a s = r at hRead ⊢
  cases hRead with
  | failed hFailed =>
      exact ⟨fun hBad => absurd rfl hBad,
        fun hBad => absurd hBad hState⟩
  | ended hBytes =>
      exact ⟨fun hBad => absurd rfl hBad,
        fun hBad => absurd hBad hState⟩
  | more bytes hBytes hSome hGoing hFine =>
      subst hBytes
      refine ⟨fun hBad => absurd rfl hBad, fun _ => ?_⟩
      refine ⟨fed ++ used, ?_, hUsed, hGoing, hFine⟩
      intro hNil
      have hNone := (List.append_eq_nil_iff.1 hNil).2
      rw [hNone, List.nil_append] at hSplit
      rcases hEnd with hBad | hEmpty
      · rw [hGoing] at hBad
        nomatch hBad
      · rw [hEmpty] at hSplit
        exact hSome (List.append_eq_nil_iff.1 hSplit).2
  | rejected bytes hBytes processed hProcess hSome hError =>
      subst hBytes
      exfalso
      rcases hUsed.auth_version with ⟨_, hLong⟩ |
        ⟨_, hFine⟩ | ⟨b, hByte, hOther, _⟩
      · rw [hError] at hLong
        nomatch hLong
      · exact hFine hError
      · by_cases hNil : fed = []
        · subst hNil
          rcases hVersion with hFed | hNone | hOne
          · exact hFed rfl
          · exact hSome hNone
          · exact (authFed_version h.progress hOne).1 hError
              rfl
        · -- the version was read before, and accepted
          have hFirst := congrArg List.head? hByte
          rw [List.head?_append, h.accepted hNil] at hFirst
          exact hOther (Option.some.inj hFirst).symm
  | answered bytes hBytes hSome hDone processed hProcess hFine =>
      subst hBytes
      rcases hProcess.counted with ⟨_, hSame⟩
      have hNext : USERPASS_WRITE ≠ USERPASS_READ := by
        decide
      refine ⟨fun _ => ?_, ?_⟩
      · rcases hUsed.auth_whole hDone with
          ⟨name, pass, _, _, _, hName, hPass⟩
        rw [hSame]
        exact ⟨hDone, _, _, hName, hPass⟩
      · intro hBad
        cases hProcess with
        | accepted => exact absurd hBad hNext
        | denied => exact absurd hBad hNext
        | noEntries => exact absurd hBad hNext
        | crashed => exact absurd hBad hNext

/- Every call finds the slot of its descriptor. -/
def Slotted
    (key : Key)
    (calls : List AuthCall) : Prop :=
  ∀ call ∈ calls, ∃ interest attached,
    call.srv.sel.Has key.fd interest attached

/- A run on a message whose version is not refused. -/
theorem AuthGoing.run
    {key : Key}
    {calls : List AuthCall}
    (hSlots : Slotted key calls)
    {fed : List UInt8}
    {s : St}
    (h : AuthGoing fed s)
    (hVersion : fed ≠ [] ∨ versionByte calls s = none ∨
      versionByte calls s = some 0x01) :
    ∀ call ∈ authCalls key calls s,
      OnlyWhole call.1 call.2 := by
  induction calls generalizing fed s with
  | nil =>
      intro call hMem
      nomatch hMem
  | cons call rest ih =>
      rcases hSlots call List.mem_cons_self with
        ⟨interest, attached, hHas⟩
      have hRest : Slotted key rest := fun other hMem =>
        hSlots other (List.mem_cons_of_mem _ hMem)
      have hHere : AuthGoing fed { s with srv := call.srv } :=
        ⟨h.progress, h.going, h.fine⟩
      have hFirst : fed ≠ [] ∨ s.recvBytes call.answers = [] ∨
          (s.conn.readBuffer.pending ++
            s.recvBytes call.answers).head? = some 0x01 := by
        unfold versionByte at hVersion
        by_cases hBytes : s.recvBytes call.answers = []
        · exact Or.inr (Or.inl hBytes)
        · simp only [if_neg hBytes] at hVersion
          rcases hVersion with hFed | hNone | hOne
          · exact Or.inl hFed
          · have hNil := List.head?_eq_none_iff.1 hNone
            exact absurd (List.append_eq_nil_iff.1 hNil).2
              hBytes
          · exact Or.inr (Or.inr hOne)
      rcases hHere.call hHas call.answers hFirst with
        ⟨hWhole, hNext⟩
      intro c hMem
      unfold authCalls at hMem
      rcases List.mem_cons.1 hMem with rfl | hLater
      · exact hWhole
      · split at hLater
        · rename_i hStays
          rcases hNext hStays with ⟨more, hMore, hGoing⟩
          exact ih hRest hGoing (Or.inl hMore) c hLater
        · nomatch hLater

/- Another version is compared with the table all the same. -/
theorem other_version_counted
    {key : Key}
    {s : St}
    {interest : Interest}
    {attached : Attachment}
    {b : UInt8}
    (h : AuthGoing [] s)
    (hHas : s.srv.sel.Has key.fd interest attached)
    (a : Answers)
    (hSome : s.recvBytes a ≠ [])
    (hFirst : (s.conn.readBuffer.pending ++
      s.recvBytes a).head? = some b)
    (hOther : b ≠ 0x01) :
    ¬ OnlyWhole s (authRead key a s) := by
  have hError := (@authFed_version key s a b h.progress
    hFirst).2 hOther
  have hRead := authRead_outcome hHas a
  generalize authRead key a s = r at hRead ⊢
  intro hWhole
  cases hRead with
  | failed hFailed =>
      rw [h.fine] at hFailed
      nomatch hFailed
  | ended hBytes => exact hSome hBytes
  | more bytes hBytes _ hGoing _ =>
      subst hBytes
      rw [hError] at hGoing
      nomatch hGoing
  | rejected bytes hBytes processed hProcess _ _ =>
      subst hBytes
      rcases hProcess.counted with ⟨hCount, hSame⟩
      have hMoved : processed.1.srv.metrics.historicAuthAttempts
          ≠ s.srv.metrics.historicAuthAttempts := by
        rw [hCount]
        exact count_moves _
      have hDone := (hWhole hMoved).1
      rw [hSame] at hDone
      exact nomatch hError.symm.trans hDone
  | answered bytes hBytes _ hDone _ _ _ =>
      subst hBytes
      exact nomatch hError.symm.trans hDone

/-
  With memory for the parser, a run is clean exactly when its
  message starts with the version 0x01, or nothing arrives.
-/
theorem auth_clean_iff
    (key : Key)
    {a : Answers}
    (hAlloc : a.alloc .userpass = true)
    (s : St)
    {calls : List AuthCall}
    (hSlots : Slotted key calls) :
    AuthClean key calls (authReadInit key a s) ↔
      versionByte calls (authReadInit key a s) = none ∨
        versionByte calls (authReadInit key a s) =
          some 0x01 := by
  have hStart : AuthGoing [] (authReadInit key a s) := by
    unfold authReadInit
    rw [if_pos hAlloc]
    refine ⟨?_, rfl, rfl⟩
    exact Progress.start authBlocks_wellFormed
      (List.cons_ne_nil _ _)
  generalize authReadInit key a s = s at hStart ⊢
  constructor
  · intro hClean
    cases calls with
    | nil => exact Or.inl rfl
    | cons call rest =>
        rcases hSlots call List.mem_cons_self with
          ⟨interest, attached, hHas⟩
        by_cases hBytes : s.recvBytes call.answers = []
        · left
          exact if_pos hBytes
        · cases hFirst : (s.conn.readBuffer.pending ++
            s.recvBytes call.answers).head? with
          | none =>
              have hNil := List.head?_eq_none_iff.1 hFirst
              exact absurd (List.append_eq_nil_iff.1 hNil).2
                hBytes
          | some b =>
              right
              have hSame : versionByte (call :: rest) s =
                  some b := (if_neg hBytes).trans hFirst
              rw [hSame]
              by_contra hOther
              have hHere : AuthGoing []
                  { s with srv := call.srv } :=
                ⟨hStart.progress, hStart.going, hStart.fine⟩
              exact other_version_counted hHere hHas
                call.answers hBytes hFirst
                (fun hOne => hOther (congrArg some hOne))
                (hClean.1 _ List.mem_cons_self)
  · intro hVersion
    refine ⟨hStart.run hSlots (Or.inr hVersion), ?_⟩
    rintro ⟨b, hByte, hOther⟩
    rw [hByte] at hVersion
    rcases hVersion with hNone | hOne
    · nomatch hNone
    · exact absurd (Option.some.inj hOne) hOther

/- A server with one user, `a`, and one client. -/
def authServer : Server :=
  let users := addUser { entry := fun _ => {}, count := 0 }
    [0x61] [0x62]
  let srv := (smallServer methodUsernamePassword users
    users).srv
  { srv with sel := srv.sel.put 5 ⟨opRead, .socks 0⟩ }

/- Its client starts to read the credentials. -/
def authStart : St :=
  authReadInit ⟨5, 0⟩ {}
    { srv := authServer
      conn := { isSocks := true, clientFd := 5 } }

theorem authServer_slotted
    (a : Answers) :
    Slotted ⟨5, 0⟩ [⟨authServer, a⟩] := by
  intro call hMem
  rw [List.mem_singleton.1 hMem]
  exact ⟨opRead, .socks 0, rfl, rfl⟩

/- A whole message of the user `a`. -/
theorem auth_clean_user :
    AuthClean ⟨5, 0⟩
      [⟨authServer, { recv := some [1, 1, 0x61, 1, 0x62] }⟩]
      authStart :=
  (auth_clean_iff ⟨5, 0⟩ (a := {}) rfl _
    (authServer_slotted _)).2 (Or.inr (by decide +kernel))

/-
  The one byte 0x05: it is counted as an attempt, and a null
  pointer is compared with the name of the user `a`.
-/
theorem other_version_not_clean :
    ¬ AuthClean ⟨5, 0⟩
        [⟨authServer, { recv := some [0x05] }⟩] authStart ∧
      (authRead ⟨5, 0⟩ { recv := some [0x05] }
        authStart).1.srv.fault = some .segv := by
  refine ⟨fun hClean => ?_, by decide +kernel⟩
  have hWhole := hClean.1 _ List.mem_cons_self
  exact absurd (hWhole (by decide +kernel)).1
    (by decide +kernel)

end Socks5d
