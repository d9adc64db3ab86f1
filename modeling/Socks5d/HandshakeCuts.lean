import Socks5d.Intakes

/-
  The handshake and the chunks that its bytes come in: any two
  ways of cutting what a client sends lead to the same state,
  replies and calls of `connect`, unless a message that has
  arrived with the one before it is left in the read buffer.

  Main declarations:
    * `Delivery`, `World.Quiet`, `Conn.Settled`
    * `own_together`, `Delivery.still`
    * `Intake.run`, `Abreast.meet`, `Abreast.next`
    * `Delivery.reachable`
-/

------------------------------------------------------------
-- Runs Of A Handshake
------------------------------------------------------------

namespace Socks5d

/- The states that read a message of the handshake. -/
def Conn.Reading (c : Conn) : Prop :=
  c.current = none ∨ c.current = some HELLO_READ ∨
    c.current = some USERPASS_READ ∨
    c.current = some REQUEST_READ

/- A slot of the connection waits for such an event. -/
def St.Armed
    (s : St)
    (k : ConnId)
    (fd : Fd)
    (asks : Interest → Bool) : Prop :=
  s.srv.fault = none ∧
    ∃ item, s.srv.sel.fds fd = some item ∧
      item.attached = .socks k ∧ asks item.interest = true

/-
  What can happen to a connection besides a `recv`: a reply
  is sent, the origin answers `connect`, its resolver runs.
-/
inductive St.Own
    (s : St)
    (k : ConnId) : Label → Prop where
  | client
      (a : Answers)
      (hArmed : s.Armed k s.conn.clientFd Interest.write) :
      Own s k (.write s.conn.clientFd a)
  | origin
      (a : Answers)
      (hArmed : s.Armed k s.conn.originFd Interest.write) :
      Own s k (.write s.conn.originFd a)
  | threadStart
      (i : Nat)
      (t : Thread)
      (hFault : s.srv.fault = none)
      (hThread : s.srv.threads[i]? = some t)
      (hData : t.data = k)
      (hHost : t.host = none) :
      Own s k (.threadStart i)
  | threadDone
      (i : Nat)
      (addresses : List Addrinfo)
      (a : Answers)
      (t : Thread)
      (hFault : s.srv.fault = none)
      (hThread : s.srv.threads[i]? = some t)
      (hData : t.data = k)
      (hHost : t.host ≠ none) :
      Own s k (.threadDone i addresses a)
  | notify
      (a : Nat → Answers)
      (job : BlockingJob)
      (item : Item)
      (hFault : s.srv.fault = none)
      (hJobs : s.srv.jobs = [job])
      (hItem : s.srv.sel.registered? job.fd = some item)
      (hData : item.attached = .socks k) :
      Own s k (.notify a)

/- All but what tells how the bytes came. -/
def St.hidden (s : St) : St :=
  s.swap (.init rawBuffSize) []

/-
  The chunks reach a connection one after the other, each by
  a `recv` for which the client is armed and that returns all
  of it. In between the connection goes on: what happens next,
  and what the system answers, is given by `plan`, which does
  not see how the bytes came.
-/
inductive Delivery
    (k : ConnId)
    (env : Answers)
    (plan : St → Option Label) :
    World → List (List UInt8) → World → Prop where
  | finished
      (w : World) :
      Delivery k env plan w [] w
  | recv
      (w v : World)
      (chunk : List UInt8)
      (rest : List (List UInt8))
      (next : World)
      (hArmed : (w.view k).Armed k (w.conn k).clientFd
        Interest.read)
      (hSome : chunk ≠ [])
      (hNext : next = exec w (.read (w.conn k).clientFd
        { env with recv := some chunk }))
      (hGot : bytesFrom .client (next.conn k).log =
        bytesFrom .client (w.conn k).log ++ chunk)
      (hRest : Delivery k env plan next rest v) :
      Delivery k env plan w (chunk :: rest) v
  | acts
      (w v : World)
      (chunks : List (List UInt8))
      (l : Label)
      (hNot : ¬ (w.conn k).Reading)
      (hCopy : (w.conn k).current ≠ some COPY)
      (hOwn : (w.view k).Own k l)
      (hPlan : plan (w.view k).hidden = some l)
      (hRest : Delivery k env plan (exec w l) chunks v) :
      Delivery k env plan w chunks v
  /- in `COPY`, bytes are sent on to the origin -/
  | forward
      (w v : World)
      (chunks : List (List UInt8))
      (a : Answers)
      (n : Nat)
      (hCopy : (w.conn k).current = some COPY)
      (hArmed : (w.view k).Armed k (w.conn k).originFd
        Interest.write)
      (hSend : a.send = some n)
      (hRest : Delivery k env plan
        (exec w (.write (w.conn k).originFd a)) chunks v) :
      Delivery k env plan w chunks v

/- Nothing more happens until the client sends. -/
def World.Quiet
    (w : World)
    (k : ConnId)
    (plan : St → Option Label) : Prop :=
  (w.conn k).Reading ∨ (w.conn k).current = some COPY ∨
    ∀ l, plan (w.view k).hidden = some l →
      ¬ (w.view k).Own k l

/-
  What waits in the read buffer would not complete the message
  that the state reads.
-/
structure Conn.Settled (c : Conn) : Prop where
  hello : c.current = some HELLO_READ →
    helloIsDone (helloConsume c.readBuffer
      c.hello.parser).1.state = false
  login : c.current = some USERPASS_READ →
    isDone (consume c.readBuffer
      c.userpass.parser).parser.current = false
  request : ∀ p, c.current = some REQUEST_READ →
    c.request.parser = some p →
      requestIsDone (requestConsume c.readBuffer p).1.state =
        false

section Running

variable {S : Intake}
variable {k : ConnId}
variable {w w' : World}
variable {s t u v : St}
variable {key : Key}
variable {a : Answers}
variable {fd : Fd}
variable {f : St → St}
variable {l : Label}

theorem Conn.Reading.not_copy
    {c : Conn}
    (h : c.Reading) : c.current ≠ some COPY := by
  intro hBad
  unfold Conn.Reading at h
  rw [hBad] at h
  exact absurd h (by decide)

theorem Intake.Known.reads
    {c : Conn}
    (h : S.Known)
    (hState : c.current = some S.state) : c.Reading := by
  rcases h with rfl | rfl | rfl
  · exact Or.inr (Or.inl hState)
  · exact Or.inr (Or.inr (Or.inl hState))
  · exact Or.inr (Or.inr (Or.inr hState))

theorem Alike.originFd
    (h : Alike s t) : t.conn.originFd = s.conn.originFd := by
  rw [h.same]
  rfl

theorem Alike.symm
    (h : Alike s t) : Alike t s where
  same := by
    rw [h.same]
    rfl
  sent := h.sent.symm
  tries := h.tries.symm

theorem Alike.reading
    (h : Alike s t) : t.conn.Reading ↔ s.conn.Reading := by
  unfold Conn.Reading
  rw [h.current]

theorem Alike.hidden
    (h : Alike s t) : t.hidden = s.hidden := by
  rw [h.same]
  rfl

theorem Alike.armed
    {asks : Interest → Bool}
    (h : Alike s t) :
    t.Armed k fd asks ↔ s.Armed k fd asks := by
  unfold St.Armed
  rw [h.srv]

theorem Alike.own
    (h : Alike s t)
    (hOwn : s.Own k l) : t.Own k l := by
  cases hOwn with
  | client a hArmed =>
      rw [← h.clientFd]
      exact .client a (h.armed.mpr (h.clientFd ▸ hArmed))
  | origin a hArmed =>
      rw [← h.originFd]
      exact .origin a (h.armed.mpr (h.originFd ▸ hArmed))
  | threadStart i thread hFault hThread hData hHost =>
      exact .threadStart i thread (h.srv ▸ hFault)
        (h.srv ▸ hThread) hData hHost
  | threadDone i addresses a thread hFault hThread hData
      hHost =>
      exact .threadDone i addresses a thread (h.srv ▸ hFault)
        (h.srv ▸ hThread) hData hHost
  | notify a job item hFault hJobs hItem hData =>
      exact .notify a job item (h.srv ▸ hFault)
        (h.srv ▸ hJobs) (h.srv ▸ hItem) hData

theorem St.Armed.read_enabled
    (h : (w.view k).Armed k fd Interest.read)
    (a : Answers) : Enabled w (.read fd a) = true := by
  rcases h with ⟨hFault, item, hItem, _, hAsks⟩
  have hSlot : w.srv.sel.fds fd = some item := hItem
  have hNone : w.srv.fault = none := hFault
  show (w.srv.fault.isNone && (w.srv.sel.fds fd).any fun item =>
    item.interest.read) = true
  rw [hSlot, hNone]
  exact hAsks

theorem St.Armed.write_enabled
    (h : (w.view k).Armed k fd Interest.write)
    (a : Answers) : Enabled w (.write fd a) = true := by
  rcases h with ⟨hFault, item, hItem, _, hAsks⟩
  have hSlot : w.srv.sel.fds fd = some item := hItem
  have hNone : w.srv.fault = none := hFault
  show (w.srv.fault.isNone && (w.srv.sel.fds fd).any fun item =>
    item.interest.write) = true
  rw [hSlot, hNone]
  exact hAsks

theorem St.Own.enabled
    (h : (w.view k).Own k l) : Enabled w l = true := by
  cases h with
  | client a hArmed => exact hArmed.write_enabled a
  | origin a hArmed => exact hArmed.write_enabled a
  | threadStart i thread hFault hThread hData hHost =>
      have hSlot : w.srv.threads[i]? = some thread := hThread
      have hNone : w.srv.fault = none := hFault
      show (w.srv.fault.isNone &&
        (w.srv.threads[i]?).any fun t => t.host.isNone) = true
      rw [hSlot, hNone]
      exact Option.isNone_iff_eq_none.mpr hHost
  | threadDone i addresses a thread hFault hThread hData
      hHost =>
      have hSlot : w.srv.threads[i]? = some thread := hThread
      have hNone : w.srv.fault = none := hFault
      show (w.srv.fault.isNone &&
        (w.srv.threads[i]?).any fun t => t.host.isSome) = true
      rw [hSlot, hNone]
      exact Option.isSome_iff_ne_none.mpr hHost
  | notify a job item hFault hJobs hItem hData =>
      have hNone : w.srv.fault = none := hFault
      exact Option.isNone_iff_eq_none.mpr hNone

theorem World.put_view
    (w : World)
    (k : ConnId)
    (s : St) : (w.put k s).view k = s := by
  unfold World.view World.put
  simp only [Function.update_self]

theorem view_exec_read
    {asks : Interest → Bool}
    (h : (w.view k).Armed k fd asks) :
    exec w (.read fd a) =
      w.put k (socksv5Event StateDefinition.onReadReady
        ⟨fd, k⟩ a (w.view k)) := by
  rcases h with ⟨_, item, hItem, hAttached, _⟩
  have hSlot : w.srv.sel.fds fd = some item := hItem
  unfold exec
  simp only [hSlot, hAttached]
  rfl

theorem view_exec_write
    {asks : Interest → Bool}
    (h : (w.view k).Armed k fd asks) :
    exec w (.write fd a) =
      w.put k (socksv5Event StateDefinition.onWriteReady
        ⟨fd, k⟩ a (w.view k)) := by
  rcases h with ⟨_, item, hItem, hAttached, _⟩
  have hSlot : w.srv.sel.fds fd = some item := hItem
  unfold exec
  simp only [hSlot, hAttached]
  rfl

/- The other states have no use for bytes. -/
theorem not_read
    {c : Conn}
    {state : Nat}
    (hState : c.current = some state)
    (hNot : ¬ c.Reading)
    (hCopy : c.current ≠ some COPY) :
    (clientStatbl state).onReadReady = none := by
  unfold Conn.Reading at hNot
  rw [hState] at hNot hCopy
  unfold clientStatbl
  split
  · exact absurd (Or.inr (Or.inl rfl)) hNot
  · rfl
  · exact absurd (Or.inr (Or.inr (Or.inl rfl))) hNot
  · rfl
  · exact absurd (Or.inr (Or.inr (Or.inr rfl))) hNot
  · rfl
  · rfl
  · rfl
  · exact absurd rfl hCopy
  · rfl

/- Where a `recv` is recorded, the client is read. -/
theorem read_open
    {env : Answers}
    {chunk : List UInt8}
    {next : World}
    (hArmed : (w.view k).Armed k fd Interest.read)
    (hSome : chunk ≠ [])
    (hNext : next = exec w (.read fd
      { env with recv := some chunk }))
    (hGot : bytesFrom .client (next.conn k).log =
      bytesFrom .client (w.conn k).log ++ chunk) :
    (w.conn k).Reading ∨ (w.conn k).current = some COPY := by
  by_contra hNot
  rw [not_or] at hNot
  cases hState : (w.conn k).current with
  | none => exact hNot.1 (Or.inl hState)
  | some state =>
      have hHere : (w.view k).conn.current = some state :=
        hState
      have hView : next.view k = (w.view k).crash .abort := by
        rw [hNext, view_exec_read hArmed, World.put_view,
          socksv5Event_none hHere
            (not_read hState hNot.1 hNot.2)]
      have hLog : (next.conn k).log = (w.conn k).log :=
        congrArg (fun s : St => s.conn.log) hView
      rw [hLog] at hGot
      exact hSome (List.self_eq_append_right.mp hGot)

theorem Blind.together
    (hf : Blind f)
    (h : Alike s t) : Together s t (f s) (f t) :=
  .alike (hf.alike h) (hf s).1 (hf.keeps s).1 (hf.keeps t).1

/- A step before, of which the event makes nothing new. -/
theorem Together.after
    (h : Together (f s) (f t) u v)
    (hf : Blind f) : Together s t u v := by
  cases h with
  | alike hAlike hGoesOn hFirst hSecond =>
      exact .alike hAlike ((hf s).1.trans hGoesOn)
        (hFirst.trans (hf.keeps s).1)
        (hSecond.trans (hf.keeps t).1)
  | relaying hOutcome hFirst hSecond =>
      exact .relaying hOutcome hFirst hSecond

/- An event of such a kind in states that agree. -/
theorem event_together
    {ready : StateDefinition → Option Handler}
    (hBlind : ∀ state handler, state ≠ COPY →
      ready (clientStatbl state) = some handler →
        BlindCall fun s => handler key a s)
    (h : Alike s t)
    (hNone : s.conn.current ≠ none)
    (hCopy : s.conn.current ≠ some COPY) :
    Together s t (socksv5Event ready key a s)
      (socksv5Event ready key a t) := by
  cases hState : s.conn.current with
  | none => exact absurd hState hNone
  | some state =>
      have hState' := h.current.trans hState
      cases hReady : ready (clientStatbl state) with
      | none =>
          rw [socksv5Event_none hState hReady,
            socksv5Event_none hState' hReady]
          exact (blind_crash .abort).together h
      | some handler =>
          rw [socksv5Event_eq hState hReady,
            socksv5Event_eq hState' hReady]
          refine (hBlind state handler ?_ hReady).together h
            hCopy
          rintro rfl
          exact hCopy hState

theorem write_together
    (h : Alike (w.view k) (w'.view k))
    (hNone : (w.conn k).current ≠ none)
    (hCopy : (w.conn k).current ≠ some COPY)
    (hArmed : (w.view k).Armed k fd Interest.write) :
    Together (w.view k) (w'.view k)
      ((exec w (.write fd a)).view k)
      ((exec w' (.write fd a)).view k) := by
  rw [view_exec_write hArmed,
    view_exec_write (h.armed.mpr hArmed),
    World.put_view, World.put_view]
  exact event_together (fun _ _ => blind_onWriteReady) h
    hNone hCopy

/- The thread of the connection takes the name. -/
theorem start_together
    {i : Nat}
    {thread : Thread}
    (h : Alike (w.view k) (w'.view k))
    (hThread : w.srv.threads[i]? = some thread)
    (hData : thread.data = k) :
    Together (w.view k) (w'.view k)
      ((exec w (.threadStart i)).view k)
      ((exec w' (.threadStart i)).view k) := by
  subst hData
  have hSrv : w'.srv = w.srv := h.srv
  have hThread' : w'.srv.threads[i]? = some thread := by
    rw [hSrv, hThread]
  have hParser : (w'.conn thread.data).request.parser =
      (w.conn thread.data).request.parser :=
    congrArg (fun s : St => s.conn.request.parser) h.same
  show Together _ _
    ((requestResolvBlocking i w).view thread.data)
    ((requestResolvBlocking i w').view thread.data)
  unfold requestResolvBlocking
  cases hSome : (w.conn thread.data).request.parser with
  | none =>
      simp only [hThread, hThread', hParser, hSome]
      exact (blind_crash .segv).together h
  | some p =>
      simp only [hThread, hThread', hParser, hSome]
      have hBlind : Blind fun s => { s with
          srv.threads := s.srv.threads.set i { thread with
            host := some (p.request.host.take
              p.request.fqdnSize, p.request.destPort) }
          conn.originResolution := [] } :=
        .update fun _ _ _ => ⟨rfl, rfl⟩
      have hBoth := hBlind.together h
      unfold World.view at hBoth ⊢
      simp only [Function.update_self]
      exact hBoth

/- It ends, and makes a job. -/
theorem done_together
    {i : Nat}
    {addresses : List Addrinfo}
    {thread : Thread}
    (h : Alike (w.view k) (w'.view k))
    (hThread : w.srv.threads[i]? = some thread)
    (hData : thread.data = k) :
    Together (w.view k) (w'.view k)
      ((exec w (.threadDone i addresses a)).view k)
      ((exec w' (.threadDone i addresses a)).view k) := by
  subst hData
  have hSrv : w'.srv = w.srv := h.srv
  have hThread' : w'.srv.threads[i]? = some thread := by
    rw [hSrv, hThread]
  show Together _ _
    ((requestResolvNotify i addresses a w).view thread.data)
    ((requestResolvNotify i addresses a w').view thread.data)
  unfold requestResolvNotify
  simp only [hThread, hThread']
  have hBlind : Blind fun s => { s with
      srv := selectorNotifyBlock thread a { s.srv with
        threads := s.srv.threads.eraseIdx i }
      conn.originResolution := addresses } :=
    .update fun _ _ _ => ⟨rfl, rfl⟩
  have hBoth := hBlind.together h
  unfold World.view at hBoth ⊢
  simp only [Function.update_self]
  exact hBoth

/- The selector hands its only job over. -/
theorem notify_view
    {answers : Nat → Answers}
    {job : BlockingJob}
    {item : Item}
    (hFault : w.srv.fault = none)
    (hJobs : w.srv.jobs = [job])
    (hItem : w.srv.sel.registered? job.fd = some item)
    (hData : item.attached = .socks k) :
    (exec w (.notify answers)).view k =
      socksv5Event StateDefinition.onBlockReady ⟨job.fd, k⟩
        (answers 0)
        (St.note { w.view k with srv.jobs := [] }
          (.notified job.starter job.request)) := by
  show (handleBlockNotifications answers w).view k = _
  unfold handleBlockNotifications
  rw [hJobs]
  show (notificationLoop answers (0 + 1) w).view k = _
  unfold notificationLoop notificationLoop
  rw [if_pos hFault]
  unfold handleBlockTurn
  simp only [hJobs, hItem]
  unfold handleBlock noteNotified
  simp only [hData]
  show (World.put _ k _).view k = _
  rw [World.put_view]
  simp only [Attachment.data?]
  rw [World.put_view]
  rfl

theorem notify_together
    {answers : Nat → Answers}
    {job : BlockingJob}
    {item : Item}
    (h : Alike (w.view k) (w'.view k))
    (hNone : (w.conn k).current ≠ none)
    (hCopy : (w.conn k).current ≠ some COPY)
    (hFault : w.srv.fault = none)
    (hJobs : w.srv.jobs = [job])
    (hItem : w.srv.sel.registered? job.fd = some item)
    (hData : item.attached = .socks k) :
    Together (w.view k) (w'.view k)
      ((exec w (.notify answers)).view k)
      ((exec w' (.notify answers)).view k) := by
  have hSrv : w'.srv = w.srv := h.srv
  rw [notify_view hFault hJobs hItem hData,
    notify_view (hSrv ▸ hFault) (hSrv ▸ hJobs)
      (hSrv ▸ hItem) hData]
  have hBlind : Blind fun s => St.note { s with
      srv.jobs := [] } (.notified job.starter job.request) :=
    (Blind.update (f := fun s => { s with srv.jobs := [] })
      fun _ _ _ => ⟨rfl, rfl⟩).comp
    (.note (fun _ => .notified job.starter job.request)
      (fun _ => rfl) fun _ _ _ => rfl)
  exact (event_together
    (fun _ _ _ hSome => blind_onBlockReady hSome)
    (hBlind.alike h) hNone hCopy).after hBlind

/- Whatever happens next, it happens to both. -/
theorem own_together
    (h : Alike (w.view k) (w'.view k))
    (hNone : (w.conn k).current ≠ none)
    (hCopy : (w.conn k).current ≠ some COPY)
    (hOwn : (w.view k).Own k l) :
    Together (w.view k) (w'.view k)
      ((exec w l).view k) ((exec w' l).view k) := by
  cases hOwn with
  | client a hArmed =>
      exact write_together h hNone hCopy hArmed
  | origin a hArmed =>
      exact write_together h hNone hCopy hArmed
  | threadStart i thread hFault hThread hData hHost =>
      exact start_together h hThread hData
  | threadDone i addresses a thread hFault hThread hData
      hHost =>
      exact done_together h hThread hData
  | notify a job item hFault hJobs hItem hData =>
      exact notify_together h hNone hCopy hFault hJobs hItem
        hData

end Running

end Socks5d

------------------------------------------------------------
-- One Message
------------------------------------------------------------

namespace Socks5d

/- The history tells the same of replies and attempts. -/
structure Retold
    (s : St)
    (log : List Ev) : Prop where
  sent : bytesTo .client log = bytesTo .client s.conn.log
  tries : log.filterMap Ev.attempt? = s.conn.tries

/-
  A message was read into the parser `q`, the bytes `rest`
  were left, and nothing else has happened.
-/
def Intake.Stores
    (S : Intake)
    (s t : St)
    (q : S.P)
    (rest : List UInt8) : Prop :=
  ∃ rb log, Retold s log ∧ rb.pending = rest ∧
    t = (S.store q s).swap rb log

/- The message is not complete when the run is over. -/
structure Intake.Stuck
    (S : Intake)
    (k : ConnId)
    (p : S.P)
    (s : St)
    (chunks : List (List UInt8))
    (v : World) : Prop where
  stored : ∃ q rest, S.Stores s (v.view k) q rest
  live : (v.conn k).Settled → S.reader.Live p
    (s.conn.readBuffer.pending ++ chunks.flatten)

/-
  The bytes `used` completed the message, it was answered, and
  the run went on from there.
-/
structure Intake.Answered
    (S : Intake)
    (k : ConnId)
    (env : Answers)
    (plan : St → Option Label)
    (p : S.P)
    (s : St)
    (chunks : List (List UInt8))
    (v : World)
    (used rest : List UInt8)
    (u : World)
    (later : List (List UInt8)) : Prop where
  stops : S.reader.Stops p used
  split : s.conn.readBuffer.pending ++ chunks.flatten =
    used ++ (rest ++ later.flatten)
  stored : ∃ t,
    S.Stores s t (S.reader.feedAll p used) rest ∧
      u.view k = finish ⟨s.conn.clientFd, k⟩ env
        (S.answer ⟨s.conn.clientFd, k⟩ env t)
  run : Delivery k env plan u later v
  less : later.length < chunks.length

/- What has become of a message when the run is over. -/
inductive Intake.Ran
    (S : Intake)
    (k : ConnId)
    (env : Answers)
    (plan : St → Option Label)
    (p : S.P)
    (s : St)
    (chunks : List (List UInt8))
    (v : World) : Prop where
  | stuck
      (hStuck : S.Stuck k p s chunks v)
  | answered
      (used rest : List UInt8)
      (u : World)
      (later : List (List UInt8))
      (hAnswered : S.Answered k env plan p s chunks v used
        rest u later)

section Running

variable {S : Intake}
variable {k : ConnId}
variable {env : Answers}
variable {plan : St → Option Label}
variable {w v : World}
variable {chunks : List (List UInt8)}
variable {p : S.P}
variable {s t : St}
variable {log : List Ev}

theorem Retold.recv
    {more : List Ev}
    (h : Retold s log)
    (hSent : bytesTo .client more = [])
    (hTries : more.filterMap Ev.attempt? = []) :
    Retold s (log ++ more) where
  sent := by
    rw [bytesTo_append, hSent, List.append_nil, h.sent]
  tries := by
    rw [List.filterMap_append, hTries, List.append_nil,
      h.tries]

/- Reading does not stop, so no prefix of it does. -/
theorem Intake.live_of_fed
    {rb : Buffer rawBuffSize}
    (hGoing : S.reader.stop (rb.feed S.reader p).1 = false) :
    S.reader.Live p rb.pending := by
  rcases S.reader.consume_cases p rb.pending with
    ⟨hLive, _⟩ | ⟨used, rest, _, hStops, hEq⟩
  · exact hLive
  · rw [(rb.feed_eq S.reader p).1, hEq,
      hStops.stop_feedAll] at hGoing
    nomatch hGoing

theorem Intake.settled
    (hIntake : S.Known)
    (hState : s.conn.current = some S.state)
    (hParser : S.parser? s = some p)
    (hSettled : s.conn.Settled) :
    S.reader.Live p s.conn.readBuffer.pending := by
  refine Intake.live_of_fed ?_
  rcases hIntake with rfl | rfl | rfl
  · have hEq : s.conn.hello.parser = p :=
      Option.some.inj hParser
    rw [← hEq]
    exact hSettled.hello hState
  · have hEq : s.conn.userpass.parser = p :=
      Option.some.inj hParser
    rw [← hEq]
    exact hSettled.login hState
  · exact hSettled.request p hState hParser

/- A message that was read in two parts. -/
theorem Intake.Stores.trans
    {u : St}
    {q q' : S.P}
    {rest rest' : List UInt8}
    (hFirst : S.Stores s t q rest)
    (hLawful : S.Lawful)
    (hSecond : S.Stores t u q' rest') :
    S.Stores s u q' rest' := by
  rcases hFirst with ⟨rb, log, hRetold, _, rfl⟩
  rcases hSecond with ⟨rb', log', hRetold', hRest', rfl⟩
  refine ⟨rb', log', ⟨hRetold'.sent.trans hRetold.sent,
    hRetold'.tries.trans hRetold.tries⟩, hRest', ?_⟩
  rw [hLawful.store_swap, hLawful.store_store]
  rfl

theorem Intake.Stores.clientFd
    {q : S.P}
    {rest : List UInt8}
    (h : S.Stores s t q rest)
    (hLawful : S.Lawful) :
    t.conn.clientFd = s.conn.clientFd := by
  rcases h with ⟨rb, log, _, _, rfl⟩
  exact hLawful.clientFd q s

theorem Intake.Stores.current
    {q : S.P}
    {rest : List UInt8}
    (h : S.Stores s t q rest)
    (hLawful : S.Lawful) :
    t.conn.current = s.conn.current := by
  rcases h with ⟨rb, log, _, _, rfl⟩
  exact hLawful.current q s

theorem Intake.Stores.pending
    {q : S.P}
    {rest : List UInt8}
    (h : S.Stores s t q rest) :
    t.conn.readBuffer.pending = rest := by
  rcases h with ⟨rb, log, _, hRest, rfl⟩
  exact hRest

/- A chunk that did not complete the message came before. -/
theorem Intake.Ran.later
    {chunk : List UInt8}
    {rest : List (List UInt8)}
    (h : S.Ran k env plan (S.reader.feedAll p
      (s.conn.readBuffer.pending ++ chunk)) t rest v)
    (hLawful : S.Lawful)
    (hStores : S.Stores s t (S.reader.feedAll p
      (s.conn.readBuffer.pending ++ chunk)) [])
    (hLive : S.reader.Live p
      (s.conn.readBuffer.pending ++ chunk)) :
    S.Ran k env plan p s (chunk :: rest) v := by
  have hPending := hStores.pending
  cases h with
  | stuck hStuck =>
      rcases hStuck.stored with ⟨q, left, hLater⟩
      refine .stuck ⟨⟨q, left, hStores.trans hLawful hLater⟩,
        ?_⟩
      intro hSettled
      have hRest := hStuck.live hSettled
      rw [hPending, List.nil_append] at hRest
      rw [List.flatten_cons, ← List.append_assoc]
      exact (S.reader.live_append _ _ _).mpr ⟨hLive, hRest⟩
  | answered used left u later hAnswered =>
      rcases hAnswered.stored with ⟨x, hLater, hView⟩
      have hSplit := hAnswered.split
      rw [hPending, List.nil_append] at hSplit
      refine .answered (s.conn.readBuffer.pending ++ chunk ++
        used) left u later ⟨(S.reader.stops_append_of_live
          hLive).mpr hAnswered.stops, ?_, ⟨x, ?_, ?_⟩,
          hAnswered.run, Nat.lt_succ_of_lt hAnswered.less⟩
      · rw [List.flatten_cons, List.append_assoc _ used,
          ← hSplit]
        simp only [List.append_assoc]
      · rw [S.reader.feedAll_append]
        exact hStores.trans hLawful hLater
      · rw [hView, hStores.clientFd hLawful]

/-
  By induction on the run, while the state keeps reading the
  message.
-/
theorem Intake.run
    (hIntake : S.Known)
    (hRun : Delivery k env plan w chunks v) :
    ∀ p, (w.conn k).current = some S.state →
      S.parser? (w.view k) = some p →
        S.Ran k env plan p (w.view k) chunks v := by
  have hLawful := hIntake.lawful
  induction hRun with
  | finished w =>
      intro p hState hParser
      refine .stuck ⟨⟨p, _, (w.conn k).readBuffer,
        (w.conn k).log, ⟨rfl, rfl⟩, rfl, ?_⟩, ?_⟩
      · rw [hLawful.store_self p _ hParser]
        rfl
      · intro hSettled
        rw [List.flatten_nil, List.append_nil]
        exact Intake.settled hIntake hState hParser hSettled
  | acts w v chunks l hNot =>
      intro p hState
      exact absurd (hIntake.reads hState) hNot
  | forward w v chunks a n hCopy =>
      intro p hState
      exact absurd hCopy (hIntake.reads hState).not_copy
  | recv w v chunk rest next hArmed hSome hNext hGot hRest
      ih =>
      intro p hState hParser
      have hView : next.view k =
          socksv5Event StateDefinition.onReadReady
            ⟨(w.conn k).clientFd, k⟩
            { env with recv := some chunk } (w.view k) := by
        rw [hNext, view_exec_read hArmed, World.put_view]
      have hTaken := Intake.taken hIntake hState hParser hSome
        hView hGot
      have hRetold : Retold (w.view k) ((w.conn k).log ++
          [.recv .client chunk]) :=
        Retold.recv ⟨rfl, rfl⟩ rfl rfl
      cases hTaken with
      | whole used left rb hSplit hStops hLeft hEq =>
          refine .answered used left next rest ⟨hStops, ?_,
            ⟨_, ⟨rb, _, hRetold, hLeft, rfl⟩, hEq⟩, hRest,
            Nat.lt_succ_self _⟩
          rw [List.flatten_cons, ← List.append_assoc, hSplit,
            List.append_assoc]
      | more rb hLive hEmpty hEq =>
          have hStores : S.Stores (w.view k) (next.view k)
              (S.reader.feedAll p
                ((w.conn k).readBuffer.pending ++ chunk)) [] :=
            ⟨rb, _, hRetold, hEmpty, hEq⟩
          have hStill : (next.conn k).current =
              some S.state :=
            (hStores.current hLawful).trans hState
          have hFed : S.parser? (next.view k) =
              some (S.reader.feedAll p
                ((w.conn k).readBuffer.pending ++ chunk)) := by
            rw [hEq, hLawful.parser_swap]
            exact hLawful.parser_store _ _
          exact (ih _ hStill hFed).later hLawful hStores hLive

end Running

end Socks5d

------------------------------------------------------------
-- Relaying
------------------------------------------------------------

namespace Socks5d

section Relaying

variable {k : ConnId}
variable {env : Answers}
variable {plan : St → Option Label}
variable {w v : World}
variable {chunks : List (List UInt8)}
variable {key : Key}
variable {a : Answers}
variable {s t u : St}
variable {side : Side}

theorem SameOutcome.symm
    (h : SameOutcome s t) : SameOutcome t s :=
  ⟨h.current.symm, h.sent.symm, h.tries.symm,
    h.threads.symm⟩

theorem SameOutcome.trans
    (hFirst : SameOutcome s t)
    (hSecond : SameOutcome t u) : SameOutcome s u :=
  ⟨hSecond.current.trans hFirst.current,
    hSecond.sent.trans hFirst.sent,
    hSecond.tries.trans hFirst.tries,
    hSecond.threads.trans hFirst.threads⟩

/- What relaying does not change. -/
structure StillRelays (s t : St) : Prop where
  relays : t.Relays
  same : SameOutcome s t

theorem StillRelays.trans
    (hFirst : StillRelays s t)
    (hSecond : StillRelays t u) : StillRelays s u :=
  ⟨hSecond.relays, hFirst.same.trans hSecond.same⟩

/- A handler that stays in `COPY` ends the event. -/
theorem finish_relaying
    (h : s.conn.current = some COPY) :
    finish key a (s, COPY) = s := by
  have hEnd : ¬ (COPY = ERROR ∨ COPY = DONE) := by decide
  have hMax : ¬ COPY > s.conn.maxState := by
    unfold Conn.maxState
    split
    · decide
    · decide
  unfold finish
  dsimp only
  rw [if_neg hEnd]
  unfold jump
  rw [if_neg hMax, if_pos h]

/- The end of `copy_read` and `copy_write`. -/
theorem copyFinish_still
    (h : StillRelays s t) :
    (copyFinish side t).2 = COPY ∧
      StillRelays s (copyFinish side t).1 := by
  have hFirst := copyComputeInterests_conn side t
  have hSecond := copyComputeInterests_conn side.other
    (copyComputeInterests side t)
  unfold copyFinish
  dsimp only
  rw [hSecond.1, hFirst.1, h.relays.both side]
  rw [if_neg (by decide)]
  refine ⟨rfl, ⟨?_, ?_⟩, ⟨?_, ?_, ?_, ?_⟩⟩
  · rw [hSecond.1, hFirst.1]
    exact h.relays.current
  · rw [hSecond.1, hFirst.1]
    exact h.relays.both
  · rw [hSecond.1, hFirst.1]
    exact h.same.current
  · rw [hSecond.1, hFirst.1]
    exact h.same.sent
  · rw [hSecond.1, hFirst.1]
    exact h.same.tries
  · rw [hSecond.2, hFirst.2]
    exact h.same.threads

theorem StillRelays.finish_eq
    {r : St × Nat}
    (h : r.2 = COPY ∧ StillRelays s r.1) :
    StillRelays s (finish key a r) := by
  have hSplit : r = (r.1, COPY) := by
    rw [← h.1]
  rw [hSplit, finish_relaying h.2.relays.current]
  exact h.2

/- What is searched is neither sent nor a call. -/
theorem dissect_still
    (bytes : List UInt8)
    (h : StillRelays s t) : StillRelays s (dissect bytes t) := by
  unfold dissect
  split
  · refine ⟨⟨h.relays.current, h.relays.both⟩,
      h.same.current, ?_, ?_, h.same.threads⟩
    · show bytesTo .client (t.conn.log ++ .consumed bytes ::
        List.map _ _) = _
      rw [bytesTo_append, ← h.same.sent]
      have hNil : bytesTo .client (.consumed bytes ::
          List.map (Ev.captured ((t.srv.users.entry
            t.conn.userIndex).name.getD []))
            (passwordConsume bytes
              t.conn.passwordParser).2) = [] := by
        unfold bytesTo
        rw [List.flatMap_cons, List.flatMap_map]
        exact List.flatMap_eq_nil_iff.mpr fun _ _ => rfl
      exact (congrArg _ hNil).trans (List.append_nil _)
    · have hTries := h.same.tries
      unfold Conn.tries at hTries ⊢
      show (t.conn.log ++ Ev.consumed bytes ::
        List.map _ _).filterMap _ = _
      rw [List.filterMap_append, ← hTries]
      have hNil : (Ev.consumed bytes ::
          List.map (Ev.captured ((t.srv.users.entry
            t.conn.userIndex).name.getD []))
            (passwordConsume bytes
              t.conn.passwordParser).2).filterMap
            Ev.attempt? = [] := by
        rw [List.filterMap_cons, List.filterMap_map]
        exact List.filterMap_eq_nil_iff.mpr fun _ _ => rfl
      exact (congrArg _ hNil).trans (List.append_nil _)
  · exact h

theorem note_still
    {event : Ev}
    (h : s.Relays)
    (hSent : bytesTo .client [event] = [])
    (hTries : event.attempt? = none) :
    StillRelays s (s.note event) := by
  refine ⟨⟨h.current, h.both⟩, rfl, ?_, ?_, rfl⟩
  · show bytesTo .client (s.conn.log ++ [event]) = _
    rw [bytesTo_append, hSent, List.append_nil]
  · unfold Conn.tries
    show (s.conn.log ++ [event]).filterMap _ = _
    rw [List.filterMap_append, List.filterMap_cons, hTries]
    exact List.append_nil _

/- Buffers and counters are nothing to it. -/
theorem setRb_still
    {m : Metrics}
    {b : Buffer rawBuffSize}
    (h : StillRelays s t) :
    StillRelays s { t with
      srv.metrics := m
      conn := t.conn.setRb side b } := by
  cases side with
  | client =>
      exact ⟨⟨h.relays.current, h.relays.both⟩,
        h.same.current, h.same.sent, h.same.tries,
        h.same.threads⟩
  | origin =>
      exact ⟨⟨h.relays.current, h.relays.both⟩,
        h.same.current, h.same.sent, h.same.tries,
        h.same.threads⟩

/- `copy_read` and `copy_write` end in one of two states. -/
theorem copyFinish_ends
    (side : Side)
    (s : St) :
    (copyFinish side s).1.conn = s.conn ∧
      ((copyFinish side s).2 = COPY ∨
        (copyFinish side s).2 = DONE) := by
  have hFirst := copyComputeInterests_conn side s
  have hSecond := copyComputeInterests_conn side.other
    (copyComputeInterests side s)
  unfold copyFinish
  dsimp only
  split
  · exact ⟨hSecond.1.trans hFirst.1, Or.inr rfl⟩
  · exact ⟨hSecond.1.trans hFirst.1, Or.inl rfl⟩

theorem copyEnded_current
    (side : Side)
    (s : St) :
    (copyEnded side s).conn.current = s.conn.current := by
  rcases copyShut_eq side s.conn Interest.clearRead
    Interest.clearWrite with ⟨_, _, hEq⟩
  unfold copyEnded copyShutRead
  rw [hEq]
  rfl

/- What `recv` does in `COPY`, if it is recorded. -/
theorem copyRead_still
    (h : s.Relays) :
    StillRelays s (finish key a (copyRead key a s)) ∨
      bytesFrom .client (finish key a
        (copyRead key a s)).conn.log =
          bytesFrom .client s.conn.log := by
  have hCrash : ∀ fault, StillRelays s
      (finish key a (s.crash fault, COPY)) := fun fault =>
    .finish_eq ⟨rfl, ⟨⟨h.current, h.both⟩, rfl, rfl, rfl,
      rfl⟩⟩
  unfold copyRead
  cases hPtr : s.conn.copyPtr key.fd with
  | none => exact Or.inl (hCrash .exit)
  | some side =>
      dsimp only
      by_cases hFd : (s.conn.copySt side).fd ≠ key.fd
      · rw [if_pos hFd]
        exact Or.inl (hCrash .assertion)
      rw [if_neg hFd]
      by_cases hNone : (a.recv.getD []).take
          (s.conn.rb side).room = []
      · rw [if_pos hNone]
        right
        rcases copyFinish_ends side (copyEnded side s) with
          ⟨hConn, hNext⟩
        have hLog : bytesFrom .client
            (copyFinish side (copyEnded side s)).1.conn.log =
              bytesFrom .client s.conn.log := by
          rw [hConn, copyEnded_log, bytesFrom_append]
          exact List.append_nil _
        have hSplit : copyFinish side (copyEnded side s) =
            ((copyFinish side (copyEnded side s)).1,
              (copyFinish side (copyEnded side s)).2) := rfl
        rw [hSplit]
        rcases hNext with hCopy | hDone
        · rw [hCopy, finish_relaying]
          · exact hLog
          · rw [hConn, copyEnded_current]
            exact h.current
        · have hBlind : Blind fun u =>
              finish key a (u, DONE) :=
            blind_finish (by decide)
          rw [hDone]
          exact (hBlind.keeps _).2.trans hLog
      · rw [if_neg hNone]
        left
        refine .finish_eq (copyFinish_still ?_)
        refine setRb_still (dissect_still _ ?_)
        exact note_still h rfl rfl

/- What is sent on to the origin. -/
theorem copyWrite_still
    {n : Nat}
    (h : s.Relays)
    (hFd : key.fd = s.conn.originFd)
    (hSend : a.send = some n) :
    StillRelays s (finish key a (copyWrite key a s)) := by
  have hPtr : s.conn.copyPtr key.fd = some .origin := by
    unfold Conn.copyPtr
    rw [if_pos hFd]
  unfold copyWrite
  simp only [hPtr, hSend]
  by_cases hOther : (s.conn.copySt .origin).fd ≠ key.fd
  · rw [if_pos hOther]
    exact .finish_eq ⟨rfl, ⟨⟨h.current, h.both⟩, rfl, rfl,
      rfl, rfl⟩⟩
  · rw [if_neg hOther]
    refine .finish_eq (copyFinish_still ?_)
    refine ⟨⟨h.current, h.both⟩, rfl, ?_, ?_, rfl⟩
    · rw [copySent_log, bytesTo_append]
      exact List.append_nil _
    · unfold Conn.tries
      rw [copySent_log, List.filterMap_append]
      exact List.append_nil _

/-
  By induction on the run: nothing of the outcome changes
  once the connection relays.
-/
theorem Delivery.still
    (hRun : Delivery k env plan w chunks v) :
    (w.view k).Relays → StillRelays (w.view k) (v.view k) := by
  induction hRun with
  | finished w =>
      intro hRelays
      exact ⟨hRelays, rfl, rfl, rfl, rfl⟩
  | acts w v chunks l hNot hCopy =>
      intro hRelays
      exact absurd hRelays.current hCopy
  | forward w v chunks a n hCopy hArmed hSend hRest ih =>
      intro hRelays
      have hStep : StillRelays (w.view k)
          ((exec w (.write (w.conn k).originFd a)).view k) := by
        rw [view_exec_write hArmed, World.put_view,
          socksv5Event_eq hRelays.current rfl]
        exact copyWrite_still hRelays rfl hSend
      exact hStep.trans (ih hStep.relays)
  | recv w v chunk rest next hArmed hSome hNext hGot
      hRest ih =>
      intro hRelays
      have hView : next.view k =
          finish ⟨(w.conn k).clientFd, k⟩
            { env with recv := some chunk }
            (copyRead ⟨(w.conn k).clientFd, k⟩
              { env with recv := some chunk }
              (w.view k)) := by
        rw [hNext, view_exec_read hArmed, World.put_view,
          socksv5Event_eq hRelays.current rfl]
      rcases copyRead_still hRelays with hStep | hSame
      · rw [← hView] at hStep
        exact hStep.trans (ih hStep.relays)
      · rw [← hView] at hSame
        have hBad := hSame.symm.trans hGot
        exact absurd (List.self_eq_append_right.mp hBad)
          hSome

end Relaying

end Socks5d

------------------------------------------------------------
-- Runs Side By Side
------------------------------------------------------------

namespace Socks5d

section Comparing

variable {S : Intake}
variable {k : ConnId}
variable {env : Answers}
variable {plan : St → Option Label}
variable {w w' v v' : World}
variable {chunks chunks' : List (List UInt8)}
variable {s t : St}
variable {u u' : World}

/- The bytes that a run still has to offer to the parsers. -/
def World.offers
    (w : World)
    (k : ConnId)
    (chunks : List (List UInt8)) : List UInt8 :=
  (w.conn k).readBuffer.pending ++ chunks.flatten

/- Two runs that have come equally far. -/
structure Abreast
    (k : ConnId)
    (env : Answers)
    (plan : St → Option Label)
    (w w' : World)
    (chunks chunks' : List (List UInt8))
    (v v' : World) : Prop where
  alike : Alike (w.view k) (w'.view k)
  started : (w.conn k).current ≠ none
  bytes : w.offers k chunks = w'.offers k chunks'
  first : Delivery k env plan w chunks v
  second : Delivery k env plan w' chunks' v'

/- Both have entered `COPY`. -/
theorem Delivery.relaying
    (hFirst : Delivery k env plan u chunks v)
    (hSecond : Delivery k env plan u' chunks' v')
    (hOutcome : SameOutcome (u.view k) (u'.view k))
    (hRelays : (u.view k).Relays)
    (hRelays' : (u'.view k).Relays) :
    SameOutcome (v.view k) (v'.view k) :=
  ((hFirst.still hRelays).same.symm.trans hOutcome).trans
    (hSecond.still hRelays').same

/- A state that neither reads nor relays goes on or stops. -/
theorem Delivery.waits
    (h : Delivery k env plan w chunks v)
    (hReading : ¬ (w.conn k).Reading)
    (hCopy : (w.conn k).current ≠ some COPY) :
    v = w ∨ ∃ l, (w.view k).Own k l ∧
      plan (w.view k).hidden = some l ∧
        Delivery k env plan (exec w l) chunks v := by
  cases h with
  | finished => exact Or.inl rfl
  | recv _ _ chunk rest next hArmed hSome hNext hGot =>
      rcases read_open hArmed hSome hNext hGot with
        hOpen | hOpen
      · exact absurd hOpen hReading
      · exact absurd hOpen hCopy
  | acts _ _ _ l _ _ hOwn hPlan hRest =>
      exact Or.inr ⟨l, hOwn, hPlan, hRest⟩
  | forward _ _ _ a n hBad => exact absurd hBad hCopy

theorem World.Quiet.no_own
    {l : Label}
    (h : w.Quiet k plan)
    (hReading : ¬ (w.conn k).Reading)
    (hCopy : (w.conn k).current ≠ some COPY)
    (hPlan : plan (w.view k).hidden = some l) :
    ¬ (w.view k).Own k l := by
  rcases h with hBad | hBad | hNone
  · exact absurd hBad hReading
  · exact absurd hBad hCopy
  · exact hNone l hPlan

/- Both act, and have come equally far again. -/
theorem Abreast.acts
    {l : Label}
    (h : Abreast k env plan w w' chunks chunks' v v')
    (hCopy : (w.conn k).current ≠ some COPY)
    (hOwn : (w.view k).Own k l)
    (hFirst : Delivery k env plan (exec w l) chunks v)
    (hSecond : Delivery k env plan (exec w' l) chunks' v') :
    SameOutcome (v.view k) (v'.view k) ∨
      (Abreast k env plan (exec w l) (exec w' l) chunks
          chunks' v v' ∧
        ((exec w l).conn k).current ≠ some COPY) := by
  cases own_together h.alike h.started hCopy hOwn with
  | relaying hOutcome hRelays hRelays' =>
      exact Or.inl (hFirst.relaying hSecond hOutcome hRelays
        hRelays')
  | alike hAlike hGoesOn hKept hKept' =>
      refine Or.inr ⟨⟨hAlike, hGoesOn.not_none h.started, ?_,
        hFirst, hSecond⟩, hGoesOn.not_copy hCopy⟩
      have hBytes := h.bytes
      unfold World.offers at hBytes ⊢
      have hRb : ((exec w l).conn k).readBuffer =
        (w.conn k).readBuffer := hKept
      have hRb' : ((exec w' l).conn k).readBuffer =
        (w'.conn k).readBuffer := hKept'
      rw [hRb, hRb', hBytes]

/-
  By induction on the first run: both go on in step until
  they read, relay or are over.
-/
theorem Abreast.meet
    (hFirst : Delivery k env plan w chunks v) :
    ∀ w', Abreast k env plan w w' chunks chunks' v v' →
      (w.conn k).current ≠ some COPY →
        v.Quiet k plan → v'.Quiet k plan →
          SameOutcome (v.view k) (v'.view k) ∨
            ∃ u u', Abreast k env plan u u' chunks chunks'
              v v' ∧ (u.conn k).Reading := by
  induction hFirst with
  | finished w =>
      intro w' h hCopy hQuiet _
      by_cases hReading : (w.conn k).Reading
      · exact Or.inr ⟨w, w', h, hReading⟩
      rcases h.second.waits (mt h.alike.reading.mp hReading)
          (h.alike.current ▸ hCopy) with
        rfl | ⟨l, hOwn, hPlan, _⟩
      · exact Or.inl h.alike.outcome
      · rw [h.alike.hidden] at hPlan
        exact absurd (h.alike.symm.own hOwn)
          (hQuiet.no_own hReading hCopy hPlan)
  | recv w v chunk rest next hArmed hSome hNext hGot =>
      intro w' h hCopy _ _
      rcases read_open hArmed hSome hNext hGot with
        hReading | hBad
      · exact Or.inr ⟨w, w', h, hReading⟩
      · exact absurd hBad hCopy
  | forward w v chunks a n hBad =>
      intro w' _ hCopy
      exact absurd hBad hCopy
  | acts w v chunks l hReading hCopy hOwn hPlan hRest ih =>
      intro w' h _ hQuiet hQuiet'
      have hReading' := mt h.alike.reading.mp hReading
      have hCopy' : (w'.conn k).current ≠ some COPY :=
        h.alike.current ▸ hCopy
      have hPlan' : plan (w'.view k).hidden = some l := by
        rw [h.alike.hidden, hPlan]
      rcases h.second.waits hReading' hCopy' with
        rfl | ⟨l', _, hSame, hRest'⟩
      · exact absurd (h.alike.own hOwn)
          (hQuiet'.no_own hReading' hCopy' hPlan')
      · rw [hPlan'] at hSame
        obtain rfl := Option.some.inj hSame
        rcases h.acts hCopy hOwn hRest hRest' with
          hDone | ⟨hAbreast, hNext⟩
        · exact Or.inl hDone
        · exact ih _ hAbreast hNext hQuiet hQuiet'

/- Without a parser `request_read` has no use for bytes. -/
theorem requestRead_parserless
    {key : Key}
    {a : Answers}
    {s : St}
    (hParser : s.conn.request.parser = none)
    (hState : s.conn.current = some REQUEST_READ) :
    bytesFrom .client (finish key a
      (requestRead key a s)).conn.log =
        bytesFrom .client s.conn.log := by
  have hDeaf : BlindCall fun s =>
      if s.conn.request.status ≠ .succeeded then
        (s, REQUEST_WRITE)
      else (s.crash .segv, REQUEST_READ) :=
    .ite (fun s => s.conn.request.status ≠ .succeeded)
      (fun _ _ _ => Iff.rfl)
      (blind_return (fun _ => REQUEST_WRITE)
        fun _ _ _ => rfl)
      ((blind_crash .segv).pair (fun _ => REQUEST_READ)
        fun _ _ _ => rfl)
  have hCall : requestRead key a s =
      if s.conn.request.status ≠ .succeeded then
        (s, REQUEST_WRITE)
      else (s.crash .segv, REQUEST_READ) := by
    unfold requestRead
    simp only [hParser]
  rw [hCall]
  refine hDeaf.finish_unread ?_
  rw [hState]
  decide

/- A reading state without a parser takes nothing. -/
theorem Delivery.deaf
    (hRun : Delivery k env plan w chunks v)
    (hState : (w.conn k).current = some REQUEST_READ)
    (hParser : (w.conn k).request.parser = none) : v = w := by
  have hReading : (w.conn k).Reading :=
    Or.inr (Or.inr (Or.inr hState))
  cases hRun with
  | finished => rfl
  | acts _ _ _ l hNot => exact absurd hReading hNot
  | forward _ _ _ a n hCopy =>
      exact absurd hCopy hReading.not_copy
  | recv _ _ chunk rest next hArmed hSome hNext hGot =>
      exfalso
      have hView : next.view k =
          finish ⟨(w.conn k).clientFd, k⟩
            { env with recv := some chunk }
            (requestRead ⟨(w.conn k).clientFd, k⟩
              { env with recv := some chunk }
              (w.view k)) := by
        rw [hNext, view_exec_read hArmed, World.put_view,
          socksv5Event_eq hState rfl]
      have hSame : bytesFrom .client
          (next.view k).conn.log =
            bytesFrom .client (w.view k).conn.log := by
        rw [hView]
        exact requestRead_parserless hParser hState
      exact hSome (List.self_eq_append_right.mp
        (hSame.symm.trans hGot))

end Comparing

end Socks5d

------------------------------------------------------------
-- Any Two Cuts
------------------------------------------------------------

namespace Socks5d

section Comparing

variable {S : Intake}
variable {k : ConnId}
variable {env : Answers}
variable {plan : St → Option Label}
variable {w w' v v' u u' : World}
variable {chunks chunks' : List (List UInt8)}
variable {p : S.P}

/- The three states, or a request without a parser. -/
theorem Conn.Reading.intake
    (h : (w.conn k).Reading)
    (hSome : (w.conn k).current ≠ none) :
    (∃ S : Intake, S.Known ∧
        (w.conn k).current = some S.state ∧
        ∃ p, S.parser? (w.view k) = some p) ∨
      ((w.conn k).current = some REQUEST_READ ∧
        (w.conn k).request.parser = none) := by
  rcases h with hNone | hHello | hLogin | hRequest
  · exact absurd hNone hSome
  · exact Or.inl ⟨helloIntake, Or.inl rfl, hHello, _, rfl⟩
  · exact Or.inl ⟨loginIntake, Or.inr (Or.inl rfl), hLogin, _,
      rfl⟩
  · cases hParser : (w.conn k).request.parser with
    | none => exact Or.inr ⟨hRequest, rfl⟩
    | some p =>
        exact Or.inl ⟨requestIntake, Or.inr (Or.inr rfl),
          hRequest, p, hParser⟩

/- Where a reader stops is decided by the bytes alone. -/
theorem stops_unique
    {σ : Type}
    {R : Incremental.Reader σ UInt8}
    {q : σ}
    {used used' rest rest' : List UInt8}
    (hStops : R.Stops q used)
    (hStops' : R.Stops q used')
    (hEq : used ++ rest = used' ++ rest') :
    used = used' ∧ rest = rest' := by
  have hOne := R.consume_of_stops hStops rest
  rw [hEq, R.consume_of_stops hStops' rest'] at hOne
  have hRest : rest = rest' := (congrArg Prod.snd hOne).symm
  refine ⟨?_, hRest⟩
  rw [hRest] at hEq
  exact List.append_cancel_right hEq

theorem not_live_of_stops
    {σ : Type}
    {R : Incremental.Reader σ UInt8}
    {q : σ}
    {used rest : List UInt8}
    (hStops : R.Stops q used) :
    ¬ R.Live q (used ++ rest) := by
  intro hLive
  have hUsed := ((R.live_append q used rest).mp hLive).1
  have hSome : used ≠ [] := by
    rintro rfl
    exact hStops
  have hGoing := hUsed.going_feedAll _ hSome
  rw [hStops.stop_feedAll] at hGoing
  nomatch hGoing

/- The same message stored in states that agree. -/
theorem Intake.Stores.alike
    {s s' t t' : St}
    {q : S.P}
    {rest rest' : List UInt8}
    (h : Alike s s')
    (hLawful : S.Lawful)
    (hFirst : S.Stores s t q rest)
    (hSecond : S.Stores s' t' q rest') : Alike t t' := by
  rcases hFirst with ⟨rb, log, hLog, _, rfl⟩
  rcases hSecond with ⟨rb', log', hLog', _, rfl⟩
  refine ⟨?_, hLog'.sent.trans (h.sent.trans hLog.sent.symm),
    hLog'.tries.trans (h.tries.trans hLog.tries.symm)⟩
  rw [h.same, hLawful.store_swap]
  rfl

/- Whatever is stored, it is not told yet. -/
theorem Intake.Stores.outcome
    {s s' t t' : St}
    {q q' : S.P}
    {rest rest' : List UInt8}
    (h : Alike s s')
    (hLawful : S.Lawful)
    (hFirst : S.Stores s t q rest)
    (hSecond : S.Stores s' t' q' rest') :
    SameOutcome t t' := by
  have hCurrent := hFirst.current hLawful
  have hCurrent' := hSecond.current hLawful
  rcases hFirst with ⟨rb, log, hLog, _, rfl⟩
  rcases hSecond with ⟨rb', log', hLog', _, rfl⟩
  refine ⟨hCurrent'.trans (h.current.trans hCurrent.symm),
    hLog'.sent.trans (h.sent.trans hLog.sent.symm),
    hLog'.tries.trans (h.tries.trans hLog.tries.symm), ?_⟩
  show (S.store q' s').srv.threads = (S.store q s).srv.threads
  rw [hLawful.srv, hLawful.srv, h.srv]

/- A message that one run completes is not stuck in another. -/
theorem Intake.Stuck.not_answered
    {s s' : St}
    {used rest : List UInt8}
    {later : List (List UInt8)}
    (h : S.Stuck k p s chunks v)
    (hSettled : (v.conn k).Settled)
    (hBytes : s.conn.readBuffer.pending ++ chunks.flatten =
      s'.conn.readBuffer.pending ++ chunks'.flatten) :
    ¬ S.Answered k env plan p s' chunks' v' used rest u
      later := by
  intro hAnswered
  have hLive := h.live hSettled
  rw [hBytes, hAnswered.split] at hLive
  exact not_live_of_stops hAnswered.stops hLive

/- Both runs complete the message, and answer it alike. -/
theorem Abreast.answered
    {used used' rest rest' : List UInt8}
    {later later' : List (List UInt8)}
    (h : Abreast k env plan w w' chunks chunks' v v')
    (hIntake : S.Known)
    (hState : (w.conn k).current = some S.state)
    (hFirst : S.Answered k env plan p (w.view k) chunks v
      used rest u later)
    (hSecond : S.Answered k env plan p (w'.view k) chunks' v'
      used' rest' u' later') :
    SameOutcome (v.view k) (v'.view k) ∨
      (Abreast k env plan u u' later later' v v' ∧
        (u.conn k).current ≠ some COPY) := by
  have hLawful := hIntake.lawful
  have hFd : (w'.view k).conn.clientFd =
    (w.view k).conn.clientFd := h.alike.clientFd
  rcases stops_unique hFirst.stops hSecond.stops
    (hFirst.split.symm.trans (h.bytes.trans hSecond.split))
    with ⟨rfl, hLeft⟩
  rcases hFirst.stored with ⟨x, hStores, hView⟩
  rcases hSecond.stored with ⟨x', hStores', hView'⟩
  have hCurrent : x.conn.current = some S.state :=
    (hStores.current hLawful).trans hState
  have hReads := hIntake.reads hCurrent
  have hNext : Together x x' (u.view k) (u'.view k) := by
    rw [hView, hView', hFd]
    exact (hLawful.answers _ env).together
      (hStores.alike h.alike hLawful hStores') hReads.not_copy
  cases hNext with
  | relaying hOutcome hRelays hRelays' =>
      exact Or.inl (hFirst.run.relaying hSecond.run hOutcome
        hRelays hRelays')
  | alike hAlike hGoesOn hKept hKept' =>
      refine Or.inr ⟨⟨hAlike, hGoesOn.not_none ?_, ?_,
        hFirst.run, hSecond.run⟩,
        hGoesOn.not_copy hReads.not_copy⟩
      · rw [hCurrent]
        exact Option.some_ne_none _
      · have hRb : (u.conn k).readBuffer.pending = rest :=
          (congrArg Buffer.pending hKept).trans
            hStores.pending
        have hRb' : (u'.conn k).readBuffer.pending = rest' :=
          (congrArg Buffer.pending hKept').trans
            hStores'.pending
        unfold World.offers
        rw [hRb, hRb', hLeft]

/-
  The next message: neither run completes it, or both do with
  the same bytes and go on from there.
-/
theorem Abreast.next
    (h : Abreast k env plan w w' chunks chunks' v v')
    (hIntake : S.Known)
    (hState : (w.conn k).current = some S.state)
    (hParser : S.parser? (w.view k) = some p)
    (hQuiet : v.Quiet k plan)
    (hQuiet' : v'.Quiet k plan)
    (hSettled : (v.conn k).Settled)
    (hSettled' : (v'.conn k).Settled) :
    SameOutcome (v.view k) (v'.view k) ∨
      ∃ u u' later later',
        Abreast k env plan u u' later later' v v' ∧
          (u.conn k).Reading ∧
          later.length < chunks.length := by
  have hLawful := hIntake.lawful
  have hState' : (w'.conn k).current = some S.state :=
    h.alike.current.trans hState
  have hParser' : S.parser? (w'.view k) = some p := by
    rw [h.alike.same, hLawful.parser_swap]
    exact hParser
  cases Intake.run hIntake h.first p hState hParser with
  | stuck hStuck =>
      cases Intake.run hIntake h.second p hState' hParser' with
      | stuck hStuck' =>
          rcases hStuck.stored with ⟨q, rest, hStores⟩
          rcases hStuck'.stored with ⟨q', rest', hStores'⟩
          exact Or.inl (hStores.outcome h.alike hLawful
            hStores')
      | answered used' rest' u' later' hAnswered' =>
          exact absurd hAnswered'
            (hStuck.not_answered hSettled h.bytes)
  | answered used rest u later hAnswered =>
      cases Intake.run hIntake h.second p hState' hParser' with
      | stuck hStuck' =>
          exact absurd hAnswered
            (hStuck'.not_answered hSettled' h.bytes.symm)
      | answered used' rest' u' later' hAnswered' =>
          rcases h.answered hIntake hState hAnswered
            hAnswered' with hDone | ⟨hAbreast, hCopy⟩
          · exact Or.inl hDone
          rcases Abreast.meet hAnswered.run u' hAbreast hCopy
            hQuiet hQuiet' with hDone |
            ⟨x, x', hLater, hReading⟩
          · exact Or.inl hDone
          · exact Or.inr ⟨x, x', later, later', hLater,
              hReading, hAnswered.less⟩

/-
  By induction on how many chunks the first run still gets.
-/
theorem Abreast.outcome
    (hQuiet : v.Quiet k plan)
    (hQuiet' : v'.Quiet k plan)
    (hSettled : (v.conn k).Settled)
    (hSettled' : (v'.conn k).Settled)
    (n : Nat) :
    ∀ w w' chunks chunks', List.length chunks = n →
      Abreast k env plan w w' chunks chunks' v v' →
        (w.conn k).Reading →
          SameOutcome (v.view k) (v'.view k) := by
  induction n using Nat.strong_induction_on with
  | _ n ih =>
      intro w w' chunks chunks' hLength h hReading
      rcases hReading.intake h.started with
        ⟨S, hIntake, hState, p, hParser⟩ | ⟨hState, hParser⟩
      · rcases h.next hIntake hState hParser hQuiet hQuiet'
            hSettled hSettled' with hDone |
          ⟨u, u', later, later', hAbreast, hNext, hLess⟩
        · exact hDone
        · exact ih later.length (hLength ▸ hLess) u u' later
            later' rfl hAbreast hNext
      · have hParser' : (w'.conn k).request.parser = none :=
          (congrArg (fun s : St => s.conn.request.parser)
            h.alike.same).trans hParser
        rw [h.first.deaf hState hParser, h.second.deaf
          (h.alike.current.trans hState) hParser']
        exact h.alike.outcome

/- The first event starts the machine, once. -/
theorem first_current
    {key : Key}
    {a : Answers}
    {s : St}
    (hNone : s.conn.current = none) :
    (handleFirst clientStatbl key a s).conn.current =
      some HELLO_READ := by
  rw [handleFirst_eq rfl, if_pos hNone]
  unfold helloReadInit
  split <;> rfl

theorem event_first
    {ready : StateDefinition → Option Handler}
    {key : Key}
    {a : Answers}
    {s : St}
    (hNone : s.conn.current = none) :
    socksv5Event ready key a
        (handleFirst clientStatbl key a s) =
      socksv5Event ready key a s := by
  have hOnce : handleFirst clientStatbl key a
      (handleFirst clientStatbl key a s) =
        handleFirst clientStatbl key a s := by
    have hSome : (handleFirst clientStatbl key a
        s).conn.current = some HELLO_READ :=
      first_current hNone
    generalize handleFirst clientStatbl key a s = t at hSome
    unfold handleFirst
    rw [hSome]
    exact if_neg (fun hBad => nomatch hBad)
  unfold socksv5Event stmHandler
  rw [hOnce]

/- The world in which the machine has started. -/
def World.begin
    (w : World)
    (k : ConnId)
    (env : Answers) : World :=
  w.put k (handleFirst clientStatbl
    ⟨(w.conn k).clientFd, k⟩ env (w.view k))

theorem Delivery.begin
    {chunk : List UInt8}
    (h : Delivery k env plan w (chunk :: chunks) v)
    (hNone : (w.conn k).current = none) :
    Delivery k env plan (w.begin k env) (chunk :: chunks)
      v := by
  have hReading : (w.conn k).Reading := Or.inl hNone
  cases h with
  | acts _ _ _ l hNot => exact absurd hReading hNot
  | forward _ _ _ a n hCopy =>
      exact absurd hCopy hReading.not_copy
  | recv _ _ _ _ next hArmed hSome hNext hGot hRest =>
      have hView : (w.begin k env).view k =
          handleFirst clientStatbl ⟨(w.conn k).clientFd, k⟩
            env (w.view k) := World.put_view _ _ _
      rcases first_srv clientStatbl rfl
        ⟨(w.conn k).clientFd, k⟩ env (w.view k) with
        ⟨hSrv, hFd, _⟩
      rw [← hView] at hSrv hFd
      have hClient : ((w.begin k env).conn k).clientFd =
        (w.conn k).clientFd := hFd
      have hArmed' : ((w.begin k env).view k).Armed k
          (w.conn k).clientFd Interest.read := by
        unfold St.Armed
        rw [hSrv]
        exact hArmed
      refine .recv _ _ _ _ next ?_ hSome ?_ ?_ hRest
      · rw [hClient]
        exact hArmed'
      · rw [hNext, hClient, view_exec_read hArmed,
          view_exec_read hArmed', hView,
          ← handleFirst_recv (some chunk), event_first hNone]
        unfold World.begin World.put
        simp only [Function.update_idem]
      · rw [hGot]
        show _ = bytesFrom .client
          ((w.begin k env).view k).conn.log ++ chunk
        rw [hView]
        have hKept := (blind_handleFirst.keeps (f := fun s =>
          handleFirst clientStatbl ⟨(w.conn k).clientFd, k⟩
            env s) (w.view k)).2
        exact (congrArg (fun bytes => bytes ++ chunk)
          hKept).symm

/- Every `recv` of a run returns bytes. -/
theorem Delivery.chunks_ne
    (h : Delivery k env plan w chunks v) :
    ∀ chunk ∈ chunks, chunk ≠ [] := by
  induction h with
  | finished w =>
      intro chunk hMem
      nomatch hMem
  | acts w v chunks l hNot hCopy hOwn hPlan hRest ih =>
      exact ih
  | forward w v chunks a n hCopy hArmed hSend hRest ih =>
      exact ih
  | recv w v chunk rest next hArmed hSome hNext hGot
      hRest ih =>
      intro other hMem
      rcases List.mem_cons.mp hMem with rfl | hMem
      · exact hSome
      · exact ih other hMem

/- Without bytes nothing happens to a new connection. -/
theorem Delivery.idle
    (h : Delivery k env plan w [] v)
    (hNone : (w.conn k).current = none) : v = w := by
  have hReading : (w.conn k).Reading := Or.inl hNone
  cases h with
  | finished => rfl
  | acts _ _ _ l hNot => exact absurd hReading hNot
  | forward _ _ _ a n hCopy =>
      exact absurd hCopy hReading.not_copy

/- A delivery is a run of the server. -/
theorem Delivery.reachable
    (h : Delivery k env plan w chunks v) :
    server.Reachable w → server.Reachable v := by
  induction h with
  | finished w => exact fun hReach => hReach
  | acts w v chunks l hNot hCopy hOwn hPlan hRest ih =>
      intro hReach
      exact ih (hReach.step ⟨hOwn.enabled, rfl⟩)
  | forward w v chunks a n hCopy hArmed hSend hRest ih =>
      intro hReach
      exact ih (hReach.step ⟨hArmed.write_enabled a, rfl⟩)
  | recv w v chunk rest next hArmed hSome hNext hGot
      hRest ih =>
      intro hReach
      rw [hNext] at ih
      exact ih (hReach.step ⟨hArmed.read_enabled _, rfl⟩)

/-
  Any two ways of cutting what a client sends, if in neither
  run a whole message is left waiting in the read buffer.
-/
theorem handshake_cuts
    (k : ConnId)
    (env : Answers)
    (plan : St → Option Label)
    (w v v' : World)
    (cut cut' : List (List UInt8))
    (hFresh : (w.conn k).current = none)
    (hSame : cut.flatten = cut'.flatten)
    (hFirst : Delivery k env plan w cut v)
    (hSecond : Delivery k env plan w cut' v')
    (hQuiet : v.Quiet k plan)
    (hQuiet' : v'.Quiet k plan)
    (hSettled : (v.conn k).Settled)
    (hSettled' : (v'.conn k).Settled) :
    SameOutcome (v.view k) (v'.view k) := by
  cases cut with
  | nil =>
      cases cut' with
      | nil =>
          rw [hFirst.idle hFresh, hSecond.idle hFresh]
          exact (Alike.refl _).outcome
      | cons chunk rest =>
          rw [List.flatten_cons] at hSame
          exact absurd
            (List.append_eq_nil_iff.mp hSame.symm).1
            (hSecond.chunks_ne chunk List.mem_cons_self)
  | cons chunk rest =>
      cases cut' with
      | nil =>
          rw [List.flatten_cons] at hSame
          exact absurd (List.append_eq_nil_iff.mp hSame).1
            (hFirst.chunks_ne chunk List.mem_cons_self)
      | cons chunk' rest' =>
          have hCurrent : ((w.begin k env).conn k).current =
              some HELLO_READ := by
            show ((w.begin k env).view k).conn.current = _
            unfold World.begin
            rw [World.put_view]
            exact first_current hFresh
          refine Abreast.outcome hQuiet hQuiet' hSettled
            hSettled' _ (w.begin k env) (w.begin k env) _ _ rfl
            ⟨Alike.refl _, ?_, ?_, hFirst.begin hFresh,
              hSecond.begin hFresh⟩
            (Or.inr (Or.inl hCurrent))
          · rw [hCurrent]
            exact Option.some_ne_none _
          · unfold World.offers
            rw [hSame]

end Comparing

end Socks5d

------------------------------------------------------------
-- A Request Sent Too Early
------------------------------------------------------------

namespace Socks5d

/- A client has been accepted. -/
def newcomerWorld : World :=
  runTo [.read 3 { accept := some 5 }] (smallServer 0
    ⟨fun _ => {}, 0⟩ ⟨fun _ => {}, 0⟩)

/- The origin connects, and replies are sent whole. -/
def promptPlan (s : St) : Option Label :=
  if s.conn.current = some REQUEST_CONNECTING then
    some (.write 6 {})
  else some (.write 5 { send := some 100 })

def promptAnswers : Answers := { socket := some 6 }

/- The client sends these bytes, which are read at once. -/
def promptRecv (bytes : List UInt8) : Label :=
  .read 5 { promptAnswers with recv := some bytes }

/- A client that waits for each reply. -/
def patientWorld : World :=
  runTo [
    promptRecv [5, 1, 0],
    .write 5 { send := some 100 },
    promptRecv [5, 1, 0, 1, 127, 0, 0, 1, 0, 80],
    .write 6 {},
    .write 5 { send := some 100 },
    promptRecv [71]] newcomerWorld

/- A client whose bytes come a few at a time. -/
def slowWorld : World :=
  runTo [
    promptRecv [5],
    promptRecv [1, 0],
    .write 5 { send := some 100 },
    promptRecv [5, 1, 0, 1, 127, 0],
    promptRecv [0, 1, 0, 80, 71],
    .write 6 {},
    .write 5 { send := some 100 },
    .write 6 { send := some 100 }] newcomerWorld

/- A client that sends everything at once. -/
def hastyWorld : World :=
  runTo [
    promptRecv [5, 1, 0, 5, 1, 0, 1, 127, 0, 0, 1, 0, 80, 71],
    .write 5 { send := some 100 }] newcomerWorld

theorem newcomerWorld_reachable :
    server.Reachable newcomerWorld :=
  reachable_runTo _
    (.init (smallServer_initial _ _ (by decide) (Or.inl rfl)))

theorem patient_delivery :
    Delivery 0 promptAnswers promptPlan newcomerWorld
      [[5, 1, 0], [5, 1, 0, 1, 127, 0, 0, 1, 0, 80], [71]]
      patientWorld := by
  refine .recv _ _ _ _ _
    ⟨rfl, ⟨opRead, .socks 0⟩, rfl, rfl, rfl⟩ (by decide) rfl
    (by decide) ?_
  refine .acts _ _ _ (.write 5 { send := some 100 })
    (by unfold Conn.Reading; decide) (by decide)
    (.client _ ⟨rfl, ⟨opWrite, .socks 0⟩, rfl, rfl, rfl⟩)
    rfl ?_
  refine .recv _ _ _ _ _
    ⟨rfl, ⟨opRead, .socks 0⟩, rfl, rfl, rfl⟩ (by decide) rfl
    (by decide) ?_
  refine .acts _ _ _ (.write 6 {})
    (by unfold Conn.Reading; decide) (by decide)
    (.origin _ ⟨rfl, ⟨opWrite, .socks 0⟩, rfl, rfl, rfl⟩)
    rfl ?_
  refine .acts _ _ _ (.write 5 { send := some 100 })
    (by unfold Conn.Reading; decide) (by decide)
    (.client _ ⟨rfl, ⟨opWrite, .socks 0⟩, rfl, rfl, rfl⟩)
    rfl ?_
  refine .recv _ _ _ _ _
    ⟨rfl, ⟨opRead, .socks 0⟩, rfl, rfl, rfl⟩ (by decide) rfl
    (by decide) ?_
  exact .finished _

theorem slow_delivery :
    Delivery 0 promptAnswers promptPlan newcomerWorld
      [[5], [1, 0], [5, 1, 0, 1, 127, 0], [0, 1, 0, 80, 71]]
      slowWorld := by
  refine .recv _ _ _ _ _
    ⟨rfl, ⟨opRead, .socks 0⟩, rfl, rfl, rfl⟩ (by decide) rfl
    (by decide) ?_
  refine .recv _ _ _ _ _
    ⟨rfl, ⟨opRead, .socks 0⟩, rfl, rfl, rfl⟩ (by decide) rfl
    (by decide) ?_
  refine .acts _ _ _ (.write 5 { send := some 100 })
    (by unfold Conn.Reading; decide) (by decide)
    (.client _ ⟨rfl, ⟨opWrite, .socks 0⟩, rfl, rfl, rfl⟩)
    rfl ?_
  refine .recv _ _ _ _ _
    ⟨rfl, ⟨opRead, .socks 0⟩, rfl, rfl, rfl⟩ (by decide) rfl
    (by decide) ?_
  refine .recv _ _ _ _ _
    ⟨rfl, ⟨opRead, .socks 0⟩, rfl, rfl, rfl⟩ (by decide) rfl
    (by decide) ?_
  refine .acts _ _ _ (.write 6 {})
    (by unfold Conn.Reading; decide) (by decide)
    (.origin _ ⟨rfl, ⟨opWrite, .socks 0⟩, rfl, rfl, rfl⟩)
    rfl ?_
  refine .acts _ _ _ (.write 5 { send := some 100 })
    (by unfold Conn.Reading; decide) (by decide)
    (.client _ ⟨rfl, ⟨opWrite, .socks 0⟩, rfl, rfl, rfl⟩)
    rfl ?_
  refine .forward _ _ _ { send := some 100 } 100 rfl
    ⟨rfl, ⟨opReadWrite, .socks 0⟩, rfl, rfl, rfl⟩ rfl ?_
  exact .finished _

theorem hasty_delivery :
    Delivery 0 promptAnswers promptPlan newcomerWorld
      [[5, 1, 0, 5, 1, 0, 1, 127, 0, 0, 1, 0, 80, 71]]
      hastyWorld := by
  refine .recv _ _ _ _ _
    ⟨rfl, ⟨opRead, .socks 0⟩, rfl, rfl, rfl⟩ (by decide) rfl
    (by decide) ?_
  refine .acts _ _ _ (.write 5 { send := some 100 })
    (by unfold Conn.Reading; decide) (by decide)
    (.client _ ⟨rfl, ⟨opWrite, .socks 0⟩, rfl, rfl, rfl⟩)
    rfl ?_
  exact .finished _

/- In `COPY` no message is read. -/
theorem Conn.settled_copy
    {c : Conn}
    (h : c.current = some COPY) : c.Settled where
  hello := fun hBad =>
    absurd (h.symm.trans hBad) (by decide)
  login := fun hBad =>
    absurd (h.symm.trans hBad) (by decide)
  request := fun _ hBad =>
    absurd (h.symm.trans hBad) (by decide)

theorem handshake_cuts_slow :
    SameOutcome (patientWorld.view 0) (slowWorld.view 0) := by
  have hFresh : (newcomerWorld.conn 0).current = none := rfl
  have hPatient : (patientWorld.conn 0).current =
      some COPY := by decide
  have hSlow : (slowWorld.conn 0).current = some COPY := by
    decide +kernel
  exact handshake_cuts 0 promptAnswers promptPlan
    newcomerWorld patientWorld slowWorld _ _ hFresh
    (by decide) patient_delivery slow_delivery
    (Or.inr (Or.inl hPatient)) (Or.inr (Or.inl hSlow))
    (Conn.settled_copy hPatient) (Conn.settled_copy hSlow)

/-
  The request that comes with the hello is not looked at: the
  connection waits in `REQUEST_READ` with all of it in the
  read buffer.
-/
theorem handshake_cuts_hasty :
    ¬ ∀ (k : ConnId) (env : Answers)
        (plan : St → Option Label) (w v v' : World)
        (cut cut' : List (List UInt8)),
        server.Reachable w → k < w.next →
        (w.conn k).isSocks = true →
        (w.conn k).current = none →
        cut.flatten = cut'.flatten →
        Delivery k env plan w cut v →
        Delivery k env plan w cut' v' →
        v.Quiet k plan → v'.Quiet k plan →
          SameOutcome (v.view k) (v'.view k) := by
  intro hAll
  have hSame := hAll 0 promptAnswers promptPlan newcomerWorld
    patientWorld hastyWorld _ _ newcomerWorld_reachable
    (by decide) rfl rfl (by decide) patient_delivery
    hasty_delivery (Or.inr (Or.inl rfl))
    (Or.inl (Or.inr (Or.inr (Or.inr rfl))))
  exact absurd hSame.current (by decide)

end Socks5d
