import Socks5d.Services
import Socks5d.Library.Machine

/-
  The running server: connections that come and go, events
  on their descriptors, and resolver threads.

  Main declarations:
    * `World`
    * `passiveAccept`, `handleRead`, `handleWrite`
    * `handleBlockNotifications`
    * `requestResolvBlocking`, `selectorNotifyBlock`,
      `requestResolvNotify`
    * `Label`, `Enabled`, `exec`, `server`
    * `runTo`, `reachable_runTo`
    * `smallServer`, `copyWorld`
-/

------------------------------------------------------------
-- Worlds
------------------------------------------------------------

namespace Socks5d

/- All connections accepted so far, and what they share. -/
structure World where
  srv : Server
  conn : ConnId → Conn
  next : ConnId

namespace World

variable (w : World)

/- What a handler of one connection works on. -/
def view (k : ConnId) : St where
  srv := w.srv
  conn := w.conn k

/- The world after a handler of one connection. -/
def put
    (k : ConnId)
    (s : St) : World where
  srv := s.srv
  conn := Function.update w.conn k s.conn
  next := w.next

/- The process ends here. -/
def crash (fault : Fault) : World :=
  { w with srv.fault := some (w.srv.fault.getD fault) }

end World

------------------------------------------------------------
-- Accepting
------------------------------------------------------------

/-
  `socksv5_passive_accept` and `mng_passive_accept`, with
  `socks5_new` and `mng_new`. A connection that cannot be
  registered is destroyed at once; its number is given to
  the next one.
-/
def passiveAccept
    (isSocks : Bool)
    (a : Answers)
    (w : World) : World :=
  match w.srv.sel.grant a.accept with
  | none => w
  | some client =>
      let data := w.next
      let attached : Attachment :=
        if isSocks then .socks data else .mng data
      let sel := w.srv.sel.openFd client (.client data)
      let registered := sel.register client opRead attached
      if a.nio && a.alloc .connection && registered.2 then
        { srv := { w.srv with
            sel := registered.1
            references :=
              Function.update w.srv.references data 1 }
          conn := Function.update w.conn data
            { isSocks, clientFd := client }
          next := w.next + 1 }
      else
        { w with srv.sel := sel.close client }

------------------------------------------------------------
-- Events
------------------------------------------------------------

/- `handle_read` of an item -/
def handleRead
    (fd : Fd)
    (attached : Attachment)
    (a : Answers)
    (w : World) : World :=
  match attached with
  | .socksListener => passiveAccept true a w
  | .mngListener => passiveAccept false a w
  | .socks data =>
      w.put data (socksv5Event StateDefinition.onReadReady
        ⟨fd, data⟩ a (w.view data))
  | .mng data =>
      w.put data (mngEvent StateDefinition.onReadReady
        ⟨fd, data⟩ a (w.view data))

/- `handle_write` of an item; the listeners have none. -/
def handleWrite
    (fd : Fd)
    (attached : Attachment)
    (a : Answers)
    (w : World) : World :=
  match attached with
  | .socksListener => w.crash .assertion
  | .mngListener => w.crash .assertion
  | .socks data =>
      w.put data (socksv5Event StateDefinition.onWriteReady
        ⟨fd, data⟩ a (w.view data))
  | .mng data =>
      w.put data (mngEvent StateDefinition.onWriteReady
        ⟨fd, data⟩ a (w.view data))

/- `handle_block` of an item; the listeners have none. -/
def handleBlock
    (fd : Fd)
    (attached : Attachment)
    (a : Answers)
    (w : World) : World :=
  match attached with
  | .socksListener => w.crash .segv
  | .mngListener => w.crash .segv
  | .socks data =>
      w.put data (socksv5Event StateDefinition.onBlockReady
        ⟨fd, data⟩ a (w.view data))
  | .mng data =>
      w.put data (mngEvent StateDefinition.onBlockReady
        ⟨fd, data⟩ a (w.view data))

/- The connection behind an item is told of a job. -/
def noteNotified
    (job : BlockingJob)
    (attached : Attachment)
    (w : World) : World :=
  match attached.data? with
  | none => w
  | some data =>
      w.put data ((w.view data).note
        (.notified job.starter job.request))

/-
  One turn of the loop of `handle_block_notifications`: the
  first job is freed after its handler has run.
-/
def handleBlockTurn
    (a : Answers)
    (w : World) : World :=
  match w.srv.jobs with
  | [] => w
  | job :: rest =>
      let w := { w with srv.jobs := rest }
      match w.srv.sel.registered? job.fd with
      | none => w
      | some item =>
          handleBlock job.fd item.attached a
            (noteNotified job item.attached w)

def notificationLoop
    (a : Nat → Answers) :
    Nat → World → World
| 0, w => w
| turns + 1, w =>
    if w.srv.fault = none then
      notificationLoop a turns (handleBlockTurn (a turns) w)
    else w

/-
  `handle_block_notifications`: no job is added meanwhile, as
  the loop holds the mutex.
-/
def handleBlockNotifications
    (a : Nat → Answers)
    (w : World) : World :=
  notificationLoop a w.srv.jobs.length w

------------------------------------------------------------
-- Resolver Threads
------------------------------------------------------------

/-
  `request_resolv_blocking` up to the call of `getaddrinfo`:
  the thread copies the name and the port.
-/
def requestResolvBlocking
    (i : Nat)
    (w : World) : World :=
  match w.srv.threads[i]? with
  | none => w
  | some t =>
      match (w.conn t.data).request.parser with
      | none => w.crash .segv
      | some p =>
          let r := p.request
          let started := { t with
            host := some (r.host.take r.fqdnSize,
              r.destPort) }
          { w with
            srv.threads := w.srv.threads.set i started
            conn := Function.update w.conn t.data
              { w.conn t.data with originResolution := [] } }

/- The job that a thread makes of its key. -/
def Thread.job (t : Thread) : BlockingJob where
  fd := t.fd
  starter := t.data
  request := t.request

/-
  `selector_notify_block`: a job is put in front of the
  others. Without memory for it the status is
  `SELECTOR_ENOMEM`, which the thread does not look at.
-/
def selectorNotifyBlock
    (t : Thread)
    (a : Answers)
    (srv : Server) : Server :=
  { srv with
    jobs :=
      if a.alloc .blockingJob then t.job :: srv.jobs
      else srv.jobs
    lost :=
      if a.alloc .blockingJob then srv.lost
      else t.job :: srv.lost }

/-
  The rest of `request_resolv_blocking`: `getaddrinfo` stores
  its list, the selector is notified, and the thread ends.
-/
def requestResolvNotify
    (i : Nat)
    (addresses : List Addrinfo)
    (a : Answers)
    (w : World) : World :=
  match w.srv.threads[i]? with
  | none => w
  | some t =>
      { w with
        srv := selectorNotifyBlock t a
          { w.srv with
            threads := w.srv.threads.eraseIdx i }
        conn := Function.update w.conn t.data
          { w.conn t.data with
            originResolution := addresses } }

end Socks5d

------------------------------------------------------------
-- Steps
------------------------------------------------------------

namespace Socks5d

/- What can happen next. -/
inductive Label where
  | read (fd : Fd) (a : Answers)
  | write (fd : Fd) (a : Answers)
  | notify (a : Nat → Answers)
  | threadStart (i : Nat)
  | threadDone (i : Nat) (addresses : List Addrinfo)
      (a : Answers)

/-
  A descriptor that `select` reports is served when its
  interest asks for it; a thread goes through its two halves.
-/
def Enabled (w : World) :
    Label → Bool
| .read fd _ =>
    w.srv.fault.isNone &&
      ((w.srv.sel.fds fd).any fun item =>
        item.interest.read)
| .write fd _ =>
    w.srv.fault.isNone &&
      ((w.srv.sel.fds fd).any fun item =>
        item.interest.write)
| .notify _ => w.srv.fault.isNone
| .threadStart i =>
    w.srv.fault.isNone &&
      (w.srv.threads[i]?.any fun t => t.host.isNone)
| .threadDone i _ _ =>
    w.srv.fault.isNone &&
      (w.srv.threads[i]?.any fun t => t.host.isSome)

/- The world after an event. -/
def exec (w : World) :
    Label → World
| .read fd a =>
    match w.srv.sel.fds fd with
    | none => w
    | some item => handleRead fd item.attached a w
| .write fd a =>
    match w.srv.sel.fds fd with
    | none => w
    | some item => handleWrite fd item.attached a w
| .notify a => handleBlockNotifications a w
| .threadStart i => requestResolvBlocking i w
| .threadDone i addresses a =>
    requestResolvNotify i addresses a w

/-
  The server as `main` leaves it: passive sockets only, the
  users of `-u`, one of the two methods that `auth_method` can
  hold, and every counter at zero.
-/
structure Initial (w : World) : Prop where
  next : w.next = 0
  slots : ∀ fd item, w.srv.sel.fds fd = some item →
    item.attached.data? = none ∧ item.interest = opRead ∧
      w.srv.sel.opened fd = some .process
  valid : ∀ fd item, w.srv.sel.fds fd = some item →
    validFd fd = true
  opened : ∀ fd holder, w.srv.sel.opened fd = some holder →
    0 ≤ fd ∧ holder = .process
  users : ∀ i < w.srv.users.count,
    (w.srv.users.entry i).held = false
  authMethod : w.srv.authMethod = methodNoAuthenticationRequired ∨
    w.srv.authMethod = methodUsernamePassword
  handedBack : ∀ k, w.srv.handedBack k = 0
  metrics : w.srv.metrics = {}
  threads : w.srv.threads = []
  jobs : w.srv.jobs = []
  lost : w.srv.lost = []
  fault : w.srv.fault = none

/- The server as a machine. -/
def server : Machine World Label where
  init := Initial
  step w l w' := Enabled w l = true ∧ w' = exec w l

/-
  A run along labels; what is not enabled does not happen.
-/
def runTo :
    List Label → World → World
| [], w => w
| l :: rest, w =>
    runTo rest (if Enabled w l then exec w l else w)

/- A run that goes on. -/
theorem runTo_append
    (labels more : List Label)
    (w : World) :
    runTo (labels ++ more) w =
      runTo more (runTo labels w) := by
  induction labels generalizing w with
  | nil => rfl
  | cons l rest ih => exact ih _

/- A run stays within the reachable worlds. -/
theorem reachable_runTo
    (labels : List Label)
    {w : World}
    (h : server.Reachable w) :
    server.Reachable (runTo labels w) := by
  induction labels generalizing w with
  | nil => exact h
  | cons l rest ih =>
      unfold runTo
      by_cases hEnabled : Enabled w l = true
      · rw [if_pos hEnabled]
        exact ih (h.step ⟨hEnabled, rfl⟩)
      · rw [if_neg hEnabled]
        exact ih h

end Socks5d

------------------------------------------------------------
-- A Small Server
------------------------------------------------------------

namespace Socks5d

/- The passive sockets are 3 and 4. -/
def smallSelector : Selector where
  fds := fun fd =>
    if fd = 3 then some ⟨opRead, .socksListener⟩
    else if fd = 4 then some ⟨opRead, .mngListener⟩
    else none
  opened := fun fd =>
    if fd = 3 ∨ fd = 4 then some .process else none

/- A server as it starts, with the given tables. -/
def smallServer
    (authMethod : UInt8)
    (users admins : UserTable) : World where
  srv := {
    users
    admins
    authMethod
    passwordDissectors := 0x01
    metrics := {}
    sel := smallSelector
    references := fun _ => 0
    handedBack := fun _ => 0
    threads := []
    jobs := []
    lost := []
    fault := none }
  conn := fun _ => default
  next := 0

theorem smallServer_initial
    {authMethod : UInt8}
    (users admins : UserTable)
    (hUsers : ∀ i < users.count, (users.entry i).held = false)
    (hMethod : authMethod = methodNoAuthenticationRequired ∨
      authMethod = methodUsernamePassword) :
    Initial (smallServer authMethod users admins) := by
  have hSlots : ∀ fd item,
      smallSelector.fds fd = some item →
        (fd = 3 ∨ fd = 4) ∧ item.attached.data? = none ∧
          item.interest = opRead := by
    intro fd item hItem
    unfold smallSelector at hItem
    by_cases hThree : fd = 3
    · simp only [hThree, if_true] at hItem
      rw [← Option.some.inj hItem]
      exact ⟨Or.inl hThree, rfl, rfl⟩
    · by_cases hFour : fd = 4
      · simp only [hFour] at hItem
        rw [← Option.some.inj hItem]
        exact ⟨Or.inr hFour, rfl, rfl⟩
      · simp only [if_neg hThree, if_neg hFour] at hItem
        cases hItem
  refine ⟨rfl, ?_, ?_, ?_, hUsers, hMethod, fun _ => rfl,
    rfl, rfl, rfl, rfl, rfl⟩
  · intro fd item hItem
    rcases hSlots fd item hItem with ⟨hFd, hData, hInterest⟩
    exact ⟨hData, hInterest, if_pos hFd⟩
  · intro fd item hItem
    rcases (hSlots fd item hItem).1 with hThree | hFour
    · rw [hThree]
      rfl
    · rw [hFour]
      rfl
  · intro fd holder hOpen
    have hFd : fd = 3 ∨ fd = 4 := by
      by_contra hNot
      have hNone : smallSelector.opened fd = none :=
        if_neg hNot
      exact Option.some_ne_none _ (hOpen.symm.trans hNone)
    have hHolder : smallSelector.opened fd =
        some .process := if_pos hFd
    refine ⟨?_, Option.some.inj (hOpen.symm.trans hHolder)⟩
    rcases hFd with hThree | hFour
    · rw [hThree]
      decide
    · rw [hFour]
      decide

/- A client that asks for an address and gets there. -/
def copyRun : List Label := [
  .read 3 { accept := some 5 },
  .read 5 { recv := some [5, 1, 0] },
  .write 5 { send := some 100 },
  .read 5 {
    recv := some [5, 1, 0, 1, 127, 0, 0, 1, 0, 80]
    socket := some 6 },
  .write 6 {},
  .write 5 { send := some 100 },
  .read 5 { recv := some [1, 2, 3] },
  .write 6 { send := some 2 },
  .read 6 { recv := some [] }]

/- The world that this run leads to. -/
def copyWorld : World :=
  runTo copyRun (smallServer 0 ⟨fun _ => {}, 0⟩
    ⟨fun _ => {}, 0⟩)

theorem copyWorld_reachable :
    server.Reachable copyWorld :=
  reachable_runTo copyRun
    (.init (smallServer_initial _ _ (by decide) (Or.inl rfl)))

end Socks5d
