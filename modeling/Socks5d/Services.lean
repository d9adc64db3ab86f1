import Socks5d.Copy
import Socks5d.ManagementRequest
import Socks5d.Stm

/-
  The two services: the state tables of `socks5nio.c` and
  `management.c`, and the handlers that the selector calls.

  Main declarations:
    * `clientStatbl`, `clientMng`
    * `socksv5Done`, `mngDone`
    * `socksv5Event`, `mngEvent`
-/

------------------------------------------------------------
-- The State Tables
------------------------------------------------------------

namespace Socks5d

/-
  `client_statbl`. An `on_departure` that only gives memory
  back is left out.
-/
def clientStatbl : Nat → StateDefinition
| HELLO_READ =>
    { onArrival := some helloReadInit
      onReadReady := some helloRead }
| HELLO_WRITE =>
    { onWriteReady := some helloWrite }
| USERPASS_READ =>
    { onArrival := some authReadInit
      onDeparture := some authReadClose
      onReadReady := some authRead }
| USERPASS_WRITE =>
    { onWriteReady := some authWrite }
| REQUEST_READ =>
    { onArrival := some requestInit
      onDeparture := some requestClose
      onReadReady := some requestRead }
| REQUEST_RESOLV =>
    { onBlockReady := some requestResolvDone }
| REQUEST_CONNECTING =>
    { onArrival := some connectingInit
      onDeparture := some connectingClose
      onWriteReady := some connectingWrite }
| REQUEST_WRITE =>
    { onWriteReady := some requestWrite }
| COPY =>
    { onArrival := some copyInit
      onReadReady := some copyRead
      onWriteReady := some copyWrite }
| _ => {}

/- `client_mng` -/
def clientMng : Nat → StateDefinition
| HELLO_READ =>
    { onArrival := some helloReadInit
      onReadReady := some helloRead }
| HELLO_WRITE =>
    { onWriteReady := some helloWrite }
| USERPASS_READ =>
    { onArrival := some authReadInit
      onDeparture := some authReadClose
      onReadReady := some authRead }
| USERPASS_WRITE =>
    { onWriteReady := some authWrite }
| MNG_REQUEST_READ_INDEX =>
    { onArrival := some mngRequestIndexInit
      onReadReady := some mngRequestIndexRead }
| MNG_REQUEST_READ =>
    { onArrival := some mngRequestInit
      onDeparture := some mngRequestClose
      onReadReady := some mngRequestRead }
| MNG_REQUEST_WRITE =>
    { onWriteReady := some mngRequestWrite }
| _ => {}

------------------------------------------------------------
-- Handlers Of The Selector
------------------------------------------------------------

/-
  One turn of the loop of `socksv5_done` and `mng_done`:
  unregister and close a descriptor that is there.
-/
def doneFd
    (fd : Fd)
    (s : St) : St :=
  if fd = -1 then s
  else
    let unregistered := unregisterFd s.srv fd
    let s := { s with srv := unregistered.1 }
    if unregistered.2 then s.close fd
    else s.crash .abort

/- `socksv5_done` -/
def socksv5Done (s : St) : St :=
  doneFd s.conn.originFd (doneFd s.conn.clientFd s)

/- `mng_done` -/
def mngDone (s : St) : St :=
  doneFd s.conn.clientFd s

/- `socksv5_read`, `socksv5_write` and `socksv5_block` -/
def socksv5Event
    (ready : StateDefinition → Option Handler)
    (key : Key)
    (a : Answers)
    (s : St) : St :=
  let handled := stmHandler ready clientStatbl key a s
  if handled.2 = ERROR ∨ handled.2 = DONE then
    socksv5Done handled.1
  else handled.1

/- `mng_read`, `mng_write` and `mng_block` -/
def mngEvent
    (ready : StateDefinition → Option Handler)
    (key : Key)
    (a : Answers)
    (s : St) : St :=
  let handled := stmHandler ready clientMng key a s
  if handled.2 = MNG_ERROR ∨ handled.2 = MNG_DONE then
    mngDone handled.1
  else handled.1

end Socks5d
