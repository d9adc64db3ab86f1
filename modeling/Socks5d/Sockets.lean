import Mathlib.Data.List.Basic

/-
  Descriptors, addresses and open sockets, as the kernel
  hands them out.

  Main declarations:
    * `Fd`, `ConnId`
    * `Family`, `Sockaddr`
    * `Holder`
-/

namespace Socks5d

/- C descriptors; -1 is "none". -/
abbrev Fd := Int

/- Identity of an accepted connection. -/
abbrev ConnId := Nat

/- Address families; `memset` leaves `unspec`. -/
inductive Family where
  | unspec
  | inet
  | inet6
deriving DecidableEq, Inhabited

/-
  A socket address: `sockaddr_in` or `sockaddr_in6`, with
  address and port bytes in network order.
-/
structure Sockaddr where
  family : Family := .unspec
  addr : List UInt8 := []
  port : List UInt8 := [0, 0]
deriving DecidableEq, Inhabited

/-
  What an open descriptor was opened as; `process` is for
  those the server has from its start.
-/
inductive Holder where
  | process
  | client (conn : ConnId)
  | origin (conn : ConnId) (domain : Family)
deriving DecidableEq, Inhabited

/- The connection an open descriptor belongs to. -/
def Holder.conn? : Holder → Option ConnId
| .process => none
| .client conn => some conn
| .origin conn _ => some conn

/- The family of the socket behind a holder. -/
def Holder.domain? : Holder → Option Family
| .process => none
| .client _ => none
| .origin _ domain => some domain

end Socks5d
