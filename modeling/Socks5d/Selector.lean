import Mathlib.Logic.Function.Basic
import Socks5d.Sockets

/-
  The descriptor table of `selector.c` and the kernel's table
  of open descriptors.

  The selector is created with room for 1024 elements, so its
  array has 1025 items and `ensure_capacity` never has to
  grow it: `selector_register` fails only for an invalid or a
  registered descriptor.

  Main declarations:
    * `Interest`, `Item`, `Selector`
    * `Selector.register`, `Selector.setInterest`
    * `Selector.grant`, `Selector.openFd`, `Selector.close`
-/

------------------------------------------------------------
-- Data
------------------------------------------------------------

namespace Socks5d

/- `fd_interest`: a set of operations -/
structure Interest where
  read : Bool
  write : Bool
deriving DecidableEq, Inhabited

/- `OP_NOOP`, `OP_READ`, `OP_WRITE` -/
abbrev opNoop : Interest := ⟨false, false⟩
abbrev opRead : Interest := ⟨true, false⟩
abbrev opWrite : Interest := ⟨false, true⟩

/-
  The handler of an item together with its data pointer. The
  passive sockets have no data.
-/
inductive Attachment where
  | socksListener
  | mngListener
  | socks (data : ConnId)
  | mng (data : ConnId)
deriving DecidableEq, Inhabited

/- The connection that the data pointer names. -/
def Attachment.data? : Attachment → Option ConnId
| .socksListener => none
| .mngListener => none
| .socks data => some data
| .mng data => some data

/- `struct item` of a used slot -/
structure Item where
  interest : Interest
  attached : Attachment
deriving DecidableEq, Inhabited

/-
  The items of the selector by descriptor (`none` is
  `FD_UNUSED`), and the descriptors the kernel has open.
-/
structure Selector where
  fds : Fd → Option Item
  opened : Fd → Option Holder

------------------------------------------------------------
-- Operations
------------------------------------------------------------

/- The complement of `INVALID_FD`; `FD_SETSIZE` is 1024. -/
def validFd (fd : Fd) : Bool :=
  decide (0 ≤ fd ∧ fd < 1024)

namespace Selector

variable (s : Selector)

/- `selector_register` can take the descriptor. -/
def canRegister (fd : Fd) : Bool :=
  validFd fd && (s.fds fd).isNone

/- `selector_register`, with whether it succeeded -/
def register
    (fd : Fd)
    (interest : Interest)
    (attached : Attachment) : Selector × Bool :=
  if s.canRegister fd then
    ({ s with
        fds := Function.update s.fds fd
          (some { interest, attached }) }, true)
  else
    (s, false)

/- `selector_set_interest`, with whether it succeeded -/
def setInterest
    (fd : Fd)
    (interest : Interest) : Selector × Bool :=
  if validFd fd then
    match s.fds fd with
    | none => (s, false)
    | some item =>
        ({ s with
            fds := Function.update s.fds fd
              (some { item with interest := interest }) },
          true)
  else
    (s, false)

/- The item that `selector_unregister_fd` would release. -/
def registered? (fd : Fd) : Option Item :=
  if validFd fd then s.fds fd else none

/- The slot is marked unused again. -/
def clear (fd : Fd) : Selector :=
  { s with fds := Function.update s.fds fd none }

/-
  The answer of `socket` or `accept`: a descriptor that is
  open is never handed out.
-/
def grant (wanted : Option Fd) : Option Fd :=
  wanted.filter fun fd =>
    decide (0 ≤ fd) && (s.opened fd).isNone

/- `socket` or `accept` returned the descriptor. -/
def openFd
    (fd : Fd)
    (holder : Holder) : Selector :=
  { s with
    opened := Function.update s.opened fd (some holder) }

/- `close` -/
def close (fd : Fd) : Selector :=
  { s with opened := Function.update s.opened fd none }

end Selector

end Socks5d
