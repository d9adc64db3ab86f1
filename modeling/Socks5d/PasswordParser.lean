import Mathlib.Data.List.Basic

/-
  The POP3 credentials dissector of `password_parser.c`.

  Main declarations:
    * `PasswordParser`
    * `passwordParserInit`
    * `passwordParserFeed`, `passwordConsume`
-/

------------------------------------------------------------
-- Data
------------------------------------------------------------

namespace Socks5d

/- `user_reserved_pop3_word` and `pass_reserved_pop3_word` -/
def userReservedPop3Word : List UInt8 :=
  [0x75, 0x73, 0x65, 0x72, 0x20]
def passReservedPop3Word : List UInt8 :=
  [0x2B, 0x4F, 0x4B, 0x0D, 0x0A,
   0x70, 0x61, 0x73, 0x73, 0x20]

/- `enum password_parser_state` -/
inductive PasswordParserState where
  | userWordSearch
  | userRead
  | passWordSearch
  | passRead
deriving DecidableEq, Inhabited

/-
  A heap block: the bytes written so far from its start, and
  its capacity. A pointer to no block is `none`.
-/
structure HeapBlock where
  bytes : List UInt8
  capacity : Nat
deriving DecidableEq

/- `struct password_parser` -/
structure PasswordParser where
  current : PasswordParserState
  currentIndex : Nat
  last : Bool
  username : Option HeapBlock
  password : Option HeapBlock
deriving DecidableEq, Inhabited

/- A user name and password that were printed. -/
structure Captured where
  username : List UInt8
  password : List UInt8
deriving DecidableEq

------------------------------------------------------------
-- Operations
------------------------------------------------------------

/- `BUFFER_SIZE` -/
abbrev passwordBufferSize : Nat := 5

/- `password_parser_init`, on cleared memory -/
def passwordParserInit : PasswordParser where
  current := .userWordSearch
  currentIndex := 0
  last := false
  username := none
  password := none

/- `checkSize` -/
def checkSize
    (block : Option HeapBlock)
    (size : Nat) : Option HeapBlock :=
  if size % passwordBufferSize = 0 then
    if size = 0 then
      some { bytes := [], capacity := passwordBufferSize }
    else
      block.map fun block =>
        { block with capacity := size + passwordBufferSize }
  else block

/- `block[i] = b`; the blocks are filled from the start. -/
def HeapBlock.put
    (block : HeapBlock)
    (i : Nat)
    (b : UInt8) : HeapBlock :=
  { block with bytes := block.bytes.take i ++ [b] }

/- `isascii` -/
def isascii (b : UInt8) : Bool :=
  decide (b ≤ 127)

/- The restart shared by the reset functions. -/
def restartUserWord
    (p : PasswordParser)
    (b : UInt8) : PasswordParser :=
  { p with
    current := .userWordSearch
    currentIndex :=
      if userReservedPop3Word[0]? = some b then 1 else 0 }

/- `user_read_reset`: the index is 0 when it is tested. -/
def userReadReset
    (p : PasswordParser)
    (b : UInt8) : PasswordParser :=
  restartUserWord { p with last := false } b

/- `user_read_handler` -/
def userReadHandler
    (p : PasswordParser)
    (b : UInt8) : PasswordParser :=
  let i := p.currentIndex
  if i ≥ 255 then userReadReset p b
  else if p.last && b != 0x0A then userReadReset p b
  else if b = 0x0D then
    { p with last := true, current := .userRead }
  else if b = 0x0A then
    { p with
      username := (checkSize p.username i).map (·.put i 0)
      currentIndex := 0
      last := false
      current := .passWordSearch }
  else if isascii b then
    { p with
      username := (checkSize p.username i).map (·.put i b)
      currentIndex := i + 1
      current := .userRead }
  else userReadReset p b

/- `pass_read_reset` -/
def passReadReset
    (p : PasswordParser)
    (b : UInt8) : PasswordParser :=
  restartUserWord { p with
    password :=
      if p.currentIndex ≠ 0 then none else p.password
    username := none
    last := false } b

/- The C string held by a block. -/
def HeapBlock.text : Option HeapBlock → List UInt8
| none => []
| some block => block.bytes.takeWhile (· ≠ 0)

/- `pass_read_handler`, with what it prints -/
def passReadHandler
    (p : PasswordParser)
    (b : UInt8) : PasswordParser × Option Captured :=
  let i := p.currentIndex
  if i ≥ 255 then (passReadReset p b, none)
  else if p.last && b != 0x0A then
    (passReadReset p b, none)
  else if b = 0x0D then
    ({ p with last := true, current := .passRead }, none)
  else if b = 0x0A then
    let p := { p with
      password := (checkSize p.password i).map (·.put i 0) }
    (passReadReset p b,
      some { username := HeapBlock.text p.username
             password := HeapBlock.text p.password })
  else if isascii b then
    ({ p with
      password := (checkSize p.password i).map (·.put i b)
      currentIndex := i + 1
      current := .passRead }, none)
  else (userReadReset p b, none)

/- `pass_word_search_handler` -/
def passWordSearchHandler
    (p : PasswordParser)
    (b : UInt8) : PasswordParser :=
  if passReservedPop3Word[p.currentIndex]? = some b then
    if p.currentIndex + 1 = passReservedPop3Word.length then
      { p with currentIndex := 0, current := .passRead }
    else
      { p with
        currentIndex := p.currentIndex + 1
        current := .passWordSearch }
  else
    restartUserWord
      { p with username := none, last := false } b

/- `user_word_search_handler` -/
def userWordSearchHandler
    (p : PasswordParser)
    (b : UInt8) : PasswordParser :=
  if userReservedPop3Word[p.currentIndex]? = some b then
    if p.currentIndex + 1 = userReservedPop3Word.length then
      { p with currentIndex := 0, current := .userRead }
    else
      { p with
        currentIndex := p.currentIndex + 1
        current := .userWordSearch }
  else restartUserWord p b

/- `password_parser_feed` -/
def passwordParserFeed
    (p : PasswordParser)
    (b : UInt8) : PasswordParser × Option Captured :=
  match p.current with
  | .userWordSearch => (userWordSearchHandler p b, none)
  | .userRead => (userReadHandler p b, none)
  | .passWordSearch => (passWordSearchHandler p b, none)
  | .passRead => passReadHandler p b

/- `password_consume`, with everything it prints -/
def passwordConsume :
    List UInt8 → PasswordParser →
      PasswordParser × List Captured
| [], p => (p, [])
| b :: rest, p =>
    let fed := passwordParserFeed p b
    let after := passwordConsume rest fed.1
    (after.1, fed.2.toList ++ after.2)

end Socks5d
