import Socks5d.Buffer
import Socks5d.Sockets

/-
  The CONNECT request parser of `request_parser.c`, and its
  data (`request.h`, `request_parser.h`).

  Main declarations:
    * `Request`, `RequestParser`
    * `requestParserInit`, `requestParserFeed`
    * `requestIsDone`, `requestConsume`
-/

------------------------------------------------------------
-- Data
------------------------------------------------------------

namespace Socks5d

/- `enum socks_atyp` -/
abbrev socksReqAddrtypeIpv4 : UInt8 := 0x01
abbrev socksReqAddrtypeDomain : UInt8 := 0x03
abbrev socksReqAddrtypeIpv6 : UInt8 := 0x04

/- `socks_req_cmd_connect` -/
abbrev socksReqCmdConnect : UInt8 := 0x01

/- `MAX_FQDN_SIZE`, `IPV4_LEN`, `IPV6_LEN` -/
abbrev maxFqdnSize : Nat := 0xFF
abbrev ipv4Len : UInt8 := 4
abbrev ipv6Len : UInt8 := 16

/-
  `struct request`. The two members of its union are kept
  apart: the address type says which one is in use.
-/
structure Request where
  cmd : UInt8 := 0
  destAddrType : UInt8 := 0
  destAddr : Sockaddr := {}
  host : List UInt8 := List.replicate maxFqdnSize 0
  fqdnSize : Nat := 0
  destPort : List UInt8 := [0, 0]
deriving DecidableEq, Inhabited

/- `enum request_state` -/
inductive RequestState where
  | version
  | cmd
  | rsv
  | atyp
  | destAddr
  | destAddrFqdn
  | destPort
  | done
  | error
  | errorUnsupportedCmd
  | errorUnsupportedType
  | errorUnsupportedVersion
deriving DecidableEq, Inhabited

/- `struct request_parser` -/
structure RequestParser where
  request : Request := {}
  state : RequestState := .version
  remaining : UInt8 := 0
  read : UInt8 := 0
deriving DecidableEq, Inhabited

------------------------------------------------------------
-- Operations
------------------------------------------------------------

/-
  `request_parser_init`. The allocated request is not
  cleared; nothing is read from it before it is stored.
-/
def requestParserInit : RequestParser := {}

/- `remaining_set` -/
def remainingSet
    (p : RequestParser)
    (n : UInt8) : RequestParser :=
  { p with remaining := n, read := 0 }

/- `remaining_is_done` -/
def remainingIsDone (p : RequestParser) : Bool :=
  decide (p.remaining ≤ p.read)

/- `version` -/
def requestVersion (b : UInt8) : RequestState :=
  if b = 0x05 then .cmd else .errorUnsupportedVersion

/- `cmd` -/
def requestCmd
    (p : RequestParser)
    (b : UInt8) : RequestParser × RequestState :=
  if b = socksReqCmdConnect then
    ({ p with request := { p.request with cmd := b } }, .rsv)
  else
    (p, .errorUnsupportedCmd)

/- `address_type` -/
def addressType
    (p : RequestParser)
    (b : UInt8) : RequestParser × RequestState :=
  let p := { p with
    request := { p.request with destAddrType := b } }
  if b = socksReqAddrtypeIpv4 then
    let p := remainingSet p ipv4Len
    ({ p with request := { p.request with
        destAddr :=
          { family := .inet, addr := List.replicate 4 0 } } },
      .destAddr)
  else if b = socksReqAddrtypeDomain then
    (p, .destAddrFqdn)
  else if b = socksReqAddrtypeIpv6 then
    let p := remainingSet p ipv6Len
    ({ p with request := { p.request with
        destAddr :=
          { family := .inet6
            addr := List.replicate 16 0 } } },
      .destAddr)
  else
    (p, .errorUnsupportedType)

/-
  `dest_address_fqdn`. For the length 0 the terminator goes
  to `host[-1]`, outside the array; that byte belongs to
  `dest_addr_type` and already is 0.
-/
def destAddressFqdn
    (p : RequestParser)
    (b : UInt8) : RequestParser × RequestState :=
  if b.toNat > maxFqdnSize - 1 then
    (p, .error)
  else
    let p := remainingSet p b
    let host :=
      if b = 0 then p.request.host
      else p.request.host.set (b.toNat - 1) 0
    ({ p with request := { p.request with
        host := host, fqdnSize := b.toNat } },
      .destAddr)

/- The store of `dest_addr`, at index `p->read++`. -/
def storeAddr
    (p : RequestParser)
    (b : UInt8) : RequestParser :=
  let r := p.request
  let r :=
    if r.destAddrType = socksReqAddrtypeDomain then
      { r with host := r.host.set p.read.toNat b }
    else if r.destAddrType = socksReqAddrtypeIpv4 ∨
        r.destAddrType = socksReqAddrtypeIpv6 then
      { r with destAddr := { r.destAddr with
          addr := r.destAddr.addr.set p.read.toNat b } }
    else r
  { p with request := r, read := p.read + 1 }

/- `dest_addr` -/
def destAddr
    (p : RequestParser)
    (b : UInt8) : RequestParser × RequestState :=
  let p := storeAddr p b
  if remainingIsDone p then
    let p := remainingSet p 2
    ({ p with request := { p.request with
        destPort := [0, 0] } },
      .destPort)
  else
    (p, .destAddr)

/- `set_port` -/
def setPort (r : Request) : Request :=
  if r.destAddrType = socksReqAddrtypeIpv4 ∨
      r.destAddrType = socksReqAddrtypeIpv6 then
    { r with destAddr :=
        { r.destAddr with port := r.destPort } }
  else r

/- `dest_port` -/
def destPort
    (p : RequestParser)
    (b : UInt8) : RequestParser × RequestState :=
  let p := { p with
    request := { p.request with
      destPort := p.request.destPort.set p.read.toNat b }
    read := p.read + 1 }
  if remainingIsDone p then
    ({ p with request := setPort p.request }, .done)
  else
    (p, .destPort)

/- `request_parser_feed` -/
def requestParserFeed
    (p : RequestParser)
    (b : UInt8) : RequestParser :=
  let next :=
    match p.state with
    | .version => (p, requestVersion b)
    | .cmd => requestCmd p b
    | .rsv => (p, .atyp)
    | .atyp => addressType p b
    | .destAddr => destAddr p b
    | .destAddrFqdn => destAddressFqdn p b
    | .destPort => destPort p b
    | .done => (p, .done)
    | .error => (p, .error)
    | .errorUnsupportedCmd => (p, .errorUnsupportedCmd)
    | .errorUnsupportedType => (p, .errorUnsupportedType)
    | .errorUnsupportedVersion =>
        (p, .errorUnsupportedVersion)
  { next.1 with state := next.2 }

/-
  `request_is_done`. Every caller passes a flag that nothing
  has set, so only the state decides.
-/
def requestIsDone (state : RequestState) : Bool :=
  decide (state = .done)

/- The parser as an incremental reader. -/
def RequestParser.reader :
    Incremental.Reader RequestParser UInt8 where
  feed := requestParserFeed
  stop := fun p => requestIsDone p.state

/- `request_consume` -/
def requestConsume
    {limit : Nat}
    (b : Buffer limit)
    (p : RequestParser) : RequestParser × Buffer limit :=
  b.feed RequestParser.reader p

end Socks5d
