import Socks5d.Sockets
import Socks5d.UserHistory

/-
  The command line of the server (`args.c`), and the socket
  addresses that `main` binds.

  `getopt_long` hands the options over in order; what
  `getaddrinfo` and `inet_addr` make of a numeric address is a
  parameter.

  Main declarations:
    * `HostLookup`, `HostLookup.Numeric`
    * `parseArgs`, `ServiceArgs.bound`
    * `toldBound`, `Tellable`
    * `binds_as_told_iff`
-/

------------------------------------------------------------
-- Numbers And Addresses
------------------------------------------------------------

namespace Socks5d

/- `isspace` -/
def isspace (b : UInt8) : Bool :=
  b = 0x20 || (0x09 ≤ b && b ≤ 0x0D)

/- `isdigit` -/
def isdigit (b : UInt8) : Bool :=
  0x30 ≤ b && b ≤ 0x39

/-
  `strtol` with base 10: the value, and what is behind the
  digits; nothing if there is no digit. A value that does not
  fit is the nearest one that does.
-/
def strtol (s : List UInt8) : Option (Int × List UInt8) :=
  let s := s.dropWhile isspace
  let negative := s.head? = some 0x2D
  let s :=
    if s.head? = some 0x2D ∨ s.head? = some 0x2B then s.tail
    else s
  let digits := s.takeWhile isdigit
  let value := digits.foldl
    (fun (value : Nat) b => 10 * value + (b.toNat - 0x30)) 0
  if digits = [] then none
  else
    some (if negative then max (-(2 ^ 63)) (-(value : Int))
        else min (2 ^ 63 - 1) (value : Int),
      s.dropWhile isdigit)

/- `port` -/
def port (s : List UInt8) : Option UInt16 :=
  match strtol s with
  | none => none
  | some (sl, rest) =>
      if rest ≠ [] ∨ sl < 0 ∨ sl > 65535 then none
      else some (UInt16.ofNat sl.toNat)

/- `htons`, as the bytes of the result -/
def htons (n : UInt16) : List UInt8 :=
  [UInt8.ofNat (n.toNat / 256), UInt8.ofNat (n.toNat % 256)]

/- A numeric address, with its bytes in network order. -/
inductive HostAddr where
  | inet (addr : List UInt8)
  | inet6 (addr : List UInt8)
deriving DecidableEq

/-
  `getaddrinfo` with `AI_NUMERICHOST`, which may fail, and
  `inet_addr`.
-/
structure HostLookup where
  getaddrinfo : List UInt8 → Option HostAddr
  inetAddr : List UInt8 → List UInt8

def ascii (text : List Char) : List UInt8 :=
  text.map fun c => UInt8.ofNat c.toNat

/- The default addresses. -/
def socksAddrDefault : List UInt8 :=
  ascii ['0', '.', '0', '.', '0', '.', '0']

def socksAddr6Default : List UInt8 :=
  ascii [':', ':']

def mngAddrDefault : List UInt8 :=
  ascii ['1', '2', '7', '.', '0', '.', '0', '.', '1']

def mngAddr6Default : List UInt8 :=
  ascii [':', ':', '1']

/- `in6addr_any` -/
def anyAddr6 : List UInt8 :=
  List.replicate 16 0

/- `in6addr_loopback` -/
def loopbackAddr6 : List UInt8 :=
  List.replicate 15 0 ++ [1]

/- Numeric addresses are converted correctly. -/
structure HostLookup.Numeric (lookup : HostLookup) : Prop where
  inet : ∀ text addr,
    lookup.getaddrinfo text = some (.inet addr) →
      lookup.inetAddr text = addr
  any : lookup.getaddrinfo socksAddrDefault =
    some (.inet [0, 0, 0, 0])
  any6 : lookup.getaddrinfo socksAddr6Default =
    some (.inet6 anyAddr6)
  loopback : lookup.getaddrinfo mngAddrDefault =
    some (.inet [127, 0, 0, 1])
  loopback6 : lookup.getaddrinfo mngAddr6Default =
    some (.inet6 loopbackAddr6)

end Socks5d

------------------------------------------------------------
-- The Arguments
------------------------------------------------------------

namespace Socks5d

/-
  The fields of `struct socks5args` for one of the services:
  `socks_…` or `mng_…`.
-/
structure ServiceArgs where
  addr : List UInt8
  addr6 : List UInt8
  port : UInt16
  family : Family := .unspec
  addrInfo : Sockaddr := { addr := [0, 0, 0, 0] }
  addrInfo6 : Sockaddr := { addr := anyAddr6 }
deriving DecidableEq

/- `struct socks5args`, with the users of `-u` -/
structure Socks5Args where
  socks : ServiceArgs
  mng : ServiceArgs
  disectorsEnabled : UInt8 := 0x00
  credentials : Option (List UInt8) := none
  users : UserTable := .empty

/- The options that `getopt_long` returns. -/
inductive ArgOption where
  | h
  | l (optarg : List UInt8)
  | L (optarg : List UInt8)
  | N
  | p (optarg : List UInt8)
  | P (optarg : List UInt8)
  | f (optarg : List UInt8)
  | u (optarg : List UInt8)
  | v
  | other
deriving DecidableEq

/-
  `address_processing`: of an IPv6 address only the family and
  the port are stored.
-/
def addressProcessing
    (lookup : HostLookup)
    (address : List UInt8)
    (s : ServiceArgs) : Option (Family × ServiceArgs) :=
  match lookup.getaddrinfo address with
  | none => none
  | some (.inet _) =>
      some (.inet,
        { s with
          addrInfo := {
            family := .inet
            addr := lookup.inetAddr address
            port := htons s.port } })
  | some (.inet6 _) =>
      some (.inet6,
        { s with
          addrInfo6 := { s.addrInfo6 with
            family := .inet6
            port := htons s.port } })

/- `-l` and `-L` -/
def ServiceArgs.takeAddress
    (lookup : HostLookup)
    (optarg : List UInt8)
    (s : ServiceArgs) : Option ServiceArgs :=
  match addressProcessing lookup optarg s with
  | none => none
  | some (.inet, s) =>
      some { s with family := .inet, addr := optarg }
  | some (.inet6, s) =>
      some { s with family := .inet6, addr6 := optarg }
  | some (.unspec, s) => some { s with family := .unspec }

/- `-p` and `-P` -/
def ServiceArgs.takePort
    (optarg : List UInt8)
    (s : ServiceArgs) : Option ServiceArgs :=
  (Socks5d.port optarg).map fun n =>
    { s with
      port := n
      addrInfo := { s.addrInfo with port := htons n }
      addrInfo6 := { s.addrInfo6 with port := htons n } }

/- The default addresses, when no address was given. -/
def ServiceArgs.defaults
    (lookup : HostLookup)
    (s : ServiceArgs) : Option ServiceArgs :=
  if s.family = .unspec then
    (addressProcessing lookup s.addr s).bind fun first =>
      (addressProcessing lookup s.addr6 first.2).map
        fun second => second.2
  else some s

/- The default values. -/
def socksDefault : ServiceArgs where
  addr := socksAddrDefault
  addr6 := socksAddr6Default
  port := 1080

def mngDefault : ServiceArgs where
  addr := mngAddrDefault
  addr6 := mngAddr6Default
  port := 8080

def argsDefault : Socks5Args where
  socks := socksDefault
  mng := mngDefault

/- One option of `parse_args`; `none` stands for -1. -/
def parseOption
    (lookup : HostLookup)
    (args : Socks5Args) :
    ArgOption → Option Socks5Args
| .l optarg =>
    (args.socks.takeAddress lookup optarg).map fun s =>
      { args with socks := s }
| .L optarg =>
    (args.mng.takeAddress lookup optarg).map fun s =>
      { args with mng := s }
| .N => some { args with disectorsEnabled := 0x01 }
| .p optarg =>
    (args.socks.takePort optarg).map fun s =>
      { args with socks := s }
| .P optarg =>
    (args.mng.takePort optarg).map fun s =>
      { args with mng := s }
| .f optarg => some { args with credentials := some optarg }
| .u optarg =>
    if args.users.count ≥ maxUsers then none
    else
      (user optarg).map fun _ =>
        { args with users := args.users.option optarg }
| .h => none
| .v => none
| .other => none

/- The loop of `parse_args`. -/
def parseOptions
    (lookup : HostLookup)
    (args : Socks5Args) :
    List ArgOption → Option Socks5Args
| [] => some args
| opt :: rest =>
    (parseOption lookup args opt).bind fun next =>
      parseOptions lookup next rest

/- `parse_args`; `operands` are what is behind the options. -/
def parseArgs
    (lookup : HostLookup)
    (options : List ArgOption)
    (operands : List (List UInt8)) : Option Socks5Args :=
  (parseOptions lookup argsDefault options).bind fun args =>
    if operands ≠ [] then none
    else
      (args.socks.defaults lookup).bind fun socks =>
        (args.mng.defaults lookup).map fun mng =>
          { args with socks := socks, mng := mng }

/- The addresses that `main` binds for a service. -/
def ServiceArgs.bound (s : ServiceArgs) : List Sockaddr :=
  match s.family with
  | .unspec => [s.addrInfo, s.addrInfo6]
  | .inet => [s.addrInfo]
  | .inet6 => [s.addrInfo6]

end Socks5d

------------------------------------------------------------
-- What Was Told
------------------------------------------------------------

namespace Socks5d

/- The two services. -/
inductive Service where
  | socks
  | mng
deriving DecidableEq

/- The address that an option gives to a service. -/
def ArgOption.address? :
    Service → ArgOption → Option (List UInt8)
| .socks, .l optarg => some optarg
| .mng, .L optarg => some optarg
| _, _ => none

/- The port that an option gives to a service. -/
def ArgOption.port? :
    Service → ArgOption → Option UInt16
| .socks, .p optarg => port optarg
| .mng, .P optarg => port optarg
| _, _ => none

/- The address of the last option that gives one. -/
def toldAddress
    (lookup : HostLookup)
    (service : Service)
    (options : List ArgOption) : Option HostAddr :=
  (options.filterMap (ArgOption.address? service)).getLast?.bind
    lookup.getaddrinfo

/- The port of the last option that gives one. -/
def toldPort
    (service : Service)
    (options : List ArgOption) : UInt16 :=
  (options.filterMap (ArgOption.port? service)).getLast?.getD
    (match service with
    | .socks => 1080
    | .mng => 8080)

/- The defaults of a service, for IPv4 and for IPv6. -/
def Service.defaults : Service → List HostAddr
| .socks => [.inet [0, 0, 0, 0], .inet6 anyAddr6]
| .mng => [.inet [127, 0, 0, 1], .inet6 loopbackAddr6]

/- The socket address of an address and a port. -/
def HostAddr.sockaddr
    (n : UInt16) :
    HostAddr → Sockaddr
| .inet addr =>
    { family := .inet, addr := addr, port := htons n }
| .inet6 addr =>
    { family := .inet6, addr := addr, port := htons n }

/- What should be bound: the last address, or the defaults. -/
def toldHosts
    (lookup : HostLookup)
    (service : Service)
    (options : List ArgOption) : List HostAddr :=
  match toldAddress lookup service options with
  | some addr => [addr]
  | none => service.defaults

/- The same, with the port. -/
def toldBound
    (lookup : HostLookup)
    (service : Service)
    (options : List ArgOption) : List Sockaddr :=
  (toldHosts lookup service options).map
    (·.sockaddr (toldPort service options))

/-
  Every IPv6 address to bind is `::`, the one that
  `address_processing` leaves.
-/
def Tellable
    (lookup : HostLookup)
    (service : Service)
    (options : List ArgOption) : Prop :=
  ∀ addr, .inet6 addr ∈ toldHosts lookup service options →
    addr = anyAddr6

/- The fields of a service. -/
def Socks5Args.of
    (args : Socks5Args) :
    Service → ServiceArgs
| .socks => args.socks
| .mng => args.mng

/- The texts of its default addresses. -/
def Service.addrDefault : Service → List UInt8
| .socks => socksAddrDefault
| .mng => mngAddrDefault

def Service.addr6Default : Service → List UInt8
| .socks => socksAddr6Default
| .mng => mngAddr6Default

end Socks5d

------------------------------------------------------------
-- The Fields After The Options
------------------------------------------------------------

namespace Socks5d

/-
  The fields of a service after the options: of an IPv6
  address nothing but the family has been stored.
-/
structure Told
    (lookup : HostLookup)
    (service : Service)
    (options : List ArgOption)
    (s : ServiceArgs) : Prop where
  port : s.port = toldPort service options
  any : s.addrInfo6.addr = anyAddr6
  unspec : toldAddress lookup service options = none →
    s.family = .unspec ∧ s.addr = service.addrDefault ∧
      s.addr6 = service.addr6Default
  inet : ∀ addr,
    toldAddress lookup service options = some (.inet addr) →
      s.family = .inet ∧
        s.addrInfo = (HostAddr.inet addr).sockaddr s.port
  inet6 : ∀ addr,
    toldAddress lookup service options = some (.inet6 addr) →
      s.family = .inet6 ∧
        s.addrInfo6 =
          (HostAddr.inet6 anyAddr6).sockaddr s.port

/- What one option does to a service. -/
inductive Takes
    (lookup : HostLookup)
    (service : Service)
    (opt : ArgOption)
    (s t : ServiceArgs) : Prop where
  | address
      (text : List UInt8)
      (hAddress : opt.address? service = some text)
      (hPort : opt.port? service = none)
      (hTake : s.takeAddress lookup text = some t)
  | port
      (n : UInt16)
      (hAddress : opt.address? service = none)
      (hPort : opt.port? service = some n)
      (hTake : t = { s with
        port := n
        addrInfo := { s.addrInfo with port := htons n }
        addrInfo6 := { s.addrInfo6 with port := htons n } })
  | other
      (hAddress : opt.address? service = none)
      (hPort : opt.port? service = none)
      (hSame : t = s)

section Options

variable {lookup : HostLookup}
variable {service : Service}
variable {options : List ArgOption}
variable {opt : ArgOption}
variable {args next : Socks5Args}
variable {s t : ServiceArgs}
variable {text : List UInt8}

/- The fields that an address changes. -/
theorem takeAddress_cases
    (h : s.takeAddress lookup text = some t) :
    (∃ addr, lookup.getaddrinfo text = some (.inet addr) ∧
        t = { s with
          family := .inet
          addr := text
          addrInfo := {
            family := .inet
            addr := lookup.inetAddr text
            port := htons s.port } }) ∨
      (∃ addr, lookup.getaddrinfo text = some (.inet6 addr) ∧
        t = { s with
          family := .inet6
          addr6 := text
          addrInfo6 := { s.addrInfo6 with
            family := .inet6
            port := htons s.port } }) := by
  unfold ServiceArgs.takeAddress addressProcessing at h
  cases hFound : lookup.getaddrinfo text with
  | none =>
      rw [hFound] at h
      nomatch h
  | some host =>
      rw [hFound] at h
      cases host with
      | inet addr =>
          exact Or.inl ⟨addr, rfl, (Option.some.inj h).symm⟩
      | inet6 addr =>
          exact Or.inr ⟨addr, rfl, (Option.some.inj h).symm⟩

/- A port that was taken is the one of the option. -/
theorem takePort_takes
    {optarg : List UInt8}
    (hAddress : opt.address? service = none)
    (hPort : opt.port? service = port optarg)
    (h : s.takePort optarg = some t) :
    Takes lookup service opt s t := by
  rcases Option.map_eq_some_iff.mp h with ⟨n, hN, hT⟩
  exact .port n hAddress (hPort.trans hN) hT.symm

/- Every option is one of the three for every service. -/
theorem parseOption_takes
    (h : parseOption lookup args opt = some next)
    (service : Service) :
    Takes lookup service opt (args.of service)
      (next.of service) := by
  cases opt with
  | l optarg =>
      rcases Option.map_eq_some_iff.mp h with ⟨t, hTake, rfl⟩
      cases service with
      | socks => exact .address optarg rfl rfl hTake
      | mng => exact .other rfl rfl rfl
  | L optarg =>
      rcases Option.map_eq_some_iff.mp h with ⟨t, hTake, rfl⟩
      cases service with
      | socks => exact .other rfl rfl rfl
      | mng => exact .address optarg rfl rfl hTake
  | p optarg =>
      rcases Option.map_eq_some_iff.mp h with ⟨t, hTake, rfl⟩
      cases service with
      | socks => exact takePort_takes rfl rfl hTake
      | mng => exact .other rfl rfl rfl
  | P optarg =>
      rcases Option.map_eq_some_iff.mp h with ⟨t, hTake, rfl⟩
      cases service with
      | socks => exact .other rfl rfl rfl
      | mng => exact takePort_takes rfl rfl hTake
  | N =>
      rw [← Option.some.inj h]
      cases service <;> exact .other rfl rfl rfl
  | f optarg =>
      rw [← Option.some.inj h]
      cases service <;> exact .other rfl rfl rfl
  | u optarg =>
      unfold parseOption at h
      dsimp only at h
      split_ifs at h
      rcases Option.map_eq_some_iff.mp h with ⟨_, _, rfl⟩
      cases service <;> exact .other rfl rfl rfl
  | h => nomatch h
  | v => nomatch h
  | other => nomatch h

/- What was told with one more option. -/
theorem toldAddress_concat
    (lookup : HostLookup)
    (service : Service)
    (options : List ArgOption)
    (opt : ArgOption) :
    toldAddress lookup service (options ++ [opt]) =
      match opt.address? service with
      | some text => lookup.getaddrinfo text
      | none => toldAddress lookup service options := by
  unfold toldAddress
  rw [List.filterMap_append]
  cases hAddress : opt.address? service with
  | none => simp [hAddress]
  | some text => simp [hAddress]

theorem toldPort_concat
    (service : Service)
    (options : List ArgOption)
    (opt : ArgOption) :
    toldPort service (options ++ [opt]) =
      (opt.port? service).getD (toldPort service options) := by
  unfold toldPort
  rw [List.filterMap_append]
  cases hPort : opt.port? service with
  | none => simp [hPort]
  | some n => simp [hPort]

/- One more option keeps the fields as told. -/
theorem Told.takes
    (hNumeric : lookup.Numeric)
    (h : Told lookup service options s)
    (hTakes : Takes lookup service opt s t) :
    Told lookup service (options ++ [opt]) t := by
  have hAddr := toldAddress_concat lookup service options opt
  have hN := toldPort_concat service options opt
  cases hTakes with
  | address text hAddress hPort hTake =>
      rw [hAddress] at hAddr
      rw [hPort, Option.getD_none] at hN
      rcases takeAddress_cases hTake with
        ⟨addr, hFound, rfl⟩ | ⟨addr, hFound, rfl⟩
      · dsimp only at hAddr
        rw [hFound] at hAddr
        refine ⟨h.port.trans hN.symm, h.any, ?_, ?_, ?_⟩
        · intro hNone
          nomatch hAddr.symm.trans hNone
        · intro other hOther
          have hEq := hAddr.symm.trans hOther
          injection hEq with hEq
          injection hEq with hEq
          refine ⟨rfl, ?_⟩
          show Sockaddr.mk _ _ _ = Sockaddr.mk _ _ _
          rw [hNumeric.inet text addr hFound, hEq]
        · intro other hOther
          nomatch hAddr.symm.trans hOther
      · dsimp only at hAddr
        rw [hFound] at hAddr
        refine ⟨h.port.trans hN.symm, h.any, ?_, ?_, ?_⟩
        · intro hNone
          nomatch hAddr.symm.trans hNone
        · intro other hOther
          nomatch hAddr.symm.trans hOther
        · intro other _
          refine ⟨rfl, ?_⟩
          show Sockaddr.mk _ s.addrInfo6.addr _ = _
          rw [h.any]
          rfl
  | port n hAddress hPort hTake =>
      rw [hAddress] at hAddr
      rw [hPort, Option.getD_some] at hN
      subst hTake
      refine ⟨hN.symm, h.any, ?_, ?_, ?_⟩
      · intro hNone
        exact h.unspec (hAddr.symm.trans hNone)
      · intro addr hInet
        rcases h.inet addr (hAddr.symm.trans hInet) with
          ⟨hFamily, hInfo⟩
        refine ⟨hFamily, ?_⟩
        dsimp only
        rw [hInfo]
        rfl
      · intro addr hInet
        rcases h.inet6 addr (hAddr.symm.trans hInet) with
          ⟨hFamily, hInfo⟩
        refine ⟨hFamily, ?_⟩
        dsimp only
        rw [hInfo]
        rfl
  | other hAddress hPort hSame =>
      rw [hAddress] at hAddr
      rw [hPort, Option.getD_none] at hN
      subst hSame
      exact ⟨h.port.trans hN.symm, h.any,
        fun hNone => h.unspec (hAddr.symm.trans hNone),
        fun addr hInet => h.inet addr (hAddr.symm.trans hInet),
        fun addr hInet =>
          h.inet6 addr (hAddr.symm.trans hInet)⟩

theorem parseOptions_append
    (lookup : HostLookup)
    (args : Socks5Args)
    (before after : List ArgOption) :
    parseOptions lookup args (before ++ after) =
      (parseOptions lookup args before).bind fun next =>
        parseOptions lookup next after := by
  induction before generalizing args with
  | nil => rfl
  | cons opt rest ih =>
      show (parseOption lookup args opt).bind _ =
        ((parseOption lookup args opt).bind _).bind _
      rw [Option.bind_assoc]
      congr 1
      funext next
      exact ih next

/- The fields after the options are as told. -/
theorem parseOptions_told
    (hNumeric : lookup.Numeric)
    (h : parseOptions lookup argsDefault options = some args)
    (service : Service) :
    Told lookup service options (args.of service) := by
  induction options using List.reverseRecOn generalizing args
    with
  | nil =>
      rw [← Option.some.inj h]
      have hNone : toldAddress lookup service [] = none := rfl
      cases service with
      | socks =>
          exact ⟨rfl, rfl, fun _ => ⟨rfl, rfl, rfl⟩,
            fun _ hBad => (nomatch hNone.symm.trans hBad),
            fun _ hBad => (nomatch hNone.symm.trans hBad)⟩
      | mng =>
          exact ⟨rfl, rfl, fun _ => ⟨rfl, rfl, rfl⟩,
            fun _ hBad => (nomatch hNone.symm.trans hBad),
            fun _ hBad => (nomatch hNone.symm.trans hBad)⟩
  | append_singleton rest opt ih =>
      rw [parseOptions_append] at h
      rcases Option.bind_eq_some_iff.mp h with
        ⟨before, hBefore, hLast⟩
      rcases Option.bind_eq_some_iff.mp hLast with
        ⟨after, hOpt, hEnd⟩
      rw [← Option.some.inj hEnd]
      exact (ih hBefore).takes hNumeric
        (parseOption_takes hOpt service)

end Options

end Socks5d

------------------------------------------------------------
-- The Addresses That Are Bound
------------------------------------------------------------

namespace Socks5d

/- What `address_processing` leaves of an address. -/
def HostAddr.stored : HostAddr → HostAddr
| .inet addr => .inet addr
| .inet6 _ => .inet6 anyAddr6

section Bound

variable {lookup : HostLookup}
variable {service : Service}
variable {options : List ArgOption}
variable {operands : List (List UInt8)}
variable {args : Socks5Args}
variable {s t : ServiceArgs}

theorem addressProcessing_inet
    {address addr : List UInt8}
    (hNumeric : lookup.Numeric)
    (h : lookup.getaddrinfo address = some (.inet addr)) :
    addressProcessing lookup address s =
      some (.inet,
        { s with
          addrInfo := (HostAddr.inet addr).sockaddr s.port }) := by
  unfold addressProcessing
  rw [h, hNumeric.inet address addr h]
  rfl

theorem addressProcessing_inet6
    {address addr : List UInt8}
    (hAny : s.addrInfo6.addr = anyAddr6)
    (h : lookup.getaddrinfo address = some (.inet6 addr)) :
    addressProcessing lookup address s =
      some (.inet6,
        { s with
          addrInfo6 :=
            (HostAddr.inet6 anyAddr6).sockaddr s.port }) := by
  unfold addressProcessing
  rw [h]
  dsimp only
  rw [hAny]
  rfl

/- The default texts stand for the default addresses. -/
theorem HostLookup.Numeric.defaults
    (hNumeric : lookup.Numeric)
    (service : Service) :
    ∃ addr addr6,
      lookup.getaddrinfo service.addrDefault =
          some (.inet addr) ∧
        lookup.getaddrinfo service.addr6Default =
            some (.inet6 addr6) ∧
          service.defaults = [.inet addr, .inet6 addr6] := by
  cases service with
  | socks => exact ⟨_, _, hNumeric.any, hNumeric.any6, rfl⟩
  | mng =>
      exact ⟨_, _, hNumeric.loopback, hNumeric.loopback6, rfl⟩

/- What is bound, whatever the options are. -/
theorem Told.bound
    (hNumeric : lookup.Numeric)
    (h : Told lookup service options s)
    (hDefaults : s.defaults lookup = some t) :
    t.bound =
      ((toldHosts lookup service options).map
        HostAddr.stored).map
          (·.sockaddr (toldPort service options)) := by
  rw [← h.port]
  unfold toldHosts
  unfold ServiceArgs.defaults at hDefaults
  cases hTold : toldAddress lookup service options with
  | none =>
      rcases h.unspec hTold with ⟨hFamily, hAddr, hAddr6⟩
      rcases hNumeric.defaults service with
        ⟨addr, addr6, hInet, hInet6, hBoth⟩
      rw [if_pos hFamily, hAddr,
        addressProcessing_inet hNumeric hInet,
        Option.bind_some] at hDefaults
      dsimp only at hDefaults
      rw [hAddr6,
        addressProcessing_inet6 (by exact h.any) hInet6]
        at hDefaults
      rw [← Option.some.inj hDefaults]
      unfold ServiceArgs.bound
      dsimp only
      rw [hFamily, hBoth]
      rfl
  | some host =>
      cases host with
      | inet addr =>
          rcases h.inet addr hTold with ⟨hFamily, hInfo⟩
          rw [if_neg (by rw [hFamily]; decide)] at hDefaults
          rw [← Option.some.inj hDefaults]
          unfold ServiceArgs.bound
          rw [hFamily]
          dsimp only
          rw [hInfo]
          rfl
      | inet6 addr =>
          rcases h.inet6 addr hTold with ⟨hFamily, hInfo⟩
          rw [if_neg (by rw [hFamily]; decide)] at hDefaults
          rw [← Option.some.inj hDefaults]
          unfold ServiceArgs.bound
          rw [hFamily]
          dsimp only
          rw [hInfo]
          rfl

theorem parseArgs_bound
    (hNumeric : lookup.Numeric)
    (h : parseArgs lookup options operands = some args)
    (service : Service) :
    (args.of service).bound =
      ((toldHosts lookup service options).map
        HostAddr.stored).map
          (·.sockaddr (toldPort service options)) := by
  unfold parseArgs at h
  rcases Option.bind_eq_some_iff.mp h with
    ⟨after, hOptions, hRest⟩
  split_ifs at hRest
  rcases Option.bind_eq_some_iff.mp hRest with
    ⟨socks, hSocks, hLast⟩
  rcases Option.map_eq_some_iff.mp hLast with ⟨mng, hMng, rfl⟩
  have hTold := parseOptions_told hNumeric hOptions
  cases service with
  | socks => exact (hTold .socks).bound hNumeric hSocks
  | mng => exact (hTold .mng).bound hNumeric hMng

/- Socket addresses are equal for equal addresses only. -/
theorem HostAddr.sockaddr_injective
    (n : UInt16) :
    Function.Injective (HostAddr.sockaddr n) := by
  intro a b hSame
  cases a <;> cases b <;>
    simp_all [HostAddr.sockaddr]

theorem HostAddr.stored_eq_iff
    (host : HostAddr) :
    host.stored = host ↔
      ∀ addr, host = .inet6 addr → addr = anyAddr6 := by
  cases host with
  | inet addr =>
      exact ⟨fun _ _ hBad => (nomatch hBad), fun _ => rfl⟩
  | inet6 addr =>
      constructor
      · intro hSame other hOther
        injection hSame with hSame
        injection hOther with hOther
        exact hOther ▸ hSame.symm
      · intro hAny
        rw [hAny addr rfl]
        rfl

/- Nothing is lost exactly if every IPv6 address is `::`. -/
theorem map_stored_eq_iff :
    ((toldHosts lookup service options).map
        HostAddr.stored).map
          (·.sockaddr (toldPort service options)) =
        toldBound lookup service options ↔
      Tellable lookup service options := by
  unfold toldBound Tellable
  rw [(List.map_injective_iff.mpr
    (HostAddr.sockaddr_injective _)).eq_iff]
  nth_rewrite 2
    [← List.map_id (toldHosts lookup service options)]
  rw [List.map_inj_left]
  constructor
  · intro hAll addr hIn
    exact (HostAddr.stored_eq_iff _).mp (hAll _ hIn) addr rfl
  · intro hAny host hIn
    refine (HostAddr.stored_eq_iff host).mpr ?_
    rintro addr rfl
    exact hAny addr hIn

end Bound

/-
  The sockets carry the last address and the last port of
  their service exactly if every IPv6 address is `::`.
-/
theorem binds_as_told_iff
    (lookup : HostLookup)
    (hNumeric : lookup.Numeric)
    (options : List ArgOption)
    (operands : List (List UInt8))
    (args : Socks5Args)
    (hArgs : parseArgs lookup options operands = some args) :
    (∀ service, (args.of service).bound =
        toldBound lookup service options) ↔
      ∀ service, Tellable lookup service options := by
  refine forall_congr' fun service => ?_
  rw [parseArgs_bound hNumeric hArgs service]
  exact map_stored_eq_iff

/- A conversion that knows the four default texts. -/
def defaultLookup : HostLookup where
  getaddrinfo text :=
    if text = socksAddrDefault then some (.inet [0, 0, 0, 0])
    else if text = mngAddrDefault then
      some (.inet [127, 0, 0, 1])
    else if text = socksAddr6Default then
      some (.inet6 anyAddr6)
    else if text = mngAddr6Default then
      some (.inet6 loopbackAddr6)
    else none
  inetAddr text :=
    if text = socksAddrDefault then [0, 0, 0, 0]
    else if text = mngAddrDefault then [127, 0, 0, 1]
    else [255, 255, 255, 255]

theorem defaultLookup_numeric :
    defaultLookup.Numeric where
  inet text addr h := by
    unfold defaultLookup at h ⊢
    dsimp only at h ⊢
    split_ifs at h ⊢ with hAny hLoopback
    · injection Option.some.inj h
    · injection Option.some.inj h
    all_goals nomatch h
  any := by decide
  any6 := by decide
  loopback := by decide
  loopback6 := by decide

/- `-P 9090 -L 127.0.0.1` -/
def toldOptions : List ArgOption :=
  [.P (ascii ['9', '0', '9', '0']), .L mngAddrDefault]

theorem binds_as_told_iff_loopback :
    ∃ args, parseArgs defaultLookup toldOptions [] =
        some args ∧
      ((∀ service, (args.of service).bound =
          toldBound defaultLookup service toldOptions) ↔
        ∀ service,
          Tellable defaultLookup service toldOptions) := by
  have hSome :
      (parseArgs defaultLookup toldOptions []).isSome := by
    decide
  rcases Option.isSome_iff_exists.mp hSome with ⟨args, hArgs⟩
  exact ⟨args, hArgs,
    binds_as_told_iff defaultLookup defaultLookup_numeric
      toldOptions [] args hArgs⟩

/- Without options the management service is open to all. -/
theorem binds_any6 :
    ∃ args, parseArgs defaultLookup [] [] = some args ∧
      (args.of .mng).bound ≠
        toldBound defaultLookup .mng [] := by
  have hSome : (parseArgs defaultLookup [] []).isSome := by
    decide
  rcases Option.isSome_iff_exists.mp hSome with ⟨args, hArgs⟩
  refine ⟨args, hArgs, ?_⟩
  rw [parseArgs_bound defaultLookup_numeric hArgs]
  decide

end Socks5d
