import Socks5d.Arguments
import Socks5d.ClientSession

/-
  The arguments of the management client (`client_args.c`)
  and of the server: when the address that the client
  connects to is one that the server has bound.

  Main declarations:
    * `Client.ArgOption`, `Client.parseArgs`
    * `Client.Args.connectAddr`
    * `Client.toldHost`, `Client.toldPort`
    * `connects_bound_iff`
-/

------------------------------------------------------------
-- The Arguments Of The Client
------------------------------------------------------------

namespace Socks5d

namespace Client

/- The options that `getopt_long` returns. -/
inductive ArgOption where
  | L (optarg : List UInt8)
  | P (optarg : List UInt8)
  | u (optarg : List UInt8)
  | f (optarg : List UInt8)
  | other
deriving DecidableEq

/- `struct management_args` -/
structure Args where
  mng : ServiceArgs
  user : User
  filePath : Option (List UInt8)
  append : Bool

/- The default values; `unset` is what `malloc` returned. -/
def argsDefault (unset : User) : Args where
  mng := mngDefault
  user := unset
  filePath := none
  append := false

/- One option of `parse_args`; `none` stands for -1. -/
def parseOption
    (lookup : HostLookup)
    (args : Args) :
    ArgOption → Option Args
| .L optarg =>
    (args.mng.takeAddress lookup optarg).map fun s =>
      { args with mng := s }
| .P optarg =>
    (args.mng.takePort optarg).map fun s =>
      { args with mng := s }
| .u optarg =>
    (Socks5d.user optarg).map fun (name, pass) =>
      { args with
        user := {
          username := name
          password := pass
          credentials := true } }
| .f optarg =>
    some { args with filePath := some optarg, append := true }
| .other => none

/- The loop of `parse_args`. -/
def parseOptions
    (lookup : HostLookup)
    (args : Args) :
    List ArgOption → Option Args
| [] => some args
| opt :: rest =>
    (parseOption lookup args opt).bind fun next =>
      parseOptions lookup next rest

/- `parse_args`; `operands` are what is behind the options. -/
def parseArgs
    (lookup : HostLookup)
    (unset : User)
    (options : List ArgOption)
    (operands : List (List UInt8)) : Option Args :=
  (parseOptions lookup (argsDefault unset) options).bind
    fun args =>
      if operands ≠ [] then none
      else
        (args.mng.defaults lookup).map fun mng =>
          { args with mng := mng }

/- The address that `main` connects to. -/
def Args.connectAddr (args : Args) : Sockaddr :=
  match args.mng.family with
  | .unspec => args.mng.addrInfo
  | .inet => args.mng.addrInfo
  | .inet6 => args.mng.addrInfo6

/- The option of the server that is read in the same way. -/
def ArgOption.shared : ArgOption → Socks5d.ArgOption
| .L optarg => .L optarg
| .P optarg => .P optarg
| .u optarg => .u optarg
| .f optarg => .f optarg
| .other => .other

/- The last address that was given, or the IPv4 default. -/
def toldHost
    (lookup : HostLookup)
    (options : List ArgOption) : HostAddr :=
  (toldAddress lookup .mng (options.map (·.shared))).getD
    (.inet [127, 0, 0, 1])

/- The last port that was given, or the default. -/
def toldPort (options : List ArgOption) : UInt16 :=
  Socks5d.toldPort .mng (options.map (·.shared))

section Options

variable {lookup : HostLookup}
variable {unset : User}
variable {options : List ArgOption}
variable {operands : List (List UInt8)}
variable {opt : ArgOption}
variable {args next : Args}

/- The management fields change as those of the server do. -/
theorem parseOption_takes
    (h : parseOption lookup args opt = some next) :
    Takes lookup .mng opt.shared args.mng next.mng := by
  cases opt with
  | L optarg =>
      rcases Option.map_eq_some_iff.mp h with ⟨t, hTake, rfl⟩
      exact .address optarg rfl rfl hTake
  | P optarg =>
      rcases Option.map_eq_some_iff.mp h with ⟨t, hTake, rfl⟩
      exact takePort_takes rfl rfl hTake
  | u optarg =>
      rcases Option.map_eq_some_iff.mp h with ⟨_, _, rfl⟩
      exact .other rfl rfl rfl
  | f optarg =>
      rw [← Option.some.inj h]
      exact .other rfl rfl rfl
  | other => nomatch h

/- The fields after more options, from fields as told. -/
theorem parseOptions_takes
    {before : List Socks5d.ArgOption}
    (hNumeric : lookup.Numeric)
    (hTold : Told lookup .mng before args.mng)
    (h : parseOptions lookup args options = some next) :
    Told lookup .mng (before ++ options.map (·.shared))
      next.mng := by
  induction options generalizing before args with
  | nil =>
      rw [← Option.some.inj h, List.map_nil, List.append_nil]
      exact hTold
  | cons opt rest ih =>
      rcases Option.bind_eq_some_iff.mp h with
        ⟨after, hOpt, hRest⟩
      have hAfter :=
        hTold.takes hNumeric (parseOption_takes hOpt)
      have hAll := ih hAfter hRest
      rwa [List.append_assoc] at hAll

theorem argsDefault_told
    (lookup : HostLookup)
    (unset : User) :
    Told lookup .mng [] (argsDefault unset).mng := by
  have hNone : toldAddress lookup .mng [] = none := rfl
  exact ⟨rfl, rfl, fun _ => ⟨rfl, rfl, rfl⟩,
    fun _ hBad => (nomatch hNone.symm.trans hBad),
    fun _ hBad => (nomatch hNone.symm.trans hBad)⟩

/- `main` connects to the first address of its service. -/
theorem Args.connectAddr_bound
    (args : Args) :
    args.mng.bound.head? = some args.connectAddr := by
  unfold ServiceArgs.bound Args.connectAddr
  cases args.mng.family <;> rfl

theorem toldHost_first
    (lookup : HostLookup)
    (options : List ArgOption) :
    (toldHosts lookup .mng
      (options.map (·.shared))).head? =
        some (toldHost lookup options) := by
  unfold toldHosts toldHost
  cases toldAddress lookup .mng (options.map (·.shared)) <;>
    rfl

/- The address that is connected to, as it was told. -/
theorem parseArgs_connectAddr
    (hNumeric : lookup.Numeric)
    (h : parseArgs lookup unset options operands =
      some args) :
    args.connectAddr =
      (toldHost lookup options).stored.sockaddr
        (toldPort options) := by
  unfold parseArgs at h
  rcases Option.bind_eq_some_iff.mp h with
    ⟨after, hOptions, hRest⟩
  split_ifs at hRest
  rcases Option.map_eq_some_iff.mp hRest with
    ⟨mng, hDefaults, rfl⟩
  have hTold := parseOptions_takes hNumeric
    (argsDefault_told lookup unset) hOptions
  have hBound := hTold.bound hNumeric hDefaults
  have hFirst := Args.connectAddr_bound
    { after with mng := mng }
  dsimp only at hFirst
  rw [hBound, List.nil_append, List.head?_map,
    List.head?_map, toldHost_first] at hFirst
  exact (Option.some.inj hFirst).symm

end Options

end Client

end Socks5d

------------------------------------------------------------
-- The Client And The Server
------------------------------------------------------------

namespace Socks5d

theorem htons_injective : Function.Injective htons := by
  intro n m hSame
  injection hSame with hHigh hRest
  injection hRest with hLow _
  have hHighNat := congrArg UInt8.toNat hHigh
  have hLowNat := congrArg UInt8.toNat hLow
  rw [UInt8.toNat_ofNat', UInt8.toNat_ofNat']
    at hHighNat hLowNat
  have hN := n.toNat_lt
  have hM := m.toNat_lt
  exact UInt16.toNat_inj.mp (by omega)

/- A socket address holds its address and its port. -/
theorem HostAddr.sockaddr_eq_iff
    {host other : HostAddr}
    {n m : UInt16} :
    host.sockaddr n = other.sockaddr m ↔
      n = m ∧ host = other := by
  constructor
  · intro hSame
    have hPort : n = m := by
      apply htons_injective
      have hField := congrArg Sockaddr.port hSame
      cases host <;> cases other <;> exact hField
    subst hPort
    exact ⟨rfl, HostAddr.sockaddr_injective n hSame⟩
  · rintro ⟨rfl, rfl⟩
    rfl

/-
  The client connects to an address that the server has
  bound exactly if they were told the same port, and the
  address that the client was told is one of the server's as
  far as `address_processing` stores it.
-/
theorem connects_bound_iff
    (serverLookup clientLookup : HostLookup)
    (hServerNumeric : serverLookup.Numeric)
    (hClientNumeric : clientLookup.Numeric)
    (options : List ArgOption)
    (operands : List (List UInt8))
    (clientOptions : List Client.ArgOption)
    (clientOperands : List (List UInt8))
    (unset : Client.User)
    (args : Socks5Args)
    (client : Client.Args)
    (hServer :
      parseArgs serverLookup options operands = some args)
    (hClient :
      Client.parseArgs clientLookup unset clientOptions
        clientOperands = some client) :
    client.connectAddr ∈ args.mng.bound ↔
      Client.toldPort clientOptions = toldPort .mng options ∧
        (Client.toldHost clientLookup clientOptions).stored ∈
          (toldHosts serverLookup .mng options).map
            HostAddr.stored := by
  have hBound := parseArgs_bound hServerNumeric hServer .mng
  change args.mng.bound = _ at hBound
  rw [hBound,
    Client.parseArgs_connectAddr hClientNumeric hClient,
    List.mem_map]
  constructor
  · rintro ⟨host, hIn, hSame⟩
    rcases HostAddr.sockaddr_eq_iff.mp hSame with
      ⟨hPort, rfl⟩
    exact ⟨hPort.symm, hIn⟩
  · rintro ⟨hPort, hIn⟩
    exact ⟨_, hIn,
      HostAddr.sockaddr_eq_iff.mpr ⟨hPort.symm, rfl⟩⟩

/- `-P 9090` -/
def clientToldOptions : List Client.ArgOption :=
  [.P (ascii ['9', '0', '9', '0'])]

/- Memory that was never set, with zeros in it. -/
def noUser : Client.User where
  username := []
  password := []
  credentials := false

/- The default of the client is what the server was told. -/
theorem connects_bound_iff_loopback :
    ∃ args client,
      parseArgs defaultLookup toldOptions [] = some args ∧
      Client.parseArgs defaultLookup noUser
        clientToldOptions [] = some client ∧
      client.connectAddr ∈ args.mng.bound := by
  have hServerSome :
      (parseArgs defaultLookup toldOptions []).isSome := by
    decide
  have hClientSome :
      (Client.parseArgs defaultLookup noUser
        clientToldOptions []).isSome := by
    decide
  rcases Option.isSome_iff_exists.mp hServerSome with
    ⟨args, hServer⟩
  rcases Option.isSome_iff_exists.mp hClientSome with
    ⟨client, hClient⟩
  refine ⟨args, client, hServer, hClient, ?_⟩
  refine (connects_bound_iff defaultLookup defaultLookup
    defaultLookup_numeric defaultLookup_numeric toldOptions
    [] clientToldOptions [] noUser args client hServer
    hClient).mpr ?_
  exact ⟨by decide, by decide⟩

end Socks5d
