import Socks5d.RequestStates

/-
  The messages of the CONNECT request: what the parser does
  on each prefix of one, and that decoding undoes encoding.

  Main declarations:
    * `Target`, `encodeRequest`
    * `RequestHead`, `RequestProgress`
    * `RequestProgress.step`, `requestConsume_progress`
    * `request_stops`, `request_decodes`
-/

------------------------------------------------------------
-- Encoding
------------------------------------------------------------

namespace Socks5d

/- What a request asks to be connected to. -/
inductive Target where
  | ipv4 (addr : List UInt8)
  | ipv6 (addr : List UInt8)
  | domain (name : List UInt8)
deriving DecidableEq

namespace Target

def WellFormed : Target → Prop
| ipv4 addr => addr.length = 4
| ipv6 addr => addr.length = 16
| domain name => 1 ≤ name.length ∧ name.length ≤ 254

instance (t : Target) : Decidable t.WellFormed := by
  cases t <;> unfold WellFormed <;> infer_instance

def encode : Target → List UInt8
| ipv4 addr => socksReqAddrtypeIpv4 :: addr
| ipv6 addr => socksReqAddrtypeIpv6 :: addr
| domain name =>
    socksReqAddrtypeDomain :: UInt8.ofNat name.length :: name

end Target

/- The bytes of a request. -/
def encodeRequest
    (rsv : UInt8)
    (target : Target)
    (port : List UInt8) : List UInt8 :=
  [0x05, socksReqCmdConnect, rsv] ++ target.encode ++ port

/- The two kinds of numeric addresses. -/
inductive AddrKind where
  | four
  | six

namespace AddrKind

def atyp : AddrKind → UInt8
| four => socksReqAddrtypeIpv4
| six => socksReqAddrtypeIpv6

def len : AddrKind → UInt8
| four => ipv4Len
| six => ipv6Len

def family : AddrKind → Family
| four => .inet
| six => .inet6

end AddrKind

end Socks5d

------------------------------------------------------------
-- The Parser On Each Prefix
------------------------------------------------------------

namespace Socks5d

/- A partly stored array of `n` bytes. -/
def partly
    (n : Nat)
    (field : List UInt8) : List UInt8 :=
  field ++ List.replicate (n - field.length) 0

theorem partly_set
    {n : Nat}
    {field : List UInt8}
    (h : field.length < n)
    (b : UInt8) :
    (partly n field).set field.length b =
      partly n (field ++ [b]) := by
  have hSplit : n - field.length =
      (n - (field.length + 1)) + 1 := by omega
  unfold partly
  rw [List.set_append_right _ _ (Nat.le_refl _), hSplit,
    List.replicate_succ]
  simp

theorem partly_full
    {n : Nat}
    {field : List UInt8}
    (h : field.length = n) : partly n field = field := by
  unfold partly
  rw [h, Nat.sub_self]
  exact List.append_nil _

/- The request while a numeric address is read. -/
def addrRequest
    (kind : AddrKind)
    (field : List UInt8) : Request where
  cmd := socksReqCmdConnect
  destAddrType := kind.atyp
  destAddr :=
    { family := kind.family
      addr := partly kind.len.toNat field }

/- The request while a name of `size` bytes is read. -/
def nameRequest
    (size : UInt8)
    (field : List UInt8) : Request where
  cmd := socksReqCmdConnect
  destAddrType := socksReqAddrtypeDomain
  host := partly maxFqdnSize field
  fqdnSize := size.toNat

def atAddr
    (kind : AddrKind)
    (field : List UInt8) : RequestParser where
  request := addrRequest kind field
  state := .destAddr
  remaining := kind.len
  read := UInt8.ofNat field.length

def atName
    (size : UInt8)
    (field : List UInt8) : RequestParser where
  request := nameRequest size field
  state := .destAddr
  remaining := size
  read := UInt8.ofNat field.length

def atPort
    (request : Request)
    (field : List UInt8) : RequestParser where
  request := { request with destPort := partly 2 field }
  state := .destPort
  remaining := 2
  read := UInt8.ofNat field.length

def atEnd
    (request : Request)
    (port : List UInt8) : RequestParser where
  request := setPort { request with destPort := port }
  state := .done
  remaining := 2
  read := 2

/- Counting up to a size of at most one byte. -/
theorem count_succ
    (n : Nat) :
    UInt8.ofNat n + 1 = UInt8.ofNat (n + 1) :=
  (UInt8.ofNat_add n 1).symm

theorem ofNat_toNat
    {n : Nat}
    (h : n < 256) : (UInt8.ofNat n).toNat = n := by
  rw [UInt8.toNat_ofNat']
  exact Nat.mod_eq_of_lt h

theorem le_ofNat_iff
    (size : UInt8)
    {n : Nat}
    (h : n < 256) :
    size ≤ UInt8.ofNat n ↔ size.toNat ≤ n := by
  rw [UInt8.le_iff_toNat_le, ofNat_toNat h]

section Feeding

variable {kind : AddrKind}
variable {size : UInt8}
variable {field : List UInt8}
variable {request : Request}

/- The store of a byte of a numeric address. -/
theorem storeAddr_addr
    (h : field.length < kind.len.toNat)
    (b : UInt8) :
    storeAddr (atAddr kind field) b =
      atAddr kind (field ++ [b]) := by
  have hLen : field.length < 256 := by
    have hKind := kind.len.toNat_lt
    omega
  have hSet := partly_set h b
  have hNext : UInt8.ofNat field.length + 1 =
      UInt8.ofNat (field ++ [b]).length := by
    rw [List.length_append]
    exact count_succ _
  cases kind with
  | four =>
      simp only [storeAddr, atAddr, addrRequest,
        AddrKind.atyp, ofNat_toNat hLen, hNext, true_or,
        if_true, hSet]
      rw [if_neg (by decide)]
  | six =>
      simp only [storeAddr, atAddr, addrRequest,
        AddrKind.atyp, ofNat_toNat hLen, hNext, or_true,
        if_true, hSet]
      rw [if_neg (by decide)]

/- The store of a byte of a name. -/
theorem storeAddr_name
    (h : field.length < maxFqdnSize)
    (b : UInt8) :
    storeAddr (atName size field) b =
      atName size (field ++ [b]) := by
  have hLen : field.length < 256 := Nat.lt_succ_of_lt h
  have hSet := partly_set h b
  have hNext : UInt8.ofNat field.length + 1 =
      UInt8.ofNat (field ++ [b]).length := by
    rw [List.length_append]
    exact count_succ _
  simp only [storeAddr, atName, nameRequest,
    ofNat_toNat hLen, hNext, if_true, hSet]

/- A byte of an address: the last one leads to the port. -/
theorem feed_destAddr
    {p q : RequestParser}
    {b : UInt8}
    (hState : p.state = .destAddr)
    (hStore : storeAddr p b = q)
    (hSame : q.state = .destAddr) :
    requestParserFeed p b =
      if q.remaining ≤ q.read then atPort q.request []
      else q := by
  unfold requestParserFeed destAddr
  simp only [hState, hStore]
  unfold remainingIsDone
  by_cases hDone : q.remaining ≤ q.read
  · rw [if_pos hDone, if_pos (decide_eq_true hDone)]
    rfl
  · rw [if_neg hDone, if_neg (by simpa using hDone)]
    rw [← hSame]

theorem feed_addr
    (h : field.length < kind.len.toNat)
    (b : UInt8) :
    requestParserFeed (atAddr kind field) b =
      if kind.len.toNat ≤ field.length + 1 then
        atPort (addrRequest kind (field ++ [b])) []
      else atAddr kind (field ++ [b]) := by
  rw [feed_destAddr rfl (storeAddr_addr h b) rfl]
  have hLen : (field ++ [b]).length < 256 := by
    have hKind := kind.len.toNat_lt
    rw [List.length_append, List.length_singleton]
    omega
  have hIff : kind.len ≤ UInt8.ofNat (field ++ [b]).length ↔
      kind.len.toNat ≤ field.length + 1 := by
    refine (le_ofNat_iff kind.len hLen).trans ?_
    rw [List.length_append, List.length_singleton]
  exact if_congr hIff rfl rfl

theorem feed_name
    (h : field.length < maxFqdnSize)
    (b : UInt8) :
    requestParserFeed (atName size field) b =
      if size.toNat ≤ field.length + 1 then
        atPort (nameRequest size (field ++ [b])) []
      else atName size (field ++ [b]) := by
  rw [feed_destAddr rfl (storeAddr_name h b) rfl]
  have hLen : (field ++ [b]).length < 256 := by
    rw [List.length_append, List.length_singleton]
    exact Nat.succ_lt_succ h
  have hIff : size ≤ UInt8.ofNat (field ++ [b]).length ↔
      size.toNat ≤ field.length + 1 := by
    refine (le_ofNat_iff size hLen).trans ?_
    rw [List.length_append, List.length_singleton]
  exact if_congr hIff rfl rfl

theorem feed_port_first
    (request : Request)
    (b : UInt8) :
    requestParserFeed (atPort request []) b =
      atPort request [b] := rfl

theorem feed_port_last
    (request : Request)
    (a b : UInt8) :
    requestParserFeed (atPort request [a]) b =
      atEnd request [a, b] := rfl

/- The length byte of a name. -/
theorem feed_size
    (hSize : size.toNat ≤ 254) :
    requestParserFeed
        { request :=
            { cmd := socksReqCmdConnect
              destAddrType := socksReqAddrtypeDomain }
          state := .destAddrFqdn } size =
      atName size [] := by
  have hHost : (if size = 0 then
        List.replicate maxFqdnSize (0 : UInt8)
      else (List.replicate maxFqdnSize 0).set
        (size.toNat - 1) 0) =
      List.replicate maxFqdnSize 0 := by
    split
    · rfl
    · apply List.ext_getElem
      · rw [List.length_set]
      · intro i hLeft hRight
        rw [List.getElem_set]
        split
        · rw [List.getElem_replicate]
        · rfl
  have hFits : ¬size.toNat > maxFqdnSize - 1 :=
    Nat.not_lt.2 hSize
  unfold requestParserFeed destAddressFqdn
  simp only []
  rw [if_neg hFits]
  simp only [remainingSet, hHost]
  rfl

end Feeding

end Socks5d

------------------------------------------------------------
-- Progress
------------------------------------------------------------

namespace Socks5d

/-
  The bytes before the port. A name of length 0 takes one
  byte all the same.
-/
inductive RequestHead : List UInt8 → Request → Prop where
  | addr
      (rsv : UInt8)
      (kind : AddrKind)
      (field : List UInt8)
      (hField : field.length = kind.len.toNat) :
      RequestHead
        ([0x05, socksReqCmdConnect, rsv, kind.atyp] ++ field)
        (addrRequest kind field)
  | name
      (rsv size : UInt8)
      (field : List UInt8)
      (hSize : size.toNat ≤ 254)
      (hField : field.length = max 1 size.toNat) :
      RequestHead
        ([0x05, socksReqCmdConnect, rsv,
          socksReqAddrtypeDomain, size] ++ field)
        (nameRequest size field)

/- The errors of the parser, which it never leaves. -/
def RequestState.Failed : RequestState → Prop
| .error => True
| .errorUnsupportedCmd => True
| .errorUnsupportedType => True
| .errorUnsupportedVersion => True
| _ => False

/- The bytes fed so far and the parser they lead to. -/
inductive RequestProgress :
    List UInt8 → RequestParser → Prop where
  | version :
      RequestProgress [] requestParserInit
  | cmd :
      RequestProgress [0x05] { state := .cmd }
  | rsv :
      RequestProgress [0x05, socksReqCmdConnect]
        { request := { cmd := socksReqCmdConnect }
          state := .rsv }
  | atyp
      (rsv : UInt8) :
      RequestProgress [0x05, socksReqCmdConnect, rsv]
        { request := { cmd := socksReqCmdConnect }
          state := .atyp }
  | fqdn
      (rsv : UInt8) :
      RequestProgress
        [0x05, socksReqCmdConnect, rsv,
          socksReqAddrtypeDomain]
        { request :=
            { cmd := socksReqCmdConnect
              destAddrType := socksReqAddrtypeDomain }
          state := .destAddrFqdn }
  | addr
      (rsv : UInt8)
      (kind : AddrKind)
      (field : List UInt8)
      (hField : field.length < kind.len.toNat) :
      RequestProgress
        ([0x05, socksReqCmdConnect, rsv, kind.atyp] ++ field)
        (atAddr kind field)
  | name
      (rsv size : UInt8)
      (field : List UInt8)
      (hSize : size.toNat ≤ 254)
      (hField : field.length < max 1 size.toNat) :
      RequestProgress
        ([0x05, socksReqCmdConnect, rsv,
          socksReqAddrtypeDomain, size] ++ field)
        (atName size field)
  | port
      (head : List UInt8)
      (request : Request)
      (hHead : RequestHead head request)
      (field : List UInt8)
      (hField : field = [] ∨ ∃ a, field = [a]) :
      RequestProgress (head ++ field) (atPort request field)
  | done
      (head : List UInt8)
      (request : Request)
      (hHead : RequestHead head request)
      (a b : UInt8) :
      RequestProgress (head ++ [a, b])
        (atEnd request [a, b])
  | failed
      (fed : List UInt8)
      (p : RequestParser)
      (hState : p.state.Failed) :
      RequestProgress fed p

/- Every byte of a request that goes on is progress. -/
theorem RequestProgress.step
    {fed : List UInt8}
    {p : RequestParser}
    (h : RequestProgress fed p)
    (hGoing : requestIsDone p.state = false)
    (b : UInt8) :
    RequestProgress (fed ++ [b]) (requestParserFeed p b) := by
  cases h with
  | version =>
      by_cases hVersion : b = 0x05
      · rw [hVersion]
        exact .cmd
      · refine .failed _ _ ?_
        show (requestVersion b).Failed
        unfold requestVersion
        rw [if_neg hVersion]
        trivial
  | cmd =>
      by_cases hCmd : b = socksReqCmdConnect
      · rw [hCmd]
        exact .rsv
      · refine .failed _ _ ?_
        show (requestCmd _ b).2.Failed
        unfold requestCmd
        rw [if_neg hCmd]
        trivial
  | rsv => exact .atyp b
  | atyp rsv =>
      by_cases hFour : b = socksReqAddrtypeIpv4
      · rw [hFour]
        exact .addr rsv .four [] (by decide)
      · by_cases hDomain : b = socksReqAddrtypeDomain
        · rw [hDomain]
          exact .fqdn rsv
        · by_cases hSix : b = socksReqAddrtypeIpv6
          · rw [hSix]
            exact .addr rsv .six [] (by decide)
          · refine .failed _ _ ?_
            show (addressType _ b).2.Failed
            unfold addressType
            simp only [if_neg hFour, if_neg hDomain,
              if_neg hSix]
            trivial
  | fqdn rsv =>
      by_cases hSize : b.toNat ≤ 254
      · rw [feed_size hSize]
        refine .name rsv b [] hSize ?_
        exact Nat.lt_of_lt_of_le Nat.zero_lt_one
          (Nat.le_max_left _ _)
      · refine .failed _ _ ?_
        show (destAddressFqdn _ b).2.Failed
        have hLong : b.toNat > maxFqdnSize - 1 :=
          Nat.lt_of_not_le hSize
        unfold destAddressFqdn
        rw [if_pos hLong]
        trivial
  | addr rsv kind field hField =>
      rw [feed_addr hField, List.append_assoc]
      split
      · have hPort := RequestProgress.port _ _
          (.addr rsv kind (field ++ [b]) (by
            rw [List.length_append, List.length_singleton]
            omega)) [] (Or.inl rfl)
        rw [List.append_nil] at hPort
        exact hPort
      · refine .addr rsv kind (field ++ [b]) ?_
        rw [List.length_append, List.length_singleton]
        omega
  | name rsv size field hSize hField =>
      have hRoom : field.length < maxFqdnSize := by
        show field.length < 255
        omega
      rw [feed_name hRoom, List.append_assoc]
      split
      · have hPort := RequestProgress.port _ _
          (.name rsv size (field ++ [b]) hSize (by
            rw [List.length_append, List.length_singleton]
            omega)) [] (Or.inl rfl)
        rw [List.append_nil] at hPort
        exact hPort
      · refine .name rsv size (field ++ [b]) hSize ?_
        rw [List.length_append, List.length_singleton]
        omega
  | port head request hHead field hField =>
      rcases hField with rfl | ⟨a, rfl⟩
      · rw [feed_port_first, List.append_nil]
        exact .port head request hHead [b] (Or.inr ⟨b, rfl⟩)
      · rw [feed_port_last, List.append_assoc]
        exact .done head request hHead a b
  | done head request hHead a c => cases hGoing
  | failed fed p hState =>
      refine .failed _ _ ?_
      unfold requestParserFeed
      cases hIs : p.state <;> rw [hIs] at hState <;>
        first | exact hState.elim | trivial

/- What `request_consume` does to a parser in progress. -/
theorem requestConsume_progress
    {fed : List UInt8}
    {p : RequestParser}
    (h : RequestProgress fed p)
    (hGoing : requestIsDone p.state = false)
    {limit : Nat}
    (b : Buffer limit) :
    ∃ used,
      b.pending = used ++ (requestConsume b p).2.pending ∧
        RequestProgress (fed ++ used)
          (requestConsume b p).1 ∧
        (requestIsDone (requestConsume b p).1.state = true ∨
          (requestConsume b p).2.pending = []) := by
  have hFeed := b.feed_eq RequestParser.reader p
  rcases RequestParser.reader.consume_progress
      (P := RequestProgress)
      (fun fed s a hFed hStop =>
        RequestProgress.step hFed hStop a)
      h hGoing b.pending with
    ⟨used, hSplit, hUsed, hEnd⟩
  refine ⟨used, ?_, ?_, ?_⟩
  · simpa [requestConsume, hFeed.2] using hSplit
  · simpa [requestConsume, hFeed.1] using hUsed
  · rw [← hFeed.1, ← hFeed.2] at hEnd
    exact hEnd

end Socks5d

------------------------------------------------------------
-- Decoding Undoes Encoding
------------------------------------------------------------

namespace Socks5d

/- What the parser's request says of a target. -/
def Target.Decoded
    (target : Target)
    (port : List UInt8)
    (r : Request) : Prop :=
  r.destPort = port ∧
    match target with
    | .ipv4 addr =>
        r.destAddrType = socksReqAddrtypeIpv4 ∧
          r.destAddr.addr = addr
    | .ipv6 addr =>
        r.destAddrType = socksReqAddrtypeIpv6 ∧
          r.destAddr.addr = addr
    | .domain name =>
        r.destAddrType = socksReqAddrtypeDomain ∧
          r.fqdnSize = name.length ∧
          r.host.take name.length = name

/- The endpoint of a numeric target. -/
def Target.endpoint
    (target : Target)
    (port : List UInt8) : Option Sockaddr :=
  match target with
  | .ipv4 addr =>
      some { family := .inet, addr := addr, port := port }
  | .ipv6 addr =>
      some { family := .inet6, addr := addr, port := port }
  | .domain _ => none

/- The request that a message for a target decodes to. -/
def Target.request : Target → Request
| .ipv4 addr => addrRequest .four addr
| .ipv6 addr => addrRequest .six addr
| .domain name => nameRequest (UInt8.ofNat name.length) name

theorem addr_field
    (kind : AddrKind) :
    RequestParser.reader.Field kind.len.toNat (atAddr kind)
      (fun field => atPort (addrRequest kind field) []) := by
  constructor
  · intro field
    rfl
  · intro field b hMore
    refine (feed_addr (by omega) b).trans ?_
    rw [if_neg (by omega)]
  · intro field b hLast
    refine (feed_addr (by omega) b).trans ?_
    rw [if_pos (by omega)]

theorem name_field
    {size : UInt8}
    (hSize : size.toNat ≤ 254) :
    RequestParser.reader.Field size.toNat (atName size)
      (fun field => atPort (nameRequest size field) []) := by
  have hRoom {n : Nat} (h : n < size.toNat) :
      n < maxFqdnSize :=
    Nat.lt_of_lt_of_le h (Nat.le_succ_of_le hSize)
  constructor
  · intro field
    rfl
  · intro field b hMore
    refine (feed_name (hRoom (by omega)) b).trans ?_
    rw [if_neg (by omega)]
  · intro field b hLast
    refine (feed_name (hRoom (by omega)) b).trans ?_
    rw [if_pos (by omega)]

theorem port_field
    (request : Request) :
    RequestParser.reader.Field 2 (atPort request)
      (atEnd request) := by
  constructor
  · intro field
    rfl
  · intro field b hMore
    have hNil : field = [] :=
      List.length_eq_zero_iff.1 (by omega)
    rw [hNil]
    exact feed_port_first request b
  · intro field b hLast
    rcases List.length_eq_one_iff.1
      (show field.length = 1 by omega) with ⟨a, rfl⟩
    exact feed_port_last request a b

/-
  The parser stops at the last byte of a message, and at no
  earlier one.
-/
theorem request_stops
    {target : Target}
    (hTarget : target.WellFormed)
    (rsv : UInt8)
    {port : List UInt8}
    (hPort : port.length = 2) :
    RequestParser.reader.Stops requestParserInit
        (encodeRequest rsv target port) ∧
      RequestParser.reader.feedAll requestParserInit
        (encodeRequest rsv target port) =
          atEnd target.request port := by
  have hEnd := (port_field target.request).read hPort
    Nat.zero_lt_two
  -- the part before the port, by the kind of target
  have hHead : RequestParser.reader.Live requestParserInit
      ([0x05, socksReqCmdConnect, rsv] ++ target.encode) ∧
      RequestParser.reader.feedAll requestParserInit
        ([0x05, socksReqCmdConnect, rsv] ++
          target.encode) = atPort target.request [] := by
    cases target with
    | ipv4 addr =>
        have hLength : addr.length = AddrKind.four.len.toNat :=
          hTarget
        have hField := (addr_field .four).read hLength
          (by decide)
        have hLive := hField.2.1 rfl
        exact ⟨⟨rfl, rfl, rfl, rfl, hLive⟩, hField.1⟩
    | ipv6 addr =>
        have hLength : addr.length = AddrKind.six.len.toNat :=
          hTarget
        have hField := (addr_field .six).read hLength
          (by decide)
        have hLive := hField.2.1 rfl
        exact ⟨⟨rfl, rfl, rfl, rfl, hLive⟩, hField.1⟩
    | domain name =>
        have hName : (UInt8.ofNat name.length).toNat =
            name.length :=
          ofNat_toNat (Nat.lt_of_le_of_lt hTarget.2
            (by decide))
        have hSize : (UInt8.ofNat name.length).toNat ≤
            254 := by
          rw [hName]
          exact hTarget.2
        have hField := (name_field hSize).read hName.symm
          (by rw [hName]; exact hTarget.1)
        have hLive := hField.2.1 rfl
        have hLength := feed_size hSize
        constructor
        · refine ⟨rfl, rfl, rfl, rfl, ?_, ?_⟩
          · exact congrArg
              (fun p => requestIsDone p.state) hLength
          · rw [← hLength] at hLive
            exact hLive
        · exact (congrArg (fun p =>
            RequestParser.reader.feedAll p name)
              hLength).trans hField.1
  refine ⟨?_, ?_⟩
  · exact (RequestParser.reader.stops_append_of_live
      hHead.1).2 (hHead.2 ▸ hEnd.2.2 rfl)
  · exact (RequestParser.reader.feedAll_append _ _ _).trans
      (hHead.2 ▸ hEnd.1)

/- The request of a whole message says its target. -/
theorem atEnd_decoded
    {target : Target}
    (hTarget : target.WellFormed)
    (port : List UInt8) :
    target.Decoded port
      (atEnd target.request port).request := by
  cases target with
  | ipv4 addr =>
      refine ⟨rfl, rfl, ?_⟩
      exact partly_full hTarget
  | ipv6 addr =>
      refine ⟨rfl, rfl, ?_⟩
      exact partly_full hTarget
  | domain name =>
      refine ⟨rfl, rfl, ?_, ?_⟩
      · exact ofNat_toNat (Nat.lt_of_le_of_lt hTarget.2
          (by decide))
      · exact List.take_left

/- `request_process` takes the endpoint of the message. -/
theorem requestProcess_endpoint
    {target : Target}
    {endpoint : Sockaddr}
    (hTarget : target.WellFormed)
    (port : List UInt8)
    (hEndpoint : target.endpoint port = some endpoint)
    (key : Key)
    (a : Answers)
    (s : St) :
    let r := requestProcess key a
      (atEnd target.request port).request s
    r.2 = REQUEST_CONNECTING ∧
      r.1.conn.originAddr = endpoint ∧
      r.1.conn.originDomain = endpoint.family := by
  cases target with
  | ipv4 addr =>
      have hAddr : partly 4 addr = addr := partly_full hTarget
      refine ⟨rfl, ?_, ?_⟩
      · rw [← Option.some.inj hEndpoint]
        show Sockaddr.mk .inet (partly 4 addr) port = _
        rw [hAddr]
      · rw [← Option.some.inj hEndpoint]
        rfl
  | ipv6 addr =>
      have hAddr : partly 16 addr = addr :=
        partly_full hTarget
      refine ⟨rfl, ?_, ?_⟩
      · rw [← Option.some.inj hEndpoint]
        show Sockaddr.mk .inet6 (partly 16 addr) port = _
        rw [hAddr]
      · rw [← Option.some.inj hEndpoint]
        rfl
  | domain name => nomatch hEndpoint

/-
  Decoding undoes encoding, for every target, port, reserved
  byte and trailing bytes, and for every cut of the stream:
  the parser is done exactly at the end of the message.
-/
theorem request_decodes
    {limit : Nat}
    {target : Target}
    (hTarget : target.WellFormed)
    (rsv : UInt8)
    {port : List UInt8}
    (hPort : port.length = 2)
    (trailing : List UInt8)
    (b : Buffer limit)
    {chunks : List (List UInt8)}
    (hSome : chunks ≠ [])
    (hReceived :
      b.Received requestConsume (fun p => requestIsDone p.state)
        requestParserInit chunks)
    (hStream : b.pending ++ chunks.flatten =
      encodeRequest rsv target port ++ trailing) :
    let r := b.feedChunks requestConsume
      (fun p => requestIsDone p.state) requestParserInit chunks
    (requestIsDone r.1.state = true ∧
      r.2.1.pending ++ r.2.2.flatten = trailing ∧
      RequestParser.reader.Stops requestParserInit
        (encodeRequest rsv target port)) ∧
    target.Decoded port r.1.request ∧
    ∀ endpoint, target.endpoint port = some endpoint →
      ∀ key a s,
        let q := requestProcess key a r.1.request s
        q.2 = REQUEST_CONNECTING ∧
          q.1.conn.originAddr = endpoint ∧
          q.1.conn.originDomain = endpoint.family := by
  rcases request_stops hTarget rsv hPort with
    ⟨hStops, hAll⟩
  rcases Buffer.feedChunks_of_stops hStops hSome hReceived
    hStream with ⟨hParser, hLeft⟩
  rw [hAll] at hParser
  change (b.feedChunks requestConsume
    (fun p => requestIsDone p.state) requestParserInit
      chunks).1 = _ at hParser
  refine ⟨⟨?_, hLeft, hStops⟩, ?_, ?_⟩
  · rw [hParser]
    rfl
  · rw [hParser]
    exact atEnd_decoded hTarget port
  · intro endpoint hEndpoint key a s
    rw [hParser]
    exact requestProcess_endpoint hTarget port hEndpoint
      key a s

/- Two chunks, cut inside the address. -/
theorem request_decodes_cut :
    (Target.ipv4 [127, 0, 0, 1]).Decoded [0, 80]
      ((Buffer.init rawBuffSize).feedChunks requestConsume
        (fun p => requestIsDone p.state) requestParserInit
        [[5, 1, 0, 1, 127, 0],
          [0, 1, 0, 80, 71, 69]]).1.request :=
  (@request_decodes rawBuffSize (.ipv4 [127, 0, 0, 1]) rfl
    0 [0, 80] rfl [71, 69] (Buffer.init rawBuffSize)
    [[5, 1, 0, 1, 127, 0], [0, 1, 0, 80, 71, 69]]
    (by decide) (by decide +kernel) rfl).2.1

end Socks5d
