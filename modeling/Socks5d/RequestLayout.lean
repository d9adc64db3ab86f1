import Socks5d.RequestMessages

/-
  What the request parser has accepted, byte by byte, and the
  array elements it has stored into on the way.

  Main declarations:
    * `Request.encode`
    * `elementsWritten`
    * `request_layout_iff`
-/

------------------------------------------------------------
-- The Bytes Of A Decoded Request
------------------------------------------------------------

namespace Socks5d

namespace Request

/- The address field, by the type of the address. -/
def addressField (request : Request) : List UInt8 :=
  if request.destAddrType = socksReqAddrtypeDomain then
    UInt8.ofNat request.fqdnSize ::
      request.host.take request.fqdnSize
  else request.destAddr.addr

/- Version, command, RSV, type, address and port. -/
def encode
    (rsv : UInt8)
    (request : Request) : List UInt8 :=
  [0x05, socksReqCmdConnect, rsv, request.destAddrType] ++
    request.addressField ++ request.destPort

end Request

/-
  The array elements that `request_parser_feed` stores into:
  the index, and the length of the array.
-/
def elementWritten
    (p : RequestParser)
    (b : UInt8) : List (Int × Nat) :=
  match p.state with
  | .destAddrFqdn =>
      -- `host[p->remaining - 1]`
      if b.toNat > maxFqdnSize - 1 then []
      else [((b.toNat : Int) - 1, maxFqdnSize)]
  | .destAddr =>
      if p.request.destAddrType = socksReqAddrtypeDomain then
        [(p.read.toNat, maxFqdnSize)]
      else if p.request.destAddrType =
          socksReqAddrtypeIpv4 then
        [(p.read.toNat, ipv4Len.toNat)]
      else if p.request.destAddrType =
          socksReqAddrtypeIpv6 then
        [(p.read.toNat, ipv6Len.toNat)]
      else []
  | .destPort => [(p.read.toNat, 2)]
  | _ => []

/- The elements stored into while some bytes are fed. -/
def elementsWritten :
    RequestParser → List UInt8 → List (Int × Nat)
| _, [] => []
| p, b :: rest =>
    elementWritten p b ++
      elementsWritten (requestParserFeed p b) rest

/- An element inside its array. -/
def Inside (element : Int × Nat) : Prop :=
  0 ≤ element.1 ∧ element.1 < element.2

section Layout

variable {bytes used fed : List UInt8}
variable {p : RequestParser}
variable {request : Request}
variable {head : List UInt8}

/- Which byte has stored into an element. -/
theorem elementsWritten_split
    {element : Int × Nat}
    (h : element ∈ elementsWritten p used) :
    ∃ front b rest, used = front ++ b :: rest ∧
      element ∈ elementWritten
        (RequestParser.reader.feedAll p front) b := by
  induction used generalizing p with
  | nil => nomatch h
  | cons b rest ih =>
      rcases List.mem_append.mp h with hHere | hLater
      · exact ⟨[], b, rest, rfl, hHere⟩
      · rcases ih hLater with
          ⟨front, c, behind, hSplit, hElement⟩
        refine ⟨b :: front, c, behind, ?_, hElement⟩
        rw [hSplit]
        rfl

/- A live front of a request leads to progress. -/
theorem RequestProgress.of_live
    (hLive : RequestParser.reader.Live requestParserInit
      fed) :
    RequestProgress fed
      (RequestParser.reader.feedAll requestParserInit fed) :=
  RequestParser.reader.progress_of_live
    (fun _ _ a hFed hStop => hFed.step hStop a) .version rfl
    hLive

/- So does the whole of it. -/
theorem RequestProgress.of_stops
    (hStops : RequestParser.reader.Stops requestParserInit
      bytes) :
    RequestProgress bytes
      (RequestParser.reader.feedAll requestParserInit
        bytes) :=
  RequestParser.reader.progress_of_stops
    (fun _ _ a hFed hStop => hFed.step hStop a) .version rfl
    hStops

/- The element at an index below the length. -/
theorem inside_of_lt
    {i n : Nat}
    (h : i < n) : Inside ((i : Int), n) :=
  ⟨Int.natCast_nonneg i, Int.ofNat_lt.mpr h⟩

/-
  A parser in progress stores into its arrays, unless the
  length of a name is 0: that byte goes to `host[-1]`.
-/
theorem RequestProgress.inside
    (h : RequestProgress fed p)
    {b : UInt8}
    (hName : fed[3]? = some socksReqAddrtypeDomain →
      fed.length = 4 → b ≠ 0)
    {element : Int × Nat}
    (hElement : element ∈ elementWritten p b) :
    Inside element := by
  cases h with
  | version => nomatch hElement
  | cmd => nomatch hElement
  | rsv => nomatch hElement
  | atyp rsv => nomatch hElement
  | fqdn rsv =>
      have hPos : b ≠ 0 := hName rfl rfl
      have hByte : b.toNat ≠ 0 := by
        intro hZero
        exact hPos (UInt8.toNat_inj.mp hZero)
      unfold elementWritten at hElement
      dsimp only at hElement
      split at hElement
      · nomatch hElement
      · rename_i hSize
        rw [List.mem_singleton.mp hElement]
        have hLess : b.toNat ≤ 254 := Nat.not_lt.mp hSize
        constructor
        · show (0 : Int) ≤ (b.toNat : Int) - 1
          omega
        · show (b.toNat : Int) - 1 < (255 : Nat)
          omega
  | addr rsv kind field hField =>
      have hRead : (UInt8.ofNat field.length).toNat =
          field.length :=
        ofNat_toNat (Nat.lt_trans hField
          (UInt8.toNat_lt _))
      have hIs : element =
          (((UInt8.ofNat field.length).toNat : Int),
            kind.len.toNat) := by
        cases kind with
        | four => exact List.mem_singleton.mp hElement
        | six => exact List.mem_singleton.mp hElement
      rw [hIs, hRead]
      exact inside_of_lt hField
  | name rsv size field hSize hField =>
      have hLess : field.length < 255 := by omega
      have hRead : (UInt8.ofNat field.length).toNat =
          field.length :=
        ofNat_toNat (Nat.lt_trans hLess (by decide))
      have hIs : element =
          (((UInt8.ofNat field.length).toNat : Int),
            maxFqdnSize) := List.mem_singleton.mp hElement
      rw [hIs, hRead]
      exact inside_of_lt hLess
  | port head request hHead field hField =>
      have hIs : element =
          (((UInt8.ofNat field.length).toNat : Int), 2) :=
        List.mem_singleton.mp hElement
      rw [hIs]
      apply inside_of_lt
      rcases hField with hNone | ⟨a, hOne⟩
      · rw [hNone]
        decide
      · rw [hOne]
        exact Nat.lt_succ_self 1
  | done => nomatch hElement
  | failed fed p hState =>
      unfold elementWritten at hElement
      cases hIs : p.state <;> rw [hIs] at hState hElement <;>
        first | exact hState.elim | nomatch hElement

/- Bytes in front of the port and its request, and no 0. -/
theorem RequestHead.encode
    (h : RequestHead head request)
    (a b : UInt8) :
    (∃ rsv, head ++ [a, b] =
      (setPort { request with
        destPort := [a, b] }).encode rsv) ↔
      ¬ (head[3]? = some socksReqAddrtypeDomain ∧
        head[4]? = some 0) := by
  cases h with
  | addr rsv kind field hField =>
      have hOther : ¬ (([0x05, socksReqCmdConnect, rsv,
          kind.atyp] ++ field)[3]? =
            some socksReqAddrtypeDomain ∧
          ([0x05, socksReqCmdConnect, rsv,
            kind.atyp] ++ field)[4]? = some 0) := by
        rintro ⟨hType, _⟩
        have hIs : kind.atyp = socksReqAddrtypeDomain :=
          Option.some.inj hType
        cases kind with
        | four => nomatch hIs
        | six => nomatch hIs
      constructor
      · intro _
        exact hOther
      · intro _
        refine ⟨rsv, ?_⟩
        have hFull : partly kind.len.toNat field = field :=
          partly_full hField
        cases kind with
        | four =>
            show _ = [0x05, socksReqCmdConnect, rsv, _] ++
              partly AddrKind.four.len.toNat field ++ [a, b]
            rw [hFull]
            rfl
        | six =>
            show _ = [0x05, socksReqCmdConnect, rsv, _] ++
              partly AddrKind.six.len.toNat field ++ [a, b]
            rw [hFull]
            rfl
  | name rsv size field hSize hField =>
      have hEncoded : ∀ other : UInt8,
          (setPort { nameRequest size field with
            destPort := [a, b] }).encode other =
          [0x05, socksReqCmdConnect, other,
              socksReqAddrtypeDomain] ++
            (UInt8.ofNat size.toNat ::
              (partly maxFqdnSize field).take size.toNat) ++
            [a, b] := fun _ => rfl
      have hByte : UInt8.ofNat size.toNat = size :=
        UInt8.ofNat_toNat
      have hLong : size.toNat ≤
          (partly maxFqdnSize field).length := by
        unfold partly
        rw [List.length_append, List.length_replicate]
        show size.toNat ≤ field.length + (255 - field.length)
        omega
      constructor
      · rintro ⟨other, hEq⟩ ⟨_, hZero⟩
        have hIs : size = 0 := Option.some.inj hZero
        rw [hEncoded, hByte] at hEq
        have hLength := congrArg List.length hEq
        have hZeroNat : (0 : UInt8).toNat = 0 := rfl
        simp only [List.length_append, List.length_cons,
          List.length_nil, hField, hIs, List.length_take,
          hZeroNat] at hLength
        omega
      · intro hSome
        have hPos : size ≠ 0 := fun hIs =>
          hSome ⟨rfl, congrArg some hIs⟩
        have hNat : size.toNat ≠ 0 := fun hIs =>
          hPos (UInt8.toNat_inj.mp hIs)
        have hTake : (partly maxFqdnSize field).take
            size.toNat = field := by
          have hExact : size.toNat = field.length := by omega
          rw [hExact]
          exact List.take_left
        refine ⟨rsv, ?_⟩
        rw [hEncoded, hByte, hTake]
        rfl

/-
  When the parser has come to its end, the bytes it has taken
  are the encoding of the request it has decoded, and every
  element it has stored into lies inside its array, if and
  only if the request is not for a name of length 0. Of such
  a name one byte is taken all the same.
-/
theorem request_layout_iff
    (bytes : List UInt8)
    (hDone : RequestParser.reader.Stops requestParserInit
      bytes) :
    ((∃ rsv, bytes = (RequestParser.reader.feedAll
        requestParserInit bytes).request.encode rsv) ∧
      ∀ element ∈ elementsWritten requestParserInit bytes,
        0 ≤ element.1 ∧ element.1 < element.2) ↔
      ¬ (bytes[3]? = some socksReqAddrtypeDomain ∧
        bytes[4]? = some 0) := by
  have hProgress := RequestProgress.of_stops hDone
  have hState : (RequestParser.reader.feedAll
      requestParserInit bytes).state = .done :=
    of_decide_eq_true hDone.stop_feedAll
  have hEncodes : (∃ rsv, bytes = (RequestParser.reader.feedAll
      requestParserInit bytes).request.encode rsv) ↔
      ¬ (bytes[3]? = some socksReqAddrtypeDomain ∧
        bytes[4]? = some 0) := by
    generalize RequestParser.reader.feedAll requestParserInit
      bytes = p at hProgress hState
    cases hProgress with
    | done head request hHead a b =>
        have hLong : 4 < head.length := by
          cases hHead with
          | addr rsv kind field hField =>
              rw [List.length_append, hField]
              cases kind with
              | four => exact Nat.le_add_right 5 3
              | six => exact Nat.le_add_right 5 15
          | name rsv size field hSize hField =>
              rw [List.length_append, hField]
              exact Nat.le_add_right _ _
        rw [List.getElem?_append_left (by omega),
          List.getElem?_append_left hLong]
        exact hHead.encode a b
    | failed _ _ hBad =>
        rw [hState] at hBad
        exact hBad.elim
    | _ => nomatch hState
  constructor
  · intro hBoth
    exact hEncodes.mp hBoth.1
  · intro hNamed
    refine ⟨hEncodes.mpr hNamed, ?_⟩
    intro element hElement
    rcases elementsWritten_split hElement with
      ⟨front, b, rest, hSplit, hHere⟩
    rw [hSplit] at hDone hNamed
    have hFront := RequestProgress.of_live
      (hDone.live_of_append _ (List.cons_ne_nil b rest))
    apply hFront.inside _ hHere
    intro hType hFour hZero
    apply hNamed
    constructor
    · rw [List.getElem?_append_left (by omega)]
      exact hType
    · rw [List.getElem?_append_right (by omega), hFour, hZero]
      rfl

theorem request_layout_ipv4 :
    ((∃ rsv, [5, 1, 0, 1, 127, 0, 0, 1, 0, 80] =
        (RequestParser.reader.feedAll requestParserInit
          [5, 1, 0, 1, 127, 0, 0, 1, 0, 80]).request.encode
            rsv) ∧
      ∀ element ∈ elementsWritten requestParserInit
          [5, 1, 0, 1, 127, 0, 0, 1, 0, 80],
        0 ≤ element.1 ∧ element.1 < element.2) :=
  (request_layout_iff _ (by decide +kernel)).mpr (by decide)

/-
  A request for a name of length 0: a byte of it is taken,
  and the byte in front of `host` is stored into.
-/
theorem request_layout_empty :
    RequestParser.reader.Stops requestParserInit
        [5, 1, 0, 3, 0, 0x61, 0, 80] ∧
      (RequestParser.reader.feedAll requestParserInit
        [5, 1, 0, 3, 0, 0x61, 0, 80]).request.encode 0 =
          [5, 1, 0, 3, 0, 0, 80] ∧
      (-1, 255) ∈ elementsWritten requestParserInit
        [5, 1, 0, 3, 0, 0x61, 0, 80] ∧
      ¬ ((∃ rsv, [5, 1, 0, 3, 0, 0x61, 0, 80] =
          (RequestParser.reader.feedAll requestParserInit
            [5, 1, 0, 3, 0, 0x61, 0, 80]).request.encode
              rsv) ∧
        ∀ element ∈ elementsWritten requestParserInit
            [5, 1, 0, 3, 0, 0x61, 0, 80],
          0 ≤ element.1 ∧ element.1 < element.2) := by
  have hOutside : (-1, 255) ∈ elementsWritten
      requestParserInit [5, 1, 0, 3, 0, 0x61, 0, 80] := by
    decide +kernel
  refine ⟨by decide +kernel, by decide +kernel, hOutside, ?_⟩
  intro hBad
  exact absurd (hBad.2 _ hOutside).1 (by decide)

end Layout

end Socks5d
