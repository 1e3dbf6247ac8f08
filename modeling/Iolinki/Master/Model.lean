import Iolinki.Dll.Model

/-!
# The virtual master

Model of `tools/virtual_master/virtual_master`: the frames and the response
parser of `protocol.py` and the cycle and ISDU functions of `master.py`.
Integers that are sent as bytes are `UInt8`, indices are `UInt16`.

The master talks to the device over a virtual UART. A `Link` is the device with
the bytes that are in transit. `Link.exchange` sends one frame, after which the
device makes one call of `iolink_process`, and then receives the reply:
`recv_bytes` returns the bytes if enough of them arrive before its timeout, and
otherwise loses what has arrived.

The readings of the device's clocks in its `k`-th call are a parameter
(`Clocks`). The data loop of `read_isdu` need not end; it runs on fuel, and
`readIsdu` is `none` when the fuel is used up.
-/

namespace Iolinki

open Iolinki.Lib

/-! ## `protocol.py` -/

/-- `ISDUControlByte.generate` (lines 59–66). -/
def isduControlByteGenerate (start last : Bool) (seq : ℕ) : UInt8 :=
  let cb := UInt8.ofNat seq &&& 0x3F
  let cb := if start then cb ||| 0x80 else cb
  if last then cb ||| 0x40 else cb

/-- The value of an M-sequence type (lines 17–26). -/
def MSeqType.value : MSeqType → ℕ
  | .type0 => 0
  | .type11 => 1
  | .type12 => 2
  | .type1V => 3
  | .type21 => 4
  | .type22 => 5
  | .type2V => 6

/-- `MSequenceType.get_od_len` (lines 28–33). -/
def getOdLen (t : MSeqType) : ℕ := if t.value ≥ 4 then 2 else 1

/-- `bytes([ck])` -/
def ckByte (ck : ℕ) : List UInt8 := [UInt8.ofNat ck]

/-- `MSequenceGenerator.generate_type0` (lines 82–94). -/
def generateType0 (mc ckt : UInt8) : List UInt8 := mc :: ckByte (calculateChecksumType0 mc ckt)

/-- `MSequenceGenerator.generate_type1` (lines 138–162). -/
def generateType1 (odLen : ℕ) (mc ckt : UInt8) (pd : List UInt8) (od od2 : UInt8) : List UInt8 :=
  let frame := if odLen = 2 then [mc, ckt] ++ pd ++ [od, od2] else [mc, ckt] ++ pd ++ [od]
  frame ++ ckByte (calculateChecksumType1 mc ckt pd (if odLen = 2 then [od, od2] else [od]))

/-- The loop that puts a control byte before each byte of a request
    (`protocol.py`, lines 129–134, and `master.py`, lines 425–430). -/
def interleaveControl (data : List UInt8) : List UInt8 :=
  data.zipIdx.flatMap fun (val, i) =>
    [isduControlByteGenerate (i = 0) (i = data.length - 1) (i % 64), val]

/-- `MSequenceGenerator.generate_isdu_read_v11` (lines 115–136). -/
def generateIsduReadV11 (index : UInt16) (subindex serviceId : UInt8) : List UInt8 :=
  interleaveControl [serviceId, (index >>> 8).toUInt8, index.toUInt8, subindex]

/-- `DeviceResponse`; `none` is an attribute that is `None` or not set. -/
structure DeviceResponse where
  valid : Bool
  checksumOk : Option Bool := none
  pdValid : Bool := false
  payload : Option (List UInt8) := none
  checksum : Option UInt8 := none
  od : Option UInt8 := none
  od2 : Option UInt8 := none
  status : Option UInt8 := none
  deriving DecidableEq

/-- The search for a status that explains the checksum of a two-byte response
    (lines 197–204). -/
def findStatus (od checksum : UInt8) : Option ℕ :=
  (List.range 256).find? fun status =>
    calculateChecksumType0 (UInt8.ofNat status) od = checksum.toNat

/-- `DeviceResponse.__init__` (lines 172–219). -/
def deviceResponse (data : List UInt8) (odLen : ℕ) : DeviceResponse :=
  if data.length < 2 then { valid := false }
  else if data.length = 2 then
    let od := data.getD 0 0
    let checksum := data.getD 1 0
    { valid := true
      payload := some (data.take 1)
      checksum := some checksum
      od := some od
      status := some (UInt8.ofNat ((findStatus od checksum).getD 0))
      checksumOk := some (findStatus od checksum).isSome }
  else
    let status := data.getD 0 0
    let pdEnd := data.length - odLen - 1
    let checksum := data.getD (data.length - 1) 0
    { valid := true
      status := some status
      payload := some ((data.take pdEnd).drop 1)
      od := some (data.getD pdEnd 0)
      od2 := if odLen = 2 then some (data.getD (pdEnd + 1) 0) else none
      checksum := some checksum
      checksumOk := some (verifyChecksum data.dropLast checksum)
      pdValid := status &&& 0x20 != 0 }

/-- The request of `VirtualMaster.write_isdu` (`master.py`, lines 407–423). -/
def writeRequestData (index : UInt16) (subindex : UInt8) (data : List UInt8) : List UInt8 :=
  let dataLen := data.length
  if dataLen > 15 then
    [0x9F, UInt8.ofNat dataLen, (index >>> 8).toUInt8, index.toUInt8, subindex] ++ data
  else
    [0x90 ||| (UInt8.ofNat dataLen &&& 0x0F), (index >>> 8).toUInt8, index.toUInt8, subindex] ++
      data

/-- The bytes that `VirtualMaster.write_isdu` sends (lines 425–430). -/
def writeInterleaved (index : UInt16) (subindex : UInt8) (data : List UInt8) : List UInt8 :=
  interleaveControl (writeRequestData index subindex data)

/-! ## The virtual UART -/

/-- What the clocks and the PHY of the device return in its `k`-th call, in
    which `bytes` have arrived. -/
structure Clocks where
  env : ℕ → List UInt8 → CallEnv
  delivers : ∀ k bytes, (env k bytes).rx.map RxByte.byte = bytes

/-- The device, the bytes on their way to it and from it, and the number of
    calls of `iolink_process` so far. -/
structure Link where
  device : Device
  toDevice : List UInt8
  toMaster : List UInt8
  cycle : ℕ

/-- `VirtualUART.recv_bytes` (`uart.py`, lines 92–117): the bytes, and those
    that are left. Bytes read before a timeout are lost. -/
def recvBytes (count : ℕ) (queue : List UInt8) : Option (List UInt8) × List UInt8 :=
  if count ≤ queue.length then (some (queue.take count), queue.drop count) else (none, [])

/-- `uart.send_bytes(frame)`, one call of `iolink_process`, and
    `uart.recv_bytes(count)`. -/
def Link.exchange (cfg : BuildConfig) (clocks : Clocks) (l : Link) (frame : List UInt8)
    (count : ℕ) : Option (List UInt8) × Link :=
  let r := iolinkProcess cfg l.device (clocks.env l.cycle (l.toDevice ++ frame))
  let got := recvBytes count (l.toMaster ++ r.2.sent.flatten)
  (got.1,
    { device := r.1
      toDevice := r.2.unread.map RxByte.byte
      toMaster := got.2
      cycle := l.cycle + 1 })

/-! ## `master.py` -/

/-- The attributes of a `VirtualMaster` that its cycles depend on. -/
structure Master where
  mSeqType : MSeqType
  pdInLen : ℕ
  pdOutLen : ℕ

/-- `VirtualMaster.od_len` (lines 40–47). -/
def Master.odLen (m : Master) : ℕ := getOdLen m.mSeqType

section Master

variable (cfg : BuildConfig) (clocks : Clocks) (m : Master)

/-- `VirtualMaster.send_idle` (lines 151–169). -/
def sendIdle (l : Link) : DeviceResponse × Link :=
  let r := l.exchange cfg clocks (generateType0 0x00 0x00) 2
  (deviceResponse (r.1.getD []) 1, r.2)

/-- `pd_out` of a cycle: zeros by default, cut or padded to the configured
    length (lines 334–338). -/
def cyclePdOut (pdOut : Option (List UInt8)) : List UInt8 :=
  match pdOut with
  | none => List.replicate m.pdOutLen 0
  | some pd => pd.takeD m.pdOutLen 0

/-- `VirtualMaster.run_cycle` (lines 313–349). -/
def runCycle (l : Link) (pdOut : Option (List UInt8)) (odReq odReq2 ckt : UInt8) :
    DeviceResponse × Link :=
  if m.mSeqType = .type0 then sendIdle cfg clocks l
  else
    let frame := generateType1 m.odLen 0x00 ckt (cyclePdOut m pdOut) odReq odReq2
    let r := l.exchange cfg clocks frame (1 + m.pdInLen + m.odLen + 1)
    (deviceResponse (r.1.getD []) m.odLen, r.2)

/-- `send_and_recv` of `read_isdu` and `write_isdu` (lines 190–197 and
    432–439); `none` is the value `None`. -/
def sendAndRecv (l : Link) (byteToSend : UInt8) : Option DeviceResponse × Link :=
  if m.mSeqType = .type0 then
    let r := l.exchange cfg clocks (generateType0 byteToSend 0x00) 2
    (r.1.map fun data => deviceResponse data 1, r.2)
  else
    let r := runCycle cfg clocks m l none byteToSend 0x00 0x00
    (some r.1, r.2)

/-- The negation of `not resp or not resp.valid`. -/
def usable (resp : Option DeviceResponse) : Bool := (resp.map DeviceResponse.valid).getD false

/-- `resp.od if hasattr(resp, "od") else resp.payload[0]` -/
def odOrPayload (resp : Option DeviceResponse) : UInt8 :=
  (resp.bind fun r => r.od.or (r.payload.bind List.head?)).getD 0

end Master

/-- `max_retries` (lines 208 and 449). -/
def maxRetries : ℕ := 50

/-! ## `read_isdu` and `write_isdu`

They see the link only through `send_and_recv`, and are written for any such function. -/

section On

variable {L : Type} (send : L → UInt8 → Option DeviceResponse × L)

/-- The request bytes are sent one by one until a cycle fails (lines 199–203
    and 441–447). -/
def sendRequestOn (l : L) : List UInt8 → Bool × L
  | [] => (true, l)
  | val :: vals =>
    let r := send l val
    if usable r.1 then sendRequestOn r.2 vals else (false, r.2)

/-- The polling loop (lines 208–217 and 449–459): the first control byte that
    is not zero, and zero if there is none within `retries` polls. -/
def pollControlOn (l : L) : ℕ → UInt8 × L
  | 0 => (0, l)
  | retries + 1 =>
    let r := send l 0x00
    if usable r.1 ∧ odOrPayload r.1 ≠ 0 then (odOrPayload r.1, r.2) else pollControlOn r.2 retries

/-- The data loop of `read_isdu` (lines 230–259): the bytes it returns, `none`
    if it is still running after `fuel` rounds. -/
def captureDataOn (l : L) (dataBytes : List UInt8) (isLast : Bool) : ℕ → Option (List UInt8 × L)
  | 0 => none
  | fuel + 1 =>
    let r := send l 0x00
    if !usable r.1 then some (dataBytes, r.2)
    else
      let dataBytes := dataBytes ++ [odOrPayload r.1]
      if isLast then some (dataBytes, r.2)
      else
        let r := send r.2 0x00
        if !usable r.1 then some (dataBytes, r.2)
        else captureDataOn r.2 dataBytes (odOrPayload r.1 &&& 0x40 ≠ 0) fuel

/-- `VirtualMaster.read_isdu` (lines 178–259): what it returns, where the inner
    `none` is `None`. -/
def readIsduOn (fuel : ℕ) (l : L) (index : UInt16) (subindex : UInt8) :
    Option (Option (List UInt8) × L) :=
  let request := sendRequestOn send l (generateIsduReadV11 index subindex 0x80)
  if !request.1 then some (none, request.2)
  else
    let poll := pollControlOn send request.2 maxRetries
    if poll.1 = 0 then some (none, poll.2)
    else if poll.1 &&& 0x80 = 0 then some (none, poll.2)
    else (captureDataOn send poll.2 [] (poll.1 &&& 0x40 ≠ 0) fuel).map fun r => (some r.1, r.2)

/-- `VirtualMaster.write_isdu` (lines 399–472). -/
def writeIsduOn (l : L) (index : UInt16) (subindex : UInt8) (data : List UInt8) : Bool × L :=
  let request := sendRequestOn send l (writeInterleaved index subindex data)
  if !request.1 then (false, request.2)
  else
    let poll := pollControlOn send request.2 maxRetries
    (poll.1 ≠ 0, poll.2)

end On

section Master

variable (cfg : BuildConfig) (clocks : Clocks) (m : Master)

/-- The request bytes over the link. -/
def sendRequest (l : Link) (bytes : List UInt8) : Bool × Link :=
  sendRequestOn (sendAndRecv cfg clocks m) l bytes

/-- `VirtualMaster.read_isdu` over the link. -/
def readIsdu (fuel : ℕ) (l : Link) (index : UInt16) (subindex : UInt8) :
    Option (Option (List UInt8) × Link) :=
  readIsduOn (sendAndRecv cfg clocks m) fuel l index subindex

/-- `read_isdu` returns `result`, however much fuel is left. -/
def ReadReturns (l : Link) (index : UInt16) (subindex : UInt8) (result : Option (List UInt8))
    (l' : Link) : Prop :=
  ∃ fuel₀, ∀ fuel ≥ fuel₀, readIsdu cfg clocks m fuel l index subindex = some (result, l')

/-- `VirtualMaster.write_isdu` over the link. -/
def writeIsdu (l : Link) (index : UInt16) (subindex : UInt8) (data : List UInt8) : Bool × Link :=
  writeIsduOn (sendAndRecv cfg clocks m) l index subindex data

end Master

end Iolinki
