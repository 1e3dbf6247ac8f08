import Iolinki.Master.Cycle
import Iolinki.Master.Transport

/-!
# Cycles over the link

A `Ready` link is one on which the next cycle succeeds: the device is in OPERATE,
nothing is in transit and the clocks of the device are in time. Every cycle
keeps it so, and what a cycle does to the device is what the OD bytes do to the
ISDU engine.

* `sendAndRecv_cycled`: one cycle of the master.
* `transports_link`: the link carries the bytes of an access to the engine.
* `sendRequest_decoded`: a Type 1 device collects the request of the master.
-/

namespace Iolinki

open Iolinki.Lib

/-! ## Clocks that are in time -/

/-- From the `k`-th call on the device is called at most a second after the last
    byte, its power-on delay is over and the bytes of a frame follow each other
    without an inter-byte timeout. -/
structure Paced (clocks : Clocks) (c : DllCtx) (k : ℕ) : Prop where
  first : ∀ bytes, c.lastActivityMs = 0 ∨ (clocks.env k bytes).nowMs - c.lastActivityMs ≤ 1000
  next : ∀ j ≥ k, ∀ bytes bytes' rx, (clocks.env j bytes).rx.getLast? = some rx →
    (clocks.env (j + 1) bytes').nowMs - rx.nowMs ≤ 1000
  powered : ∀ j ≥ k, ∀ bytes, dllTPdActive c (clocks.env j bytes).tPdUs = false
  gaps : ∀ j ≥ k, ∀ bytes, GapFree c (clocks.env j bytes).rx

theorem Paced.timely {clocks : Clocks} {c : DllCtx} {k : ℕ} (h : Paced clocks c k)
    (bytes : List UInt8) : Timely c (clocks.env k bytes) :=
  ⟨h.first bytes, h.powered k le_rfl bytes, h.gaps k le_rfl bytes⟩

/-- The clocks stay in time across a cycle. -/
theorem Paced.succ {cfg : BuildConfig} {config : Config} {clocks : Clocks} {d d' : Device} {k : ℕ}
    {bytes pd od : List UInt8} {status : UInt8} (h : Paced clocks d.dll k)
    (hc : Cycled cfg config d (clocks.env k bytes) pd od d' status) :
    Paced clocks d'.dll (k + 1) := by
  obtain ⟨hdead, henf, hlimit⟩ := hc.limits
  refine ⟨fun bytes' => .inr ?_, fun j hj => h.next j (by omega), fun j hj bytes' => ?_,
    fun j hj bytes' => ?_⟩
  · obtain ⟨rx, hrx, hms⟩ := Option.map_eq_some_iff.mp hc.lastActivityMs
    rw [← hms]
    exact h.next k le_rfl bytes bytes' rx hrx
  · rw [dllTPdActive, hdead]
    exact h.powered j (by omega) bytes'
  · refine (h.gaps j (by omega) bytes').imp fun a b hgap => ?_
    rw [GapOk, henf, hlimit]
    exact hgap

/-- All clocks of the device stand at zero. -/
def stillClocks : Clocks where
  env _ bytes := callWith false bytes
  delivers _ bytes := by simp [callWith, Function.comp_def]

theorem paced_stillClocks {c : DllCtx} (hms : c.lastActivityMs = 0) (hpd : c.tPdDeadlineUs = 0)
    (henf : c.enforceTiming = false) (k : ℕ) : Paced stillClocks c k := by
  refine ⟨fun _ => .inl hms, fun j _ bytes bytes' rx hrx => ?_, fun j _ bytes => ?_,
    fun j _ bytes => gapFree_of_not_enforced henf _⟩
  · have hmem := List.mem_of_getLast? hrx
    simp only [stillClocks, callWith, List.mem_map] at hmem
    obtain ⟨b, -, rfl⟩ := hmem
    show (0 : UInt32) - 0 ≤ 1000
    decide
  · simp [dllTPdActive, hpd]

/-! ## One cycle -/

/-- A configuration with cyclic frames that fit the frame buffer. The replies of
    `dll_handle_operate_type1_2` also have to fit theirs, which is what `Cyclic` adds. -/
structure HasCycles (config : Config) : Prop where
  type : config.mSeqType ≠ .type0
  pdOut : config.pdOutLen ≤ 32

theorem Cyclic.hasCycles {config : Config} (h : Cyclic config) : HasCycles config :=
  ⟨h.type, h.pdOut⟩

theorem HasCycles.of_type1 {config : Config} (htype : config.mSeqType.IsType1)
    (hout : config.pdOutLen ≤ 32) : HasCycles config :=
  ⟨by rintro h; rw [h] at htype; revert htype; decide, hout⟩

theorem HasCycles.of_type2 {config : Config} (htype : config.mSeqType.IsType2)
    (hout : config.pdOutLen ≤ 32) : HasCycles config :=
  ⟨by rintro h; rw [h] at htype; revert htype; decide, hout⟩

/-- The master with the settings of the device. -/
def masterOf (config : Config) : Master := ⟨config.mSeqType, config.pdInLen, config.pdOutLen⟩

/-- The next cycle on the link will succeed. -/
structure Ready (config : Config) (clocks : Clocks) (l : Link) : Prop where
  operating : Operating config l.device.dll
  toDevice : l.toDevice = []
  toMaster : l.toMaster = []
  paced : Paced clocks l.device.dll l.cycle

/-- The OD bytes of a cycle with `b`; the second one is the padding byte. -/
def cycleOd (config : Config) (b : UInt8) : List UInt8 := odBytes (odLenOf config.mSeqType) b 0x00

/-- What a cycle with the byte `b` leads to: the response `resp` and the link
    `l'`. `isdu` is the ISDU engine after the `iolink_isdu_process` of the call. -/
structure LinkCycled (config : Config) (clocks : Clocks) (b : UInt8) (store : Store)
    (isdu : IsduCtx) (resp : Option DeviceResponse) (l' : Link) : Prop where
  usable : usable resp = true
  od : odOrPayload resp = (odMachine.outputs isdu (cycleOd config b)).headD 0
  ready : Ready config clocks l'
  isdu : l'.device.dll.isdu = odMachine.final isdu (cycleOd config b)
  store : l'.device.store = store

section Cycles

variable (cfg : BuildConfig) {config : Config} {clocks : Clocks} {l : Link}

theorem recvBytes_length {queue : List UInt8} {count : ℕ} (h : queue.length = count) :
    recvBytes count queue = (some queue, []) := by
  rw [recvBytes, if_pos h.ge, ← h, List.take_length, List.drop_length]

/-- **One cycle of the master.** -/
theorem sendAndRecv_cycled (hcyc : HasCycles config) (h : Ready config clocks l) (b : UInt8) :
    let p := isduProcess cfg l.device.host l.device.dll.isdu
    let r := sendAndRecv cfg clocks (masterOf config) l b
    LinkCycled config clocks b p.1.store p.2 r.1 r.2 := by
  intro p
  have hodl := getOdLen_eq config.mSeqType
  -- The frame reaches the device as a whole.
  set frame :=
    cyclicFrame 0x00 0x00 (List.replicate config.pdOutLen 0) (cycleOd config b) with hframe
  have hgen : generateType1 (masterOf config).odLen 0x00 0x00 (cyclePdOut (masterOf config) none) b
      0x00 = frame := by
    rw [generateType1_eq, Master.odLen]
    simp only [masterOf, hodl, cyclePdOut, hframe, cycleOd]
  have hod : (cycleOd config b).length = odLenOf config.mSeqType := length_odBytes _ _ _
  obtain ⟨status, hdev, hsent, hunread⟩ := process_cycled cfg h.operating hcyc.type hcyc.pdOut
    (h.paced.timely frame) (by decide) (by decide) (List.length_replicate ..) hod
    (clocks.delivers l.cycle frame)
  set reply := cyclicReply status (slice l.device.dll.pdIn 0 config.pdInLen)
    (odMachine.outputs p.2 (cycleOd config b)) with hreply
  have hout : (odMachine.outputs p.2 (cycleOd config b)).length = odLenOf config.mSeqType := by
    rw [Machine.length_outputs, hod]
  have hcount : reply.length = 1 + config.pdInLen + odLenOf config.mSeqType + 1 := by
    simp [hreply, cyclicReply, hout]
    omega
  -- The reply reaches the master as a whole.
  have hexch : l.exchange cfg clocks frame (1 + config.pdInLen + odLenOf config.mSeqType + 1) =
      (some reply, ⟨(iolinkProcess cfg l.device (clocks.env l.cycle frame)).1, [], [],
        l.cycle + 1⟩) := by
    simp only [Link.exchange, h.toDevice, h.toMaster, List.nil_append, hsent, hunread,
      List.flatten_cons, List.flatten_nil, List.append_nil, recvBytes_length hcount, List.map_nil]
  have hcycle : sendAndRecv cfg clocks (masterOf config) l b =
      (some (deviceResponse reply (odLenOf config.mSeqType)),
        ⟨(iolinkProcess cfg l.device (clocks.env l.cycle frame)).1, [], [], l.cycle + 1⟩) := by
    have htype : (masterOf config).mSeqType ≠ .type0 := hcyc.type
    simp only [sendAndRecv, runCycle, if_neg htype, hgen]
    have hlen : (masterOf config).odLen = odLenOf config.mSeqType := hodl
    have hpdIn : (masterOf config).pdInLen = config.pdInLen := rfl
    rw [hlen, hpdIn, hexch]
    rfl
  rw [hcycle, deviceResponse_cyclicReply status _ hout (odLenOf_pos _) (odLenOf_le _)]
  refine ⟨rfl, ?_, ⟨hdev.operating, rfl, rfl, h.paced.succ hdev⟩, hdev.isdu, hdev.store⟩
  cases houts : odMachine.outputs p.2 (cycleOd config b) with
  | nil =>
    have := odLenOf_pos config.mSeqType
    rw [houts, List.length_nil] at hout
    omega
  | cons => rfl

/-! ## The link carries bytes -/

/-- The padding bytes of a frame. -/
def padding (config : Config) : List UInt8 := List.replicate (odLenOf config.mSeqType - 1) 0x00

theorem cycleOd_eq (config : Config) (b : UInt8) : cycleOd config b = b :: padding config := by
  unfold cycleOd padding
  cases config.mSeqType <;> rfl

theorem padding_type1 (htype : config.mSeqType.IsType1) : padding config = [] := by
  unfold padding
  revert htype
  cases config.mSeqType <;> intro h <;> first | rfl | exact absurd h (by decide)

theorem padding_type2 (htype : config.mSeqType.IsType2) : padding config = [0x00] := by
  unfold padding
  revert htype
  cases config.mSeqType <;> intro h <;> first | rfl | exact absurd h (by decide)

/-- The engine and the objects around it, behind a ready link. -/
structure OnLink (config : Config) (clocks : Clocks) (l : Link) (c : IsduCtx) (h : Host) :
    Prop where
  ready : Ready config clocks l
  isdu : l.device.dll.isdu = c
  host : l.device.host = h

theorem Ready.onLink (h : Ready config clocks l) :
    OnLink config clocks l l.device.dll.isdu l.device.host := ⟨h, rfl, rfl⟩

/-- The parameters are the same; events and counters may change between two cycles. -/
def SameStore (h h' : Host) : Prop := h'.store = h.store

/-- **The link carries the bytes of an access to the engine**, each with the padding. -/
theorem transports_link (hcyc : HasCycles config) :
    Transports cfg (padding config) (sendAndRecv cfg clocks (masterOf config))
      (OnLink config clocks) (OnLink config clocks) SameStore where
  refl _ := rfl
  trans h h' := h'.trans h
  weaken := id
  cycle := by
    rintro l _ _ ⟨h, rfl, rfl⟩ b
    have hcycle := sendAndRecv_cycled cfg hcyc h b
    set l' := (sendAndRecv cfg clocks (masterOf config) l b).2
    have hod := hcycle.od
    have hisdu := hcycle.isdu
    rw [cycleOd_eq] at hod hisdu
    exact ⟨hcycle.usable, hod, l'.device.host, hcycle.store, hcycle.ready, hisdu, rfl⟩

/-- A Type 1 frame has no padding. -/
theorem transports_type1 (clocks : Clocks) (hcyc : HasCycles config)
    (htype : config.mSeqType.IsType1) :
    Transports cfg [] (sendAndRecv cfg clocks (masterOf config)) (OnLink config clocks)
      (OnLink config clocks) SameStore :=
  padding_type1 htype ▸ transports_link cfg hcyc

/-- A Type 2 frame has one padding byte. -/
theorem transports_type2 (clocks : Clocks) (hcyc : HasCycles config)
    (htype : config.mSeqType.IsType2) :
    Transports cfg [0x00] (sendAndRecv cfg clocks (masterOf config)) (OnLink config clocks)
      (OnLink config clocks) SameStore :=
  padding_type2 htype ▸ transports_link cfg hcyc

theorem sendRequest_ready (hcyc : HasCycles config) (h : Ready config clocks l)
    (bytes : List UInt8) :
    let r := sendRequest cfg clocks (masterOf config) l bytes
    r.1 = true ∧ Ready config clocks r.2 ∧
    (l.device.dll.isdu.Wired → r.2.device.dll.isdu.Wired) := by
  obtain ⟨hu, _, _, ⟨hr, rfl, -⟩, hw⟩ :=
    sendRequestOn_usable cfg (transports_link cfg hcyc) h.onLink bytes
  exact ⟨hu, hr, hw⟩

/-- **A Type 1 device collects the request of the master.** -/
theorem sendRequest_decoded (hcyc : HasCycles config) (htype : config.mSeqType.IsType1)
    (h : Ready config clocks l)
    (hstart : (isduProcess cfg l.device.host l.device.dll.isdu).2.state.AwaitsStart) (req : Request)
    {data : List UInt8} (hdata : data = req.dataBytes) :
    let r := sendRequest cfg clocks (masterOf config) l (interleaveControl data)
    r.1 = true ∧ Ready config clocks r.2 ∧ r.2.device.dll.isdu.Decoded req ∧
      r.2.device.store = (isduProcess cfg l.device.host l.device.dll.isdu).1.store := by
  obtain ⟨hu, _, _, ⟨hr, rfl, rfl⟩, hst, hdec, -⟩ :=
    sendRequestOn_decoded cfg (transports_type1 cfg clocks hcyc htype) h.onLink hstart req hdata
  exact ⟨hu, hr, hdec, hst⟩

end Cycles

end Iolinki
