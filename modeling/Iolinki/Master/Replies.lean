import Iolinki.CrcRemainder
import Iolinki.Dll.PdUpdates
import Iolinki.Master.Cycle

/-!
# The replies of a device and their parser

Whatever a device sends in whatever run is one of two formats: an OD byte with its
checksum, or status, process data and OD bytes with theirs (`DeviceReply`). The
parser of the master accepts all of it and finds the fields where the device has put
them. In the short format it also accepts every other OD byte, since any six-bit
checksum is explained by some status.

* `reply_of_rxByte`, `replies_of_process`: what is sent in one call.
* `replies_parse`: what is sent in a run, and what the parser makes of it.
* `findStatus_isSome_iff`: what the parser accepts in the short format.
-/

namespace Iolinki

open Iolinki.Lib

/-! ## What the device sends -/

/-- The two formats of a reply: an OD byte, or a status byte with the toggle bit, the
    process data `pd` and `odLen` OD bytes. -/
inductive DeviceReply (pd : List UInt8) (toggle : Bool) (odLen : ℕ) : List UInt8 → Prop
  | type0 (od : UInt8) : DeviceReply pd toggle odLen [od, checksumCk od 0]
  | type12 (status : UInt8) (od : List UInt8) (hod : od.length = odLen)
    (hbit : toggleBit (cyclicReply status pd od) = toggle) :
    DeviceReply pd toggle odLen (cyclicReply status pd od)

/-- The replies of a device are built from its process data. -/
abbrev ReplyOf (c : DllCtx) : List UInt8 → Prop :=
  DeviceReply (slice c.pdIn 0 c.pdInLenCurrent) c.pdInToggle c.odLen

section Replies

variable (cfg : BuildConfig) {c : DllCtx} {reply : List UInt8}

theorem reply_of_dllHandleOperateType0 (mc : UInt8)
    (h : reply ∈ (dllHandleOperateType0 c mc).2) : ReplyOf c reply := by
  unfold dllHandleOperateType0 at h
  dsimp only at h
  split_ifs at h
  · rw [← Option.mem_some_iff.mp h]
    exact .type0 _
  · cases h

theorem reply_of_dllHandleOperateType12 (rx : RxByte)
    (h : reply ∈ (dllHandleOperateType12 cfg c rx).2) :
    ReplyOf c reply := by
  obtain ⟨_, _, _, _, he, -⟩ := dllHandleOperateType12_eq cfg c rx
  rw [he] at h
  dsimp only at h
  split_ifs at h
  · rw [← Option.mem_some_iff.mp h]
    refine .type12 (statusByte c) _ ?_ (toggleBit_responseBody c _ _)
    rw [Machine.length_outputs]
    exact length_slice _ _ _
  · cases h

/-- A complete frame. -/
theorem reply_of_dllHandleFrame (rx : RxByte) (h : reply ∈ (dllHandleFrame cfg c rx).2) :
    ReplyOf c reply := by
  obtain ⟨stats, events, hcyc, -⟩ := cycleStart_eq cfg c rx.procUs
  unfold dllHandleFrame at h
  rw [hcyc] at h
  dsimp only at h
  split_ifs at h
  · rw [dllAcceptFrame_eq] at h
    dsimp only at h
    cases hk : frameKind c.state c.reqLen (c.frameBuf 0) with
    | ignored | transition | refused =>
      rw [hk] at h
      cases h
    | type0 =>
      rw [hk] at h
      exact reply_of_dllHandleOperateType0 _ h
    | type12 =>
      rw [hk] at h
      exact reply_of_dllHandleOperateType12 cfg (c := { c with
        stats := stats, events := events, lastCycleStartUs := rx.procUs, state := .operate }) rx h
  · cases h

/-- One received byte. -/
theorem reply_of_rxByte (rx : RxByte) (h : reply ∈ (rxByte cfg c rx).2) :
    ReplyOf c reply := by
  have hkept := kept_rxAssemble cfg c rx
  have hconfig := (untouched_rxAssemble cfg c rx).toSameConfig
  unfold rxByte at h
  dsimp only at h
  split_ifs at h
  · have hreply := reply_of_dllHandleFrame cfg rx h
    unfold ReplyOf at hreply
    rw [hkept.pdIn, hkept.pdInToggle, hconfig.pdInLenCurrent, hconfig.odLen] at hreply
    exact hreply
  · cases h

/-- A burst: the process data do not change on the way. -/
theorem replies_of_rxs (rxs : List RxByte)
    (h : reply ∈ ((rxMachine cfg).outputs c rxs).filterMap id) :
    ReplyOf c reply := by
  induction rxs generalizing c with
  | nil => cases h
  | cons rx rxs ih =>
    obtain ⟨out, hmem, hout⟩ := List.mem_filterMap.mp h
    rcases List.mem_cons.mp hmem with rfl | hmem
    · exact reply_of_rxByte cfg rx hout
    · have hnext := ih (c := (rxByte cfg c rx).1) (List.mem_filterMap.mpr ⟨out, hmem, hout⟩)
      unfold ReplyOf at hnext
      rw [(kept_rxByte cfg c rx).pdIn, (kept_rxByte cfg c rx).pdInToggle,
        (sameConfig_rxByte cfg c rx).pdInLenCurrent, (sameConfig_rxByte cfg c rx).odLen] at hnext
      exact hnext

/-- **One call of `iolink_process`.** -/
theorem replies_of_process (d : Device) (env : CallEnv)
    (h : reply ∈ (iolinkProcess cfg d env).2.sent) :
    ReplyOf d.dll reply := by
  obtain ⟨_, _, hp⟩ := polled_eq cfg d env
  unfold iolinkProcess at h
  dsimp only at h
  generalize hc : dllPollDiagnostics cfg (deviceIsduProcess cfg d).dll env = c at h hp
  have hkept := (kept_inactivityReset c env.nowMs).trans
    (kept_callGap cfg (inactivityReset c env.nowMs) env.gapUs)
  have hconfig := (untouched_inactivityReset c env.nowMs).toSameConfig.trans
    (untouched_callGap cfg (inactivityReset c env.nowMs) env.gapUs).toSameConfig
  rcases dllReceive_cases cfg c env with ⟨-, -, he⟩ | ⟨-, -, -, he⟩ | ⟨-, -, -, he⟩ | ⟨-, -, -, he⟩
  · rw [he] at h
    cases h
  · rw [he] at h
    cases h
  · rw [he] at h
    cases h
  · rw [he] at h
    have hreply := replies_of_rxs cfg env.rx h
    unfold ReplyOf at hreply
    rw [hkept.pdIn, hkept.pdInToggle, hconfig.pdInLenCurrent, hconfig.odLen, hp] at hreply
    exact hreply

/-- A run, whatever process data the application sets on the way. -/
theorem replies_of_run (d : Device) (calls : List Call)
    (h : reply ∈ sentFrames ((deviceMachine cfg).outputs d calls)) :
    ∃ (pdIn : ℕ → UInt8) (toggle : Bool),
      DeviceReply (slice pdIn 0 d.dll.pdInLenCurrent) toggle d.dll.odLen reply := by
  induction calls generalizing d with
  | nil => cases h
  | cons call calls ih =>
    have hconfig := sameConfig_deviceStep cfg d call
    rcases List.mem_append.mp h with hnow | hlater
    · cases call with
      | process env => exact ⟨d.dll.pdIn, d.dll.pdInToggle, replies_of_process cfg d env hnow⟩
      | _ => cases hnow
    · obtain ⟨pdIn, toggle, hreply⟩ := ih (deviceStep cfg d call).1 hlater
      rw [hconfig.pdInLenCurrent, hconfig.odLen] at hreply
      exact ⟨pdIn, toggle, hreply⟩

end Replies

/-! ## What the parser accepts -/

/-- Every checksum of six bits is the one of some status, whatever the OD byte. -/
theorem exists_status (od ck : UInt8) (hck : ck < 64) :
    ∃ status : UInt8, crc6 [status, od] = ck := by
  have hzero : ∀ t : UInt8, t < 64 → ∃ status : UInt8, crc6 [status, 0] = t := by
    decide +kernel
  have hlow : ck ^^^ crc6 [0, 0] ^^^ crc6 [0, od] < 64 := by
    rw [UInt8.lt_iff_toNat_lt] at hck ⊢
    rw [UInt8.toNat_xor, UInt8.toNat_xor]
    exact Nat.xor_lt_two_pow (n := 6) (Nat.xor_lt_two_pow hck (crc6_lt [0, 0])) (crc6_lt [0, od])
  obtain ⟨status, hstatus⟩ := hzero _ hlow
  have hxor := crc6_xor (d := [status, 0]) (e := [0, 0]) (f := [0, od]) rfl rfl
  rw [hstatus] at hxor
  refine ⟨status, ?_⟩
  have hbytes : List.zipWith (· ^^^ ·) (List.zipWith (· ^^^ ·) [status, 0] [0, 0]) [0, od] =
      [status, od] := by
    show [(status ^^^ 0) ^^^ 0, (0 ^^^ 0) ^^^ od] = [status, od]
    rw [UInt8.xor_zero, UInt8.xor_zero, UInt8.xor_zero, UInt8.zero_xor]
  rw [hbytes] at hxor
  rw [← hxor]
  generalize crc6 [0, 0] = a
  generalize crc6 [0, od] = b
  calc ck ^^^ a ^^^ b ^^^ a ^^^ b
      = ck ^^^ (a ^^^ a) ^^^ (b ^^^ b) := by ac_rfl
    _ = ck := by rw [UInt8.xor_self, UInt8.xor_self, UInt8.xor_zero, UInt8.xor_zero]

/-- **The parser in the short format**: `checksum_ok` says only that the checksum has
    six bits. -/
theorem findStatus_isSome_iff (od checksum : UInt8) :
    (findStatus od checksum).isSome = true ↔ checksum < 64 := by
  unfold findStatus
  rw [List.find?_isSome]
  constructor
  · rintro ⟨status, -, hstatus⟩
    rw [decide_eq_true_eq, calculateChecksumType0, calculateCrc6_eq] at hstatus
    rw [UInt8.lt_iff_toNat_lt, ← hstatus]
    exact crc6_lt _
  · intro hck
    obtain ⟨status, hstatus⟩ := exists_status od checksum hck
    refine ⟨status.toNat, List.mem_range.mpr status.toNat_lt, ?_⟩
    rw [decide_eq_true_eq, calculateChecksumType0, calculateCrc6_eq, UInt8.ofNat_toNat, hstatus]

/-- What the parser makes of a reply. -/
theorem deviceResponse_reply {pd reply : List UInt8} {toggle : Bool} {odLen : ℕ}
    (h : DeviceReply pd toggle odLen reply) (hpos : 1 ≤ odLen) (hmax : odLen ≤ 2) :
    (deviceResponse reply odLen).valid = true ∧
      (deviceResponse reply odLen).checksumOk = some true ∧
      (reply.length = 2 ∨
        reply.length = pd.length + odLen + 2 ∧ (deviceResponse reply odLen).payload = some pd) := by
  cases h with
  | type0 od =>
    have hsome : (findStatus od (checksumCk od 0)).isSome = true :=
      (findStatus_isSome_iff od _).mpr (crc6_lt [od, 0])
    refine ⟨rfl, congrArg some hsome, .inl rfl⟩
  | type12 status od hod _ =>
    rw [deviceResponse_cyclicReply status pd hod hpos hmax]
    refine ⟨rfl, rfl, .inr ⟨?_, rfl⟩⟩
    simp only [cyclicReply, List.length_cons, List.length_append, List.length_nil, hod]

/-- **Everything a device sends is accepted.** In every run each frame that is sent
    fits the reply buffer, passes the parser of the master, its checksum included, and is an
    OD byte with its checksum or carries as many bytes of process data as the configuration
    says. -/
theorem replies_parse (cfg : BuildConfig) (config : Config) (hfit : PdFits config)
    (hasSend : Bool) (nowUs : UInt64) (image : Option ParamsNvm) (store : Store)
    (calls : List Call) :
    ∀ reply ∈ sentFrames ((deviceMachine cfg).outputs
        (iolinkInit cfg config hasSend nowUs image store) calls),
      let odLen := getOdLen config.mSeqType
      reply.length ≤ DllArray.size .resp ∧ (deviceResponse reply odLen).valid = true ∧
        (deviceResponse reply odLen).checksumOk = some true ∧
        (reply.length = 2 ∨ reply.length = config.pdInLen + odLen + 2 ∧
          ((deviceResponse reply odLen).payload.map List.length) = some config.pdInLen) := by
  intro reply hmem odLen
  obtain ⟨pdIn, _, hreply⟩ := replies_of_run cfg _ calls hmem
  have hod : odLen = odLenOf config.mSeqType := getOdLen_eq config.mSeqType
  obtain ⟨hvalid, hck, hlen⟩ := deviceResponse_reply hreply (odLenOf_pos config.mSeqType)
    (odLenOf_le config.mSeqType)
  rw [hod]
  refine ⟨?_, hvalid, hck, hlen.imp_right fun hlong => ?_⟩
  · have hin := hfit.pdIn
    have hle := odLenOf_le config.mSeqType
    rw [show DllArray.size .resp = 37 from rfl]
    rcases hlen with hshort | ⟨hlong, -⟩
    · omega
    · rw [length_slice] at hlong
      change reply.length = config.pdInLen + odLenOf config.mSeqType + 2 at hlong
      omega
  rw [length_slice] at hlong
  refine ⟨hlong.1, ?_⟩
  rw [show (deviceResponse reply (odLenOf config.mSeqType)).payload = _ from hlong.2,
    Option.map_some, length_slice]
  rfl

theorem replies_parse_startup :
    (deviceResponse [0x20, 0x00, 0x00, 0x2C] 1).checksumOk = some true ∧
      (deviceResponse [0x20, 0x00, 0x00, 0x2C] 1).payload.map List.length = some 1 := by
  have h := replies_parse {} (sampleConfig .type11) ⟨by decide, by decide⟩ true 0 none storeInit
    (startupCalls .type11) [0x20, 0x00, 0x00, 0x2C] (by decide +kernel)
  exact ⟨h.2.2.1, (h.2.2.2.resolve_left (by decide)).2⟩

end Iolinki
