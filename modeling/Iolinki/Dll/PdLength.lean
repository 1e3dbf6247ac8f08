import Iolinki.Dll.Effects
import Iolinki.Dll.Recovery

/-!
# Configured and changed process data lengths

`iolink_init` takes over any lengths. With more than 32 bytes of output data
`iolink_pd_output_read` leaves the array `pd_out`, and with more than 32 bytes
of input data the first reply to a Type 1 or Type 2 frame leaves `pd_in`.
`iolink_dll_set_pd_length` refuses such lengths and can be called at any moment:
`lengthMachine` is the device with that function among its calls.

* `config_safe_iff`: the configurations with which every run stays in bounds.
* `set_pd_length_safe`: changes of the lengths at any moment keep the bounds.
-/

namespace Iolinki

open Iolinki.Lib

/-! ## Configurations -/

/-- The calls that exchange process data. -/
def Call.exchangesPd : Call → Bool
  | .process _ | .pdInputUpdate _ _ | .pdOutputRead _ => true
  | _ => false

/-- The input process data of a reply does not fit. -/
def InputTooLong (c : DllCtx) : Prop := pdInMaxSize < c.pdInLenCurrent

theorem pdIn_mem_type12Ops {c : DllCtx} (h : InputTooLong c) :
    .access .pdIn 0 c.pdInLenCurrent ∈ type12Ops c := by
  have hpos : c.pdInLenCurrent > 0 := by
    rw [InputTooLong, pdInMaxSize] at h
    omega
  simp [type12Ops, hpos]

theorem not_ok_pdIn {c : DllCtx} (h : InputTooLong c) :
    ¬ (MemOp.access .pdIn 0 c.pdInLenCurrent).Ok := by
  rw [InputTooLong] at h
  simp only [MemOp.Ok, DllArray.size, not_and]
  omega

/-- A byte that stays in bounds does not lead to OPERATE. -/
theorem ne_operate_rxByte (cfg : BuildConfig) {c : DllCtx} (hin : InputTooLong c)
    (hs : c.state ≠ .operate) {rx : RxByte} (hok : ∀ op ∈ rxOps cfg c rx, op.Ok) :
    (rxByte cfg c rx).1.state ≠ .operate := by
  have ha : (rxAssemble cfg c rx).state ≠ .operate := by
    rw [(link_rxAssemble cfg c rx).1]
    exact hs
  rcases rxByte_cases cfg c rx with ⟨-, he⟩ | ⟨hfull, -, ho⟩
  · rw [he]
    exact ha
  · cases ho with
    | transition _ _ h | sio _ _ h | restart _ _ h =>
      rw [h]
      decide
    | counted _ _ h =>
      rw [h]
      exact ha
    | ignored _ _ h | type0 _ _ h =>
      rw [h, establishedState]
      split_ifs
      · decide
      · exact ha
    | type12 hcrc hk =>
      -- The handler reads the input process data.
      exfalso
      have hin' : InputTooLong (rxAssemble cfg c rx) := by
        rw [InputTooLong, (untouched_rxAssemble cfg c rx).pdInLenCurrent]
        exact hin
      refine not_ok_pdIn hin' (hok _ (List.mem_append_right _ ?_))
      rw [if_pos hfull, frameOps, if_pos hcrc, hk]
      exact List.mem_append_right _ (List.mem_cons_of_mem _ (pdIn_mem_type12Ops hin'))

theorem ne_operate_dllReceive (cfg : BuildConfig) {c : DllCtx} (hin : InputTooLong c)
    (hs : c.state ≠ .operate) {env : CallEnv}
    (hok : ∀ op ∈ noteReceive cfg (rxOps cfg) c env, op.Ok) :
    (dllReceive cfg c env).ctx.state ≠ .operate := by
  have hr : (inactivityReset c env.nowMs).state ≠ .operate := by
    unfold inactivityReset
    split_ifs
    · exact DllState.noConfusion
    · exact hs
  have hg : (callGap cfg (inactivityReset c env.nowMs) env.gapUs).state ≠ .operate :=
    fun hop => hr (operate_of_callGap cfg hop)
  rcases dllReceive_cases cfg c env with ⟨-, -, he⟩ | ⟨-, -, -, he⟩ | ⟨-, -, -, he⟩ | ⟨-, -, hl, he⟩
  · rw [he]
    unfold drainRx
    split_ifs <;> exact hr
  · rw [he]
    unfold detectWakeup
    split_ifs
    · exact DllState.noConfusion
    · exact hr
  · rw [he]
    exact hg
  · rw [he]
    simp only [noteReceive, hl] at hok
    have hin' : InputTooLong (callGap cfg (inactivityReset c env.nowMs) env.gapUs) := by
      rw [InputTooLong, (sameConfig_loopStart cfg hl).pdInLenCurrent]
      exact hin
    refine ((rxMachine cfg).final_of_collect
      (P := fun c => InputTooLong c ∧ c.state ≠ .operate) (fun c rx hc hop => ⟨?_, ?_⟩)
      ⟨hin', hg⟩ hok).2
    · show pdInMaxSize < (rxByte cfg c rx).1.pdInLenCurrent
      rw [(sameConfig_rxByte cfg c rx).pdInLenCurrent]
      exact hc.1
    · exact ne_operate_rxByte cfg hc.1 hc.2 hop

/-- A call that stays in bounds does not lead to OPERATE. -/
theorem ne_operate_deviceStep (cfg : BuildConfig) {d : Device} (hin : InputTooLong d.dll)
    (hs : d.dll.state ≠ .operate) {call : Call} (hok : ∀ op ∈ callOps cfg d call, op.Ok) :
    (deviceStep cfg d call).1.dll.state ≠ .operate := by
  cases call with
  | process env =>
    obtain ⟨_, _, hp⟩ := polled_eq cfg d env
    refine ne_operate_dllReceive cfg ?_ ?_ (List.forall_mem_append.mp hok).1
    · rw [hp]; exact hin
    · rw [hp]; exact hs
  | pdInputUpdate data valid =>
    simp only [deviceStep, pdInputUpdate]
    split_ifs <;> exact hs
  | _ => exact hs

/-- A run that stays in bounds does not lead to OPERATE. -/
theorem ne_operate_of_ok (cfg : BuildConfig) {d : Device} (hin : InputTooLong d.dll)
    (hs : d.dll.state ≠ .operate) {calls : List Call} (hok : ∀ op ∈ memOps cfg d calls, op.Ok) :
    ((deviceMachine cfg).final d calls).dll.state ≠ .operate := by
  refine ((deviceMachine cfg).final_of_collect
    (P := fun d => InputTooLong d.dll ∧ d.dll.state ≠ .operate) (fun d call hd hop => ⟨?_, ?_⟩)
    ⟨hin, hs⟩ hok).2
  · show pdInMaxSize < (deviceStep cfg d call).1.dll.pdInLenCurrent
    rw [(sameConfig_deviceStep cfg d call).pdInLenCurrent]
    exact hd.1
  · exact ne_operate_deviceStep cfg hd.1 hd.2 hop

/-- **The configurations with which every run stays in bounds.** -/
theorem config_safe_iff (cfg : BuildConfig) (config : Config) :
    (∀ (hasSend : Bool) (nowUs : UInt64) (image : Option ParamsNvm) (store : Store)
      (calls : List Call), (∀ call ∈ calls, call.exchangesPd = true) →
      ∀ op ∈ memOps cfg (iolinkInit cfg config hasSend nowUs image store) calls, op.Ok) ↔
    config.pdOutLen ≤ pdOutMaxSize ∧
      (config.mSeqType = .type0 ∨ config.pdInLen ≤ pdInMaxSize) := by
  constructor
  · intro hsafe
    have hout : config.pdOutLen ≤ pdOutMaxSize := by
      have hread := hsafe true 0 none storeInit [.pdOutputRead (pdOutMaxSize + 1)]
        (by simp [Call.exchangesPd])
        (.access .pdOut 0 (min (pdOutMaxSize + 1) config.pdOutLen)) (List.mem_append_left _ (by
          simp [callOps, noteCall, iolinkInit]))
      simp only [MemOp.Ok, DllArray.size] at hread
      omega
    refine ⟨hout, or_iff_not_imp_left.mpr fun htype => Nat.le_of_not_lt fun hlong => ?_⟩
    set d₀ := iolinkInit cfg config true 0 none storeInit
    have hreach : Reaches cfg config true [] d₀ := ⟨0, none, storeInit, rfl⟩
    have hrest : RestInv d₀.dll := reaches_restInv hreach hout
    -- The run to OPERATE passes through the handler of Type 1 and Type 2 frames.
    obtain ⟨envs, hop⟩ := canReach_operate cfg hrest htype rfl
      (fun hd => DllState.noConfusion hd.state)
    have hok : ∀ op ∈ memOps cfg d₀ (envs.map .process), op.Ok := by
      refine hsafe true 0 none storeInit (envs.map .process) fun call hcall => ?_
      obtain ⟨env, -, rfl⟩ := List.mem_map.mp hcall
      rfl
    exact ne_operate_of_ok cfg (d := d₀) hlong DllState.noConfusion hok hop
  · rintro ⟨hout, hin⟩ hasSend nowUs image store calls -
    exact ok_memOps cfg (fits_iolinkInit cfg hin hout hasSend nowUs image store) calls

/-- With 33 bytes of output data the application reads behind `pd_out`, with 33 bytes of input data
    the first reply reads behind `pd_in`, and with 253 bytes of output data the frame length is
    cut. -/
theorem config_unsafe :
    (∃ op ∈ memOps {} (iolinkInit {} ⟨.type11, 0, 0, 33, 0⟩ true 0 none storeInit)
      [.pdOutputRead 33], ¬ op.Ok) ∧
    (∃ op ∈ memOps {} (iolinkInit {} ⟨.type11, 0, 33, 0, 0⟩ true 0 none storeInit)
      [.process (callWith true []), .process (callWith false [0x0F, checksumCk 0x0F 0]),
        .process (callWith false (cyclicFrame 0 0 [] [0]))], ¬ op.Ok) ∧
    (∃ op ∈ memOps {} (iolinkInit {} ⟨.type11, 0, 0, 253, 0⟩ true 0 none storeInit)
      [.process (callWith true []), .process (callWith false [0x0F, checksumCk 0x0F 0]),
        .process (callWith false [0x00])], ¬ op.Ok) := by
  refine ⟨by decide +kernel, by decide +kernel, by decide +kernel⟩

/-! ## `iolink_dll_set_pd_length` -/

/-- `iolink_dll_set_pd_length` (lines 484–492). -/
def dllSetPdLength (c : DllCtx) (pdInLen pdOutLen : UInt8) : DllCtx × Int :=
  if pdInLen.toNat > pdInMaxSize ∨ pdOutLen.toNat > pdOutMaxSize then (c, -1)
  else ({ c with pdInLenCurrent := pdInLen.toNat, pdOutLenCurrent := pdOutLen.toNat }, 0)

/-- A call of the application, or a change of the lengths. -/
inductive LengthCall
  | call (call : Call)
  | setPdLength (pdInLen pdOutLen : UInt8)

/-- One call. -/
def lengthStep (cfg : BuildConfig) (d : Device) : LengthCall → Device × CallOut
  | .call call => deviceStep cfg d call
  | .setPdLength pdInLen pdOutLen =>
    let r := dllSetPdLength d.dll pdInLen pdOutLen
    ({ d with dll := r.1 }, .ret r.2)

/-- The device whose lengths may be changed. -/
def lengthMachine (cfg : BuildConfig) : Machine Device LengthCall CallOut := ⟨lengthStep cfg⟩

/-- What is noted in one call. -/
def noteLengthCall {γ : Type*} (f : Device → Call → List γ) (d : Device) : LengthCall → List γ
  | .call call => f d call
  | .setPdLength _ _ => []

/-- The memory operations of a run. -/
def lengthOps (cfg : BuildConfig) (d : Device) (calls : List LengthCall) : List MemOp :=
  (lengthMachine cfg).collect (noteLengthCall (callOps cfg)) d calls

/-- The contexts in which the receive loop has just stored a byte. -/
def assembledCtxs (cfg : BuildConfig) (d : Device) (calls : List LengthCall) : List DllCtx :=
  (lengthMachine cfg).collect
    (noteLengthCall (noteCall cfg fun c rx => [rxAssemble cfg c rx])) d calls

/-- The lengths fit, also the one of the input data. -/
structure FitsAny (d : Device) : Prop where
  bounded : Bounded d.dll
  pdIn : d.dll.pdInLenCurrent ≤ pdInMaxSize
  pdOut : d.dll.pdOutLen ≤ pdOutMaxSize

theorem FitsAny.fits {d : Device} (h : FitsAny d) : Fits d := ⟨h.bounded, .inr h.pdIn, h.pdOut⟩

theorem fitsAny_dllSetPdLength {d : Device} (h : FitsAny d) (pdInLen pdOutLen : UInt8) :
    FitsAny { d with dll := (dllSetPdLength d.dll pdInLen pdOutLen).1 } := by
  unfold dllSetPdLength
  split_ifs with hlen
  · exact h
  · rw [not_or, Nat.not_lt, Nat.not_lt] at hlen
    exact ⟨⟨hlen.2, h.bounded.odPos, h.bounded.odLe, h.bounded.short, h.bounded.operate,
      h.bounded.type0⟩, hlen.1, h.pdOut⟩

theorem fitsAny_lengthStep (cfg : BuildConfig) {d : Device} (h : FitsAny d) (call : LengthCall) :
    FitsAny (lengthStep cfg d call).1 := by
  cases call with
  | call call =>
    have hf := fits_deviceStep cfg h.fits call
    have hs := (sameConfig_deviceStep cfg d call).pdInLenCurrent
    exact ⟨hf.bounded, hs ▸ h.pdIn, hf.pdOut⟩
  | setPdLength pdInLen pdOutLen => exact fitsAny_dllSetPdLength h pdInLen pdOutLen

/-! ## Replies -/

theorem length_dllHandleOperateType12 (cfg : BuildConfig) {c : DllCtx} {rx : RxByte}
    {reply : List UInt8} (h : (dllHandleOperateType12 cfg c rx).2 = some reply) :
    reply.length = 1 + c.pdInLenCurrent + c.odLen + 1 := by
  obtain ⟨_, _, _, _, he, -⟩ := dllHandleOperateType12_eq cfg c rx
  rw [he] at h
  dsimp only at h
  split_ifs at h
  rw [← Option.some.inj h]
  simp [responseBody, odField]
  omega

/-- A reply has at most 36 bytes. -/
theorem length_reply (cfg : BuildConfig) {c : DllCtx} (hb : Bounded c)
    (hin : c.pdInLenCurrent ≤ pdInMaxSize) {rx : RxByte} {reply : List UInt8}
    (h : (rxByte cfg c rx).2 = some reply) : reply.length ≤ 36 := by
  have hun := untouched_rxAssemble cfg c rx
  have hodl := hb.odLe
  rw [pdInMaxSize] at hin
  simp only [rxByte] at h
  split_ifs at h
  obtain ⟨stats, events, hcyc, -⟩ := cycleStart_eq cfg (rxAssemble cfg c rx) rx.procUs
  simp only [dllHandleFrame, hcyc] at h
  split_ifs at h
  rw [dllAcceptFrame_eq] at h
  dsimp only at h
  cases hk : frameKind (rxAssemble cfg c rx).state (rxAssemble cfg c rx).reqLen
      ((rxAssemble cfg c rx).frameBuf 0) with
  | ignored | transition | refused => rw [hk] at h; cases h
  | type0 =>
    rw [hk] at h
    simp only [dllHandleOperateType0] at h
    split_ifs at h
    rw [← Option.some.inj h]
    simp
  | type12 =>
    rw [hk] at h
    have hlen := length_dllHandleOperateType12 cfg h
    dsimp only at hlen
    rw [hun.pdInLenCurrent, hun.odLen] at hlen
    omega

/-- What holds of every byte that the receive loop of a fitting device reads. -/
theorem noteCall_induct (cfg : BuildConfig) {γ : Type*} {f : DllCtx → RxByte → List γ}
    {R : γ → Prop}
    (hnote : ∀ c rx, Bounded c → c.pdInLenCurrent ≤ pdInMaxSize → ∀ x ∈ f c rx, R x) {d : Device}
    (h : FitsAny d) (call : Call) : ∀ x ∈ noteCall cfg f d call, R x := by
  cases call with
  | process env =>
    have hb := (bounded_dllReceive cfg (bounded_polled cfg h.bounded env) env).2
    have hin : (dllPollDiagnostics cfg (deviceIsduProcess cfg d).dll env).pdInLenCurrent ≤
        pdInMaxSize := by
      obtain ⟨_, _, hp⟩ := polled_eq cfg d env
      rw [hp]
      exact h.pdIn
    refine noteReceive_induct cfg (Q := fun c => Bounded c ∧ c.pdInLenCurrent ≤ pdInMaxSize)
      (fun c rx hc => ⟨bounded_rxByte cfg hc.1 rx, ?_⟩) (fun c rx hc => hnote c rx hc.1 hc.2)
      (fun c' hc' => ⟨hb c' hc', ?_⟩)
    · rw [(sameConfig_rxByte cfg c rx).pdInLenCurrent]
      exact hc.2
    · rw [(sameConfig_loopStart cfg hc').pdInLenCurrent]
      exact hin
  | _ => exact List.forall_mem_nil _

theorem length_sent (cfg : BuildConfig) {d : Device} (h : FitsAny d) (call : LengthCall) :
    ∀ reply ∈ (lengthStep cfg d call).2.sent, reply.length ≤ 36 := by
  cases call with
  | setPdLength _ _ => exact List.forall_mem_nil _
  | call call =>
    have hnote := noteCall_induct cfg (f := fun c rx => (rxByte cfg c rx).2.toList)
      (R := fun reply => reply.length ≤ 36)
      (fun c rx hb hin reply hr => length_reply cfg hb hin (Option.mem_toList.mp hr)) h call
    cases call with
    | process env =>
      have hs := sent_eq_noteReceive cfg
        (dllPollDiagnostics cfg (deviceIsduProcess cfg d).dll env) env
      intro reply hr
      refine hnote reply ?_
      rw [noteCall, ← hs]
      exact hr
    | _ => exact List.forall_mem_nil _

theorem sentFrames_eq (cfg : BuildConfig) (d : Device) (calls : List LengthCall) :
    sentFrames ((lengthMachine cfg).outputs d calls) =
      (lengthMachine cfg).collect (fun d call => (lengthStep cfg d call).2.sent) d calls := by
  induction calls generalizing d with
  | nil => rfl
  | cons call calls ih =>
    rw [Machine.outputs_cons, Machine.collect_cons, ← ih]
    rfl

/-- **Changes of the lengths at any moment keep the bounds.** In every run from `iolink_init` with
    lengths of at most 32 bytes, in which `iolink_dll_set_pd_length` may be called between any two
    calls, every memory operation is in bounds; while a frame is assembled, it is not longer than
    `req_len`, which is at most 37, and the branch for a full buffer is not taken; and every reply
    has at most 36 bytes. -/
theorem set_pd_length_safe (cfg : BuildConfig) (config : Config) (hin : config.pdInLen ≤ 32)
    (hout : config.pdOutLen ≤ 32) (hasSend : Bool) (nowUs : UInt64) (image : Option ParamsNvm)
    (store : Store) (calls : List LengthCall) :
    let d₀ := iolinkInit cfg config hasSend nowUs image store
    let d := (lengthMachine cfg).final d₀ calls
    (0 < d.dll.frameIndex → d.dll.frameIndex ≤ d.dll.reqLen ∧ d.dll.reqLen ≤ 37) ∧
    (∀ c ∈ assembledCtxs cfg d₀ calls,
      0 < c.frameIndex ∧ c.frameIndex ≤ c.reqLen ∧ c.reqLen ≤ 37) ∧
    (∀ op ∈ lengthOps cfg d₀ calls, op.Ok) ∧
    (∀ reply ∈ sentFrames ((lengthMachine cfg).outputs d₀ calls), reply.length ≤ 36) := by
  intro d₀ d
  have hinit : FitsAny d₀ := ⟨bounded_iolinkInit cfg hout hasSend nowUs image store, hin, hout⟩
  have hstep : ∀ (d : Device) (call : LengthCall), FitsAny d →
      FitsAny ((lengthMachine cfg).step d call).1 := fun _ call hd => fitsAny_lengthStep cfg hd call
  have hfinal : FitsAny d := (lengthMachine cfg).final_invariant hstep hinit calls
  refine ⟨fun h0 => ?_, ?_, ?_, ?_⟩
  · obtain ⟨hlt, hle⟩ := hfinal.bounded.short h0
    exact ⟨Nat.le_of_lt hlt, hle⟩
  · refine (lengthMachine cfg).collect_induct hstep (fun d call hd => ?_) hinit calls
    cases call with
    | call call =>
      refine noteCall_induct cfg (fun c rx hb _ x hx => ?_) hd call
      rw [List.mem_singleton.mp hx]
      have ha := assembled_rxAssemble cfg hb rx
      exact ⟨ha.started, ha.size⟩
    | setPdLength _ _ => exact List.forall_mem_nil _
  · refine (lengthMachine cfg).collect_induct hstep (fun d call hd => ?_) hinit calls
    cases call with
    | call call => exact ok_callOps cfg hd.fits call
    | setPdLength _ _ => exact List.forall_mem_nil _
  · rw [sentFrames_eq]
    exact (lengthMachine cfg).collect_induct hstep (fun d call hd => length_sent cfg hd call) hinit
      calls

/-- A change to the maximum after the first byte of a cyclic frame. -/
def changeMidFrame : List LengthCall :=
  (startupCalls .type1V).map .call ++ [.call (.process (callWith false [0x00])), .setPdLength 32 32]

/-- The device after it. -/
def changedMidFrame : Device :=
  (lengthMachine {}).final (iolinkInit {} (sampleConfig .type1V) true 0 none storeInit)
  changeMidFrame

theorem set_pd_length_safe_mid_frame :
    changedMidFrame.dll.pdOutLenCurrent = 32 ∧ changedMidFrame.dll.frameIndex = 1 ∧
      changedMidFrame.dll.frameIndex ≤ changedMidFrame.dll.reqLen ∧
      changedMidFrame.dll.reqLen ≤ 37 := by
  have hidx : changedMidFrame.dll.frameIndex = 1 := by decide +kernel
  have h := (set_pd_length_safe {} (sampleConfig .type1V) (by decide) (by decide) true 0 none
    storeInit changeMidFrame).1
  refine ⟨by decide +kernel, hidx, h ?_⟩
  show 0 < changedMidFrame.dll.frameIndex
  rw [hidx]
  decide

end Iolinki
