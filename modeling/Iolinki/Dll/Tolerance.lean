import Iolinki.Dll.Fallback
import Iolinki.Dll.Interference

/-!
# Isolated errors in OPERATE

A device in OPERATE receives frames of the expected length, some of them with a
wrong checksum or an MC byte that is refused. It counts such a frame and sends no
reply. As long as fewer than `sio_fallback_threshold` of them come in a row, the
device stays in OPERATE, and every byte is put into the frame to which it belongs
(`Tolerant`), however the bytes are grouped into calls.

* `tolerant_rxByte`: one received byte.
* `tolerant_deviceStep`: one call of the application.
* `operate_tolerates`: a whole run.
-/

namespace Iolinki

open Iolinki.Lib

/-! ## Failing frames -/

/-- A frame that a device in OPERATE counts as a failure: the checksum is wrong,
    or the MC byte is the transition command or on a forbidden channel. -/
def Failing (frame : List UInt8) : Prop :=
  checksumOk frame = false ∨ frame.getD 0 0 = mcTransitionCommand ∨
    forbiddenChannel (frame.getD 0 0) = true

instance : DecidablePred Failing := fun _ => inferInstanceAs (Decidable (_ ∨ _ ∨ _))

section Frame

variable (cfg : BuildConfig) {config : Config} {c : DllCtx} {frame : List UInt8}

theorem failed_iff_failing (hstate : c.state = .operate) (hreq : 2 < c.reqLen) :
    Failed c ↔ Failing (frameOf c) := by
  unfold Failed Failing
  rw [frameCrcOk_eq (by omega), frameOf_head (by omega), hstate]
  refine or_congr_right ?_
  simp only [frameKind]
  split_ifs with hmc h2
  · exact ⟨fun _ => hmc, fun _ => rfl⟩
  all_goals exact ⟨False.elim, fun hm => absurd hm hmc⟩

theorem failed_iff (h : Loaded config c frame) : Failed c ↔ Failing frame := by
  have hpos := le_frameLen config
  rw [failed_iff_failing h.state (by rw [h.reqLen]; omega), h.frame]

/-- A failing frame gets no reply, every other frame does. -/
theorem reply_none_iff (h : Loaded config c frame) (hsend : c.hasSend = true) (rx : RxByte) :
    (dllHandleFrame cfg c rx).2 = none ↔ Failing frame := by
  by_cases hf : Failing frame
  · obtain ⟨_, _, he⟩ := dllHandleFrame_of_failed cfg ((failed_iff h).mpr hf) rx
    rw [he]
    exact ⟨fun _ => hf, fun _ => rfl⟩
  · have hok : checksumOk frame = true := by
      by_contra hbad
      exact hf (.inl (Bool.eq_false_iff.mpr hbad))
    have hlen : frame.length = frameLen config := by rw [← h.frame, length_frameOf, h.reqLen]
    rw [dllHandleFrame_of_loaded cfg h ⟨hlen, hok⟩, if_neg fun hmc => hf (.inr hmc)]
    have hsend' : (cycleStart cfg c rx.procUs).hasSend = true := by
      obtain ⟨_, _, he, -⟩ := cycleStart_eq cfg c rx.procUs
      rw [he]
      exact hsend
    refine ⟨fun hnone => ?_, fun hfail => absurd hfail hf⟩
    simp only [dllHandleOperateType12, hsend', if_true, reduceCtorEq] at hnone

/-- A frame that does not switch to SIO mode leaves a device in OPERATE where it
    is. -/
theorem link_of_not_switches (hstate : c.state = .operate) (hno : ¬ SwitchesToSio c) (rx : RxByte) :
    (dllHandleFrame cfg c rx).1.state = .operate ∧
      (dllHandleFrame cfg c rx).1.phyMode = c.phyMode := by
  cases frameOutcome_dllHandleFrame cfg c rx with
  | ignored _ _ state phyMode | type0 _ _ state phyMode =>
    rw [state, hstate]
    exact ⟨rfl, phyMode⟩
  | type12 _ _ state phyMode => exact ⟨state, phyMode⟩
  | counted _ _ state phyMode => exact ⟨state.trans hstate, phyMode⟩
  | transition _ kind =>
    rw [hstate] at kind
    simp only [frameKind] at kind
    split_ifs at kind
  | sio bad last => exact absurd ⟨bad, last⟩ hno
  | restart _ below => exact absurd hstate below.1

end Frame

/-! ## Exchanges -/

/-- A complete frame and the reply to it. -/
def exchangeAt (cfg : BuildConfig) (c : DllCtx) (rx : RxByte) :
    List (List UInt8 × Option (List UInt8)) :=
  if frameComplete (rxAssemble cfg c rx) then
    [(frameOf (rxAssemble cfg c rx), (rxByte cfg c rx).2)]
  else []

/-- The complete frames of a run with the replies to them. -/
def frameLog (cfg : BuildConfig) (d : Device) (calls : List Call) :
    List (List UInt8 × Option (List UInt8)) :=
  (deviceMachine cfg).collect (noteCall cfg (exchangeAt cfg)) d calls

theorem filterMap_exchangeAt (cfg : BuildConfig) (c : DllCtx) (rx : RxByte) :
    (exchangeAt cfg c rx).filterMap Prod.snd = (rxByte cfg c rx).2.toList := by
  rcases rxByte_cases cfg c rx with ⟨hno, he⟩ | ⟨hfull, -⟩
  · rw [exchangeAt, if_neg (by rw [hno]; exact Bool.false_ne_true), he]
    rfl
  · rw [exchangeAt, if_pos hfull]
    cases (rxByte cfg c rx).2 <;> rfl

theorem filterMap_noteCall (cfg : BuildConfig) (d : Device) (call : Call) :
    (noteCall cfg (exchangeAt cfg) d call).filterMap Prod.snd = (deviceStep cfg d call).2.sent := by
  cases call with
  | process env =>
    show _ = (dllReceive cfg (dllPollDiagnostics cfg (deviceIsduProcess cfg d).dll env) env).sent
    rw [sent_eq_noteReceive]
    simp only [noteCall, noteReceive]
    cases loopStart cfg (dllPollDiagnostics cfg (deviceIsduProcess cfg d).dll env) env with
    | none => rfl
    | some c =>
      simp only [Machine.filterMap_collect, filterMap_exchangeAt]
  | _ => rfl

/-- Nothing is sent but the replies to complete frames. -/
theorem sentFrames_eq_replies (cfg : BuildConfig) (d : Device) (calls : List Call) :
    sentFrames ((deviceMachine cfg).outputs d calls) =
      (frameLog cfg d calls).filterMap Prod.snd := by
  rw [frameLog, Machine.filterMap_collect]
  induction calls generalizing d with
  | nil => rfl
  | cons call calls ih =>
    rw [Machine.outputs_cons, Machine.collect_cons, ← ih, filterMap_noteCall]
    rfl

/-! ## One byte -/

/-- The device stands in OPERATE and has received the frames of the log, out of
    `frames`, and a part of the next one; `fut` is still to come. The fallback
    counter is the length of a row of failures at the end of the log. -/
structure Tolerant (config : Config) (thr : ℕ) (frames : List (List UInt8)) (c : DllCtx)
    (log : List (List UInt8 × Option (List UInt8))) (fut : List UInt8) : Prop where
  phyMode : c.phyMode = .sdci
  hasSend : c.hasSend = true
  enforceTiming : c.enforceTiming = false
  threshold : c.sioFallbackThreshold = thr
  row : EndsIn Failing c.fallbackCount (log.map Prod.fst)
  replies : ∀ x ∈ log, x.2 = none ↔ Failing x.1
  aligned : ∃ part rest, MidFrame config c part ∧ log.map Prod.fst ++ rest = frames ∧
    part ++ fut = rest.flatten

/-- When nothing is to come, all frames have been received: a further one would need
    more bytes than the part that is left. -/
theorem Tolerant.all_received {config : Config} {thr : ℕ} {frames : List (List UInt8)} {c : DllCtx}
    {log : List (List UInt8 × Option (List UInt8))} (h : Tolerant config thr frames c log [])
    (hframes : ∀ f ∈ frames, f.length = frameLen config) : log.map Prod.fst = frames := by
  obtain ⟨part, rest, hmid, hlog, hrest⟩ := h.aligned
  cases rest with
  | nil =>
    rw [List.append_nil] at hlog
    exact hlog
  | cons f rest =>
    have hf := hframes f (hlog ▸ List.mem_append_right _ List.mem_cons_self)
    have hsize := congrArg List.length hrest
    have hshort := hmid.short
    rw [List.append_nil, List.flatten_cons, List.length_append] at hsize
    omega

/-- Fewer than `thr` failing frames in a row. -/
def FewInARow (thr : ℕ) (frames : List (List UInt8)) : Prop :=
  ∀ row, row <:+: frames → (∀ f ∈ row, Failing f) → row.length < thr

section Byte

variable (cfg : BuildConfig) {config : Config} (htype : config.mSeqType ≠ .type0)
  (hlen : config.pdOutLen ≤ 32) {thr : ℕ} {frames : List (List UInt8)} {c : DllCtx}
  {log : List (List UInt8 × Option (List UInt8))} {part fut : List UInt8} {rx : RxByte}

include htype hlen in
/-- A byte that completes a frame is noted with the frame and its reply. -/
theorem exchangeAt_of_full (h : MidFrame config c part) (hon : OnTime c rx)
    (hfull : part.length + 1 = frameLen config) :
    exchangeAt cfg c rx =
      [(part ++ [rx.byte], (dllHandleFrame cfg (c.stored config rx) rx).2)] := by
  have hasm := rxAssemble_of_midFrame cfg htype hlen h hon
  rw [exchangeAt, hasm, if_pos (h.frameComplete_stored hfull), (h.loaded hfull).frame,
    rxByte_of_full cfg htype hlen h hon hfull]

include htype hlen in
theorem exchangeAt_of_more (h : MidFrame config c part) (hon : OnTime c rx)
    (hmore : part.length + 1 < frameLen config) : exchangeAt cfg c rx = [] := by
  rw [exchangeAt, rxAssemble_of_midFrame cfg htype hlen h hon, if_neg]
  intro hcomplete
  have hle : frameLen config ≤ c.frameIndex + 1 := (frameComplete_iff.mp hcomplete).2
  rw [h.frameIndex] at hle
  omega

/-- The counter after a complete frame. -/
theorem row_dllHandleFrame {done : List (List UInt8)} {frame : List UInt8}
    (h : Loaded config c frame) (hsend : c.hasSend = true)
    (hrow : EndsIn Failing c.fallbackCount done) (hno : ¬ SwitchesToSio c) :
    EndsIn Failing (dllHandleFrame cfg c rx).1.fallbackCount (done ++ [frame]) := by
  have hcount := countAfter_dllHandleFrame cfg c rx
  have hpos := le_frameLen config
  by_cases hf : Failing frame
  · rw [hcount.failed ((failed_iff h).mpr hf) hno]
    exact (hrow.concat hf).of_le (Nat.mod_le _ _)
  · have hok : ¬ Failed c := fun hbad => hf ((failed_iff h).mp hbad)
    have hkeep : ¬ KeepsCount c := by
      rintro ⟨-, hkind⟩
      rw [h.state, h.reqLen, hsend] at hkind
      simp only [frameKind] at hkind
      split_ifs at hkind with hmc h2
      · simp at hkind
      · omega
      · simp at hkind
    rw [hcount.reset hok hkeep]
    exact endsIn_zero _ _

/-- The frame that a byte completes is the next one. -/
theorem rest_of_full {rest : List (List UInt8)} {b : UInt8}
    (hframes : ∀ f ∈ rest, f.length = frameLen config)
    (hfull : part.length + 1 = frameLen config) (hbytes : part ++ b :: fut = rest.flatten) :
    ∃ rest', rest = (part ++ [b]) :: rest' ∧ fut = rest'.flatten := by
  cases rest with
  | nil => simp at hbytes
  | cons f rest =>
    have hf : (part ++ [b]).length = f.length := by
      rw [List.length_append, hframes f List.mem_cons_self]
      exact hfull
    rw [← List.singleton_append, ← List.append_assoc, List.flatten_cons] at hbytes
    obtain ⟨rfl, hrest⟩ := List.append_inj hbytes hf
    exact ⟨rest, rfl, hrest⟩

/-- Too few failures have come in a row for a switch to SIO mode. -/
theorem not_switchesToSio {done rest : List (List UInt8)} {frame : List UInt8}
    (hfew : FewInARow thr (done ++ frame :: rest)) (h : Loaded config c frame)
    (hthr : c.sioFallbackThreshold = thr) (hrow : EndsIn Failing c.fallbackCount done) :
    ¬ SwitchesToSio c := by
  rintro ⟨hf, hlast⟩
  obtain ⟨row, hinfix, hsize, hall⟩ := (hrow.concat ((failed_iff h).mp hf)).exists_row rest
  rw [List.append_assoc, List.singleton_append] at hinfix
  have hlt := hfew row hinfix hall
  have hmod := Nat.mod_le (c.fallbackCount + 1) 256
  omega

include htype hlen in
/-- **One received byte.** -/
theorem tolerant_rxByte (hframes : ∀ f ∈ frames, f.length = frameLen config)
    (hfew : FewInARow thr frames) (h : Tolerant config thr frames c log (rx.byte :: fut)) :
    Tolerant config thr frames (rxByte cfg c rx).1 (log ++ exchangeAt cfg c rx) fut := by
  obtain ⟨part, rest, hmid, rfl, hbytes⟩ := h.aligned
  have hon : OnTime c rx := by
    refine ⟨hmid.state, fun _ hgap => ?_⟩
    rw [h.enforceTiming] at hgap
    exact Bool.false_ne_true hgap.1
  by_cases hmore : part.length + 1 < frameLen config
  · rw [exchangeAt_of_more cfg htype hlen hmid hon hmore, List.append_nil,
      rxByte_of_more cfg htype hlen hmid hon hmore]
    refine ⟨h.phyMode, h.hasSend, h.enforceTiming, h.threshold, h.row, h.replies, ?_⟩
    refine ⟨part ++ [rx.byte], rest, hmid.stored hmore, rfl, ?_⟩
    rw [List.append_assoc]
    exact hbytes
  · have hfull : part.length + 1 = frameLen config :=
      Nat.le_antisymm hmid.short (Nat.not_lt.mp hmore)
    have hload : Loaded config (c.stored config rx) (part ++ [rx.byte]) := hmid.loaded hfull
    obtain ⟨rest, rfl, rfl⟩ :=
      rest_of_full (fun f hf => hframes f (List.mem_append_right _ hf)) hfull hbytes
    have hno := not_switchesToSio hfew hload h.threshold h.row
    obtain ⟨hstate, hmode⟩ := link_of_not_switches cfg hload.state hno rx
    have hbyte := rxByte_of_full cfg htype hlen hmid hon hfull
    have hnext : MidFrame config (rxByte cfg c rx).1 [] :=
      midFrame_rxByte cfg htype hlen hmid hon hfull (by rw [hbyte]; exact hstate)
    rw [exchangeAt_of_full cfg htype hlen hmid hon hfull]
    refine ⟨?_, (sameConfig_rxByte cfg c rx).hasSend.trans h.hasSend,
      (kept_rxByte cfg c rx).enforceTiming.trans h.enforceTiming,
      (kept_rxByte cfg c rx).threshold.trans h.threshold, ?_, ?_, [], rest, hnext, ?_, rfl⟩
    · rw [hbyte]
      exact hmode.trans h.phyMode
    · rw [hbyte, List.map_append]
      exact row_dllHandleFrame cfg hload h.hasSend h.row hno
    · intro x hx
      rcases List.mem_append.mp hx with hx | hx
      · exact h.replies x hx
      · rw [List.mem_singleton.mp hx]
        exact reply_none_iff cfg hload h.hasSend rx
    · rw [List.map_append, List.append_assoc]
      rfl

include htype hlen in
/-- A burst. -/
theorem tolerant_rxs (hframes : ∀ f ∈ frames, f.length = frameLen config)
    (hfew : FewInARow thr frames) {rxs : List RxByte}
    (h : Tolerant config thr frames c log (rxs.map RxByte.byte ++ fut)) :
    Tolerant config thr frames ((rxMachine cfg).final c rxs)
      (log ++ (rxMachine cfg).collect (exchangeAt cfg) c rxs) fut := by
  induction rxs generalizing c log with
  | nil =>
    rw [Machine.collect_nil, List.append_nil]
    exact h
  | cons rx rxs ih =>
    rw [Machine.collect_cons, ← List.append_assoc]
    exact ih (tolerant_rxByte cfg htype hlen hframes hfew h)

end Byte

/-! ## One call -/

theorem Tolerant.congr {config : Config} {thr : ℕ} {frames : List (List UInt8)} {c c' : DllCtx}
    {log : List (List UInt8 × Option (List UInt8))} {fut : List UInt8}
    (h : Tolerant config thr frames c log fut) (hk : FrameKept c c') (hm : c'.phyMode = c.phyMode)
    (hs : c'.hasSend = c.hasSend) (hcount : SameCount c c') :
    Tolerant config thr frames c' log fut where
  phyMode := hm.trans h.phyMode
  hasSend := hs.trans h.hasSend
  enforceTiming := hcount.enforceTiming.trans h.enforceTiming
  threshold := hcount.threshold.trans h.threshold
  row := hcount.fallbackCount ▸ h.row
  replies := h.replies
  aligned := by
    obtain ⟨part, rest, hmid, hrest⟩ := h.aligned
    exact ⟨part, rest, hmid.congr hk, hrest⟩

section Calls

variable (cfg : BuildConfig) {config : Config} (htype : config.mSeqType ≠ .type0)
  (hlen : config.pdOutLen ≤ 32) {thr : ℕ} {frames : List (List UInt8)}
  {log : List (List UInt8 × Option (List UInt8))} {fut : List UInt8}

include htype hlen in
/-- A call of `iolink_dll_process` that comes at most a second after the last
    byte. -/
theorem tolerant_dllReceive (hframes : ∀ f ∈ frames, f.length = frameLen config)
    (hfew : FewInARow thr frames) {c : DllCtx} {env : CallEnv}
    (h : Tolerant config thr frames c log (env.rx.map RxByte.byte ++ fut))
    (hact : env.nowMs - c.lastActivityMs ≤ 1000) (hpow : dllTPdActive c env.tPdUs = false) :
    Tolerant config thr frames (dllReceive cfg c env).ctx
        (log ++ noteReceive cfg (exchangeAt cfg) c env) fut ∧
      (dllReceive cfg c env).ctx.lastActivityMs =
        (env.rx.getLast?.map RxByte.nowMs).getD c.lastActivityMs := by
  obtain ⟨part, rest, hmid, -⟩ := h.aligned
  have hreset : inactivityReset c env.nowMs = c :=
    inactivityReset_timely ⟨.inr hact, hpow, gapFree_of_not_enforced h.enforceTiming env.rx⟩
  have hgap : callGap cfg c env.gapUs = c := by
    simp [callGap, h.enforceTiming]
  have hstart : loopStart cfg c env = some c := by
    rw [loopStart_of_gapOk cfg hreset hgap, if_neg (by rw [hpow]; exact Bool.false_ne_true),
      if_neg (by rw [h.phyMode]; decide), if_neg (by simp [awaitingDelay, hmid.state])]
  rw [dllReceive_of_loopStart cfg hstart]
  simp only [noteReceive, hstart]
  exact ⟨tolerant_rxs cfg htype hlen hframes hfew h, lastActivityMs_rxs cfg c env.rx⟩

/-- The time of the last byte, after a call. -/
def Call.lastMs (ms : UInt32) : Call → UInt32
  | .process env => (env.rx.getLast?.map RxByte.nowMs).getD ms
  | _ => ms

/-- No call of `iolink_process` comes more than a second after the last byte
    before it. -/
def NoSilence : UInt32 → List Call → Prop
  | _, [] => True
  | ms, call :: calls =>
    (∀ env, call = .process env → env.nowMs - ms ≤ 1000) ∧ NoSilence (call.lastMs ms) calls

theorem NoSilence.left {ms : UInt32} {pre post : List Call} (h : NoSilence ms (pre ++ post)) :
    NoSilence ms pre := by
  induction pre generalizing ms with
  | nil => trivial
  | cons call pre ih => exact ⟨h.1, ih h.2⟩

include htype hlen in
/-- **One call of the application** that does not switch the timing checks on. -/
theorem tolerant_deviceStep (hframes : ∀ f ∈ frames, f.length = frameLen config)
    (hfew : FewInARow thr frames) {d : Device} {call : Call}
    (h : Tolerant config thr frames d.dll log (call.bytes ++ fut))
    (hon : call ≠ .setTimingEnforcement true)
    (hact : ∀ env, call = .process env → env.nowMs - d.dll.lastActivityMs ≤ 1000)
    (hpow : ∀ env, call = .process env → dllTPdActive d.dll env.tPdUs = false) :
    Tolerant config thr frames (deviceStep cfg d call).1.dll
        (log ++ noteCall cfg (exchangeAt cfg) d call) fut ∧
      (deviceStep cfg d call).1.dll.lastActivityMs = call.lastMs d.dll.lastActivityMs := by
  cases call with
  | process env =>
    obtain ⟨_, _, hp⟩ := polled_eq cfg d env
    simp only [deviceStep, iolinkProcess, noteCall, hp]
    exact tolerant_dllReceive cfg htype hlen hframes hfew
      (h.congr ⟨rfl, rfl, rfl, rfl, rfl, rfl, rfl, rfl, rfl⟩ rfl rfl ⟨rfl, rfl, rfl⟩)
      (hact env rfl) (hpow env rfl)
  | pdInputUpdate data valid =>
    simp only [noteCall, List.append_nil, deviceStep, pdInputUpdate]
    split_ifs
    · exact ⟨h, rfl⟩
    · exact ⟨h.congr ⟨rfl, rfl, rfl, rfl, rfl, rfl, rfl, rfl, rfl⟩ rfl rfl ⟨rfl, rfl, rfl⟩, rfl⟩
  | setTimingEnforcement enable =>
    simp only [noteCall, List.append_nil]
    cases enable with
    | true => exact absurd rfl hon
    | false =>
      exact ⟨h.congr ⟨rfl, rfl, rfl, rfl, rfl, rfl, rfl, rfl, rfl⟩ rfl rfl
        ⟨rfl, rfl, h.enforceTiming.symm⟩, rfl⟩
  | _ =>
    simp only [noteCall, List.append_nil]
    exact ⟨h.congr ⟨rfl, rfl, rfl, rfl, rfl, rfl, rfl, rfl, rfl⟩ rfl rfl ⟨rfl, rfl, rfl⟩, rfl⟩

include htype hlen in
/-- **A run.** -/
theorem tolerant_final (hframes : ∀ f ∈ frames, f.length = frameLen config)
    (hfew : FewInARow thr frames) {d : Device} {run : List Call}
    (h : Tolerant config thr frames d.dll log (run.flatMap Call.bytes ++ fut))
    (hon : Call.setTimingEnforcement true ∉ run) (hpaced : NoSilence d.dll.lastActivityMs run)
    (hpow : ∀ env, Call.process env ∈ run → dllTPdActive d.dll env.tPdUs = false) :
    Tolerant config thr frames ((deviceMachine cfg).final d run).dll (log ++ frameLog cfg d run)
      fut := by
  induction run generalizing d log with
  | nil =>
    rw [frameLog, Machine.collect_nil, List.append_nil]
    exact h
  | cons call run ih =>
    rw [List.flatMap_cons, List.append_assoc] at h
    obtain ⟨hstep, hms⟩ := tolerant_deviceStep cfg htype hlen hframes hfew h
      (fun he => hon (he ▸ List.mem_cons_self)) hpaced.1
      (fun env he => hpow env (he ▸ List.mem_cons_self))
    have hdead := (sameConfig_deviceStep cfg d call).tPdDeadlineUs
    rw [frameLog, Machine.collect_cons, ← List.append_assoc]
    refine ih hstep (fun hmem => hon (List.mem_cons_of_mem _ hmem)) ?_ ?_
    · show NoSilence (deviceStep cfg d call).1.dll.lastActivityMs run
      rw [hms]
      exact hpaced.2
    · intro env hmem
      show dllTPdActive (deviceStep cfg d call).1.dll env.tPdUs = false
      rw [dllTPdActive, hdead]
      exact hpow env (List.mem_cons_of_mem _ hmem)

end Calls

/-- **OPERATE tolerates isolated errors.** A reachable device in OPERATE, with no
    failure counted and no partial frame, receives frames of the expected length
    and any content, grouped into calls in any way, at most a second apart, and
    fewer than `sio_fallback_threshold` failing ones in a row. It stays in OPERATE,
    in SDCI mode and at its baudrate. Failing frames get no reply, all others get
    one, and nothing else is sent. -/
theorem operate_tolerates (cfg : BuildConfig) (config : Config)
    (htype : config.mSeqType.IsType1 ∨ config.mSeqType.IsType2) (hout : config.pdOutLen ≤ 32)
    (calls : List Call) (d : Device) (hreach : Reaches cfg config true calls d)
    (hstate : d.dll.state = .operate) (hcount : d.dll.fallbackCount = 0)
    (hidx : d.dll.frameIndex = 0) (henf : d.dll.enforceTiming = false)
    (frames : List (List UInt8)) (hframes : ∀ f ∈ frames, f.length = frameLen config)
    (hfew : FewInARow d.dll.sioFallbackThreshold frames) (run : List Call)
    (hbytes : run.flatMap Call.bytes = frames.flatten)
    (hon : Call.setTimingEnforcement true ∉ run) (hpaced : NoSilence d.dll.lastActivityMs run)
    (hclock : ∀ e env, Call.process e ∈ calls → Call.process env ∈ run → e.tPdUs ≤ env.tPdUs) :
    (∀ pre, pre <+: run →
      let d' := (deviceMachine cfg).final d pre
      d'.dll.state = .operate ∧ d'.dll.phyMode = .sdci ∧ d'.dll.baudrate = d.dll.baudrate) ∧
    (frameLog cfg d run).map Prod.fst = frames ∧
    (∀ x ∈ frameLog cfg d run, x.2 = none ↔ Failing x.1) ∧
    sentFrames ((deviceMachine cfg).outputs d run) = (frameLog cfg d run).filterMap Prod.snd := by
  have hop := reaches_operating hreach hstate hidx
  have hne : config.mSeqType ≠ .type0 := by
    rintro h
    rw [h] at htype
    revert htype
    decide
  have hpow : ∀ env, Call.process env ∈ run → dllTPdActive d.dll env.tPdUs = false := by
    intro env hmem
    exact reaches_not_tPdActive hreach (by rw [hstate]; decide) fun e he => hclock e env he hmem
  have hpos := le_frameLen config
  have hmid : MidFrame config d.dll [] :=
    ⟨hstate, hop.baudrate, hop.mSeqType, hop.odLen, hop.pdOutLen, hop.pdInLen, hidx,
      fun h => absurd h (by rw [hidx]; decide), Nat.lt_of_lt_of_le (by decide) hpos, rfl⟩
  have hstart : ∀ bytes, bytes = frames.flatten →
      Tolerant config d.dll.sioFallbackThreshold frames d.dll [] bytes := by
    rintro bytes rfl
    refine ⟨hop.phyMode, hop.hasSend, henf, rfl, ?_, List.forall_mem_nil _, [], frames, hmid, rfl,
      rfl⟩
    rw [hcount]
    exact endsIn_zero _ _
  have hend : Tolerant config d.dll.sioFallbackThreshold frames
      ((deviceMachine cfg).final d run).dll ([] ++ frameLog cfg d run) [] :=
    tolerant_final cfg hne hout hframes hfew (hstart _ (by rw [List.append_nil]; exact hbytes)) hon
      hpaced hpow
  refine ⟨?_, ?_, hend.replies, sentFrames_eq_replies cfg d run⟩
  · rintro pre ⟨post, rfl⟩
    rw [List.flatMap_append] at hbytes
    have hpre := tolerant_final cfg hne hout hframes hfew (hstart _ hbytes)
      (fun hmem => hon (List.mem_append_left _ hmem)) hpaced.left
      (fun env hmem => hpow env (List.mem_append_left _ hmem))
    obtain ⟨part, rest, hmid', -⟩ := hpre.aligned
    exact ⟨hmid'.state, hpre.phyMode, hmid'.baudrate.trans hop.baudrate.symm⟩
  · exact hend.all_received hframes

/-- A wrong checksum, a forbidden channel and a good frame. -/
def twoFailures : List (List UInt8) :=
  [[0x00, 0x00, 0x00, 0x00, 0xFF], cyclicFrame 0x20 0 [0] [0], cyclicFrame 0x00 0 [0x11] [0]]

/-- The three frames in calls that do not respect their boundaries. -/
def twoFailuresRun : List Call :=
  [.process (callWith false (twoFailures.flatten.take 7)), .pdInputUpdate [0x22] true,
    .process (callWith false []), .process (callWith false (twoFailures.flatten.drop 7))]

theorem operate_tolerates_two :
    ((deviceMachine {}).final (startedDevice .type11) twoFailuresRun).dll.state = .operate ∧
      (frameLog {} (startedDevice .type11) twoFailuresRun).map Prod.fst = twoFailures := by
  have hfew : FewInARow (startedDevice .type11).dll.sioFallbackThreshold twoFailures := by
    have hthr : (startedDevice .type11).dll.sioFallbackThreshold = 3 := by decide +kernel
    have hgood : ¬ Failing (cyclicFrame 0x00 0 [0x11] [0]) := by decide +kernel
    intro row hrow hall
    rw [hthr]
    by_contra hlong
    have heq : row = twoFailures := hrow.sublist.eq_of_length_le (Nat.not_lt.mp hlong)
    exact hgood (hall _ (heq ▸ by simp [twoFailures]))
  have hzero : ∀ e, Call.process e ∈ startupCalls .type11 → e.tPdUs = 0 := by
    simp [startupCalls, callWith]
  have h := operate_tolerates {} (sampleConfig .type11) (.inl (by decide)) (by decide)
    (startupCalls .type11) (startedDevice .type11) (reaches_startedDevice .type11)
    (by decide +kernel) (by decide +kernel) (by decide +kernel) (by decide +kernel) twoFailures
    (by decide +kernel) hfew twoFailuresRun (by decide +kernel) (by simp [twoFailuresRun])
    (by simp [twoFailuresRun, NoSilence, callWith, Call.lastMs]; decide +kernel)
    (fun e env he _ => by rw [hzero e he]; exact UInt64.zero_le)
  exact ⟨(h.1 twoFailuresRun List.prefix_rfl).1, h.2.1⟩

end Iolinki
