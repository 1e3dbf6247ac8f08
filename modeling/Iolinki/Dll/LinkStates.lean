import Iolinki.Dll.Automaton
import Iolinki.Dll.Recovery

/-!
# The reachable states of the link

`linkTable` lists the states of the automaton that a device can be in between two
calls: 29 of them with process data, 26 without. At COM2 the start-up leads on to
ESTAB_COM and OPERATE with at most two failures. At COM1 everything but OPERATE is
possible, and after a fallback in the middle of a burst even PREOPERATE and ESTAB_COM
while the PHY is in SIO mode.

A frame is as long as the state says in which its first byte was received (`LengthKept`),
so that only some kinds of frames are possible in a state (`LinkView.kinds`). That
the table is closed under what can happen, and that every entry is reached by the
moves of `accessMoves`, is checked by evaluation.

* `inTable_deviceStep`: no call leaves the table.
* `canReach_of_moves`: every move is a call of `iolink_process`.
* `link_reachable_iff`: the reachable states are those of the table.
-/

namespace Iolinki

open Iolinki.Lib

/-! ## The table -/

/-- `req_len` of a frame that starts with `mc`; `long` is the length of a frame with
    process data. -/
def LinkView.frameLen (cyclic : Bool) (long : ℕ) (v : LinkView) (mc : UInt8) : ℕ :=
  if v.baudrate = .com1 then 2
  else if cyclic ∧ v.state = .operate then long
  else if cyclic ∧ v.state = .estabCom ∧ mc ≠ mcTransitionCommand then long
  else 2

/-- An MC byte of each sort: the transition command, one on a forbidden channel and
    another one. -/
def sampleMcs : List UInt8 := [mcTransitionCommand, 0x20, 0x00]

/-- What a complete frame can be taken for. -/
def LinkView.kinds (cyclic : Bool) (v : LinkView) : List (Option FrameKind) :=
  none :: sampleMcs.map fun mc => some (frameKind v.state (v.frameLen cyclic 3 mc) mc)

/-- The states of the link, with and without process data. -/
def linkTable (cyclic : Bool) : List LinkView :=
  [⟨.startup, .sio, .com2, 0⟩, ⟨.awaitingComm, .sdci, .com2, 0⟩, ⟨.preoperate, .sdci, .com2, 0⟩,
    ⟨.startup, .sdci, .com1, 1⟩, ⟨.startup, .sdci, .com1, 2⟩] ++
  (List.range sioThreshold).flatMap fun n =>
    ⟨.estabCom, .sdci, .com2, n⟩ :: (if cyclic then [⟨.operate, .sdci, .com2, n⟩] else []) ++
    [⟨.startup, .sio, .com1, n⟩, ⟨.awaitingComm, .sdci, .com1, n⟩, ⟨.preoperate, .sdci, .com1, n⟩,
      ⟨.preoperate, .sio, .com1, n⟩, ⟨.estabCom, .sdci, .com1, n⟩, ⟨.estabCom, .sio, .com1, n⟩]

/-- The receive loop is not entered at COM2 in SIO mode. -/
def LinkView.Read (v : LinkView) : Prop := ¬ (v.phyMode = .sio ∧ v.baudrate = .com2)

instance (v : LinkView) : Decidable v.Read := inferInstanceAs (Decidable (¬ _))

/-- The table is closed under the frames that are possible. -/
theorem handle_mem_linkTable : ∀ replies cyclic, ∀ v ∈ linkTable cyclic, v.Read →
    ∀ kind ∈ v.kinds cyclic,
      v.handle replies kind ∈ linkTable cyclic ∧ (v.handle replies kind).Read := by
  decide +kernel

/-- The table is closed under what happens between two frames. -/
theorem next_mem_linkTable : ∀ replies cyclic, ∀ v ∈ linkTable cyclic,
    v.next replies .silence ∈ linkTable cyclic ∧
      (v.phyMode = .sio → v.next replies .wakeup ∈ linkTable cyclic) ∧
      (v.phyMode ≠ .sio → v.next replies .timeout ∈ linkTable cyclic ∧
        (v.next replies .timeout).Read) := by
  decide +kernel

theorem frameKind_congr (state : DllState) {len len' : ℕ} {mc mc' : UInt8}
    (h2 : len = 2 ↔ len' = 2) (hlong : len > 2 ↔ len' > 2)
    (hmc : mc = mcTransitionCommand ↔ mc' = mcTransitionCommand)
    (hch : forbiddenChannel mc = forbiddenChannel mc') :
    frameKind state len mc = frameKind state len' mc' := by
  cases state <;> simp only [frameKind, h2, hlong, hmc, hch]

theorem LinkView.frameLen_cases (cyclic : Bool) (long long' : ℕ) (v : LinkView) {mc mc' : UInt8}
    (hmc : mc = mcTransitionCommand ↔ mc' = mcTransitionCommand) :
    (v.frameLen cyclic long mc = 2 ∧ v.frameLen cyclic long' mc' = 2) ∨
      (v.frameLen cyclic long mc = long ∧ v.frameLen cyclic long' mc' = long') := by
  unfold LinkView.frameLen
  simp only [ne_eq, hmc]
  split_ifs <;> simp

/-- The kind of a frame depends on the sort of its MC byte. -/
theorem kind_mem_kinds (cyclic : Bool) {long : ℕ} (hlong : 2 < long) (v : LinkView) (mc : UInt8) :
    some (frameKind v.state (v.frameLen cyclic long mc) mc) ∈ v.kinds cyclic := by
  have hsample : ∀ mc' ∈ sampleMcs, (mc = mcTransitionCommand ↔ mc' = mcTransitionCommand) →
      forbiddenChannel mc = forbiddenChannel mc' →
      some (frameKind v.state (v.frameLen cyclic long mc) mc) ∈ v.kinds cyclic := by
    intro mc' hmem hmc hch
    have hkind : frameKind v.state (v.frameLen cyclic long mc) mc =
        frameKind v.state (v.frameLen cyclic 3 mc') mc' := by
      refine frameKind_congr v.state ?_ ?_ hmc hch
      all_goals
        rcases v.frameLen_cases cyclic long 3 hmc with ⟨h, h'⟩ | ⟨h, h'⟩
        · rw [h, h']
        · rw [h, h']
          omega
    rw [hkind]
    exact List.mem_cons_of_mem _ (List.mem_map.mpr ⟨mc', hmem, rfl⟩)
  by_cases hmc : mc = mcTransitionCommand
  · exact hsample mcTransitionCommand (by decide) (by simp [hmc]) (by rw [hmc])
  · cases hch : forbiddenChannel mc with
    | true => exact hsample 0x20 (by decide) (by simp [hmc]; decide) (by rw [hch]; decide)
    | false => exact hsample 0x00 (by decide) (by simp [hmc]; decide) (by rw [hch]; decide)

/-! ## No call leaves the table -/

/-- The length of a partial frame is the one that its first byte and the state of
    the link give. -/
def LengthKept (c : DllCtx) : Prop := 0 < c.frameIndex → c.reqLen = dllReqLen c (c.frameBuf 0)

/-- The length of a frame depends on the state of the link and on the configuration. -/
structure SameLen (c c' : DllCtx) : Prop where
  state : c'.state = c.state
  baudrate : c'.baudrate = c.baudrate
  mSeqType : c'.mSeqType = c.mSeqType
  odLen : c'.odLen = c.odLen
  pdOutLenCurrent : c'.pdOutLenCurrent = c.pdOutLenCurrent

theorem SameLen.dllReqLen_eq {c c' : DllCtx} (h : SameLen c c') (mc : UInt8) :
    dllReqLen c' mc = dllReqLen c mc := by
  simp only [dllReqLen, h.state, h.baudrate, h.mSeqType, h.odLen, h.pdOutLenCurrent]

/-- Steps that leave the partial frame and its length alone. -/
theorem LengthKept.congr {c c' : DllCtx} (h : LengthKept c) (hlen : SameLen c c')
    (hidx : c'.frameIndex = c.frameIndex) (hreq : c'.reqLen = c.reqLen)
    (hbuf : c'.frameBuf = c.frameBuf) : LengthKept c' := by
  intro hpos
  rw [hreq, hlen.dllReqLen_eq, hbuf]
  exact h (hidx ▸ hpos)

theorem lengthKept_of_idle {c : DllCtx} (h : c.frameIndex = 0) : LengthKept c :=
  fun hpos => absurd hpos (by omega)

/-- A stored byte. -/
theorem lengthKept_rxAssemble (cfg : BuildConfig) {c : DllCtx} (h : LengthKept c) (rx : RxByte) :
    LengthKept (rxAssemble cfg c rx) := by
  have hbefore : LengthKept (beforeAssemble cfg c rx) := by
    unfold beforeAssemble byteGap
    split_ifs
    · exact lengthKept_of_idle rfl
    · exact h.congr ⟨rfl, rfl, rfl, rfl, rfl⟩ rfl rfl rfl
  show LengthKept (assemble (beforeAssemble cfg c rx) rx.byte rx.nowUs)
  generalize beforeAssemble cfg c rx = c₁ at hbefore
  unfold assemble
  split_ifs with h0 h48
  · intro _
    have hlen : SameLen c₁ { c₁ with
        frameBuf := Function.update c₁.frameBuf 0 rx.byte
        frameIndex := 1
        lastFrameUs := rx.nowUs
        reqLen := dllReqLen c₁ rx.byte } := ⟨rfl, rfl, rfl, rfl, rfl⟩
    rw [hlen.dllReqLen_eq]
    show dllReqLen c₁ rx.byte = dllReqLen c₁ (Function.update c₁.frameBuf 0 rx.byte 0)
    rw [Function.update_self]
  · intro _
    have hmc : Function.update c₁.frameBuf c₁.frameIndex rx.byte 0 = c₁.frameBuf 0 :=
      Function.update_of_ne (fun h => h0 h.symm) _ _
    have hlen : SameLen c₁ { c₁ with
        frameBuf := Function.update c₁.frameBuf c₁.frameIndex rx.byte
        frameIndex := c₁.frameIndex + 1 } := ⟨rfl, rfl, rfl, rfl, rfl⟩
    rw [hlen.dllReqLen_eq]
    show c₁.reqLen = dllReqLen c₁ (Function.update c₁.frameBuf c₁.frameIndex rx.byte 0)
    rw [hmc]
    exact hbefore (Nat.pos_of_ne_zero h0)
  · exact lengthKept_of_idle rfl

theorem lengthKept_rxByte (cfg : BuildConfig) {c : DllCtx} (h : LengthKept c) (rx : RxByte) :
    LengthKept (rxByte cfg c rx).1 := by
  rcases rxByte_cases cfg c rx with ⟨-, he⟩ | ⟨-, hidx, -⟩
  · rw [he]
    exact lengthKept_rxAssemble cfg h rx
  · exact lengthKept_of_idle hidx

theorem lengthKept_inactivityReset {c : DllCtx} (h : LengthKept c) (nowMs : UInt32) :
    LengthKept (inactivityReset c nowMs) := by
  unfold inactivityReset
  by_cases hs : c.lastActivityMs ≠ 0 ∧ nowMs - c.lastActivityMs > 1000
  · rw [if_pos hs]
    exact lengthKept_of_idle rfl
  · rw [if_neg hs]
    exact h

theorem lengthKept_callGap (cfg : BuildConfig) {c : DllCtx} (h : LengthKept c) (nowUs : UInt64) :
    LengthKept (callGap cfg c nowUs) := by
  by_cases hl : Late c nowUs
  · rw [callGap_of_late cfg hl]
    exact lengthKept_of_idle (frameIndex_dllEnterFallback cfg rfl)
  · rw [callGap_of_not_late cfg hl]
    exact h

theorem lengthKept_detectWakeup {c : DllCtx} (h : LengthKept c) (env : CallEnv) :
    LengthKept (detectWakeup c env) := by
  unfold detectWakeup
  split_ifs with hw
  · exact lengthKept_of_idle hw.1
  · exact h

/-- The link is in the table, and a partial frame has the length that belongs to its
    first byte. -/
structure InTable (replies cyclic : Bool) (c : DllCtx) : Prop where
  views : Views replies c (linkView c)
  hasPd : cyclic = true ↔ c.mSeqType ≠ .type0
  length : LengthKept c
  mem : linkView c ∈ linkTable cyclic

/-- The same in the receive loop. -/
structure InLoop (replies cyclic : Bool) (c : DllCtx) : Prop extends InTable replies cyclic c where
  read : (linkView c).Read

section Table

variable (cfg : BuildConfig) {replies cyclic : Bool} {c : DllCtx}

/-- The length of a frame with process data. -/
def longLen (c : DllCtx) : ℕ := mSeqHeaderLen + c.pdOutLenCurrent + c.odLen + 1

/-- `req_len` depends on the view. -/
theorem dllReqLen_eq_frameLen (hcyc : cyclic = true ↔ c.mSeqType ≠ .type0)
    (hpd : c.pdOutLenCurrent ≤ pdOutMaxSize) (hod : c.odLen ≤ 2) (mc : UInt8) :
    dllReqLen c mc = (linkView c).frameLen cyclic (longLen c) mc := by
  have hmod : (mSeqHeaderLen + c.pdOutLenCurrent + c.odLen + 1) % 256 = longLen c :=
    Nat.mod_eq_of_lt (by
      unfold mSeqHeaderLen pdOutMaxSize at *
      omega)
  simp only [dllReqLen, LinkView.frameLen, hcyc, hmod, linkView]

/-- What a complete frame is taken for is one of the kinds of the state. -/
theorem kindOf_mem_kinds (hcyc : cyclic = true ↔ c.mSeqType ≠ .type0)
    (hasm : Assembled c) (hlen : c.reqLen = dllReqLen c (c.frameBuf 0)) :
    (linkView c).kindOf (frameOf c) ∈ (linkView c).kinds cyclic := by
  rw [LinkView.kindOf]
  split_ifs
  · have hlong : 2 < longLen c := by
      have hod := hasm.odPos
      unfold longLen mSeqHeaderLen
      omega
    rw [length_frameOf, frameOf_head (by have := hasm.reqLen; omega), hlen,
      dllReqLen_eq_frameLen hcyc hasm.pdOut hasm.odLe]
    exact kind_mem_kinds cyclic hlong _ _
  · exact List.mem_cons_self

/-- **One received byte.** -/
theorem inLoop_rxByte (h : InLoop replies cyclic c) (rx : RxByte) :
    InLoop replies cyclic (rxByte cfg c rx).1 := by
  have hviews := views_rxByte cfg h.views rx
  have hcfg := sameConfig_rxByte cfg c rx
  have hcyc : cyclic = true ↔ (rxByte cfg c rx).1.mSeqType ≠ .type0 := by
    rw [hcfg.mSeqType]
    exact h.hasPd
  have hlen := lengthKept_rxByte cfg h.length rx
  have hview := hviews.view
  rw [frameInput, final_ite_input] at hview
  by_cases hfull : frameComplete (rxAssemble cfg c rx) = true
  · rw [if_pos hfull] at hview
    have hasm := assembled_rxAssemble cfg h.views.bounded rx
    have hkind : (linkView c).kindOf (frameOf (rxAssemble cfg c rx)) ∈
        (linkView c).kinds cyclic := by
      have hpd : cyclic = true ↔ (rxAssemble cfg c rx).mSeqType ≠ .type0 := by
        rw [(untouched_rxAssemble cfg c rx).mSeqType]
        exact h.hasPd
      have hmem := kindOf_mem_kinds hpd hasm (lengthKept_rxAssemble cfg h.length rx hasm.started)
      rwa [view_rxAssemble] at hmem
    obtain ⟨hmem, hread⟩ := handle_mem_linkTable replies cyclic _ h.mem h.read _ hkind
    refine ⟨⟨?_, hcyc, hlen, ?_⟩, ?_⟩
    · rw [← hviews.view] at hviews
      exact hviews
    · rw [hview]
      exact hmem
    · rw [hview]
      exact hread
  · rw [if_neg hfull] at hview
    refine ⟨⟨?_, hcyc, hlen, ?_⟩, ?_⟩
    · rw [← hviews.view] at hviews
      exact hviews
    · rw [hview]
      exact h.mem
    · rw [hview]
      exact h.read

/-- A step between two frames that the automaton takes if `p` holds. -/
theorem InTable.step {c' : DllCtx} {p : Prop} [Decidable p] {i : LinkInput}
    (h : InTable replies cyclic c)
    (hviews : Views replies c' ((linkAutomaton replies).final (linkView c) (if p then [i] else [])))
    (hcfg : SameConfig c c') (hlen : LengthKept c')
    (hmem : (linkView c).next replies i ∈ linkTable cyclic) :
    InTable replies cyclic c' ∧ (linkView c' = linkView c ∨
      linkView c' = (linkView c).next replies i) := by
  have hview := hviews.view
  rw [final_ite_input] at hview
  have hcases : linkView c' = linkView c ∨ linkView c' = (linkView c).next replies i := by
    rw [hview]
    split_ifs
    · exact .inr rfl
    · exact .inl rfl
  refine ⟨⟨?_, ?_, hlen, ?_⟩, hcases⟩
  · rw [← hviews.view] at hviews
    exact hviews
  · rw [hcfg.mSeqType]
    exact h.hasPd
  · rcases hcases with he | he
    · rw [he]
      exact h.mem
    · rw [he]
      exact hmem

/-- Steps that leave the link alone. -/
theorem InTable.congr {c' : DllCtx} (h : InTable replies cyclic c)
    (hview : linkView c' = linkView c)
    (hthr : c'.sioFallbackThreshold = c.sioFallbackThreshold) (hcfg : SameConfig c c')
    (hb : Bounded c') (hidx : c'.frameIndex = c.frameIndex) (hreq : c'.reqLen = c.reqLen)
    (hbuf : c'.frameBuf = c.frameBuf) : InTable replies cyclic c' := by
  have hlen : SameLen c c' := ⟨congrArg LinkView.state hview, congrArg LinkView.baudrate hview,
    hcfg.mSeqType, hcfg.odLen, hcfg.pdOutLenCurrent⟩
  refine ⟨?_, ?_, h.length.congr hlen hidx hreq hbuf, ?_⟩
  · rw [hview]
    exact h.views.congr hview hthr hcfg.hasSend hb
  · rw [hcfg.mSeqType]
    exact h.hasPd
  · rw [hview]
    exact h.mem

theorem read_of_ne_sio {v : LinkView} (h : v.phyMode ≠ .sio) : v.Read := fun hno => h hno.1

/-- **One call of `iolink_dll_process`.** -/
theorem inTable_dllReceive (h : InTable replies cyclic c) (env : CallEnv) :
    InTable replies cyclic (dllReceive cfg c env).ctx := by
  refine (dllReceive_induct cfg (P := InTable replies cyclic) (Q := InLoop replies cyclic)
    ?_ ?_ ?_ ?_ ?_ ?_ h env).1
  · intro c nowMs hc
    exact (hc.step (views_inactivityReset hc.views nowMs)
      (untouched_inactivityReset c nowMs).toSameConfig (lengthKept_inactivityReset hc.length nowMs)
      (next_mem_linkTable replies cyclic _ hc.mem).1).1
  · intro c rxs hc
    have hsame : linkView (drainRx cfg c rxs) = linkView c ∧
        (drainRx cfg c rxs).frameIndex = c.frameIndex ∧ (drainRx cfg c rxs).reqLen = c.reqLen ∧
        (drainRx cfg c rxs).frameBuf = c.frameBuf := by
      unfold drainRx
      split_ifs <;> exact ⟨rfl, rfl, rfl, rfl⟩
    obtain ⟨hview, hidx, hreq, hbuf⟩ := hsame
    exact hc.congr hview (kept_drainRx cfg c rxs).threshold
      (untouched_drainRx cfg c rxs).toSameConfig (bounded_drainRx cfg hc.views.bounded rxs) hidx
      hreq hbuf
  · intro c env hc hm
    exact (hc.step (views_detectWakeup hc.views env) (untouched_detectWakeup c env).toSameConfig
      (lengthKept_detectWakeup hc.length env)
      ((next_mem_linkTable replies cyclic _ hc.mem).2.1 hm)).1
  · intro c nowUs hc hm
    obtain ⟨hmem, hread⟩ := (next_mem_linkTable replies cyclic _ hc.mem).2.2 hm
    obtain ⟨htable, hview⟩ := hc.step (views_callGap cfg hc.views nowUs)
      (untouched_callGap cfg c nowUs).toSameConfig (lengthKept_callGap cfg hc.length nowUs) hmem
    refine ⟨htable, ?_⟩
    rcases hview with he | he
    · rw [he]
      exact read_of_ne_sio hm
    · rw [he]
      exact hread
  · intro c rx hc
    exact inLoop_rxByte cfg hc rx
  · intro c hc
    exact hc.toInTable

/-- **One call of the application.** -/
theorem inTable_deviceStep {d : Device} (h : InTable replies cyclic d.dll) (call : Call) :
    InTable replies cyclic (deviceStep cfg d call).1.dll := by
  have hcfg := sameConfig_deviceStep cfg d call
  have hb := bounded_deviceStep cfg h.views.bounded call
  cases call with
  | process env =>
    obtain ⟨_, _, hp⟩ := polled_eq cfg d env
    have hpolled : InTable replies cyclic
        (dllPollDiagnostics cfg (deviceIsduProcess cfg d).dll env) := by
      have hbp := bounded_polled cfg h.views.bounded env
      rw [hp] at hbp ⊢
      exact ⟨⟨rfl, h.views.below, h.views.threshold, h.views.sends, hbp⟩, h.hasPd, h.length, h.mem⟩
    exact inTable_dllReceive cfg hpolled env
  | pdInputUpdate data valid =>
    have hsame : linkView (pdInputUpdate d.dll data valid).1 = linkView d.dll ∧
        (pdInputUpdate d.dll data valid).1.sioFallbackThreshold = d.dll.sioFallbackThreshold ∧
        (pdInputUpdate d.dll data valid).1.frameIndex = d.dll.frameIndex ∧
        (pdInputUpdate d.dll data valid).1.reqLen = d.dll.reqLen ∧
        (pdInputUpdate d.dll data valid).1.frameBuf = d.dll.frameBuf := by
      unfold pdInputUpdate
      split_ifs <;> exact ⟨rfl, rfl, rfl, rfl, rfl⟩
    obtain ⟨hview, hthr, hidx, hreq, hbuf⟩ := hsame
    exact h.congr hview hthr hcfg hb hidx hreq hbuf
  | _ => exact h.congr rfl rfl hcfg hb rfl rfl rfl

end Table

/-- A reachable device is in the table. -/
theorem reaches_inTable {cfg : BuildConfig} {config : Config} (hout : config.pdOutLen ≤ 32)
    {hasSend : Bool} {calls : List Call} {d : Device} (h : Reaches cfg config hasSend calls d) :
    InTable hasSend (config.mSeqType ≠ .type0) d.dll := by
  obtain ⟨nowUs, image, store, rfl⟩ := h
  refine (deviceMachine cfg).final_invariant
    (P := fun d => InTable hasSend (config.mSeqType ≠ .type0) d.dll)
    (fun d call hd => inTable_deviceStep cfg hd call) ?_ calls
  refine ⟨⟨rfl, Nat.zero_lt_succ _, rfl, rfl,
    bounded_iolinkInit cfg hout hasSend nowUs image store⟩, decide_eq_true_iff,
    lengthKept_of_idle rfl, List.mem_cons_self⟩

/-! ## Every entry is reached -/

/-- What a master can do in one call of `iolink_process`. -/
inductive LinkMove
  | silence
  | wakeup
  /-- frames of the given kinds in one burst -/
  | burst (kinds : List (Option FrameKind))

/-- The burst of a move, if its frames are possible. -/
def LinkView.burst (replies cyclic : Bool) (v : LinkView) :
    List (Option FrameKind) → Option LinkView
  | [] => some v
  | kind :: kinds =>
    if kind ∈ v.kinds cyclic then LinkView.burst replies cyclic (v.handle replies kind) kinds
    else none

/-- A move, if it is possible. -/
def LinkView.move (replies cyclic : Bool) (v : LinkView) : LinkMove → Option LinkView
  | .silence =>
    if v.state = .startup ∧ v.phyMode = .sdci then some (v.next replies .silence) else none
  | .wakeup => if v.phyMode = .sio then some (v.next replies .wakeup) else none
  | .burst kinds => if v.phyMode = .sio then none else v.burst replies cyclic kinds

/-- Moves that lead to an entry of the table. -/
def accessMoves (v : LinkView) : List LinkMove :=
  let bad := List.replicate v.failures none
  let lost := [none, none, none]
  match v.state, v.phyMode, v.baudrate with
  | .startup, .sio, .com2 => []
  | .startup, .sio, _ =>
    if v.failures = 0 then [.wakeup, .burst lost] else [.wakeup, .burst bad, .silence]
  | .startup, _, _ => [.wakeup, .burst bad]
  | .awaitingComm, _, .com2 => [.wakeup]
  | .awaitingComm, _, _ =>
    if v.failures = 0 then [.wakeup, .burst lost, .wakeup]
    else [.wakeup, .burst bad, .silence, .wakeup]
  | .preoperate, .sio, _ => [.wakeup, .burst (lost ++ bad ++ [some .type0])]
  | .preoperate, _, .com2 => [.wakeup, .burst [some .type0]]
  | .preoperate, _, _ =>
    if v.failures = 0 then [.wakeup, .burst lost, .wakeup, .burst [some .type0]]
    else [.wakeup, .burst bad, .burst [some .type0]]
  | .estabCom, .sio, _ => [.wakeup, .burst (lost ++ some .transition :: bad)]
  | .estabCom, _, .com2 => [.wakeup, .burst (some .transition :: bad)]
  | .estabCom, _, _ => [.wakeup, .burst lost, .wakeup, .burst (some .transition :: bad)]
  | .operate, _, _ => [.wakeup, .burst (some .transition :: some .type12 :: bad)]
  | .fallback, _, _ => []

/-- The moves lead to their entry. -/
theorem accessMoves_spec : ∀ replies cyclic, ∀ v ∈ linkTable cyclic,
    (accessMoves v).foldlM (LinkView.move replies cyclic) ⟨.startup, .sio, .com2, 0⟩ = some v := by
  decide +kernel

/-- A frame of `len` bytes that starts with `mc`. -/
def sampleFrame (len : ℕ) (mc : UInt8) (good : Bool) : List UInt8 :=
  let body := mc :: List.replicate (len - 2) 0
  let ck := if len = 2 then checksumCk mc 0 else crc6 body
  body ++ [if good then ck else ck + 1]

theorem length_sampleFrame {len : ℕ} (h : 2 ≤ len) (mc : UInt8) (good : Bool) :
    (sampleFrame len mc good).length = len := by
  simp [sampleFrame]
  omega

theorem checksumOk_sampleFrame {len : ℕ} (h : 2 ≤ len) (mc : UInt8) (good : Bool) :
    checksumOk (sampleFrame len mc good) = good := by
  have hne : ∀ ck : UInt8, ck ≠ ck + 1 := by decide +kernel
  rw [checksumOk, length_sampleFrame h]
  obtain rfl | hlong := Nat.eq_or_lt_of_le h
  · cases good <;> simp [sampleFrame, hne]
  · have h2 : len ≠ 2 := by omega
    simp only [sampleFrame, if_neg h2, List.dropLast_concat, List.getLastD_concat]
    cases good <;> simp [hne]

/-- A byte of such a frame, one millisecond after the start. -/
def sampleByte (b : UInt8) : RxByte := ⟨b, 0, 1, 0, 0, 0⟩

/-- A device that waits for a frame. If it has been in SDCI mode before, a byte has
    been received since. -/
structure Resting (c : DllCtx) : Prop where
  frameIndex : c.frameIndex = 0
  heard : c.phyMode = .sdci → c.state = .startup → c.lastActivityMs ≠ 0

section Moves

variable (cfg : BuildConfig) {replies cyclic : Bool}

/-- **A frame of the burst.** -/
theorem rx_sampleFrame {c : DllCtx} (h : InLoop replies cyclic c) (hidx : c.frameIndex = 0)
    (mc : UInt8) (good : Bool) :
    let frame := sampleFrame (dllReqLen c mc) mc good
    let c' := (rxMachine cfg).final c (frame.map sampleByte)
    linkView c' = (linkView c).next replies (.frame frame) ∧ Resting c' := by
  intro frame c'
  obtain ⟨hge, hle⟩ := dllReqLen_bounds h.views.bounded.pdOut h.views.bounded.odLe mc
  have hlen : frame.length = dllReqLen c mc := length_sampleFrame hge mc good
  obtain ⟨mid, last, hframe, hmid⟩ : ∃ mid last, frame = mc :: (mid ++ [last]) ∧
      mid.length + 2 = dllReqLen c mc :=
    ⟨List.replicate (dllReqLen c mc - 2) 0, _, rfl, by simp; omega⟩
  have hgap : GapFree c (frame.map sampleByte) := by
    refine List.Pairwise.isChain (List.pairwise_map.mpr (List.pairwise_of_forall fun a b => ?_))
    simp [GapOk, sampleByte]
  rw [hframe, List.map_cons, List.map_append] at hgap
  obtain ⟨hfinal, -⟩ := rx_frame cfg hidx (sampleByte mc) (mid.map sampleByte) (sampleByte last)
    hgap (by rw [List.length_map]; exact hmid) (by
      show dllReqLen c mc ≤ 48
      omega)
  have hrx : c' = { (dllHandleFrame cfg (c.withFrame (sampleByte mc)
      (mid.map sampleByte ++ [sampleByte last])) (sampleByte last)).1 with frameIndex := 0 } := by
    rw [← hfinal]
    simp only [c', hframe, List.map_cons, List.map_append, List.map_nil]
  set full := c.withFrame (sampleByte mc) (mid.map sampleByte ++ [sampleByte last]) with hfull
  have hof : frameOf full = frame := by
    have hbytes : ((sampleByte mc :: (mid.map sampleByte ++ [sampleByte last])).map RxByte.byte) =
        frame := by
      simp [hframe, sampleByte, Function.comp_def]
    show slice (blit c.frameBuf 0 ((sampleByte mc :: (mid.map sampleByte ++ [sampleByte last])).map
      RxByte.byte)) 0 (dllReqLen c mc) = frame
    rw [hbytes, ← hlen, slice_blit]
  have hthr : full.sioFallbackThreshold = sioThreshold := h.views.threshold
  have hview := view_dllHandleFrame cfg hthr h.views.below h.views.sends hge (sampleByte last)
  have hms : full.lastActivityMs = 1 := by
    simp [hfull, DllCtx.withFrame, sampleByte]
  rw [hof] at hview
  rw [hrx]
  refine ⟨hview, rfl, fun _ _ => ?_⟩
  show (dllHandleFrame cfg full (sampleByte last)).1.lastActivityMs ≠ 0
  rw [lastActivityMs_dllHandleFrame, hms]
  decide

/-- Every kind that is possible is the kind of a frame. -/
theorem exists_frame_of_kind {c : DllCtx} (h : InLoop replies cyclic c) (hidx : c.frameIndex = 0)
    {kind : Option FrameKind} (hkind : kind ∈ (linkView c).kinds cyclic) :
    ∃ rxs, linkView ((rxMachine cfg).final c rxs) = (linkView c).handle replies kind ∧
      Resting ((rxMachine cfg).final c rxs) := by
  have hframe : ∀ mc good, (linkView c).kindOf (sampleFrame (dllReqLen c mc) mc good) = kind →
      ∃ rxs, linkView ((rxMachine cfg).final c rxs) = (linkView c).handle replies kind ∧
        Resting ((rxMachine cfg).final c rxs) := by
    intro mc good hk
    obtain ⟨hview, hrest⟩ := rx_sampleFrame cfg h hidx mc good
    rw [LinkView.next, hk] at hview
    exact ⟨_, hview, hrest⟩
  have hge : ∀ mc, 2 ≤ dllReqLen c mc := fun mc =>
    (dllReqLen_bounds h.views.bounded.pdOut h.views.bounded.odLe mc).1
  rcases List.mem_cons.mp hkind with rfl | hkind
  · refine hframe 0x00 false ?_
    rw [LinkView.kindOf, checksumOk_sampleFrame (hge _)]
    rfl
  · obtain ⟨mc, -, rfl⟩ := List.mem_map.mp hkind
    refine hframe mc true ?_
    rw [LinkView.kindOf, checksumOk_sampleFrame (hge _), length_sampleFrame (hge _), if_pos rfl,
      dllReqLen_eq_frameLen h.hasPd h.views.bounded.pdOut h.views.bounded.odLe]
    have hlong : 2 < longLen c := by
      have hod := h.views.bounded.odPos
      unfold longLen mSeqHeaderLen
      omega
    refine congrArg some (frameKind_congr _ ?_ ?_ Iff.rfl rfl)
    all_goals
      rcases (linkView c).frameLen_cases cyclic (longLen c) 3 (Iff.refl (mc = _)) with
        ⟨h, h'⟩ | ⟨h, h'⟩
      · rw [h, h']
      · rw [h, h']
        omega

/-- A burst of frames. -/
theorem exists_rxs_of_burst {c : DllCtx} (h : InLoop replies cyclic c) (hrest : Resting c)
    {kinds : List (Option FrameKind)} {v : LinkView}
    (hv : (linkView c).burst replies cyclic kinds = some v) :
    ∃ rxs, linkView ((rxMachine cfg).final c rxs) = v ∧ Resting ((rxMachine cfg).final c rxs) := by
  induction kinds generalizing c with
  | nil => exact ⟨[], Option.some.inj hv, hrest⟩
  | cons kind kinds ih =>
    rw [LinkView.burst] at hv
    split_ifs at hv with hkind
    obtain ⟨rxs, hview, hnext⟩ := exists_frame_of_kind cfg h hrest.frameIndex hkind
    have hloop : InLoop replies cyclic ((rxMachine cfg).final c rxs) :=
      (rxMachine cfg).final_invariant (P := InLoop replies cyclic)
        (fun _ rx hc => inLoop_rxByte cfg hc rx) h rxs
    rw [← hview] at hv
    obtain ⟨more, hmore, hlast⟩ := ih hloop hnext hv
    refine ⟨rxs ++ more, ?_⟩
    rw [Machine.final_append]
    exact ⟨hmore, hlast⟩

theorem inLoop_polledCtx {d : Device} (h : InTable replies cyclic d.dll)
    (hm : d.dll.phyMode ≠ .sio) : InLoop replies cyclic (polledCtx cfg d) := by
  have hb : Bounded (polledCtx cfg d) := { h.views.bounded with }
  exact ⟨⟨⟨rfl, h.views.below, h.views.threshold, h.views.sends, hb⟩, h.hasPd, h.length, h.mem⟩,
    read_of_ne_sio hm⟩

/-- A wake-up. -/
theorem process_wakeupCall {d : Device} (hrest : Resting d.dll) (hm : d.dll.phyMode = .sio) :
    (iolinkProcess cfg d (promptCall d.dll true [])).1.dll =
      detectWakeup (polledCtx cfg d) (promptCall d.dll true []) ∧
    linkView (iolinkProcess cfg d (promptCall d.dll true [])).1.dll =
      (linkView d.dll).next replies .wakeup := by
  have hproc : (iolinkProcess cfg d (promptCall d.dll true [])).1.dll =
      detectWakeup (polledCtx cfg d) (promptCall d.dll true []) := by
    have hm' : (polledCtx cfg d).phyMode = .sio := hm
    show (dllReceive cfg (polledCtx cfg d) (promptCall (polledCtx cfg d) true [])).ctx = _
    simp only [dllReceive, promptCall, inactivityReset_prompt, dllTPdActive_prompt, hm',
      Bool.false_eq_true, if_true, if_false]
    rfl
  have hwake : detectWakeup (polledCtx cfg d) (promptCall d.dll true []) = dllSetSdciMode
      { polledCtx cfg d with
        wakeupSeen := true
        state := .awaitingComm
        wakeupDeadlineUs := 0 + tDwuUs } := if_pos ⟨hrest.frameIndex, rfl⟩
  refine ⟨hproc, ?_⟩
  rw [hproc, hwake]
  rfl

/-- More than a second of silence. -/
def silentCall (c : DllCtx) : CallEnv :=
  { promptCall c false [] with nowMs := c.lastActivityMs + 1001 }

theorem inactivityReset_silent {nowMs : UInt32} (hs : Silent c nowMs) (hm : c.phyMode ≠ .sio) :
    inactivityReset c nowMs =
      { dllSetSioMode (dllSetBaudrate { c with lastActivityMs := 0 } .com1) with
        state := .startup, frameIndex := 0 } := by
  refine (if_pos hs).trans ?_
  dsimp only
  rw [if_pos hm]

/-- A call with no byte and no wake-up that finds the link silent. -/
theorem dllReceive_silent {env : CallEnv} (hs : Silent c env.nowMs) (hm : c.phyMode ≠ .sio)
    (hpd : dllTPdActive c env.tPdUs = false) (hwake : env.wakeup = false) :
    (dllReceive cfg c env).ctx =
      { dllSetSioMode (dllSetBaudrate { c with lastActivityMs := 0 } .com1) with
        state := .startup, frameIndex := 0 } := by
  have hsilent := inactivityReset_silent hs hm
  have hpd' : dllTPdActive (inactivityReset c env.nowMs) env.tPdUs = false := by
    rw [hsilent]
    exact hpd
  have hsio : (inactivityReset c env.nowMs).phyMode = .sio := by
    rw [hsilent]
    rfl
  have hno : ¬(env.wakeup = true) := by
    rw [hwake]
    exact Bool.false_ne_true
  unfold dllReceive
  simp only [hpd', hsio, if_true, Bool.false_eq_true, if_false]
  rw [← hsilent]
  exact if_neg fun hw => hno hw.2

theorem process_silentCall {d : Device} (hrest : Resting d.dll) (hstate : d.dll.state = .startup)
    (hm : d.dll.phyMode = .sdci) :
    linkView (iolinkProcess cfg d (silentCall d.dll)).1.dll =
        (linkView d.dll).next replies .silence ∧
      Resting (iolinkProcess cfg d (silentCall d.dll)).1.dll := by
  have hsilent : Silent (polledCtx cfg d) (silentCall d.dll).nowMs := by
    refine ⟨hrest.heard hm hstate, ?_⟩
    show 1000 < d.dll.lastActivityMs + 1001 - d.dll.lastActivityMs
    rw [UInt32.add_comm, UInt32.add_sub_cancel]
    decide
  have hne : (polledCtx cfg d).phyMode ≠ .sio := by
    show d.dll.phyMode ≠ .sio
    rw [hm]
    decide
  have hpow : dllTPdActive (polledCtx cfg d) (silentCall d.dll).tPdUs = false :=
    dllTPdActive_prompt (polledCtx cfg d)
  have hproc := dllReceive_silent cfg hsilent hne hpow rfl
  show linkView (dllReceive cfg (polledCtx cfg d) (silentCall d.dll)).ctx = _ ∧
    Resting (dllReceive cfg (polledCtx cfg d) (silentCall d.dll)).ctx
  rw [hproc]
  refine ⟨?_, rfl, fun hno => ?_⟩
  · have hview : (linkView d.dll).phyMode ≠ .sio := by
      show d.dll.phyMode ≠ .sio
      rw [hm]
      decide
    rw [LinkView.next, if_neg hview]
    rfl
  · cases hno

/-- **Every move is a call.** -/
theorem exists_call_of_move {d : Device} (h : InTable replies cyclic d.dll) (hrest : Resting d.dll)
    {move : LinkMove} {v : LinkView} (hv : (linkView d.dll).move replies cyclic move = some v) :
    ∃ env, linkView (iolinkProcess cfg d env).1.dll = v ∧
      Resting (iolinkProcess cfg d env).1.dll := by
  cases move with
  | silence =>
    simp only [LinkView.move] at hv
    split_ifs at hv with hs
    rw [← Option.some.inj hv]
    exact ⟨_, process_silentCall cfg hrest hs.1 hs.2⟩
  | wakeup =>
    simp only [LinkView.move] at hv
    split_ifs at hv with hm
    rw [← Option.some.inj hv]
    obtain ⟨hproc, hview⟩ := process_wakeupCall cfg hrest hm
    refine ⟨_, hview, ?_, fun _ hs => ?_⟩
    · rw [hproc]
      exact (congrArg DllCtx.frameIndex (if_pos ⟨hrest.frameIndex, rfl⟩)).trans hrest.frameIndex
    · have hstate := congrArg LinkView.state hview
      rw [show (linkView _).state = .startup from hs] at hstate
      cases hstate
  | burst kinds =>
    simp only [LinkView.move] at hv
    split_ifs at hv with hm
    obtain ⟨rxs, hview, hnext⟩ := exists_rxs_of_burst cfg (inLoop_polledCtx cfg h hm)
      ⟨hrest.frameIndex, hrest.heard⟩ hv
    refine ⟨promptCall d.dll false rxs, ?_⟩
    rw [iolinkProcess_prompt cfg hm]
    exact ⟨hview, hnext⟩

/-- **The moves are possible one after the other.** -/
theorem canReach_of_moves {d : Device} (h : InTable replies cyclic d.dll) (hrest : Resting d.dll)
    {moves : List LinkMove} {v : LinkView}
    (hv : moves.foldlM (LinkView.move replies cyclic) (linkView d.dll) = some v) :
    CanReach cfg d fun c => linkView c = v := by
  induction moves generalizing d with
  | nil => exact CanReach.refl (Option.some.inj hv)
  | cons move moves ih =>
    obtain ⟨v₁, hmove, hmoves⟩ := Option.bind_eq_some_iff.mp (List.foldlM_cons.symm.trans hv)
    obtain ⟨env, hview, hnext⟩ := exists_call_of_move cfg h hrest hmove
    rw [← hview] at hmoves
    exact CanReach.step env (ih (inTable_deviceStep cfg h (.process env)) hnext hmoves)

end Moves

/-- **The reachable states of the link.** Between two calls the link of a device is in
    one of the states of the table, and every one of them is possible, whatever the
    configuration, as long as the process data fit their arrays. -/
theorem link_reachable_iff (cfg : BuildConfig) (config : Config) (hfit : PdFits config)
    (hasSend : Bool) (v : LinkView) :
    (∃ calls d, Reaches cfg config hasSend calls d ∧ linkView d.dll = v) ↔
      v ∈ linkTable (config.mSeqType ≠ .type0) := by
  constructor
  · rintro ⟨calls, d, h, rfl⟩
    exact (reaches_inTable hfit.pdOut h).mem
  · intro hmem
    let d₀ := iolinkInit cfg config hasSend 0 none storeInit
    have h₀ : Reaches cfg config hasSend [] d₀ := ⟨0, none, storeInit, rfl⟩
    have hrest : Resting d₀.dll := ⟨rfl, fun hm => by cases hm⟩
    obtain ⟨envs, hv⟩ := canReach_of_moves cfg (reaches_inTable hfit.pdOut h₀) hrest
      (accessMoves_spec hasSend _ v hmem)
    exact ⟨envs.map .process, _, ⟨0, none, storeInit, rfl⟩, hv⟩

theorem link_reachable_iff_com1 :
    (∃ calls d, Reaches {} (sampleConfig .type11) true calls d ∧
      linkView d.dll = ⟨.operate, .sdci, .com1, 0⟩) ↔ False :=
  (link_reachable_iff {} (sampleConfig .type11) ⟨by decide, by decide⟩ true _).trans
    (iff_false_intro (by decide))

end Iolinki
