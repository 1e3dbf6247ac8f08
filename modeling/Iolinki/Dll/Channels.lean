import Iolinki.Dll.Effects
import Iolinki.Dll.Loop

/-!
# The two channels of a cyclic frame

Process data and the ISDU engine share the frame buffer and the reply, but each
has its own part of the context: the buffers and flags of the process data
(`PdPart`), and the ISDU engine with what it works on (`OdPart`). The rest is the
link. `DllCtx.exchange` replaces both parts and the frame buffer.

A step of the link (`LinkStep`) takes its decisions from the link alone, leaves
the frame buffer and the process data alone, and changes the other part in a way
that does not depend on them.

Two contexts are `Apart` in a channel if nothing but that channel and the frame
buffer differs.

* `LinkStep.apart`: steps of the link keep two contexts apart in one channel only.
* `apart_dllHandleOperateType12`: so does the handler of the cyclic frames, and
  the other channel gets the same reply.
-/

namespace Iolinki

open Iolinki.Lib

/-! ## The parts of a context -/

/-- The process data. -/
structure PdPart where
  pdIn : ℕ → UInt8
  pdInLen : ℕ
  pdValid : Bool
  pdInToggle : Bool
  pdOut : ℕ → UInt8

/-- The ISDU engine and what it works on. -/
structure OdPart where
  isdu : IsduCtx
  events : EventsCtx
  ds : DsCtx
  stats : DllStats

def DllCtx.pdPart (c : DllCtx) : PdPart := ⟨c.pdIn, c.pdInLen, c.pdValid, c.pdInToggle, c.pdOut⟩

def DllCtx.odPart (c : DllCtx) : OdPart := ⟨c.isdu, c.events, c.ds, c.stats⟩

/-- The context with another frame buffer and other contents of the channels. -/
def DllCtx.exchange (c : DllCtx) (buf : ℕ → UInt8) (p : PdPart) (q : OdPart) : DllCtx :=
  { c with
    frameBuf := buf
    pdIn := p.pdIn, pdInLen := p.pdInLen, pdValid := p.pdValid, pdInToggle := p.pdInToggle
    pdOut := p.pdOut
    isdu := q.isdu, events := q.events, ds := q.ds, stats := q.stats }

/-- A step of the link. -/
structure LinkStep (f : DllCtx → DllCtx) : Prop where
  exchange : ∀ c buf p q, f (c.exchange buf p q) =
    (f c).exchange buf p (f (c.exchange c.frameBuf c.pdPart q)).odPart

theorem linkStep_cycleStart (cfg : BuildConfig) (procUs : UInt64) :
    LinkStep fun c => cycleStart cfg c procUs := by
  refine ⟨fun c buf p q => ?_⟩
  unfold cycleStart DllCtx.exchange
  dsimp only
  split_ifs <;> rfl

/-- What follows the exchange of the channels (lines 172–191). -/
def afterReply (cfg : BuildConfig) (txUs lastUs : UInt64) (c : DllCtx) : DllCtx :=
  { (if c.hasSend then afterSend cfg c txUs else c) with lastResponseUs := lastUs }

theorem linkStep_afterReply (cfg : BuildConfig) (txUs lastUs : UInt64) :
    LinkStep (afterReply cfg txUs lastUs) := by
  refine ⟨fun c buf p q => ?_⟩
  unfold afterReply afterSend DllCtx.exchange dllGetTRenLimitUs
  dsimp only
  split_ifs <;> rfl

theorem linkStep_refused (cfg : BuildConfig) :
    LinkStep fun c => dllEnterFallback cfg (framingError c) := by
  refine ⟨fun c buf p q => ?_⟩
  unfold dllEnterFallback framingError DllCtx.exchange
  dsimp only
  split_ifs <;> rfl

theorem linkStep_inactivityReset (nowMs : UInt32) : LinkStep fun c => inactivityReset c nowMs := by
  refine ⟨fun c buf p q => ?_⟩
  unfold inactivityReset DllCtx.exchange
  dsimp only
  split_ifs <;> rfl

theorem linkStep_detectWakeup (env : CallEnv) : LinkStep fun c => detectWakeup c env := by
  refine ⟨fun c buf p q => ?_⟩
  unfold detectWakeup DllCtx.exchange
  dsimp only
  split_ifs <;> rfl

theorem linkStep_dllPollDiagnostics (cfg : BuildConfig) (env : CallEnv) :
    LinkStep fun c => dllPollDiagnostics cfg c env := by
  refine ⟨fun c buf p q => ?_⟩
  unfold dllPollDiagnostics DllCtx.exchange
  cases env.voltageMv with
  | none =>
    dsimp only
    split_ifs <;> rfl
  | some voltage =>
    dsimp only
    split_ifs <;> rfl

theorem linkStep_frameIndex : LinkStep fun c => { c with frameIndex := 0 } :=
  ⟨fun _ _ _ _ => rfl⟩

/-! ## Contexts that differ in one channel -/

/-- The channels of a cyclic frame. -/
inductive Channel
  | pd
  | od
  deriving DecidableEq, Repr

/-- The contexts differ in the channel and the frame buffer only. -/
def Apart : Channel → DllCtx → DllCtx → Prop
  | .pd, c, c' => c' = c.exchange c'.frameBuf c'.pdPart c.odPart
  | .od, c, c' => c' = c.exchange c'.frameBuf c.pdPart c'.odPart

section Apart

variable {k : Channel} {c c' : DllCtx} {f : DllCtx → DllCtx}

theorem Apart.refl (k : Channel) (c : DllCtx) : Apart k c c := by
  cases k with
  | pd => rfl
  | od => rfl

theorem Apart.odPart (h : Apart .pd c c') : c'.odPart = c.odPart := by
  have hc : c' = c.exchange c'.frameBuf c'.pdPart c.odPart := h
  rw [hc]
  rfl

theorem Apart.pdPart (h : Apart .od c c') : c'.pdPart = c.pdPart := by
  have hc : c' = c.exchange c'.frameBuf c.pdPart c'.odPart := h
  rw [hc]
  rfl

/-- The link is the same in both contexts. -/
theorem Apart.exchange (h : Apart k c c') : c' = c.exchange c'.frameBuf c'.pdPart c'.odPart := by
  cases k with
  | pd =>
    rw [h.odPart]
    exact h
  | od =>
    rw [h.pdPart]
    exact h

theorem Apart.state (h : Apart k c c') : c'.state = c.state := by
  rw [h.exchange]
  rfl

theorem Apart.frameIndex (h : Apart k c c') : c'.frameIndex = c.frameIndex := by
  rw [h.exchange]
  rfl

/-- A step of the link touches neither the frame buffer nor the process data. -/
theorem LinkStep.kept (hf : LinkStep f) (c : DllCtx) :
    (f c).frameBuf = c.frameBuf ∧ (f c).pdPart = c.pdPart := by
  have h : f c = (f c).exchange c.frameBuf c.pdPart (f c).odPart :=
    hf.exchange c c.frameBuf c.pdPart c.odPart
  rw [h]
  exact ⟨rfl, rfl⟩

/-- **Steps of the link.** -/
theorem LinkStep.apart (hf : LinkStep f) (h : Apart k c c') : Apart k (f c) (f c') := by
  cases k with
  | pd =>
    obtain ⟨buf, p, rfl⟩ : ∃ buf p, c' = c.exchange buf p c.odPart := ⟨_, _, h⟩
    show f (c.exchange buf p c.odPart) = _
    rw [hf.exchange c buf p c.odPart]
    rfl
  | od =>
    obtain ⟨buf, q, rfl⟩ : ∃ buf q, c' = c.exchange buf c.pdPart q := ⟨_, _, h⟩
    show f (c.exchange buf c.pdPart q) = (f c).exchange _ (f c).pdPart _
    rw [(hf.kept c).2, hf.exchange c buf c.pdPart q]
    rfl

end Apart

/-! ## Cyclic frames -/

/-- The clock readings that come with a byte. -/
def RxByte.clocks (rx : RxByte) : RxByte := { rx with byte := 0 }

theorem exists_byte {rx rx' : RxByte} (h : rx'.clocks = rx.clocks) :
    ∃ b, rx' = { rx with byte := b } := by
  have hmk : rx' = { rx'.clocks with byte := rx'.byte } := rfl
  rw [h] at hmk
  exact ⟨rx'.byte, hmk⟩

/-- The process data of a reply. -/
def replyPd (pdInLen : ℕ) (reply : List UInt8) : List UInt8 := (reply.drop 1).take pdInLen

/-- The OD bytes of a reply. -/
def replyOd (pdInLen : ℕ) (reply : List UInt8) : List UInt8 := (reply.drop (1 + pdInLen)).dropLast

/-- The field of a reply that belongs to the other channel. -/
def otherReply : Channel → ℕ → List UInt8 → List UInt8
  | .pd => replyOd
  | .od => replyPd

/-- The frames in the buffers agree in the field of the other channel. -/
def SameField : Channel → DllCtx → DllCtx → Prop
  | .pd, c, c' => odField c' = odField c
  | .od, c, c' => pdField c' = pdField c

/-- The context after the exchange of the channels (lines 143–155). -/
def exchanged (c : DllCtx) : DllCtx :=
  { c with
    pdOut := if c.pdOutLenCurrent > 0 then blit c.pdOut 0 (pdField c) else c.pdOut
    isdu := odMachine.final c.isdu (odField c) }

theorem apart_exchanged {k : Channel} {c c' : DllCtx} (h : Apart k c c') (hf : SameField k c c') :
    Apart k (exchanged c) (exchanged c') := by
  cases k with
  | pd =>
    obtain ⟨buf, p, rfl⟩ : ∃ buf p, c' = c.exchange buf p c.odPart := ⟨_, _, h⟩
    have hod : odField (c.exchange buf p c.odPart) = odField c := hf
    unfold exchanged
    rw [hod]
    rfl
  | od =>
    obtain ⟨buf, q, rfl⟩ : ∃ buf q, c' = c.exchange buf c.pdPart q := ⟨_, _, h⟩
    have hpd : pdField (c.exchange buf c.pdPart q) = pdField c := hf
    unfold exchanged
    rw [hpd]
    rfl

theorem replyPd_responseBody (c : DllCtx) (odOut : List UInt8) (ck : UInt8) :
    replyPd c.pdInLenCurrent (responseBody c odOut ++ [ck]) = slice c.pdIn 0 c.pdInLenCurrent := by
  have hlen : c.pdInLenCurrent = (slice c.pdIn 0 c.pdInLenCurrent).length :=
    (length_slice _ _ _).symm
  rw [replyPd, responseBody, List.cons_append, List.drop_succ_cons, List.drop_zero,
    List.append_assoc]
  nth_rewrite 1 [hlen]
  exact List.take_left

theorem replyOd_responseBody (c : DllCtx) (odOut : List UInt8) (ck : UInt8) :
    replyOd c.pdInLenCurrent (responseBody c odOut ++ [ck]) = odOut := by
  have hlen : c.pdInLenCurrent = (slice c.pdIn 0 c.pdInLenCurrent).length :=
    (length_slice _ _ _).symm
  rw [replyOd, responseBody, Nat.add_comm, List.cons_append, List.drop_succ_cons, List.append_assoc]
  nth_rewrite 1 [hlen]
  rw [List.drop_left, List.dropLast_concat]

/-- The reply in the other channel. -/
theorem otherReply_exchanged {k : Channel} {c c' : DllCtx} (h : Apart k c c')
    (hf : SameField k c c') (ck ck' : UInt8) :
    otherReply k c'.pdInLenCurrent (responseBody (exchanged c')
        (odMachine.outputs c'.isdu (odField c')) ++ [ck']) =
      otherReply k c.pdInLenCurrent (responseBody (exchanged c)
        (odMachine.outputs c.isdu (odField c)) ++ [ck]) := by
  cases k with
  | pd =>
    have hod : odField c' = odField c := hf
    have hisdu : c'.isdu = c.isdu := congrArg OdPart.isdu h.odPart
    refine (replyOd_responseBody (exchanged c') _ ck').trans ?_
    rw [hod, hisdu]
    exact (replyOd_responseBody (exchanged c) _ ck).symm
  | od =>
    have hin : c'.pdIn = c.pdIn := congrArg PdPart.pdIn h.pdPart
    have hlen : c'.pdInLenCurrent = c.pdInLenCurrent := by rw [h.exchange]; rfl
    refine (replyPd_responseBody (exchanged c') _ ck').trans ?_
    refine Eq.trans ?_ (replyPd_responseBody (exchanged c) _ ck).symm
    show slice c'.pdIn 0 c'.pdInLenCurrent = slice c.pdIn 0 c.pdInLenCurrent
    rw [hin, hlen]

theorem snd_dllHandleOperateType12 (cfg : BuildConfig) (c : DllCtx) (rx : RxByte) :
    (dllHandleOperateType12 cfg c rx).2 =
      if c.hasSend then
        let resp := responseBody (exchanged c) (odMachine.outputs c.isdu (odField c))
        some (resp ++ [crc6 resp])
      else none := rfl

/-- **The handler of the cyclic frames** keeps the contexts apart in one channel
    only, and the reply in the other channel is the same. -/
theorem apart_dllHandleOperateType12 (cfg : BuildConfig) {k : Channel} {c c' : DllCtx}
    (h : Apart k c c') (hf : SameField k c c') {rx rx' : RxByte} (hclk : rx'.clocks = rx.clocks) :
    Apart k (dllHandleOperateType12 cfg c rx).1 (dllHandleOperateType12 cfg c' rx').1 ∧
      (dllHandleOperateType12 cfg c' rx').2.map (otherReply k c'.pdInLenCurrent) =
        (dllHandleOperateType12 cfg c rx).2.map (otherReply k c.pdInLenCurrent) := by
  obtain ⟨b, rfl⟩ := exists_byte hclk
  constructor
  · exact (linkStep_afterReply cfg rx.txUs rx.lastUs).apart (apart_exchanged h hf)
  · have hsend : c'.hasSend = c.hasSend := by rw [h.exchange]; rfl
    rw [snd_dllHandleOperateType12, snd_dllHandleOperateType12, hsend]
    split_ifs
    · exact congrArg some (otherReply_exchanged h hf _ _)
    · rfl

end Iolinki
