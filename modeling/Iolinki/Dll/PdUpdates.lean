import Iolinki.Dll.Channels
import Iolinki.Dll.PdLength
import Mathlib.Algebra.Ring.Parity

/-!
# Updates of the input process data

`iolink_pd_input_update` copies the new data to the start of `pd_in` and inverts the
toggle bit. It stores the length of the data in `pd_in_len`, but a reply to a Type 1
or Type 2 frame carries the first `pd_in_len_current` bytes of the array. What a
longer update has left behind the end of a shorter one is sent with it.

* `carries_lengthStep`: the array is the sequence of the updates copied to it, and
  the toggle bit their parity.
* `pd_reply_iff`: the replies that carry the most recent update only.
-/

namespace Iolinki

open Iolinki.Lib

/-! ## Updates and replies of a run -/

/-- A successful update, or a reply to a Type 1 or Type 2 frame with the value of
    `pd_in_len_current`. -/
inductive PdNote
  | update (data : List UInt8)
  | reply (len : ℕ) (bytes : List UInt8)
  deriving DecidableEq

/-- The data of a note that is an update. -/
def PdNote.data? : PdNote → Option (List UInt8)
  | .update data => some data
  | .reply _ _ => none

/-- The updates among the notes, in order. -/
def updates (log : List PdNote) : List (List UInt8) := log.filterMap PdNote.data?

/-- The reply to a Type 1 or Type 2 frame that the byte completes. -/
def replyAt (cfg : BuildConfig) (c : DllCtx) (rx : RxByte) : List PdNote :=
  let f := rxAssemble cfg c rx
  if frameComplete f ∧ frameCrcOk f ∧ frameKind f.state f.reqLen (f.frameBuf 0) = .type12 then
    (rxByte cfg c rx).2.toList.map (.reply f.pdInLenCurrent)
  else []

/-- What is noted in one call. -/
def notePd (cfg : BuildConfig) (d : Device) : Call → List PdNote
  | .pdInputUpdate data valid =>
    if (pdInputUpdate d.dll data valid).2 = 0 then [.update data] else []
  | call => noteCall cfg (replyAt cfg) d call

/-- The updates and replies of a run. -/
def pdNotes (cfg : BuildConfig) (d : Device) (calls : List LengthCall) : List PdNote :=
  (lengthMachine cfg).collect (noteLengthCall (notePd cfg)) d calls

/-- The toggle bit in the status byte of a reply. -/
def toggleBit (reply : List UInt8) : Bool := reply.getD 0 0 &&& odStatusPdToggle ≠ 0

/-- A reply after the notes `pre` carries the most recent update only, and its toggle
    bit differs from the one of the reply before exactly if the number of updates in
    between is odd. -/
structure Unmixed (pre : List PdNote) (len : ℕ) (reply : List UInt8) : Prop where
  payload : replyPd len reply = ((updates pre).getLast?.getD []).takeD len 0
  toggle : ∀ before len' reply' (us : List (List UInt8)),
    pre = before ++ .reply len' reply' :: us.map .update →
    (toggleBit reply ≠ toggleBit reply' ↔ Odd us.length)

/-! ## Replies -/

theorem toggleBit_responseBody (c : DllCtx) (odOut : List UInt8) (ck : UInt8) :
    toggleBit (responseBody c odOut ++ [ck]) = c.pdInToggle := by
  have hbits : ∀ a b v : Bool, decide (((if a then odStatusEvent else 0) |||
      (if b then odStatusPdToggle else 0) ||| (if v then odStatusPdValid else 0)) &&&
        odStatusPdToggle ≠ 0) = b := by
    decide
  exact hbits _ _ _

/-- A Type 1 or Type 2 frame reaches its handler. -/
theorem dllHandleFrame_of_type12 (cfg : BuildConfig) {c : DllCtx} (hcrc : frameCrcOk c = true)
    (hk : frameKind c.state c.reqLen (c.frameBuf 0) = .type12) (rx : RxByte) :
    ∃ stats events, dllHandleFrame cfg c rx = dllHandleOperateType12 cfg { c with
      stats := stats, events := events, lastCycleStartUs := rx.procUs, state := .operate } rx := by
  obtain ⟨stats, events, hcyc, -⟩ := cycleStart_eq cfg c rx.procUs
  have hcrc' : frameCrcOk { c with
      stats := stats, events := events, lastCycleStartUs := rx.procUs } = true := hcrc
  refine ⟨stats, events, ?_⟩
  simp only [dllHandleFrame, hcyc]
  rw [if_pos hcrc', dllAcceptFrame_eq]
  simp only [hk]

/-- **A reply to a Type 1 or Type 2 frame** carries the start of the array and the
    toggle bit. -/
theorem replyAt_cases (cfg : BuildConfig) (c : DllCtx) (rx : RxByte) :
    replyAt cfg c rx = [] ∨ ∃ len bytes, replyAt cfg c rx = [.reply len bytes] ∧
      replyPd len bytes = slice c.pdIn 0 len ∧ toggleBit bytes = c.pdInToggle := by
  have ha := kept_rxAssemble cfg c rx
  simp only [replyAt, rxByte]
  generalize rxAssemble cfg c rx = f at ha
  rw [← ha.pdIn, ← ha.pdInToggle]
  by_cases h : frameComplete f = true ∧ frameCrcOk f = true ∧
      frameKind f.state f.reqLen (f.frameBuf 0) = .type12
  · obtain ⟨hfull, hcrc, hk⟩ := h
    obtain ⟨stats, events, hframe⟩ := dllHandleFrame_of_type12 cfg hcrc hk rx
    obtain ⟨_, _, _, _, he, -⟩ := dllHandleOperateType12_eq cfg { f with
      stats := stats, events := events, lastCycleStartUs := rx.procUs, state := .operate } rx
    rw [if_pos ⟨hfull, hcrc, hk⟩, if_pos hfull, hframe, he]
    dsimp only
    by_cases hsend : f.hasSend = true
    · rw [if_pos hsend]
      exact .inr ⟨_, _, rfl, replyPd_responseBody _ _ _, toggleBit_responseBody _ _ _⟩
    · rw [if_neg hsend]
      exact .inl rfl
  · exact .inl (if_neg h)

/-! ## Runs -/

/-- The array is the updates in the log, copied to it one after the other, and the
    toggle bit their parity; so it was when the replies in the log were sent. -/
structure Carries (c : DllCtx) (log : List PdNote) : Prop where
  pdIn : c.pdIn = blits (fun _ => 0) (updates log)
  toggle : c.pdInToggle = true ↔ Odd (updates log).length
  replies : ∀ pre len bytes, pre ++ [.reply len bytes] <+: log →
    replyPd len bytes = slice (blits (fun _ => 0) (updates pre)) 0 len ∧
      (toggleBit bytes = true ↔ Odd (updates pre).length)

theorem updates_append (log log' : List PdNote) :
    updates (log ++ log') = updates log ++ updates log' :=
  List.filterMap_append

theorem Carries.of_eq {c c' : DllCtx} {log : List PdNote} (h : Carries c log)
    (hpd : c'.pdIn = c.pdIn) (hbit : c'.pdInToggle = c.pdInToggle) : Carries c' log :=
  ⟨hpd.trans h.pdIn, hbit ▸ h.toggle, h.replies⟩

theorem Carries.of_kept {c c' : DllCtx} {log : List PdNote} (h : Carries c log) (hk : Kept c c') :
    Carries c' log :=
  h.of_eq hk.pdIn hk.pdInToggle

/-- A further reply in the log. -/
theorem Carries.reply {c : DllCtx} {log : List PdNote} (h : Carries c log) {len : ℕ}
    {bytes : List UInt8} (hpd : replyPd len bytes = slice c.pdIn 0 len)
    (hbit : toggleBit bytes = c.pdInToggle) : Carries c (log ++ [.reply len bytes]) := by
  have hsame : updates (log ++ [.reply len bytes]) = updates log := by
    rw [updates_append]
    exact List.append_nil _
  refine ⟨hsame ▸ h.pdIn, hsame ▸ h.toggle, fun pre len' bytes' hpre => ?_⟩
  rcases concat_prefix_concat_iff.mp hpre with ⟨rfl, hlast⟩ | hpre
  · obtain ⟨rfl, rfl⟩ := PdNote.reply.inj hlast
    rw [← h.pdIn, hbit]
    exact ⟨hpd, h.toggle⟩
  · exact h.replies pre len' bytes' hpre

/-- A further update in the log. -/
theorem Carries.update {c c' : DllCtx} {log : List PdNote} (h : Carries c log) {data : List UInt8}
    (hpd : c'.pdIn = blit c.pdIn 0 data) (hbit : c'.pdInToggle = !c.pdInToggle) :
    Carries c' (log ++ [.update data]) := by
  have hups : updates (log ++ [.update data]) = updates log ++ [data] := updates_append _ _
  refine ⟨?_, ?_, fun pre len bytes hpre => ?_⟩
  · rw [hups, blits_concat, hpd, h.pdIn]
  · rw [hups, hbit, List.length_append, List.length_singleton, Nat.odd_add_one, ← h.toggle]
    simp
  · rcases concat_prefix_concat_iff.mp hpre with ⟨-, hlast⟩ | hpre
    · exact PdNote.noConfusion hlast
    · exact h.replies pre len bytes hpre

/-- One received byte. -/
theorem carries_rxByte (cfg : BuildConfig) {c : DllCtx} {log : List PdNote} (h : Carries c log)
    (rx : RxByte) : Carries (rxByte cfg c rx).1 (log ++ replyAt cfg c rx) := by
  refine Carries.of_kept ?_ (kept_rxByte cfg c rx)
  rcases replyAt_cases cfg c rx with hnone | ⟨len, bytes, he, hpd, hbit⟩
  · rw [hnone, List.append_nil]
    exact h
  · rw [he]
    exact h.reply hpd hbit

/-- One call of `iolink_dll_process`. -/
theorem carries_dllReceive (cfg : BuildConfig) {c : DllCtx} {log : List PdNote} (h : Carries c log)
    (env : CallEnv) :
    Carries (dllReceive cfg c env).ctx (log ++ noteReceive cfg (replyAt cfg) c env) :=
  dllReceive_note_induct cfg (P := Carries)
    (fun c nowMs _ hc => hc.of_kept (kept_inactivityReset c nowMs))
    (fun c rxs _ hc => hc.of_kept (kept_drainRx cfg c rxs))
    (fun c env _ hc => hc.of_kept (kept_detectWakeup c env))
    (fun c nowUs _ hc => hc.of_kept (kept_callGap cfg c nowUs))
    (fun _ rx _ hc => carries_rxByte cfg hc rx) h env

/-- **One call.** -/
theorem carries_lengthStep (cfg : BuildConfig) {d : Device} {log : List PdNote}
    (h : Carries d.dll log) (call : LengthCall) :
    Carries (lengthStep cfg d call).1.dll (log ++ noteLengthCall (notePd cfg) d call) := by
  cases call with
  | setPdLength pdInLen pdOutLen =>
    simp only [noteLengthCall, List.append_nil, lengthStep, dllSetPdLength]
    split_ifs
    · exact h
    · exact h.of_eq rfl rfl
  | call call =>
    simp only [noteLengthCall, lengthStep]
    cases call with
    | process env =>
      obtain ⟨_, _, hp⟩ := polled_eq cfg d env
      have hpolled : Carries (dllPollDiagnostics cfg (deviceIsduProcess cfg d).dll env) log := by
        rw [hp]
        exact h.of_eq rfl rfl
      exact carries_dllReceive cfg hpolled env
    | pdInputUpdate data valid =>
      by_cases hlen : data.length > pdInMaxSize
      · simp only [notePd, deviceStep, pdInputUpdate, if_pos hlen]
        rw [if_neg (by decide), List.append_nil]
        exact h
      · simp only [notePd, deviceStep, pdInputUpdate, if_neg hlen, if_true]
        exact h.update rfl rfl
    | _ =>
      simp only [notePd, noteCall, List.append_nil]
      exact h.of_eq rfl rfl

/-- The invariant of every run from `iolink_init`. -/
theorem carries_pdNotes (cfg : BuildConfig) (config : Config) (hasSend : Bool) (nowUs : UInt64)
    (image : Option ParamsNvm) (store : Store) (calls : List LengthCall) :
    let d₀ := iolinkInit cfg config hasSend nowUs image store
    Carries ((lengthMachine cfg).final d₀ calls).dll (pdNotes cfg d₀ calls) := by
  intro d₀
  have hinit : Carries d₀.dll [] := by
    refine ⟨rfl, ?_, fun pre len bytes hpre => ?_⟩
    · exact iff_of_false Bool.false_ne_true (by decide)
    · simp at hpre
  exact (lengthMachine cfg).final_collect_induct (P := fun d log => Carries d.dll log)
    (fun d call log hd => carries_lengthStep cfg hd call) hinit calls

/-- **A reply carries the most recent update only exactly if nothing of an earlier one
    is left behind its end.** The toggle bit is right in every run. -/
theorem pd_reply_iff (cfg : BuildConfig) (config : Config) (hasSend : Bool) (nowUs : UInt64)
    (image : Option ParamsNvm) (store : Store) (calls : List LengthCall) :
    ∀ pre len reply, pre ++ [.reply len reply] <+:
      pdNotes cfg (iolinkInit cfg config hasSend nowUs image store) calls →
    (Unmixed pre len reply ↔ NothingLeft 0 len (updates pre)) := by
  intro pre len reply hpre
  have hrun := carries_pdNotes cfg config hasSend nowUs image store calls
  obtain ⟨hpd, hbit⟩ := hrun.replies pre len reply hpre
  rw [← slice_blits_iff, ← hpd]
  refine ⟨fun h => h.payload, fun h => ⟨h, ?_⟩⟩
  rintro before len' reply' us rfl
  have hbefore : before ++ [.reply len' reply'] <+:
      before ++ .reply len' reply' :: us.map .update ++ [.reply len reply] := by
    exact ⟨us.map .update ++ [.reply len reply], by simp⟩
  have hbit' := (hrun.replies before len' reply' (hbefore.trans hpre)).2
  have hups : updates (before ++ .reply len' reply' :: us.map .update) = updates before ++ us := by
    rw [updates_append]
    congr 1
    show (us.map PdNote.update).filterMap PdNote.data? = us
    rw [List.filterMap_map]
    exact List.filterMap_some
  rw [hups, List.length_append, Nat.odd_add] at hbit
  rw [ne_eq, Bool.eq_iff_iff, hbit, hbit', ← Nat.not_odd_iff_even]
  by_cases hodd : Odd (updates before).length
  · simp [hodd]
  · simp [hodd]

/-- Wake-up and transition command, then the calls. -/
def afterTransition (calls : List LengthCall) : List LengthCall :=
  [.call (.process (callWith true [])),
    .call (.process (callWith false [0x0F, checksumCk 0x0F 0]))] ++ calls

/-- What is noted with two bytes of input data and none of output data. -/
def notesInOperate (calls : List LengthCall) : List PdNote :=
  pdNotes {} (iolinkInit {} ⟨.type11, 0, 2, 0, 0⟩ true 0 none storeInit) (afterTransition calls)

def inputUpdate (data : List UInt8) : LengthCall := .call (.pdInputUpdate data true)

def cyclicCall : LengthCall := .call (.process (callWith false (cyclicFrame 0x00 0 [] [0])))

/-- Two updates between two replies. -/
def twoUpdates : List LengthCall :=
  [inputUpdate [0x11, 0x22], cyclicCall, inputUpdate [0x33, 0x00], inputUpdate [0x55], cyclicCall]

theorem pd_reply_two :
    let pre : List PdNote := [.update [0x11, 0x22], .reply 2 [0x60, 0x11, 0x22, 0x00, 0x3F],
      .update [0x33, 0x00], .update [0x55]]
    notesInOperate twoUpdates = pre ++ [.reply 2 [0x60, 0x55, 0x00, 0x00, 0x36]] ∧
      Unmixed pre 2 [0x60, 0x55, 0x00, 0x00, 0x36] := by
  intro pre
  have hlog : notesInOperate twoUpdates = pre ++ [.reply 2 [0x60, 0x55, 0x00, 0x00, 0x36]] := by
    decide +kernel
  have hpre : pre ++ [.reply 2 [0x60, 0x55, 0x00, 0x00, 0x36]] <+: notesInOperate twoUpdates := by
    rw [hlog]
  exact ⟨hlog, (pd_reply_iff {} ⟨.type11, 0, 2, 0, 0⟩ true 0 none storeInit
    (afterTransition twoUpdates) pre 2 _ hpre).mpr (by decide)⟩

/-- A reply with the first byte of an update and the second byte of the one before. -/
theorem pd_reply_mixed :
    let pre : List PdNote := [.update [0x11, 0x22], .update [0x33]]
    notesInOperate [inputUpdate [0x11, 0x22], inputUpdate [0x33], cyclicCall] =
      pre ++ [.reply 2 [0x20, 0x33, 0x22, 0x00, 0x2E]] ∧
      ¬ Unmixed pre 2 [0x20, 0x33, 0x22, 0x00, 0x2E] := by
  intro pre
  refine ⟨by decide +kernel, fun h => ?_⟩
  have hpayload := h.payload
  revert hpayload
  decide

end Iolinki
