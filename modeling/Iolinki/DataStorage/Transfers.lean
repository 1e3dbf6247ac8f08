import Mathlib.Logic.Function.Iterate
import Iolinki.DataStorage
import Iolinki.Lib.Machine

/-!
# Transfers of parameters

A download or an upload takes two steps: it is requested, and then it is under way
until it ends. `iolink_ds_process` makes both steps; the master's END command makes
the second one only, and is answered with success in any state.

`iolink_ds_check` stores the checksum of the master before it looks whether the
engine is busy, and the end of a download takes what is stored then
(`masterChecksum_final`).

* `downloads_record_iff`: the checksums that the downloads of a run record.
* `transfer_finished_iff`: exactly when a transfer is finished by its END command.
-/

namespace Iolinki

open Iolinki.Lib

/-! ## The two kinds of transfers -/

/-- The direction of a transfer, as seen from the master. -/
inductive Transfer
  | download
  | upload
  deriving DecidableEq, Repr

namespace Transfer

/-- The command that requests the transfer. -/
def startCmd : Transfer → UInt8
  | download => cmdParamDownloadStart
  | upload => cmdParamUploadStart

/-- The command that ends it. -/
def endCmd : Transfer → UInt8
  | download => cmdParamDownloadEnd
  | upload => cmdParamUploadEnd

/-- The state in which it is requested. -/
def requested : Transfer → DsState
  | download => .downloadReq
  | upload => .uploadReq

/-- The state in which it is under way. -/
def underWay : Transfer → DsState
  | download => .downloading
  | upload => .uploading

/-- The context after its end. -/
def finish : Transfer → DsCtx → DsCtx
  | download, c => { c with currentChecksum := c.masterChecksum, state := .idle }
  | upload, c => { c with state := .idle }

end Transfer

theorem dsHandleCommand_start (t : Transfer) (c : DsCtx) {locks : UInt16}
    (h : locks &&& lockDs = 0) :
    dsHandleCommand c t.startCmd locks =
      if c.state ≠ .idle then (c, -1) else ({ c with state := t.requested }, 0) := by
  unfold dsHandleCommand
  rw [if_neg fun hlock => hlock.2 h]
  cases t <;> rfl

theorem dsHandleCommand_end (t : Transfer) (c : DsCtx) {locks : UInt16}
    (h : locks &&& lockDs = 0) :
    dsHandleCommand c t.endCmd locks = (if c.state = t.underWay then t.finish c else c, 0) := by
  unfold dsHandleCommand
  rw [if_neg fun hlock => hlock.2 h]
  cases t <;> rfl

/-- A locked END of a download is refused. -/
theorem dsHandleCommand_end_locked (c : DsCtx) {locks : UInt16} (h : locks &&& lockDs ≠ 0) :
    dsHandleCommand c Transfer.download.endCmd locks = (c, -2) :=
  if_pos ⟨.inr rfl, h⟩

theorem dsProcess_requested {t : Transfer} {c : DsCtx} (h : c.state = t.requested) :
    dsProcess c = { c with state := t.underWay } := by
  unfold dsProcess
  rw [h]
  cases t <;> rfl

theorem dsProcess_underWay {t : Transfer} {c : DsCtx} (h : c.state = t.underWay) :
    dsProcess c = t.finish c := by
  unfold dsProcess
  rw [h]
  cases t <;> rfl

theorem dsProcess_idle {c : DsCtx} (h : c.state = .idle) : dsProcess c = c := by
  cases c
  subst h
  rfl

/-! ## The checksum of a download -/

/-- A call of one of the three functions. -/
inductive DsCall
  | check (masterChecksum : UInt16)
  | process
  | command (cmd : UInt8) (accessLocks : UInt16)
  deriving DecidableEq, Repr

/-- The context after a call, and what the call returns. -/
def storageStep (c : DsCtx) : DsCall → DsCtx × Option Int
  | .check masterChecksum => (dsCheck c masterChecksum, none)
  | .process => (dsProcess c, none)
  | .command cmd accessLocks =>
    ((dsHandleCommand c cmd accessLocks).1, some (dsHandleCommand c cmd accessLocks).2)

/-- The Data Storage engine under any sequence of calls. -/
def storageMachine : Machine DsCtx DsCall (Option Int) := ⟨storageStep⟩

/-- The context after the calls, from `iolink_ds_init` on. -/
def dsAfter (calls : List DsCall) : DsCtx := storageMachine.final dsInit calls

theorem dsAfter_append (calls calls' : List DsCall) :
    dsAfter (calls ++ calls') = storageMachine.final (dsAfter calls) calls' :=
  storageMachine.final_append dsInit calls calls'

/-- The download that is under way is completed by the call: from DOWNLOADING to IDLE,
    by `iolink_ds_process` or by the END command. -/
structure DsCtx.CompletedBy (c : DsCtx) (call : DsCall) : Prop where
  downloading : c.state = .downloading
  idle : (storageStep c call).1.state = .idle
  call : call = .process ∨ ∃ accessLocks, call = .command cmdParamDownloadEnd accessLocks

/-- After `pre` the call `iolink_ds_check(ctx, m)` starts a download, which is under way
    during the calls `mid` and is completed by `last`. -/
structure CheckedDownload (pre : List DsCall) (m : UInt16) (mid : List DsCall) (last : DsCall) :
    Prop where
  idle : (dsAfter pre).state = .idle
  started : (dsAfter (pre ++ [.check m])).state = .downloadReq
  busy : ∀ p, p <+: mid → (dsAfter (pre ++ .check m :: p)).state ≠ .idle
  completed : (dsAfter (pre ++ .check m :: mid)).CompletedBy last

/-- The checksum of the last `iolink_ds_check` among the calls; `m` if there is none. -/
def lastChecked (m : UInt16) (calls : List DsCall) : UInt16 :=
  calls.foldl (fun m call => match call with
    | .check m' => m'
    | _ => m) m

theorem masterChecksum_dsCheck (c : DsCtx) (masterChecksum : UInt16) :
    (dsCheck c masterChecksum).masterChecksum = masterChecksum := by
  unfold dsCheck
  dsimp only
  split_ifs <;> rfl

theorem masterChecksum_dsProcess (c : DsCtx) : (dsProcess c).masterChecksum = c.masterChecksum := by
  unfold dsProcess
  cases c.state <;> rfl

theorem masterChecksum_dsHandleCommand (c : DsCtx) (cmd : UInt8) (accessLocks : UInt16) :
    (dsHandleCommand c cmd accessLocks).1.masterChecksum = c.masterChecksum := by
  unfold dsHandleCommand dsAbort
  split_ifs <;> rfl

/-- **Every check replaces the checksum of the master**, whether the engine is busy or not. -/
theorem masterChecksum_final (c : DsCtx) (calls : List DsCall) :
    (storageMachine.final c calls).masterChecksum = lastChecked c.masterChecksum calls := by
  induction calls generalizing c with
  | nil => rfl
  | cons call calls ih =>
    rw [Machine.final_cons, ih, lastChecked, lastChecked, List.foldl_cons]
    cases call with
    | check m => exact congrArg (List.foldl _ · calls) (masterChecksum_dsCheck c m)
    | process => exact congrArg (List.foldl _ · calls) (masterChecksum_dsProcess c)
    | command cmd locks =>
      exact congrArg (List.foldl _ · calls) (masterChecksum_dsHandleCommand c cmd locks)

/-- The end of a download records the checksum of the master. -/
theorem DsCtx.CompletedBy.currentChecksum {c : DsCtx} {call : DsCall} (h : c.CompletedBy call) :
    (storageStep c call).1.currentChecksum = c.masterChecksum := by
  obtain ⟨hs, hidle, rfl | ⟨locks, rfl⟩⟩ := h
  · show (dsProcess c).currentChecksum = c.masterChecksum
    rw [dsProcess_underWay (t := .download) hs]
    rfl
  · change (dsHandleCommand c Transfer.download.endCmd locks).1.state = .idle at hidle
    show (dsHandleCommand c Transfer.download.endCmd locks).1.currentChecksum = c.masterChecksum
    by_cases hlock : locks &&& lockDs = 0
    · rw [dsHandleCommand_end .download c hlock]
      exact congrArg DsCtx.currentChecksum (if_pos hs)
    · -- a locked END leaves the engine in DOWNLOADING
      rw [dsHandleCommand_end_locked c hlock, hs] at hidle
      cases hidle

/-- What a download records in the end. -/
theorem CheckedDownload.currentChecksum {pre mid : List DsCall} {m : UInt16} {last : DsCall}
    (h : CheckedDownload pre m mid last) :
    (dsAfter (pre ++ .check m :: (mid ++ [last]))).currentChecksum = lastChecked m mid := by
  have hsplit : pre ++ .check m :: (mid ++ [last]) = (pre ++ .check m :: mid) ++ [last] := by simp
  rw [hsplit, dsAfter_append]
  refine h.completed.currentChecksum.trans ?_
  rw [dsAfter_append, Machine.final_cons, masterChecksum_final]
  exact congrArg (lastChecked · mid) (masterChecksum_dsCheck _ m)

/-- **The checksums that downloads record.** In a run, every completed download that was
    started by a check records the checksum of that check exactly if for every one of them
    the last check before its completion had the same checksum. -/
theorem downloads_record_iff (calls : List DsCall) :
    (∀ pre m mid last, pre ++ .check m :: (mid ++ [last]) <+: calls →
        CheckedDownload pre m mid last →
        (dsAfter (pre ++ .check m :: (mid ++ [last]))).currentChecksum = m) ↔
      ∀ pre m mid last, pre ++ .check m :: (mid ++ [last]) <+: calls →
        CheckedDownload pre m mid last → lastChecked m mid = m := by
  constructor
  · intro h pre m mid last hpre hd
    rw [← hd.currentChecksum]
    exact h pre m mid last hpre hd
  · intro h pre m mid last hpre hd
    rw [hd.currentChecksum]
    exact h pre m mid last hpre hd

/-- A check with another checksum while a download is under way. -/
theorem foreign_checksum_recorded :
    let mid : List DsCall := [.process, .check 0x1234]
    CheckedDownload [] 0xABCD mid .process ∧
      (dsAfter (.check 0xABCD :: (mid ++ [.process]))).currentChecksum = 0x1234 := by
  have hbusy : ∀ p ∈ List.inits [DsCall.process, .check 0x1234],
      (dsAfter ([] ++ .check 0xABCD :: p)).state ≠ .idle := by decide
  exact ⟨⟨rfl, rfl, fun p hp => hbusy p ((List.mem_inits p _).mpr hp), ⟨rfl, rfl, .inl rfl⟩⟩, rfl⟩

/-! ## Transfers between two commands of the master -/

/-- A transfer has ended and another one can be started, at once or after calls of
    `iolink_ds_process`. -/
structure Transfer.Finished (t : Transfer) (c : DsCtx) : Prop where
  idle : c.state = .idle
  checksum : t = .download → c.currentChecksum = c.masterChecksum
  next : ∀ (t' : Transfer) (after : ℕ) (locks : UInt16), locks &&& lockDs = 0 →
    (dsHandleCommand (dsProcess^[after] c) t'.startCmd locks).2 = 0

theorem dsProcess_iterate_idle {c : DsCtx} (h : c.state = .idle) (n : ℕ) : dsProcess^[n] c = c :=
  Function.iterate_fixed (dsProcess_idle h) n

theorem Transfer.state_finish (t : Transfer) (c : DsCtx) : (t.finish c).state = .idle := by
  cases t <;> rfl

theorem Transfer.finished_finish (t : Transfer) (c : DsCtx) : t.Finished (t.finish c) where
  idle := t.state_finish c
  checksum := by rintro rfl; rfl
  next t' after locks h := by
    rw [dsProcess_iterate_idle (t.state_finish c), dsHandleCommand_start t' _ h,
      if_neg (not_not.mpr (t.state_finish c))]

/-- A transfer that was requested, after `n` calls of `iolink_ds_process` and its END. -/
theorem dsHandleCommand_end_iterate {t : Transfer} {c : DsCtx} (h : c.state = t.requested)
    {locks : UInt16} (hlock : locks &&& lockDs = 0) (n : ℕ) :
    dsHandleCommand (dsProcess^[n] c) t.endCmd locks = (if n = 0 then c else t.finish c, 0) := by
  rw [dsHandleCommand_end t _ hlock]
  match n with
  | 0 =>
    -- the END finds the request and does nothing
    have hne : c.state ≠ t.underWay := by rw [h]; cases t <;> decide
    rw [Function.iterate_zero_apply, if_neg hne, if_pos rfl]
  | 1 =>
    rw [Function.iterate_one, dsProcess_requested h, if_pos rfl, if_neg Nat.one_ne_zero]
    cases t <;> rfl
  | n + 2 =>
    -- the transfer has ended by itself
    have hdone : dsProcess^[n + 2] c = t.finish c := by
      rw [Function.iterate_add_apply, Function.iterate_succ_apply, Function.iterate_one,
        dsProcess_requested h, dsProcess_underWay (t := t) rfl,
        dsProcess_iterate_idle (t.state_finish _)]
      cases t <;> rfl
    have hne : (t.finish c).state ≠ t.underWay := by rw [t.state_finish]; cases t <;> decide
    rw [hdone, if_neg hne, if_neg (by omega)]

/-- **When the END command finishes a transfer.** From IDLE and without the lock, the START
    and the END command are both answered with success, and after the END the transfer is
    finished exactly if `iolink_ds_process` was called between them. -/
theorem transfer_finished_iff (t : Transfer) {c : DsCtx} (hidle : c.state = .idle)
    (before between : ℕ) {locks locks' : UInt16} (hlock : locks &&& lockDs = 0)
    (hlock' : locks' &&& lockDs = 0) :
    let started := dsHandleCommand (dsProcess^[before] c) t.startCmd locks
    let ended := dsHandleCommand (dsProcess^[between] started.1) t.endCmd locks'
    started.2 = 0 ∧ ended.2 = 0 ∧ (t.Finished ended.1 ↔ 0 < between) := by
  intro started ended
  have hstarted : started = ({ c with state := t.requested }, 0) := by
    show dsHandleCommand (dsProcess^[before] c) t.startCmd locks = _
    rw [dsProcess_iterate_idle hidle, dsHandleCommand_start t c hlock, if_neg (not_not.mpr hidle)]
  have hended : ended = (if between = 0 then started.1 else t.finish started.1, 0) :=
    dsHandleCommand_end_iterate (by rw [hstarted]) hlock' between
  refine ⟨by rw [hstarted], by rw [hended], ?_⟩
  rw [hended]
  by_cases hzero : between = 0
  · refine iff_of_false (fun hfin => ?_) (by omega)
    have hreq := hfin.idle
    rw [if_pos hzero, hstarted] at hreq
    cases t <;> cases hreq
  · rw [if_neg hzero]
    exact iff_of_true (t.finished_finish _) (by omega)

/-- One call between the commands of a download. -/
theorem transfer_finished_one :
    Transfer.download.Finished (dsHandleCommand (dsProcess^[1]
      (dsHandleCommand (dsProcess^[0] dsInit) Transfer.download.startCmd 0).1)
      Transfer.download.endCmd 0).1 :=
  (transfer_finished_iff .download (c := dsInit) rfl 0 1 rfl rfl).2.2.mpr Nat.one_pos

/-- Without such a call both commands are answered with success, the download is still
    requested and another one is refused. -/
theorem acknowledged_download_pending :
    let started := dsHandleCommand dsInit cmdParamDownloadStart 0
    let ended := dsHandleCommand started.1 cmdParamDownloadEnd 0
    started.2 = 0 ∧ ended.2 = 0 ∧ ended.1.state = .downloadReq ∧
      (dsHandleCommand ended.1 cmdParamDownloadStart 0).2 = -1 := by
  decide

end Iolinki
