import Iolinki.Isdu.Invariant
import Iolinki.Isdu.Response
import Iolinki.Dll.Model

/-!
# The engine comes to rest

An idle cycle carries the OD byte `0x00`, which is not a START byte. Whatever request a
master has left half sent and whatever response it has not fetched, idle cycles bring the
ISDU engine back to IDLE: a half-sent request ends in a segmentation error, is refused or
is executed, and every cycle fetches a byte of a pending response.

* `settleRank_idleStep`: an idle cycle lowers the rank.
* `idle_settles`: after `settleBound` idle cycles the engine is in IDLE.
-/

namespace Iolinki

open Iolinki.Lib

/-- The engine over idle cycles, in surroundings that may change between them. -/
def idleMachine (cfg : BuildConfig) : Machine IsduCtx Host UInt8 where
  step c host := odExchange (isduProcess cfg host c).2 0x00

/-! ## The rank -/

/-- The bytes of the pending response, and one call more if it has no data. -/
def emitRank (c : IsduCtx) : ℕ :=
  2 * max 1 (c.responseLen - c.responseIdx) - if c.isResponseControlSent then 1 else 0

/-- A bound on the idle cycles until the engine is in IDLE. A control byte `0x00` has the
    sequence number 0, which follows 63. -/
def settleRank (c : IsduCtx) : ℕ :=
  match c.state with
  | .idle => 0
  | .responseReady => emitRank c
  | .serviceExecute => 510
  | .segmentCollect => if c.segmentSeq = 63 then 512 else 4
  | _ => if c.segmentSeq = 63 then 513 else 511

/-- The largest rank. -/
def settleBound : ℕ := 513

theorem emitRank_le {c : IsduCtx} (h : IsduInv c) : emitRank c ≤ 510 := by
  have hlen := h.responseLen
  unfold emitRank
  omega

theorem emitRank_pos (c : IsduCtx) : 0 < emitRank c := by
  unfold emitRank
  split_ifs
  · omega
  · omega

theorem settleRank_le {c : IsduCtx} (h : IsduInv c) : settleRank c ≤ settleBound := by
  have hemit := emitRank_le h
  unfold settleRank settleBound
  split
  · omega
  · omega
  · omega
  · split_ifs
    · omega
    · omega
  · split_ifs
    · omega
    · omega

theorem settleRank_eq_zero {c : IsduCtx} (h : settleRank c = 0) : c.state = .idle := by
  have hemit := emitRank_pos c
  unfold settleRank at h
  split at h
  · assumption
  · omega
  · omega
  · split_ifs at h
  · split_ifs at h

theorem settleRank_responseReady {c : IsduCtx} (hs : c.state = .responseReady) :
    settleRank c = emitRank c := by
  unfold settleRank
  rw [hs]

/-! ## One idle cycle -/

/-- A call that fetches a byte of the response. -/
theorem settleRank_getResponseByte {c : IsduCtx} (h : IsduInv c) (hs : c.state = .responseReady) :
    settleRank (isduGetResponseByte c).1 ≤ settleRank c - 1 := by
  have hidx := h.responseIdx
  rw [settleRank_responseReady hs]
  unfold isduGetResponseByte
  rw [if_neg (not_not.mpr hs)]
  dsimp only
  split_ifs with hctrl hmore hlast
  · -- the control byte
    rw [settleRank_responseReady (by exact hs)]
    have hsent : c.isResponseControlSent = false := by simpa using hctrl
    show 2 * max 1 (c.responseLen - c.responseIdx) - 1 ≤ emitRank c - 1
    unfold emitRank
    rw [hsent, if_neg Bool.false_ne_true]
    omega
  · exact Nat.zero_le _
  · -- a data byte, and more to come
    rw [settleRank_responseReady (by exact hs)]
    have hsent : c.isResponseControlSent = true := by simpa using hctrl
    show 2 * max 1 (c.responseLen - (c.responseIdx + 1)) - 0 ≤ emitRank c - 1
    unfold emitRank
    rw [hsent, if_pos rfl]
    omega
  · exact Nat.zero_le _

/-- An error answer. -/
theorem settleRank_error {c : IsduCtx} (hs : c.state = .responseReady) (hidx : c.responseIdx = 0)
    (hlen : c.responseLen = 2) : settleRank c ≤ 4 := by
  rw [settleRank_responseReady hs, emitRank, hidx, hlen]
  omega

/-- The sequence number 0 follows 63. -/
theorem eq_of_nextSeq_eq_zero {seq : UInt8} (h : seq.toNat ≤ 63) (hnext : nextSeq seq = 0) :
    seq = 63 := by
  revert seq
  decide +kernel

theorem settleRank_collecting {c : IsduCtx} (hs : c.state ∈ segmentStates)
    (hseq : c.segmentSeq ≠ 63) : settleRank c ≤ 511 := by
  simp only [segmentStates, List.mem_cons, List.not_mem_nil, or_false] at hs
  unfold settleRank
  rcases hs with hs | hs | hs | hs | hs
  all_goals
    rw [hs]
    exact (if_neg hseq).le

/-- What the byte `0x00` makes of a request in progress. -/
inductive AfterIdleByte (c c' : IsduCtx) : Prop
  | refused : c'.state = .responseReady → settleRank c' ≤ settleRank c → AfterIdleByte c c'
  | goesOn : c'.state ≠ .responseReady → settleRank c' ≤ settleRank c - 1 → AfterIdleByte c c'

/-- The byte `0x00` where a control byte is expected. -/
theorem afterIdleByte_segmentCollect {c : IsduCtx} (h : IsduInv c)
    (hs : c.state = .segmentCollect) : AfterIdleByte c (isduCollectByte c 0x00).1 := by
  have hrank : settleRank c = if c.segmentSeq = 63 then 512 else 4 := by
    unfold settleRank
    rw [hs]
  rw [collectByte_segmentCollect hs (by decide), isduSegmentControl]
  by_cases hseq : seqBits 0x00 = nextSeq c.segmentSeq
  · have h63 : c.segmentSeq = 63 := eq_of_nextSeq_eq_zero h.segmentSeq hseq.symm
    have hnext := h.nextState hs
    rw [if_neg (not_not.mpr hseq)]
    refine .goesOn ?_ ?_
    · show c.nextState ≠ .responseReady
      intro hready
      rw [hready] at hnext
      revert hnext
      decide
    · rw [hrank, if_pos h63]
      apply settleRank_collecting hnext
      show seqBits 0x00 ≠ 63
      decide
  · rw [if_pos hseq]
    refine .refused rfl ((settleRank_error (by rfl) (by rfl) (by rfl)).trans ?_)
    rw [hrank]
    split_ifs
    · omega
    · omega

theorem settleRank_data {c : IsduCtx} (hs : c.state.Collecting) (hseg : c.state ≠ .segmentCollect) :
    settleRank c = if c.segmentSeq = 63 then 513 else 511 := by
  unfold settleRank
  split
  next h => rw [h] at hs; exact hs.elim
  next h => rw [h] at hs; exact hs.elim
  next h => rw [h] at hs; exact hs.elim
  next h => exact absurd h hseg
  next => rfl

/-- The byte `0x00` where a data byte is expected. -/
theorem afterIdleByte_data {c : IsduCtx} (hs : c.state.Collecting)
    (hseg : c.state ≠ .segmentCollect) :
    AfterIdleByte c (isduCollectByte c 0x00).1 := by
  have hrank := settleRank_data hs hseg
  -- A further control byte is expected, with the sequence number that was.
  have hmore : ∀ c' : IsduCtx, c'.state = .segmentCollect → c'.segmentSeq = c.segmentSeq →
      AfterIdleByte c c' := by
    intro c' hs' hseq'
    refine .goesOn (by rw [hs']; decide) ?_
    have hrank' : settleRank c' = if c.segmentSeq = 63 then 512 else 4 := by
      unfold settleRank
      rw [hs', hseq']
    rw [hrank, hrank']
    split_ifs
    · omega
    · omega
  have hdone : ∀ c' : IsduCtx, c'.state = .serviceExecute → AfterIdleByte c c' := by
    intro c' hs'
    refine .goesOn (by rw [hs']; decide) ?_
    have hrank' : settleRank c' = 510 := by
      unfold settleRank
      rw [hs']
    rw [hrank, hrank']
    split_ifs
    · omega
    · omega
  have hidle : c.state ≠ .idle ∧ c.state ≠ .responseReady := by
    refine ⟨?_, ?_⟩
    all_goals
      intro h
      rw [h] at hs
      exact hs
  rw [collectByte_data hidle.1 hseg hidle.2, isduCollectData]
  cases hstate : c.state with
  | headerInitial =>
    -- service 0 is refused
    refine .refused rfl ((settleRank_error (by rfl) (by rfl) (by rfl)).trans ?_)
    rw [hrank]
    split_ifs
    · omega
    · omega
  | headerExtLen => exact hmore _ rfl rfl
  | headerIndexHigh => exact hmore _ rfl rfl
  | headerIndexLow => exact hmore _ rfl rfl
  | headerSubindex =>
    dsimp only
    split_ifs
    · exact hmore _ rfl rfl
    · exact hdone _ rfl
  | dataCollect =>
    dsimp only
    split_ifs
    · exact hdone _ rfl
    · exact hmore _ rfl rfl
  | segmentCollect => exact absurd hstate hseg
  | idle => exact absurd hstate hidle.1
  | responseReady => exact absurd hstate hidle.2
  | serviceExecute | busy =>
    rw [hstate] at hs
    exact hs.elim

/-- A call of `iolink_isdu_collect_byte` and one of `iolink_isdu_get_response_byte`. -/
theorem settleRank_odExchange {c : IsduCtx} (h : IsduInv c) (hs : c.state ≠ .serviceExecute) :
    settleRank (odExchange c 0x00).1 ≤ settleRank c - 1 := by
  have hcol := isduInv_collectByte h 0x00
  show settleRank (isduGetResponseByte (isduCollectByte c 0x00).1).1 ≤ _
  by_cases hawait : c.state.AwaitsStart
  · rw [collectByte_quiet hawait (by decide)]
    rcases hawait with hidle | hready
    · rw [getResponseByte_of_ne (by rw [hidle]; decide)]
      unfold settleRank
      rw [hidle]
      exact Nat.zero_le _
    · exact settleRank_getResponseByte h hready
  · have hcollect : c.state.Collecting := by
      cases hstate : c.state with
      | serviceExecute => exact absurd hstate hs
      | busy => exact absurd hstate h.notBusy
      | idle => exact absurd (.inl hstate) hawait
      | responseReady => exact absurd (.inr hstate) hawait
      | _ => trivial
    have hafter : AfterIdleByte c (isduCollectByte c 0x00).1 := by
      by_cases hseg : c.state = .segmentCollect
      · exact afterIdleByte_segmentCollect h hseg
      · exact afterIdleByte_data hcollect hseg
    cases hafter with
    | refused hready hrank => exact (settleRank_getResponseByte hcol hready).trans (by omega)
    | goesOn hready hrank =>
      rw [getResponseByte_of_ne hready]
      exact hrank

/-- **An idle cycle lowers the rank.** -/
theorem settleRank_idleStep (cfg : BuildConfig) (c : IsduCtx) (host : Host) (h : IsduInv c) :
    settleRank ((idleMachine cfg).step c host).1 ≤ settleRank c - 1 := by
  have hproc := isduInv_process cfg host h
  show settleRank (odExchange (isduProcess cfg host c).2 0x00).1 ≤ _
  by_cases hs : c.state = .serviceExecute
  · have hstart := isduProcess_awaitsStart cfg host hs
    have hrank : settleRank c = 510 := by
      unfold settleRank
      rw [hs]
    have hne : (isduProcess cfg host c).2.state ≠ .serviceExecute := by
      intro hexec
      rw [hexec] at hstart
      rcases hstart with hidle | hready
      · cases hidle
      · cases hready
    have hanswer : settleRank (isduProcess cfg host c).2 ≤ 510 := by
      rcases hstart with hidle | hready
      · unfold settleRank
        rw [hidle]
        show 0 ≤ 510
        omega
      · rw [settleRank_responseReady hready]
        exact emitRank_le hproc
    have hnext := settleRank_odExchange hproc hne
    omega
  · rw [isduProcess_of_ne cfg host hs]
    exact settleRank_odExchange h hs

/-- Idle cycles keep the invariant. -/
theorem isduInv_idleStep (cfg : BuildConfig) (c : IsduCtx) (host : Host) (h : IsduInv c) :
    IsduInv ((idleMachine cfg).step c host).1 :=
  isduInv_getResponseByte (isduInv_collectByte (isduInv_process cfg host h) 0x00)

/-- **The engine comes to rest.** -/
theorem idle_settles (cfg : BuildConfig) {c : IsduCtx} (h : IsduInv c) {hosts : List Host}
    (hlen : settleBound ≤ hosts.length) : ((idleMachine cfg).final c hosts).state = .idle := by
  apply settleRank_eq_zero
  have hrank := (idleMachine cfg).rank_final (isduInv_idleStep cfg) (settleRank_idleStep cfg) h
    hosts
  have hbound := settleRank_le h
  omega

end Iolinki
