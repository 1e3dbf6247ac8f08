import Iolinki.Isdu.Model

/-!
# Which requests are answered

`iolink_isdu_process` turns a collected request into a response. Every handler
has to set `state`, `response_len` and `response_idx` itself, and a handler that
returns without doing so loses the request: `iolink_isdu_process` then falls
back to IDLE.

* `isduProcess_answered_iff`: a request gets an answer exactly when it is not
  `Unanswered`. The four kinds of unanswered requests are a write of the
  detailed device status, an access to an identification string or a read of
  the application tag whose pointer is NULL, and a write of the application tag
  that `iolink_params_set` refuses.
* `detailedStatus_write_unanswered`: such a write on a freshly wired engine
  with the default device information is dropped.
-/

namespace Iolinki

open Iolinki.Lib

/-- The pointers of the context as `iolink_dll_init` sets them
    (`src/dll.c`, lines 248–251). -/
def IsduCtx.Wired (c : IsduCtx) : Prop := c.eventCtx = true ∧ c.dsCtx = false ∧ c.dllCtx = true

/-- An answer stands in the response buffer of `size` bytes. -/
def Answered (size : ℕ) (c : IsduCtx) : Prop :=
  c.state = .responseReady ∧ c.responseIdx = 0 ∧ c.responseLen ≤ size

/-- The requests that no handler answers. -/
def Unanswered (h : Host) (c : IsduCtx) : Prop :=
  (c.header.index = idxDetailedDeviceStatus ∧ c.header.type = .write) ∨
  stringOfIndex (deviceInfoGet h.store).1 c.header.index = some none ∨
  (c.header.index = idxApplicationTag ∧ c.header.type = .read ∧
    (deviceInfoGet h.store).1.applicationTag = none) ∨
  (c.header.index = idxApplicationTag ∧ c.header.type = .write ∧
    (32 < c.bufferIdx ∨ ∃ info, h.store.deviceInfo = .user info))

/-! ## What a handler can do to the context -/

/-- `P` is kept by everything the handlers do to the context. -/
structure HandlerClosed (P : IsduCtx → Prop) : Prop where
  putError : ∀ {c : IsduCtx} (code : UInt8), P c → P (putError c code)
  putData : ∀ {c : IsduCtx} (data : List UInt8), P c → P (putData c data)
  noData : ∀ {c : IsduCtx}, P c → P { c with responseLen := 0 }
  responseReady : ∀ {c : IsduCtx}, P c → P (responseReady c)
  resetSeq : ∀ {c : IsduCtx}, P c → P (resetSeq c)
  resetPending : ∀ {c : IsduCtx}, P c → P { c with resetPending := true }
  appResetPending : ∀ {c : IsduCtx}, P c → P { c with appResetPending := true }

namespace HandlerClosed

variable {P : IsduCtx → Prop} (hP : HandlerClosed P) {c : IsduCtx} (hc : P c)

include hP hc

theorem error (code : UInt8) : P (Iolinki.responseReady (Iolinki.putError c code)) :=
  hP.responseReady (hP.putError code hc)

theorem data (data : List UInt8) : P (Iolinki.responseReady (Iolinki.putData c data)) :=
  hP.responseReady (hP.putData data hc)

theorem empty : P (answerEmpty c) := hP.responseReady (hP.noData hc)

omit hP hc in
theorem ite {p : Prop} [Decidable p] {a b : Host × IsduCtx} (ha : P a.2) (hb : P b.2) :
    P (if p then a else b).2 := by
  split_ifs
  · exact ha
  · exact hb

theorem handleTag {cfg : BuildConfig} {h : Host} (index : UInt16) {finish : IsduCtx → IsduCtx}
    (hfin : ∀ {c : IsduCtx}, P c → P (finish c)) : P (handleTag cfg h c index finish).2 := by
  unfold Iolinki.handleTag
  split_ifs
  · dsimp only
    split_ifs
    · exact hfin (hP.empty hc)
    · exact hc
  · dsimp only
    split
    · exact hfin (hP.data hc _)
    · exact hc

theorem handleIndex (cfg : BuildConfig) (h : Host) (info : DeviceInfo) :
    P (handleIndex cfg h info c).2 := by
  have hdata := hP.data hc
  have herr := hP.error hc
  unfold Iolinki.handleIndex
  refine ite (hP.resetSeq (hdata _)) (ite (hP.resetSeq (hdata _)) (ite (hP.resetSeq (hdata _)) ?_))
  split
  · unfold copyString
    split
    · exact hdata _
    · exact hc
  · refine ite (hP.handleTag hc _ hP.resetSeq) (ite (hP.handleTag hc _ hP.resetSeq)
      (ite (hP.handleTag hc _ id) (ite (ite (herr _) (hdata _)) ?_)))
    exact ite (hdata _) (ite (hdata _) (ite (hdata _) (ite (hdata _) (herr _))))

theorem handleSystemCommand (h : Host) (cmd : UInt8) : P (handleSystemCommand h c cmd).2 := by
  have hempty := hP.empty hc
  have hds : ∀ ret, P (dsAnswer c ret) := by
    intro ret
    unfold dsAnswer
    split_ifs <;> first | exact hP.error hc _ | exact hempty
  have hlegacy : ∀ ret, P (dsLegacyAnswer c ret) := by
    intro ret
    unfold dsLegacyAnswer
    split_ifs <;> first | exact hP.error hc _ | exact hempty
  unfold Iolinki.handleSystemCommand
  refine ite (hP.empty (hP.resetPending hc)) (ite (hP.empty (hP.appResetPending hc))
    (ite hempty (ite hempty ?_)))
  exact ite (ite (hds _) hempty) (ite (ite (hlegacy _) hempty) (ite (ite (hlegacy _) hempty)
    (ite hempty (hP.error hc _))))

/-- The induction rule for the handlers. -/
theorem handleStandardCommands (cfg : BuildConfig) (h : Host) :
    P (handleStandardCommands cfg h c).2 := by
  have hread : P (handleEventRead cfg h c).2 := by
    unfold handleEventRead
    split_ifs
    · split <;> exact hP.data hc _
    · exact hP.data hc _
  have hlocks : P (handleAccessLocks h c).2 := ite (hP.data hc _) (hP.empty hc)
  have hstatus : P (handleDetailedDeviceStatus cfg h c) := by
    unfold handleDetailedDeviceStatus
    split_ifs
    · exact hP.putError _ hc
    · exact hP.noData hc
    · exact hP.data hc _
  have hstats : P (Iolinki.responseReady (handleErrorStats h c)) := by
    refine hP.responseReady ?_
    unfold handleErrorStats
    split_ifs
    · exact hP.putError _ hc
    · exact hP.putError _ hc
    · exact hP.putError _ hc
    · exact hP.data hc _
  unfold Iolinki.handleStandardCommands
  refine ite (ite (ite (hP.handleSystemCommand hc h _) (hP.error hc _)) hread) (ite hlocks
    (ite hstatus (ite hstats ?_)))
  exact hP.handleIndex hc cfg _ _

end HandlerClosed

/-! ## Responses that are always in range -/

section Handlers

variable {size : ℕ} (hsize : 255 ≤ size)

theorem answered_responseReady {c : IsduCtx} (h : c.responseLen ≤ size) :
    Answered size (responseReady c) := ⟨rfl, rfl, h⟩

theorem answered_answerEmpty (c : IsduCtx) : Answered size (answerEmpty c) :=
  answered_responseReady (Nat.zero_le _)

theorem answered_ite {p : Prop} [Decidable p] {a b : Host × IsduCtx}
    (ha : p → Answered size a.2) (hb : ¬ p → Answered size b.2) :
    Answered size (if p then a else b).2 := by
  split_ifs with hp
  · exact ha hp
  · exact hb hp

theorem answered_resetSeq {c : IsduCtx} (h : Answered size c) : Answered size (resetSeq c) := h

include hsize

theorem answered_putError (c : IsduCtx) (code : UInt8) :
    Answered size (responseReady (putError c code)) :=
  answered_responseReady (show 2 ≤ size by omega)

theorem answered_putData (c : IsduCtx) (data : List UInt8) :
    Answered size (responseReady (putData c data)) :=
  answered_responseReady (show data.length % 256 ≤ size by omega)

theorem dsAnswer_answered (c : IsduCtx) (ret : Int) : Answered size (dsAnswer c ret) := by
  unfold dsAnswer
  by_cases h : ret ≠ 0
  · rw [if_pos h]; exact answered_putError hsize c _
  · rw [if_neg h]; exact answered_answerEmpty c

theorem dsLegacyAnswer_answered (c : IsduCtx) (ret : Int) :
    Answered size (dsLegacyAnswer c ret) := by
  unfold dsLegacyAnswer
  split_ifs
  · exact answered_putError hsize c _
  · exact answered_answerEmpty c

theorem handleSystemCommand_answered (h : Host) (c : IsduCtx) (cmd : UInt8) :
    Answered size (handleSystemCommand h c cmd).2 := by
  have hok : ∀ c, Answered size (answerEmpty c) := fun c => answered_answerEmpty c
  unfold handleSystemCommand
  refine answered_ite (fun _ => hok _) fun _ => ?_
  refine answered_ite (fun _ => hok _) fun _ => ?_
  refine answered_ite (fun _ => hok _) fun _ => ?_
  refine answered_ite (fun _ => hok _) fun _ => ?_
  refine answered_ite (fun _ => answered_ite (fun _ => dsAnswer_answered hsize c _)
    fun _ => hok _) fun _ => ?_
  refine answered_ite (fun _ => answered_ite (fun _ => dsLegacyAnswer_answered hsize c _)
    fun _ => hok _) fun _ => ?_
  refine answered_ite (fun _ => answered_ite (fun _ => dsLegacyAnswer_answered hsize c _)
    fun _ => hok _) fun _ => ?_
  exact answered_ite (fun _ => hok _) fun _ => answered_putError hsize c _

theorem handleAccessLocks_answered (h : Host) (c : IsduCtx) :
    Answered size (handleAccessLocks h c).2 := by
  unfold handleAccessLocks
  by_cases hr : c.header.type = .read
  · rw [if_pos hr]; exact answered_putData hsize _ _
  · rw [if_neg hr]; exact answered_answerEmpty c

theorem handleEventRead_answered (cfg : BuildConfig) (h : Host) (c : IsduCtx) :
    Answered size (handleEventRead cfg h c).2 := by
  unfold handleEventRead
  split_ifs
  · split <;> exact answered_putData hsize _ _
  · exact answered_putData hsize _ _

theorem handleErrorStats_answered (h : Host) (c : IsduCtx) :
    Answered size (responseReady (handleErrorStats h c)) := by
  unfold handleErrorStats
  split_ifs
  · exact answered_putError hsize c _
  · exact answered_putError hsize c _
  · exact answered_putError hsize c _
  · exact answered_responseReady (answered_putData hsize c _).2.2

theorem handleDetailedDeviceStatus_read (cfg : BuildConfig) (h : Host) {c : IsduCtx}
    (hev : c.eventCtx = true) (hr : c.header.type = .read) :
    Answered size (handleDetailedDeviceStatus cfg h c) := by
  simp only [handleDetailedDeviceStatus, hr, hev]
  exact answered_putData hsize _ _

end Handlers

/-! ## The tags -/

/-- The parameter manager accepts the tag access that the context stands for. -/
def TagAccepted (cfg : BuildConfig) (s : Store) (c : IsduCtx) (index : UInt16) : Prop :=
  (c.header.type = .write ∧ (paramsSet s index 0 (slice c.buffer 0 c.bufferIdx) true).2 = 0) ∨
  (c.header.type = .read ∧ ((paramsGet s index 0 cfg.isduBufferSize).1).isSome)

theorem handleTag_accepted {size : ℕ} (hsize : 255 ≤ size) {cfg : BuildConfig} {h : Host}
    {c : IsduCtx} {index : UInt16} {finish : IsduCtx → IsduCtx}
    (hfin : ∀ {c}, Answered size c → Answered size (finish c))
    (hok : TagAccepted cfg h.store c index) : Answered size (handleTag cfg h c index finish).2 := by
  rcases hok with ⟨hw, hset⟩ | ⟨hr, hget⟩
  · simp only [handleTag, hw, hset, if_true]
    exact hfin (answered_answerEmpty c)
  · obtain ⟨data, hdata⟩ := Option.isSome_iff_exists.mp hget
    simp only [handleTag, hr, hdata, reduceCtorEq, if_false]
    exact hfin (answered_putData hsize c data)

theorem handleTag_refused {cfg : BuildConfig} {h : Host} {c : IsduCtx} {index : UInt16}
    {finish : IsduCtx → IsduCtx} (hno : ¬ TagAccepted cfg h.store c index) :
    (handleTag cfg h c index finish).2 = c := by
  cases ht : c.header.type with
  | write =>
    have hset : (paramsSet h.store index 0 (slice c.buffer 0 c.bufferIdx) true).2 ≠ 0 :=
      fun h0 => hno (.inl ⟨ht, h0⟩)
    simp only [handleTag, ht, hset, if_true, if_false]
  | read =>
    have hget : (paramsGet h.store index 0 cfg.isduBufferSize).1 = none := by
      by_contra hne
      exact hno (.inr ⟨ht, Option.isSome_iff_ne_none.mpr hne⟩)
    simp only [handleTag, ht, hget, reduceCtorEq, if_false]

theorem tagAccepted_functionTag (cfg : BuildConfig) (s : Store) (c : IsduCtx) :
    TagAccepted cfg s c idxFunctionTag := by
  unfold TagAccepted
  cases c.header.type <;> simp [paramsSet, paramsGet]

theorem tagAccepted_locationTag (cfg : BuildConfig) (s : Store) (c : IsduCtx) :
    TagAccepted cfg s c idxLocationTag := by
  unfold TagAccepted
  cases c.header.type <;> simp [paramsSet, paramsGet]

theorem paramsGet_applicationTag (s : Store) (maxLen : ℕ) :
    ((paramsGet s idxApplicationTag 0 maxLen).1).isSome ↔
      (deviceInfoGet s).1.applicationTag ≠ none := by
  simp [paramsGet, idxApplicationTag, Option.isSome_iff_ne_none]

/-- A write of the application tag is accepted for the default record and at
    most 32 bytes. -/
theorem paramsSet_applicationTag (s : Store) (data : List UInt8) (hd : data.length ≤ 255) :
    (paramsSet s idxApplicationTag 0 data true).2 = 0 ↔
      data.length ≤ 32 ∧ s.deviceInfo = .default := by
  have hset := deviceInfoSetApplicationTag_eq_zero_iff s data (data.length % 256)
  rw [Nat.mod_eq_of_lt (by omega)] at hset
  simp only [paramsSet, idxApplicationTag, and_self, if_true,
    Nat.mod_eq_of_lt (show data.length < 256 by omega)]
  split_ifs with h0
  · have := hset.mp h0
    simp only [tagSize] at this
    exact ⟨fun _ => ⟨by omega, this.2⟩, fun _ => rfl⟩
  · constructor
    · intro h; simp at h
    · rintro ⟨h1, h2⟩
      exact absurd (hset.mpr ⟨by simp only [tagSize]; omega, h2⟩) h0

/-- After `iolink_device_info_get`, `g_device_info` is the default record or
    one of the application. -/
theorem deviceInfoGet_default_or_user (s : Store) :
    ((deviceInfoGet s).2.deviceInfo = .default ∧ ∀ info, s.deviceInfo ≠ .user info) ∨
      ∃ info, s.deviceInfo = .user info ∧ (deviceInfoGet s).2 = s := by
  unfold deviceInfoGet
  cases h : s.deviceInfo with
  | null => left; simp
  | default => left; simp [h]
  | user info => right; exact ⟨info, rfl, rfl⟩

/-- `iolink_device_info_get` is idempotent. -/
theorem deviceInfoGet_idem (s : Store) :
    (deviceInfoGet (deviceInfoGet s).2).1 = (deviceInfoGet s).1 := by
  unfold deviceInfoGet
  cases h : s.deviceInfo with
  | null => rfl
  | default => simp [h]
  | user info => simp [h]

/-- An access to the application tag is accepted unless it is one of the
    unanswered ones. -/
theorem tagAccepted_applicationTag_iff (cfg : BuildConfig) (s : Store) (c : IsduCtx)
    (hlen : c.header.type = .write → c.bufferIdx ≤ 255) :
    TagAccepted cfg (deviceInfoGet s).2 c idxApplicationTag ↔
      (c.header.type = .write ∧ c.bufferIdx ≤ 32 ∧ ∀ info, s.deviceInfo ≠ .user info) ∨
      (c.header.type = .read ∧ (deviceInfoGet s).1.applicationTag ≠ none) := by
  have hdef : (deviceInfoGet s).2.deviceInfo = .default ↔ ∀ info, s.deviceInfo ≠ .user info := by
    rcases deviceInfoGet_default_or_user s with ⟨h1, h2⟩ | ⟨info, h1, h2⟩
    · exact ⟨fun _ => h2, fun _ => h1⟩
    · rw [h2, h1]
      exact ⟨fun h => (by cases h), fun h => absurd rfl (h info)⟩
  unfold TagAccepted
  rw [paramsGet_applicationTag, deviceInfoGet_idem]
  cases ht : c.header.type with
  | write =>
    have hb := hlen ht
    rw [paramsSet_applicationTag _ _ (by simpa using hb), length_slice, hdef]
  | read => simp

/-! ## The dispatcher -/

/-- Outside the identification strings, the application tag and the detailed
    status, every request is answered. -/
theorem not_unanswered {h : Host} {c : IsduCtx}
    (hs : stringOfIndex (deviceInfoGet h.store).1 c.header.index = none)
    (ha : c.header.index ≠ idxApplicationTag) (hd : c.header.index ≠ idxDetailedDeviceStatus) :
    ¬ Unanswered h c := by
  rintro (⟨h1, -⟩ | h2 | ⟨h3, -⟩ | ⟨h4, -⟩)
  · exact hd h1
  · rw [hs] at h2; cases h2
  · exact ha h3
  · exact ha h4

theorem handleIndex_string (cfg : BuildConfig) (h : Host) {info : DeviceInfo} {c : IsduCtx}
    {str : Option CString} (hs : stringOfIndex info c.header.index = some str) :
    handleIndex cfg h info c = (h, copyString cfg c str) := by
  have hne : c.header.index ≠ idxVendorId ∧ c.header.index ≠ idxDeviceId ∧
      c.header.index ≠ idxProfileCharacteristic := by
    refine ⟨?_, ?_, ?_⟩ <;> intro hc <;> simp [stringOfIndex, hc] at hs
  unfold handleIndex
  simp only [hne, if_false, hs]

theorem handleIndex_applicationTag (cfg : BuildConfig) (h : Host) (info : DeviceInfo) {c : IsduCtx}
    (ha : c.header.index = idxApplicationTag) :
    handleIndex cfg h info c = handleTag cfg h c idxApplicationTag resetSeq := by
  simp [handleIndex, stringOfIndex, ha]

theorem handleIndex_answered {size : ℕ} (hsize : 255 ≤ size) (cfg : BuildConfig) (h : Host)
    {info : DeviceInfo} {c : IsduCtx} (hs : stringOfIndex info c.header.index = none)
    (ha : c.header.index ≠ idxApplicationTag) : Answered size (handleIndex cfg h info c).2 := by
  have hdata := answered_putData hsize c
  have herr := answered_putError hsize c
  unfold handleIndex
  simp only [hs, ha, if_false]
  refine answered_ite (fun _ => answered_resetSeq (hdata _)) fun _ => ?_
  refine answered_ite (fun _ => answered_resetSeq (hdata _)) fun _ => ?_
  refine answered_ite (fun _ => answered_resetSeq (hdata _)) fun _ => ?_
  refine answered_ite (fun _ =>
    handleTag_accepted hsize answered_resetSeq (tagAccepted_functionTag _ _ _)) fun _ => ?_
  refine answered_ite (fun _ =>
    handleTag_accepted hsize (fun h => h) (tagAccepted_locationTag _ _ _)) fun _ => ?_
  refine answered_ite (fun _ => answered_ite (fun _ => herr _) fun _ => hdata _) fun _ => ?_
  refine answered_ite (fun _ => hdata _) fun _ => ?_
  refine answered_ite (fun _ => hdata _) fun _ => ?_
  refine answered_ite (fun _ => hdata _) fun _ => ?_
  exact answered_ite (fun _ => hdata _) fun _ => herr _

/-- `handle_mandatory_indices` answers, or returns the context as it was. -/
theorem handleMandatoryIndices_answered {size : ℕ} (hsize : 255 ≤ size) (cfg : BuildConfig)
    (h : Host) (c : IsduCtx) (hlen : c.header.type = .write → c.bufferIdx ≤ 255)
    (hidx : c.header.index ≠ idxDetailedDeviceStatus) :
    (¬ Unanswered h c ∧ Answered size (handleMandatoryIndices cfg h c).2) ∨
      (Unanswered h c ∧ (handleMandatoryIndices cfg h c).2 = c) := by
  unfold handleMandatoryIndices
  simp only
  by_cases ha : c.header.index = idxApplicationTag
  · rw [handleIndex_applicationTag _ _ _ ha]
    have hiff := tagAccepted_applicationTag_iff cfg h.store c hlen
    have hun : Unanswered h c ↔ ¬ TagAccepted cfg (deviceInfoGet h.store).2 c
        idxApplicationTag := by
      rw [hiff]
      unfold Unanswered
      cases ht : c.header.type <;> simp [ha, stringOfIndex, imp_iff_not_or]
    by_cases hacc : TagAccepted cfg (deviceInfoGet h.store).2 c idxApplicationTag
    · exact .inl ⟨by rw [hun]; exact not_not.mpr hacc,
        handleTag_accepted hsize answered_resetSeq hacc⟩
    · exact .inr ⟨hun.mpr hacc, handleTag_refused hacc⟩
  · cases hs : stringOfIndex (deviceInfoGet h.store).1 c.header.index with
    | none => exact .inl ⟨not_unanswered hs ha hidx, handleIndex_answered hsize _ _ hs ha⟩
    | some str =>
      rw [handleIndex_string _ _ hs]
      cases str with
      | some s =>
        refine .inl ⟨?_, answered_putData hsize c _⟩
        rintro (⟨h1, -⟩ | h2 | ⟨h3, -⟩ | ⟨h4, -⟩)
        · exact hidx h1
        · rw [hs] at h2; cases h2
        · exact ha h3
        · exact ha h4
      | none => exact .inr ⟨.inr (.inl hs), rfl⟩

/-- The dispatcher answers, or leaves `state` at SERVICE_EXECUTE. -/
theorem handleStandardCommands_answered {size : ℕ} (hsize : 255 ≤ size) (cfg : BuildConfig)
    (h : Host) (c : IsduCtx)
    (hev : c.header.index = idxDetailedDeviceStatus → c.header.type = .read → c.eventCtx = true)
    (hlen : c.header.type = .write → c.bufferIdx ≤ 255) :
    (¬ Unanswered h c ∧ Answered size (handleStandardCommands cfg h c).2) ∨
      (Unanswered h c ∧ (handleStandardCommands cfg h c).2.state = c.state) := by
  have hother : ∀ i : UInt16, c.header.index = i → i ≠ idxApplicationTag →
      i ≠ idxDetailedDeviceStatus → stringOfIndex (deviceInfoGet h.store).1 i = none →
      ¬ Unanswered h c := fun i hi h1 h2 h3 => not_unanswered (hi ▸ h3) (hi ▸ h1) (hi ▸ h2)
  unfold handleStandardCommands
  by_cases h1 : c.header.index = idxSystemCommand
  · refine .inl ⟨hother _ h1 (by decide) (by decide) (by simp [stringOfIndex]), ?_⟩
    rw [if_pos h1]
    split_ifs
    · exact handleSystemCommand_answered hsize h c _
    · exact answered_putError hsize c _
    · exact handleEventRead_answered hsize cfg h c
  rw [if_neg h1]
  by_cases h2 : c.header.index = idxDeviceAccessLocks
  · refine .inl ⟨hother _ h2 (by decide) (by decide) (by simp [stringOfIndex]), ?_⟩
    rw [if_pos h2]
    exact handleAccessLocks_answered hsize h c
  rw [if_neg h2]
  by_cases h3 : c.header.index = idxDetailedDeviceStatus
  · rw [if_pos h3]
    cases ht : c.header.type with
    | read =>
      refine .inl ⟨?_, handleDetailedDeviceStatus_read hsize cfg h (hev h3 ht) ht⟩
      simp [Unanswered, h3, ht, stringOfIndex]
    | write =>
      refine .inr ⟨.inl ⟨h3, ht⟩, ?_⟩
      simp [handleDetailedDeviceStatus, ht, putError]
  rw [if_neg h3]
  by_cases h4 : c.header.index = idxErrorStats
  · refine .inl ⟨hother _ h4 (by decide) (by decide) (by simp [stringOfIndex]), ?_⟩
    rw [if_pos h4]
    exact handleErrorStats_answered hsize h c
  rw [if_neg h4]
  rcases handleMandatoryIndices_answered hsize cfg h c hlen h3 with hl | ⟨hu, hc⟩
  · exact .inl hl
  · exact .inr ⟨hu, by rw [hc]⟩

/-- A collected request leads back to IDLE, or to a response that is delivered
    from its beginning. -/
theorem isduProcess_prepared (cfg : BuildConfig) (h : Host) {c : IsduCtx}
    (hs : c.state = .serviceExecute) (hlen : c.header.type = .write → c.bufferIdx ≤ 255) :
    (isduProcess cfg h c).2.state = .idle ∨
      ((isduProcess cfg h c).2.state = .responseReady ∧ (isduProcess cfg h c).2.responseIdx = 0 ∧
        (isduProcess cfg h c).2.isResponseControlSent = false ∧
        (isduProcess cfg h c).2.responseLen ≤ 255) := by
  have hout : (handleStandardCommands cfg h c).2.state = .serviceExecute ∨
      Answered 255 (handleStandardCommands cfg h c).2 := by
    by_cases hev : c.header.index = idxDetailedDeviceStatus → c.header.type = .read →
        c.eventCtx = true
    · rcases handleStandardCommands_answered le_rfl cfg h c hev hlen with ⟨-, ha⟩ | ⟨-, hu⟩
      · exact .inr ha
      · exact .inl (hu.trans hs)
    · -- The detailed device status without an event queue.
      push Not at hev
      obtain ⟨hidx, ht, hctx⟩ := hev
      refine .inl ?_
      simp [handleStandardCommands, handleDetailedDeviceStatus, hidx, ht, hctx, hs,
        idxDetailedDeviceStatus, idxSystemCommand, idxDeviceAccessLocks]
  rw [isduProcess_execute cfg h hs]
  rcases hout with hu | ha
  · rw [if_pos (by rw [hu]; decide)]
    exact .inl rfl
  · rw [if_neg (not_not.mpr ha.1)]
    exact .inr ⟨ha.1, ha.2.1, rfl, ha.2.2⟩

/-- **A collected request is answered exactly when it is not `Unanswered`.** -/
theorem isduProcess_answered_iff (cfg : BuildConfig) (hsize : 255 ≤ cfg.isduBufferSize) (h : Host)
    (c : IsduCtx) (hwired : c.Wired) (hstate : c.state = .serviceExecute)
    (hlen : c.header.type = .write → 1 ≤ c.bufferIdx ∧ c.bufferIdx ≤ 255) :
    Answered cfg.isduBufferSize (isduProcess cfg h c).2 ↔ ¬ Unanswered h c := by
  have hproc := isduProcess_execute cfg h hstate
  rcases handleStandardCommands_answered hsize cfg h c (fun _ _ => hwired.1)
    (fun hw => (hlen hw).2) with
    ⟨hu, ha⟩ | ⟨hu, hs⟩
  · rw [hproc, if_neg (by simp [ha.1])]
    exact ⟨fun _ => hu, fun _ => ha⟩
  · rw [hproc, if_pos (by simp [hs, hstate])]
    exact ⟨fun hans => absurd hans.1 (by simp), fun hn => absurd hu hn⟩

/-- A read of the vendor name is answered. -/
theorem vendorName_read_answered :
    Answered 256 (isduProcess {} hostInit
      { isduWired with state := .serviceExecute, header := ⟨.read, 0, idxVendorName, 0⟩ }).2 :=
  (isduProcess_answered_iff {} (by decide) hostInit _ ⟨rfl, rfl, rfl⟩ rfl
    (fun h => by cases h)).mpr (by simp [Unanswered, stringOfIndex, hostInit, storeInit,
      deviceInfoGet, defaultInfo])

/-- The write of one zero byte to index `0x001C` is collected and then
    dropped: no response is prepared and the engine is back in IDLE. -/
theorem detailedStatus_write_unanswered :
    let s := (isduMachine {}).final (isduWired, hostInit)
      ([0x80, 0x91, 0x01, 0x00, 0x02, 0x1C, 0x03, 0x00, 0x44, 0x00].map .collect)
    s.1.Wired ∧ s.1.state = .serviceExecute ∧ s.1.header = ⟨.write, 1, 0x001C, 0⟩ ∧
      s.1.bufferIdx = 1 ∧ (isduProcess {} s.2 s.1).2.state = .idle ∧
      ¬ Answered 256 (isduProcess {} s.2 s.1).2 := by
  refine ⟨⟨rfl, rfl, rfl⟩, rfl, by decide, rfl, by decide, ?_⟩
  rintro ⟨h, -⟩
  revert h
  decide

end Iolinki
