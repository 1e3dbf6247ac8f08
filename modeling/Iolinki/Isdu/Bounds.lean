import Iolinki.Isdu.Invariant

/-!
# Array bounds of the ISDU engine

The engine has two arrays, `buffer` for the payload of a write and
`response_buf` for the answer, both of `IOLINK_ISDU_BUFFER_SIZE` bytes. Arrays
are functions of the index in the model, so the accesses are listed here, in the
order of the source; stores to consecutive cells are one range.

* `frame_step`: the lists are complete, a call changes no cell that it does not
  store to.
* `bounds_of_mem_accesses`: where a call in a reachable state accesses the arrays.
* `isdu_representation`: the invariant with the default size of 256 bytes.
* `buffer_size_iff`: a size is safe if and only if it is at least 255 bytes. The
  data phase compares `buffer_idx` with the announced length only.
-/

namespace Iolinki

open Iolinki.Lib

/-! ## The accesses -/

/-- The arrays of `iolink_isdu_ctx_t`. -/
inductive IsduArray
  | buffer | responseBuf
  deriving DecidableEq, Repr

/-- A read or a store of `len` cells from `off` on. -/
structure IsduAccess where
  array : IsduArray
  isStore : Bool
  off : ℕ
  len : ℕ
  deriving DecidableEq, Repr

/-- The access is inside of an array of `size` cells. -/
def IsduAccess.Within (size : ℕ) (a : IsduAccess) : Prop := a.off + a.len ≤ size

instance (size : ℕ) (a : IsduAccess) : Decidable (a.Within size) :=
  inferInstanceAs (Decidable (_ ≤ _))

def loadBuffer (off len : ℕ) : IsduAccess := ⟨.buffer, false, off, len⟩

def storeBuffer (off len : ℕ) : IsduAccess := ⟨.buffer, true, off, len⟩

def loadResponse (off len : ℕ) : IsduAccess := ⟨.responseBuf, false, off, len⟩

/-- The `n` bytes of an answer. -/
def storeResponse (n : ℕ) : IsduAccess := ⟨.responseBuf, true, 0, n⟩

/-- `iolink_isdu_collect_byte` (lines 67–224): an error answer or a payload
    byte. -/
def collectAccesses (c : IsduCtx) (byte : UInt8) : List IsduAccess :=
  match c.state with
  | .segmentCollect =>
    if startBit byte || seqBits byte ≠ nextSeq c.segmentSeq then [storeResponse 2] else []
  | .headerInitial =>
    let service := (byte >>> 4) &&& 0x0F
    if service = 0x08 then [] else if service = 0x09 then [] else [storeResponse 2]
  | .dataCollect => [storeBuffer c.bufferIdx 1]
  | _ => []

/-- `iolink_isdu_get_response_byte` (lines 772–817). -/
def getResponseAccesses (c : IsduCtx) : List IsduAccess :=
  if c.state = .responseReady ∧ c.isResponseControlSent = true ∧ c.responseIdx < c.responseLen then
    [loadResponse c.responseIdx 1]
  else []

/-- The reads of `data` in `iolink_params_set` (`src/params.c`, lines 93–135)
    and `iolink_device_info_set_application_tag`, for `len` bytes. -/
def paramsSetAccesses (s : Store) (index : UInt16) (len : ℕ) : List IsduAccess :=
  if index = 0x0018 then
    if len % 256 ≥ tagSize then []
    else
      match s.deviceInfo with
      | .default => [loadBuffer 0 (len % 256), loadBuffer 0 (min len 32)]
      | _ => []
  else if index = 0x0019 ∨ index = 0x001A then [loadBuffer 0 (min len 32)]
  else []

/-- `handleTag` -/
def tagAccesses (cfg : BuildConfig) (h : Host) (c : IsduCtx) (index : UInt16) : List IsduAccess :=
  if c.header.type = .write then paramsSetAccesses h.store index c.bufferIdx
  else
    match (paramsGet h.store index 0 cfg.isduBufferSize).1 with
    | some data => [storeResponse data.length]
    | none => []

/-- `copyString` -/
def stringAccesses (cfg : BuildConfig) (str : Option CString) : List IsduAccess :=
  match str with
  | some s => [storeResponse (min s.strlen cfg.isduBufferSize)]
  | none => []

/-- `handleIndex` -/
def indexAccesses (cfg : BuildConfig) (h : Host) (info : DeviceInfo) (c : IsduCtx) :
    List IsduAccess :=
  let index := c.header.index
  if index = idxVendorId then [storeResponse 2]
  else if index = idxDeviceId then [storeResponse 4]
  else if index = idxProfileCharacteristic then [storeResponse 2]
  else
    match stringOfIndex info index with
    | some str => stringAccesses cfg str
    | none =>
      if index = idxApplicationTag then tagAccesses cfg h c idxApplicationTag
      else if index = idxFunctionTag then tagAccesses cfg h c idxFunctionTag
      else if index = idxLocationTag then tagAccesses cfg h c idxLocationTag
      else if index = idxPdinDescriptor then
        if c.header.type = .write then [storeResponse 2] else [storeResponse 1]
      else if index = idxDeviceStatus then [storeResponse 1]
      else if index = idxDetailedDeviceStatus then
        let events := if c.eventCtx then eventsGetAll cfg.eventQueueSize h.events 8 else []
        [storeResponse (events.length * 3)]
      else if index = idxRevisionId then [storeResponse 2]
      else if index = idxMinCycleTime then [storeResponse 1]
      else [storeResponse 2]

/-- The error answer to the return value of a Data Storage function. -/
def dsAccesses (ret : Int) : List IsduAccess := if ret ≠ 0 then [storeResponse 2] else []

/-- `handleSystemCommand` -/
def systemCommandAccesses (h : Host) (c : IsduCtx) (cmd : UInt8) : List IsduAccess :=
  if cmd = cmdDeviceReset then []
  else if cmd = cmdApplicationReset then []
  else if cmd = cmdRestoreFactorySettings ∨ cmd = cmdRestoreAppDefaults then []
  else if cmd = cmdSetCommMode then []
  else if cmd = cmdParamDownloadStart ∨ cmd = cmdParamDownloadEnd ∨ cmd = cmdParamUploadStart ∨
      cmd = cmdParamUploadEnd then
    if c.dsCtx then dsAccesses (dsHandleCommand h.ds cmd (deviceInfoGetAccessLocks h.store).1).2
    else []
  else if cmd = cmdParamUpload then
    if c.dsCtx then dsAccesses (dsStartUpload h.ds).2 else []
  else if cmd = cmdParamDownload then
    if c.dsCtx then dsAccesses (dsStartDownload h.ds).2 else []
  else if cmd = cmdParamBreak then []
  else [storeResponse 2]

/-- `handleAccessLocks` -/
def accessLocksAccesses (c : IsduCtx) : List IsduAccess :=
  if c.header.type = .read then [storeResponse 2]
  else if c.bufferIdx ≥ 2 then [loadBuffer 0 2]
  else []

/-- `handleDetailedDeviceStatus` -/
def detailedStatusAccesses (h : Host) (c : IsduCtx) : List IsduAccess :=
  if c.header.type ≠ .read then [storeResponse 2]
  else if !c.eventCtx then []
  else [storeResponse (min h.events.count 8 * 3)]

/-- `handleErrorStats` -/
def errorStatsAccesses (c : IsduCtx) : List IsduAccess :=
  if c.header.type ≠ .read then [storeResponse 2]
  else if c.header.subindex ≠ 0 then [storeResponse 2]
  else if !c.dllCtx then [storeResponse 2]
  else [storeResponse 16]

/-- `handleStandardCommands` -/
def standardAccesses (cfg : BuildConfig) (h : Host) (c : IsduCtx) : List IsduAccess :=
  if c.header.index = idxSystemCommand then
    if c.header.type = .write then
      if c.bufferIdx > 0 then loadBuffer 0 1 :: systemCommandAccesses h c (c.buffer 0)
      else [storeResponse 2]
    else [storeResponse 2]
  else if c.header.index = idxDeviceAccessLocks then accessLocksAccesses c
  else if c.header.index = idxDetailedDeviceStatus then detailedStatusAccesses h c
  else if c.header.index = idxErrorStats then errorStatsAccesses c
  else
    let r := deviceInfoGet h.store
    indexAccesses cfg { h with store := r.2 } r.1 c

/-- The accesses of one call. -/
def isduAccesses (cfg : BuildConfig) (c : IsduCtx) (call : Host × IsduOp) : List IsduAccess :=
  match call.2 with
  | .collect byte => collectAccesses c byte
  | .process => if c.state = .serviceExecute then standardAccesses cfg call.1 c else []
  | .getResponse => getResponseAccesses c

/-! ## The handlers -/

/-- The access stores to cell `i` of `array`. -/
def IsduAccess.Stores (a : IsduAccess) (array : IsduArray) (i : ℕ) : Prop :=
  a.array = array ∧ a.isStore = true ∧ a.off ≤ i ∧ i < a.off + a.len

/-- A store to cell `i` of `array` is listed. -/
def StoredIn (l : List IsduAccess) (array : IsduArray) (i : ℕ) : Prop := ∃ a ∈ l, a.Stores array i

/-- The list `l` accounts for what a handler does between `c` and `c'`: it reads
    the payload that was collected, and changes no other cell than those it
    stores to, which are inside of the response buffer. -/
structure Accounts (size : ℕ) (c : IsduCtx) (l : List IsduAccess) (c' : IsduCtx) : Prop where
  response : ∀ a ∈ l, a.array = .responseBuf → a.isStore = true ∧ a.Within size
  payload : ∀ a ∈ l, a.array = .buffer → a.isStore = false ∧ a.Within c.bufferIdx
  frame : ∀ i, StoredIn l .responseBuf i ∨ c'.responseBuf i = c.responseBuf i
  buffer : c'.buffer = c.buffer

section Accounts

variable {size : ℕ} {c c' : IsduCtx}

/-- A read of the payload before the answer is made. -/
theorem Accounts.cons_load {l : List IsduAccess} (h : Accounts size c l c') {n : ℕ}
    (hn : n ≤ c.bufferIdx) : Accounts size c (loadBuffer 0 n :: l) c' := by
  refine ⟨?_, ?_, fun i => ?_, h.buffer⟩
  · intro a ha harr
    rcases List.mem_cons.mp ha with rfl | ha
    · cases harr
    · exact h.response a ha harr
  · intro a ha harr
    rcases List.mem_cons.mp ha with rfl | ha
    · exact ⟨rfl, by simpa [IsduAccess.Within, loadBuffer] using hn⟩
    · exact h.payload a ha harr
  · refine (h.frame i).imp_left ?_
    rintro ⟨a, ha, hi⟩
    exact ⟨a, List.mem_cons_of_mem _ ha, hi⟩

theorem accounts_nil (hr : c'.responseBuf = c.responseBuf) (hb : c'.buffer = c.buffer) :
    Accounts size c [] c' :=
  ⟨by simp, by simp, fun i => .inr (by rw [hr]), hb⟩

theorem accounts_paramsSet (s : Store) (index : UInt16) (hr : c'.responseBuf = c.responseBuf)
    (hb : c'.buffer = c.buffer) :
    Accounts size c (paramsSetAccesses s index c.bufferIdx) c' := by
  have hnil : Accounts size c [] c' := accounts_nil hr hb
  have hmin := hnil.cons_load (min_le_left c.bufferIdx 32)
  unfold paramsSetAccesses
  split_ifs
  · exact hnil
  · split
    · exact hmin.cons_load (Nat.mod_le _ _)
    · exact hnil
  · exact hmin
  · exact hnil

/-- An answer that is copied to the start of the response buffer. -/
theorem accounts_store {n : ℕ} {data : List UInt8} (hlen : data.length = n) (hn : n ≤ size)
    (hr : c'.responseBuf = blit c.responseBuf 0 data) (hb : c'.buffer = c.buffer) :
    Accounts size c [storeResponse n] c' := by
  refine ⟨?_, ?_, fun i => ?_, hb⟩
  · intro a ha _
    rw [List.mem_singleton] at ha
    subst ha
    exact ⟨rfl, by simpa [IsduAccess.Within, storeResponse] using hn⟩
  · intro a ha harr
    rw [List.mem_singleton] at ha
    subst ha
    cases harr
  · by_cases hlt : i < n
    · exact .inl ⟨_, List.mem_singleton_self _, rfl, rfl, Nat.zero_le i, show i < 0 + n by omega⟩
    · rw [hr, blit, if_pos (Nat.zero_le i), List.getElem?_eq_none (by omega)]
      exact .inr rfl

theorem blit_pair (f : ℕ → UInt8) (a b : UInt8) :
    Function.update (Function.update f 0 a) 1 b = blit f 0 [a, b] := by
  have h1 : Function.update f 0 a = blit f 0 [a] := by
    have h := update_blit_length f [] a
    rwa [blit_nil] at h
  rw [h1]
  exact update_blit_length f [a] b

theorem accounts_ite {p : Prop} [Decidable p] {l₁ l₂ : List IsduAccess} {a b : Host × IsduCtx}
    (ha : p → Accounts size c l₁ a.2) (hb : ¬ p → Accounts size c l₂ b.2) :
    Accounts size c (if p then l₁ else l₂) (if p then a else b).2 := by
  split_ifs with hp
  · exact ha hp
  · exact hb hp

end Accounts

theorem length_flatMap_triple {f : Event → List UInt8} (hf : ∀ e, (f e).length = 3)
    (events : List Event) : (events.flatMap f).length = events.length * 3 := by
  induction events with
  | nil => rfl
  | cons e events ih =>
    rw [List.flatMap_cons, List.length_append, ih, hf, List.length_cons]
    omega

section Handlers

variable {cfg : BuildConfig} (hsize : 32 ≤ cfg.isduBufferSize) (h : Host) (c : IsduCtx)

include hsize

theorem accounts_error (code : UInt8) :
    Accounts cfg.isduBufferSize c [storeResponse 2] (responseReady (putError c code)) :=
  accounts_store (show [0x80, code].length = 2 from rfl) (by omega) (blit_pair _ _ _) rfl

/-- A short answer. -/
theorem accounts_data {data : List UInt8} {n : ℕ} (hlen : data.length = n) (hn : n ≤ 32) :
    Accounts cfg.isduBufferSize c [storeResponse n] (responseReady (putData c data)) :=
  accounts_store hlen (by omega) rfl rfl

theorem accounts_ds (ret : Int) :
    Accounts cfg.isduBufferSize c (dsAccesses ret) (dsAnswer c ret) := by
  unfold dsAccesses dsAnswer
  by_cases h0 : ret ≠ 0
  · rw [if_pos h0, if_pos h0]
    exact accounts_error hsize c _
  · rw [if_neg h0, if_neg h0]
    exact accounts_nil rfl rfl

theorem accounts_dsLegacy (ret : Int) :
    Accounts cfg.isduBufferSize c (dsAccesses ret) (dsLegacyAnswer c ret) := by
  unfold dsAccesses dsLegacyAnswer
  by_cases h0 : ret ≠ 0
  · rw [if_pos h0, if_pos h0]
    exact accounts_error hsize c _
  · rw [if_neg h0, if_neg h0]
    exact accounts_nil rfl rfl

theorem accounts_systemCommand (cmd : UInt8) :
    Accounts cfg.isduBufferSize c (systemCommandAccesses h c cmd)
    (handleSystemCommand h c cmd).2 := by
  have hempty : Accounts cfg.isduBufferSize c [] (answerEmpty c) := accounts_nil rfl rfl
  unfold systemCommandAccesses handleSystemCommand
  refine accounts_ite (fun _ => accounts_nil rfl rfl) fun _ => ?_
  refine accounts_ite (fun _ => accounts_nil rfl rfl) fun _ => ?_
  refine accounts_ite (fun _ => hempty) fun _ => ?_
  refine accounts_ite (fun _ => hempty) fun _ => ?_
  refine accounts_ite (fun _ => accounts_ite (fun _ => accounts_ds hsize c _) fun _ => hempty)
    fun _ => ?_
  refine accounts_ite (fun _ => accounts_ite (fun _ => accounts_dsLegacy hsize c _)
    fun _ => hempty) fun _ => ?_
  refine accounts_ite (fun _ => accounts_ite (fun _ => accounts_dsLegacy hsize c _)
    fun _ => hempty) fun _ => ?_
  exact accounts_ite (fun _ => hempty) fun _ => accounts_error hsize c _

omit hsize in
theorem accounts_tag (index : UInt16) {finish : IsduCtx → IsduCtx}
    (hfin : ∀ c, (finish c).responseBuf = c.responseBuf ∧ (finish c).buffer = c.buffer) :
    Accounts cfg.isduBufferSize c (tagAccesses cfg h c index)
    (handleTag cfg h c index finish).2 := by
  unfold tagAccesses handleTag
  refine accounts_ite (fun _ => ?_) fun _ => ?_
  · dsimp only
    split_ifs
    · exact accounts_paramsSet h.store index (hfin _).1 (hfin _).2
    · exact accounts_paramsSet h.store index rfl rfl
  · dsimp only
    have hlen : ∀ data, (paramsGet h.store index 0 cfg.isduBufferSize).1 = some data →
        data.length ≤ cfg.isduBufferSize := by
      intro data hdata
      unfold paramsGet at hdata
      split_ifs at hdata
      · obtain ⟨str, -, rfl⟩ := Option.map_eq_some_iff.mp hdata
        exact List.length_take_le _ _
      · cases hdata
        exact List.length_take_le _ _
      · cases hdata
        exact List.length_take_le _ _
    cases hget : (paramsGet h.store index 0 cfg.isduBufferSize).1 with
    | some data => exact accounts_store rfl (hlen data hget) (hfin _).1 (hfin _).2
    | none => exact accounts_nil rfl rfl

theorem accounts_index (info : DeviceInfo) :
    Accounts cfg.isduBufferSize c (indexAccesses cfg h info c) (handleIndex cfg h info c).2 := by
  have hdata : ∀ {data : List UInt8} {n : ℕ}, data.length = n → n ≤ 32 →
      Accounts cfg.isduBufferSize c [storeResponse n] (responseReady (putData c data)) :=
    fun hlen hn => accounts_data hsize c hlen hn
  have hreset : ∀ {data : List UInt8} {n : ℕ}, data.length = n → n ≤ 32 →
      Accounts cfg.isduBufferSize c [storeResponse n] (resetSeq (responseReady (putData c data))) :=
    fun hlen hn => accounts_store hlen (by omega) rfl rfl
  have herr := accounts_error hsize c
  unfold indexAccesses handleIndex
  refine accounts_ite (fun _ => hreset rfl (by decide)) fun _ => ?_
  refine accounts_ite (fun _ => hreset rfl (by decide)) fun _ => ?_
  refine accounts_ite (fun _ => hreset rfl (by decide)) fun _ => ?_
  cases hstr : stringOfIndex info c.header.index with
  | some str =>
    cases str with
    | some s =>
      exact accounts_store (by simp [CString.strlen, Nat.min_comm]) (min_le_right _ _) rfl rfl
    | none => exact accounts_nil rfl rfl
  | none =>
    dsimp only
    refine accounts_ite (fun _ => accounts_tag h c _ fun _ => ⟨rfl, rfl⟩) fun _ => ?_
    refine accounts_ite (fun _ => accounts_tag h c _ fun _ => ⟨rfl, rfl⟩) fun _ => ?_
    refine accounts_ite (fun _ => accounts_tag h c _ fun _ => ⟨rfl, rfl⟩) fun _ => ?_
    refine accounts_ite (fun _ => accounts_ite (fun _ => herr _) fun _ => hdata rfl (by decide))
      fun _ => ?_
    refine accounts_ite (fun _ => hdata rfl (by decide)) fun _ => ?_
    refine accounts_ite (fun _ => hdata ?_ ?_) fun _ => ?_
    · rw [length_flatMap_triple (fun e => rfl)]
    · split_ifs
      · simp [eventsGetAll]; omega
      · simp
    refine accounts_ite (fun _ => hdata rfl (by decide)) fun _ => ?_
    exact accounts_ite (fun _ => hdata rfl (by decide)) fun _ => herr _

/-- **What the handlers access.** -/
theorem accounts_standard :
    Accounts cfg.isduBufferSize c (standardAccesses cfg h c)
    (handleStandardCommands cfg h c).2 := by
  have hdata : ∀ {data : List UInt8} {n : ℕ}, data.length = n → n ≤ 32 →
      Accounts cfg.isduBufferSize c [storeResponse n] (responseReady (putData c data)) :=
    fun hlen hn => accounts_data hsize c hlen hn
  have herr := accounts_error hsize c
  unfold standardAccesses handleStandardCommands
  refine accounts_ite (fun _ => accounts_ite (fun _ => accounts_ite (fun hpos => ?_)
    fun _ => herr _) fun _ => ?_) fun _ => ?_
  · exact (accounts_systemCommand hsize h c _).cons_load hpos
  · unfold handleEventRead
    split_ifs
    · split <;> exact hdata rfl (by decide)
    · exact hdata rfl (by decide)
  refine accounts_ite (fun _ => accounts_ite (fun _ => hdata rfl (by decide)) fun _ => ?_)
    fun _ => ?_
  · have hempty : Accounts cfg.isduBufferSize c [] (answerEmpty c) := accounts_nil rfl rfl
    split_ifs with h2
    · exact hempty.cons_load h2
    · exact hempty
  refine accounts_ite (fun _ => ?_) fun _ => accounts_ite (fun _ => ?_) fun _ =>
    accounts_index hsize _ c _
  · unfold detailedStatusAccesses handleDetailedDeviceStatus
    split_ifs
    · exact accounts_store (show [0x80, _].length = 2 from rfl) (by omega) (blit_pair _ _ _) rfl
    · exact accounts_nil rfl rfl
    · refine hdata ?_ (by omega)
      rw [length_flatMap_triple (fun e => rfl)]
      simp
  · unfold errorStatsAccesses handleErrorStats
    split_ifs
    · exact herr _
    · exact herr _
    · exact herr _
    · exact hdata rfl (by decide)

end Handlers

/-! ## Whole calls -/

theorem frame_error (c : IsduCtx) (code : UInt8) (i : ℕ) :
    StoredIn [storeResponse 2] .responseBuf i ∨
      (putError c code).responseBuf i = c.responseBuf i := by
  have hacc : Accounts 2 c [storeResponse 2] (putError c code) :=
    accounts_store (show [0x80, code].length = 2 from rfl) le_rfl (blit_pair _ _ _) rfl
  exact hacc.frame i

theorem frame_collectByte (c : IsduCtx) (b : UInt8) (i : ℕ) :
    (StoredIn (collectAccesses c b) .buffer i ∨ (isduCollectByte c b).1.buffer i = c.buffer i) ∧
      (StoredIn (collectAccesses c b) .responseBuf i ∨
        (isduCollectByte c b).1.responseBuf i = c.responseBuf i) := by
  by_cases hstart : c.state.AwaitsStart ∧ startBit b = true
  · rw [collectByte_start hstart.1 hstart.2]
    exact ⟨.inr rfl, .inr rfl⟩
  by_cases hcol : c.state.Collecting
  · cases hs : c.state with
    | headerInitial =>
      rw [collectByte_headerInitial b hs]
      simp only [collectAccesses, hs, isduHeaderInitial]
      split_ifs
      · exact ⟨.inr rfl, .inr rfl⟩
      · exact ⟨.inr rfl, .inr rfl⟩
      · exact ⟨.inr rfl, .inr rfl⟩
      · exact ⟨.inr rfl, frame_error c _ i⟩
    | headerExtLen =>
      rw [collectByte_headerExtLen b hs]
      exact ⟨.inr rfl, .inr rfl⟩
    | headerIndexHigh =>
      rw [collectByte_headerIndexHigh b hs]
      exact ⟨.inr rfl, .inr rfl⟩
    | headerIndexLow =>
      rw [collectByte_headerIndexLow b hs]
      exact ⟨.inr rfl, .inr rfl⟩
    | headerSubindex =>
      cases ht : c.header.type with
      | read =>
        rw [collectByte_headerSubindex_read b hs ht]
        exact ⟨.inr rfl, .inr rfl⟩
      | write =>
        rw [collectByte_headerSubindex_write b hs ht]
        exact ⟨.inr rfl, .inr rfl⟩
    | dataCollect =>
      have hbuf : StoredIn [storeBuffer c.bufferIdx 1] .buffer i ∨
          (c.storeByte b).buffer i = c.buffer i := by
        by_cases hi : i = c.bufferIdx
        · subst hi
          exact .inl ⟨_, List.mem_singleton_self _, rfl, rfl, le_rfl, Nat.lt_succ_self _⟩
        · exact .inr (Function.update_of_ne hi _ _)
      simp only [collectAccesses, hs]
      by_cases hlen : c.bufferIdx + 1 < c.header.length.toNat
      · rw [collectByte_dataCollect_more b hs hlen]
        exact ⟨hbuf, .inr rfl⟩
      · rw [collectByte_dataCollect_last b hs (by omega)]
        exact ⟨hbuf, .inr rfl⟩
    | segmentCollect =>
      simp only [collectAccesses, hs]
      cases hb : startBit b with
      | true =>
        rw [collectByte_segmentCollect_start hs hb]
        exact ⟨.inr rfl, frame_error c _ i⟩
      | false =>
        rw [collectByte_segmentCollect hs hb, isduSegmentControl]
        by_cases hseq : seqBits b = nextSeq c.segmentSeq
        · rw [if_neg (not_not.mpr hseq)]
          exact ⟨.inr rfl, .inr rfl⟩
        · rw [if_pos hseq, if_pos (by simpa using hseq)]
          exact ⟨.inr rfl, frame_error c _ i⟩
    | idle | serviceExecute | busy | responseReady => rw [hs] at hcol; exact hcol.elim
  · rw [collectByte_ignored hcol hstart]
    exact ⟨.inr rfl, .inr rfl⟩

/-- The lists are complete: a call changes only the cells that it stores to. -/
theorem frame_step {cfg : BuildConfig} (hsize : 32 ≤ cfg.isduBufferSize) (c : IsduCtx)
    (call : Host × IsduOp) (i : ℕ) :
    (StoredIn (isduAccesses cfg c call) .buffer i ∨
        ((engineMachine cfg).step c call).1.buffer i = c.buffer i) ∧
      (StoredIn (isduAccesses cfg c call) .responseBuf i ∨
        ((engineMachine cfg).step c call).1.responseBuf i = c.responseBuf i) := by
  obtain ⟨h, op⟩ := call
  cases op with
  | collect b => exact frame_collectByte c b i
  | process =>
    by_cases hs : c.state = .serviceExecute
    · have hacc := accounts_standard hsize h c
      have hproc : (isduProcess cfg h c).2.buffer = c.buffer ∧
          (isduProcess cfg h c).2.responseBuf =
            (handleStandardCommands cfg h c).2.responseBuf := by
        rw [isduProcess_execute cfg h hs]
        split_ifs
        · exact ⟨hacc.buffer, rfl⟩
        · exact ⟨hacc.buffer, rfl⟩
      refine ⟨.inr (congrFun hproc.1 i), ?_⟩
      simp only [isduAccesses, if_pos hs]
      exact (hacc.frame i).imp_right fun hf => (congrFun hproc.2 i).trans hf
    · have hstep : ((engineMachine cfg).step c (h, .process)).1 = c :=
        congrArg Prod.snd (isduProcess_of_ne cfg h hs)
      rw [hstep]
      exact ⟨.inr rfl, .inr rfl⟩
  | getResponse =>
    have hget : (isduGetResponseByte c).1.buffer = c.buffer ∧
        (isduGetResponseByte c).1.responseBuf = c.responseBuf := by
      unfold isduGetResponseByte
      dsimp only
      split_ifs <;> exact ⟨rfl, rfl⟩
    exact ⟨.inr (congrFun hget.1 i), .inr (congrFun hget.2 i)⟩

/-- Where a call in a reachable state accesses the arrays. -/
theorem bounds_of_mem_accesses {cfg : BuildConfig} (hsize : 32 ≤ cfg.isduBufferSize) {c : IsduCtx}
    (hc : IsduInv c) (call : Host × IsduOp) {a : IsduAccess} (ha : a ∈ isduAccesses cfg c call) :
    (a.array = .responseBuf ∧ a.isStore = true ∧ a.Within cfg.isduBufferSize) ∨ a.Within 255 := by
  obtain ⟨h, op⟩ := call
  cases op with
  | collect b =>
    have herr : (storeResponse 2).array = .responseBuf ∧ (storeResponse 2).isStore = true ∧
        (storeResponse 2).Within cfg.isduBufferSize := ⟨rfl, rfl, show 0 + 2 ≤ _ by omega⟩
    simp only [isduAccesses, collectAccesses] at ha
    split at ha
    · split_ifs at ha
      · exact .inl (List.mem_singleton.mp ha ▸ herr)
      · simp at ha
    · split_ifs at ha
      · simp at ha
      · simp at ha
      · exact .inl (List.mem_singleton.mp ha ▸ herr)
    · next hs =>
      -- the store of a payload byte
      obtain ⟨-, hlt⟩ := hc.data (by rw [IsduCtx.phase, if_neg (by rw [hs]; decide), hs])
      have hbyte := c.header.length.toNat_lt
      refine .inr (List.mem_singleton.mp ha ▸ ?_)
      show c.bufferIdx + 1 ≤ 255
      omega
    · simp at ha
  | process =>
    simp only [isduAccesses] at ha
    split_ifs at ha with hs
    · have hacc := accounts_standard hsize h c
      cases harr : a.array with
      | buffer =>
        have hidx := hc.execute hs
        have hin := (hacc.payload a ha harr).2
        exact .inr (Nat.le_trans hin hidx)
      | responseBuf => exact .inl ⟨rfl, hacc.response a ha harr⟩
    · simp at ha
  | getResponse =>
    simp only [isduAccesses, getResponseAccesses] at ha
    split_ifs at ha with hr
    · have hlen := hc.responseLen
      have hidx := hr.2.2
      refine .inr (List.mem_singleton.mp ha ▸ ?_)
      show c.responseIdx + 1 ≤ 255
      omega
    · simp at ha

/-! ## The default size -/

/-- All accesses of a run of the engine. -/
def runAccesses (cfg : BuildConfig) (c : IsduCtx) (calls : List (Host × IsduOp)) :
    List IsduAccess :=
  (engineMachine cfg).collect (isduAccesses cfg) c calls

theorem runAccesses_induct {cfg : BuildConfig} {P : IsduAccess → Prop}
    {eventCtx dsCtx dllCtx : Bool}
    (hP : ∀ c call, IsduInv c → ∀ a ∈ isduAccesses cfg c call, P a) (calls : List (Host × IsduOp)) :
    ∀ a ∈ runAccesses cfg (isduInitWith eventCtx dsCtx dllCtx) calls, P a := by
  exact (engineMachine cfg).collect_induct (isduInv_step cfg) hP
    (isduInv_initWith eventCtx dsCtx dllCtx) calls

/-- **The representation invariant** with the default buffers of 256 bytes, in
    every state that any calls lead to; no access is outside of the arrays. -/
theorem isdu_representation (cfg : BuildConfig) (hsize : cfg.isduBufferSize = 256)
    (eventCtx dsCtx dllCtx : Bool) (calls : List (Host × IsduOp)) :
    let c := (engineMachine cfg).final (isduInitWith eventCtx dsCtx dllCtx) calls
    c.state ≠ .busy ∧ c.segmentSeq.toNat ≤ 63 ∧ c.responseIdx ≤ c.responseLen ∧
      c.responseLen ≤ 255 ∧
      (c.state = .segmentCollect →
        c.nextState = .headerExtLen ∨ c.nextState = .headerIndexHigh ∨
          c.nextState = .headerIndexLow ∨ c.nextState = .headerSubindex ∨
          c.nextState = .dataCollect) ∧
      (c.state = .dataCollect ∨ (c.state = .segmentCollect ∧ c.nextState = .dataCollect) →
        c.header.type = .write ∧ c.bufferIdx < max 1 c.header.length.toNat ∧
          max 1 c.header.length.toNat ≤ 255) ∧
      ∀ a ∈ runAccesses cfg (isduInitWith eventCtx dsCtx dllCtx) calls, a.Within 256 := by
  intro c
  have hc : IsduInv c := isduInv_final cfg eventCtx dsCtx dllCtx calls
  refine ⟨hc.notBusy, hc.segmentSeq, hc.responseIdx, hc.responseLen, ?_, ?_, ?_⟩
  · intro hs
    simpa [segmentStates] using hc.nextState hs
  · intro hs
    have hphase : c.phase = .dataCollect := by
      rcases hs with hs | ⟨hs, hn⟩
      · rw [IsduCtx.phase, if_neg (by rw [hs]; decide), hs]
      · rw [IsduCtx.phase, if_pos hs, hn]
    obtain ⟨hw, hlt⟩ := hc.data hphase
    have hbyte := c.header.length.toNat_lt
    exact ⟨hw, hlt, by omega⟩
  · refine runAccesses_induct (fun c call hc a ha => ?_) calls
    rcases bounds_of_mem_accesses (by omega) hc call ha with ⟨-, -, hin⟩ | hin
    · exact Nat.le_trans hin (by omega)
    · exact Nat.le_trans hin (by omega)

/-- The bytes are collected one after the other. -/
def feed (bytes : List UInt8) : List (Host × IsduOp) := bytes.map fun b => (hostInit, .collect b)

/-- A write of two bytes to index 0x0018, up to its first payload byte. -/
def partialWrite : List (Host × IsduOp) :=
  feed [0x80, 0x92, 0x01, 0x00, 0x02, 0x18, 0x03, 0x00, 0x04, 0x41]

/-- The announced length is not exceeded when one of two payload bytes has arrived. -/
theorem isdu_representation_partialWrite :
    let c := (engineMachine {}).final (isduInitWith true false true) partialWrite
    (c.state = .segmentCollect ∧ c.nextState = .dataCollect) ∧ c.header.type = .write ∧
      c.bufferIdx < max 1 c.header.length.toNat ∧ max 1 c.header.length.toNat ≤ 255 := by
  intro c
  have hc : c.state = .segmentCollect ∧ c.nextState = .dataCollect := by decide +kernel
  obtain ⟨-, -, -, -, -, hdata, -⟩ := isdu_representation {} rfl true false true partialWrite
  exact ⟨hc, hdata (.inr hc)⟩

/-! ## Other sizes -/

theorem final_feed (cfg : BuildConfig) (c : IsduCtx) (bytes : List UInt8) :
    (engineMachine cfg).final c (feed bytes) = parser.final c bytes := by
  induction bytes generalizing c with
  | nil => rfl
  | cons b bytes ih => exact ih _

/-- Every store to `buffer` and to `response_buf` is inside of the array. -/
def StoresFit (cfg : BuildConfig) : Prop :=
  ∀ (eventCtx dsCtx dllCtx : Bool) (calls : List (Host × IsduOp)),
    ∀ a ∈ runAccesses cfg (isduInitWith eventCtx dsCtx dllCtx) calls,
      a.isStore = true → a.Within cfg.isduBufferSize

/-- An error answer is ready. -/
def Refused (c : IsduCtx) : Prop :=
  c.state = .responseReady ∧ c.responseLen = 2 ∧ c.responseBuf 0 = 0x80

/-- Whenever the engine awaits a request, the stream of a write that is longer
    than the buffer is answered with an error. -/
def LongWriteRefused (cfg : BuildConfig) : Prop :=
  ∀ (eventCtx dsCtx dllCtx : Bool) (calls : List (Host × IsduOp)),
    let c := (engineMachine cfg).final (isduInitWith eventCtx dsCtx dllCtx) calls
    c.state.AwaitsStart → ∀ (index : UInt16) (subindex : UInt8) (payload : Payload) (s : UInt8)
      (segs : List (Bool × UInt8)),
      segs.map Prod.snd = (Request.write index subindex payload).dataBytes →
      cfg.isduBufferSize < payload.1.length →
      Refused ((engineMachine cfg).final c (feed (segments true s segs)))

theorem storesFit_of_le {cfg : BuildConfig} (h : 255 ≤ cfg.isduBufferSize) : StoresFit cfg := by
  intro eventCtx dsCtx dllCtx calls
  refine runAccesses_induct (fun c call hc a ha _ => ?_) calls
  rcases bounds_of_mem_accesses (by omega) hc call ha with ⟨-, -, hin⟩ | hin
  · exact hin
  · exact Nat.le_trans hin h

theorem mem_runAccesses_feed (cfg : BuildConfig) {c : IsduCtx} {bytes : List UInt8}
    (hs : (parser.final c bytes).state = .dataCollect) (b : UInt8) :
    storeBuffer (parser.final c bytes).bufferIdx 1 ∈ runAccesses cfg c (feed (bytes ++ [b])) := by
  have hfeed : feed (bytes ++ [b]) = feed bytes ++ [(hostInit, .collect b)] := List.map_append
  rw [hfeed, runAccesses, Machine.collect_append, final_feed]
  refine List.mem_append_right _ ?_
  simp [isduAccesses, collectAccesses, hs]

/-- The payload byte that is stored behind the end of a small buffer. -/
theorem exists_store_outside {cfg : BuildConfig} (h : cfg.isduBufferSize < 255) :
    ∃ bytes, storeBuffer cfg.isduBufferSize 1 ∈
      runAccesses cfg (isduInitWith true false true) (feed bytes) := by
  set c₀ := isduInitWith true false true with hc₀
  have hstart := collectByte_start (c := c₀) (.inl rfl) (startBit_ctrlByte true false 0)
  -- the header announces 255 bytes
  obtain ⟨c₁, hhead, hs₁, hn₁, hseq₁, hidx₁, hh₁⟩ :=
    collects_writeExt (c := c₀.startRequest (ctrlByte true false 0)) rfl
      true true true true 255 0 0 0
  -- as many bytes as the buffer holds
  obtain ⟨c₂, hpay, hs₂, hn₂, hseq₂, hh₂, hidx₂, -⟩ :=
    collects_payload (List.replicate cfg.isduBufferSize (true, 0)) hs₁ hn₁ (by
      rw [hh₁, hidx₁, List.length_replicate]
      show _ < max _ 255
      omega)
  -- the control byte of the next segment
  have hfin := (hhead.append hpay).final_append [ctrlByte false true (nextSeq c₂.segmentSeq)]
  have hlast : parser.final c₂ [ctrlByte false true (nextSeq c₂.segmentSeq)] = c₂.resume true :=
    congrArg Prod.fst (collectByte_resume hs₂ true)
  obtain ⟨bytes, hbytes⟩ : ∃ bytes,
      parser.final (c₀.startRequest (ctrlByte true false 0)) bytes = c₂.resume true :=
    ⟨_, hfin.trans hlast⟩
  have hall : parser.final c₀ (ctrlByte true false 0 :: bytes) = c₂.resume true := by
    rw [Machine.final_cons, ← hbytes]
    exact congrArg (fun c => parser.final c bytes) (congrArg Prod.fst hstart)
  have hidx : (c₂.resume true).bufferIdx = cfg.isduBufferSize := by
    show c₂.bufferIdx = _
    rw [hidx₂, hidx₁, List.length_replicate, Nat.zero_add]
  have hmem := mem_runAccesses_feed cfg (by rw [hall]; exact hn₂) 0
  rw [hall, hidx] at hmem
  exact ⟨_, hmem⟩

theorem not_storesFit {cfg : BuildConfig} (h : cfg.isduBufferSize < 255) : ¬ StoresFit cfg := by
  intro hfit
  obtain ⟨bytes, hmem⟩ := exists_store_outside h
  have hin := hfit true false true (feed bytes) _ hmem rfl
  have hout : cfg.isduBufferSize + 1 ≤ cfg.isduBufferSize := hin
  omega

theorem not_longWriteRefused {cfg : BuildConfig} (h : cfg.isduBufferSize < 255) :
    ¬ LongWriteRefused cfg := by
  intro href
  have hlen : (List.replicate 255 (0 : UInt8)).length = 255 := List.length_replicate
  let payload : Payload := ⟨List.replicate 255 0, by omega, by omega⟩
  let req : Request := .write 0 0 payload
  have hsegs : (req.dataBytes.map fun b => (true, b)).map Prod.snd = req.dataBytes := by
    rw [List.map_map]
    exact List.map_id _
  have hc : (isduInitWith true false true).state.AwaitsStart := .inl rfl
  have hdec := (parser_request req 0 hsegs hc).2
  have hbad := href true false true [] hc 0 0 payload 0 _ hsegs (by rw [hlen]; exact h)
  rw [Machine.final_nil, final_feed] at hbad
  have hready := hbad.1
  rw [hdec.state] at hready
  cases hready

/-- **The sizes for which the engine is safe.** The buffer has to hold every
    length that a byte can announce. -/
theorem buffer_size_iff (cfg : BuildConfig) :
    StoresFit cfg ∧ LongWriteRefused cfg ↔ 255 ≤ cfg.isduBufferSize := by
  constructor
  · rintro ⟨hfit, -⟩
    by_contra hlt
    exact not_storesFit (by omega) hfit
  · intro hle
    refine ⟨storesFit_of_le hle, ?_⟩
    -- no payload is longer than 255 bytes
    intro eventCtx dsCtx dllCtx calls c _ index subindex payload s segs _ hlong
    have hmax := payload.2.2
    omega

/-- A build with the size that the memory guide recommends. -/
def smallBuild : BuildConfig := { isduBufferSize := 32 }

/-- A write that announces 40 bytes, and 33 of them. -/
def overflowingWrite : List UInt8 :=
  let bytes : List UInt8 := [0x9F, 40, 0x00, 0x18, 0x00] ++ List.replicate 33 0x41
  segments true 0 (bytes.map fun b => (true, b))

/-- With 32 bytes the 33rd payload byte is stored behind the end of `buffer`, and
    a write of 40 bytes is collected. -/
theorem small_buffer_overflow :
    storeBuffer 32 1 ∈ runAccesses smallBuild (isduInitWith true false true)
    (feed overflowingWrite) ∧
      ¬ (StoresFit smallBuild ∨ LongWriteRefused smallBuild) := by
  refine ⟨by decide +kernel, ?_⟩
  rintro (hfit | href)
  · exact not_storesFit (by decide) hfit
  · exact not_longWriteRefused (by decide) href

end Iolinki
