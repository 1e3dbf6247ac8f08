import Iolinki.Dll.Engine
import Iolinki.Master.Read
import Iolinki.Master.Taken

/-!
# ISDU access and the M-sequence type

`run_cycle` puts one meaningful byte into a frame; the second OD byte of a Type 2
frame is the padding byte 0x00. The device does not know about padding: it feeds
both bytes to the ISDU engine, which takes the padding byte after a START control
byte for a service byte and refuses it. So a Type 2 device executes no request of
the master, except one that the master had begun before.

Both devices are followed from an arbitrary engine state. What the master's functions
return, and the parameters that they leave, are functions of the state before the
access and of the bytes of the request.

* `reads_type1`, `reads_type2`, `write_type1`, `write_type2`: one access.
* `isdu_access_depends_on_type`: the accesses for which both devices agree.
-/

namespace Iolinki

open Iolinki.Lib

/-! ## A master and a device -/

/-- A master and a device with nothing in transit, before the device's call
    number `cycle`. -/
structure Station where
  config : Config
  clocks : Clocks
  device : Device
  cycle : ℕ

namespace Station

variable (cfg : BuildConfig) (s : Station) (index : UInt16) (subindex : UInt8) (data : List UInt8)

/-- `read_isdu` returns `result` and leaves `store`. -/
def Reads (result : Option (List UInt8)) (store : Store) : Prop :=
  ∃ l', ReadReturns cfg s.clocks (masterOf s.config) (quietLink s.device s.cycle) index subindex
    result l' ∧ l'.device.store = store

/-- What `write_isdu` returns, and the store it leaves. -/
def write : Bool × Store :=
  let r :=
    writeIsdu cfg s.clocks (masterOf s.config) (quietLink s.device s.cycle) index subindex data
  (r.1, r.2.device.store)

/-- The device is in OPERATE between two frames, and its clocks are in time. -/
structure Operational : Prop where
  reaches : ∃ calls, Reaches cfg s.config true calls s.device
  state : s.device.dll.state = .operate
  frameIndex : s.device.dll.frameIndex = 0
  pdIn : s.config.pdInLen ≤ 32
  pdOut : s.config.pdOutLen ≤ 32
  paced : Paced s.clocks s.device.dll s.cycle

/-! ### The state before the access -/

/-- The engine and the objects around it after the next `iolink_isdu_process`. -/
def processed : Host × IsduCtx := isduProcess cfg s.device.host s.device.dll.isdu

/-- The parameters after it. -/
def served : Store := (s.processed cfg).1.store

/-- The parameters if the engine is then given `bytes` and executes the request that they
    complete. -/
def storeAfter (bytes : List UInt8) : Store :=
  (isduProcess cfg (s.processed cfg).1 (parser.final (s.processed cfg).2 bytes)).1.store

/-- The engine is in the middle of a request. -/
def Collecting : Prop := s.device.dll.isdu.state.Collecting

instance : Decidable s.Collecting := inferInstanceAs (Decidable (IsduState.Collecting _))

/-- What the device has to deliver when the first two bytes of a request have been sent. -/
def leftOver (b : UInt8) : List UInt8 :=
  pending (preparedIsdu cfg (sendRequest cfg s.clocks (masterOf s.config)
    (quietLink s.device s.cycle) [0x80, b]).2)

/-! ### Accesses to a Type 1 device -/

/-- The read returns `None` if its subindex has no START bit. -/
def Silent : Prop := s.Collecting ∨ ReadSilent (s.served cfg) index

/-- The parameters after such a read. -/
def readStore1 : Store := if s.Collecting then s.storeAfter cfg [0x80, 0x80] else s.served cfg

/-- The write returns `True`. -/
def Reports1 : Prop :=
  if s.Collecting then ∃ b ∈ (subindex :: data).drop (data.length - 1), startBit b = true
  else
    match takenWrite index subindex data with
    | some (i, d, left) => Leaves 0 (answerLength (writeAnswer cfg (s.served cfg) i d)) left
    | none => True

/-- The parameters after a write. -/
def writeStore1 : Store :=
  if s.Collecting then s.storeAfter cfg [0x80, (writeRequestData index subindex data).headD 0]
  else
    match takenWrite index subindex data with
    | some (i, d, _) => writeStore (s.served cfg) i d
    | none => s.served cfg

/-! ### Accesses to a Type 2 device -/

/-- The parameters after a read. -/
def readStore2 : Store := s.storeAfter cfg [0x80, 0x00, 0x80]

/-- The write returns `True`. -/
def Reports2 : Prop :=
  let request := writeRequestData index subindex data
  startBit (request.getLastD 0) = true ∨ (∀ b ∈ request.tail, startBit b = false) ∧
    4 * request.tail.length < (s.leftOver cfg (request.headD 0)).length

/-- The parameters after a write. -/
def writeStore2 : Store :=
  s.storeAfter cfg [0x80, 0x00, (writeRequestData index subindex data).headD 0]

variable {cfg s}

theorem Operational.ready (h : s.Operational cfg) :
    OnLink s.config s.clocks (quietLink s.device s.cycle) s.device.dll.isdu s.device.host := by
  obtain ⟨calls, hreach⟩ := h.reaches
  exact ⟨⟨reaches_operating hreach h.state h.frameIndex, rfl, rfl, h.paced⟩, rfl, rfl⟩

theorem Operational.wired (h : s.Operational cfg) : s.device.dll.isdu.Wired := by
  obtain ⟨calls, hreach⟩ := h.reaches
  exact reaches_wired hreach

theorem Operational.isduInv (h : s.Operational cfg) : IsduInv s.device.dll.isdu := by
  obtain ⟨calls, hreach⟩ := h.reaches
  exact reaches_isduInv hreach

theorem Operational.plain (h : s.Operational cfg) (htype : s.config.mSeqType.IsType1) :
    Transports cfg [] (sendAndRecv cfg s.clocks (masterOf s.config)) (OnLink s.config s.clocks)
      (OnLink s.config s.clocks) SameStore :=
  transports_type1 cfg s.clocks (.of_type1 htype h.pdOut) htype

theorem Operational.padded (h : s.Operational cfg) (htype : s.config.mSeqType.IsType2) :
    Transports cfg [0x00] (sendAndRecv cfg s.clocks (masterOf s.config)) (OnLink s.config s.clocks)
      (OnLink s.config s.clocks) SameStore :=
  transports_type2 cfg s.clocks (.of_type2 htype h.pdOut) htype

/-- The objects around the engine may have changed in between, but not the parameters. -/
theorem Operational.storeAfter_eq (h : s.Operational cfg) (bytes : List UInt8) {host : Host}
    (hk : SameStore (s.processed cfg).1 host) :
    (isduProcess cfg host (parser.final (s.processed cfg).2 bytes)).1.store =
      s.storeAfter cfg bytes := by
  have hinv := isduInv_process cfg s.device.host h.isduInv
  have hfill : (s.processed cfg).2.Filled :=
    filled_of_ne (isduProcess_ne_serviceExecute cfg _ _)
  have hinv' := isduInv_parsed hinv bytes
  refine store_isduProcess_congr cfg hk ?_ fun hs hw =>
    ⟨filled_parsed hinv hfill bytes hs hw, hinv'.execute hs⟩
  exact parser.final_invariant (P := IsduCtx.Wired) (fun _ b hc => wired_collectByte hc b)
    (wired_isduProcess cfg _ h.wired) bytes

/-- In the middle of a request `iolink_isdu_process` does nothing. -/
theorem Operational.storeAfter_collecting (h : s.Operational cfg) (hc : s.Collecting)
    (bytes : List UInt8) {host : Host} (hk : SameStore s.device.host host) :
    (isduProcess cfg host (parser.final s.device.dll.isdu bytes)).1.store =
      s.storeAfter cfg bytes := by
  have hproc : s.processed cfg = (s.device.host, s.device.dll.isdu) :=
    isduProcess_of_ne cfg _ (collecting_ne hc).1
  have hafter := h.storeAfter_eq bytes (by rw [hproc]; exact hk)
  rwa [hproc] at hafter

/-- What two runs of `read_isdu` return is the same. -/
theorem Reads.unique {index : UInt16} {subindex : UInt8} {r r' : Option (List UInt8)}
    {st st' : Store} (h : s.Reads cfg index subindex r st)
    (h' : s.Reads cfg index subindex r' st') : r = r' ∧ st = st' := by
  obtain ⟨l, hret, rfl⟩ := h
  obtain ⟨l', hret', rfl⟩ := h'
  obtain ⟨hr, rfl⟩ := hret.unique hret'
  exact ⟨hr, rfl⟩

/-! ## A Type 1 device -/

section Type1

variable (h : s.Operational cfg) (htype : s.config.mSeqType.IsType1) (index : UInt16)
variable (subindex : UInt8)
include h htype

/-- A read in the middle of another request. -/
theorem read_collecting (hc : s.Collecting) :
    ∃ r st, s.Reads cfg index subindex r st ∧
      (startBit subindex = false → r = none ∧ st = s.storeAfter cfg [0x80, 0x80]) := by
  have hsend := h.plain htype
  obtain ⟨hok, h', p, hk, hleft, hs⟩ :=
    sendRequestOn_opening_plain cfg hsend h.ready h.isduInv hc (b := 0x80) (by decide)
  cases hsub : startBit subindex with
  | true =>
    obtain ⟨l', hret⟩ := readIsduOn_refused cfg index hok hs hsub hsend
    exact ⟨_, _, ⟨l', ⟨2, hret⟩, rfl⟩, nofun⟩
  | false =>
    obtain ⟨l', hret, _, _, ⟨-, -, rfl⟩, hk'⟩ :=
      readIsduOn_missed cfg hsend nofun index subindex hok hs (Nat.zero_le 1) (.inl hleft) hsub
    exact ⟨_, _, ⟨l', ⟨0, fun fuel _ => hret fuel⟩, rfl⟩,
      fun _ => ⟨rfl, hk'.trans (h.storeAfter_collecting hc [0x80, 0x80] hk)⟩⟩

/-- A read that is collected. -/
theorem read_free (hc : ¬ s.Collecting) :
    ∃ r st, s.Reads cfg index subindex r st ∧
      (r = none ↔ ReadSilent (s.served cfg) index) ∧ (r = none → st = s.served cfg) := by
  have hsend := h.plain htype
  obtain ⟨hu, c', h', hS, hk, hd, hw⟩ := sendRequestOn_decoded cfg hsend h.ready
    (awaitsStart_isduProcess cfg _ (h.isduInv.free hc)) (.read index subindex) rfl
  have hindex : c'.header.index = index := hd.index
  have hstore : h'.store = s.served cfg := hk
  have hread := isduProcess_read cfg h' hd.state hd.type (hw h.wired)
  rw [hindex, hstore] at hread
  rcases hread with ⟨hsil, hidle, hst⟩ | ⟨hsil, n, hn, hprep⟩
  · obtain ⟨l', ⟨_, _, ⟨-, -, rfl⟩, hk', -⟩, hret⟩ :=
      readIsduOn_unanswered cfg hsend (Prod.ext hu rfl) hS (hw h.wired) hidle
    exact ⟨none, _, ⟨l', ⟨0, fun fuel _ => hret fuel⟩, rfl⟩, iff_of_true rfl hsil,
      fun _ => hk'.trans hst⟩
  · obtain ⟨l', -, hret⟩ :=
      readIsduOn_answered cfg hsend (Prod.ext hu rfl) hS (hw h.wired) rfl hprep hn
    exact ⟨_, _, ⟨l', ⟨256, hret⟩, rfl⟩, iff_of_false nofun hsil, nofun⟩

/-- **A read of a Type 1 device** always returns. -/
theorem reads_type1 :
    ∃ r st, s.Reads cfg index subindex r st ∧ (startBit subindex = false →
      (r = none ↔ s.Silent cfg index) ∧ (r = none → st = s.readStore1 cfg)) := by
  unfold Silent readStore1
  by_cases hc : s.Collecting
  · obtain ⟨r, st, hreads, hret⟩ := read_collecting h htype index subindex hc
    refine ⟨r, st, hreads, fun hsub => ?_⟩
    obtain ⟨hr, hst⟩ := hret hsub
    rw [if_pos hc]
    exact ⟨iff_of_true hr (.inl hc), fun _ => hst⟩
  · obtain ⟨r, st, hreads, hnone, hst⟩ := read_free h htype index subindex hc
    rw [if_neg hc, or_iff_right hc]
    exact ⟨r, st, hreads, fun _ => ⟨hnone, hst⟩⟩

/-- **A write of a Type 1 device.** -/
theorem write_type1 (data : Payload) :
    ((s.write cfg index subindex data.1).1 = true ↔ s.Reports1 cfg index subindex data.1) ∧
      (s.write cfg index subindex data.1).2 = s.writeStore1 cfg index subindex data.1 := by
  have hsend := h.plain htype
  unfold Reports1 writeStore1
  by_cases hc : s.Collecting
  · obtain ⟨hret, h', hk, _, _, ⟨-, -, rfl⟩, hk'⟩ :=
      writeIsduOn_collecting cfg hsend h.ready h.isduInv hc index subindex data.2.1
    rw [if_pos hc, if_pos hc]
    exact ⟨hret, hk'.trans (h.storeAfter_collecting hc _ hk)⟩
  · have hstart := awaitsStart_isduProcess cfg s.device.host (h.isduInv.free hc)
    rw [if_neg hc, if_neg hc]
    cases htaken : takenWrite index subindex data.1 with
    | none =>
      obtain ⟨hret, _, _, ⟨-, -, rfl⟩, hk⟩ :=
        writeIsduOn_incomplete cfg hsend h.ready hstart htaken
      exact ⟨iff_of_true hret trivial, hk⟩
    | some taken =>
      obtain ⟨i, d, left⟩ := taken
      obtain ⟨h', hk, hret, h₁, _, _, hst, ⟨-, -, rfl⟩, hk'⟩ :=
        writeIsduOn_taken cfg hsend h.ready h.wired hstart htaken
      have hstore : h'.store = s.served cfg := hk
      rw [hstore] at hret hst
      exact ⟨hret, hk'.trans hst⟩

end Type1

/-! ## A Type 2 device -/

/-- What is to be delivered over the link, as the next `iolink_isdu_process` leaves it. -/
theorem lt_length_strayOn {config : Config} {clocks : Clocks} {l : Link} {host : Host}
    {p : List UInt8} (hs : StrayOn cfg (OnLink config clocks) SameStore p l host) {n : ℕ}
    (hn : 4 ≤ n) : n < p.length ↔ n < (pending (preparedIsdu cfg l)).length := by
  obtain ⟨_, _, ⟨-, rfl, rfl⟩, -, ⟨-, hpend⟩ | ⟨hinit, -, rfl⟩⟩ := hs
  · rw [← hpend]
    rfl
  · have hnil : pending (preparedIsdu cfg l) = [] := by simp [preparedIsdu, pending, hinit]
    rw [hnil]
    exact iff_of_false (Nat.not_lt.mpr hn) (Nat.not_lt_zero n)

section Type2

variable (h : s.Operational cfg) (htype : s.config.mSeqType.IsType2) (index : UInt16)
variable (subindex : UInt8)
include h htype

/-- **A read of a Type 2 device** returns `None`, or does not return if its subindex has the
    START bit. -/
theorem reads_type2 (result : Option (List UInt8)) (store : Store) :
    s.Reads cfg index subindex result store ↔
      startBit subindex = false ∧ result = none ∧ store = s.readStore2 cfg := by
  have hsend := h.padded htype
  obtain ⟨hok, h', p, hk, hleft, hs⟩ :=
    sendRequestOn_opening_padded cfg hsend h.ready h.isduInv (b := 0x80) (by decide)
  cases hsub : startBit subindex with
  | true =>
    refine ⟨?_, by simp⟩
    rintro ⟨l', ⟨fuel, hret⟩, -⟩
    have hstuck := readIsduOn_stuck cfg index hok hs hsub startBit_zero hsend fuel
    exact absurd ((hret fuel le_rfl).symm.trans hstuck) (Option.some_ne_none _)
  | false =>
    obtain ⟨l', hret, _, _, ⟨-, -, rfl⟩, hk'⟩ :=
      readIsduOn_missed cfg hsend startBit_padding index subindex hok hs le_rfl hleft hsub
    have hreads : s.Reads cfg index subindex none (s.readStore2 cfg) :=
      ⟨l', ⟨0, fun fuel _ => hret fuel⟩, hk'.trans (h.storeAfter_eq [0x80, 0x00, 0x80] hk)⟩
    constructor
    · intro hother
      obtain ⟨hr, hst⟩ := hother.unique hreads
      exact ⟨rfl, hr, hst⟩
    · rintro ⟨-, rfl, rfl⟩
      exact hreads

/-- **A write of a Type 2 device.** -/
theorem write_type2 (data : List UInt8) :
    ((s.write cfg index subindex data).1 = true ↔ s.Reports2 cfg index subindex data) ∧
      (s.write cfg index subindex data).2 = s.writeStore2 cfg index subindex data := by
  have hsend := h.padded htype
  obtain ⟨h', p, hk, hs, hret, _, _, ⟨-, -, rfl⟩, hk'⟩ :=
    writeIsduOn_padded cfg hsend h.ready h.isduInv index subindex data
  refine ⟨hret.trans (or_congr_right (and_congr_right fun _ => ?_)),
    hk'.trans (h.storeAfter_eq _ hk)⟩
  refine lt_length_strayOn hs ?_
  obtain ⟨b, pre, hdata, -, hpre⟩ := writeRequestData_eq_cons index subindex data
  rw [hdata, List.tail_cons, List.length_append, List.length_cons]
  omega

omit htype in
/-- If the engine is not in the middle of a request, no access changes the parameters. -/
theorem storeAfter_free (hc : ¬ s.Collecting) {b : UInt8} (hb : startBit b = true) :
    s.storeAfter cfg [0x80, 0x00, b] = s.served cfg := by
  have hstart := awaitsStart_isduProcess cfg s.device.host (h.isduInv.free hc)
  rw [storeAfter, processed, isduProcess_of_ne cfg _ (parser_padded_ne hstart hb)]
  rfl

/-- If the engine is not in the middle of a request, only the last byte of a write counts. -/
theorem reports2_free (hc : ¬ s.Collecting) (data : List UInt8) :
    s.Reports2 cfg index subindex data ↔
      startBit ((writeRequestData index subindex data).getLastD 0) = true := by
  have hsend := h.padded htype
  obtain ⟨b, pre, hdata, hb, hpre⟩ := writeRequestData_eq_cons index subindex data
  have hs := sendRequestOn_opening_awaits cfg hsend h.ready
    (awaitsStart_isduProcess cfg _ (h.isduInv.free hc)) hb
  have hlen : 4 ≤ 4 * (pre ++ subindex :: data).length := by
    rw [List.length_append, List.length_cons]
    omega
  have hshort : ((refusal (seqBits b)).drop 1).length = 3 := rfl
  have hleft := (lt_length_strayOn hs hlen).not.mp (by rw [hshort]; omega)
  unfold Reports2
  rw [hdata]
  exact or_iff_left fun hlate => hleft hlate.2

end Type2

/-- If the engine waits for a request, the next `iolink_isdu_process` leaves the parameters
    alone. -/
theorem served_awaits (hs : s.device.dll.isdu.state.AwaitsStart) :
    s.served cfg = s.device.store := by
  rw [served, processed, (awaitsStart_step cfg _ hs).1]
  rfl

end Station

/-! ## Two devices side by side -/

/-- The parameters, the events and the counters of two devices are the same. -/
structure SameData (d₁ d₂ : Device) : Prop where
  store : d₁.store = d₂.store
  events : d₁.dll.events = d₂.dll.events
  stats : d₁.dll.stats = d₂.dll.stats

/-- `read_isdu` gives the same result and the same store on both devices. -/
def ReadAgrees (cfg : BuildConfig) (s₁ s₂ : Station) (index : UInt16) (subindex : UInt8) : Prop :=
  ∀ result store,
    s₁.Reads cfg index subindex result store ↔ s₂.Reads cfg index subindex result store

/-- `write_isdu` gives the same result and the same store on both devices. -/
def WriteAgrees (cfg : BuildConfig) (s₁ s₂ : Station) (index : UInt16) (subindex : UInt8)
    (data : List UInt8) : Prop :=
  s₁.write cfg index subindex data = s₂.write cfg index subindex data

/-- A device of the given type after its start-up, with its clocks at zero. -/
def startedStation (t : MSeqType) : Station := ⟨sampleConfig t, stillClocks, startedDevice t, 0⟩

theorem operational_type11 : (startedStation .type11).Operational {} :=
  ⟨⟨_, reaches_startedDevice .type11⟩, by decide +kernel, by decide +kernel, by decide, by decide,
    paced_startedDevice⟩

theorem operational_type22 : (startedStation .type22).Operational {} :=
  ⟨⟨_, reaches_startedDevice .type22⟩, by decide +kernel, by decide +kernel, by decide, by decide,
    paced_stillClocks (by decide +kernel) (by decide +kernel) (by decide +kernel) 0⟩

set_option maxRecDepth 2000 in
theorem sameData_started :
    SameData (startedStation .type11).device (startedStation .type22).device where
  store := Eq.trans (b := paramsInit storeInit none) rfl rfl
  events := Eq.trans (b := eventsInit) rfl rfl
  stats := Eq.trans (b := {}) rfl rfl

theorem idle_started : (startedStation .type11).device.dll.isdu.state = .idle ∧
    (startedStation .type22).device.dll.isdu.state = .idle := by
  constructor <;> decide +kernel

theorem not_collecting_started : ¬ (startedStation .type11).Collecting ∧
    ¬ (startedStation .type22).Collecting := by
  constructor <;> decide +kernel

end Iolinki
