import Iolinki.Isdu.Tags

/-!
# The tags as registers

`iolink_params_set` and `iolink_params_get` look like a store of three registers.
The application tag lives in `g_app_tag_buffer` of `device_info.c`, the other two
in the shadow of `params.c`, one behind the other. All of them are read with
`strlen`, so what a register holds depends on a terminator in its own array. The
setters write one; `iolink_params_init` takes the arrays from the NVM as they are.

* `threeRegisters_iff`: the store is one of three registers exactly if the function
  and the location tag are terminated at the start.
* `applicationTag_all_or_nothing_iff`: the length of an application tag is cast to
  `uint8_t` before it is checked.
-/

namespace Iolinki

open Iolinki.Lib

/-! ## Calls -/

/-- A call of a function of `device_info.c` or `params.c`. -/
inductive StoreCall
  | deviceInfoInit (info : Option DeviceInfo)
  | deviceInfoGet
  | deviceInfoSetApplicationTag (tag : List UInt8) (len : UInt8)
  | deviceInfoSetAccessLocks (locks : UInt16)
  | paramsInit (image : Option ParamsNvm)
  | paramsGet (index : UInt16) (subindex : UInt8) (maxLen : ℕ)
  | paramsSet (index : UInt16) (subindex : UInt8) (data : List UInt8) (persist : Bool)
  | paramsFactoryReset

/-- What a call does to the static variables. -/
def storeStep (s : Store) : StoreCall → Store
  | .deviceInfoInit info => deviceInfoInit s info
  | .deviceInfoGet => (deviceInfoGet s).2
  | .deviceInfoSetApplicationTag tag len => (deviceInfoSetApplicationTag s tag len.toNat).1
  | .deviceInfoSetAccessLocks locks => deviceInfoSetAccessLocks s locks
  | .paramsInit image => paramsInit s image
  | .paramsGet index subindex maxLen => (paramsGet s index subindex maxLen).2
  | .paramsSet index subindex data persist => (paramsSet s index subindex data persist).1
  | .paramsFactoryReset => paramsFactoryReset s

/-- The static variables after some calls. -/
def storeAfter (calls : List StoreCall) : Store := calls.foldl storeStep storeInit

/-- The data of a set, 0 to 255 bytes. -/
abbrev TagData := { d : List UInt8 // d.length ≤ 255 }

/-- A set of one of the three tags, with subindex 0, or the factory reset. -/
inductive TagCall
  | set (t : Tag) (data : TagData) (persist : Bool)
  | factoryReset

def tagStep (s : Store) : TagCall → Store
  | .set t data persist => (paramsSet s t.index 0 data.1 persist).1
  | .factoryReset => paramsFactoryReset s

/-! ## Writing one array -/

/-- `if (persist) { (void) iolink_nvm_write(...); }` -/
def commit (persist : Bool) (s : Store) : Store := if persist then nvmWrite s else s

section Commit

variable (persist : Bool) (s : Store)

@[simp] theorem commit_deviceInfo : (commit persist s).deviceInfo = s.deviceInfo := by
  cases persist <;> rfl

@[simp] theorem commit_appTagInBuffer : (commit persist s).appTagInBuffer = s.appTagInBuffer := by
  cases persist <;> rfl

@[simp] theorem commit_appTagBuffer : (commit persist s).appTagBuffer = s.appTagBuffer := by
  cases persist <;> rfl

@[simp] theorem commit_shadow : (commit persist s).shadow = s.shadow := by
  cases persist <;> rfl

end Commit

theorem paramsSet_function (s : Store) (d : List UInt8) (persist : Bool) :
    paramsSet s Tag.function.index 0 d persist = (commit persist { s with shadow :=
      { s.shadow with functionTag := setTag s.shadow.functionTag d } }, 0) := by
  simp [paramsSet, Tag.index, commit]

theorem paramsSet_location (s : Store) (d : List UInt8) (persist : Bool) :
    paramsSet s Tag.location.index 0 d persist = (commit persist { s with shadow :=
      { s.shadow with locationTag := setTag s.shadow.locationTag d } }, 0) := by
  simp [paramsSet, Tag.index, commit]

/-- The application tag: the copy in the shadow is written only if it is committed. -/
theorem paramsSet_application {s : Store} (hdef : s.deviceInfo = .default) {d : List UInt8}
    (hlen : d.length % 256 < tagSize) (persist : Bool) :
    paramsSet s Tag.application.index 0 d persist = (commit persist { s with
      appTagBuffer := Function.update (blit s.appTagBuffer 0 (d.take (d.length % 256)))
        (d.length % 256) 0
      appTagInBuffer := true
      shadow := if persist then
          { s.shadow with applicationTag := setTag s.shadow.applicationTag d }
        else s.shadow }, 0) := by
  have hset : deviceInfoSetApplicationTag s d (d.length % 256) = ({ s with
      appTagBuffer := Function.update (blit s.appTagBuffer 0 (d.take (d.length % 256)))
        (d.length % 256) 0
      appTagInBuffer := true }, 0) := by
    unfold deviceInfoSetApplicationTag
    rw [if_neg (Nat.not_le.mpr hlen), hdef]
  cases persist <;>
    simp [paramsSet, Tag.index, idxApplicationTag, hset, commit]

/-- A refused application tag changes nothing. -/
theorem paramsSet_application_refused (s : Store) {d : List UInt8}
    (h : tagSize ≤ d.length % 256 ∨ s.deviceInfo ≠ .default) (persist : Bool) :
    paramsSet s Tag.application.index 0 d persist = (s, -1) := by
  have hset : deviceInfoSetApplicationTag s d (d.length % 256) = (s, -1) := by
    unfold deviceInfoSetApplicationTag
    by_cases hlen : tagSize ≤ d.length % 256
    · rw [if_pos hlen]
    · rw [if_neg hlen]
      cases hinfo : s.deviceInfo with
      | default => exact absurd hinfo (h.resolve_left hlen)
      | null => rfl
      | user info => rfl
  simp [paramsSet, Tag.index, idxApplicationTag, hset]

/-- Up to 32 bytes the buffer of the device information is written like the arrays
    of the shadow. -/
theorem appTagBuffer_eq_setTag (buf : ℕ → UInt8) {d : List UInt8} (hlen : d.length ≤ 32) :
    Function.update (blit buf 0 (d.take (d.length % 256))) (d.length % 256) 0 = setTag buf d := by
  have hmod : d.length % 256 = d.length := Nat.mod_eq_of_lt (by omega)
  unfold setTag
  rw [hmod, min_eq_left hlen]

theorem update_zero_eq_setTag (tag : ℕ → UInt8) : Function.update tag 0 0 = setTag tag [] := by
  unfold setTag
  simp [blit_nil]

/-- The factory reset sets the three tags to the empty string. -/
theorem paramsFactoryReset_default {s : Store} (hdef : s.deviceInfo = .default) :
    paramsFactoryReset s = commit true { s with
      appTagBuffer := setTag s.appTagBuffer []
      appTagInBuffer := true
      shadow :=
        { magic := paramsNvmMagic
          applicationTag := setTag s.shadow.applicationTag []
          functionTag := setTag s.shadow.functionTag []
          locationTag := setTag s.shadow.locationTag [] } } := by
  simp [paramsFactoryReset, deviceInfoSetApplicationTag, hdef, tagSize, blit_nil,
    update_zero_eq_setTag, commit]

/-! ## What the registers hold -/

/-- The tags of the shadow are terminated inside their own arrays. -/
structure ParamsNvm.Terminated (p : ParamsNvm) : Prop where
  function : 0 ∈ slice p.functionTag 0 tagSize
  location : 0 ∈ slice p.locationTag 0 tagSize

/-- Three registers: one call on the data that they were given. -/
def accept (r : Tag → List UInt8) : TagCall → Tag → List UInt8
  | .set t data _ =>
    if t = .application ∧ 32 < data.1.length then r else Function.update r t data.1
  | .factoryReset => fun _ => []

/-- The data last accepted for each tag since the last reset. -/
def lastAccepted (initial : Tag → List UInt8) (calls : List TagCall) : Tag → List UInt8 :=
  calls.foldl accept initial

/-- The store holds the data `r`, cut to 32 bytes and at the first NUL. -/
structure Holds (s : Store) (r : Tag → List UInt8) : Prop where
  default : s.deviceInfo = .default
  value : ∀ t, tagValue s t = some (cut ((r t).take 32))

theorem tagValue_function (s : Store) : tagValue s .function =
    some (cut (slice s.shadow.functionTag 0 tagSize ++ slice s.shadow.locationTag 0 tagSize)) := rfl

theorem tagValue_location (s : Store) :
    tagValue s .location = some (cut (slice s.shadow.locationTag 0 tagSize)) := rfl

theorem length_cut_of_mem {l : List UInt8} (h : 0 ∈ l) (r : List UInt8) :
    (cut (l ++ r)).length < l.length := by
  obtain ⟨a, b, rfl⟩ := List.append_of_mem h
  have := length_cut_le a
  rw [List.append_assoc, List.cons_append, cut_append_nul, List.length_append, List.length_cons]
  omega

/-- A string ends inside the array at its head exactly if the array has a NUL. -/
theorem length_cut_lt_iff (l r : List UInt8) : (cut (l ++ r)).length < l.length ↔ 0 ∈ l := by
  refine ⟨fun h => ?_, fun h => length_cut_of_mem h r⟩
  by_contra h0
  rw [cut_append h0, List.length_append] at h
  omega

/-- A function tag of at most 32 bytes does not run on into the location tag. -/
theorem Holds.function_terminated {s : Store} {r : Tag → List UInt8} (h : Holds s r) :
    0 ∈ slice s.shadow.functionTag 0 tagSize := by
  have hval := h.value .function
  rw [tagValue_function, Option.some_inj] at hval
  have hcut := length_cut_le ((r .function).take 32)
  have htake := List.length_take_le 32 (r .function)
  refine (length_cut_lt_iff _ (slice s.shadow.locationTag 0 tagSize)).mp ?_
  rw [hval, length_slice]
  unfold tagSize
  omega

/-- What is read from an array that was set, with `r` behind it. -/
theorem cut_setTag_append (tag : ℕ → UInt8) (d r : List UInt8) :
    cut (slice (setTag tag d) 0 tagSize ++ r) = cut (d.take 32) := by
  obtain ⟨rest, hrest⟩ := slice_setTag tag d
  rw [hrest, List.append_assoc, List.cons_append, cut_append_nul]

theorem cut_setTag (tag : ℕ → UInt8) (d : List UInt8) :
    cut (slice (setTag tag d) 0 tagSize) = cut (d.take 32) := by
  simpa using cut_setTag_append tag d []

section Step

variable {s : Store} {r : Tag → List UInt8} (h : Holds s r) (d : List UInt8) (persist : Bool)
include h

theorem Holds.set_function : Holds (paramsSet s Tag.function.index 0 d persist).1
    (Function.update r .function d) := by
  rw [paramsSet_function]
  refine ⟨by simpa using h.default, fun t => ?_⟩
  cases t with
  | application =>
    rw [Function.update_of_ne (by decide), ← h.value .application]
    exact tagValue_application_congr (by simp) (by simp) (by simp)
  | function =>
    rw [Function.update_self, tagValue_function, commit_shadow, cut_setTag_append]
  | location =>
    rw [Function.update_of_ne (by decide), ← h.value .location, tagValue_location, commit_shadow,
      tagValue_location]

theorem Holds.set_location : Holds (paramsSet s Tag.location.index 0 d persist).1
    (Function.update r .location d) := by
  rw [paramsSet_location]
  refine ⟨by simpa using h.default, fun t => ?_⟩
  cases t with
  | application =>
    rw [Function.update_of_ne (by decide), ← h.value .application]
    exact tagValue_application_congr (by simp) (by simp) (by simp)
  | function =>
    -- the function tag ends before the location tag begins
    have hterm := h.function_terminated
    rw [Function.update_of_ne (by decide), ← h.value .function, tagValue_function, commit_shadow,
      tagValue_function, cut_append_of_mem hterm, cut_append_of_mem hterm]
  | location =>
    rw [Function.update_self, tagValue_location, commit_shadow, cut_setTag]

theorem Holds.set_application (hlen : d.length ≤ 32) :
    Holds (paramsSet s Tag.application.index 0 d persist).1
      (Function.update r .application d) := by
  have hmod : d.length % 256 < tagSize := by
    unfold tagSize
    omega
  rw [paramsSet_application h.default hmod, appTagBuffer_eq_setTag _ hlen]
  refine ⟨by simpa using h.default, fun t => ?_⟩
  cases t with
  | application =>
    rw [Function.update_self, tagValue_application (by simpa using h.default) (by simp),
      commit_appTagBuffer, cut_setTag]
  | function =>
    rw [Function.update_of_ne (by decide), ← h.value .function]
    cases persist <;> rfl
  | location =>
    rw [Function.update_of_ne (by decide), ← h.value .location]
    cases persist <;> rfl

/-- An accepted set. -/
theorem Holds.set {t : Tag} (hlen : ¬(t = .application ∧ 32 < d.length)) :
    Holds (paramsSet s t.index 0 d persist).1 (Function.update r t d) := by
  cases t with
  | application => exact h.set_application d persist (by simpa using hlen)
  | function => exact h.set_function d persist
  | location => exact h.set_location d persist

/-- The factory reset clears the three tags. -/
theorem Holds.factoryReset : Holds (paramsFactoryReset s) fun _ => [] := by
  rw [paramsFactoryReset_default h.default]
  refine ⟨by simpa using h.default, fun t => ?_⟩
  cases t with
  | application =>
    rw [tagValue_application (by simpa using h.default) (by simp), commit_appTagBuffer, cut_setTag]
  | function => rw [tagValue_function, commit_shadow, cut_setTag_append]
  | location => rw [tagValue_location, commit_shadow, cut_setTag]

end Step

/-! ## Runs -/

theorem accept_set_refused {r : Tag → List UInt8} {t : Tag} {data : TagData}
    (h : t = .application ∧ 32 < data.1.length) (persist : Bool) :
    accept r (.set t data persist) = r := if_pos h

/-- A refused set leaves the store alone. -/
theorem paramsSet_refused (s : Store) {t : Tag} {d : List UInt8} (hd : d.length ≤ 255)
    (h : t = .application ∧ 32 < d.length) (persist : Bool) :
    paramsSet s t.index 0 d persist = (s, -1) := by
  obtain ⟨rfl, hlen⟩ := h
  refine paramsSet_application_refused s (.inl ?_) persist
  unfold tagSize
  omega

theorem Holds.step {s : Store} {r : Tag → List UInt8} (h : Holds s r) (call : TagCall) :
    Holds (tagStep s call) (accept r call) := by
  cases call with
  | set t data persist =>
    by_cases hrefused : t = .application ∧ 32 < data.1.length
    · rw [accept_set_refused hrefused, tagStep, paramsSet_refused s data.2 hrefused]
      exact h
    · rw [accept, if_neg hrefused]
      exact h.set data.1 persist hrefused
  | factoryReset => exact h.factoryReset

theorem Holds.run {s : Store} {r : Tag → List UInt8} (h : Holds s r) (calls : List TagCall) :
    Holds (calls.foldl tagStep s) (lastAccepted r calls) := by
  induction calls generalizing s r with
  | nil => exact h
  | cons call calls ih => exact ih (h.step call)

/-- What a store that holds `r` returns. -/
theorem Holds.get {s : Store} {r : Tag → List UInt8} (h : Holds s r) (t : Tag) {max : ℕ}
    (hmax : 32 ≤ max) : (paramsGet s t.index 0 max).1 = some (cut ((r t).take 32)) := by
  have hcut := length_cut_le ((r t).take 32)
  have htake := List.length_take_le 32 (r t)
  rw [paramsGet_tag, h.value, Option.map_some, List.take_of_length_le (by omega)]

/-! ## The start of a run -/

/-- What the tag holds before the first call. -/
def initialData (s : Store) (t : Tag) : List UInt8 := (tagValue s t).getD []

/-- After any calls on the tags, the store is one of three registers: `get` returns
    the data last accepted, cut to 32 bytes and at the first NUL; only an application
    tag of more than 32 bytes is refused, and a set shows in its own tag only. -/
structure ThreeRegisters (s : Store) : Prop where
  get : ∀ (calls : List TagCall) (t : Tag) (max : ℕ), 32 ≤ max →
    (paramsGet (calls.foldl tagStep s) t.index 0 max).1 =
      some (cut ((lastAccepted (initialData s) calls t).take 32))
  refused : ∀ (calls : List TagCall) (data : TagData) (persist : Bool), 32 < data.1.length →
    paramsSet (calls.foldl tagStep s) Tag.application.index 0 data.1 persist =
      (calls.foldl tagStep s, -1)
  accepted : ∀ (calls : List TagCall) (t : Tag) (data : TagData) (persist : Bool),
    ¬(t = .application ∧ 32 < data.1.length) →
      (paramsSet (calls.foldl tagStep s) t.index 0 data.1 persist).2 = 0
  others : ∀ (calls : List TagCall) (t u : Tag) (data : TagData) (persist : Bool) (max : ℕ), u ≠ t →
    (paramsGet (tagStep (calls.foldl tagStep s) (.set t data persist)) u.index 0 max).1 =
      (paramsGet (calls.foldl tagStep s) u.index 0 max).1

theorem mem_slice (f : ℕ → UInt8) {i n : ℕ} (h : i < n) : f i ∈ slice f 0 n :=
  List.mem_map.mpr ⟨i, List.mem_range.mpr h, by rw [Nat.zero_add]⟩

/-- `g_app_tag_buffer` is terminated. -/
def AppTagTerminated (s : Store) : Prop := 0 ∈ slice s.appTagBuffer 0 tagSize

theorem appTagTerminated_setApplicationTag {s : Store} (h : AppTagTerminated s) (tag : List UInt8)
    (len : ℕ) : AppTagTerminated (deviceInfoSetApplicationTag s tag len).1 := by
  unfold deviceInfoSetApplicationTag
  by_cases hlen : len ≥ tagSize
  · rw [if_pos hlen]
    exact h
  · rw [if_neg hlen]
    cases s.deviceInfo with
    | default =>
      have hmem := mem_slice (Function.update (blit s.appTagBuffer 0 (tag.take len)) len 0)
        (Nat.not_le.mp hlen)
      rwa [Function.update_self] at hmem
    | null => exact h
    | user info => exact h

theorem appTagBuffer_deviceInfoGet (s : Store) :
    (deviceInfoGet s).2.appTagBuffer = s.appTagBuffer := by
  unfold deviceInfoGet
  cases s.deviceInfo <;> rfl

/-- A valid image is taken as it is. -/
theorem paramsInit_valid (s : Store) {p : ParamsNvm} (h : p.magic = paramsNvmMagic) :
    paramsInit s (some p) = (deviceInfoSetApplicationTag { s with shadow := p }
      p.fromApplicationTag ((CString.ofMem p.fromApplicationTag).strlen % 256)).1 :=
  if_pos ⟨rfl, h⟩

theorem deviceInfoGet_withShadow (s : Store) (p : ParamsNvm) :
    (deviceInfoGet { s with shadow := p }).2 = { (deviceInfoGet s).2 with shadow := p } := by
  obtain ⟨info, _, _, _, _, _⟩ := s
  cases info <;> rfl

theorem terminated_update_zero (tag : ℕ → UInt8) :
    0 ∈ slice (Function.update tag 0 0) 0 tagSize := by
  have hmem := mem_slice (Function.update tag 0 0) (show 0 < tagSize by decide)
  rwa [Function.update_self] at hmem

/-- Without a valid image the shadow gets the defaults, which are terminated. -/
theorem paramsInit_invalid (s : Store) {image : Option ParamsNvm}
    (h : ∀ p, image = some p → p.magic ≠ paramsNvmMagic) :
    ∃ shadow : ParamsNvm, shadow.Terminated ∧ shadow.magic = paramsNvmMagic ∧
      paramsInit s image = { (deviceInfoGet s).2 with shadow := shadow } := by
  unfold paramsInit
  cases image with
  | none =>
    rw [if_neg (by simp)]
    exact ⟨_, ⟨terminated_update_zero _, terminated_update_zero _⟩, rfl, rfl⟩
  | some p =>
    dsimp only
    rw [if_neg fun hp => h p rfl hp.2, deviceInfoGet_withShadow]
    exact ⟨_, ⟨terminated_update_zero _, terminated_update_zero _⟩, rfl, rfl⟩

theorem appTagTerminated_paramsInit {s : Store} (h : AppTagTerminated s)
    (image : Option ParamsNvm) : AppTagTerminated (paramsInit s image) := by
  by_cases hp : ∃ p, image = some p ∧ p.magic = paramsNvmMagic
  · obtain ⟨p, rfl, hmagic⟩ := hp
    rw [paramsInit_valid s hmagic]
    exact appTagTerminated_setApplicationTag (s := { s with shadow := p }) h _ _
  · obtain ⟨shadow, -, -, heq⟩ := paramsInit_invalid s fun p hi hm => hp ⟨p, hi, hm⟩
    rw [heq, AppTagTerminated, appTagBuffer_deviceInfoGet]
    exact h

theorem appTagTerminated_step {s : Store} (h : AppTagTerminated s) (call : StoreCall) :
    AppTagTerminated (storeStep s call) := by
  cases call with
  | deviceInfoInit info => cases info <;> exact h
  | deviceInfoGet =>
    rw [AppTagTerminated, storeStep, appTagBuffer_deviceInfoGet]
    exact h
  | deviceInfoSetApplicationTag tag len => exact appTagTerminated_setApplicationTag h tag len.toNat
  | deviceInfoSetAccessLocks locks =>
    rw [storeStep, deviceInfoSetAccessLocks]
    cases s.deviceInfo <;> exact h
  | paramsInit image => exact appTagTerminated_paramsInit h image
  | paramsGet index subindex maxLen =>
    rw [storeStep, paramsGet]
    split_ifs
    · rw [AppTagTerminated, appTagBuffer_deviceInfoGet]
      exact h
    all_goals exact h
  | paramsSet index subindex data persist =>
    have happ := appTagTerminated_setApplicationTag h data (data.length % 256)
    simp only [storeStep, paramsSet]
    split_ifs
    all_goals first | exact happ | exact h
  | paramsFactoryReset =>
    show AppTagTerminated (deviceInfoSetApplicationTag { s with shadow := _ } [] 0).1
    refine appTagTerminated_setApplicationTag ?_ [] 0
    exact h

theorem appTagTerminated_storeInit : AppTagTerminated storeInit := by
  unfold AppTagTerminated
  decide

theorem appTagTerminated_storeAfter (calls : List StoreCall) :
    AppTagTerminated (storeAfter calls) :=
  List.foldlRecOn calls storeStep appTagTerminated_storeInit
    fun _ h call _ => appTagTerminated_step h call

theorem tagValue_eq_initialData {s : Store} (hdef : s.deviceInfo = .default) (t : Tag) :
    tagValue s t = some (initialData s t) := by
  cases t with
  | application => simp [initialData, tagValue, deviceInfoGet, hdef, defaultInfo]
  | function => rfl
  | location => rfl

theorem nul_not_mem_tagValue {s : Store} {t : Tag} {v : List UInt8} (h : tagValue s t = some v) :
    0 ∉ v := by
  intro h0
  cases t with
  | application =>
    obtain ⟨str, -, rfl⟩ := Option.map_eq_some_iff.mp h
    exact str.noNul 0 h0 rfl
  | function | location =>
    obtain rfl := Option.some_inj.mp h
    exact CString.noNul _ 0 h0 rfl

/-- The application tag of the default record has at most 32 bytes. -/
theorem length_initialData_application {s : Store} (huser : s.deviceInfo.isUser = false)
    (hbuf : AppTagTerminated s) : (initialData s .application).length ≤ 32 := by
  have hval : initialData s .application =
      if s.appTagInBuffer then cut (slice s.appTagBuffer 0 tagSize)
      else (CString.lit "DefaultTag").bytes := by
    unfold initialData tagValue deviceInfoGet
    cases hinfo : s.deviceInfo with
    | user info =>
      rw [hinfo] at huser
      cases huser
    | null | default => cases hin : s.appTagInBuffer <;> simp [defaultInfo, hin, cut]
  rw [hval]
  split_ifs
  · have hlt := length_cut_of_mem hbuf []
    rw [List.append_nil, length_slice] at hlt
    exact Nat.le_of_lt_succ hlt
  · decide

theorem length_initialData_function (s : Store) :
    (initialData s .function).length ≤ 32 ↔ 0 ∈ slice s.shadow.functionTag 0 tagSize := by
  rw [← length_cut_lt_iff _ (slice s.shadow.locationTag 0 tagSize), length_slice]
  exact Nat.lt_succ_iff.symm

theorem length_initialData_location (s : Store) :
    (initialData s .location).length ≤ 32 ↔ 0 ∈ slice s.shadow.locationTag 0 tagSize := by
  rw [← length_cut_lt_iff _ [], List.append_nil, length_slice]
  exact Nat.lt_succ_iff.symm

/-- A tag is what it holds, cut to 32 bytes, exactly if it has no more. -/
theorem value_initialData_iff {s : Store} (hdef : s.deviceInfo = .default) (t : Tag) :
    tagValue s t = some (cut ((initialData s t).take 32)) ↔ (initialData s t).length ≤ 32 := by
  have hval := tagValue_eq_initialData hdef t
  have hnul := nul_not_mem_tagValue hval
  rw [hval, Option.some_inj, eq_comm, cut_take_eq_self_iff]
  exact ⟨fun h => h.2, fun h => ⟨hnul, h⟩⟩

/-- The tags of the default record have at most 32 bytes exactly if the arrays of the
    shadow are terminated. -/
theorem holds_initialData_iff {s : Store} (hdef : s.deviceInfo = .default)
    (hbuf : AppTagTerminated s) : Holds s (initialData s) ↔ s.shadow.Terminated := by
  constructor
  · intro h
    exact ⟨(length_initialData_function s).mp ((value_initialData_iff hdef _).mp (h.value _)),
      (length_initialData_location s).mp ((value_initialData_iff hdef _).mp (h.value _))⟩
  · intro h
    refine ⟨hdef, fun t => (value_initialData_iff hdef t).mpr ?_⟩
    cases t with
    | application => exact length_initialData_application (by rw [hdef]; rfl) hbuf
    | function => exact (length_initialData_function s).mpr h.function
    | location => exact (length_initialData_location s).mpr h.location

theorem threeRegisters_of_holds {s : Store} (h : Holds s (initialData s)) : ThreeRegisters s where
  get calls t max hmax := (h.run calls).get t hmax
  refused calls data persist hlen := paramsSet_refused _ data.2 ⟨rfl, hlen⟩ persist
  accepted calls t data persist hlen := by
    have hrun := h.run calls
    cases t with
    | application =>
      rw [paramsSet_application hrun.default]
      unfold tagSize
      have : ¬32 < data.1.length := fun hlt => hlen ⟨rfl, hlt⟩
      omega
    | function => rw [paramsSet_function]
    | location => rw [paramsSet_location]
  others calls t u data persist max hne := by
    have hrun := h.run calls
    rw [paramsGet_tag, paramsGet_tag, (hrun.step (.set t data persist)).value, hrun.value, accept]
    split_ifs
    · rfl
    · rw [Function.update_of_ne hne]

/-- **The parameter manager as a store of three registers.** In every state with the
    default device information, it is one exactly if the function and the location
    tag in the shadow are terminated inside their own arrays. -/
theorem threeRegisters_iff (calls : List StoreCall)
    (hdef : (storeAfter calls).deviceInfo = .default) :
    ThreeRegisters (storeAfter calls) ↔ (storeAfter calls).shadow.Terminated := by
  have hbuf := appTagTerminated_storeAfter calls
  rw [← holds_initialData_iff hdef hbuf]
  refine ⟨fun h => ⟨hdef, fun t => ?_⟩, threeRegisters_of_holds⟩
  -- read with a buffer that has room for the whole string
  have hget := h.get [] t (32 + (initialData (storeAfter calls) t).length) (by omega)
  rw [List.foldl_nil, paramsGet_tag, tagValue_eq_initialData hdef, Option.map_some,
    List.take_of_length_le (by omega)] at hget
  rw [tagValue_eq_initialData hdef]
  exact hget

/-- Without an image in the NVM the store is one of three registers. -/
theorem threeRegisters_without_image :
    ThreeRegisters (storeAfter [.paramsInit none, .deviceInfoInit none]) :=
  (threeRegisters_iff [.paramsInit none, .deviceInfoInit none] rfl).mpr ⟨by decide, by decide⟩

/-- An image whose function tag fills its array without a terminator. -/
def unterminatedImage : ParamsNvm := ⟨paramsNvmMagic, fun _ => 0, fun _ => 0x41, fun _ => 0⟩

/-- Once it is loaded, a set of the location tag shows in the function tag. -/
theorem unterminated_function_tag_runs_on :
    let s := storeAfter [.paramsInit (some unterminatedImage), .deviceInfoInit none]
    let s' := (paramsSet s Tag.location.index 0 [0x42] false).1
    (paramsGet s Tag.function.index 0 64).1 = some (List.replicate 33 0x41) ∧
      (paramsGet s' Tag.function.index 0 64).1 = some (List.replicate 33 0x41 ++ [0x42]) ∧
      ¬ThreeRegisters s := by
  intro s s'
  have hbefore : (paramsGet s Tag.function.index 0 64).1 = some (List.replicate 33 0x41) := by
    decide +kernel
  have hafter : (paramsGet s' Tag.function.index 0 64).1 =
      some (List.replicate 33 0x41 ++ [0x42]) := by decide +kernel
  refine ⟨hbefore, hafter, fun h => ?_⟩
  have hsame := h.others [] .location .function ⟨[0x42], by decide⟩ false 64 (by decide)
  exact absurd (hafter.symm.trans (hsame.trans hbefore)) (by decide)

/-! ## The length of an application tag -/

/-- The set of the application tag with `persist` is accepted exactly for up to 32
    bytes; then both copies hold the data and a terminator. Otherwise it returns `-1`
    and changes nothing. -/
structure AllOrNothing (s : Store) (data : List UInt8) : Prop where
  ret : (paramsSet s Tag.application.index 0 data true).2 = 0 ↔ data.length ≤ 32
  accepted : data.length ≤ 32 →
    let s' := (paramsSet s Tag.application.index 0 data true).1
    s'.appTagInBuffer = true ∧
      slice s'.appTagBuffer 0 (data.length + 1) = data ++ [0] ∧
      slice s'.shadow.applicationTag 0 (data.length + 1) = data ++ [0]
  refused : 32 < data.length → paramsSet s Tag.application.index 0 data true = (s, -1)

theorem slice_setTag_self (tag : ℕ → UInt8) {d : List UInt8} (h : d.length ≤ 32) :
    slice (setTag tag d) 0 (d.length + 1) = d ++ [0] := by
  have hblit := slice_blit tag 0 (d ++ [0])
  rw [List.length_append, List.length_singleton] at hblit
  rw [setTag_eq_blit, List.take_of_length_le h, hblit]

/-- **Application tags are set whole or not at all.** This holds for a length up to 32
    and for every other length whose low byte is at least 33. -/
theorem applicationTag_all_or_nothing_iff {s : Store} (hdef : s.deviceInfo = .default)
    (data : List UInt8) :
    AllOrNothing s data ↔ data.length ≤ 32 ∨ 33 ≤ data.length % 256 := by
  constructor
  · intro h
    by_contra hcon
    push Not at hcon
    have hret : (paramsSet s Tag.application.index 0 data true).2 = 0 := by
      rw [paramsSet_application hdef hcon.2]
    exact absurd (h.ret.mp hret) (Nat.not_le.mpr hcon.1)
  · intro h
    by_cases hlen : data.length ≤ 32
    · have hmod : data.length % 256 < tagSize := by
        unfold tagSize
        omega
      refine ⟨⟨fun _ => hlen, fun _ => ?_⟩, fun _ => ?_, fun hlt => absurd hlen (by omega)⟩
      · rw [paramsSet_application hdef hmod]
      · rw [paramsSet_application hdef hmod, appTagBuffer_eq_setTag _ hlen]
        exact ⟨rfl, slice_setTag_self _ hlen, slice_setTag_self _ hlen⟩
    · have hset := paramsSet_application_refused s (.inl (h.resolve_left hlen)) true
      refine ⟨⟨fun hret => ?_, fun hle => absurd hle hlen⟩, fun hle => absurd hle hlen,
        fun _ => hset⟩
      rw [hset] at hret
      exact absurd hret (by simp)

/-- A set of 32 bytes. -/
theorem applicationTag_all_or_nothing_full :
    AllOrNothing (storeAfter [.deviceInfoInit none]) (List.replicate 32 0x41) :=
  (applicationTag_all_or_nothing_iff rfl (List.replicate 32 0x41)).mpr (.inl (by decide))

/-- A set of 257 bytes is accepted: one byte goes to the device information and 32 to
    the NVM. -/
theorem long_application_tag_accepted :
    let s := storeAfter [.deviceInfoInit none]
    let data := List.replicate 257 0x41
    let w := paramsSet s Tag.application.index 0 data true
    w.2 = 0 ∧ (paramsGet w.1 Tag.application.index 0 64).1 = some [0x41] ∧
      w.1.nvm.map (fun p => slice p.applicationTag 0 tagSize) =
        some (List.replicate 32 0x41 ++ [0]) ∧
      ¬AllOrNothing s data := by
  intro s data w
  have hret : w.2 = 0 := by decide +kernel
  refine ⟨hret, by decide +kernel, by decide +kernel, fun h => ?_⟩
  exact absurd (h.ret.mp hret) (by decide +kernel)

end Iolinki
