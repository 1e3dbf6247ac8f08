import Iolinki.Isdu.Execute
import Iolinki.Isdu.Request

/-!
# Writing and reading the tags

The application, the function and the location tag are written with a pointer
and a length and are read back as C strings. A payload with a NUL byte is
therefore cut when it is read. Payloads of more than 32 bytes are refused for
the application tag, but cut for the other two, and the write is answered with
success in both cases. The three tags lie one behind the other in
`iolink_params_nvm_t`: a function tag that fills its array without a terminator,
as an NVM image can bring it, is read on into the location tag.

* `tagValue_set`, `tagValue_set_other`: what an accepted write does to the value
  of the tags.
* `tag_readback_iff`: exactly when a successful write is read back and leaves the
  other tags alone.
-/

namespace Iolinki

open Iolinki.Lib

/-! ## The values of the tags -/

/-- The writable tags. -/
inductive Tag
  | application | function | location
  deriving DecidableEq, Repr

def Tag.index : Tag → UInt16
  | .application => idxApplicationTag
  | .function => idxFunctionTag
  | .location => idxLocationTag

/-- The C string that stands for the tag; `none` if its pointer is NULL. -/
def tagValue (s : Store) : Tag → Option (List UInt8)
  | .application => (deviceInfoGet s).1.applicationTag.map CString.bytes
  | .function => some (CString.ofMem s.shadow.fromFunctionTag).bytes
  | .location => some (CString.ofMem s.shadow.fromLocationTag).bytes

theorem paramsGet_tag (s : Store) (t : Tag) (n : ℕ) :
    (paramsGet s t.index 0 n).1 = (tagValue s t).map (List.take n) := by
  cases t with
  | application => simp [paramsGet, tagValue, Tag.index, Function.comp_def]
  | function => simp [paramsGet, tagValue, Tag.index]
  | location => simp [paramsGet, tagValue, Tag.index]

theorem shadow_deviceInfoGet (s : Store) : (deviceInfoGet s).2.shadow = s.shadow := by
  unfold deviceInfoGet
  cases s.deviceInfo <;> rfl

theorem tagValue_deviceInfoGet (s : Store) (t : Tag) :
    tagValue (deviceInfoGet s).2 t = tagValue s t := by
  cases t with
  | application => simp only [tagValue, deviceInfoGet_idem]
  | function => simp only [tagValue, shadow_deviceInfoGet]
  | location => simp only [tagValue, shadow_deviceInfoGet]

/-! ## C strings in memory -/

/-- The bytes before the first NUL. -/
def cut (mem : List UInt8) : List UInt8 := (CString.ofMem mem).bytes

theorem cut_append_nul (l r : List UInt8) : cut (l ++ 0 :: r) = cut l := by
  unfold cut CString.ofMem
  induction l with
  | nil => simp
  | cons b l ih =>
    by_cases hb : b = 0
    · simp [hb]
    · simpa [hb] using ih

/-- Without a NUL the string runs on. -/
theorem cut_append {l : List UInt8} (hl : 0 ∉ l) (r : List UInt8) : cut (l ++ r) = l ++ cut r := by
  have hall : ∀ b ∈ l, (b != 0) = true := by
    intro b hb
    have : b ≠ 0 := fun h0 => hl (h0 ▸ hb)
    simpa using this
  exact List.takeWhile_append_of_pos hall

theorem cut_append_of_mem {l : List UInt8} (hl : 0 ∈ l) (r : List UInt8) :
    cut (l ++ r) = cut l := by
  obtain ⟨a, b, rfl⟩ := List.append_of_mem hl
  rw [List.append_assoc, List.cons_append, cut_append_nul, cut_append_nul]

theorem cut_eq_self_iff (l : List UInt8) : cut l = l ↔ 0 ∉ l := by
  unfold cut CString.ofMem
  simp only [List.takeWhile_eq_self_iff, bne_iff_ne, ne_eq]
  exact ⟨fun h h0 => h 0 h0 rfl, fun h b hb h0 => h (h0 ▸ hb)⟩

theorem length_cut_le (l : List UInt8) : (cut l).length ≤ l.length :=
  (List.takeWhile_sublist _).length_le

/-- A payload survives both truncations only if it is short and has no NUL. -/
theorem cut_take_eq_self_iff (d : List UInt8) : cut (d.take 32) = d ↔ 0 ∉ d ∧ d.length ≤ 32 := by
  constructor
  · intro h
    have hlen : d.length ≤ 32 := by
      have h1 := length_cut_le (d.take 32)
      have h2 := List.length_take_le 32 d
      rw [h] at h1
      omega
    rw [List.take_of_length_le hlen, cut_eq_self_iff] at h
    exact ⟨h, hlen⟩
  · rintro ⟨h0, hlen⟩
    rw [List.take_of_length_le hlen, cut_eq_self_iff]
    exact h0

/-- The data and the terminator are one copy. -/
theorem setTag_eq_blit (tag : ℕ → UInt8) (data : List UInt8) :
    setTag tag data = blit tag 0 (data.take 32 ++ [0]) := by
  rw [← update_blit_length, List.length_take, Nat.min_comm]
  unfold setTag
  dsimp only
  rw [show data.take (min data.length 32) = data.take 32 by
    rw [List.take_eq_take_iff]
    omega]

/-- What a tag array holds after `data` and the terminator have been copied to
    it. -/
theorem slice_setTag (tag : ℕ → UInt8) (data : List UInt8) :
    ∃ r, slice (setTag tag data) 0 tagSize = data.take 32 ++ 0 :: r := by
  have hlen : (data.take 32 ++ [(0 : UInt8)]).length ≤ tagSize := by
    have := List.length_take_le 32 data
    rw [List.length_append, List.length_singleton]
    unfold tagSize
    omega
  rw [setTag_eq_blit, slice_blit_append tag hlen, List.append_assoc, List.singleton_append]
  exact ⟨_, rfl⟩

/-! ## An accepted write -/

/-- The write of `d` bytes is accepted: the application tag takes at most 32 bytes,
    and only in the default record. -/
def Tag.Accepts (t : Tag) (s : Store) (d : List UInt8) : Prop :=
  t = .application → d.length ≤ 32 ∧ s.deviceInfo.isUser = false

theorem paramsSet_tag (s : Store) (t : Tag) {d : List UInt8} (hd : d.length ≤ 255) :
    (paramsSet (deviceInfoGet s).2 t.index 0 d true).2 = 0 ↔ t.Accepts s d := by
  cases t with
  | application =>
    have h := paramsSet_applicationTag (deviceInfoGet s).2 d hd
    rw [deviceInfoGet_default_iff] at h
    exact h.trans ⟨fun h _ => h, fun h => h rfl⟩
  | function => simp [paramsSet, Tag.index, Tag.Accepts]
  | location => simp [paramsSet, Tag.index, Tag.Accepts]

/-- The store after the write. -/
def tagWritten (s : Store) (t : Tag) (d : List UInt8) : Store :=
  (paramsSet (deviceInfoGet s).2 t.index 0 d true).1

section Written

variable {s : Store} {d : List UInt8}

/-- The application tag is kept in the buffer of the default record and in the
    NVM image. -/
theorem tagWritten_application (h : Tag.application.Accepts s d) :
    let s' := (deviceInfoGet s).2
    tagWritten s .application d = nvmWrite { s' with
      appTagBuffer := setTag s'.appTagBuffer d
      appTagInBuffer := true
      shadow := { s'.shadow with applicationTag := setTag s'.shadow.applicationTag d } } := by
  obtain ⟨hlen, huser⟩ := h rfl
  have hdef := (deviceInfoGet_default_iff s).mpr huser
  have hmod : d.length % 256 = d.length := Nat.mod_eq_of_lt (by omega)
  have hmin : min d.length 32 = d.length := min_eq_left hlen
  have hset : deviceInfoSetApplicationTag (deviceInfoGet s).2 d d.length =
      ({ (deviceInfoGet s).2 with
          appTagBuffer := setTag (deviceInfoGet s).2.appTagBuffer d, appTagInBuffer := true },
          0) := by
    unfold deviceInfoSetApplicationTag setTag
    rw [if_neg (by unfold tagSize; omega), hdef]
    simp only [hmin, hdef]
  simp only [tagWritten, paramsSet, Tag.index, idxApplicationTag, hmod, hset, and_self, if_true]

theorem tagWritten_function :
    let s' := (deviceInfoGet s).2
    tagWritten s .function d = nvmWrite { s' with shadow :=
      { s'.shadow with functionTag := setTag s'.shadow.functionTag d } } := by
  simp [tagWritten, paramsSet, Tag.index]

theorem tagWritten_location :
    let s' := (deviceInfoGet s).2
    tagWritten s .location d = nvmWrite { s' with shadow :=
      { s'.shadow with locationTag := setTag s'.shadow.locationTag d } } := by
  simp [tagWritten, paramsSet, Tag.index]

/-- The application tag of a store with the default record. -/
theorem tagValue_application {s : Store} (hdef : s.deviceInfo = .default)
    (hbuf : s.appTagInBuffer = true) :
    tagValue s .application = some (cut (slice s.appTagBuffer 0 tagSize)) := by
  simp [tagValue, deviceInfoGet, hdef, defaultInfo, hbuf, cut]

theorem tagValue_application_congr {s s' : Store} (hinfo : s'.deviceInfo = s.deviceInfo)
    (hin : s'.appTagInBuffer = s.appTagInBuffer) (hbuf : s'.appTagBuffer = s.appTagBuffer) :
    tagValue s' .application = tagValue s .application := by
  unfold tagValue deviceInfoGet
  rw [hinfo]
  cases s.deviceInfo <;> simp [defaultInfo, hin, hbuf]

/-- **What is read back after an accepted write.** -/
theorem tagValue_set {t : Tag} (h : t.Accepts s d) :
    tagValue (tagWritten s t d) t = some (cut (d.take 32)) := by
  cases t with
  | application =>
    have hdef := (deviceInfoGet_default_iff s).mpr (h rfl).2
    obtain ⟨r, hr⟩ := slice_setTag (deviceInfoGet s).2.appTagBuffer d
    rw [tagWritten_application h, tagValue_application]
    · simp only [nvmWrite, hr, cut_append_nul]
    · exact hdef
    · rfl
  | function =>
    obtain ⟨r, hr⟩ := slice_setTag (deviceInfoGet s).2.shadow.functionTag d
    rw [tagWritten_function]
    show some (cut (slice _ 0 tagSize ++ slice _ 0 tagSize)) = _
    simp only [nvmWrite, hr, List.append_assoc, List.cons_append, cut_append_nul]
  | location =>
    obtain ⟨r, hr⟩ := slice_setTag (deviceInfoGet s).2.shadow.locationTag d
    rw [tagWritten_location]
    show some (cut (slice _ 0 tagSize)) = _
    simp only [nvmWrite, hr, cut_append_nul]

/-- A write of the location tag shows in the function tag exactly if that one is
    not terminated and the value changes. -/
theorem tagValue_set_location :
    tagValue (tagWritten s .location d) .function = tagValue s .function ↔
      0 ∈ slice s.shadow.functionTag 0 tagSize ∨ tagValue s .location = some (cut (d.take 32)) := by
  obtain ⟨r, hr⟩ := slice_setTag s.shadow.locationTag d
  have hnew : cut (slice (setTag s.shadow.locationTag d) 0 tagSize) = cut (d.take 32) := by
    rw [hr, cut_append_nul]
  rw [tagWritten_location, shadow_deviceInfoGet, ← hnew]
  show some (cut (slice s.shadow.functionTag 0 tagSize ++
      slice (setTag s.shadow.locationTag d) 0 tagSize)) =
      some (cut (slice s.shadow.functionTag 0 tagSize ++ slice s.shadow.locationTag 0 tagSize)) ↔
    _ ∨ some (cut (slice s.shadow.locationTag 0 tagSize)) = _
  by_cases h0 : 0 ∈ slice s.shadow.functionTag 0 tagSize
  · rw [cut_append_of_mem h0, cut_append_of_mem h0]
    exact ⟨fun _ => .inl h0, fun _ => rfl⟩
  · rw [cut_append h0, cut_append h0, Option.some_inj, Option.some_inj, List.append_cancel_left_eq]
    exact ⟨fun h => .inr h.symm, fun h => (h.resolve_left h0).symm⟩

/-- **An accepted write and the other tags.** -/
theorem tagValue_set_other {t u : Tag} (h : t.Accepts s d) (hne : u ≠ t)
    (hl : ¬ (t = .location ∧ u = .function)) : tagValue (tagWritten s t d) u = tagValue s u := by
  rw [← tagValue_deviceInfoGet s]
  cases t with
  | application =>
    rw [tagWritten_application h]
    cases u with
    | application => exact absurd rfl hne
    | function | location => rfl
  | function =>
    rw [tagWritten_function]
    cases u with
    | application => exact tagValue_application_congr rfl rfl rfl
    | function => exact absurd rfl hne
    | location => rfl
  | location =>
    rw [tagWritten_location]
    cases u with
    | application => exact tagValue_application_congr rfl rfl rfl
    | function => exact absurd ⟨rfl, rfl⟩ hl
    | location => exact absurd rfl hne

end Written

/-! ## The requests -/

/-- The answer that stands ready, if there is one. -/
def answerData (c : IsduCtx) : Option (List UInt8) :=
  if c.state = .responseReady then some (slice c.responseBuf 0 c.responseLen) else none

/-- The bytes of `value` that a read sends: it is cut at the size of the response
    buffer, and the length is cast to `uint8_t`. -/
def sentData (cfg : BuildConfig) (value : List UInt8) : List UInt8 :=
  let data := value.take cfg.isduBufferSize
  data.take (data.length % 256)

theorem sentData_eq {cfg : BuildConfig} (hsize : 255 ≤ cfg.isduBufferSize) {value : List UInt8}
    (hlen : value.length ≤ 255) : sentData cfg value = value := by
  have htake : value.take cfg.isduBufferSize = value := List.take_of_length_le (by omega)
  unfold sentData
  dsimp only
  rw [htake, Nat.mod_eq_of_lt (by omega), List.take_length]

/-- What follows the answer in the source's case for the tag. -/
def Tag.finish : Tag → IsduCtx → IsduCtx
  | .application | .function => resetSeq
  | .location => id

theorem handleStandardCommands_tag (cfg : BuildConfig) (h : Host) {c : IsduCtx} {t : Tag}
    (hi : c.header.index = t.index) :
    handleStandardCommands cfg h c =
      handleTag cfg { h with store := (deviceInfoGet h.store).2 } c t.index t.finish := by
  cases t with
  | application | function | location =>
    simp [handleStandardCommands, handleMandatoryIndices, handleIndex, stringOfIndex, hi, Tag.index,
      Tag.finish]

theorem answerData_finish (t : Tag) (c : IsduCtx) : answerData (t.finish c) = answerData c := by
  cases t with
  | application | function | location => rfl

theorem answerData_putData (c : IsduCtx) (data : List UInt8) :
    answerData (responseReady (putData c data)) = some (data.take (data.length % 256)) := by
  have hlen : 0 + data.length % 256 ≤ data.length := by
    rw [Nat.zero_add]
    exact Nat.mod_le _ _
  exact congrArg some (slice_blit_of_le c.responseBuf data hlen)

section Requests

variable (cfg : BuildConfig) (h : Host) {c : IsduCtx} {t : Tag} {subindex : UInt8}

/-- The answer of a handler becomes the answer of `iolink_isdu_process`. -/
theorem answerData_isduProcess (hs : c.state = .serviceExecute) :
    answerData (isduProcess cfg h c).2 = answerData (handleStandardCommands cfg h c).2 := by
  rw [isduProcess_execute cfg h hs]
  unfold answerData
  split_ifs <;> first | rfl | contradiction

/-- **A read of a tag is answered with its value.** -/
theorem answerData_read (hc : c.Decoded (.read t.index subindex)) :
    answerData (isduProcess cfg h c).2 = (tagValue h.store t).map (sentData cfg) := by
  have hr : c.header.type = .read := hc.type
  have hs := hc.state
  rw [answerData_isduProcess cfg h hs, handleStandardCommands_tag cfg h hc.index, handleTag,
    if_neg (by rw [hr]; decide)]
  dsimp only
  rw [paramsGet_tag, tagValue_deviceInfoGet]
  cases tagValue h.store t with
  | none => simp [answerData, hs]
  | some v =>
    simp only [Option.map_some, answerData_finish, answerData_putData]
    rfl

/-- **A write of a tag** is answered with success if it is accepted, and not
    answered otherwise. -/
theorem answerData_write {d : Payload} (hc : c.Decoded (.write t.index subindex d)) :
    (isduProcess cfg h c).1.store = tagWritten h.store t d.1 ∧
      (answerData (isduProcess cfg h c).2 = some [] ↔ t.Accepts h.store d.1) := by
  have hw : c.header.type = .write := hc.type
  have hs := hc.state
  have hbuf : slice c.buffer 0 c.bufferIdx = d.1 := hc.buffer
  have hset := paramsSet_tag h.store t d.2.2
  have hstd : handleStandardCommands cfg h c =
      ({ h with store := tagWritten h.store t d.1 },
        if (paramsSet (deviceInfoGet h.store).2 t.index 0 d.1 true).2 = 0 then
          t.finish (answerEmpty c) else c) := by
    rw [handleStandardCommands_tag cfg h hc.index, handleTag, if_pos hw, hbuf]
    rfl
  constructor
  · rw [isduProcess_execute cfg h hs, hstd]
    split_ifs <;> rfl
  · rw [answerData_isduProcess cfg h hs, hstd]
    by_cases hacc : t.Accepts h.store d.1
    · simp only [if_pos (hset.mpr hacc), answerData_finish]
      exact ⟨fun _ => hacc, fun _ => rfl⟩
    · simp only [if_neg (mt hset.mp hacc), answerData, hs]
      exact ⟨fun hne => absurd hne (by simp), fun h => absurd h hacc⟩

end Requests

/-- The engine after the stream of a request. -/
def collected (req : Request) : IsduCtx :=
  parser.final isduWired (segments true 0 (req.dataBytes.map fun b => (true, b)))

theorem decoded_collected (req : Request) : (collected req).Decoded req := by
  have hsegs : (req.dataBytes.map fun b => (true, b)).map Prod.snd = req.dataBytes := by
    rw [List.map_map]
    exact List.map_id _
  exact (parser_request req 0 hsegs (.inl rfl)).2

/-! ## Read-back -/

/-- If the write of `d` is answered with success, a read of the tag is answered with
    `d`, and reads of the other tags are answered as before the write. -/
def ReadsBack (cfg : BuildConfig) (h : Host) (t : Tag) (d : Payload) : Prop :=
  ∀ (subindex : UInt8) (w : IsduCtx), w.Decoded (.write t.index subindex d) →
    answerData (isduProcess cfg h w).2 = some [] →
    (∀ (sub : UInt8) (r : IsduCtx), r.Decoded (.read t.index sub) →
      answerData (isduProcess cfg (isduProcess cfg h w).1 r).2 = some d.1) ∧
    ∀ (u : Tag), u ≠ t → ∀ (sub : UInt8) (r : IsduCtx), r.Decoded (.read u.index sub) →
      answerData (isduProcess cfg (isduProcess cfg h w).1 r).2 = answerData (isduProcess cfg h r).2

/-- The condition for read-back: the write is refused, or the payload is a C
    string of at most 32 bytes and, for the location tag, the function tag is
    terminated or the value does not change. -/
def Tag.KeepsValue (t : Tag) (s : Store) (d : List UInt8) : Prop :=
  ¬ t.Accepts s d ∨
    (0 ∉ d ∧ d.length ≤ 32 ∧
      (t = .location → 0 ∈ slice s.shadow.functionTag 0 tagSize ∨ tagValue s .location = some d))

/-- In terms of the values of the tags. -/
theorem readsBack_iff (cfg : BuildConfig) (h : Host) (t : Tag) (d : Payload) :
    ReadsBack cfg h t d ↔ (t.Accepts h.store d.1 →
      (tagValue (tagWritten h.store t d.1) t).map (sentData cfg) = some d.1 ∧
      ∀ u ≠ t, (tagValue (tagWritten h.store t d.1) u).map (sentData cfg) =
        (tagValue h.store u).map (sentData cfg)) := by
  constructor
  · intro hrb hacc
    have hw := decoded_collected (.write t.index 0 d)
    obtain ⟨hstore, hans⟩ := answerData_write cfg h hw
    obtain ⟨hsame, hother⟩ := hrb 0 _ hw (hans.mpr hacc)
    constructor
    · have hr := decoded_collected (.read t.index 0)
      rw [← hstore, ← answerData_read cfg _ hr]
      exact hsame 0 _ hr
    · intro u hu
      have hr := decoded_collected (.read u.index 0)
      rw [← hstore, ← answerData_read cfg _ hr, ← answerData_read cfg _ hr]
      exact hother u hu 0 _ hr
  · intro hval subindex w hw hok
    obtain ⟨hstore, hans⟩ := answerData_write cfg h hw
    obtain ⟨hsame, hother⟩ := hval (hans.mp hok)
    constructor
    · intro sub r hr
      rw [answerData_read cfg _ hr, hstore]
      exact hsame
    · intro u hu sub r hr
      rw [answerData_read cfg _ hr, answerData_read cfg _ hr, hstore]
      exact hother u hu

/-- The function tag is at most as long as two arrays. -/
theorem tagValue_function_length (s : Store) :
    ∃ v, tagValue s .function = some v ∧ v.length ≤ 255 := by
  refine ⟨_, rfl, ?_⟩
  have hlen := length_cut_le s.shadow.fromFunctionTag
  have hmem : s.shadow.fromFunctionTag.length = 66 := by simp [ParamsNvm.fromFunctionTag, tagSize]
  show (cut s.shadow.fromFunctionTag).length ≤ 255
  omega

theorem sentData_function {cfg : BuildConfig} (hsize : 255 ≤ cfg.isduBufferSize) (s : Store) :
    (tagValue s .function).map (sentData cfg) = tagValue s .function := by
  obtain ⟨v, hv, hlen⟩ := tagValue_function_length s
  rw [hv, Option.map_some, sentData_eq hsize hlen]

/-- **When a successful write is read back.** -/
theorem tag_readback_iff (cfg : BuildConfig) (hsize : 255 ≤ cfg.isduBufferSize) (h : Host) (t : Tag)
    (d : Payload) : ReadsBack cfg h t d ↔ t.KeepsValue h.store d.1 := by
  rw [readsBack_iff]
  by_cases hacc : t.Accepts h.store d.1
  swap
  · exact ⟨fun _ => .inl hacc, fun _ h => absurd h hacc⟩
  have hcut : (tagValue (tagWritten h.store t d.1) t).map (sentData cfg) = some d.1 ↔
      0 ∉ d.1 ∧ d.1.length ≤ 32 := by
    have hlen : (cut (d.1.take 32)).length ≤ 255 := by
      have h1 := length_cut_le (d.1.take 32)
      have h2 := List.length_take_le 32 d.1
      omega
    rw [tagValue_set hacc, Option.map_some, sentData_eq hsize hlen, Option.some_inj,
      cut_take_eq_self_iff]
  have hshort : 0 ∉ d.1 ∧ d.1.length ≤ 32 → cut (d.1.take 32) = d.1 :=
    (cut_take_eq_self_iff d.1).mpr
  constructor
  · intro hval
    obtain ⟨hsame, hother⟩ := hval hacc
    obtain ⟨h0, hlen⟩ := hcut.mp hsame
    refine .inr ⟨h0, hlen, ?_⟩
    rintro rfl
    have hfun := hother .function (by decide)
    rw [sentData_function hsize, sentData_function hsize, tagValue_set_location,
      hshort ⟨h0, hlen⟩] at hfun
    exact hfun
  · rintro (hno | ⟨h0, hlen, hloc⟩) -
    · exact absurd hacc hno
    refine ⟨hcut.mpr ⟨h0, hlen⟩, fun u hu => ?_⟩
    by_cases hl : t = .location ∧ u = .function
    · obtain ⟨rfl, rfl⟩ := hl
      rw [tagValue_set_location.mpr]
      rw [hshort ⟨h0, hlen⟩]
      exact hloc rfl
    · rw [tagValue_set_other hacc hu hl]

/-- A short tag without NUL on a device with default parameters. -/
theorem tag_readback_iff_short :
    ReadsBack {} hostInit .location ⟨[0x41, 0x42], by decide⟩ :=
  (tag_readback_iff {} (by decide) hostInit .location ⟨[0x41, 0x42], by decide⟩).mpr
    (.inr ⟨by decide, by decide, fun _ => .inl (by decide)⟩)

/-- A payload of 33 bytes. -/
def longTag : Payload := ⟨List.replicate 33 0x41, by decide⟩

/-- A function tag of 33 bytes is accepted, and read back without its last byte. -/
theorem long_tag_cut :
    let w := isduProcess {} hostInit (collected (.write 0x0019 0 longTag))
    answerData w.2 = some [] ∧
      answerData (isduProcess {} w.1 (collected (.read 0x0019 0))).2 =
      some (List.replicate 32 0x41) ∧ ¬ ReadsBack {} hostInit .function longTag := by
  intro w
  have hw : answerData w.2 = some [] := by decide +kernel
  have hr : answerData (isduProcess {} w.1 (collected (.read 0x0019 0))).2 =
      some (List.replicate 32 0x41) := by decide +kernel
  refine ⟨hw, hr, fun hrb => ?_⟩
  have hread := (hrb 0 _ (decoded_collected _) hw).1 0 _ (decoded_collected _)
  exact absurd (hr.symm.trans hread) (by decide)

end Iolinki
