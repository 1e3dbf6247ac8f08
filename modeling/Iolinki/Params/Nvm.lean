import Iolinki.Params.Registers

/-!
# Parameters and the NVM image

`params.c` keeps one shadow of the whole NVM image. A set of the function or of the
location tag goes to the shadow, with or without `persist`, and every commit writes
the whole shadow. The application tag is copied to the shadow only when it is
committed. `iolink_params_init` checks the magic of an image and nothing else.

* `volatile_sets_iff`: the NVM holds what was last set with `persist`, exactly if no
  tag is committed while another one has a volatile value in the shadow.
* `image_loaded_safely_iff`: which images leave strings that end inside their arrays.
-/

namespace Iolinki

open Iolinki.Lib

/-! ## The tags of an image -/

/-- The array of the tag. -/
def ParamsNvm.tag (p : ParamsNvm) : Tag → ℕ → UInt8
  | .application => p.applicationTag
  | .function => p.functionTag
  | .location => p.locationTag

/-- The value that the tag has in an image. -/
def ParamsNvm.value (p : ParamsNvm) (t : Tag) : List UInt8 := cut (slice (p.tag t) 0 tagSize)

/-- A call of `iolink_params_set` on subindex 0 of a tag. -/
structure TagSet where
  tag : Tag
  data : List UInt8
  persist : Bool

def TagSet.apply (s : Store) (c : TagSet) : Store := (paramsSet s c.tag.index 0 c.data c.persist).1

/-- The value that the call sets, as it is read back. -/
def TagSet.value (c : TagSet) : List UInt8 := cut (c.data.take 32)

/-- `g_device_info == &g_default_info` -/
def InfoPtr.isDefault : InfoPtr → Bool
  | .default => true
  | _ => false

/-- The set returns 0: the application tag can be refused. -/
def TagSet.taken (s : Store) (c : TagSet) : Bool :=
  c.tag ≠ .application ∨ (s.deviceInfo.isDefault ∧ c.data.length % 256 < tagSize)

/-- The values last given to the tags by the calls that `counts` selects. -/
def lastSet (counts : TagSet → Bool) (initial : Tag → List UInt8) (calls : List TagSet) :
    Tag → List UInt8 :=
  calls.foldl (fun r c => if counts c then Function.update r c.tag c.value else r) initial

theorem lastSet_concat (counts : TagSet → Bool) (initial : Tag → List UInt8) (calls : List TagSet)
    (c : TagSet) : lastSet counts initial (calls ++ [c]) =
      if counts c then Function.update (lastSet counts initial calls) c.tag c.value
      else lastSet counts initial calls := by
  unfold lastSet
  rw [List.foldl_append, List.foldl_cons, List.foldl_nil]

/-! ## One set -/

/-- The shadow with one array set. -/
def ParamsNvm.withTag (p : ParamsNvm) (t : Tag) (d : List UInt8) : ParamsNvm :=
  match t with
  | .application => { p with applicationTag := setTag p.applicationTag d }
  | .function => { p with functionTag := setTag p.functionTag d }
  | .location => { p with locationTag := setTag p.locationTag d }

theorem ParamsNvm.magic_withTag (p : ParamsNvm) (t : Tag) (d : List UInt8) :
    (p.withTag t d).magic = p.magic := by
  cases t <;> rfl

theorem ParamsNvm.value_withTag (p : ParamsNvm) (t : Tag) (d : List UInt8) :
    (p.withTag t d).value = Function.update p.value t (cut (d.take 32)) := by
  funext u
  by_cases hu : u = t
  · subst hu
    rw [Function.update_self]
    cases u <;> exact cut_setTag _ d
  · rw [Function.update_of_ne hu]
    cases t <;> cases u <;> first | exact absurd rfl hu | rfl

/-- The call writes the array of its tag in the shadow. -/
def TagSet.inShadow (s : Store) (c : TagSet) : Bool :=
  c.taken s && (c.persist || c.tag ≠ .application)

theorem taken_application (s : Store) (d : List UInt8) (persist : Bool) :
    TagSet.taken s ⟨.application, d, persist⟩ = true ↔
      s.deviceInfo = .default ∧ d.length % 256 < tagSize := by
  cases hinfo : s.deviceInfo <;> simp [TagSet.taken, InfoPtr.isDefault, hinfo]

section Set

variable {s : Store} {c : TagSet}

theorem apply_refused (h : c.taken s = false) : c.apply s = s := by
  obtain ⟨t, d, persist⟩ := c
  cases t with
  | application =>
    have hno : ¬(s.deviceInfo = .default ∧ d.length % 256 < tagSize) := by
      rw [← taken_application s d persist, h]
      exact Bool.false_ne_true
    refine congrArg Prod.fst (paramsSet_application_refused s ?_ persist)
    by_cases hlen : tagSize ≤ d.length % 256
    · exact .inl hlen
    · exact .inr fun hdef => hno ⟨hdef, Nat.not_le.mp hlen⟩
  | function | location => simp [TagSet.taken] at h

/-- An accepted set: the shadow is written, and then perhaps committed. -/
theorem apply_taken (h : c.taken s = true) :
    ∃ s', c.apply s = commit c.persist s' ∧ s'.deviceInfo = s.deviceInfo ∧ s'.nvm = s.nvm ∧
      s'.shadow = if c.inShadow s then s.shadow.withTag c.tag c.data else s.shadow := by
  obtain ⟨t, d, persist⟩ := c
  cases t with
  | application =>
    obtain ⟨hdef, hlen⟩ := (taken_application s d persist).mp h
    refine ⟨_, congrArg Prod.fst (paramsSet_application hdef hlen persist), rfl, rfl, ?_⟩
    cases persist <;> simp [TagSet.inShadow, h, ParamsNvm.withTag]
  | function =>
    refine ⟨_, congrArg Prod.fst (paramsSet_function s d persist), rfl, rfl, ?_⟩
    simp [TagSet.inShadow, h, ParamsNvm.withTag]
  | location =>
    refine ⟨_, congrArg Prod.fst (paramsSet_location s d persist), rfl, rfl, ?_⟩
    simp [TagSet.inShadow, h, ParamsNvm.withTag]

variable (s c)

theorem deviceInfo_apply : (c.apply s).deviceInfo = s.deviceInfo := by
  cases h : c.taken s with
  | false => rw [apply_refused h]
  | true =>
    obtain ⟨s', heq, hinfo, -, -⟩ := apply_taken h
    rw [heq, commit_deviceInfo, hinfo]

/-- What the set does to the shadow. -/
theorem shadow_apply : (c.apply s).shadow =
    if c.inShadow s then s.shadow.withTag c.tag c.data else s.shadow := by
  cases h : c.taken s with
  | false => rw [apply_refused h, TagSet.inShadow, h, Bool.false_and, if_neg Bool.false_ne_true]
  | true =>
    obtain ⟨s', heq, -, -, hshadow⟩ := apply_taken h
    rw [heq, commit_shadow, hshadow]

/-- What the set does to the NVM. -/
theorem nvm_apply : (c.apply s).nvm =
    if c.taken s && c.persist then some (c.apply s).shadow else s.nvm := by
  cases h : c.taken s with
  | false => rw [apply_refused h, Bool.false_and, if_neg Bool.false_ne_true]
  | true =>
    obtain ⟨s', heq, -, hnvm, -⟩ := apply_taken h
    rw [heq, ← hnvm]
    cases c.persist <;> rfl

end Set

/-! ## Sequences of sets -/

/-- A start: `iolink_params_init` has read the NVM. -/
def loadedStore (s : Store) (nvm : Option ParamsNvm) : Store := paramsInit { s with nvm := nvm } nvm

/-- The value that the tag has in the NVM. Without a valid image it is the one that
    `iolink_params_init` took for it. -/
def nvmValue (initial : Tag → List UInt8) (nvm : Option ParamsNvm) : Tag → List UInt8 :=
  match nvm with
  | some p => if p.magic = paramsNvmMagic then p.value else initial
  | none => initial

/-- The values last set with `persist`. -/
def lastPersisted (s₀ : Store) : List TagSet → Tag → List UInt8 :=
  lastSet (fun c => c.taken s₀ && c.persist) s₀.shadow.value

/-- The values last set, with `persist` or without. -/
def lastTaken (s₀ : Store) : List TagSet → Tag → List UInt8 :=
  lastSet (fun c => c.taken s₀) s₀.shadow.value

/-- The call does not commit a volatile value: if it commits, the last set of the
    function and of the location tag, as far as it is not the call's own tag, was one
    with `persist`, or did not change the value. -/
def TagSet.Clean (s₀ : Store) (calls : List TagSet) (c : TagSet) : Prop :=
  c.taken s₀ = true → c.persist = true →
    ∀ u, u ≠ .application → u ≠ c.tag → lastTaken s₀ calls u = lastPersisted s₀ calls u

theorem lastSet_congr {f g : TagSet → Bool} {t : Tag} (h : ∀ c, c.tag = t → f c = g c)
    (initial : Tag → List UInt8) (calls : List TagSet) :
    lastSet f initial calls t = lastSet g initial calls t := by
  induction calls using List.reverseRecOn with
  | nil => rfl
  | append_singleton calls c ih =>
    rw [lastSet_concat, lastSet_concat]
    by_cases hc : c.tag = t
    · subst hc
      rw [h c rfl]
      split_ifs
      · rw [Function.update_self, Function.update_self]
      · exact ih
    · -- calls on other tags do not count
      have hskip (k : TagSet → Bool) : (if k c then
          Function.update (lastSet k initial calls) c.tag c.value else lastSet k initial calls) t =
            lastSet k initial calls t := by
        split_ifs
        · exact Function.update_of_ne (Ne.symm hc) _ _
        · rfl
      rw [hskip f, hskip g, ih]

theorem lastSet_inShadow (s₀ : Store) (calls : List TagSet) (u : Tag) :
    lastSet (fun c => c.inShadow s₀) s₀.shadow.value calls u =
      if u = .application then lastPersisted s₀ calls u else lastTaken s₀ calls u := by
  split_ifs with hu
  · refine lastSet_congr (fun c hc => ?_) _ calls
    simp [TagSet.inShadow, hc, hu]
  · refine lastSet_congr (fun c hc => ?_) _ calls
    simp [TagSet.inShadow, hc, hu]

/-- The store after some sets. -/
structure AfterSets (s₀ : Store) (calls : List TagSet) (s : Store) : Prop where
  deviceInfo : s.deviceInfo = s₀.deviceInfo
  magic : s.shadow.magic = paramsNvmMagic
  value : s.shadow.value = lastSet (fun c => c.inShadow s₀) s₀.shadow.value calls

theorem AfterSets.apply {s₀ s : Store} {calls : List TagSet} (h : AfterSets s₀ calls s)
    (c : TagSet) : AfterSets s₀ (calls ++ [c]) (c.apply s) := by
  have hin : c.inShadow s = c.inShadow s₀ := by
    unfold TagSet.inShadow TagSet.taken
    rw [h.deviceInfo]
  refine ⟨by rw [deviceInfo_apply, h.deviceInfo], ?_, ?_⟩
  · rw [shadow_apply]
    split_ifs
    · rw [ParamsNvm.magic_withTag, h.magic]
    · exact h.magic
  · rw [shadow_apply, lastSet_concat, hin, ← h.value]
    split_ifs
    · rw [ParamsNvm.value_withTag, TagSet.value]
    · rfl

theorem nvmValue_of_invalid {nvm : Option ParamsNvm}
    (h : ∀ p, nvm = some p → p.magic ≠ paramsNvmMagic) (initial : Tag → List UInt8) :
    nvmValue initial nvm = initial := by
  cases nvm with
  | none => rfl
  | some p => exact if_neg (h p rfl)

/-- At the start the shadow is what the NVM holds. -/
theorem afterSets_loadedStore (s : Store) (nvm : Option ParamsNvm) :
    AfterSets (loadedStore s nvm) [] (loadedStore s nvm) ∧
      nvmValue (loadedStore s nvm).shadow.value (loadedStore s nvm).nvm =
        (loadedStore s nvm).shadow.value := by
  by_cases h : ∃ p, nvm = some p ∧ p.magic = paramsNvmMagic
  · obtain ⟨p, rfl, hmagic⟩ := h
    obtain ⟨-, hshadow, hnvm⟩ := deviceInfo_deviceInfoSetApplicationTag
      { s with nvm := some p, shadow := p } p.fromApplicationTag
      ((CString.ofMem p.fromApplicationTag).strlen % 256)
    rw [← paramsInit_valid { s with nvm := some p } hmagic] at hshadow hnvm
    refine ⟨⟨rfl, ?_, rfl⟩, ?_⟩
    · rw [loadedStore, hshadow]
      exact hmagic
    · rw [loadedStore, hshadow, hnvm]
      exact if_pos hmagic
  · have hinvalid : ∀ p, nvm = some p → p.magic ≠ paramsNvmMagic := fun p hp hm => h ⟨p, hp, hm⟩
    obtain ⟨shadow, -, hmagic, heq⟩ := paramsInit_invalid { s with nvm := nvm } hinvalid
    have hnvm : (deviceInfoGet { s with nvm := nvm }).2.nvm = nvm := by
      unfold deviceInfoGet
      cases s.deviceInfo <;> rfl
    refine ⟨⟨rfl, ?_, rfl⟩, ?_⟩
    · rw [loadedStore, heq]
      exact hmagic
    · rw [loadedStore, heq]
      exact (congrArg _ hnvm).trans (nvmValue_of_invalid hinvalid _)

theorem AfterSets.run {s₀ : Store} (h : AfterSets s₀ [] s₀) (calls : List TagSet) :
    AfterSets s₀ calls (calls.foldl TagSet.apply s₀) := by
  induction calls using List.reverseRecOn with
  | nil => exact h
  | append_singleton calls c ih =>
    rw [List.foldl_append]
    exact ih.apply c

/-- One more set, after sets that left the persisted values in the NVM. -/
theorem AfterSets.nvmValue_apply_iff {s₀ s : Store} {calls : List TagSet}
    (h : AfterSets s₀ calls s) (hnvm : nvmValue s₀.shadow.value s.nvm = lastPersisted s₀ calls)
    (c : TagSet) :
    nvmValue s₀.shadow.value (c.apply s).nvm = lastPersisted s₀ (calls ++ [c]) ↔
      c.Clean s₀ calls := by
  have htaken : c.taken s = c.taken s₀ := by
    unfold TagSet.taken
    rw [h.deviceInfo]
  have hlast : lastPersisted s₀ (calls ++ [c]) = if c.taken s₀ && c.persist then
      Function.update (lastPersisted s₀ calls) c.tag c.value else lastPersisted s₀ calls :=
    lastSet_concat _ _ calls c
  rw [nvm_apply, htaken, hlast]
  by_cases hc : (c.taken s₀ && c.persist) = true
  · have happly := h.apply c
    obtain ⟨ht, hp⟩ := Bool.and_eq_true_iff.mp hc
    have hin : c.inShadow s₀ = true := by
      simp [TagSet.inShadow, ht, hp]
    have hval : nvmValue s₀.shadow.value (some (c.apply s).shadow) = Function.update
        (lastSet (fun c => c.inShadow s₀) s₀.shadow.value calls) c.tag c.value := by
      refine (if_pos happly.magic).trans ?_
      rw [happly.value, lastSet_concat, if_pos hin]
    rw [if_pos hc, if_pos hc, hval]
    constructor
    · intro heq _ _ u hu hne
      have hat := congrFun heq u
      rwa [Function.update_of_ne hne, Function.update_of_ne hne, lastSet_inShadow, if_neg hu] at hat
    · intro hclean
      funext u
      by_cases hu : u = c.tag
      · subst hu
        rw [Function.update_self, Function.update_self]
      · rw [Function.update_of_ne hu, Function.update_of_ne hu, lastSet_inShadow]
        split_ifs with happ
        · rfl
        · exact hclean ht hp u happ hu
  · rw [if_neg hc, if_neg hc]
    refine ⟨fun _ ht hp => absurd (Bool.and_eq_true_iff.mpr ⟨ht, hp⟩) hc, fun _ => hnvm⟩

/-- **Volatile sets and the NVM.** After every call of a sequence the NVM holds, for
    each tag, the value last set with `persist`, exactly if no call commits a volatile
    value of another tag. -/
theorem volatile_sets_iff (s : Store) (nvm : Option ParamsNvm) (calls : List TagSet) :
    let s₀ := loadedStore s nvm
    (∀ pre, pre <+: calls →
      nvmValue s₀.shadow.value (pre.foldl TagSet.apply s₀).nvm = lastPersisted s₀ pre) ↔
      ∀ pre c, pre ++ [c] <+: calls → c.Clean s₀ pre := by
  intro s₀
  obtain ⟨hstart, hinit⟩ := afterSets_loadedStore s nvm
  refine forall_prefix_iff hinit (fun pre c hpre => ?_) calls
  rw [List.foldl_append]
  exact (hstart.run pre).nvmValue_apply_iff hpre c

/-- The function tag is set without, then the location tag with `persist`: both are in
    the NVM. -/
theorem volatile_function_tag_committed :
    let s₀ := loadedStore storeInit none
    let calls : List TagSet := [⟨.function, [0x41], false⟩, ⟨.location, [0x42], true⟩]
    (calls.foldl TagSet.apply s₀).nvm.map (fun p => p.value .function) = some [0x41] ∧
      lastPersisted s₀ calls .function = [] ∧
      nvmValue s₀.shadow.value (calls.foldl TagSet.apply s₀).nvm ≠ lastPersisted s₀ calls := by
  intro s₀ calls
  refine ⟨by decide +kernel, by decide +kernel, fun h => ?_⟩
  exact absurd (congrFun h .function) (by decide +kernel)

/-! ## Loading an image -/

/-- `sizeof(iolink_params_nvm_t)`: the magic, three arrays and a byte of padding. -/
def paramsNvmSize : ℕ := 104

/-- The record in the bytes of an image. The magic is little-endian. -/
def ParamsNvm.ofBytes (image : Vector UInt8 paramsNvmSize) : ParamsNvm where
  magic := (image.toList.getD 0 0).toUInt32 ||| (image.toList.getD 1 0).toUInt32 <<< 8 |||
    (image.toList.getD 2 0).toUInt32 <<< 16 ||| (image.toList.getD 3 0).toUInt32 <<< 24
  applicationTag i := image.toList.getD (4 + i) 0
  functionTag i := image.toList.getD (37 + i) 0
  locationTag i := image.toList.getD (70 + i) 0

/-- How many bytes `strlen` reads in `iolink_params_get`: the string and what ends
    it. The copy to the buffer reads no others. -/
def strlenReads (s : Store) (t : Tag) : ℕ :=
  match tagValue s t with
  | some v => v.length + 1
  | none => 0

/-- The tags are read inside 33 bytes each, and at most 32 bytes are returned. -/
def SafeTags (s : Store) : Prop :=
  ∀ t, strlenReads s t ≤ tagSize ∧
    ∀ maxLen v, (paramsGet s t.index 0 maxLen).1 = some v → v.length ≤ 32

/-- A device-info record of the application has an application tag of at most 32
    bytes. -/
def UserTagShort (s : Store) : Prop :=
  match s.deviceInfo with
  | .user info => ∀ str ∈ info.applicationTag, str.strlen ≤ 32
  | _ => True

theorem safeTags_iff_length (s : Store) : SafeTags s ↔ ∀ t, (initialData s t).length ≤ 32 := by
  refine forall_congr' fun t => ?_
  rw [strlenReads, initialData]
  cases hval : tagValue s t with
  | none => simp [paramsGet_tag, hval]
  | some v =>
    refine ⟨fun h => Nat.le_of_lt_succ h.1, fun h => ⟨Nat.succ_le_succ h, fun maxLen w hw => ?_⟩⟩
    rw [paramsGet_tag, hval, Option.map_some, Option.some_inj] at hw
    rw [← hw, List.length_take]
    exact (min_le_right _ _).trans h

theorem length_application_iff {s : Store} (hbuf : AppTagTerminated s) :
    (initialData s .application).length ≤ 32 ↔ UserTagShort s := by
  unfold UserTagShort
  cases hinfo : s.deviceInfo with
  | null | default =>
    exact iff_of_true (length_initialData_application (by rw [hinfo]; rfl) hbuf) trivial
  | user info =>
    unfold initialData tagValue deviceInfoGet
    rw [hinfo]
    cases htag : info.applicationTag <;> simp [htag, CString.strlen]

/-- Which stores are read safely. -/
theorem safeTags_iff {s : Store} (hbuf : AppTagTerminated s) :
    SafeTags s ↔ s.shadow.Terminated ∧ UserTagShort s := by
  rw [safeTags_iff_length, ← length_application_iff hbuf]
  constructor
  · intro h
    exact ⟨⟨(length_initialData_function s).mp (h _), (length_initialData_location s).mp (h _)⟩,
      h _⟩
  · rintro ⟨hterm, happ⟩ t
    cases t with
    | application => exact happ
    | function => exact (length_initialData_function s).mpr hterm.function
    | location => exact (length_initialData_location s).mpr hterm.location

theorem userTagShort_congr {s s' : Store} (h : s'.deviceInfo = s.deviceInfo) :
    UserTagShort s' ↔ UserTagShort s := by
  unfold UserTagShort
  rw [h]

/-- **Loading an NVM image.** In every state, with every image that `iolink_nvm_read`
    delivers, the tags are read safely afterwards exactly if the image has another
    magic or terminates its function and its location tag. The application tag can be
    too long only in a record of the application, which the image has no part in. -/
theorem image_loaded_safely_iff (calls : List StoreCall) (image : Vector UInt8 paramsNvmSize) :
    SafeTags (paramsInit (storeAfter calls) (some (.ofBytes image))) ↔
      ((ParamsNvm.ofBytes image).magic = paramsNvmMagic → (ParamsNvm.ofBytes image).Terminated) ∧
        UserTagShort (storeAfter calls) := by
  rw [safeTags_iff (appTagTerminated_paramsInit (appTagTerminated_storeAfter calls) _)]
  by_cases hmagic : (ParamsNvm.ofBytes image).magic = paramsNvmMagic
  · obtain ⟨hinfo, hshadow, -⟩ := deviceInfo_deviceInfoSetApplicationTag
      { storeAfter calls with shadow := ParamsNvm.ofBytes image } _
      ((CString.ofMem (ParamsNvm.ofBytes image).fromApplicationTag).strlen % 256)
    rw [← paramsInit_valid _ hmagic] at hinfo hshadow
    rw [hshadow, userTagShort_congr hinfo]
    exact and_congr_left fun _ => ⟨fun h _ => h, fun h => h hmagic⟩
  · have hinvalid : ∀ p, some (ParamsNvm.ofBytes image) = some p → p.magic ≠ paramsNvmMagic :=
      fun p hp => Option.some_inj.mp hp ▸ hmagic
    obtain ⟨shadow, hterm, -, heq⟩ := paramsInit_invalid (storeAfter calls) hinvalid
    rw [heq]
    refine and_congr (iff_of_true hterm fun h => absurd h hmagic) ?_
    unfold UserTagShort deviceInfoGet
    cases hinfo : (storeAfter calls).deviceInfo <;> simp [hinfo]

/-- An image with the right magic, and 33 bytes without a NUL in the function tag. -/
def imageWithoutNul : Vector UInt8 paramsNvmSize :=
  ⟨(([0x31, 0x4C, 0x4F, 0x49] ++ List.replicate 33 0 ++ List.replicate 33 0x41 ++
    List.replicate 34 0 : List UInt8)).toArray, by decide⟩

/-- After loading it, 33 bytes are returned for the function tag, and `strlen` reads
    behind the array. -/
theorem imageWithoutNul_unsafe :
    let s := paramsInit (storeAfter []) (some (.ofBytes imageWithoutNul))
    (paramsGet s Tag.function.index 0 64).1 = some (List.replicate 33 0x41) ∧
      strlenReads s .function = 34 ∧ ¬SafeTags s := by
  intro s
  have hreads : strlenReads s .function = 34 := by decide +kernel
  refine ⟨by decide +kernel, hreads, fun h => ?_⟩
  exact absurd (h .function).1 (by rw [hreads]; decide)

end Iolinki
