import Iolinki.Dll.Type0
import Iolinki.Isdu.DsCommands
import Iolinki.Isdu.Tags

/-!
# Tags and a restart

The tags live in three places: `g_app_tag_buffer` of the device information, the
shadow `g_nvm_shadow` and the NVM. A restart keeps only the NVM, and
`iolink_init` fills the shadow from it. It also wants to set the application tag,
but `g_device_info` is still NULL at that moment, and
`iolink_device_info_set_application_tag` refuses to write.

* `storeClosed_isduProcess`: what an ISDU request can do to the parameters.
* `inSync_isduProcess`: the shadow is always what a restart would load.
* `tags_survive_iff`: after a restart the tags are read as before, exactly if the
  application tag was read as `DefaultTag` before.
-/

namespace Iolinki

open Iolinki.Lib

/-! ## What a request does to the parameters -/

/-- A property of the parameters that the functions called by the ISDU engine
    preserve. -/
structure StoreClosed (P : Store → Prop) : Prop where
  get : ∀ s, P s → P (deviceInfoGet s).2
  locks : ∀ s locks, P s → P (deviceInfoSetAccessLocks s locks)
  set : ∀ s index data, P s → P (paramsSet s index 0 data true).1
  reset : ∀ s, P s → P (paramsFactoryReset s)

section Closed

variable {P : Store → Prop} (hP : StoreClosed P) (cfg : BuildConfig) {h : Host}

theorem store_ite {p : Prop} [Decidable p] {a b : Host × IsduCtx} (ha : P a.1.store)
    (hb : P b.1.store) : P (if p then a else b).1.store := by
  split_ifs
  · exact ha
  · exact hb

include hP

theorem storeClosed_handleSystemCommand (hs : P h.store) (c : IsduCtx) (cmd : UInt8) :
    P (handleSystemCommand h c cmd).1.store := by
  unfold handleSystemCommand
  refine store_ite hs (store_ite hs (store_ite (hP.reset _ hs) (store_ite hs ?_)))
  refine store_ite (store_ite (hP.get _ hs) hs) ?_
  refine store_ite (store_ite hs hs) (store_ite (store_ite hs hs) (store_ite ?_ hs))
  cases c.dsCtx <;> exact hs

theorem storeClosed_handleTag (hs : P h.store) (c : IsduCtx) (index : UInt16)
    (finish : IsduCtx → IsduCtx) : P (handleTag cfg h c index finish).1.store := by
  unfold handleTag
  refine store_ite (hP.set _ _ _ hs) ?_
  show P (paramsGet h.store index 0 cfg.isduBufferSize).2
  unfold paramsGet
  split_ifs
  · exact hP.get _ hs
  · exact hs
  · exact hs
  · exact hs

theorem storeClosed_handleIndex (hs : P h.store) (info : DeviceInfo) (c : IsduCtx) :
    P (handleIndex cfg h info c).1.store := by
  unfold handleIndex
  refine store_ite hs (store_ite hs (store_ite hs ?_))
  cases stringOfIndex info c.header.index with
  | some str => exact hs
  | none =>
    have htag := storeClosed_handleTag hP cfg hs c
    refine store_ite (htag _ _) (store_ite (htag _ _) (store_ite (htag _ _) ?_))
    refine store_ite (store_ite hs hs) (store_ite hs (store_ite hs ?_))
    exact store_ite hs (store_ite hs hs)

theorem storeClosed_handleStandardCommands (hs : P h.store) (c : IsduCtx) :
    P (handleStandardCommands cfg h c).1.store := by
  unfold handleStandardCommands
  have hevent : P (handleEventRead cfg h c).1.store := by
    obtain ⟨_, he⟩ := host_handleEventRead cfg h c
    rw [he]
    exact hs
  have hlocks : P (handleAccessLocks h c).1.store := by
    unfold handleAccessLocks
    refine store_ite (hP.get _ hs) ?_
    show P (if c.bufferIdx ≥ 2 then _ else h : Host).store
    split_ifs
    · exact hP.locks _ _ hs
    · exact hs
  refine store_ite (store_ite (store_ite ?_ hs) hevent)
    (store_ite hlocks (store_ite hs (store_ite hs ?_)))
  · exact storeClosed_handleSystemCommand hP hs c _
  · exact storeClosed_handleIndex hP cfg (h := { h with store := _ }) (hP.get _ hs) _ c

/-- **What a request can do to the parameters.** -/
theorem storeClosed_isduProcess (hs : P h.store) (c : IsduCtx) :
    P (isduProcess cfg h c).1.store := by
  by_cases hexec : c.state = .serviceExecute
  · rw [isduProcess_fst cfg h hexec]
    exact storeClosed_handleStandardCommands hP cfg hs c
  · rw [isduProcess_of_ne cfg h hexec]
    exact hs

end Closed

/-! ## The shadow and the NVM -/

/-- The parameters after `iolink_init` alone, with `nvm` in the NVM. -/
def bootStore (nvm : Option ParamsNvm) : Store := paramsInit { storeInit with nvm := nvm } nvm

/-- The parameters are those of the default record, and the shadow is what a
    restart would load. -/
structure InSync (s : Store) : Prop where
  notUser : s.deviceInfo.isUser = false
  shadow : s.shadow = (bootStore s.nvm).shadow

theorem deviceInfoSetApplicationTag_null {s : Store} (h : s.deviceInfo = .null) (tag : List UInt8)
    (len : ℕ) : deviceInfoSetApplicationTag s tag len = (s, -1) := by
  unfold deviceInfoSetApplicationTag
  rw [h]
  split_ifs <;> rfl

/-- A valid image is loaded; `g_device_info` stays NULL. -/
theorem bootStore_valid {p : ParamsNvm} (h : p.magic = paramsNvmMagic) :
    bootStore (some p) = { storeInit with nvm := some p, shadow := p } := by
  unfold bootStore paramsInit
  dsimp only
  rw [if_pos ⟨rfl, h⟩, deviceInfoSetApplicationTag_null rfl]

/-- Without a valid image the shadow gets the default parameters. -/
theorem bootStore_invalid (nvm : Option ParamsNvm)
    (h : ∀ p, nvm = some p → p.magic ≠ paramsNvmMagic) :
    ∃ shadow, shadow.magic = paramsNvmMagic ∧
      bootStore nvm = { storeInit with nvm := nvm, deviceInfo := .default, shadow := shadow } := by
  cases nvm with
  | none => exact ⟨_, rfl, rfl⟩
  | some p =>
    unfold bootStore paramsInit
    dsimp only
    rw [if_neg fun hp => h p rfl hp.2]
    exact ⟨_, rfl, rfl⟩

/-- What `iolink_init` makes of the NVM. -/
theorem bootStore_cases (nvm : Option ParamsNvm) :
    ∃ info shadow, info.isUser = false ∧ shadow.magic = paramsNvmMagic ∧
      bootStore nvm = { storeInit with nvm := nvm, deviceInfo := info, shadow := shadow } := by
  by_cases h : ∃ p, nvm = some p ∧ p.magic = paramsNvmMagic
  · obtain ⟨p, rfl, hp⟩ := h
    exact ⟨.null, p, rfl, hp, bootStore_valid hp⟩
  · obtain ⟨shadow, hmagic, heq⟩ := bootStore_invalid nvm fun p hp hm => h ⟨p, hp, hm⟩
    exact ⟨.default, shadow, rfl, hmagic, heq⟩

theorem InSync.magic {s : Store} (h : InSync s) : s.shadow.magic = paramsNvmMagic := by
  obtain ⟨info, shadow, -, hmagic, heq⟩ := bootStore_cases s.nvm
  rw [h.shadow, heq]
  exact hmagic

theorem inSync_bootStore (nvm : Option ParamsNvm) : InSync (bootStore nvm) := by
  obtain ⟨info, shadow, huser, -, heq⟩ := bootStore_cases nvm
  constructor
  · rw [heq]
    exact huser
  · have hnvm : (bootStore nvm).nvm = nvm := by rw [heq]
    rw [hnvm]

/-- A shadow that is written to the NVM is loaded at a restart. -/
theorem inSync_nvmWrite {s : Store} (huser : s.deviceInfo.isUser = false)
    (hmagic : s.shadow.magic = paramsNvmMagic) : InSync (nvmWrite s) where
  notUser := huser
  shadow := by
    show s.shadow = (bootStore (some s.shadow)).shadow
    rw [bootStore_valid hmagic]

theorem InSync.congr {s s' : Store} (h : InSync s) (hinfo : s'.deviceInfo.isUser = false)
    (hshadow : s'.shadow = s.shadow) (hnvm : s'.nvm = s.nvm) : InSync s' :=
  ⟨hinfo, by rw [hshadow, hnvm]; exact h.shadow⟩

theorem storeClosed_inSync : StoreClosed InSync where
  get s h := by
    unfold deviceInfoGet
    cases s.deviceInfo with
    | null => exact h.congr rfl rfl rfl
    | default => exact h
    | user info => exact h
  locks s locks h := by
    unfold deviceInfoSetAccessLocks
    cases s.deviceInfo with
    | null => exact h
    | default => exact h.congr rfl rfl rfl
    | user info => exact h
  set s index data h := by
    obtain ⟨hinfo, hshadow, hnvm⟩ :=
      deviceInfo_deviceInfoSetApplicationTag s data (data.length % 256)
    simp only [paramsSet, ↓reduceIte]
    split_ifs
    · refine inSync_nvmWrite ?_ ?_
      · show (deviceInfoSetApplicationTag s data (data.length % 256)).1.deviceInfo.isUser = false
        rw [hinfo]
        exact h.notUser
      · show (deviceInfoSetApplicationTag s data (data.length % 256)).1.shadow.magic = _
        rw [hshadow]
        exact h.magic
    · exact h.congr (by rw [hinfo]; exact h.notUser) hshadow hnvm
    · exact inSync_nvmWrite h.notUser h.magic
    · exact inSync_nvmWrite h.notUser h.magic
    · exact h
  reset s h := by
    unfold paramsFactoryReset
    dsimp only
    refine inSync_nvmWrite ?_ ?_
    · rw [(deviceInfo_deviceInfoSetApplicationTag _ _ _).1]
      exact h.notUser
    · rw [(deviceInfo_deviceInfoSetApplicationTag _ _ _).2.1]

/-- **Requests keep the shadow in step with the NVM.** -/
theorem inSync_isduProcess (cfg : BuildConfig) {h : Host} (hs : InSync h.store) (c : IsduCtx) :
    InSync (isduProcess cfg h c).1.store :=
  storeClosed_isduProcess storeClosed_inSync cfg hs c

/-- After a restart the application tag is the one of `g_default_info`. -/
theorem tagValue_bootStore_application (nvm : Option ParamsNvm) :
    tagValue (bootStore nvm) .application = some (CString.lit "DefaultTag").bytes := by
  obtain ⟨info, shadow, huser, -, heq⟩ := bootStore_cases nvm
  rw [heq]
  cases info with
  | null => rfl
  | default => rfl
  | user info => cases huser

/-- The other tags are those of the shadow. -/
theorem InSync.tagValue {s : Store} (h : InSync s) {t : Tag} (ht : t ≠ .application) :
    tagValue (bootStore s.nvm) t = tagValue s t := by
  cases t with
  | application => exact absurd rfl ht
  | function =>
    show some (cut (bootStore s.nvm).shadow.fromFunctionTag) = some (cut s.shadow.fromFunctionTag)
    rw [h.shadow]
  | location =>
    show some (cut (bootStore s.nvm).shadow.fromLocationTag) = some (cut s.shadow.fromLocationTag)
    rw [h.shadow]

/-! ## A run and a restart -/

/-- The call goes to `device_info.c` or `params.c`. -/
def Call.onStore : Call → Bool
  | .deviceInfoInit _ | .deviceInfoGet | .deviceInfoSetApplicationTag _ _
  | .deviceInfoSetAccessLocks _ | .paramsInit _ | .paramsGet _ _ _ | .paramsSet _ _ _ _
  | .paramsFactoryReset => true
  | _ => false

/-- A device that is started by `iolink_init` alone, with `nvm` in the NVM. -/
def powerOn (cfg : BuildConfig) (config : Config) (hasSend : Bool) (nowUs : UInt64)
    (nvm : Option ParamsNvm) : Device :=
  iolinkInit cfg config hasSend nowUs nvm { storeInit with nvm := nvm }

/-- Reads of the three tags are answered in the same way by both devices. -/
def SameTags (cfg : BuildConfig) (d d' : Device) : Prop :=
  ∀ (t : Tag) (sub sub' : UInt8) (r r' : IsduCtx), r.Decoded (.read t.index sub) →
    r'.Decoded (.read t.index sub') →
    answerData (isduProcess cfg d'.host r').2 = answerData (isduProcess cfg d.host r).2

theorem sameTags_iff (cfg : BuildConfig) (d d' : Device) :
    SameTags cfg d d' ↔ ∀ t, (tagValue d'.store t).map (sentData cfg) =
      (tagValue d.store t).map (sentData cfg) := by
  constructor
  · intro h t
    have hr := decoded_collected (.read t.index 0)
    have hread := h t 0 0 _ _ hr hr
    rw [answerData_read cfg _ hr, answerData_read cfg _ hr] at hread
    exact hread
  · intro h t sub sub' r r' hr hr'
    rw [answerData_read cfg _ hr, answerData_read cfg _ hr']
    exact h t

/-- Calls that do not go to the parameters directly keep the shadow in step. -/
theorem inSync_deviceStep (cfg : BuildConfig) {d : Device} (hd : InSync d.store) {call : Call}
    (hc : call.onStore = false) : InSync (deviceStep cfg d call).1.store := by
  cases call with
  | process env => exact inSync_isduProcess cfg hd d.dll.isdu
  | deviceInfoInit | deviceInfoGet | deviceInfoSetApplicationTag | deviceInfoSetAccessLocks
  | paramsInit | paramsGet | paramsSet | paramsFactoryReset => cases hc
  | _ => exact hd

/-- **Tags and a restart.** A device is started by `iolink_init` with anything in
    the NVM, runs, and is restarted. Afterwards the three tags are read as before,
    exactly if the application tag was read as `DefaultTag` before. -/
theorem tags_survive_iff (cfg : BuildConfig) (config config' : Config) (hasSend hasSend' : Bool)
    (nowUs nowUs' : UInt64) (nvm : Option ParamsNvm) (calls : List Call)
    (hcalls : ∀ call ∈ calls, call.onStore = false) :
    let d := (deviceMachine cfg).final (powerOn cfg config hasSend nowUs nvm) calls
    SameTags cfg d (powerOn cfg config' hasSend' nowUs' d.store.nvm) ↔
      (tagValue d.store .application).map (sentData cfg) =
        some (sentData cfg (CString.lit "DefaultTag").bytes) := by
  intro d
  have hsync : InSync d.store :=
    (deviceMachine cfg).final_induct (P := fun d => InSync d.store)
      (fun d call hd hc => inSync_deviceStep cfg hd hc) (inSync_bootStore nvm) hcalls
  rw [sameTags_iff]
  show (∀ t, (tagValue (bootStore d.store.nvm) t).map (sentData cfg) = _) ↔ _
  constructor
  · intro h
    rw [← h .application, tagValue_bootStore_application]
    rfl
  · intro h t
    by_cases ht : t = .application
    · rw [ht, h, tagValue_bootStore_application]
      rfl
    · rw [hsync.tagValue ht]

/-- The calls that execute a write of `tag` to the application tag. -/
def writeApplicationTag (tag : Payload) : List Call :=
  preoperateCalls ++ ((type0Calls (segments true 0
    ((Request.write idxApplicationTag 0 tag).dataBytes.map fun b => (true, b)))).map
      fun x => .process x.2) ++ [.process (callWith false [])]

/-- The tag `DefaultTag` survives. -/
theorem tags_survive_iff_default :
    let d := (deviceMachine {}).final (powerOn {} (sampleConfig .type11) true 0 none)
      (writeApplicationTag ⟨(CString.lit "DefaultTag").bytes, by decide⟩)
    SameTags {} d (powerOn {} (sampleConfig .type11) true 0 d.store.nvm) :=
  (tags_survive_iff {} (sampleConfig .type11) (sampleConfig .type11) true true 0 0 none
    (writeApplicationTag ⟨(CString.lit "DefaultTag").bytes, by decide⟩) (by decide +kernel)).mpr
    (by decide +kernel)

/-- The application tag `AB` is written to the NVM, and is `DefaultTag` after the
    restart. -/
theorem application_tag_lost :
    let d := (deviceMachine {}).final (powerOn {} (sampleConfig .type11) true 0 none)
      (writeApplicationTag ⟨[0x41, 0x42], by decide⟩)
    let d' := powerOn {} (sampleConfig .type11) true 0 d.store.nvm
    let read := collected (.read idxApplicationTag 0)
    answerData (isduProcess {} d.host read).2 = some [0x41, 0x42] ∧
      d'.store.shadow.applicationTag 0 = 0x41 ∧
      answerData (isduProcess {} d'.host read).2 = some (CString.lit "DefaultTag").bytes ∧
      ¬SameTags {} d d' := by
  intro d d' read
  have hbefore : answerData (isduProcess {} d.host read).2 = some [0x41, 0x42] := by decide +kernel
  have hafter : answerData (isduProcess {} d'.host read).2 =
      some (CString.lit "DefaultTag").bytes := by decide +kernel
  refine ⟨hbefore, by decide +kernel, hafter, fun hsame => ?_⟩
  have hread := hsame .application 0 0 read read (decoded_collected _) (decoded_collected _)
  rw [hbefore, hafter] at hread
  exact absurd hread (by decide)

end Iolinki
