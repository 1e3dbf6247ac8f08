import Iolinki.Protocol
import Iolinki.Lib.Buffer
import Mathlib.Data.List.TakeWhile

/-!
# Device information and parameters

Models of `src/device_info.c` and `src/params.c`. `Store` holds the static
variables of both files and the NVM image.

A C string is the list of its bytes before the terminator (`CString`); a string
pointer of a device-info record may be NULL and is an `Option CString`. The
fields of `iolink_device_info_t` that no code reads are left out.

`iolink_nvm_write` is code of the platform. Its return value is ignored by
`params.c`, so the model keeps the last image that was handed to it.

* `deviceInfoSetApplicationTag_eq_zero_iff`: when the application tag can be
  written.
-/

namespace Iolinki

open Iolinki.Lib

/-! ## C strings -/

/-- The bytes of a NUL-terminated string, without the terminator. -/
structure CString where
  bytes : List UInt8
  noNul : ∀ b ∈ bytes, b ≠ 0

/-- `strlen(s)` -/
def CString.strlen (s : CString) : ℕ := s.bytes.length

/-- The string that starts at the first of the bytes `mem`. If there is no NUL
    among them, the string is all of `mem`. -/
def CString.ofMem (mem : List UInt8) : CString :=
  ⟨mem.takeWhile (· != 0), fun b hb => by simpa using List.mem_takeWhile_imp hb⟩

/-- A string literal of the source. -/
def CString.lit (s : String) : CString := .ofMem (s.toList.map fun c => UInt8.ofNat c.toNat)

/-! ## Static variables -/

/-- `iolink_device_info_t`: the fields that the ISDU engine reads. -/
structure DeviceInfo where
  vendorName : Option CString
  vendorText : Option CString
  productName : Option CString
  productId : Option CString
  productText : Option CString
  serialNumber : Option CString
  hardwareRevision : Option CString
  firmwareRevision : Option CString
  applicationTag : Option CString
  vendorId : UInt16
  deviceId : UInt32
  profileCharacteristic : UInt16
  minCycleTime : UInt8
  revisionId : UInt16
  accessLocks : UInt16

/-- `g_device_info`: NULL, `&g_default_info`, or a record of the application. -/
inductive InfoPtr
  | null
  | default
  | user (info : DeviceInfo)

/-- `iolink_params_nvm_t`; each tag is a `char[33]`. -/
structure ParamsNvm where
  magic : UInt32
  applicationTag : ℕ → UInt8
  functionTag : ℕ → UInt8
  locationTag : ℕ → UInt8

/-- The static variables of `device_info.c` and `params.c`, and the NVM. -/
structure Store where
  /-- `g_device_info` -/
  deviceInfo : InfoPtr
  /-- `g_default_info.application_tag == g_app_tag_buffer`; before the first
      update it points to the literal. -/
  appTagInBuffer : Bool
  /-- `g_default_info.access_locks` -/
  accessLocks : UInt16
  /-- `g_app_tag_buffer[33]` -/
  appTagBuffer : ℕ → UInt8
  /-- `g_nvm_shadow` -/
  shadow : ParamsNvm
  /-- The last image given to `iolink_nvm_write`. -/
  nvm : Option ParamsNvm

/-- The size of a tag buffer, `char[33]`. -/
def tagSize : ℕ := 33

/-- The bytes from `application_tag` to the end of `iolink_params_nvm_t`. -/
def ParamsNvm.fromApplicationTag (p : ParamsNvm) : List UInt8 :=
  slice p.applicationTag 0 tagSize ++ slice p.functionTag 0 tagSize ++ slice p.locationTag 0 tagSize

/-- The bytes from `function_tag` to the end of `iolink_params_nvm_t`. -/
def ParamsNvm.fromFunctionTag (p : ParamsNvm) : List UInt8 :=
  slice p.functionTag 0 tagSize ++ slice p.locationTag 0 tagSize

/-- The bytes from `location_tag` to the end of `iolink_params_nvm_t`. -/
def ParamsNvm.fromLocationTag (p : ParamsNvm) : List UInt8 := slice p.locationTag 0 tagSize

/-! ## `src/device_info.c` -/

/-- `g_default_info` (lines 15–37) with its two variable fields. -/
def defaultInfo (s : Store) : DeviceInfo where
  vendorName := some (.lit "iolinki")
  vendorText := some (.lit "Open-Source IO-Link Stack")
  productName := some (.lit "Generic IO-Link Device")
  productId := some (.lit "IOLINK-DEV-001")
  productText := some (.lit "Reference Implementation")
  serialNumber := some (.lit "0000000001")
  hardwareRevision := some (.lit "1.0")
  firmwareRevision := some (.lit "0.1.0")
  applicationTag :=
    some (if s.appTagInBuffer then .ofMem (slice s.appTagBuffer 0 tagSize) else .lit "DefaultTag")
  vendorId := 0xFFFF
  deviceId := 0x00000001
  profileCharacteristic := 0x0000
  minCycleTime := 10
  revisionId := 0x0001
  accessLocks := s.accessLocks

/-- `iolink_device_info_init` (lines 41–56). -/
def deviceInfoInit (s : Store) (info : Option DeviceInfo) : Store :=
  match info with
  | some info => { s with deviceInfo := .user info }
  | none => { s with deviceInfo := .default, appTagInBuffer := true }

/-- `iolink_device_info_get` (lines 77–83). It selects the default record when
    none has been set, and never returns NULL. -/
def deviceInfoGet (s : Store) : DeviceInfo × Store :=
  match s.deviceInfo with
  | .null => (defaultInfo s, { s with deviceInfo := .default })
  | .default => (defaultInfo s, s)
  | .user info => (info, s)

/-- `iolink_device_info_set_application_tag` (lines 58–75): `len` bytes of
    `tag`; `len` is a `uint8_t`. -/
def deviceInfoSetApplicationTag (s : Store) (tag : List UInt8) (len : ℕ) : Store × Int :=
  if len ≥ tagSize then (s, -1)
  else
    match s.deviceInfo with
    | .default =>
      ({ s with
          appTagBuffer := Function.update (blit s.appTagBuffer 0 (tag.take len)) len 0
          appTagInBuffer := true }, 0)
    | _ => (s, -1)

/-- `iolink_device_info_get_access_locks` (lines 85–92). -/
def deviceInfoGetAccessLocks (s : Store) : UInt16 × Store :=
  let r := deviceInfoGet s
  (r.1.accessLocks, r.2)

/-- `iolink_device_info_set_access_locks` (lines 94–100). -/
def deviceInfoSetAccessLocks (s : Store) (locks : UInt16) : Store :=
  match s.deviceInfo with
  | .default => { s with accessLocks := locks }
  | _ => s

/-! ## `src/params.c` -/

/-- `PARAMS_NVM_MAGIC` -/
def paramsNvmMagic : UInt32 := 0x494F4C31

/-- `memcpy(tag, data, copy_len); tag[copy_len] = '\0';` with
    `copy_len = (len > 32U) ? 32U : len` (lines 101–105 and below). -/
def setTag (tag : ℕ → UInt8) (data : List UInt8) : ℕ → UInt8 :=
  let copyLen := min data.length 32
  Function.update (blit tag 0 (data.take copyLen)) copyLen 0

/-- `iolink_nvm_write(0U, &g_nvm_shadow, sizeof(g_nvm_shadow))` -/
def nvmWrite (s : Store) : Store := { s with nvm := some s.shadow }

/-- `iolink_params_init` (lines 28–56); `image` is what `iolink_nvm_read`
    delivered with success, `none` if it failed. -/
def paramsInit (s : Store) (image : Option ParamsNvm) : Store :=
  let s := match image with
    | some p => { s with shadow := p }
    | none => s
  if image.isSome ∧ s.shadow.magic = paramsNvmMagic then
    let tag := CString.ofMem s.shadow.fromApplicationTag
    (deviceInfoSetApplicationTag s s.shadow.fromApplicationTag (tag.strlen % 256)).1
  else
    let r := deviceInfoGet s
    let s := r.2
    let applicationTag := match r.1.applicationTag with
      | some str => setTag s.shadow.applicationTag str.bytes
      | none => Function.update s.shadow.applicationTag 0 0
    { s with shadow :=
      { magic := paramsNvmMagic
        applicationTag := applicationTag
        functionTag := Function.update s.shadow.functionTag 0 0
        locationTag := Function.update s.shadow.locationTag 0 0 } }

/-- `iolink_params_get` (lines 58–91): the bytes copied to the buffer, `none`
    when it returns `-1`. -/
def paramsGet (s : Store) (index : UInt16) (subindex : UInt8) (maxLen : ℕ) :
    Option (List UInt8) × Store :=
  if index = 0x0018 ∧ subindex = 0 then
    let r := deviceInfoGet s
    (r.1.applicationTag.map fun str => str.bytes.take maxLen, r.2)
  else if index = 0x0019 ∧ subindex = 0 then
    (some ((CString.ofMem s.shadow.fromFunctionTag).bytes.take maxLen), s)
  else if index = 0x001A ∧ subindex = 0 then
    (some ((CString.ofMem s.shadow.fromLocationTag).bytes.take maxLen), s)
  else (none, s)

/-- `iolink_params_set` (lines 93–135) with non-NULL `data` of `len` bytes. -/
def paramsSet (s : Store) (index : UInt16) (subindex : UInt8) (data : List UInt8)
    (persist : Bool) : Store × Int :=
  if index = 0x0018 ∧ subindex = 0 then
    let r := deviceInfoSetApplicationTag s data (data.length % 256)
    if r.2 = 0 then
      let s := r.1
      if persist then
        (nvmWrite { s with shadow :=
          { s.shadow with applicationTag := setTag s.shadow.applicationTag data } }, 0)
      else (s, 0)
    else (r.1, -1)
  else if index = 0x0019 ∧ subindex = 0 then
    let s := { s with shadow := { s.shadow with functionTag := setTag s.shadow.functionTag data } }
    (if persist then nvmWrite s else s, 0)
  else if index = 0x001A ∧ subindex = 0 then
    let s := { s with shadow := { s.shadow with locationTag := setTag s.shadow.locationTag data } }
    (if persist then nvmWrite s else s, 0)
  else (s, -1)

/-- `iolink_params_factory_reset` (lines 137–150). -/
def paramsFactoryReset (s : Store) : Store :=
  let s := { s with shadow :=
    { magic := paramsNvmMagic
      applicationTag := Function.update s.shadow.applicationTag 0 0
      functionTag := Function.update s.shadow.functionTag 0 0
      locationTag := Function.update s.shadow.locationTag 0 0 } }
  nvmWrite (deviceInfoSetApplicationTag s [] 0).1

/-- The static variables before any call: `g_device_info` is NULL,
    `g_app_tag_buffer` holds the default tag and `g_nvm_shadow` is zero. -/
def storeInit : Store where
  deviceInfo := .null
  appTagInBuffer := false
  accessLocks := 0
  appTagBuffer := blit (fun _ => 0) 0 (CString.lit "DefaultTag").bytes
  shadow := ⟨0, fun _ => 0, fun _ => 0, fun _ => 0⟩
  nvm := none

/-! ## Facts used by the dispatcher -/

/-- Writing the application tag succeeds exactly for the default record and at
    most 32 bytes. -/
theorem deviceInfoSetApplicationTag_eq_zero_iff (s : Store) (tag : List UInt8) (len : ℕ) :
    (deviceInfoSetApplicationTag s tag len).2 = 0 ↔ len < tagSize ∧ s.deviceInfo = .default := by
  unfold deviceInfoSetApplicationTag
  by_cases hlen : len ≥ tagSize
  · simp [hlen]
  · cases h : s.deviceInfo <;> simp [hlen]; omega

/-- Writing the application tag leaves the rest alone. -/
theorem deviceInfo_deviceInfoSetApplicationTag (s : Store) (tag : List UInt8) (len : ℕ) :
    (deviceInfoSetApplicationTag s tag len).1.deviceInfo = s.deviceInfo ∧
      (deviceInfoSetApplicationTag s tag len).1.shadow = s.shadow ∧
      (deviceInfoSetApplicationTag s tag len).1.nvm = s.nvm := by
  unfold deviceInfoSetApplicationTag
  split_ifs
  · exact ⟨rfl, rfl, rfl⟩
  · cases hinfo : s.deviceInfo with
    | null => exact ⟨hinfo, rfl, rfl⟩
    | default => exact ⟨rfl, rfl, rfl⟩
    | user info => exact ⟨hinfo, rfl, rfl⟩

end Iolinki
