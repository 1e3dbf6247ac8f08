import Iolinki.Master.Replies
import Iolinki.Platform.VirtualPhy

/-!
# The host demo

Model of `examples/host_demo/src/main.c`, which runs the stack over the virtual PHY. The
main loop calls `iolink_process` twice, then reads the process data and writes
them back, each byte incremented.

* `loop_calls`: an iteration as calls of the application.
* `host_demo_echoes`: what the replies of any run carry.
-/

namespace Iolinki

open Iolinki.Lib

/-! ## `examples/host_demo/src/main.c` -/

/-- `config.m_seq_type` from the second argument (lines 31–49). -/
def hostType : Option ℤ → MSeqType
  | some 1 => .type12
  | some 2 => .type22
  | some 3 => .type1V
  | some 4 => .type2V
  | _ => .type0

/-- `config` from the second and the third argument (lines 28–62). -/
def hostConfig (type len : Option ℤ) : Config :=
  let t := hostType type
  let n := match len with
    | some len => (len % 256).toNat
    | none => if t = .type0 then 0 else 2
  ⟨t, 0, n, n, 0⟩

/-- The device and the bytes in the pseudo terminal. -/
structure HostDemo where
  device : Device
  queue : List UInt8

/-- What happens from outside in an iteration: the clocks in the two calls and the
    bytes that arrive for each. -/
structure LoopInput where
  first : CallClocks
  firstBytes : List UInt8
  second : CallClocks
  secondBytes : List UInt8

/-- `pd_buffer[i]++` for each byte (lines 95–97). -/
def echo (pd : List UInt8) : List UInt8 := pd.map (· + 1)

/-- The end of an iteration (lines 90–99): the process data are read and written
    back. -/
def hostUpdate (c : DllCtx) : DllCtx :=
  let pd := pdOutputRead c 32
  if pd.length > 0 then (pdInputUpdate c (echo pd) true).1 else c

/-- One iteration of the main loop (lines 83–99): the frames that are sent. -/
def hostLoop (cfg : BuildConfig) (s : HostDemo) (i : LoopInput) :
    HostDemo × List (List UInt8) :=
  let p := virtualProcess cfg i.first s.device (s.queue ++ i.firstBytes)
  let q := virtualProcess cfg i.second p.1 (p.2.2 ++ i.secondBytes)
  (⟨{ q.1 with dll := hostUpdate q.1.dll }, q.2.2⟩, p.2.1 ++ q.2.1)

/-- The main loop. -/
def hostMachine (cfg : BuildConfig) : Machine HostDemo LoopInput (List (List UInt8)) :=
  ⟨hostLoop cfg⟩

/-- The main loop is entered after `iolink_init`, with nothing read from the pseudo
    terminal. -/
def hostStart (cfg : BuildConfig) (config : Config) (nowUs : UInt64) (image : Option ParamsNvm)
    (store : Store) : HostDemo :=
  ⟨iolinkInit cfg config true nowUs image store, []⟩

/-! ## An iteration as calls of the application -/

/-- The calls that an iteration makes. -/
def loopCalls (cfg : BuildConfig) (s : HostDemo) (i : LoopInput) : List Call :=
  let p := virtualProcess cfg i.first s.device (s.queue ++ i.firstBytes)
  let q := virtualProcess cfg i.second p.1 (p.2.2 ++ i.secondBytes)
  let pd := pdOutputRead q.1.dll 32
  [.process (virtualEnv i.first (s.queue ++ i.firstBytes)),
    .process (virtualEnv i.second (p.2.2 ++ i.secondBytes)), .pdOutputRead 32] ++
    if pd.length > 0 then [.pdInputUpdate (echo pd) true] else []

/-- The calls of a run. -/
def hostCalls (cfg : BuildConfig) (s : HostDemo) (inputs : List LoopInput) : List Call :=
  (hostMachine cfg).collect (loopCalls cfg) s inputs

section Calls

variable (cfg : BuildConfig)

/-- The update at the end of an iteration. -/
theorem update_calls (d : Device) :
    (deviceMachine cfg).final d (if (pdOutputRead d.dll 32).length > 0 then
      [.pdInputUpdate (echo (pdOutputRead d.dll 32)) true] else []) =
      { d with dll := hostUpdate d.dll } := by
  unfold hostUpdate
  dsimp only
  split_ifs
  · rfl
  · rfl

theorem loop_calls (s : HostDemo) (i : LoopInput) :
    (deviceMachine cfg).final s.device (loopCalls cfg s i) = (hostLoop cfg s i).1.device := by
  unfold loopCalls hostLoop
  dsimp only
  generalize hp : virtualProcess cfg i.first s.device (s.queue ++ i.firstBytes) = p
  generalize hq : virtualProcess cfg i.second p.1 (p.2.2 ++ i.secondBytes) = q
  have hp1 : (iolinkProcess cfg s.device (virtualEnv i.first (s.queue ++ i.firstBytes))).1 =
      p.1 := by
    rw [← hp]
    rfl
  have hq1 : (iolinkProcess cfg p.1 (virtualEnv i.second (p.2.2 ++ i.secondBytes))).1 = q.1 := by
    rw [← hq]
    rfl
  rw [Machine.final_append, ← update_calls cfg q.1]
  refine congrArg (fun d => (deviceMachine cfg).final d _) ?_
  show (iolinkProcess cfg (iolinkProcess cfg s.device _).1 _).1 = q.1
  rw [hp1, hq1]

/-- A run of the main loop is a run of the device. -/
theorem host_calls (s : HostDemo) (inputs : List LoopInput) :
    (deviceMachine cfg).final s.device (hostCalls cfg s inputs) =
      ((hostMachine cfg).final s inputs).device := by
  induction inputs generalizing s with
  | nil => rfl
  | cons i inputs ih =>
    have hcalls : hostCalls cfg s (i :: inputs) =
        loopCalls cfg s i ++ hostCalls cfg ((hostMachine cfg).step s i).1 inputs := rfl
    rw [hcalls, Machine.final_append, loop_calls, Machine.final_cons]
    exact ih ((hostMachine cfg).step s i).1

end Calls

/-! ## What the replies carry -/

section Echo

variable (cfg : BuildConfig)

/-- A call of `iolink_process` leaves the input process data alone. -/
theorem pdIn_process (d : Device) (env : CallEnv) :
    (iolinkProcess cfg d env).1.dll.pdIn = d.dll.pdIn ∧
      (iolinkProcess cfg d env).1.dll.pdInToggle = d.dll.pdInToggle := by
  obtain ⟨_, _, hp⟩ := polled_eq cfg d env
  have hkept := kept_dllReceive cfg (dllPollDiagnostics cfg (deviceIsduProcess cfg d).dll env) env
  refine ⟨hkept.pdIn.trans ?_, hkept.pdInToggle.trans ?_⟩
  all_goals rw [hp]

/-- What may be sent after a call of `iolink_process` and before it. -/
theorem replyOf_process (d : Device) (env : CallEnv) (reply : List UInt8) :
    ReplyOf (iolinkProcess cfg d env).1.dll reply ↔ ReplyOf d.dll reply := by
  obtain ⟨hpd, hbit⟩ := pdIn_process cfg d env
  have hconfig : SameConfig d.dll (iolinkProcess cfg d env).1.dll :=
    sameConfig_deviceStep cfg d (.process env)
  rw [ReplyOf, ReplyOf, hpd, hbit, hconfig.pdInLenCurrent, hconfig.odLen]

/-- The input process data before an iteration: the echo of the output process data,
    once there has been an iteration. -/
structure Echoes (len k : ℕ) (c : DllCtx) : Prop where
  pdIn : slice c.pdIn 0 len =
    if k = 0 then List.replicate len 0 else echo (slice c.pdOut 0 len)
  toggle : 0 < len → (c.pdInToggle = true ↔ Odd k)
  pdInLenCurrent : c.pdInLenCurrent = len
  pdOutLen : c.pdOutLen = len

/-- The replies of an iteration. -/
theorem Echoes.replies {len k : ℕ} {s : HostDemo} (h : Echoes len k s.device.dll) (i : LoopInput)
    {reply : List UInt8} (hmem : reply ∈ (hostLoop cfg s i).2) (hlong : 2 < reply.length) :
    replyPd len reply = slice s.device.dll.pdIn 0 len ∧
      toggleBit reply = s.device.dll.pdInToggle := by
  have hreply : ReplyOf s.device.dll reply := by
    rcases List.mem_append.mp hmem with hfirst | hsecond
    · exact replies_of_process cfg s.device _ hfirst
    · have hsame := replyOf_process cfg s.device
        (virtualEnv i.first (s.queue ++ i.firstBytes)) reply
      exact hsame.mp (replies_of_process cfg _ _ hsecond)
  rw [ReplyOf, h.pdInLenCurrent] at hreply
  cases hreply with
  | type0 od => simp at hlong
  | type12 status od hod hbit =>
    refine ⟨?_, hbit⟩
    rw [replyPd, cyclicReply, List.cons_append, List.drop_succ_cons, List.drop_zero,
      List.append_assoc]
    exact List.take_left' (length_slice _ _ _)

/-- The read and the update at the end of an iteration. -/
theorem Echoes.update {len k : ℕ} {c c' : DllCtx} (h : Echoes len k c) (hlen : len ≤ 32)
    (hpd : c'.pdIn = c.pdIn ∧ c'.pdInToggle = c.pdInToggle) (hconfig : SameConfig c c') :
    Echoes len (k + 1) (hostUpdate c') := by
  have hout : c'.pdOutLen = len := hconfig.pdOutLen.trans h.pdOutLen
  have hcur : c'.pdInLenCurrent = len := hconfig.pdInLenCurrent.trans h.pdInLenCurrent
  have hread : pdOutputRead c' 32 = slice c'.pdOut 0 len := by
    rw [pdOutputRead, hout, Nat.min_eq_right hlen]
  unfold hostUpdate
  dsimp only
  rw [hread, length_slice]
  split_ifs with hpos
  · have hsize : (echo (slice c'.pdOut 0 len)).length = len := by
      rw [echo, List.length_map, length_slice]
    have hok : ¬ ((echo (slice c'.pdOut 0 len)).length > pdInMaxSize) := by
      rw [hsize]
      exact Nat.not_lt.mpr hlen
    unfold pdInputUpdate
    rw [if_neg hok]
    refine ⟨?_, fun _ => ?_, hcur, hout⟩
    · rw [if_neg (Nat.succ_ne_zero k)]
      have hblit := slice_blit c'.pdIn 0 (echo (slice c'.pdOut 0 len))
      rw [hsize] at hblit
      exact hblit
    · show (!c'.pdInToggle) = true ↔ Odd (k + 1)
      rw [hpd.2, Bool.not_eq_true', Nat.odd_add_one, ← h.toggle hpos, Bool.not_eq_true]
  · obtain rfl : len = 0 := by omega
    exact ⟨by simp [echo], fun h0 => absurd h0 (lt_irrefl 0), hcur, hout⟩

/-- One iteration. -/
theorem Echoes.hostLoop {cfg : BuildConfig} {len k : ℕ} {s : HostDemo}
    (h : Echoes len k s.device.dll) (hlen : len ≤ 32) (i : LoopInput) :
    Echoes len (k + 1) (hostLoop cfg s i).1.device.dll := by
  have hfirst := pdIn_process cfg s.device (virtualEnv i.first (s.queue ++ i.firstBytes))
  have hconfig : SameConfig s.device.dll
      (iolinkProcess cfg s.device (virtualEnv i.first (s.queue ++ i.firstBytes))).1.dll :=
    sameConfig_deviceStep cfg s.device (.process _)
  unfold Iolinki.hostLoop
  dsimp only
  generalize hp : virtualProcess cfg i.first s.device (s.queue ++ i.firstBytes) = p
  have hp1 : (iolinkProcess cfg s.device (virtualEnv i.first (s.queue ++ i.firstBytes))).1 =
      p.1 := by
    rw [← hp]
    rfl
  rw [hp1] at hfirst hconfig
  have hsecond := pdIn_process cfg p.1 (virtualEnv i.second (p.2.2 ++ i.secondBytes))
  have hconfig' : SameConfig p.1.dll
      (iolinkProcess cfg p.1 (virtualEnv i.second (p.2.2 ++ i.secondBytes))).1.dll :=
    sameConfig_deviceStep cfg p.1 (.process _)
  exact h.update hlen ⟨hsecond.1.trans hfirst.1, hsecond.2.trans hfirst.2⟩ (hconfig.trans hconfig')

/-- A run of the main loop. -/
theorem echoes_run {len : ℕ} {s : HostDemo} {k : ℕ} (h : Echoes len k s.device.dll)
    (hlen : len ≤ 32) (inputs : List LoopInput) :
    Echoes len (k + inputs.length) ((hostMachine cfg).final s inputs).device.dll := by
  induction inputs generalizing s k with
  | nil => exact h
  | cons i inputs ih =>
    rw [Machine.final_cons, List.length_cons, Nat.add_comm inputs.length, ← Nat.add_assoc]
    exact ih (h.hostLoop hlen i)

/-- The process data of the last frame that has been accepted in a run, and zeros
    before there is one. -/
def lastPd (cfg : BuildConfig) (config : Config) (s : HostDemo) (inputs : List LoopInput) :
    List UInt8 :=
  ((recordingDevice cfg).final (s.device, History.init) (hostCalls cfg s inputs)).2.pd.getD
    (List.replicate config.pdOutLen 0)

theorem slice_zeros {f : ℕ → UInt8} (n : ℕ) (h : ∀ i, f i = 0) :
    slice f 0 n = List.replicate n 0 := by
  rw [slice, List.eq_replicate_iff]
  refine ⟨by simp, fun b hb => ?_⟩
  obtain ⟨i, -, rfl⟩ := List.mem_map.mp hb
  exact h _

/-- The output process data after a run. -/
theorem pdOut_eq_lastPd {config : Config} (hlen : config.pdOutLen ≤ 32) (nowUs : UInt64)
    (image : Option ParamsNvm) (store : Store) (inputs : List LoopInput) :
    let s₀ := hostStart cfg config nowUs image store
    slice ((hostMachine cfg).final s₀ inputs).device.dll.pdOut 0 config.pdOutLen =
      lastPd cfg config s₀ inputs := by
  intro s₀
  obtain ⟨hrec, -⟩ := recorded_run cfg
    (recorded_iolinkInit cfg hlen true nowUs image store) (hostCalls cfg s₀ inputs)
  have hdev : ((recordingDevice cfg).final (s₀.device, History.init) (hostCalls cfg s₀ inputs)).1 =
      ((hostMachine cfg).final s₀ inputs).device :=
    ((deviceMachine cfg).final_withHistory_fst (recordCall cfg) s₀.device _ _).trans
      (host_calls cfg s₀ inputs)
  have hout : ((hostMachine cfg).final s₀ inputs).device.dll.pdOutLen = config.pdOutLen := by
    rw [← host_calls]
    exact (sameConfig_final cfg s₀.device _).pdOutLen
  change Recorded ((recordingDevice cfg).final (s₀.device, History.init)
    (hostCalls cfg s₀ inputs)).1.dll _ at hrec
  rw [hdev] at hrec
  have hpd : PdExplained ((hostMachine cfg).final s₀ inputs).device.dll
      ((recordingDevice cfg).final (s₀.device, History.init) (hostCalls cfg s₀ inputs)).2.pd :=
      hrec.pd
  unfold lastPd
  cases hp : ((recordingDevice cfg).final (s₀.device, History.init)
    (hostCalls cfg s₀ inputs)).2.pd with
  | none =>
    rw [hp] at hpd
    exact slice_zeros _ hpd
  | some pd =>
    rw [hp, PdExplained, hout] at hpd
    exact hpd

/-- **The host demo echoes.** In every run, whatever arrives when, a reply to a Type 1
    or Type 2 frame carries the process data of the last frame that was accepted before
    the current iteration of the main loop, each byte incremented; in the first
    iteration it carries zeros. Its toggle bit is the parity of the iterations. -/
theorem host_demo_echoes (type len : Option ℤ) (hlen : (hostConfig type len).pdOutLen ≤ 32)
    (nowUs : UInt64) (image : Option ParamsNvm) (store : Store) (pre : List LoopInput)
    (i : LoopInput) :
    let config := hostConfig type len
    let s₀ := hostStart cfg config nowUs image store
    ∀ reply ∈ (hostLoop cfg ((hostMachine cfg).final s₀ pre) i).2, 2 < reply.length →
      replyPd config.pdInLen reply =
          (if pre = [] then List.replicate config.pdInLen 0 else echo (lastPd cfg config s₀ pre)) ∧
        (0 < config.pdInLen → (toggleBit reply = true ↔ Odd pre.length)) := by
  intro config s₀ reply hmem hlong
  have hlens : config.pdInLen = config.pdOutLen := rfl
  have h₀ : Echoes config.pdInLen 0 s₀.device.dll := by
    refine ⟨?_, fun _ => ?_, rfl, rfl⟩
    · rw [if_pos rfl]
      exact slice_zeros config.pdInLen fun _ => rfl
    · show false = true ↔ Odd 0
      simp
  have hrun := echoes_run cfg h₀ hlen pre
  rw [Nat.zero_add] at hrun
  obtain ⟨hpd, hbit⟩ := hrun.replies cfg i hmem hlong
  refine ⟨?_, fun hpos => ?_⟩
  · rw [hpd, hrun.pdIn, hlens, pdOut_eq_lastPd cfg hlen nowUs image store pre]
    simp only [List.length_eq_zero_iff]
    rfl
  · rw [hbit]
    exact hrun.toggle hpos

end Echo

/-- Clocks that stand at zero. -/
def zeroClocks : CallClocks := ⟨0, 0, 0, 0, 0, fun _ b => ⟨b, 0, 0, 0, 0, 0⟩, fun _ _ => rfl⟩

/-- An iteration in which these bytes arrive for the two calls. -/
def loopWith (first second : List UInt8) : LoopInput := ⟨zeroClocks, first, zeroClocks, second⟩

/-- Wake-up and first frame; then transition command and a cyclic frame. -/
def demoRun : List LoopInput :=
  [loopWith [0x55] [0x00, checksumCk 0x00 0],
    loopWith [0x0F, checksumCk 0x0F 0] (cyclicFrame 0x00 0x00 [0x10] [0x00])]

/-- The next cyclic frame is answered with the echo of the first one. -/
theorem host_demo_echoes_second :
    let s := (hostMachine {}).final
      (hostStart {} (hostConfig (some 1) (some 1)) 0 none storeInit) demoRun
    let sent := (hostLoop {} s (loopWith (cyclicFrame 0x00 0x00 [0x20] [0x00]) [])).2
    sent.length = 1 ∧ ∀ reply ∈ sent, replyPd 1 reply = [0x11] := by
  intro s sent
  refine ⟨by decide +kernel, fun reply hmem => ?_⟩
  have hlong : ∀ reply ∈ sent, 2 < reply.length := by decide +kernel
  have h := (host_demo_echoes {} (some 1) (some 1) (by decide) 0 none storeInit demoRun
    (loopWith (cyclicFrame 0x00 0x00 [0x20] [0x00]) []) reply hmem (hlong reply hmem)).1
  refine h.trans ?_
  decide +kernel

end Iolinki
