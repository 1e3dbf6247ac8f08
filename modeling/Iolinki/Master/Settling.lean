import Iolinki.Isdu.Settling
import Iolinki.Master.WriteResult

/-!
# Idle cycles before a request

A request that a master breaks off leaves the ISDU engine in the middle of it, and the
next request is then lost. Idle cycles in between help: after `settleBound` of them the
engine is in IDLE, whatever happened before, and takes the next request as it is sent.

* `idleCycles_isdu`: what idle cycles do to the engine.
* `settled_request_decoded`: the next request.
-/

namespace Iolinki

open Iolinki.Lib

/-- `send_and_recv(0x00)`, `n` times. -/
def idleCycles (cfg : BuildConfig) (clocks : Clocks) (m : Master) : ℕ → Link → Link
  | 0, l => l
  | n + 1, l => idleCycles cfg clocks m n (sendAndRecv cfg clocks m l 0x00).2

section Cycles

variable (cfg : BuildConfig) {config : Config} {clocks : Clocks} {l : Link}

/-- Idle cycles on a ready link. -/
theorem idleCycles_isdu (hcyc : HasCycles config) (htype : config.mSeqType.IsType1)
    (h : Ready config clocks l) (n : ℕ) :
    Ready config clocks (idleCycles cfg clocks (masterOf config) n l) ∧
      ∃ hosts : List Host, hosts.length = n ∧
        (idleCycles cfg clocks (masterOf config) n l).device.dll.isdu =
          (idleMachine cfg).final l.device.dll.isdu hosts := by
  induction n generalizing l with
  | zero => exact ⟨h, [], rfl, rfl⟩
  | succ n ih =>
    obtain ⟨-, -, -, -, hready, hisdu, -⟩ :=
      (transports_type1 cfg clocks hcyc htype).single cfg h.onLink 0x00
    obtain ⟨hfinal, hosts, hlen, hrest⟩ := ih hready
    refine ⟨hfinal, l.device.host :: hosts, by rw [List.length_cons, hlen], ?_⟩
    rw [Machine.final_cons]
    exact hrest.trans (congrArg (fun c => (idleMachine cfg).final c hosts) hisdu)

end Cycles

/-- **After enough idle cycles the next request is taken.** Whatever calls a Type 1 device
    in OPERATE has seen, and whatever its ISDU engine is in the middle of: after
    `settleBound` idle cycles the engine is in IDLE, and the request that the master sends
    next is collected as it was sent. -/
theorem settled_request_decoded (cfg : BuildConfig) (config : Config)
    (htype : config.mSeqType.IsType1) (hout : config.pdOutLen ≤ 32) (calls : List Call) (d : Device)
    (hreach : Reaches cfg config true calls d) (hstate : d.dll.state = .operate)
    (hidx : d.dll.frameIndex = 0) (clocks : Clocks) (k : ℕ) (hpaced : Paced clocks d.dll k)
    (n : ℕ) (hn : settleBound ≤ n) (req : Request) :
    let l := idleCycles cfg clocks (masterOf config) n (quietLink d k)
    let r := sendRequest cfg clocks (masterOf config) l (interleaveControl req.dataBytes)
    l.device.dll.isdu.state = .idle ∧ r.1 = true ∧ r.2.device.dll.isdu.Decoded req := by
  have hcyc : HasCycles config := .of_type1 htype hout
  have hready : Ready config clocks (quietLink d k) :=
    ⟨reaches_operating hreach hstate hidx, rfl, rfl, hpaced⟩
  obtain ⟨hfinal, hosts, hlen, hisdu⟩ := idleCycles_isdu cfg hcyc htype hready n
  have hinv : IsduInv d.dll.isdu := reaches_isduInv hreach
  have hlong : settleBound ≤ hosts.length := by omega
  have hidle := idle_settles cfg hinv hlong
  intro l r
  have hs : l.device.dll.isdu.state = .idle := by
    rw [show l.device.dll.isdu = _ from hisdu]
    exact hidle
  have hstart : (isduProcess cfg l.device.host l.device.dll.isdu).2.state.AwaitsStart :=
    awaitsStart_isduProcess cfg l.device.host (.inl hs)
  obtain ⟨hok, -, hdec, -⟩ := sendRequest_decoded cfg hcyc htype hfinal hstart req rfl
  exact ⟨hs, hok, hdec⟩

/-- The calls after which the engine expects the service byte of a request. -/
def brokenOffCalls : List Call :=
  startupCalls .type11 ++ [.process (callWith false (cyclicFrame 0x00 0x00 [0x00] [0x80]))]

theorem settled_request_decoded_brokenOff :
    (deviceAfter brokenOffCalls).dll.isdu.state = .headerInitial ∧
      (sendRequest {} stillClocks (masterOf (sampleConfig .type11))
        (idleCycles {} stillClocks (masterOf (sampleConfig .type11)) 513
          (quietLink (deviceAfter brokenOffCalls) 0))
        (interleaveControl (Request.read 0x0010 0).dataBytes)).2.device.dll.isdu.Decoded
          (.read 0x0010 0) := by
  refine ⟨by decide +kernel, ?_⟩
  exact (settled_request_decoded {} (sampleConfig .type11) (by decide) (by decide) brokenOffCalls
    (deviceAfter brokenOffCalls) ⟨0, none, storeInit, rfl⟩ (by decide +kernel) (by decide +kernel)
    stillClocks 0 (paced_stillClocks (by decide +kernel) (by decide +kernel) (by decide +kernel) 0)
    513 (by decide) (.read 0x0010 0)).2.2

end Iolinki
