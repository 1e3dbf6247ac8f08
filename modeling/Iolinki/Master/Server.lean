import Iolinki.Isdu.Server
import Iolinki.Master.Transport

/-!
# The master at the server

The reads and writes of the master, seen from both ends: what they return, and what is
done to the objects around the engine, is what `serve` says. Between the two lie the
control bytes, the segments, the polls and the cycles.

* `isduProcess_answer`: what stands ready after `iolink_isdu_process`.
* `readIsduOn_serves`, `writeIsduOn_serves`: one access.
-/

namespace Iolinki

open Iolinki.Lib

section Served

variable (cfg : BuildConfig) {L : Type} {send : L → UInt8 → Option DeviceResponse × L}
variable {R S : L → IsduCtx → Host → Prop} {K : Host → Host → Prop}
variable {l : L} {c : IsduCtx} {h : Host} (hsend : Transports cfg [] send R S K)

/-- What stands ready after `iolink_isdu_process`. -/
theorem isduProcess_answer (hw : c.Wired) {req : Request} (hd : c.Decoded req) :
    match (serve cfg h req).2 with
    | none => (isduProcess cfg h c).2.state = .idle
    | some value => Prepared (isduProcess cfg h c).2 (sentBytes value).length ∧
        slice (isduProcess cfg h c).2.responseBuf 0 (sentBytes value).length = sentBytes value := by
  have hlen : c.header.type = .write → c.bufferIdx ≤ 255 := by
    intro _
    rw [← length_slice c.buffer 0 c.bufferIdx, hd.buffer]
    cases req with
    | read => exact Nat.zero_le _
    | write _ _ payload => exact payload.2.2
  have hans := (isduProcess_serves cfg h hw hd).2
  rcases isduProcess_prepared cfg h hd.state hlen with hidle | ⟨hs, hi, hctrl, -⟩
  · rw [answerData, if_neg (by rw [hidle]; decide)] at hans
    cases hserve : (serve cfg h req).2 with
    | none => exact hidle
    | some value =>
      rw [hserve] at hans
      cases hans
  · rw [answerData, if_pos hs] at hans
    cases hserve : (serve cfg h req).2 with
    | none =>
      rw [hserve] at hans
      cases hans
    | some value =>
      rw [hserve] at hans
      have hdata := Option.some.inj hans
      have hn : (isduProcess cfg h c).2.responseLen = (sentBytes value).length := by
        rw [← hdata, length_slice]
      exact ⟨⟨hs, hi, hctrl, hn⟩, hn ▸ hdata⟩

/-- What `read_isdu` returns: `None` if there is no answer, and one zero byte for an
    answer without data. -/
def readResult (answer : Answer) : Option (List UInt8) :=
  answer.map fun value => if sentBytes value = [] then [0x00] else sentBytes value

include hsend

/-- **One read.** It is served to the objects as they are when the request has been sent. -/
theorem readIsduOn_serves (hR : R l c h) (hw : c.Wired)
    (hstart : (isduProcess cfg h c).2.state.AwaitsStart) (index : UInt16) (subindex : UInt8) :
    ∃ h', K (isduProcess cfg h c).1 h' ∧
      let r := serve cfg h' (.read index subindex)
      ∃ l', AtRest S K l' r.1 ∧ ∀ fuel ≥ 256,
        readIsduOn send fuel l index subindex = some (readResult r.2, l') := by
  obtain ⟨hu, c', h', hR', hk, hd, hw'⟩ :=
    sendRequestOn_decoded cfg hsend hR hstart (.read index subindex) rfl
  have hgen : generateIsduReadV11 index subindex 0x80 =
      interleaveControl (Request.read index subindex).dataBytes := rfl
  rw [← hgen] at hu hR'
  replace hR' := hsend.weaken hR'
  refine ⟨h', hk, ?_⟩
  intro r
  have hhost : (isduProcess cfg h' c').1 = r.1 := (isduProcess_serves cfg h' (hw' hw) hd).1
  have hans := isduProcess_answer cfg (h := h') (hw' hw) hd
  change match r.2 with | none => _ | some value => _ at hans
  rw [← hhost]
  cases hr : r.2 with
  | none =>
    rw [hr] at hans
    obtain ⟨l', hrest, hret⟩ :=
      readIsduOn_unanswered cfg hsend (Prod.ext hu rfl) hR' (hw' hw) hans
    exact ⟨l', hrest, fun fuel _ => hret fuel⟩
  | some value =>
    rw [hr] at hans
    obtain ⟨hprep, hdata⟩ := hans
    obtain ⟨l', hrest, hret⟩ := readIsduOn_answered cfg hsend (Prod.ext hu rfl) hR' (hw' hw) rfl
      hprep (length_sentBytes_le value)
    rw [hdata] at hret
    refine ⟨l', hrest, fun fuel hfuel => (hret fuel hfuel).trans ?_⟩
    simp only [readResult, Option.map_some, List.length_eq_zero_iff]

/-- **One write.** -/
theorem writeIsduOn_serves (hR : R l c h) (hw : c.Wired)
    (hstart : (isduProcess cfg h c).2.state.AwaitsStart) (index : UInt16) (subindex : UInt8)
    {data : Payload} (hlen : data.1.length ≠ 15) :
    ∃ h', K (isduProcess cfg h c).1 h' ∧
      let r := serve cfg h' (.write index subindex data)
      ∃ l', AtRest S K l' r.1 ∧
        writeIsduOn send l index subindex data.1 = (r.2.isSome, l') := by
  obtain ⟨hu, c', h', hR', hk, hd, hw'⟩ := sendRequestOn_decoded cfg hsend hR hstart
    (.write index subindex data) (writeRequestData_eq index subindex data hlen)
  replace hR' := hsend.weaken hR'
  refine ⟨h', hk, ?_⟩
  intro r
  have hhost : (isduProcess cfg h' c').1 = r.1 := (isduProcess_serves cfg h' (hw' hw) hd).1
  have hans := isduProcess_answer cfg (h := h') (hw' hw) hd
  change match r.2 with | none => _ | some value => _ at hans
  rw [← hhost]
  cases hr : r.2 with
  | none =>
    rw [hr] at hans
    exact writeIsduOn_unanswered cfg hsend (Prod.ext hu rfl) hR' (hw' hw) hans
  | some value =>
    rw [hr] at hans
    exact writeIsduOn_answered cfg hsend (Prod.ext hu rfl) hR' (hw' hw) hans.1
      (length_sentBytes_le value)

end Served

end Iolinki
