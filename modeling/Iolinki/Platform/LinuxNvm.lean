import Iolinki.Lib.Machine
import Iolinki.Lib.Buffer
import Mathlib.Data.List.Flatten

/-!
# The NVM port for Linux

Model of `src/platform/linux/nvm_mock.c` over the part of stdio that it uses.
The NVM is one file, which does not exist before the first write. `fopen` with
mode `a+b`, `fseek` and `fwrite` are taken to succeed, and `long` to hold every
`uint32_t`, so every write is a successful one.

The specification is a memory in which each write replaces the bytes at its
offset (`memory`).

* `nvm_read_after_write_iff`: the port reads back what was written exactly when
  the data, appended to one another, agree with that memory.
* `nvm_sequential_writes`: they do if every write starts where the one before
  it ended.
-/

namespace Iolinki.Linux

open Iolinki.Lib

/-! ## Files -/

/-- The content of a file; `none` as long as the file does not exist. -/
abbrev File := Option (List UInt8)

/-- The two modes that the port opens its file with. -/
inductive Mode
  /-- `"rb"` -/
  | read
  /-- `"a+b"` -/
  | append
  deriving DecidableEq, Repr

/-- `FILE`: an open file, its content and the file position. -/
structure Stream where
  mode : Mode
  content : List UInt8
  pos : ℕ

/-- `fopen`. Mode `rb` needs an existing file, mode `a+b` creates a missing one. -/
def fopen (file : File) : Mode → Option Stream
  | .read => file.map fun content => ⟨.read, content, 0⟩
  | .append => some ⟨.append, file.getD [], 0⟩

/-- `fseek(f, offset, SEEK_SET)`; the position may lie behind the end. -/
def fseek (f : Stream) (offset : ℕ) : Stream := { f with pos := offset }

/-- `fread(data, 1, len, f)`: the bytes that are there, at most `len`. -/
def fread (f : Stream) (len : ℕ) : List UInt8 := (f.content.drop f.pos).take len

/-- `fwrite(data, 1, len, f)`: the stream and the number of bytes written. In
    mode `a+b` the bytes go to the end of the file, wherever the position is. -/
def fwrite (f : Stream) (data : List UInt8) : Stream × ℕ :=
  match f.mode with
  | .read => (f, 0)
  | .append =>
    ({ f with content := f.content ++ data, pos := f.content.length + data.length }, data.length)

/-! ## The port -/

/-- `iolink_nvm_read` (lines 16–35) into a buffer of `len` bytes: the bytes
    read, `none` when it returns `-1`. -/
def nvmRead (file : File) (offset : UInt32) (len : ℕ) : Option (List UInt8) :=
  match fopen file .read with
  | none => none
  | some f =>
    let data := fread (fseek f offset.toNat) len
    if data.length = len then some data else none

/-- `iolink_nvm_write` (lines 37–57): the file and the return value. -/
def nvmWrite (file : File) (offset : UInt32) (data : List UInt8) : File × Int :=
  match fopen file .append with
  | none => (file, -1)
  | some f =>
    let r := fwrite (fseek f offset.toNat) data
    (some r.1.content, if r.2 = data.length then 0 else -1)

/-- The file under `iolink_nvm_write` calls; the output is the return value. -/
def nvmMachine : Machine File (UInt32 × List UInt8) Int where
  step file w := nvmWrite file w.1 w.2

/-- The file after the writes `ws` to a missing file. -/
def written (ws : List (UInt32 × List UInt8)) : File := nvmMachine.final none ws

/-! ## Specification -/

/-- The byte most recently written to each offset by `ws`, `none` where no byte
    has been written; `m` holds what was written before. -/
def memory (m : ℕ → Option UInt8) : List (UInt32 × List UInt8) → ℕ → Option UInt8
  | [] => m
  | w :: ws => memory (blit m w.1.toNat (w.2.map some)) ws

/-- Nothing has been written. -/
def blank : ℕ → Option UInt8 := fun _ => none

/-- Every read over bytes that were all written succeeds and returns the bytes
    most recently written. -/
def ReadsBack (ws : List (UInt32 × List UInt8)) : Prop :=
  ∀ (offset : UInt32) (len : ℕ), (∀ i < len, (memory blank ws (offset.toNat + i)).isSome) →
    ∃ data, nvmRead (written ws) offset len = some data ∧
      ∀ i < len, data[i]? = memory blank ws (offset.toNat + i)

/-! ## What the file holds -/

theorem nvmWrite_eq (file : File) (offset : UInt32) (data : List UInt8) :
    nvmWrite file offset data = (some (file.getD [] ++ data), 0) := by
  simp [nvmWrite, fopen, fseek, fwrite]

/-- Every write succeeds. -/
theorem nvmMachine_outputs (file : File) (ws : List (UInt32 × List UInt8)) :
    ∀ ret ∈ nvmMachine.outputs file ws, ret = 0 := by
  induction ws generalizing file with
  | nil => intro ret hret; simp at hret
  | cons w ws ih =>
    intro ret hret
    rw [Machine.outputs_cons, List.mem_cons] at hret
    rcases hret with rfl | hret
    · exact congrArg Prod.snd (nvmWrite_eq file w.1 w.2)
    · exact ih _ ret hret

theorem nvmMachine_final (content : List UInt8) (ws : List (UInt32 × List UInt8)) :
    nvmMachine.final (some content) ws = some (content ++ ws.flatMap (·.2)) := by
  induction ws generalizing content with
  | nil => simp
  | cons w ws ih =>
    have hstep : (nvmMachine.step (some content) w).1 = some (content ++ w.2) :=
      congrArg Prod.fst (nvmWrite_eq (some content) w.1 w.2)
    rw [Machine.final_cons, hstep, ih, List.flatMap_cons, List.append_assoc]

/-- The file holds the data of all writes in the order of the calls: the
    offsets play no part. -/
theorem written_eq {ws : List (UInt32 × List UInt8)} (h : ws ≠ []) :
    written ws = some (ws.flatMap (·.2)) := by
  obtain ⟨w, ws, rfl⟩ := List.exists_cons_of_ne_nil h
  have hstep : (nvmMachine.step none w).1 = some w.2 :=
    congrArg Prod.fst (nvmWrite_eq none w.1 w.2)
  rw [written, Machine.final_cons, hstep, nvmMachine_final, List.flatMap_cons]

theorem nvmRead_some (content : List UInt8) (offset : UInt32) (len : ℕ) :
    nvmRead (some content) offset len =
      let data := (content.drop offset.toNat).take len
      if data.length = len then some data else none := rfl

/-- A read of `len` bytes succeeds if the file reaches far enough. -/
theorem nvmRead_of_le {content : List UInt8} {offset : UInt32} {len : ℕ}
    (h : offset.toNat + len ≤ content.length ∨ len = 0) :
    nvmRead (some content) offset len = some ((content.drop offset.toNat).take len) := by
  rw [nvmRead_some]
  refine if_pos ?_
  rw [List.length_take, List.length_drop]
  omega

/-! ## When the port is a read-after-write store -/

/-- A write is the last one to its own bytes, until a later one. -/
theorem memory_isSome_of_isSome {m : ℕ → Option UInt8} {p : ℕ} (h : (m p).isSome)
    (ws : List (UInt32 × List UInt8)) : (memory m ws p).isSome := by
  induction ws generalizing m with
  | nil => exact h
  | cons w ws ih =>
    refine ih ?_
    simp only [blit, List.getElem?_map]
    split_ifs
    · cases w.2[p - w.1.toNat]? with
      | none => exact h
      | some b => rfl
    · exact h

theorem memory_isSome_of_mem {m : ℕ → Option UInt8} {ws : List (UInt32 × List UInt8)}
    {w : UInt32 × List UInt8} (hw : w ∈ ws) {i : ℕ} (hi : i < w.2.length) :
    (memory m ws (w.1.toNat + i)).isSome := by
  induction ws generalizing m with
  | nil => simp at hw
  | cons v ws ih =>
    rcases List.mem_cons.mp hw with rfl | hw
    · refine memory_isSome_of_isSome ?_ ws
      simp [blit, hi]
    · exact ih hw

/-- An offset with a byte lies inside one of the writes. -/
theorem mem_of_memory_isSome {m : ℕ → Option UInt8} {ws : List (UInt32 × List UInt8)} {p : ℕ}
    (h : (memory m ws p).isSome) :
    (m p).isSome ∨ ∃ w ∈ ws, ∃ i < w.2.length, p = w.1.toNat + i := by
  induction ws generalizing m with
  | nil => exact .inl h
  | cons w ws ih =>
    rcases ih h with h | ⟨v, hv, hp⟩
    · by_cases hin : w.1.toNat ≤ p ∧ p - w.1.toNat < w.2.length
      · exact .inr ⟨w, by simp, p - w.1.toNat, hin.2, by omega⟩
      · refine .inl ?_
        simp only [blit, List.getElem?_map] at h
        split_ifs at h with hle
        · have hnone : w.2[p - w.1.toNat]? = none := List.getElem?_eq_none (by omega)
          simpa [hnone] using h
        · exact h
    · exact .inr ⟨v, List.mem_cons_of_mem _ hv, hp⟩

theorem ReadsBack.ne_nil {ws : List (UInt32 × List UInt8)} (h : ReadsBack ws) : ws ≠ [] := by
  rintro rfl
  obtain ⟨data, hread, -⟩ := h 0 0 (fun i hi => absurd hi (Nat.not_lt_zero i))
  exact absurd hread (by simp [written, nvmRead, fopen])

theorem ReadsBack.getElem?_flatMap {ws : List (UInt32 × List UInt8)} (h : ReadsBack ws) {p : ℕ}
    (hp : (memory blank ws p).isSome) : (ws.flatMap (·.2))[p]? = memory blank ws p := by
  -- the byte lies in one of the writes, and that whole write can be read
  rcases mem_of_memory_isSome hp with hblank | ⟨w, hw, i, hi, rfl⟩
  · simp [blank] at hblank
  obtain ⟨data, hread, hdata⟩ := h w.1 w.2.length fun j hj => memory_isSome_of_mem hw hj
  rw [← hdata i hi]
  rw [written_eq h.ne_nil, nvmRead_some] at hread
  simp only [Option.ite_none_right_eq_some, Option.some.injEq] at hread
  rw [← hread.2, List.getElem?_take_of_lt hi, List.getElem?_drop]

theorem readsBack_of_memory {ws : List (UInt32 × List UInt8)} (hne : ws ≠ [])
    (hmem : ∀ p, (memory blank ws p).isSome → (ws.flatMap (·.2))[p]? = memory blank ws p) :
    ReadsBack ws := by
  intro offset len hwritten
  have hlen : offset.toNat + len ≤ (ws.flatMap (·.2)).length ∨ len = 0 := by
    by_contra hcon
    obtain ⟨hshort, hpos⟩ := not_or.mp hcon
    have hlast := hwritten (len - 1) (by omega)
    have heq := hmem _ hlast
    rw [List.getElem?_eq_none (by omega)] at heq
    rw [← heq] at hlast
    exact absurd hlast (by simp)
  refine ⟨_, by rw [written_eq hne]; exact nvmRead_of_le hlen, ?_⟩
  intro i hi
  rw [List.getElem?_take_of_lt hi, List.getElem?_drop]
  exact hmem _ (hwritten i hi)

/-- The Linux port is a read-after-write store for the writes `ws` exactly when
    at least one write was made (else a read of no bytes fails as well) and, at
    every offset that was written to, the byte of all the data appended to one
    another is the byte most recently written. -/
theorem nvm_read_after_write_iff (ws : List (UInt32 × List UInt8)) :
    ReadsBack ws ↔
      ws ≠ [] ∧ ∀ p, (memory blank ws p).isSome → (ws.flatMap (·.2))[p]? = memory blank ws p := by
  constructor
  · intro h
    exact ⟨h.ne_nil, fun p hp => h.getElem?_flatMap hp⟩
  · rintro ⟨hne, hmem⟩
    exact readsBack_of_memory hne hmem

/-- The second write to offset 0 is not what a read there returns: it went to
    the end of the file. -/
theorem nvm_overwrite_reads_old :
    memory blank [(0, [1]), (0, [2])] 0 = some 2 ∧
      nvmRead (written [(0, [1]), (0, [2])]) 0 1 = some [1] ∧
      ¬ReadsBack [(0, [1]), (0, [2])] := by
  refine ⟨by decide, by decide, ?_⟩
  intro h
  exact absurd (h.getElem?_flatMap (p := 0) (by decide)) (by decide)

/-! ## Writes one behind the other -/

/-- Each write starts where the one before it ended, the first one at `pos`. -/
def Sequential : ℕ → List (UInt32 × List UInt8) → Prop
  | _, [] => True
  | pos, w :: ws => w.1.toNat = pos ∧ Sequential (pos + w.2.length) ws

theorem memory_sequential {content : List UInt8} {ws : List (UInt32 × List UInt8)}
    (h : Sequential content.length ws) (p : ℕ) :
    memory (content[·]?) ws p = (content ++ ws.flatMap (·.2))[p]? := by
  induction ws generalizing content with
  | nil => simp [memory]
  | cons w ws ih =>
    obtain ⟨hstart, hrest⟩ := h
    have hblit : blit (content[·]?) w.1.toNat (w.2.map some) = ((content ++ w.2)[·]?) := by
      funext i
      rw [hstart]
      simp only [blit, List.getElem?_append, List.getElem?_map]
      by_cases hi : i < content.length
      · rw [if_neg (by omega), if_pos hi]
      · rw [if_pos (by omega), if_neg hi, List.getElem?_eq_none (l := content) (by omega)]
        cases w.2[i - content.length]? <;> rfl
    rw [memory, hblit, ih (by rw [List.length_append]; exact hrest), List.flatMap_cons,
      List.append_assoc]

/-- As a log the port works: writes that follow one another are read back. -/
theorem nvm_sequential_writes {ws : List (UInt32 × List UInt8)} (hne : ws ≠ [])
    (h : Sequential 0 ws) : ReadsBack ws := by
  refine readsBack_of_memory hne ?_
  intro p _
  have hmem : memory blank ws p = ([] ++ ws.flatMap (·.2))[p]? :=
    @memory_sequential [] ws h p
  rw [hmem, List.nil_append]

end Iolinki.Linux
