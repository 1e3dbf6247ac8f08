import Iolinki.Master.Transport

/-!
# Bytes that are taken for something else

An engine that is in the middle of a request takes the bytes of the next one for the rest
of it, and an engine that is given padding bytes takes these for service bytes. Both end in
an error, and from then on only the START bits of the bytes that follow count: a byte with
the START bit opens a request, the byte behind it is refused as a service byte, and every
other byte fetches a byte of the refusal.

`Stray c p` says that `p` is what the engine has to deliver. One control byte and one data
byte of a request change `p` as `strayNext` does.

* `cycle_quiet`, `cycle_start`: the engine in one cycle.
* `sendRequestOn_stray`: the bytes of a request.
* `pollControlOn_stray`: the polls behind it.
* `foldl_strayNext_eq_nil_iff`: when nothing is left for the polls.
-/

namespace Iolinki

open Iolinki.Lib

/-! ## The engine -/

/-- The refusal of a service byte, with its control bytes; `seq` is the sequence number of
    the START control byte before it. -/
def refusal (seq : UInt8) : List UInt8 :=
  [ctrlByte true false seq, 0x80, ctrlByte false true (nextSeq seq), isduErrorServiceNotAvail]

/-- `p` is still to be delivered: a response, or the refusal of the byte that follows a
    START control byte. -/
def Stray (c : IsduCtx) (p : List UInt8) : Prop :=
  (Emits c ∧ pending c = p) ∨
    (c.state = .headerInitial ∧ c.isResponseControlSent = false ∧ p = refusal c.segmentSeq)

theorem Stray.ne_serviceExecute {c : IsduCtx} {p : List UInt8} (h : Stray c p) :
    c.state ≠ .serviceExecute := by
  rcases h with ⟨hem, -⟩ | ⟨hs, -⟩
  · rcases hem.awaitsStart with hs | hs <;> rw [hs] <;> decide
  · rw [hs]
    decide

theorem Stray.isduProcess_eq (cfg : BuildConfig) {c : IsduCtx} {p : List UInt8} (h : Stray c p)
    (host : Host) : isduProcess cfg host c = (host, c) :=
  isduProcess_of_ne cfg host h.ne_serviceExecute

/-- A byte without the START bit is no service byte. -/
theorem headerInitial_refused (c : IsduCtx) {b : UInt8} (hb : startBit b = false) :
    isduHeaderInitial c b = (responseReady (putError c isduErrorServiceNotAvail), -1) := by
  have hservice : ∀ b : UInt8, startBit b = false →
      (b >>> 4) &&& 0x0F ≠ 0x08 ∧ (b >>> 4) &&& 0x0F ≠ 0x09 := by decide +kernel
  obtain ⟨h8, h9⟩ := hservice b hb
  unfold isduHeaderInitial
  dsimp only
  rw [if_neg h8, if_neg h9]

/-- An error that is answered: its first control byte is delivered at once. -/
theorem error_fetched {e : IsduCtx} (c : IsduCtx) (code : UInt8)
    (he : e = responseReady { putError c code with isResponseControlSent := false }) :
    (isduGetResponseByte e).2.getD 0 = ctrlByte true false c.segmentSeq ∧ Emits (afterGet e) ∧
      pending (afterGet e) = [0x80, ctrlByte false true (nextSeq c.segmentSeq), code] := by
  have hem : Emits e := by
    rw [he]
    exact .inr ⟨rfl, show 2 ≤ 255 by omega, .inl (show 0 < 2 by omega)⟩
  have hpend : pending e = ctrlByte true false c.segmentSeq ::
      [0x80, ctrlByte false true (nextSeq c.segmentSeq), code] := by
    rw [he]
    rfl
  obtain ⟨hhead, htail, hem'⟩ := getResponseByte_pending hem
  rw [hpend] at hhead htail
  exact ⟨by rw [hhead]; rfl, hem', htail⟩

/-- A byte without the START bit fetches what is to be delivered. -/
theorem stray_quiet {c : IsduCtx} {p : List UInt8} (h : Stray c p) {b : UInt8}
    (hb : startBit b = false) :
    (odExchange c b).2 = p.headD 0 ∧ Emits (odExchange c b).1 ∧
      pending (odExchange c b).1 = p.tail := by
  rcases h with ⟨hem, rfl⟩ | ⟨hs, hctrl, rfl⟩
  · obtain ⟨-, htail, hem'⟩ := getResponseByte_pending hem
    rw [odExchange_emits hem hb]
    exact ⟨rfl, hem', htail⟩
  · have hbyte := headerInitial_refused c hb
    rw [← collectByte_headerInitial b hs] at hbyte
    obtain ⟨hout, hem, hpend⟩ := error_fetched c isduErrorServiceNotAvail
      (e := responseReady (putError c isduErrorServiceNotAvail)) (by rw [← hctrl]; rfl)
    simp only [odExchange, hbyte]
    exact ⟨hout, hem, hpend⟩

/-- A byte with the START bit opens a request. -/
theorem stray_start {c : IsduCtx} (h : c.state.AwaitsStart) {b : UInt8} (hb : startBit b = true) :
    odExchange c b = (c.startRequest b, 0) ∧ Stray (c.startRequest b) (refusal (seqBits b)) := by
  refine ⟨?_, .inr ⟨rfl, rfl, rfl⟩⟩
  rw [odExchange_of_ne (by rw [collectByte_start h hb]; exact IsduState.noConfusion),
    collectByte_start h hb]

/-! ## One cycle -/

/-- The padding bytes fetch as many bytes. -/
theorem emits_padding {pad : List UInt8} (hpad : ∀ b ∈ pad, startBit b = false) {c : IsduCtx}
    (h : Emits c) :
    Emits (odMachine.final c pad) ∧
      pending (odMachine.final c pad) = (pending c).drop pad.length := by
  induction pad generalizing c with
  | nil => exact ⟨h, rfl⟩
  | cons b pad ih =>
    obtain ⟨-, hem, hpend⟩ := stray_quiet (.inl ⟨h, rfl⟩) (hpad b List.mem_cons_self)
    obtain ⟨hem', hpend'⟩ := ih (fun x hx => hpad x (List.mem_cons_of_mem _ hx)) hem
    refine ⟨hem', hpend'.trans ?_⟩
    rw [hpend, List.drop_tail, List.length_cons]

section Cycle

variable {pad : List UInt8} (hpad : ∀ b ∈ pad, startBit b = false)
include hpad

/-- A cycle whose byte has no START bit. -/
theorem cycle_quiet {c : IsduCtx} {p : List UInt8} (h : Stray c p) {b : UInt8}
    (hb : startBit b = false) :
    (odMachine.outputs c (b :: pad)).headD 0 = p.headD 0 ∧
      Emits (odMachine.final c (b :: pad)) ∧
      pending (odMachine.final c (b :: pad)) = p.drop (pad.length + 1) := by
  obtain ⟨hout, hem, hpend⟩ := stray_quiet h hb
  obtain ⟨hem', hpend'⟩ := emits_padding hpad hem
  refine ⟨hout, hem', hpend'.trans ?_⟩
  rw [hpend, List.drop_tail]

/-- A cycle whose byte has the START bit: the padding byte is refused. -/
theorem cycle_start {c : IsduCtx} (h : c.state.AwaitsStart) {b : UInt8} (hb : startBit b = true) :
    Stray (odMachine.final c (b :: pad)) ((refusal (seqBits b)).drop pad.length) := by
  obtain ⟨hstep, hstray⟩ := stray_start h hb
  have hfinal : odMachine.final c (b :: pad) = odMachine.final (c.startRequest b) pad := by
    rw [Machine.final_cons]
    exact congrArg (fun r : IsduCtx × UInt8 => odMachine.final r.1 pad) hstep
  rw [hfinal]
  cases pad with
  | nil => exact hstray
  | cons x pad =>
    obtain ⟨-, hem, hpend⟩ := cycle_quiet (fun y hy => hpad y (List.mem_cons_of_mem _ hy)) hstray
      (hpad x List.mem_cons_self)
    exact .inl ⟨hem, hpend⟩

end Cycle

/-! ## Links -/

/-- `p` is still to be delivered once the engine behind the link has been called. -/
def StrayOn {L : Type} (cfg : BuildConfig) (R : L → IsduCtx → Host → Prop)
    (K : Host → Host → Prop) (p : List UInt8) (l : L) (h : Host) : Prop :=
  ∃ c h', R l c h' ∧ K h (isduProcess cfg h' c).1 ∧ Stray (isduProcess cfg h' c).2 p

/-- The effect of a control byte without the START bit and the data byte `b`. -/
def strayNext (pad : ℕ) (p : List UInt8) (b : UInt8) : List UInt8 :=
  if startBit b then (refusal (seqBits b)).drop pad else p.drop (2 * (pad + 1))

/-- The first byte that is not zero among every `width`-th one. -/
def firstControl (width : ℕ) : ℕ → List UInt8 → UInt8
  | 0, _ => 0
  | polls + 1, p =>
    if p.headD 0 ≠ 0 then p.headD 0 else firstControl width polls (p.drop width)

section Links

variable (cfg : BuildConfig) {L : Type} {send : L → UInt8 → Option DeviceResponse × L}
variable {pad : List UInt8} {R S : L → IsduCtx → Host → Prop} {K : Host → Host → Prop}
variable {l : L} {h : Host} {p : List UInt8} (hsend : Transports cfg pad send R S K)
variable (hpad : ∀ b ∈ pad, startBit b = false)
include hsend

theorem strayOn_of {c : IsduCtx} {h' : Host} (hS : S l c h') (hk : K h h') (hs : Stray c p) :
    StrayOn cfg R K p l h := by
  refine ⟨c, h', hsend.weaken hS, ?_⟩
  rw [hs.isduProcess_eq cfg]
  exact ⟨hk, hs⟩

include hpad

/-- A byte without the START bit. -/
theorem send_stray (hs : StrayOn cfg R K p l h) {b : UInt8} (hb : startBit b = false) :
    usable (send l b).1 = true ∧ odOrPayload (send l b).1 = p.headD 0 ∧
      ∃ c h', S (send l b).2 c h' ∧ K h h' ∧ Emits c ∧ pending c = p.drop (pad.length + 1) := by
  obtain ⟨c, h', hR, hk, hstray⟩ := hs
  obtain ⟨hu, hod, h'', hk', hS⟩ := hsend.cycle hR b
  obtain ⟨hout, hem, hpend⟩ := cycle_quiet hpad hstray hb
  exact ⟨hu, hod.trans hout, _, h'', hS, hsend.trans hk hk', hem, hpend⟩

/-- A byte with the START bit. -/
theorem send_stray_start {c : IsduCtx} {h' : Host} (hR : R l c h')
    (hk : K h (isduProcess cfg h' c).1) (hs : (isduProcess cfg h' c).2.state.AwaitsStart)
    {b : UInt8} (hb : startBit b = true) :
    usable (send l b).1 = true ∧ ∃ c h', S (send l b).2 c h' ∧ K h h' ∧
      Stray c ((refusal (seqBits b)).drop pad.length) := by
  obtain ⟨hu, -, h'', hk', hS⟩ := hsend.cycle hR b
  exact ⟨hu, _, h'', hS, hsend.trans hk hk', cycle_start hpad hs hb⟩

/-- A control byte and a data byte. -/
theorem send_stray_pair (hs : StrayOn cfg R K p l h) (last : Bool) (seq b : UInt8) :
    let r := send l (ctrlByte false last seq)
    usable r.1 = true ∧ usable (send r.2 b).1 = true ∧ ∃ c h', S (send r.2 b).2 c h' ∧ K h h' ∧
      Stray c (strayNext pad.length p b) := by
  intro r
  obtain ⟨hu, -, c, h', hS, hk, hem, hpend⟩ :=
    send_stray cfg hsend hpad hs (startBit_ctrlByte false last seq)
  have hstray : Stray c (p.drop (pad.length + 1)) := .inl ⟨hem, hpend⟩
  unfold strayNext
  cases hb : startBit b with
  | true =>
    have hproc := hstray.isduProcess_eq cfg h'
    obtain ⟨hu', hnext⟩ := send_stray_start cfg hsend hpad (hsend.weaken hS)
      (by rw [hproc]; exact hk) (by rw [hproc]; exact hem.awaitsStart) hb
    exact ⟨hu, hu', hnext⟩
  | false =>
    obtain ⟨hu', -, c', h'', hS', hk', hem', hpend'⟩ :=
      send_stray cfg hsend hpad (strayOn_of cfg hsend hS hk hstray) hb
    rw [List.drop_drop, ← two_mul] at hpend'
    exact ⟨hu, hu', c', h'', hS', hk', .inl ⟨hem', hpend'⟩⟩

/-- **The bytes of a request that is taken for something else.** -/
theorem sendRequestOn_stray (segs : List (Bool × UInt8)) (hne : segs ≠ []) (seq : UInt8)
    (hs : StrayOn cfg R K p l h) :
    let r := sendRequestOn send l (segments false seq segs)
    r.1 = true ∧ ∃ c h', S r.2 c h' ∧ K h h' ∧
      Stray c ((segs.map Prod.snd).foldl (strayNext pad.length) p) := by
  induction segs generalizing l seq p with
  | nil => exact absurd rfl hne
  | cons seg segs ih =>
    obtain ⟨last, b⟩ := seg
    obtain ⟨hu, hu', c, h', hS, hk, hstray⟩ := send_stray_pair cfg hsend hpad hs last seq b
    simp only [segments_cons, sendRequestOn, hu, hu', if_true, List.map_cons, List.foldl_cons]
    cases segs with
    | nil => exact ⟨rfl, c, h', hS, hk, hstray⟩
    | cons seg segs =>
      exact ih (List.cons_ne_nil _ _) _ (strayOn_of cfg hsend hS hk hstray)

/-- **The polls behind it.** -/
theorem pollControlOn_stray (hs : StrayOn cfg R K p l h) (retries : ℕ) :
    let r := pollControlOn send l (retries + 1)
    r.1 = firstControl (pad.length + 1) (retries + 1) p ∧
      ∃ c h', S r.2 c h' ∧ K h h' ∧ Emits c := by
  induction retries generalizing l p with
  | zero =>
    obtain ⟨hu, hod, c, h', hS, hk, hem, -⟩ :=
      send_stray cfg hsend hpad hs (b := 0x00) (by decide)
    simp only [pollControlOn, firstControl, hu, hod, true_and]
    split_ifs <;> exact ⟨rfl, c, h', hS, hk, hem⟩
  | succ n ih =>
    obtain ⟨hu, hod, c, h', hS, hk, hem, hpend⟩ :=
      send_stray cfg hsend hpad hs (b := 0x00) (by decide)
    rw [pollControlOn, firstControl]
    simp only [hu, hod, true_and]
    split_ifs
    · exact ⟨rfl, c, h', hS, hk, hem⟩
    · exact ih (strayOn_of cfg hsend hS hk (.inl ⟨hem, hpend⟩))

end Links

/-! ## What is left for the polls -/

/-- A request with the data bytes `xs`, sent when `n` bytes are to be delivered, leaves some
    for the polls: one of its last bytes opens a request, or none opens one and `n` is more
    than what the request fetches. -/
def Leaves (pad n : ℕ) (xs : List UInt8) : Prop :=
  (∃ b ∈ xs.drop (xs.length - (2 - pad)), startBit b = true) ∨
    ((∀ b ∈ xs, startBit b = false) ∧ 2 * (pad + 1) * xs.length < n)

theorem foldl_strayNext_quiet (pad : ℕ) {xs : List UInt8} (hxs : ∀ b ∈ xs, startBit b = false)
    (p : List UInt8) : xs.foldl (strayNext pad) p = p.drop (2 * (pad + 1) * xs.length) := by
  induction xs generalizing p with
  | nil => rfl
  | cons b xs ih =>
    have hb : strayNext pad p b = p.drop (2 * (pad + 1)) := by
      rw [strayNext, hxs b List.mem_cons_self]
      rfl
    rw [List.foldl_cons, ih (fun x hx => hxs x (List.mem_cons_of_mem _ hx)), hb, List.drop_drop,
      List.length_cons, mul_add_one (2 * (pad + 1)), add_comm]

theorem exists_last_start (xs : List UInt8) :
    (∀ b ∈ xs, startBit b = false) ∨
      ∃ ys x bs, xs = ys ++ x :: bs ∧ startBit x = true ∧ ∀ b ∈ bs, startBit b = false := by
  induction xs with
  | nil => exact .inl nofun
  | cons b xs ih =>
    rcases ih with hquiet | ⟨ys, x, bs, rfl, hx, hbs⟩
    · cases hb : startBit b with
      | true => exact .inr ⟨[], b, xs, rfl, hb, hquiet⟩
      | false =>
        refine .inl fun x hx => ?_
        rcases List.mem_cons.mp hx with rfl | hx
        · exact hb
        · exact hquiet x hx
    · exact .inr ⟨b :: ys, x, bs, rfl, hx, hbs⟩

/-- Only what follows the last START bit counts. -/
theorem foldl_strayNext_start (pad : ℕ) (ys : List UInt8) {x : UInt8} (hx : startBit x = true)
    {bs : List UInt8} (hbs : ∀ b ∈ bs, startBit b = false) (p : List UInt8) :
    (ys ++ x :: bs).foldl (strayNext pad) p =
      (refusal (seqBits x)).drop (pad + 2 * (pad + 1) * bs.length) := by
  rw [List.foldl_append, List.foldl_cons, foldl_strayNext_quiet pad hbs, strayNext, if_pos hx,
    List.drop_drop]

/-- The last START bit is among the last `n` bytes if fewer bytes follow it. -/
theorem exists_start_drop_iff (ys : List UInt8) {x : UInt8} (hx : startBit x = true)
    {bs : List UInt8} (hbs : ∀ b ∈ bs, startBit b = false) (n : ℕ) :
    (∃ b ∈ (ys ++ x :: bs).drop ((ys ++ x :: bs).length - n), startBit b = true) ↔
      bs.length < n := by
  have hlen : (ys ++ x :: bs).length = ys.length + 1 + bs.length := by
    rw [List.length_append, List.length_cons]
    omega
  rw [hlen]
  by_cases hlt : bs.length < n
  · refine iff_of_true ⟨x, ?_, hx⟩ hlt
    rw [List.drop_append_of_le_length (by omega)]
    exact List.mem_append_right _ List.mem_cons_self
  · refine iff_of_false ?_ hlt
    rintro ⟨b, hmem, hb⟩
    have hpre : (ys ++ [x]).length ≤ ys.length + 1 + bs.length - n := by
      rw [List.length_append, List.length_singleton]
      omega
    rw [List.append_cons, List.drop_append, List.drop_of_length_le hpre, List.nil_append] at hmem
    rw [hbs b (List.mem_of_mem_drop hmem)] at hb
    cases hb

/-- **When nothing is left for the polls.** -/
theorem foldl_strayNext_eq_nil_iff {pad : ℕ} (hpad : pad ≤ 1) (xs p : List UInt8) :
    xs.foldl (strayNext pad) p = [] ↔ ¬ Leaves pad p.length xs := by
  unfold Leaves
  rcases exists_last_start xs with hquiet | ⟨ys, x, bs, rfl, hx, hbs⟩
  · have hno : ¬ ∃ b ∈ xs.drop (xs.length - (2 - pad)), startBit b = true := by
      rintro ⟨b, hmem, hb⟩
      rw [hquiet b (List.mem_of_mem_drop hmem)] at hb
      cases hb
    rw [foldl_strayNext_quiet pad hquiet, List.drop_eq_nil_iff, or_iff_right hno,
      and_iff_right hquiet, not_lt]
  · have hno : ¬ ∀ b ∈ ys ++ x :: bs, startBit b = false := fun hall =>
      absurd (hx.symm.trans (hall x (List.mem_append_right _ List.mem_cons_self))) (by decide)
    rw [foldl_strayNext_start pad ys hx hbs, List.drop_eq_nil_iff, exists_start_drop_iff ys hx hbs,
      or_iff_left (fun h => hno h.1)]
    have hfour : (refusal (seqBits x)).length = 4 := rfl
    rw [hfour]
    interval_cases pad <;> omega

/-! ## What the polls find -/

/-- What the polls find is not zero, wherever the request has got to in the bytes `p`. -/
def Audible (width : ℕ) (p : List UInt8) : Prop :=
  ∀ k, p.drop (2 * k) ≠ [] → firstControl width maxRetries (p.drop (2 * k)) ≠ 0

theorem firstControl_nil (width polls : ℕ) : firstControl width polls [] = 0 := by
  induction polls with
  | zero => rfl
  | succ polls ih => simp [firstControl, ih]

theorem firstControl_head (width polls : ℕ) {p : List UInt8} (h : p.headD 0 ≠ 0) :
    firstControl width (polls + 1) p = p.headD 0 := by
  rw [firstControl, if_pos h]

/-- An error has no zero byte. -/
theorem audible_of_ne_zero (width : ℕ) {p : List UInt8} (h : ∀ b ∈ p, b ≠ 0) : Audible width p := by
  intro k hne
  have hmem : ∀ b ∈ p.drop (2 * k), b ≠ 0 := fun b hb => h b (List.mem_of_mem_drop hb)
  cases hp : p.drop (2 * k) with
  | nil => exact absurd hp hne
  | cons b q =>
    rw [hp] at hmem
    have hb : b ≠ 0 := hmem b List.mem_cons_self
    rw [maxRetries, firstControl_head width 49 (p := b :: q) hb]
    exact hb

theorem refusal_ne_zero (seq : UInt8) : ∀ b ∈ refusal seq, b ≠ 0 := by
  have hlast : ∀ s, ctrlByte false true s ≠ 0 := by decide +kernel
  intro b hb
  simp only [refusal, List.mem_cons, List.not_mem_nil, or_false] at hb
  rcases hb with rfl | rfl | rfl | rfl
  · exact (ctrlByte_start_ne_zero _ _).1
  · decide
  · exact hlast _
  · decide

/-- **The polls find what is left.** -/
theorem firstControl_foldl_eq_zero_iff {pad : ℕ} (hpad : pad ≤ 1) (xs : List UInt8)
    {p : List UInt8} (hp : Audible (pad + 1) p) :
    firstControl (pad + 1) maxRetries (xs.foldl (strayNext pad) p) = 0 ↔
      ¬ Leaves pad p.length xs := by
  rw [← foldl_strayNext_eq_nil_iff hpad]
  constructor
  · intro hzero
    by_contra hne
    rcases exists_last_start xs with hquiet | ⟨ys, x, bs, rfl, hx, hbs⟩
    · rw [foldl_strayNext_quiet pad hquiet, mul_assoc] at hzero hne
      exact hp _ hne hzero
    · rw [foldl_strayNext_start pad ys hx hbs] at hzero hne
      have hmem : ∀ b ∈ (refusal (seqBits x)).drop (pad + 2 * (pad + 1) * bs.length), b ≠ 0 :=
        fun b hb => refusal_ne_zero _ b (List.mem_of_mem_drop hb)
      exact audible_of_ne_zero (pad + 1) hmem 0 hne hzero
  · intro hnil
    rw [hnil, firstControl_nil]

/-! ## Fresh responses -/

theorem markLast_drop (k : ℕ) (data : List UInt8) :
    (markLast data).drop k = markLast (data.drop k) := by
  induction k generalizing data with
  | zero => rfl
  | succ k ih =>
    cases data with
    | nil => rfl
    | cons b data => exact ih data

theorem segments_drop (k : ℕ) (seq : UInt8) (segs : List (Bool × UInt8)) :
    ∃ seq', (segments false seq segs).drop (2 * k) = segments false seq' (segs.drop k) := by
  induction k generalizing seq segs with
  | zero => exact ⟨seq, rfl⟩
  | succ k ih =>
    cases segs with
    | nil => exact ⟨seq, rfl⟩
    | cons seg segs => exact ih (nextSeq seq) segs

/-- What is left of a response after whole segments. -/
theorem prepared_pending {c : IsduCtx} {n : ℕ} (h : Prepared c n) (hn : n ≤ 255) :
    Emits c ∧ (pending c).length = max 1 (2 * n) ∧ (pending c).headD 0 ≠ 0 ∧
      ∀ k, ∃ seq data, (pending c).drop (2 * (k + 1)) = segments false seq (markLast data) := by
  obtain ⟨hs, hi, hctrl, rfl⟩ := h
  have hpend : pending c = responseControl c :: pendingData c := by simp [pending, hs, hctrl]
  have hne : responseControl c ≠ 0 := by
    rw [responseControl_first hi]
    exact (ctrlByte_start_ne_zero _ _).1
  have hem : Emits c := .inr ⟨hs, hn, by omega⟩
  rw [hpend]
  by_cases hz : c.responseLen = 0
  · rw [pendingData_of_le (by omega), hz]
    exact ⟨hem, rfl, hne, fun k => ⟨0, [], rfl⟩⟩
  · rw [pendingData_of_lt (by omega)]
    generalize hdata : slice c.responseBuf _ _ = data
    have hlen : data.length = c.responseLen - 1 := by rw [← hdata, length_slice, hi]
    refine ⟨hem, ?_, hne, fun k => ?_⟩
    · rw [List.length_cons, List.length_cons, length_segments, ← List.length_map (f := Prod.snd),
        map_snd_markLast, hlen]
      omega
    · obtain ⟨seq, hdrop⟩ := segments_drop k (nextSeq c.segmentSeq) (markLast data)
      rw [markLast_drop] at hdrop
      exact ⟨seq, data.drop k, hdrop⟩

/-- A control byte that is zero is not the last one. -/
theorem firstControl_segments {pad : ℕ} (hpad : pad ≤ 1) (polls : ℕ) (seq : UInt8)
    {data : List UInt8} (hne : data ≠ []) :
    firstControl (pad + 1) (polls + 3) (segments false seq (markLast data)) ≠ 0 := by
  have hlast : ∀ s, ctrlByte false true s ≠ 0 := by decide +kernel
  have hnext : ∀ last s, ctrlByte false false s = 0 → ctrlByte false last (nextSeq s) ≠ 0 := by
    decide +kernel
  match data, hne with
  | [b], _ =>
    rw [show markLast [b] = [(true, b)] from rfl, segments_cons, firstControl_head _ (polls + 2)]
    · exact hlast seq
    · exact hlast seq
  | b :: b' :: data, _ =>
    rw [show markLast (b :: b' :: data) =
        (false, b) :: (data.isEmpty, b') :: markLast data from rfl,
      segments_cons, segments_cons]
    by_cases hzero : ctrlByte false false seq = 0
    · have hc := hnext data.isEmpty seq hzero
      interval_cases pad
      · by_cases hb : b = 0
        · simp [firstControl, hzero, hb, hc]
        · simp [firstControl, hzero, hb]
      · simp [firstControl, hzero, hc]
    · simp [firstControl, hzero]

theorem audible_prepared {pad : ℕ} (hpad : pad ≤ 1) {c : IsduCtx} {n : ℕ} (h : Prepared c n)
    (hn : n ≤ 255) : Audible (pad + 1) (pending c) := by
  obtain ⟨-, -, hhead, hdrop⟩ := prepared_pending h hn
  intro k hne
  cases k with
  | zero =>
    rw [mul_zero, List.drop_zero, maxRetries, firstControl_head _ 49 hhead]
    exact hhead
  | succ k =>
    obtain ⟨seq, data, heq⟩ := hdrop k
    rw [heq] at hne ⊢
    have hdata : data ≠ [] := by
      rintro rfl
      exact hne rfl
    exact firstControl_segments hpad 47 seq hdata

/-- Behind the first segment no control byte has the START bit. -/
theorem startBit_firstControl_segments (polls : ℕ) (seq : UInt8) (segs : List (Bool × UInt8)) :
    startBit (firstControl 2 polls (segments false seq segs)) = false := by
  have hzero : startBit 0 = false := by decide
  induction polls generalizing seq segs with
  | zero => exact hzero
  | succ polls ih =>
    cases segs with
    | nil =>
      rw [segments_nil, firstControl_nil]
      exact hzero
    | cons seg segs =>
      obtain ⟨last, b⟩ := seg
      rw [segments_cons, firstControl]
      split_ifs
      · exact startBit_ctrlByte false last seq
      · exact ih (nextSeq seq) segs

end Iolinki
