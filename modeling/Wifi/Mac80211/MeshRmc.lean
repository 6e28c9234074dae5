import Wifi.Lib.Memo
import Wifi.Linux.Ieee80211
import Wifi.Linux.KernelApi

/-!
# The recent multicast cache of a mesh interface (`linux/net/mac80211/mesh.c`, `mesh.h`)

* `bucketLoop` — the pass over a bucket, `meshRmcCheck` — `mesh_rmc_check`.
* `bucketLoop_dup`, `bucketLoop_rest` — what the pass finds and leaves: the first three entries that have not expired.
* `Right` — what should hold of a call; `RunRight` — of every call of a run, and of frames that are accepted twice.
* `runRight_iff` — it does, unless a frame is looked for that only the fourth entry holds.
-/

namespace Mac80211.Rmc

def RMC_QUEUE_MAX_LEN : Nat := 4

/-- `RMC_BUCKETS - 1` -/
def RMC_IDX_MASK : BitVec 32 := 255

/-- **`struct rmc_entry`** -/
structure RmcEntry where
  expTime : BitVec 64
  /-- as it is in the mesh header -/
  seqnum : BitVec 32
  sa : EthAddr
  deriving DecidableEq

/-- **`struct mesh_rmc`**; a bucket has the latest entry first. -/
structure MeshRmc where
  bucket : BitVec 8 → List RmcEntry
  idxMask : BitVec 32

def meshRmcInit : MeshRmc where
  bucket _ := []
  idxMask := RMC_IDX_MASK

/-- What `mesh_rmc_check` is called for, and when. -/
structure Call where
  jiffies : BitVec 64
  sa : EthAddr
  seqnum : BitVec 32
  deriving DecidableEq

/-- The header functions, and `le32_to_cpu`. -/
structure RmcApi extends KernelApi where
  le32ToCpu : BitVec 32 → BitVec 32

variable (k : RmcApi)

/-- `time_after(jiffies, p->exp_time)` -/
def expired (c : Call) (p : RmcEntry) : Bool := k.timeAfter c.jiffies p.expTime

/-- `(seqnum == p->seqnum) && ether_addr_equal(sa, p->sa)` -/
def matching (c : Call) (p : RmcEntry) : Bool := c.seqnum = p.seqnum ∧ c.sa = p.sa

/-- **`hlist_for_each_entry_safe`**: whether it returns, and the list that is left. -/
def bucketLoop (c : Call) : Nat → List RmcEntry → Bool × List RmcEntry
  | _, [] => (false, [])
  | entries, p :: rest =>
    if expired k c p ∨ entries + 1 = RMC_QUEUE_MAX_LEN then bucketLoop c entries rest
    else if matching c p then (true, p :: rest)
    else ((bucketLoop c (entries + 1) rest).1, p :: (bucketLoop c (entries + 1) rest).2)

/-- `le32_to_cpu(mesh_hdr->seqnum) & rmc->idx_mask`, in a `u8` -/
def MeshRmc.idx (rmc : MeshRmc) (seqnum : BitVec 32) : BitVec 8 := (k.le32ToCpu seqnum &&& rmc.idxMask).setWidth 8

def Call.entry (c : Call) : RmcEntry where
  expTime := c.jiffies + BitVec.ofNat 64 (3 * k.hz)
  seqnum := c.seqnum
  sa := c.sa

def MeshRmc.setBucket (rmc : MeshRmc) (idx : BitVec 8) (l : List RmcEntry) : MeshRmc :=
  { rmc with bucket := Function.update rmc.bucket idx l }

/-- **`mesh_rmc_check`**: `-1` for a frame that is in the cache. -/
def meshRmcCheck (rmc : MeshRmc) (c : Call) (alloc : Bool) : Int × MeshRmc :=
  let idx := rmc.idx k c.seqnum
  let r := bucketLoop k c 0 (rmc.bucket idx)
  if r.1 then (-1, rmc.setBucket idx r.2)
  else if alloc then (0, rmc.setBucket idx (c.entry k :: r.2))
  else (0, rmc.setBucket idx r.2)

def step (rmc : MeshRmc) (c : Call) : MeshRmc := (meshRmcCheck k rmc c true).2

def Accepts (rmc : MeshRmc) (c : Call) : Prop := (meshRmcCheck k rmc c true).1 = 0

instance (rmc : MeshRmc) (c : Call) : Decidable (Accepts k rmc c) := inferInstanceAs (Decidable (_ = _))

/-- The bucket of a frame; all caches have the same mask. -/
def Call.idx (c : Call) : BitVec 8 := (k.le32ToCpu c.seqnum &&& RMC_IDX_MASK).setWidth 8

/-! ## What should hold -/

def Apart (p q : RmcEntry) : Prop := ¬ (p.seqnum = q.seqnum ∧ p.sa = q.sa)

/-- **A cache and a call.** -/
structure Right (rmc : MeshRmc) (c : Call) : Prop where
  bounded : ∀ idx, (rmc.bucket idx).length ≤ RMC_QUEUE_MAX_LEN
  apart : ∀ idx, (rmc.bucket idx).Pairwise Apart
  duplicate : (∃ p ∈ rmc.bucket (rmc.idx k c.seqnum), matching c p = true ∧ expired k c p = false) →
    (meshRmcCheck k rmc c true).1 = -1

/-- The frames of a bucket that are accepted in a run. -/
def accepted (idx : BitVec 8) : MeshRmc → List Call → Nat
  | _, [] => 0
  | rmc, c :: cs => (if c.idx k = idx ∧ Accepts k rmc c then 1 else 0) + accepted idx (step k rmc c) cs

/-- **A run from a new cache.** -/
structure RunRight (calls : List Call) : Prop where
  right : ∀ x ∈ Memo.trace (step k) meshRmcInit calls, Right k x.1 x.2
  /-- A frame is accepted twice only if its entry was seen to have expired, or a full bucket of others was accepted since. -/
  twice : ∀ before c between c' after, calls = before ++ c :: between ++ c' :: after → c'.sa = c.sa → c'.seqnum = c.seqnum →
    Accepts k (before.foldl (step k) meshRmcInit) c → Accepts k ((before ++ c :: between).foldl (step k) meshRmcInit) c' →
      (∃ d ∈ between ++ [c'], d.idx k = c.idx k ∧ expired k d (c.entry k) = true) ∨
        RMC_QUEUE_MAX_LEN ≤ accepted k (c.idx k) (step k (before.foldl (step k) meshRmcInit) c) between

/-- No entry behind three others that have not expired holds the frame. -/
def NotBehindThree (rmc : MeshRmc) (c : Call) : Prop :=
  ∀ p ∈ ((rmc.bucket (rmc.idx k c.seqnum)).filter fun p => !expired k c p).drop (RMC_QUEUE_MAX_LEN - 1), matching c p = false

/-! ## The pass over a bucket -/

variable {k} {c : Call} {entries : Nat} {l : List RmcEntry}

theorem bucketLoop_sublist (c : Call) (l : List RmcEntry) : ∀ entries, (bucketLoop k c entries l).2.Sublist l := by
  induction l with
  | nil => exact fun _ => .slnil
  | cons p rest ih =>
    intro entries
    unfold bucketLoop
    split_ifs
    · exact (ih entries).cons p
    · exact List.Sublist.refl _
    · exact (ih (entries + 1)).cons_cons p

/-- A frame is found exactly among the first three entries that have not expired. -/
theorem bucketLoop_dup (c : Call) (l : List RmcEntry) : ∀ entries, entries < RMC_QUEUE_MAX_LEN →
    ((bucketLoop k c entries l).1 = true ↔
      ∃ p ∈ (l.filter fun p => !expired k c p).take (RMC_QUEUE_MAX_LEN - 1 - entries), matching c p = true) := by
  unfold RMC_QUEUE_MAX_LEN
  induction l with
  | nil =>
    intro entries _
    simp [bucketLoop]
  | cons p rest ih =>
    intro entries hlt
    unfold bucketLoop RMC_QUEUE_MAX_LEN
    by_cases hexp : expired k c p = true
    · rw [if_pos (.inl hexp), List.filter_cons_of_neg (by simp [hexp])]
      exact ih entries hlt
    · rw [List.filter_cons_of_pos (by simp [hexp])]
      by_cases hfull : entries + 1 = 4
      · -- the fourth one is deleted, and so are all behind it
        obtain rfl : entries = 3 := by omega
        rw [if_pos (.inr rfl), ih 3 (by decide)]
        simp
      · rw [if_neg (not_or.mpr ⟨hexp, hfull⟩), show 4 - 1 - entries = (4 - 1 - (entries + 1)) + 1 by omega, List.take_succ_cons]
        by_cases hmatch : matching c p = true
        · rw [if_pos hmatch]
          simp [hmatch]
        · rw [if_neg hmatch]
          simp [hmatch, ih (entries + 1) (by omega)]

theorem bucketLoop_rest (c : Call) (l : List RmcEntry) : ∀ entries, entries < RMC_QUEUE_MAX_LEN →
    (bucketLoop k c entries l).1 = false →
      (bucketLoop k c entries l).2 = (l.filter fun p => !expired k c p).take (RMC_QUEUE_MAX_LEN - 1 - entries) := by
  unfold RMC_QUEUE_MAX_LEN
  induction l with
  | nil =>
    intro entries _ _
    simp [bucketLoop]
  | cons p rest ih =>
    intro entries hlt
    unfold bucketLoop RMC_QUEUE_MAX_LEN
    by_cases hexp : expired k c p = true
    · rw [if_pos (.inl hexp), List.filter_cons_of_neg (by simp [hexp])]
      exact ih entries hlt
    · rw [List.filter_cons_of_pos (by simp [hexp])]
      by_cases hfull : entries + 1 = 4
      · obtain rfl : entries = 3 := by omega
        rw [if_pos (.inr rfl)]
        intro hdup
        rw [ih 3 (by decide) hdup]
        simp
      · rw [if_neg (not_or.mpr ⟨hexp, hfull⟩), show 4 - 1 - entries = (4 - 1 - (entries + 1)) + 1 by omega, List.take_succ_cons]
        by_cases hmatch : matching c p = true
        · rw [if_pos hmatch]
          exact nofun
        · rw [if_neg hmatch]
          intro hdup
          exact congrArg (p :: ·) (ih (entries + 1) (by omega) hdup)

/-- An entry that has not expired stays, no further behind; or it is deleted, behind three others. -/
theorem bucketLoop_keeps {e : RmcEntry} (hlive : expired k c e = false) (post pre : List RmcEntry) :
    ∀ entries, entries < RMC_QUEUE_MAX_LEN →
      (∃ pre' post', (bucketLoop k c entries (pre ++ e :: post)).2 = pre' ++ e :: post' ∧ pre'.length ≤ pre.length) ∨
        (bucketLoop k c entries (pre ++ e :: post)).1 = false ∧ RMC_QUEUE_MAX_LEN ≤ entries + pre.length + 1 := by
  unfold RMC_QUEUE_MAX_LEN
  induction pre with
  | nil =>
    intro entries hlt
    rw [List.nil_append]
    unfold bucketLoop RMC_QUEUE_MAX_LEN
    by_cases hfull : entries + 1 = 4
    · obtain rfl : entries = 3 := by omega
      right
      rw [if_pos (.inr rfl)]
      refine ⟨?_, by simp⟩
      rw [Bool.eq_false_iff, ne_eq, bucketLoop_dup c post 3 (by decide)]
      simp [RMC_QUEUE_MAX_LEN]
    · left
      rw [if_neg (by simp [hlive, hfull])]
      by_cases hmatch : matching c e = true
      · rw [if_pos hmatch]
        exact ⟨[], post, rfl, Nat.le_refl _⟩
      · rw [if_neg hmatch]
        exact ⟨[], _, rfl, Nat.le_refl _⟩
  | cons p pre ih =>
    intro entries hlt
    rw [List.cons_append]
    unfold bucketLoop RMC_QUEUE_MAX_LEN
    by_cases hdel : expired k c p = true ∨ entries + 1 = 4
    · rw [if_pos hdel]
      rcases ih entries hlt with ⟨pre', post', heq, hle⟩ | ⟨hdup, hle⟩
      · exact .inl ⟨pre', post', heq, Nat.le_succ_of_le hle⟩
      · exact .inr ⟨hdup, Nat.le_succ_of_le hle⟩
    · rw [if_neg hdel]
      by_cases hmatch : matching c p = true
      · rw [if_pos hmatch]
        exact .inl ⟨p :: pre, post, rfl, Nat.le_refl _⟩
      · rw [if_neg hmatch]
        rcases ih (entries + 1) (by omega) with ⟨pre', post', heq, hle⟩ | ⟨hdup, hle⟩
        · exact .inl ⟨p :: pre', post', congrArg (p :: ·) heq, Nat.succ_le_succ hle⟩
        · refine .inr ⟨hdup, ?_⟩
          rw [List.length_cons]
          omega

/-! ## Calls -/

structure Inv (rmc : MeshRmc) : Prop where
  mask : rmc.idxMask = RMC_IDX_MASK
  bounded : ∀ idx, (rmc.bucket idx).length ≤ RMC_QUEUE_MAX_LEN
  apart : ∀ idx, (rmc.bucket idx).Pairwise Apart

theorem inv_init : Inv meshRmcInit := ⟨rfl, fun _ => Nat.zero_le _, fun _ => .nil⟩

def MeshRmc.pass (k : RmcApi) (rmc : MeshRmc) (c : Call) : Bool × List RmcEntry := bucketLoop k c 0 (rmc.bucket (rmc.idx k c.seqnum))

variable {rmc : MeshRmc}

theorem accepts_iff : Accepts k rmc c ↔ (rmc.pass k c).1 = false := by
  unfold Accepts meshRmcCheck MeshRmc.pass
  dsimp only
  cases (bucketLoop k c 0 (rmc.bucket (rmc.idx k c.seqnum))).1 <;> simp

theorem duplicate_iff : (meshRmcCheck k rmc c true).1 = -1 ↔ (rmc.pass k c).1 = true := by
  unfold meshRmcCheck MeshRmc.pass
  dsimp only
  cases (bucketLoop k c 0 (rmc.bucket (rmc.idx k c.seqnum))).1 <;> simp

theorem step_bucket (idx : BitVec 8) : (step k rmc c).bucket idx =
    if idx = rmc.idx k c.seqnum then
      if (rmc.pass k c).1 then (rmc.pass k c).2 else c.entry k :: (rmc.pass k c).2
    else rmc.bucket idx := by
  unfold step meshRmcCheck MeshRmc.pass MeshRmc.setBucket
  dsimp only
  cases (bucketLoop k c 0 (rmc.bucket (rmc.idx k c.seqnum))).1 <;> exact Function.update_apply _ _ _ _

theorem step_mask : (step k rmc c).idxMask = rmc.idxMask := by
  unfold step meshRmcCheck MeshRmc.setBucket
  dsimp only
  cases (bucketLoop k c 0 (rmc.bucket (rmc.idx k c.seqnum))).1 <;> rfl

/-- **A call keeps the buckets short, and the frames apart.** -/
theorem Inv.step (h : Inv rmc) (c : Call) : Inv (step k rmc c) := by
  have hsub : (rmc.pass k c).2.Sublist (rmc.bucket (rmc.idx k c.seqnum)) := bucketLoop_sublist c _ 0
  have hrest : (rmc.pass k c).1 = false → _ := bucketLoop_rest c (rmc.bucket (rmc.idx k c.seqnum)) 0 (by decide)
  refine ⟨step_mask.trans h.mask, fun idx => ?_, fun idx => ?_⟩
  · rw [step_bucket]
    split_ifs with hidx hdup
    · exact Nat.le_trans hsub.length_le (h.bounded _)
    · have hlen := congrArg List.length (hrest (Bool.not_eq_true _ ▸ hdup))
      rw [List.length_take] at hlen
      rw [List.length_cons]
      unfold RMC_QUEUE_MAX_LEN at *
      unfold MeshRmc.pass
      omega
    · exact h.bounded idx
  · rw [step_bucket]
    split_ifs with hidx hdup
    · exact (h.apart _).sublist hsub
    · refine List.pairwise_cons.mpr ⟨fun p hp hsame => hdup ?_, (h.apart _).sublist hsub⟩
      -- the pass has looked at all that are left
      unfold MeshRmc.pass at hp
      rw [hrest (Bool.not_eq_true _ ▸ hdup)] at hp
      refine (bucketLoop_dup c _ 0 (by decide)).mpr ⟨p, hp, ?_⟩
      unfold matching
      exact decide_eq_true hsame
    · exact h.apart idx

/-- **A call is right exactly** when no entry behind three others that have not expired holds the frame. -/
theorem right_iff (h : Inv rmc) (c : Call) : Right k rmc c ↔ NotBehindThree k rmc c := by
  have hdup := bucketLoop_dup (k := k) c (rmc.bucket (rmc.idx k c.seqnum)) 0 (by decide)
  have hapart := (h.apart (rmc.idx k c.seqnum)).sublist (List.filter_sublist (p := fun p => !expired k c p))
  rw [← List.take_append_drop (RMC_QUEUE_MAX_LEN - 1) (List.filter _ _)] at hapart
  constructor
  · intro hright p hp
    by_contra hmatch
    rw [Bool.not_eq_false] at hmatch
    have hlive := List.mem_filter.mp (List.mem_of_mem_drop hp)
    have hfound := hright.duplicate ⟨p, hlive.1, hmatch, by simpa using hlive.2⟩
    -- the pass finds another entry, of the same frame
    obtain ⟨q, hq, hmatch'⟩ := hdup.mp (duplicate_iff.mp hfound)
    have hpq := (List.pairwise_append.mp hapart).2.2 q hq p hp
    unfold matching at hmatch hmatch'
    have h1 := of_decide_eq_true hmatch
    have h2 := of_decide_eq_true hmatch'
    exact hpq ⟨h2.1.symm.trans h1.1, h2.2.symm.trans h1.2⟩
  · refine fun hnot => ⟨h.bounded, h.apart, ?_⟩
    rintro ⟨p, hp, hmatch, hlive⟩
    have hmem : p ∈ (rmc.bucket (rmc.idx k c.seqnum)).filter fun p => !expired k c p := by
      rw [List.mem_filter]
      exact ⟨hp, by simp [hlive]⟩
    rw [← List.take_append_drop (RMC_QUEUE_MAX_LEN - 1) (List.filter _ _), List.mem_append] at hmem
    refine duplicate_iff.mpr (hdup.mpr ?_)
    rcases hmem with htake | hdrop
    · exact ⟨p, htake, hmatch⟩
    · rw [hnot p hdrop] at hmatch
      cases hmatch

/-! ## Runs -/

/-- An entry that has not expired is `n` places behind the first one, at most. -/
def At (rmc : MeshRmc) (idx : BitVec 8) (e : RmcEntry) (n : Nat) : Prop :=
  ∃ pre post, rmc.bucket idx = pre ++ e :: post ∧ pre.length ≤ n

theorem idx_eq (h : Inv rmc) : rmc.idx k c.seqnum = c.idx k := by
  unfold MeshRmc.idx Call.idx
  rw [h.mask]

/-- **An entry over a run**: it is still there, behind frames that were accepted since; or it was seen to have expired; or a full bucket of
others was accepted. -/
theorem run_at {idx : BitVec 8} {e : RmcEntry} (cs : List Call) : ∀ rmc n, Inv rmc → At rmc idx e n →
    (∃ d ∈ cs, d.idx k = idx ∧ expired k d e = true) ∨ RMC_QUEUE_MAX_LEN ≤ n + accepted k idx rmc cs ∨
      At (cs.foldl (step k) rmc) idx e (n + accepted k idx rmc cs) := by
  induction cs with
  | nil => exact fun rmc n _ hat => .inr (.inr hat)
  | cons c cs ih =>
    intro rmc n hinv hat
    have hnext := ih (step k rmc c)
    unfold accepted
    rw [List.foldl_cons]
    by_cases hidx : c.idx k = idx
    · by_cases hexp : expired k c e = true
      · exact .inl ⟨c, List.mem_cons_self, hidx, hexp⟩
      · obtain ⟨pre, post, hbucket, hle⟩ := hat
        have hkeeps := bucketLoop_keeps (k := k) (c := c) (Bool.eq_false_iff.mpr hexp) post pre 0 (by decide)
        have hpass : rmc.pass k c = bucketLoop k c 0 (pre ++ e :: post) := by
          unfold MeshRmc.pass
          rw [idx_eq hinv, hidx, hbucket]
        have hstep : (step k rmc c).bucket idx = _ := step_bucket idx
        rw [if_pos ((idx_eq hinv).trans hidx).symm] at hstep
        rw [← hpass] at hkeeps
        rcases hkeeps with ⟨pre', post', hrest, hle'⟩ | ⟨hdup, hfull⟩
        · rw [hrest] at hstep
          by_cases hacc : (rmc.pass k c).1 = true
          · rw [if_pos hacc] at hstep
            have hnot : ¬ Accepts k rmc c := by
              rw [accepts_iff, hacc]
              exact Bool.noConfusion
            rw [if_neg (fun h => hnot h.2), Nat.zero_add]
            rcases hnext n (hinv.step c) ⟨pre', post', hstep, Nat.le_trans hle' hle⟩ with ⟨d, hd, h⟩ | h
            · exact .inl ⟨d, List.mem_cons_of_mem c hd, h⟩
            · exact .inr h
          · rw [if_neg hacc] at hstep
            have hyes : Accepts k rmc c := accepts_iff.mpr (Bool.not_eq_true _ ▸ hacc)
            rw [if_pos ⟨hidx, hyes⟩, ← Nat.add_assoc]
            rcases hnext (n + 1) (hinv.step c) ⟨c.entry k :: pre', post', hstep, by rw [List.length_cons]; omega⟩ with ⟨d, hd, h⟩ | h
            · exact .inl ⟨d, List.mem_cons_of_mem c hd, h⟩
            · exact .inr h
        · right
          left
          rw [if_pos ⟨hidx, accepts_iff.mpr hdup⟩]
          omega
    · rw [if_neg (fun h => hidx h.1), Nat.zero_add]
      have hat' : At (step k rmc c) idx e n := by
        unfold At
        rw [step_bucket, if_neg (fun h => hidx ((idx_eq hinv).symm.trans h.symm))]
        exact hat
      rcases hnext n (hinv.step c) hat' with ⟨d, hd, h⟩ | h
      · exact .inl ⟨d, List.mem_cons_of_mem c hd, h⟩
      · exact .inr h

theorem inv_foldl (cs : List Call) : ∀ rmc, Inv rmc → Inv (cs.foldl (step k) rmc) := by
  induction cs with
  | nil => exact fun _ h => h
  | cons c cs ih => exact fun rmc h => ih _ (h.step c)

/-- **A run is right exactly** when no frame is looked for that only an entry behind three others, that have not expired, holds. -/
theorem runRight_iff (k : RmcApi) (calls : List Call) :
    RunRight k calls ↔ ∀ x ∈ Memo.trace (step k) meshRmcInit calls, NotBehindThree k x.1 x.2 := by
  have hstep : ∀ rmc c, Inv rmc → Inv (step k rmc c) := fun _ c h => h.step c
  have hcongr := Memo.trace_congr hstep (fun _ c h => right_iff (k := k) h c) calls meshRmcInit inv_init
  constructor
  · exact fun h => hcongr.mp h.right
  · refine fun h => ⟨hcongr.mpr h, ?_⟩
    rintro before c between c' after rfl hsa hseq hacc hacc'
    have hinv := inv_foldl (k := k) before meshRmcInit inv_init
    have hat : At (step k (before.foldl (step k) meshRmcInit) c) (c.idx k) (c.entry k) 0 := by
      refine ⟨[], ((before.foldl (step k) meshRmcInit).pass k c).2, ?_, Nat.le_refl 0⟩
      rw [step_bucket, if_pos (idx_eq hinv).symm, if_neg (by rw [accepts_iff.mp hacc]; exact Bool.noConfusion)]
      rfl
    have hrun := run_at (k := k) between _ 0 (hinv.step c) hat
    rw [Nat.zero_add] at hrun
    rcases hrun with ⟨d, hd, hexp⟩ | hfull | ⟨pre, post, hbucket, -⟩
    · exact .inl ⟨d, List.mem_append_left _ hd, hexp⟩
    · exact .inr hfull
    · -- the entry is still there: it has expired
      rw [← List.foldl_cons (f := step k), ← List.foldl_append] at hbucket
      have hinv' := inv_foldl (k := k) (before ++ c :: between) meshRmcInit inv_init
      refine .inl ⟨c', List.mem_append_right _ List.mem_cons_self, ?_, ?_⟩
      · unfold Call.idx
        rw [hseq]
      · by_contra hlive
        have hidx : c'.idx k = c.idx k := by
          unfold Call.idx
          rw [hseq]
        have hright := (right_iff hinv' c').mpr (h _ (Memo.mem_trace (before ++ c :: between) c' after meshRmcInit))
        have hdup := hright.duplicate ⟨c.entry k, ?_, decide_eq_true ⟨hseq, hsa⟩, Bool.eq_false_iff.mpr hlive⟩
        · rw [duplicate_iff, accepts_iff.mp hacc'] at hdup
          cases hdup
        · rw [idx_eq hinv', hidx, hbucket]
          exact List.mem_append_right _ List.mem_cons_self

/-- The definitions of the kernel headers, on a little-endian machine. -/
def RmcApi.linux : RmcApi := { KernelApi.linux with le32ToCpu := id }

/-- Four frames of one bucket, from four stations. -/
def fourFrames : List Call := [⟨0, 1, 7⟩, ⟨0, 2, 7⟩, ⟨0, 3, 7⟩, ⟨0, 4, 7⟩]

/-- The first one again, at the same time: it is accepted twice. -/
theorem fourth_accepted_twice :
    Accepts .linux meshRmcInit ⟨0, 1, 7⟩ ∧ Accepts .linux (fourFrames.foldl (step .linux) meshRmcInit) ⟨0, 1, 7⟩ ∧
      ¬ RunRight .linux (fourFrames ++ [⟨0, 1, 7⟩]) := by
  refine ⟨by decide, by decide, fun h => ?_⟩
  have hright := h.right _ (Memo.mem_trace fourFrames ⟨0, 1, 7⟩ [] meshRmcInit)
  exact absurd (hright.duplicate (by decide)) (by decide)

end Mac80211.Rmc
