import Mathlib
import Wifi.Net80211.Mesh.Elements

/-!
# Path selection elements, one at a time

* `carried` — what of an element is on the wire: an external address only with its flag.
* `preqSz`, `perrSz` — what the fields of an element take.
* `readPreq_stored`, `readPrep_stored`, `readPerr_stored` — the readers on what was written.
* `verifyMeshPreqLen_stored`, `verifyMeshPrepLen_stored`, `verifyMeshPerrLen_stored` — the length checks
  on what was written.
* `endsAt_readPreq`, `endsAt_readPrep`, `endsAt_readPerr` — how far the readers go on any memory.
-/

namespace Net80211.Mesh.Wire

open ReadLog Cursor

variable {m : Nat → BitVec 8} {t a : Nat}

/-! ## What is on the wire -/

/-- The external address of a PREQ is sent with its flag only. -/
def Preq.carried (preq : Preq) : Preq :=
  { preq with preqOrigExtAddr := if hasAE preq.preqFlags then preq.preqOrigExtAddr else 0 }

def prepCarried (prep : MeshprepIe) : MeshprepIe :=
  { prep with prepTargetExtAddr := if hasAE prep.prepFlags then prep.prepTargetExtAddr else 0 }

def destCarried (dest : MeshperrDest) : MeshperrDest :=
  { dest with destExtAddr := if hasAE dest.destFlags then dest.destExtAddr else 0 }

def perrCarried (perr : MeshperrIe) : MeshperrIe :=
  { perr with perrDests := perr.perrDests.map destCarried }

def carried : Ie → Ie
  | .preq len preq => .preq len preq.carried
  | .prep len prep => .prep len (prepCarried prep)
  | .perr len perr => .perr len (perrCarried perr)
  | .rann len rann => .rann len rann

/-- What the fields of a PREQ take, behind its length octet. -/
def preqSz (preq : Preq) : Nat :=
  (if hasAE preq.preqFlags then IEEE80211_MESHPREQ_BASE_SZ_AE else IEEE80211_MESHPREQ_BASE_SZ) +
    preq.preqTargets.length * IEEE80211_MESHPREQ_TRGT_SZ

/-- What the fields of a PERR take, behind its length octet. -/
def perrSz (perr : MeshperrIe) : Nat :=
  IEEE80211_MESHPERR_BASE_SZ + (perr.perrDests.map fun dest => destSz dest.destFlags).sum

theorem length_targetBytes (target : MeshpreqTarget) : (targetBytes target).length = 11 := rfl

theorem length_destBytes (dest : MeshperrDest) : (destBytes dest).length = destSz dest.destFlags := by
  unfold destBytes destSz
  cases hasAE dest.destFlags with
  | false => rfl
  | true => rfl

theorem length_targets (targets : List MeshpreqTarget) : (targets.flatMap targetBytes).length = targets.length * 11 := by
  induction targets with
  | nil => rfl
  | cons target targets ih =>
    rw [List.flatMap_cons, List.length_append, ih, length_targetBytes, List.length_cons]
    omega

theorem length_dests (dests : List MeshperrDest) :
    (dests.flatMap destBytes).length = (dests.map fun dest => destSz dest.destFlags).sum := by
  induction dests with
  | nil => rfl
  | cons dest dests ih =>
    rw [List.flatMap_cons, List.length_append, ih, length_destBytes, List.map_cons, List.sum_cons]

theorem length_hwmpAddMeshpreq (len : BitVec 8) (preq : Preq) : (hwmpAddMeshpreq len preq).length = 2 + preqSz preq := by
  unfold hwmpAddMeshpreq preqSz
  rw [List.length_append, length_targets]
  cases hasAE preq.preqFlags with
  | false =>
    simp [IEEE80211_MESHPREQ_BASE_SZ, IEEE80211_MESHPREQ_TRGT_SZ]
    omega
  | true =>
    simp [IEEE80211_MESHPREQ_BASE_SZ_AE, IEEE80211_MESHPREQ_TRGT_SZ]
    omega

theorem length_hwmpAddMeshprep (len : BitVec 8) (prep : MeshprepIe) :
    (hwmpAddMeshprep len prep).length =
      2 + if hasAE prep.prepFlags then IEEE80211_MESHPREP_BASE_SZ_AE else IEEE80211_MESHPREP_BASE_SZ := by
  unfold hwmpAddMeshprep
  cases hasAE prep.prepFlags with
  | false => rfl
  | true => rfl

theorem length_hwmpAddMeshperr (len : BitVec 8) (perr : MeshperrIe) : (hwmpAddMeshperr len perr).length = 2 + perrSz perr := by
  unfold hwmpAddMeshperr perrSz
  rw [List.length_append, length_dests]
  simp [IEEE80211_MESHPERR_BASE_SZ]
  omega

/-! ## The readers on what was written -/

theorem readTarget_stored {target : MeshpreqTarget} (h : Stored m t (targetBytes target)) :
    result (readTarget m) t = target ∧ endsAt (readTarget m) t = t + (targetBytes target).length := by
  simp only [targetBytes, stored_cons, stored_append, length_be48] at h
  obtain ⟨hflags, haddr, hseq⟩ := h
  refine ⟨?_, rfl⟩
  simp only [readTarget, result_bind, result_next8, endsAt_next8, endsAt_next48, result_pure, hflags,
    result_next48 haddr, result_nextLe32 hseq]

theorem readDest_stored {dest : MeshperrDest} (h : Stored m t (destBytes dest)) :
    result (readDest m) t = destCarried dest ∧ endsAt (readDest m) t = t + (destBytes dest).length := by
  simp only [destBytes, stored_cons, stored_append, length_be48, length_le32, List.length_append] at h
  obtain ⟨hflags, ⟨⟨haddr, hseq⟩, hext⟩, hrcode⟩ := h
  rw [length_destBytes]
  unfold readDest destCarried destSz
  cases hae : hasAE dest.destFlags with
  | false =>
    rw [hae] at hrcode
    have hend : result (nextLe16 m) (t + 1 + 6 + 4) = dest.destRcode := result_nextLe16 hrcode
    simp [hflags, hae, result_next48 haddr, result_nextLe32 hseq, hend, IEEE80211_MESHPERR_DEST_SZ]
  | true =>
    rw [hae] at hext hrcode
    have hmid : result (next48 m) (t + 1 + 6 + 4) = dest.destExtAddr := result_next48 hext
    have hend : result (nextLe16 m) (t + 1 + 6 + 4 + 6) = dest.destRcode := result_nextLe16 hrcode
    simp [hflags, hae, result_next48 haddr, result_nextLe32 hseq, hmid, hend, IEEE80211_MESHPERR_DEST_SZ_AE]

theorem readPreq_stored {len : BitVec 8} {preq : Preq} (hcount : preq.preqTargets.length < 256)
    (h : Stored m t (hwmpAddMeshpreq len preq)) : result (readPreq m) t = carried (.preq len preq) := by
  simp only [hwmpAddMeshpreq, stored_cons, stored_nil, stored_append, length_be48, length_le32, List.length_append,
    List.length_cons, List.length_nil, and_true, Nat.add_assoc, Nat.reduceAdd] at h
  obtain ⟨⟨⟨⟨⟨⟨⟨⟨⟨-, hlen, hflags, hhop, httl⟩, hid⟩, horig⟩, hseq⟩, hext⟩, hlife⟩, hmetric⟩, htcount⟩, htargets⟩ := h
  unfold readPreq carried Preq.carried
  cases hae : hasAE preq.preqFlags with
  | false =>
    simp only [hae, Bool.false_eq_true, if_false, List.length_nil, Nat.reduceAdd] at hlife hmetric htcount htargets
    have hread := (result_times (fun _ _ => readTarget_stored) _ _ htargets).1
    simp [hlen, hflags, hhop, httl, hae, Nat.add_assoc, result_nextLe32 hid, result_next48 horig, result_nextLe32 hseq,
      result_nextLe32 hlife, result_nextLe32 hmetric, htcount, Nat.mod_eq_of_lt hcount]
    rw [hread, List.map_id']
  | true =>
    simp only [hae, if_true, length_be48, Nat.reduceAdd] at hext hlife hmetric htcount htargets
    have hread := (result_times (fun _ _ => readTarget_stored) _ _ htargets).1
    simp [hlen, hflags, hhop, httl, hae, Nat.add_assoc, result_nextLe32 hid, result_next48 horig, result_nextLe32 hseq,
      result_next48 hext, result_nextLe32 hlife, result_nextLe32 hmetric, htcount, Nat.mod_eq_of_lt hcount]
    rw [hread, List.map_id']

theorem readPrep_stored {len : BitVec 8} {prep : MeshprepIe} (h : Stored m t (hwmpAddMeshprep len prep)) :
    result (readPrep m) t = carried (.prep len prep) := by
  simp only [hwmpAddMeshprep, stored_cons, stored_nil, stored_append, length_be48, length_le32, List.length_append,
    List.length_cons, List.length_nil, and_true] at h
  obtain ⟨⟨⟨⟨⟨⟨⟨⟨-, hlen, hflags, hhop, httl⟩, htarget⟩, hseq⟩, hext⟩, hlife⟩, hmetric⟩, horig⟩, horigseq⟩ := h
  unfold readPrep carried prepCarried
  cases hae : hasAE prep.prepFlags with
  | false =>
    rw [hae] at hlife hmetric horig horigseq
    simp [hlen, hflags, hhop, httl, hae, result_next48 htarget, result_nextLe32 hseq]
    exact ⟨result_nextLe32 hlife, result_nextLe32 hmetric, result_next48 horig, result_nextLe32 horigseq⟩
  | true =>
    rw [hae] at hext hlife hmetric horig horigseq
    simp [hlen, hflags, hhop, httl, hae, result_next48 htarget, result_nextLe32 hseq]
    exact ⟨result_next48 hext, result_nextLe32 hlife, result_nextLe32 hmetric, result_next48 horig,
      result_nextLe32 horigseq⟩

theorem readPerr_stored {len : BitVec 8} {perr : MeshperrIe} (hcount : perr.perrDests.length < 256)
    (h : Stored m t (hwmpAddMeshperr len perr)) : result (readPerr m) t = carried (.perr len perr) := by
  simp only [hwmpAddMeshperr, stored_cons, stored_nil, stored_append, List.length_cons, List.length_nil, and_true] at h
  obtain ⟨⟨-, hlen, httl, hndests⟩, hdests⟩ := h
  have hread := (result_times (fun _ _ => readDest_stored) _ _ hdests).1
  unfold readPerr carried perrCarried
  simp [hlen, httl, hndests]
  rw [Nat.mod_eq_of_lt hcount]
  exact hread

/-! ## The length checks on what was written -/

theorem verifyMeshPreqLen_stored {preq : Preq} (hfit : preqSz preq ≤ 255)
    (h : Stored m t (hwmpAddMeshpreq (BitVec.ofNat 8 (preqSz preq)) preq)) :
    (verifyMeshPreqLen m t).value = some preq.preqTargets.length := by
  simp only [hwmpAddMeshpreq, stored_cons, stored_nil, stored_append, length_be48, length_le32, List.length_append,
    List.length_cons, List.length_nil, and_true] at h
  obtain ⟨⟨⟨⟨⟨⟨⟨⟨⟨-, hlen, hflags, -, -⟩, -⟩, -⟩, -⟩, -⟩, -⟩, -⟩, htcount⟩, -⟩ := h
  have hcount : preq.preqTargets.length < 256 := by
    simp only [preqSz, IEEE80211_MESHPREQ_TRGT_SZ] at hfit
    omega
  have hsz : (BitVec.ofNat 8 (preqSz preq)).toNat = preqSz preq := by
    rw [BitVec.toNat_ofNat]
    omega
  have hnum : (BitVec.ofNat 8 preq.preqTargets.length).toNat = preq.preqTargets.length := by
    rw [BitVec.toNat_ofNat]
    omega
  have hcnt : m (t + if hasAE preq.preqFlags then IEEE80211_MESHPREQ_TCNT_OFFSET_AE else IEEE80211_MESHPREQ_TCNT_OFFSET) =
      BitVec.ofNat 8 preq.preqTargets.length := by
    cases hae : hasAE preq.preqFlags with
    | false =>
      rw [hae] at htcount
      exact htcount
    | true =>
      rw [hae] at htcount
      exact htcount
  have hflags' : m (t + 2) = preq.preqFlags := hflags
  simp only [verifyMeshPreqLen, value_bind, value_byte, value_pure, hflags', hcnt, hlen, hsz, hnum]
  rw [preqSz, if_neg (fun hne => hne rfl)]

theorem verifyMeshPrepLen_stored {prep : MeshprepIe}
    (h : Stored m t (hwmpAddMeshprep (BitVec.ofNat 8
      (if hasAE prep.prepFlags then IEEE80211_MESHPREP_BASE_SZ_AE else IEEE80211_MESHPREP_BASE_SZ)) prep)) :
    (verifyMeshPrepLen m t).value = some 1 := by
  simp only [hwmpAddMeshprep, List.append_assoc, stored_append, stored_cons] at h
  obtain ⟨⟨-, hlen, hflags, -⟩, -⟩ := h
  have hflags' : m (t + 2) = prep.prepFlags := hflags
  simp only [verifyMeshPrepLen, value_bind, value_byte, value_pure, hflags', hlen]
  cases hasAE prep.prepFlags with
  | false => rfl
  | true => rfl

/-- Where the flags of a destination of the PERR at `a` are looked at. -/
def destAt (m : Nat → BitVec 8) (a : Nat) : Nat → Nat
  | 0 => a
  | n + 1 => destAt m (a + destSz (m a)) n

theorem value_destLoop : ∀ (n t : Nat), (destLoop m n t).value = destAt m t n := by
  intro n
  induction n with
  | zero =>
    intro t
    rfl
  | succ n ih =>
    intro t
    simp only [destLoop, value_bind, value_byte, ih, destAt]

theorem destAt_stored : ∀ (dests : List MeshperrDest) (t : Nat), Stored m t (dests.flatMap destBytes) →
    destAt m t dests.length = t + (dests.flatMap destBytes).length := by
  intro dests
  induction dests with
  | nil =>
    intro t _
    rfl
  | cons dest dests ih =>
    intro t h
    rw [List.flatMap_cons, stored_append] at h
    have hflags : m t = dest.destFlags := h.1.1
    have hrest := ih (t + (destBytes dest).length) h.2
    rw [length_destBytes] at hrest
    rw [List.length_cons, destAt, hflags, hrest, List.flatMap_cons, List.length_append, length_destBytes]
    omega

theorem foldl_destSz (dests : List MeshperrDest) (n : Nat) :
    dests.foldl (fun length dest => length + BitVec.ofNat 8 (destSz dest.destFlags)) (BitVec.ofNat 8 n) =
      BitVec.ofNat 8 (n + (dests.map fun dest => destSz dest.destFlags).sum) := by
  induction dests generalizing n with
  | nil => rfl
  | cons dest dests ih =>
    rw [List.foldl_cons, ← BitVec.ofNat_add, ih, List.map_cons, List.sum_cons, Nat.add_assoc]

theorem hwmpSendPerr_eq (perr : MeshperrIe) : hwmpSendPerr perr = .perr (BitVec.ofNat 8 (perrSz perr)) perr := by
  rw [hwmpSendPerr, foldl_destSz, perrSz]

theorem length_le_perrSz (perr : MeshperrIe) : 13 * perr.perrDests.length ≤ perrSz perr := by
  have hsum : ∀ dests : List MeshperrDest, 13 * dests.length ≤ (dests.map fun dest => destSz dest.destFlags).sum := by
    intro dests
    induction dests with
    | nil => exact Nat.le_refl 0
    | cons dest dests ih =>
      have hsz : 13 ≤ destSz dest.destFlags := by
        unfold destSz IEEE80211_MESHPERR_DEST_SZ_AE IEEE80211_MESHPERR_DEST_SZ
        split <;> omega
      rw [List.length_cons, List.map_cons, List.sum_cons]
      omega
  have h := hsum perr.perrDests
  rw [perrSz]
  omega

theorem verifyMeshPerrLen_stored {perr : MeshperrIe} (hfit : perrSz perr ≤ 255)
    (h : Stored m t (hwmpAddMeshperr (BitVec.ofNat 8 (perrSz perr)) perr)) :
    (verifyMeshPerrLen m t).value = some perr.perrDests.length := by
  have hlong := length_le_perrSz perr
  simp only [hwmpAddMeshperr, stored_cons, stored_nil, stored_append, List.length_cons, List.length_nil, and_true] at h
  obtain ⟨⟨-, hlen, -, hndests⟩, hdests⟩ := h
  have hndests' : m (t + IEEE80211_MESHPERR_NDEST_OFFSET) = BitVec.ofNat 8 perr.perrDests.length := hndests
  have hnum : (BitVec.ofNat 8 perr.perrDests.length).toNat = perr.perrDests.length := by
    rw [BitVec.toNat_ofNat]
    omega
  have hsz : (BitVec.ofNat 8 (perrSz perr)).toNat = perrSz perr := by
    rw [BitVec.toNat_ofNat]
    omega
  have hwalk : destAt m (t + IEEE80211_MESHPERR_NDEST_OFFSET + 1) perr.perrDests.length = t + 2 + perrSz perr := by
    have hend := destAt_stored perr.perrDests _ hdests
    rw [length_dests] at hend
    refine hend.trans ?_
    rw [perrSz, IEEE80211_MESHPERR_BASE_SZ]
    omega
  have hmax : ¬ IEEE80211_MESHPERR_MAXDEST < perr.perrDests.length := by
    unfold IEEE80211_MESHPERR_MAXDEST
    omega
  simp only [verifyMeshPerrLen, value_bind, value_byte, hndests', hnum, if_neg hmax, value_destLoop, hwalk, value_pure,
    hlen, hsz]
  rw [if_neg (by omega)]

/-! ## What the readers pass over -/

theorem forward_readTarget : Forward (readTarget m) :=
  forward_next8.bind fun _ => forward_next48.bind fun _ => forward_nextLe32.bind fun _ => .pure _

theorem forward_readDest : Forward (readDest m) := by
  refine forward_next8.bind fun _ => forward_next48.bind fun _ => forward_nextLe32.bind fun _ => Forward.ite ?_ ?_
  · exact forward_next48.bind fun _ => forward_nextLe16.bind fun _ => .pure _
  · exact (Forward.pure _).bind fun _ => forward_nextLe16.bind fun _ => .pure _

theorem forward_readPreq : Forward (readPreq m) := by
  refine forward_next8.bind fun _ => forward_next8.bind fun _ => forward_next8.bind fun _ =>
    forward_next8.bind fun _ => forward_next8.bind fun _ => forward_nextLe32.bind fun _ =>
    forward_next48.bind fun _ => forward_nextLe32.bind fun _ => Forward.ite ?_ ?_
  · exact forward_next48.bind fun _ => forward_nextLe32.bind fun _ => forward_nextLe32.bind fun _ =>
      forward_next8.bind fun _ => (forward_readTarget.times _).bind fun _ => .pure _
  · exact (Forward.pure _).bind fun _ => forward_nextLe32.bind fun _ => forward_nextLe32.bind fun _ =>
      forward_next8.bind fun _ => (forward_readTarget.times _).bind fun _ => .pure _

theorem forward_readPrep : Forward (readPrep m) := by
  refine forward_next8.bind fun _ => forward_next8.bind fun _ => forward_next8.bind fun _ =>
    forward_next8.bind fun _ => forward_next8.bind fun _ => forward_next48.bind fun _ =>
    forward_nextLe32.bind fun _ => Forward.ite ?_ ?_
  · exact forward_next48.bind fun _ => forward_nextLe32.bind fun _ => forward_nextLe32.bind fun _ =>
      forward_next48.bind fun _ => forward_nextLe32.bind fun _ => .pure _
  · exact (Forward.pure _).bind fun _ => forward_nextLe32.bind fun _ => forward_nextLe32.bind fun _ =>
      forward_next48.bind fun _ => forward_nextLe32.bind fun _ => .pure _

theorem forward_readPerr : Forward (readPerr m) :=
  forward_next8.bind fun _ => forward_next8.bind fun _ => forward_next8.bind fun _ => forward_next8.bind fun _ =>
    (forward_readDest.times _).bind fun _ => .pure _

theorem forward_readRann : Forward (readRann m) :=
  forward_next8.bind fun _ => forward_next8.bind fun _ => forward_next8.bind fun _ => forward_next8.bind fun _ =>
    forward_next8.bind fun _ => forward_next48.bind fun _ => forward_nextLe32.bind fun _ =>
    forward_nextLe32.bind fun _ => forward_nextLe32.bind fun _ => .pure _

/-- Where the target count of the PREQ at `a` is looked for. -/
def tcntAt (m : Nat → BitVec 8) (a : Nat) : Nat :=
  a + if hasAE (m (a + 2)) then IEEE80211_MESHPREQ_TCNT_OFFSET_AE else IEEE80211_MESHPREQ_TCNT_OFFSET

/-- What the PREQ at `a` takes without its targets. -/
def preqBase (m : Nat → BitVec 8) (a : Nat) : Nat :=
  if hasAE (m (a + 2)) then IEEE80211_MESHPREQ_BASE_SZ_AE else IEEE80211_MESHPREQ_BASE_SZ

theorem endsAt_readPreq : endsAt (readPreq m) a = a + 2 + preqBase m a + 11 * (m (tcntAt m a)).toNat := by
  have htimes := endsAt_times (x := readTarget m) (k := 11) fun _ => rfl
  unfold readPreq preqBase tcntAt
  cases hae : hasAE (m (a + 2)) with
  | false =>
    simp [hae, htimes, IEEE80211_MESHPREQ_BASE_SZ, IEEE80211_MESHPREQ_TCNT_OFFSET]
  | true =>
    simp [hae, htimes, IEEE80211_MESHPREQ_BASE_SZ_AE, IEEE80211_MESHPREQ_TCNT_OFFSET_AE]

theorem endsAt_readPrep : endsAt (readPrep m) a =
    a + 2 + if hasAE (m (a + 2)) then IEEE80211_MESHPREP_BASE_SZ_AE else IEEE80211_MESHPREP_BASE_SZ := by
  unfold readPrep
  cases hae : hasAE (m (a + 2)) with
  | false => simp [hae, IEEE80211_MESHPREP_BASE_SZ]
  | true => simp [hae, IEEE80211_MESHPREP_BASE_SZ_AE]

theorem endsAt_readDest : endsAt (readDest m) t = t + destSz (m t) := by
  unfold readDest destSz
  cases hae : hasAE (m t) with
  | false => simp [hae, IEEE80211_MESHPERR_DEST_SZ]
  | true => simp [hae, IEEE80211_MESHPERR_DEST_SZ_AE]

theorem endsAt_dests : ∀ (n t : Nat), endsAt (times (readDest m) n) t = destAt m t n := by
  intro n
  induction n with
  | zero =>
    intro t
    rfl
  | succ n ih =>
    intro t
    simp only [times, endsAt_bind, endsAt_pure, endsAt_readDest, ih, destAt]

theorem endsAt_readPerr : endsAt (readPerr m) a = destAt m (a + 4) (m (a + 3)).toNat := by
  simp [readPerr, endsAt_dests]

theorem result_times_length {α : Type} {x : Cursor α} : ∀ (n t : Nat), (result (times x n) t).length = n := by
  intro n
  induction n with
  | zero =>
    intro t
    rfl
  | succ n ih =>
    intro t
    simp only [times, result_bind, result_pure, List.length_cons, ih]

end Net80211.Mesh.Wire
