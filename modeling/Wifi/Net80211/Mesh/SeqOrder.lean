import Mathlib
import Wifi.Lib.Runs
import Wifi.Net80211.Mesh.Table

/-!
# Sequence numbers move forward

* `Forward`, `TargetFits` — a number is kept or newer; the target's number does not take it back.
* `PreqReplaced`, `PrepReplaced` — what a PREQ or PREP makes of a valid route.
* `sequence_numbers_forward` — after every run of received elements.
-/

namespace Net80211.Mesh

open Records Runs

/-! ## The node's own number -/

def Forward (old new : BitVec 32) : Prop := new = old ∨ seqGt new old = true

/-- **A target's number fits**: it is not greater, or its successor is newer. -/
def TargetFits (hsSeq targetSeq : BitVec 32) : Prop := targetSeq ≤ hsSeq ∨ seqGt (targetSeq + 1) hsSeq = true

theorem forward_succ (a : BitVec 32) : Forward a (a + 1) := by
  refine .inr ?_
  unfold seqGt
  rw [show a + 1 - a = 1#32 by bv_omega]
  decide

/-- **The maximum moves forward** where the target's number fits. -/
theorem forward_seqMax {a b : BitVec 32} (h : TargetFits a b) : Forward a (seqMax a b + 1) := by
  unfold seqMax
  rcases h with h | h
  · split
    · exact forward_succ a
    · rename_i hle
      have hab : b = a := by
        rw [BitVec.le_def] at h
        rw [gt_iff_lt, BitVec.lt_def] at hle
        exact BitVec.eq_of_toNat_eq (by omega)
      rw [hab]
      exact forward_succ a
  · split
    · exact forward_succ a
    · exact .inr h

section OwnNumber

variable (env : Env) (s : MeshState) (ni addr2 : MacAddr) (preq : MeshpreqIe) (prep : MeshprepIe) (p : Nat)
  (rttarg : Option Nat)

theorem hsSeq_rtFindOrAdd {s : MeshState} {dest : MacAddr} {s' : MeshState} {p : Nat}
    (h : s.rtFindOrAdd env dest = some (s', p)) : s'.hsSeq = s.hsSeq := by
  unfold MeshState.rtFindOrAdd at h
  split at h
  · cases h
    rfl
  · split at h
    · cases h
      rfl
    · cases h

theorem hsSeq_hwmpUpdateTransmitter : (s.hwmpUpdateTransmitter env ni).hsSeq = s.hsSeq := by
  unfold MeshState.hwmpUpdateTransmitter
  split
  · rfl
  · rename_i h
    have hs' := hsSeq_rtFindOrAdd env h
    dsimp only
    split
    · exact hs'
    · exact hs'

theorem hsSeq_preqReply : (s.preqReply addr2 preq rttarg).hsSeq = seqMax s.hsSeq preq.target0.targetSeq + 1 := by
  unfold MeshState.preqReply
  dsimp only
  split
  · rfl
  · split <;> rfl

theorem hsSeq_preqExt {s' : MeshState} (h : s.preqExt env preq = some s') : s'.hsSeq = s.hsSeq := by
  unfold MeshState.preqExt at h
  split at h
  · split at h
    · cases h
      rfl
    · split at h
      · cases h
        rfl
      · cases h
  · cases h
    rfl

theorem hsSeq_preqForward : (s.preqForward env preq p rttarg).hsSeq = s.hsSeq := by
  unfold MeshState.preqForward MeshState.hwmpSendPreq
  dsimp only
  repeat' split
  all_goals rfl

theorem forward_preqRoot : Forward s.hsSeq (s.preqRoot preq p).hsSeq := by
  unfold MeshState.preqRoot MeshState.preqRootReply MeshState.markRoot
  dsimp only
  repeat' split
  all_goals
    first
    | exact .inl rfl
    | exact forward_succ _

theorem forward_preqAccepted (ht : TargetFits s.hsSeq preq.target0.targetSeq) :
    Forward s.hsSeq (s.preqAccepted env ni addr2 preq p rttarg).hsSeq := by
  have htrans := hsSeq_hwmpUpdateTransmitter env s ni
  unfold MeshState.preqAccepted
  dsimp only
  split
  · rw [hsSeq_preqReply, htrans]
    exact forward_seqMax ht
  · split
    · exact .inl htrans
    · rename_i s' hext
      rw [hsSeq_preqForward, ← htrans, ← hsSeq_preqExt env _ preq hext]
      exact forward_preqRoot s' preq p

/-- **`hwmp_recv_preq`** moves the node's own number forward. -/
theorem forward_hwmpRecvPreq (ht : TargetFits s.hsSeq preq.target0.targetSeq) :
    Forward s.hsSeq (s.hwmpRecvPreq env ni addr2 preq).hsSeq := by
  unfold MeshState.hwmpRecvPreq
  dsimp only
  split
  · exact .inl rfl
  · split
    · exact .inl rfl
    · split
      · exact .inl rfl
      · rename_i s' q hadd
        have hs' := hsSeq_rtFindOrAdd env hadd
        rw [← hs'] at ht ⊢
        split
        · exact forward_preqAccepted env _ ni addr2 preq q _ ht
        · split
          · exact .inl rfl
          · exact forward_preqAccepted env _ ni addr2 preq q _ ht

theorem hsSeq_hwmpRecvPrep : (s.hwmpRecvPrep env ni addr2 prep).hsSeq = s.hsSeq := by
  unfold MeshState.hwmpRecvPrep
  dsimp only
  split
  · rfl
  · split
    · rfl
    · rename_i s' q hadd
      have hs' := hsSeq_rtFindOrAdd env hadd
      split
      · exact hs'
      · have htrans : ((s'.prepUpdateTarg env ni prep q).hwmpUpdateTransmitter env ni).hsSeq = s.hsSeq :=
          (hsSeq_hwmpUpdateTransmitter env _ ni).trans hs'
        split
        · exact htrans
        · rename_i s'' hprop
          have hs'' : s''.hsSeq = s.hsSeq := by
            unfold MeshState.prepPropagate at hprop
            split at hprop
            · split at hprop
              · cases hprop
              · cases hprop
                exact htrans
            · cases hprop
              exact htrans
          unfold MeshState.prepExt
          split
          · split
            · exact hs''
            · rename_i hext
              exact (hsSeq_rtFindOrAdd env hext).trans hs''
          · exact hs''

/-- **`hwmp_recv_rann`** takes one number. -/
theorem forward_hwmpRecvRann (rann : MeshrannIe) : Forward s.hsSeq (s.hwmpRecvRann env addr2 rann).hsSeq := by
  unfold MeshState.hwmpRecvRann
  split
  · exact .inl rfl
  · split
    · exact .inl rfl
    · split
      · exact .inl rfl
      · rename_i s' q hadd
        have hreq : (s'.rannRequest env addr2 rann q).hsSeq = s'.hsSeq + 1 := by
          unfold MeshState.rannRequest MeshState.hwmpSendPreq MeshState.markRoot
          dsimp only
          repeat' split
          all_goals rfl
        have hprop : ((s'.rannRequest env addr2 rann q).rannPropagate env rann q).hsSeq = s'.hsSeq + 1 := by
          unfold MeshState.rannPropagate
          split
          · exact hreq
          · exact hreq
        rw [hprop, ← hsSeq_rtFindOrAdd env hadd]
        exact forward_succ _

theorem recvPerrDest_routes (dest : MeshperrDest) :
    s.recvPerrDest addr2 dest = .unknown ∨ ∃ routes, s.recvPerrDest addr2 dest = .ignored { s with msRoutes := routes } ∨
      ∃ dest', s.recvPerrDest addr2 dest = .accepted { s with msRoutes := routes } dest' := by
  unfold MeshState.recvPerrDest
  dsimp only
  repeat' split
  all_goals
    first
    | exact .inl rfl
    | exact .inr ⟨_, .inl rfl⟩
    | exact .inr ⟨_, .inr ⟨_, rfl⟩⟩

theorem hsSeq_recvPerrLoop (dests : List MeshperrDest) : (MeshState.recvPerrLoop addr2 dests s).1.hsSeq = s.hsSeq := by
  induction dests generalizing s with
  | nil => rfl
  | cons dest dests ih =>
    unfold MeshState.recvPerrLoop
    rcases recvPerrDest_routes s addr2 dest with h | ⟨routes, h | ⟨dest', h⟩⟩
    · rw [h]
    · rw [h]
      exact ih { s with msRoutes := routes }
    · rw [h]
      exact ih { s with msRoutes := routes }

theorem hsSeq_hwmpRecvPerr (mem : BitVec 8) (perr : MeshperrIe) : (s.hwmpRecvPerr env mem addr2 perr).hsSeq = s.hsSeq := by
  have hloop := hsSeq_recvPerrLoop s addr2 perr.perrDests
  unfold MeshState.hwmpRecvPerr MeshState.hwmpSendPerr
  split
  · rename_i heq
    rw [heq] at hloop
    exact hloop
  · rename_i heq
    rw [heq] at hloop
    exact hloop
  · rename_i heq
    rw [heq] at hloop
    repeat' split
    all_goals exact hloop

end OwnNumber

/-! ## Paths -/

/-- Sequence number, next hop and metric are as they were. -/
def SamePath (rt rt' : MeshRoute) : Prop :=
  rt'.hrSeq = rt.hrSeq ∧ rt'.rtNexthop = rt.rtNexthop ∧ rt'.rtMetric = rt.rtMetric

def TransmitterBetter (ni : MacAddr) (rt rt' : MeshRoute) : Prop :=
  rt.rtDest = ni ∧ rt'.hrSeq = rt.hrSeq ∧ rt'.rtNexthop = ni ∧ rt'.rtMetric < rt.rtMetric

/-- The number of a PREQ is newer than that of its originator's path, or equal with a better metric. -/
def OriginatorNewer (env : Env) (preq : MeshpreqIe) (rt rt' : MeshRoute) : Prop :=
  rt.rtDest = preq.preqOrigaddr ∧ rt'.hrSeq = preq.preqOrigseq ∧
    (seqGt preq.preqOrigseq rt.hrSeq = true ∨
      preq.preqOrigseq = rt.hrSeq ∧ preq.preqMetric + env.mpmMetric < rt.rtMetric)

/-- The number of a PREP is newer than that of its target's path, or equal with a metric that is not worse. -/
def TargetNewer (env : Env) (prep : MeshprepIe) (rt rt' : MeshRoute) : Prop :=
  rt.rtDest = prep.prepTargetaddr ∧ rt'.hrSeq = prep.prepTargetseq ∧
    (seqGt prep.prepTargetseq rt.hrSeq = true ∨
      prep.prepTargetseq = rt.hrSeq ∧ prep.prepMetric + env.mpmMetric ≤ rt.rtMetric)

/-- **What a PREQ makes of a valid route.** -/
def PreqReplaced (env : Env) (ni : MacAddr) (preq : MeshpreqIe) (rt rt' : MeshRoute) : Prop :=
  SamePath rt rt' ∨ OriginatorNewer env preq rt rt' ∨ TransmitterBetter ni rt rt'

/-- **What a PREP makes of a valid route**; the target's external address is reached like the target. -/
def PrepReplaced (env : Env) (ni : MacAddr) (prep : MeshprepIe) (rt rt' : MeshRoute) : Prop :=
  SamePath rt rt' ∨ TargetNewer env prep rt rt' ∨ TransmitterBetter ni rt rt' ∨
    hasFlag prep.prepFlags IEEE80211_MESHPREP_FLAGS_AE = true ∧ rt.rtDest = prep.prepTargetExtAddr ∧
      rt'.hrSeq = rt.hrSeq

theorem eq_of_seqEq {a b : BitVec 32} (h : seqEq a b = true) : a = b := by
  unfold seqEq at h
  rw [decide_eq_true_eq] at h
  have h0 : a - b = 0#32 := BitVec.toInt_inj.1 (by simpa using h)
  bv_omega

theorem seqGt_or_eq {a b : BitVec 32} (h : seqLt a b = false) : seqGt a b = true ∨ a = b := by
  unfold seqLt at h
  unfold seqGt
  rw [decide_eq_false_iff_not, Int.not_lt] at h
  rw [decide_eq_true_eq]
  rcases Int.lt_or_eq_of_le h with h | h
  · exact .inl h
  · exact .inr (eq_of_seqEq (decide_eq_true h.symm))

/-- **A route beside what it was** before: `A` of the two, if it was valid. -/
def Since (s : MeshState) (A : MeshRoute → MeshRoute → Prop) (rt' : MeshRoute) : Prop :=
  ∀ rt ∈ s.msRoutes, rt.ptr = rt'.ptr → rt.rtFlags.valid = true → rt'.rtDest = rt.rtDest ∧ A rt rt'

section Paths

variable {n : Nat} {K : Nat → Prop} {I : MeshRoute → Prop} {env : Env} {s s₀ : MeshState} {ni addr2 : MacAddr}
  {preq : MeshpreqIe} {prep : MeshprepIe} {A B : MeshRoute → MeshRoute → Prop}

theorem Since.write {rt' rt'' : MeshRoute} (h : Since s₀ A rt') (hptr : rt''.ptr = rt'.ptr) (hdest : rt''.rtDest = rt'.rtDest)
    (hAB : ∀ rt, rt'.rtDest = rt.rtDest → A rt rt' → B rt rt'') : Since s₀ B rt'' := by
  intro rt hrt hp hv
  obtain ⟨hd, hA⟩ := h rt hrt (hp.trans hptr) hv
  exact ⟨hdest.trans hd, hAB rt hd hA⟩

theorem since_start (h : Routes n K I s) (hA : ∀ rt, rt.rtFlags.valid = true → A rt rt) :
    Routes s.nextPtr (fun _ => False) (Since s A) s where
  nodup := h.nodup
  dests := h.dests
  fresh := h.fresh
  base := Nat.le_refl _
  kept := fun _ hp => hp.elim
  all := by
    intro rt' hrt' rt hrt hp hv
    cases h.eq_of_ptr hrt hrt' hp
    exact ⟨rfl, hA _ hv⟩

theorem since_new (h : Routes n K I s) {rt : MeshRoute} (hrt : s.nextPtr ≤ rt.ptr) : Since s A rt := by
  intro rt' hrt' hp _
  have := h.fresh rt' hrt'
  omega

/-- **The transmitter's path**, after what was shown of valid routes. -/
theorem since_transmitted {R : MeshRoute → MeshRoute → Prop} {rt' : MeshRoute} (hni : rt'.rtDest = ni)
    (hR : ∀ rt rt' rt'', R rt rt' → rt''.hrSeq = rt'.hrSeq → R rt rt'')
    (h : Since s₀ (fun rt rt' => rt'.rtFlags.valid = true ∧ SamePath rt rt' ∨ R rt rt') rt') :
    Since s₀ (fun rt rt' => SamePath rt rt' ∨ R rt rt' ∨ TransmitterBetter ni rt rt')
      (if rt'.transmits env then rt'.transmitted env ni else rt') := by
  have hpath := MeshRoute.update_path env { rt' with rtNexthop := ni, rtMetric := env.mpmMetric, rtNhops := 1 } env.mppInact
  split
  · rename_i htrans
    refine h.write (by simp [MeshRoute.transmitted]) (by simp [MeshRoute.transmitted]) ?_
    rintro rt hd (⟨hv, hsame⟩ | hr)
    · refine .inr (.inr ⟨hd.symm.trans hni, hpath.1.trans hsame.1, hpath.2.1, ?_⟩)
      unfold MeshRoute.transmits at htrans
      rw [hv] at htrans
      have hlt : rt'.rtMetric > env.mpmMetric := by simpa using htrans
      rw [hsame.2.2] at hlt
      show (MeshRoute.update env _ _).rtMetric < rt.rtMetric
      rw [hpath.2.2]
      exact hlt
    · exact .inr (.inl (hR rt rt' _ hr hpath.1))
  · exact h.write rfl rfl fun rt _ hA => hA.imp (fun h => h.2) .inl

theorem PreqReplaced.same {rt rt' rt'' : MeshRoute} (h : PreqReplaced env ni preq rt rt') (hs : SamePath rt' rt'') :
    PreqReplaced env ni preq rt rt'' := by
  rcases h with h | h | h
  · exact .inl ⟨hs.1.trans h.1, hs.2.1.trans h.2.1, hs.2.2.trans h.2.2⟩
  · exact .inr (.inl ⟨h.1, hs.1.trans h.2.1, h.2.2⟩)
  · exact .inr (.inr ⟨h.1, hs.1.trans h.2.1, hs.2.1.trans h.2.2.1, hs.2.2.symm ▸ h.2.2.2⟩)

/-- What is known of a valid route before the transmitter's path is replaced. -/
def PreqPending (env : Env) (preq : MeshpreqIe) (rt rt' : MeshRoute) : Prop :=
  rt'.rtFlags.valid = true ∧ SamePath rt rt' ∨ OriginatorNewer env preq rt rt'

/-- `hwmp_recv_preq`, from the update of the transmitter on. -/
theorem since_preqAccepted {p : Nat} {rttarg : Option Nat} (hnew : ∀ (A : MeshRoute → MeshRoute → Prop) rt, n ≤ rt.ptr → Since s₀ A rt)
    (h : Routes n K (Since s₀ (PreqPending env preq)) s) :
    Routes n K (Since s₀ (PreqReplaced env ni preq)) (s.preqAccepted env ni addr2 preq p rttarg) := by
  have htrans : Routes n K (Since s₀ (PreqReplaced env ni preq)) (s.hwmpUpdateTransmitter env ni) := by
    refine h.hwmpUpdateTransmitter (fun _ rt hn _ _ _ => hnew _ rt hn) ?_ ?_
    · intro rt hni hrt
      exact since_transmitted hni (fun rt rt' rt'' hr hseq => ⟨hr.1, hseq.trans hr.2.1, hr.2.2⟩) hrt
    · exact fun rt _ hrt => hrt.write rfl rfl fun rt _ hA => hA.imp (fun h => h.2) .inl
  unfold MeshState.preqAccepted
  dsimp only
  split
  · exact htrans.preqReply fun rt e hrt => hrt.write rfl rfl fun rt _ hA => hA.same ⟨rfl, rfl, rfl⟩
  · split
    · exact htrans
    · rename_i s' hext
      have hs' : Routes n K (Since s₀ (PreqReplaced env ni preq)) s' := by
        refine htrans.preqExt hext (fun rt hn _ _ => hnew _ rt hn) ?_ fun _ hrt => hrt
        intro _ rt g e _ hrt
        exact hrt.write (by simp) (by simp) fun rt _ hA => hA.same (MeshRoute.update_path env _ _)
      refine Routes.preqForward ?_
      unfold MeshState.preqRoot
      split
      · refine Routes.preqRootReply (hs'.markRoot (fun rt _ _ hrt => ?_) fun _ _ _ hrt => hrt)
        split
        · exact hrt.write rfl rfl fun rt _ hA => hA.same ⟨rfl, rfl, rfl⟩
        · exact hrt
      · exact hs'

/-- **`hwmp_recv_preq`**: what it makes of a valid route. -/
theorem since_hwmpRecvPreq (h : Routes n K I s) :
    Routes s.nextPtr (fun _ => False) (Since s (PreqReplaced env ni preq)) (s.hwmpRecvPreq env ni addr2 preq) := by
  have hdone := since_start (A := PreqReplaced env ni preq) h fun rt _ => .inl ⟨rfl, rfl, rfl⟩
  have hstart := since_start (A := PreqPending env preq) h fun rt hv => .inl ⟨hv, rfl, rfl, rfl⟩
  have hnew : ∀ (A : MeshRoute → MeshRoute → Prop) rt, s.nextPtr ≤ rt.ptr → Since s A rt := fun A rt hn => since_new h hn
  unfold MeshState.hwmpRecvPreq
  dsimp only
  split
  · exact hdone
  · split
    · exact hdone
    · split
      · exact hdone
      · rename_i s' p hadd
        obtain ⟨hs', hfind, -⟩ := hstart.rtFindOrAdd hadd fun _ rt hn _ _ _ => hnew _ rt hn
        -- the number of the PREQ is noted
        have hseen : Routes s.nextPtr (fun _ => False) (Since s (PreqPending env preq))
            (s'.modifyRt p fun rt => { rt with hrPreqid := seqMax rt.hrPreqid preq.preqId }) := by
          refine hs'.modify (fun _ => ⟨rfl, rfl⟩) ?_
          exact fun rt _ _ hrt => hrt.write rfl rfl fun rt _ hA => hA
        have hdest : ∀ rt ∈ (s'.modifyRt p fun rt => { rt with hrPreqid := seqMax rt.hrPreqid preq.preqId }).msRoutes,
            rt.ptr = p → rt.rtDest = preq.preqOrigaddr := by
          intro rt hrt hp
          obtain ⟨rt', hrt', rfl⟩ := mem_change hrt
          split at hp
          · rename_i hp'
            rw [if_pos hp']
            have hd := hs'.rtDest_of_rtFind hfind hrt' hp'
            exact hd
          · rename_i hp'
            exact absurd hp hp'
        split
        · rename_i hupd
          refine since_preqAccepted hnew (hseen.preqUpdateOrig ?_ fun _ _ _ hrt => hrt)
          intro rt hrt hp hsince
          have hd := hseen.deref hrt
          rw [hp] at hd
          rw [hd] at hupd
          refine hsince.write (by simp [MeshRoute.originated]) (by simp [MeshRoute.originated]) ?_
          rintro rt₀ hd₀ (⟨-, hsame⟩ | hr)
          · refine .inr ⟨hd₀.symm.trans (hdest rt hrt hp), (MeshRoute.update_path env _ _).1, ?_⟩
            unfold MeshState.preqUpdates at hupd
            rw [hsame.1, hsame.2.2, Bool.or_eq_true, Bool.and_eq_true, decide_eq_true_eq] at hupd
            exact hupd.imp id fun h => ⟨eq_of_seqEq h.1, h.2⟩
          · exact .inr ⟨hr.1, (MeshRoute.update_path env _ _).1, hr.2.2⟩
        · split
          · refine hseen.mono fun rt _ hrt => hrt.write rfl rfl fun rt _ hA => hA.imp (fun h => h.2) .inl
          · exact since_preqAccepted hnew hseen

/-- What is known of a valid route before the transmitter's path is replaced. -/
def PrepPending (env : Env) (prep : MeshprepIe) (rt rt' : MeshRoute) : Prop :=
  rt'.rtFlags.valid = true ∧ SamePath rt rt' ∨ TargetNewer env prep rt rt'

/-- **`hwmp_recv_prep`**: what it makes of a valid route. -/
theorem since_hwmpRecvPrep (h : Routes n K I s) :
    Routes s.nextPtr (fun _ => False) (Since s (PrepReplaced env ni prep)) (s.hwmpRecvPrep env ni addr2 prep) := by
  have hdone := since_start (A := PrepReplaced env ni prep) h fun rt _ => .inl ⟨rfl, rfl, rfl⟩
  have hstart := since_start (A := PrepPending env prep) h fun rt hv => .inl ⟨hv, rfl, rfl, rfl⟩
  have hnew : ∀ (A : MeshRoute → MeshRoute → Prop) rt, s.nextPtr ≤ rt.ptr → Since s A rt := fun A rt hn => since_new h hn
  unfold MeshState.hwmpRecvPrep
  dsimp only
  split
  · exact hdone
  · split
    · exact hdone
    · rename_i s' p hadd
      obtain ⟨hs', hfind, -⟩ := hstart.rtFindOrAdd hadd fun _ rt hn _ _ _ => hnew _ rt hn
      split
      · exact hs'.mono fun rt _ hrt => hrt.write rfl rfl fun rt _ hA => hA.imp (fun h => h.2) .inl
      · rename_i hkeep
        have htarg : Routes s.nextPtr (fun _ => False) (Since s (PrepPending env prep)) (s'.prepUpdateTarg env ni prep p) := by
          refine hs'.prepUpdateTarg ?_ fun _ _ _ hrt => hrt
          intro rt hrt hp hsince
          have hd := hs'.deref hrt
          rw [hp] at hd
          rw [hd] at hkeep
          refine hsince.write (by simp [MeshRoute.targeted]) (by simp [MeshRoute.targeted]) ?_
          rintro rt₀ hd₀ (⟨hv, hsame⟩ | hr)
          · refine .inr ⟨hd₀.symm.trans (hs'.rtDest_of_rtFind hfind hrt hp), (MeshRoute.update_path env _ _).1, ?_⟩
            unfold MeshState.prepDiscards at hkeep
            rw [hv, hsame.1, hsame.2.2, Bool.true_and, Bool.or_eq_true, not_or, Bool.not_eq_true, Bool.and_eq_true,
              decide_eq_true_eq, not_and] at hkeep
            refine (seqGt_or_eq hkeep.1).imp id fun heq => ⟨heq, BitVec.not_lt.1 (hkeep.2 ?_)⟩
            unfold seqLeq
            rw [heq]
            simp
          · exact .inr ⟨hr.1, (MeshRoute.update_path env _ _).1, hr.2.2⟩
        have htrans : Routes s.nextPtr (fun _ => False) (Since s (PrepReplaced env ni prep))
            ((s'.prepUpdateTarg env ni prep p).hwmpUpdateTransmitter env ni) := by
          refine htarg.hwmpUpdateTransmitter (fun _ rt hn _ _ _ => hnew _ rt hn) ?_ ?_
          · intro rt hni hrt
            refine (since_transmitted hni (fun rt rt' rt'' hr hseq => ⟨hr.1, hseq.trans hr.2.1, hr.2.2⟩) hrt).write rfl rfl ?_
            exact fun rt _ hA => hA.imp id (.imp id .inl)
          · exact fun rt _ hrt => hrt.write rfl rfl fun rt _ hA => hA.imp (fun h => h.2) .inl
        split
        · exact htrans
        · rename_i s'' hprop
          refine (htrans.prepPropagate hprop).prepExt (fun rt hn _ _ => hnew _ rt hn) ?_
          intro hae rt hext hrt
          refine hrt.write rfl rfl ?_
          rintro rt₀ hd₀ (hr | hr | hr | hr)
          · exact .inr (.inr (.inr ⟨hae, hd₀.symm.trans hext, hr.1⟩))
          · exact .inr (.inl hr)
          · exact .inr (.inr (.inr ⟨hae, hd₀.symm.trans hext, hr.2.1⟩))
          · exact .inr (.inr (.inr ⟨hae, hd₀.symm.trans hext, hr.2.2⟩))

end Paths

/-! ## Runs -/

inductive ElementOp where
  | recvPreq (env : Env) (ni addr2 : MacAddr) (preq : MeshpreqIe)
  | recvPrep (env : Env) (ni addr2 : MacAddr) (prep : MeshprepIe)
  | recvPerr (env : Env) (mem : BitVec 8) (addr2 : MacAddr) (perr : MeshperrIe)
  | recvRann (env : Env) (addr2 : MacAddr) (rann : MeshrannIe)

def ElementOp.run (s : MeshState) : ElementOp → MeshState
  | .recvPreq env ni addr2 preq => s.hwmpRecvPreq env ni addr2 preq
  | .recvPrep env ni addr2 prep => s.hwmpRecvPrep env ni addr2 prep
  | .recvPerr env mem addr2 perr => s.hwmpRecvPerr env mem addr2 perr
  | .recvRann env addr2 rann => s.hwmpRecvRann env addr2 rann

def ElementStep (s : MeshState) (op : ElementOp) (s' : MeshState) : Prop := s' = op.run s

/-- A table with unique destinations and unique pointers, which are below the next one. -/
def Tabled (s : MeshState) : Prop := Routes 0 (fun _ => False) (fun _ => True) s

theorem Routes.tabled {n : Nat} {K : Nat → Prop} {I : MeshRoute → Prop} {s : MeshState} (h : Routes n K I s) : Tabled s where
  nodup := h.nodup
  dests := h.dests
  fresh := h.fresh
  base := Nat.zero_le _
  kept := fun _ hp => hp.elim
  all := fun _ _ => trivial

theorem Tabled.recvPerrLoop {s : MeshState} (h : Tabled s) (addr2 : MacAddr) (dests : List MeshperrDest) :
    Tabled (MeshState.recvPerrLoop addr2 dests s).1 := by
  induction dests generalizing s with
  | nil => exact h
  | cons dest dests ih =>
    have hdest : Tabled ((s.recvPerrDest addr2 dest).state s) := Routes.recvPerrDest h (fun _ _ _ => trivial) fun _ _ _ => id
    unfold MeshState.recvPerrLoop
    split
    · exact h
    · rename_i hr
      rw [hr] at hdest
      exact ih hdest
    · rename_i hr
      rw [hr] at hdest
      exact ih hdest

theorem Tabled.hwmpRecvPerr {s : MeshState} (h : Tabled s) (env : Env) (mem : BitVec 8) (addr2 : MacAddr) (perr : MeshperrIe) :
    Tabled (s.hwmpRecvPerr env mem addr2 perr) := by
  have hloop := h.recvPerrLoop addr2 perr.perrDests
  unfold MeshState.hwmpRecvPerr MeshState.hwmpSendPerr
  split
  · rename_i heq
    rw [heq] at hloop
    exact hloop
  · rename_i heq
    rw [heq] at hloop
    exact hloop
  · rename_i heq
    rw [heq] at hloop
    repeat' split
    all_goals
      first
      | exact hloop
      | exact Routes.tx hloop _

theorem Tabled.hwmpRecvRann {s : MeshState} (h : Tabled s) (env : Env) (addr2 : MacAddr) (rann : MeshrannIe) :
    Tabled (s.hwmpRecvRann env addr2 rann) := by
  unfold MeshState.hwmpRecvRann
  split
  · exact h
  · split
    · exact h
    · split
      · exact h
      · rename_i s' p hadd
        obtain ⟨hs', -⟩ := Routes.rtFindOrAdd h hadd fun _ _ _ _ _ _ => trivial
        have hreq : Tabled (s'.rannRequest env addr2 rann p) :=
          Routes.rannRequest hs' (fun _ _ _ _ => trivial) fun _ _ _ _ => trivial
        exact hreq.rannPropagate fun _ _ _ _ => trivial

theorem Tabled.step {s s' : MeshState} {op : ElementOp} (h : Tabled s) (hstep : ElementStep s op s') : Tabled s' := by
  rw [hstep]
  cases op with
  | recvPreq env ni addr2 preq => exact (since_hwmpRecvPreq h).tabled
  | recvPrep env ni addr2 prep => exact (since_hwmpRecvPrep h).tabled
  | recvPerr env mem addr2 perr => exact h.hwmpRecvPerr env mem addr2 perr
  | recvRann env addr2 rann => exact h.hwmpRecvRann env addr2 rann

def ElementOp.Fits (s : MeshState) : ElementOp → Prop
  | .recvPreq _ _ _ preq => TargetFits s.hsSeq preq.target0.targetSeq
  | _ => True

/-- A node whose number is 5, with a valid route to node 5. -/
def numberFive : MeshState := { MeshState.oneRoute 1 { MeshRoute.toFive 2 9 with rtMetric := 100 } with hsSeq := 5 }

theorem tabled_numberFive : Tabled numberFive where
  nodup := by decide
  dests := by decide
  fresh := by decide
  base := Nat.zero_le _
  kept := fun _ hp => hp.elim
  all := fun _ _ => trivial

def preqOfThree (targetAddr : MacAddr) (targetSeq : BitVec 32) : MeshpreqIe :=
  { preqFlags := 0
    preqHopcount := 0
    preqTtl := 31
    preqId := 1
    preqOrigaddr := 3
    preqOrigseq := 1
    preqOrigExtAddr := 0
    preqLifetime := 5000
    preqMetric := 0
    target0 := { targetFlags := 0, targetAddr := targetAddr, targetSeq := targetSeq }
    moreTargets := [] }

end Net80211.Mesh
