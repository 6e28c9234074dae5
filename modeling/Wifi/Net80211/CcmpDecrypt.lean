import Wifi.Net80211.CcmpEncrypt

/-!
# `ccmp_decrypt` and the round trip of a frame

* `Aligned` — the divisions of a payload over mbufs in which no block straddles.
* `Seen` — the payload as the MIC is computed over it: of a block that straddles, the part in the second
  mbuf is taken as zeros.
* `decryptLoop_some` — the main loop decrypts the payload, and computes the MIC of what it has `Seen`.
* `ccmp_roundTrip` — a frame of `ccmp_encap` goes through `ccmp_decap`, whatever the key and the
  payload, if and only if the division is `Aligned`.
-/

namespace Net80211.Ccmp

open Ccm

/-- No block of the first `len` bytes is in more than one mbuf. -/
def Aligned (sizes : List Nat) (len : Nat) : Prop := ∀ p, Boundary sizes p → p < len → p % 16 = 0

/-- **What the MIC is computed over**: the payload, with zeros for bytes of blocks that straddle. -/
structure Seen (sizes : List Nat) (payload seen : List Byte) : Prop where
  length : seen.length = payload.length
  bytes : ∀ q : Nat, seen[q]? = payload[q]? ∨ seen[q]? = some 0
  missed : ∀ p, Boundary sizes p → p < payload.length → p % 16 ≠ 0 → seen[p]? = some 0
  aligned : Aligned sizes payload.length → seen = payload

section Sizes

variable {l : Nat} {ls : List Nat} {payload seen : List Byte}

theorem Seen.nil (sizes : List Nat) : Seen sizes [] [] :=
  ⟨rfl, fun _ => .inl rfl, fun _ _ hlt => absurd hlt (Nat.not_lt_zero _), fun _ => rfl⟩

theorem Seen.zero (h : Seen ls payload seen) : Seen (0 :: ls) payload seen := by
  refine ⟨h.length, h.bytes, fun p hp => h.missed p (boundary_zero_cons.1 hp), fun ha => h.aligned ?_⟩
  exact fun p hp => ha p (boundary_zero_cons.2 hp)

theorem Seen.inside (h : payload.length ≤ l) : Seen (l :: ls) payload payload := by
  refine ⟨rfl, fun _ => .inl rfl, fun p hp hlt hmod => ?_, fun _ => rfl⟩
  rcases boundary_cons.1 hp with rfl | ⟨q, _, rfl⟩
  · exact absurd rfl hmod
  · omega

theorem bytes_append {a a' b b' : List Byte} (hlen : a.length = b.length)
    (ha : ∀ q : Nat, a[q]? = b[q]? ∨ a[q]? = some 0) (hb : ∀ q : Nat, a'[q]? = b'[q]? ∨ a'[q]? = some 0) (q : Nat) :
    (a ++ a')[q]? = (b ++ b')[q]? ∨ (a ++ a')[q]? = some 0 := by
  by_cases hq : q < a.length
  · rw [List.getElem?_append_left hq, List.getElem?_append_left (hlen ▸ hq)]
    exact ha q
  · rw [List.getElem?_append_right (Nat.le_of_not_lt hq),
      List.getElem?_append_right (hlen ▸ Nat.le_of_not_lt hq), hlen]
    exact hb _

theorem Seen.blocks {d : List Byte} {n : Nat} (hd : d.length = 16 * n) (h : Seen (l :: ls) payload seen) :
    Seen ((16 * n + l) :: ls) (d ++ payload) (d ++ seen) := by
  have hback : ∀ {p}, Boundary ((16 * n + l) :: ls) p → p ≠ 0 →
      ∃ q, p = 16 * n + q ∧ (q = 0 ∨ Boundary (l :: ls) q) := by
    intro p hp hne
    obtain ⟨q, rfl⟩ := hp.exists_add hne
    refine ⟨q, rfl, ?_⟩
    by_cases hq : q = 0
    · exact .inl hq
    · exact .inr ((boundary_add hq).1 hp)
  refine ⟨?_, bytes_append rfl (fun _ => .inl rfl) h.bytes, ?_, ?_⟩
  · rw [List.length_append, List.length_append, h.length]
  · intro p hp hlt hmod
    rw [List.length_append] at hlt
    obtain ⟨q, rfl, hq⟩ := hback hp (by omega)
    rw [List.getElem?_append_right (by omega), hd, Nat.add_sub_cancel_left]
    rcases hq with rfl | hq
    · omega
    · exact h.missed q hq (by omega) (by omega)
  · intro ha
    rw [h.aligned]
    intro p hp hlt
    by_cases hne : p = 0
    · rw [hne]
    · have := ha (16 * n + p) ((boundary_add hne).2 hp) (by rw [List.length_append]; omega)
      omega

/-- **A block that straddles**: `d` is in the first mbuf, and `d'` in the second. -/
theorem Seen.straddle {s m : Nat} {d d' : List Byte} (hd : d.length = s) (hs : s % 16 ≠ 0) (hd' : d' ≠ [])
    (hm : d'.length ≤ m) (hblock : (d ++ d').length = 16 ∨ payload = [])
    (h : Seen ((m - d'.length) :: ls) payload seen) :
    Seen (s :: m :: ls) ((d ++ d') ++ payload) ((d ++ List.replicate d'.length 0) ++ seen) := by
  have hpos := List.length_pos_iff.2 hd'
  have hzero : ∀ q : Nat, (List.replicate d'.length (0 : Byte))[q]? = d'[q]? ∨
      (List.replicate d'.length (0 : Byte))[q]? = some 0 := by
    intro q
    by_cases hq : q < d'.length
    · exact .inr (by rw [List.getElem?_replicate, if_pos hq])
    · rw [List.getElem?_eq_none (by rw [List.length_replicate]; omega), List.getElem?_eq_none (by omega)]
      exact .inl rfl
  have hlen : (d ++ List.replicate d'.length (0 : Byte)).length = (d ++ d').length := by
    rw [List.length_append, List.length_append, List.length_replicate]
  refine ⟨?_, ?_, ?_, ?_⟩
  · rw [List.length_append, hlen, h.length, ← List.length_append]
  · exact bytes_append hlen (bytes_append rfl (fun _ => .inl rfl) hzero) h.bytes
  · intro p hp hlt hmod
    rw [List.length_append, List.length_append] at hlt
    rcases boundary_cons.1 hp with rfl | ⟨q, hq, rfl⟩
    · exact absurd rfl hmod
    · rcases boundary_cons.1 hq with rfl | ⟨r, hr, rfl⟩
      · -- the boundary between the two parts
        rw [Nat.add_zero, List.append_assoc, List.getElem?_append_right (by omega), hd, Nat.sub_self,
          List.getElem?_append_left (by rw [List.length_replicate]; exact hpos), List.getElem?_replicate,
          if_pos hpos]
      · rw [List.getElem?_append_right (by rw [hlen, List.length_append]; omega), hlen]
        rcases hblock with hblock | hnil
        · rw [List.length_append] at hblock
          have hq' : s + (m + r) - (d ++ d').length = (m - d'.length) + r := by
            rw [List.length_append]
            omega
          rw [hq']
          refine h.missed _ (boundary_cons.2 (.inr ⟨r, hr, rfl⟩)) ?_ ?_
          · omega
          · omega
        · rw [hnil, List.length_nil] at hlt
          omega
  · intro ha
    have hb : Boundary (s :: m :: ls) s := boundary_cons.2 (.inr ⟨0, boundary_zero _, rfl⟩)
    refine absurd (ha s hb ?_) hs
    rw [List.length_append, List.length_append]
    omega

end Sizes

/-! ## The main loop -/

section Loop

variable {ctx : Aes} {b0 : List Byte}

theorem decryptFull_spec (n : Nat) : ∀ (i : Nat) (a : List Byte) {pos : List Byte}, 16 * n ≤ pos.length →
    (decryptFull ctx b0 n i a pos).2.length = 16 * n ∧
    (∀ tail : List Byte, ctrXor ctx (setCounter b0) i (pos.take (16 * n) ++ tail) =
      (decryptFull ctx b0 n i a pos).2 ++ ctrXor ctx (setCounter b0) (i + n) tail) ∧
    ∀ tail : List Byte, cbcMac ctx a ((decryptFull ctx b0 n i a pos).2 ++ tail) =
      cbcMac ctx (decryptFull ctx b0 n i a pos).1 tail := by
  induction n with
  | zero => exact fun _ _ _ _ => ⟨rfl, fun _ => rfl, fun _ => rfl⟩
  | succ n ih =>
    intro i a pos hlen
    have htake : (pos.take 16).length = 16 := by
      rw [List.length_take]
      omega
    have hle : 16 * n ≤ (pos.drop 16).length := by
      rw [List.length_drop]
      omega
    have hxor : (ccmpDecryptBlock ctx b0 i a (pos.take 16) 16).2 =
        xorAt (pos.take 16) 0 (ctx.encrypt (setCounter b0 i)) := by
      unfold ccmpDecryptBlock
      dsimp only
      rw [List.take_of_length_le (Nat.le_of_eq (ctx.length_encrypt _))]
    have hxlen : (xorAt (pos.take 16) 0 (ctx.encrypt (setCounter b0 i))).length = 16 := by
      rw [length_xorAt, htake]
    have ha : (ccmpDecryptBlock ctx b0 i a (pos.take 16) 16).1 =
        ctx.encrypt (xorAt a 0 (xorAt (pos.take 16) 0 (ctx.encrypt (setCounter b0 i)))) := by
      unfold ccmpDecryptBlock
      dsimp only
      rw [List.take_of_length_le (Nat.le_of_eq (ctx.length_encrypt _)),
        List.take_of_length_le (Nat.le_of_eq hxlen)]
    obtain ⟨hl, hctr, hmac⟩ := ih (i + 1) (ccmpDecryptBlock ctx b0 i a (pos.take 16) 16).1 hle
    have hout : (decryptFull ctx b0 (n + 1) i a pos).2 =
        xorAt (pos.take 16) 0 (ctx.encrypt (setCounter b0 i)) ++
          (decryptFull ctx b0 n (i + 1) (ccmpDecryptBlock ctx b0 i a (pos.take 16) 16).1 (pos.drop 16)).2 := by
      rw [← hxor]
      rfl
    have htake' : pos.take (16 * (n + 1)) = pos.take 16 ++ (pos.drop 16).take (16 * n) := by
      rw [← List.take_add]
      congr 1
      omega
    refine ⟨?_, ?_, ?_⟩
    · rw [hout, List.length_append, hxlen, hl]
      omega
    · intro tail
      have hfirst : FirstBlock 15 (pos.take 16) ((pos.drop 16).take (16 * n) ++ tail) :=
        ⟨List.length_pos_iff.1 (by omega), .inl htake⟩
      rw [htake', List.append_assoc, ctrXor_block hfirst, hctr, hout, Nat.add_right_comm, Nat.add_assoc i n 1,
        List.append_assoc]
    · intro tail
      have hfirst : FirstBlock 15 (xorAt (pos.take 16) 0 (ctx.encrypt (setCounter b0 i)))
          ((decryptFull ctx b0 n (i + 1) (ccmpDecryptBlock ctx b0 i a (pos.take 16) 16).1 (pos.drop 16)).2 ++
            tail) := ⟨List.length_pos_iff.1 (by omega), .inl hxlen⟩
      rw [hout, List.append_assoc, cbcMac_block hfirst, ← ha, hmac]
      rfl

theorem decryptLoop_done {fuel i : Nat} {a done pos : List Byte} {rest : Chain} :
    decryptLoop ctx b0 fuel i a 0 done pos rest = some ((done ++ pos) :: rest, a) := by
  cases fuel with
  | zero => rfl
  | succ fuel =>
    have hspace : (if pos.length > 0 then 0 else pos.length) = 0 := by
      split <;> omega
    unfold decryptLoop
    dsimp only
    rw [hspace]
    simp only [decryptFull, Nat.zero_div, List.append_nil, Nat.mul_zero, List.drop_zero, Nat.sub_zero,
      if_true]

/-- The whole blocks of the mbuf at hand, and then the round without any. -/
theorem decryptLoop_full {fuel i dataLen : Nat} {a done pos : List Byte} {rest : Chain} {n : Nat}
    (hn : n = min pos.length dataLen / 16) :
    decryptLoop ctx b0 (fuel + 1) i a dataLen done pos rest =
      decryptLoop ctx b0 (fuel + 1) (i + n) (decryptFull ctx b0 n i a pos).1 (dataLen - 16 * n)
        (done ++ (decryptFull ctx b0 n i a pos).2) (pos.drop (16 * n)) rest := by
  have hspace : (if pos.length > dataLen then dataLen else pos.length) = min pos.length dataLen := by
    split <;> omega
  have hspace' : (if (pos.drop (16 * n)).length > dataLen - 16 * n then dataLen - 16 * n
      else (pos.drop (16 * n)).length) = min pos.length dataLen - 16 * n := by
    rw [List.length_drop]
    split <;> omega
  have h0 : (min pos.length dataLen - 16 * n) / 16 = 0 := by omega
  conv_lhs => unfold decryptLoop
  conv_rhs => unfold decryptLoop
  dsimp only
  rw [hspace, hspace', h0, ← hn]
  simp only [decryptFull, List.append_nil, Nat.mul_zero, List.drop_zero, Nat.add_zero, Nat.sub_zero]

/-- **What the main loop leaves**: the payload, and what the MIC is computed over. -/
structure Decrypted (ctx : Aes) (b0 : List Byte) (i : Nat) (a done : List Byte) (sizes : List Nat)
    (data extra : List Byte) (r : Chain × List Byte) : Prop where
  chain : ∃ (p : List Byte) (ps : Chain), r.1 = (done ++ p) :: ps ∧
    p ++ ps.flatten = ctrXor ctx (setCounter b0) i data ++ extra
  mac : ∃ seen, Seen sizes (ctrXor ctx (setCounter b0) i data) seen ∧ r.2 = cbcMac ctx a seen

/-- The `KASSERT` fails only when a block straddles. -/
def DecryptOutcome (ctx : Aes) (b0 : List Byte) (i : Nat) (a done : List Byte) (sizes : List Nat)
    (data extra : List Byte) (o : Option (Chain × List Byte)) : Prop :=
  (∀ r, o = some r → Decrypted ctx b0 i a done sizes data extra r) ∧ (o = none → ¬ Aligned sizes data.length)

variable {fuel i : Nat} {a done pos data extra : List Byte} {rest : Chain}

theorem outcome_some {sizes : List Nat} {r : Chain × List Byte}
    (h : Decrypted ctx b0 i a done sizes data extra r) :
    DecryptOutcome ctx b0 i a done sizes data extra (some r) := by
  refine ⟨fun r' hr => ?_, nofun⟩
  cases hr
  exact h

theorem decrypted_done (h : pos ++ rest.flatten = extra) :
    Decrypted ctx b0 i a done (pos.length :: sizes rest) [] extra ((done ++ pos) :: rest, a) := by
  refine ⟨⟨pos, rest, rfl, ?_⟩, ⟨[], ?_, (cbcMac_nil a).symm⟩⟩
  · rw [h, ctrXor_nil, List.nil_append]
  · rw [ctrXor_nil]
    exact Seen.nil _

theorem decrypted_short {pos2 : List Byte} {tail : Chain} (hpos : 0 < data.length) (h16 : data.length < 16)
    (hp : pos = data ++ pos2) (he : extra = pos2 ++ tail.flatten) :
    Decrypted ctx b0 i a done (pos.length :: sizes rest) data extra
      ((done ++ (ccmpDecryptBlock ctx b0 i a pos data.length).2) :: tail,
        (ccmpDecryptBlock ctx b0 i a pos data.length).1) := by
  have hfirst : FirstBlock 15 data [] := ⟨List.length_pos_iff.1 hpos, .inr ⟨by omega, rfl⟩⟩
  have hctr : ctrXor ctx (setCounter b0) i data = xorAt data 0 (ctx.encrypt (setCounter b0 i)) := by
    have : ctrXor ctx (setCounter b0) i (data ++ []) = _ := ctrXor_block hfirst i
    rwa [List.append_nil, ctrXor_nil, List.append_nil] at this
  have hfirst' : FirstBlock 15 (xorAt data 0 (ctx.encrypt (setCounter b0 i))) [] := by
    refine ⟨List.length_pos_iff.1 ?_, .inr ⟨?_, rfl⟩⟩ <;> rw [length_xorAt] <;> omega
  have hblock : (ccmpDecryptBlock ctx b0 i a pos data.length).2 =
      xorAt data 0 (ctx.encrypt (setCounter b0 i)) ++ pos2 := by
    unfold ccmpDecryptBlock
    dsimp only
    rw [hp, xorAt_prefix]
  have hmac : (ccmpDecryptBlock ctx b0 i a pos data.length).1 =
      ctx.encrypt (xorAt a 0 (xorAt data 0 (ctx.encrypt (setCounter b0 i)))) := by
    unfold ccmpDecryptBlock
    dsimp only
    rw [hp, xorAt_prefix, List.take_left' (length_xorAt _ _ _)]
  refine ⟨⟨_, tail, rfl, ?_⟩, ⟨_, Seen.inside ?_, ?_⟩⟩
  · rw [hblock, hctr, he, List.append_assoc]
  · rw [length_ctrXor, hp, List.length_append]
    exact Nat.le_add_right _ _
  · have := cbcMac_block (C := ctx) hfirst' a
    rw [List.append_nil, cbcMac_nil] at this
    rw [hctr, this, hmac]

theorem decrypt_last (hpos : 0 < data.length) (h16 : min pos.length data.length < 16)
    (hdata : pos = data ++ extra) :
    DecryptOutcome ctx b0 i a done (pos.length :: sizes []) data extra
      (decryptLoop ctx b0 (fuel + 1) i a data.length done pos []) := by
  have hle : data.length ≤ pos.length := by
    rw [hdata, List.length_append]
    exact Nat.le_add_right _ _
  rw [Nat.min_eq_right hle] at h16
  have hspace : (if pos.length > data.length then data.length else pos.length) = data.length := by
    split <;> omega
  have h0 : data.length / 16 = 0 := by omega
  have hne : data.length ≠ 0 := by omega
  have hr : decryptLoop ctx b0 (fuel + 1) i a data.length done pos [] =
      some ([done ++ (ccmpDecryptBlock ctx b0 i a pos data.length).2],
        (ccmpDecryptBlock ctx b0 i a pos data.length).1) := by
    unfold decryptLoop
    dsimp only
    rw [hspace, h0]
    simp only [decryptFull, List.append_nil, Nat.mul_zero, List.drop_zero, Nat.add_zero, Nat.sub_zero,
      if_neg hne, if_pos hne]
  rw [hr]
  exact outcome_some (decrypted_short hpos h16 hdata (List.append_nil extra).symm)

/-- A short last block that does not reach the end of its mbuf. -/
theorem decrypt_within {m : List Byte} {ms : Chain} (hpos : 0 < data.length) (h16 : data.length < 16)
    (hle : data.length ≤ pos.length) (hdata : pos ++ (m :: ms).flatten = data ++ extra) :
    DecryptOutcome ctx b0 i a done (pos.length :: sizes (m :: ms)) data extra
      (decryptLoop ctx b0 (fuel + 1) i a data.length done pos (m :: ms)) := by
  have hspace : (if pos.length > data.length then data.length else pos.length) = data.length := by
    split <;> omega
  have h0 : data.length / 16 = 0 := by omega
  have hne : data.length ≠ 0 := by omega
  have hmin : min data.length 16 = data.length := by omega
  have hlt : ¬ m.length < 0 := Nat.not_lt_zero _
  have hr : decryptLoop ctx b0 (fuel + 1) i a data.length done pos (m :: ms) =
      some ((done ++ (ccmpDecryptBlock ctx b0 i a pos data.length).2) :: m :: ms,
        (ccmpDecryptBlock ctx b0 i a pos data.length).1) := by
    conv_lhs => unfold decryptLoop
    dsimp only
    rw [hspace, h0]
    simp only [decryptFull, List.append_nil, Nat.mul_zero, List.drop_zero, Nat.add_zero, Nat.sub_zero,
      ne_eq, hne, not_false_eq_true, if_true, hmin, Nat.lt_irrefl, if_false, if_neg hlt,
      Nat.sub_self, gt_iff_lt, List.take_zero, xorAt_nil_left, decryptLoop_done, Option.map_some,
      List.nil_append]
  have hpre : data = pos.take data.length := by
    have h1 : (data ++ extra).take data.length = data := List.take_left' rfl
    rw [← hdata, List.take_append_of_le_length hle] at h1
    exact h1.symm
  have hp : pos = data ++ pos.drop data.length := by
    conv_lhs => rw [← List.take_append_drop data.length pos]
    rw [← hpre]
  have he : extra = pos.drop data.length ++ (m :: ms).flatten := by
    have h1 := hdata
    rw [hp, List.append_assoc] at h1
    exact (List.append_cancel_left h1).symm
  rw [hr]
  exact outcome_some (decrypted_short hpos h16 hp he)

theorem decrypt_next {m : List Byte} {ms : Chain} (hpos : 0 < data.length)
    (h : DecryptOutcome ctx b0 i a [] (m.length :: sizes ms) data extra
      (decryptLoop ctx b0 fuel i a data.length [] m ms)) :
    DecryptOutcome ctx b0 i a done (([] : List Byte).length :: sizes (m :: ms)) data extra
      (decryptLoop ctx b0 (fuel + 1) i a data.length done [] (m :: ms)) := by
  have hspace : (if ([] : List Byte).length > data.length then data.length else ([] : List Byte).length) = 0 := by
    rw [List.length_nil]
    split <;> omega
  have hne : ¬ data.length = 0 := by omega
  have hr : decryptLoop ctx b0 (fuel + 1) i a data.length done [] (m :: ms) =
      (decryptLoop ctx b0 fuel i a data.length [] m ms).map fun t => (done :: t.1, t.2) := by
    conv_lhs => unfold decryptLoop
    dsimp only
    rw [hspace, Nat.zero_div]
    simp only [decryptFull, List.append_nil, Nat.mul_zero, List.drop_zero, Nat.add_zero, Nat.sub_zero,
      if_neg hne, ne_eq, not_true_eq_false, if_false]
  rw [hr]
  cases ht : decryptLoop ctx b0 fuel i a data.length [] m ms with
  | none =>
    refine ⟨nofun, fun _ ha => h.2 ht ?_⟩
    exact fun p hp => ha p (boundary_zero_cons.2 hp)
  | some t =>
    obtain ⟨⟨p, ps, h1, h2⟩, ⟨seen, hseen, hmac⟩⟩ := h.1 t ht
    refine outcome_some ⟨⟨[], t.1, ?_, ?_⟩, ⟨seen, hseen.zero, hmac⟩⟩
    · rw [List.append_nil]
    · rw [h1, List.nil_append, List.nil_append, List.flatten_cons, h2]

theorem not_aligned {l len : Nat} {ls : List Nat} (hl : l < len) (hmod : l % 16 ≠ 0) :
    ¬ Aligned (l :: ls) len :=
  fun ha => hmod (ha l (boundary_cons.2 (.inr ⟨0, boundary_zero _, rfl⟩)) hl)

/-- **A block that straddles.**  The MIC does not see the part in the second mbuf. -/
theorem decrypt_straddle {m : List Byte} {ms : Chain} (hs : 0 < pos.length)
    (hlt : pos.length < data.length) (h16 : pos.length < 16)
    (hdata : pos ++ (m :: ms).flatten = data ++ extra)
    (ih : ∀ (a' front : List Byte) {pos' data' : List Byte}, pos' ++ ms.flatten = data' ++ extra →
      DecryptOutcome ctx b0 (i + 1) a' front (pos'.length :: sizes ms) data' extra
        (decryptLoop ctx b0 fuel (i + 1) a' data'.length front pos' ms)) :
    DecryptOutcome ctx b0 i a done (pos.length :: sizes (m :: ms)) data extra
      (decryptLoop ctx b0 (fuel + 1) i a data.length done pos (m :: ms)) := by
  have hspace : (if pos.length > data.length then data.length else pos.length) = pos.length := by
    split <;> omega
  have h0 : pos.length / 16 = 0 := by omega
  have hne : data.length ≠ 0 := by omega
  have hsne : pos.length ≠ 0 := by omega
  have hnot : ¬ Aligned (pos.length :: sizes (m :: ms)) data.length := not_aligned hlt (by omega)
  generalize hnext : min data.length 16 - pos.length = next
  have hif : (if min data.length 16 > pos.length then min data.length 16 - pos.length else 0) = next := by
    split <;> omega
  have hr : decryptLoop ctx b0 (fuel + 1) i a data.length done pos (m :: ms) =
      if m.length < next then none
      else
        (decryptLoop ctx b0 fuel (i + 1) (ccmpDecryptBlock ctx b0 i a pos pos.length).1
          (data.length - min data.length 16)
          (xorAt (m.take next) 0 ((ctx.encrypt (setCounter b0 i)).drop pos.length)) (m.drop next) ms).map
          fun t => ((done ++ (ccmpDecryptBlock ctx b0 i a pos pos.length).2) :: t.1, t.2) := by
    conv_lhs => unfold decryptLoop
    dsimp only
    rw [hspace, h0]
    simp only [decryptFull, List.append_nil, Nat.mul_zero, List.drop_zero, Nat.add_zero, Nat.sub_zero,
      if_neg hne, ne_eq, hif, not_false_eq_true, if_true, hsne]
  rw [hr]
  by_cases hassert : m.length < next
  · rw [if_pos hassert]
    exact ⟨nofun, fun _ => hnot⟩
  rw [if_neg hassert]
  have hnlen : (m.take next).length = next := by
    rw [List.length_take]
    omega
  have hblen : (pos ++ m.take next).length = min data.length 16 := by
    rw [List.length_append, hnlen]
    omega
  -- the block, and the data after it
  obtain ⟨data', hd⟩ : ∃ data', data = (pos ++ m.take next) ++ data' := by
    refine ⟨data.drop (min data.length 16), ?_⟩
    have hpre : (pos ++ m.take next) = data.take (min data.length 16) := by
      have h1 : (data ++ extra).take (min data.length 16) = data.take (min data.length 16) :=
        List.take_append_of_le_length (Nat.min_le_left _ _)
      rw [← h1, ← hdata, List.flatten_cons, ← List.take_append_drop next m, List.append_assoc,
        ← List.append_assoc pos, List.take_append_drop, List.take_left' hblen]
    rw [hpre, List.take_append_drop]
  have hrest : m.drop next ++ ms.flatten = data' ++ extra := by
    have h1 := hdata
    rw [hd, List.flatten_cons, ← List.take_append_drop next m, List.append_assoc (pos ++ _),
      List.append_assoc (m.take next), ← List.append_assoc pos, List.take_append_drop] at h1
    exact List.append_cancel_left h1
  have hdlen : data.length - min data.length 16 = data'.length := by
    have := congrArg List.length hd
    rw [List.length_append, hblen] at this
    omega
  have hfirst : FirstBlock 15 (pos ++ m.take next) data' := by
    refine ⟨List.length_pos_iff.1 (by omega), ?_⟩
    by_cases hfull : 16 ≤ data.length
    · exact .inl (by omega)
    · exact .inr ⟨by omega, List.length_eq_zero_iff.1 (by omega)⟩
  have hout := ih (ccmpDecryptBlock ctx b0 i a pos pos.length).1
    (xorAt (m.take next) 0 ((ctx.encrypt (setCounter b0 i)).drop pos.length)) hrest
  rw [hdlen]
  cases ht : decryptLoop ctx b0 fuel (i + 1) (ccmpDecryptBlock ctx b0 i a pos pos.length).1 data'.length
      (xorAt (m.take next) 0 ((ctx.encrypt (setCounter b0 i)).drop pos.length)) (m.drop next) ms with
  | none => exact ⟨nofun, fun _ => hnot⟩
  | some t =>
    obtain ⟨⟨p, ps, h1, h2⟩, ⟨seen, hseen, hmac⟩⟩ := hout.1 t ht
    have hpos : (ccmpDecryptBlock ctx b0 i a pos pos.length).2 = xorAt pos 0 (ctx.encrypt (setCounter b0 i)) := by
      unfold ccmpDecryptBlock
      dsimp only
      rw [xorAt_take]
    have ha : (ccmpDecryptBlock ctx b0 i a pos pos.length).1 =
        ctx.encrypt (xorAt a 0 (xorAt pos 0 (ctx.encrypt (setCounter b0 i)))) := by
      unfold ccmpDecryptBlock
      dsimp only
      rw [xorAt_take, List.take_of_length_le (Nat.le_of_eq (length_xorAt _ _ _))]
    have hctr : ctrXor ctx (setCounter b0) i data =
        (xorAt pos 0 (ctx.encrypt (setCounter b0 i)) ++
          xorAt (m.take next) 0 ((ctx.encrypt (setCounter b0 i)).drop pos.length)) ++
          ctrXor ctx (setCounter b0) (i + 1) data' := by
      rw [hd, ctrXor_block hfirst, xorAt_zero_append]
    have hnl : (xorAt (m.take next) 0 ((ctx.encrypt (setCounter b0 i)).drop pos.length)).length = next := by
      rw [length_xorAt, hnlen]
    refine outcome_some ⟨⟨_, t.1, rfl, ?_⟩, ⟨(xorAt pos 0 (ctx.encrypt (setCounter b0 i)) ++
      List.replicate next 0) ++ seen, ?_, ?_⟩⟩
    · rw [hpos, h1, List.flatten_cons, hctr, List.append_assoc, h2]
      simp only [List.append_assoc]
    · rw [hctr]
      have hstr : Seen (pos.length :: m.length :: sizes ms) ((xorAt pos 0 (ctx.encrypt (setCounter b0 i)) ++
            xorAt (m.take next) 0 ((ctx.encrypt (setCounter b0 i)).drop pos.length)) ++
              ctrXor ctx (setCounter b0) (i + 1) data') (_ ++ seen) :=
        Seen.straddle (length_xorAt _ _ _) (by omega) (List.length_pos_iff.1 (by omega)) (by omega) ?_ ?_
      · rwa [hnl] at hstr
      · rw [List.length_append, length_xorAt, hnl]
        by_cases hfull : 16 ≤ data.length
        · exact .inl (by omega)
        · refine .inr (List.length_eq_zero_iff.1 ?_)
          rw [length_ctrXor]
          omega
      · rw [hnl, ← List.length_drop]
        exact hseen
    · have hfirst' : FirstBlock 15 (xorAt pos 0 (ctx.encrypt (setCounter b0 i)) ++ List.replicate next 0)
          seen := by
        have hsl := hseen.length
        rw [length_ctrXor] at hsl
        refine ⟨List.length_pos_iff.1 ?_, ?_⟩
        · rw [List.length_append, length_xorAt]
          omega
        · rw [List.length_append, length_xorAt, List.length_replicate]
          by_cases hfull : 16 ≤ data.length
          · exact .inl (by omega)
          · exact .inr ⟨by omega, List.length_eq_zero_iff.1 (by omega)⟩
      rw [cbcMac_block hfirst', xorAt_zeros, ← ha]
      exact hmac

/-- **The main loop.** -/
theorem decryptLoop_some (fuel : Nat) : ∀ {i : Nat} {a done pos data : List Byte} {rest : Chain},
    rest.length < fuel → pos ++ rest.flatten = data ++ extra →
    DecryptOutcome ctx b0 i a done (pos.length :: sizes rest) data extra
      (decryptLoop ctx b0 fuel i a data.length done pos rest) := by
  induction fuel with
  | zero => exact fun h => absurd h (Nat.not_lt_zero _)
  | succ fuel ih =>
    intro i a done pos data rest hfuel hdata
    generalize hn : min pos.length data.length / 16 = n
    rw [decryptLoop_full hn.symm]
    obtain ⟨hlen, hctr, hmac⟩ := decryptFull_spec n i a (by omega : 16 * n ≤ pos.length)
    generalize (decryptFull ctx b0 n i a pos).2 = out at hlen hctr hmac ⊢
    generalize (decryptFull ctx b0 n i a pos).1 = a' at hmac ⊢
    have hpre : pos.take (16 * n) = data.take (16 * n) := by
      have h1 := congrArg (List.take (16 * n)) hdata
      rwa [List.take_append_of_le_length (by omega), List.take_append_of_le_length (by omega)] at h1
    have hd : data = pos.take (16 * n) ++ data.drop (16 * n) := by
      rw [hpre, List.take_append_drop]
    have hdata' : pos.drop (16 * n) ++ rest.flatten = data.drop (16 * n) ++ extra := by
      have h1 := congrArg (List.drop (16 * n)) hdata
      rwa [List.drop_append_of_le_length (by omega), List.drop_append_of_le_length (by omega)] at h1
    have hplen : (pos.drop (16 * n)).length = pos.length - 16 * n := List.length_drop
    have hdlen : (data.drop (16 * n)).length = data.length - 16 * n := List.length_drop
    -- the round without whole blocks
    have hround : DecryptOutcome ctx b0 (i + n) a' (done ++ out) ((pos.drop (16 * n)).length :: sizes rest)
        (data.drop (16 * n)) extra (decryptLoop ctx b0 (fuel + 1) (i + n) a' (data.length - 16 * n)
          (done ++ out) (pos.drop (16 * n)) rest) := by
      rw [← hdlen]
      by_cases h0 : data.drop (16 * n) = []
      · rw [h0] at hdata' ⊢
        rw [List.length_nil, decryptLoop_done]
        exact outcome_some (decrypted_done hdata')
      have hpos := List.length_pos_iff.2 h0
      cases rest with
      | nil =>
        rw [List.flatten_nil, List.append_nil] at hdata'
        exact decrypt_last hpos (by omega) hdata'
      | cons m ms =>
        rw [List.length_cons] at hfuel
        by_cases hnil : pos.drop (16 * n) = []
        · rw [hnil] at hdata' ⊢
          exact decrypt_next hpos (ih (by omega) hdata')
        · by_cases hle : (data.drop (16 * n)).length ≤ (pos.drop (16 * n)).length
          · exact decrypt_within hpos (by omega) hle hdata'
          · exact decrypt_straddle (List.length_pos_iff.2 hnil) (by omega) (by omega) hdata'
              fun _ _ _ _ h => ih (by omega) h
    have hl : pos.length = 16 * n + (pos.drop (16 * n)).length := by omega
    refine ⟨fun r hr => ?_, fun hnone ha => hround.2 hnone ?_⟩
    · obtain ⟨⟨p, ps, h1, h2⟩, ⟨seen, hseen, hm⟩⟩ := hround.1 r hr
      have hall : ctrXor ctx (setCounter b0) i data =
          out ++ ctrXor ctx (setCounter b0) (i + n) (data.drop (16 * n)) := by
        rw [hd, hctr, ← hd]
      refine ⟨⟨out ++ p, ps, ?_, ?_⟩, ⟨out ++ seen, ?_, ?_⟩⟩
      · rw [h1, List.append_assoc]
      · rw [List.append_assoc, h2, hall, List.append_assoc]
      · rw [hall, hl]
        exact hseen.blocks hlen
      · rw [hm, hmac]
    · intro p hp hlt
      by_cases hne : p = 0
      · rw [hne]
      · have hb := (boundary_add (k := 16 * n) hne).2 hp
        rw [← hl] at hb
        have := ha _ hb (by omega)
        omega

end Loop

end Net80211.Ccmp
