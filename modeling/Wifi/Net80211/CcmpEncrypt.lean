import Mathlib
import Wifi.Net80211.Ccmp

/-!
# `ccmp_encrypt` and the boundaries of the mbufs

* `Gatherable` — the divisions of a payload over mbufs for which the two loops of a block that straddles
  take all of it.
* `walk` — the two loops, for one block.
* `encryptLoop_outcome` — the main loop: CCM of the payload, or the last byte is not encrypted.
* `encryptChain_divided` — the division does not matter if and only if it is `Gatherable`.

The loops count the bytes of the first mbuf of the block twice: in `sp`, and in `dl`, from which only
those of the following mbufs are subtracted.
-/

namespace Net80211.Ccmp

open Ccm

/-! ## Divisions -/

/-- A place where one mbuf ends and the next begins. -/
def Boundary (sizes : List Nat) (p : Nat) : Prop := ∃ j, p = (sizes.take j).sum

/-- **Whenever two boundaries are inside one block, the payload from the start of that block on is longer
    than their distance by a whole block.** -/
def Gatherable (sizes : List Nat) : Prop :=
  ∀ p q, Boundary sizes p → Boundary sizes q → p < q → q < sizes.sum → p % 16 ≠ 0 → p / 16 = q / 16 →
    16 * (p / 16) + 16 + (q - p) ≤ sizes.sum

theorem boundary_iff {sizes : List Nat} {p : Nat} :
    Boundary sizes p ↔ ∃ j < sizes.length + 1, p = (sizes.take j).sum := by
  constructor
  · rintro ⟨j, hj⟩
    rcases Nat.le_total j sizes.length with hle | hle
    · exact ⟨j, Nat.lt_succ_of_le hle, hj⟩
    · refine ⟨sizes.length, Nat.lt_succ_self _, ?_⟩
      rw [hj, List.take_of_length_le hle, List.take_length]
  · rintro ⟨j, _, hj⟩
    exact ⟨j, hj⟩

instance (sizes : List Nat) : Decidable (Gatherable sizes) :=
  decidable_of_iff (∀ j < sizes.length + 1, ∀ k < sizes.length + 1,
      ((sizes.take j).sum < (sizes.take k).sum ∧ (sizes.take k).sum < sizes.sum ∧
        (sizes.take j).sum % 16 ≠ 0 ∧ (sizes.take j).sum / 16 = (sizes.take k).sum / 16) →
      16 * ((sizes.take j).sum / 16) + 16 + ((sizes.take k).sum - (sizes.take j).sum) ≤ sizes.sum) <| by
    constructor
    · intro h p q hp hq hlt hsum hmod hdiv
      obtain ⟨j, hj, rfl⟩ := boundary_iff.1 hp
      obtain ⟨k, hk, rfl⟩ := boundary_iff.1 hq
      exact h j hj k hk ⟨hlt, hsum, hmod, hdiv⟩
    · exact fun h j _ k _ hall => h _ _ ⟨j, rfl⟩ ⟨k, rfl⟩ hall.1 hall.2.1 hall.2.2.1 hall.2.2.2

section Sizes

variable {l : Nat} {ls : List Nat}

theorem boundary_zero (sizes : List Nat) : Boundary sizes 0 := ⟨0, rfl⟩

theorem boundary_cons {p : Nat} : Boundary (l :: ls) p ↔ p = 0 ∨ ∃ q, Boundary ls q ∧ p = l + q := by
  constructor
  · rintro ⟨j, hj⟩
    cases j with
    | zero => exact .inl hj
    | succ j => exact .inr ⟨_, ⟨j, rfl⟩, by rw [hj, List.take_succ_cons, List.sum_cons]⟩
  · rintro (rfl | ⟨q, ⟨j, rfl⟩, rfl⟩)
    · exact boundary_zero _
    · exact ⟨j + 1, by rw [List.take_succ_cons, List.sum_cons]⟩

theorem Boundary.le {sizes : List Nat} {p : Nat} (h : Boundary sizes p) : p ≤ sizes.sum := by
  obtain ⟨j, rfl⟩ := h
  rw [← List.take_append_drop j sizes, List.sum_append, List.take_append_drop]
  exact Nat.le_add_right _ _

/-- A boundary after some mbufs, and inside or after the next. -/
theorem boundary_append {ws : List Nat} {p : Nat} :
    Boundary (ws ++ ls) p ↔ (Boundary ws p ∨ ∃ q, Boundary ls q ∧ p = ws.sum + q) := by
  induction ws generalizing p with
  | nil =>
    rw [List.nil_append]
    constructor
    · exact fun h => .inr ⟨p, h, (Nat.zero_add p).symm⟩
    · rintro (⟨j, hj⟩ | ⟨q, hq, hpq⟩)
      · rw [List.take_nil] at hj
        rw [hj]
        exact boundary_zero _
      · rw [hpq, List.sum_nil, Nat.zero_add]
        exact hq
  | cons w ws ih =>
    rw [List.cons_append, boundary_cons, boundary_cons, List.sum_cons]
    constructor
    · rintro (rfl | ⟨q, hq, rfl⟩)
      · exact .inl (.inl rfl)
      · rcases ih.1 hq with hq | ⟨q', hq', rfl⟩
        · exact .inl (.inr ⟨q, hq, rfl⟩)
        · exact .inr ⟨q', hq', by omega⟩
    · rintro ((rfl | ⟨q, hq, rfl⟩) | ⟨q, hq, rfl⟩)
      · exact .inl rfl
      · exact .inr ⟨q, ih.2 (.inl hq), rfl⟩
      · exact .inr ⟨ws.sum + q, ih.2 (.inr ⟨q, hq, rfl⟩), by omega⟩

theorem boundary_add {k p : Nat} (hp : p ≠ 0) : Boundary ((k + l) :: ls) (k + p) ↔ Boundary (l :: ls) p := by
  constructor
  · intro h
    rcases boundary_cons.1 h with h0 | ⟨q, hq, hpq⟩
    · omega
    · exact boundary_cons.2 (.inr ⟨q, hq, by omega⟩)
  · intro h
    rcases boundary_cons.1 h with h0 | ⟨q, hq, hpq⟩
    · exact absurd h0 hp
    · exact boundary_cons.2 (.inr ⟨q, hq, by omega⟩)

theorem Boundary.exists_add {k p : Nat} (h : Boundary ((k + l) :: ls) p) (hp : p ≠ 0) :
    ∃ q, p = k + q := by
  rcases boundary_cons.1 h with h0 | ⟨q, _, hpq⟩
  · exact absurd h0 hp
  · exact ⟨l + q, by omega⟩

theorem boundary_zero_cons {p : Nat} : Boundary (0 :: ls) p ↔ Boundary ls p := by
  rw [boundary_cons]
  constructor
  · rintro (rfl | ⟨q, hq, rfl⟩)
    · exact boundary_zero _
    · rwa [Nat.zero_add]
  · exact fun h => .inr ⟨p, h, (Nat.zero_add p).symm⟩

theorem gatherable_blocks (n : Nat) : Gatherable ((16 * n + l) :: ls) ↔ Gatherable (l :: ls) := by
  unfold Gatherable
  simp only [List.sum_cons]
  constructor
  · intro h p q hp hq hlt hsum hmod hdiv
    have := h _ _ ((boundary_add (k := 16 * n) (by omega)).2 hp) ((boundary_add (k := 16 * n) (by omega)).2 hq)
      (by omega) (by omega) (by omega) (by omega)
    omega
  · intro h p q hp hq hlt hsum hmod hdiv
    obtain ⟨p', rfl⟩ := hp.exists_add (by omega)
    obtain ⟨q', rfl⟩ := hq.exists_add (by omega)
    have := h _ _ ((boundary_add (by omega)).1 hp) ((boundary_add (by omega)).1 hq)
      (by omega) (by omega) (by omega) (by omega)
    omega

theorem gatherable_zero : Gatherable (0 :: ls) ↔ Gatherable ls := by
  unfold Gatherable
  simp only [boundary_zero_cons, List.sum_cons, Nat.zero_add]

theorem gatherable_single (h : ls.sum = 0) : Gatherable (l :: ls) := by
  intro p q hp hq hlt hsum hmod _
  have hcases : ∀ {r}, Boundary (l :: ls) r → r = 0 ∨ r = l := by
    intro r hr
    rcases boundary_cons.1 hr with rfl | ⟨r', hr', rfl⟩
    · exact .inl rfl
    · have := hr'.le
      exact .inr (by omega)
  rw [List.sum_cons, h] at hsum
  rcases hcases hp with rfl | rfl
  · exact absurd rfl hmod
  · rcases hcases hq with rfl | rfl <;> omega

/-- The two loops read the mbufs after the first of a block as far as the block goes. -/
def Exact (sp dl : Nat) (ls : List Nat) : Prop :=
  ∀ c, Boundary ls c → 0 < c → c < min dl 16 - sp → 16 + c ≤ dl

theorem Gatherable.exact {s : Nat} (hs : 0 < s) (hs16 : s < 16) (h : Gatherable (s :: ls)) :
    Exact s (s + ls.sum) ls := by
  intro c hc hpos hlt
  have := h s (s + c) (boundary_cons.2 (.inr ⟨0, boundary_zero _, rfl⟩))
    (boundary_cons.2 (.inr ⟨c, hc, rfl⟩)) (by omega) (by rw [List.sum_cons]; omega) (by omega) (by omega)
  rw [List.sum_cons] at this
  omega

/-- **The block that starts in the first mbuf and straddles, and what follows it.** -/
theorem gatherable_straddle {s f m : Nat} {ws ms : List Nat} (hs : 0 < s) (hs16 : s < 16)
    (hlen : ws.sum + f = min (s + (ws ++ m :: ms).sum) 16 - s) (hf : f ≤ m) :
    Gatherable (s :: (ws ++ m :: ms)) ↔
      Exact s (s + (ws ++ m :: ms).sum) (ws ++ m :: ms) ∧ Gatherable ((m - f) :: ms) := by
  constructor
  · intro h
    refine ⟨h.exact hs hs16, ?_⟩
    unfold Gatherable at h ⊢
    rw [List.sum_cons] at h ⊢
    rw [List.sum_append, List.sum_cons] at hlen h
    -- something follows, so the block is a whole one
    intro p q hp hq hlt hsum hmod hdiv
    have hshift : ∀ {r}, r ≠ 0 → Boundary ((m - f) :: ms) r → Boundary (s :: (ws ++ m :: ms)) (16 + r) := by
      intro r hr hb
      rcases boundary_cons.1 hb with rfl | ⟨r', hr', rfl⟩
      · exact absurd rfl hr
      · refine boundary_cons.2 (.inr ⟨ws.sum + (m + r'), ?_, by omega⟩)
        exact boundary_append.2 (.inr ⟨m + r', boundary_cons.2 (.inr ⟨r', hr', rfl⟩), rfl⟩)
    have := h _ _ (hshift (by omega) hp) (hshift (by omega) hq) (by omega) (by omega) (by omega) (by omega)
    omega
  · unfold Gatherable Exact
    rw [List.sum_cons, List.sum_cons]
    rw [List.sum_append, List.sum_cons] at hlen ⊢
    rintro ⟨hexact, hrest⟩ p q hp hq hlt hsum hmod hdiv
    have hback : ∀ {r}, r ≠ 0 → Boundary (s :: (ws ++ m :: ms)) r →
        ∃ c, Boundary (ws ++ m :: ms) c ∧ r = s + c := by
      intro r hr hb
      rcases boundary_cons.1 hb with rfl | hc
      · exact absurd rfl hr
      · exact hc
    obtain ⟨c, hc, rfl⟩ := hback (by omega) hp
    obtain ⟨d, hd, rfl⟩ := hback (by omega) hq
    by_cases hblock : s + c < 16
    · have := hexact d hd (by omega) (by omega)
      omega
    · have hafter : ∀ {r}, 16 < s + r → Boundary (ws ++ m :: ms) r →
          ∃ r', Boundary ((m - f) :: ms) r' ∧ s + r = 16 + r' := by
        intro r hr hb
        rcases boundary_append.1 hb with hws | ⟨r', hr', rfl⟩
        · have := hws.le
          omega
        · rcases boundary_cons.1 hr' with rfl | ⟨r'', hr'', rfl⟩
          · omega
          · exact ⟨m - f + r'', boundary_cons.2 (.inr ⟨r'', hr'', rfl⟩), by omega⟩
      obtain ⟨c', hc', hcs⟩ := hafter (by omega) hc
      obtain ⟨d', hd', hds⟩ := hafter (by omega) hd
      have := hrest c' d' hc' hd' (by omega) (by omega) (by omega) (by omega)
      omega

variable (ls) in
/-- The mbuf does not reach the end of the block, and enough follows. -/
theorem exact_cons {sp dl : Nat} (hl : l < min dl 16 - sp) (hd : l = 0 ∨ 16 + l ≤ dl) :
    min (dl - l) 16 - (sp + l) = min dl 16 - sp - l ∧ (Exact sp dl (l :: ls) ↔ Exact (sp + l) (dl - l) ls) := by
  have hneed : min (dl - l) 16 - (sp + l) = min dl 16 - sp - l := by omega
  refine ⟨hneed, ?_⟩
  unfold Exact
  rw [hneed]
  constructor
  · intro h c hc hpos hlt
    have := h (l + c) (boundary_cons.2 (.inr ⟨c, hc, rfl⟩)) (by omega) (by omega)
    omega
  · intro h c hc hpos hlt
    rcases boundary_cons.1 hc with rfl | ⟨c', hc', rfl⟩
    · exact absurd hpos (Nat.lt_irrefl _)
    · rcases Nat.eq_zero_or_pos c' with rfl | hpos'
      · omega
      · have := h c' hc' hpos' (by omega)
        omega

variable (ls) in
theorem not_exact_cons {sp dl : Nat} (hl : l < min dl 16 - sp) (hpos : 0 < l) (hd : dl < 16 + l) :
    ¬ Exact sp dl (l :: ls) := by
  intro h
  have := h l (boundary_cons.2 (.inr ⟨0, boundary_zero _, rfl⟩)) hpos hl
  omega

end Sizes

def sizes (m : Chain) : List Nat := m.map List.length

theorem sum_sizes (m : Chain) : (sizes m).sum = m.flatten.length := by
  unfold sizes
  rw [List.length_flatten]

/-! ## One block -/

/-- **The two loops for a block that straddles.**  They read and write the same part of the mbufs that
    follow: the rest of the block, or less. -/
theorem walk {ns : Chain} : ∀ (sp dl : Nat), ns ≠ [] → min dl 16 - sp ≤ ns.flatten.length →
    ∃ (ws : Chain) (m : List Byte) (ms : Chain) (f : Nat), ns = ws ++ m :: ms ∧ f ≤ m.length ∧
      ws.flatten.length + f ≤ min dl 16 - sp ∧
      (Exact sp dl (sizes ns) ↔ ws.flatten.length + f = min dl 16 - sp) ∧
      (∀ b, gather b sp dl ns = xorAt b sp (ws.flatten ++ m.take f)) ∧
      ∀ e, ∃ (whole : Chain) (front : List Byte),
        scatter e sp dl ns = { whole := whole, stop := some (front, m.drop f, ms) } ∧
        whole.flatten ++ front = xorAt (ws.flatten ++ m.take f) 0 (e.drop sp) := by
  induction ns with
  | nil => exact fun _ _ hne => absurd rfl hne
  | cons n ns ih =>
    intro sp dl _ hlen
    have hnext : (if min dl 16 > sp then min dl 16 - sp else 0) = min dl 16 - sp := by
      split <;> omega
    by_cases hstop : n.length ≥ min dl 16 - sp
    · -- the block ends in this mbuf
      refine ⟨[], n, ns, min dl 16 - sp, rfl, hstop, Nat.le_of_eq (Nat.zero_add _), ?_, ?_, ?_⟩
      · refine ⟨fun _ => Nat.zero_add _, fun _ c hc hpos hlt => ?_⟩
        rcases boundary_cons.1 hc with rfl | ⟨c', _, rfl⟩ <;> omega
      · intro b
        unfold gather
        dsimp only
        rw [hnext, if_pos hstop]
        rfl
      · intro e
        refine ⟨[], xorAt (n.take (min dl 16 - sp)) 0 (e.drop sp), ?_, rfl⟩
        unfold scatter
        dsimp only
        rw [hnext, if_pos hstop]
    · have hlt : n.length < min dl 16 - sp := by omega
      have hne : ns ≠ [] := by
        rintro rfl
        rw [List.flatten_cons, List.flatten_nil, List.append_nil] at hlen
        exact hstop hlen
      rw [List.flatten_cons, List.length_append] at hlen
      obtain ⟨ws, m, ms, f, hns, hf, hle, hexact, hgather, hscatter⟩ :=
        ih (sp + n.length) (dl - n.length) hne (by omega)
      refine ⟨n :: ws, m, ms, f, by rw [hns]; rfl, hf, ?_, ?_, ?_, ?_⟩
      · rw [List.flatten_cons, List.length_append]
        omega
      · rw [List.flatten_cons, List.length_append]
        by_cases hd : n.length = 0 ∨ 16 + n.length ≤ dl
        · obtain ⟨hneed, hiff⟩ := exact_cons (sizes ns) hlt hd
          rw [show sizes (n :: ns) = n.length :: sizes ns from rfl, hiff, hexact]
          omega
        · have hno := not_exact_cons (sizes ns) hlt (by omega) (by omega)
          refine ⟨fun h => absurd h hno, fun h => ?_⟩
          omega
      · intro b
        unfold gather
        dsimp only
        rw [hnext, if_neg hstop, hgather, xorAt_append, List.flatten_cons, List.append_assoc]
      · intro e
        obtain ⟨whole, front, hs, hw⟩ := hscatter e
        refine ⟨xorAt n 0 (e.drop sp) :: whole, front, ?_, ?_⟩
        · unfold scatter
          dsimp only
          rw [hnext, if_neg hstop, hs]
        · rw [List.flatten_cons, List.flatten_cons, List.append_assoc, hw, List.append_assoc,
            xorAt_zero_append n, List.drop_drop]
/-! ## The main loop -/

section Loop

variable {ctx : Aes} {b0 : List Byte}

variable (ctx b0) in
theorem encryptFull_spec (n : Nat) : ∀ (i : Nat) (b : List Byte) {pos : List Byte}, 16 * n ≤ pos.length →
    ∀ rest : List Byte,
      cbcMac ctx b (pos ++ rest) =
        cbcMac ctx (encryptFull ctx b0 n i b pos).1 (pos.drop (16 * n) ++ rest) ∧
      ctrXor ctx (setCounter b0) i (pos ++ rest) = (encryptFull ctx b0 n i b pos).2 ++
        ctrXor ctx (setCounter b0) (i + n) (pos.drop (16 * n) ++ rest) := by
  induction n with
  | zero => exact fun _ _ _ _ _ => ⟨rfl, rfl⟩
  | succ n ih =>
    intro i b pos hlen rest
    have htake : (pos.take 16).length = 16 := by
      rw [List.length_take]
      omega
    have hfirst : FirstBlock 15 (pos.take 16) (pos.drop 16 ++ rest) :=
      ⟨List.length_pos_iff.1 (by omega), .inl htake⟩
    have hpos : pos ++ rest = pos.take 16 ++ (pos.drop 16 ++ rest) := by
      rw [← List.append_assoc, List.take_append_drop]
    have hdrop : pos.drop (16 * (n + 1)) = (pos.drop 16).drop (16 * n) := by
      rw [List.drop_drop]
      congr 1
      omega
    have hle : 16 * n ≤ (pos.drop 16).length := by
      rw [List.length_drop]
      omega
    obtain ⟨hmac, hctr⟩ := ih (i + 1) (ccmpEncryptBlock ctx b0 i b (pos.take 16) 16).1 hle rest
    have hb : (ccmpEncryptBlock ctx b0 i b (pos.take 16) 16).1 = ctx.encrypt (xorAt b 0 (pos.take 16)) := by
      unfold ccmpEncryptBlock
      dsimp only
      rw [List.take_of_length_le (Nat.le_of_eq htake)]
    have hp : (ccmpEncryptBlock ctx b0 i b (pos.take 16) 16).2 =
        xorAt (pos.take 16) 0 (ctx.encrypt (setCounter b0 i)) := by
      unfold ccmpEncryptBlock
      dsimp only
      rw [List.take_of_length_le (Nat.le_of_eq (ctx.length_encrypt _))]
    refine ⟨?_, ?_⟩
    · rw [hpos, cbcMac_block hfirst, ← hb, hmac, hdrop]
      rfl
    · rw [hpos, ctrXor_block hfirst, ← hp, hctr, hdrop, Nat.add_right_comm, Nat.add_assoc i n 1,
        ← List.append_assoc]
      rfl

theorem encryptLoop_done {fuel i : Nat} {b : List Byte} {dataLen : Int} {done pos : List Byte}
    {rest : Chain} (h : dataLen ≤ 0) :
    encryptLoop ctx b0 fuel i b dataLen done pos rest = ((done ++ pos) :: rest, b) := by
  cases fuel with
  | zero => rfl
  | succ fuel =>
    have hspace : (if (pos.length : Int) > dataLen then dataLen else pos.length).toNat / 16 = 0 := by
      split <;> omega
    unfold encryptLoop
    dsimp only
    rw [hspace]
    have hle : dataLen - (16 * 0 : Nat) ≤ 0 := by omega
    rw [if_pos hle]
    simp only [encryptFull, List.append_nil, Nat.mul_zero, List.drop_zero]

/-- The whole blocks of the mbuf at hand, and then the round without any. -/
theorem encryptLoop_full {fuel i dataLen : Nat} {b done pos : List Byte} {rest : Chain} {n : Nat}
    (hn : n = min pos.length dataLen / 16) :
    encryptLoop ctx b0 (fuel + 1) i b dataLen done pos rest =
      encryptLoop ctx b0 (fuel + 1) (i + n) (encryptFull ctx b0 n i b pos).1
        ((dataLen - 16 * n : Nat) : Int) (done ++ (encryptFull ctx b0 n i b pos).2) (pos.drop (16 * n)) rest := by
  have hspace : (if (pos.length : Int) > dataLen then (dataLen : Int) else pos.length) =
      (min pos.length dataLen : Nat) := by
    split <;> omega
  have hspace' : (if ((pos.drop (16 * n)).length : Int) > ((dataLen - 16 * n : Nat) : Int) then
      ((dataLen - 16 * n : Nat) : Int) else (pos.drop (16 * n)).length) =
      (min pos.length dataLen - 16 * n : Nat) := by
    rw [List.length_drop]
    split <;> omega
  have h0 : (min pos.length dataLen - 16 * n : Nat) / 16 = 0 := by omega
  have hd : (dataLen : Int) - (16 * n : Nat) = (dataLen - 16 * n : Nat) := by omega
  have hs : ((min pos.length dataLen : Nat) : Int) - (16 * n : Nat) =
      (min pos.length dataLen - 16 * n : Nat) := by omega
  conv_lhs => unfold encryptLoop
  conv_rhs => unfold encryptLoop
  dsimp only
  rw [hspace, hspace', Int.toNat_natCast, Int.toNat_natCast, h0, ← hn, hd, hs]
  simp only [encryptFull, List.append_nil, Nat.mul_zero, List.drop_zero, Nat.add_zero, Int.natCast_zero,
    Int.sub_zero]

def Short (data out : List Byte) : Prop := ∃ pre pre' x, data = pre ++ [x] ∧ out = pre' ++ [x]

theorem Short.append {data out : List Byte} (h : Short data out) (d o : List Byte) :
    Short (d ++ data) (o ++ out) := by
  obtain ⟨pre, pre', x, rfl, rfl⟩ := h
  exact ⟨d ++ pre, o ++ pre', x, (List.append_assoc ..).symm, (List.append_assoc ..).symm⟩

theorem Short.rest {data : List Byte} (h : data ≠ []) : Short data data :=
  ⟨data.dropLast, data.dropLast, data.getLast h, (List.dropLast_concat_getLast h).symm,
    (List.dropLast_concat_getLast h).symm⟩

/-- **What the main loop does with the data that is left.** -/
structure Outcome (ctx : Aes) (b0 : List Byte) (i : Nat) (b : List Byte) (dataLen : Int)
    (done pos : List Byte) (rest : Chain) (r : Chain × List Byte) : Prop where
  ccm : dataLen = (pos ++ rest.flatten).length → Gatherable (pos.length :: sizes rest) →
    r.1.flatten = done ++ ctrXor ctx (setCounter b0) i (pos ++ rest.flatten) ∧
      r.2 = cbcMac ctx b (pos ++ rest.flatten)
  short : dataLen < (pos ++ rest.flatten).length ∨ ¬ Gatherable (pos.length :: sizes rest) →
    Short (pos ++ rest.flatten) r.1.flatten

/-- The loop counts the data that is left, or less. -/
def Counted (dataLen : Int) (data : List Byte) : Prop :=
  dataLen ≤ data.length ∧ (dataLen < data.length → data ≠ [])

variable {fuel i : Nat} {b done pos : List Byte} {rest : Chain}

theorem outcome_done {dataLen : Int} (h : dataLen ≤ 0) (hc : Counted dataLen (pos ++ rest.flatten)) :
    Outcome ctx b0 i b dataLen done pos rest (encryptLoop ctx b0 fuel i b dataLen done pos rest) := by
  rw [encryptLoop_done h]
  constructor
  · intro hlen _
    have hnil : pos ++ rest.flatten = [] := List.length_eq_zero_iff.1 (by omega)
    rw [hnil, ctrXor_nil, cbcMac_nil, List.flatten_cons, List.append_assoc, hnil]
    exact ⟨rfl, rfl⟩
  · intro hshort
    have hne : pos ++ rest.flatten ≠ [] := by
      rcases hshort with hlt | hng
      · exact hc.2 hlt
      · intro hnil
        refine hng (gatherable_single ?_)
        rw [sum_sizes, List.length_eq_zero_iff]
        exact (List.append_eq_nil_iff.1 hnil).2
    rw [List.flatten_cons, List.append_assoc]
    exact (Short.rest hne).append [] done

theorem outcome_last {dataLen : Nat} (hpos : 0 < dataLen) (h16 : min pos.length dataLen < 16)
    (hc : Counted dataLen pos) :
    Outcome ctx b0 i b dataLen done pos [] (encryptLoop ctx b0 (fuel + 1) i b dataLen done pos []) := by
  have hle : dataLen ≤ pos.length := Int.ofNat_le.1 hc.1
  have hmin : min pos.length dataLen = dataLen := Nat.min_eq_right hle
  rw [hmin] at h16
  have hspace : (if (pos.length : Int) > (dataLen : Int) then (dataLen : Int) else pos.length) = dataLen := by
    split <;> omega
  have h0 : dataLen / 16 = 0 := by omega
  have hne : (dataLen : Int) ≠ 0 := by omega
  have hnle : ¬ ((dataLen : Int) ≤ 0) := by omega
  have hr : encryptLoop ctx b0 (fuel + 1) i b dataLen done pos [] =
      ([done ++ (ccmpEncryptBlock ctx b0 i b pos dataLen).2], (ccmpEncryptBlock ctx b0 i b pos dataLen).1) := by
    unfold encryptLoop
    dsimp only
    rw [hspace, Int.toNat_natCast, h0]
    simp only [encryptFull, List.append_nil, Nat.mul_zero, List.drop_zero, Nat.add_zero, Int.natCast_zero,
      Int.sub_zero, Int.toNat_natCast, if_neg hnle, if_pos hne]
  rw [hr]
  unfold ccmpEncryptBlock
  constructor
  · intro hlen _
    rw [List.flatten_nil, List.append_nil] at hlen ⊢
    have hlen' : dataLen = pos.length := Int.ofNat_inj.1 hlen
    have hfirst : FirstBlock 15 pos [] := ⟨List.length_pos_iff.1 (by omega), .inr ⟨by omega, rfl⟩⟩
    rw [← List.append_nil pos, ctrXor_block hfirst, cbcMac_block hfirst, ctrXor_nil, cbcMac_nil,
      List.append_nil, List.append_nil, hlen', List.take_length, xorAt_take, List.flatten_cons,
      List.flatten_nil, List.append_nil]
    exact ⟨rfl, rfl⟩
  · intro hshort
    rw [List.flatten_nil, List.append_nil] at hshort ⊢
    have hlt : dataLen < pos.length := by
      rcases hshort with hlt | hng
      · exact Int.ofNat_lt.1 hlt
      · exact absurd (gatherable_single rfl) hng
    have htake : (pos.take dataLen).length = dataLen := by
      rw [List.length_take]
      omega
    have hdrop : pos.drop dataLen ≠ [] := by
      rw [← List.length_pos_iff, List.length_drop]
      omega
    have hxor : xorAt pos 0 ((ctx.encrypt (setCounter b0 i)).take dataLen) =
        xorAt (pos.take dataLen) 0 (ctx.encrypt (setCounter b0 i)) ++ pos.drop dataLen := by
      have := xorAt_prefix (pos.take dataLen) (pos.drop dataLen) (ctx.encrypt (setCounter b0 i))
      rwa [List.take_append_drop, htake] at this
    rw [List.flatten_cons, List.flatten_nil, List.append_nil, hxor, ← List.append_assoc,
      ← List.take_append_drop dataLen pos]
    have := (Short.rest hdrop).append (pos.take dataLen)
      (done ++ xorAt (pos.take dataLen) 0 (ctx.encrypt (setCounter b0 i)))
    rwa [List.take_append_drop] at this ⊢

theorem outcome_next {dataLen : Nat} {m : List Byte} {ms : Chain} (hpos : 0 < dataLen)
    (h : Outcome ctx b0 i b dataLen [] m ms (encryptLoop ctx b0 fuel i b dataLen [] m ms)) :
    Outcome ctx b0 i b dataLen done [] (m :: ms)
      (encryptLoop ctx b0 (fuel + 1) i b dataLen done [] (m :: ms)) := by
  have hspace : (if ((([] : List Byte).length : Nat) : Int) > (dataLen : Int) then (dataLen : Int)
      else (([] : List Byte).length : Nat)) = (0 : Nat) := by
    rw [List.length_nil]
    split <;> omega
  have hnle : ¬ ((dataLen : Int) ≤ 0) := by omega
  have hr : encryptLoop ctx b0 (fuel + 1) i b dataLen done [] (m :: ms) =
      (done :: (encryptLoop ctx b0 fuel i b dataLen [] m ms).1,
        (encryptLoop ctx b0 fuel i b dataLen [] m ms).2) := by
    conv_lhs => unfold encryptLoop
    dsimp only
    rw [hspace, Int.toNat_natCast, Nat.zero_div]
    simp only [encryptFull, List.append_nil, Nat.mul_zero, List.drop_zero, Nat.add_zero, Int.natCast_zero,
      Int.sub_zero, if_neg hnle, ne_eq, not_true_eq_false, if_false]
  rw [hr]
  constructor
  · intro hlen hg
    obtain ⟨hflat, hmac⟩ := h.ccm hlen (gatherable_zero.1 hg)
    rw [List.flatten_cons, hflat]
    exact ⟨rfl, hmac⟩
  · intro hshort
    have hs := h.short (hshort.imp_right fun hng hg => hng (gatherable_zero.2 hg))
    exact hs.append [] done

/-- **A block that straddles.** -/
theorem outcome_straddle {dataLen : Nat} {m : List Byte} {ms : Chain} (hpos : 0 < dataLen)
    (hs : 0 < pos.length) (h16 : min pos.length dataLen < 16)
    (hc : Counted dataLen (pos ++ (m :: ms).flatten))
    (ih : ∀ (b' front : List Byte) {pos' : List Byte} {rest' : Chain} {dataLen' : Int}, rest'.length ≤ ms.length →
      Counted dataLen' (pos' ++ rest'.flatten) → Outcome ctx b0 (i + 1) b' dataLen' front pos' rest'
        (encryptLoop ctx b0 fuel (i + 1) b' dataLen' front pos' rest')) :
    Outcome ctx b0 i b dataLen done pos (m :: ms)
      (encryptLoop ctx b0 (fuel + 1) i b dataLen done pos (m :: ms)) := by
  have hlenle : dataLen ≤ (pos ++ (m :: ms).flatten).length := Int.ofNat_le.1 hc.1
  rw [List.length_append] at hlenle
  have hspace : (if (pos.length : Int) > (dataLen : Int) then (dataLen : Int) else pos.length) =
      (min pos.length dataLen : Nat) := by
    split <;> omega
  have h0 : min pos.length dataLen / 16 = 0 := by omega
  have hne : ((min pos.length dataLen : Nat) : Int) ≠ 0 := by omega
  have hnle : ¬ ((dataLen : Int) ≤ 0) := by omega
  obtain ⟨ws, m', ms', f, hns, hf, hle, hexact, hgather, hscatter⟩ :=
    walk (min pos.length dataLen) dataLen (List.cons_ne_nil m ms) (by omega)
  obtain ⟨whole, front, hsc, hw⟩ := hscatter (ctx.encrypt (setCounter b0 i))
  -- the round, with what `walk` says
  have hr : encryptLoop ctx b0 (fuel + 1) i b dataLen done pos (m :: ms) =
      let r := ccmpEncryptBlock ctx b0 i (xorAt b (min pos.length dataLen) (ws.flatten ++ m'.take f)) pos
        (min pos.length dataLen)
      let t := encryptLoop ctx b0 fuel (i + 1) r.1 (dataLen - (16 : Nat)) front (m'.drop f) ms'
      ((done ++ r.2) :: (whole ++ t.1), t.2) := by
    conv_lhs => unfold encryptLoop
    dsimp only
    rw [hspace, Int.toNat_natCast, h0]
    simp only [encryptFull, List.append_nil, Nat.mul_zero, List.drop_zero, Nat.add_zero, Int.natCast_zero,
      Int.sub_zero, Int.toNat_natCast, if_neg hnle, if_pos hne, hgather, hsc]
  rw [hr]
  dsimp only
  have hflat : (m :: ms).flatten = (ws.flatten ++ m'.take f) ++ (m'.drop f ++ ms'.flatten) := by
    rw [hns, List.flatten_append, List.flatten_cons, List.append_assoc, ← List.append_assoc (m'.take f),
      List.take_append_drop]
  have hms : ms'.length ≤ ms.length := by
    have := congrArg List.length hns
    rw [List.length_cons, List.length_append, List.length_cons] at this
    omega
  have hg : (ws.flatten ++ m'.take f).length = ws.flatten.length + f := by
    rw [List.length_append, List.length_take, Nat.min_eq_left hf]
  have htotal : (m :: ms).flatten.length =
      ws.flatten.length + f + (m'.drop f ++ ms'.flatten).length := by
    rw [hflat, List.length_append, hg]
  have hout : ∀ (p : List Byte) (t : Chain), ((done ++ p) :: (whole ++ t)).flatten =
      done ++ (p ++ (whole.flatten ++ t.flatten)) := by
    intro p t
    rw [List.flatten_cons, List.flatten_append, List.append_assoc]
  by_cases hclip : dataLen < pos.length
  · -- less is counted than the mbuf has: what follows is not touched
    have hmin : min pos.length dataLen = dataLen := Nat.min_eq_right (Nat.le_of_lt hclip)
    rw [hmin] at hw hle ⊢
    have hnil : ws.flatten ++ m'.take f = [] := by
      rw [← List.length_eq_zero_iff, hg]
      omega
    rw [hnil, xorAt_nil_left] at hw
    constructor
    · intro hlen
      rw [List.length_append] at hlen
      omega
    · intro _
      have htake : (pos.take dataLen).length = dataLen := by
        rw [List.length_take]
        omega
      have hxor := xorAt_prefix (pos.take dataLen) (pos.drop dataLen) (ctx.encrypt (setCounter b0 i))
      rw [List.take_append_drop, htake] at hxor
      have hne : pos.drop dataLen ++ (m :: ms).flatten ≠ [] := by
        rw [← List.length_pos_iff, List.length_append, List.length_drop]
        omega
      obtain ⟨hwhole, hfront⟩ := List.append_eq_nil_iff.1 hw
      have hflat' : (m :: ms).flatten = m'.drop f ++ ms'.flatten := by
        rw [hflat, hnil, List.nil_append]
      rw [encryptLoop_done (by omega)]
      unfold ccmpEncryptBlock
      dsimp only
      have hrest : ((front ++ m'.drop f) :: ms').flatten = (m :: ms).flatten := by
        rw [List.flatten_cons, hfront, List.nil_append, hflat']
      rw [hout, hxor, hwhole, List.nil_append, hrest, List.append_assoc, ← List.append_assoc done]
      have hshort := (Short.rest hne).append (pos.take dataLen)
        (done ++ xorAt (pos.take dataLen) 0 (ctx.encrypt (setCounter b0 i)))
      rwa [← List.append_assoc (pos.take dataLen), List.take_append_drop] at hshort
  · -- the block is the data of the mbuf, and what the two loops take
    have hmin : min pos.length dataLen = pos.length := Nat.min_eq_left (Nat.le_of_not_lt hclip)
    rw [hmin] at hw hle hexact h16 ⊢
    have hblock : ccmpEncryptBlock ctx b0 i (xorAt b pos.length (ws.flatten ++ m'.take f)) pos pos.length =
        (ctx.encrypt (xorAt b 0 (pos ++ (ws.flatten ++ m'.take f))),
          xorAt pos 0 (ctx.encrypt (setCounter b0 i))) := by
      unfold ccmpEncryptBlock
      rw [List.take_length, xorAt_append_rev, xorAt_take]
    rw [hblock]
    dsimp only
    have hdata : pos ++ (m :: ms).flatten =
        (pos ++ (ws.flatten ++ m'.take f)) ++ (m'.drop f ++ ms'.flatten) := by
      rw [hflat, List.append_assoc pos]
    have hdlen : (pos ++ (ws.flatten ++ m'.take f)).length = pos.length + (ws.flatten.length + f) := by
      rw [List.length_append, hg]
    have hsizes : sizes (m :: ms) = sizes ws ++ m'.length :: sizes ms' := by
      rw [hns]
      unfold sizes
      rw [List.map_append, List.map_cons]
    have hsum : (sizes (m :: ms)).sum = (m :: ms).flatten.length := sum_sizes _
    have hsumws : (sizes ws).sum = ws.flatten.length := sum_sizes _
    have hrlen : (m'.drop f).length = m'.length - f := List.length_drop
    have hlast : dataLen = pos.length + (m :: ms).flatten.length →
        ws.flatten.length + f = min dataLen 16 - pos.length →
        (Gatherable (pos.length :: sizes (m :: ms)) ↔
          Exact pos.length dataLen (sizes (m :: ms)) ∧ Gatherable ((m'.drop f).length :: sizes ms')) := by
      intro hlen hneed
      rw [hrlen, hlen, ← hsum, hsizes]
      refine gatherable_straddle hs (by omega) ?_ hf
      rw [← hsizes, hsum, hsumws, ← hlen]
      exact hneed
    generalize hb : ctx.encrypt (xorAt b 0 (pos ++ (ws.flatten ++ m'.take f))) = b'
    constructor
    · intro hlen hgath
      rw [List.length_append] at hlen
      have hlen' : dataLen = pos.length + (m :: ms).flatten.length := by omega
      have hex := hgath.exact hs (by omega)
      rw [hsum, ← hlen'] at hex
      have hneed := hexact.1 hex
      have hg' := ((hlast hlen' hneed).1 hgath).2
      have hne : pos ++ (ws.flatten ++ m'.take f) ≠ [] := by
        rw [← List.length_pos_iff, hdlen]
        omega
      -- what follows the block
      have htail : ∃ t : Chain × List Byte,
          encryptLoop ctx b0 fuel (i + 1) b' (dataLen - (16 : Nat)) front (m'.drop f) ms' = t ∧
          t.1.flatten = front ++ ctrXor ctx (setCounter b0) (i + 1) (m'.drop f ++ ms'.flatten) ∧
          t.2 = cbcMac ctx b' (m'.drop f ++ ms'.flatten) ∧
          FirstBlock 15 (pos ++ (ws.flatten ++ m'.take f)) (m'.drop f ++ ms'.flatten) := by
        by_cases hfull : 16 ≤ dataLen
        · have hrest : (dataLen : Int) - (16 : Nat) = (m'.drop f ++ ms'.flatten).length := by omega
          have hc' : Counted ((dataLen : Int) - (16 : Nat)) (m'.drop f ++ ms'.flatten) :=
            ⟨Int.le_of_eq hrest, fun hlt => absurd hrest (Int.ne_of_lt hlt)⟩
          obtain ⟨h1, h2⟩ := (ih b' front hms hc').ccm hrest hg'
          exact ⟨_, rfl, h1, h2, hne, .inl (by omega)⟩
        · have hnil : m'.drop f ++ ms'.flatten = [] := by
            rw [← List.length_eq_zero_iff]
            omega
          refine ⟨_, encryptLoop_done (by omega), ?_, ?_, hne, .inr ⟨by omega, hnil⟩⟩
          · rw [List.flatten_cons, List.append_assoc, hnil, ctrXor_nil]
          · rw [hnil, cbcMac_nil]
      obtain ⟨t, ht, h1, h2, hfirst⟩ := htail
      rw [ht, hout, h1, h2, hdata, ctrXor_block hfirst, cbcMac_block hfirst, hb, xorAt_zero_append pos, ← hw]
      refine ⟨?_, rfl⟩
      simp only [List.append_assoc]
    · intro hshort
      have htail : Short (m'.drop f ++ ms'.flatten)
          (encryptLoop ctx b0 fuel (i + 1) b' (dataLen - (16 : Nat)) front (m'.drop f) ms').1.flatten := by
        have hless : (dataLen : Int) - (16 : Nat) < (m'.drop f ++ ms'.flatten).length →
            0 < (m'.drop f ++ ms'.flatten).length → Short (m'.drop f ++ ms'.flatten)
              (encryptLoop ctx b0 fuel (i + 1) b' (dataLen - (16 : Nat)) front (m'.drop f) ms').1.flatten :=
          fun hlt h0 => (ih _ _ hms ⟨Int.le_of_lt hlt, fun _ => List.length_pos_iff.1 h0⟩).short (.inl hlt)
        rw [List.length_append] at hshort
        by_cases hlen : dataLen = pos.length + (m :: ms).flatten.length
        · have hng := hshort.resolve_left (by omega)
          by_cases hex : Exact pos.length dataLen (sizes (m :: ms))
          · have hng' : ¬ Gatherable ((m'.drop f).length :: sizes ms') :=
              fun hg' => hng ((hlast hlen (hexact.1 hex)).2 ⟨hex, hg'⟩)
            have hneed := hexact.1 hex
            have hfull : 16 ≤ dataLen := by
              refine Nat.le_of_not_lt fun hlt => hng' (gatherable_single ?_)
              have htail : (m'.drop f ++ ms'.flatten).length = _ := List.length_append
              rw [sum_sizes]
              omega
            have hrest : (dataLen : Int) - (16 : Nat) = (m'.drop f ++ ms'.flatten).length := by omega
            have hc' : Counted ((dataLen : Int) - (16 : Nat)) (m'.drop f ++ ms'.flatten) :=
              ⟨Int.le_of_eq hrest, fun hlt => absurd hrest (Int.ne_of_lt hlt)⟩
            exact (ih _ _ hms hc').short (.inr hng')
          · have hlt : ws.flatten.length + f < min dataLen 16 - pos.length :=
              Nat.lt_of_le_of_ne hle fun h => hex (hexact.2 h)
            exact hless (by omega) (by omega)
        · exact hless (by omega) (by omega)
      rw [hout, hdata]
      have h := htail.append (pos ++ (ws.flatten ++ m'.take f))
        (done ++ (xorAt pos 0 (ctx.encrypt (setCounter b0 i)) ++ whole.flatten))
      simpa only [List.append_assoc] using h

/-- **The main loop.** -/
theorem encryptLoop_outcome (fuel : Nat) : ∀ {i : Nat} {b done pos : List Byte} {rest : Chain}
    {dataLen : Int}, rest.length < fuel → Counted dataLen (pos ++ rest.flatten) →
    Outcome ctx b0 i b dataLen done pos rest (encryptLoop ctx b0 fuel i b dataLen done pos rest) := by
  induction fuel with
  | zero => exact fun h => absurd h (Nat.not_lt_zero _)
  | succ fuel ih =>
    intro i b done pos rest dataLen hfuel hc
    by_cases hpos : dataLen ≤ 0
    · exact outcome_done hpos hc
    obtain ⟨dataLen, rfl⟩ := Int.eq_ofNat_of_zero_le (Int.le_of_lt (Int.not_le.1 hpos))
    generalize hn : min pos.length dataLen / 16 = n
    have hle : 16 * n ≤ pos.length := by omega
    rw [encryptLoop_full hn.symm]
    obtain ⟨hmac, hctr⟩ := encryptFull_spec ctx b0 n i b hle rest.flatten
    generalize (encryptFull ctx b0 n i b pos).2 = out at hctr ⊢
    generalize (encryptFull ctx b0 n i b pos).1 = b' at hmac ⊢
    have hdrop : (pos.drop (16 * n)).length = pos.length - 16 * n := List.length_drop
    have hcle : (dataLen : Int) ≤ (pos ++ rest.flatten).length := hc.1
    rw [List.length_append] at hcle
    have hlen : (pos.drop (16 * n) ++ rest.flatten).length = (pos ++ rest.flatten).length - 16 * n := by
      rw [List.length_append, List.length_append]
      omega
    have hc' : Counted ((dataLen - 16 * n : Nat) : Int) (pos.drop (16 * n) ++ rest.flatten) := by
      refine ⟨?_, fun hlt => List.length_pos_iff.1 (by omega)⟩
      rw [hlen, List.length_append]
      omega
    -- the round without whole blocks
    have hround : Outcome ctx b0 (i + n) b' ((dataLen - 16 * n : Nat) : Int) (done ++ out) (pos.drop (16 * n))
        rest (encryptLoop ctx b0 (fuel + 1) (i + n) b' ((dataLen - 16 * n : Nat) : Int) (done ++ out)
          (pos.drop (16 * n)) rest) := by
      by_cases h0 : dataLen - 16 * n = 0
      · exact outcome_done (by omega) hc'
      · cases rest with
        | nil =>
          refine outcome_last (Nat.pos_of_ne_zero h0) (by omega) ?_
          rwa [List.flatten_nil, List.append_nil] at hc'
        | cons m ms =>
          rw [List.length_cons] at hfuel
          by_cases hnil : pos.drop (16 * n) = []
          · rw [hnil] at hc' ⊢
            exact outcome_next (Nat.pos_of_ne_zero h0) (ih (by omega) hc')
          · refine outcome_straddle (Nat.pos_of_ne_zero h0) (List.length_pos_iff.2 hnil) (by omega) hc' ?_
            exact fun _ _ _ _ _ hms hcounted => ih (by omega) hcounted
    have hgath : Gatherable (pos.length :: sizes rest) ↔ Gatherable ((pos.drop (16 * n)).length :: sizes rest) := by
      have hp : pos.length = 16 * n + (pos.drop (16 * n)).length := by omega
      rw [hp]
      exact gatherable_blocks n
    constructor
    · intro hR hg
      rw [List.length_append] at hR
      have hR' : ((dataLen - 16 * n : Nat) : Int) = (pos.drop (16 * n) ++ rest.flatten).length := by
        rw [hlen, List.length_append]
        omega
      obtain ⟨h1, h2⟩ := hround.ccm hR' (hgath.1 hg)
      rw [h1, h2, hmac, hctr, List.append_assoc]
      exact ⟨rfl, rfl⟩
    · intro hshort
      rw [List.length_append] at hshort
      have h := hround.short (hshort.imp (fun hlt => by rw [hlen, List.length_append]; omega)
        fun hng hg => hng (hgath.2 hg))
      have h' := h.append (pos.take (16 * n)) []
      rwa [← List.append_assoc, List.take_append_drop] at h'

end Loop

/-! ## The frame -/

section Frame

variable {m0 : List Byte} {rest : Chain} {hdrlen : Nat}

theorem getD_append_left {first : List Byte} (more : List Byte) {i : Nat} (h : i < first.length) :
    (first ++ more).getD i 0 = first.getD i 0 := by
  rw [List.getD_eq_getElem?_getD, List.getElem?_append_left h, ← List.getD_eq_getElem?_getD]

theorem slice_append_left {first : List Byte} (more : List Byte) {i k : Nat} (h : i + k ≤ first.length) :
    ((first ++ more).drop i).take k = (first.drop i).take k := by
  rw [List.drop_append_of_le_length (by omega), List.take_append_of_le_length]
  rw [List.length_drop]
  omega

theorem ccmpInitBlocks_append {first : List Byte} (h : 32 ≤ first.length) (more : List Byte) (ctx : Aes)
    (pn : BitVec 64) (dlen : Nat) :
    ccmpInitBlocks ctx (first ++ more) pn dlen = ccmpInitBlocks ctx first pn dlen := by
  have h0 := getD_append_left more (by omega : 0 < first.length)
  have h1 := getD_append_left more (by omega : 1 < first.length)
  have h22 := getD_append_left more (by omega : 22 < first.length)
  have h24 := getD_append_left more (by omega : 24 < first.length)
  have h30 := getD_append_left more (by omega : 30 < first.length)
  have hsix : IEEE80211_ADDR_LEN = 6 := rfl
  have ha1 := slice_append_left more (by omega : 4 + 3 * IEEE80211_ADDR_LEN ≤ first.length)
  have ha2 := slice_append_left more (by omega : 10 + IEEE80211_ADDR_LEN ≤ first.length)
  have ha4 := slice_append_left more (by omega : 24 + IEEE80211_ADDR_LEN ≤ first.length)
  unfold ccmpInitBlocks ccmpAad b0Flags iQos0 isDstods qosHasSeq
  rw [h0, h1, h22, h24, h30, ha1, ha2, ha4]

/-- **CCM over the payload of a frame**, with the blocks of `ccmp_init_blocks`: the frame, and the MIC. -/
def ccmFrame (ctx : Aes) (pn : BitVec 64) (frame : List Byte) (hdrlen : Nat) : List Byte × List Byte :=
  let payload := frame.drop (hdrlen + icHeader)
  let init := ccmpInitBlocks ctx frame pn payload.length
  (frame.take (hdrlen + icHeader) ++ ctrXor ctx (setCounter init.b0) 1 payload,
    (xorAt (cbcMac ctx init.auth payload) 0 (init.s0.take icTrailer)).take icTrailer)

theorem frame_parts (h : hdrlen + icHeader ≤ m0.length) :
    (m0 ++ rest.flatten).take (hdrlen + icHeader) = m0.take (hdrlen + icHeader) ∧
      (m0 ++ rest.flatten).drop (hdrlen + icHeader) = m0.drop (hdrlen + icHeader) ++ rest.flatten :=
  ⟨List.take_append_of_le_length h, List.drop_append_of_le_length h⟩

theorem encryptChain_outcome (ctx : Aes) (pn : BitVec 64) (h24 : 24 ≤ hdrlen)
    (h : hdrlen + icHeader ≤ m0.length) :
    (Gatherable ((m0.length - (hdrlen + icHeader)) :: sizes rest) →
      (encryptChain ctx pn (m0 :: rest) hdrlen).1.flatten = (ccmFrame ctx pn (m0 ++ rest.flatten) hdrlen).1 ∧
        (encryptChain ctx pn (m0 :: rest) hdrlen).2 = (ccmFrame ctx pn (m0 ++ rest.flatten) hdrlen).2) ∧
      (¬ Gatherable ((m0.length - (hdrlen + icHeader)) :: sizes rest) →
        Short (m0.drop (hdrlen + icHeader) ++ rest.flatten)
          (encryptChain ctx pn (m0 :: rest) hdrlen).1.flatten) := by
  obtain ⟨htake, hdrop⟩ := @frame_parts m0 rest hdrlen h
  have hlen : (m0.drop (hdrlen + icHeader)).length = m0.length - (hdrlen + icHeader) := List.length_drop
  have hdata : ((m0 :: rest).flatten.length : Int) - (hdrlen + icHeader : Nat) =
      (m0.drop (hdrlen + icHeader) ++ rest.flatten).length := by
    rw [List.flatten_cons, List.length_append, List.length_append, hlen]
    omega
  have hic : icHeader = 8 := rfl
  have hinit := ccmpInitBlocks_append (by omega : 32 ≤ m0.length) rest.flatten ctx pn
  have hc : Counted (m0.drop (hdrlen + icHeader) ++ rest.flatten).length
      (m0.drop (hdrlen + icHeader) ++ rest.flatten) :=
    ⟨Int.le_refl _, fun hlt => absurd hlt (Int.lt_irrefl _)⟩
  have hout : Outcome ctx (ccmpInitBlocks ctx m0 pn (m0.drop (hdrlen + icHeader) ++ rest.flatten).length).b0 1
      (ccmpInitBlocks ctx m0 pn (m0.drop (hdrlen + icHeader) ++ rest.flatten).length).auth _
      (m0.take (hdrlen + icHeader)) _ rest _ :=
    encryptLoop_outcome (rest.length + 1) (Nat.lt_succ_self _) hc
  unfold encryptChain ccmFrame
  dsimp only
  rw [hdata, Int.toNat_natCast, htake, hdrop, hinit, ← hlen]
  constructor
  · intro hg
    obtain ⟨h1, h2⟩ := hout.ccm rfl hg
    rw [h1, h2]
    exact ⟨rfl, rfl⟩
  · exact fun hg => hout.short (.inr hg)

/-- A block function for which counter mode changes the lowest bit of each byte. -/
def lowBits : Aes where
  encrypt _ := List.replicate 16 1
  length_encrypt _ := List.length_replicate

theorem ctrXor_lowBits (ctr : Nat → List Byte) (i : Nat) (data : List Byte) :
    ctrXor lowBits ctr i data = data.map (· ^^^ 1) := by
  have hxor : ∀ (d : List Byte) (k : Nat), d.length ≤ k → xorAt d 0 (List.replicate k 1) = d.map (· ^^^ 1) := by
    intro d
    induction d with
    | nil => exact fun _ _ => rfl
    | cons x d ih =>
      intro k hk
      cases k with
      | zero => exact absurd hk (Nat.not_succ_le_zero _)
      | succ k => exact congrArg (List.cons (x ^^^ 1)) (ih k (Nat.le_of_succ_le_succ hk))
  fun_induction ctrXor lowBits ctr i data with
  | case1 => rfl
  | case2 i data h ih =>
    rw [ih]
    show xorAt (data.take 16) 0 (List.replicate 16 1) ++ _ = _
    rw [hxor _ 16 (List.length_take_le _ _), ← List.map_append, List.take_append_drop]

/-- **`ccmp_encrypt` on a payload in one mbuf is CCM, and it is the same on a payload that is divided,
    whatever the block function, if and only if the division is `Gatherable`.** -/
theorem encryptChain_divided (pn : BitVec 64) (h24 : 24 ≤ hdrlen) (h : hdrlen + icHeader ≤ m0.length) :
    (∀ ctx, (encryptChain ctx pn [m0 ++ rest.flatten] hdrlen).1.flatten =
        (ccmFrame ctx pn (m0 ++ rest.flatten) hdrlen).1 ∧
      (encryptChain ctx pn [m0 ++ rest.flatten] hdrlen).2 = (ccmFrame ctx pn (m0 ++ rest.flatten) hdrlen).2) ∧
    ((∀ ctx, (encryptChain ctx pn (m0 :: rest) hdrlen).1.flatten =
          (encryptChain ctx pn [m0 ++ rest.flatten] hdrlen).1.flatten ∧
        (encryptChain ctx pn (m0 :: rest) hdrlen).2 =
          (encryptChain ctx pn [m0 ++ rest.flatten] hdrlen).2) ↔
      Gatherable ((m0.length - (hdrlen + icHeader)) :: sizes rest)) := by
  have hone : ∀ ctx, (encryptChain ctx pn [m0 ++ rest.flatten] hdrlen).1.flatten =
        (ccmFrame ctx pn (m0 ++ rest.flatten) hdrlen).1 ∧
      (encryptChain ctx pn [m0 ++ rest.flatten] hdrlen).2 =
        (ccmFrame ctx pn (m0 ++ rest.flatten) hdrlen).2 := by
    intro ctx
    have hle : hdrlen + icHeader ≤ (m0 ++ rest.flatten).length := by
      rw [List.length_append]
      omega
    have := (@encryptChain_outcome _ [] _ ctx pn h24 hle).1 (gatherable_single rfl)
    rwa [List.flatten_nil, List.append_nil] at this
  refine ⟨hone, ?_, ?_⟩
  · intro hall
    by_cases hg : Gatherable ((m0.length - (hdrlen + icHeader)) :: sizes rest)
    · exact hg
    · -- the last byte would have to be its own encryption
      obtain ⟨pre, pre', x, hdata, hout⟩ := (encryptChain_outcome lowBits pn h24 h).2 hg
      have hsame := (hall lowBits).1
      rw [hout, (hone lowBits).1] at hsame
      unfold ccmFrame at hsame
      dsimp only at hsame
      rw [(frame_parts h).2, hdata, ctrXor_lowBits, List.map_append, ← List.append_assoc] at hsame
      have hx : x = x ^^^ 1 := (List.cons.inj (List.append_inj' hsame rfl).2).1
      have hbit := congrArg (fun y : Byte => y.getLsbD 0) hx
      simp at hbit
  · intro hg ctx
    obtain ⟨h1, h2⟩ := (encryptChain_outcome ctx pn h24 h).1 hg
    exact ⟨h1.trans (hone ctx).1.symm, h2.trans (hone ctx).2.symm⟩

/-- A payload of three bytes in three mbufs: the last byte is not encrypted. -/
theorem encryptChain_three_mbufs :
    (encryptChain lowBits 1 [List.replicate 33 0, [0], [0]] 24).1.flatten = List.replicate 32 0 ++ [1, 1, 0] ∧
      (encryptChain lowBits 1 [List.replicate 35 0] 24).1.flatten = List.replicate 32 0 ++ [1, 1, 1] := by
  decide

/-- A payload of 40 bytes, divided inside its first and inside its second block. -/
theorem encryptChain_divided_twice : Gatherable [10, 10, 20] ∧ ∀ ctx : Aes,
    (encryptChain ctx 1 [List.replicate 42 0, List.replicate 10 0, List.replicate 20 0] 24).1.flatten =
        (encryptChain ctx 1 [List.replicate 72 0] 24).1.flatten ∧
      (encryptChain ctx 1 [List.replicate 42 0, List.replicate 10 0, List.replicate 20 0] 24).2 =
        (encryptChain ctx 1 [List.replicate 72 0] 24).2 := by
  have hg : Gatherable [10, 10, 20] := by decide
  exact ⟨hg, (@encryptChain_divided (List.replicate 42 0) [List.replicate 10 0, List.replicate 20 0] 24 1
    (by decide) (by decide)).2.2 hg⟩

end Frame

end Net80211.Ccmp
