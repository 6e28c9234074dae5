import Mathlib.Tactic.Common

/-!
# What the Linux wireless code takes from headers outside the tree

`linux/` holds the drivers, `net/mac80211` and `net/wireless`, not `include/linux`.  The model
takes the sequence-number helpers of `<linux/ieee80211.h>`, `time_after` and `HZ` as a parameter:

* `KernelApi` — the functions, and what they are documented to compute.
* `KernelApi.linux` — the definitions of the kernel headers, an instance.
-/

/-- Distance from `b` forward to `a` in the space of 12-bit sequence numbers. -/
def snDist (a b : Nat) : Nat := (a + 65536 - b) % 4096

theorem snDist_lt (a b : Nat) : snDist a b < 4096 := Nat.mod_lt _ (by decide)

/-- Header functions used on sequence numbers (`u16`) and on `jiffies` (`unsigned long`). -/
structure KernelApi where
  /-- `ieee80211_sn_less` -/
  snLess : Nat → Nat → Bool
  /-- `ieee80211_sn_add` -/
  snAdd : Nat → Nat → Nat
  /-- `ieee80211_sn_inc` -/
  snInc : Nat → Nat
  /-- `ieee80211_sn_sub` -/
  snSub : Nat → Nat → Nat
  /-- `time_after` -/
  timeAfter : BitVec 64 → BitVec 64 → Bool
  /-- `HZ` -/
  hz : Nat
  /-- `sn1` is less when it is more than half the space ahead of `sn2`. -/
  snLess_iff : ∀ sn1 sn2, sn2 ≤ 65536 → (snLess sn1 sn2 = true ↔ 2048 < snDist sn1 sn2)
  snAdd_eq : ∀ sn1 sn2, snAdd sn1 sn2 = (sn1 + sn2) % 4096
  snInc_eq : ∀ sn, snInc sn = (sn + 1) % 4096
  snSub_eq : ∀ sn1 sn2, sn2 ≤ 65536 → snSub sn1 sn2 = snDist sn1 sn2

/-- The kernel's definitions, at `HZ = 250`. -/
def KernelApi.linux : KernelApi where
  snLess sn1 sn2 := decide (2048 < snDist sn1 sn2)
  snAdd sn1 sn2 := (sn1 + sn2) % 4096
  snInc sn := (sn + 1) % 4096
  snSub sn1 sn2 := snDist sn1 sn2
  timeAfter a b := (b - a).msb
  hz := 250
  snLess_iff _ _ _ := by simp
  snAdd_eq _ _ := rfl
  snInc_eq _ := rfl
  snSub_eq _ _ _ := rfl

theorem KernelApi.snLess_eq_false (k : KernelApi) {sn1 sn2 : Nat} (h : sn2 ≤ 65536) :
    k.snLess sn1 sn2 = false ↔ snDist sn1 sn2 ≤ 2048 := by
  rw [Bool.eq_false_iff, ne_eq, k.snLess_iff sn1 sn2 h]
  exact Nat.not_lt

theorem KernelApi.snInc_lt (k : KernelApi) (sn : Nat) : k.snInc sn < 4096 := by
  rw [k.snInc_eq]; exact Nat.mod_lt _ (by decide)
