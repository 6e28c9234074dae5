import Mathlib.Logic.Basic

/-!
# Setup of a key (`freebsd/sys/net80211/ieee80211_crypto.c`)

* `Key`, `Vap` — a key, and what the code around `ieee80211_crypto_newkey` answers: the cipher modules and the driver.
* `newkeyFlags` — the flags that are set up before the driver is asked.
* `rebind` — a cipher is attached, and takes the place of the one before.
* `ieee80211CryptoNewkey` — the function of this name.
* `Atomic` — a call that fails leaves the key alone; one that succeeds leaves it attached.
* `newkey_atomic_iff` — when a call is atomic.
-/

namespace Net80211.Crypto

/-! ## Data -/

/-- `ieee80211_keyix` -/
abbrev Keyix := BitVec 16

def IEEE80211_KEY_XMIT : BitVec 32 := 0x00000001
def IEEE80211_KEY_RECV : BitVec 32 := 0x00000002
/-- `IEEE80211_KEY_DEVKEY`: the device key request is completed -/
def IEEE80211_KEY_DEVKEY : BitVec 32 := 0x00000100
/-- `IEEE80211_KEY_COMMON`: `XMIT`, `RECV`, `GROUP` and `NOREPLAY` -/
def IEEE80211_KEY_COMMON : BitVec 32 := 0x0000000f
/-- `IEEE80211_KEY_SWCRYPT`: `SWENCRYPT` and `SWDECRYPT` -/
def IEEE80211_KEY_SWCRYPT : BitVec 32 := 0x00000030
/-- `IEEE80211_KEY_SWMIC`: `SWENMIC` and `SWDEMIC` -/
def IEEE80211_KEY_SWMIC : BitVec 32 := 0x000000c0
/-- `IEEE80211_KEY_DEVICE`: the flags owned by the device driver -/
def IEEE80211_KEY_DEVICE : BitVec 32 := 0x0003f1f0

def IEEE80211_CIPHER_TKIP : Nat := 1
def IEEE80211_CIPHER_AES_CCM : Nat := 3
def IEEE80211_CIPHER_TKIPMIC : Nat := 4
def IEEE80211_CIPHER_NONE : Nat := 6
def IEEE80211_CIPHER_MAX : Nat := IEEE80211_CIPHER_NONE + 1

/-- The private state of a cipher: what it was attached for. -/
structure Ctx where
  cipher : Nat
  flags : BitVec 32
  deriving DecidableEq, Repr

/-- `struct ieee80211_key`; a cipher is its number in `ciphers`. -/
structure Key where
  wkFlags : BitVec 32
  wkKeyix : Keyix
  wkRxkeyix : Keyix
  wkCipher : Nat
  wkPrivate : Ctx
  deriving DecidableEq, Repr

/-- What `iv_key_alloc` answers: the flags are those that it leaves in the key. -/
structure KeyAlloc where
  ok : Bool
  flags : BitVec 32
  keyix : Keyix
  rxkeyix : Keyix
  deriving DecidableEq, Repr

structure Vap where
  /-- the entry of `ciphers` is set -/
  ciphers : Nat → Bool
  /-- `ieee80211_load_module` registers the cipher -/
  loadModule : Nat → Bool
  icCryptocaps : BitVec 32
  /-- `ic_attach` gets its memory, the first and the second time -/
  icAttach : Bool → Key → Bool
  ivKeyAlloc : Key → KeyAlloc

/-- The statistics of the vap that a call counts in. -/
structure Stats where
  isCryptoBadcipher : Nat
  isCryptoNocipher : Nat
  isCryptoAttachfail : Nat
  isCryptoKeyfail : Nat
  deriving DecidableEq, Repr

/-- What a call works on; not in the source: whether it has detached the private state the key came with, and
    whether the driver has given an index. -/
structure Work where
  key : Key
  ivStats : Stats
  detached : Bool
  allocated : Bool
  deriving DecidableEq, Repr

/-! ## The function -/

variable (v : Vap) (cipher : Nat) (flags : BitVec 32)

/-- The flags of the key, with what has to be done in software. -/
def newkeyFlags (oflags : BitVec 32) : BitVec 32 :=
  -- device attributes are preserved
  let flags := (flags &&& IEEE80211_KEY_COMMON) ||| (oflags &&& IEEE80211_KEY_DEVICE)
  let flags := if v.icCryptocaps.getLsbD cipher = false then flags ||| IEEE80211_KEY_SWCRYPT else flags
  if cipher = IEEE80211_CIPHER_TKIP ∧ v.icCryptocaps.getLsbD IEEE80211_CIPHER_TKIPMIC = false then
    flags ||| IEEE80211_KEY_SWMIC
  else
    flags

/-- `ic_attach`, and on success `cipher_detach` of the cipher before; on failure the old flags come back. -/
def rebind (again : Bool) (oflags : BitVec 32) (w : Work) : Bool × Work :=
  if v.icAttach again w.key = false then
    (false, { w with
      key := { w.key with wkFlags := oflags }
      ivStats := { w.ivStats with isCryptoAttachfail := w.ivStats.isCryptoAttachfail + 1 } })
  else
    (true, { w with
      key := { w.key with wkCipher := cipher, wkPrivate := { cipher := cipher, flags := w.key.wkFlags } }
      detached := true })

/-- The second half of `ieee80211_crypto_newkey`: the driver is asked for an index, if there is none. -/
def askDriver (oflags flags : BitVec 32) (w : Work) : Bool × Work :=
  if w.key.wkFlags &&& IEEE80211_KEY_DEVKEY = 0 then
    let dev := v.ivKeyAlloc w.key
    let w := { w with key := { w.key with wkFlags := dev.flags }, allocated := dev.ok }
    if dev.ok = false then
      (false, { w with ivStats := { w.ivStats with isCryptoKeyfail := w.ivStats.isCryptoKeyfail + 1 } })
    else
      -- the driver overrode the flags: the context is attached again
      let r := if w.key.wkFlags ≠ flags then rebind v cipher true oflags w else (true, w)
      if r.1 = false then
        r
      else
        (true, { r.2 with
          key := { r.2.key with
            wkKeyix := dev.keyix, wkRxkeyix := dev.rxkeyix, wkFlags := r.2.key.wkFlags ||| IEEE80211_KEY_DEVKEY } })
  else
    (true, w)

def ieee80211CryptoNewkey (stats : Stats) (key : Key) : Bool × Work :=
  let w : Work := { key := key, ivStats := stats, detached := false, allocated := false }
  if cipher ≥ IEEE80211_CIPHER_MAX then
    (false, { w with ivStats := { stats with isCryptoBadcipher := stats.isCryptoBadcipher + 1 } })
  else if v.ciphers cipher = false ∧ v.loadModule cipher = false then
    (false, { w with ivStats := { stats with isCryptoNocipher := stats.isCryptoNocipher + 1 } })
  else
    let oflags := key.wkFlags
    let flags := newkeyFlags v cipher flags oflags
    let r :=
      if key.wkCipher ≠ cipher ∨ key.wkFlags ≠ flags then
        rebind v cipher false oflags { w with key := { key with wkFlags := flags } }
      else
        (true, w)
    if r.1 = false then r else askDriver v cipher oflags flags r.2

/-! ## When a call is atomic -/

/-- The private state is that of the key's cipher, for its flags; `DEVKEY` is set last, and not looked at. -/
def Key.Attached (k : Key) : Prop :=
  k.wkPrivate.cipher = k.wkCipher ∧ k.wkPrivate.flags ||| IEEE80211_KEY_DEVKEY = k.wkFlags ||| IEEE80211_KEY_DEVKEY

instance (k : Key) : Decidable k.Attached := by unfold Key.Attached; infer_instance

/-- **All or nothing.** -/
structure Atomic (key : Key) (r : Bool × Work) : Prop where
  failed : r.1 = false → r.2.key = key ∧ r.2.detached = false ∧ r.2.allocated = false
  done : r.1 = true → r.2.key.Attached ∧ r.2.key.wkFlags &&& IEEE80211_KEY_DEVKEY ≠ 0

variable {v cipher flags} {stats : Stats} {key : Key} {oflags : BitVec 32} {w : Work}

theorem Atomic.of_failed {r : Bool × Work} (hr : r.1 = false) :
    Atomic key r ↔ r.2.key = key ∧ r.2.detached = false ∧ r.2.allocated = false := by
  refine ⟨fun h => h.failed hr, fun h => ⟨fun _ => h, fun hdone => ?_⟩⟩
  rw [hr] at hdone
  cases hdone

theorem Atomic.of_done {r : Bool × Work} (hr : r.1 = true) :
    Atomic key r ↔ r.2.key.Attached ∧ r.2.key.wkFlags &&& IEEE80211_KEY_DEVKEY ≠ 0 := by
  refine ⟨fun h => h.done hr, fun h => ⟨fun hfailed => ?_, fun _ => h⟩⟩
  rw [hr] at hfailed
  cases hfailed

theorem devkey_set (f : BitVec 32) : (f ||| IEEE80211_KEY_DEVKEY) &&& IEEE80211_KEY_DEVKEY ≠ 0 := by
  intro h
  have hbit := congrArg (fun x : BitVec 32 => x.getLsbD 8) h
  simp [IEEE80211_KEY_DEVKEY] at hbit

theorem attached_devkey (k : Key) : Key.Attached { k with wkFlags := k.wkFlags ||| IEEE80211_KEY_DEVKEY } ↔ k.Attached := by
  unfold Key.Attached
  dsimp only
  rw [BitVec.or_assoc, BitVec.or_self]

/-- The key the driver is asked about: bound anew, or as it was. -/
def askedKey (cipher : Nat) (f : BitVec 32) (key : Key) : Key :=
  if key.wkCipher ≠ cipher ∨ key.wkFlags ≠ f then
    { key with wkFlags := f, wkCipher := cipher, wkPrivate := { cipher := cipher, flags := f } }
  else
    key

/-- **What the driver has to do** for a key that is bound anew (`bound`), or is as it was. -/
def DriverFits (v : Vap) (bound : Prop) (k : Key) : Prop :=
  if (v.ivKeyAlloc k).ok = false then ¬ bound ∧ (v.ivKeyAlloc k).flags = k.wkFlags
  else if (v.ivKeyAlloc k).flags ≠ k.wkFlags then v.icAttach true { k with wkFlags := (v.ivKeyAlloc k).flags } = true
  else k.Attached

/-- The driver is asked for a key whose flags are set up. -/
theorem askDriver_atomic {bound : Prop} (hbound : w.detached = true ↔ bound) (hkey : ¬ bound → w.key = key) :
    Atomic key (askDriver v cipher oflags w.key.wkFlags w) ↔
      if w.key.wkFlags &&& IEEE80211_KEY_DEVKEY = 0 then DriverFits v bound w.key else w.key.Attached := by
  unfold askDriver DriverFits
  by_cases hdev : w.key.wkFlags &&& IEEE80211_KEY_DEVKEY = 0
  · rw [if_pos hdev, if_pos hdev]
    dsimp only
    by_cases hok : (v.ivKeyAlloc w.key).ok = false
    · -- the driver has no index
      rw [if_pos hok, if_pos hok, Atomic.of_failed rfl]
      dsimp only
      refine ⟨fun h => ?_, fun h => ?_⟩
      · have hfree : ¬ bound := fun hb => by
          have hd := hbound.mpr hb
          rw [h.2.1] at hd
          cases hd
        refine ⟨hfree, ?_⟩
        have hflags := congrArg Key.wkFlags h.1
        rw [hkey hfree] at hflags ⊢
        exact hflags
      · refine ⟨?_, Bool.eq_false_iff.mpr fun hd => h.1 (hbound.mp hd), hok⟩
        rw [h.2]
        exact hkey h.1
    · rw [if_neg hok, if_neg hok]
      by_cases hflags : (v.ivKeyAlloc w.key).flags ≠ w.key.wkFlags
      · rw [if_pos hflags, if_pos hflags]
        unfold rebind
        dsimp only
        by_cases hattach : v.icAttach true { w.key with wkFlags := (v.ivKeyAlloc w.key).flags } = false
        · -- the index stays allocated
          rw [if_pos hattach, if_pos rfl, Atomic.of_failed rfl]
          dsimp only
          refine iff_of_false (fun h => hok h.2.2) ?_
          rw [hattach]
          exact Bool.false_ne_true
        · rw [if_neg hattach, if_neg (by simp), Atomic.of_done rfl]
          exact iff_of_true ⟨⟨rfl, by rw [BitVec.or_assoc, BitVec.or_self]⟩, devkey_set _⟩ (by simpa using hattach)
      · rw [if_neg hflags, if_neg hflags, if_neg (by simp), Atomic.of_done rfl]
        dsimp only
        rw [not_not.mp hflags]
        exact (and_iff_left (devkey_set _)).trans (attached_devkey w.key)
  · rw [if_neg hdev, if_neg hdev, Atomic.of_done rfl]
    exact and_iff_left hdev

/-- **When a call is atomic.** -/
theorem newkey_atomic_iff (v : Vap) (cipher : Nat) (flags : BitVec 32) (stats : Stats) (key : Key) :
    Atomic key (ieee80211CryptoNewkey v cipher flags stats key) ↔
      let f := newkeyFlags v cipher flags key.wkFlags
      let bound := key.wkCipher ≠ cipher ∨ key.wkFlags ≠ f
      cipher ≥ IEEE80211_CIPHER_MAX ∨ (v.ciphers cipher = false ∧ v.loadModule cipher = false) ∨
        (bound ∧ v.icAttach false { key with wkFlags := f } = false) ∨
        if f &&& IEEE80211_KEY_DEVKEY = 0 then DriverFits v bound (askedKey cipher f key)
        else (askedKey cipher f key).Attached := by
  dsimp only
  obtain ⟨f, hf⟩ : ∃ f, f = newkeyFlags v cipher flags key.wkFlags := ⟨_, rfl⟩
  unfold ieee80211CryptoNewkey
  dsimp only
  rw [← hf]
  by_cases hmax : cipher ≥ IEEE80211_CIPHER_MAX
  · rw [if_pos hmax, Atomic.of_failed rfl]
    exact iff_of_true ⟨rfl, rfl, rfl⟩ (.inl hmax)
  rw [if_neg hmax, or_iff_right hmax]
  by_cases hnone : v.ciphers cipher = false ∧ v.loadModule cipher = false
  · rw [if_pos hnone, Atomic.of_failed rfl]
    exact iff_of_true ⟨rfl, rfl, rfl⟩ (.inl hnone)
  rw [if_neg hnone, or_iff_right hnone]
  unfold askedKey
  by_cases hbound : key.wkCipher ≠ cipher ∨ key.wkFlags ≠ f
  · rw [if_pos hbound, if_pos hbound]
    unfold rebind
    dsimp only
    by_cases hattach : v.icAttach false { key with wkFlags := f } = false
    · rw [if_pos hattach, if_pos rfl, Atomic.of_failed rfl]
      exact iff_of_true ⟨rfl, rfl, rfl⟩ (.inl ⟨hbound, hattach⟩)
    · rw [if_neg hattach, if_neg (by simp), or_iff_right fun h => hattach h.2]
      exact askDriver_atomic (iff_of_true rfl hbound) (fun h => absurd hbound h)
  · rw [if_neg hbound, if_neg hbound, if_neg (by simp), or_iff_right fun h => hbound h.1]
    have hflags : key.wkFlags = f := not_not.mp fun hne => hbound (.inr hne)
    rw [← hflags] at hbound ⊢
    exact askDriver_atomic (iff_of_false Bool.false_ne_true hbound) (fun _ => rfl)

/-! ## A new key -/

/-- A key as `ieee80211_crypto_resetkey` leaves it. -/
def resetKey : Key :=
  { wkFlags := IEEE80211_KEY_XMIT ||| IEEE80211_KEY_RECV, wkKeyix := 0xffff, wkRxkeyix := 0xffff
    wkCipher := IEEE80211_CIPHER_NONE
    wkPrivate := { cipher := IEEE80211_CIPHER_NONE, flags := IEEE80211_KEY_XMIT ||| IEEE80211_KEY_RECV } }

/-- A device with CCMP, whose driver answers so; the second attach fails. -/
def ccmpVap (alloc : Key → KeyAlloc) : Vap :=
  { ciphers := fun _ => true, loadModule := fun _ => false, icCryptocaps := 8
    icAttach := fun again _ => !again, ivKeyAlloc := alloc }

/-- The driver has no room for the key: it stays bound to the new cipher. -/
def noRoom : Vap := ccmpVap fun k => { ok := false, flags := k.wkFlags, keyix := 0, rxkeyix := 0 }

/-- The driver gives an index, for a key that is encrypted in software. -/
def inSoftware : Vap :=
  ccmpVap fun k => { ok := true, flags := k.wkFlags ||| IEEE80211_KEY_SWCRYPT, keyix := 5, rxkeyix := 0xffff }

def noStats : Stats := { isCryptoBadcipher := 0, isCryptoNocipher := 0, isCryptoAttachfail := 0, isCryptoKeyfail := 0 }

/-- **A key that was not set up is not what it was before**, and the index that the driver gave stays allocated. -/
theorem newkey_leaves_traces :
    ((ieee80211CryptoNewkey noRoom IEEE80211_CIPHER_AES_CCM 3 noStats resetKey).1 = false ∧
      (ieee80211CryptoNewkey noRoom IEEE80211_CIPHER_AES_CCM 3 noStats resetKey).2.key.wkCipher = IEEE80211_CIPHER_AES_CCM ∧
      ¬ Atomic resetKey (ieee80211CryptoNewkey noRoom IEEE80211_CIPHER_AES_CCM 3 noStats resetKey)) ∧
    (ieee80211CryptoNewkey inSoftware IEEE80211_CIPHER_AES_CCM 3 noStats resetKey).1 = false ∧
      (ieee80211CryptoNewkey inSoftware IEEE80211_CIPHER_AES_CCM 3 noStats resetKey).2.allocated = true ∧
      ¬ Atomic resetKey (ieee80211CryptoNewkey inSoftware IEEE80211_CIPHER_AES_CCM 3 noStats resetKey) := by
  refine ⟨⟨by decide, by decide, fun h => ?_⟩, by decide, by decide, fun h => ?_⟩
  · have hkey := (h.failed (by decide)).1
    revert hkey
    decide
  · have hfree := (h.failed (by decide)).2.2
    revert hfree
    decide

end Net80211.Crypto
