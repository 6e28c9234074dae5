import Mathlib
import Wifi.Lib.ReadLog
import Wifi.Linux.Elements

/-!
# The radiotap iterator (`linux/net/wireless/radiotap.c`)

* `rtapNamespaceSizes` — alignment and size of the fields of the radiotap namespace.
* `ieee80211RadiotapIteratorInit` — the checks of a header, and where its fields begin; `_next_ns_data` stays what it
  was in the iterator before.
* `Iterator.round` — the body of the loop of `ieee80211_radiotap_iterator_next`; it ends a call, with or without a field,
  or the loop goes on.
* `iterate` — `ieee80211_radiotap_iterator_next` is called until it does not return 0.

A pointer is its offset from the header, modulo 2^64; the memory is a function of this offset.
-/

namespace Wireless.Radiotap

open ReadLog

abbrev Mem := Nat → Byte

/-! ## Fields -/

/-- `IEEE80211_RADIOTAP_RADIOTAP_NAMESPACE` -/
abbrev RADIOTAP_NAMESPACE : Nat := 29
/-- `IEEE80211_RADIOTAP_VENDOR_NAMESPACE` -/
abbrev VENDOR_NAMESPACE : Nat := 30
/-- `IEEE80211_RADIOTAP_EXT` -/
abbrev EXT : Nat := 31

/-- `sizeof(struct ieee80211_radiotap_header)` -/
abbrev RADIOTAP_HEADER : Nat := 8

/-- `struct radiotap_align_size` -/
structure AlignSize where
  align : Byte
  size : Byte
  deriving DecidableEq

def rtapNamespaceSizes : List AlignSize :=
  [{ align := 8, size := 8 }, -- TSFT
    { align := 1, size := 1 }, -- FLAGS
    { align := 1, size := 1 }, -- RATE
    { align := 2, size := 4 }, -- CHANNEL
    { align := 2, size := 2 }, -- FHSS
    { align := 1, size := 1 }, -- DBM_ANTSIGNAL
    { align := 1, size := 1 }, -- DBM_ANTNOISE
    { align := 2, size := 2 }, -- LOCK_QUALITY
    { align := 2, size := 2 }, -- TX_ATTENUATION
    { align := 2, size := 2 }, -- DB_TX_ATTENUATION
    { align := 1, size := 1 }, -- DBM_TX_POWER
    { align := 1, size := 1 }, -- ANTENNA
    { align := 1, size := 1 }, -- DB_ANTSIGNAL
    { align := 1, size := 1 }, -- DB_ANTNOISE
    { align := 2, size := 2 }, -- RX_FLAGS
    { align := 2, size := 2 }, -- TX_FLAGS
    { align := 1, size := 1 }, -- RTS_RETRIES
    { align := 1, size := 1 }, -- DATA_RETRIES
    { align := 0, size := 0 },
    { align := 1, size := 3 }, -- MCS
    { align := 4, size := 8 }, -- AMPDU_STATUS
    { align := 2, size := 12 }] -- VHT

/-- `struct ieee80211_radiotap_namespace` of a vendor -/
structure VendorNamespace where
  oui : BitVec 32
  subns : Byte
  alignSize : List AlignSize

/-- `radiotap_ns`, or a namespace that the caller knows. -/
inductive Namespace where
  | radiotap
  | vendor (ns : VendorNamespace)

/-- `align_size`; its length is `n_bits`. -/
def Namespace.alignSize : Namespace → List AlignSize
  | .radiotap => rtapNamespaceSizes
  | .vendor ns => ns.alignSize

/-! ## The iterator -/

/-- `-ENOENT` -/
def negENOENT : Int := -2
/-- `-EINVAL` -/
def negEINVAL : Int := -22

def ptr (offset : Nat) : Nat := offset % 2 ^ 64

def getUnalignedLe16 (m : Mem) (p : Nat) : ReadLog (BitVec 16) := do
  let lo ← byte m (ptr p)
  let hi ← byte m (ptr (p + 1))
  pure (hi ++ lo)

def getUnalignedLe32 (m : Mem) (p : Nat) : ReadLog (BitVec 32) := do
  let lo ← getUnalignedLe16 m p
  let hi ← getUnalignedLe16 m (p + 2)
  pure (hi ++ lo)

/-- `struct ieee80211_radiotap_iterator`; `nsDataSet` and `usedUnset` log whether `_next_ns_data` was set, and whether it
    was used before, and nothing reads them. -/
structure Iterator where
  vns : List VendorNamespace
  currentNamespace : Option Namespace
  arg : Nat
  nextNsData : Nat
  nextBitmap : Nat
  thisArg : Nat
  thisArgIndex : Nat
  thisArgSize : Nat
  maxLength : Nat
  argIndex : Nat
  bitmapShifter : BitVec 32
  resetOnExt : Bool
  nsDataSet : Bool
  usedUnset : Bool

/-- The loop of `ieee80211_radiotap_iterator_init` over the bitmaps that follow the first, with a bound. -/
def findPayload (m : Mem) (maxLength : Nat) : Nat → Nat → ReadLog (Option Nat)
  | 0, _ => pure none
  | fuel + 1, arg => do
    let word ← getUnalignedLe32 m arg
    if word.getLsbD EXT then
      if maxLength < ptr (ptr (arg + 4) + 4) then pure none else findPayload m maxLength fuel (ptr (arg + 4))
    else pure (some arg)

/-- `ieee80211_radiotap_iterator_init` of the iterator `prior`. -/
def ieee80211RadiotapIteratorInit (prior : Iterator) (m : Mem) (maxLength : Nat) (vns : List VendorNamespace) :
    ReadLog (Except Int Iterator) :=
  if maxLength < RADIOTAP_HEADER then pure (.error negEINVAL)
  else do
    let itVersion ← byte m 0
    if itVersion ≠ 0 then pure (.error negEINVAL)
    else do
      let itLen ← getUnalignedLe16 m 2
      if maxLength < itLen.toNat then pure (.error negEINVAL)
      else do
        let itPresent ← getUnalignedLe32 m 4
        let it : Iterator :=
          { prior with
            maxLength := itLen.toNat, argIndex := 0, bitmapShifter := itPresent, arg := 8, resetOnExt := false
            nextBitmap := 8, vns := vns, currentNamespace := some .radiotap, nsDataSet := false, usedUnset := false }
        if itPresent.getLsbD EXT then
          if it.maxLength < 12 then pure (.error negEINVAL)
          else do
            match ← findPayload m it.maxLength it.maxLength 8 with
            | none => pure (.error negEINVAL)
            | some arg => pure (.ok { it with arg := arg + 4, thisArg := arg + 4 })
        else pure (.ok { it with thisArg := 8 })

inductive Round where
  | ret (code : Int)
  | hit (it : Iterator)
  | more (it : Iterator)

namespace Iterator

/-- What follows `next_entry` -/
def nextEntry (it : Iterator) : Iterator :=
  { it with bitmapShifter := it.bitmapShifter >>> 1, argIndex := it.argIndex + 1 }

def findNs (it : Iterator) (oui : BitVec 32) (subns : Byte) : Option Namespace :=
  (it.vns.find? fun ns => decide (ns.oui = oui ∧ ns.subns = subns)).map .vendor

/-- `_arg` behind the padding. -/
def padded (it : Iterator) (align : Nat) : Nat :=
  let pad := it.arg &&& (align - 1)
  if pad ≠ 0 then ptr (it.arg + (align - pad)) else it.arg

/-- What is returned to the user; `_arg` goes on behind it. -/
def setThis (it : Iterator) (arg size : Nat) : Iterator :=
  { it with thisArgIndex := it.argIndex, thisArg := arg, thisArgSize := size, arg := ptr (arg + size) }

/-- The vendor namespace, from the padding on. -/
def visitVendor (m : Mem) (it : Iterator) : ReadLog Round :=
  let arg := it.padded 2
  if it.maxLength < ptr (arg + 6) then pure (.ret negEINVAL)
  else do
    let oui0 ← byte m (ptr arg)
    let oui1 ← byte m (ptr (arg + 1))
    let oui2 ← byte m (ptr (arg + 2))
    let subns ← byte m (ptr (arg + 3))
    let ns := it.findNs ((oui0.setWidth 32 <<< 16) ||| (oui1.setWidth 32 <<< 8) ||| oui2.setWidth 32) subns
    let vnslen ← getUnalignedLe16 m (arg + 4)
    let it := { it with currentNamespace := ns, nextNsData := ptr (arg + 6 + vnslen.toNat), nsDataSet := true }
    let it := it.setThis arg (if ns.isNone then 6 + vnslen.toNat else 6)
    if it.maxLength < it.arg then pure (.ret negEINVAL)
    else
      let it := { it with resetOnExt := true, thisArgIndex := VENDOR_NAMESPACE }
      pure (if ns.isNone then .hit it.nextEntry else .more it.nextEntry)

/-- Another field that is present, from the padding on. -/
def visit (m : Mem) (it : Iterator) (align size : Nat) : ReadLog Round :=
  let it := it.setThis (it.padded align) size
  if it.maxLength < it.arg then pure (.ret negEINVAL)
  else if it.argIndex % 32 = RADIOTAP_NAMESPACE then
    pure (.more { it with resetOnExt := true, currentNamespace := some .radiotap }.nextEntry)
  else if it.argIndex % 32 = EXT then do
    -- bit 31 was set, there is more
    let word ← getUnalignedLe32 m it.nextBitmap
    pure (.more
      { it with
        bitmapShifter := word, nextBitmap := it.nextBitmap + 4
        argIndex := if it.resetOnExt then 0 else it.argIndex + 1, resetOnExt := false })
  else pure (.hit it.nextEntry)

/-- A field of unknown size: the data of the namespace is left. -/
def skipNamespace (it : Iterator) : Iterator :=
  { it with arg := ptr it.nextNsData, currentNamespace := none, usedUnset := it.usedUnset || !it.nsDataSet }

/-- One round of the loop of `ieee80211_radiotap_iterator_next`. -/
def round (m : Mem) (it : Iterator) : ReadLog Round :=
  if it.argIndex % 32 = EXT ∧ it.bitmapShifter.getLsbD 0 = false then pure (.ret negENOENT)
  else if it.bitmapShifter.getLsbD 0 = false then pure (.more it.nextEntry)
  else if it.argIndex % 32 = RADIOTAP_NAMESPACE ∨ it.argIndex % 32 = EXT then it.visit m 1 0
  else if it.argIndex % 32 = VENDOR_NAMESPACE then it.visitVendor m
  else
    match it.currentNamespace with
    | none => pure (.more it.skipNamespace.nextEntry)
    | some ns =>
      match ns.alignSize[it.argIndex]? with
      | none =>
        match ns with
        | .radiotap => pure (.ret negENOENT)
        | .vendor _ => pure (.more it.skipNamespace.nextEntry)
      | some f =>
        if f.align = 0 then pure (.more it.skipNamespace.nextEntry) else it.visit m f.align.toNat f.size.toNat

end Iterator

/-- `ieee80211_radiotap_iterator_next`, with a bound for its loop: what it returns, and the iterator. -/
def ieee80211RadiotapIteratorNext (m : Mem) : Nat → Iterator → ReadLog (Option (Int × Iterator))
  | 0, _ => pure none
  | rounds + 1, it => do
    match ← it.round m with
    | .ret code => pure (some (code, it))
    | .hit it => pure (some (0, it))
    | .more it => ieee80211RadiotapIteratorNext m rounds it

structure Arg where
  index : Nat
  offset : Nat
  size : Nat
  deriving DecidableEq

/-- `this_arg_index`, `this_arg` and `this_arg_size` -/
def Iterator.thisField (it : Iterator) : Arg := ⟨it.thisArgIndex, it.thisArg, it.thisArgSize⟩

/-- The fields that `ieee80211_radiotap_iterator_next` returns, what it returns at last, and the iterator then. -/
def iterate (m : Mem) (rounds : Nat) : Nat → Iterator → ReadLog (Option (List Arg × Int × Iterator))
  | 0, _ => pure none
  | calls + 1, it => do
    match ← ieee80211RadiotapIteratorNext m rounds it with
    | none => pure none
    | some (code, it) =>
      if code ≠ 0 then pure (some ([], code, it))
      else do
        match ← iterate m rounds calls it with
        | none => pure none
        | some (args, code, last) => pure (some (it.thisField :: args, code, last))

end Wireless.Radiotap
