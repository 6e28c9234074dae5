import Mathlib
import Wifi.Lib.ReadLog
import Wifi.Wireless.Reg

/-!
# The regulatory database file (`wireless/reg.c`)

`valid_regdb` checks the file, the queries read it.  The memory is a function of the offset from
`data`; what lies at `size` and beyond is whatever is there.

* `validRegdb` — the check, with the parts it is made of in the order of the source.
* `countryWalk` — the loop over `hdr->country[]` of both queries.
* `queryRegdb`, `regQueryRegdbWmm` — the queries, with the addresses they read.
-/

namespace Wireless.Regdb

open Reg ReadLog

/-- The bytes from `data` on. -/
abbrev Mem := Nat → Byte

/-- `-ENODATA` -/
def negENODATA : Int := -61

/-- `-ENOMEM` -/
def negENOMEM : Int := -12

def FWDB_MAGIC : Nat := 0x52474442

def FWDB_VERSION : Nat := 20

def IEEE80211_NUM_ACS : Nat := 4

/-! ## `struct fwdb_*`, as offsets -/

/-- `sizeof(struct fwdb_header)`, the offset of `country[0]`. -/
def sizeofHeader : Nat := 8

def sizeofCountry : Nat := 4

/-- `sizeof(struct fwdb_wmm_rule)`: eight entries of four bytes. -/
def sizeofWmmRule : Nat := 32

/-- `offsetofend(struct fwdb_rule, max_bw)` -/
def offsetofendMaxBw : Nat := 16

/-- `offsetofend(struct fwdb_rule, cac_timeout)` -/
def offsetofendCacTimeout : Nat := 18

/-- `offsetofend(struct fwdb_rule, wmm_ptr)` -/
def offsetofendWmmPtr : Nat := 20

/-- `country->coll_ptr` -/
def collPtr (db : Mem) (country : Nat) : ReadLog Nat := be16 db (country + 2)

/-- `ALIGN(x, 2)` -/
def align2 (x : Nat) : Nat := (x + 1) / 2 * 2

/-- `(1 << ecw) - 1` -/
def ecw2cw (ecw : Nat) : Nat := 2 ^ ecw - 1

/-- `ecw2cw((ecw & 0xf0) >> 4)`, stored in a `u16`. -/
def cwMinOf (ecw : Byte) : Nat := ecw2cw ((ecw &&& 0xf0) >>> 4).toNat % 65536

/-- `ecw2cw(ecw & 0x0f)`, stored in a `u16`. -/
def cwMaxOf (ecw : Byte) : Nat := ecw2cw (ecw &&& 0x0f).toNat % 65536

/-! ## The check -/

def validWmm (db : Mem) (rule : Nat) : ReadLog Bool :=
  allFrom (fun i => do
    let ecw ← byte db (rule + 4 * i)
    let aifsn ← byte db (rule + 4 * i + 1)
    pure (!(decide (cwMinOf ecw ≥ cwMaxOf ecw) || decide (aifsn.toNat < 1))))
    0 (IEEE80211_NUM_ACS * 2)

def validRule (data : Mem) (size rulePtr : Nat) : ReadLog Bool :=
  let rule := rulePtr * 4
  if rule + 1 > size then pure false
  else do
    let len ← byte data rule
    if len.toNat < offsetofendMaxBw then pure false
    else if len.toNat ≥ offsetofendWmmPtr then do
      let wmmPtr ← be16 data (rule + 18)
      if wmmPtr * 4 + sizeofWmmRule > size then pure false
      else validWmm data (wmmPtr * 4)
    else pure true

def validCountry (data : Mem) (size country : Nat) : ReadLog Bool := do
  let ptr ← collPtr data country
  let coll := ptr * 4
  if coll + 2 > size then pure false
  else do
    let len ← byte data coll
    let nRules ← byte data (coll + 1)
    if coll + align2 len.toNat + nRules.toNat * 2 > size then pure false
    else if len.toNat < 3 then pure false
    else
      allFrom (fun i => do
        let rulePtr ← be16 data (coll + align2 len.toNat + 2 * i)
        validRule data size rulePtr) 0 nRules.toNat

/-- The loop of `valid_regdb`, cut off after a number of rounds that it never needs. -/
def validCountries (data : Mem) (size : Nat) : Nat → Nat → ReadLog Bool
  | 0, _ => pure true
  | fuel + 1, country =>
    if country + sizeofCountry ≤ size then do
      let ptr ← collPtr data country
      if ptr = 0 then pure true
      else if ← validCountry data size country then
        validCountries data size fuel (country + sizeofCountry)
      else pure false
    else pure true

/-- `valid_regdb`; `regdb_has_valid_signature` is a parameter, the constant `true` in a kernel
built without signature checks. -/
def validRegdb (regdbHasValidSignature : Mem → Nat → Bool) (data : Mem) (size : Nat) : Bool :=
  if size < sizeofHeader then false
  else if (be32 data 0).value ≠ FWDB_MAGIC then false
  else if (be32 data 4).value ≠ FWDB_VERSION then false
  else if !regdbHasValidSignature data size then false
  else (validCountries data size size sizeofHeader).value

/-! ## The queries -/

/-- One `struct fwdb_wmm_ac`, as `set_wmm_rule` stores it; `cot` is a `u16`. -/
def wmmAc (db : Mem) (ac : Nat) : ReadLog WmmAc := do
  let ecw ← byte db ac
  let aifsn ← byte db (ac + 1)
  let cot ← be16 db (ac + 2)
  pure ⟨cwMinOf ecw, cwMaxOf ecw, 1000 * cot % 65536, aifsn.toNat⟩

def setWmmRule (db : Mem) (country rule : Nat) (rrule : RegRule) : ReadLog RegRule := do
  let wmmPtr ← be16 db (rule + 18)
  let wmm := wmmPtr * 4
  if ← validWmm db wmm then do
    let acs ← collectFrom (fun i => do
      let client ← wmmAc db (wmm + 4 * i)
      let ap ← wmmAc db (wmm + 16 + 4 * i)
      pure (client, ap)) 0 IEEE80211_NUM_ACS
    pure { rrule with wmmRule := ⟨acs.map (·.1), acs.map (·.2)⟩, hasWmm := true }
  else do
    -- what the error message prints
    let _ ← be32 db (rule + 4)
    let _ ← be32 db (rule + 8)
    let _ ← byte db country
    let _ ← byte db (country + 1)
    pure rrule

/-- The conversion of an `int` that is compared with a `u32`. -/
def toU32 (freq : Int) : Nat := (freq % 4294967296).toNat

/-- `__regdb_query_wmm`, with the return value and the rule as it is left. -/
def regdbQueryWmm (db : Mem) (country : Nat) (freq : Int) (rrule : RegRule) :
    ReadLog (Int × RegRule) := do
  let ptr ← collPtr db country
  let coll := ptr * 4
  let nRules ← byte db (coll + 1)
  let found ← firstFrom (fun i => do
    let len ← byte db coll
    let rulePtr ← be16 db (coll + align2 len.toNat + 2 * i)
    let rule := rulePtr * 4
    let ruleLen ← byte db rule
    if ruleLen.toNat < offsetofendWmmPtr then pure none
    else do
      let start ← be32 db (rule + 4)
      let stop ← be32 db (rule + 8)
      if toU32 freq ≥ start / 1000 ∧ toU32 freq ≤ stop / 1000 then do
        let rrule ← setWmmRule db country rule rrule
        pure (some rrule)
      else pure none) 0 nRules.toNat
  match found with
  | some rrule => pure (0, rrule)
  | none => pure (negENODATA, rrule)

/-- The flags of a database rule, as the rule of the domain has them. -/
def rruleFlags (flags : Byte) : BitVec 32 :=
  (if flags &&& 1 ≠ 0 then NL80211_RRF_NO_OFDM else 0) |||
  (if flags &&& 2 ≠ 0 then NL80211_RRF_NO_OUTDOOR else 0) |||
  (if flags &&& 4 ≠ 0 then NL80211_RRF_DFS else 0) |||
  (if flags &&& 8 ≠ 0 then NL80211_RRF_NO_IR else 0) |||
  (if flags &&& 16 ≠ 0 then NL80211_RRF_AUTO_BW else 0)

/-- `dfs_cac_ms` of the rule: the field is optional. -/
def queryCac (db : Mem) (rule : Nat) : ReadLog Nat := do
  let len ← byte db rule
  if len.toNat ≥ offsetofendCacTimeout then do
    let cacTimeout ← be16 db (rule + 16)
    pure (1000 * cacTimeout)
  else pure 0

/-- One round of the loop of `regdb_query_country`, for the rule at an offset. -/
def queryRule (db : Mem) (country rule : Nat) : ReadLog RegRule := do
  let start ← be32 db (rule + 4)
  let stop ← be32 db (rule + 8)
  let maxBw ← be32 db (rule + 12)
  let maxEirp ← be16 db (rule + 2)
  let flags ← byte db (rule + 1)
  let dfsCacMs ← queryCac db rule
  let len ← byte db rule
  let rrule : RegRule := { RegRule.zero with
    freqRange := ⟨start, stop, maxBw⟩
    powerRule := ⟨0, maxEirp⟩
    flags := rruleFlags flags
    dfsCacMs := dfsCacMs }
  if len.toNat ≥ offsetofendWmmPtr then setWmmRule db country rule rrule else pure rrule

/-- `regdb_query_country`, up to the domain it gives to `reg_schedule_apply`; `kzalloc` says
whether the memory for it was there. -/
def regdbQueryCountry (db : Mem) (kzalloc : Bool) (country : Nat) :
    ReadLog (Except Int RegDomain) := do
  let ptr ← collPtr db country
  let coll := ptr * 4
  let nRules ← byte db (coll + 1)
  if kzalloc then do
    let alpha0 ← byte db country
    let alpha1 ← byte db (country + 1)
    let dfsRegion ← byte db (coll + 2)
    let rules ← collectFrom (fun i => do
      let len ← byte db coll
      let rulePtr ← be16 db (coll + align2 len.toNat + 2 * i)
      queryRule db country (rulePtr * 4)) 0 nRules.toNat
    pure (.ok ⟨(alpha0, alpha1), dfsRegion, rules⟩)
  else pure (.error negENOMEM)

/-- `alpha2_equal` with the two bytes at an offset. -/
def alpha2Equal (db : Mem) (alpha2 : Byte × Byte) (country : Nat) : ReadLog Bool := do
  let alpha0 ← byte db country
  if alpha2.1 = alpha0 then do
    let alpha1 ← byte db (country + 1)
    pure (decide (alpha2.2 = alpha1))
  else pure false

/-- The loop `while (country->coll_ptr)` of both queries: the country it stops at, `some none`
at the terminator, `none` when it is cut off. -/
def countryWalk (db : Mem) (alpha2 : Byte × Byte) : Nat → Nat → ReadLog (Option (Option Nat))
  | 0, _ => pure none
  | fuel + 1, country => do
    let ptr ← collPtr db country
    if ptr = 0 then pure (some none)
    else if ← alpha2Equal db alpha2 country then pure (some (some country))
    else countryWalk db alpha2 fuel (country + sizeofCountry)

/-- `query_regdb`; `regdb` is an error pointer or a database. -/
def queryRegdb (regdb : Except Int Mem) (kzalloc : Bool) (alpha2 : Byte × Byte) (fuel : Nat) :
    ReadLog (Option (Except Int RegDomain)) :=
  match regdb with
  | .error err => pure (some (.error err))
  | .ok db => do
    match ← countryWalk db alpha2 fuel sizeofHeader with
    | none => pure none
    | some none => pure (some (.error negENODATA))
    | some (some country) => do
      let result ← regdbQueryCountry db kzalloc country
      pure (some result)

/-- `reg_query_regdb_wmm`; `regdb` can also be a null pointer. -/
def regQueryRegdbWmm (regdb : Option (Except Int Mem)) (alpha2 : Byte × Byte) (freq : Int)
    (rule : RegRule) (fuel : Nat) : ReadLog (Option (Int × RegRule)) :=
  match regdb with
  | none => pure (some (negENODATA, rule))
  | some (.error err) => pure (some (err, rule))
  | some (.ok db) => do
    match ← countryWalk db alpha2 fuel sizeofHeader with
    | none => pure none
    | some none => pure (some (negENODATA, rule))
    | some (some country) => do
      let result ← regdbQueryWmm db country freq rule
      pure (some result)

end Wireless.Regdb
