import Wifi.Lib.LinkedList
import Wifi.Lib.Runs

/-!
# Age queues (`freebsd/sys/net80211/ieee80211_ageq.c`)

* `Mbuf`, `Ageq`, `Mem` — a frame, the queue, and the memory of a call.
* `ieee80211AgeqAppend`, `ieee80211AgeqAge`, `ieee80211AgeqRemove`, `ieee80211AgeqMfree` — the functions of these
  names, with their pointers.
* `Op`, `State`, `Step` — calls on one queue, and what became of the frames.

A function that runs into a failed `KASSERT` gives nothing, when the kernel checks them (`INVARIANTS`); so does a
loop whose fuel is too little.  `aq_len` stays between 0 and `aq_maxlen`, an `int`, and is an integer here.
-/

namespace Net80211.Ageq

open LinkedList

/-! ## Data -/

/-- A frame, an `mbuf`. -/
structure Mbuf where
  /-- `m_nextpkt` -/
  nextpkt : Option Nat
  /-- `m_pkthdr.rcvif`, which holds a node -/
  rcvif : Option Nat
  /-- `M_ENCAP` -/
  encap : Bool
  /-- `m_pkthdr.csum_data`, which holds the age (`M_AGE_GET`, `M_AGE_SET`) -/
  age : BitVec 32
  deriving DecidableEq, Repr

/-- `struct ieee80211_ageq`. -/
structure Ageq where
  len : Int
  maxlen : Int
  drops : BitVec 32
  head : Option Nat
  tail : Option Nat
  deriving DecidableEq, Repr

/-- Pointer variables whose address is taken: `aq->aq_head`, and the local `head`. -/
inductive Var where
  | aqHead | head
  deriving DecidableEq, Repr

/-- A `struct mbuf **`. -/
abbrev Ref := Link Var Nat

/-- The frames, the queue, and the local variable `head`. -/
structure Mem where
  mbuf : Nat → Mbuf
  aq : Ageq
  head : Option Nat

def Mem.links (mem : Mem) : Links Var Nat where
  var
    | .aqHead => mem.aq.head
    | .head => mem.head
  next m := (mem.mbuf m).nextpkt

def Mem.load (mem : Mem) (r : Ref) : Option Nat := mem.links.load r

def Mem.setMbuf (mem : Mem) (m : Nat) (v : Mbuf) : Mem := { mem with mbuf := Function.update mem.mbuf m v }

def Mem.setNextpkt (mem : Mem) (m : Nat) (p : Option Nat) : Mem := mem.setMbuf m { mem.mbuf m with nextpkt := p }

/-- `M_AGE_SET` -/
def Mem.setAge (mem : Mem) (m : Nat) (v : BitVec 32) : Mem := mem.setMbuf m { mem.mbuf m with age := v }

def Mem.store (mem : Mem) (r : Ref) (p : Option Nat) : Mem :=
  match r with
  | .var .aqHead => { mem with aq := { mem.aq with head := p } }
  | .var .head => { mem with head := p }
  | .next m => mem.setNextpkt m p

/-- What was freed: frames, and references to nodes. -/
structure Freed where
  mbufs : List Nat
  nodes : List (Option Nat)
  deriving DecidableEq, Repr

def Freed.append (f g : Freed) : Freed := { mbufs := f.mbufs ++ g.mbufs, nodes := f.nodes ++ g.nodes }

/-! ## Functions -/

variable (invariants : Bool)

def kassert (p : Bool) : Option Unit := if invariants = true ∧ p = false then none else some ()

def ENOSPC : Nat := 28

def ageqMfree (mem : Mem) (m : Nat) : Mem × Freed :=
  let nodes := if (mem.mbuf m).encap then [(mem.mbuf m).rcvif] else []
  (mem.setNextpkt m none, { mbufs := [m], nodes := nodes })

def ieee80211AgeqMfree : Nat → Mem → Option Nat → Option (Mem × Freed)
  | _, mem, none => some (mem, { mbufs := [], nodes := [] })
  | 0, _, some _ => none
  | fuel + 1, mem, some m => do
    let next := (mem.mbuf m).nextpkt
    let (mem, f) := ageqMfree mem m
    let (mem, g) ← ieee80211AgeqMfree fuel mem next
    some (mem, f.append g)

/-- The end of `ieee80211_ageq_append`: the frame is the last one. -/
def becomeTail (mem : Mem) (m : Nat) (age : BitVec 32) : Mem :=
  let mem := (mem.setAge m age).setNextpkt m none
  { mem with aq := { mem.aq with tail := some m, len := mem.aq.len + 1 } }

/-- `ieee80211_ageq_append`: what it returns, the memory, and what it freed. -/
def ieee80211AgeqAppend (mem : Mem) (m : Nat) (age : BitVec 32) : Option (Nat × Mem × Freed) :=
  if mem.aq.len < mem.aq.maxlen then do
    let (mem, age) ←
      match mem.aq.tail, mem.aq.head with
      | none, _ => some ({ mem with aq := { mem.aq with head := some m } }, age)
      | some tail, some head => some (mem.setNextpkt tail (some m), age - (mem.mbuf head).age)
      | some _, none => none
    kassert invariants (0 ≤ age.toInt)
    some (0, becomeTail mem m age, { mbufs := [], nodes := [] })
  else
    -- No space, drop and cleanup references.
    let mem := { mem with aq := { mem.aq with drops := mem.aq.drops + 1 } }
    let (mem, f) := ageqMfree mem m
    some (ENOSPC, mem, f)

/-- The loop of `ieee80211_ageq_age`; `phead` points to where the next removed frame goes. -/
def ageLoop (quanta : BitVec 32) : Nat → Mem → Ref → Option (Mem × Ref)
  | 0, _, _ => none
  | fuel + 1, mem, phead =>
    match mem.aq.head with
    | none => some (mem, phead)
    | some m =>
      if (mem.mbuf m).age < quanta then do
        let next := (mem.mbuf m).nextpkt
        let tail := if next = none then none else mem.aq.tail
        kassert invariants (0 < mem.aq.len)
        let mem := { mem with aq := { mem.aq with head := next, tail := tail, len := mem.aq.len - 1 } }
        -- add to private list for return
        ageLoop quanta fuel (mem.store phead (some m)) (.next m)
      else some (mem, phead)

/-- `ieee80211_ageq_age`: the memory, with the list to return in `head`, which is `uninit` at the start. -/
def ieee80211AgeqAge (fuel : Nat) (mem : Mem) (quanta : BitVec 32) (uninit : Option Nat) : Option Mem := do
  let mem := { mem with head := uninit }
  if mem.aq.len ≠ 0 then
    let (mem, phead) ← ageLoop invariants quanta fuel mem (.var .head)
    let mem :=
      match mem.aq.head with
      | none => mem
      | some m => mem.setAge m ((mem.mbuf m).age - quanta)
    some (mem.store phead none)
  else some (mem.store (.var .head) none)

/-- The frame's node matches; `NULL` matches all. -/
def matchesNode (mem : Mem) (ni : Option Nat) (m : Nat) : Bool := ni = none || (mem.mbuf m).rcvif = ni

/-- The tail pointer when the last frame goes. -/
def removeTail (mem : Mem) (prev : Ref) (m : Nat) : Option Mem :=
  if mem.aq.tail = some m then do
    kassert invariants ((mem.mbuf m).nextpkt = none)
    if mem.aq.head = some m then
      -- list empty
      kassert invariants (mem.aq.len = 0)
      some { mem with aq := { mem.aq with tail := none } }
    else
      -- must be one before
      match prev with
      | .next before => some { mem with aq := { mem.aq with tail := some before } }
      | .var _ => none
  else some mem

/-- The loop of `ieee80211_ageq_remove`; `prev` points to the pointer to the next frame. -/
def removeLoop (ni : Option Nat) : Nat → Mem → Ref → Ref → Option (Mem × Ref)
  | 0, _, _, _ => none
  | fuel + 1, mem, prev, phead =>
    match mem.load prev with
    | none => some (mem, phead)
    | some m =>
      if matchesNode mem ni m = false then removeLoop ni fuel mem (.next m) phead
      else do
        kassert invariants (0 < mem.aq.len)
        let mem := { mem with aq := { mem.aq with len := mem.aq.len - 1 } }
        let mem ← removeTail invariants mem prev m
        let mem := mem.store prev (mem.mbuf m).nextpkt
        -- add to private list for return
        removeLoop ni fuel (mem.store phead (some m)) prev (.next m)

/-- What `ieee80211_ageq_remove` does behind its loop: the new head gets the old head's age. -/
def correctAge (mem : Mem) (ohead : Option Nat) : Mem :=
  match mem.head, mem.aq.head with
  | some h, some m => if some h = ohead then mem.setAge m (mem.mbuf h).age else mem
  | _, _ => mem

/-- `ieee80211_ageq_remove`: the memory, with the list to return in `head`. -/
def ieee80211AgeqRemove (fuel : Nat) (mem : Mem) (ni : Option Nat) (uninit : Option Nat) : Option Mem := do
  let mem := { mem with head := uninit }
  let ohead := mem.aq.head
  let (mem, phead) ← removeLoop invariants ni fuel mem (.var .aqHead) (.var .head)
  some ((correctAge mem ohead).store phead none)

/-- `ieee80211_ageq_drain_node`, and `ieee80211_ageq_drain` for all nodes. -/
def ieee80211AgeqDrainNode (fuel : Nat) (mem : Mem) (ni : Option Nat) (uninit : Option Nat) : Option (Mem × Freed) := do
  let mem ← ieee80211AgeqRemove invariants fuel mem ni uninit
  ieee80211AgeqMfree fuel mem mem.head

def ieee80211AgeqInit (maxlen : Int) : Ageq := { len := 0, maxlen := maxlen, drops := 0, head := none, tail := none }

/-! ## Calls on one queue -/

/-- What is remembered of an append: its number, the age that was given, and the quanta that had passed. -/
structure Ticket where
  serial : Nat
  age : Int
  since : Int
  deriving DecidableEq, Repr

/-- The calls; `touch` is any other code, which writes frames that are not queued. -/
inductive Op where
  | append (m : Nat) (age : BitVec 32)
  | age (quanta : BitVec 32)
  | remove (ni : Option Nat)
  | drain (ni : Option Nat)
  | touch (m : Nat) (v : Mbuf)

/-- The memory, the ticket of the last append of each frame, how many appends there were, the sum of the quanta,
    and what became of the frames: the lists that were returned, the frames that were reclaimed, and those that
    `ieee80211_ageq_age` returned, with the sum of the quanta then. -/
structure State where
  mem : Mem
  ticket : Nat → Ticket
  count : Nat
  clock : Int
  returned : List (List Ticket)
  reclaimed : List Ticket
  aged : List (Ticket × Int)

/-- Whoever appends or writes a frame owns it: it is not on the queue. -/
def State.Owned (s : State) (m : Nat) : Prop := ∀ l, Chain s.mem.links.next s.mem.aq.head l → m ∉ l

def State.issue (s : State) (m : Nat) (age : BitVec 32) : Nat → Ticket :=
  Function.update s.ticket m { serial := s.count, age := age.toInt, since := s.clock }

/-- The loops end: from some fuel on, the result is `x`. -/
def Returns {α : Type} (f : Nat → Option α) (x : α) : Prop := ∃ n, ∀ fuel, n < fuel → f fuel = some x

inductive Step : State → Op → State → Prop where
  | append {s : State} {m err : Nat} {age : BitVec 32} {mem : Mem} {freed : Freed} (hm : s.Owned m)
      (h : ieee80211AgeqAppend invariants s.mem m age = some (err, mem, freed)) :
      Step s (.append m age) { s with
        mem := mem
        ticket := s.issue m age
        count := s.count + 1
        reclaimed := s.reclaimed ++ freed.mbufs.map (s.issue m age) }
  | age {s : State} {quanta : BitVec 32} {uninit : Option Nat} {mem : Mem} {l : List Nat}
      (h : Returns (fun fuel => ieee80211AgeqAge invariants fuel s.mem quanta uninit) mem)
      (hl : Chain mem.links.next mem.head l) :
      Step s (.age quanta) { s with
        mem := mem
        clock := s.clock + quanta.toInt
        returned := s.returned ++ [l.map s.ticket]
        aged := s.aged ++ l.map fun m => (s.ticket m, s.clock + quanta.toInt) }
  | remove {s : State} {ni : Option Nat} {uninit : Option Nat} {mem : Mem} {l : List Nat}
      (h : Returns (fun fuel => ieee80211AgeqRemove invariants fuel s.mem ni uninit) mem)
      (hl : Chain mem.links.next mem.head l) :
      Step s (.remove ni) { s with mem := mem, returned := s.returned ++ [l.map s.ticket] }
  | drain {s : State} {ni : Option Nat} {uninit : Option Nat} {mem : Mem} {freed : Freed}
      (h : Returns (fun fuel => ieee80211AgeqDrainNode invariants fuel s.mem ni uninit) (mem, freed)) :
      Step s (.drain ni) { s with mem := mem, reclaimed := s.reclaimed ++ freed.mbufs.map s.ticket }
  | touch {s : State} {m : Nat} {v : Mbuf} (hm : s.Owned m) :
      Step s (.touch m v) { s with mem := s.mem.setMbuf m v }

/-- After `ieee80211_ageq_init`; the frames are arbitrary. -/
def Initial (s : State) : Prop :=
  (∃ maxlen : Nat, s.mem.aq = ieee80211AgeqInit maxlen) ∧ s.count = 0 ∧ s.clock = 0 ∧ s.returned = [] ∧
    s.reclaimed = [] ∧ s.aged = []

end Net80211.Ageq
