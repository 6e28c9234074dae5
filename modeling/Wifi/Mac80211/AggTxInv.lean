import Wifi.Mac80211.AggTx

/-!
# The invariant of a transmit block-ack session

* `starts`, `opers`, `addbas`, `stops` — how often something is in the log for a session.
* `TxOk` — the bits of a live session, and what the log says about it.
* `Inv` — the state of the TID.
* `Later` — what can change in a session while a function is in the driver.
* `drvAmpduAction_inv` — the invariant after the driver has returned.
-/

namespace Mac80211.AggTx

variable {k : KernelApi} {c : Conf}

/-! ## The log -/

/-- The driver is told `action` for the session at `a`. -/
def Event.isAction (a : Nat) (action : AmpduAction) : Event → Bool
  | .ampduAction addr params => decide (addr = a ∧ params.action = action)
  | _ => false

/-- An ADDBA request is sent for the session at `a`. -/
def Event.isAddba (a : Nat) : Event → Bool
  | .addbaRequest addr .. => decide (addr = a)
  | _ => false

/-- The driver is told to stop the session at `a`. -/
def Event.isStop (a : Nat) : Event → Bool
  | .ampduAction addr params => decide (addr = a) && params.action.isStop
  | _ => false

def starts (log : List Event) (a : Nat) : Nat := log.countP (Event.isAction a .txStart)

def opers (log : List Event) (a : Nat) : Nat := log.countP (Event.isAction a .txOperational)

def addbas (log : List Event) (a : Nat) : Nat := log.countP (Event.isAddba a)

def stops (log : List Event) (a : Nat) : Nat := log.countP (Event.isStop a)

theorem starts_append (log : List Event) (e : Event) (a : Nat) :
    starts (log ++ [e]) a = starts log a + if e.isAction a .txStart then 1 else 0 := by
  unfold starts
  rw [List.countP_append, List.countP_singleton]

theorem opers_append (log : List Event) (e : Event) (a : Nat) :
    opers (log ++ [e]) a = opers log a + if e.isAction a .txOperational then 1 else 0 := by
  unfold opers
  rw [List.countP_append, List.countP_singleton]

theorem addbas_append (log : List Event) (e : Event) (a : Nat) :
    addbas (log ++ [e]) a = addbas log a + if e.isAddba a then 1 else 0 := by
  unfold addbas
  rw [List.countP_append, List.countP_singleton]

theorem stops_append (log : List Event) (e : Event) (a : Nat) :
    stops (log ++ [e]) a = stops log a + if e.isStop a then 1 else 0 := by
  unfold stops
  rw [List.countP_append, List.countP_singleton]

theorem Event.other {e : Event} {a : Nat} (h : e.addr ≠ a) :
    e.isAction a .txStart = false ∧ e.isAction a .txOperational = false ∧ e.isAddba a = false ∧
      e.isStop a = false := by
  cases e with
  | ampduAction addr params =>
    have ha : addr ≠ a := h
    unfold Event.isAction Event.isAddba Event.isStop
    simp only [ha, false_and, decide_false, Bool.false_and, and_self]
  | addbaRequest addr dialogToken ssn bufSize timeout =>
    have ha : addr ≠ a := h
    unfold Event.isAction Event.isAddba Event.isStop
    simp only [ha, decide_false, and_self]
  | delba addr party => exact ⟨rfl, rfl, rfl, rfl⟩

/-- Nothing is in the log for a session that is not in it. -/
theorem counts_zero {log : List Event} {a : Nat} (h : ∀ e ∈ log, e.addr ≠ a) :
    starts log a = 0 ∧ opers log a = 0 ∧ addbas log a = 0 ∧ stops log a = 0 := by
  unfold starts opers addbas stops
  simp only [List.countP_eq_zero]
  refine ⟨?_, ?_, ?_, ?_⟩
  · intro e he
    rw [(Event.other (h e he)).1]
    exact Bool.false_ne_true
  · intro e he
    rw [(Event.other (h e he)).2.1]
    exact Bool.false_ne_true
  · intro e he
    rw [(Event.other (h e he)).2.2.1]
    exact Bool.false_ne_true
  · intro e he
    rw [(Event.other (h e he)).2.2.2]
    exact Bool.false_ne_true

/-- **No session becomes operational after it is stopped.** -/
def NoneAfterStop (log : List Event) : Prop :=
  log.Pairwise fun e e' => ∀ a, e.isStop a = true → e'.isAction a .txOperational = false

theorem NoneAfterStop.append {log : List Event} {e : Event} (h : NoneAfterStop log)
    (he : ∀ a, e.isAction a .txOperational = true → stops log a = 0) : NoneAfterStop (log ++ [e]) := by
  refine List.pairwise_append.2 ⟨h, List.pairwise_singleton .., ?_⟩
  intro e' he' e'' he'' a hstop
  rw [List.mem_singleton] at he''
  rw [he'', Bool.eq_false_iff]
  intro ho
  exact absurd hstop (List.countP_eq_zero.1 (he a ho) e' he')

/-! ## The invariant -/

structure TxOk (log : List Event) (t : TidAmpduTx) : Prop where
  notWantStart : t.state.wantStart = false
  operational : t.state.operational = true → t.state.drvReady = true ∧ t.state.sentAddba = true ∧
    t.state.responseReceived = true ∧ t.state.stopping = false
  ready : t.state.drvReady = true →
    t.state.sentAddba = true ∨ t.state.wantStop = true ∨ t.state.stopping = true
  oneStart : starts log t.addr = 1
  oneOper : opers log t.addr ≤ 1
  operBits : 0 < opers log t.addr → t.state.drvReady = true ∧ t.state.responseReceived = true
  oneAddba : addbas log t.addr ≤ 1
  addbaBit : 0 < addbas log t.addr → t.state.sentAddba = true
  stopBit : 0 < stops log t.addr → t.state.stopping = true

/-- What the log says about every session that there has been. -/
structure LogOk (log : List Event) : Prop where
  oneOper : ∀ a, opers log a ≤ starts log a
  oneStart : ∀ a, starts log a ≤ 1
  oneAddba : ∀ a, addbas log a ≤ 1
  noneAfterStop : NoneAfterStop log

def pendingOf (tx : Option TidAmpduTx) : List Frame :=
  match tx with
  | none => []
  | some t => t.pending

/-- **The state of the TID.** -/
structure Inv (c : Conf) (s : AmpduMlme) : Prop where
  start : ∀ t, s.tidStartTx = some t → s.tidTx = none ∧ t.state = { wantStart := true } ∧
    t.pending = [] ∧ t.addr < s.nextAddr ∧ ∀ e ∈ s.log, e.addr ≠ t.addr
  tx : ∀ t, s.tidTx = some t → TxOk s.log t ∧ t.addr < s.nextAddr ∧ c.txq = true
  logAddr : ∀ e ∈ s.log, e.addr < s.nextAddr
  log : LogOk s.log
  queue : s.put = s.out.map Prod.fst ++ pendingOf s.tidTx
  fate : ∀ p ∈ s.out, p.2 = .spliced ∨ (p.2 = .purged ∧ s.destroyed = true)

theorem Initial.inv {s : AmpduMlme} (h : Initial s) : Inv c s := by
  constructor
  · intro t ht
    rw [h.tidStartTx] at ht
    cases ht
  · intro t ht
    rw [h.tidTx] at ht
    cases ht
  · rw [h.log]
    exact nofun
  · rw [h.log]
    exact ⟨fun _ => Nat.le_refl _, fun _ => Nat.zero_le _, fun _ => Nat.zero_le _, .nil⟩
  · rw [h.put, h.out, h.tidTx]
    rfl
  · rw [h.out]
    exact nofun

section Writes

variable {s : AmpduMlme} {t t' : TidAmpduTx}

theorem Inv.noStart (hi : Inv c s) (ht : s.tidTx = some t) : s.tidStartTx = none := by
  cases hs : s.tidStartTx with
  | none => rfl
  | some t0 =>
    rw [(hi.start t0 hs).1] at ht
    cases ht

/-- **A write to the session.** -/
theorem Inv.setTx (hi : Inv c s) (ht : s.tidTx = some t) (ha : t'.addr = t.addr)
    (hp : t'.pending = t.pending) (hok : TxOk s.log t') : Inv c { s with tidTx := some t' } := by
  obtain ⟨_, hlt, htxq⟩ := hi.tx t ht
  refine ⟨?_, ?_, hi.logAddr, hi.log, ?_, hi.fate⟩
  · intro t0 hs
    rw [hi.noStart ht] at hs
    cases hs
  · intro t0 h0
    cases h0
    rw [ha]
    exact ⟨hok, hlt, htxq⟩
  · have hq := hi.queue
    rw [ht] at hq
    rw [hq]
    unfold pendingOf
    dsimp only
    rw [hp]

/-- **An event for the session.** -/
theorem Inv.logEvent (hi : Inv c s) (ht : s.tidTx = some t) {e : Event} (he : e.addr = t.addr)
    (hok : TxOk (s.log ++ [e]) t) (hstop : e.isAction t.addr .txOperational = true → stops s.log t.addr = 0) :
    Inv c (s.logEvent e) := by
  obtain ⟨_, hlt, htxq⟩ := hi.tx t ht
  have hother : ∀ a, a ≠ t.addr → e.isAction a .txStart = false ∧
      e.isAction a .txOperational = false ∧ e.isAddba a = false ∧ e.isStop a = false :=
    fun a hne => Event.other (by rw [he]; exact Ne.symm hne)
  refine ⟨?_, ?_, ?_, ⟨?_, ?_, ?_, hi.log.noneAfterStop.append ?_⟩, hi.queue, hi.fate⟩
  · intro t0 hs
    have hnone := hi.noStart ht
    exact absurd (hs.symm.trans hnone) nofun
  · intro t0 h0
    have h0' : s.tidTx = some t0 := h0
    rw [ht] at h0'
    cases h0'
    exact ⟨hok, hlt, htxq⟩
  · intro e' he'
    rcases List.mem_append.1 he' with he' | he'
    · exact hi.logAddr e' he'
    · rw [List.mem_singleton] at he'
      rw [he', he]
      exact hlt
  · intro a
    by_cases ha : a = t.addr
    · rw [ha]
      show opers (s.log ++ [e]) t.addr ≤ starts (s.log ++ [e]) t.addr
      rw [hok.oneStart]
      exact hok.oneOper
    · show opers (s.log ++ [e]) a ≤ starts (s.log ++ [e]) a
      rw [opers_append, starts_append, (hother a ha).1, (hother a ha).2.1]
      exact hi.log.oneOper a
  · intro a
    by_cases ha : a = t.addr
    · rw [ha]
      exact Nat.le_of_eq hok.oneStart
    · show starts (s.log ++ [e]) a ≤ 1
      rw [starts_append, (hother a ha).1]
      exact hi.log.oneStart a
  · intro a
    by_cases ha : a = t.addr
    · rw [ha]
      exact hok.oneAddba
    · show addbas (s.log ++ [e]) a ≤ 1
      rw [addbas_append, (hother a ha).2.2.1]
      exact hi.log.oneAddba a
  · intro a ho
    by_cases ha : a = t.addr
    · rw [ha] at ho ⊢
      exact hstop ho
    · rw [(hother a ha).2.1] at ho
      cases ho

theorem Inv.splicePackets (hi : Inv c s) (ht : s.tidTx = some t) :
    Inv c s.splicePackets ∧ s.splicePackets.tidTx = some { t with pending := [] } ∧
      s.splicePackets.log = s.log := by
  have hs : s.splicePackets = { s with
      tidTx := some { t with pending := [] }
      out := s.out ++ t.pending.map fun f => (f, .spliced) } := by
    unfold AmpduMlme.splicePackets
    rw [ht]
  obtain ⟨hok, hlt, htxq⟩ := hi.tx t ht
  rw [hs]
  refine ⟨⟨?_, ?_, hi.logAddr, hi.log, ?_, ?_⟩, rfl, rfl⟩
  · intro t0 hs
    have hnone := hi.noStart ht
    exact absurd (hs.symm.trans hnone) nofun
  · intro t0 h0
    cases h0
    exact ⟨⟨hok.1, hok.2, hok.3, hok.4, hok.5, hok.6, hok.7, hok.8, hok.9⟩, hlt, htxq⟩
  · have hq := hi.queue
    rw [ht] at hq
    rw [hq]
    unfold pendingOf
    dsimp only
    rw [List.map_append, List.map_map, List.append_nil]
    congr 1
    exact (List.map_id _).symm
  · intro p hp
    rcases List.mem_append.1 hp with hp | hp
    · exact hi.fate p hp
    · obtain ⟨f, _, rfl⟩ := List.mem_map.1 hp
      exact .inl rfl

/-- **A session is freed when no frame waits.** -/
theorem Inv.free (hi : Inv c s) (ht : s.tidTx = some t) (hp : t.pending = []) :
    Inv c { s with tidTx := none } := by
  refine ⟨?_, fun _ h => (nomatch h), hi.logAddr, hi.log, ?_, hi.fate⟩
  · intro t0 hs
    have hnone := hi.noStart ht
    exact absurd (hs.symm.trans hnone) (fun h => (nomatch h))
  · have hq := hi.queue
    have hnil : pendingOf (some t) = [] := hp
    rw [ht, hnil] at hq
    exact hq

/-- **A session is freed after its frames are moved away.** -/
theorem Inv.removeTidTx (hi : Inv c s) (ht : s.tidTx = some t) : Inv c s.removeTidTx := by
  obtain ⟨hi', ht', _⟩ := hi.splicePackets ht
  exact hi'.free ht' rfl

end Writes

/-! ## Events -/

section Events

variable {log : List Event} {t : TidAmpduTx}

theorem isAction_self (a : Nat) (params : AmpduParams) (action : AmpduAction) :
    (Event.ampduAction a params).isAction a action = decide (params.action = action) := by
  unfold Event.isAction
  simp only [true_and]

theorem isStop_self (a : Nat) (params : AmpduParams) :
    (Event.ampduAction a params).isStop a = params.action.isStop := by
  have hself : decide (a = a) = true := decide_eq_true rfl
  show (decide (a = a) && params.action.isStop) = params.action.isStop
  rw [hself, Bool.true_and]

theorem TxOk.logStop (h : TxOk log t) {params : AmpduParams} (hs : params.action.isStop = true)
    (hst : t.state.stopping = true) : TxOk (log ++ [.ampduAction t.addr params]) t := by
  have hnot : (params.action = .txStart) = False ∧ (params.action = .txOperational) = False := by
    cases ha : params.action with
    | txStart => rw [ha] at hs; cases hs
    | txOperational => rw [ha] at hs; cases hs
    | txStopCont => exact ⟨by simp, by simp⟩
    | txStopFlush => exact ⟨by simp, by simp⟩
    | txStopFlushCont => exact ⟨by simp, by simp⟩
  have hstarts : starts (log ++ [.ampduAction t.addr params]) t.addr = starts log t.addr := by
    rw [starts_append, isAction_self]
    simp only [hnot.1, decide_false, Bool.false_eq_true, if_false, Nat.add_zero]
  have hopers : opers (log ++ [.ampduAction t.addr params]) t.addr = opers log t.addr := by
    rw [opers_append, isAction_self]
    simp only [hnot.2, decide_false, Bool.false_eq_true, if_false, Nat.add_zero]
  have haddbas : addbas (log ++ [.ampduAction t.addr params]) t.addr = addbas log t.addr := by
    rw [addbas_append]
    rfl
  refine ⟨h.notWantStart, h.operational, h.ready, ?_, ?_, ?_, ?_, ?_, fun _ => hst⟩
  · rw [hstarts]
    exact h.oneStart
  · rw [hopers]
    exact h.oneOper
  · rw [hopers]
    exact h.operBits
  · rw [haddbas]
    exact h.oneAddba
  · rw [haddbas]
    exact h.addbaBit

/-- The driver is told that the session is operational. -/
theorem TxOk.logOper (h : TxOk log t) {params : AmpduParams} (hp : params.action = .txOperational)
    (h0 : opers log t.addr = 0) (hd : t.state.drvReady = true) (hr : t.state.responseReceived = true) :
    TxOk (log ++ [.ampduAction t.addr params]) t := by
  have hstarts : starts (log ++ [.ampduAction t.addr params]) t.addr = starts log t.addr := by
    rw [starts_append, isAction_self, hp]
    rfl
  have hopers : opers (log ++ [.ampduAction t.addr params]) t.addr = 1 := by
    rw [opers_append, isAction_self, hp, h0]
    rfl
  have haddbas : addbas (log ++ [.ampduAction t.addr params]) t.addr = addbas log t.addr := by
    rw [addbas_append]
    rfl
  have hstops : stops (log ++ [.ampduAction t.addr params]) t.addr = stops log t.addr := by
    rw [stops_append, isStop_self, hp]
    rfl
  refine ⟨h.notWantStart, h.operational, h.ready, ?_, ?_, fun _ => ⟨hd, hr⟩, ?_, ?_, ?_⟩
  · rw [hstarts]
    exact h.oneStart
  · exact Nat.le_of_eq hopers
  · rw [haddbas]
    exact h.oneAddba
  · rw [haddbas]
    exact h.addbaBit
  · rw [hstops]
    exact h.stopBit

theorem TxOk.logAddba (h : TxOk log t) (h0 : addbas log t.addr = 0) (hs : t.state.sentAddba = true)
    (dialogToken : BitVec 8) (ssn bufSize timeout : BitVec 16) :
    TxOk (log ++ [.addbaRequest t.addr dialogToken ssn bufSize timeout]) t := by
  have hstarts : starts (log ++ [.addbaRequest t.addr dialogToken ssn bufSize timeout]) t.addr =
      starts log t.addr := by
    rw [starts_append]
    rfl
  have hopers : opers (log ++ [.addbaRequest t.addr dialogToken ssn bufSize timeout]) t.addr =
      opers log t.addr := by
    rw [opers_append]
    rfl
  have haddbas : addbas (log ++ [.addbaRequest t.addr dialogToken ssn bufSize timeout]) t.addr = 1 := by
    have hself : (Event.addbaRequest t.addr dialogToken ssn bufSize timeout).isAddba t.addr = true :=
      decide_eq_true (Eq.refl t.addr)
    rw [addbas_append, h0, hself]
    rfl
  have hstops : stops (log ++ [.addbaRequest t.addr dialogToken ssn bufSize timeout]) t.addr =
      stops log t.addr := by
    rw [stops_append]
    rfl
  refine ⟨h.notWantStart, h.operational, h.ready, ?_, ?_, ?_, Nat.le_of_eq haddbas, fun _ => hs, ?_⟩
  · rw [hstarts]
    exact h.oneStart
  · rw [hopers]
    exact h.oneOper
  · rw [hopers]
    exact h.operBits
  · rw [hstops]
    exact h.stopBit

end Events

/-! ## While a function is in the driver -/

/-- **What the other contexts can change in a session.** -/
structure Later (t t' : TidAmpduTx) : Prop where
  addr : t'.addr = t.addr
  drvReady : t'.state.drvReady = t.state.drvReady
  responseReceived : t'.state.responseReceived = t.state.responseReceived
  operational : t'.state.operational = t.state.operational
  stopping : t'.state.stopping = t.state.stopping
  wantStart : t'.state.wantStart = t.state.wantStart
  sentAddba : t'.state.sentAddba = t.state.sentAddba
  wantStop : t.state.wantStop = true → t'.state.wantStop = true

theorem Later.refl (t : TidAmpduTx) : Later t t := ⟨rfl, rfl, rfl, rfl, rfl, rfl, rfl, id⟩

theorem Later.trans {t t' t'' : TidAmpduTx} (h : Later t t') (h' : Later t' t'') : Later t t'' :=
  ⟨h'.addr.trans h.addr, h'.drvReady.trans h.drvReady, h'.responseReceived.trans h.responseReceived,
    h'.operational.trans h.operational, h'.stopping.trans h.stopping, h'.wantStart.trans h.wantStart,
    h'.sentAddba.trans h.sentAddba, h'.wantStop ∘ h.wantStop⟩

theorem TxOk.later {log : List Event} {t t' : TidAmpduTx} (h : TxOk log t) (hl : Later t t') :
    TxOk log t' := by
  refine ⟨?_, ?_, ?_, ?_, ?_, ?_, ?_, ?_, ?_⟩
  · rw [hl.wantStart]
    exact h.notWantStart
  · rw [hl.operational, hl.drvReady, hl.sentAddba, hl.responseReceived, hl.stopping]
    exact h.operational
  · rw [hl.drvReady, hl.sentAddba, hl.stopping]
    exact fun hd => (h.ready hd).imp_right (Or.imp_left hl.wantStop)
  · rw [hl.addr]
    exact h.oneStart
  · rw [hl.addr]
    exact h.oneOper
  · rw [hl.addr, hl.drvReady, hl.responseReceived]
    exact h.operBits
  · rw [hl.addr]
    exact h.oneAddba
  · rw [hl.addr, hl.sentAddba]
    exact h.addbaBit
  · rw [hl.addr, hl.stopping]
    exact h.stopBit

/-- **What the other contexts can do**: nothing is told to the driver, and a session stays. -/
structure Meanwhile (s s' : AmpduMlme) : Prop where
  log : s'.log = s.log
  tx : ∀ t, s.tidTx = some t → ∃ t', s'.tidTx = some t' ∧ Later t t'

theorem Meanwhile.refl (s : AmpduMlme) : Meanwhile s s := ⟨rfl, fun t ht => ⟨t, ht, .refl t⟩⟩

theorem Meanwhile.trans {s s' s'' : AmpduMlme} (h : Meanwhile s s') (h' : Meanwhile s' s'') :
    Meanwhile s s'' := by
  refine ⟨h'.log.trans h.log, ?_⟩
  intro t ht
  obtain ⟨t', ht', hl⟩ := h.tx t ht
  obtain ⟨t'', ht'', hl'⟩ := h'.tx t' ht'
  exact ⟨t'', ht'', hl.trans hl'⟩

abbrev Kept (c : Conf) (s s' : AmpduMlme) : Prop := Inv c s' ∧ Meanwhile s s'

theorem Inv.modTx_later {s : AmpduMlme} (hi : Inv c s) {f : TidAmpduTx → TidAmpduTx}
    (hf : ∀ t, s.tidTx = some t → Later t (f t) ∧ (f t).pending = t.pending) : Kept c s (s.modTx f) := by
  unfold AmpduMlme.modTx
  cases ht : s.tidTx with
  | none =>
    have hs : { s with tidTx := Option.map f none } = s := by
      cases s
      cases ht
      rfl
    rw [hs]
    exact ⟨hi, .refl s⟩
  | some t =>
    obtain ⟨hl, hp⟩ := hf t ht
    obtain ⟨hok, _⟩ := hi.tx t ht
    refine ⟨hi.setTx ht hl.addr hp (hok.later hl), rfl, ?_⟩
    intro t0 h0
    rw [ht] at h0
    cases h0
    exact ⟨f t, rfl, hl⟩

theorem startTxBaSession_kept {s : AmpduMlme} (hi : Inv c s) (a : StartArgs) :
    Kept c s (s.startTxBaSession k c a) := by
  unfold AmpduMlme.startTxBaSession
  split
  · exact ⟨hi, .refl s⟩
  · split
    · exact ⟨hi, .refl s⟩
    · split
      · exact ⟨hi, .refl s⟩
      · split
        · exact ⟨hi, .refl s⟩
        · split
          · exact ⟨hi, .refl s⟩
          · rename_i hidle _
            rw [Bool.or_eq_true, not_or, Option.not_isSome_iff_eq_none,
              Option.not_isSome_iff_eq_none] at hidle
            refine ⟨⟨?_, ?_, ?_, hi.log, hi.queue, hi.fate⟩, rfl, ?_⟩
            · intro t ht
              cases ht
              exact ⟨hidle.1, rfl, rfl, Nat.lt_succ_self _, fun e he => Nat.ne_of_lt (hi.logAddr e he)⟩
            · intro t ht
              obtain ⟨hok, hlt, htxq⟩ := hi.tx t ht
              exact ⟨hok, Nat.lt_succ_of_lt hlt, htxq⟩
            · exact fun e he => Nat.lt_succ_of_lt (hi.logAddr e he)
            · intro t ht
              exact ⟨t, ht, .refl t⟩

theorem stopTxBaSession_kept {s : AmpduMlme} (hi : Inv c s) : Kept c s s.stopTxBaSession := by
  refine hi.modTx_later fun t _ => ⟨?_, rfl⟩
  dsimp only
  cases hst : t.state.stopping with
  | true =>
    rw [if_pos rfl]
    exact .refl t
  | false =>
    rw [if_neg Bool.false_ne_true]
    exact ⟨rfl, rfl, rfl, rfl, hst.symm ▸ rfl, rfl, rfl, fun _ => rfl⟩

theorem addbaRespTimerExpired_kept {s : AmpduMlme} (hi : Inv c s) :
    Kept c s s.addbaRespTimerExpired := by
  unfold AmpduMlme.addbaRespTimerExpired
  split
  · exact ⟨hi, .refl s⟩
  · split
    · exact ⟨hi, .refl s⟩
    · have hm := hi.modTx_later (f := fun t => { t with addbaRespTimer := none })
        fun t _ => ⟨⟨rfl, rfl, rfl, rfl, rfl, rfl, rfl, id⟩, rfl⟩
      dsimp only
      split
      · exact hm
      · obtain ⟨hi', hl'⟩ := stopTxBaSession_kept hm.1
        exact ⟨hi', hm.2.trans hl'⟩

theorem sessionTimerExpired_kept {s : AmpduMlme} (hi : Inv c s) (jiffies : BitVec 64) :
    Kept c s (s.sessionTimerExpired k c jiffies) := by
  unfold AmpduMlme.sessionTimerExpired
  split
  · exact ⟨hi, .refl s⟩
  · split
    · exact ⟨hi, .refl s⟩
    · have hm := hi.modTx_later (f := fun t => { t with sessionTimer := none })
        fun t _ => ⟨⟨rfl, rfl, rfl, rfl, rfl, rfl, rfl, id⟩, rfl⟩
      dsimp only
      split
      · exact hm
      · split
        · obtain ⟨hi', hl'⟩ := hm.1.modTx_later (f := fun t => { t with sessionTimer := some _ })
            fun t _ => ⟨⟨rfl, rfl, rfl, rfl, rfl, rfl, rfl, id⟩, rfl⟩
          exact ⟨hi', hm.2.trans hl'⟩
        · obtain ⟨hi', hl'⟩ := stopTxBaSession_kept hm.1
          exact ⟨hi', hm.2.trans hl'⟩

/-- A frame of the TX path: a live session has a TXQ, and the frame waits there. -/
theorem txPrepAgg_kept {s : AmpduMlme} (hi : Inv c s) (frame : Frame) (jiffies : BitVec 64) :
    Kept c s (s.txPrepAgg c frame jiffies) := by
  unfold AmpduMlme.txPrepAgg
  split
  · exact ⟨hi, .refl s⟩
  · rename_i t ht
    split
    · exact hi.modTx_later fun t _ => ⟨⟨rfl, rfl, rfl, rfl, rfl, rfl, rfl, id⟩, rfl⟩
    · split
      · exact ⟨hi, .refl s⟩
      · rw [(hi.tx t ht).2.2, if_pos rfl]
        exact ⟨hi, .refl s⟩

/-- **A call without the wiphy mutex.** -/
theorem runAsync_kept {s : AmpduMlme} (hi : Inv c s) (a : Async) : Kept c s (s.runAsync k c a) := by
  cases a with
  | startTxBaSession a => exact startTxBaSession_kept hi a
  | stopTxBaSession => exact stopTxBaSession_kept hi
  | startTxBaCbIrqsafe =>
    exact hi.modTx_later fun t _ => ⟨⟨rfl, rfl, rfl, rfl, rfl, rfl, rfl, id⟩, rfl⟩
  | stopTxBaCbIrqsafe =>
    exact hi.modTx_later fun t _ => ⟨⟨rfl, rfl, rfl, rfl, rfl, rfl, rfl, id⟩, rfl⟩
  | addbaRespTimerExpired => exact addbaRespTimerExpired_kept hi
  | sessionTimerExpired jiffies => exact sessionTimerExpired_kept hi jiffies
  | txPrepAgg frame jiffies => exact txPrepAgg_kept hi frame jiffies

theorem runAsyncs_kept (as : List Async) : ∀ {s : AmpduMlme}, Inv c s →
    Kept c s (as.foldl (AmpduMlme.runAsync k c) s) := by
  induction as with
  | nil => exact fun hi => ⟨hi, .refl _⟩
  | cons a as ih =>
    intro s hi
    obtain ⟨hi', hl⟩ := runAsync_kept (k := k) hi a
    obtain ⟨hi'', hl'⟩ := ih hi'
    exact ⟨hi'', hl.trans hl'⟩

/-- **The invariant after the driver has returned.** -/
theorem drvAmpduAction_inv {s : AmpduMlme} {addr : Nat} {r : DrvReply} (params : AmpduParams)
    (hi : Inv c s) (hlog : r.inDriver = true → Inv c (s.logEvent (.ampduAction addr params))) :
    Inv c (s.drvAmpduAction k c addr r params).1 ∧
      ∀ t, s.tidTx = some t → ∃ t', (s.drvAmpduAction k c addr r params).1.tidTx = some t' ∧
        Later t t' := by
  unfold AmpduMlme.drvAmpduAction
  cases hd : r.inDriver with
  | false => exact ⟨hi, fun t ht => ⟨t, ht, .refl t⟩⟩
  | true =>
    obtain ⟨hi', hl⟩ := runAsyncs_kept (k := k) r.meanwhile (hlog hd)
    exact ⟨hi', hl.tx⟩

end Mac80211.AggTx
