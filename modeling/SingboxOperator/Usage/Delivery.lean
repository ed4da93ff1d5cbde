import SingboxOperator.Lib.Runs
import SingboxOperator.Usage.Collector
/-!
# From counters to the sink

A query takes the counters off the node, so until a `Write` has succeeded the
collector is the only one that has them. It keeps nothing from one cycle to the
next: what is in a batch whose `Write` fails, fully or in part, is gone, and so
is a counter whose name does not parse.
-/
open SingboxOperator.Lib

namespace SingboxOperator.Usage

/-- A call of `Write`: the cycle its batch was collected in, the batch, and the error if there was one. -/
structure WriteCall where
  cycle : Nat
  batch : UsageBatch
  error : Option WriteError
  deriving DecidableEq, Repr

/-- A collector, the number of its cycles so far and the calls of `Write` so far. -/
structure State where
  collector : Collector := {}
  cycles : Nat := 0
  writes : List WriteCall := []

section
variable [MapOrder]

def State.poll (s : State) (cycle : Cycle) : State :=
  let (collector, batch) := pollCycle s.collector cycle
  { collector := collector
    cycles := s.cycles + 1
    writes := s.writes ++ (batch.map fun b => { cycle := s.cycles, batch := b, error := cycle.write }).toList }

/-- The transitions of a collector; the answers a cycle gets are not up to it. -/
def Polls (s : State) (cycle : Cycle) (s' : State) : Prop := s' = s.poll cycle

/-! ## The property -/

/-- The batch has the value of an entry: it has the record of the entry's key,
with the total of the counters of that key and direction. -/
def HasEntry (batch : UsageBatch) (queries : List Query) (tgt : CollectTarget) (e : RawStatEntry) : Prop :=
  ∃ c, counterOf tgt e = some c ∧ ∃ r ∈ batch, r.key = c.key ∧
    r.bytes c.direction = total c.direction ((queries.flatMap Query.counters).filter fun c' => c'.key = c.key)

/-- An entry of cycle `n` is in a batch of that cycle whose `Write` returned nil, or the collector still has it. -/
def Kept (s : State) (n : Nat) (queries : List Query) (tgt : CollectTarget) (e : RawStatEntry) : Prop :=
  (∃ w ∈ s.writes, w.error = none ∧ w.cycle = n ∧ HasEntry w.batch queries tgt e) ∨
    HasEntry s.collector.held queries tgt e

/-- Every non-zero user counter that some query of the run returned is kept. -/
def NothingLost (trace : List (State × Cycle × State)) (s : State) : Prop :=
  ∀ x ∈ trace, ∀ queries, x.2.1.discover = .ok queries → ∀ q ∈ queries, ∀ entries, q.answer = .ok entries →
    ∀ e ∈ entries, isUserCounter e.name = true → e.value ≠ 0 → Kept s x.1.cycles queries q.target e

/-! ## Cycles of a run -/

variable {trace : List (State × Cycle × State)} {s : State}

/-- A cycle starts when the one before has ended. -/
theorem not_inPoll (h : Run Polls {} trace s) :
    s.collector.inPoll = false ∧ ∀ x ∈ trace, x.1.collector.inPoll = false := by
  have hinv := h.invariant (I := fun s => s.collector.inPoll = false) (P := fun _ _ => True) rfl ?_ fun _ _ => trivial
  · exact ⟨hinv.1, fun x hx => (hinv.2 x hx).1⟩
  · rintro s cycle _ rfl - hs
    simpa only [State.poll, pollCycle_eq hs] using hs

theorem cycles_lt (h : Run Polls {} trace s) : ∀ x ∈ trace, x.1.cycles < s.cycles := by
  induction h with
  | nil => simp
  | snoc _ hs ih =>
    subst hs
    intro x hx
    rcases List.mem_append.1 hx with hx | hx
    · exact Nat.lt_succ_of_lt (ih x hx)
    · rw [List.mem_singleton.1 hx]
      exact Nat.lt_succ_self _

theorem cycles_inj (h : Run Polls {} trace s) : ∀ x ∈ trace, ∀ y ∈ trace, x.1.cycles = y.1.cycles → x = y := by
  induction h with
  | nil => simp
  | snoc hrun _ ih =>
    have hlt := cycles_lt hrun
    intro x hx y hy hn
    rcases List.mem_append.1 hx with hx | hx <;> rcases List.mem_append.1 hy with hy | hy
    · exact ih x hx y hy hn
    · rw [List.mem_singleton.1 hy] at hn
      exact absurd (hlt x hx) (by simp [hn])
    · rw [List.mem_singleton.1 hx] at hn
      exact absurd (hlt y hy) (by simp [← hn])
    · rw [List.mem_singleton.1 hx, List.mem_singleton.1 hy]

/-- The calls of `Write` are those of the cycles that collected something. -/
theorem mem_writes (h : Run Polls {} trace s) {w : WriteCall} :
    w ∈ s.writes ↔
      ∃ x ∈ trace, w.cycle = x.1.cycles ∧ collected x.2.1 = some w.batch ∧ w.error = x.2.1.write := by
  induction h with
  | nil => simp
  | @snoc trace s s' cycle hrun hs ih =>
    have hidle := (not_inPoll hrun).1
    have hnew : w ∈ ((collected cycle).map fun b => (⟨s.cycles, b, cycle.write⟩ : WriteCall)).toList ↔
        w.cycle = s.cycles ∧ collected cycle = some w.batch ∧ w.error = cycle.write := by
      obtain ⟨n, batch, error⟩ := w
      cases collected cycle with
      | none => simp
      | some b =>
        simp only [Option.map_some, Option.toList_some, List.mem_singleton, WriteCall.mk.injEq, Option.some.injEq,
          @eq_comm _ batch b]
    subst hs
    rw [State.poll, pollCycle_eq hidle, List.mem_append, ih, hnew]
    simp only [List.mem_append, List.mem_singleton, or_and_right, exists_or, exists_eq_left]

/-! ## Nothing is lost -/

/-- Every non-zero user counter the cycle gets has a name that parses, and `Write` succeeds if there is one. -/
def Lossless (cycle : Cycle) : Prop :=
  ∀ queries, cycle.discover = .ok queries → ∀ q ∈ queries, ∀ entries, q.answer = .ok entries → ∀ e ∈ entries,
    isUserCounter e.name = true → e.value ≠ 0 → (parseUserCounterName e.name).isSome = true ∧ cycle.write = none

/-- What a run has collected is kept exactly when every cycle was lossless: there is no second attempt. -/
theorem nothingLost_iff (h : Run Polls {} trace s) : NothingLost trace s ↔ ∀ x ∈ trace, Lossless x.2.1 := by
  refine forall₂_congr fun x hx => forall₂_congr fun queries hd => forall₂_congr fun q hq =>
    forall₂_congr fun entries ha => forall₂_congr fun e he => forall₂_congr fun _ hv => ?_
  constructor
  · rintro (⟨w, hw, herr, hn, c, hc, _⟩ | ⟨_, _, r, hr, _⟩)
    · obtain ⟨y, hy, hyn, _, hye⟩ := (mem_writes h).1 hw
      obtain rfl := cycles_inj h y hy x hx (hyn.symm.trans hn)
      exact ⟨(exists_counterOf hv).1 ⟨c, hc⟩, hye.symm.trans herr⟩
    · cases hr
  · rintro ⟨hparse, hwrite⟩
    obtain ⟨c, hc⟩ := (exists_counterOf hv).2 hparse
    obtain ⟨r, hr, hkey, hbytes⟩ := exists_record x.2.1.now (mem_counters hq ha he hc)
    have hwritten : ⟨x.1.cycles, buildBatch x.2.1.now queries, none⟩ ∈ s.writes :=
      (mem_writes h).2 ⟨x, hx, rfl, collected_of_mem hd hr, hwrite.symm⟩
    exact .inl ⟨_, hwritten, rfl, rfl, c, hc, r, hr, hkey, hbytes _⟩

end

/-! ### A sink that is not there -/

def nodeA : CollectTarget := { nodeName := "node-a", v2rayAPIAddr := "10.0.0.1:10085", virtualUsers := ["alice#node-b"] }

def aliceUplink : RawStatEntry := { name := "user>>>alice#node-b>>>traffic>>>uplink", value := 1000 }

def pollNodeA (write : Option WriteError) : Cycle where
  discover := .ok [{ target := nodeA, answer := .ok [aliceUplink] }]
  now := 1700000000000000000
  write := write

theorem run_pollNodeA [MapOrder] (write : Option WriteError) :
    Run Polls {} [({}, pollNodeA write, State.poll {} (pollNodeA write))] (State.poll {} (pollNodeA write)) :=
  Run.nil.snoc rfl

theorem aliceUplink_parses : (parseUserCounterName aliceUplink.name).isSome = true := by decide

section
attribute [local instance] storedOrder

/-- The counters were reset, the sink was not reached, and the batch is dropped. -/
theorem not_forall_nothingLost :
    ¬ ∀ [MapOrder] (trace : List (State × Cycle × State)) (s : State), Run Polls {} trace s → NothingLost trace s := by
  intro h
  have hrun := run_pollNodeA (some (.failed "ES bulk request failed"))
  have hkept := h _ _ hrun _ (List.mem_singleton_self _) _ rfl _ (List.mem_singleton_self _) _ rfl aliceUplink
    (List.mem_singleton_self _) (by decide) (by decide)
  rcases hkept with ⟨w, hw, herr, _⟩ | ⟨_, _, r, hr, _⟩
  · obtain ⟨x, hx, _, _, hwrite⟩ := (mem_writes hrun).1 hw
    rw [herr, List.mem_singleton.1 hx] at hwrite
    cases hwrite
  · cases hr

theorem nothingLost_iff_nodeA :
    Run Polls {} [({}, pollNodeA none, State.poll {} (pollNodeA none))] (State.poll {} (pollNodeA none)) ∧
      NothingLost [({}, pollNodeA none, State.poll {} (pollNodeA none))] (State.poll {} (pollNodeA none)) := by
  refine ⟨run_pollNodeA none, (nothingLost_iff (run_pollNodeA none)).2 fun x hx => ?_⟩
  rw [List.mem_singleton.1 hx]
  intro queries hd q hq entries ha e he _ _
  obtain rfl := Except.ok.inj hd
  obtain rfl := List.mem_singleton.1 hq
  obtain rfl := Except.ok.inj ha
  obtain rfl := List.mem_singleton.1 he
  exact ⟨aliceUplink_parses, rfl⟩

end

end SingboxOperator.Usage
