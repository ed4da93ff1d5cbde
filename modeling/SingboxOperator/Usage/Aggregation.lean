import Mathlib.Algebra.Ring.Int.Defs
import SingboxOperator.Usage.Attribution
/-!
# What a poll cycle adds up

The batch of a cycle against the answers of its queries: one record for every
node, user and target with a non-zero counter, and in it the sums of what was
returned for them. `Aggregates` says it in terms of the answers alone.

The index of a cycle joins the three names with NUL, and nothing keeps NUL out of
a counter's name: `a\0b#c` and `a#b\0c` have one key. Names without NUL never
share one.
-/
open SingboxOperator.Lib

namespace SingboxOperator.Usage

/-- The values of the non-zero counters of a user and a target, one direction of
them, that a query returned for a node. A query that failed returned none. -/
def Query.values (inboundNode user node : String) (direction : Direction) (q : Query) : List Int :=
  match q.answer with
  | .error _ => []
  | .ok entries =>
    if q.target.nodeName = inboundNode then
      (entries.filter fun e =>
        e.value ≠ 0 ∧ parseUserCounterName e.name = some (user, node, direction)).map fun e => e.value.toInt
    else []

/-- Those of all queries, each value as often as it was returned. -/
def countedValues (queries : List Query) (inboundNode user node : String) (direction : Direction) : List Int :=
  queries.flatMap (Query.values inboundNode user node direction)

def UsageRecord.triple (r : UsageRecord) : String × String × String := (r.inboundNode, r.user, r.node)

/-- A record for each triple of names with a counter, and the sums of its counters as `int64`. -/
structure Aggregates (queries : List Query) (batch : UsageBatch) : Prop where
  one_record : (batch.map UsageRecord.triple).Nodup
  mem_iff : ∀ i u n, (i, u, n) ∈ batch.map UsageRecord.triple ↔ ∃ d, countedValues queries i u n d ≠ []
  bytes : ∀ r ∈ batch, ∀ d, r.bytes d = Int64.ofInt (countedValues queries r.inboundNode r.user r.node d).sum

/-! ## Counters of one triple -/

def Counter.triple (c : Counter) : String × String × String := (c.inboundNode, c.user, c.node)

/-- The names of the counters that are taken in have no NUL. -/
def NulFree (queries : List Query) : Prop :=
  ∀ c ∈ queries.flatMap Query.counters,
    nul ∉ c.inboundNode.toList ∧ nul ∉ c.user.toList ∧ nul ∉ c.node.toList

theorem total_eq_ofInt (d : Direction) (counters : List Counter) :
    total d counters = Int64.ofInt ((counters.filter fun c => c.direction = d).map fun c => c.value.toInt).sum := by
  induction counters using List.reverseRecOn with
  | nil => rfl
  | append_singleton counters c ih =>
    rw [total_concat, ih]
    by_cases h : c.direction = d <;> simp [List.filter_append, h, Int64.ofInt_add]

/-- An entry that is not of the node is none of its counters. -/
theorem values_of_ne {q : Query} {i : String} (h : q.target.nodeName ≠ i) (u n : String) (d : Direction) :
    q.values i u n d = [] := by
  unfold Query.values
  cases q.answer with
  | error _ => rfl
  | ok entries => exact if_neg h

/-- The counters of a query that have the three names and the direction. -/
theorem values_eq (q : Query) (i u n : String) (d : Direction) :
    q.values i u n d =
      ((q.counters.filter fun c => c.triple = (i, u, n)).filter fun c => c.direction = d).map fun c => c.value.toInt := by
  by_cases hi : q.target.nodeName = i
  · unfold Query.values Query.counters
    cases q.answer with
    | error _ => rfl
    | ok entries =>
      simp only [if_pos hi, List.filter_filter]
      -- entry by entry, both sides keep the same values
      induction entries with
      | nil => rfl
      | cons e entries ih =>
        rw [List.filterMap_cons]
        cases hparse : parseUserCounterName e.name with
        | none => simpa [counterOf, hparse] using ih
        | some names =>
          obtain ⟨user, node, direction⟩ := names
          by_cases hv : e.value = 0
          · simpa [counterOf, hparse, hv] using ih
          · by_cases h : direction = d ∧ user = u ∧ node = n
            · obtain ⟨rfl, rfl, rfl⟩ := h
              simpa [counterOf, hparse, hv, Counter.triple, hi] using ih
            · have h' : ¬ (user = u ∧ node = n ∧ direction = d) := fun hn => h ⟨hn.2.2, hn.1, hn.2.1⟩
              simpa [counterOf, hparse, hv, Counter.triple, hi, h, h'] using ih
  · have hnone : (q.counters.filter fun c => c.triple = (i, u, n)) = [] := by
      refine List.filter_eq_nil_iff.2 fun c hc ht => hi ?_
      rw [← inboundNode_of_mem hc]
      exact (Prod.mk.inj (of_decide_eq_true ht)).1
    rw [values_of_ne hi, hnone]
    rfl

theorem countedValues_eq (queries : List Query) (i u n : String) (d : Direction) :
    countedValues queries i u n d =
      (((queries.flatMap Query.counters).filter fun c => c.triple = (i, u, n)).filter fun c => c.direction = d).map
        fun c => c.value.toInt := by
  rw [List.filter_flatMap, List.filter_flatMap, List.map_flatMap]
  exact congrArg (fun f => queries.flatMap f) (funext fun q => values_eq q i u n d)

theorem countedValues_ne_nil {queries : List Query} {i u n : String} :
    (∃ d, countedValues queries i u n d ≠ []) ↔ ∃ c ∈ queries.flatMap Query.counters, c.triple = (i, u, n) := by
  constructor
  · rintro ⟨d, h⟩
    rw [countedValues_eq] at h
    obtain ⟨c, hc⟩ := List.exists_mem_of_ne_nil _ (List.map_eq_nil_iff.not.1 h)
    obtain ⟨hc, ht⟩ := List.mem_filter.1 (List.mem_filter.1 hc).1
    exact ⟨c, hc, of_decide_eq_true ht⟩
  · rintro ⟨c, hc, ht⟩
    refine ⟨c.direction, ?_⟩
    rw [countedValues_eq]
    refine List.map_eq_nil_iff.not.2 (List.ne_nil_of_mem (a := c) ?_)
    simp [List.mem_filter, hc, ht]

/-- Without NUL the key of the index tells the triple. -/
theorem key_eq_iff {queries : List Query} (hnul : NulFree queries) {c c' : Counter}
    (hc : c ∈ queries.flatMap Query.counters) (hc' : c' ∈ queries.flatMap Query.counters) :
    c.key = c'.key ↔ c.triple = c'.triple := by
  obtain ⟨hi, hu, _⟩ := hnul c hc
  obtain ⟨hi', hu', _⟩ := hnul c' hc'
  constructor
  · intro h
    obtain ⟨hi, hu, hn⟩ := recordKey_inj hi hi' hu hu' h
    rw [Counter.triple, Counter.triple, hi, hu, hn]
  · intro h
    obtain ⟨hi, h⟩ := Prod.mk.inj h
    obtain ⟨hu, hn⟩ := Prod.mk.inj h
    rw [Counter.key, Counter.key, hi, hu, hn]

theorem filter_key_eq {queries : List Query} (hnul : NulFree queries) {c : Counter}
    (hc : c ∈ queries.flatMap Query.counters) :
    ((queries.flatMap Query.counters).filter fun c' => c'.key = c.key) =
      (queries.flatMap Query.counters).filter fun c' => c'.triple = c.triple :=
  List.filter_congr fun _ hc' => decide_eq_decide.2 (key_eq_iff hnul hc' hc)

theorem key_of_triple {r : UsageRecord} {i u n : String} (h : r.triple = (i, u, n)) : r.key = recordKey i u n := by
  obtain ⟨hi, h⟩ := Prod.mk.inj h
  obtain ⟨hu, hn⟩ := Prod.mk.inj h
  rw [UsageRecord.key, hi, hu, hn]

/-! ## The batch -/

section
variable [MapOrder] {queries : List Query} {now : Int}

/-- No two records of a batch have one key. -/
theorem nodup_keys (now : Int) (queries : List Query) : ((buildBatch now queries).map UsageRecord.key).Nodup := by
  have hkeys := nodup_range_keys ["pollCycle"] (recordIndex now queries)
  have hfst : (MapOrder.range ["pollCycle"] (recordIndex now queries)).map Prod.fst =
      (buildBatch now queries).map UsageRecord.key := by
    rw [buildBatch, List.map_map]
    refine List.map_congr_left fun e he => ?_
    have hl := mem_range.1 he
    rw [lookup_recordIndex] at hl
    exact ((recordOf_spec (fun c hc => of_decide_eq_true (List.mem_filter.1 hc).2) hl).1).symm
  rwa [hfst] at hkeys

theorem eq_of_key_eq {r r' : UsageRecord} (hr : r ∈ buildBatch now queries) (hr' : r' ∈ buildBatch now queries)
    (h : r.key = r'.key) : r = r' :=
  List.inj_on_of_nodup_map (nodup_keys now queries) hr hr' h

/-- The counter a record has its names from, and its bytes. -/
theorem record_spec {r : UsageRecord} (hr : r ∈ buildBatch now queries) :
    ∃ c ∈ queries.flatMap Query.counters, r.triple = c.triple ∧
      ∀ d, r.bytes d = total d ((queries.flatMap Query.counters).filter fun c' => c'.key = c.key) := by
  obtain ⟨c, hc, hi, hu, hn, _⟩ := exists_first hr
  have htriple : r.triple = c.triple := by rw [UsageRecord.triple, Counter.triple, hi, hu, hn]
  obtain ⟨r', hr', hkey, hbytes⟩ := exists_record now hc
  obtain rfl := eq_of_key_eq hr hr' ((key_of_triple htriple).trans hkey.symm)
  exact ⟨c, hc, htriple, hbytes⟩

theorem buildBatch_aggregates (hnul : NulFree queries) : Aggregates queries (buildBatch now queries) := by
  refine ⟨?_, ?_, ?_⟩
  · -- the key is a function of the triple
    refine List.Nodup.of_map (fun t => recordKey t.1 t.2.1 t.2.2) ?_
    rw [List.map_map]
    exact nodup_keys now queries
  · intro i u n
    rw [countedValues_ne_nil, List.mem_map]
    constructor
    · rintro ⟨r, hr, ht⟩
      obtain ⟨c, hc, hrc, _⟩ := record_spec hr
      exact ⟨c, hc, hrc.symm.trans ht⟩
    · rintro ⟨c, hc, ht⟩
      obtain ⟨r, hr, hkey, _⟩ := exists_record now hc
      obtain ⟨c', hc', hrc, _⟩ := record_spec hr
      have hkey' : c'.key = c.key := (key_of_triple hrc).symm.trans hkey
      exact ⟨r, hr, hrc.trans (((key_eq_iff hnul hc' hc).1 hkey').trans ht)⟩
  · intro r hr d
    obtain ⟨c, hc, hrc, hbytes⟩ := record_spec hr
    rw [hbytes d, total_eq_ofInt, filter_key_eq hnul hc, ← hrc, countedValues_eq]
    rfl

/-- Records of one document are one record, where the digest does not collide. -/
theorem nodup_documentKeys (hnul : NulFree queries)
    (hinj : Set.InjOn sha256 {m | ∃ r ∈ buildBatch now queries, m = bytesOf (documentText r)}) :
    ((buildBatch now queries).map documentKey).Nodup := by
  have hnames : ∀ r ∈ buildBatch now queries,
      nul ∉ r.inboundNode.toList ∧ nul ∉ r.user.toList ∧ nul ∉ r.node.toList := by
    intro r hr
    obtain ⟨c, hc, hi, hu, hn, _⟩ := exists_first hr
    rw [hi, hu, hn]
    exact hnul c hc
  refine List.Nodup.map_on ?_ (nodup_keys now queries).of_map
  intro r hr r' hr' hdoc
  obtain ⟨hi, hu, hn⟩ := hnames r hr
  obtain ⟨hi', hu', hn'⟩ := hnames r' hr'
  have htext := bytesOf_inj.1 (hinj ⟨r, hr, rfl⟩ ⟨r', hr', rfl⟩ (hexEncode_inj.1 hdoc))
  exact eq_of_key_eq hr hr' (documentText_inj hu hu' hi hi' hn hn' htext)

theorem pollCycle_getD {c : Collector} {cycle : Cycle} (hidle : c.inPoll = false) (hd : cycle.discover = .ok queries) :
    (pollCycle c cycle).2.getD [] = buildBatch cycle.now queries ∧ (pollCycle c cycle).2 ≠ some [] := by
  rw [pollCycle_eq hidle, collected, hd]
  dsimp only
  by_cases h : buildBatch cycle.now queries = []
  · simp [h]
  · simp [h]

/-- What an idle collector gives to `Write` adds up the counters of the queries
that succeeded. It gives nothing rather than an empty batch, and no two records
of it have one document. -/
theorem pollCycle_aggregates {c : Collector} {cycle : Cycle} (hidle : c.inPoll = false)
    (hd : cycle.discover = .ok queries) (hnul : NulFree queries) :
    Aggregates queries ((pollCycle c cycle).2.getD []) ∧ (pollCycle c cycle).2 ≠ some [] ∧
      (Set.InjOn sha256 {m | ∃ r ∈ (pollCycle c cycle).2.getD [], m = bytesOf (documentText r)} →
        (((pollCycle c cycle).2.getD []).map documentKey).Nodup) := by
  obtain ⟨hbatch, hne⟩ := pollCycle_getD hidle hd
  rw [hbatch]
  exact ⟨buildBatch_aggregates hnul, hne, nodup_documentKeys hnul⟩

end

/-! ### Two counters with one key -/

def turnstile : CollectTarget where
  nodeName := "turnstile"
  v2rayAPIAddr := "10.0.3.1:10085"
  virtualUsers := []

/-- The names of the two counters are `a\0b`, `c` and `a`, `b\0c`. -/
def nulQuery : Query where
  target := turnstile
  answer := .ok [{ name := "user>>>a\x00b#c>>>traffic>>>uplink", value := 1 },
    { name := "user>>>a#b\x00c>>>traffic>>>uplink", value := 2 }]

def nulCycle : Cycle where
  discover := .ok [nulQuery]
  now := 1700000000000000000
  write := none

theorem nulQuery_counters : [nulQuery].flatMap Query.counters =
    [⟨"turnstile", "a\x00b", "c", .uplink, 1⟩, ⟨"turnstile", "a", "b\x00c", .uplink, 2⟩] := by
  decide

section
attribute [local instance] storedOrder

/-- What the two users have sent ends up in one record. -/
theorem not_forall_aggregates :
    ¬ ∀ [MapOrder] (c : Collector) (cycle : Cycle) (queries : List Query), c.inPoll = false →
      cycle.discover = .ok queries → Aggregates queries ((pollCycle c cycle).2.getD []) := by
  intro h
  have hidle : ({} : Collector).inPoll = false := rfl
  have hdiscover : nulCycle.discover = .ok [nulQuery] := rfl
  have hagg := h {} nulCycle [nulQuery] hidle hdiscover
  rw [(pollCycle_getD hidle hdiscover).1] at hagg
  have hcounted : ∀ u n, (∃ c ∈ [nulQuery].flatMap Query.counters, c.triple = ("turnstile", u, n)) →
      ("turnstile", u, n) ∈ (buildBatch nulCycle.now [nulQuery]).map UsageRecord.triple :=
    fun u n hc => (hagg.mem_iff _ _ _).2 (countedValues_ne_nil.2 hc)
  rw [nulQuery_counters] at hcounted
  obtain ⟨r, hr, ht⟩ := List.mem_map.1 (hcounted "a\x00b" "c" (by decide))
  obtain ⟨r', hr', ht'⟩ := List.mem_map.1 (hcounted "a" "b\x00c" (by decide))
  have hkeys : recordKey "turnstile" "a\x00b" "c" = recordKey "turnstile" "a" "b\x00c" := by decide
  obtain rfl := eq_of_key_eq hr hr' ((key_of_triple ht).trans (hkeys.trans (key_of_triple ht').symm))
  exact absurd (ht.symm.trans ht') (by decide)

/-! ### A cycle with a node that does not answer -/

def wicket : CollectTarget where
  nodeName := "wicket"
  v2rayAPIAddr := "10.0.3.2:10085"
  virtualUsers := []

def wicketQueries : List Query :=
  [{ target := turnstile, answer := .error "connection refused" },
   { target := wicket,
     answer := .ok [{ name := "user>>>alice#relay>>>traffic>>>uplink", value := 1000 },
       { name := "user>>>alice#relay>>>traffic>>>downlink", value := 0 }] }]

def wicketCycle : Cycle where
  discover := .ok wicketQueries
  now := 1700000000000000000
  write := none

theorem wicketQueries_counters :
    wicketQueries.flatMap Query.counters = [⟨"wicket", "alice", "relay", .uplink, 1000⟩] := by
  decide

theorem pollCycle_aggregates_wicket :
    NulFree wicketQueries ∧ Aggregates wicketQueries ((pollCycle {} wicketCycle).2.getD []) ∧
      (((pollCycle {} wicketCycle).2.getD []).map documentKey).Nodup := by
  have hnul : NulFree wicketQueries := by
    intro c hc
    rw [wicketQueries_counters, List.mem_singleton] at hc
    subst hc
    decide
  have hidle : ({} : Collector).inPoll = false := rfl
  have hdiscover : wicketCycle.discover = .ok wicketQueries := rfl
  obtain ⟨hagg, _, hdocs⟩ := pollCycle_aggregates hidle hdiscover hnul
  refine ⟨hnul, hagg, hdocs (Set.Subsingleton.injOn ?_ _)⟩
  -- there is one record
  rw [(pollCycle_getD hidle hdiscover).1]
  rintro _ ⟨r, hr, rfl⟩ _ ⟨r', hr', rfl⟩
  obtain ⟨c, hc, ht, _⟩ := record_spec hr
  obtain ⟨c', hc', ht', _⟩ := record_spec hr'
  rw [wicketQueries_counters, List.mem_singleton] at hc hc'
  subst hc hc'
  rw [eq_of_key_eq hr hr' ((key_of_triple ht).trans (key_of_triple ht').symm)]

end

end SingboxOperator.Usage
