import SingboxOperator.Lib.GoMap
import SingboxOperator.Lib.GoStrings
/-!
# The usage collector

`pollCycle` follows `Collector.pollCycle` in `internal/usagecollector`, with
`QueryUserStats`, `Discover` and `Write` as the answers the cycle gets. A query
resets the counters on the node, so what it returns is nowhere else. Times are
nanoseconds since the epoch and counters are `int64` that wrap around.

The loops put the counters into a map of records. `lookup_recordIndex` says what
is in it: for each key the record of its first counter, with the totals of all
its counters.
-/
open SingboxOperator.Lib

namespace SingboxOperator.Usage

/-! ## Counters -/

structure RawStatEntry where
  name : String
  value : Int64
  deriving DecidableEq, Repr

inductive Direction
  | uplink
  | downlink
  deriving DecidableEq, Repr

def parseDirection (s : List Char) : Option Direction :=
  if s = "uplink".toList then some .uplink else if s = "downlink".toList then some .downlink else none

/-- What the pattern of `QueryUserStats` asks for. -/
def isUserCounter (name : String) : Bool := "user>>>".toList.isPrefixOf name.toList

/-- The user, the node and the direction of a counter. Without `#` the whole name is the user. -/
def parseUserCounterName (name : String) : Option (String × String × Direction) :=
  if !isUserCounter name then none
  else
    match split ">>>".toList (name.toList.drop "user>>>".toList.length) with
    | [virtualUserName, kind, direction] =>
      if virtualUserName = [] then none
      else if kind ≠ "traffic".toList then none
      else
        (parseDirection direction).map fun d =>
          match cut '#' virtualUserName with
          | none => (String.ofList virtualUserName, "", d)
          | some (user, node) => (String.ofList user, String.ofList node, d)
    | _ => none

/-! ## Records -/

structure UsageRecord where
  timestamp : Int
  user : String
  inboundNode : String
  node : String
  uplinkBytes : Int64 := 0
  downlinkBytes : Int64 := 0
  collectedAt : Int
  deriving DecidableEq, Repr

abbrev UsageBatch := List UsageRecord

def UsageRecord.bytes (r : UsageRecord) : Direction → Int64
  | .uplink => r.uplinkBytes
  | .downlink => r.downlinkBytes

def UsageRecord.add (r : UsageRecord) (direction : Direction) (value : Int64) : UsageRecord :=
  match direction with
  | .uplink => { r with uplinkBytes := r.uplinkBytes + value }
  | .downlink => { r with downlinkBytes := r.downlinkBytes + value }

/-- The key of the index of a cycle. -/
def recordKey (inboundNode user node : String) : String := inboundNode ++ "\x00" ++ user ++ "\x00" ++ node

def UsageRecord.key (r : UsageRecord) : String := recordKey r.inboundNode r.user r.node

def documentText (r : UsageRecord) : String :=
  r.user ++ "\x00" ++ r.inboundNode ++ "\x00" ++ r.node ++ "\x00" ++ toString r.collectedAt

/-- The id of a record in the sink. -/
def documentKey (r : UsageRecord) : String := hexEncode (sha256 (bytesOf (documentText r)))

/-! ## One cycle -/

structure CollectTarget where
  nodeName : String
  v2rayAPIAddr : String
  virtualUsers : List String
  deriving DecidableEq, Repr

/-- A target and what `QueryUserStats` answers for it. -/
structure Query where
  target : CollectTarget
  answer : Except String (List RawStatEntry)

inductive WriteError
  | failed (message : String)
  | bulkPartialFailure (succeeded failed : Nat) (failedIDs : List String)
  deriving DecidableEq, Repr

/-- The answers a cycle gets: those of `Discover`, of a query for each target,
of the clock, and of `Write` should it be called. -/
structure Cycle where
  discover : Except String (List Query)
  now : Int
  write : Option WriteError

/-- One round of the loop over the entries of a target. -/
def addEntry (collectedAt : Int) (tgt : CollectTarget) (recordIndex : GoMap String UsageRecord) (entry : RawStatEntry) :
    GoMap String UsageRecord :=
  match parseUserCounterName entry.name with
  | none => recordIndex
  | some (user, node, direction) =>
    if entry.value = 0 then recordIndex
    else
      let key := recordKey tgt.nodeName user node
      let fresh : UsageRecord :=
        { timestamp := collectedAt, user := user, inboundNode := tgt.nodeName, node := node, collectedAt := collectedAt }
      recordIndex.insert key ((recordIndex.get key fresh).add direction entry.value)

/-- One round of the loop over the targets; one that could not be queried is skipped. -/
def addTarget (collectedAt : Int) (recordIndex : GoMap String UsageRecord) (q : Query) : GoMap String UsageRecord :=
  match q.answer with
  | .error _ => recordIndex
  | .ok entries => entries.foldl (addEntry collectedAt q.target) recordIndex

def recordIndex (collectedAt : Int) (queries : List Query) : GoMap String UsageRecord :=
  queries.foldl (addTarget collectedAt) ∅

def buildBatch [MapOrder] (collectedAt : Int) (queries : List Query) : UsageBatch :=
  (MapOrder.range ["pollCycle"] (recordIndex collectedAt queries)).map Prod.snd

/-- The fields of `Collector` that change. None of them holds records. -/
structure Collector where
  inPoll : Bool := false
  deriving DecidableEq, Repr

/-- The records a collector keeps from one cycle to the next. -/
def Collector.held (_ : Collector) : UsageBatch := []

/-- The collector after the cycle, and the batch given to `Write` if it was called. -/
def pollCycle [MapOrder] (c : Collector) (cycle : Cycle) : Collector × Option UsageBatch :=
  if c.inPoll then (c, none)
  else
    match cycle.discover with
    | .error _ => ({ c with inPoll := false }, none)
    | .ok [] => ({ c with inPoll := false }, none)
    | .ok queries =>
      let batch := buildBatch cycle.now queries
      ({ c with inPoll := false }, if batch = [] then none else some batch)

/-! ## What a batch has -/

/-- A counter that is taken in. -/
structure Counter where
  inboundNode : String
  user : String
  node : String
  direction : Direction
  value : Int64
  deriving DecidableEq, Repr

def Counter.key (c : Counter) : String := recordKey c.inboundNode c.user c.node

/-- The counter of an entry; there is none when the name does not parse or the value is zero. -/
def counterOf (tgt : CollectTarget) (entry : RawStatEntry) : Option Counter :=
  (parseUserCounterName entry.name).bind fun (user, node, direction) =>
    if entry.value = 0 then none else some ⟨tgt.nodeName, user, node, direction, entry.value⟩

def Query.counters (q : Query) : List Counter :=
  match q.answer with
  | .error _ => []
  | .ok entries => entries.filterMap (counterOf q.target)

/-- The record a counter starts. -/
def Counter.fresh (collectedAt : Int) (c : Counter) : UsageRecord :=
  { timestamp := collectedAt, user := c.user, inboundNode := c.inboundNode, node := c.node, collectedAt := collectedAt }

def addCounter (collectedAt : Int) (recordIndex : GoMap String UsageRecord) (c : Counter) : GoMap String UsageRecord :=
  recordIndex.insert c.key ((recordIndex.get c.key (c.fresh collectedAt)).add c.direction c.value)

theorem addTarget_eq (collectedAt : Int) (recordIndex : GoMap String UsageRecord) (q : Query) :
    addTarget collectedAt recordIndex q = q.counters.foldl (addCounter collectedAt) recordIndex := by
  unfold addTarget Query.counters
  cases q.answer with
  | error _ => rfl
  | ok entries =>
    rw [List.foldl_filterMap]
    refine congrArg (fun f => entries.foldl f recordIndex) (funext fun index => funext fun entry => ?_)
    unfold addEntry counterOf
    cases parseUserCounterName entry.name with
    | none => rfl
    | some names =>
      obtain ⟨user, node, direction⟩ := names
      by_cases hv : entry.value = 0
      · simp [hv]
      · simp [hv, addCounter, Counter.key, Counter.fresh]

theorem recordIndex_eq (collectedAt : Int) (queries : List Query) :
    recordIndex collectedAt queries = (queries.flatMap Query.counters).foldl (addCounter collectedAt) ∅ := by
  rw [List.foldl_flatMap]
  exact congrArg (fun f => queries.foldl f ∅) (funext fun index => funext fun q => addTarget_eq _ _ _)

/-- The sum of the counters of a direction, as `int64`. -/
def total (direction : Direction) (counters : List Counter) : Int64 :=
  (counters.filter fun c => c.direction = direction).foldl (fun sum c => sum + c.value) 0

theorem total_concat (direction : Direction) (counters : List Counter) (c : Counter) :
    total direction (counters ++ [c]) =
      if c.direction = direction then total direction counters + c.value else total direction counters := by
  unfold total
  by_cases h : c.direction = direction <;> simp [List.filter_append, h, List.foldl_append]

/-- The record of counters with one key. -/
def recordOf (collectedAt : Int) (counters : List Counter) : Option UsageRecord :=
  counters.head?.map fun c =>
    { c.fresh collectedAt with uplinkBytes := total .uplink counters, downlinkBytes := total .downlink counters }

theorem recordOf_concat (collectedAt : Int) (counters : List Counter) (c : Counter) :
    recordOf collectedAt (counters ++ [c]) =
      some (((recordOf collectedAt counters).getD (c.fresh collectedAt)).add c.direction c.value) := by
  unfold recordOf
  cases counters with
  | nil => cases hd : c.direction <;> simp [total, hd, UsageRecord.add, Counter.fresh]
  | cons c' counters =>
    rw [List.cons_append, List.head?_cons, List.head?_cons, ← List.cons_append]
    simp only [total_concat]
    cases hd : c.direction <;> simp [UsageRecord.add]

/-- What the loops leave in the index. -/
theorem lookup_recordIndex (collectedAt : Int) (queries : List Query) (key : String) :
    (recordIndex collectedAt queries).lookup key =
      recordOf collectedAt ((queries.flatMap Query.counters).filter fun c => c.key = key) := by
  rw [recordIndex_eq]
  -- by the last counter: it adds to the record of its key and to no other
  induction queries.flatMap Query.counters using List.reverseRecOn with
  | nil => rfl
  | append_singleton counters c ih =>
    rw [List.foldl_concat, addCounter, GoMap.lookup_insert_eq, List.filter_append]
    by_cases h : key = c.key
    · subst h
      rw [if_pos rfl, GoMap.get, ih, List.filter_singleton]
      simp [recordOf_concat]
    · have hne : ¬ c.key = key := fun he => h he.symm
      rw [if_neg h, ih, List.filter_singleton]
      simp [hne]

theorem mem_buildBatch [MapOrder] {collectedAt : Int} {queries : List Query} {r : UsageRecord} :
    r ∈ buildBatch collectedAt queries ↔
      ∃ key, recordOf collectedAt ((queries.flatMap Query.counters).filter fun c => c.key = key) = some r := by
  simp only [buildBatch, List.mem_map, ← lookup_recordIndex]
  constructor
  · rintro ⟨⟨key, _⟩, he, rfl⟩
    exact ⟨key, mem_range.1 he⟩
  · rintro ⟨key, he⟩
    exact ⟨(key, r), mem_range.2 he, rfl⟩

theorem recordOf_spec {now : Int} {counters : List Counter} {key : String} {r : UsageRecord}
    (hkey : ∀ c ∈ counters, c.key = key) (h : recordOf now counters = some r) :
    r.key = key ∧ ∀ d, r.bytes d = total d counters := by
  cases counters with
  | nil => cases h
  | cons c counters =>
    obtain rfl := (Option.some.inj h).symm
    refine ⟨hkey c List.mem_cons_self, fun d => ?_⟩
    cases d <;> rfl

/-- A counter that is taken in is in the batch. -/
theorem exists_record [MapOrder] (now : Int) {queries : List Query} {c : Counter}
    (hc : c ∈ queries.flatMap Query.counters) :
    ∃ r ∈ buildBatch now queries, r.key = c.key ∧
      ∀ d, r.bytes d = total d ((queries.flatMap Query.counters).filter fun c' => c'.key = c.key) := by
  have hmem : c ∈ (queries.flatMap Query.counters).filter fun c' => c'.key = c.key := List.mem_filter.2 ⟨hc, by simp⟩
  have hkeys : ∀ c' ∈ (queries.flatMap Query.counters).filter fun c' => c'.key = c.key, c'.key = c.key :=
    fun c' hc' => of_decide_eq_true (List.mem_filter.1 hc').2
  cases hr : recordOf now ((queries.flatMap Query.counters).filter fun c' => c'.key = c.key) with
  | none =>
    rw [recordOf, Option.map_eq_none_iff, List.head?_eq_none_iff] at hr
    rw [hr] at hmem
    cases hmem
  | some r => exact ⟨r, mem_buildBatch.2 ⟨_, hr⟩, recordOf_spec hkeys hr⟩

theorem mem_counters {queries : List Query} {q : Query} {entries : List RawStatEntry} {e : RawStatEntry} {c : Counter}
    (hq : q ∈ queries) (ha : q.answer = .ok entries) (he : e ∈ entries) (hc : counterOf q.target e = some c) :
    c ∈ queries.flatMap Query.counters := by
  refine List.mem_flatMap.2 ⟨q, hq, ?_⟩
  rw [Query.counters, ha]
  exact List.mem_filterMap.2 ⟨e, he, hc⟩

/-- A non-zero entry is taken in when its name parses. -/
theorem exists_counterOf {tgt : CollectTarget} {e : RawStatEntry} (hv : e.value ≠ 0) :
    (∃ c, counterOf tgt e = some c) ↔ (parseUserCounterName e.name).isSome = true := by
  unfold counterOf
  cases parseUserCounterName e.name with
  | none => simp
  | some names => simp [hv]

/-- A record has the names of one of its counters. -/
theorem exists_first [MapOrder] {now : Int} {queries : List Query} {r : UsageRecord} (h : r ∈ buildBatch now queries) :
    ∃ c ∈ queries.flatMap Query.counters, r.inboundNode = c.inboundNode ∧ r.user = c.user ∧ r.node = c.node ∧
      r.collectedAt = now := by
  obtain ⟨key, hr⟩ := mem_buildBatch.1 h
  cases hcs : (queries.flatMap Query.counters).filter fun c => c.key = key with
  | nil =>
    rw [hcs] at hr
    cases hr
  | cons c counters =>
    rw [hcs] at hr
    obtain rfl := (Option.some.inj hr).symm
    exact ⟨c, (List.mem_filter.1 (hcs ▸ List.mem_cons_self : c ∈ List.filter _ _)).1, rfl, rfl, rfl, rfl⟩

/-- The batch a cycle gives to `Write`, if any. -/
def collected [MapOrder] (cycle : Cycle) : Option UsageBatch :=
  match cycle.discover with
  | .error _ => none
  | .ok queries => if buildBatch cycle.now queries = [] then none else some (buildBatch cycle.now queries)

theorem buildBatch_nil [MapOrder] (now : Int) : buildBatch now [] = [] := by
  refine List.eq_nil_iff_forall_not_mem.2 fun r hr => ?_
  obtain ⟨key, h⟩ := mem_buildBatch.1 hr
  cases h

theorem collected_ok [MapOrder] {cycle : Cycle} {queries : List Query} {batch : UsageBatch}
    (hd : cycle.discover = .ok queries) (h : collected cycle = some batch) : batch = buildBatch cycle.now queries := by
  simp only [collected, hd] at h
  split at h
  · cases h
  · exact (Option.some.inj h).symm

theorem collected_of_mem [MapOrder] {cycle : Cycle} {queries : List Query} {r : UsageRecord}
    (hd : cycle.discover = .ok queries) (hr : r ∈ buildBatch cycle.now queries) :
    collected cycle = some (buildBatch cycle.now queries) := by
  rw [collected, hd]
  exact if_neg (List.ne_nil_of_mem hr)

theorem pollCycle_eq [MapOrder] {c : Collector} (h : c.inPoll = false) (cycle : Cycle) :
    pollCycle c cycle = (c, collected cycle) := by
  have hc : ({ c with inPoll := false } : Collector) = c := by rw [← h]
  unfold pollCycle collected
  rw [if_neg (by simp [h])]
  cases cycle.discover with
  | error _ => simp only [hc]
  | ok queries =>
    cases queries with
    | nil => simp only [hc, buildBatch_nil, if_true]
    | cons q queries => simp only [hc]

end SingboxOperator.Usage
