import SingboxOperator.Usage.Discovery
/-!
# Which node a record is about

Discovery, the index of a cycle and the document key all know a node by its name
alone. Two nodes of one name in different namespaces are polled both, and what
they count for the same user and target is added up in one record.

The keys are texts joined with NUL. No object name has one, and the names in the
counters of sing-box are those of the users in its config.
-/
open SingboxOperator.Lib

namespace SingboxOperator.Usage

/-! ## Keys -/

def nul : Char := Char.ofNat 0

theorem name_nul_notMem (m : ObjectMeta) : nul ∉ m.name.toList := m.notMem_name (by decide)

theorem recordKey_inj {i u n i' u' n' : String} (hi : nul ∉ i.toList) (hi' : nul ∉ i'.toList) (hu : nul ∉ u.toList)
    (hu' : nul ∉ u'.toList) (h : recordKey i u n = recordKey i' u' n') : i = i' ∧ u = u' ∧ n = n' := by
  have hchars : ∀ i u n : String,
      (recordKey i u n).toList = i.toList ++ nul :: (u.toList ++ nul :: n.toList) := by
    intro i u n
    simp [recordKey, nul]
  have h' := congrArg String.toList h
  rw [hchars, hchars, append_cons_inj hi hi', append_cons_inj hu hu'] at h'
  exact ⟨String.toList_inj.1 h'.1, String.toList_inj.1 h'.2.1, String.toList_inj.1 h'.2.2⟩

theorem documentText_inj {r r' : UsageRecord} (hu : nul ∉ r.user.toList) (hu' : nul ∉ r'.user.toList)
    (hi : nul ∉ r.inboundNode.toList) (hi' : nul ∉ r'.inboundNode.toList) (hn : nul ∉ r.node.toList)
    (hn' : nul ∉ r'.node.toList) (h : documentText r = documentText r') : r.key = r'.key := by
  have hchars : ∀ r : UsageRecord, (documentText r).toList = r.user.toList ++ nul ::
      (r.inboundNode.toList ++ nul :: (r.node.toList ++ nul :: (toString r.collectedAt).toList)) := by
    intro r
    simp [documentText, nul]
  have h' := congrArg String.toList h
  rw [hchars, hchars, append_cons_inj hu hu', append_cons_inj hi hi', append_cons_inj hn hn'] at h'
  rw [UsageRecord.key, UsageRecord.key, String.toList_inj.1 h'.1, String.toList_inj.1 h'.2.1,
    String.toList_inj.1 h'.2.2.1]

/-! ## Nodes and their queries -/

/-- The nodes polled, each with its query. -/
abbrev Polled := List (NodeObject × Query)

/-- Every record sums counters of one node, and no two nodes share a document. -/
structure Attributed (polled : Polled) (batch : UsageBatch) : Prop where
  exists_node : ∀ r ∈ batch, ∃ x ∈ polled, ∃ c ∈ x.2.counters, c.key = r.key
  one_node : ∀ r ∈ batch, ∀ x ∈ polled, ∀ x' ∈ polled, ∀ c ∈ x.2.counters, ∀ c' ∈ x'.2.counters, c.key = r.key →
    c'.key = r.key → x.1 = x'.1
  documents : ∀ r ∈ batch, ∀ r' ∈ batch, ∀ x ∈ polled, ∀ x' ∈ polled, ∀ c ∈ x.2.counters, ∀ c' ∈ x'.2.counters,
    c.key = r.key → c'.key = r'.key → documentKey r = documentKey r' → x.1 = x'.1

theorem inboundNode_of_mem {q : Query} {c : Counter} (h : c ∈ q.counters) : c.inboundNode = q.target.nodeName := by
  unfold Query.counters at h
  cases ha : q.answer with
  | error _ => simp [ha] at h
  | ok entries =>
    simp only [ha] at h
    obtain ⟨e, _, he⟩ := List.mem_filterMap.1 h
    obtain ⟨⟨user, node, direction⟩, _, hc⟩ := Option.bind_eq_some_iff.1 he
    dsimp only at hc
    split at hc
    · cases hc
    · rw [← Option.some.inj hc]

section
variable [Library] [MapOrder] {d : K8sDiscoverer} {queries : List Query}

/-- The queries are those of the inbound nodes, in order. -/
theorem polled_target (hd : discover d = .ok (queries.map Query.target)) :
    (∀ x ∈ d.inboundNodes.zip queries, x.2.target.nodeName = x.1.node.name) ∧
      ∀ q ∈ queries, ∃ n, (n, q) ∈ d.inboundNodes.zip queries := by
  obtain ⟨policies, users, h⟩ := discover_ok hd
  have hname : ∀ n, (collectTarget d d.allNodes policies users n).nodeName = n.node.name := fun _ => rfl
  generalize collectTarget d d.allNodes policies users = f at h hname
  generalize d.inboundNodes = nodes at h
  clear hd
  induction nodes generalizing queries with
  | nil => simp [List.map_eq_nil_iff.1 h]
  | cons n nodes ih =>
    cases queries with
    | nil => cases h
    | cons q queries =>
      obtain ⟨hq, hrest⟩ := List.cons.inj h
      obtain ⟨ihname, ihmem⟩ := ih hrest
      rw [List.zip_cons_cons]
      constructor
      · intro x hx
        rcases List.mem_cons.1 hx with rfl | hx
        · exact (congrArg CollectTarget.nodeName hq).trans (hname n)
        · exact ihname x hx
      · intro q' hq'
        rcases List.mem_cons.1 hq' with rfl | hq'
        · exact ⟨n, List.mem_cons_self⟩
        · obtain ⟨n', hn'⟩ := ihmem q' hq'
          exact ⟨n', List.mem_cons_of_mem _ hn'⟩

variable {cycle : Cycle} {batch : UsageBatch}

/-- The node a counter is from has its name. -/
theorem inboundNode_eq (hd : discover d = .ok (queries.map Query.target)) {x : NodeObject × Query}
    (hx : x ∈ d.inboundNodes.zip queries) {c : Counter} (hc : c ∈ x.2.counters) : c.inboundNode = x.1.node.name :=
  (inboundNode_of_mem hc).trans ((polled_target hd).1 x hx)

theorem exists_polled (hd : discover d = .ok (queries.map Query.target)) {c : Counter}
    (hc : c ∈ queries.flatMap Query.counters) : ∃ x ∈ d.inboundNodes.zip queries, c ∈ x.2.counters := by
  obtain ⟨q, hq, hc⟩ := List.mem_flatMap.1 hc
  obtain ⟨n, hn⟩ := (polled_target hd).2 q hq
  exact ⟨(n, q), hn, hc⟩

omit [Library] [MapOrder] in
theorem mem_queries_counters {x : NodeObject × Query} (hx : x ∈ d.inboundNodes.zip queries) {c : Counter}
    (hc : c ∈ x.2.counters) : c ∈ queries.flatMap Query.counters :=
  List.mem_flatMap.2 ⟨x.2, (List.of_mem_zip hx).2, hc⟩

/-- Equal keys come from equal names. -/
theorem names_eq_of_key_eq (hd : discover d = .ok (queries.map Query.target))
    (hnul : ∀ c ∈ queries.flatMap Query.counters, nul ∉ c.user.toList ∧ nul ∉ c.node.toList)
    {x x' : NodeObject × Query} (hx : x ∈ d.inboundNodes.zip queries) (hx' : x' ∈ d.inboundNodes.zip queries)
    {c c' : Counter} (hc : c ∈ x.2.counters) (hc' : c' ∈ x'.2.counters) (hkey : c.key = c'.key) :
    x.1.node.name = x'.1.node.name ∧ c.user = c'.user ∧ c.node = c'.node := by
  rw [Counter.key, Counter.key, inboundNode_eq hd hx hc, inboundNode_eq hd hx' hc'] at hkey
  exact recordKey_inj (name_nul_notMem _) (name_nul_notMem _) (hnul c (mem_queries_counters hx hc)).1
    (hnul c' (mem_queries_counters hx' hc')).1 hkey

/-- A record has the key of a counter, and names without NUL. -/
theorem exists_key_of_mem (hd : discover d = .ok (queries.map Query.target))
    (hnul : ∀ c ∈ queries.flatMap Query.counters, nul ∉ c.user.toList ∧ nul ∉ c.node.toList) {now : Int}
    {r : UsageRecord} (hr : r ∈ buildBatch now queries) :
    (∃ x ∈ d.inboundNodes.zip queries, ∃ c ∈ x.2.counters, c.key = r.key) ∧
      nul ∉ r.user.toList ∧ nul ∉ r.inboundNode.toList ∧ nul ∉ r.node.toList := by
  obtain ⟨c, hc, hi, hu, hn, _⟩ := exists_first hr
  obtain ⟨x, hx, hcx⟩ := exists_polled hd hc
  have hkey : c.key = r.key := by rw [Counter.key, UsageRecord.key, hi, hu, hn]
  refine ⟨⟨x, hx, c, hcx, hkey⟩, ?_, ?_, ?_⟩
  · rw [hu]
    exact (hnul c hc).1
  · rw [hi, inboundNode_eq hd hx hcx]
    exact name_nul_notMem _
  · rw [hn]
    exact (hnul c hc).2

/-- Where the names have no NUL and the digest does not collide, records are
about one node each exactly when no two nodes of one name count something for the
same user and target. -/
theorem attributed_iff (hd : discover d = .ok (queries.map Query.target)) (hcycle : cycle.discover = .ok queries)
    (hbatch : (pollCycle {} cycle).2 = some batch)
    (hnul : ∀ c ∈ queries.flatMap Query.counters, nul ∉ c.user.toList ∧ nul ∉ c.node.toList)
    (hinj : Set.InjOn sha256 {m | ∃ r ∈ batch, m = bytesOf (documentText r)}) :
    Attributed (d.inboundNodes.zip queries) batch ↔
      ∀ x ∈ d.inboundNodes.zip queries, ∀ x' ∈ d.inboundNodes.zip queries, x.1.node.name = x'.1.node.name →
        ∀ c ∈ x.2.counters, ∀ c' ∈ x'.2.counters, c.user = c'.user → c.node = c'.node → x.1 = x'.1 := by
  obtain rfl : batch = buildBatch cycle.now queries := by
    rw [pollCycle_eq rfl] at hbatch
    exact collected_ok hcycle hbatch
  constructor
  · intro h x hx x' hx' hname c hc c' hc' hu hn
    have hkey : c'.key = c.key := by
      rw [Counter.key, Counter.key, inboundNode_eq hd hx hc, inboundNode_eq hd hx' hc', hname, hu, hn]
    obtain ⟨r, hr, hrkey, _⟩ := exists_record cycle.now (mem_queries_counters hx hc)
    exact h.one_node r hr x hx x' hx' c hc c' hc' hrkey.symm (hkey.trans hrkey.symm)
  · intro h
    have hone : ∀ x ∈ d.inboundNodes.zip queries, ∀ x' ∈ d.inboundNodes.zip queries, ∀ c ∈ x.2.counters,
        ∀ c' ∈ x'.2.counters, c.key = c'.key → x.1 = x'.1 := by
      intro x hx x' hx' c hc c' hc' hkey
      obtain ⟨hname, hu, hn⟩ := names_eq_of_key_eq hd hnul hx hx' hc hc' hkey
      exact h x hx x' hx' hname c hc c' hc' hu hn
    refine ⟨fun r hr => (exists_key_of_mem hd hnul hr).1, ?_, ?_⟩
    · intro r hr x hx x' hx' c hc c' hc' hk hk'
      exact hone x hx x' hx' c hc c' hc' (hk.trans hk'.symm)
    · intro r hr r' hr' x hx x' hx' c hc c' hc' hk hk' hdoc
      obtain ⟨_, hu, hi, hn⟩ := exists_key_of_mem hd hnul hr
      obtain ⟨_, hu', hi', hn'⟩ := exists_key_of_mem hd hnul hr'
      have htext := bytesOf_inj.1 (hinj ⟨r, hr, rfl⟩ ⟨r', hr', rfl⟩ (hexEncode_inj.1 hdoc))
      have hkey : r.key = r'.key := documentText_inj hu hu' hi hi' hn hn' htext
      exact hone x hx x' hx' c hc c' hc' (hk.trans (hkey.trans hk'.symm))

end

/-! ### One name in two namespaces -/

def frontNode : SingBoxNode where
  metadata := .named "front"
  spec :=
    { SingBoxNodeSpec.bare with
      address := "203.0.113.5", region := "fi", roles := [.inbound],
      supportedProtocols := [Port.https.listener .hysteria2] }

/-- Two teams have a node of that name each. -/
def twoTeams : K8sDiscoverer where
  ns := ""
  nodes := [⟨"team-a", frontNode⟩, ⟨"team-b", frontNode⟩]
  pods ns _ := .ok [{ phase := "Running", podIP := if ns = "team-a" then "10.0.1.1" else "10.0.2.1" }]
  nodes_nodup := by decide

def relayUplink : RawStatEntry := { name := "user>>>alice#relay>>>traffic>>>uplink", value := 1000 }

section
attribute [local instance] plainLibrary storedOrder

def frontTarget (ns : String) : CollectTarget := collectTarget twoTeams twoTeams.allNodes [] [] ⟨ns, frontNode⟩

def teamQueries : List Query :=
  [{ target := frontTarget "team-a", answer := .ok [relayUplink] },
   { target := frontTarget "team-b", answer := .ok [relayUplink] }]

def teamCycle : Cycle where
  discover := .ok teamQueries
  now := 1700000000000000000
  write := none

def frontCounter : Counter :=
  { inboundNode := "front", user := "alice", node := "relay", direction := .uplink, value := 1000 }

theorem twoTeams_discovered : discover twoTeams = .ok (teamQueries.map Query.target) := rfl

theorem twoTeams_polled : twoTeams.inboundNodes.zip teamQueries =
    [(⟨"team-a", frontNode⟩, { target := frontTarget "team-a", answer := .ok [relayUplink] }),
     (⟨"team-b", frontNode⟩, { target := frontTarget "team-b", answer := .ok [relayUplink] })] := rfl

theorem frontTarget_counters (ns : String) :
    Query.counters { target := frontTarget ns, answer := .ok [relayUplink] } = [frontCounter] := by
  have hparse : parseUserCounterName relayUplink.name = some ("alice", "relay", .uplink) := by decide
  have hvalue : relayUplink.value ≠ 0 := by decide
  simp only [Query.counters, counterOf, hparse, List.filterMap_cons, List.filterMap_nil, Option.bind_some, if_neg hvalue]
  rfl

theorem frontCounter_mem (ns : String) :
    frontCounter ∈ Query.counters { target := frontTarget ns, answer := .ok [relayUplink] } := by
  rw [frontTarget_counters]
  exact List.mem_singleton_self _

theorem mem_teamCounters {c : Counter} (hc : c ∈ teamQueries.flatMap Query.counters) : c = frontCounter := by
  obtain ⟨q, hq, hc⟩ := List.mem_flatMap.1 hc
  simp only [teamQueries, List.mem_cons, List.not_mem_nil, or_false] at hq
  rcases hq with rfl | rfl <;> exact List.mem_singleton.1 (frontTarget_counters _ ▸ hc)

/-- The cycle gives `Write` a record for the counters of both nodes. -/
theorem teamCycle_batch : (pollCycle {} teamCycle).2 = some (buildBatch teamCycle.now teamQueries) ∧
    ∃ r ∈ buildBatch teamCycle.now teamQueries, frontCounter.key = r.key := by
  have hmem : frontCounter ∈ teamQueries.flatMap Query.counters :=
    List.mem_flatMap.2 ⟨_, List.mem_cons_self, frontCounter_mem _⟩
  obtain ⟨r, hr, hkey, _⟩ := exists_record teamCycle.now hmem
  refine ⟨?_, r, hr, hkey.symm⟩
  rw [pollCycle_eq rfl]
  exact collected_of_mem rfl hr

theorem teams_ne : (⟨"team-a", frontNode⟩ : NodeObject) ≠ ⟨"team-b", frontNode⟩ := by
  intro h
  have hns := congrArg NodeObject.ns h
  revert hns
  decide

/-- The traffic of one team's node is added to that of the other's. -/
theorem not_forall_attributed :
    ¬ ∀ [Library] [MapOrder] (d : K8sDiscoverer) (queries : List Query) (cycle : Cycle) (batch : UsageBatch), d.ns = "" →
      discover d = .ok (queries.map Query.target) → cycle.discover = .ok queries →
        (pollCycle {} cycle).2 = some batch → Attributed (d.inboundNodes.zip queries) batch := by
  intro h
  obtain ⟨hbatch, r, hr, hkey⟩ := teamCycle_batch
  have hone := (h twoTeams teamQueries teamCycle _ rfl twoTeams_discovered rfl hbatch).one_node r hr
  rw [twoTeams_polled] at hone
  exact teams_ne (hone _ List.mem_cons_self _ (List.mem_cons_of_mem _ List.mem_cons_self) frontCounter
    (frontCounter_mem _) frontCounter (frontCounter_mem _) hkey hkey)

theorem attributed_iff_twoTeams :
    discover twoTeams = .ok (teamQueries.map Query.target) ∧ teamCycle.discover = .ok teamQueries ∧
      ∃ batch, (pollCycle {} teamCycle).2 = some batch ∧ ¬ Attributed (twoTeams.inboundNodes.zip teamQueries) batch := by
  obtain ⟨hbatch, _⟩ := teamCycle_batch
  refine ⟨twoTeams_discovered, rfl, _, hbatch, ?_⟩
  -- all records of the batch have one text
  have htext : Set.Subsingleton {m | ∃ r ∈ buildBatch teamCycle.now teamQueries, m = bytesOf (documentText r)} := by
    rintro _ ⟨r, hr, rfl⟩ _ ⟨r', hr', rfl⟩
    obtain ⟨c, hc, hi, hu, hn, ht⟩ := exists_first hr
    obtain ⟨c', hc', hi', hu', hn', ht'⟩ := exists_first hr'
    obtain rfl := mem_teamCounters hc
    obtain rfl := mem_teamCounters hc'
    rw [documentText, documentText, hi, hu, hn, ht, hi', hu', hn', ht']
  have hnul : ∀ c ∈ teamQueries.flatMap Query.counters, nul ∉ c.user.toList ∧ nul ∉ c.node.toList := by
    intro c hc
    rw [mem_teamCounters hc]
    decide
  rw [attributed_iff twoTeams_discovered rfl hbatch hnul (htext.injOn _), twoTeams_polled]
  intro h
  exact teams_ne (h _ List.mem_cons_self _ (List.mem_cons_of_mem _ List.mem_cons_self) rfl frontCounter
    (frontCounter_mem _) frontCounter (frontCounter_mem _) rfl rfl)

end

end SingboxOperator.Usage
