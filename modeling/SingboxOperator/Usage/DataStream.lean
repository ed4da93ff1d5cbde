import Mathlib.Algebra.BigOperators.Group.List.Basic
import SingboxOperator.Lib.WriteOnce
import SingboxOperator.Usage.Aggregation
import SingboxOperator.Usage.Delivery
import SingboxOperator.Usage.Elasticsearch
/-!
# What ends up in the data stream

The collector, the sink and the service behind it together, over whole runs. The
service is not part of this repository: a `DataStream` is anything that holds
documents and carries out `_bulk` requests, and `DataStream.CreatesOnce` names
what the results ask of it. A request may be carried out any number of times,
also after the sink has given up on it, and its response may get lost; nothing is
resent by the collector itself.

`Delivered.write_spec` says what one `Write` does to the documents. From it: what
is stored for a user is what was counted in some of the cycles, no cycle twice and
none left out whose `Write` returned nil (`usage_at_most_once`); a batch whose
`Write` returned nil is stored and stays (`written_stored`); and where all of them
did, the bytes stored for a user are those that were counted (`usage_exact`).
-/
open SingboxOperator.Lib

namespace SingboxOperator.Usage

/-! ## The service -/

abbrev Line := BulkAction × UsageRecord

/-- What a line asks to be stored. -/
def Line.entry (line : Line) : String × UsageRecord := (line.1.create.id, line.2)

/-- The document of a record. -/
def UsageRecord.document (r : UsageRecord) : String × UsageRecord := (documentKey r, r)

/-- A service that holds documents under ids, and what a `_bulk` request can do to
it: the state afterwards and the items of the response. -/
structure DataStream where
  State : Type
  documents : State → List (String × UsageRecord)
  bulk : State → List Line → State → List BulkItem → Prop

def DataStream.ids (S : DataStream) (d : S.State) : List String := (S.documents d).map Prod.fst

/-- What is asked of the service. -/
structure DataStream.CreatesOnce (S : DataStream) : Prop where
  /-- No two documents have one id. -/
  unique : ∀ d, (S.ids d).Nodup
  /-- A request leaves the documents that are there as they are. -/
  keeps : ∀ d lines d' items, S.bulk d lines d' items → S.documents d ⊆ S.documents d'
  /-- It adds none but those it asks for. -/
  adds : ∀ d lines d' items, S.bulk d lines d' items →
    ∀ e ∈ S.documents d', e ∈ S.documents d ∨ e ∈ lines.map Line.entry
  /-- The response has an item for each line. -/
  answers : ∀ d lines d' items, S.bulk d lines d' items →
    ∀ line ∈ lines, ∃ item ∈ items, item.create.id = line.1.create.id
  /-- An item with status 201 or 409 names a document that is there. -/
  acknowledges : ∀ d lines d' items, S.bulk d lines d' items →
    ∀ item ∈ items, item.succeeded = true → item.create.id ∈ S.ids d'

/-! ## One `Write` -/

/-- The request that `Write` sends, if it gets so far. -/
def ElasticsearchSink.request (t : Transport) (s : ElasticsearchSink) (batch : UsageBatch) :
    Except String BulkRequest := do
  let lines ← encodeBatch t batch
  wrap "failed to create ES request" (t.newRequest s.bulkURL)
  let authorization := if s.apiKey ≠ "" then some ("ApiKey " ++ s.apiKey) else none
  .ok { url := s.bulkURL, authorization := authorization, lines := lines }

/-- What `Write` makes of the outcome. -/
def HttpOutcome.receive (t : Transport) (outcome : HttpOutcome) : Except String BulkResponse := do
  let (statusCode, body) ← outcome.read
  if statusCode ≥ 300 then .error ("ES returned HTTP " ++ toString statusCode ++ ": " ++ body)
  else wrap "failed to parse ES bulk response" (t.unmarshal body)

theorem exchange_eq (t : Transport) (s : ElasticsearchSink) (batch : UsageBatch) :
    s.exchange t batch = (s.request t batch).bind fun req => (t.send req).receive t := by
  unfold ElasticsearchSink.exchange ElasticsearchSink.request HttpOutcome.receive
  cases encodeBatch t batch with
  | error err => rfl
  | ok lines => cases wrap "failed to create ES request" (t.newRequest s.bulkURL) <;> rfl

theorem encodeBatch_ok {t : Transport} {batch : UsageBatch} {lines : List Line} (h : encodeBatch t batch = .ok lines) :
    lines = batch.map fun r => (bulkAction r, r) := by
  induction batch generalizing lines with
  | nil => exact (Except.ok.inj h).symm
  | cons r batch ih =>
    rw [encodeBatch] at h
    cases ha : wrap "failed to encode bulk action" (t.encodeAction (bulkAction r)) with
    | error err => simp [ha, bind, Except.bind] at h
    | ok _ =>
      cases hr : wrap "failed to encode usage record" (t.encodeRecord r) with
      | error err => simp [ha, hr, bind, Except.bind] at h
      | ok _ =>
        cases hrest : encodeBatch t batch with
        | error err => simp [ha, hr, hrest, bind, Except.bind] at h
        | ok rest =>
          simp only [ha, hr, hrest, bind, Except.bind, Except.ok.injEq] at h
          rw [← h, List.map_cons, ih hrest]

theorem request_lines {t : Transport} {s : ElasticsearchSink} {batch : UsageBatch} {req : BulkRequest}
    (h : s.request t batch = .ok req) : req.lines = batch.map fun r => (bulkAction r, r) := by
  unfold ElasticsearchSink.request at h
  cases hlines : encodeBatch t batch with
  | error err => simp [hlines, bind, Except.bind] at h
  | ok lines =>
    cases hnew : wrap "failed to create ES request" (t.newRequest s.bulkURL) with
    | error err => simp [hlines, hnew, bind, Except.bind] at h
    | ok _ =>
      simp only [hlines, hnew, bind, Except.bind, Except.ok.injEq] at h
      rw [← h]
      exact encodeBatch_ok hlines

/-- A response has a status below 300 and a body that parses. -/
theorem receive_eq_ok {t : Transport} {outcome : HttpOutcome} {resp : BulkResponse}
    (h : outcome.receive t = .ok resp) :
    ∃ statusCode body, outcome = .response statusCode body ∧ statusCode < 300 ∧ t.unmarshal body = .ok resp := by
  cases outcome with
  | failed err => simp [HttpOutcome.receive, HttpOutcome.read, bind, Except.bind] at h
  | unreadable err => simp [HttpOutcome.receive, HttpOutcome.read, bind, Except.bind] at h
  | response statusCode body =>
    by_cases hcode : statusCode ≥ 300
    · simp [HttpOutcome.receive, HttpOutcome.read, bind, Except.bind, hcode] at h
    · refine ⟨statusCode, body, rfl, by omega, ?_⟩
      simp only [HttpOutcome.receive, HttpOutcome.read, bind, Except.bind, if_neg hcode] at h
      cases hbody : t.unmarshal body with
      | error err => simp [hbody, wrap] at h
      | ok resp' => simpa [hbody, wrap] using h

/-- What goes over the wire: a closed sink and an empty batch send nothing. -/
def ElasticsearchSink.sends (t : Transport) (s : ElasticsearchSink) (batch : UsageBatch) : Option BulkRequest :=
  if s.closed ∨ batch = [] then none else (s.request t batch).toOption

/-- A `Write` that returns nil for records has sent them and got a response all of whose items succeeded. -/
theorem write_eq_none {t : Transport} {s : ElasticsearchSink} {batch : UsageBatch} (hne : batch ≠ [])
    (h : s.write t batch = none) :
    ∃ req statusCode body resp, s.sends t batch = some req ∧ t.send req = .response statusCode body ∧
      statusCode < 300 ∧ t.unmarshal body = .ok resp ∧ ∀ item ∈ resp.items, item.succeeded = true := by
  obtain ⟨hopen, resp, hx, hwrite⟩ := exists_response (t := t) (s := s) hne (by simp [h])
  rw [exchange_eq] at hx
  cases hreq : s.request t batch with
  | error err => simp [hreq, Except.bind] at hx
  | ok req =>
    rw [hreq] at hx
    obtain ⟨statusCode, body, hsend, hcode, hbody⟩ := receive_eq_ok hx
    refine ⟨req, statusCode, body, resp, ?_, hsend, hcode, hbody, evaluateBulkResponse_eq_none.1 (hwrite.symm.trans h)⟩
    simp [ElasticsearchSink.sends, hopen, hne, hreq, Except.toOption]

theorem lines_of_sends {t : Transport} {s : ElasticsearchSink} {batch : UsageBatch} {req : BulkRequest}
    (h : s.sends t batch = some req) : req.lines.map Line.entry = batch.map UsageRecord.document := by
  unfold ElasticsearchSink.sends at h
  split at h
  · cases h
  · cases hreq : s.request t batch with
    | error err => simp [hreq, Except.toOption] at h
    | ok req' =>
      obtain rfl : req' = req := by simpa [hreq, Except.toOption] using h
      rw [request_lines hreq, List.map_map]
      rfl

/-- What becomes of a request: it is carried out any number of times, and a response
below 300 that parses has the items of one of them. -/
def Delivered (S : DataStream) (t : Transport) : Option BulkRequest → S.State → S.State → Prop
  | none, d, d' => d' = d
  | some req, d, d' => ∃ trace, Run (fun d items d' => S.bulk d req.lines d' items) d trace d' ∧
      ∀ statusCode body resp, t.send req = .response statusCode body → statusCode < 300 →
        t.unmarshal body = .ok resp → ∃ x ∈ trace, resp.items = x.2.1

section
variable {S : DataStream} {t : Transport} {s : ElasticsearchSink} {batch : UsageBatch} {d d' : S.State}

theorem DataStream.CreatesOnce.mem_ids (hS : S.CreatesOnce) {lines : List Line} {items : List BulkItem}
    (h : S.bulk d lines d' items) {id : String} (hid : id ∈ S.ids d) : id ∈ S.ids d' :=
  List.map_subset _ (hS.keeps _ _ _ _ h) hid

/-- Carrying a request out again and again keeps the documents and adds those of its lines. -/
theorem run_bulk (hS : S.CreatesOnce) {lines : List Line} {trace : List (S.State × List BulkItem × S.State)}
    (h : Run (fun d items d' => S.bulk d lines d' items) d trace d') :
    S.documents d ⊆ S.documents d' ∧ ∀ e ∈ S.documents d', e ∈ S.documents d ∨ e ∈ lines.map Line.entry := by
  induction h with
  | nil => exact ⟨List.Subset.refl _, fun _ he => .inl he⟩
  | snoc _ hs ih =>
    refine ⟨List.Subset.trans ih.1 (hS.keeps _ _ _ _ hs), fun e he => ?_⟩
    rcases hS.adds _ _ _ _ hs e he with he | he
    · exact ih.2 e he
    · exact .inr he

/-- A `Write` keeps the documents, adds none but those of its records, and has
stored something under the id of each of them when it returns nil. -/
theorem Delivered.write_spec (hS : S.CreatesOnce) (h : Delivered S t (s.sends t batch) d d') :
    S.documents d ⊆ S.documents d' ∧
      (∀ e ∈ S.documents d', e ∈ S.documents d ∨ e ∈ batch.map UsageRecord.document) ∧
      (s.write t batch = none → ∀ r ∈ batch, documentKey r ∈ S.ids d') := by
  cases hsends : s.sends t batch with
  | none =>
    rw [hsends] at h
    obtain rfl : d' = d := h
    refine ⟨List.Subset.refl _, fun _ he => .inl he, fun hnil r hr => ?_⟩
    obtain ⟨req, _, _, _, hreq, _⟩ := write_eq_none (List.ne_nil_of_mem hr) hnil
    rw [hsends] at hreq
    cases hreq
  | some req =>
    rw [hsends] at h
    obtain ⟨trace, hrun, hanswer⟩ := h
    have hentries := lines_of_sends hsends
    obtain ⟨hkeeps, hadds⟩ := run_bulk hS hrun
    rw [hentries] at hadds
    refine ⟨hkeeps, hadds, fun hnil r hr => ?_⟩
    obtain ⟨req', statusCode, body, resp, hreq, hsend, hcode, hbody, hall⟩ :=
      write_eq_none (List.ne_nil_of_mem hr) hnil
    obtain rfl : req = req' := Option.some.inj (hsends.symm.trans hreq)
    obtain ⟨x, hx, hitems⟩ := hanswer statusCode body resp hsend hcode hbody
    have hbulk := hrun.step_of_mem x hx
    -- the line of the record has an item, and the item says that the document is there
    obtain ⟨line, hline, hentry⟩ : ∃ line ∈ req.lines, Line.entry line = r.document := by
      rw [← List.mem_map, hentries]
      exact List.mem_map_of_mem hr
    obtain ⟨item, hitem, hid⟩ := hS.answers _ _ _ _ hbulk line hline
    have hstored := hS.acknowledges _ _ _ _ hbulk item hitem (hall item (hitems ▸ hitem))
    rw [hid, show line.1.create.id = documentKey r from congrArg Prod.fst hentry] at hstored
    exact hrun.kept (P := fun _ _ => True) (fun _ _ _ hs _ hid => hS.mem_ids hs hid) (fun _ _ => trivial) hx hstored

end

/-! ## Collector, sink and data stream -/

/-- What a cycle meets: the answers of `Discover` and of the queries, the clock,
and the surroundings of `Write` should it be called. -/
structure Tick where
  discover : Except String (List Query)
  now : Int
  transport : Transport

/-- A collector, the requests sent so far and the service behind the sink. -/
structure Metering (S : DataStream) where
  state : State := {}
  sent : List BulkRequest := []
  stream : S.State

/-- A cycle, or a request of an earlier one that is carried out late or once more. -/
inductive MeteringEvent
  | poll (tick : Tick)
  | late (req : BulkRequest)

abbrev MeteringTrace (S : DataStream) := List (Metering S × MeteringEvent × Metering S)

/-- The cycles of a run, each with the state it started in. -/
def cyclesOf {S : DataStream} (trace : MeteringTrace S) : List (Metering S × Tick) :=
  trace.filterMap fun x =>
    match x.2.1 with
    | .poll tick => some (x.1, tick)
    | .late _ => none

section
variable {S : DataStream} {trace : MeteringTrace S} {m : Metering S}

@[simp] theorem cyclesOf_snoc_poll {m' : Metering S} {tick : Tick} :
    cyclesOf (trace ++ [(m, .poll tick, m')]) = cyclesOf trace ++ [(m, tick)] := by simp [cyclesOf]

@[simp] theorem cyclesOf_snoc_late {m' : Metering S} {req : BulkRequest} :
    cyclesOf (trace ++ [(m, .late req, m')]) = cyclesOf trace := by simp [cyclesOf]

end

section
variable [MapOrder] {S : DataStream} (s : ElasticsearchSink)

/-- The batch a cycle would give to `Write`. -/
def Metering.batch (m : Metering S) (tick : Tick) : Option UsageBatch :=
  (pollCycle m.state.collector { discover := tick.discover, now := tick.now, write := none }).2

/-- The cycle as the collector sees it. -/
def Metering.cycle (m : Metering S) (tick : Tick) : Cycle where
  discover := tick.discover
  now := tick.now
  write := (m.batch tick).bind (s.write tick.transport)

def Metering.request (m : Metering S) (tick : Tick) : Option BulkRequest :=
  (m.batch tick).bind (s.sends tick.transport)

inductive Meters : Metering S → MeteringEvent → Metering S → Prop
  | poll {m : Metering S} (tick : Tick) {d : S.State}
      (hdelivered : Delivered S tick.transport (m.request s tick) m.stream d) :
      Meters m (.poll tick)
        { state := m.state.poll (m.cycle s tick), sent := m.sent ++ (m.request s tick).toList, stream := d }
  | late {m : Metering S} {req : BulkRequest} (hsent : req ∈ m.sent) {d : S.State} {items : List BulkItem}
      (hbulk : S.bulk m.stream req.lines d items) : Meters m (.late req) { m with stream := d }

/-- The records a tick takes off the nodes. -/
def Tick.records (tick : Tick) : UsageBatch :=
  match tick.discover with
  | .error _ => []
  | .ok queries => buildBatch tick.now queries

def collectedRecords (trace : MeteringTrace S) : UsageBatch := (cyclesOf trace).flatMap fun x => x.2.records

variable {s} {trace : MeteringTrace S} {m : Metering S} {d₀ : S.State}

@[simp] theorem collectedRecords_snoc_poll {m' : Metering S} {tick : Tick} :
    collectedRecords (trace ++ [(m, .poll tick, m')]) = collectedRecords trace ++ tick.records := by
  simp [collectedRecords]

@[simp] theorem collectedRecords_snoc_late {m' : Metering S} {req : BulkRequest} :
    collectedRecords (trace ++ [(m, .late req, m')]) = collectedRecords trace := by simp [collectedRecords]

/-- The collector takes the steps it takes on its own. -/
theorem run_state (h : Run (Meters s) { stream := d₀ } trace m) :
    Run Polls {} ((cyclesOf trace).map fun x => (x.1.state, x.1.cycle s x.2, x.1.state.poll (x.1.cycle s x.2)))
      m.state := by
  induction h with
  | nil => exact Run.nil
  | snoc _ hs ih =>
    cases hs with
    | poll tick _ =>
      rw [cyclesOf_snoc_poll, List.map_append]
      exact ih.snoc rfl
    | late _ _ => simpa using ih

theorem idle_of_run (h : Run (Meters s) { stream := d₀ } trace m) : m.state.collector.inPoll = false :=
  (not_inPoll (run_state h)).1

theorem collected_records (tick : Tick) (write : Option WriteError) :
    collected { discover := tick.discover, now := tick.now, write := write } =
      if tick.records = [] then none else some tick.records := by
  unfold collected Tick.records
  cases tick.discover <;> rfl

theorem batch_eq (hidle : m.state.collector.inPoll = false) (tick : Tick) :
    m.batch tick = if tick.records = [] then none else some tick.records := by
  rw [Metering.batch, pollCycle_eq hidle, collected_records]

/-- The request of a cycle and what `Write` returns are those of its records: an empty batch is not even given to it. -/
theorem request_eq (hidle : m.state.collector.inPoll = false) (tick : Tick) :
    m.request s tick = s.sends tick.transport tick.records := by
  rw [Metering.request, batch_eq hidle]
  by_cases hnone : tick.records = []
  · simp [hnone, ElasticsearchSink.sends]
  · rw [if_neg hnone, Option.bind_some]

theorem cycle_write_eq (hidle : m.state.collector.inPoll = false) (tick : Tick) (hne : tick.records ≠ []) :
    (m.cycle s tick).write = s.write tick.transport tick.records := by
  rw [Metering.cycle]
  dsimp only
  rw [batch_eq hidle, if_neg hne, Option.bind_some]

/-! ## What is stored was collected -/

/-- What holds along a run: the requests sent ask for documents of records that
were collected, and the data stream has no others. -/
structure Collected (trace : MeteringTrace S) (m : Metering S) : Prop where
  sent : ∀ req ∈ m.sent, ∀ e ∈ req.lines.map Line.entry, e ∈ (collectedRecords trace).map UsageRecord.document
  stored : ∀ e ∈ S.documents m.stream, e ∈ (collectedRecords trace).map UsageRecord.document

theorem collected_run (hS : S.CreatesOnce) (hempty : S.documents d₀ = [])
    (h : Run (Meters s) { stream := d₀ } trace m) : Collected trace m := by
  induction h with
  | nil => exact ⟨by simp, by simp [hempty]⟩
  | @snoc trace m m' event hrun hs ih =>
    have hidle := idle_of_run hrun
    cases hs with
    | poll tick hdelivered =>
      rw [request_eq hidle] at hdelivered ⊢
      obtain ⟨_, hadds, _⟩ := hdelivered.write_spec hS
      constructor
      · intro req hreq e he
        rw [collectedRecords_snoc_poll, List.map_append, List.mem_append]
        rcases List.mem_append.1 hreq with hreq | hreq
        · exact .inl (ih.sent req hreq e he)
        · rw [lines_of_sends (Option.mem_toList.1 hreq)] at he
          exact .inr he
      · intro e he
        rw [collectedRecords_snoc_poll, List.map_append, List.mem_append]
        exact (hadds e he).imp_left (ih.stored e)
    | late hsent hbulk =>
      refine ⟨by simpa using ih.sent, fun e he => ?_⟩
      rw [collectedRecords_snoc_late]
      rcases hS.adds _ _ _ _ hbulk e he with he | he
      · exact ih.stored e he
      · exact ih.sent _ hsent e he

/-! ## What was acknowledged -/

/-- The records of the cycles whose `Write` returned nil have their ids in the data stream. -/
theorem mem_ids_of_written (hS : S.CreatesOnce) (h : Run (Meters s) { stream := d₀ } trace m) :
    ∀ x ∈ cyclesOf trace, (x.1.cycle s x.2).write = none → ∀ r ∈ x.2.records, documentKey r ∈ S.ids m.stream := by
  induction h with
  | nil => intro x hx; cases hx
  | @snoc trace m m' event hrun hs ih =>
    cases hs with
    | poll tick hdelivered =>
      have hidle := idle_of_run hrun
      rw [request_eq hidle] at hdelivered
      obtain ⟨hkeeps, _, hall⟩ := hdelivered.write_spec hS
      intro x hx hwrite r hr
      rw [cyclesOf_snoc_poll] at hx
      rcases List.mem_append.1 hx with hx | hx
      · exact List.map_subset _ hkeeps (ih x hx hwrite r hr)
      · obtain rfl := List.mem_singleton.1 hx
        rw [cycle_write_eq hidle tick (List.ne_nil_of_mem hr)] at hwrite
        exact hall hwrite r hr
    | late _ hbulk =>
      intro x hx hwrite r hr
      rw [cyclesOf_snoc_late] at hx
      exact hS.mem_ids hbulk (ih x hx hwrite r hr)

/-- What lies under the id of a collected record is that record, where ids tell the records apart. -/
theorem mem_documents_of_written (hS : S.CreatesOnce) (hempty : S.documents d₀ = [])
    (hkey : Set.InjOn documentKey {r | r ∈ collectedRecords trace}) (h : Run (Meters s) { stream := d₀ } trace m)
    {x : Metering S × Tick} (hx : x ∈ cyclesOf trace) (hwrite : (x.1.cycle s x.2).write = none) {r : UsageRecord}
    (hr : r ∈ x.2.records) : r.document ∈ S.documents m.stream := by
  obtain ⟨e, he, hid⟩ := List.mem_map.1 (mem_ids_of_written hS h x hx hwrite r hr)
  obtain ⟨r', hr', rfl⟩ := List.mem_map.1 ((collected_run hS hempty h).stored e he)
  rwa [← hkey hr' (List.mem_flatMap.2 ⟨x, hx, hr⟩) hid]

/-- The calls of `Write` are those of the cycles with records. -/
theorem mem_writes_iff (h : Run (Meters s) { stream := d₀ } trace m) {w : WriteCall} :
    w ∈ m.state.writes ↔ ∃ x ∈ cyclesOf trace, w.cycle = x.1.state.cycles ∧ w.batch = x.2.records ∧
      x.2.records ≠ [] ∧ w.error = (x.1.cycle s x.2).write := by
  rw [mem_writes (run_state h)]
  simp only [List.mem_map, exists_exists_and_eq_and]
  refine exists_congr fun x => and_congr_right fun _ => and_congr_right fun _ => ?_
  rw [Metering.cycle, collected_records]
  by_cases hnone : x.2.records = []
  · simp [hnone]
  · simp [hnone, @eq_comm _ w.batch]

/-- The records of a batch whose `Write` returned nil are stored as they were
collected, also after all that came later. -/
theorem written_stored (hS : S.CreatesOnce) (hempty : S.documents d₀ = [])
    (hkey : Set.InjOn documentKey {r | r ∈ collectedRecords trace}) (h : Run (Meters s) { stream := d₀ } trace m)
    {w : WriteCall} (hw : w ∈ m.state.writes) (hok : w.error = none) :
    ∀ r ∈ w.batch, r.document ∈ S.documents m.stream := by
  obtain ⟨x, hx, _, hbatch, _, herr⟩ := (mem_writes_iff h).1 hw
  intro r hr
  exact mem_documents_of_written hS hempty hkey h hx (herr.symm.trans hok) (hbatch ▸ hr)

/-! ## Ids that tell the records apart -/

omit [MapOrder] in
/-- The text of a document tells the record's names and its time. -/
theorem documentText_time_inj {r r' : UsageRecord} (hu : nul ∉ r.user.toList) (hu' : nul ∉ r'.user.toList)
    (hi : nul ∉ r.inboundNode.toList) (hi' : nul ∉ r'.inboundNode.toList) (hn : nul ∉ r.node.toList)
    (hn' : nul ∉ r'.node.toList) (h : documentText r = documentText r') : r.collectedAt = r'.collectedAt := by
  have hchars : ∀ r : UsageRecord, (documentText r).toList = r.user.toList ++ nul ::
      (r.inboundNode.toList ++ nul :: (r.node.toList ++ nul :: (toString r.collectedAt).toList)) := by
    intro r
    simp [documentText, nul]
  have h' := congrArg String.toList h
  rw [hchars, hchars, append_cons_inj hu hu', append_cons_inj hi hi', append_cons_inj hn hn'] at h'
  exact Json.toString_int_inj (String.toList_inj.1 h'.2.2.2)

/-- The clock never shows the same time twice, the names have no NUL and the
digest does not collide on the texts of the documents. -/
structure Unambiguous (trace : MeteringTrace S) : Prop where
  times : ((cyclesOf trace).map fun x => x.2.now).Nodup
  nulFree : ∀ x ∈ cyclesOf trace, ∀ queries, x.2.discover = .ok queries → NulFree queries
  digest : Set.InjOn sha256 {text | ∃ r ∈ collectedRecords trace, text = bytesOf (documentText r)}

theorem mem_records {tick : Tick} {r : UsageRecord} (hr : r ∈ tick.records) :
    ∃ queries, tick.discover = .ok queries ∧ r ∈ buildBatch tick.now queries := by
  unfold Tick.records at hr
  cases hd : tick.discover with
  | error err => simp [hd] at hr
  | ok queries => exact ⟨queries, rfl, by simpa [hd] using hr⟩

theorem collectedAt_eq {tick : Tick} {r : UsageRecord} (hr : r ∈ tick.records) : r.collectedAt = tick.now := by
  obtain ⟨queries, _, hr⟩ := mem_records hr
  obtain ⟨_, _, _, _, _, ht⟩ := exists_first hr
  exact ht

theorem names_nulFree (hu : Unambiguous trace) {r : UsageRecord} (hr : r ∈ collectedRecords trace) :
    nul ∉ r.inboundNode.toList ∧ nul ∉ r.user.toList ∧ nul ∉ r.node.toList := by
  obtain ⟨x, hx, hr⟩ := List.mem_flatMap.1 hr
  obtain ⟨queries, hd, hr⟩ := mem_records hr
  obtain ⟨c, hc, hi, hun, hn, _⟩ := exists_first hr
  rw [hi, hun, hn]
  exact hu.nulFree x hx queries hd c hc

/-- Two records with one id were collected in one cycle, and are one record there. -/
theorem Unambiguous.injOn_documentKey (hu : Unambiguous trace) :
    Set.InjOn documentKey {r | r ∈ collectedRecords trace} := by
  intro r hr r' hr' h
  obtain ⟨hi, huser, hn⟩ := names_nulFree hu hr
  obtain ⟨hi', huser', hn'⟩ := names_nulFree hu hr'
  have htext := bytesOf_inj.1 (hu.digest ⟨r, hr, rfl⟩ ⟨r', hr', rfl⟩ (hexEncode_inj.1 h))
  have hkey := documentText_inj huser huser' hi hi' hn hn' htext
  have htime := documentText_time_inj huser huser' hi hi' hn hn' htext
  obtain ⟨x, hx, hr⟩ := List.mem_flatMap.1 hr
  obtain ⟨x', hx', hr'⟩ := List.mem_flatMap.1 hr'
  rw [collectedAt_eq hr, collectedAt_eq hr'] at htime
  obtain rfl := List.inj_on_of_nodup_map hu.times hx hx' htime
  obtain ⟨queries, hd, hr⟩ := mem_records hr
  obtain ⟨queries', hd', hr'⟩ := mem_records hr'
  obtain rfl := Except.ok.inj (hd.symm.trans hd')
  exact eq_of_key_eq hr hr' hkey

/-- No record is collected twice. -/
theorem Unambiguous.nodup_records (hu : Unambiguous trace) : (collectedRecords trace).Nodup := by
  refine List.nodup_flatMap.2 ⟨fun x hx => ?_, ?_⟩
  · unfold Tick.records
    cases x.2.discover with
    | error err => exact List.nodup_nil
    | ok queries => exact (nodup_keys _ queries).of_map
  · refine (List.pairwise_map.1 hu.times).imp fun hne => ?_
    intro r hr hr'
    exact hne ((collectedAt_eq hr).symm.trans (collectedAt_eq hr'))

/-! ## What adds up -/

/-- The bytes that documents have for a user, a target and the node the user came in at. -/
def usage (docs : List (String × UsageRecord)) (inboundNode user node : String) (direction : Direction) : Int :=
  ((docs.filter fun e => e.2.triple = (inboundNode, user, node)).map fun e => (e.2.bytes direction).toInt).sum

/-- The values of the counters a cycle took off the nodes. -/
def Tick.values (tick : Tick) (inboundNode user node : String) (direction : Direction) : List Int :=
  match tick.discover with
  | .error _ => []
  | .ok queries => countedValues queries inboundNode user node direction

/-- The record that a cycle has for a node, a user and a target is among the documents, if there is one. -/
def Tick.Stored (tick : Tick) (docs : List (String × UsageRecord)) (triple : String × String × String) : Prop :=
  ∀ r ∈ tick.records, r.triple = triple → r.document ∈ docs

instance (tick : Tick) (docs : List (String × UsageRecord)) (triple : String × String × String) :
    Decidable (tick.Stored docs triple) := inferInstanceAs (Decidable (∀ r ∈ _, _ → _))

theorem records_usage {tick : Tick} (hnul : ∀ queries, tick.discover = .ok queries → NulFree queries)
    (i u n : String) (d : Direction) :
    ((tick.records.filter fun r => r.triple = (i, u, n)).map fun r => (r.bytes d).toInt).sum =
      (Int64.ofInt (tick.values i u n d).sum).toInt := by
  unfold Tick.records Tick.values
  cases hd : tick.discover with
  | error err => rfl
  | ok queries =>
    dsimp only
    have hagg : Aggregates queries (buildBatch tick.now queries) := buildBatch_aggregates (hnul queries hd)
    by_cases hmem : (i, u, n) ∈ (buildBatch tick.now queries).map UsageRecord.triple
    · obtain ⟨r, hr, ht⟩ := List.mem_map.1 hmem
      rw [← ht, filter_eq_singleton hagg.one_record hr, List.map_singleton, List.sum_singleton, hagg.bytes r hr d]
      obtain ⟨hi, ht⟩ := Prod.mk.inj ht
      obtain ⟨hun, hn⟩ := Prod.mk.inj ht
      rw [hi, hun, hn]
    · have hnone : countedValues queries i u n d = [] := by
        by_contra hne
        exact hmem ((hagg.mem_iff i u n).2 ⟨d, hne⟩)
      have hfilter : (buildBatch tick.now queries).filter (fun r => r.triple = (i, u, n)) = [] := by
        refine List.filter_eq_nil_iff.2 fun r hr ht => hmem ?_
        rw [← of_decide_eq_true ht]
        exact List.mem_map_of_mem hr
      rw [hnone, hfilter]
      rfl

/-- Within a cycle a node, a user and a target have one record at most. -/
theorem eq_of_triple_eq {tick : Tick} (hnul : ∀ queries, tick.discover = .ok queries → NulFree queries)
    {r r' : UsageRecord} (hr : r ∈ tick.records) (hr' : r' ∈ tick.records) (h : r.triple = r'.triple) : r = r' := by
  obtain ⟨queries, hd, hr⟩ := mem_records hr
  obtain ⟨queries', hd', hr'⟩ := mem_records hr'
  obtain rfl := Except.ok.inj (hd.symm.trans hd')
  have hagg : Aggregates queries (buildBatch tick.now queries) := buildBatch_aggregates (hnul queries hd)
  exact List.inj_on_of_nodup_map hagg.one_record hr hr' h

/-- What a cycle has among the documents is all it counted, or nothing. -/
theorem stored_usage {tick : Tick} (hnul : ∀ queries, tick.discover = .ok queries → NulFree queries)
    (docs : List (String × UsageRecord)) (i u n : String) (d : Direction) :
    (((tick.records.filter fun r => r.document ∈ docs).filter fun r => r.triple = (i, u, n)).map
        fun r => (r.bytes d).toInt).sum =
      if tick.Stored docs (i, u, n) then (Int64.ofInt (tick.values i u n d).sum).toInt else 0 := by
  rw [List.filter_filter]
  by_cases hstored : tick.Stored docs (i, u, n)
  · rw [if_pos hstored, ← records_usage hnul]
    refine congrArg (fun l => (List.map _ l).sum) (List.filter_congr fun r hr => ?_)
    by_cases ht : r.triple = (i, u, n)
    · simp [ht, hstored r hr ht]
    · simp [ht]
  · rw [if_neg hstored]
    have hfilter : tick.records.filter (fun r => decide (r.triple = (i, u, n)) && decide (r.document ∈ docs)) = [] := by
      obtain ⟨r, hr, ht, hmissing⟩ : ∃ r ∈ tick.records, r.triple = (i, u, n) ∧ r.document ∉ docs := by
        simpa [Tick.Stored] using hstored
      refine List.filter_eq_nil_iff.2 fun r' hr' h => ?_
      obtain ⟨ht', hdoc⟩ : r'.triple = (i, u, n) ∧ r'.document ∈ docs := by simpa using h
      obtain rfl := eq_of_triple_eq hnul hr' hr (ht'.trans ht.symm)
      exact hmissing hdoc
    rw [hfilter]
    rfl

/-- The documents are those of the records collected that are among them, each once. -/
theorem documents_perm (hS : S.CreatesOnce) (hempty : S.documents d₀ = []) (hu : Unambiguous trace)
    (h : Run (Meters s) { stream := d₀ } trace m) :
    (S.documents m.stream).Perm
      (((collectedRecords trace).filter fun r => r.document ∈ S.documents m.stream).map UsageRecord.document) := by
  have hinj : Function.Injective UsageRecord.document := fun r r' he => (Prod.mk.inj he).2
  refine (List.perm_ext_iff_of_nodup (hS.unique m.stream).of_map ((hu.nodup_records.filter _).map hinj)).2 fun e => ?_
  simp only [List.mem_map, List.mem_filter, decide_eq_true_eq]
  constructor
  · intro he
    obtain ⟨r, hr, rfl⟩ := List.mem_map.1 ((collected_run hS hempty h).stored e he)
    exact ⟨r, ⟨hr, he⟩, rfl⟩
  · rintro ⟨r, ⟨_, hr⟩, rfl⟩
    exact hr

/-- The bytes stored are the sum over the cycles whose record is among the documents. -/
theorem usage_eq_sum (hS : S.CreatesOnce) (hempty : S.documents d₀ = []) (hu : Unambiguous trace)
    (h : Run (Meters s) { stream := d₀ } trace m) (i u n : String) (d : Direction) :
    usage (S.documents m.stream) i u n d =
      (((cyclesOf trace).filter fun x => x.2.Stored (S.documents m.stream) (i, u, n)).map
        fun x => (Int64.ofInt (x.2.values i u n d).sum).toInt).sum := by
  have hperm := ((documents_perm hS hempty hu h).filter fun e => e.2.triple = (i, u, n)).map
    fun e => (e.2.bytes d).toInt
  rw [usage, hperm.sum_eq, List.filter_map, List.map_map]
  change ((((collectedRecords trace).filter fun r => r.document ∈ S.documents m.stream).filter
    fun r => r.triple = (i, u, n)).map fun r => (r.bytes d).toInt).sum = _
  rw [collectedRecords, List.filter_flatMap, List.filter_flatMap, List.map_flatMap, List.flatMap_def,
    List.sum_flatten, List.map_map]
  refine (congrArg List.sum (List.map_congr_left fun x hx =>
    stored_usage (hu.nulFree x hx) (S.documents m.stream) i u n d)).trans ?_
  rw [List.sum_map_ite]
  simp

theorem stored_of_written (hS : S.CreatesOnce) (hempty : S.documents d₀ = []) (hu : Unambiguous trace)
    (h : Run (Meters s) { stream := d₀ } trace m) {x : Metering S × Tick} (hx : x ∈ cyclesOf trace)
    (hwrite : (x.1.cycle s x.2).write = none) (triple : String × String × String) :
    x.2.Stored (S.documents m.stream) triple :=
  fun _ hr _ => mem_documents_of_written hS hempty hu.injOn_documentKey h hx hwrite hr

/-- Whatever fails, gets lost or is carried out again, the bytes stored are what
some of the cycles counted, no cycle twice and none left out whose `Write` returned nil. -/
theorem usage_at_most_once (hS : S.CreatesOnce) (hempty : S.documents d₀ = []) (hu : Unambiguous trace)
    (h : Run (Meters s) { stream := d₀ } trace m) (inboundNode user node : String) (direction : Direction) :
    ∃ kept : List (Metering S × Tick), kept.Sublist (cyclesOf trace) ∧
      (∀ x ∈ cyclesOf trace, (x.1.cycle s x.2).write = none → x ∈ kept) ∧
      usage (S.documents m.stream) inboundNode user node direction =
        (kept.map fun x => (Int64.ofInt (x.2.values inboundNode user node direction).sum).toInt).sum := by
  refine ⟨_, List.filter_sublist, fun x hx hwrite => ?_, usage_eq_sum hS hempty hu h ..⟩
  exact List.mem_filter.2 ⟨hx, decide_eq_true (stored_of_written hS hempty hu h hx hwrite _)⟩

/-- Where every `Write` returned nil, the bytes stored are those the cycles took
off the nodes, each cycle's sum as `int64`. -/
theorem usage_exact (hS : S.CreatesOnce) (hempty : S.documents d₀ = []) (hu : Unambiguous trace)
    (h : Run (Meters s) { stream := d₀ } trace m) (hok : ∀ w ∈ m.state.writes, w.error = none)
    (inboundNode user node : String) (direction : Direction) :
    usage (S.documents m.stream) inboundNode user node direction =
      ((cyclesOf trace).map fun x => (Int64.ofInt (x.2.values inboundNode user node direction).sum).toInt).sum := by
  rw [usage_eq_sum hS hempty hu h, List.filter_eq_self.2 fun x hx => decide_eq_true ?_]
  intro r hr ht
  have hwritten := (mem_writes_iff h (w := ⟨x.1.state.cycles, x.2.records, (x.1.cycle s x.2).write⟩)).2
    ⟨x, hx, rfl, rfl, List.ne_nil_of_mem hr, rfl⟩
  exact stored_of_written hS hempty hu h hx (hok _ hwritten) _ r hr ht

end

/-! ### One node that answers, and a request that is carried out twice -/

section
attribute [local instance] storedOrder

/-- The items for lines that are created one after the other. -/
def createItems : WriteOnce String UsageRecord → List Line → List BulkItem
  | _, [] => []
  | docs, line :: lines =>
    let id := line.1.create.id
    { create := { id := id, status := if id ∈ docs.ids then 409 else 201 } } :: createItems (docs.create id line.2) lines

/-- A service that takes every document whose id is free. -/
def takesAll : DataStream where
  State := WriteOnce String UsageRecord
  documents docs := docs.entries
  bulk docs lines docs' items := docs' = docs.createAll (lines.map Line.entry) ∧ items = createItems docs lines

theorem createItems_ids (docs : WriteOnce String UsageRecord) (lines : List Line) :
    (createItems docs lines).map (fun item => item.create.id) = lines.map fun line => line.1.create.id := by
  induction lines generalizing docs with
  | nil => rfl
  | cons line lines ih => simp [createItems, ih]

theorem createItems_succeeded (docs : WriteOnce String UsageRecord) (lines : List Line) :
    ∀ item ∈ createItems docs lines, item.succeeded = true := by
  induction lines generalizing docs with
  | nil => simp [createItems]
  | cons line lines ih =>
    refine List.forall_mem_cons.2 ⟨?_, ih _⟩
    by_cases h : line.1.create.id ∈ docs.ids <;> simp [BulkItem.succeeded, h]

theorem takesAll_createsOnce : takesAll.CreatesOnce where
  unique docs := docs.nodup
  keeps := by
    rintro docs lines _ _ ⟨rfl, rfl⟩ e he
    exact WriteOnce.mem_createAll he
  adds := by
    rintro docs lines _ _ ⟨rfl, rfl⟩ e he
    exact WriteOnce.of_mem_createAll he
  answers := by
    rintro docs lines _ _ ⟨rfl, rfl⟩ line hline
    exact List.mem_map.1 (createItems_ids docs lines ▸ List.mem_map_of_mem hline)
  acknowledges := by
    rintro docs lines _ _ ⟨rfl, rfl⟩ item hitem _
    obtain ⟨line, hline, hid⟩ := List.mem_map.1 (createItems_ids docs lines ▸ List.mem_map_of_mem hitem)
    rw [← hid]
    exact WriteOnce.mem_ids_createAll (List.mem_map_of_mem (f := Line.entry) hline)

def wicketLines : List Line := (buildBatch wicketCycle.now wicketQueries).map fun r => (bulkAction r, r)

def wicketTick : Tick where
  discover := .ok wicketQueries
  now := wicketCycle.now
  transport := answering "accepted" { items := createItems .empty wicketLines }

def wicketRequest : BulkRequest := { url := bulkSink.bulkURL, authorization := none, lines := wicketLines }

def wicketStart : Metering takesAll := { stream := WriteOnce.empty }

def wicketPolled : Metering takesAll where
  state := wicketStart.state.poll (wicketStart.cycle bulkSink wicketTick)
  sent := [wicketRequest]
  stream := WriteOnce.empty.createAll (wicketLines.map Line.entry)

def wicketRepeated : Metering takesAll :=
  { wicketPolled with stream := wicketPolled.stream.createAll (wicketLines.map Line.entry) }

theorem encodeBatch_eq {t : Transport} (haction : ∀ a, t.encodeAction a = .ok ())
    (hrecord : ∀ r, t.encodeRecord r = .ok ()) (batch : UsageBatch) :
    encodeBatch t batch = .ok (batch.map fun r => (bulkAction r, r)) := by
  induction batch with
  | nil => rfl
  | cons r batch ih =>
    rw [encodeBatch, haction, hrecord, ih]
    rfl

theorem wicket_records_ne_nil : wicketTick.records ≠ [] := by
  have hc : (⟨"wicket", "alice", "relay", .uplink, 1000⟩ : Counter) ∈ wicketQueries.flatMap Query.counters := by
    rw [wicketQueries_counters]
    exact List.mem_singleton_self _
  obtain ⟨r, hr, _⟩ := exists_record wicketCycle.now hc
  exact List.ne_nil_of_mem hr

theorem wicket_sends : bulkSink.sends wicketTick.transport wicketTick.records = some wicketRequest := by
  have hreq : bulkSink.request wicketTick.transport wicketTick.records = .ok wicketRequest := by
    rw [ElasticsearchSink.request, encodeBatch_eq (fun _ => rfl) (fun _ => rfl)]
    rfl
  rw [ElasticsearchSink.sends, if_neg (by simp [wicket_records_ne_nil, bulkSink]), hreq]
  rfl

theorem wicket_request : wicketStart.request bulkSink wicketTick = some wicketRequest :=
  (request_eq rfl wicketTick).trans wicket_sends

def wicketTrace : MeteringTrace takesAll :=
  [(wicketStart, .poll wicketTick, wicketPolled), (wicketPolled, .late wicketRequest, wicketRepeated)]

theorem run_wicket : Run (Meters bulkSink) wicketStart wicketTrace wicketRepeated := by
  have hpoll : Meters bulkSink wicketStart (.poll wicketTick) wicketPolled := by
    have hdelivered : Delivered takesAll wicketTick.transport (wicketStart.request bulkSink wicketTick)
        wicketStart.stream wicketPolled.stream := by
      rw [wicket_request]
      refine ⟨_, Run.single ⟨rfl, rfl⟩, fun statusCode body resp hsend _ hbody => ?_⟩
      obtain ⟨rfl, rfl⟩ : 200 = statusCode ∧ "accepted" = body := by
        simpa [wicketTick, answering] using hsend
      have hresp : ({ items := createItems .empty wicketLines } : BulkResponse) = resp := by
        simpa [wicketTick, answering] using hbody
      rw [← hresp]
      exact ⟨_, List.mem_singleton_self _, rfl⟩
    have hstep := Meters.poll wicketTick hdelivered
    rwa [wicket_request] at hstep
  exact (Run.single hpoll).snoc (.late (List.mem_singleton_self _) ⟨rfl, rfl⟩)

theorem wicket_cycles : cyclesOf wicketTrace = [(wicketStart, wicketTick)] := rfl

theorem mem_wicketRecords {r : UsageRecord} (hr : r ∈ collectedRecords wicketTrace) :
    r ∈ buildBatch wicketCycle.now wicketQueries ∧ r.triple = ("wicket", "alice", "relay") := by
  obtain ⟨x, hx, hr⟩ := List.mem_flatMap.1 hr
  obtain rfl := List.mem_singleton.1 hx
  obtain ⟨c, hc, ht, _⟩ := record_spec hr
  rw [wicketQueries_counters, List.mem_singleton] at hc
  subst hc
  exact ⟨hr, ht⟩

theorem wicket_unambiguous : Unambiguous wicketTrace := by
  refine ⟨List.nodup_singleton _, fun x hx queries hd => ?_, Set.Subsingleton.injOn ?_ _⟩
  · obtain rfl := List.mem_singleton.1 hx
    obtain rfl := Except.ok.inj hd
    intro c hc
    rw [wicketQueries_counters, List.mem_singleton] at hc
    subst hc
    decide
  · rintro _ ⟨r, hr, rfl⟩ _ ⟨r', hr', rfl⟩
    obtain ⟨hr, ht⟩ := mem_wicketRecords hr
    obtain ⟨hr', ht'⟩ := mem_wicketRecords hr'
    rw [eq_of_key_eq hr hr' ((key_of_triple ht).trans (key_of_triple ht').symm)]

theorem wicket_write : (wicketStart.cycle bulkSink wicketTick).write = none := by
  rw [cycle_write_eq rfl wicketTick wicket_records_ne_nil]
  have hx : bulkSink.exchange wicketTick.transport wicketTick.records =
      .ok { items := createItems .empty wicketLines } := by
    rw [ElasticsearchSink.exchange, encodeBatch_eq (fun _ => rfl) (fun _ => rfl)]
    simp [wicketTick, answering, wrap, HttpOutcome.read, bind, Except.bind]
  rw [write_of_exchange rfl wicket_records_ne_nil hx, evaluateBulkResponse_eq_none]
  exact createItems_succeeded _ _

theorem wicket_writes {w : WriteCall} :
    w ∈ wicketRepeated.state.writes ↔ w.cycle = 0 ∧ w.batch = wicketTick.records ∧ w.error = none := by
  rw [mem_writes_iff run_wicket]
  simp only [wicket_cycles, List.mem_singleton, exists_eq_left, wicket_write, ne_eq, wicket_records_ne_nil,
    not_false_eq_true, true_and]
  rfl

theorem usage_at_most_once_wicket :
    Unambiguous wicketTrace ∧ Run (Meters bulkSink) wicketStart wicketTrace wicketRepeated ∧
      ∃ kept : List (Metering takesAll × Tick), kept.Sublist (cyclesOf wicketTrace) ∧
        (∀ x ∈ cyclesOf wicketTrace, (x.1.cycle bulkSink x.2).write = none → x ∈ kept) ∧
        usage (takesAll.documents wicketRepeated.stream) "wicket" "alice" "relay" .uplink =
          (kept.map fun x => (Int64.ofInt (x.2.values "wicket" "alice" "relay" .uplink).sum).toInt).sum :=
  ⟨wicket_unambiguous, run_wicket, usage_at_most_once takesAll_createsOnce rfl wicket_unambiguous run_wicket ..⟩

theorem written_stored_wicket :
    wicketTick.records ≠ [] ∧ ∀ r ∈ wicketTick.records, r.document ∈ takesAll.documents wicketRepeated.stream :=
  ⟨wicket_records_ne_nil,
    written_stored (w := ⟨0, wicketTick.records, none⟩) takesAll_createsOnce rfl wicket_unambiguous.injOn_documentKey
      run_wicket (wicket_writes.2 ⟨rfl, rfl, rfl⟩) rfl⟩

theorem usage_exact_wicket :
    Unambiguous wicketTrace ∧
      usage (takesAll.documents wicketRepeated.stream) "wicket" "alice" "relay" .uplink = 1000 := by
  refine ⟨wicket_unambiguous, ?_⟩
  rw [usage_exact takesAll_createsOnce rfl wicket_unambiguous run_wicket fun w hw => (wicket_writes.1 hw).2.2]
  decide

end

end SingboxOperator.Usage
