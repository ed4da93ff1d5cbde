import SingboxOperator.Usage.Collector
/-!
# The Elasticsearch sink

`ElasticsearchSink.write` follows `ElasticsearchSink.Write`: one `_bulk` request
with a `create` action for each record, then the verdict over the items of the
response. JSON, the request and the transport are the sink's surroundings
(`Transport`): any function stands for what they answer.

`evaluateBulkResponse` looks at the items it got and at nothing else. How many
there are and which documents they name is never compared with the batch, so a
response without items is a success.
-/
open SingboxOperator.Lib

namespace SingboxOperator.Usage

/-! ## Requests and responses -/

structure BulkActionCreate where
  index : String := ""
  id : String
  deriving DecidableEq, Repr

structure BulkAction where
  create : BulkActionCreate
  deriving DecidableEq, Repr

structure BulkItemError where
  type : String
  reason : String
  deriving DecidableEq, Repr

structure BulkItemCreate where
  id : String := ""
  status : Int := 0
  error : Option BulkItemError := none
  deriving DecidableEq, Repr

structure BulkItem where
  create : BulkItemCreate := {}
  deriving DecidableEq, Repr

structure BulkResponse where
  errors : Bool := false
  items : List BulkItem := []
  deriving DecidableEq, Repr

/-- A POST of NDJSON: an action line and a document line for each record. -/
structure BulkRequest where
  url : String
  authorization : Option String
  lines : List (BulkAction × UsageRecord)
  deriving DecidableEq, Repr

/-- How a request can end. -/
inductive HttpOutcome
  | failed (err : String)
  | unreadable (err : String)
  | response (statusCode : Int) (body : String)
  deriving DecidableEq, Repr

/-- `encoding/json` and `net/http` as the sink meets them. -/
structure Transport where
  encodeAction : BulkAction → Except String Unit
  encodeRecord : UsageRecord → Except String Unit
  newRequest : String → Except String Unit
  send : BulkRequest → HttpOutcome
  unmarshal : String → Except String BulkResponse

structure ElasticsearchSink where
  bulkURL : String
  apiKey : String
  closed : Bool := false
  deriving DecidableEq, Repr

/-- `fmt.Errorf("…: %w", err)`. -/
def wrap {α : Type} (context : String) : Except String α → Except String α
  | .error err => .error (context ++ ": " ++ err)
  | .ok a => .ok a

/-! ## Write -/

def bulkAction (r : UsageRecord) : BulkAction := { create := { id := documentKey r } }

/-- The loop that encodes the batch. -/
def encodeBatch (t : Transport) : UsageBatch → Except String (List (BulkAction × UsageRecord))
  | [] => .ok []
  | r :: batch => do
    wrap "failed to encode bulk action" (t.encodeAction (bulkAction r))
    wrap "failed to encode usage record" (t.encodeRecord r)
    let lines ← encodeBatch t batch
    .ok ((bulkAction r, r) :: lines)

/-- `client.Do` and `io.ReadAll`: the status code and the body. -/
def HttpOutcome.read : HttpOutcome → Except String (Int × String)
  | .failed err => .error ("ES bulk request failed: " ++ err)
  | .unreadable err => .error ("failed to read ES response: " ++ err)
  | .response statusCode body => .ok (statusCode, body)

/-- `Write` from the encoding up to the parsed response. -/
def ElasticsearchSink.exchange (t : Transport) (s : ElasticsearchSink) (batch : UsageBatch) :
    Except String BulkResponse := do
  let lines ← encodeBatch t batch
  wrap "failed to create ES request" (t.newRequest s.bulkURL)
  let authorization := if s.apiKey ≠ "" then some ("ApiKey " ++ s.apiKey) else none
  let (statusCode, body) ← (t.send { url := s.bulkURL, authorization := authorization, lines := lines }).read
  if statusCode ≥ 300 then .error ("ES returned HTTP " ++ toString statusCode ++ ": " ++ body)
  else wrap "failed to parse ES bulk response" (t.unmarshal body)

/-- The variables of the loop over the items. -/
structure BulkVerdict where
  succeeded : Nat := 0
  failed : Nat := 0
  failedIDs : List String := []
  deriving DecidableEq, Repr

def BulkItem.succeeded (item : BulkItem) : Bool := item.create.status = 201 || item.create.status = 409

def BulkVerdict.add (v : BulkVerdict) (item : BulkItem) : BulkVerdict :=
  if item.succeeded then { v with succeeded := v.succeeded + 1 }
  else
    { v with
      failed := v.failed + 1
      failedIDs := if item.create.id ≠ "" then v.failedIDs ++ [item.create.id] else v.failedIDs }

def evaluateBulkResponse (resp : BulkResponse) : Option WriteError :=
  let v := resp.items.foldl BulkVerdict.add {}
  if v.failed = 0 then none else some (.bulkPartialFailure v.succeeded v.failed v.failedIDs)

def ElasticsearchSink.write (t : Transport) (s : ElasticsearchSink) (batch : UsageBatch) : Option WriteError :=
  if s.closed then some (.failed "elasticsearch sink is closed")
  else if batch = [] then none
  else
    match s.exchange t batch with
    | .error err => some (.failed err)
    | .ok resp => evaluateBulkResponse resp

/-! ## The verdict -/

/-- Every item is counted once, and the failed ones are named. -/
theorem foldl_add (items : List BulkItem) (v : BulkVerdict) :
    items.foldl BulkVerdict.add v =
      { succeeded := v.succeeded + items.countP BulkItem.succeeded
        failed := v.failed + items.countP fun item => !item.succeeded
        failedIDs := v.failedIDs ++
          ((items.filter fun item => !item.succeeded).map fun item => item.create.id).filter fun id => id ≠ "" } := by
  induction items generalizing v with
  | nil => simp
  | cons item items ih =>
    rw [List.foldl_cons, ih]
    unfold BulkVerdict.add
    cases hs : item.succeeded with
    | true => simp [hs, Nat.add_assoc, Nat.add_comm 1]
    | false => by_cases hid : item.create.id = "" <;> simp [hs, hid, Nat.add_assoc, Nat.add_comm 1]

theorem evaluateBulkResponse_eq_none {resp : BulkResponse} :
    evaluateBulkResponse resp = none ↔ ∀ item ∈ resp.items, item.succeeded = true := by
  unfold evaluateBulkResponse
  rw [foldl_add]
  simp [List.countP_eq_zero]

/-- The counts of a partial failure are those of the items, and some item failed. -/
theorem evaluateBulkResponse_eq_some {resp : BulkResponse} {e : WriteError} (h : evaluateBulkResponse resp = some e) :
    ∃ succeeded failed ids, e = .bulkPartialFailure succeeded failed ids ∧
      succeeded + failed = resp.items.length ∧ ∃ item ∈ resp.items, item.succeeded = false := by
  have hne : evaluateBulkResponse resp ≠ none := by simp [h]
  rw [Ne, evaluateBulkResponse_eq_none] at hne
  unfold evaluateBulkResponse at h
  rw [foldl_add] at h
  dsimp only at h
  split at h
  · cases h
  · refine ⟨_, _, _, (Option.some.inj h).symm, ?_, ?_⟩
    · rw [List.length_eq_countP_add_countP BulkItem.succeeded]
      simp
    · simpa using hne

/-! ## What a response has to say -/

/-- A `Write` that returns nil got a response that acknowledges the document of
every record, and one that reports a partial failure accounts for the batch. -/
structure WriteDurable (t : Transport) (s : ElasticsearchSink) (batch : UsageBatch) : Prop where
  stored : s.write t batch = none → ∃ resp, s.exchange t batch = .ok resp ∧
    ∀ r ∈ batch, ∃ item ∈ resp.items, item.create.id = documentKey r ∧ item.succeeded = true
  counted : ∀ succeeded failed ids, s.write t batch = some (.bulkPartialFailure succeeded failed ids) →
    succeeded + failed = batch.length

section
variable {t : Transport} {s : ElasticsearchSink} {batch : UsageBatch}

theorem write_of_exchange {resp : BulkResponse} (hopen : s.closed = false) (hne : batch ≠ [])
    (h : s.exchange t batch = .ok resp) : s.write t batch = evaluateBulkResponse resp := by
  simp [ElasticsearchSink.write, hopen, hne, h]

/-- A `Write` that returns nil or reports a partial failure has a response. -/
theorem exists_response (hne : batch ≠ []) (h : ∀ message, s.write t batch ≠ some (.failed message)) :
    s.closed = false ∧ ∃ resp, s.exchange t batch = .ok resp ∧ s.write t batch = evaluateBulkResponse resp := by
  unfold ElasticsearchSink.write at h ⊢
  cases hclosed : s.closed with
  | true => exact absurd (by simp [hclosed]) (h "elasticsearch sink is closed")
  | false =>
    cases hx : s.exchange t batch with
    | error err => exact absurd (by simp [hclosed, hne, hx]) (h err)
    | ok resp => exact ⟨rfl, resp, rfl, by simp [hne]⟩

theorem writeDurable_of_items (hne : batch ≠ [])
    (h : ∀ resp, s.closed = false → s.exchange t batch = .ok resp →
      ((∀ item ∈ resp.items, item.succeeded = true) →
        ∀ r ∈ batch, ∃ item ∈ resp.items, item.create.id = documentKey r) ∧
      ((∃ item ∈ resp.items, item.succeeded = false) → resp.items.length = batch.length)) :
    WriteDurable t s batch := by
  refine ⟨fun hnil => ?_, fun succeeded failed ids hsome => ?_⟩
  · obtain ⟨hopen, resp, hx, hwrite⟩ := exists_response (t := t) (s := s) hne (by simp [hnil])
    have hall := evaluateBulkResponse_eq_none.1 (hwrite.symm.trans hnil)
    refine ⟨resp, hx, fun r hr => ?_⟩
    obtain ⟨item, hitem, hid⟩ := (h resp hopen hx).1 hall r hr
    exact ⟨item, hitem, hid, hall item hitem⟩
  · obtain ⟨hopen, resp, hx, hwrite⟩ := exists_response (t := t) (s := s) hne (by simp [hsome])
    obtain ⟨_, _, _, he, hcount, hfail⟩ := evaluateBulkResponse_eq_some (hwrite.symm.trans hsome)
    cases he
    rw [hcount]
    exact (h resp hopen hx).2 hfail

/-- The sink keeps its promise for the responses whose items, if all succeeded,
name the documents of the batch, and else are as many as its records. -/
theorem writeDurable_iff (hne : batch ≠ []) :
    WriteDurable t s batch ↔ ∀ resp, s.closed = false → s.exchange t batch = .ok resp →
      ((∀ item ∈ resp.items, item.succeeded = true) →
        ∀ r ∈ batch, ∃ item ∈ resp.items, item.create.id = documentKey r) ∧
      ((∃ item ∈ resp.items, item.succeeded = false) → resp.items.length = batch.length) := by
  constructor
  · intro h resp hopen hx
    have hwrite := write_of_exchange hopen hne hx
    constructor
    · intro hall r hr
      obtain ⟨resp', hx', hstored⟩ := h.stored (hwrite.trans (evaluateBulkResponse_eq_none.2 hall))
      obtain rfl : resp = resp' := Except.ok.inj (hx.symm.trans hx')
      obtain ⟨item, hitem, hid, _⟩ := hstored r hr
      exact ⟨item, hitem, hid⟩
    · rintro ⟨item, hitem, hfail⟩
      cases he : evaluateBulkResponse resp with
      | none =>
        have := evaluateBulkResponse_eq_none.1 he item hitem
        rw [hfail] at this
        cases this
      | some e =>
        obtain ⟨succeeded, failed, ids, rfl, hcount, _⟩ := evaluateBulkResponse_eq_some he
        rw [← hcount]
        exact h.counted succeeded failed ids (hwrite.trans he)
  · exact writeDurable_of_items hne

/-- The response `_bulk` is documented to give has an item for each action, in order. -/
theorem writeDurable_of_ids (hne : batch ≠ [])
    (h : ∀ resp, s.exchange t batch = .ok resp → resp.items.map (fun item => item.create.id) = batch.map documentKey) :
    WriteDurable t s batch := by
  refine writeDurable_of_items hne fun resp _ hx => ⟨fun _ r hr => ?_, fun _ => ?_⟩
  · have hmem : documentKey r ∈ resp.items.map fun item => item.create.id := by
      rw [h resp hx]
      exact List.mem_map_of_mem hr
    obtain ⟨item, hitem, hid⟩ := List.mem_map.1 hmem
    exact ⟨item, hitem, hid⟩
  · simpa using congrArg List.length (h resp hx)

end

/-! ### A response without items -/

def bulkSink : ElasticsearchSink where
  bulkURL := "https://es.monitoring:9200/singbox-usage/_bulk"
  apiKey := ""

def quotaRecord : UsageRecord where
  timestamp := 1700000000000000000
  user := "alice"
  inboundNode := "front"
  node := "relay"
  uplinkBytes := 1000
  collectedAt := 1700000000000000000

/-- Every request is answered with status 200 and the given body, and it parses to the given response. -/
def answering (body : String) (resp : BulkResponse) : Transport where
  encodeAction _ := .ok ()
  encodeRecord _ := .ok ()
  newRequest _ := .ok ()
  send _ := .response 200 body
  unmarshal text := if text = body then .ok resp else .error "unexpected end of JSON input"

theorem exchange_answering (body : String) (resp : BulkResponse) (r : UsageRecord) :
    bulkSink.exchange (answering body resp) [r] = .ok resp := by
  simp [ElasticsearchSink.exchange, answering, encodeBatch, wrap, HttpOutcome.read, bind, Except.bind]

/-- The body of the response is the empty object; `Write` returns nil. -/
theorem not_forall_writeDurable :
    ¬ ∀ (t : Transport) (s : ElasticsearchSink) (batch : UsageBatch), t.unmarshal "\x7b\x7d" = .ok {} → batch ≠ [] →
      WriteDurable t s batch := by
  intro h
  have hx := exchange_answering "\x7b\x7d" {} quotaRecord
  have hdurable := h (answering "\x7b\x7d" {}) bulkSink [quotaRecord] (by simp [answering]) (List.cons_ne_nil _ _)
  have hwrite : bulkSink.write (answering "\x7b\x7d" {}) [quotaRecord] = none :=
    (write_of_exchange rfl (List.cons_ne_nil _ _) hx).trans rfl
  obtain ⟨resp, hx', hstored⟩ := hdurable.stored hwrite
  obtain rfl : ({} : BulkResponse) = resp := Except.ok.inj (hx.symm.trans hx')
  obtain ⟨item, hitem, _⟩ := hstored quotaRecord List.mem_cons_self
  cases hitem

/-- A response that names the document of a record. -/
def createdBody (r : UsageRecord) : String :=
  "\x7b\"errors\":false,\"items\":[\x7b\"create\":\x7b\"_id\":\"" ++ documentKey r ++ "\",\"status\":201\x7d\x7d]\x7d"

theorem writeDurable_iff_created :
    [quotaRecord] ≠ [] ∧ WriteDurable
      (answering (createdBody quotaRecord) { items := [{ create := { id := documentKey quotaRecord, status := 201 } }] })
      bulkSink [quotaRecord] := by
  refine ⟨List.cons_ne_nil _ _, (writeDurable_iff (List.cons_ne_nil _ _)).2 ?_⟩
  intro resp _ hx
  rw [exchange_answering] at hx
  obtain rfl := Except.ok.inj hx
  refine ⟨fun _ r hr => ?_, fun _ => rfl⟩
  rw [List.mem_singleton.1 hr]
  exact ⟨_, List.mem_cons_self, rfl⟩

end SingboxOperator.Usage
