import SingboxOperator.Controller.Acceptance
import SingboxOperator.Controller.UserStatus
import SingboxOperator.Controller.Watches
import SingboxOperator.Lib.Reconcile
/-!
# The Accepted condition at rest

`ExternalOutboundReconciler.Reconcile` read by read: the ExternalOutbound, the
node of its name, its Secret, and the ExternalOutbound once more in
`setAccepted`. It watches its own kind and Secrets. A node of the name is read
and not watched: as long as no node of the name of an ExternalOutbound comes or
goes, the condition of one that neither waits nor is being reconciled is
the verdict on the cluster as it is, and one that comes is not noticed.
-/
open SingboxOperator.Lib

namespace SingboxOperator

/-- Where `Reconcile` is: it has fetched the ExternalOutbound and found its spec
coherent, it has seen no node of the name, or it has come to a verdict. -/
inductive AcceptancePoint
  | specChecked (eob : ExternalOutbound)
  | nameChecked (eob : ExternalOutbound)
  | judged (violation : Option ExternalOutboundViolation)
  | accepted

/-- The first check, right after the ExternalOutbound is fetched. -/
def checkSpec (eob : ExternalOutbound) : AcceptancePoint :=
  match specViolation eob with
  | some violation => .judged (some violation)
  | none => .specChecked eob

def checkName (c : Cluster) (eob : ExternalOutbound) : AcceptancePoint :=
  match nameConflict c eob with
  | some violation => .judged (some violation)
  | none => .nameChecked eob

structure AcceptanceWorld where
  cluster : Cluster
  record : String → StatusRecord

namespace AcceptanceWorld

/-- `setAccepted` on the ExternalOutbound as it is fetched again. -/
def setAccepted (w : AcceptanceWorld) (now : Int) (name : String) (violation : Option ExternalOutboundViolation) :
    AcceptanceWorld :=
  { w with record := Function.update w.record name ((w.record name).set now [acceptedCondition violation]) }

/-- An Update that leaves the object identical emits no event. -/
def statusRequests (w : AcceptanceWorld) (now : Int) (name : String) (violation : Option ExternalOutboundViolation) :
    List String :=
  if w.record name = (w.record name).set now [acceptedCondition violation] then [] else [name]

/-- The condition is the verdict on the cluster as it is. -/
def Current (w : AcceptanceWorld) (e : ExternalOutbound) : Prop :=
  ∃ cond, reconcileExternalOutbound w.cluster e.name = .ok (some cond) ∧ (w.record e.name).Says [cond]

end AcceptanceWorld

/-- One namespace with the queue and the runs of `ExternalOutboundReconciler`. -/
abbrev AcceptanceController := Controller AcceptanceWorld String AcceptancePoint

inductive AcceptanceTransition
  | change (ev : Event)
  | changeSecret (ns secret : String)
  | resync (name : String)
  | gone (name : String)
  | get (name : String)
  | nameConflict (name : String)
  | credentialViolation (name : String)
  | setAccepted (name : String) (now : Int)
  | finish (name : String)
  | fail (name : String)

/-- The watch of the own kind. -/
def externalOutboundRequests : Event → List String
  | .externalOutbound ch _ => [ch.object.name]
  | _ => []

/-- The transitions, in any order. The run fails when the Secret cannot be read,
and when the write finds a conflict. -/
inductive AcceptanceController.Step (s : AcceptanceController) : AcceptanceTransition → AcceptanceController → Prop
  | change {ev : Event} {c' : Cluster} {record : String → StatusRecord} (h : s.world.cluster.Step ev c')
      (hrecord : ∀ name, (∀ ch g, ev = .externalOutbound ch g → ch.object.name ≠ name) →
        record name = s.world.record name) :
      Step s (.change ev) { s with world := ⟨c', record⟩, queue := s.queue ∪ externalOutboundRequests ev }
  | changeSecret {ns secret : String} {result : Except ApiError (GoMap String String)}
      (ha : s.world.cluster.Answers) :
      Step s (.changeSecret ns secret)
        { s with
          world := ⟨s.world.cluster.withSecret ns secret result, s.world.record⟩
          queue := s.queue ∪ credentialsSecretMapper s.world.cluster ns secret }
  | resync {name : String} : Step s (.resync name) { s with queue := s.queue ∪ [name] }
  | gone {name : String} (hidle : s.work name = none) (hq : name ∈ s.queue)
      (hgone : ∀ e ∈ s.world.cluster.externalOutbounds, e.name ≠ name) :
      Step s (.gone name) { s with queue := s.queue.filter (· ≠ name) }
  | get {e : ExternalOutbound} (hidle : s.work e.name = none) (hq : e.name ∈ s.queue)
      (he : e ∈ s.world.cluster.externalOutbounds) :
      Step s (.get e.name)
        { s with
          queue := s.queue.filter (· ≠ e.name)
          work := Function.update s.work e.name (some (checkSpec e)) }
  | nameConflict {name : String} {e : ExternalOutbound} (hw : s.work name = some (.specChecked e)) :
      Step s (.nameConflict name)
        { s with work := Function.update s.work name (some (checkName s.world.cluster e)) }
  | credentialViolation {name : String} {e : ExternalOutbound} {violation : Option ExternalOutboundViolation}
      (hw : s.work name = some (.nameChecked e)) (hread : credentialViolation s.world.cluster e = .ok violation) :
      Step s (.credentialViolation name) { s with work := Function.update s.work name (some (.judged violation)) }
  | setAccepted {name : String} {e : ExternalOutbound} {violation : Option ExternalOutboundViolation} {now : Int}
      (hw : s.work name = some (.judged violation)) (he : e ∈ s.world.cluster.externalOutbounds)
      (hname : e.name = name) :
      Step s (.setAccepted name now)
        { world := s.world.setAccepted now name violation
          queue := s.queue ∪ s.world.statusRequests now name violation
          work := Function.update s.work name (some .accepted) }
  | finish {name : String} (hw : s.work name = some .accepted) :
      Step s (.finish name) { s with work := Function.update s.work name none }
  | fail {name : String} {r : AcceptancePoint} (hw : s.work name = some r) :
      Step s (.fail name) { s with queue := s.queue ∪ [name], work := Function.update s.work name none }

abbrev AcceptanceTrace := List (AcceptanceController × AcceptanceTransition × AcceptanceController)

/-- The operator has just been started: every ExternalOutbound is enqueued. -/
abbrev AcceptanceController.Started (s : AcceptanceController) : Prop :=
  Controller.Started (fun w => w.cluster.externalOutbounds) ExternalOutbound.name s

/-- No node of the name of an ExternalOutbound is created or deleted. -/
def NamesApart (s : AcceptanceController) (a : AcceptanceTransition) : Prop :=
  ∀ ch g n, a = .change (.singBoxNode ch g) → ch = .create n ∨ ch = .delete n →
    ∀ e ∈ s.world.cluster.externalOutbounds, n.name ≠ e.name

/-! ## The verdict -/

section
variable {c c' : Cluster} {e : ExternalOutbound} {violation : ExternalOutboundViolation}
  {found : Option ExternalOutboundViolation}

theorem findExternalOutbound_self (he : e ∈ c.externalOutbounds) :
    findExternalOutbound c.externalOutbounds e.name = some e :=
  find?_eq_some_of_unique he (by simp) fun e' he' hname => Cluster.external_unique he' he (by simpa using hname)

theorem verdict_of_spec (he : e ∈ c.externalOutbounds) (hs : specViolation e = some violation) :
    reconcileExternalOutbound c e.name = .ok (some (acceptedCondition (some violation))) := by
  simp [reconcileExternalOutbound, findExternalOutbound_self he, hs]

theorem verdict_of_name (he : e ∈ c.externalOutbounds) (hs : specViolation e = none)
    (hn : nameConflict c e = some violation) :
    reconcileExternalOutbound c e.name = .ok (some (acceptedCondition (some violation))) := by
  simp [reconcileExternalOutbound, findExternalOutbound_self he, hs, hn]

theorem verdict_of_secret (he : e ∈ c.externalOutbounds) (hs : specViolation e = none) (hn : nameConflict c e = none)
    (hc : credentialViolation c e = .ok found) :
    reconcileExternalOutbound c e.name = .ok (some (acceptedCondition found)) := by
  simp [reconcileExternalOutbound, findExternalOutbound_self he, hs, hn, hc, bind, Except.bind, pure, Except.pure]

theorem credentialViolation_congr {q : ExternalOutbound} (hspec : q.spec = e.spec) :
    credentialViolation c q = credentialViolation c e := by
  simp only [credentialViolation, secretViolation, requiredCredentialKeys, hspec]

theorem nameConflict_congr (hns : c'.ns = c.ns)
    (h : (∀ n ∈ c'.nodes, n.name ≠ e.name) ↔ ∀ n ∈ c.nodes, n.name ≠ e.name) :
    nameConflict c' e = nameConflict c e := by
  have hany : (c'.nodes.any fun n => decide (n.name = e.name)) = c.nodes.any fun n => decide (n.name = e.name) := by
    rw [Bool.eq_iff_iff, ← not_iff_not]
    simpa using h
  rw [nameConflict, nameConflict, hany, hns]

/-- The verdict depends on what is fetched: the ExternalOutbound, whether a node has its name, and its Secret. -/
theorem verdict_congr (he : e ∈ c.externalOutbounds) (he' : e ∈ c'.externalOutbounds)
    (hconflict : nameConflict c' e = nameConflict c e) (hsecret : credentialViolation c' e = credentialViolation c e) :
    reconcileExternalOutbound c' e.name = reconcileExternalOutbound c e.name := by
  simp only [reconcileExternalOutbound, findExternalOutbound_self he, findExternalOutbound_self he', hconflict, hsecret]

end

/-! ## The controller keeps its aim -/

namespace AcceptanceWorld

/-- What a run for the ExternalOutbound has fetched and found is as it is now. -/
def Agrees (w : AcceptanceWorld) (e : ExternalOutbound) : AcceptancePoint → Prop
  | .specChecked q => q.name = e.name ∧ q.spec = e.spec ∧ specViolation e = none
  | .nameChecked q => q.name = e.name ∧ q.spec = e.spec ∧ specViolation e = none ∧ nameConflict w.cluster e = none
  | .judged violation => reconcileExternalOutbound w.cluster e.name = .ok (some (acceptedCondition violation))
  | .accepted => w.Current e

end AcceptanceWorld

def acceptanceAim : Aim AcceptanceWorld String AcceptancePoint :=
  Aim.forEach (fun w => w.cluster.externalOutbounds) ExternalOutbound.name AcceptanceWorld.Current AcceptanceWorld.Agrees

namespace AcceptanceWorld
variable {w w' : AcceptanceWorld} {e : ExternalOutbound} {name : String}

/-- The ExternalOutbound was there before, and what its runs fetch is the same. -/
structure Unchanged (w w' : AcceptanceWorld) (e : ExternalOutbound) : Prop where
  mem : e ∈ w.cluster.externalOutbounds
  record : w'.record e.name = w.record e.name
  conflict : nameConflict w'.cluster e = nameConflict w.cluster e
  verdict : reconcileExternalOutbound w'.cluster e.name = reconcileExternalOutbound w.cluster e.name

theorem Unchanged.current (h : w.Unchanged w' e) (hc : w.Current e) : w'.Current e := by
  obtain ⟨cond, hcond, hsays⟩ := hc
  refine ⟨cond, h.verdict.trans hcond, ?_⟩
  rw [h.record]
  exact hsays

theorem Unchanged.agrees (h : w.Unchanged w' e) {r : AcceptancePoint} (hr : w.Agrees e r) : w'.Agrees e r := by
  cases r with
  | specChecked q => exact hr
  | nameChecked q =>
    obtain ⟨hname, hspec, hviolation, hconflict⟩ := hr
    exact ⟨hname, hspec, hviolation, h.conflict.trans hconflict⟩
  | judged violation => exact h.verdict.trans hr
  | accepted => exact h.current hr

theorem keeps_of_unchanged (h : ∀ e ∈ w'.cluster.externalOutbounds, e.name = name → w.Unchanged w' e) :
    acceptanceAim.Keeps w w' name :=
  Aim.keeps_forEach fun e he hname =>
    ⟨e, (h e he hname).mem, hname, (h e he hname).current, fun _ => (h e he hname).agrees⟩

end AcceptanceWorld

/-- An ExternalOutbound the change does not enqueue sees nothing of it, unless a node of its name comes or goes. -/
theorem Cluster.Step.acceptanceUnchanged {c c' : Cluster} {ev : Event} {record record' : String → StatusRecord}
    (h : c.Step ev c')
    (hrecord : ∀ name, (∀ ch g, ev = .externalOutbound ch g → ch.object.name ≠ name) → record' name = record name)
    {e : ExternalOutbound}
    (hapart : ∀ ch g n, ev = .singBoxNode ch g → ch = .create n ∨ ch = .delete n → n.name ≠ e.name)
    (he : e ∈ c'.externalOutbounds) (hnot : e.name ∉ externalOutboundRequests ev) :
    AcceptanceWorld.Unchanged ⟨c, record⟩ ⟨c', record'⟩ e := by
  cases h with
  | @singBoxNode ch generation nodes hnodup h hspec =>
    have hconflict : nameConflict (c.withNodes nodes hnodup) e = nameConflict c e :=
      nameConflict_congr rfl (h.key_free_iff fun n hn => hapart ch generation n rfl hn)
    exact ⟨he, hrecord _ (by simp), hconflict, verdict_congr he he hconflict rfl⟩
  | @externalOutbound ch generation outbounds hnodup h hspec =>
    have hne : ch.object.name ≠ e.name := by
      intro heq
      exact hnot (by simp [externalOutboundRequests, heq])
    have hmem : e ∈ c.externalOutbounds := by
      rcases h.mem_of_mem he with hobj | hold
      · exact absurd (h.key_eq hobj).symm hne
      · exact hold
    refine ⟨hmem, hrecord _ ?_, rfl, verdict_congr hmem he rfl rfl⟩
    rintro ch' g ⟨⟩
    exact hne
  | egressPolicy | user | userGroup => exact ⟨he, hrecord _ (by simp), rfl, verdict_congr he he rfl rfl⟩

/-- Nor does it see a Secret it does not refer to. -/
theorem AcceptanceWorld.unchanged_withSecret {w : AcceptanceWorld} {ns secret : String}
    {result : Except ApiError (GoMap String String)} (ha : w.cluster.Answers) {e : ExternalOutbound}
    (he : e ∈ w.cluster.externalOutbounds) (hnot : e.name ∉ credentialsSecretMapper w.cluster ns secret) :
    w.Unchanged ⟨w.cluster.withSecret ns secret result, w.record⟩ e := by
  have hother : ∀ ref, e.spec.credentialsSecretRef = some ref → ¬ (w.cluster.ns = ns ∧ ref = secret) := by
    rintro ref href ⟨rfl, rfl⟩
    exact hnot (List.mem_map_of_mem (ha.mem_externalsOfSecret.2 ⟨rfl, he, href⟩))
  have hsecret : credentialViolation (w.cluster.withSecret ns secret result) e = credentialViolation w.cluster e := by
    unfold credentialViolation
    cases href : e.spec.credentialsSecretRef with
    | none => rfl
    | some ref => simp only [if_neg (hother ref href)]
  exact ⟨he, rfl, rfl, verdict_congr he he rfl hsecret⟩

namespace AcceptanceWorld
variable {w : AcceptanceWorld} {e : ExternalOutbound} {name : String} {now : Int}
  {violation : Option ExternalOutboundViolation}

/-- The write of one ExternalOutbound is not seen by another. -/
theorem keeps_setAccepted {name' : String} (hne : name' ≠ name) :
    acceptanceAim.Keeps w (w.setAccepted now name violation) name' := by
  refine keeps_of_unchanged fun e he hname => ⟨he, ?_, rfl, rfl⟩
  exact Function.update_of_ne (hname ▸ hne) ..

/-- A write of the verdict leaves the condition current. -/
theorem current_setAccepted (h : w.Agrees e (.judged violation)) : (w.setAccepted now e.name violation).Current e := by
  refine ⟨acceptedCondition violation, h, ?_⟩
  have hrecord : (w.setAccepted now e.name violation).record e.name =
      (w.record e.name).set now [acceptedCondition violation] := Function.update_self ..
  rw [hrecord]
  exact StatusRecord.says_set _ _ (List.nodup_singleton _)

end AcceptanceWorld

/-- As long as names are kept apart, every transition is a step of a controller that aims at current conditions. -/
theorem AcceptanceController.Step.towards {s s' : AcceptanceController} {a : AcceptanceTransition} (h : s.Step a s')
    (hapart : NamesApart s a) : Controller.Step acceptanceAim s s' := by
  cases h with
  | change h hrecord =>
    refine .change fun name hnot => AcceptanceWorld.keeps_of_unchanged fun e he hname => ?_
    subst hname
    refine h.acceptanceUnchanged hrecord (fun ch g n hev hch => ?_) he hnot
    subst hev
    exact hapart ch g n rfl hch e (by cases h; exact he)
  | changeSecret ha =>
    refine .change fun name hnot => AcceptanceWorld.keeps_of_unchanged fun e he hname => ?_
    exact AcceptanceWorld.unchanged_withSecret ha he (hname ▸ hnot)
  | resync => exact .change fun _ _ => .refl ..
  | gone hidle _ hgone => exact .skip hidle fun e he hname => absurd hname (hgone e he)
  | @get e hidle _ he =>
    refine .start fun q hq hname => ?_
    obtain rfl : q = e := Cluster.external_unique hq he hname
    unfold checkSpec
    cases hs : specViolation q with
    | some violation => exact verdict_of_spec he hs
    | none => exact ⟨rfl, rfl, hs⟩
  | @nameConflict name e hw =>
    refine .read hw fun hcourse q hq hname => ?_
    obtain ⟨hqname, hqspec, hs⟩ := hcourse q hq hname
    have hconflict :
        SingboxOperator.nameConflict s.world.cluster e = SingboxOperator.nameConflict s.world.cluster q := by
      rw [SingboxOperator.nameConflict, SingboxOperator.nameConflict, hqname]
    rw [checkName, hconflict]
    cases hn : SingboxOperator.nameConflict s.world.cluster q with
    | some violation => exact verdict_of_name hq hs hn
    | none => exact ⟨hqname, hqspec, hs, hn⟩
  | @credentialViolation name e violation hw hread =>
    refine .read hw fun hcourse q hq hname => ?_
    obtain ⟨hqname, hqspec, hs, hn⟩ := hcourse q hq hname
    exact verdict_of_secret hq hs hn (credentialViolation_congr hqspec ▸ hread)
  | @setAccepted name e violation now hw he hname =>
    subst hname
    refine .write hw (fun hcourse => .inr fun q hq hname => ?_) fun name hne _ => AcceptanceWorld.keeps_setAccepted hne
    rw [← hname]
    exact AcceptanceWorld.current_setAccepted (hcourse q hq hname)
  | finish hw => exact .finish hw id
  | fail => exact .retry

/-! ## At rest -/

theorem AcceptanceController.tracked_of_run {s₀ s : AcceptanceController} {trace : AcceptanceTrace}
    (h : Run AcceptanceController.Step s₀ trace s) (hstart : s₀.Started)
    (hapart : ∀ x ∈ trace, NamesApart x.1 x.2.1) : s.Tracked acceptanceAim :=
  Controller.tracked_of_run h (Controller.Started.tracked hstart) (fun _ _ _ hs hp => hs.towards hp) hapart

/-- What an undisturbed pass does that comes to look at the Secret. -/
def acceptancePass (name : String) (now : Int) : List AcceptanceTransition :=
  [.get name, .nameConflict name, .credentialViolation name, .setAccepted name now, .finish name]

theorem AcceptanceController.run_pass {s : AcceptanceController} {e : ExternalOutbound}
    (he : e ∈ s.world.cluster.externalOutbounds) (hq : e.name ∈ s.queue) (hidle : s.work e.name = none)
    (hspec : specViolation e = none) (hname : SingboxOperator.nameConflict s.world.cluster e = none)
    {violation : Option ExternalOutboundViolation}
    (hsecret : SingboxOperator.credentialViolation s.world.cluster e = .ok violation) (now : Int) :
    ∃ trace s', Run Step s trace s' ∧ trace.map (·.2.1) = acceptancePass e.name now ∧
      s'.world = s.world.setAccepted now e.name violation ∧
      (e.name ∈ s'.queue ↔ e.name ∈ s.world.statusRequests now e.name violation) ∧ s'.work e.name = none := by
  let s₁ : AcceptanceController :=
    { s with
      queue := s.queue.filter (· ≠ e.name)
      work := Function.update s.work e.name (some (.specChecked e)) }
  have hget : s.Step (.get e.name) s₁ := by
    have h := Step.get hidle hq he
    rwa [checkSpec, hspec] at h
  let s₂ : AcceptanceController := { s₁ with work := Function.update s₁.work e.name (some (.nameChecked e)) }
  have hnamed : s₁.Step (.nameConflict e.name) s₂ := by
    have h := Step.nameConflict (s := s₁) (Function.update_self ..)
    rwa [checkName, hname] at h
  have hread := ((Run.single hget).snoc hnamed).snoc (Step.credentialViolation (Function.update_self ..) hsecret)
  have hwritten := hread.snoc (@Step.setAccepted _ e.name e violation now (Function.update_self ..) he rfl)
  refine ⟨_, _, hwritten.snoc (.finish (Function.update_self ..)), rfl, rfl, ?_, Function.update_self ..⟩
  simp [s₂, s₁, List.mem_union_iff]

/-- In every run in which no node of the name of an ExternalOutbound comes or
goes, the condition of one that neither waits nor is being reconciled is
the verdict on the cluster as it is. -/
theorem accepted_current {s₀ s : AcceptanceController} {trace : AcceptanceTrace}
    (h : Run AcceptanceController.Step s₀ trace s) (hstart : s₀.Started) (hapart : ∀ x ∈ trace, NamesApart x.1 x.2.1)
    {e : ExternalOutbound} (he : e ∈ s.world.cluster.externalOutbounds) (hq : e.name ∉ s.queue)
    (hidle : s.work e.name = none) : s.world.Current e :=
  (AcceptanceController.tracked_of_run h hstart hapart).settled hq hidle e he rfl

theorem exists_acceptedCondition {c : Cluster} {name : String} {cond : StatusCondition}
    (h : reconcileExternalOutbound c name = .ok (some cond)) : ∃ violation, cond = acceptedCondition violation := by
  unfold reconcileExternalOutbound at h
  cases hf : findExternalOutbound c.externalOutbounds name with
  | none => simp [hf] at h
  | some e =>
    cases hv : (specViolation e).or (nameConflict c e) with
    | some violation => exact ⟨some violation, by simpa [hf, hv] using h.symm⟩
    | none =>
      cases hc : credentialViolation c e with
      | error err => simp [hf, hv, hc, bind, Except.bind] at h
      | ok violation => exact ⟨violation, by simpa [hf, hv, hc, bind, Except.bind, pure, Except.pure] using h.symm⟩

theorem acceptedCondition_type (violation : Option ExternalOutboundViolation) :
    (acceptedCondition violation).type = "Accepted" := by
  cases violation <;> rfl

/-- What the stored condition of the type `Accepted` says. -/
def AcceptanceWorld.shows (w : AcceptanceWorld) (name : String) : Option StatusCondition :=
  ((w.record name).conditions.find? fun cond => cond.type = "Accepted").map MetaCondition.toStatusCondition

theorem AcceptanceWorld.Current.shows_eq {w : AcceptanceWorld} {e : ExternalOutbound} (h : w.Current e) :
    ∃ cond, reconcileExternalOutbound w.cluster e.name = .ok (some cond) ∧ w.shows e.name = some cond := by
  obtain ⟨cond, hverdict, hsays⟩ := h
  obtain ⟨violation, rfl⟩ := exists_acceptedCondition hverdict
  obtain ⟨stored, hfind, hstored, _⟩ := hsays.conditions _ (List.mem_singleton_self _)
  rw [acceptedCondition_type] at hfind
  exact ⟨_, hverdict, by rw [shows, hfind, Option.map_some, hstored]⟩

/-- In a run in which names are kept apart, an ExternalOutbound at rest whose
condition says True is an outbound of every inbound node of its region that
admits it. -/
theorem accepted_rendered [Library] [MapOrder] {s₀ s : AcceptanceController} {trace : AcceptanceTrace}
    (h : Run AcceptanceController.Step s₀ trace s) (hstart : s₀.Started) (hapart : ∀ x ∈ trace, NamesApart x.1 x.2.1)
    {e : ExternalOutbound} (he : e ∈ s.world.cluster.externalOutbounds) (hq : e.name ∉ s.queue)
    (hidle : s.work e.name = none) {cond : StatusCondition} (hcond : s.world.shows e.name = some cond)
    (htrue : cond.status = "True") {flags : Flags} {I : SingBoxNode} {input : Input}
    (hinput : collectInput flags s.world.cluster I = .ok input) (hI : I ∈ s.world.cluster.nodes)
    (hi : I.hasRole .inbound = true) (hgate : I.PassesGate e) :
    s.world.cluster.externalEntry e ∈ (computeConfig input).outbounds := by
  have hcurrent := (AcceptanceController.tracked_of_run h hstart hapart).settled hq hidle e he rfl
  obtain ⟨cond', hverdict, hshows⟩ := hcurrent.shows_eq
  obtain rfl : cond' = cond := Option.some.inj (hshows.symm.trans hcond)
  obtain ⟨violation, hviolation⟩ := exists_acceptedCondition hverdict
  have haccepted : Accepted s.world.cluster e :=
    ⟨cond', hverdict, hviolation ▸ acceptedCondition_type violation, htrue⟩
  obtain ⟨hreq, hcoherent⟩ := (Cluster.accepted_iff_coherent he).1 haccepted
  rw [collectInput_ok hinput]
  exact (Cluster.externalEntry_mem_iff hI hi he hgate).2 ⟨hreq, .inl hcoherent.name_free⟩

/-! ## A node takes the name -/

/-- The ExternalOutbound is at rest and its condition says True. -/
structure AcceptanceController.RestsAccepted (s : AcceptanceController) (e : ExternalOutbound) : Prop where
  mem : e ∈ s.world.cluster.externalOutbounds
  not_queued : e.name ∉ s.queue
  idle : s.work e.name = none
  shows : s.world.shows e.name = some (acceptedCondition none)

/-- What a transition asks for without a run of the name going on. -/
def AcceptanceController.requests (s : AcceptanceController) : AcceptanceTransition → List String
  | .change ev => externalOutboundRequests ev
  | .changeSecret ns secret => credentialsSecretMapper s.world.cluster ns secret
  | .resync name => [name]
  | _ => []

namespace AcceptanceController
variable {s s' : AcceptanceController} {a : AcceptanceTransition} {e : ExternalOutbound} {trace : AcceptanceTrace}

theorem ne_of_work {name name' : String} {r : AcceptancePoint} (hidle : s.work name = none)
    (hw : s.work name' = some r) : name ≠ name' := by
  rintro rfl
  simp [hidle] at hw

/-- One that is at rest, and that nothing asks for, is left as it is. -/
theorem Step.restsAccepted (h : s.Step a s') (hrests : s.RestsAccepted e) (hnot : e.name ∉ s.requests a) :
    s'.RestsAccepted e := by
  obtain ⟨hmem, hq, hidle, hshows⟩ := hrests
  have hqueue : ∀ {names : List String}, e.name ∉ names → e.name ∉ s.queue ∪ names := by
    intro names hnames
    simp [hq, hnames]
  cases h with
  | @change ev c' record h hrecord =>
    have hother : ∀ ch g, ev = .externalOutbound ch g → ch.object.name ≠ e.name := by
      rintro ch g rfl heq
      exact hnot (List.mem_singleton.2 heq.symm)
    refine ⟨?_, hqueue hnot, hidle, ?_⟩
    · cases h with
      | @externalOutbound ch generation outbounds hnodup h hspec =>
        refine (h.mem_new hmem).resolve_left fun hobj => ?_
        exact hother ch generation rfl (h.key_eq hobj).symm
      | singBoxNode | egressPolicy | user | userGroup => exact hmem
    · simpa only [AcceptanceWorld.shows, hrecord e.name hother] using hshows
  | changeSecret => exact ⟨hmem, hqueue hnot, hidle, hshows⟩
  | resync => exact ⟨hmem, hqueue hnot, hidle, hshows⟩
  | gone => exact ⟨hmem, by simp [hq], hidle, hshows⟩
  | @get e' _ hq' _ =>
    have hne : e.name ≠ e'.name := fun heq => hq (heq ▸ hq')
    exact ⟨hmem, by simp [hq], (Function.update_of_ne hne ..).trans hidle, hshows⟩
  | nameConflict hw | credentialViolation hw | finish hw =>
    exact ⟨hmem, hq, (Function.update_of_ne (ne_of_work hidle hw) ..).trans hidle, hshows⟩
  | @setAccepted name e' violation now hw _ _ =>
    have hne := ne_of_work hidle hw
    refine ⟨hmem, hqueue fun hreq => ?_, (Function.update_of_ne hne ..).trans hidle, ?_⟩
    · unfold AcceptanceWorld.statusRequests at hreq
      split_ifs at hreq
      · cases hreq
      · exact hne (List.mem_singleton.1 hreq)
    · simpa only [AcceptanceWorld.shows, AcceptanceWorld.setAccepted, Function.update_of_ne hne] using hshows
  | fail hw =>
    have hne := ne_of_work hidle hw
    exact ⟨hmem, hqueue (by simpa using hne), (Function.update_of_ne hne ..).trans hidle, hshows⟩

theorem restsAccepted_of_run (h : Run Step s trace s') (hrests : s.RestsAccepted e)
    (hnot : ∀ x ∈ trace, e.name ∉ x.1.requests x.2.1) : s'.RestsAccepted e :=
  (h.invariant hrests (fun _ _ _ hs hnot hrests => hs.restsAccepted hrests hnot) hnot).1

theorem restsAccepted_of_current (he : e ∈ s.world.cluster.externalOutbounds) (hq : e.name ∉ s.queue)
    (hidle : s.work e.name = none) (hcurrent : s.world.Current e) (haccepted : Accepted s.world.cluster e) :
    s.RestsAccepted e := by
  obtain ⟨cond, hverdict, hshows⟩ := hcurrent.shows_eq
  obtain ⟨hspec, hfree, hsecret⟩ := (accepted_iff he).1 haccepted
  obtain rfl : cond = acceptedCondition none :=
    Option.some.inj (Except.ok.inj (hverdict.symm.trans
      (verdict_of_secret he hspec (nameConflict_eq_none.2 hfree) hsecret)))
  exact ⟨he, hq, hidle, hshows⟩

end AcceptanceController

/-- A node that is created under the name of an accepted ExternalOutbound at
rest is not noticed: the verdict is now a conflict of names. It stays at rest and
its condition goes on saying True, however the run goes on, until it changes
itself, or its Secret does, or it is asked for without a reason. -/
theorem nameConflict_unnoticed {s s₁ : AcceptanceController} {n : SingBoxNode} {generation : Bool}
    (h : s.Step (.change (.singBoxNode (.create n) generation)) s₁) {e : ExternalOutbound}
    (he : e ∈ s.world.cluster.externalOutbounds) (hname : n.name = e.name) (hq : e.name ∉ s.queue)
    (hidle : s.work e.name = none) (hcurrent : s.world.Current e) (haccepted : Accepted s.world.cluster e) :
    (∃ message, reconcileExternalOutbound s₁.world.cluster e.name =
        .ok (some (acceptedCondition (some ⟨"NameConflict", message⟩)))) ∧
      ∀ trace s', Run AcceptanceController.Step s₁ trace s' → (∀ x ∈ trace, e.name ∉ x.1.requests x.2.1) →
        e.name ∉ s'.queue ∧ s'.work e.name = none ∧ s'.world.shows e.name = some (acceptedCondition none) ∧
          ((∃ m ∈ s'.world.cluster.nodes, m.name = e.name) →
            ∃ message, reconcileExternalOutbound s'.world.cluster e.name =
              .ok (some (acceptedCondition (some ⟨"NameConflict", message⟩)))) := by
  obtain ⟨hspec, _, _⟩ := (accepted_iff he).1 haccepted
  have hverdict : ∀ {t : AcceptanceController}, t.RestsAccepted e → (∃ m ∈ t.world.cluster.nodes, m.name = e.name) →
      ∃ message, reconcileExternalOutbound t.world.cluster e.name =
        .ok (some (acceptedCondition (some ⟨"NameConflict", message⟩))) := by
    rintro t hrests ⟨m, hm, hm'⟩
    exact ⟨_, verdict_of_name hrests.mem hspec (if_pos (List.any_eq_true.2 ⟨m, hm, by simpa using hm'⟩))⟩
  have hrests : s₁.RestsAccepted e :=
    h.restsAccepted (AcceptanceController.restsAccepted_of_current he hq hidle hcurrent haccepted) List.not_mem_nil
  have hn : n ∈ s₁.world.cluster.nodes := by
    cases h with
    | change h _ =>
      cases h with
      | singBoxNode _ h _ => exact h.mem_create
  refine ⟨hverdict hrests ⟨n, hn, hname⟩, fun trace s' hrun hnot => ?_⟩
  have hrests' := AcceptanceController.restsAccepted_of_run hrun hrests hnot
  exact ⟨hrests'.not_queued, hrests'.idle, hrests'.shows, hverdict hrests'⟩

/-! ### An ExternalOutbound with a cipher that is on the list -/

section
attribute [local instance] plainLibrary storedOrder

theorem legacy_accepted : Accepted (borderCluster "aes-128-gcm") legacy :=
  (Cluster.accepted_iff_coherent (List.mem_singleton_self _)).2 ⟨by decide, legacy_coherent⟩

/-- The operator is started anew, with the condition in place. -/
def legacyRestarted : AcceptanceController where
  world :=
    { cluster := borderCluster "aes-128-gcm"
      record := fun _ => StatusRecord.set ⟨1, 0, []⟩ 0 [acceptedCondition none] }
  queue := ["legacy"]
  work := fun _ => none

theorem legacyRestarted_started : legacyRestarted.Started :=
  ⟨fun e he => by rw [List.mem_singleton.1 he]; exact List.mem_singleton_self _, fun _ => rfl⟩

/-- A pass over `legacy` that is not disturbed changes nothing. -/
theorem legacyRestarted_pass :
    ∃ trace s, Run AcceptanceController.Step legacyRestarted trace s ∧
      trace.map (·.2.1) = acceptancePass "legacy" 5 ∧ s.world.cluster = borderCluster "aes-128-gcm" ∧
      s.world.shows "legacy" = some (acceptedCondition none) ∧ "legacy" ∉ s.queue ∧ s.work "legacy" = none := by
  have hmem : legacy ∈ legacyRestarted.world.cluster.externalOutbounds := List.mem_singleton_self _
  obtain ⟨hspec, hfree, hsecret⟩ := (accepted_iff hmem).1 legacy_accepted
  obtain ⟨trace, s, hrun, hactions, hworld, hqueue, hidle⟩ := AcceptanceController.run_pass hmem
    (List.mem_singleton_self _) rfl hspec (nameConflict_eq_none.2 hfree) hsecret 5
  refine ⟨trace, s, hrun, hactions, by rw [hworld]; rfl, by rw [hworld]; rfl, ?_, hidle⟩
  intro hq
  exact absurd (hqueue.1 hq) (by decide)

/-- A pass keeps names apart. -/
theorem namesApart_of_pass {trace : AcceptanceTrace} {name : String} {now : Int}
    (h : trace.map (·.2.1) = acceptancePass name now) : ∀ x ∈ trace, NamesApart x.1 x.2.1 := by
  intro x hx ch g n hchange
  have hmem : x.2.1 ∈ acceptancePass name now := h ▸ List.mem_map_of_mem hx
  rw [hchange] at hmem
  simp [acceptancePass] at hmem

theorem accepted_current_legacy :
    ∃ trace s, Run AcceptanceController.Step legacyRestarted trace s ∧ trace ≠ [] ∧ s.world.Current legacy := by
  obtain ⟨trace, s, hrun, hactions, hcluster, _, hq, hidle⟩ := legacyRestarted_pass
  have he : legacy ∈ s.world.cluster.externalOutbounds := by rw [hcluster]; exact List.mem_singleton_self _
  refine ⟨trace, s, hrun, (by rintro rfl; cases hactions), ?_⟩
  exact accepted_current hrun legacyRestarted_started (namesApart_of_pass hactions) he hq hidle

theorem accepted_rendered_legacy :
    ∃ trace s, Run AcceptanceController.Step legacyRestarted trace s ∧ trace ≠ [] ∧
      s.world.cluster.externalEntry legacy ∈ (computeConfig (s.world.cluster.view {} border)).outbounds := by
  obtain ⟨trace, s, hrun, hactions, hcluster, hshows, hq, hidle⟩ := legacyRestarted_pass
  have he : legacy ∈ s.world.cluster.externalOutbounds := by rw [hcluster]; exact List.mem_singleton_self _
  have hI : border ∈ s.world.cluster.nodes := by rw [hcluster]; exact List.mem_singleton_self _
  have hinput : collectInput {} s.world.cluster border = .ok (s.world.cluster.view {} border) := by
    rw [hcluster]
    exact border_collected _
  refine ⟨trace, s, hrun, (by rintro rfl; cases hactions), ?_⟩
  exact accepted_rendered hrun legacyRestarted_started (namesApart_of_pass hactions) he hq hidle hshows rfl
    hinput hI (by decide) border_passesGate

/-- A node that takes the name of `legacy`. -/
def legacyNamesake : SingBoxNode := { border with metadata := legacy.metadata }

theorem legacyNamesake_nodup : ([border, legacyNamesake].map SingBoxNode.name).Nodup := by decide

def legacyAtRest : AcceptanceController := { legacyRestarted with queue := [] }

def legacyTaken : AcceptanceController :=
  { legacyAtRest with
    world := ⟨(borderCluster "aes-128-gcm").withNodes _ legacyNamesake_nodup, legacyAtRest.world.record⟩ }

theorem legacyNamesake_created :
    legacyAtRest.Step (.change (.singBoxNode (.create legacyNamesake) true)) legacyTaken :=
  .change (.singBoxNode legacyNamesake_nodup (.create _ [border] []) fun _ _ h => nomatch h) fun _ _ => rfl

/-- The node goes on to be reconciled. -/
theorem legacyNamesake_touched :
    legacyTaken.Step (.change (.singBoxNode (.update legacyNamesake legacyNamesake) false)) legacyTaken :=
  .change (.singBoxNode legacyNamesake_nodup (.update _ _ [border] [] rfl) fun _ _ h _ => by cases h; rfl)
    fun _ _ => rfl

theorem legacyAtRest_current : legacyAtRest.world.Current legacy := by
  have hmem : legacy ∈ legacyAtRest.world.cluster.externalOutbounds := List.mem_singleton_self _
  obtain ⟨hspec, hfree, hsecret⟩ := (accepted_iff hmem).1 legacy_accepted
  exact ⟨_, verdict_of_secret hmem hspec (nameConflict_eq_none.2 hfree) hsecret,
    StatusRecord.says_set _ _ (List.nodup_singleton _)⟩

theorem nameConflict_unnoticed_legacy :
    ∃ trace s', Run AcceptanceController.Step legacyTaken trace s' ∧
      trace.map (·.2.1) = [.change (.singBoxNode (.update legacyNamesake legacyNamesake) false)] ∧
      "legacy" ∉ s'.queue ∧ s'.world.shows "legacy" = some (acceptedCondition none) ∧
      ∃ message, reconcileExternalOutbound s'.world.cluster "legacy" =
        .ok (some (acceptedCondition (some ⟨"NameConflict", message⟩))) := by
  have hrun := Run.single legacyNamesake_touched
  obtain ⟨hq, _, hshows, hverdict⟩ := (nameConflict_unnoticed legacyNamesake_created (List.mem_singleton_self _) rfl
    List.not_mem_nil rfl legacyAtRest_current legacy_accepted).2 _ _ hrun
    (by rintro x (_ | ⟨_, ⟨⟩⟩); exact List.not_mem_nil)
  exact ⟨_, _, hrun, rfl, hq, hshows, hverdict ⟨legacyNamesake, by simp [legacyTaken], rfl⟩⟩

end

end SingboxOperator
