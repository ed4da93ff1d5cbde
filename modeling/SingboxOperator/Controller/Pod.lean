import SingboxOperator.Controller.View
import SingboxOperator.Controller.Watches
import SingboxOperator.Lib.Runs
/-!
# The Pod of a node

`SingBoxNodeReconciler.Reconcile` for one node: the ConfigMap it writes and the
Pod it creates, keeps or deletes. Whether a Pod is kept is decided by an
annotation with the hash of the config alone, while the Pod also depends on
the host, the resources, the TLS Secret and the flags of the operator.
-/
open SingboxOperator.Lib

namespace SingboxOperator

def configMapSuffix : String := "-config"
def podSuffix : String := "-sing-box-server"
def configHashAnnotation : String := "singboxoperator.shlande.top/config-hash"
def defaultSingBoxImage : String := "ghcr.io/sagernet/sing-box:latest"
def podTemplateVersion : Nat := 2

/-! ## Kubernetes objects -/

structure ResourceRequirements where
  limits : GoMap String String := ∅
  requests : GoMap String String := ∅
  claims : List String := []
  deriving DecidableEq

structure VolumeMount where
  name : String
  mountPath : String
  readOnly : Bool := false
  deriving DecidableEq, Repr

inductive VolumeSource
  | configMap (name : String)
  | secret (secretName : String) (items : List (String × String))
  deriving DecidableEq, Repr

structure Volume where
  name : String
  source : VolumeSource
  deriving DecidableEq, Repr

structure Container where
  name : String
  image : String
  args : List String
  volumeMounts : List VolumeMount
  resources : ResourceRequirements
  deriving DecidableEq

structure PodSpec where
  hostNetwork : Bool
  dnsPolicy : String
  nodeSelector : Labels
  restartPolicy : String
  containers : List Container
  volumes : List Volume
  deriving DecidableEq

structure Pod where
  name : String
  labels : Labels
  annotations : Labels
  owner : String
  /-- `deletionTimestamp` is set. -/
  deleting : Bool := false
  spec : PodSpec
  deriving DecidableEq

def Pod.configHash (pod : Pod) : String := pod.annotations.get configHashAnnotation ""

/-! ## The node and the operator -/

/-- A node with what only the reconciler of its Pod reads. -/
structure HostedNode extends SingBoxNode where
  nodeRef : String
  tlsSecretName : String := ""
  resources : Option ResourceRequirements := none
  finalizer : Bool := false
  deleting : Bool := false

structure OperatorFlags extends Flags where
  singBoxImage : String := ""
  defaultTLSSecret : String := ""

def OperatorFlags.singboxImage (flags : OperatorFlags) : String :=
  if flags.singBoxImage ≠ "" then flags.singBoxImage else defaultSingBoxImage

def needsTLS (node : SingBoxNode) : Bool :=
  node.spec.supportedProtocols.any fun p => p.protocol ∈ [.hysteria2, .tuic, .naive, .anytls]

def resourcesOrDefault (r : Option ResourceRequirements) : ResourceRequirements := r.getD {}

/-- The Secret to mount, none when the node needs no TLS or there is no Secret to take. -/
def tlsSecret (flags : OperatorFlags) (node : HostedNode) : Option String :=
  if needsTLS node.toSingBoxNode then
    let tlsSecret := if node.tlsSecretName = "" then flags.defaultTLSSecret else node.tlsSecretName
    if tlsSecret ≠ "" then some tlsSecret else none
  else none

def volumeMounts (flags : OperatorFlags) (node : HostedNode) : List VolumeMount :=
  { name := "config", mountPath := "/etc/sing-box" } ::
    (tlsSecret flags node).toList.map fun _ => { name := "tls", mountPath := "/etc/sing-box/tls", readOnly := true }

def volumes (flags : OperatorFlags) (node : HostedNode) : List Volume :=
  { name := "config", source := .configMap (node.name ++ configMapSuffix) } ::
    (tlsSecret flags node).toList.map fun secret =>
      { name := "tls", source := .secret secret [("tls.crt", "tls.crt"), ("tls.key", "tls.key")] }

def desiredHash (configHash : String) : String := configHash ++ "-" ++ toString podTemplateVersion

/-- The Pod `reconcilePod` creates. -/
def newPod (flags : OperatorFlags) (node : HostedNode) (configHash : String) : Pod where
  name := node.name ++ podSuffix
  labels := ((∅ : Labels).insert "app" "singbox").insert "singboxnode" node.name
  annotations := (∅ : Labels).insert configHashAnnotation (desiredHash configHash)
  owner := node.name
  spec :=
    { hostNetwork := true
      dnsPolicy := "ClusterFirstWithHostNet"
      nodeSelector := (∅ : Labels).insert "kubernetes.io/hostname" node.nodeRef
      restartPolicy := "Always"
      containers :=
        [{ name := "singbox"
           image := flags.singboxImage
           args := ["run", "-c", "/etc/sing-box/config.json"]
           volumeMounts := volumeMounts flags node
           resources := resourcesOrDefault node.resources }]
      volumes := volumes flags node }

@[simp] theorem configHash_newPod (flags : OperatorFlags) (node : HostedNode) (configHash : String) :
    (newPod flags node configHash).configHash = desiredHash configHash := GoMap.get_insert_self _ _ _ _

/-! ## One run -/

/-- What the cluster answers to the calls of a run that write, and to the one
that looks for the Pod: the errors, the credential a run would generate, and
whether a Pod that is deleted is gone at once. -/
structure Calls where
  update : Option String := none
  username : String := ""
  password : Except String String := .ok ""
  createSecret : Option String := none
  configMap : Option String := none
  getPod : Option String := none
  deletePod : Option String := none
  goneAtOnce : Bool := false
  createPod : Option String := none
  services : Option String := none
  updateStatus : Option String := none

inductive Outcome
  | done
  | requeue
  | requeueAfter (seconds : Nat)
  | failed (err : String)
  deriving DecidableEq, Repr

/-- One node with its objects, the rest of its namespace and the operator. -/
structure Site where
  cluster : Cluster
  node : HostedNode
  flags : OperatorFlags
  configMap : Option Output
  pod : Option Pod

def ensureCredential (c : Cluster) (node : SingBoxNode) (calls : Calls) : Except String Cluster :=
  if node.hasRole .outbound then
    match c.secret c.ns (secretName node.name) with
    | .ok _ => .ok c
    | .error e =>
      if !e.notFound then .error ("getting relay credential secret: " ++ e.message)
      else
        match calls.password, calls.createSecret with
        | .error err, _ => .error ("generating password: " ++ err)
        | .ok _, some err => .error ("creating relay credential secret: " ++ err)
        | .ok password, none =>
          let data := ((∅ : GoMap String String).insert "username" calls.username).insert "password" password
          .ok (c.withSecret c.ns (secretName node.name) (.ok data))
  else .ok c

namespace Site

def handleDeletion (s : Site) (calls : Calls) : Site × Outcome :=
  if s.node.finalizer then
    match calls.update with
    | some err => (s, .failed err)
    | none => ({ s with node := { s.node with finalizer := false } }, .done)
  else (s, .done)

/-- Whether to requeue. A Pod with another annotation is deleted first and
replaced on a later pass. -/
def reconcilePod (s : Site) (configHash : String) (calls : Calls) : Site × Except String Bool :=
  match calls.getPod with
  | some err => (s, .error err)
  | none =>
    match s.pod with
    | some existing =>
      if existing.configHash = desiredHash configHash then (s, .ok false)
      else
        match calls.deletePod with
        | some err => (s, .error err)
        | none => ({ s with pod := if calls.goneAtOnce then none else some { existing with deleting := true } }, .ok true)
    | none =>
      match calls.createPod with
      | some err => (s, .error err)
      | none => ({ s with pod := some (newPod s.flags s.node configHash) }, .ok false)

section
variable [Library] [MapOrder]

/-- `Reconcile`, for a node that exists and without the condition on its host.
What a failed run has written stays. -/
def reconcile (s : Site) (calls : Calls) : Site × Outcome :=
  if s.node.deleting then s.handleDeletion calls
  else if !s.node.finalizer then
    match calls.update with
    | some err => (s, .failed err)
    | none => ({ s with node := { s.node with finalizer := true } }, .requeue)
  else
    match ensureCredential s.cluster s.node.toSingBoxNode calls with
    | .error err => (s, .failed err)
    | .ok cluster =>
      let s := { s with cluster := cluster }
      match collectInput s.flags.toFlags s.cluster s.node.toSingBoxNode with
      | .error err => (s, .failed err)
      | .ok input =>
        let output := compute input
        match calls.configMap with
        | some err => (s, .failed err)
        | none =>
          match { s with configMap := some output }.reconcilePod output.hash calls with
          | (s, .error err) => (s, .failed err)
          | (s, .ok true) => (s, .requeueAfter 3)
          | (s, .ok false) =>
            match calls.services, calls.updateStatus with
            | some err, _ => (s, .failed ("deleting orphan services: " ++ err))
            | none, some err => (s, .failed err)
            | none, none => (s, .done)

end

end Site

/-! ## Runs of the system -/

inductive SiteAction
  | edit (node : HostedNode) (cluster : Cluster)
  | restart (flags : OperatorFlags)
  | terminate
  | removed
  | reconcile (calls : Calls)

section
variable [Library] [MapOrder]

/-- Objects are edited, the operator is restarted with other flags, the Pod is
deleted by somebody and is gone some time later, or the node is reconciled. -/
inductive Site.Step : Site → SiteAction → Site → Prop
  | edit {s : Site} {node : HostedNode} {cluster : Cluster} (hname : node.name = s.node.name) :
      Step s (.edit node cluster) { s with node := node, cluster := cluster }
  | restart {s : Site} {flags : OperatorFlags} : Step s (.restart flags) { s with flags := flags }
  | terminate {s : Site} {pod : Pod} (h : s.pod = some pod) :
      Step s .terminate { s with pod := some { pod with deleting := true } }
  | removed {s : Site} {pod : Pod} (h : s.pod = some pod) (hdel : pod.deleting = true) :
      Step s .removed { s with pod := none }
  | reconcile {s : Site} {calls : Calls} : Step s (.reconcile calls) (s.reconcile calls).1

end

/-- The parts of a Pod that follow the node, the flags and the config. -/
structure Pod.Matches (pod desired : Pod) : Prop where
  nodeSelector : pod.spec.nodeSelector = desired.spec.nodeSelector
  images : pod.spec.containers.map Container.image = desired.spec.containers.map Container.image
  resources : pod.spec.containers.map Container.resources = desired.spec.containers.map Container.resources
  volumeMounts : pod.spec.containers.map Container.volumeMounts = desired.spec.containers.map Container.volumeMounts
  volumes : pod.spec.volumes = desired.spec.volumes
  configHash : pod.configHash = desired.configHash

namespace Pod.Matches
variable {pod pod' pod'' : Pod}

theorem rfl : pod.Matches pod := ⟨Eq.refl _, Eq.refl _, Eq.refl _, Eq.refl _, Eq.refl _, Eq.refl _⟩

theorem trans (h : pod.Matches pod') (h' : pod'.Matches pod'') : pod.Matches pod'' :=
  ⟨h.nodeSelector.trans h'.nodeSelector, h.images.trans h'.images, h.resources.trans h'.resources,
    h.volumeMounts.trans h'.volumeMounts, h.volumes.trans h'.volumes, h.configHash.trans h'.configHash⟩

/-- Only the annotation of a new Pod depends on the hash. -/
theorem of_configHash {flags : OperatorFlags} {node : HostedNode} {hash hash' : String}
    (h : pod.Matches (newPod flags node hash)) (heq : pod.configHash = desiredHash hash') :
    pod.Matches (newPod flags node hash') :=
  { h with configHash := heq.trans (configHash_newPod flags node hash').symm }

end Pod.Matches

/-- What a new Pod takes from the flags and the node, the name apart. -/
structure SameTemplate (flags : OperatorFlags) (node : HostedNode) (flags' : OperatorFlags) (node' : HostedNode) :
    Prop where
  nodeRef : node'.nodeRef = node.nodeRef
  image : flags'.singboxImage = flags.singboxImage
  resources : resourcesOrDefault node'.resources = resourcesOrDefault node.resources
  tlsSecret : tlsSecret flags' node' = tlsSecret flags node

theorem matches_newPod_iff {flags flags' : OperatorFlags} {node node' : HostedNode} {hash : String}
    (hname : node'.name = node.name) :
    (newPod flags node hash).Matches (newPod flags' node' hash) ↔ SameTemplate flags node flags' node' := by
  constructor
  · intro h
    have hhost := congrArg (GoMap.get · "kubernetes.io/hostname" "") h.nodeSelector
    have hvolumes := h.volumes
    simp only [newPod, GoMap.get_insert_self] at hhost
    simp only [newPod, volumes] at hvolumes
    refine ⟨hhost.symm, (List.cons.inj h.images).1.symm, (List.cons.inj h.resources).1.symm, ?_⟩
    cases htls : tlsSecret flags node <;> cases htls' : tlsSecret flags' node' <;>
      simp [htls, htls'] at hvolumes ⊢
    exact hvolumes.2.symm
  · intro h
    have hmounts : volumeMounts flags node = volumeMounts flags' node' := by simp only [volumeMounts, h.tlsSecret]
    have hvolumes : volumes flags node = volumes flags' node' := by simp only [volumes, h.tlsSecret, hname]
    exact ⟨by simp only [newPod, h.nodeRef], by simp only [newPod, List.map, h.image],
      by simp only [newPod, List.map, h.resources], by simp only [newPod, List.map, hmounts], hvolumes, rfl⟩

/-- The Pod is there to stay and is the one that would be created now. -/
def Site.Converged (s : Site) : Prop :=
  ∃ pod configMap, s.pod = some pod ∧ s.configMap = some configMap ∧ pod.deleting = false ∧
    pod.Matches (newPod s.flags s.node configMap.hash)

section
variable [Library] [MapOrder]

/-- A run of `Reconcile` that ends without error and without requeue leaves the Pod as it should be. -/
def Converges (s : Site) (a : SiteAction) (s' : Site) : Prop :=
  ∀ calls, a = .reconcile calls → s.node.deleting = false → (s.reconcile calls).2 = .done → s'.Converged

/-- The run reaches the Pod with this input, and nothing fails afterwards. -/
structure Site.Completes (s : Site) (calls : Calls) (cluster : Cluster) (input : Input) : Prop where
  finalizer : s.node.finalizer = true
  credential : ensureCredential s.cluster s.node.toSingBoxNode calls = .ok cluster
  input : collectInput s.flags.toFlags cluster s.node.toSingBoxNode = .ok input
  configMap : calls.configMap = none
  getPod : calls.getPod = none
  services : calls.services = none
  updateStatus : calls.updateStatus = none

/-- A Pod that carries the annotation of the config already is the one that would be created. -/
def PodCurrent (s : Site) (a : SiteAction) : Prop :=
  ∀ calls cluster input, a = .reconcile calls → s.node.deleting = false → s.Completes calls cluster input →
    ∀ pod, s.pod = some pod → pod.configHash = desiredHash (compute input).hash →
      pod.deleting = false ∧ pod.Matches (newPod s.flags s.node (compute input).hash)

namespace Site
variable {s : Site} {calls : Calls} {cluster : Cluster} {input : Input}

/-- A Pod with the annotation is kept, whatever it looks like. -/
theorem Completes.kept (h : s.Completes calls cluster input) (hlive : s.node.deleting = false) {pod : Pod}
    (hpod : s.pod = some pod) (hhash : pod.configHash = desiredHash (compute input).hash) :
    s.reconcile calls = ({ s with cluster := cluster, configMap := some (compute input) }, .done) := by
  simp [reconcile, reconcilePod, hlive, h.finalizer, h.credential, h.input, h.configMap, h.getPod, h.services,
    h.updateStatus, hpod, hhash]

theorem Completes.created (h : s.Completes calls cluster input) (hlive : s.node.deleting = false)
    (hpod : s.pod = none) (hcreate : calls.createPod = none) :
    s.reconcile calls =
      ({ s with
          cluster := cluster
          configMap := some (compute input)
          pod := some (newPod s.flags s.node (compute input).hash) }, .done) := by
  simp [reconcile, reconcilePod, hlive, h.finalizer, h.credential, h.input, h.configMap, h.getPod, h.services,
    h.updateStatus, hpod, hcreate]

omit [Library] [MapOrder] in
theorem reconcilePod_eq_false {configHash : String} :
    (s.reconcilePod configHash calls).2 = .ok false ↔ calls.getPod = none ∧
      ((∃ pod, s.pod = some pod ∧ pod.configHash = desiredHash configHash) ∨ s.pod = none ∧ calls.createPod = none) := by
  unfold reconcilePod
  cases hget : calls.getPod with
  | some err => simp
  | none =>
    cases hpod : s.pod with
    | none => cases hcreate : calls.createPod <;> simp
    | some pod =>
      by_cases hhash : pod.configHash = desiredHash configHash
      · simp [hhash]
      · cases hdel : calls.deletePod <;> simp [hhash]

/-- A run that is done has kept the Pod or created it. -/
theorem completes_of_done (hlive : s.node.deleting = false) (h : (s.reconcile calls).2 = .done) :
    ∃ cluster input, s.Completes calls cluster input ∧
      ((∃ pod, s.pod = some pod ∧ pod.configHash = desiredHash (compute input).hash) ∨
        s.pod = none ∧ calls.createPod = none) := by
  -- every call before the last that fails ends the run in another way
  cases hfin : s.node.finalizer with
  | false => cases hup : calls.update <;> simp [reconcile, hlive, hfin, hup] at h
  | true =>
    cases hcred : ensureCredential s.cluster s.node.toSingBoxNode calls with
    | error err => simp [reconcile, hlive, hfin, hcred] at h
    | ok cluster =>
      cases hin : collectInput s.flags.toFlags cluster s.node.toSingBoxNode with
      | error err => simp [reconcile, hlive, hfin, hcred, hin] at h
      | ok input =>
        cases hcm : calls.configMap with
        | some err => simp [reconcile, hlive, hfin, hcred, hin, hcm] at h
        | none =>
          simp only [reconcile, hlive, hfin, hcred, hin, hcm, Bool.not_true, Bool.false_eq_true, if_false] at h
          split at h
          · cases h
          · cases h
          · rename_i s' hrec
            have hpod := reconcilePod_eq_false.1 (congrArg Prod.snd hrec)
            cases hsvc : calls.services <;> cases hst : calls.updateStatus <;> simp [hsvc, hst] at h
            exact ⟨cluster, input, ⟨hfin, hcred, hin, hcm, hpod.1, hsvc, hst⟩, hpod.2⟩

end Site

/-- A run that creates the Pod converges. One that keeps it does if the Pod was current. -/
theorem converges_iff_podCurrent {s s' : Site} {a : SiteAction} (hstep : s.Step a s') :
    Converges s a s' ↔ PodCurrent s a := by
  cases hstep with
  | @reconcile calls =>
    constructor
    · rintro h calls cluster input heq hlive hc pod hpod hhash
      cases heq
      have hkept := hc.kept hlive hpod hhash
      obtain ⟨pod', configMap, hpod', hcm, hdel, hmatches⟩ := h _ rfl hlive (congrArg Prod.snd hkept)
      rw [hkept] at hpod' hcm hmatches
      obtain rfl : pod = pod' := Option.some.inj (hpod.symm.trans hpod')
      obtain rfl : compute input = configMap := Option.some.inj hcm
      exact ⟨hdel, hmatches⟩
    · rintro h calls heq hlive hdone
      cases heq
      obtain ⟨cluster, input, hc, ⟨pod, hpod, hhash⟩ | ⟨hpod, hcreate⟩⟩ := Site.completes_of_done hlive hdone
      · obtain ⟨hdel, hmatches⟩ := h _ _ _ rfl hlive hc pod hpod hhash
        rw [hc.kept hlive hpod hhash]
        exact ⟨pod, _, hpod, rfl, hdel, hmatches⟩
      · rw [hc.created hlive hpod hcreate]
        exact ⟨_, _, rfl, rfl, rfl, .rfl⟩
  | _ => simp [Converges, PodCurrent]

/-- Every run of `Reconcile` that ends well leaves the Pod as it should be,
exactly if every Pod with the right annotation has been so before. -/
theorem converges_iff {s₀ s : Site} {trace : List (Site × SiteAction × Site)} (hrun : Run Site.Step s₀ trace s) :
    (∀ x ∈ trace, Converges x.1 x.2.1 x.2.2) ↔ ∀ x ∈ trace, PodCurrent x.1 x.2.1 :=
  forall₂_congr fun x hx => converges_iff_podCurrent (hrun.step_of_mem x hx)

/-! ## Steady sites -/

/-- Host, image, resources and TLS Secret stay as they are, nobody else
deletes the Pod, and a Pod that is deleted is gone at once. -/
def Steady (s : Site) : SiteAction → Prop
  | .edit node _ => SameTemplate s.flags s.node s.flags node
  | .restart flags => SameTemplate s.flags s.node flags s.node
  | .terminate => False
  | .removed => True
  | .reconcile calls => calls.goneAtOnce = true

/-- The Pod is the one that would be created, but for the hash. -/
def Site.PodFollows (s : Site) : Prop :=
  ∀ pod, s.pod = some pod → pod.deleting = false ∧ ∃ hash, pod.Matches (newPod s.flags s.node hash)

namespace Site.PodFollows
variable {s s' : Site}

omit [Library] [MapOrder] in
theorem of_eq (h : s.PodFollows) (hpod : s'.pod = s.pod) (hnew : newPod s'.flags s'.node = newPod s.flags s.node) :
    s'.PodFollows := by
  intro pod hp
  rw [hnew]
  exact h pod (hpod.symm.trans hp)

omit [Library] [MapOrder] in
theorem reconcilePod (h : s.PodFollows) (configHash : String) {calls : Calls} (hgone : calls.goneAtOnce = true) :
    (s.reconcilePod configHash calls).1.PodFollows := by
  unfold Site.reconcilePod
  split
  · exact h
  · split
    · split
      · exact h
      · split
        · exact h
        · intro pod hp
          cases hp
    · split
      · exact h
      · intro pod hp
        cases hp
        exact ⟨rfl, configHash, .rfl⟩

theorem reconcile (h : s.PodFollows) {calls : Calls} (hgone : calls.goneAtOnce = true) :
    (s.reconcile calls).1.PodFollows := by
  unfold Site.reconcile
  split
  · unfold handleDeletion
    split
    · split <;> exact h.of_eq rfl rfl
    · exact h
  split
  · split <;> exact h.of_eq rfl rfl
  split
  · exact h
  rename_i cluster _
  dsimp only
  split
  · exact h.of_eq rfl rfl
  rename_i input _
  split
  · exact h.of_eq rfl rfl
  have hwritten : { s with cluster := cluster, configMap := some (compute input) }.PodFollows := h.of_eq rfl rfl
  have hpod := hwritten.reconcilePod (compute input).hash hgone
  split <;> rename_i heq <;> rw [heq] at hpod
  · exact hpod
  · exact hpod
  · split <;> exact hpod

theorem step {a : SiteAction} (hstep : s.Step a s') (hsteady : Steady s a) (h : s.PodFollows) : s'.PodFollows := by
  cases hstep with
  | edit hname =>
    exact fun pod hp => (h pod hp).imp_right fun ⟨hash, hm⟩ => ⟨hash, hm.trans ((matches_newPod_iff hname).2 hsteady)⟩
  | restart =>
    exact fun pod hp => (h pod hp).imp_right fun ⟨hash, hm⟩ => ⟨hash, hm.trans ((matches_newPod_iff rfl).2 hsteady)⟩
  | terminate _ => exact hsteady.elim
  | removed _ _ => exact fun pod hp => by cases hp
  | reconcile => exact h.reconcile hsteady

theorem podCurrent (h : s.PodFollows) (a : SiteAction) : PodCurrent s a := by
  rintro calls cluster input - - - pod hpod hhash
  obtain ⟨hdel, hash, hm⟩ := h pod hpod
  exact ⟨hdel, hm.of_configHash hhash⟩

end Site.PodFollows

/-- As long as only the config changes, the Pod converges. -/
theorem converges_of_steady {s₀ s : Site} {trace : List (Site × SiteAction × Site)} (hrun : Run Site.Step s₀ trace s)
    (hstart : s₀.pod = none) (hsteady : ∀ x ∈ trace, Steady x.1 x.2.1) :
    ∀ x ∈ trace, Converges x.1 x.2.1 x.2.2 := by
  have hinit : s₀.PodFollows := fun pod hp => by simp [hstart] at hp
  intro x hx
  have hfollows := (hrun.invariant hinit (fun _ _ _ hs hst hf => hf.step hs hst) hsteady).2 x hx
  exact (converges_iff_podCurrent (hrun.step_of_mem x hx)).2 (hfollows.1.podCurrent _)

end

/-! ## A node that moves to another host -/

def edgeDE : SingBoxNode where
  metadata := .named "edge-de"
  spec := { SingBoxNodeSpec.bare with address := "192.0.2.50", region := "de", roles := [.inbound] }

def hostedDE (nodeRef : String) : HostedNode := { edgeDE with nodeRef := nodeRef, finalizer := true }

def clusterDE : Cluster where
  ns := "proxy"
  nodes := [edgeDE]
  nodes_nodup := List.nodup_singleton _
  externalOutbounds_nodup := noExternals_nodup
  users_nodup := noUsers_nodup
  policies_nodup := noPolicies_nodup

/-- The site of `edge-de` on a host, with what has been written so far. -/
def siteDE (nodeRef : String) (configMap : Option Output) (pod : Option Pod) : Site where
  cluster := clusterDE
  node := hostedDE nodeRef
  flags := {}
  configMap := configMap
  pod := pod

section
attribute [local instance] plainLibrary storedOrder

def outputDE : Output := compute (clusterDE.view {} edgeDE)

def podDE : Pod := newPod {} (hostedDE "host-1") outputDE.hash

theorem siteDE_completes (nodeRef : String) (configMap : Option Output) (pod : Option Pod) :
    (siteDE nodeRef configMap pod).Completes {} clusterDE (clusterDE.view {} edgeDE) :=
  ⟨rfl, rfl, collectInput_eq_ok _ ⟨rfl, rfl, rfl, fun _ => ⟨rfl, fun _ hu => by cases hu⟩⟩, rfl, rfl, rfl, rfl⟩

/-- Before the node is moved, and after. -/
abbrev settledDE : Site := siteDE "host-1" (some outputDE) (some podDE)
abbrev movedDE : Site := siteDE "host-2" (some outputDE) (some podDE)

theorem siteDE_created : (siteDE "host-1" none none).reconcile {} = (settledDE, .done) :=
  (siteDE_completes "host-1" none none).created rfl rfl rfl

/-- The config is the same on the other host, so the Pod stays where it is. -/
theorem movedDE_kept : movedDE.reconcile {} = (movedDE, .done) :=
  (siteDE_completes "host-2" (some outputDE) (some podDE)).kept rfl rfl (configHash_newPod _ _ _)

theorem movedDE_not_converged : ¬ movedDE.Converged := by
  rintro ⟨pod, configMap, hpod, hcm, -, hmatches⟩
  obtain rfl : podDE = pod := Option.some.inj hpod
  obtain rfl : outputDE = configMap := Option.some.inj hcm
  have hname : (hostedDE "host-2").name = (hostedDE "host-1").name := rfl
  exact absurd ((matches_newPod_iff hname).1 hmatches).nodeRef (by decide)

/-- The Pod is created, `nodeRef` is edited and the node is reconciled again. -/
theorem siteDE_run : ∃ trace s, Run Site.Step (siteDE "host-1" none none) trace s ∧
    (movedDE, .reconcile {}, movedDE) ∈ trace := by
  have hcreate : (siteDE "host-1" none none).Step (.reconcile {}) ((siteDE "host-1" none none).reconcile {}).1 :=
    .reconcile
  have hkeep : movedDE.Step (.reconcile {}) (movedDE.reconcile {}).1 := .reconcile
  rw [siteDE_created] at hcreate
  rw [movedDE_kept] at hkeep
  have hedit : settledDE.Step (.edit (hostedDE "host-2") clusterDE) movedDE := .edit rfl
  exact ⟨_, _, ((Run.nil.snoc hcreate).snoc hedit).snoc hkeep, List.mem_append_right _ (List.mem_singleton_self _)⟩

theorem movedDE_not_converges : ¬ Converges movedDE (.reconcile {}) movedDE := fun h =>
  movedDE_not_converged (h {} rfl rfl (congrArg Prod.snd movedDE_kept))

/-- After the edit the run ends well, with the Pod on the first host. -/
theorem not_forall_converges :
    ¬ ∀ [Library] [MapOrder] (s₀ s : Site) (trace : List (Site × SiteAction × Site)), s₀.pod = none →
      Run Site.Step s₀ trace s → ∀ x ∈ trace, Converges x.1 x.2.1 x.2.2 := by
  intro h
  obtain ⟨trace, s, hrun, hmem⟩ := siteDE_run
  exact movedDE_not_converges (h _ s trace rfl hrun _ hmem)

theorem converges_iff_moved :
    ∃ trace s, Run Site.Step (siteDE "host-1" none none) trace s ∧ ¬ ∀ x ∈ trace, PodCurrent x.1 x.2.1 := by
  obtain ⟨trace, s, hrun, hmem⟩ := siteDE_run
  exact ⟨trace, s, hrun, fun h => movedDE_not_converges ((converges_iff hrun).2 h _ hmem)⟩

end

end SingboxOperator
