import SingboxOperator.Controller.Surroundings
import SingboxOperator.Controller.Watches
/-!
# No lost update

A change of a custom resource wakes every node whose config it changes, with
one exception. A SingBoxNode hides ExternalOutbounds of its name in every
region, and its creation or deletion is announced to its own region only; the
policies that select a node make up for it when there are any.
-/
open SingboxOperator.Lib

namespace SingboxOperator

namespace Cluster
variable {c c' : Cluster} {N : SingBoxNode}

section
variable [Library] [MapOrder]

/-- What a reconcile of the node writes to its ConfigMap. -/
def output (flags : Flags) (c : Cluster) (N : SingBoxNode) : Except String Output := (collectInput flags c N).map compute

theorem Answers.output_eq (h : c.Answers) (flags : Flags) : c.output flags N = .ok (compute (c.view flags N)) := by
  rw [output, collectInput_eq_ok flags (h.readable N)]
  rfl

theorem Answers.output_eq_iff (h : c.Answers) (h' : c'.Answers) {flags : Flags} :
    c'.output flags N = c.output flags N ↔ computeConfig (c'.view flags N) = computeConfig (c.view flags N) := by
  rw [h.output_eq, h'.output_eq, Except.ok.injEq, compute_eq_iff_config]

/-- Every node that is there after the change has the config it had, or is woken. -/
def NoLostUpdate (flags : Flags) (c : Cluster) (ev : Event) (c' : Cluster) : Prop :=
  ∀ N' ∈ c'.nodes,
    (∃ N ∈ c.nodes, N.name = N'.name ∧ c'.output flags N' = c.output flags N) ∨ Woken c' ev N'.name

/-- An inbound node of another region that renders an ExternalOutbound of the
name of `X` when there is no such node, and that no policy selects. -/
def Unseen (c : Cluster) (X N : SingBoxNode) : Prop :=
  N.name ≠ X.name ∧ N.hasRole .inbound = true ∧ N.spec.region ≠ X.spec.region ∧
    (∀ p ∈ c.policies, p.spec.ingressSelector.matches N.metadata = false) ∧
    ∃ e ∈ c.externalOutbounds, e.name = X.name ∧ N.PassesGate e ∧
      hasRequiredExternalCreds e (c.externalCred e) = true

end

/-! ## Changes of nodes -/

section
variable {ch : Change SingBoxNode} {generation : Bool} {nodes : List SingBoxNode}
  {hnodup : (nodes.map SingBoxNode.name).Nodup}

/-- Nodes of other regions are no peers. -/
theorem peers_of_other_region (h : ch.Applies SingBoxNode.name c.nodes nodes)
    (hr : ∀ X ∈ ch.objects, X.spec.region ≠ N.spec.region) :
    (c.withNodes nodes hnodup).peers N = c.peers N := by
  have hfilter : nodes.filter (isPeer N) = c.nodes.filter (isPeer N) :=
    h.filter_eq fun X hX => by simp [isPeer, hr X hX]
  simp only [peers, allNodes]
  rw [filter_sortOn (fun _ ha _ hb => node_unique ha hb), filter_sortOn
    (fun _ ha _ hb => List.inj_on_of_nodup_map hnodup ha hb), hfilter]

variable [Library] [MapOrder]

/-- A node that no policy selects depends on its region and on the names of the others. -/
theorem looksAlike_of_unselected (h : ch.Applies SingBoxNode.name c.nodes nodes)
    (hspec : KeepsSpec SingBoxNode.spec ch generation)
    (hsel : ∀ p ∈ c.policies, p.spec.ingressSelector.matches N.metadata = false)
    (hreg : generationChanged ch generation = true → ∀ X ∈ ch.objects, X.spec.region ≠ N.spec.region)
    (hne : ∀ X, ch = .create X ∨ ch = .delete X → ∀ e ∈ c.externalOutbounds, N.PassesGate e →
      hasRequiredExternalCreds e (c.externalCred e) = true → e.name ≠ X.name) :
    c.LooksAlike (c.withNodes nodes hnodup) N := by
  have hkept : c.kept N = [] := kept_eq_nil fun p hp _ => hsel p hp
  have hcore : ((c.withNodes nodes hnodup).peers N).map core =
      (c.peers N).map core := by
    by_cases hgen : generationChanged ch generation = true
    · rw [peers_of_other_region h (hreg hgen)]
    · -- an update that keeps the spec keeps what is rendered of the node
      cases ch with
      | create X => exact absurd rfl hgen
      | delete X => exact absurd rfl hgen
      | update old new =>
        have hname : new.name = old.name := h.key_eq (by simp [Change.objects])
        have hsame := hspec old new rfl (by simpa [generationChanged] using hgen)
        exact map_core_peers (h.map_eq (by simp [core, hname, hsame]))
  refine LooksAlike.of_kept_nil rfl (fun _ _ => rfl) (sameEntries_of_userCred rfl) (fun _ => rfl) (noPeers_of_core hcore)
    (relayEntries_of_core rfl hcore) ?_ hkept (kept_eq_nil fun p hp _ => hsel p hp)
  refine congrArg (List.map c.externalEntry) (completeExternals_of_names rfl rfl fun e he hgate hreq => ?_)
  exact h.key_free_iff fun X hX hname => hne X hX e he hgate hreq hname.symm

/-- Only creations and deletions can go unnoticed. -/
theorem settled_of_node (flags : Flags) (h : ch.Applies SingBoxNode.name c.nodes nodes)
    (hspec : KeepsSpec SingBoxNode.spec ch generation)
    (ha : (c.withNodes nodes hnodup).Answers) (hN : N ∈ nodes)
    (hseen : ∀ X, ch = .create X ∨ ch = .delete X → N ∈ c.nodes → ¬ c.Unseen X N) :
    (N ∈ c.nodes ∧ computeConfig ((c.withNodes nodes hnodup).view flags N) =
        computeConfig (c.view flags N)) ∨
      Woken (c.withNodes nodes hnodup) (.singBoxNode ch generation) N.name := by
  by_cases hself : N.name = ch.object.name
  · exact .inr (.enqueued (List.mem_cons.2 (.inl hself)))
  have hobj : ∀ X ∈ ch.objects, X.name ≠ N.name := fun X hX hname => hself (hname ▸ h.key_eq hX)
  have hNc : N ∈ c.nodes := (h.mem_of_mem hN).resolve_left fun hX => hobj N hX rfl
  by_cases hi : N.hasRole .inbound = true
  swap
  · exact .inl ⟨hNc, computeConfig_of_not_inbound flags (by simpa using hi) fun _ => rfl⟩
  by_cases hsel : ∃ p ∈ c.policies, p.spec.ingressSelector.matches N.metadata = true
  · obtain ⟨p, hp, hm⟩ := hsel
    by_cases hpred : (generationChanged ch generation || labelChanged SingBoxNode.metadata ch) = true
    · -- every policy is reconciled, and this one selects the node
      refine .inr (ha.woken_of_policy hN hi hp ?_ hm)
      exact mem_enqueueRequests.2 ⟨hpred, ch.object, ch.object_mem, ha.mem_policyMapper.2 ⟨p, hp, rfl⟩⟩
    · -- an update of the status
      have hface : nodes.map face = c.nodes.map face := by
        cases ch with
        | create X => exact absurd rfl hpred
        | delete X => exact absurd rfl hpred
        | update old new =>
          simp only [generationChanged, labelChanged, Bool.or_eq_true, decide_eq_true_eq, not_or, Bool.not_eq_true,
            ne_eq, not_not] at hpred
          have hmeta : new.metadata = old.metadata :=
            ObjectMeta.ext (h.key_eq (by simp [Change.objects])) hpred.2.symm
          exact h.map_eq (by simp [face, hspec old new rfl hpred.1, hmeta])
      have halike : c.LooksAlike (c.withNodes nodes hnodup) N := .of_face rfl rfl rfl rfl rfl rfl hface
      exact .inl ⟨hNc, halike.computeConfig_eq flags⟩
  · have hsel : ∀ p ∈ c.policies, p.spec.ingressSelector.matches N.metadata = false := by simpa using hsel
    by_cases hreg : generationChanged ch generation = true ∧ ∃ X ∈ ch.objects, X.spec.region = N.spec.region
    · obtain ⟨hgen, X, hX, hr⟩ := hreg
      refine .inr (.enqueued (List.mem_cons.2 (.inr (mem_enqueueRequests.2 ⟨hgen, X, hX, ?_⟩))))
      exact ha.mem_sameRegionNodeMapper.2 ⟨N, hN, fun hname => hobj X hX hname.symm, hr.symm, rfl⟩
    · left
      have hother : generationChanged ch generation = true → ∀ X ∈ ch.objects, X.spec.region ≠ N.spec.region :=
        fun hgen X hX hr => hreg ⟨hgen, X, hX, hr⟩
      refine ⟨hNc, (looksAlike_of_unselected h hspec hsel hother fun X hX e he hgate hreq hname => ?_).computeConfig_eq
        flags⟩
      refine hseen X hX hNc ⟨?_, hi, ?_, hsel, e, he, hname, hgate, hreq⟩
      · rcases hX with rfl | rfl <;> exact hself
      · have hXo : X ∈ ch.objects ∧ generationChanged ch generation = true := by
          rcases hX with rfl | rfl <;> simp [Change.objects, generationChanged]
        exact fun hr => hother hXo.2 X hXo.1 hr.symm

end

/-! ## Changes of the other kinds -/

section
variable [Library] [MapOrder]

theorem settled_of_external {ch : Change ExternalOutbound} {generation : Bool} {outbounds : List ExternalOutbound}
    {hnodup : (outbounds.map ExternalOutbound.name).Nodup} (flags : Flags)
    (h : ch.Applies ExternalOutbound.name c.externalOutbounds outbounds)
    (hspec : KeepsSpec ExternalOutbound.spec ch generation) (ha : (c.withExternalOutbounds outbounds hnodup).Answers)
    (hN : N ∈ c.nodes) :
    computeConfig ((c.withExternalOutbounds outbounds hnodup).view flags N) = computeConfig (c.view flags N) ∨
      Woken (c.withExternalOutbounds outbounds hnodup) (.externalOutbound ch generation) N.name := by
  by_cases hi : N.hasRole .inbound = true
  swap
  · exact .inl (computeConfig_of_not_inbound flags (by simpa using hi) fun _ => rfl)
  by_cases hsel : ∃ p ∈ c.policies, p.spec.ingressSelector.matches N.metadata = true
  · obtain ⟨p, hp, hm⟩ := hsel
    by_cases hpred : (generationChanged ch generation || labelChanged ExternalOutbound.metadata ch) = true
    · refine .inr (ha.woken_of_policy hN hi hp ?_ hm)
      exact mem_enqueueRequests.2 ⟨hpred, ch.object, ch.object_mem, ha.mem_policyMapper.2 ⟨p, hp, rfl⟩⟩
    · -- an update of the status, which the config does not read
      have hsame : outbounds = c.externalOutbounds := by
        cases ch with
        | create X => exact absurd rfl hpred
        | delete X => exact absurd rfl hpred
        | update old new =>
          simp only [generationChanged, labelChanged, Bool.or_eq_true, decide_eq_true_eq, not_or, Bool.not_eq_true,
            ne_eq, not_not] at hpred
          have hmeta : new.metadata = old.metadata :=
            ObjectMeta.ext (h.key_eq (by simp [Change.objects])) hpred.2.symm
          have hnew : new = old := by
            cases new
            cases old
            exact ExternalOutbound.mk.injEq .. ▸ ⟨hmeta, hspec _ _ rfl hpred.1⟩
          simpa using h.map_eq (f := id) hnew
      subst hsame
      exact .inl rfl
  · have hsel : ∀ p ∈ c.policies, p.spec.ingressSelector.matches N.metadata = false := by simpa using hsel
    have hkept : ∀ c' : Cluster, c'.policies = c.policies → c'.kept N = [] :=
      fun c' hc' => kept_eq_nil fun p hp _ => hsel p (hc' ▸ hp)
    by_cases hreg : generationChanged ch generation = true ∧ ∃ X ∈ ch.objects,
        X.spec.region ≠ "" ∧ X.spec.region = N.spec.region
    · obtain ⟨hgen, X, hX, hne, hr⟩ := hreg
      exact .inr (.enqueued (mem_enqueueRequests.2 ⟨hgen, X, hX, ha.mem_inboundsAffected hN hi hne hr⟩))
    · left
      have hentries : (c.withExternalOutbounds outbounds hnodup).externalEntries N = c.externalEntries N := by
        by_cases hgen : generationChanged ch generation = true
        · -- an ExternalOutbound of another region is not discovered
          have hfilter : ∀ names, outbounds.filter (isDiscovered N names) =
              c.externalOutbounds.filter (isDiscovered N names) := by
            intro names
            refine h.filter_eq fun X hX => Bool.eq_false_iff.2 fun hd => hreg ⟨hgen, X, hX, ?_⟩
            simp only [isDiscovered, Bool.and_eq_true, decide_eq_true_eq] at hd
            exact ⟨hd.1.1.1.2, hd.1.1.2⟩
          have hdisc : (c.withExternalOutbounds outbounds hnodup).discovered N = c.discovered N := by
            simp only [discovered, allExtOutbounds, allNodes]
            rw [filter_sortOn (fun _ ha _ hb => external_unique ha hb), filter_sortOn
              (fun _ ha _ hb => List.inj_on_of_nodup_map hnodup ha hb), hfilter]
          exact congrArg (fun l => (l.filter fun e => hasRequiredExternalCreds e (c.externalCred e)).map c.externalEntry)
            hdisc
        · refine externalEntries_of_unlabeled rfl rfl ?_
          cases ch with
          | create X => exact absurd rfl hgen
          | delete X => exact absurd rfl hgen
          | update old new =>
            have hname : new.name = old.name := h.key_eq (by simp [Change.objects])
            have hsame := hspec old new rfl (by simpa [generationChanged] using hgen)
            refine h.map_eq ?_
            simp only [unlabeled, ExternalOutbound.mk.injEq]
            exact ⟨ObjectMeta.ext hname rfl, hsame⟩
      have halike : c.LooksAlike (c.withExternalOutbounds outbounds hnodup) N :=
        .of_kept_nil rfl (fun _ _ => rfl) (sameEntries_of_userCred rfl) (fun _ => rfl) rfl rfl hentries
          (hkept c rfl) (hkept _ rfl)
      exact halike.computeConfig_eq flags

/-- A policy that selects the node before or after the change is announced to it. -/
theorem settled_of_policy {ch : Change EgressPolicy} {generation : Bool} {policies : List EgressPolicy}
    {hnodup : (policies.map EgressPolicy.name).Nodup} (flags : Flags)
    (h : ch.Applies EgressPolicy.name c.policies policies) (hspec : KeepsSpec EgressPolicy.spec ch generation)
    (ha : (c.withPolicies policies hnodup).Answers) (hN : N ∈ c.nodes) :
    computeConfig ((c.withPolicies policies hnodup).view flags N) = computeConfig (c.view flags N) ∨
      Woken (c.withPolicies policies hnodup) (.egressPolicy ch generation) N.name := by
  by_cases hsel : N.hasRole .inbound = true ∧ ∃ p ∈ ch.objects, p.spec.ingressSelector.matches N.metadata = true
  · obtain ⟨hi, p, hp, hm⟩ := hsel
    right
    by_cases hgen : generationChanged ch generation = true
    · refine .enqueued (mem_enqueueRequests.2 ⟨hgen, p, hp, ?_⟩)
      exact ha.mem_egressPolicyMapper.2 ⟨N, hN, hi, hm, rfl⟩
    · -- the policy itself is reconciled, with the spec it had
      cases ch with
      | create X => exact absurd rfl hgen
      | delete X => exact absurd rfl hgen
      | update old new =>
        have hsame := hspec old new rfl (by simpa [generationChanged] using hgen)
        have hname : new.name = old.name := h.key_eq (by simp [Change.objects])
        have hm' : new.spec.ingressSelector.matches N.metadata = true := by
          rcases List.mem_pair.1 hp with rfl | rfl
          · rw [hsame]; exact hm
          · exact hm
        exact ha.woken_of_policy hN hi h.mem_update (List.mem_singleton.2 hname) hm'
  · left
    have hkept : (c.withPolicies policies hnodup).kept N = c.kept N := by
      refine h.filter_eq fun p hp => Bool.eq_false_iff.2 fun happ => hsel ?_
      simp only [policyApplies, Bool.and_eq_true] at happ
      exact ⟨happ.1.1.1, p, hp, happ.1.1.2⟩
    have hnodes : (c.withPolicies policies hnodup).visibleNodes N = c.visibleNodes N := by
      rw [visibleNodes, hkept]
      rfl
    have hexts : (c.withPolicies policies hnodup).visibleExternals N = c.visibleExternals N := by
      rw [visibleExternals, hkept]
      rfl
    have halike : c.LooksAlike (c.withPolicies policies hnodup) N :=
      { users := rfl, entries := sameEntries_of_userCred rfl, groupOf := fun _ _ => rfl, ownCred := fun _ => rfl,
        noPeers := rfl, relayEntries := rfl, externalEntries := rfl, kept := hkept, egressName := fun _ _ _ => rfl,
        renders := fun p _ _ o => by
          unfold Renders
          rw [hnodes, hexts]
          rfl }
    exact halike.computeConfig_eq flags

omit [MapOrder] in
/-- Every inbound node hears of every user. -/
theorem Answers.mem_nodeRequests_user (ha : c.Answers) (hN : N ∈ c.nodes) (hi : N.hasRole .inbound = true)
    (ch : Change User) : N.name ∈ nodeRequests c (.user ch) :=
  mem_enqueueRequests.2 ⟨rfl, ch.object, ch.object_mem, ha.mem_matchingProtocolNodeMapper.2 ⟨N, hN, hi, rfl⟩⟩

theorem settled_of_user {ch : Change User} {users : List User} {hnodup : (users.map User.name).Nodup} (flags : Flags)
    (ha : (c.withUsers users hnodup).Answers) (hN : N ∈ c.nodes) :
    computeConfig ((c.withUsers users hnodup).view flags N) = computeConfig (c.view flags N) ∨
      Woken (c.withUsers users hnodup) (.user ch) N.name := by
  by_cases hi : N.hasRole .inbound = true
  · exact .inr (.enqueued (ha.mem_nodeRequests_user hN hi ch))
  · exact .inl (computeConfig_of_not_inbound flags (by simpa using hi) fun _ => rfl)

theorem settled_of_userGroup {ch : Change UserGroup} {userGroup : String → Except ApiError UserGroup} (flags : Flags)
    (hothers : ∀ name, name ≠ ch.object.name → userGroup name = c.userGroup name)
    (ha : ({ c with userGroup := userGroup } : Cluster).Answers) (hN : N ∈ c.nodes) :
    computeConfig (({ c with userGroup := userGroup } : Cluster).view flags N) = computeConfig (c.view flags N) ∨
      Woken { c with userGroup := userGroup } (.userGroup ch) N.name := by
  by_cases hi : N.hasRole .inbound = true
  swap
  · exact .inl (computeConfig_of_not_inbound flags (by simpa using hi) fun _ => rfl)
  by_cases hu : ∃ u ∈ c.users, u.spec.userGroupRef = ch.object.name
  · right
    exact .enqueued (mem_enqueueRequests.2 ⟨rfl, ch.object, ch.object_mem,
      ha.mem_usersInGroupToNodesMapper.2 ⟨hu, N, hN, hi, rfl⟩⟩)
  · left
    have hgroup : ∀ u ∈ c.users, ({ c with userGroup := userGroup } : Cluster).groupOf u = c.groupOf u := by
      intro u hmem
      simp only [groupOf, hothers u.spec.userGroupRef fun hname => hu ⟨u, hmem, hname⟩]
    have halike : c.LooksAlike { c with userGroup := userGroup } N :=
      { users := rfl, entries := sameEntries_of_userCred rfl, groupOf := fun u hu => hgroup u (mem_servedUsers.1 hu).2,
        ownCred := fun _ => rfl, noPeers := rfl, relayEntries := rfl, externalEntries := rfl, kept := rfl,
        egressName := fun _ _ _ => rfl, renders := fun _ _ _ _ => Iff.rfl }
    exact halike.computeConfig_eq flags

/-! ## The exception -/

/-- Whether the ExternalOutbound is rendered depends on nothing but its name. -/
theorem entry_iff_free (flags : Flags) (hN : N ∈ c.nodes) (hi : N.hasRole .inbound = true)
    (hsel : ∀ p ∈ c.policies, p.spec.ingressSelector.matches N.metadata = false) {e : ExternalOutbound}
    (he : e ∈ c.externalOutbounds) (hgate : N.PassesGate e) (hreq : hasRequiredExternalCreds e (c.externalCred e) = true)
    (hself : N.name ≠ e.name) (hother : ∀ n ∈ c.nodes, n.name = e.name → n.spec.region ≠ N.spec.region) :
    (∃ o ∈ (computeConfig (c.view flags N)).outbounds, o.tag = outboundTag e.name) ↔
      ∀ n ∈ c.nodes, n.name ≠ e.name := by
  have hkept : c.kept N = [] := kept_eq_nil fun p hp _ => hsel p hp
  rw [exists_outbound_view]
  constructor
  · rintro ⟨_, ⟨hreach, _⟩ | ⟨_, _, hname⟩⟩
    · rcases hreach with ⟨n, hn, hname⟩ | ⟨p, hp, _⟩ | ⟨e', he', hname⟩
      · obtain ⟨hmem, hpeer⟩ := mem_peers.1 hn
        simp only [isPeer, Bool.and_eq_true, decide_eq_true_eq] at hpeer
        exact absurd hpeer.1.1.1.2 (hother n hmem hname)
      · simp [hkept] at hp
      · obtain rfl := external_unique (visibleExternals_subset (List.mem_append_left _ he')).1 he hname
        exact (mem_discovered_iff hN he hgate).1 he'
    · exact absurd hname.symm hself
  · intro hfree
    have hd := (mem_discovered_iff hN he hgate).2 hfree
    exact ⟨hi, .inl ⟨.inr (.inr ⟨e, hd, rfl⟩), (usable_of_external (List.mem_append_left _ hd)).2 hreq⟩⟩

omit [MapOrder] in
/-- Neither the region nor a policy announces the change to an unseen node. -/
theorem Answers.not_woken (ha : c'.Answers) {ch : Change SingBoxNode} {generation : Bool} {X : SingBoxNode}
    (hX : ch.objects = [X]) (hN : N ∈ c'.nodes) (hself : N.name ≠ X.name) (hreg : N.spec.region ≠ X.spec.region)
    (hsel : ∀ p ∈ c'.policies, p.spec.ingressSelector.matches N.metadata = false) :
    ¬ Woken c' (.singBoxNode ch generation) N.name := by
  have hobj : ch.object = X := List.mem_singleton.1 (hX ▸ ch.object_mem)
  intro hw
  cases hw with
  | enqueued h =>
    rcases List.mem_cons.1 h with h | h
    · exact hself (hobj ▸ h)
    · obtain ⟨_, X', hX', hmem⟩ := mem_enqueueRequests.1 h
      obtain rfl := List.mem_singleton.1 (hX ▸ hX')
      obtain ⟨n, hn, _, hr, hname⟩ := ha.mem_sameRegionNodeMapper.1 hmem
      exact hreg (node_unique hn hN hname ▸ hr)
  | policy _ hrun h =>
    obtain ⟨p, hp, n, hn, _, hm, hname⟩ := touched_of_reconcilePolicy hrun h
    rw [node_unique hn hN hname, hsel p hp] at hm
    cases hm
  | user hu => cases hu
  | userGroup hg => cases hg

/-- One of the two clusters has a node of the name, and only the other renders the ExternalOutbound. -/
theorem lost_of_unseen {flags : Flags} {ch : Change SingBoxNode} {generation : Bool} {nodes : List SingBoxNode}
    {hnodup : (nodes.map SingBoxNode.name).Nodup} (h : ch.Applies SingBoxNode.name c.nodes nodes) (ha : c.Answers)
    (ha' : (c.withNodes nodes hnodup).Answers) {X : SingBoxNode} (hX : ch = .create X ∨ ch = .delete X)
    (hN : N ∈ c.nodes) (hu : c.Unseen X N) :
    ¬ NoLostUpdate flags c (.singBoxNode ch generation) (c.withNodes nodes hnodup) := by
  obtain ⟨hself, hi, hreg, hsel, e, he, hname, hgate, hreq⟩ := hu
  have hobjs : ch.objects = [X] := by rcases hX with rfl | rfl <;> rfl
  have hN' : N ∈ nodes := (h.mem_new hN).resolve_left fun hmem => by
    rw [hobjs, List.mem_singleton] at hmem
    exact hself (hmem ▸ rfl)
  -- a node of the name of `X` is `X` itself
  have hregion : ∀ n, n ∈ c.nodes ∨ n ∈ nodes → n.name = e.name → n = X := by
    intro n hn hne
    have hfree : ∀ n, n ∈ ch.objects → n = X := fun n hn => List.mem_singleton.1 (hobjs ▸ hn)
    rcases hX with rfl | rfl
    · have hold := h.free_of_create hnodup
      rcases hn with hn | hn
      · exact absurd (hne.trans hname) (hold n hn)
      · exact (h.mem_of_mem hn).elim (hfree n) fun hn => absurd (hne.trans hname) (hold n hn)
    · have hnew := h.free_of_delete c.nodes_nodup
      rcases hn with hn | hn
      · exact (h.mem_new hn).elim (hfree n) fun hn => absurd (hne.trans hname) (hnew n hn)
      · exact absurd (hne.trans hname) (hnew n hn)
  have hold := entry_iff_free flags hN hi hsel he hgate hreq (hname ▸ hself)
    fun n hn hne => hregion n (.inl hn) hne ▸ hreg.symm
  have hnew := entry_iff_free flags (c := c.withNodes nodes hnodup) hN' hi hsel he hgate hreq (hname ▸ hself)
    fun n hn hne => hregion n (.inr hn) hne ▸ hreg.symm
  intro hall
  rcases hall N hN' with ⟨N₀, hN₀, hsame, hout⟩ | hw
  · obtain rfl := node_unique hN₀ hN hsame
    rw [ha.output_eq_iff ha'] at hout
    rw [hout, hold] at hnew
    rcases hX with rfl | rfl
    · have hfree := h.free_of_create hnodup
      rw [← hname] at hfree
      exact hnew.1 hfree X h.mem_create hname.symm
    · have hfree := h.free_of_delete c.nodes_nodup
      rw [← hname] at hfree
      exact hnew.2 hfree X h.mem_delete hname.symm
  · exact ha'.not_woken hobjs hN' hself hreg hsel hw

end

end Cluster

/-- Every node whose config changes is woken exactly when no node is created
or deleted whose name an unseen node renders for an ExternalOutbound. -/
theorem noLostUpdate_iff [Library] [MapOrder] {flags : Flags} {c c' : Cluster} {ev : Event} (hstep : c.Step ev c')
    (ha : c.Answers) (ha' : c'.Answers) :
    c.NoLostUpdate flags ev c' ↔
      ∀ X generation, ev = .singBoxNode (.create X) generation ∨ ev = .singBoxNode (.delete X) generation →
        ∀ N ∈ c.nodes, ¬ c.Unseen X N := by
  -- what is settled in the cluster is settled in what is written
  have hkeep : ∀ {N}, N ∈ c.nodes → computeConfig (c'.view flags N) = computeConfig (c.view flags N) ∨ Woken c' ev N.name →
      (∃ N₀ ∈ c.nodes, N₀.name = N.name ∧ c'.output flags N = c.output flags N₀) ∨ Woken c' ev N.name :=
    fun hN h => h.imp_left fun h => ⟨_, hN, rfl, (ha.output_eq_iff ha').2 h⟩
  cases hstep with
  | @singBoxNode ch generation nodes hnodup h hspec =>
    constructor
    · rintro hall X g hev N hN hu
      have hX : ch = .create X ∨ ch = .delete X :=
        hev.imp (fun h => (Event.singBoxNode.inj h).1) fun h => (Event.singBoxNode.inj h).1
      exact Cluster.lost_of_unseen h ha ha' hX hN hu hall
    · intro hseen N hN
      have hev : ∀ X, ch = .create X ∨ ch = .delete X → N ∈ c.nodes → ¬ c.Unseen X N := by
        intro X hX hNc
        exact hseen X generation (by rcases hX with rfl | rfl <;> simp) N hNc
      rcases Cluster.settled_of_node flags h hspec ha' hN hev with ⟨hNc, hsame⟩ | hw
      · exact hkeep hNc (.inl hsame)
      · exact .inr hw
  | externalOutbound hnodup h hspec =>
    exact ⟨fun _ _ _ hev => by simp at hev, fun _ N hN => hkeep hN (Cluster.settled_of_external flags h hspec ha' hN)⟩
  | egressPolicy hnodup h hspec =>
    exact ⟨fun _ _ _ hev => by simp at hev, fun _ N hN => hkeep hN (Cluster.settled_of_policy flags h hspec ha' hN)⟩
  | user hnodup h =>
    exact ⟨fun _ _ _ hev => by simp at hev, fun _ N hN => hkeep hN (Cluster.settled_of_user flags ha' hN)⟩
  | userGroup h hothers =>
    exact ⟨fun _ _ _ hev => by simp at hev, fun _ N hN => hkeep hN (Cluster.settled_of_userGroup flags hothers ha' hN)⟩

/-! ### A node in another region takes the name of an ExternalOutbound -/

def edgeHK : SingBoxNode where
  metadata := .named "edge-hk"
  spec := { SingBoxNodeSpec.bare with address := "192.0.2.30", region := "hk", roles := [.inbound] }

def exitMeta : ObjectMeta := .named "exit-a"

def exitHK : ExternalOutbound where
  metadata := exitMeta
  spec := { protocol := .socks5, server := "192.0.2.31", port := Port.socks.number, port_pos := Port.socks.pos,
            port_le := Port.socks.le, region := "hk" }

def exitUS : SingBoxNode where
  metadata := exitMeta
  spec := { SingBoxNodeSpec.bare with address := "192.0.2.32", region := "us", roles := [.outbound] }

def edgeOnly : Cluster where
  ns := "proxy"
  nodes := [edgeHK]
  externalOutbounds := [exitHK]
  nodes_nodup := List.nodup_singleton _
  externalOutbounds_nodup := List.nodup_singleton _
  users_nodup := noUsers_nodup
  policies_nodup := noPolicies_nodup

theorem edgeHK_exitUS_nodup : ([edgeHK, exitUS].map SingBoxNode.name).Nodup := by decide

def exitCreated : Event := .singBoxNode (.create exitUS) false

theorem edgeOnly_step : edgeOnly.Step exitCreated (edgeOnly.withNodes [edgeHK, exitUS] edgeHK_exitUS_nodup) :=
  .singBoxNode _ (.create exitUS [edgeHK] []) fun _ _ h => by cases h

theorem edgeOnly_answers : edgeOnly.Answers := ⟨fun _ => rfl, fun _ _ h => by cases h; rfl⟩

theorem edgeOnly_exit_answers : (edgeOnly.withNodes [edgeHK, exitUS] edgeHK_exitUS_nodup).Answers :=
  ⟨fun _ => rfl, fun _ _ h => by cases h; rfl⟩

section
attribute [local instance] plainLibrary storedOrder

theorem edgeHK_unseen : edgeOnly.Unseen exitUS edgeHK :=
  ⟨by decide, by decide, by decide, fun _ hp => absurd hp List.not_mem_nil, exitHK, List.mem_singleton_self _, rfl,
    ⟨by decide, by decide, by decide, by decide⟩, by decide⟩

/-- The entry of `exit-a` disappears from the config of `edge-hk`, which is not enqueued. -/
theorem not_forall_noLostUpdate :
    ¬ ∀ [Library] [MapOrder] (flags : Flags) (c c' : Cluster) (ev : Event), c.Step ev c' → c.Answers → c'.Answers →
      c.NoLostUpdate flags ev c' := by
  intro h
  exact Cluster.lost_of_unseen (.create exitUS [edgeHK] []) edgeOnly_answers edgeOnly_exit_answers (.inl rfl)
    (List.mem_singleton_self _) edgeHK_unseen
    (h {} _ _ exitCreated edgeOnly_step edgeOnly_answers edgeOnly_exit_answers)

theorem noLostUpdate_iff_exitCreated :
    edgeOnly.Step exitCreated (edgeOnly.withNodes [edgeHK, exitUS] edgeHK_exitUS_nodup) ∧ edgeOnly.Answers ∧
      (edgeOnly.withNodes [edgeHK, exitUS] edgeHK_exitUS_nodup).Answers ∧
      ¬ edgeOnly.NoLostUpdate {} exitCreated (edgeOnly.withNodes [edgeHK, exitUS] edgeHK_exitUS_nodup) :=
  ⟨edgeOnly_step, edgeOnly_answers, edgeOnly_exit_answers, fun hall =>
    (noLostUpdate_iff edgeOnly_step edgeOnly_answers edgeOnly_exit_answers).1 hall exitUS false (.inl rfl) edgeHK
      (List.mem_singleton_self _) edgeHK_unseen⟩

end

end SingboxOperator
