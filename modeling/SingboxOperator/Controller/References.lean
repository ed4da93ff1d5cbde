import SingboxOperator.Controller.Targets
/-!
# What a config refers to

Rules name outbounds, and rules and users name targets. Both go wrong for one
target only, the node itself: an inbound node that is also an outbound one
routes users to itself whether or not its own `allowedOutbounds` lets it, while
its own exit is rendered only if it does.
-/
open SingboxOperator.Lib

namespace SingboxOperator

/-- Every outbound a rule names, and the final one, exists. -/
def ConfigClosed (cfg : SingboxConfig) : Prop :=
  (∀ r ∈ cfg.route.rules, r.outbound ≠ "" → ∃ o ∈ cfg.outbounds, o.tag = r.outbound) ∧
    ∃ o ∈ cfg.outbounds, o.tag = cfg.route.final

/-- The target name stands in an outbound, a rule or a virtual user. -/
def Occurs (c : Cluster) (N : SingBoxNode) (cfg : SingboxConfig) (t : String) : Prop :=
  (∃ o ∈ cfg.outbounds, o.tag = outboundTag t) ∨
    (∃ r ∈ cfg.route.rules, r.outbound = outboundTag t ∨ ∃ u ∈ c.users, virtualUserName u.name t ∈ r.authUser) ∨
    ∃ ib ∈ cfg.inbounds, ib.tag = inboundTag N ∧ ∃ e ∈ ib.users, ∃ u ∈ c.users,
      e.label (effectiveInboundProtocol N) = some (virtualUserName u.name t)

namespace Cluster
variable {c : Cluster} {N : SingBoxNode}

/-- Both allowlists and the region let `N` use the target `t`: a node with the
outbound role, or else the external outbound of that name. -/
def Bound (c : Cluster) (N : SingBoxNode) (t : String) : Prop :=
  admits N.spec.allowedOutbounds t = true ∧
    (t ≠ N.name →
      (∃ n ∈ c.nodes, n.name = t ∧ n.hasRole .outbound = true ∧ n.spec.region = N.spec.region ∧
        admits n.spec.allowedInbounds N.name = true) ∨
      (∀ n ∈ c.nodes, n.name = t → n.hasRole .outbound = false) ∧
        ∃ e ∈ c.externalOutbounds, e.name = t ∧ e.spec.region = N.spec.region ∧
          admits e.spec.allowedInbounds N.name = true)

/-- A node that serves and relays, but leaves itself out of its `allowedOutbounds`. -/
def ExcludesItself (N : SingBoxNode) : Prop :=
  N.hasRole .inbound = true ∧ N.hasRole .outbound = true ∧ admits N.spec.allowedOutbounds N.name = false

/-- Policies relay the node to itself: one makes it visible, one uses its name. -/
def SelfRelayed [Library] (c : Cluster) (N : SingBoxNode) : Prop :=
  N.spec.relayPort ≠ 0 ∧ (∃ p ∈ c.kept N, p.spec.action = .route ∧ c.egress p = N.name) ∧
    ∃ p ∈ c.kept N, p.spec.action = .route ∧ c.egressName p = N.name

theorem not_peer_self {n : SingBoxNode} (h : n ∈ c.peers N) : n.name ≠ N.name := by
  have hp := (mem_peers.1 h).2
  simp only [isPeer, Bool.and_eq_true, decide_eq_true_eq] at hp
  exact hp.1.1.1.1

theorem not_discovered_self {e : ExternalOutbound} (h : e ∈ c.discovered N) : e.name ≠ N.name := by
  obtain ⟨_, hd⟩ := List.mem_filter.1 h
  simp only [isDiscovered, Bool.and_eq_true, decide_eq_true_eq, List.mem_cons, not_or] at hd
  exact hd.1.1.1.1.1

theorem peers_bound {n : SingBoxNode} (h : n ∈ c.peers N) : c.Bound N n.name := by
  obtain ⟨hm, hp⟩ := mem_peers.1 h
  simp only [isPeer, Bool.and_eq_true, decide_eq_true_eq] at hp
  exact ⟨hp.2, fun _ => .inl ⟨n, hm, rfl, hp.1.1.2, hp.1.1.1.2, hp.1.2⟩⟩

variable [Library]

/-- Every visible external outbound has passed the gate. -/
theorem visibleExternals_bound {e : ExternalOutbound} (h : e ∈ c.visibleExternals N) : c.Bound N e.name := by
  obtain ⟨hm, hno⟩ := visibleExternals_subset h
  have hgate : e.spec.region = N.spec.region ∧ admits e.spec.allowedInbounds N.name = true ∧
      admits N.spec.allowedOutbounds e.name = true := by
    rcases List.mem_append.1 h with hd | ht
    · have hd' := (List.mem_filter.1 hd).2
      simp only [isDiscovered, Bool.and_eq_true, decide_eq_true_eq] at hd'
      exact ⟨hd'.1.1.2, hd'.1.2, hd'.2⟩
    · obtain ⟨p, hp, he⟩ := List.mem_filterMap.1 ht
      rcases kept_route_target hp (externalTarget_eq_some.1 he).1 with ⟨n, hn, _⟩ | ⟨e', _, he', _, hreg, hin, hout⟩
      · obtain ⟨_, hnm, hname, hr⟩ := nodeTarget_eq_some.1 hn
        have := (externalTarget_eq_some.1 he).2.1 n hnm hname
        simp [hr] at this
      · obtain rfl : e = e' := Option.some.inj (he.symm.trans he')
        exact ⟨hreg, hin, hout⟩
  exact ⟨hgate.2.2, fun _ => .inr ⟨hno, e, hm, rfl, hgate.1, hgate.2.1⟩⟩

variable [MapOrder] {flags : Flags}

/-- What can be used has passed the gate, except possibly the node itself. -/
theorem Usable.bound {t : String} (h : c.Usable N t) (hne : t ≠ N.name) : c.Bound N t := by
  rcases h with ⟨n, hv, rfl, _⟩ | ⟨e, hv, rfl, _⟩
  · rcases mem_visibleNodes.1 hv with hp | ⟨hself, _⟩
    · exact peers_bound hp
    · exact absurd hself hne
  · exact visibleExternals_bound hv

theorem reached_usable_self (hN : N ∈ c.nodes) (ho : N.hasRole .outbound = true) :
    c.Reached N N.name ∧ c.Usable N N.name ↔ c.SelfRelayed N := by
  constructor
  · rintro ⟨hreach, hu⟩
    have hpol : ∃ p ∈ c.kept N, p.spec.action = .route ∧ c.egressName p = N.name := by
      rcases hreach with ⟨n, hn, hname⟩ | h | ⟨e, he, hname⟩
      · exact absurd hname (not_peer_self hn)
      · exact h
      · exact absurd hname (not_discovered_self he)
    rcases hu with ⟨n, hv, hname, hr⟩ | ⟨e, hv, hname, _⟩
    · obtain rfl := node_unique (visibleNodes_subset hv).1 hN hname
      rcases mem_visibleNodes.1 hv with hp | ⟨_, _, p, hp, ht⟩
      · exact absurd rfl (not_peer_self hp)
      · obtain ⟨ha, _, he, _⟩ := nodeTarget_eq_some.1 ht
        exact ⟨hr, ⟨p, hp, ha, he.symm⟩, hpol⟩
    · exact absurd hname.symm (visibleExternals_ne hN ho hv)
  · rintro ⟨hr, ⟨q, hq, hqa, hqe⟩, hpol⟩
    have ht : c.nodeTarget q = some N := nodeTarget_eq_some.2 ⟨hqa, hN, hqe.symm, ho⟩
    exact ⟨.inr (.inl hpol), .inl ⟨N, mem_visibleNodes_of_target hq ht, rfl, hr⟩⟩

/-! ## Reference closure -/

theorem configClosed_view (hN : N ∈ c.nodes) :
    ConfigClosed (computeConfig (c.view flags N)) ↔
      ¬ (ExcludesItself N ∧ (∃ u ∈ c.users, c.mayUse u N.name = true) ∧ ¬ c.SelfRelayed N) := by
  constructor
  · rintro ⟨hrules, _⟩ ⟨⟨hi, ho, hadm⟩, ⟨u, hu, hmay⟩, hself⟩
    have hserved : u ∈ c.servedUsers N := mem_servedUsers.2 ⟨hi, hu⟩
    have hrule : ∃ r ∈ (computeConfig (c.view flags N)).route.rules, r.outbound = outboundTag N.name :=
      (exists_rule_view (outboundTag_ne_empty _)).2 ⟨N.name, rfl, .inr ⟨.inr ⟨hi, ho, rfl⟩, u, hserved, hmay⟩⟩
    obtain ⟨r, hr, hout⟩ := hrule
    have hentry := hrules r hr (by rw [hout]; exact outboundTag_ne_empty _)
    rw [hout, exists_outbound_view] at hentry
    rcases hentry.2 with h | ⟨_, hadm', _⟩
    · exact hself ((reached_usable_self hN ho).1 h)
    · simp [hadm] at hadm'
  · intro hok
    refine ⟨fun r hr hne => ?_, final_is_tag _⟩
    obtain ⟨t, htag, hcase⟩ := (exists_rule_view hne).1 ⟨r, hr, rfl⟩
    rw [htag, exists_outbound_view]
    rcases hcase with ⟨⟨p, hp, ha, he⟩, hu⟩ | ⟨⟨hreach, hu⟩ | ⟨hi, ho, rfl⟩, u, hu', hmay⟩
    · exact ⟨(kept_route hp ha).1, .inl ⟨.inr (.inl ⟨p, hp, ha, he⟩), hu⟩⟩
    · exact ⟨(mem_servedUsers.1 hu').1, .inl ⟨hreach, hu⟩⟩
    · refine ⟨hi, ?_⟩
      by_cases hadm : admits N.spec.allowedOutbounds N.name = true
      · exact .inr ⟨ho, hadm, rfl⟩
      · refine .inl ((reached_usable_self hN ho).2 (not_not.1 fun hself => hok ?_))
        exact ⟨⟨hi, ho, by simpa using hadm⟩, ⟨u, (mem_servedUsers.1 hu').2, hmay⟩, hself⟩

/-! ## The gate on every path -/

/-- The two ways a name gets into a config: as a usable target, or as the node's own name. -/
def Referenced (c : Cluster) (N : SingBoxNode) (t : String) : Prop :=
  c.Reached N t ∧ c.Usable N t ∨
    N.hasRole .inbound = true ∧ N.hasRole .outbound = true ∧ t = N.name ∧
      (admits N.spec.allowedOutbounds N.name = true ∨ ∃ u ∈ c.users, c.mayUse u t = true)

theorem Target.referenced {t : String} (h : c.Target N t) {u : User} (hu : u ∈ c.servedUsers N)
    (hmay : c.mayUse u t = true) : c.Referenced N t := by
  rcases h with hru | ⟨hi, ho, hself⟩
  · exact .inl hru
  · exact .inr ⟨hi, ho, hself, .inr ⟨u, (mem_servedUsers.1 hu).2, hmay⟩⟩

theorem occurs_view {t : String} (h : Occurs c N (computeConfig (c.view flags N)) t) : c.Referenced N t := by
  rcases h with hout | ⟨r, hr, hrule⟩ | ⟨ib, hib, htag, e, he, v, hv, hlabel⟩
  · obtain ⟨hi, hru | ⟨ho, hadm, hself⟩⟩ := exists_outbound_view.1 hout
    · exact .inl hru
    · exact .inr ⟨hi, ho, hself, .inl hadm⟩
  · rcases hrule with hout | ⟨v, hv, hauth⟩
    · obtain ⟨t', ht', hcase⟩ := (exists_rule_view (outboundTag_ne_empty t)).1 ⟨r, hr, hout⟩
      obtain rfl := outboundTag_inj.1 ht'
      rcases hcase with ⟨hp, hu⟩ | ⟨ht, u, hu, hmay⟩
      · exact .inl ⟨.inr (.inl hp), hu⟩
      · exact ht.referenced hu hmay
    · -- users stand in the fallback rules of policies and in the rules of targets
      rw [computeConfig_rules] at hr
      rcases List.mem_append.1 hr with hr | hr
      · obtain ⟨p, hp, ha, hact, hin⟩ := mem_authUser_buildPolicyRules hr hauth
        rw [mem_policiesForNode] at hp
        obtain ⟨u, _, _, hname⟩ := mem_policyAuthUsers.1 hin
        rw [engineEgress_view hp ha] at hname
        obtain ⟨-, rfl⟩ := virtualUserName_inj.1 hname
        exact .inl ⟨.inr (.inl ⟨p, hp, ha, rfl⟩), (policyActive_view hp ha).1 hact⟩
      · split at hr
        · obtain ⟨t', ht', _, rfl⟩ := mem_targetRules.1 hr
          obtain ⟨u, hu, hallow, hname⟩ := mem_policyAuthUsers.1 hauth
          obtain ⟨-, rfl⟩ := virtualUserName_inj.1 hname
          rw [view_allows hu] at hallow
          exact (mem_targets_view.1 ht').referenced hu hallow
        · cases hr
  · rcases mem_inbounds.1 hib with ⟨_, _, _, rfl⟩ | ⟨_, rfl⟩
    · rcases mem_clientUsers.1 he with ⟨t', ht', u, hu, hallow, rfl⟩ | ⟨_, _, u, _, rfl⟩
      · rw [node_view, label_virtualUserEntry, Option.some.injEq] at hlabel
        obtain ⟨-, rfl⟩ := virtualUserName_inj.1 hlabel
        rw [view_allows hu] at hallow
        exact (mem_targets_view.1 ht').referenced hu hallow
      · rw [node_view, label_plainUserEntry, Option.some.injEq] at hlabel
        exact absurd hlabel.symm (virtualUserName_ne_name _ _ _)
    · exact absurd htag.symm (inboundTag_ne_relayTag N)

theorem occurs_bound_view (hN : N ∈ c.nodes) :
    (∀ t, Occurs c N (computeConfig (c.view flags N)) t → c.Bound N t) ↔
      ¬ (ExcludesItself N ∧ ((∃ u ∈ c.users, c.mayUse u N.name = true) ∨ c.SelfRelayed N)) := by
  constructor
  · rintro hall ⟨⟨hi, ho, hadm⟩, hself⟩
    have hocc : Occurs c N (computeConfig (c.view flags N)) N.name := by
      rcases hself with ⟨u, hu, hmay⟩ | hrel
      · obtain ⟨r, hr, hout⟩ := (exists_rule_view (outboundTag_ne_empty N.name)).2
          ⟨N.name, rfl, .inr ⟨.inr ⟨hi, ho, rfl⟩, u, mem_servedUsers.2 ⟨hi, hu⟩, hmay⟩⟩
        exact .inr (.inl ⟨r, hr, .inl hout⟩)
      · exact .inl (exists_outbound_view.2 ⟨hi, .inl ((reached_usable_self hN ho).2 hrel)⟩)
    simp [(hall _ hocc).1] at hadm
  · intro hok t hocc
    -- every other name has passed the gate on its way into the config
    by_cases hne : t = N.name
    · subst hne
      refine ⟨?_, fun h => absurd rfl h⟩
      by_contra hadm
      rw [Bool.not_eq_true] at hadm
      rcases occurs_view hocc with hru | ⟨hi, ho, _, hadm' | hmay⟩
      · obtain ⟨hreach, n, hv, hname, hr⟩ | ⟨_, e, hv, hname, _⟩ := and_or_left.1 hru
        · obtain rfl := node_unique (visibleNodes_subset hv).1 hN hname
          have hrel := (reached_usable_self hN (visibleNodes_subset hv).2).1 hru
          obtain ⟨p, hp, ha, _⟩ := hrel.2.1
          exact hok ⟨⟨(kept_route hp ha).1, (visibleNodes_subset hv).2, hadm⟩, .inr hrel⟩
        · have := (visibleExternals_bound hv).1
          rw [hname] at this
          simp [hadm] at this
      · simp [hadm] at hadm'
      · exact hok ⟨⟨hi, ho, hadm⟩, .inl hmay⟩
    · rcases occurs_view hocc with ⟨_, hu⟩ | ⟨_, _, hself, _⟩
      · exact hu.bound hne
      · exact absurd hself hne

end Cluster

/-! ## On what `collectInput` returns -/

section
variable [Library] [MapOrder]

/-- A config has no dangling outbound unless its node excludes itself, has a
user for itself, and is not relayed to itself by policies. -/
theorem configClosed_iff {flags : Flags} {c : Cluster} {N : SingBoxNode} {input : Input} (hN : N ∈ c.nodes)
    (h : collectInput flags c N = .ok input) :
    ConfigClosed (computeConfig input) ↔
      ¬ (Cluster.ExcludesItself N ∧ (∃ u ∈ c.users, c.mayUse u N.name = true) ∧ ¬ c.SelfRelayed N) := by
  rw [collectInput_ok h]
  exact Cluster.configClosed_view hN

/-- Every target named by a config has passed both allowlists and the region
check, unless the node excludes itself and has a user or a policy for itself. -/
theorem occurs_bound_iff {flags : Flags} {c : Cluster} {N : SingBoxNode} {input : Input} (hN : N ∈ c.nodes)
    (h : collectInput flags c N = .ok input) :
    (∀ t, Occurs c N (computeConfig input) t → c.Bound N t) ↔
      ¬ (Cluster.ExcludesItself N ∧ ((∃ u ∈ c.users, c.mayUse u N.name = true) ∨ c.SelfRelayed N)) := by
  rw [collectInput_ok h]
  exact Cluster.occurs_bound_view hN

end

/-! ### A node that excludes itself -/

def alice : User := { metadata := .named "alice", spec := { authSecret := { name := "alice-auth" } } }

/-- An inbound and outbound node that may only relay to `exit`. -/
def edge : SingBoxNode where
  metadata := .named "edge"
  spec :=
    { SingBoxNodeSpec.bare with
      address := "198.51.100.7", region := "hk", roles := [.inbound, .outbound], allowedOutbounds := ["exit"],
      supportedProtocols := [Port.https.listener .hysteria2] }

def edgeCluster : Cluster where
  ns := "proxy"
  nodes := [edge]
  users := [alice]
  nodes_nodup := by decide
  externalOutbounds_nodup := noExternals_nodup
  users_nodup := by decide
  policies_nodup := noPolicies_nodup

theorem edge_mem : edge ∈ edgeCluster.nodes := List.mem_singleton_self _

theorem edge_excludesItself : Cluster.ExcludesItself edge := by
  refine ⟨?_, ?_, ?_⟩ <;> decide

theorem alice_mayUse_edge : ∃ u ∈ edgeCluster.users, edgeCluster.mayUse u edge.name = true :=
  ⟨alice, List.mem_singleton_self _, by decide⟩

section
attribute [local instance] plainLibrary storedOrder

theorem edge_not_selfRelayed : ¬ edgeCluster.SelfRelayed edge := fun h => h.1 rfl

theorem edge_collected : collectInput {} edgeCluster edge = .ok (edgeCluster.view {} edge) :=
  collectInput_eq_ok {} ⟨rfl, rfl, rfl, fun _ => ⟨rfl, fun _ _ _ _ h => by cases h; rfl⟩⟩

/-- The rule for `alice#edge` names `outbound-edge`, and there is no such entry. -/
theorem not_forall_configClosed :
    ¬ ∀ [Library] [MapOrder] (flags : Flags) (c : Cluster) (N : SingBoxNode) (input : Input), N ∈ c.nodes →
      collectInput flags c N = .ok input → ConfigClosed (computeConfig input) := by
  intro h
  have hclosed := h {} edgeCluster edge _ edge_mem edge_collected
  exact (Cluster.configClosed_view edge_mem).1 hclosed ⟨edge_excludesItself, alice_mayUse_edge, edge_not_selfRelayed⟩

theorem configClosed_iff_edge :
    collectInput {} edgeCluster edge = .ok (edgeCluster.view {} edge) ∧
      ¬ ConfigClosed (computeConfig (edgeCluster.view {} edge)) :=
  ⟨edge_collected, fun h =>
    (configClosed_iff edge_mem edge_collected).1 h ⟨edge_excludesItself, alice_mayUse_edge, edge_not_selfRelayed⟩⟩

/-- The virtual user `alice#edge` and its rule are there, though `edge` is not in `allowedOutbounds`. -/
theorem not_forall_occurs_bound :
    ¬ ∀ [Library] [MapOrder] (flags : Flags) (c : Cluster) (N : SingBoxNode) (input : Input), N ∈ c.nodes →
      collectInput flags c N = .ok input → ∀ t, Occurs c N (computeConfig input) t → c.Bound N t := by
  intro h
  have hbound := h {} edgeCluster edge _ edge_mem edge_collected
  exact (Cluster.occurs_bound_view edge_mem).1 hbound ⟨edge_excludesItself, .inl alice_mayUse_edge⟩

theorem occurs_bound_iff_edge :
    collectInput {} edgeCluster edge = .ok (edgeCluster.view {} edge) ∧
      ¬ ∀ t, Occurs edgeCluster edge (computeConfig (edgeCluster.view {} edge)) t → edgeCluster.Bound edge t :=
  ⟨edge_collected, fun h =>
    (occurs_bound_iff edge_mem edge_collected).1 h ⟨edge_excludesItself, .inl alice_mayUse_edge⟩⟩

end

end SingboxOperator
