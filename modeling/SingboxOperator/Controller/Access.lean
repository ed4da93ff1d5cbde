import SingboxOperator.Controller.Credentials
import SingboxOperator.Controller.PolicyStatus
import SingboxOperator.Engine.Identity
/-!
# Where a user may end up

A group that denies a target takes its virtual users away, but that is not the
only way to a target. The match rule of a policy has no `auth_user`, so it
sends every user to its egress. And a node whose policies all have no usable
egress serves plain users without a single rule, so everything goes to the
final outbound, which is then one of the denied targets.

An entry belongs to the user it is named after. What sing-box knows of a connection
is the identity of the entry: for socks5 and http this is the UUID of the user,
which the lists of virtual users do not have, unless a Secret holds such a name.
-/
open SingboxOperator.Lib

namespace SingboxOperator

/-- The name on the entry a user has for a target, or for none. -/
def entryName (u : User) : Option String → String
  | some t => virtualUserName u.name t
  | none => u.name

section
variable {D : Type} (destMatches : EgressPolicyMatch → D → Bool)

/-- Nobody who comes in on the client inbound with an entry of a user is relayed to a
target the user may not use. -/
def KeepsOut (c : Cluster) (N : SingBoxNode) (cfg : SingboxConfig) : Prop :=
  ∀ u ∈ c.users, ∀ t, c.mayUse u t = false → ∀ ib ∈ cfg.inbounds, ib.tag = inboundTag N → ∀ e ∈ ib.users, ∀ s,
    e.label (effectiveInboundProtocol N) = some (entryName u s) → ∀ id,
      e.identity (effectiveInboundProtocol N) = some id → ∀ d : D,
        route destMatches cfg ⟨inboundTag N, id, d⟩ ≠ .outbound (outboundTag t)

namespace Cluster
variable {c : Cluster} {N : SingBoxNode} [Library] [MapOrder] {flags : Flags}

/-- The entries of a user: one for each target the user may use, or a plain one. -/
def HasEntry (c : Cluster) (N : SingBoxNode) (u : User) : Option String → Prop
  | some s => c.Target N s ∧ c.mayUse u s = true
  | none => c.ServesPlain N

/-- Who sing-box takes the user of an entry for. -/
def identityOf (c : Cluster) (N : SingBoxNode) (u : User) (s : Option String) : String :=
  if identifiesByUUID (effectiveInboundProtocol N) then (c.userCred u).uuid else entryName u s

/-- The identity is that of a virtual user for `t`. -/
def Lists (c : Cluster) (t id : String) : Prop :=
  ∃ v ∈ c.users, c.mayUse v t = true ∧ virtualUserName v.name t = id

/-- The policy has something to say about a destination and an identity: it takes
part, and matches the destination or rejects what else uses its egress. -/
def Decides (c : Cluster) (N : SingBoxNode) (id : String) (d : D) (p : EgressPolicy) : Prop :=
  p ∈ c.kept N ∧ (p.spec.action = .route → c.Usable N (c.egressName p)) ∧
    (policyMatches destMatches p d = true ∨
      p.spec.action = .route ∧ p.spec.fallbackAction = some .reject ∧ c.Lists (c.egressName p) id)

/-- No policy before it has. -/
def DecidesFirst (c : Cluster) (N : SingBoxNode) (id : String) (d : D) (p : EgressPolicy) : Prop :=
  c.Decides destMatches N id d p ∧ ∀ q, c.Decides destMatches N id d q → policyKey p ≤ policyKey q

/-- Policies apply but none takes part, nobody may use a target, and there is one. -/
def FinalExposed (c : Cluster) (N : SingBoxNode) : Prop :=
  c.ServesPlain N ∧ (∀ p ∈ c.kept N, p.spec.action = .route ∧ ¬ c.Usable N (c.egressName p)) ∧
    ∃ t, c.Reached N t ∧ c.Usable N t ∨
      N.hasRole .outbound = true ∧ admits N.spec.allowedOutbounds N.name = true ∧ t = N.name

/-! ## The entries of a user -/

omit [Library] [MapOrder] in
theorem identity_virtualEntry (u : User) (t : String) :
    (c.virtualEntry N t u).identity (effectiveInboundProtocol N) = some (c.identityOf N u (some t)) := by
  unfold virtualEntry identityOf
  cases effectiveInboundProtocol N <;> rfl

omit [Library] [MapOrder] in
theorem identity_plainEntry (u : User) :
    (c.plainEntry N u).identity (effectiveInboundProtocol N) = some (c.identityOf N u none) := by
  unfold plainEntry identityOf
  cases effectiveInboundProtocol N <;> rfl

/-- An entry that is named after a user is one of those the user has. -/
theorem HasEntry.of_label (hi : N.hasRole .inbound = true) {u : User} (hu : u ∈ c.users) {s : Option String}
    {e : UserEntry} (he : e ∈ clientUsers (c.view flags N))
    (hl : e.label (effectiveInboundProtocol N) = some (entryName u s)) :
    c.HasEntry N u s ∧ e.identity (effectiveInboundProtocol N) = some (c.identityOf N u s) := by
  rcases (mem_clientUsers_view hi).1 he with ⟨t, ht, v, hv, hmay, rfl⟩ | ⟨hplain, v, hv, rfl⟩
  · rw [virtualEntry, label_labelUser, Option.some.injEq] at hl
    cases s with
    | none => exact absurd hl (virtualUserName_ne_name _ _ _)
    | some s =>
      obtain ⟨hname, rfl⟩ := virtualUserName_inj.1 hl
      obtain rfl := user_unique hv hu hname
      exact ⟨⟨ht, hmay⟩, identity_virtualEntry v t⟩
  · rw [plainEntry, label_labelUser, Option.some.injEq] at hl
    cases s with
    | none =>
      obtain rfl := user_unique hv hu hl
      exact ⟨hplain, identity_plainEntry v⟩
    | some s => exact absurd hl.symm (virtualUserName_ne_name _ _ _)

theorem HasEntry.exists_entry (hi : N.hasRole .inbound = true) {u : User} (hu : u ∈ c.users) {s : Option String}
    (hs : c.HasEntry N u s) :
    ∃ e ∈ clientUsers (c.view flags N), e.label (effectiveInboundProtocol N) = some (entryName u s) := by
  cases s with
  | none => exact ⟨_, (mem_clientUsers_view hi).2 (.inr ⟨hs, u, hu, rfl⟩), label_labelUser _ _ _⟩
  | some s => exact ⟨_, (mem_clientUsers_view hi).2 (.inl ⟨s, hs.1, u, hu, hs.2, rfl⟩), label_labelUser _ _ _⟩

theorem serves_entryName_view {u : User} (hu : u ∈ c.users) {s : Option String} :
    Serves (c.view flags N) (entryName u s) ↔
      N.hasRole .inbound = true ∧ findProtocolPort N (effectiveInboundProtocol N) ≠ 0 ∧ c.HasEntry N u s := by
  rw [serves_iff]
  refine and_congr_right fun hi => and_congr_right fun _ => ?_
  constructor
  · rintro ⟨e, he, hl⟩
    exact (HasEntry.of_label hi hu he hl).1
  · intro hs
    exact hs.exists_entry hi hu

/-- The entries of a user, with what sing-box takes them for. -/
theorem exists_entry_view {u : User} (hu : u ∈ c.users) {s : Option String} {id : String} :
    (∃ ib ∈ (computeConfig (c.view flags N)).inbounds, ib.tag = inboundTag N ∧ ∃ e ∈ ib.users,
      e.label (effectiveInboundProtocol N) = some (entryName u s) ∧
        e.identity (effectiveInboundProtocol N) = some id) ↔
      N.hasRole .inbound = true ∧ findProtocolPort N (effectiveInboundProtocol N) ≠ 0 ∧ c.HasEntry N u s ∧
        c.identityOf N u s = id := by
  constructor
  · rintro ⟨ib, hib, htag, e, he, hl, hid⟩
    rcases mem_inbounds_view.1 hib with ⟨hi, hport, _, rfl⟩ | ⟨_, rfl⟩
    · obtain ⟨hs, hidentity⟩ := HasEntry.of_label hi hu he hl
      exact ⟨hi, hport, hs, Option.some.inj (hidentity.symm.trans hid)⟩
    · exact absurd htag.symm (inboundTag_ne_relayTag N)
  · rintro ⟨hi, hport, hs, rfl⟩
    obtain ⟨e, he, hl⟩ : ∃ e ∈ clientUsers (c.view flags N), _ := hs.exists_entry hi hu
    exact ⟨_, mem_inbounds_view.2 (.inl ⟨hi, hport, List.ne_nil_of_mem he, rfl⟩), rfl, e, he, hl,
      (HasEntry.of_label hi hu he hl).2⟩

/-- The rules of a target list its virtual users. -/
theorem mem_policyAuthUsers_view (hi : N.hasRole .inbound = true) {id t : String} :
    id ∈ policyAuthUsers (c.view flags N) t ↔ c.Lists t id := by
  rw [mem_policyAuthUsers]
  constructor
  · rintro ⟨v, hv, hallow, rfl⟩
    exact ⟨v, (mem_servedUsers.1 hv).2, (view_allows hv t).symm.trans hallow, rfl⟩
  · rintro ⟨v, hv, hmay, rfl⟩
    have hv' : v ∈ c.servedUsers N := mem_servedUsers.2 ⟨hi, hv⟩
    exact ⟨v, hv', (view_allows hv' t).trans hmay, rfl⟩

omit [Library] [MapOrder] in
/-- An identity is that of a virtual user for one target at most. -/
theorem Lists.unique {id t t' : String} (h : c.Lists t id) (h' : c.Lists t' id) : t = t' := by
  obtain ⟨_, _, _, rfl⟩ := h
  obtain ⟨_, _, _, hname⟩ := h'
  exact (virtualUserName_inj.1 hname).2.symm

/-! ## Policies -/

/-- What a policy says when it decides. -/
def verdict (c : Cluster) (d : D) (p : EgressPolicy) : Verdict :=
  if p.spec.action = .route ∧ policyMatches destMatches p d = true then .outbound (outboundTag (c.egressName p))
  else .reject

theorem policyVerdict_view (hi : N.hasRole .inbound = true) {id : String} {d : D} {p : EgressPolicy}
    (hp : p ∈ c.kept N) {v : Verdict} :
    policyVerdict destMatches (c.view flags N) id d p = some v ↔
      c.Decides destMatches N id d p ∧ v = c.verdict destMatches d p := by
  unfold policyVerdict takesPart policyAction Decides verdict
  cases ha : p.spec.action with
  | reject => cases hm : policyMatches destMatches p d <;> simp [hp, eq_comm]
  | route =>
    have hlists : id ∈ policyAuthUsers (c.view flags N) (c.egressName p) ↔ c.Lists (c.egressName p) id :=
      mem_policyAuthUsers_view hi
    simp only [engineEgress_view hp ha]
    by_cases hu : c.Usable N (c.egressName p)
    · have hact : policyActive (c.view flags N) p = true := (policyActive_view hp ha).2 hu
      cases hm : policyMatches destMatches p d <;> simp [hp, hu, hact, hlists, eq_comm]
    · have hact : policyActive (c.view flags N) p = false :=
        Bool.eq_false_iff.2 fun h => hu ((policyActive_view hp ha).1 h)
      simp [hu, hact]

/-- Of two policies that decide first there is one. -/
theorem DecidesFirst.unique {id : String} {d : D} {p q : EgressPolicy} (hp : c.DecidesFirst destMatches N id d p)
    (hq : c.DecidesFirst destMatches N id d q) : p = q := by
  have hkey : policyKey p = policyKey q := le_antisymm (hp.2 q hq.1) (hq.2 p hp.1)
  exact policyKey_inj hp.1.1 hq.1.1 hkey

/-- Where an identity leads: the first policy that decides, the target it is a virtual user for, the final outbound. -/
theorem route_view (flags : Flags) (hi : N.hasRole .inbound = true) (id : String) (d : D) :
    (∃ p, c.DecidesFirst destMatches N id d p ∧
      route destMatches (computeConfig (c.view flags N)) ⟨inboundTag N, id, d⟩ = c.verdict destMatches d p) ∨
    (∀ p, ¬ c.Decides destMatches N id d p) ∧
      ((∃ t, c.Target N t ∧ c.Lists t id ∧
        route destMatches (computeConfig (c.view flags N)) ⟨inboundTag N, id, d⟩ = .outbound (outboundTag t)) ∨
      (∀ t, c.Target N t → ¬ c.Lists t id) ∧
        route destMatches (computeConfig (c.view flags N)) ⟨inboundTag N, id, d⟩ =
          .outbound (computeConfig (c.view flags N)).route.final) := by
  have hverdict : ∀ {p v}, p ∈ c.kept N → (policyVerdict destMatches (c.view flags N) id d p = some v ↔
      c.Decides destMatches N id d p ∧ v = c.verdict destMatches d p) :=
    fun hp => policyVerdict_view destMatches hi hp
  rcases route_least destMatches (c.view flags N) hi id d with ⟨p, hp, v, hd, hleast, hroute⟩ | ⟨hnone, hroute⟩
  · left
    obtain ⟨hdec, rfl⟩ := (hverdict hp).1 hd
    refine ⟨p, ⟨hdec, fun q hq => hleast q hq.1 ?_⟩, hroute⟩
    rw [(hverdict hq.1).2 ⟨hq, rfl⟩]
    rfl
  · refine .inr ⟨fun p hp => ?_, ?_⟩
    · have := hnone p hp.1
      rw [(hverdict hp.1).2 ⟨hp, rfl⟩] at this
      cases this
    · rw [node_view] at hroute
      rw [hroute]
      cases hfind : (targets (c.view flags N)).find? (fun t => id ∈ policyAuthUsers (c.view flags N) t) with
      | some t =>
        have hlists : c.Lists t id := (mem_policyAuthUsers_view hi).1 (by simpa using List.find?_some hfind)
        exact .inl ⟨t, mem_targets_view.1 (List.mem_of_find?_eq_some hfind), hlists, rfl⟩
      | none =>
        refine .inr ⟨fun t ht hlists => ?_, rfl⟩
        have hnot := List.find?_eq_none.1 hfind t (mem_targets_view.2 ht)
        exact hnot (decide_eq_true ((mem_policyAuthUsers_view hi).2 hlists))

/-! ## The final outbound -/

/-- There is no rule exactly when nobody may use a target and no policy takes part. -/
theorem rules_eq_nil_view :
    (computeConfig (c.view flags N)).route.rules = [] ↔
      (N.hasRole .inbound = true → ∀ t, c.Target N t → ∀ u ∈ c.users, c.mayUse u t = false) ∧
        ∀ p ∈ c.kept N, p.spec.action = .route ∧ ¬ c.Usable N (c.egressName p) := by
  have htargets : targetRules (c.view flags N) (targets (c.view flags N)) = [] ↔ NoPair (c.view flags N) := by
    rw [targetRules_eq, List.map_eq_nil_iff, List.filter_eq_nil_iff]
    simp [NoPair, hasUser_iff]
  have hpolicies : buildPolicyRules (c.view flags N) (policiesForNode (c.view flags N)) = [] ↔
      ∀ p ∈ c.kept N, p.spec.action = .route ∧ ¬ c.Usable N (c.egressName p) := by
    rw [buildPolicyRules, List.flatMap_eq_nil_iff]
    refine forall_congr' fun p => ?_
    rw [mem_policiesForNode, egressPolicies_view]
    refine imp_congr_right fun hp => ?_
    cases ha : p.spec.action with
    | reject => simp [policyRules_reject ha]
    | route =>
      have hactive : policyActive (c.view flags N) p = true ↔ c.Usable N (c.egressName p) := policyActive_view hp ha
      rw [policyRules_route ha, ← hactive]
      by_cases hact : policyActive (c.view flags N) p = true <;> simp [hact]
  rw [computeConfig_rules, List.append_eq_nil_iff, hpolicies, and_comm, node_view]
  refine and_congr_left fun _ => ?_
  by_cases hi : N.hasRole .inbound = true
  · rw [if_pos hi, htargets, noPair_view hi]
    exact ⟨fun h _ => h, fun h => h hi⟩
  · simp [hi]

/-- A node that serves plain users has no rule exactly when none of its policies takes part. -/
theorem ServesPlain.rules_eq_nil (h : c.ServesPlain N) :
    (computeConfig (c.view flags N)).route.rules = [] ↔
      ∀ p ∈ c.kept N, p.spec.action = .route ∧ ¬ c.Usable N (c.egressName p) := by
  rw [rules_eq_nil_view]
  exact ⟨And.right, fun hnone => ⟨fun _ => h.1, hnone⟩⟩

/-- Every entry but `direct` is that of a target. -/
theorem exists_target_of_tag (hi : N.hasRole .inbound = true) {o : Outbound}
    (ho : o ∈ (computeConfig (c.view flags N)).outbounds) (hne : o.tag ≠ "direct") :
    ∃ t, o.tag = outboundTag t ∧ c.Target N t := by
  rcases exists_outbound_tag.1 ⟨o, ho, rfl⟩ with h | ⟨_, o', ho', htag⟩
  · exact absurd h hne
  · rcases mem_clientOutbounds_view.1 ho' with ⟨t, hreach, hren⟩ | ⟨_, hout, _, rfl⟩
    · exact ⟨t, htag ▸ hren.tag, .inl ⟨hreach, exists_renders.1 ⟨o', hren⟩⟩⟩
    · exact ⟨N.name, htag.symm, .inr ⟨hi, hout, rfl⟩⟩

theorem FinalExposed.final (flags : Flags) (h : c.FinalExposed N) (hi : N.hasRole .inbound = true) :
    ∃ t, (computeConfig (c.view flags N)).route.final = outboundTag t ∧ c.Target N t := by
  obtain ⟨hplain, hnone, t, ht⟩ := h
  have hrules : (computeConfig (c.view flags N)).route.rules = [] := hplain.rules_eq_nil.2 hnone
  obtain ⟨o, ho, htag⟩ := exists_outbound_view.2 ⟨hi, ht⟩
  rw [computeConfig_final, hrules, if_neg (by simp)]
  rcases routeFinal_cases (computeConfig (c.view flags N)).outbounds with ⟨_, hall⟩ | ⟨o', ho', hfinal, hne, _⟩
  · rcases hall o ho with h | h
    · exact absurd (htag.symm.trans h) (outboundTag_ne_direct t)
    · exact absurd (htag.symm.trans h) (outboundTag_ne_empty t)
  · rw [hfinal]
    exact exists_target_of_tag hi ho' hne

theorem finalExposed_of_final (hplain : c.ServesPlain N) {t : String}
    (h : (computeConfig (c.view flags N)).route.final = outboundTag t) : c.FinalExposed N := by
  have hentry : ∃ o ∈ (computeConfig (c.view flags N)).outbounds, o.tag = outboundTag t := h ▸ final_is_tag _
  rw [computeConfig_final] at h
  by_cases hrules : (computeConfig (c.view flags N)).route.rules = []
  · exact ⟨hplain, hplain.rules_eq_nil.1 hrules, t, (exists_outbound_view.1 hentry).2⟩
  · rw [if_pos hrules] at h
    exact absurd h.symm (outboundTag_ne_direct t)

/-- Whoever has an entry is sent to the final outbound, if that is a target, by a node that serves plain users only. -/
theorem HasEntry.finalExposed {u : User} (hu : u ∈ c.users) {s : Option String} (hs : c.HasEntry N u s)
    (hi : N.hasRole .inbound = true) {t : String}
    (h : (computeConfig (c.view flags N)).route.final = outboundTag t) : c.FinalExposed N := by
  cases s with
  | none => exact finalExposed_of_final hs h
  | some s =>
    have hrules : (computeConfig (c.view flags N)).route.rules ≠ [] := by
      intro hnil
      have hdenied := (rules_eq_nil_view.1 hnil).1 hi s hs.1 u hu
      rw [hs.2] at hdenied
      cases hdenied
    rw [computeConfig_final, if_pos hrules] at h
    exact absurd h.symm (outboundTag_ne_direct t)

/-! ## Denied targets -/

theorem keepsOut_view [Nonempty D] :
    KeepsOut destMatches c N (computeConfig (c.view flags N)) ↔
      (N.hasRole .inbound = true → findProtocolPort N (effectiveInboundProtocol N) ≠ 0 → ∀ u ∈ c.users,
        (∀ s, c.HasEntry N u s → ∀ d,
          (∀ p, c.DecidesFirst destMatches N (c.identityOf N u s) d p → p.spec.action = .route →
            policyMatches destMatches p d = true → c.mayUse u (c.egressName p) = true) ∧
          ((∀ p, ¬ c.Decides destMatches N (c.identityOf N u s) d p) →
            ∀ t, c.Target N t → c.Lists t (c.identityOf N u s) → c.mayUse u t = true)) ∧
        ¬ c.FinalExposed N) := by
  constructor
  · intro hkeep hi hport u hu
    have hroute : ∀ s, c.HasEntry N u s → ∀ t, c.mayUse u t = false → ∀ d,
        route destMatches (computeConfig (c.view flags N)) ⟨inboundTag N, c.identityOf N u s, d⟩ ≠
          .outbound (outboundTag t) := by
      intro s hs t ht d
      obtain ⟨ib, hib, htag, e, he, hl, hid⟩ := (exists_entry_view hu).2 ⟨hi, hport, hs, rfl⟩
      exact hkeep u hu t ht ib hib htag e he s hl _ hid d
    refine ⟨fun s hs d => ⟨fun p hfirst ha hm => ?_, fun hnone t ht hlists => ?_⟩, fun hexp => ?_⟩
    · by_contra hmay
      refine hroute s hs _ (by simpa using hmay) d ?_
      rcases route_view destMatches flags hi (c.identityOf N u s) d with ⟨q, hq, heq⟩ | ⟨hnone, _⟩
      · rw [heq, ← hfirst.unique destMatches hq, verdict, if_pos ⟨ha, hm⟩]
      · exact absurd hfirst.1 (hnone p)
    · by_contra hmay
      refine hroute s hs t (by simpa using hmay) d ?_
      rcases route_view destMatches flags hi (c.identityOf N u s) d with ⟨q, hq, _⟩ | ⟨_, hother⟩
      · exact absurd hq.1 (hnone q)
      · rcases hother with ⟨t', _, hlists', heq⟩ | ⟨hno, _⟩
        · rw [heq, hlists.unique hlists']
        · exact absurd hlists (hno t ht)
    · -- without a rule every connection goes to the final outbound
      obtain ⟨d⟩ := (inferInstance : Nonempty D)
      obtain ⟨t, hfinal, ht⟩ := hexp.final flags hi
      refine hroute none hexp.1 t (hexp.1.1 t ht u hu) d ?_
      rcases route_view destMatches flags hi (c.identityOf N u none) d with ⟨q, hq, _⟩ | ⟨_, hother⟩
      · obtain ⟨hqk, huse, _⟩ := hq.1
        obtain ⟨ha, hno⟩ := hexp.2.1 q hqk
        exact absurd (huse ha) hno
      · rcases hother with ⟨t', ht', ⟨v, hv, hmay, _⟩, _⟩ | ⟨_, heq⟩
        · rw [hexp.1.1 t' ht' v hv] at hmay
          cases hmay
        · rw [heq, hfinal]
  · intro hok u hu t ht ib hib htag e he s hl id hid d heq
    obtain ⟨hi, hport, hs, rfl⟩ := (exists_entry_view hu).1 ⟨ib, hib, htag, e, he, hl, hid⟩
    obtain ⟨hentries, hfinal⟩ := hok hi hport u hu
    obtain ⟨hpolicy, htarget⟩ := hentries s hs d
    rcases route_view destMatches flags hi (c.identityOf N u s) d with ⟨p, hp, hroute⟩ | ⟨hnone, hother⟩
    · rw [hroute, verdict] at heq
      split at heq
      · rename_i hm
        obtain rfl := outboundTag_inj.1 (Verdict.outbound.inj heq)
        rw [hpolicy p hp hm.1 hm.2] at ht
        cases ht
      · cases heq
    · rcases hother with ⟨t', ht', hlists, hroute⟩ | ⟨_, hroute⟩
      · rw [hroute] at heq
        obtain rfl := outboundTag_inj.1 (Verdict.outbound.inj heq)
        rw [htarget hnone t' ht' hlists] at ht
        cases ht
      · rw [hroute] at heq
        exact hfinal (hs.finalExposed hu hi (Verdict.outbound.inj heq))

end Cluster

/-- Denied targets are kept out of reach exactly when, for the identity of every entry,
the route policy that is the first to decide about a destination has an egress the
user may use, and so is the target it is taken for a virtual user of where no policy
decides; and the final outbound is not a target. -/
theorem keepsOut_iff [Library] [MapOrder] [Nonempty D] {flags : Flags} {c : Cluster} {N : SingBoxNode} {input : Input}
    (h : collectInput flags c N = .ok input) :
    KeepsOut destMatches c N (computeConfig input) ↔
      (N.hasRole .inbound = true → findProtocolPort N (effectiveInboundProtocol N) ≠ 0 → ∀ u ∈ c.users,
        (∀ s, c.HasEntry N u s → ∀ d,
          (∀ p, c.DecidesFirst destMatches N (c.identityOf N u s) d p → p.spec.action = .route →
            policyMatches destMatches p d = true → c.mayUse u (c.egressName p) = true) ∧
          ((∀ p, ¬ c.Decides destMatches N (c.identityOf N u s) d p) →
            ∀ t, c.Target N t → c.Lists t (c.identityOf N u s) → c.mayUse u t = true)) ∧
        ¬ c.FinalExposed N) := by
  rw [collectInput_ok h]
  exact Cluster.keepsOut_view destMatches

end

/-! ### A policy for everybody -/

def dave : User where
  metadata := .named "dave"
  spec := { authSecret := { name := "dave-auth" }, userGroupRef := "guests" }

/-- Guests may not be relayed through `exit`. -/
def guests : UserGroup := { metadata := .named "guests", spec := { deniedNodes := ["exit"] } }

def guestCluster : Cluster where
  ns := "proxy"
  nodes := [entryNode, exitNode, spareNode]
  users := [dave]
  policies := [viaExit]
  userGroup name := if name = "guests" then .ok guests else .error ⟨true, "not found"⟩
  nodes_nodup := staleCluster.nodes_nodup
  externalOutbounds_nodup := noExternals_nodup
  users_nodup := by decide
  policies_nodup := staleCluster.policies_nodup

section
attribute [local instance] plainLibrary storedOrder

theorem guestCluster_collected : collectInput {} guestCluster entryNode = .ok (guestCluster.view {} entryNode) := by
  refine collectInput_eq_ok {} ⟨rfl, rfl, rfl, fun _ => ⟨rfl, fun u hu _ e he => ?_⟩⟩
  rw [List.mem_singleton.1 hu] at he
  cases he

theorem dave_hasEntry : guestCluster.HasEntry entryNode dave (some "spare") := by
  have hpeer : spareNode ∈ guestCluster.peers entryNode :=
    Cluster.mem_peers.2 ⟨List.mem_cons_of_mem _ (List.mem_cons_of_mem _ List.mem_cons_self), by decide⟩
  exact ⟨.inl ⟨.inl ⟨spareNode, hpeer, rfl⟩, (Cluster.usable_of_peer hpeer).2 (by decide)⟩, by decide⟩

theorem viaExit_decidesFirst :
    guestCluster.DecidesFirst inDomain entryNode "dave#spare" "a.example" viaExit := by
  have hpeer : exitNode ∈ guestCluster.peers entryNode :=
    Cluster.mem_peers.2 ⟨List.mem_cons_of_mem _ List.mem_cons_self, by decide⟩
  have hkept : viaExit ∈ guestCluster.kept entryNode := Cluster.mem_kept.2 ⟨List.mem_singleton_self _, by decide⟩
  refine ⟨⟨hkept, fun _ => ?_, .inl (by decide)⟩, fun q hq => ?_⟩
  · rw [show guestCluster.egressName viaExit = exitNode.name by decide]
    exact (Cluster.usable_of_peer hpeer).2 (by decide)
  · rw [List.mem_singleton.1 (Cluster.mem_kept.1 hq.1).1]

theorem dave_denied : guestCluster.mayUse dave (guestCluster.egressName viaExit) ≠ true := by decide

/-- A guest with the entry `dave#spare` who asks for `a.example` is relayed through `exit`. -/
theorem not_forall_keepsOut :
    ¬ ∀ [Library] [MapOrder] (D : Type) (destMatches : EgressPolicyMatch → D → Bool) (flags : Flags) (c : Cluster)
      (N : SingBoxNode) (input : Input), N ∈ c.nodes → collectInput flags c N = .ok input →
        KeepsOut destMatches c N (computeConfig input) := by
  intro h
  have hkeep := h String inDomain {} guestCluster entryNode _ List.mem_cons_self guestCluster_collected
  have hall := (Cluster.keepsOut_view inDomain).1 hkeep (by decide) (by decide) dave (List.mem_singleton_self _)
  exact dave_denied ((hall.1 _ dave_hasEntry _).1 viaExit viaExit_decidesFirst rfl (by decide))

theorem keepsOut_iff_guest :
    collectInput {} guestCluster entryNode = .ok (guestCluster.view {} entryNode) ∧
      ¬ KeepsOut inDomain guestCluster entryNode (computeConfig (guestCluster.view {} entryNode)) :=
  ⟨guestCluster_collected, fun hkeep => dave_denied
    ((((keepsOut_iff inDomain guestCluster_collected).1 hkeep (by decide) (by decide) dave
      (List.mem_singleton_self _)).1 _ dave_hasEntry _).1 viaExit viaExit_decidesFirst rfl (by decide))⟩

end

end SingboxOperator
