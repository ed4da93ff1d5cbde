import SingboxOperator.Engine.Identity
/-!
# Whose credential it is

A client shows a secret derived from the UUID of a user and a target. The
secrets of two pairs differ when the derived messages do, as long as the digest
does not collide on them. The message of a password is the UUID, a `#` and the
target, which can be taken apart again. The message of a vless UUID starts with
the sixteen bytes of the UUID, and these are all zero for every text that is
not a UUID: such texts are one and the same to vless.
-/
open SingboxOperator.Lib

namespace SingboxOperator

/-! ## Messages and digests -/

/-- The namespace of `deriveUUID`. -/
def uuidNamespace (baseUUID : String) : List UInt8 :=
  match hexDecode (baseUUID.toList.filter (· ≠ '-')) with
  | some bytes => if bytes.length ≠ 16 then List.replicate 16 0 else bytes
  | none => List.replicate 16 0

/-- The text of a version 5 UUID, from the message that is hashed. -/
def uuidDigest (msg : List UInt8) : String :=
  let h := ((sha1 msg).modify 6 fun b => (b &&& 0x0f) ||| 0x50).modify 8 fun b => (b &&& 0x3f) ||| 0x80
  let part := fun i n => hexEncode ((h.drop i).take n)
  part 0 4 ++ "-" ++ part 4 2 ++ "-" ++ part 6 2 ++ "-" ++ part 8 2 ++ "-" ++ part 10 6

/-- The first 128 bits of the hash, in hexadecimal. -/
def passwordDigest (msg : List UInt8) : String := String.ofList ((hexEncode (sha256 msg)).toList.take 32)

/-- What a client is let in by: the UUID for vless, the password otherwise. -/
def UserEntry.secret (protocol : Protocol) (e : UserEntry) : Option String :=
  if protocol = .vless then e.uuid else e.password

def secretDigest (protocol : Protocol) : List UInt8 → String :=
  if protocol = .vless then uuidDigest else passwordDigest

def secretMessage (protocol : Protocol) (uuid t : String) : List UInt8 :=
  if protocol = .vless then uuidNamespace uuid ++ bytesOf t else bytesOf (uuid ++ "#" ++ t)

theorem secret_deriveAuth (proto : Protocol) (uuid t : String) :
    (deriveAuth proto uuid t).secret proto = some (secretDigest proto (secretMessage proto uuid t)) := by
  cases proto <;> rfl

theorem secret_labelUser (proto : Protocol) (auth : UserEntry) (label : String) :
    (labelUser proto auth label).secret proto = auth.secret proto := by
  unfold labelUser
  split <;> rfl

/-! ## Two pairs -/

/-- The same text up to letter case and hyphens. -/
def SameUUID (a b : String) : Prop :=
  (a.toList.filter (· ≠ '-')).map Char.toLower = (b.toList.filter (· ≠ '-')).map Char.toLower

instance (a b : String) : Decidable (SameUUID a b) := inferInstanceAs (Decidable (_ = _))

/-- Equal secrets belong to one target and one UUID. -/
def Separated (proto : Protocol) (uuid₁ t₁ uuid₂ t₂ : String) : Prop :=
  (deriveAuth proto uuid₁ t₁).secret proto = (deriveAuth proto uuid₂ t₂).secret proto → t₁ = t₂ ∧ SameUUID uuid₁ uuid₂

/-- Two texts vless takes for the zero UUID. -/
def Merged (proto : Protocol) (uuid₁ t₁ uuid₂ t₂ : String) : Prop :=
  proto = .vless ∧ t₁ = t₂ ∧ uuidNamespace uuid₁ = List.replicate 16 0 ∧ uuidNamespace uuid₂ = List.replicate 16 0 ∧
    ¬ SameUUID uuid₁ uuid₂

theorem uuidNamespace_length (uuid : String) : (uuidNamespace uuid).length = 16 := by
  unfold uuidNamespace
  split
  · split
    · exact List.length_replicate
    · rename_i h
      exact not_not.1 h
  · exact List.length_replicate

/-- A namespace that is not zero is that of one UUID. -/
theorem sameUUID_of_namespace {a b : String} (h : uuidNamespace a = uuidNamespace b)
    (hne : uuidNamespace a ≠ List.replicate 16 0) : SameUUID a b := by
  have hdecode : ∀ u, uuidNamespace u ≠ List.replicate 16 0 →
      hexDecode (u.toList.filter (· ≠ '-')) = some (uuidNamespace u) := by
    intro u hu
    unfold uuidNamespace at hu ⊢
    split at hu
    · rename_i hd
      split at hu
      · exact absurd rfl hu
      · rename_i hl
        rw [hd]
        simp only [hl, if_false]
    · exact absurd rfl hu
  exact hexDecode_inj (hdecode a hne) (h ▸ hdecode b (h ▸ hne))

/-- The message tells the target and the UUID, unless vless does not tell the UUIDs apart. -/
theorem secretMessage_inj {proto : Protocol} {uuid₁ t₁ uuid₂ t₂ : String} (h₁ : '#' ∉ t₁.toList) (h₂ : '#' ∉ t₂.toList)
    (h : secretMessage proto uuid₁ t₁ = secretMessage proto uuid₂ t₂) :
    t₁ = t₂ ∧ (SameUUID uuid₁ uuid₂ ∨ Merged proto uuid₁ t₁ uuid₂ t₂) := by
  unfold secretMessage at h
  by_cases hv : proto = .vless
  · rw [if_pos hv, if_pos hv] at h
    obtain ⟨hns, ht⟩ := List.append_inj h ((uuidNamespace_length _).trans (uuidNamespace_length _).symm)
    have ht := bytesOf_inj.1 ht
    refine ⟨ht, ?_⟩
    by_cases hz : uuidNamespace uuid₁ = List.replicate 16 0
    · by_cases hs : SameUUID uuid₁ uuid₂
      · exact .inl hs
      · exact .inr ⟨hv, ht, hz, hns ▸ hz, hs⟩
    · exact .inl (sameUUID_of_namespace hns hz)
  · rw [if_neg hv, if_neg hv, bytesOf_inj] at h
    have h' := congrArg String.toList h
    simp only [String.toList_append, List.append_assoc] at h'
    obtain ⟨hu, ht⟩ := (append_cons_inj_last h₁ h₂).1 h'
    exact ⟨String.toList_inj.1 ht, .inl (congrArg _ (congrArg _ hu))⟩

theorem Merged.message_eq {proto : Protocol} {uuid₁ t₁ uuid₂ t₂ : String} (h : Merged proto uuid₁ t₁ uuid₂ t₂) :
    secretMessage proto uuid₂ t₂ = secretMessage proto uuid₁ t₁ := by
  obtain ⟨hv, ht, h₁, h₂, _⟩ := h
  rw [secretMessage, secretMessage, if_pos hv, if_pos hv, h₁, h₂, ht]

theorem Merged.not_separated {proto : Protocol} {uuid₁ t₁ uuid₂ t₂ : String} (h : Merged proto uuid₁ t₁ uuid₂ t₂) :
    ¬ Separated proto uuid₁ t₁ uuid₂ t₂ := by
  intro hsep
  have hsecret : (deriveAuth proto uuid₁ t₁).secret proto = (deriveAuth proto uuid₂ t₂).secret proto := by
    rw [secret_deriveAuth, secret_deriveAuth, h.message_eq]
  obtain ⟨_, _, _, _, hs⟩ := h
  exact hs (hsep hsecret).2

theorem separated_of_injOn {proto : Protocol} {S : Set (List UInt8)} (hinj : Set.InjOn (secretDigest proto) S)
    {uuid₁ t₁ uuid₂ t₂ : String} (h₁ : '#' ∉ t₁.toList) (h₂ : '#' ∉ t₂.toList)
    (hm₁ : secretMessage proto uuid₁ t₁ ∈ S) (hm₂ : secretMessage proto uuid₂ t₂ ∈ S) :
    Separated proto uuid₁ t₁ uuid₂ t₂ ↔ ¬ Merged proto uuid₁ t₁ uuid₂ t₂ := by
  refine ⟨fun hsep hmerged => hmerged.not_separated hsep, fun hnot hsecret => ?_⟩
  rw [secret_deriveAuth, secret_deriveAuth, Option.some.injEq] at hsecret
  obtain ⟨ht, hs | hmerged⟩ := secretMessage_inj h₁ h₂ (hinj hm₁ hm₂ hsecret)
  · exact ⟨ht, hs⟩
  · exact absurd hmerged hnot

/-! ## One inbound -/

section
variable [Library] [MapOrder]

/-- The client inbound has this entry for the user, and the target its secret is for. -/
def EntryOf (input : Input) (u : User) (t : String) (e : UserEntry) : Prop :=
  (t ∈ targets input ∧ u ∈ input.users ∧ input.allows u t = true ∧
      e = virtualUserEntry input (effectiveInboundProtocol input.node) t u) ∨
    (NoPair input ∧ (input.egressPolicies ≠ [] ∨ hasOutboundPeers input = false) ∧ u ∈ input.users ∧
      t = input.node.name ∧ e = plainUserEntry input (effectiveInboundProtocol input.node) t u)

theorem mem_clientUsers_iff_entryOf {input : Input} {e : UserEntry} :
    e ∈ clientUsers input ↔ ∃ u t, EntryOf input u t e := by
  rw [mem_clientUsers]
  constructor
  · rintro (⟨t, ht, u, hu, hallow, he⟩ | ⟨hpair, hmode, u, hu, he⟩)
    · exact ⟨u, t, .inl ⟨ht, hu, hallow, he⟩⟩
    · exact ⟨u, _, .inr ⟨hpair, hmode, hu, rfl, he⟩⟩
  · rintro ⟨u, t, ⟨ht, hu, hallow, he⟩ | ⟨hpair, hmode, hu, rfl, he⟩⟩
    · exact .inl ⟨t, ht, u, hu, hallow, he⟩
    · exact .inr ⟨hpair, hmode, u, hu, he⟩

theorem EntryOf.secret {input : Input} {u : User} {t : String} {e : UserEntry} (h : EntryOf input u t e) :
    e.secret (effectiveInboundProtocol input.node) =
      (deriveAuth (effectiveInboundProtocol input.node) (userUUID input u) t).secret (effectiveInboundProtocol input.node) := by
  rcases h with ⟨_, _, _, rfl⟩ | ⟨_, _, _, _, rfl⟩ <;> exact secret_labelUser _ _ _

end

/-- Wherever the digest does not collide, equal secrets belong to one target
and one UUID unless vless takes both texts for the zero UUID. The same holds
for the entries of one inbound. -/
theorem separated_iff (proto : Protocol) {S : Set (List UInt8)} (hinj : Set.InjOn (secretDigest proto) S) :
    (∀ uuid₁ t₁ uuid₂ t₂ : String, '#' ∉ t₁.toList → '#' ∉ t₂.toList → secretMessage proto uuid₁ t₁ ∈ S →
      secretMessage proto uuid₂ t₂ ∈ S → (Separated proto uuid₁ t₁ uuid₂ t₂ ↔ ¬ Merged proto uuid₁ t₁ uuid₂ t₂)) ∧
    ∀ [Library] [MapOrder] (input : Input), effectiveInboundProtocol input.node = proto →
      (∀ u t e, EntryOf input u t e → '#' ∉ t.toList ∧ secretMessage proto (userUUID input u) t ∈ S) →
      ((∀ u₁ t₁ e₁ u₂ t₂ e₂, EntryOf input u₁ t₁ e₁ → EntryOf input u₂ t₂ e₂ → e₁.secret proto = e₂.secret proto →
          t₁ = t₂ ∧ SameUUID (userUUID input u₁) (userUUID input u₂)) ↔
        ∀ u₁ t₁ e₁ u₂ t₂ e₂, EntryOf input u₁ t₁ e₁ → EntryOf input u₂ t₂ e₂ →
          ¬ Merged proto (userUUID input u₁) t₁ (userUUID input u₂) t₂) := by
  refine ⟨fun _ _ _ _ h₁ h₂ hm₁ hm₂ => separated_of_injOn hinj h₁ h₂ hm₁ hm₂, ?_⟩
  rintro _ _ input rfl hentries
  refine forall_congr' fun u₁ => forall_congr' fun t₁ => forall_congr' fun e₁ => forall_congr' fun u₂ =>
    forall_congr' fun t₂ => forall_congr' fun e₂ => forall_congr' fun h₁ => forall_congr' fun h₂ => ?_
  obtain ⟨hash₁, hm₁⟩ := hentries _ _ _ h₁
  obtain ⟨hash₂, hm₂⟩ := hentries _ _ _ h₂
  rw [h₁.secret, h₂.secret]
  exact separated_of_injOn hinj hash₁ hash₂ hm₁ hm₂

/-! ### Two texts that are not UUIDs -/

theorem keys_merged : Merged .vless "alice-key" "exit" "bob-key" "exit" := by
  refine ⟨rfl, rfl, ?_, ?_, ?_⟩ <;> decide

/-- Two users with such keys have the same vless UUID for `exit`. -/
theorem not_forall_separated :
    ¬ ∀ (proto : Protocol) (S : Set (List UInt8)), Set.InjOn (secretDigest proto) S →
      ∀ uuid₁ t₁ uuid₂ t₂ : String, '#' ∉ t₁.toList → '#' ∉ t₂.toList → secretMessage proto uuid₁ t₁ ∈ S →
        secretMessage proto uuid₂ t₂ ∈ S → Separated proto uuid₁ t₁ uuid₂ t₂ := by
  intro h
  exact keys_merged.not_separated (h .vless {secretMessage .vless "alice-key" "exit"} (Set.injOn_singleton _ _) _ _ _ _
    (by decide) (by decide) rfl keys_merged.message_eq)

theorem separated_iff_keys :
    Set.InjOn (secretDigest .vless) {secretMessage .vless "alice-key" "exit"} ∧
      ¬ Separated .vless "alice-key" "exit" "bob-key" "exit" := by
  have hinj : Set.InjOn (secretDigest .vless) {secretMessage .vless "alice-key" "exit"} := Set.injOn_singleton _ _
  exact ⟨hinj, fun hsep =>
    ((separated_iff .vless hinj).1 _ _ _ _ (by decide) (by decide) rfl keys_merged.message_eq).1 hsep keys_merged⟩

end SingboxOperator
