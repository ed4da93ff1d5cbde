import SingboxOperator.Controller.Pod
import SingboxOperator.Controller.Relay
import SingboxOperator.Controller.SecretWakeUp
import SingboxOperator.Lib.Runs
import SingboxOperator.Lib.WriteOnce
/-!
# One credential for both ends of a relay

A node's relay credential is made by whoever first finds it missing:
`EnsureNodeCredential` looks for the Secret, draws a credential when there is
none, and creates the Secret. The node's own config is computed from it, and so
are those of all nodes that relay to it, each in a pass of its own and from a
cache of its own that may lag behind.

The Secrets and the passes are one transition system here. A read may show any
state there has been, and may say that nothing was found when something is there;
a `Create` fails when the Secret exists, and one that reports a failure may have
succeeded. What a `Create` wrote is never overwritten by another, so nothing that
reads the Secret, at whatever time, sees another credential, as long as nobody
else removes or changes it. A pass that does not find it goes on without: the two
ends of a relay then differ until the other end has been computed again.
-/
open SingboxOperator.Lib

namespace SingboxOperator

/-! ## Drawing a credential -/

/-- `generateUUID`, from the bytes it reads: version 4 and the variant bits are fixed. -/
def generateUUID (random : Fin 16 → UInt8) : String :=
  let b : Fin 16 → UInt8 := fun i =>
    if i = 6 then (random i &&& 0x0f) ||| 0x40 else if i = 8 then (random i &&& 0x3f) ||| 0x80 else random i
  hexEncode [b 0, b 1, b 2, b 3] ++ "-" ++ hexEncode [b 4, b 5] ++ "-" ++ hexEncode [b 6, b 7] ++ "-" ++
    hexEncode [b 8, b 9] ++ "-" ++ hexEncode [b 10, b 11, b 12, b 13, b 14, b 15]

def base64Digit (n : Nat) : Char :=
  "ABCDEFGHIJKLMNOPQRSTUVWXYZabcdefghijklmnopqrstuvwxyz0123456789+/".toList.getD n '='

/-- `base64.StdEncoding.EncodeToString`. -/
def base64 : List UInt8 → List Char
  | a :: b :: c :: rest =>
    let n := a.toNat * 65536 + b.toNat * 256 + c.toNat
    [base64Digit (n / 262144), base64Digit (n / 4096 % 64), base64Digit (n / 64 % 64), base64Digit (n % 64)] ++
      base64 rest
  | [a, b] =>
    let n := a.toNat * 65536 + b.toNat * 256
    [base64Digit (n / 262144), base64Digit (n / 4096 % 64), base64Digit (n / 64 % 64), '=']
  | [a] => [base64Digit (a.toNat * 65536 / 262144), base64Digit (a.toNat * 65536 / 4096 % 64), '=', '=']
  | [] => []

def generatePassword (random : Fin 32 → UInt8) : String := String.ofList (base64 (List.ofFn random))

/-- What a drawn credential is like. -/
structure NodeCredential.Drawn (cred : NodeCredential) : Prop where
  username : ∀ ch ∈ cred.username.toList, ch ∈ "0123456789abcdef-".toList
  username_ne : cred.username ≠ ""
  password_ne : cred.password ≠ ""

theorem hexDigit_mem (n : Nat) : hexDigit n ∈ "0123456789abcdef-".toList := by
  unfold hexDigit
  by_cases h : n < 16
  · have hall : ∀ n < 16, "0123456789abcdef".toList.getD n '0' ∈ "0123456789abcdef-".toList := by decide
    exact hall n h
  · rw [List.getD_eq_getElem?_getD, List.getElem?_eq_none (by simpa using h)]
    decide

theorem mem_of_mem_hexEncode {bytes : List UInt8} {ch : Char} (h : ch ∈ (hexEncode bytes).toList) :
    ch ∈ "0123456789abcdef-".toList := by
  rw [hexEncode, String.toList_ofList] at h
  obtain ⟨b, _, hb⟩ := List.mem_flatMap.1 h
  rcases List.mem_cons.1 hb with rfl | hb
  · exact hexDigit_mem _
  · rw [List.mem_singleton.1 hb]
    exact hexDigit_mem _

theorem drawn (random : Fin 16 → UInt8) (random' : Fin 32 → UInt8) :
    NodeCredential.Drawn ⟨generateUUID random, generatePassword random'⟩ := by
  have hdash : "-".toList = ['-'] := by decide
  refine ⟨fun ch hch => ?_, fun h => ?_, fun h => ?_⟩
  · simp only [generateUUID, String.toList_append, List.mem_append, hdash, List.mem_singleton] at hch
    rcases hch with (((((((h | rfl) | h) | rfl) | h) | rfl) | h) | rfl) | h
    all_goals first | exact mem_of_mem_hexEncode h | decide
  · have h' := congrArg String.toList h
    simp [generateUUID, String.toList_append, hdash] at h'
  · have h' := congrArg String.toList h
    simp [generatePassword, List.ofFn_succ, base64] at h'

/-! ## `EnsureNodeCredential` -/

abbrev SecretData := GoMap String String

def secretData (cred : NodeCredential) : SecretData :=
  ((∅ : SecretData).insert "username" cred.username).insert "password" cred.password

def credentialOf (data : SecretData) : NodeCredential := ⟨data.get "username" "", data.get "password" ""⟩

@[simp] theorem credentialOf_secretData (cred : NodeCredential) : credentialOf (secretData cred) = cred := by
  unfold credentialOf secretData
  rw [GoMap.get_insert_self, GoMap.get_insert_ne _ _ _ (by decide), GoMap.get_insert_self]

theorem getNodeCredential_ok {c : Cluster} {nodeName : String} {cred : NodeCredential} :
    getNodeCredential c nodeName = .ok cred ↔
      ∃ data, c.secret c.ns (secretName nodeName) = .ok data ∧ credentialOf data = cred := by
  unfold getNodeCredential
  cases c.secret c.ns (secretName nodeName) <;> simp [credentialOf]

/-- `EnsureNodeCredential` after its Get: it has returned, or has a credential to write. -/
inductive Ensured
  | returned (result : Except String NodeCredential)
  | creating (cred : NodeCredential)

def ensureGet (answer : Except ApiError SecretData) (username : String) (password : Except String String)
    (setOwner : Option String) : Ensured :=
  match answer with
  | .ok data => .returned (.ok (credentialOf data))
  | .error e =>
    if !e.notFound then .returned (.error ("getting relay credential secret: " ++ e.message))
    else
      match password, setOwner with
      | .error err, _ => .returned (.error ("generating password: " ++ err))
      | .ok _, some err => .returned (.error ("setting owner reference: " ++ err))
      | .ok password, none => .creating ⟨username, password⟩

/-- And after its Create. -/
def ensureCreate (cred : NodeCredential) : Option String → Except String NodeCredential
  | some err => .error ("creating relay credential secret: " ++ err)
  | none => .ok cred

theorem ensureGet_ok {answer : Except ApiError SecretData} {username : String} {password : Except String String}
    {setOwner : Option String} {cred : NodeCredential}
    (h : ensureGet answer username password setOwner = .returned (.ok cred)) :
    ∃ data, answer = .ok data ∧ credentialOf data = cred := by
  unfold ensureGet at h
  cases answer with
  | ok data => exact ⟨data, rfl, by simpa using h⟩
  | error e =>
    dsimp only at h
    split at h
    · cases h
    · cases password <;> cases setOwner <;> cases h

theorem ensureGet_creating {answer : Except ApiError SecretData} {username : String} {password : Except String String}
    {setOwner : Option String} {cred : NodeCredential}
    (h : ensureGet answer username password setOwner = .creating cred) :
    ∃ p, password = .ok p ∧ cred = ⟨username, p⟩ := by
  unfold ensureGet at h
  cases answer with
  | ok data => cases h
  | error e =>
    dsimp only at h
    split at h
    · cases h
    · cases password with
      | error err => cases setOwner <;> cases h
      | ok p =>
        cases setOwner with
        | some err => cases h
        | none => exact ⟨p, rfl, by simpa using h.symm⟩

/-- The two calls in one go are what a pass does that nobody gets in the way of. -/
theorem ensureCredential_eq (c : Cluster) {node : SingBoxNode} (ho : node.hasRole .outbound = true) (calls : Calls) :
    ensureCredential c node calls =
      match ensureGet (c.secret c.ns (secretName node.name)) calls.username calls.password none with
      | .returned result => result.map fun _ => c
      | .creating cred =>
        (ensureCreate cred calls.createSecret).map fun cred =>
          c.withSecret c.ns (secretName node.name) (.ok (secretData cred)) := by
  unfold ensureCredential ensureGet
  rw [if_pos ho]
  cases c.secret c.ns (secretName node.name) with
  | ok data => rfl
  | error e =>
    cases hn : e.notFound with
    | false => simp [Except.map, hn]
    | true =>
      simp only [hn, Bool.not_true, Bool.false_eq_true, if_false]
      cases calls.password with
      | error err => rfl
      | ok password => cases calls.createSecret <;> rfl

/-! ## The Secrets and those who read them -/

inductive EnsurePoint
  | idle
  | creating (nodeName : String) (cred : NodeCredential)

/-- The Secrets of a namespace, those of every state a cache may still show, and
where each caller of `EnsureNodeCredential` is. -/
structure Relays (W : Type) where
  secrets : WriteOnce String SecretData
  seen : List (WriteOnce String SecretData)
  point : W → EnsurePoint

inductive RelayEvent (W : Type)
  | looked (w : W) (nodeName : String)
  | returned (w : W) (nodeName : String) (result : Except String NodeCredential)
  /-- The config of a node is computed from what the client answers. -/
  | pass (N : SingBoxNode) (c : Cluster)
  /-- Somebody else creates, changes or deletes a Secret. -/
  | changed (secret : String)
  | restarted (w : W)

namespace Relays
variable {W : Type} {s s' : Relays W} {secret : String}

/-- What is read was there at some time. That something was not found says nothing. -/
def Shows (s : Relays W) (secret : String) (answer : Except ApiError SecretData) : Prop :=
  ∀ data, answer = .ok data → ∃ past ∈ s.seen, past.get secret = some data

def become (s : Relays W) (secrets : WriteOnce String SecretData) : Relays W :=
  { s with secrets := secrets, seen := secrets :: s.seen }

variable [DecidableEq W]

def move (s : Relays W) (w : W) (p : EnsurePoint) : Relays W := { s with point := Function.update s.point w p }

inductive Step : Relays W → RelayEvent W → Relays W → Prop
  | get {s : Relays W} {w : W} {nodeName : String} {answer : Except ApiError SecretData} {random : Fin 16 → UInt8}
      {password : Except String (Fin 32 → UInt8)} {setOwner : Option String} {result : Except String NodeCredential}
      (hidle : s.point w = .idle) (hshow : s.Shows (secretName nodeName) answer)
      (h : ensureGet answer (generateUUID random) (password.map generatePassword) setOwner = .returned result) :
      Step s (.returned w nodeName result) s
  | miss {s : Relays W} {w : W} {nodeName : String} {answer : Except ApiError SecretData} {random : Fin 16 → UInt8}
      {password : Except String (Fin 32 → UInt8)} {setOwner : Option String} {cred : NodeCredential}
      (hidle : s.point w = .idle) (hshow : s.Shows (secretName nodeName) answer)
      (h : ensureGet answer (generateUUID random) (password.map generatePassword) setOwner = .creating cred) :
      Step s (.looked w nodeName) (s.move w (.creating nodeName cred))
  | create {s : Relays W} {w : W} {nodeName : String} {cred : NodeCredential}
      (hpoint : s.point w = .creating nodeName cred) (hfree : s.secrets.get (secretName nodeName) = none) :
      Step s (.returned w nodeName (ensureCreate cred none))
        ((s.become (s.secrets.create (secretName nodeName) (secretData cred))).move w .idle)
  | createFails {s : Relays W} {w : W} {nodeName : String} {cred : NodeCredential} (err : String)
      (hpoint : s.point w = .creating nodeName cred) :
      Step s (.returned w nodeName (ensureCreate cred (some err))) (s.move w .idle)
  | createUnanswered {s : Relays W} {w : W} {nodeName : String} {cred : NodeCredential} (err : String)
      (hpoint : s.point w = .creating nodeName cred) :
      Step s (.returned w nodeName (ensureCreate cred (some err)))
        ((s.become (s.secrets.create (secretName nodeName) (secretData cred))).move w .idle)
  | pass {s : Relays W} (N : SingBoxNode) (c : Cluster)
      (hshow : ∀ nodeName, s.Shows (secretName nodeName) (c.secret c.ns (secretName nodeName))) : Step s (.pass N c) s
  | change {s : Relays W} (secret : String) (secrets : WriteOnce String SecretData)
      (hother : ∀ other ≠ secret, secrets.get other = s.secrets.get other) : Step s (.changed secret) (s.become secrets)
  | restart {s : Relays W} (w : W) : Step s (.restarted w) (s.move w .idle)

/-! ## What a read can still see -/

/-- Nothing there has been under the name but what is there now. -/
def UpToDate (secret : String) (s : Relays W) : Prop :=
  ∀ past ∈ s.seen, ∀ data, past.get secret = some data → s.secrets.get secret = some data

omit [DecidableEq W] in
theorem UpToDate.become {secrets : WriteOnce String SecretData} (h : s.UpToDate secret)
    (hkeep : ∀ data, s.secrets.get secret = some data → secrets.get secret = some data) :
    (s.become secrets).UpToDate secret := by
  intro past hpast data hdata
  rcases List.mem_cons.1 hpast with rfl | hpast
  · exact hdata
  · exact hkeep data (h past hpast data hdata)

/-- A Secret that nobody else touches keeps its data. -/
theorem Step.get_eq {e : RelayEvent W} (h : Step s e s') (hother : e ≠ .changed secret) {data : SecretData}
    (hdata : s.secrets.get secret = some data) : s'.secrets.get secret = some data := by
  cases h with
  | create _ _ => exact WriteOnce.get_create_of_some hdata
  | createUnanswered _ _ => exact WriteOnce.get_create_of_some hdata
  | change changed secrets hsame =>
    have hne : secret ≠ changed := by
      rintro rfl
      exact hother rfl
    exact (hsame secret hne).trans hdata
  | _ => exact hdata

theorem Step.upToDate {e : RelayEvent W} (h : Step s e s') (hother : e ≠ .changed secret) (hs : s.UpToDate secret) :
    s'.UpToDate secret := by
  have hkeep : ∀ data, s.secrets.get secret = some data → s'.secrets.get secret = some data :=
    fun _ hdata => h.get_eq hother hdata
  cases h with
  | create _ _ => exact hs.become hkeep
  | createUnanswered _ _ => exact hs.become hkeep
  | change _ _ _ => exact hs.become hkeep
  | _ => exact hs

theorem Step.shows {N : SingBoxNode} {c : Cluster} (h : Step s (.pass N c) s') (nodeName : String) :
    s.Shows (secretName nodeName) (c.secret c.ns (secretName nodeName)) := by
  cases h with
  | pass _ _ hshow => exact hshow nodeName

/-- Somebody got the credential of a node: as the result of `EnsureNodeCredential`, or for a config. -/
inductive Obtains (nodeName : String) (cred : NodeCredential) : RelayEvent W → Prop
  | returned (w : W) : Obtains nodeName cred (.returned w nodeName (.ok cred))
  | pass (N : SingBoxNode) {c : Cluster} (h : getNodeCredential c nodeName = .ok cred) :
      Obtains nodeName cred (.pass N c)

/-- What somebody gets is in the Secret. -/
theorem Step.obtained {nodeName : String} {cred : NodeCredential} {e : RelayEvent W} (h : Step s e s')
    (hs : s.UpToDate (secretName nodeName)) (hget : Obtains nodeName cred e) :
    ∃ data, s'.secrets.get (secretName nodeName) = some data ∧ credentialOf data = cred := by
  have hread : ∀ answer data, s.Shows (secretName nodeName) answer → answer = .ok data →
      s.secrets.get (secretName nodeName) = some data := by
    intro answer data hshow hok
    obtain ⟨past, hpast, hdata⟩ := hshow data hok
    exact hs past hpast data hdata
  cases hget with
  | pass N hcred =>
    obtain ⟨data, hok, rfl⟩ := getNodeCredential_ok.1 hcred
    cases h with
    | pass _ _ hshow => exact ⟨data, hread _ data (hshow nodeName) hok, rfl⟩
  | returned w =>
    -- by what the result is: that of the Get, or that of the Create
    generalize hresult : (.ok cred : Except String NodeCredential) = result at h
    cases h with
    | get _ hshow hensure =>
      subst hresult
      obtain ⟨data, hok, rfl⟩ := ensureGet_ok hensure
      exact ⟨data, hread _ data hshow hok, rfl⟩
    | @create w _ drawn hpoint hfree =>
      obtain rfl : cred = drawn := Except.ok.inj hresult
      exact ⟨secretData cred, WriteOnce.get_create_self hfree, credentialOf_secretData cred⟩
    | createFails err hpoint => cases hresult
    | createUnanswered err hpoint => cases hresult

/-! ## Whole runs -/

section
variable {s₀ : Relays W} {trace : List (Relays W × RelayEvent W × Relays W)} {nodeName : String}

/-- Whoever gets the credential of a node gets what is in its Secret in the end. -/
theorem obtained_of_run (h : Run Step s₀ trace s) (hinit : s₀.UpToDate (secretName nodeName))
    (hours : ∀ x ∈ trace, x.2.1 ≠ .changed (secretName nodeName)) {x : Relays W × RelayEvent W × Relays W}
    (hx : x ∈ trace) {cred : NodeCredential} (hget : Obtains nodeName cred x.2.1) :
    ∃ data, s.secrets.get (secretName nodeName) = some data ∧ credentialOf data = cred := by
  have hinv := h.invariant (I := UpToDate (secretName nodeName)) (P := fun _ e => e ≠ .changed (secretName nodeName))
    hinit (fun _ _ _ hs hother hi => hs.upToDate hother hi) hours
  obtain ⟨data, hdata, hcred⟩ := (h.step_of_mem x hx).obtained (hinv.2 x hx).1 hget
  refine ⟨data, ?_, hcred⟩
  exact h.kept (P := fun _ e => e ≠ .changed (secretName nodeName))
    (Q := fun s => s.secrets.get (secretName nodeName) = some data) (fun _ _ _ hs hother hq => hs.get_eq hother hq)
    hours hx hdata

/-- The config that a pass of the run computed for a node, from what it read. -/
structure Computed [Library] [MapOrder] (trace : List (Relays W × RelayEvent W × Relays W)) (N : SingBoxNode)
    (c : Cluster) (cfg : SingboxConfig) : Prop where
  pass : ∃ x ∈ trace, x.2.1 = .pass N c
  collected : ∃ flags input, collectInput flags c N = .ok input ∧ cfg = computeConfig input

/-- The pass has found the relay Secret of a node. -/
def Found (c : Cluster) (nodeName : String) : Prop := ∃ cred, getNodeCredential c nodeName = .ok cred

theorem nodeCred_of_not_found {c : Cluster} (h : ¬ Found c nodeName) : c.nodeCred nodeName = ⟨"", ""⟩ := by
  unfold Cluster.nodeCred
  cases hget : getNodeCredential c nodeName with
  | ok cred => exact absurd ⟨cred, hget⟩ h
  | error err => rfl

/-- What a pass has found is what is in the Secret in the end. -/
theorem Computed.nodeCred_eq [Library] [MapOrder] {N : SingBoxNode} {c : Cluster} {cfg : SingboxConfig}
    (hc : Computed trace N c cfg) (h : Run Step s₀ trace s) (hinit : s₀.UpToDate (secretName nodeName))
    (hours : ∀ x ∈ trace, x.2.1 ≠ .changed (secretName nodeName)) (hfound : Found c nodeName) :
    ∃ data, s.secrets.get (secretName nodeName) = some data ∧ c.nodeCred nodeName = credentialOf data := by
  obtain ⟨x, hx, hpass⟩ := hc.pass
  obtain ⟨cred, hread⟩ := hfound
  obtain ⟨data, hdata, hcred⟩ := obtained_of_run h hinit hours hx (hpass ▸ Obtains.pass N hread)
  refine ⟨data, hdata, ?_⟩
  rw [Cluster.nodeCred, hread, hcred]
  rfl

/-! ## Drawn credentials -/

/-- Every credential there has been under the name, or that somebody is about to write, was drawn. -/
structure Drawing (secret : String) (s : Relays W) : Prop where
  current : ∀ data, s.secrets.get secret = some data → (credentialOf data).Drawn
  seen : ∀ past ∈ s.seen, ∀ data, past.get secret = some data → (credentialOf data).Drawn
  point : ∀ w nodeName cred, s.point w = .creating nodeName cred → cred.Drawn

variable {secret : String}

theorem Drawing.move (h : s.Drawing secret) (w : W) {p : EnsurePoint}
    (hp : ∀ nodeName cred, p = .creating nodeName cred → cred.Drawn) : (s.move w p).Drawing secret := by
  refine ⟨h.current, h.seen, fun w' nodeName cred hpoint => ?_⟩
  by_cases hw : w' = w
  · subst hw
    simp only [Relays.move, Function.update_self] at hpoint
    exact hp nodeName cred hpoint
  · simp only [Relays.move, Function.update_of_ne hw] at hpoint
    exact h.point w' nodeName cred hpoint

omit [DecidableEq W] in
theorem Drawing.become (h : s.Drawing secret) {secrets : WriteOnce String SecretData}
    (hnew : ∀ data, secrets.get secret = some data → (credentialOf data).Drawn) :
    (s.become secrets).Drawing secret := by
  refine ⟨hnew, fun past hpast => ?_, h.point⟩
  rcases List.mem_cons.1 hpast with rfl | hpast
  · exact hnew
  · exact h.seen past hpast

omit [DecidableEq W] in
theorem Drawing.create (h : s.Drawing secret) {w : W} {nodeName : String} {cred : NodeCredential}
    (hpoint : s.point w = .creating nodeName cred) :
    (s.become (s.secrets.create (secretName nodeName) (secretData cred))).Drawing secret := by
  refine h.become fun data hdata => ?_
  rcases WriteOnce.of_get_create hdata with hold | rfl
  · exact h.current data hold
  · rw [credentialOf_secretData]
    exact h.point w nodeName cred hpoint

theorem Step.drawing {e : RelayEvent W} (h : Step s e s') (hother : e ≠ .changed secret) (hs : s.Drawing secret) :
    s'.Drawing secret := by
  have hidle : ∀ nodeName cred, EnsurePoint.idle = .creating nodeName cred → cred.Drawn := by
    intro nodeName cred hp
    cases hp
  cases h with
  | get _ _ _ => exact hs
  | @miss w nodeName answer random password setOwner cred _ _ hensure =>
    refine hs.move w fun nodeName' cred' hp => ?_
    obtain ⟨_, rfl⟩ : nodeName = nodeName' ∧ cred = cred' := by simpa using hp
    obtain ⟨p, hp, rfl⟩ := ensureGet_creating hensure
    cases password with
    | error err => cases hp
    | ok random' =>
      obtain rfl := Except.ok.inj hp
      exact drawn random random'
  | create hpoint _ => exact (hs.create hpoint).move _ hidle
  | createFails _ _ => exact hs.move _ hidle
  | createUnanswered _ hpoint => exact (hs.create hpoint).move _ hidle
  | pass _ _ _ => exact hs
  | change changed secrets hsame =>
    have hne : secret ≠ changed := by
      rintro rfl
      exact hother rfl
    exact hs.become fun data hdata => hs.current data ((hsame secret hne).symm.trans hdata)
  | restart w => exact hs.move w hidle

theorem notMem_of_drawn {cred : NodeCredential} (h : cred.Drawn) : '#' ∉ cred.username.toList :=
  fun hmem => absurd (h.username _ hmem) (by decide)

/-- What a pass has found was drawn. -/
theorem Computed.drawn [Library] [MapOrder] {N : SingBoxNode} {c : Cluster} {cfg : SingboxConfig}
    (hc : Computed trace N c cfg) (h : Run Step s₀ trace s) (hinit : s₀.Drawing (secretName nodeName))
    (hours : ∀ x ∈ trace, x.2.1 ≠ .changed (secretName nodeName)) (hfound : Found c nodeName) :
    (c.nodeCred nodeName).Drawn := by
  obtain ⟨x, hx, hpass⟩ := hc.pass
  obtain ⟨cred, hread⟩ := hfound
  have hinv := h.invariant (I := Drawing (secretName nodeName)) (P := fun _ e => e ≠ .changed (secretName nodeName))
    hinit (fun _ _ _ hs hother hi => hs.drawing hother hi) hours
  obtain ⟨data, hok, rfl⟩ := getNodeCredential_ok.1 hread
  have hstep := h.step_of_mem x hx
  rw [hpass] at hstep
  obtain ⟨past, hpast, hdata⟩ := hstep.shows nodeName data hok
  rw [Cluster.nodeCred, hread]
  exact (hinv.2 x hx).1.seen past hpast data hdata

/-- Where only the operator writes the Secret of a node, two passes have one
credential for it exactly when both have found the Secret, or neither has. -/
theorem Computed.nodeCred_eq_iff [Library] [MapOrder] {A B : SingBoxNode} {cA cB : Cluster} {cfgA cfgB : SingboxConfig}
    (hA : Computed trace A cA cfgA) (hB : Computed trace B cB cfgB) (h : Run Step s₀ trace s)
    (hinit : s₀.UpToDate (secretName nodeName)) (hdrawn : s₀.Drawing (secretName nodeName))
    (hours : ∀ x ∈ trace, x.2.1 ≠ .changed (secretName nodeName)) :
    cA.nodeCred nodeName = cB.nodeCred nodeName ↔ (Found cA nodeName ↔ Found cB nodeName) := by
  by_cases hfoundA : Found cA nodeName <;> by_cases hfoundB : Found cB nodeName
  · obtain ⟨data, hdata, hcredA⟩ := hA.nodeCred_eq h hinit hours hfoundA
    obtain ⟨data', hdata', hcredB⟩ := hB.nodeCred_eq h hinit hours hfoundB
    obtain rfl : data = data' := Option.some.inj (hdata.symm.trans hdata')
    simp only [hfoundA, hfoundB, hcredA, hcredB]
  · have hne := (hA.drawn h hdrawn hours hfoundA).username_ne
    rw [nodeCred_of_not_found hfoundB]
    exact iff_of_false (fun heq => hne (congrArg NodeCredential.username heq)) fun hiff => hfoundB (hiff.1 hfoundA)
  · have hne := (hB.drawn h hdrawn hours hfoundB).username_ne
    rw [nodeCred_of_not_found hfoundA]
    exact iff_of_false (fun heq => hne (congrArg NodeCredential.username heq.symm)) fun hiff => hfoundA (hiff.2 hfoundB)
  · simp only [nodeCred_of_not_found hfoundA, nodeCred_of_not_found hfoundB, hfoundA, hfoundB]

/-- Where only the operator writes the Secret of a node, two configs computed at any
two times from any two caches agree about the relay, the entry for the peer and
the user the peer lets in, exactly when both passes have found the Secret or
neither has. -/
theorem relayHop_agrees_iff [Library] [MapOrder] (h : Run Step s₀ trace s) {A B n : SingBoxNode} {cA cB : Cluster}
    {cfgA cfgB : SingboxConfig} (hinit : s₀.UpToDate (secretName B.name)) (hdrawn : s₀.Drawing (secretName B.name))
    (hours : ∀ x ∈ trace, x.2.1 ≠ .changed (secretName B.name)) (hA : Computed trace A cA cfgA)
    (hB : Computed trace B cB cfgB) (ho : B.hasRole .outbound = true) (hn : n ∈ cA.peers A) (hname : n.name = B.name)
    {o : Outbound} (hmem : o ∈ cfgA.outbounds) (htag : o.tag = outboundTag B.name) :
    (∃ ib ∈ cfgB.inbounds, ib.tag = relayTag ∧ ib.users = [{ username := o.username, password := o.password }]) ↔
      (Found cA B.name ↔ Found cB B.name) := by
  rw [← hA.nodeCred_eq_iff hB h hinit hdrawn hours]
  obtain ⟨flagsA, inputA, hinputA, rfl⟩ := hA.collected
  obtain ⟨flagsB, inputB, hinputB, rfl⟩ := hB.collected
  rw [collectInput_ok hinputA] at hmem
  rw [collectInput_ok hinputB]
  obtain rfl := Cluster.outbound_of_peer hn hmem (hname ▸ htag)
  simp only [Cluster.relayEntry, hname]
  constructor
  · rintro ⟨ib, hib, hrelay, husers⟩
    rcases Cluster.mem_inbounds_view.1 hib with ⟨_, _, _, rfl⟩ | ⟨_, rfl⟩
    · exact absurd hrelay (inboundTag_ne_relayTag B)
    · simp only [Cluster.relayInbound, List.cons.injEq, UserEntry.mk.injEq, Option.some.injEq, and_true,
        true_and] at husers
      exact (NodeCredential.ext husers.1 husers.2).symm
  · intro heq
    refine ⟨cB.relayInbound B, Cluster.mem_inbounds_view.2 (.inr ⟨ho, rfl⟩), rfl, ?_⟩
    simp only [Cluster.relayInbound, heq]

/-- Where only the operator writes the Secret of a node, what is relayed to the
node meets none of its rules: it goes to the final outbound of the node's config. -/
theorem relayed_final [Library] [MapOrder] {D : Type} (destMatches : EgressPolicyMatch → D → Bool)
    (h : Run Step s₀ trace s) {N : SingBoxNode} {c : Cluster} {cfg : SingboxConfig}
    (hinit : s₀.Drawing (secretName N.name)) (hours : ∀ x ∈ trace, x.2.1 ≠ .changed (secretName N.name))
    (hN : Computed trace N c cfg) (d : D) :
    route destMatches cfg (relayed c N d) = .outbound cfg.route.final := by
  have hname : '#' ∉ (c.nodeCred N.name).username.toList := by
    by_cases hfound : Found c N.name
    · exact notMem_of_drawn (hN.drawn h hinit hours hfound)
    · rw [nodeCred_of_not_found hfound]
      decide
  obtain ⟨flags, input, hinput, rfl⟩ := hN.collected
  rw [collectInput_ok hinput]
  exact route_elsewhere destMatches (c.view flags N) (inboundTag_ne_relayTag N).symm hname d

end

end Relays

/-! ### Two nodes and the credential of one of them -/

section
attribute [local instance] plainLibrary storedOrder

def eastCred : NodeCredential := ⟨generateUUID fun _ => 0, generatePassword fun _ => 0⟩

def pairWithSecret : Cluster := pairCluster.withSecret "proxy" (secretName "east") (.ok (secretData eastCred))

def noSecrets : Relays Unit := ⟨.empty, [.empty], fun _ => .idle⟩

def missed : Relays Unit := noSecrets.move () (.creating "east" eastCred)

def created : Relays Unit :=
  (missed.become (missed.secrets.create (secretName "east") (secretData eastCred))).move () .idle

theorem pairWithSecret_shown (nodeName : String) :
    created.Shows (secretName nodeName) (pairWithSecret.secret "proxy" (secretName nodeName)) := by
  intro data hdata
  have hsecret : pairWithSecret.secret "proxy" (secretName nodeName) =
      if secretName nodeName = secretName "east" then .ok (secretData eastCred) else .error ⟨true, "not found"⟩ := by
    by_cases hname : secretName nodeName = secretName "east" <;> simp [pairWithSecret, pairCluster, hname]
  rw [hsecret] at hdata
  split at hdata
  · rename_i hname
    obtain rfl := Except.ok.inj hdata
    rw [hname]
    exact ⟨_, List.mem_cons_self, WriteOnce.get_create_self rfl⟩
  · cases hdata

def pairTrace : List (Relays Unit × RelayEvent Unit × Relays Unit) :=
  [(noSecrets, .looked () "east", missed), (missed, .returned () "east" (.ok eastCred), created),
   (created, .pass east pairWithSecret, created), (created, .pass west pairWithSecret, created)]

theorem run_pair : Run Relays.Step noSecrets pairTrace created := by
  have hmiss : Relays.Step noSecrets (.looked () "east") missed :=
    @Relays.Step.miss _ _ noSecrets () "east" (.error ⟨true, "not found"⟩) (fun _ => 0) (.ok fun _ => 0) none eastCred
      rfl (fun _ hdata => by cases hdata) rfl
  have hcreate : Relays.Step missed (.returned () "east" (.ok eastCred)) created := .create rfl rfl
  exact (((Run.single hmiss).snoc hcreate).snoc (.pass east pairWithSecret pairWithSecret_shown)).snoc
    (.pass west pairWithSecret pairWithSecret_shown)

theorem pair_ours : ∀ x ∈ pairTrace, x.2.1 ≠ .changed (secretName "east") := by
  simp [pairTrace]

theorem pair_computed {N : SingBoxNode} (hpass : ∃ x ∈ pairTrace, x.2.1 = .pass N pairWithSecret) :
    Relays.Computed pairTrace N pairWithSecret (computeConfig (pairWithSecret.view {} N)) := by
  refine ⟨hpass, {}, _, collectInput_eq_ok {} ?_, rfl⟩
  exact ⟨rfl, rfl, rfl, fun _ => ⟨rfl, fun _ hu => absurd hu List.not_mem_nil⟩⟩

theorem noSecrets_upToDate : noSecrets.UpToDate (secretName "east") := by
  simp [Relays.UpToDate, noSecrets, WriteOnce.get, WriteOnce.empty]

theorem noSecrets_drawing : noSecrets.Drawing (secretName "east") := by
  refine ⟨?_, ?_, ?_⟩
  · simp [noSecrets, WriteOnce.get, WriteOnce.empty]
  · simp [noSecrets, WriteOnce.get, WriteOnce.empty]
  · simp [noSecrets]

theorem relayHop_agrees_iff_pair :
    ∃ o ∈ (computeConfig (pairWithSecret.view {} west)).outbounds, o.tag = outboundTag "east" ∧
      ∃ ib ∈ (computeConfig (pairWithSecret.view {} east)).inbounds, ib.tag = relayTag ∧
        ib.users = [{ username := o.username, password := o.password }] := by
  have hpeer : east ∈ pairWithSecret.peers west := Cluster.mem_peers.2 ⟨List.mem_cons_self, by decide⟩
  have husable := (Cluster.usable_of_peer hpeer).2 (by decide)
  obtain ⟨o, ho, htag⟩ : ∃ o ∈ (computeConfig (pairWithSecret.view {} west)).outbounds, o.tag = outboundTag "east" :=
    Cluster.exists_outbound_view.2 ⟨by decide, .inl ⟨.inl ⟨east, hpeer, rfl⟩, husable⟩⟩
  refine ⟨o, ho, htag, ?_⟩
  exact (Relays.relayHop_agrees_iff run_pair (B := east) noSecrets_upToDate noSecrets_drawing pair_ours
    (pair_computed (by simp [pairTrace])) (pair_computed (by simp [pairTrace])) (by decide) hpeer rfl ho htag).2 Iff.rfl

theorem relayed_final_pair :
    '#' ∉ eastCred.username.toList ∧ ∀ d : String,
      route inDomain (computeConfig (pairWithSecret.view {} east)) (relayed pairWithSecret east d) =
        .outbound (computeConfig (pairWithSecret.view {} east)).route.final := by
  refine ⟨Relays.notMem_of_drawn (drawn _ _), fun d => ?_⟩
  exact Relays.relayed_final inDomain run_pair (N := east) noSecrets_drawing pair_ours
    (pair_computed (by simp [pairTrace])) d

end

end SingboxOperator
