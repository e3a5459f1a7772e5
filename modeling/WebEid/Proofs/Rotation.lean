import WebEid.Lib.Machine
import WebEid.Proofs.Federation

/-!
# Replacing the signing key

Keys are replaced while assertions are under way and while consumers hold
documents they read earlier. `WithPublishedJWKS` is there to "publish previous
keys alongside the active one during rotation", but nothing in the library
says which of them, or until when. The machine of this file runs a service
through any sequence of deployments, requests, fetches of the key document and
delays, under the two rules an operator can see to:

* a key id names one key for good, and
* a new deployment still publishes the key of every assertion that a consumer
  may yet have to accept. A key may go once the last of them has expired.

Then no fetch ever fails, and at any point of any run an assertion in its
window is accepted by the consumer, unless the consumer has not fetched the
keys since it was issued; in that case the verifier says that the key is
unknown, which is what tells the consumer to fetch
(`rotation_keeps_assertions`).
-/

namespace WebEid.Rotation

open Lib Exceptions Assertion Azugo

/-! ## The runs of a deployment -/

/-- An assertion on its way, with what it was issued from. -/
structure Sent where
  text : String
  issuer : Issuer
  subject : Subject
  env : IssueEnv

/-- The site that is running and one consumer of its assertions. `caughtUp` are
the assertions sent before the consumer last read the keys. -/
structure Deployment (σ : Type) where
  site : Site
  store : σ
  clock : Time
  sent : List Sent
  consumer : KeySet
  caughtUp : List Sent

inductive Action (σ : Type) where
  | deploy (site : Site) (store : σ)
  | serve (req : Request)
  | fetch (req : Request)
  | wait (now : Time)

/-- The assertion a response carries. -/
def sentBy (issuer : Option Issuer) (env : IssueEnv) : Option Response → List Sent
  | some ⟨_, _, .ok (.login (.assertion tok subject))⟩ =>
      issuer.toList.map fun iss => ⟨tok, iss, assertionSubject subject, env⟩
  | _ => []

/-- The keys a consumer reads out of a response. -/
def readKeys (P : Platform) : Option Response → Option KeySet
  | some ⟨_, _, .ok (.jwks doc)⟩ => (P.marshalJWKS doc >>= keySetFromJWKS P).toOption
  | _ => none

section Machine

variable {σ : Type} (P : Platform) (S : ChallengeNonceStore Context σ)

def step : Action σ → Deployment σ → Deployment σ
  | .deploy site store, s => { s with site := site, store := store }
  | .serve req, s =>
      let r := s.site.serve P S req s.store
      { s with
        store := r.2
        clock := req.env.issue.now
        sent := sentBy s.site.handler.assertionIssuer req.env.issue r.1 ++ s.sent }
  | .fetch req, s =>
      match readKeys P (s.site.serve P S req s.store).1 with
      | none => s
      | some keys => { s with consumer := keys, caughtUp := s.sent }
  | .wait now, s => { s with clock := now }

variable (url audience : String) (names : String → Option EcdsaPublicKey)

/-- A site fit to go live: it is federated, speaks for the same issuer to the
same audience, and publishes each key under the id that is its own. -/
structure Ready (site : Site) (iss : Issuer) (ks : KeySet) : Prop
    extends Federated P site iss ks where
  json : EncodesPublished P ks
  url_eq : iss.iss = url
  audience_eq : iss.aud = audience
  own : ∀ kid pub, ks.get kid = some pub → names kid = some pub

/-- A verifier may still have to accept the assertion. -/
def Alive (now : Time) (x : Sent) : Prop :=
  now.ns ≤ (x.env.now.add x.issuer.ttl).floorSecond.ns + defaultLeeway.toInt

/-- The set has the keys of those assertions that are still alive. -/
def Covers (ks : KeySet) (now : Time) (xs : List Sent) : Prop :=
  ∀ x ∈ xs, Alive now x → ks.get x.issuer.key.kid = some x.issuer.key.key.pub

/-- What is expected of the packages and of the clock when an assertion is
issued. -/
structure Issuable (x : Sent) : Prop where
  issues : Issues P x.issuer x.env x.subject
  unix_pos : 1 ≤ x.env.now.unix
  fits : (x.env.now.add x.issuer.ttl).Fits

/-- A request for the key document; a range takes the keys in some order. -/
structure FetchesKeys (req : Request) : Prop where
  method : req.method = .get
  path : req.path = "/.well-known/jwks.json"
  range : ∀ l, (req.env.range l).Perm l

def allowed (s : Deployment σ) : Action σ → Prop
  | .deploy site _ => ∃ iss ks, Ready P url audience names site iss ks ∧ Covers ks s.clock s.sent
  | .serve req => s.clock.ns ≤ req.env.issue.now.ns ∧
      ∀ x ∈ sentBy s.site.handler.assertionIssuer req.env.issue
        (s.site.serve P S req s.store).1, Issuable P x
  | .fetch req => FetchesKeys req
  | .wait now => s.clock.ns ≤ now.ns

def machine : Machine (Deployment σ) (Action σ) where
  init s := (∃ iss ks, Ready P url audience names s.site iss ks) ∧ s.sent = [] ∧
    s.consumer = KeySet.empty ∧ s.caughtUp = []
  allowed s a := allowed P S url audience names s a
  step := step P S

theorem machine_step (a : Action σ) (s : Deployment σ) :
    (machine P S url audience names).step a s = step P S a s := rfl

end Machine

/-! ## What the run preserves -/

theorem step_fetch {σ : Type} {P : Platform} {S : ChallengeNonceStore Context σ} (req : Request)
    (s : Deployment σ) :
    (step P S (.fetch req) s).sent = s.sent ∧ (step P S (.fetch req) s).clock = s.clock := by
  simp only [step]
  split
  next => exact ⟨rfl, rfl⟩
  next => exact ⟨rfl, rfl⟩

theorem Alive.anti {now now' : Time} (h : now.ns ≤ now'.ns) {x : Sent} (hx : Alive now' x) :
    Alive now x :=
  Int.le_trans h hx

theorem Covers.later {ks : KeySet} {now now' : Time} {xs : List Sent} (hks : Covers ks now xs)
    (h : now.ns ≤ now'.ns) : Covers ks now' xs := by
  intro x hx halive
  exact hks x hx (halive.anti h)

section Runs

variable {σ : Type} {P : Platform} {S : ChallengeNonceStore Context σ} {url audience : String}
  {names : String → Option EcdsaPublicKey}

/-- An assertion a consumer may come across. -/
structure Genuine (P : Platform) (url audience : String)
    (names : String → Option EcdsaPublicKey) (x : Sent) : Prop extends Issuable P x where
  issued : x.issuer.issue P x.env x.subject = .ok x.text
  url_eq : x.issuer.iss = url
  audience_eq : x.issuer.aud = audience
  ttl_pos : 0 < x.issuer.ttl
  own : names x.issuer.key.kid = some x.issuer.key.key.pub

structure Invariant (P : Platform) (url audience : String)
    (names : String → Option EcdsaPublicKey) (s : Deployment σ) : Prop where
  site : ∃ iss ks, Ready P url audience names s.site iss ks ∧ Covers ks s.clock s.sent
  genuine : ∀ x ∈ s.sent, Genuine P url audience names x
  consumer_own : ∀ kid pub, s.consumer.get kid = some pub → names kid = some pub
  caughtUp : Covers s.consumer s.clock s.caughtUp

theorem mem_sentBy {issuer : Option Issuer} {env : IssueEnv} {resp : Option Response} {x : Sent}
    (h : x ∈ sentBy issuer env resp) :
    ∃ set user tok subject iss,
      resp = some ⟨set, user, .ok (.login (.assertion tok subject))⟩ ∧ issuer = some iss ∧
      x = ⟨tok, iss, assertionSubject subject, env⟩ := by
  rw [sentBy.eq_def] at h
  split at h
  next set user tok subject =>
    obtain ⟨iss, hiss, rfl⟩ := List.mem_map.mp h
    exact ⟨set, user, tok, subject, iss, rfl, Option.mem_toList.mp hiss, rfl⟩
  next => cases h

/-- What a live site sends is genuine, and signed with a key it publishes. -/
theorem Ready.sends {site : Site} {iss : Issuer} {ks : KeySet}
    (hready : Ready P url audience names site iss ks) {req : Request} {st : σ} {x : Sent}
    (hx : x ∈ sentBy site.handler.assertionIssuer req.env.issue (site.serve P S req st).1)
    (hissuable : Issuable P x) :
    Genuine P url audience names x ∧ x.issuer = iss ∧ x.env = req.env.issue := by
  obtain ⟨set, user, tok, subject, iss', hresp, hiss', rfl⟩ := mem_sentBy hx
  obtain rfl : iss' = iss := Option.some.inj (hiss'.symm.trans hready.issuer)
  obtain ⟨iss'', cert, hiss'', -, -, -, hissue⟩ :=
    serve_assertion (Prod.ext hresp rfl : site.serve P S req st = (_, _))
  obtain rfl : iss'' = iss' := Option.some.inj (hiss''.symm.trans hready.issuer)
  obtain ⟨key, url', audience', ttl, hmade⟩ := hready.made
  obtain ⟨-, -, -, -, httl⟩ := newIssuer_inv hmade
  exact ⟨{ hissuable with
    issued := hissue
    url_eq := hready.url_eq
    audience_eq := hready.audience_eq
    ttl_pos := httl
    own := hready.own _ _ hready.active }, rfl, rfl⟩

/-- A fetch from a live site gives the consumer exactly the published keys. -/
theorem Ready.fetch (hpoint : PointEncoding P) {site : Site} {iss : Issuer} {ks : KeySet}
    (hready : Ready P url audience names site iss ks) {req : Request} (hreq : FetchesKeys req)
    (st : σ) :
    ∃ keys, readKeys P (site.serve P S req st).1 = some keys ∧
      ∀ kid, keys.get kid = ks.get kid := by
  obtain ⟨data, keys, hdata, hkeys, hget⟩ :=
    roundTrips_of_publishable hpoint hready.json hready.named hready.valid _ (hreq.range _)
  obtain ⟨doc, hdoc, hdata⟩ := bind_eq_ok hdata
  refine ⟨keys, ?_, hget⟩
  rw [serve_jwks hready.published hreq.method hreq.path hdoc S]
  simp only [readKeys, hdata, bind_ok, hkeys]
  rfl

theorem invariant_init {s : Deployment σ} (hs : (machine P S url audience names).init s) :
    Invariant P url audience names s := by
  obtain ⟨⟨iss, ks, hready⟩, hsent, hconsumer, hcaught⟩ := hs
  refine ⟨⟨iss, ks, hready, ?_⟩, ?_, ?_, ?_⟩
  · simp [Covers, hsent]
  · simp [hsent]
  · intro kid pub hget
    rw [hconsumer] at hget
    cases hget
  · simp [Covers, hcaught]

theorem invariant_step (hpoint : PointEncoding P) {s : Deployment σ} {a : Action σ}
    (hs : Invariant P url audience names s)
    (ha : (machine P S url audience names).allowed s a) :
    Invariant P url audience names ((machine P S url audience names).step a s) := by
  obtain ⟨iss, ks, hready, hcovers⟩ := hs.site
  cases a with
  | deploy site store => exact { hs with site := ha }
  | wait now =>
      exact { hs with
        site := ⟨iss, ks, hready, hcovers.later ha⟩
        caughtUp := hs.caughtUp.later ha }
  | serve req =>
      obtain ⟨hclock, hissuable⟩ := ha
      refine ⟨⟨iss, ks, hready, ?_⟩, ?_, hs.consumer_own, hs.caughtUp.later hclock⟩
      · intro x hx
        rcases List.mem_append.mp hx with hnew | hold
        · obtain ⟨-, hiss, -⟩ := hready.sends hnew (hissuable x hnew)
          rw [hiss]
          exact fun _ => hready.active
        · exact hcovers.later hclock x hold
      · intro x hx
        rcases List.mem_append.mp hx with hnew | hold
        · exact (hready.sends hnew (hissuable x hnew)).1
        · exact hs.genuine x hold
  | fetch req =>
      obtain ⟨keys, hkeys, hget⟩ := hready.fetch (S := S) hpoint ha s.store
      have hstep : (machine P S url audience names).step (.fetch req) s =
          { s with consumer := keys, caughtUp := s.sent } := by
        simp only [machine, step, hkeys]
      rw [hstep]
      refine ⟨hs.site, hs.genuine, ?_, ?_⟩
      · intro kid pub hkid
        exact hready.own kid pub ((hget kid).symm.trans hkid)
      · intro x hx halive
        exact (hget _).trans (hcovers x hx halive)

/-- What a consumer makes of a genuine assertion in its window: it knows the
key under its id and accepts, or it knows no key of that id. -/
theorem Genuine.verdict {x : Sent} (hx : Genuine P url audience names x) {v : Verifier}
    (hv : v.iss = url ∧ v.aud = audience)
    (hown : ∀ kid pub, v.keys.get kid = some pub → names kid = some pub) {now : Time}
    (hnow : Window x.env.now x.issuer.ttl v.leeway now) :
    (∃ jti, v.verify P now x.text = .ok (x.issuer.claims x.subject jti x.env.now)) ∨
      v.keys.get x.issuer.key.kid = none ∧ v.verify P now x.text = .error errUnknownKey := by
  cases hkey : v.keys.get x.issuer.key.kid with
  | none => exact Or.inr ⟨rfl, verify_unknown hx.issued hx.issues hkey now⟩
  | some pub =>
      obtain rfl : x.issuer.key.key.pub = pub :=
        Option.some.inj (hx.own.symm.trans (hown _ _ hkey))
      obtain ⟨jti, -, hverify⟩ := verify_known hx.issued hx.issues hkey
      refine Or.inl ⟨jti, ?_⟩
      rw [hverify]
      exact checkClaims_window (hx.url_eq.trans hv.1.symm) (hx.audience_eq.trans hv.2.symm)
        hx.ttl_pos hx.unix_pos hx.fits hnow

/-- At any point of any run, an assertion in its window is accepted by the
consumer, or it is signed by an unknown key and the consumer has not fetched
the keys since. A fetch always brings the consumer up to date. -/
theorem rotation_keeps_assertions (hpoint : PointEncoding P) {s : Deployment σ}
    (hs : (machine P S url audience names).Reach s) :
    (∃ v, newVerifier (some s.consumer) url audience [] = .ok v ∧
      ∀ x ∈ s.sent, ∀ now, s.clock.ns ≤ now.ns →
        Window x.env.now x.issuer.ttl defaultLeeway now →
          (∃ jti, v.verify P now x.text = .ok (x.issuer.claims x.subject jti x.env.now)) ∨
            x ∉ s.caughtUp ∧ v.verify P now x.text = .error errUnknownKey) ∧
      ∀ req, FetchesKeys req →
        ((machine P S url audience names).step (.fetch req) s).caughtUp = s.sent := by
  have hinv : Invariant P url audience names s :=
    hs.invariant (fun _ => invariant_init) (fun _ _ => invariant_step hpoint)
  obtain ⟨iss, ks, hready, hcovers⟩ := hinv.site
  refine ⟨⟨⟨s.consumer, url, audience, defaultLeeway⟩, ?_, ?_⟩, ?_⟩
  · obtain ⟨key, url', audience', ttl, hmade⟩ := hready.made
    obtain ⟨-, -, hurl, haud, -⟩ := newIssuer_inv hmade
    rw [hready.url_eq] at hurl
    rw [hready.audience_eq] at haud
    simp [newVerifier, hurl, haud]
  · intro x hx now hclock hnow
    rcases (hinv.genuine x hx).verdict (v := ⟨s.consumer, url, audience, defaultLeeway⟩)
      ⟨rfl, rfl⟩ hinv.consumer_own hnow with haccepts | ⟨hunknown, herr⟩
    · exact Or.inl haccepts
    · refine Or.inr ⟨?_, herr⟩
      intro hcaught
      have hknown := hinv.caughtUp x hcaught (Alive.anti hclock hnow.2)
      rw [hunknown] at hknown
      cases hknown
  · intro req hreq
    obtain ⟨keys, hkeys, -⟩ := hready.fetch (S := S) hpoint hreq s.store
    simp only [machine, step, hkeys]

end Runs

/-! A site that goes on under a second key, and a consumer that reads the keys
only then. -/

def nextKey : EcdsaPublicKey := ⟨.p256, 3, 4⟩

def nextPoint : Bytes := 4 :: (Go.fillBytes 32 3 ++ Go.fillBytes 32 4)

def nextJWK : JWK :=
  ⟨"EC", "P-256", b64 (Go.fillBytes 32 3), b64 (Go.fillBytes 32 4), "2026-07", "sig", "ES256"⟩

def rotationPlatform : Platform :=
  { deliveryPlatform with
    ecdsaBytes := fun pub =>
      if pub = p256Key then .ok p256Point
      else if pub = nextKey then .ok nextPoint
      else .error (.text "ecdsa: invalid public key")
    parseUncompressedPublicKey := fun curve raw =>
      if curve = .p256 ∧ raw = p256Point then .ok p256Key
      else if curve = .p256 ∧ raw = nextPoint then .ok nextKey
      else .error (.text "ecdsa: invalid public key")
    marshalJWKS := fun doc => .ok (doc.keys.map fun k => if k = nextJWK then 2 else 1)
    unmarshalJWKS := fun b => .ok ⟨b.map fun n => if n = 2 then nextJWK else publishedJWK true⟩ }

theorem rotationPlatform_points : PointEncoding rotationPlatform where
  bytes_eq := by
    intro pub raw h
    rcases either_ok_iff.mp h with ⟨rfl, rfl⟩ | ⟨-, rfl, rfl⟩
    · exact ⟨Go.fillBytes 32 1, Go.fillBytes 32 2, rfl, rfl, rfl⟩
    · exact ⟨Go.fillBytes 32 3, Go.fillBytes 32 4, rfl, rfl, rfl⟩
  parse_iff := by
    intro curve raw pub
    simp only [rotationPlatform, either_ok_iff]
    refine ⟨?_, ?_⟩
    · intro h
      rcases h with ⟨⟨rfl, rfl⟩, rfl⟩ | ⟨-, ⟨rfl, rfl⟩, rfl⟩
      · exact ⟨rfl, .inl ⟨rfl, rfl⟩⟩
      · exact ⟨rfl, .inr ⟨by decide, rfl, rfl⟩⟩
    · intro h
      rcases h with ⟨rfl, ⟨rfl, rfl⟩ | ⟨-, rfl, rfl⟩⟩
      · exact .inl ⟨⟨rfl, rfl⟩, rfl⟩
      · exact .inr ⟨by decide, ⟨rfl, rfl⟩, rfl⟩

def nextIssuer : Issuer := { sampleCall.issuer with key := ⟨"2026-07", nextKey, 5⟩ }

/-- The set of the new issuer, with the previous key added. -/
def rotatedKeys : KeySet := nextIssuer.keySet.add "2026-06" (some p256Key)

def rotatedSite : Site :=
  { deliverySite with
    handler := { deliverySite.handler with assertionIssuer := some nextIssuer }
    publishedKeys := some rotatedKeys
    config_eq := rfl }

def keyNames (kid : String) : Option EcdsaPublicKey := rotatedKeys.get kid

theorem get_sampleKeys {kid : String} {pub : EcdsaPublicKey}
    (h : sampleCall.issuer.keySet.get kid = some pub) : kid = "2026-06" ∧ pub = p256Key := by
  rw [Issuer.keySet, KeySet.get_add_some (by decide)] at h
  split at h
  next hkid => exact ⟨hkid, (Option.some.inj h).symm⟩
  next => cases h

theorem get_rotatedKeys {kid : String} {pub : EcdsaPublicKey} (h : rotatedKeys.get kid = some pub) :
    kid = "2026-06" ∧ pub = p256Key ∨ kid = "2026-07" ∧ pub = nextKey := by
  rw [rotatedKeys, KeySet.get_add_some (by decide)] at h
  split at h
  next hkid => exact Or.inl ⟨hkid, (Option.some.inj h).symm⟩
  next =>
    rw [Issuer.keySet, KeySet.get_add_some (by decide)] at h
    split at h
    next hkid => exact Or.inr ⟨hkid, (Option.some.inj h).symm⟩
    next => cases h

theorem encodes_rotated (entries : List Bool) :
    Encodes rotationPlatform.marshalJWKS rotationPlatform.unmarshalJWKS
      ⟨entries.map fun next => if next then nextJWK else publishedJWK true⟩ := by
  have hne : publishedJWK true ≠ nextJWK := by
    intro h
    have hkid : (publishedJWK true).kid = nextJWK.kid := congrArg JWK.kid h
    exact absurd hkid (by decide)
  refine encodes_marked (fun _ => rfl) (fun _ => rfl) ?_
  intro k hk
  obtain ⟨next, -, rfl⟩ := List.mem_map.mp hk
  cases next with
  | true => simp only [if_true]
  | false => simp only [Bool.false_eq_true, if_false, hne, show (1 : UInt8) ≠ 2 by decide]

theorem deliverySite_ready :
    Ready rotationPlatform "https://web-eid.internal" "svc:auth" keyNames deliverySite
      sampleCall.issuer sampleCall.issuer.keySet where
  issuer := rfl
  made := ⟨sampleKey, "https://web-eid.internal", "svc:auth", 120000000000, rfl⟩
  published := rfl
  active := by decide
  named := by decide
  valid := by
    intro kid pub hget
    obtain ⟨-, rfl⟩ := get_sampleKeys hget
    exact ⟨rfl, p256Point, rfl⟩
  json := by
    intro order doc horder hdoc
    obtain rfl := List.perm_singleton.mp horder
    cases hdoc
    exact encodes_rotated [false]
  url_eq := rfl
  audience_eq := rfl
  own := by
    intro kid pub hget
    obtain ⟨rfl, rfl⟩ := get_sampleKeys hget
    decide

theorem rotatedSite_ready :
    Ready rotationPlatform "https://web-eid.internal" "svc:auth" keyNames rotatedSite nextIssuer
      rotatedKeys where
  issuer := rfl
  made := ⟨nextIssuer.key, "https://web-eid.internal", "svc:auth", 120000000000, rfl⟩
  published := rfl
  active := by decide
  named := by decide
  valid := by
    intro kid pub hget
    rcases get_rotatedKeys hget with ⟨-, rfl⟩ | ⟨-, rfl⟩
    · exact ⟨rfl, p256Point, rfl⟩
    · exact ⟨rfl, nextPoint, rfl⟩
  json := by
    intro order doc horder hdoc
    rcases List.perm_pair.mp horder with rfl | rfl
    · cases hdoc
      exact encodes_rotated [false, true]
    · cases hdoc
      exact encodes_rotated [true, false]
  url_eq := rfl
  audience_eq := rfl
  own := fun _ _ hget => hget

def liveDeployment : Deployment (InMemoryStore Context) :=
  ⟨deliverySite, newSessionStore policyConfiguration, ⟨0⟩, [], KeySet.empty, []⟩

def keysRequest : Request := deliveryRequest .get "/.well-known/jwks.json"

/-- A login, and then the new deployment. -/
def replaced : Deployment (InMemoryStore Context) :=
  step rotationPlatform InMemoryStore.store
    (.deploy rotatedSite (newSessionStore policyConfiguration))
    (step rotationPlatform InMemoryStore.store
      (.serve (deliveryRequest .post "/auth/validate")) liveDeployment)

/-- The consumer reads the keys after that. -/
def rotated : Deployment (InMemoryStore Context) :=
  step rotationPlatform InMemoryStore.store (.fetch keysRequest) replaced

theorem keysRequest_fetches : FetchesKeys keysRequest := ⟨rfl, rfl, fun _ => List.Perm.refl _⟩

def deliveredAssertion : Sent where
  text := b64 [1] ++ "." ++ b64 [2] ++ "." ++
    b64 (Go.fillBytes p256ByteLen 7 ++ Go.fillBytes p256ByteLen 9)
  issuer := sampleCall.issuer
  subject := assertionSubject deliverySubject
  env := sampleCall.env

theorem deliveredAssertion_issuable : Issuable rotationPlatform deliveredAssertion where
  issues :=
    { sign := fun _ => ⟨7, 9, rfl, by decide, by decide, rfl⟩
      header := ⟨[1], rfl, rfl⟩
      claims := by
        intro jti hjti
        cases hjti
        exact ⟨[2], rfl, rfl⟩ }
  unix_pos := by decide
  fits := ⟨by decide, by decide⟩

theorem replaced_reach :
    (machine rotationPlatform InMemoryStore.store "https://web-eid.internal" "svc:auth"
      keyNames).Reach replaced := by
  have hlive : (machine rotationPlatform InMemoryStore.store "https://web-eid.internal" "svc:auth"
      keyNames).Reach liveDeployment :=
    .init ⟨⟨_, _, deliverySite_ready⟩, rfl, rfl, rfl⟩
  have hlogin := hlive.step (a := Action.serve (deliveryRequest .post "/auth/validate")) (by
    refine ⟨by decide, ?_⟩
    intro x hx
    obtain rfl : x = deliveredAssertion := List.mem_singleton.mp hx
    exact deliveredAssertion_issuable)
  exact hlogin.step (a := Action.deploy rotatedSite (newSessionStore policyConfiguration)) (by
    refine ⟨_, _, rotatedSite_ready, ?_⟩
    intro x hx _
    obtain rfl : x = deliveredAssertion := List.mem_singleton.mp hx
    decide)

theorem replaced_sent : replaced.sent = [deliveredAssertion] := rfl

theorem rotated_reach :
    (machine rotationPlatform InMemoryStore.store "https://web-eid.internal" "svc:auth"
      keyNames).Reach rotated := by
  rw [rotated, ← machine_step _ _ "https://web-eid.internal" "svc:auth" keyNames]
  exact replaced_reach.step keysRequest_fetches

/-- The assertion of the old key is accepted on the document of the new one. -/
theorem rotation_keeps_assertions_rotated :
    replaced.site.handler.assertionIssuer = some nextIssuer ∧
      ∃ v c, newVerifier (some rotated.consumer) "https://web-eid.internal" "svc:auth" [] = .ok v ∧
        v.verify rotationPlatform ⟨62135596806000000000⟩ deliveredAssertion.text = .ok c ∧
        c.nationalID = "PNOLV-32345678901" := by
  have hsent : deliveredAssertion ∈ replaced.sent := by
    rw [replaced_sent]
    exact List.mem_singleton_self _
  obtain ⟨hkept, hclock⟩ : rotated.sent = replaced.sent ∧ rotated.clock = replaced.clock :=
    step_fetch keysRequest replaced
  obtain ⟨-, hfetch⟩ := rotation_keeps_assertions rotationPlatform_points replaced_reach
  have hcaught : rotated.caughtUp = replaced.sent := hfetch keysRequest keysRequest_fetches
  obtain ⟨⟨v, hv, hverdict⟩, -⟩ := rotation_keeps_assertions rotationPlatform_points rotated_reach
  have hissuer : replaced.site.handler.assertionIssuer = some nextIssuer := rfl
  refine ⟨hissuer, v, ?_⟩
  rw [hkept, hclock, hcaught] at hverdict
  rcases hverdict deliveredAssertion hsent ⟨62135596806000000000⟩ (by decide)
    ⟨by decide, by decide⟩ with ⟨jti, haccepts⟩ | ⟨hmissed, -⟩
  · exact ⟨_, hv, haccepts, rfl⟩
  · exact absurd hsent hmissed

end WebEid.Rotation
