import Mathlib.Data.Set.Function
import WebEid.Lib.Machine
import WebEid.Ref.Routes

/-!
# The challenge and login protocol as a system

One handler over the in-process store, any number of browsers and cards, and
an adversary who schedules everything. A challenge is two atomic steps (the
nonce is drawn, then put into the store) and a login is three (the nonce is
taken out, its age is checked, the token is validated); anything can happen
in between, and time passes only when the adversary lets it.

`step` calls the functions of the endpoints and of the store and keeps logs
beside them: which nonces were drawn, which challenges were issued, what the
cards signed, which logins succeeded. `challenge_steps` and `login_steps` say
that a request nobody interrupts is exactly its steps in a row.

The assumptions are in `allowed`. Drawn nonces do not repeat. A token is
presented only if whatever its signature verifies for was signed by the
certificate's card before. The strings of a run, the origins and nonces that
are hashed in it, are drawn from a universe `U`; that hashes do not collide
is assumed of `U` alone, since no hash is injective on all strings.
-/

namespace WebEid.Protocol

open Lib Exceptions Azugo

/-- What a card signs for an origin and a nonce. -/
def datagram (P : Platform) (hash : Hash) (origin nonce : String) : Bytes :=
  P.hashSum hash (Go.bytes origin) ++ P.hashSum hash (Go.bytes nonce)

structure SigningAct (Card : Type) where
  card : Card
  hash : Hash
  origin : String
  nonce : String

/-- A challenge of one session, with the clock reading its nonce carries. -/
structure Challenge where
  session : Context
  nonce : ChallengeNonce
  issuedAt : Uptime

/-- A login that has taken its session's nonce out of the store. -/
structure Attempt where
  session : Context
  req : LoginRequest
  stored : ChallengeNonce

/-- A login whose nonce was young enough when the clock was read. -/
structure Checked extends Attempt where
  checkedAt : Uptime

/-- A login that succeeded. -/
structure Login where
  session : Context
  cert : Certificate
  nonce : ChallengeNonce
  checkedAt : Uptime

structure Sys (Card : Type) where
  now : Uptime
  store : InMemoryStore Context
  drawn : List String
  puts : List Challenge
  issued : List Challenge
  signed : List (SigningAct Card)
  taken : List Attempt
  checked : List Checked
  logins : List Login

/-- What can happen next. A request under way is picked by its place in the
list it waits in. -/
inductive Action (Card : Type) where
  | tick (d : Nat)
  | draw (ctx : Context) (random : Nat → Except GoError Bytes)
  | put (i : Nat)
  | sign (act : SigningAct Card)
  | take (ctx : Context) (body : Except GoError LoginRequest)
  | check (i : Nat)
  | finish (i : Nat) (venv : ValidateEnv) (ienv : Assertion.IssueEnv)
      (trust : Nat → TrustSnapshot)

variable {Card : Type}

namespace Sys

def tick (d : Nat) (s : Sys Card) : Sys Card :=
  match s.now.advance d with
  | none => s
  | some t => { s with now := t }

/-- `challenge` up to the call of `Put`. -/
def draw (h : Handler) (start : Time) (ctx : Context) (random : Nat → Except GoError Bytes)
    (s : Sys Card) : Sys Card :=
  match h.generator.generate random (s.now.instant start) with
  | .error _ => s
  | .ok nonce =>
      { s with
        drawn := nonce.base64EncodedNonce :: s.drawn
        puts := ⟨ctx, nonce, s.now⟩ :: s.puts }

/-- The rest of `challenge`. -/
def put (start : Time) (i : Nat) (s : Sys Card) : Sys Card :=
  match s.puts[i]? with
  | none => s
  | some c =>
      match InMemoryStore.put (s.now.instant start) c.session c.nonce s.store with
      | (.error _, store) => { s with store := store, puts := s.puts.eraseIdx i }
      | (.ok (), store) =>
          { s with store := store, puts := s.puts.eraseIdx i, issued := c :: s.issued }

def sign (act : SigningAct Card) (s : Sys Card) : Sys Card :=
  { s with signed := act :: s.signed }

/-- `login` up to and including `GetAndRemove`. -/
def take (ctx : Context) (body : Except GoError LoginRequest) (s : Sys Card) : Sys Card :=
  match Handler.takeNonce InMemoryStore.store ctx body s.store with
  | (.error _, store) => { s with store := store }
  | (.ok (req, stored), store) =>
      { s with store := store, taken := ⟨ctx, req, stored⟩ :: s.taken }

/-- The expiry test of `login`. -/
def check (h : Handler) (start : Time) (i : Nat) (s : Sys Card) : Sys Card :=
  match s.taken[i]? with
  | none => s
  | some t =>
      match h.checkExpiry (s.now.instant start) t.stored with
      | .error _ => { s with taken := s.taken.eraseIdx i }
      | .ok () =>
          { s with taken := s.taken.eraseIdx i, checked := ⟨t, s.now⟩ :: s.checked }

end Sys

/-- The login a checked attempt ends in, if the endpoint answers success. -/
def loginOf (P : Platform) (h : Handler) (venv : ValidateEnv) (ienv : Assertion.IssueEnv)
    (trust : Nat → TrustSnapshot) (c : Checked) : Option Login :=
  match (h.validator.validate P venv c.req.authToken c.stored.base64EncodedNonce).under trust,
      (h.finishLogin P venv ienv trust c.req c.stored).answer with
  | .ok cert, .ok _ => some ⟨c.session, cert, c.stored, c.checkedAt⟩
  | _, _ => none

/-- The rest of `login`. -/
def Sys.finish (P : Platform) (h : Handler) (i : Nat) (venv : ValidateEnv)
    (ienv : Assertion.IssueEnv) (trust : Nat → TrustSnapshot) (s : Sys Card) : Sys Card :=
  match s.checked[i]? with
  | none => s
  | some c =>
      { s with
        checked := s.checked.eraseIdx i
        logins := (loginOf P h venv ienv trust c).toList ++ s.logins }

def step (P : Platform) (h : Handler) (start : Time) : Action Card → Sys Card → Sys Card
  | .tick d => Sys.tick d
  | .draw ctx random => Sys.draw h start ctx random
  | .put i => Sys.put start i
  | .sign act => Sys.sign act
  | .take ctx body => Sys.take ctx body
  | .check i => Sys.check h start i
  | .finish i venv ienv trust => Sys.finish P h i venv ienv trust

/-- Nothing has happened yet. -/
def start (h : Handler) (s : Sys Card) : Prop :=
  s.store = newSessionStore h.config ∧ s.drawn = [] ∧ s.puts = [] ∧ s.issued = [] ∧
    s.signed = [] ∧ s.taken = [] ∧ s.checked = [] ∧ s.logins = []

/-- A certificate's card made every signature of the token that verifies with
the certificate for some origin and nonce. -/
def Unforged (P : Platform) (cardOf : Certificate → Card) (U : Set String)
    (signed : List (SigningAct Card)) (token : AuthToken) : Prop :=
  ∀ cert hash sig origin nonce, origin ∈ U → nonce ∈ U →
    Signature.hashFor token.algorithm = some hash → token.decodeSignature = .ok sig →
    Signature.verify P cert token.algorithm (datagram P hash origin nonce) sig = .ok () →
    ∃ act ∈ signed, act.card = cardOf cert ∧
      datagram P act.hash act.origin act.nonce = datagram P hash origin nonce

/-- What is assumed of the next action. -/
def allowed (P : Platform) (h : Handler) (start : Time) (cardOf : Certificate → Card)
    (U : Set String) (s : Sys Card) : Action Card → Prop
  | .draw _ random => ∀ nonce, h.generator.generate random (s.now.instant start) = .ok nonce →
      nonce.base64EncodedNonce ∉ s.drawn ∧ nonce.base64EncodedNonce ∈ U
  | .sign act => act.origin ∈ U ∧ act.nonce ∈ U
  | .finish i _ _ _ => ∀ c, s.checked[i]? = some c →
      Unforged P cardOf U s.signed c.req.authToken
  | _ => True

def machine (P : Platform) (h : Handler) (t : Time) (cardOf : Certificate → Card)
    (U : Set String) : Machine (Sys Card) (Action Card) where
  init := start h
  allowed := allowed P h t cardOf U
  step := step P h t

/-- The hashes of the strings in `U` do not collide. -/
def CollisionFree (P : Platform) (U : Set String) : Prop :=
  ∀ hash, Set.InjOn (fun s => P.hashSum hash (Go.bytes s)) U

/-! ## The steps and the endpoints -/

/-- A challenge nobody interrupts is its two steps. -/
theorem challenge_steps {h : Handler} {t : Time} {s : Sys Card} {ctx : Context}
    {random : Nat → Except GoError Bytes} {nonce : String} {store : InMemoryStore Context}
    (hch : h.challenge InMemoryStore.store random (s.now.instant t) (s.now.instant t) ctx
      s.store = (.ok nonce, store)) :
    ((s.draw h t ctx random).put t 0).store = store ∧
      ∃ c, ((s.draw h t ctx random).put t 0).issued = c :: s.issued ∧ c.session = ctx ∧
        c.nonce = ⟨nonce, s.now.instant t⟩ ∧ c.issuedAt = s.now := by
  unfold Handler.challenge ChallengeNonceGenerator.generateAndStoreNonce at hch
  unfold Sys.draw
  cases hgen : h.generator.generate random (s.now.instant t) with
  | error err => rw [hgen] at hch; cases hch
  | ok n =>
      have hstamp := ChallengeNonceGenerator.generate_issuedAt hgen
      rw [hgen] at hch
      simp only [InMemoryStore.store] at hch
      unfold Sys.put
      simp only [List.getElem?_cons_zero]
      cases hput : InMemoryStore.put (s.now.instant t) ctx n s.store with
      | mk r store' =>
          rw [hput] at hch
          cases r with
          | error err => cases hch
          | ok u =>
              cases hch
              refine ⟨rfl, ⟨ctx, n, s.now⟩, rfl, rfl, ?_, rfl⟩
              rw [← hstamp]

/-- A login nobody interrupts is its three steps: when it succeeds, they
record it. -/
theorem login_steps {P : Platform} {h : Handler} {t : Time} {s : Sys Card} {ctx : Context}
    {body : Except GoError LoginRequest} {venv : ValidateEnv} {ienv : Assertion.IssueEnv}
    {trust : Nat → TrustSnapshot} {resp : LoginResponse} {user : Option User}
    {store : InMemoryStore Context}
    (hlogin : h.login P venv ienv InMemoryStore.store (s.now.instant t) trust ctx body
      s.store = (⟨user, .ok resp⟩, store)) :
    ∃ l, (((s.take ctx body).check h t 0).finish P h 0 venv ienv trust).logins =
        l :: s.logins ∧ l.session = ctx ∧ l.checkedAt = s.now := by
  unfold Handler.login at hlogin
  unfold Sys.take
  cases htake : Handler.takeNonce InMemoryStore.store ctx body s.store with
  | mk r store' =>
      rw [htake] at hlogin
      cases r with
      | error err => cases hlogin
      | ok p =>
          obtain ⟨req, stored⟩ := p
          simp only [] at hlogin
          unfold Sys.check
          simp only [List.getElem?_cons_zero]
          cases hexp : h.checkExpiry (s.now.instant t) stored with
          | error err => rw [hexp] at hlogin; cases hlogin
          | ok u =>
              rw [hexp] at hlogin
              simp only [Prod.mk.injEq] at hlogin
              have hfin := hlogin.1
              unfold Sys.finish loginOf
              simp only [List.getElem?_cons_zero]
              cases hval : (h.validator.validate P venv req.authToken
                  stored.base64EncodedNonce).under trust with
              | error err =>
                  unfold Handler.finishLogin establish at hfin
                  rw [hval] at hfin
                  cases hfin
              | ok cert =>
                  rw [hfin]
                  exact ⟨⟨ctx, cert, stored, s.now⟩, rfl, rfl, rfl⟩

end WebEid.Protocol
