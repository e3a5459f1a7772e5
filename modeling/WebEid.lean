import WebEid.Lib.Time
import WebEid.Lib.Base64
import WebEid.Lib.Call
import WebEid.Ref.Certificate
import WebEid.Ref.Trust
import WebEid.Ref.Signature
import WebEid.Ref.Token
import WebEid.Ref.Ocsp
import WebEid.Ref.Validator
import WebEid.Ref.Signing
import WebEid.Ref.Assertion
import WebEid.Ref.NonceStore
import WebEid.Ref.Handler
import WebEid.Ref.Routes
import WebEid.Lib.Machine
import WebEid.Lib.Once
import WebEid.Proofs.Agreement
import WebEid.Proofs.Login
import WebEid.Proofs.Revocation
import WebEid.Proofs.Finalize
import WebEid.Lib.Reread
import WebEid.Proofs.TrustReads
import WebEid.Proofs.TrustLifecycle
import WebEid.Lib.Expiring
import WebEid.Proofs.NonceStores
import WebEid.Ref.Verifier
import WebEid.Proofs.Assertions
import WebEid.Proofs.KeySets
import WebEid.Proofs.SignatureBinding
import WebEid.Proofs.SigningGates
import WebEid.Proofs.Negotiation
import WebEid.Proofs.RevocationPolicy
import WebEid.Ref.HttpClient
import WebEid.Proofs.Responders
import WebEid.Ref.Session
import WebEid.Proofs.SessionCookie
import WebEid.Proofs.ObjectIdentifiers
import WebEid.Proofs.Freshness
import WebEid.Lib.ReplayCache
import WebEid.Proofs.AssertionTimes
import WebEid.Proofs.DesignatedResponder
import WebEid.Proofs.Issuers
import WebEid.Proofs.VerifierEquivalence
import WebEid.Proofs.HostHeader
import WebEid.Proofs.Origins
import WebEid.Proofs.PolicyBlocklist
import WebEid.Lib.Collect
import WebEid.Proofs.DirectoryLoading
import WebEid.Proofs.EmptySources
import WebEid.Proofs.Tokens
import WebEid.Lib.Interference
import WebEid.Proofs.Federation
import WebEid.Proofs.SessionIsolation
import WebEid.Proofs.Acceptance
import WebEid.Proofs.Cluster
import WebEid.Proofs.HonestLogin
import WebEid.Proofs.Rotation
import WebEid.Proofs.StoreFootprint
import WebEid.Lib.Raises
import WebEid.Proofs.BuilderOrder
import WebEid.Proofs.Failures
import WebEid.Proofs.RevocationDelay
import WebEid.Proofs.Startup
import WebEid.Proofs.TrustInForce
