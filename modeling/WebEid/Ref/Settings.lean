import WebEid.Ref.Session

/-!
# The settings (`azugo/config.go`)

The file is data for two packages. `Bind` registers defaults with `viper`,
which fills the struct from what a deployment provides and from them, and
`Validate` hands the struct to a validator that reads its tags. What is here is
the data: the keys, the tags and the defaults. What the packages do with it is
a parameter (`valid`) or an assumption of the results.

The variables `Bind` names for the environment are left out: what is provided
for a key is a value of the field's own kind, however it was read.
-/

namespace WebEid.Azugo

open Lib Exceptions

/-- The value of a setting, by the kinds of the fields. -/
inductive Value where
  | text (s : String)
  | texts (l : List String)
  | duration (d : Duration)
  | bool (b : Bool)
  deriving DecidableEq, Repr

/-- Go's zero value of the same kind. -/
def Value.zero : Value → Value
  | .text _ => .text ""
  | .texts _ => .texts []
  | .duration _ => .duration 0
  | .bool _ => .bool false

/-- The tags the struct uses. -/
inductive Tag where
  | required
  | min (n : Nat)
  | dive
  | url
  | gt (d : Duration)
  | omitempty
  | oneof (names : List String)
  deriving DecidableEq, Repr

/-- A field of the struct: its key, what it holds and its `validate` tags. -/
structure Field where
  key : String
  value : Value
  tags : List Tag
  deriving DecidableEq, Repr

namespace SiteConfiguration

def fields (c : SiteConfiguration) : List Field :=
  [⟨"origins", .texts c.origins, [.required, .min 1, .dive, .url]⟩,
   ⟨"trusted_ca_certs_path", .text c.trustedCACertsPath, [.required]⟩,
   ⟨"nonce_ttl", .duration c.nonceTTL, [.required, .gt 0]⟩,
   ⟨"ocsp_enabled", .bool c.ocspEnabled, []⟩,
   ⟨"ocsp_request_timeout", .duration c.ocspRequestTimeout, [.required, .gt 0]⟩,
   ⟨"designated_ocsp_url", .text c.designatedOCSPURL, [.omitempty, .url]⟩,
   ⟨"ocsp_nonce_disabled_urls", .texts c.ocspNonceDisabledURLs, []⟩,
   ⟨"session_cookie_name", .text c.sessionCookieName, [.required]⟩,
   ⟨"signing_hash_preference", .texts c.signingHashPreference,
    [.required, .min 1, .dive,
      .oneof ["SHA-224", "SHA-256", "SHA-384", "SHA-512", "SHA3-224", "SHA3-256", "SHA3-384",
        "SHA3-512"]]⟩,
   ⟨"allow_insecure_localhost", .bool c.allowInsecureLocalhost, []⟩,
   ⟨"enforce_host_header", .bool c.enforceHostHeader, []⟩,
   ⟨"ocsp_allowed_responder_urls", .texts c.ocspAllowedResponderURLs, []⟩,
   ⟨"disallowed_policy_oids", .texts c.disallowedPolicyOIDs, []⟩,
   ⟨"signing_accepted_policy_oids", .texts c.signingAcceptedPolicyOIDs, []⟩]

/-- The defaults `Bind` sets, by key. -/
def bind : List (String × Value) :=
  [("nonce_ttl", .duration 300000000000),
   ("ocsp_enabled", .bool true),
   ("ocsp_request_timeout", .duration 5000000000),
   ("session_cookie_name", .text "WEBEID_SESSION"),
   ("signing_hash_preference", .texts ["SHA-256", "SHA-384", "SHA-512"]),
   ("allow_insecure_localhost", .bool false),
   ("enforce_host_header", .bool true)]

/-- `Validate`, as far as whether there is an error: `valid` is the validator's
verdict on one field. -/
def validate (valid : Value → List Tag → Bool) (c : SiteConfiguration) : Bool :=
  c.fields.all fun f => valid f.value f.tags

end SiteConfiguration

end WebEid.Azugo
