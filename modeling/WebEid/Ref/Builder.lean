import WebEid.Ref.Validator

/-!
# The builder as a sequence of calls (`validator_options.go`)

`NewAuthTokenValidatorBuilder` is the builder with its defaults, and every
other method but `Build` changes one field and returns the builder. A use of
it is a list of such calls. Where an argument is a pointer or an interface,
`none` is nil.
-/

namespace WebEid

open Lib Exceptions Ocsp

/-- The methods of the builder, with their arguments. -/
inductive BuilderCall where
  | withSiteOrigin (origin : String)
  | withSiteOrigins (origins : List String)
  | withAllowInsecureLocalhostOrigin
  | withTrustedCertificateAuthorities (cas : List Certificate)
  | withTrustStore (ts : Option StoreRef)
  | withoutUserCertificateRevocationCheckWithOcsp
  | withDesignatedOcspServiceConfiguration (cfg : Option DesignatedServiceConfiguration)
  | withOcspClient (c : Option Client)
  | withOcspRequestTimeout (d : Duration)
  | withDisallowedCertificatePolicies (oids : List ObjectIdentifier)
  | withNonceDisabledOcspUrls (urls : List String)
  | withAllowedOcspResponderURLs (urls : List String)
  | withAllowedOcspResponseTimeSkew (d : Duration)
  | withMaxOcspResponseThisUpdateAge (d : Duration)

namespace AuthTokenValidatorBuilder

def withSiteOrigin (b : AuthTokenValidatorBuilder) (origin : String) :
    AuthTokenValidatorBuilder := { b with origins := b.origins ++ [origin] }

def withTrustedCertificateAuthorities (b : AuthTokenValidatorBuilder) (cas : List Certificate) :
    AuthTokenValidatorBuilder := { b with trustedCAs := b.trustedCAs ++ cas }

def withOcspClient (b : AuthTokenValidatorBuilder) (c : Option Client) :
    AuthTokenValidatorBuilder := { b with ocspClient := c }

def withAllowedOcspResponseTimeSkew (b : AuthTokenValidatorBuilder) (d : Duration) :
    AuthTokenValidatorBuilder := if 0 < d then { b with ocspSkew := d } else b

def withMaxOcspResponseThisUpdateAge (b : AuthTokenValidatorBuilder) (d : Duration) :
    AuthTokenValidatorBuilder := if 0 < d then { b with ocspMaxThisUpdateAge := d } else b

def call (b : AuthTokenValidatorBuilder) : BuilderCall → AuthTokenValidatorBuilder
  | .withSiteOrigin origin => b.withSiteOrigin origin
  | .withSiteOrigins origins => b.withSiteOrigins origins
  | .withAllowInsecureLocalhostOrigin => b.withAllowInsecureLocalhostOrigin
  | .withTrustedCertificateAuthorities cas => b.withTrustedCertificateAuthorities cas
  | .withTrustStore (some ts) => b.withTrustStore ts
  | .withTrustStore none => { b with trustStore := none }
  | .withoutUserCertificateRevocationCheckWithOcsp =>
      b.withoutUserCertificateRevocationCheckWithOcsp
  | .withDesignatedOcspServiceConfiguration (some cfg) =>
      b.withDesignatedOcspServiceConfiguration cfg
  | .withDesignatedOcspServiceConfiguration none => { b with designatedOCSP := none }
  | .withOcspClient c => b.withOcspClient c
  | .withOcspRequestTimeout d => b.withOcspRequestTimeout d
  | .withDisallowedCertificatePolicies oids => b.withDisallowedCertificatePolicies oids
  | .withNonceDisabledOcspUrls urls => b.withNonceDisabledOcspUrls urls
  | .withAllowedOcspResponderURLs urls => b.withAllowedOcspResponderURLs urls
  | .withAllowedOcspResponseTimeSkew d => b.withAllowedOcspResponseTimeSkew d
  | .withMaxOcspResponseThisUpdateAge d => b.withMaxOcspResponseThisUpdateAge d

/-- A new builder after these calls. -/
def ofCalls (calls : List BuilderCall) : AuthTokenValidatorBuilder := calls.foldl call {}

end AuthTokenValidatorBuilder

end WebEid
