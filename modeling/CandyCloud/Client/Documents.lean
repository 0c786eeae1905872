import CandyCloud.Client.Tables
import CandyCloud.Json

/-! # Published documents of the terminal client plane

An access policy says what a device may reach and in which modes, the projection settings what
its tunnel does about DNS and the underlay.
-/

namespace CandyCloud

open Foundation

structure ClientAllowedResource where
  name : String
  domains : List String
  cidrs : List String
  ports : List Nat
deriving DecidableEq, Repr

structure ClientAccessPolicy where
  schemaVersion : Nat
  policyId : Uuid
  tenantId : Uuid
  generation : Nat
  modeCapabilities : List ClientTrafficMode
  globalEgressEnabled : Bool
  allowedResources : List ClientAllowedResource
deriving DecidableEq, Repr

inductive ClientAccessPolicyError where
  | invalidPolicy
  | invalidResource
  | invalidScope
  | conflict
  | invalidRecord
deriving DecidableEq, Repr

def maxResources : Nat := 4096

def maxResourceNameLen : Nat := 128

def maxDomainLen : Nat := 253

def maxCidrLen : Nat := 64

/-- `windows(2)` finds two equal neighbours. -/
def repeatedNeighbour {α : Type} [DecidableEq α] (values : List α) : Bool :=
  (values.zip values.tail).any fun pair => decide (pair.1 = pair.2)

/-- Some mode stands among the modes before its first occurrence. -/
def repeatedMode (modes : List ClientTrafficMode) : Bool :=
  modes.any fun mode => (modes.take (modes.idxOf mode)).contains mode

def resourceName (name : String) : Bool :=
  !name.isEmpty && decide ((utf8 name).length ≤ maxResourceNameLen) &&
    (utf8 name).all fun byte => asciiAlphanumeric byte || (utf8 "_.:-").contains byte

def malformedDomain (domain : String) : Bool :=
  domain.isEmpty || decide (maxDomainLen < (utf8 domain).length) ||
    (utf8 domain).getLast? == some 46 || (utf8 domain).any asciiUpper ||
    ((utf8 domain).splitOn 46).any fun label => !dnsLabel label

def malformedCidr (cidr : String) : Bool :=
  cidr.isEmpty || decide (maxCidrLen < (utf8 cidr).length)

def ClientAllowedResource.malformed (resource : ClientAllowedResource) : Bool :=
  !resourceName resource.name || (resource.domains.isEmpty && resource.cidrs.isEmpty) ||
    decide (1024 < resource.domains.length) || decide (1024 < resource.cidrs.length) ||
    decide (128 < resource.ports.length) || resource.ports.contains 0 ||
    resource.domains.any malformedDomain || repeatedNeighbour resource.domains ||
    resource.cidrs.any malformedCidr || repeatedNeighbour resource.cidrs ||
    repeatedNeighbour resource.ports

def ClientAccessPolicy.validate (policy : ClientAccessPolicy) :
    Except ClientAccessPolicyError Unit := do
  reject (policy.schemaVersion != 1 || isNil policy.policyId || isNil policy.tenantId ||
    policy.generation == 0 || policy.modeCapabilities.isEmpty ||
    repeatedMode policy.modeCapabilities ||
    (!policy.modeCapabilities.contains .global && policy.globalEgressEnabled) ||
    decide (maxResources < policy.allowedResources.length)) .invalidPolicy
  reject (malformedOrRepeated ClientAllowedResource.malformed (·.name) policy.allowedResources)
    .invalidResource

inductive ClientDegradedBehavior where
  | protectedFailClosed
  | protectedFailClosedDirectNonprotected
  | stopAll
deriving DecidableEq, Repr

structure ClientProjectionSettings where
  schemaVersion : Nat
  tenantId : Uuid
  generation : Nat
  dnsServers : List String
  searchDomains : List String
  underlayExclusions : List String
  degradedBehavior : ClientDegradedBehavior
deriving DecidableEq, Repr

inductive ClientProjectionSettingsError where
  | invalidSettings
  | invalidScope
  | conflict
  | invalidRecord
  | modeNotPermitted
deriving DecidableEq, Repr

def maxDnsServers : Nat := 8

def maxSearchDomains : Nat := 32

def maxUnderlayExclusions : Nat := 256

def maxDnsServerLen : Nat := 128

def maxSearchDomainLen : Nat := 253

def maxUnderlayExclusionLen : Nat := 128

/-- Not empty, bounded and without control characters. -/
def boundedText (maxLen : Nat) (value : String) : Bool :=
  !value.isEmpty && decide ((utf8 value).length ≤ maxLen) && !(utf8 value).any asciiControl

def boundedUnique (values : List String) (maxLen : Nat) : Bool :=
  values.all (boundedText maxLen) && decide values.Nodup

def ClientProjectionSettings.validate (settings : ClientProjectionSettings) :
    Except ClientProjectionSettingsError Unit := do
  reject (settings.schemaVersion != 1 || isNil settings.tenantId || settings.generation == 0)
    .invalidSettings
  reject (decide (maxDnsServers < settings.dnsServers.length) ||
    decide (maxSearchDomains < settings.searchDomains.length) ||
    settings.underlayExclusions.isEmpty ||
    decide (maxUnderlayExclusions < settings.underlayExclusions.length)) .invalidSettings
  reject (!boundedUnique settings.dnsServers maxDnsServerLen ||
    !boundedUnique settings.searchDomains maxSearchDomainLen ||
    !boundedUnique settings.underlayExclusions maxUnderlayExclusionLen) .invalidSettings

def ClientTrafficMode.toWireValue : ClientTrafficMode → String
  | .policy => "policy"
  | .global => "global"

def ClientDegradedBehavior.wireValue : ClientDegradedBehavior → String
  | .protectedFailClosed => "protected_fail_closed"
  | .protectedFailClosedDirectNonprotected => "protected_fail_closed_direct_nonprotected"
  | .stopAll => "stop_all"

def jsonStrings (texts : List String) : Bytes := jsonArray (texts.map jsonString)

def ClientAllowedResource.json (resource : ClientAllowedResource) : Bytes :=
  jsonObject [("name", jsonString resource.name), ("domains", jsonStrings resource.domains),
    ("cidrs", jsonStrings resource.cidrs), ("ports", jsonArray (resource.ports.map jsonNumber))]

def ClientAccessPolicy.json (policy : ClientAccessPolicy) : Bytes :=
  jsonObject [("schema_version", jsonNumber policy.schemaVersion),
    ("policy_id", jsonUuid policy.policyId), ("tenant_id", jsonUuid policy.tenantId),
    ("generation", jsonNumber policy.generation),
    ("mode_capabilities", jsonStrings (policy.modeCapabilities.map (·.toWireValue))),
    ("global_egress_enabled", jsonBool policy.globalEgressEnabled),
    ("allowed_resources", jsonArray (policy.allowedResources.map (·.json)))]

def ClientProjectionSettings.json (settings : ClientProjectionSettings) : Bytes :=
  jsonObject [("schema_version", jsonNumber settings.schemaVersion),
    ("tenant_id", jsonUuid settings.tenantId), ("generation", jsonNumber settings.generation),
    ("dns_servers", jsonStrings settings.dnsServers),
    ("search_domains", jsonStrings settings.searchDomains),
    ("underlay_exclusions", jsonStrings settings.underlayExclusions),
    ("degraded_behavior", jsonString settings.degradedBehavior.wireValue)]

end CandyCloud
