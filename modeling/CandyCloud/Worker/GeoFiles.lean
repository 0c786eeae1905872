import CandyCloud.Foundation.SortedSets
import CandyCloud.Worker.Input

/-! # GeoIP provider files

The country files of a provider directory, as `expand_geo_rule` reads them, and the refresh that
downloads them.
-/

namespace CandyCloud

open Foundation

/-- What is wrong with a line of a country file. -/
inductive GeoLineError where
  | cidr
  | address
  | length
  | nonCanonical
deriving DecidableEq, Repr

inductive GeoProviderError where
  | unsupportedProvider (provider : String)
  | versionUnavailable
  | versionMismatch (expected found : String)
  | fileUnavailable (file : String)
  | ipv6Entry (file : String) (line : Nat)
  | invalidEntry (file : String) (line : Nat) (error : GeoLineError)
  | noPrefixes
  | tooManyPrefixes (count : Nat)
  | digestMismatch
  | sourceUnavailable
  | sourceMismatch (configured found : String)
  | countryUnavailable (country : String)
  | download (context : String)
  | invalidDownload (country : String) (line : Nat) (error : GeoLineError)
  | emptyDownload (country : String)
deriving DecidableEq, Repr

def GeoLineError.text (place : String) : GeoLineError → String
  | .cidr => "invalid GeoIP CIDR " ++ place
  | .address => "invalid GeoIP IPv4 address " ++ place
  | .length => "invalid GeoIP prefix length " ++ place
  | .nonCanonical => "non-canonical GeoIP CIDR " ++ place

def downloadPlace (country : String) (line : Nat) : GeoLineError → String
  | .cidr => "for " ++ country ++ " at line " ++ toString line
  | .address | .length | .nonCanonical => "for " ++ country

/-- The messages; `directory` is the path of the provider. -/
def GeoProviderError.message (directory : String) : GeoProviderError → String
  | .unsupportedProvider provider =>
      "unsupported GeoIP provider " ++ provider ++ "; expected openwrt-cidr-v1"
  | .versionUnavailable => "GeoIP provider VERSION is unavailable"
  | .versionMismatch expected found =>
      "GeoIP provider version mismatch: expected " ++ expected ++ ", found " ++ found
  | .fileUnavailable file => "GeoIP provider file is unavailable: " ++ directory ++ "/" ++ file
  | .ipv6Entry file line =>
      "IPv6 GeoIP entry is not supported at " ++ directory ++ "/" ++ file ++ ":" ++ toString line
  | .invalidEntry file line error =>
      error.text ("at " ++ directory ++ "/" ++ file ++ ":" ++ toString line)
  | .noPrefixes => "GeoIP selector has no IPv4 prefixes"
  | .tooManyPrefixes count =>
      "GeoIP selector expands to " ++ toString count ++
        " prefixes, exceeding the signed route limit of " ++ toString maxGeoRoutePrefixes
  | .digestMismatch => "GeoIP provider digest mismatch"
  | .sourceUnavailable => "GeoIP provider SOURCE_URL is unavailable"
  | .sourceMismatch configured found =>
      "GeoIP provider source mismatch: configured source is " ++ configured ++
        ", local source is " ++ found
  | .countryUnavailable country =>
      "GeoIP provider data is unavailable for country " ++ country
  | .download context => context
  | .invalidDownload country line error => error.text (downloadPlace country line error)
  | .emptyDownload country => "GeoIP provider returned no IPv4 prefixes for " ++ country

/-- `str::lines`: a final line is one only if it is not empty. -/
def textLines (text : List Char) : List (List Char) :=
  let parts := text.splitOn '\n'
  (parts.dropLast.map fun line =>
    if line.getLast? = some '\r' then line.dropLast else line) ++
      parts.getLast?.toList.filter (!·.isEmpty)

def geoValue (raw : List Char) : List Char :=
  trim (raw.takeWhile (· != '#'))

def geoPrefix (value : List Char) : Except GeoLineError Ipv4PrefixV1 := do
  let (network, prefixLen) ← orElse .cidr (splitOnce 47 (utf8 (String.ofList value)))
  let network ← orElse .address (parseIpv4 network)
  let prefixLen ← orElse .length (parseUnsigned 255 prefixLen)
  let announced : Ipv4PrefixV1 := ⟨network, prefixLen⟩
  announced.validate.mapError fun _ => .nonCanonical
  return announced

structure GeoEntry where
  value : List Char
  announced : Ipv4PrefixV1
deriving DecidableEq, Repr

/-- The lines of a country file from the given line number on. -/
def readGeoLines (file : String) : Nat → List (List Char) →
    Except GeoProviderError (List GeoEntry)
  | _, [] => .ok []
  | line, raw :: rest =>
      let value := geoValue raw
      if value.isEmpty then readGeoLines file (line + 1) rest
      else do
        reject (value.contains ':') (.ipv6Entry file line)
        let announced ← (geoPrefix value).mapError (.invalidEntry file line)
        let entries ← readGeoLines file (line + 1) rest
        return ⟨value, announced⟩ :: entries

def checkGeoLines (country : String) : Nat → List (List Char) → Except GeoProviderError Nat
  | _, [] => .ok 0
  | line, raw :: rest =>
      let value := geoValue raw
      if value.isEmpty then checkGeoLines country (line + 1) rest
      else do
        let _ ← (geoPrefix value).mapError (.invalidDownload country line)
        let count ← checkGeoLines country (line + 1) rest
        return count + 1

structure GeoFile where
  /-- None where the bytes are not UTF-8. -/
  text : Option String
  modified : Instant
deriving DecidableEq, Repr

/-- `SOURCE_URL`, `VERSION` and the `-ip.cidr` files by the country code that their
    name starts with. -/
structure GeoDirectory where
  source : Option GeoFile
  version : Option GeoFile
  country : String → Option GeoFile

def GeoDirectory.empty : GeoDirectory := ⟨none, none, fun _ => none⟩

def toAsciiLowercase (text : String) : String :=
  String.ofList (text.toList.map Char.toLower)

def trimText (text : String) : String :=
  String.ofList (trim text.toList)

def countryFile (country : String) : String :=
  toAsciiLowercase country ++ "-ip.cidr"

/-- `read_to_string`. -/
def GeoFile.read (file : Option GeoFile) : Option String :=
  file.bind GeoFile.text

namespace GeoDirectory

variable (directory : GeoDirectory)

def readCountry (country : String) : Except GeoProviderError (List GeoEntry) := do
  let content ← orElse (.fileUnavailable (countryFile country))
    (GeoFile.read (directory.country (toAsciiLowercase country)))
  readGeoLines (countryFile country) 1 (textLines content.toList)

def canonical (country : String) (entries : List GeoEntry) : Bytes :=
  entries.flatMap fun entry =>
    utf8 country ++ 0 :: utf8 (String.ofList entry.value) ++ [10]

def checkVersion (expected : Option String) : Except GeoProviderError Unit :=
  match expected with
  | none => .ok ()
  | some expected => do
      let actual ← orElse .versionUnavailable (GeoFile.read directory.version)
      reject (trimText actual != expected) (.versionMismatch expected (trimText actual))

/-- The destinations of a rule with a selector, and the digest of the entries. -/
def expansion (sha256 : Bytes → Hash) (selector : PolicyGeoSelectorV1)
    (explicit : List Ipv4PrefixV1) : Except GeoProviderError (List Ipv4PrefixV1 × Hash) := do
  reject (selector.provider != "openwrt-cidr-v1") (.unsupportedProvider selector.provider)
  directory.checkVersion selector.version
  let countries ← selector.countries.mapM fun country => do
    let entries ← directory.readCountry country
    return (country, entries)
  let bytes := countries.flatMap fun (country, entries) => canonical country entries
  reject bytes.isEmpty .noPrefixes
  let prefixes := explicit ++ countries.flatMap fun (_, entries) => entries.map GeoEntry.announced
  let prefixes := sortedSet prefixOrder prefixes
  reject (decide (maxGeoRoutePrefixes < prefixes.length)) (.tooManyPrefixes prefixes.length)
  let digest := sha256 bytes
  reject (selector.digest.any fun expected =>
    String.ofList (hexDigits 64 digest.toNat) != toAsciiLowercase expected) .digestMismatch
  return (prefixes, digest)

/-- `expand_geo_rule`: the rule as it leaves the call, and the outcome. -/
def expandGeoRule (sha256 : Bytes → Hash) (rule : ServicePolicyRuleV1) :
    ServicePolicyRuleV1 × Except GeoProviderError (Option Hash) :=
  match rule.destinationGeo with
  | none => (rule, .ok none)
  | some selector =>
      match directory.expansion sha256 selector rule.destinationPrefixes with
      | .error error => (rule, .error error)
      | .ok (destinationPrefixes, digest) => ({ rule with destinationPrefixes }, .ok (some digest))

end GeoDirectory

end CandyCloud
