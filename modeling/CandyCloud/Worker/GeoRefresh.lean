import CandyCloud.Encoding
import CandyCloud.Foundation.Machine
import CandyCloud.Worker.GeoFiles

/-! # Refreshed GeoIP data

`refresh_geo_provider` over the directories of a provider: the activated data are used as long
as they are fresh for the settings, else every configured country is downloaded anew.
-/

namespace CandyCloud

open Foundation

/-- The settings of the platform with what the refresh needs of them. -/
structure GeoRefreshSettings extends GeoProviderSettings where
  sourceUrl : String
  refreshIntervalSeconds : Nat
  version : Option String
deriving DecidableEq, Repr

/-- The provider root: files of its own, and the directories below it. -/
structure GeoStore where
  root : GeoDirectory
  current : Option GeoDirectory
  previous : Option GeoDirectory

/-- What a refresh meets: the clock, the answers of the source, when each file is written,
    by its name, and whether the rotated directory can be removed. -/
structure GeoFetch where
  now : Instant
  today : String
  download : String → Except String String
  written : String → Instant
  removed : Bool

/-- The age of the oldest file that exists decides. -/
def providerIsFresh (directory : GeoDirectory) (settings : GeoRefreshSettings) (now : Instant) :
    Bool :=
  decide ((GeoFile.read directory.source).map trimText = some settings.sourceUrl) &&
    (settings.version.all fun expected =>
      decide ((GeoFile.read directory.version).map trimText = some expected)) &&
    match (settings.countries.filterMap fun country =>
      (directory.country (toAsciiLowercase country)).map GeoFile.modified).min? with
    | none => false
    | some modified =>
        decide (modified ≤ now) &&
          decide ((now - modified) / 1000000 ≤ settings.refreshIntervalSeconds)

def geoUrl (settings : GeoRefreshSettings) (country : String) : String :=
  String.ofList (settings.sourceUrl.toList.reverse.dropWhile (· == '/')).reverse ++ "/" ++
    toAsciiLowercase country ++ "-aggregated.zone"

def stageCountry (settings : GeoRefreshSettings) (fetch : GeoFetch) (stage : GeoDirectory)
    (country : String) : Except GeoProviderError GeoDirectory := do
  let content ← (fetch.download (geoUrl settings country)).mapError .download
  let count ← checkGeoLines country 1 (textLines content.toList)
  reject (count == 0) (.emptyDownload country)
  return { stage with
    country := fun code =>
      if code = toAsciiLowercase country then some ⟨some content, fetch.written (countryFile country)⟩
      else stage.country code }

def stageProvider (settings : GeoRefreshSettings) (fetch : GeoFetch) :
    Except GeoProviderError GeoDirectory := do
  let stage ← updateEach (stageCountry settings fetch) GeoDirectory.empty settings.countries
  return { stage with
    version := some ⟨some (settings.version.getD fetch.today ++ "\n"), fetch.written "VERSION"⟩
    source := some ⟨some (settings.sourceUrl ++ "\n"), fetch.written "SOURCE_URL"⟩ }

namespace GeoStore

def empty : GeoStore := ⟨GeoDirectory.empty, none, none⟩

/-- A rotated directory whose successor was never activated comes back. -/
def recovered (store : GeoStore) : GeoStore :=
  if store.current.isNone then { store with current := store.previous, previous := none }
  else store

def provider (store : GeoStore) : GeoDirectory :=
  store.current.getD store.root

/-- `activate_geo_provider`. -/
def activate (store : GeoStore) (stage : GeoDirectory) (removed : Bool) : GeoStore :=
  { store with current := some stage, previous := if removed then none else store.current }

end GeoStore

/-- The directory that the caller reads, and the store behind the call. -/
def refreshGeoProvider (settings : GeoRefreshSettings) (store : GeoStore) (fetch : GeoFetch) :
    Except GeoProviderError GeoDirectory × GeoStore :=
  let store := store.recovered
  if providerIsFresh store.provider settings fetch.now then (.ok store.provider, store)
  else
    match stageProvider settings fetch with
    | .error error => (.error error, store)
    | .ok stage => (.ok stage, store.activate stage fetch.removed)

/-- One refresh of the country files. -/
def geoRefreshStep (store : GeoStore) (request : GeoRefreshSettings × GeoFetch) : GeoStore :=
  (refreshGeoProvider request.1 store request.2).2

def validateGeoProviderMetadata (settings : GeoRefreshSettings) (directory : GeoDirectory) :
    Except GeoProviderError Unit := do
  let source ← orElse .sourceUnavailable (GeoFile.read directory.source)
  reject (trimText source != settings.sourceUrl)
    (.sourceMismatch settings.sourceUrl (trimText source))
  match settings.countries.find? fun country =>
    (directory.country (toAsciiLowercase country)).isNone with
  | none => return ()
  | some country => .error (.countryUnavailable (toAsciiLowercase country))

variable {value : Nat} {text : Bytes} {country : String} {directory stage stage' : GeoDirectory}
  {settings : GeoRefreshSettings} {fetch : GeoFetch}

theorem parseUnsigned_plain {largest : Nat} (parsed : parseUnsigned largest text = some value)
    : 58 ∉ text := by
  simp only [parseUnsigned, Option.ite_none_right_eq_some, Bool.and_eq_true, List.all_eq_true]
    at parsed
  obtain ⟨⟨⟨-, digits⟩, -⟩, -⟩ := parsed
  intro colon
  cases text with
  | nil => exact absurd colon List.not_mem_nil
  | cons first rest =>
      split at digits
      · rename_i plus
        cases List.mem_cons.mp colon with
        | inl same => simp [← same] at plus
        | inr later => exact absurd (digits 58 later) (by decide)
      · exact absurd (digits 58 colon) (by decide)

theorem parseOctet_plain (parsed : parseOctet text = some value) :
    58 ∉ text := by
  rw [parseOctet, Option.ite_none_right_eq_some] at parsed
  exact parseUnsigned_plain parsed.2

theorem parseIpv4_plain {address : BitVec 32} (parsed : parseIpv4 text = some address)
    : 58 ∉ text := by
  have parts : ∀ part ∈ text.splitOn 46, 58 ∉ part := by
    unfold parseIpv4 at parsed
    split at parsed
    · rename_i a b c d groups
      rw [groups]
      simp only [Option.bind_eq_bind, Option.bind_eq_some_iff] at parsed
      obtain ⟨_, first, _, second, _, third, _, fourth, -⟩ := parsed
      intro part member
      simp only [List.mem_cons, List.not_mem_nil, or_false] at member
      rcases member with rfl | rfl | rfl | rfl
      · exact parseOctet_plain first
      · exact parseOctet_plain second
      · exact parseOctet_plain third
      · exact parseOctet_plain fourth
    · cases parsed
  intro colon
  cases mem_splitOn 46 colon with
  | inl same => exact absurd same (by decide)
  | inr inside =>
      obtain ⟨part, listed, within⟩ := inside
      exact parts part listed within

theorem utf8_colon {chars : List Char} (colon : ':' ∈ chars) :
    58 ∈ utf8 (String.ofList chars) := by
  obtain ⟨before, after, rfl⟩ := List.append_of_mem colon
  rw [String.ofList_append, utf8_append]
  have head : utf8 (String.ofList (':' :: after)) = 58 :: utf8 (String.ofList after) :=
    utf8_ofList_cons (by decide : (58 : UInt8) < 128) after
  rw [head]
  simp

theorem geoPrefix_plain {value : List Char} {announced : Ipv4PrefixV1}
    (parsed : geoPrefix value = .ok announced) : value.contains ':' = false := by
  rw [Bool.eq_false_iff]
  intro colon
  have bytes := utf8_colon (List.contains_iff_mem.mp colon)
  simp only [geoPrefix, bind_ok, orElse_ok] at parsed
  obtain ⟨⟨network, prefixLen⟩, parts, _, address, _, length, -⟩ := parsed
  simp only [splitOnce, Option.ite_none_right_eq_some, Option.some.injEq, Prod.mk.injEq] at parts
  obtain ⟨slash, rfl, rfl⟩ := parts
  have whole := List.takeWhile_append_dropWhile (p := (· != (47 : UInt8)))
    (l := utf8 (String.ofList value))
  rw [← whole, List.mem_append] at bytes
  cases bytes with
  | inl front => exact parseIpv4_plain address front
  | inr behind =>
      apply parseUnsigned_plain length
      cases rest : (utf8 (String.ofList value)).dropWhile (· != (47 : UInt8)) with
      | nil =>
          rw [rest] at behind
          exact absurd behind List.not_mem_nil
      | cons first later =>
          rw [rest] at behind
          cases List.mem_cons.mp behind with
          | inl same =>
              have separator := List.head?_dropWhile_not (· != (47 : UInt8))
                (utf8 (String.ofList value))
              rw [rest] at separator
              simp [← same] at separator
          | inr inside => exact inside

theorem checkGeoLines_read {line count : Nat} {lines : List (List Char)}
    (checked : checkGeoLines country line lines = .ok count) (file : String) :
    ∃ entries, readGeoLines file line lines = .ok entries := by
  induction lines generalizing line count with
  | nil => exact ⟨[], rfl⟩
  | cons raw rest ih =>
      rw [checkGeoLines] at checked
      rw [readGeoLines]
      split at checked
      · rename_i blank
        rw [if_pos blank]
        exact ih checked
      · rename_i filled
        rw [if_neg filled]
        simp only [bind_ok, mapError_ok, pure_ok] at checked
        obtain ⟨announced, parsed, others, checked, -⟩ := checked
        obtain ⟨entries, read⟩ := ih checked
        refine ⟨⟨geoValue raw, announced⟩ :: entries, ?_⟩
        rw [unit_bind_ok, reject_ok]
        refine ⟨geoPrefix_plain parsed, ?_⟩
        simp only [bind_ok, mapError_ok, pure_ok]
        exact ⟨announced, parsed, entries, read, rfl⟩

/-- Every country file passed the check of a download. -/
def GeoDirectory.Checked (directory : GeoDirectory) : Prop :=
  ∀ code file, directory.country code = some file → ∃ content country count,
    file.text = some content ∧ checkGeoLines country 1 (textLines content.toList) = .ok count

theorem GeoDirectory.checked_empty : GeoDirectory.empty.Checked := fun _ _ stored => by cases stored

theorem GeoDirectory.Checked.read (checked : directory.Checked)
    (stored : (directory.country (toAsciiLowercase country)).isSome) :
    ∃ entries, directory.readCountry country = .ok entries := by
  obtain ⟨file, found⟩ := Option.isSome_iff_exists.mp stored
  obtain ⟨content, _, _, text, passed⟩ := checked _ file found
  obtain ⟨entries, read⟩ := checkGeoLines_read passed (countryFile country)
  refine ⟨entries, ?_⟩
  rw [readCountry, found, GeoFile.read, Option.bind_some, text]
  exact read

theorem GeoDirectory.readCountry_stored {entries : List GeoEntry}
    (read : directory.readCountry country = .ok entries) :
    (directory.country (toAsciiLowercase country)).isSome := by
  simp only [readCountry, bind_ok, orElse_ok] at read
  obtain ⟨content, text, -⟩ := read
  cases stored : directory.country (toAsciiLowercase country) with
  | none => simp [stored, GeoFile.read] at text
  | some file => rfl

theorem stageCountry_ok (checked : stage.Checked)
    (staged : stageCountry settings fetch stage country = .ok stage') :
    stage'.Checked ∧ (stage'.country (toAsciiLowercase country)).isSome ∧
      ∀ code, (stage.country code).isSome → (stage'.country code).isSome := by
  simp only [stageCountry, bind_ok, pure_ok] at staged
  obtain ⟨content, -, count, passed, -, -, rfl⟩ := staged
  refine ⟨?_, by simp, ?_⟩
  · intro code file stored
    simp only at stored
    split at stored
    · cases stored
      exact ⟨content, country, count, rfl, passed⟩
    · exact checked code file stored
  · intro code stored
    simp only
    split
    · rfl
    · exact stored

theorem stageCountries_ok {countries : List String} (checked : stage.Checked)
    (staged : updateEach (stageCountry settings fetch) stage countries = .ok stage') :
    stage'.Checked ∧ (∀ country ∈ countries, (stage'.country (toAsciiLowercase country)).isSome) ∧
      ∀ code, (stage.country code).isSome → (stage'.country code).isSome := by
  induction countries generalizing stage with
  | nil =>
      cases staged
      exact ⟨checked, fun country member => absurd member List.not_mem_nil, fun _ stored => stored⟩
  | cons country rest ih =>
      simp only [updateEach, bind_ok] at staged
      obtain ⟨middle, first, staged⟩ := staged
      obtain ⟨checked', present, kept⟩ := stageCountry_ok checked first
      obtain ⟨checked'', others, kept'⟩ := ih checked' staged
      refine ⟨checked'', ?_, fun code stored => kept' code (kept code stored)⟩
      intro other member
      cases List.mem_cons.mp member with
      | inl same => exact same ▸ kept' _ present
      | inr later => exact others other later

theorem stageProvider_ok (staged : stageProvider settings fetch = .ok stage) :
    stage.Checked ∧
      (∀ country ∈ settings.countries, (stage.country (toAsciiLowercase country)).isSome) ∧
      GeoFile.read stage.source = some (settings.sourceUrl ++ "\n") := by
  simp only [stageProvider, bind_ok, pure_ok] at staged
  obtain ⟨countries, staged, rfl⟩ := staged
  obtain ⟨checked, present, -⟩ := stageCountries_ok GeoDirectory.checked_empty staged
  exact ⟨checked, present, rfl⟩

/-- Every directory of the store was empty or downloaded. -/
structure GeoStore.Checked (store : GeoStore) : Prop where
  root : store.root.Checked
  current : ∀ directory, store.current = some directory → directory.Checked
  previous : ∀ directory, store.previous = some directory → directory.Checked

namespace GeoStore.Checked

variable {store : GeoStore}

theorem empty : GeoStore.empty.Checked where
  root := GeoDirectory.checked_empty
  current _ stored := by cases stored
  previous _ stored := by cases stored

theorem recovered (checked : store.Checked) : store.recovered.Checked := by
  unfold GeoStore.recovered
  split
  · exact ⟨checked.root, checked.previous, fun _ stored => by cases stored⟩
  · exact checked

theorem provider (checked : store.Checked) : store.provider.Checked := by
  unfold GeoStore.provider
  cases active : store.current with
  | none => exact checked.root
  | some directory => exact checked.current directory active

theorem activate (checked : store.Checked) (staged : stage.Checked) (removed : Bool)
    : (store.activate stage removed).Checked where
  root := checked.root
  current := by
    rintro directory ⟨⟩
    exact staged
  previous := by
    intro directory stored
    cases removed with
    | true => cases stored
    | false => exact checked.current directory stored

theorem step (checked : store.Checked) (request : GeoRefreshSettings × GeoFetch) :
    (geoRefreshStep store request).Checked := by
  unfold geoRefreshStep refreshGeoProvider
  simp only
  split
  · exact checked.recovered
  · split
    · exact checked.recovered
    · rename_i stage staged
      exact checked.recovered.activate (stageProvider_ok staged).1 _

theorem run (requests : List (GeoRefreshSettings × GeoFetch)) :
    (Foundation.run geoRefreshStep GeoStore.empty requests).Checked :=
  run_invariant (fun _ request checked => checked.step request) empty requests

end GeoStore.Checked

/-- The metadata of a provider pass, and every configured country can be read. -/
structure UsableGeoData (settings : GeoRefreshSettings) (directory : GeoDirectory) : Prop where
  metadata : validateGeoProviderMetadata settings directory = .ok ()
  readable : ∀ country ∈ settings.countries,
    ∃ entries, directory.readCountry country = .ok entries

theorem GeoDirectory.Checked.usable_iff (checked : directory.Checked)
    (settings : GeoRefreshSettings) :
    UsableGeoData settings directory ↔
      (GeoFile.read directory.source).map trimText = some settings.sourceUrl ∧
        ∀ country ∈ settings.countries, (directory.country (toAsciiLowercase country)).isSome := by
  constructor
  · intro usable
    have metadata := usable.metadata
    simp only [validateGeoProviderMetadata, bind_ok, orElse_ok, reject_ok, bne_eq_false_iff_eq]
      at metadata
    obtain ⟨source, text, -, same, -⟩ := metadata
    refine ⟨by rw [text, Option.map_some, same], ?_⟩
    intro country configured
    obtain ⟨entries, read⟩ := usable.readable country configured
    exact readCountry_stored read
  · rintro ⟨source, present⟩
    obtain ⟨text, found, same⟩ := Option.map_eq_some_iff.mp source
    have complete : (settings.countries.find? fun country =>
        (directory.country (toAsciiLowercase country)).isNone) = none := by
      rw [List.find?_eq_none]
      intro country configured
      rw [Option.isNone_iff_eq_none]
      exact Option.isSome_iff_ne_none.mp (present country configured)
    refine ⟨?_, fun country configured => checked.read (present country configured)⟩
    simp only [validateGeoProviderMetadata, bind_ok, orElse_ok, reject_ok, bne_eq_false_iff_eq,
      complete]
    exact ⟨text, found, (), same, rfl⟩

theorem providerIsFresh_source {now : Instant}
    (fresh : providerIsFresh directory settings now = true) :
    (GeoFile.read directory.source).map trimText = some settings.sourceUrl := by
  simp only [providerIsFresh, Bool.and_eq_true, decide_eq_true_eq] at fresh
  exact fresh.1.1

theorem trim_newline (chars : List Char) : trim (chars ++ ['\n']) = trim chars := by
  unfold trim
  rw [List.dropWhile_append]
  cases blank : (chars.dropWhile isWhitespace).isEmpty with
  | true => simp [List.isEmpty_iff.mp blank, isWhitespace]
  | false => simp [isWhitespace]

theorem trimText_newline (text : String) : trimText (text ++ "\n") = trimText text := by
  simp only [trimText, String.toList_append]
  exact congrArg String.ofList (trim_newline text.toList)

/-- Over every history of refreshes, what a refresh returns is usable exactly when data
    that are still fresh have every configured country, and data that are downloaded come
    from a source whose URL no white space surrounds. -/
theorem refreshed_usable_iff (requests : List (GeoRefreshSettings × GeoFetch))
    (settings : GeoRefreshSettings) (fetch : GeoFetch) {directory : GeoDirectory}
    {after : GeoStore}
    (returned : refreshGeoProvider settings (run geoRefreshStep GeoStore.empty requests) fetch =
      (.ok directory, after)) :
    UsableGeoData settings directory ↔
      let before := (run geoRefreshStep GeoStore.empty requests).recovered.provider
      if providerIsFresh before settings fetch.now then
        ∀ country ∈ settings.countries, (before.country (toAsciiLowercase country)).isSome
      else trimText settings.sourceUrl = settings.sourceUrl := by
  have checked := (GeoStore.Checked.run requests).recovered
  unfold refreshGeoProvider at returned
  simp only at returned ⊢
  cases fresh : providerIsFresh (run geoRefreshStep GeoStore.empty requests).recovered.provider
      settings fetch.now with
  | true =>
      rw [fresh, if_pos rfl] at returned
      cases returned
      rw [if_pos rfl, checked.provider.usable_iff]
      simp [providerIsFresh_source fresh]
  | false =>
      rw [fresh, if_neg Bool.false_ne_true] at returned
      rw [if_neg Bool.false_ne_true]
      cases staged : stageProvider settings fetch with
      | error error =>
          rw [staged] at returned
          cases returned
      | ok stage =>
          rw [staged] at returned
          cases returned
          obtain ⟨passed, present, source⟩ := stageProvider_ok staged
          rw [passed.usable_iff, source, Option.map_some, trimText_newline, Option.some.injEq]
          exact and_iff_left present

def narrowSettings : GeoRefreshSettings where
  enabled := true
  provider := "openwrt-cidr-v1"
  countries := ["US"]
  sourceUrl := "https://example.test/geo"
  refreshIntervalSeconds := 3600
  version := none

def widerSettings : GeoRefreshSettings :=
  { narrowSettings with countries := ["US", "CN"] }

def firstFetch : GeoFetch where
  now := 0
  today := "2026-10-01"
  download _ := .ok "1.0.1.0/24\n"
  written _ := 0
  removed := true

theorem freshSettings_usable :
    UsableGeoData narrowSettings
        (run geoRefreshStep GeoStore.empty [(narrowSettings, firstFetch)]).recovered.provider ↔
      let before :=
        (run geoRefreshStep GeoStore.empty [(narrowSettings, firstFetch)]).recovered.provider
      if providerIsFresh before narrowSettings firstFetch.now then
        ∀ country ∈ narrowSettings.countries, (before.country (toAsciiLowercase country)).isSome
      else trimText narrowSettings.sourceUrl = narrowSettings.sourceUrl := by
  apply refreshed_usable_iff [(narrowSettings, firstFetch)] narrowSettings firstFetch
  rw [refreshGeoProvider]
  exact if_pos (by decide +kernel)

/-- A country is added, the stored files count as fresh, and its file is missing. -/
theorem widerSettings_unusable :
    (refreshGeoProvider widerSettings
      (run geoRefreshStep GeoStore.empty [(narrowSettings, firstFetch)])
      { firstFetch with now := 60000000 }).1.toOption.map (fun directory =>
        (match validateGeoProviderMetadata widerSettings directory with
          | .ok _ => none
          | .error error => some error)) =
      some (some (.countryUnavailable "cn")) := by
  decide +kernel

end CandyCloud
