import Dispatch.Aws.Profiles
import Dispatch.Log.Basic
import Dispatch.Settings.Basic
import Dispatch.Url

/-!
# Region and endpoint

The settings may name a profile and an endpoint; the profile file says which region a
profile is in. A section of the settings that cannot be read as a whole counts for nothing.

## Main definitions

* `Aws.Choice`: what the settings ask for.
* `Aws.Setup`: the region and the endpoint to use.
* `Aws.setup`: both, with the events on the way.
-/
namespace Dispatch.Aws

/-- What the settings ask for. -/
structure Choice where
  profile : Option String
  endpoint : Option String
  deriving DecidableEq, Repr

/-- A text of the settings. -/
def text? : Toml → Option String
  | .string s => some s
  | _ => none

/-- A text of the settings that may be missing. -/
def optionalText? : Option Toml → Option (Option String)
  | none => some none
  | some value => (text? value).map some

/-- What a section asks for. It may also be written as an array of the profile and the
endpoint. -/
def Choice.ofSection? : Toml → Option Choice
  | .table fields => do
    let profile ← optionalText? (Fields.get? fields "profile")
    let endpoint ← optionalText? (Fields.get? fields "endpoint_url")
    some ⟨profile, endpoint⟩
  | .array (profile :: endpoint :: _) => do
    some ⟨← text? profile, ← text? endpoint⟩
  | .datetime _ => some ⟨none, none⟩
  | _ => none

/-- What the settings ask for, which may be nothing. -/
def Choice.ofSettings (s : Settings) : Choice :=
  let wanted := do
    let table ← Toml.ofText? s.toml
    Choice.ofSection? (← table.field? "aws")
  wanted.getD ⟨none, none⟩

/-- The region and the endpoint to use. -/
structure Setup where
  region : Option String
  endpoint : Option String
  deriving DecidableEq, Repr

/-- The region of a profile. One that has none takes that of its source profile, at most
so many profiles further on; a profile that comes back to itself has none. -/
def region? (profiles : Profiles) : Nat → String → Option String
  | 0, _ => none
  | steps + 1, name => do
    let properties ← profiles.get? name
    match properties.get? "region" with
    | some region => some region
    | none => do region? profiles steps (← properties.get? "source_profile")

/-- The endpoint that a profile asks for, unless it asks to ignore such wishes. It has to be
an address. -/
def endpoint? (profiles : Profiles) (name : String) : Option String := do
  let properties ← profiles.get? name
  let ignored := (properties.get? "ignore_configured_endpoint_urls").any (·.toLower == "true")
  let url ← properties.get? "endpoint_url"
  if !ignored && (Url.ofText? url).isSome then some url else none

/-- The region and the endpoint that the settings and a profile file lead to. Details are
reported only if the settings want them. -/
def setup (s : Settings) (profileFile : String) : Setup × List Event :=
  let choice := Choice.ofSettings s
  let profiles := (Profiles.ofText? profileFile).getD ∅
  let name := choice.profile.getD defaultProfile
  let report (line : String) : List Event := if s.debug then [⟨.debug, line⟩] else []
  let events :=
    (choice.profile.map fun name => report ("AWS using profile name " ++ name)).getD [] ++
      (choice.endpoint.map fun url => report ("AWS using endpoint URL " ++ url)).getD []
  let region := region? profiles profiles.fields.length name
  (⟨region, choice.endpoint <|> endpoint? profiles name⟩, events)

end Dispatch.Aws
