import AccessPoint.Config.Basic
import AccessPoint.Selection
import AccessPoint.Table.Basic

/-!
# Lookups

A lookup asks a source for the rows of a subscription and selects among them. The name given by the
caller goes before the configured one, also when it is blank; a blank name asks for all rows of the
subscription.
-/

namespace AccessPoint

open Log (Event Traced)

/-- The settings for a subscription. The events of the selection are logged in the span of the
request, those of the lookup around it in none. -/
def load (config : Config) (source : Source) (apnName : Option String) (subId : Int32)
    (requestId : String) : Traced (Except Error Settings) :=
  let name := apnName <|> config.apnName
  let loading := (Event.loading requestId subId.toInt name).entry none
  match source (Query.ofName subId name) with
  | .error e => ⟨.error e, [loading]⟩
  | .ok candidates =>
    let fetched := (Event.fetched requestId candidates.length).entry none
    let selection := resolve candidates config.apnType requestId
    ⟨selection.result, loading :: fetched :: selection.entries⟩

end AccessPoint
