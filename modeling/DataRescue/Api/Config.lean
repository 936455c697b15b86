import DataRescue.Api.Models
import DataRescue.Python.Text

/-!
# Settings

The fields of `apps/api/config.py` the workflow reads.
-/

namespace DataRescue

open Python

def canonicalAssetUrn : String :=
  "urn:li:dataset:(urn:li:dataPlatform:postgres,datarescue.raw.payments_raw,PROD)"

structure Settings where
  replayMode : Bool := true
  executionMode : String := "replay"
  runtimeDir : String := "/tmp/datarescue"
  allowedAssets : String := canonicalAssetUrn
  githubRepository : String := "girginomer10/datarescue"
  githubRepoRoot : String := "."
  githubBaseBranch : String := "main"
  githubPatchPath : String := "demo/dbt/models/staging/stg_payments.sql"
  deriving DecidableEq

/-- `allowed_asset_urns`: semicolons and newlines separate, since dataset URNs contain commas. -/
def Settings.allowedAssetUrns (settings : Settings) : List String :=
  ((split ';' (replaceChar '\n' ';' settings.allowedAssets)).map strip).filter (· ≠ "")

/-- `execution_mode.strip().casefold() == "postgres"`. -/
def Settings.postgres (settings : Settings) : Bool :=
  casefold (strip settings.executionMode) = "postgres"

example : ({ allowedAssets := "a; b\n;c" } : Settings).allowedAssetUrns = ["a", "b", "c"] := by
  decide +kernel

end DataRescue
