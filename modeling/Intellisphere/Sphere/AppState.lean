import Intellisphere.Sphere.Pipeline.Chain
import Intellisphere.Sphere.RateLimit
import Intellisphere.Sphere.Tools.Interceptor

/-! The server's shared state, as startup builds it from a configuration. -/

namespace Intellisphere.Sphere

open Intellisphere.Foundation

structure AppState where
  config : SphereConfig
  pipeline : PipelineChain
  ingressGate : IngressGate
  rateLimiter : RateLimiter
  toolRegistry : ToolRegistry
  toolExecutor : ToolExecutor

/-- The state a server starts in. -/
def AppState.start (tables : UnicodeTables) (now : ℚ) (config : SphereConfig) : AppState :=
  {
    config
    pipeline := .fromConfig tables config.pipeline
    ingressGate := .fromConfig config.auth
    rateLimiter := .fromConfig now config.rateLimit
    toolRegistry := .builtin
    toolExecutor := .new []
  }

end Intellisphere.Sphere
