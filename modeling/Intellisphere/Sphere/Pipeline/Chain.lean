import Intellisphere.Sphere.Pipeline.Inbound
import Intellisphere.Sphere.Pipeline.Outbound

/-! The filter chains a configuration builds, and what the outbound chain does to a text. -/

namespace Intellisphere.Sphere

open Intellisphere.Foundation

structure PipelineChain where
  inboundFilters : List (Filter SphereError)
  outboundFilters : List (Filter Failure)

/-- The enabled filters. Outbound, size enforcement runs first to cap the output before
other filters process it.
-/
def PipelineChain.fromConfig (tables : UnicodeTables) (config : PipelineConfig)
    : PipelineChain :=
  {
    inboundFilters :=
      whenEnabled config.inbound.inputSanitization.enabled
        (inputSanitizationFilter config.inbound.inputSanitization)
    outboundFilters :=
      whenEnabled config.outbound.resultSize.enabled
        (resultSizeEnforcementFilter config.outbound.resultSize.maxChars)
      ++ whenEnabled config.outbound.piiLeakDetection.enabled
          (piiLeakDetectionFilter tables .redact)
      ++ whenEnabled config.outbound.injectionEcho.enabled
          (injectionEchoFilter tables .flag)
      ++ whenEnabled config.outbound.responseClassifier.enabled
          (responseClassifierFilter tables .flag)
      ++ whenEnabled config.outbound.hallucinationFlag.enabled
          (hallucinationFlagFilter tables)
  }

/-- Run all inbound filters on a message. -/
def PipelineChain.runInbound (chain : PipelineChain) (message : Message)
    (context : PipelineContext)
    : FilterRun SphereError :=
  runFilters chain.inboundFilters message context

/-- Run all outbound filters on a response message. -/
def PipelineChain.runOutbound (chain : PipelineChain) (message : Message)
    (context : PipelineContext)
    : FilterRun Failure :=
  runFilters chain.outboundFilters message context

/-- What the outbound chain of a configuration does to a text: limit its size, then mask
personal data.
-/
def OutboundConfig.rewrite (tables : UnicodeTables) (config : OutboundConfig)
    (content : String)
    : String :=
  let limited :=
    if config.resultSize.enabled then
      limitSize config.resultSize.maxChars content.toList
    else content.toList
  String.ofList
    (if config.piiLeakDetection.enabled then redactPii tables limited else limited)

/-- A configured outbound chain never fails and rewrites the content only. -/
theorem PipelineChain.fromConfig_outbound (tables : UnicodeTables) (config : PipelineConfig)
    : ChainRewrites (fromConfig tables config).outboundFilters
        (config.outbound.rewrite tables) := by
  have sized := (resultSizeEnforcementFilter_rewrites config.outbound.resultSize.maxChars
    ).whenEnabled config.outbound.resultSize.enabled
  have masked := (piiLeakDetectionFilter_rewrites tables).whenEnabled
    config.outbound.piiLeakDetection.enabled
  have echoes := (injectionEchoFilter_rewrites tables).whenEnabled
    config.outbound.injectionEcho.enabled
  have classified := (responseClassifierFilter_rewrites tables).whenEnabled
    config.outbound.responseClassifier.enabled
  have urls := (hallucinationFlagFilter_rewrites tables).whenEnabled
    config.outbound.hallucinationFlag.enabled
  have all := (((sized.append masked).append echoes).append classified).append urls
  refine all.congr (fun content => ?_)
  simp only [OutboundConfig.rewrite, ite_self, Function.id_comp]
  split <;> split <;> simp

end Intellisphere.Sphere
