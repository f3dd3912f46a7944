import Intellisphere.Sphere.Pipeline.Observation

/-! Which URLs of a response are flagged. Knownness is a matter of raw prefixes, so a URL whose
host is new counts as known where one of two URLs ends with its host and the other goes on from
there.
-/

namespace Intellisphere.Sphere

open Intellisphere.Foundation Intellisphere.Foundation.Regex

/-- The URLs the hallucination filter finds in a text. -/
def responseUrls (tables : UnicodeTables) (content : String) : List (List Char) :=
  urlPattern.findIter tables.word content.toList

/-- The URLs the context knows. -/
def PipelineContext.knownUrls (context : PipelineContext) : List String :=
  (context.getAnnotations "known_urls").getD []

/-- The URL is annotated as possibly hallucinated. -/
def PipelineContext.FlagsUrl (context : PipelineContext) (url : List Char) : Prop :=
  ∃ flagged, context.getAnnotations "hallucination_flagged_url" = some flagged
    ∧ String.ofList url ∈ flagged

/-- The text after the first `://`, if there is one. -/
def afterSeparator : List Char → List Char
  | [] => []
  | c :: rest =>
      if "://".toList.isPrefixOf (c :: rest) then rest.drop 2 else afterSeparator rest

/-- The part of a URL after `://` up to the first delimiter. -/
def hostOf (url : List Char) : List Char :=
  (afterSeparator url).takeWhile (fun c => c ∉ ['/', '?', '#', ':'])

/-- A URL with one of the two schemes of the web. -/
def IsAbsolute (url : List Char) : Prop :=
  ∃ scheme ∈ ["http".toList, "https".toList], ∃ rest, url = scheme ++ "://".toList ++ rest

/-- The first URL ends with its host, and the second goes on from there. -/
def HostGoesOn (first second : List Char) : Prop :=
  hostOf first = afterSeparator first ∧ first <+: second

section Hosts

/-- The URLs of a response are absolute. -/
theorem responseUrls_absolute {tables : UnicodeTables} {content : String} {url : List Char}
    (found : url ∈ responseUrls tables content)
    : IsAbsolute url := by
  obtain ⟨left, right, http, tail, rfl, isHttp, secure, tail', rfl, isSecure, mark, rest, rfl,
    isMark, _⟩ := Pattern.matches_of_mem_findIter found
  obtain rfl := matches_literal isHttp
  obtain rfl := matches_literal isMark
  rcases isSecure with ⟨s, rfl, letter⟩ | none
  · obtain rfl := eq_of_beq letter
    exact ⟨"https".toList, by simp, rest, by simp⟩
  · obtain rfl : secure = [] := none
    exact ⟨"http".toList, by simp, rest, by simp⟩

/-- What follows an absolute URL follows its rest. -/
theorem IsAbsolute.afterSeparator_append {url : List Char} (absolute : IsAbsolute url)
    (more : List Char)
    : afterSeparator (url ++ more) = afterSeparator url ++ more := by
  obtain ⟨scheme, known, rest, rfl⟩ := absolute
  simp only [List.mem_cons, List.not_mem_nil, or_false] at known
  rcases known with rfl | rfl
  · rfl
  · rfl

/-- An absolute URL that does not end with its host begins only URLs of the same host. -/
theorem prefix_iff_hostGoesOn {first second : List Char} (absolute : IsAbsolute first)
    (differ : hostOf first ≠ hostOf second)
    : first <+: second ↔ HostGoesOn first second := by
  refine ⟨fun begins => ⟨?_, begins⟩, And.right⟩
  obtain ⟨more, rfl⟩ := begins
  by_contra further
  have shorter
      : ((afterSeparator first).takeWhile (fun c => c ∉ ['/', '?', '#', ':'])).length
        ≠ (afterSeparator first).length := by
    intro whole
    exact further ((List.takeWhile_prefix _).eq_of_length whole)
  rw [hostOf, hostOf, absolute.afterSeparator_append, List.takeWhile_append,
    if_neg shorter] at differ
  exact differ rfl

/-- The filter flags the URLs of the response that are not known, and keeps earlier flags. -/
theorem hallucinationFlagApply_flagsUrl_iff (tables : UnicodeTables) (message : Message)
    (context : PipelineContext) (url : List Char)
    : (hallucinationFlagApply tables message context).context.FlagsUrl url
      ↔ context.FlagsUrl url
        ∨ (url ∈ responseUrls tables message.content
          ∧ isKnownUrl context.knownUrls url = false) := by
  have flagged (context : PipelineContext)
      : context.FlagsUrl url
        ↔ String.ofList url
          ∈ (context.getAnnotations "hallucination_flagged_url").getD [] := by
    unfold PipelineContext.FlagsUrl
    cases context.getAnnotations "hallucination_flagged_url" <;> simp
  have unknown
      : url
          ∈ (responseUrls tables message.content).filter
              (fun url => !isKnownUrl context.knownUrls url)
        ↔ url ∈ responseUrls tables message.content
          ∧ isKnownUrl context.knownUrls url = false := by
    simp
  rw [← unknown]
  simp only [hallucinationFlagApply, PipelineContext.knownUrls, responseUrls]
  generalize (urlPattern.findIter tables.word message.content.toList).filter _ = hallucinated
  cases hallucinated with
  | nil => simp
  | cons first rest =>
      have texts : (first :: rest).map String.ofList ≠ [] := by simp
      have extended := context.getAnnotations_annotateAll "hallucination_flagged_url" texts
      have kept :=
        PipelineContext.getAnnotations_annotate_of_ne
          (context.annotateAll "hallucination_flagged_url"
            ((first :: rest).map String.ofList))
          "low" (show "hallucination_flagged_url" ≠ "hallucination_confidence" by simp)
      have injective : Function.Injective String.ofList := by
        intro left right same
        rw [← String.toList_ofList (l := left), same, String.toList_ofList]
      simp only [List.isEmpty_cons, Bool.false_eq_true, if_false]
      rw [flagged, flagged, kept, extended, Option.getD_some, List.mem_append,
        List.mem_map_of_injective injective]

/-- A URL is known exactly when one of two URLs begins the other. -/
theorem isKnownUrl_eq_false_iff (knownUrls : List String) (url : List Char)
    : isKnownUrl knownUrls url = false
      ↔ ∀ known ∈ knownUrls, ¬known.toList <+: url ∧ ¬url <+: known.toList := by
  simp [isKnownUrl]

end Hosts

/-- The host of the URL is none of the known ones. -/
def PipelineContext.UnknownHost (context : PipelineContext) (url : List Char) : Prop :=
  hostOf url ≠ [] ∧ ∀ known ∈ context.knownUrls, hostOf known.toList ≠ hostOf url

/-- The URLs of unknown hosts in a response are all flagged exactly if each of them is flagged
already, or no known URL that ends with its host goes on in it, nor it in a known one.
-/
theorem unknownHosts_flagged_iff (tables : UnicodeTables) (message : Message)
    (context : PipelineContext)
    (absolute : ∀ known ∈ context.knownUrls, IsAbsolute known.toList)
    : (∀ url ∈ responseUrls tables message.content,
        context.UnknownHost url
        → (hallucinationFlagApply tables message context).context.FlagsUrl url)
      ↔ ∀ url ∈ responseUrls tables message.content,
          context.UnknownHost url
          → context.FlagsUrl url
            ∨ ∀ known ∈ context.knownUrls,
                ¬HostGoesOn known.toList url ∧ ¬HostGoesOn url known.toList := by
  refine forall₃_congr (fun url found unknown => ?_)
  rw [hallucinationFlagApply_flagsUrl_iff, isKnownUrl_eq_false_iff]
  refine or_congr Iff.rfl ?_
  simp only [found, true_and]
  refine forall₂_congr (fun known member => ?_)
  have differ := unknown.2 known member
  rw [prefix_iff_hostGoesOn (absolute known member) differ,
    prefix_iff_hostGoesOn (responseUrls_absolute found) differ.symm]

/-- A context that knows one URL. -/
def knowingContext (known : String) : PipelineContext :=
  (PipelineContext.new "r" "s").annotate "known_urls" known

theorem knowingContext_knownUrls (known : String)
    : (knowingContext known).knownUrls = [known] := by
  rw [PipelineContext.knownUrls, knowingContext, PipelineContext.getAnnotations_annotate]
  rfl

/-- With the known URL `https://a.io/x` a URL of another host is flagged. -/
theorem unknownHosts_flagged_iff_other
    : (hallucinationFlagApply asciiTables (assistantText "see https://b.io")
        (knowingContext "https://a.io/x")).context.FlagsUrl "https://b.io".toList := by
  have urls : responseUrls asciiTables "see https://b.io" = ["https://b.io".toList] := by
    decide +kernel
  have absolute
      : ∀ known ∈ (knowingContext "https://a.io/x").knownUrls, IsAbsolute known.toList := by
    simp only [knowingContext_knownUrls, List.forall_mem_singleton]
    exact ⟨"https".toList, by simp, "a.io/x".toList, by decide⟩
  have flagged :=
    (unknownHosts_flagged_iff asciiTables (assistantText "see https://b.io")
      (knowingContext "https://a.io/x") absolute).mpr
      (by
        intro url found _
        obtain rfl := List.mem_singleton.mp (urls ▸ found)
        simp only [knowingContext_knownUrls, List.forall_mem_singleton, HostGoesOn]
        exact .inr (by decide))
  refine flagged _ (urls ▸ List.mem_singleton_self _) ?_
  simp only [PipelineContext.UnknownHost, knowingContext_knownUrls, List.forall_mem_singleton]
  decide

/-- A host that begins with a known one is not flagged. -/
theorem unknownHosts_unflagged
    : ¬∀ (tables : UnicodeTables) (message : Message) (context : PipelineContext),
        (∀ known ∈ context.knownUrls,
          IsAbsolute known.toList ∧ hostOf known.toList ≠ [])
        → ∀ url ∈ responseUrls tables message.content,
            context.UnknownHost url
            → (hallucinationFlagApply tables message context).context.FlagsUrl url := by
  intro flags
  have urls
      : responseUrls asciiTables "see https://a.io.evil.org"
        = ["https://a.io.evil.org".toList] := by
    decide +kernel
  have flagged :=
    flags asciiTables (assistantText "see https://a.io.evil.org")
      (knowingContext "https://a.io")
      (by
        simp only [knowingContext_knownUrls, List.forall_mem_singleton]
        exact ⟨⟨"https".toList, by simp, "a.io".toList, by decide⟩, by decide⟩)
      "https://a.io.evil.org".toList
      (by rw [assistantText, urls]; simp)
      (by
        simp only [PipelineContext.UnknownHost, knowingContext_knownUrls,
          List.forall_mem_singleton]
        decide)
  rw [hallucinationFlagApply_flagsUrl_iff, knowingContext_knownUrls] at flagged
  have unflagged
      : (knowingContext "https://a.io").getAnnotations "hallucination_flagged_url" = none := by
    decide +kernel
  rcases flagged with ⟨earlier, present, _⟩ | ⟨_, unknown⟩
  · simp [unflagged] at present
  · exact absurd unknown (by decide)

end Intellisphere.Sphere
