import Intellisphere.Foundation.Masking
import Intellisphere.Foundation.Text

/-! The regular expressions of the outbound filters. Digits and word characters come from
the Unicode tables of the regex engine.
-/

namespace Intellisphere.Sphere

open Intellisphere.Foundation Intellisphere.Foundation.Regex

/-- A named kind of personal data with the label that masks it. -/
structure PiiPattern where
  name : String
  pattern : Pattern
  maskLabel : String

/-- Replace every match by the label. -/
def PiiPattern.mask (word : Char → Bool) (entity : PiiPattern) (content : List Char)
    : List Char :=
  entity.pattern.replaceAll word entity.maskLabel.toList content

/-- (seqAll rs) matches the parts one after the other. -/
def seqAll : List Regex → Regex
  | [] => .empty
  | [r] => r
  | r :: rest => .seq r (seqAll rest)

/-- A whitespace character. -/
def space : Regex :=
  chars isWhitespace

/-- The class `[a-zA-Z0-9._%+-]`. -/
def isEmailLocal (c : Char) : Bool :=
  c.isAlphanum || c ∈ ['.', '_', '%', '+', '-']

/-- The class `[a-zA-Z0-9.-]`. -/
def isEmailDomain (c : Char) : Bool :=
  c.isAlphanum || c ∈ ['.', '-']

/-- The class `[-.\s]`. -/
def isPhoneSeparator (c : Char) : Bool :=
  c ∈ ['-', '.'] || isWhitespace c

/-- The class `[ -]`. -/
def isCardSeparator (c : Char) : Bool :=
  c ∈ [' ', '-']

/-- `[a-zA-Z0-9._%+-]+@[a-zA-Z0-9.-]+\.[a-zA-Z]{2,}` -/
def emailRegex : Regex :=
  seqAll
    [
      plus (chars isEmailLocal),
      char '@',
      plus (chars isEmailDomain),
      char '.',
      atLeast 2 (chars Char.isAlpha)
    ]

/-- `(\+?1[-.\s]?)?\(?\d{3}\)?[-.\s]?\d{3}[-.\s]?\d{4}` -/
def phoneRegex (tables : UnicodeTables) : Regex :=
  seqAll
    [
      opt (seqAll [opt (char '+'), char '1', opt (chars isPhoneSeparator)]),
      opt (char '('),
      times 3 (chars tables.digit),
      opt (char ')'),
      opt (chars isPhoneSeparator),
      times 3 (chars tables.digit),
      opt (chars isPhoneSeparator),
      times 4 (chars tables.digit)
    ]

/-- `\b\d{3}-\d{2}-\d{4}\b` -/
def ssnRegex (tables : UnicodeTables) : Regex :=
  seqAll
    [
      boundary,
      seqAll
        [
          times 3 (chars tables.digit),
          char '-',
          times 2 (chars tables.digit),
          char '-',
          times 4 (chars tables.digit)
        ],
      boundary
    ]

/-- `\b(?:\d[ -]*?){13,19}\b` -/
def creditCardRegex (tables : UnicodeTables) : Regex :=
  seqAll
    [
      boundary,
      between 13 19 (seqAll [chars tables.digit, star false (chars isCardSeparator)]),
      boundary
    ]

/-- No match of an entity is empty. -/
theorem emailRegex_solid : emailRegex.solid = true :=
  rfl

theorem phoneRegex_solid (tables : UnicodeTables) : (phoneRegex tables).solid = true :=
  rfl

theorem ssnRegex_solid (tables : UnicodeTables) : (ssnRegex tables).solid = true :=
  rfl

theorem creditCardRegex_solid (tables : UnicodeTables)
    : (creditCardRegex tables).solid = true :=
  rfl

/-- The entity patterns, in the order the filters apply them. -/
def piiPatterns (tables : UnicodeTables) : List PiiPattern :=
  [
    { name := "EMAIL", pattern := ⟨emailRegex, rfl⟩, maskLabel := "[EMAIL_REDACTED]" },
    { name := "PHONE", pattern := ⟨phoneRegex tables, rfl⟩, maskLabel := "[PHONE_REDACTED]" },
    { name := "SSN", pattern := ⟨ssnRegex tables, rfl⟩, maskLabel := "[SSN_REDACTED]" },
    {
      name := "CREDIT_CARD"
      pattern := ⟨creditCardRegex tables, rfl⟩
      maskLabel := "[CREDIT_CARD_REDACTED]"
    }
  ]

/-- A character that folds to the given lower-case letter; beside the two ASCII cases the
long s folds to `s` and the Kelvin sign to `k`.
-/
def foldsTo (letter c : Char) : Bool :=
  c.toLower == letter || (letter == 's' && c.toNat == 0x17F)
  || (letter == 'k' && c.toNat == 0x212A)

/-- A case-insensitive word. -/
def caseless (text : String) : Regex :=
  seqAll (text.toList.map (fun letter => chars (foldsTo letter)))

/-- Any of several case-insensitive words, tried in order. -/
def anyCaseless (words : List String) : Regex :=
  oneOf (words.map caseless)

/-- The harmful-output patterns of the response classifier, by name. -/
def responsePatterns : List (String × Regex) :=
  [
    (
      "violence",
      seqAll
        [
          boundary,
          anyCaseless ["kill", "murder", "assassinate"],
          plus space,
          anyCaseless ["yourself", "himself", "herself", "themselves", "someone"],
          boundary
        ]
    ),
    (
      "weapons",
      seqAll
        [
          boundary,
          caseless "how",
          plus space,
          caseless "to",
          plus space,
          anyCaseless ["make", "build", "create"],
          plus space,
          opt (.seq (caseless "a") (plus space)),
          anyCaseless ["bomb", "weapon", "explosive"],
          boundary
        ]
    ),
    (
      "hacking",
      seqAll
        [
          boundary,
          anyCaseless ["hack", "exploit", "crack"],
          plus space,
          anyCaseless ["into", "a", "the"],
          plus space
        ]
    ),
    (
      "illegal_activity",
      seqAll
        [
          boundary,
          anyCaseless ["illegal", "illicit"],
          plus space,
          oneOf
            [
              .seq (caseless "drug") (opt (caseless "s")),
              .seq (caseless "substance") (opt (caseless "s")),
              caseless "activities"
            ],
          boundary
        ]
    ),
    (
      "stolen_data",
      seqAll
        [
          boundary,
          caseless "here",
          plus space,
          anyCaseless ["is", "are"],
          plus space,
          opt (.seq (caseless "the") (plus space)),
          anyCaseless ["stolen", "leaked", "hacked"],
          boundary
        ]
    )
  ]

/-- The class of characters a URL may continue with. -/
def isUrlChar (c : Char) : Bool :=
  c.isAlphanum || c ∈ "-._~:/?#[]@!$&'()*+,;=%".toList

/-- `https?://[...]+` -/
def urlPattern : Pattern where
  regex :=
    seqAll
      [
        literal "http".toList,
        opt (char 's'),
        literal "://".toList,
        plus (chars isUrlChar)
      ]
  solid := by decide

end Intellisphere.Sphere
