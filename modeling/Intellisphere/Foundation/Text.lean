import Mathlib.Data.List.Infix

/-! Text measured in UTF-8 bytes, and the character properties a text library supplies.
Byte offsets into a text are only meaningful at character boundaries; slicing elsewhere
has no result.
-/

namespace Intellisphere.Foundation

/-- The length of a text in UTF-8 bytes. -/
def byteLength : List Char → Nat
  | [] => 0
  | c :: rest => c.utf8Size + byteLength rest

/-- The UTF-8 bytes of a text. -/
def utf8Bytes (text : String) : List UInt8 :=
  text.toList.flatMap String.utf8EncodeChar

/-- (isCharBoundary text i) holds when byte offset `i` starts a character of the text or
is its end.
-/
def isCharBoundary : List Char → Nat → Bool
  | _, 0 => true
  | [], _ + 1 => false
  | c :: rest, i => c.utf8Size ≤ i && isCharBoundary rest (i - c.utf8Size)

/-- The first `i` bytes of a text, when `i` is a character boundary. -/
def sliceTo : List Char → Nat → Option (List Char)
  | _, 0 => some []
  | [], _ + 1 => none
  | c :: rest, i =>
      if c.utf8Size ≤ i then (sliceTo rest (i - c.utf8Size)).map (c :: ·) else none

/-- The largest character boundary at or below a byte offset, found by counting down. -/
def floorCharBoundary (text : List Char) : Nat → Nat
  | 0 => 0
  | i + 1 => if isCharBoundary text (i + 1) then i + 1 else floorCharBoundary text i

/-- The longest beginning of a text that fits into a number of bytes. -/
def takeBytes : Nat → List Char → List Char
  | _, [] => []
  | limit, c :: rest =>
      if c.utf8Size ≤ limit then c :: takeBytes (limit - c.utf8Size) rest else []

/-- (text.containsText needle) holds when `needle` is a contiguous part of the text. -/
def containsText (text needle : List Char) : Bool :=
  decide (needle <:+: text)

/-- What follows a given prefix of a text. -/
def stripPrefix (start text : String) : Option String :=
  if start.toList.isPrefixOf text.toList then
    some (String.ofList (text.toList.drop start.toList.length))
  else none

/-- Unicode control characters: the C0 block, delete and the C1 block. -/
def isControl (c : Char) : Bool :=
  c.toNat < 0x20 || (0x7F ≤ c.toNat && c.toNat ≤ 0x9F)

/-- Characters with the Unicode White_Space property. -/
def isWhitespace (c : Char) : Bool :=
  (0x09 ≤ c.toNat && c.toNat ≤ 0x0D)
  || (0x2000 ≤ c.toNat && c.toNat ≤ 0x200A)
  || c.toNat ∈ [0x20, 0x85, 0xA0, 0x1680, 0x2028, 0x2029, 0x202F, 0x205F, 0x3000]

/-- The maximal stretches of a text without whitespace. -/
def splitWhitespace (text : String) : List String :=
  ((text.toList.splitOnP isWhitespace).filter (fun piece => !piece.isEmpty)).map
    String.ofList

/-- The Unicode tables a regex engine and a string library are built with: decimal digits,
word characters and lower-casing. On ASCII they are the familiar classes.
-/
structure UnicodeTables where
  digit : Char → Bool
  word : Char → Bool
  lowercase : String → String
  wordOfDigit : ∀ c, digit c = true → word c = true
  digitAscii : ∀ c : Char, c.toNat < 128 → digit c = c.isDigit
  wordAscii : ∀ c : Char, c.toNat < 128 → word c = (c.isAlphanum || c == '_')

/-- The tables restricted to ASCII. -/
def asciiTables : UnicodeTables where
  digit := Char.isDigit
  word c := c.isAlphanum || c == '_'
  lowercase s := String.ofList (s.toList.map Char.toLower)
  wordOfDigit c h := by simp [Char.isAlphanum, h]
  digitAscii _ _ := rfl
  wordAscii _ _ := rfl

/-- A lower-case hexadecimal digit. -/
def hexDigit (n : Nat) : Char :=
  "0123456789abcdef".toList.getD n '0'

/-- The two lower-case hexadecimal digits of a byte. -/
def hexByte (byte : UInt8) : List Char :=
  [hexDigit (byte.toNat / 16), hexDigit (byte.toNat % 16)]

def hexEncode (bytes : List UInt8) : String :=
  String.ofList (bytes.flatMap hexByte)

/-- A slice at a byte offset exists exactly at character boundaries, by induction on the
text.
-/
theorem sliceTo_isSome (text : List Char) (i : Nat)
    : (sliceTo text i).isSome = isCharBoundary text i := by
  induction text generalizing i with
  | nil => cases i <;> rfl
  | cons c rest ih =>
      cases i with
      | zero => rfl
      | succ i =>
          by_cases fits : c.utf8Size ≤ i + 1 <;>
            simp [sliceTo, isCharBoundary, fits, ih]

/-- A slice is a prefix of the text with the requested byte length, by induction on the
text.
-/
theorem sliceTo_spec {text slice : List Char} {i : Nat} (sliced : sliceTo text i = some slice)
    : slice <+: text ∧ byteLength slice = i := by
  induction text generalizing i slice with
  | nil =>
      cases i with
      | zero =>
          obtain rfl := Option.some.inj sliced
          exact ⟨List.prefix_refl [], rfl⟩
      | succ i => simp [sliceTo] at sliced
  | cons c rest ih =>
      cases i with
      | zero =>
          obtain rfl := Option.some.inj sliced
          exact ⟨List.nil_prefix, rfl⟩
      | succ i =>
          simp only [sliceTo] at sliced
          split at sliced
          next fits =>
            obtain ⟨tail, later, rfl⟩ := Option.map_eq_some_iff.mp sliced
            obtain ⟨isPrefix, length⟩ := ih later
            refine ⟨List.cons_prefix_cons.mpr ⟨rfl, isPrefix⟩, ?_⟩
            rw [byteLength, length]
            omega
          next => contradiction

/-- Counting down stops at a character boundary. -/
theorem floorCharBoundary_isBoundary (text : List Char) (i : Nat)
    : isCharBoundary text (floorCharBoundary text i) = true := by
  induction i with
  | zero => cases text <;> rfl
  | succ i ih =>
      simp only [floorCharBoundary]
      split
      · assumption
      · exact ih

/-- Counting down never passes the offset it started from. -/
theorem floorCharBoundary_le (text : List Char) (i : Nat) : floorCharBoundary text i ≤ i := by
  induction i with
  | zero => exact Nat.le_refl 0
  | succ i ih =>
      simp only [floorCharBoundary]
      split
      · exact Nat.le_refl _
      · omega

/-- Concatenation adds byte lengths. -/
theorem byteLength_append (first second : List Char)
    : byteLength (first ++ second) = byteLength first + byteLength second := by
  induction first with
  | nil => simp [byteLength]
  | cons c rest ih => simp only [List.cons_append, byteLength, ih, Nat.add_assoc]

theorem byteLength_replicate (c : Char) (count : Nat)
    : byteLength (List.replicate count c) = count * c.utf8Size := by
  induction count with
  | zero => rw [List.replicate_zero, byteLength, Nat.zero_mul]
  | succ count ih => rw [List.replicate_succ, byteLength, ih, Nat.succ_mul, Nat.add_comm]

/-- The size of a string is the byte length of its characters, by induction on them. -/
theorem utf8ByteSize_eq (text : String) : text.utf8ByteSize = byteLength text.toList := by
  have ofList (chars : List Char)
      : (String.ofList chars).utf8ByteSize = byteLength chars := by
    induction chars with
    | nil => rfl
    | cons c rest ih =>
        rw [String.ofList_cons, String.utf8ByteSize_append, String.utf8ByteSize_singleton, ih,
          byteLength]
  rw [← ofList, String.ofList_toList]

/-- Away from the start, a boundary lies after the first character or at its end. -/
theorem isCharBoundary_cons (c : Char) (rest : List Char) {i : Nat} (away : 0 < i)
    : isCharBoundary (c :: rest) i
      = (decide (c.utf8Size ≤ i) && isCharBoundary rest (i - c.utf8Size)) := by
  obtain ⟨i, rfl⟩ := Nat.exists_eq_succ_of_ne_zero away.ne'
  rfl

/-- A boundary after some characters is one of the rest, by induction on the characters. -/
theorem isCharBoundary_append (first second : List Char) (i : Nat)
    : isCharBoundary (first ++ second) (byteLength first + i) = isCharBoundary second i := by
  induction first with
  | nil => rw [byteLength, Nat.zero_add, List.nil_append]
  | cons c rest ih =>
      have positive := c.utf8Size_pos
      have left : c.utf8Size + byteLength rest + i - c.utf8Size = byteLength rest + i := by
        omega
      rw [byteLength, List.cons_append, isCharBoundary_cons _ _ (by omega), left, ih,
        decide_eq_true (by omega), Bool.true_and]

/-- Inside a stretch of two-byte characters the odd offsets are no boundaries, by induction
on the offset.
-/
theorem isCharBoundary_replicate {c : Char} (two : c.utf8Size = 2) {count half : Nat}
    (inside : half < count) (rest : List Char)
    : isCharBoundary (List.replicate count c ++ rest) (2 * half + 1) = false := by
  induction half generalizing count with
  | zero =>
      obtain ⟨count, rfl⟩ := Nat.exists_eq_succ_of_ne_zero inside.ne'
      simp [List.replicate_succ, isCharBoundary, two]
  | succ half ih =>
      obtain ⟨count, rfl⟩ := Nat.exists_eq_succ_of_ne_zero (Nat.ne_zero_of_lt inside)
      rw [List.replicate_succ, List.cons_append, isCharBoundary_cons _ _ (by omega), two,
        show 2 * (half + 1) + 1 - 2 = 2 * half + 1 by omega,
        ih (Nat.lt_of_succ_lt_succ inside), Bool.and_false]

/-- A text has no more characters than bytes, by induction on it. -/
theorem length_le_byteLength (text : List Char) : text.length ≤ byteLength text := by
  induction text with
  | nil => exact Nat.le_refl _
  | cons c rest ih =>
      have positive := c.utf8Size_pos
      simp only [List.length_cons, byteLength]
      omega

/-- A nonempty text has at least one byte. -/
theorem byteLength_eq_zero {text : List Char} (h : byteLength text = 0) : text = [] := by
  cases text with
  | nil => rfl
  | cons c rest =>
      have positive := c.utf8Size_pos
      simp only [byteLength] at h
      omega

/-- Counting down stops at the first boundary it meets. -/
theorem le_floorCharBoundary {text : List Char} {i j : Nat}
    (boundary : isCharBoundary text j = true) (below : j ≤ i)
    : j ≤ floorCharBoundary text i := by
  induction i with
  | zero => exact below
  | succ i ih =>
      rw [floorCharBoundary]
      split
      next => exact below
      next missing =>
        refine ih ?_
        rcases Nat.lt_or_eq_of_le below with less | rfl
        · omega
        · exact (missing boundary).elim

/-- By induction on the text. -/
theorem takeBytes_spec (limit : Nat) (text : List Char)
    : takeBytes limit text <+: text ∧ byteLength (takeBytes limit text) ≤ limit := by
  induction text generalizing limit with
  | nil => exact ⟨List.prefix_refl [], Nat.zero_le _⟩
  | cons c rest ih =>
      rw [takeBytes]
      split
      next fits =>
        obtain ⟨isPrefix, within⟩ := ih (limit - c.utf8Size)
        refine ⟨List.cons_prefix_cons.mpr ⟨rfl, isPrefix⟩, ?_⟩
        rw [byteLength]
        omega
      next => exact ⟨List.nil_prefix, Nat.zero_le _⟩

/-- Every beginning that fits is part of it, by induction on the text. -/
theorem isPrefix_takeBytes {limit : Nat} {kept text : List Char} (isPrefix : kept <+: text)
    (within : byteLength kept ≤ limit)
    : kept <+: takeBytes limit text := by
  induction text generalizing limit kept with
  | nil => exact isPrefix
  | cons c rest ih =>
      cases kept with
      | nil => exact List.nil_prefix
      | cons d kept =>
          obtain ⟨rfl, later⟩ := List.cons_prefix_cons.mp isPrefix
          rw [byteLength] at within
          rw [takeBytes, if_pos (by omega)]
          exact List.cons_prefix_cons.mpr ⟨rfl, ih later (by omega)⟩

/-- Slicing at the boundary below a number of bytes leaves the beginning that fits. -/
theorem sliceTo_floorCharBoundary {limit : Nat} {text kept : List Char}
    (sliced : sliceTo text (floorCharBoundary text limit) = some kept)
    : kept = takeBytes limit text := by
  obtain ⟨isPrefix, length⟩ := sliceTo_spec sliced
  have within := floorCharBoundary_le text limit
  obtain ⟨more, whole⟩ := isPrefix_takeBytes isPrefix (length ▸ within)
  obtain ⟨⟨after, spelled⟩, fits⟩ := takeBytes_spec limit text
  have boundary : isCharBoundary text (byteLength (takeBytes limit text)) = true := by
    have here := isCharBoundary_append (takeBytes limit text) after 0
    rw [spelled, Nat.add_zero] at here
    rw [here]
    cases after <;> rfl
  have least := le_floorCharBoundary boundary fits
  rw [← whole, byteLength_append] at least
  have nothing : more = [] := byteLength_eq_zero (by omega)
  rw [← whole, nothing, List.append_nil]

/-- The digits of a byte determine it. -/
theorem hexByte_injective : Function.Injective hexByte := by
  have digits : ∀ first second : Fin 16,
      hexDigit first = hexDigit second → first = second := by
    decide
  intro first second same
  simp only [hexByte, List.cons.injEq, and_true] at same
  have high := digits ⟨first.toNat / 16, by have := first.toNat_lt; omega⟩
    ⟨second.toNat / 16, by have := second.toNat_lt; omega⟩ same.1
  have low := digits ⟨first.toNat % 16, by omega⟩ ⟨second.toNat % 16, by omega⟩ same.2
  have whole : first.toNat = second.toNat := by
    have quotient := congrArg Fin.val high
    have remainder := congrArg Fin.val low
    simp only at quotient remainder
    omega
  exact UInt8.toNat_inj.mp whole

/-- A code whose words have one positive length is injective on sequences when it is on
symbols. By induction on the first sequence.
-/
theorem flatMap_injective {α β : Type} {code : α → List β} (injective : Function.Injective code)
    {width : Nat} (fixed : ∀ a, (code a).length = width + 1)
    : Function.Injective (List.flatMap code) := by
  intro first second same
  have nonempty (a : α) (rest : List β) : [] ≠ code a ++ rest := by
    intro empty
    have length := congrArg List.length empty
    simp only [List.length_nil, List.length_append, fixed] at length
    omega
  induction first generalizing second with
  | nil =>
      cases second with
      | nil => rfl
      | cons b second => exact (nonempty b _ same).elim
  | cons a first ih =>
      cases second with
      | nil => exact (nonempty a _ same.symm).elim
      | cons b second =>
          simp only [List.flatMap_cons] at same
          obtain ⟨head, tail⟩ := List.append_inj same ((fixed a).trans (fixed b).symm)
          rw [injective head, ih tail]

/-- The hexadecimal text of a byte sequence determines it. -/
theorem hexEncode_injective : Function.Injective hexEncode := by
  intro first second same
  have chars := congrArg String.toList same
  simp only [hexEncode, String.toList_ofList] at chars
  exact flatMap_injective hexByte_injective (fun _ => rfl) chars

/-- Two texts that start with parts free of a delimiter, followed by it, agree on those parts.
By induction on the first one.
-/
theorem eq_of_append_delimiter {delimiter : Char} {first second rest rest' : List Char}
    (free : delimiter ∉ first) (free' : delimiter ∉ second)
    (same : first ++ delimiter :: rest = second ++ delimiter :: rest')
    : first = second := by
  induction first generalizing second with
  | nil =>
      cases second with
      | nil => rfl
      | cons c second =>
          obtain ⟨rfl, _⟩ := List.cons.inj same
          simp at free'
  | cons c first ih =>
      cases second with
      | nil =>
          obtain ⟨rfl, _⟩ := List.cons.inj same
          simp at free
      | cons d second =>
          obtain ⟨rfl, tail⟩ := List.cons.inj same
          simp only [List.mem_cons, not_or] at free free'
          rw [ih free.2 free'.2 tail]

end Intellisphere.Foundation
