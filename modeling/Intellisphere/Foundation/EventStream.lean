import Mathlib.Data.List.Basic

/-! How a client reads a stream of server-sent events. A line ends with a carriage return, a
line feed or both; an empty line ends an event; what comes after the last end is discarded. So
a stream that breaks off has shown some of the events from its start, and none of them in part.
-/

namespace Intellisphere.Foundation.EventStream

/-- The lines of a text that are ended, the first of which has begun already. -/
def lines (begun : List Char) : List Char → List (List Char)
  | [] => []
  | '\n' :: rest => begun :: lines [] rest
  | '\r' :: '\n' :: rest => begun :: lines [] rest
  | '\r' :: rest => begun :: lines [] rest
  | c :: rest => lines (begun ++ [c]) rest

/-- The value of a data field. -/
def dataField : List Char → Option (List Char)
  | ['d', 'a', 't', 'a'] => some []
  | 'd' :: 'a' :: 't' :: 'a' :: ':' :: ' ' :: value => some value
  | 'd' :: 'a' :: 't' :: 'a' :: ':' :: value => some value
  | _ => none

/-- The data of the events that are ended, the first of which has some data already. -/
def messages (buffer : List (List Char)) : List (List Char) → List (List Char)
  | [] => []
  | [] :: lines =>
      if buffer.isEmpty then messages [] lines
      else ['\n'].intercalate buffer :: messages [] lines
  | line :: lines =>
      match dataField line with
      | some value => messages (buffer ++ [value]) lines
      | none => messages buffer lines

/-- The data of the events of a stream. -/
def read (text : List Char) : List (List Char) :=
  messages [] (lines [] text)

-----------------------------------------------------------------------------------------
-- A stream that breaks off
-----------------------------------------------------------------------------------------

/-- The lines of a text that begins with some character. -/
theorem lines_lineFeed (begun rest : List Char)
    : lines begun ('\n' :: rest) = begun :: lines [] rest :=
  rfl

theorem lines_both (begun rest : List Char)
    : lines begun ('\r' :: '\n' :: rest) = begun :: lines [] rest :=
  rfl

theorem lines_carriageReturn (begun : List Char) {rest : List Char}
    (alone : ∀ rest', rest ≠ '\n' :: rest')
    : lines begun ('\r' :: rest) = begun :: lines [] rest := by
  rw [lines]
  exact alone

theorem lines_other (begun : List Char) {c : Char} (rest : List Char) (notFeed : c ≠ '\n')
    (notReturn : c ≠ '\r')
    : lines begun (c :: rest) = lines (begun ++ [c]) rest := by
  rw [lines]
  · exact notFeed
  · intro rest' same
    exact (notReturn same).elim
  · exact notReturn

/-- A cut stream shows the first of its lines. By induction on the stream. -/
theorem lines_mono (begun : List Char) {cut text : List Char} (isCut : cut <+: text)
    : lines begun cut <+: lines begun text := by
  fun_induction lines begun text generalizing cut with
  | case1 begun =>
      obtain rfl := List.prefix_nil.mp isCut
      exact List.prefix_refl _
  | case2 begun rest ih =>
      rcases List.prefix_cons_iff.mp isCut with rfl | ⟨cut, rfl, shorter⟩
      · exact List.nil_prefix
      · rw [lines_lineFeed]
        exact (List.prefix_cons_inj begun).mpr (ih shorter)
  | case3 begun rest ih =>
      rcases List.prefix_cons_iff.mp isCut with rfl | ⟨cut, rfl, shorter⟩
      · exact List.nil_prefix
      · rcases List.prefix_cons_iff.mp shorter with rfl | ⟨cut, rfl, shortest⟩
        · exact (List.prefix_cons_inj begun).mpr List.nil_prefix
        · rw [lines_both]
          exact (List.prefix_cons_inj begun).mpr (ih shortest)
  | case4 begun rest alone ih =>
      rcases List.prefix_cons_iff.mp isCut with rfl | ⟨cut, rfl, shorter⟩
      · exact List.nil_prefix
      · have aloneCut (cut' : List Char) : cut ≠ '\n' :: cut' := by
          intro same
          obtain ⟨later, whole⟩ := shorter
          exact alone (cut' ++ later) (by rw [← whole, same, List.cons_append])
        rw [lines_carriageReturn begun aloneCut]
        exact (List.prefix_cons_inj begun).mpr (ih shorter)
  | case5 begun c rest notFeed _ notReturn ih =>
      rcases List.prefix_cons_iff.mp isCut with rfl | ⟨cut, rfl, shorter⟩
      · exact List.nil_prefix
      · rw [lines_other begun cut notFeed notReturn]
        exact ih shorter

/-- A cut list of lines shows the first of its events. By induction on the lines. -/
theorem messages_mono (buffer : List (List Char)) {cut text : List (List Char)}
    (isCut : cut <+: text)
    : messages buffer cut <+: messages buffer text := by
  induction text generalizing buffer cut with
  | nil =>
      obtain rfl := List.prefix_nil.mp isCut
      exact List.prefix_refl _
  | cons line text ih =>
      rcases List.prefix_cons_iff.mp isCut with rfl | ⟨cut, rfl, shorter⟩
      · exact List.nil_prefix
      · cases line with
        | nil =>
            simp only [messages]
            split
            · exact ih _ shorter
            · exact (List.prefix_cons_inj _).mpr (ih _ shorter)
        | cons c line =>
            simp only [messages]
            split
            · exact ih _ shorter
            · exact ih _ shorter

/-- A cut stream shows the first of its events, each of them whole. -/
theorem read_mono {cut text : List Char} (isCut : cut <+: text) : read cut <+: read text :=
  messages_mono [] (lines_mono [] isCut)

-----------------------------------------------------------------------------------------
-- Events and comments
-----------------------------------------------------------------------------------------

/-- A text without line ends. -/
def OneLine (text : List Char) : Prop :=
  '\n' ∉ text ∧ '\r' ∉ text

/-- A line is read to its end, by induction on what is left of it. -/
theorem lines_of_oneLine (begun : List Char) {line : List Char} (oneLine : OneLine line)
    (rest : List Char)
    : lines begun (line ++ '\n' :: rest) = (begun ++ line) :: lines [] rest := by
  induction line generalizing begun with
  | nil => rw [List.nil_append, lines_lineFeed, List.append_nil]
  | cons c line ih =>
      obtain ⟨feeds, returns⟩ := oneLine
      simp only [List.mem_cons, not_or] at feeds returns
      rw [List.cons_append, lines_other begun _ (Ne.symm feeds.1) (Ne.symm returns.1),
        ih _ ⟨feeds.2, returns.2⟩, List.append_assoc, List.singleton_append]

/-- An event with data of one line. -/
theorem read_event {data : List Char} (oneLine : OneLine data) (rest : List Char)
    : read ("data: ".toList ++ data ++ ['\n', '\n'] ++ rest) = data :: read rest := by
  have field : OneLine ("data: ".toList ++ data) := by
    obtain ⟨feeds, returns⟩ := oneLine
    simp [OneLine, feeds, returns]
  have texts : "data: ".toList ++ data ++ ['\n', '\n'] ++ rest
      = ("data: ".toList ++ data) ++ '\n' :: ([] ++ '\n' :: rest) := by
    simp
  rw [read, texts, lines_of_oneLine [] field, lines_of_oneLine [] ⟨by simp, by simp⟩]
  change ['\n'].intercalate [data] :: read rest = data :: read rest
  rw [List.intercalate, List.intersperse_singleton, List.flatten_singleton]

/-- A comment is no event. -/
theorem read_comment {comment : List Char} (oneLine : OneLine comment) (rest : List Char)
    : read (':' :: comment ++ ['\n', '\n'] ++ rest) = read rest := by
  have line : OneLine (':' :: comment) := by
    obtain ⟨feeds, returns⟩ := oneLine
    simp [OneLine, feeds, returns]
  have texts : ':' :: comment ++ ['\n', '\n'] ++ rest
      = (':' :: comment) ++ '\n' :: ([] ++ '\n' :: rest) := by
    simp
  rw [read, texts, lines_of_oneLine [] line, lines_of_oneLine [] ⟨by simp, by simp⟩]
  rfl

end Intellisphere.Foundation.EventStream
