import Mathlib.Data.List.Basic

/-! Renderings that can be read back. A rendering is readable when a text that begins with a
rendered value determines the value and what comes after it. Renderings are put together from
smaller ones; a condition on what follows is needed only where nothing marks the end of one.
-/

namespace Intellisphere.Foundation

variable {α β σ : Type}

/-- A text that begins with a rendered value determines it, if what follows is as expected. -/
def Readable (Follows : List σ → Prop) (render : α → List σ) : Prop :=
  ∀ ⦃first second : α⦄ ⦃rest rest' : List σ⦄,
    Follows rest
    → Follows rest'
    → render first ++ rest = render second ++ rest'
    → first = second ∧ rest = rest'

/-- The rendered value itself tells where it ends. -/
abbrev SelfDelimiting (render : α → List σ) : Prop :=
  Readable (fun _ => True) render

section Composition

variable {Follows Follows' : List σ → Prop} {render : α → List σ}

/-- A readable rendering that may come last is injective. -/
theorem Readable.injective (readable : Readable Follows render) (last : Follows [])
    : Function.Injective render := by
  intro first second same
  have texts : render first ++ [] = render second ++ [] := congrArg (· ++ []) same
  exact (readable last last texts).1

/-- What a reader gives back is readable. -/
theorem SelfDelimiting.of_reader {read : List σ → Option (α × List σ)}
    (reads : ∀ value rest, read (render value ++ rest) = some (value, rest))
    : SelfDelimiting render := by
  intro first second rest rest' _ _ same
  have given := reads first rest
  rw [same, reads] at given
  obtain ⟨value, after⟩ := Prod.mk.inj (Option.some.inj given)
  exact ⟨value.symm, after.symm⟩

/-- A fixed text in front. -/
theorem Readable.after (readable : Readable Follows render) (opening : List σ)
    : Readable Follows (fun value => opening ++ render value) := by
  intro first second rest rest' ends ends' same
  rw [List.append_assoc, List.append_assoc] at same
  exact readable ends ends' (List.append_cancel_left same)

/-- A fixed text behind. -/
theorem Readable.before (readable : Readable Follows render) {closing : List σ}
    (closes : ∀ rest, Follows (closing ++ rest))
    : SelfDelimiting (fun value => render value ++ closing) := by
  intro first second rest rest' _ _ same
  rw [List.append_assoc, List.append_assoc] at same
  obtain ⟨values, after⟩ := readable (closes rest) (closes rest') same
  exact ⟨values, List.append_cancel_left after⟩

/-- One rendering behind another. -/
theorem Readable.append {render' : β → List σ} (readable : Readable Follows render)
    (readable' : Readable Follows' render')
    (meets : ∀ value rest, Follows' rest → Follows (render' value ++ rest))
    : Readable Follows' (fun pair : α × β => render pair.1 ++ render' pair.2) := by
  intro first second rest rest' ends ends' same
  rw [List.append_assoc, List.append_assoc] at same
  obtain ⟨left, between⟩ := readable (meets _ _ ends) (meets _ _ ends') same
  obtain ⟨right, after⟩ := readable' ends ends' between
  exact ⟨Prod.ext left right, after⟩

/-- The rendering of something the value determines. -/
theorem Readable.comap (readable : Readable Follows render) {part : β → α}
    (determines : Function.Injective part)
    : Readable Follows (fun value => render (part value)) := by
  intro first second rest rest' ends ends' same
  obtain ⟨parts, after⟩ := readable ends ends' same
  exact ⟨determines parts, after⟩

end Composition

/-- What follows does not begin with a symbol of the given kind. -/
def Ends (inside : σ → Bool) (rest : List σ) : Prop :=
  ∀ symbol ∈ rest.head?, inside symbol = false

theorem Ends.cons {inside : σ → Bool} {symbol : σ} (outside : inside symbol = false)
    (rest : List σ)
    : Ends inside (symbol :: rest) := by
  intro _ first
  obtain rfl := Option.some.inj first
  exact outside

/-- A word of one kind of symbols ends where that kind does. -/
theorem Readable.word {render : α → List σ} {inside : σ → Bool}
    (injective : Function.Injective render)
    (words : ∀ value, ∀ symbol ∈ render value, inside symbol = true)
    : Readable (Ends inside) render := by
  have taken (value : α) (rest : List σ) (ends : Ends inside rest)
      : (render value ++ rest).takeWhile inside = render value := by
    rw [List.takeWhile_append_of_pos (words value)]
    cases rest with
    | nil => simp
    | cons symbol rest => simp [ends symbol rfl]
  intro first second rest rest' ends ends' same
  have texts : render first = render second := by
    rw [← taken first rest ends, same, taken second rest' ends']
  rw [texts] at same
  exact ⟨injective texts, List.append_cancel_left same⟩

section Sequences

variable {code : α → List σ}

/-- A sequence of self-delimiting words is determined by its text. By induction on the first
of the two.
-/
theorem SelfDelimiting.flatMap_injective (delimits : SelfDelimiting code)
    (nonempty : ∀ value, code value ≠ [])
    : Function.Injective (List.flatMap code) := by
  intro values values' same
  induction values generalizing values' with
  | nil =>
      cases values' with
      | nil => rfl
      | cons value' rest' =>
          have empty := (List.append_eq_nil_iff.mp same.symm).1
          exact (nonempty value' empty).elim
  | cons value rest ih =>
      cases values' with
      | nil =>
          have empty := (List.append_eq_nil_iff.mp same).1
          exact (nonempty value empty).elim
      | cons value' rest' =>
          obtain ⟨rfl, tail⟩ := delimits trivial trivial same
          rw [ih tail]

/-- A sequence of self-delimiting words, none of which begins with the terminator, ends at the
terminator. By induction on the first of the two.
-/
theorem SelfDelimiting.terminated (delimits : SelfDelimiting code) {stop : σ}
    (opens : ∀ value, ∃ symbol rest, code value = symbol :: rest ∧ symbol ≠ stop)
    : SelfDelimiting (fun values : List α => values.flatMap code ++ [stop]) := by
  intro values values' rest rest' _ _ same
  have other (value : α) (texts texts' : List σ) : stop :: texts ≠ code value ++ texts' := by
    obtain ⟨symbol, tail, opening, different⟩ := opens value
    rw [opening]
    intro heads
    exact different (List.cons.inj heads).1.symm
  simp only [List.append_assoc, List.singleton_append] at same
  induction values generalizing values' with
  | nil =>
      cases values' with
      | nil => exact ⟨rfl, (List.cons.inj same).2⟩
      | cons value' values' =>
          rw [List.flatMap_cons, List.append_assoc] at same
          exact (other _ _ _ same).elim
  | cons value values ih =>
      rw [List.flatMap_cons, List.append_assoc] at same
      cases values' with
      | nil => exact (other _ _ _ same.symm).elim
      | cons value' values' =>
          rw [List.flatMap_cons, List.append_assoc] at same
          obtain ⟨rfl, tail⟩ := delimits trivial trivial same
          obtain ⟨rfl, after⟩ := ih tail
          exact ⟨rfl, after⟩

end Sequences

end Intellisphere.Foundation
