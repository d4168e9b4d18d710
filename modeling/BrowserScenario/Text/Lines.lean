import BrowserScenario.Text.Split

/-!
# Lines

A line ends with a line feed, a carriage return, or both in that order. Reading a text turns
each of the three endings into a line feed. Main statements: no carriage return is left, and a
text without carriage returns is unchanged.
-/

namespace BrowserScenario.Text

/-- The text with every line ending written as a line feed. -/
def unifyNewlines : List Char → List Char
  | [] => []
  | '\r' :: '\n' :: rest => '\n' :: unifyNewlines rest
  | c :: rest => (if c = '\r' then '\n' else c) :: unifyNewlines rest

/-- The lines of a text: its pieces between line feeds. -/
def splitLines (text : List Char) : List (List Char) :=
  splitAtChar '\n' text

/-- The line of a position in a text, counted from one. -/
def lineOf (text : List Char) (position : Nat) : Nat :=
  (text.take position).count '\n' + 1

/-- The column of a position in its line, counted from one. -/
def columnOf (text : List Char) (position : Nat) : Nat :=
  ((text.take position).reverse.takeWhile (· != '\n')).length + 1

/-- No carriage return is left when newlines are unified. -/
theorem unifyNewlines_no_return (s : List Char) : '\r' ∉ unifyNewlines s := by
  fun_induction unifyNewlines s with
  | case1 => simp
  | case2 rest ih => simp [ih]
  | case3 c rest hne ih =>
    by_cases hc : c = '\r'
    · simp [hc, ih]
    · simpa [hc] using ⟨fun heq => hc heq.symm, ih⟩

/-- A text without carriage returns keeps its newlines as they are. -/
theorem unifyNewlines_eq_self {s : List Char} (h : '\r' ∉ s) : unifyNewlines s = s := by
  fun_induction unifyNewlines s with
  | case1 => rfl
  | case2 rest ih => simp at h
  | case3 c rest hne ih =>
    have hc : c ≠ '\r' := fun heq => h (by simp [heq])
    have hrest : '\r' ∉ rest := fun hmem => h (List.mem_cons_of_mem _ hmem)
    simp [hc, ih hrest]

end BrowserScenario.Text
