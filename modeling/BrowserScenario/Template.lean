import BrowserScenario.Variables.Basic

/-!
# Placeholders

A text may hold markers: a dollar sign and, in braces, a name that is not empty and has no closing
brace. A marker stands for the value of its name. Text is read once from left to right, so a
value that was put in is never read for markers. A name without a value, or with an empty one, is
an error.
-/

namespace BrowserScenario.Template

/-- The name of a marker that a text starts with, and what follows the marker. -/
def marker? : List Char → Option (List Char × List Char)
  | '$' :: '\x7b' :: rest =>
    match rest.takeWhile (· != '\x7d'), rest.dropWhile (· != '\x7d') with
    | first :: more, _ :: after => some (first :: more, after)
    | _, _ => none
  | _ => none

/-- What follows a marker is shorter than the text that starts with it. -/
theorem marker?_rest_lt {text name after : List Char} (h : marker? text = some (name, after)) :
    after.length < text.length := by
  unfold marker? at h
  split at h
  · rename_i rest
    split at h
    · rename_i first more closing tail htake hdrop
      simp only [Option.some.injEq, Prod.mk.injEq] at h
      have hlen : (rest.dropWhile (· != '\x7d')).length ≤ rest.length :=
        (List.dropWhile_suffix _).length_le
      rw [hdrop] at hlen
      simp only [List.length_cons] at hlen ⊢
      rw [← h.2]
      omega
    · simp at h
  · simp at h

/-- The value that a name stands for; an empty value counts as none. -/
def valueOf? (values : Variables) (name : List Char) : Option (List Char) :=
  match values.get? (String.ofList name) with
  | some value => if value.isEmpty then none else some value.toList
  | none => none

/-- The characters of a text with every marker replaced, or the name of the first marker that
has no value. -/
def fillChars (values : Variables) (text : List Char) : Except String (List Char) :=
  match _h : marker? text with
  | some (name, after) =>
    match valueOf? values name with
    | none => .error (String.ofList name)
    | some value =>
      match fillChars values after with
      | .error missing => .error missing
      | .ok filled => .ok (value ++ filled)
  | none =>
    match text with
    | [] => .ok []
    | c :: rest =>
      match fillChars values rest with
      | .error missing => .error missing
      | .ok filled => .ok (c :: filled)
termination_by text.length
decreasing_by
  · exact marker?_rest_lt _h
  · simp

/-- The text with every marker replaced, or the name of the first marker that has no value. -/
def fill (values : Variables) (text : String) : Except String String :=
  match fillChars values text.toList with
  | .ok filled => .ok (String.ofList filled)
  | .error missing => .error missing

end BrowserScenario.Template
