import BrowserScenario.Proofs.Text.Blocks
import BrowserScenario.Proofs.Text.Lines
import BrowserScenario.Proofs.Variables.Line
import BrowserScenario.Variables.Load

/-!
# Variables written to a file

A file of variables has a line for each entry, in any order, and any silent lines between them; the
lines end in any of the three ways, and the last one need not end. Main statement: such a file is
loaded as the variables that it was written from.
-/

namespace BrowserScenario

open BrowserScenario.Files BrowserScenario.Text

namespace Variables

/-- Lines that make settings in order: each line sets one or is silent. -/
inductive LinesOf : List (List Char) → List (String × String) → Prop
  | nil : LinesOf [] []
  | setting {line : List Char} {key value : String} {lines : List (List Char)}
    {settings : List (String × String)} (hline : Sets line key value) (h : LinesOf lines settings) :
    LinesOf (line :: lines) ((key, value) :: settings)
  | silent {line : List Char} {lines : List (List Char)} {settings : List (String × String)}
    (hline : IsSilent line) (h : LinesOf lines settings) : LinesOf (line :: lines) settings

/-- Variables are written as lines with their endings and a last line without one: each entry is set
by one of the lines, in any order, and the other lines are silent. -/
structure IsWrittenAs (values : Variables) (lines : List (List Char × LineEnd)) (last : List Char) :
    Prop where
  isOneLine : ∀ line ∈ lines.map Prod.fst ++ [last], IsOneLine line
  exists_settings : ∃ settings, LinesOf (lines.map Prod.fst ++ [last]) settings ∧
    settings.Perm values.entries

variable {lines : List (List Char × LineEnd)} {last : List Char}
  {settings : List (String × String)} {values : Variables}

/-- Nothing is read from an empty line. -/
theorem settingOfLine?_nil : settingOfLine? [] = none :=
  rfl

/-- The settings that lines make are read from them. -/
theorem filterMap_of_linesOf {lines : List (List Char)} (h : LinesOf lines settings) :
    lines.filterMap settingOfLine? = settings := by
  induction h with
  | nil => rfl
  | setting hline _ ih =>
    rw [List.filterMap_cons_some (settingOfLine?_of_sets hline), ih]
  | silent hline _ ih =>
    rw [List.filterMap_cons_none (settingOfLine?_of_isSilent hline), ih]

/-- Variables without repetition are read from the lines that they are written as. -/
theorem entries_ofText (hdistinct : (values.entries.map Prod.fst).Nodup)
    (hwritten : values.IsWrittenAs lines last) :
    (ofText (textOfLines lines last)).entries.Perm values.entries := by
  obtain ⟨hlines, settings, hsettings, hperm⟩ := hwritten
  have hnodup : (settings.map Prod.fst).Nodup := (hperm.map Prod.fst).nodup_iff.2 hdistinct
  have hread : (splitLines (unifyNewlines (textOfLines lines last))).filterMap settingOfLine? =
      settings := by
    rw [filterMap_lines_textOfLines settingOfLine? settingOfLine?_nil lines last hlines,
      filterMap_of_linesOf hsettings]
  rw [ofText, ofLines, hread, entries_ofList hnodup]
  exact hperm

end Variables

/-- What can be read at a path is a file. -/
theorem Files.Tree.isFile_of_read {tree : Tree} {path : List Char} {content : List UInt8}
    (h : tree.read [] path = .ok content) : tree.isFile path = true := by
  unfold Tree.read at h
  unfold Tree.isFile
  cases hlocation : tree.locate [] path with
  | error fault =>
    rw [hlocation] at h
    exact nomatch h
  | ok location =>
    rw [hlocation] at h
    simp only at h ⊢
    rcases hentry : tree.get? location with - | - | found
    · rw [hentry] at h
      exact nomatch h
    · rw [hentry] at h
      exact nomatch h
    · rfl

/-- The file at a path with the bytes of a text is loaded as the variables of the text. -/
theorem loadVariables_of_read {tree : Tree} {directory : List Char} {path : String}
    {text : List Char} (hread : tree.read [] (clean directory path.toList) = .ok (utf8Bytes text)) :
    loadVariables tree directory path = .ok (Variables.ofText text) := by
  have hdecoded : Variables.ofBytes (utf8Bytes text) = .ok (Variables.ofText text) := by
    unfold Variables.ofBytes
    rw [decodeUtf8Blocks_utf8Bytes]
  unfold loadVariables
  simp only
  rw [Tree.isFile_of_read hread, hread]
  simp only [hdecoded]

/-- Variables without repetition that are written to a file, in any order and with any silent lines,
blanks and line endings, are loaded from it: with the same entries and the same value for each key. -/
theorem loadVariables_written {tree : Tree} {directory : List Char} {path : String}
    {values : Variables} {lines : List (List Char × LineEnd)} {last : List Char}
    (hdistinct : (values.entries.map Prod.fst).Nodup) (hwritten : values.IsWrittenAs lines last)
    (hread : tree.read [] (clean directory path.toList) =
      .ok (utf8Bytes (textOfLines lines last))) :
    ∃ loaded, loadVariables tree directory path = .ok loaded ∧
      loaded.entries.Perm values.entries ∧ ∀ key, loaded.get? key = values.get? key := by
  have hperm := Variables.entries_ofText hdistinct hwritten
  exact ⟨_, loadVariables_of_read hread, hperm, Variables.get?_of_perm hdistinct hperm⟩

/-- Lines of a file that end in all three ways; a return is followed by an empty line. -/
def mixedLines : List (List Char × LineEnd) :=
  [(" # B = 1".toList, .both), (" B\t= x=#'$\x7bA\x7d' ".toList, .carriageReturn), ([], .lineFeed),
    ("=no".toList, .lineFeed)]

/-- A tree with one file of variables. -/
def mixedTree : Tree :=
  ⟨[(["w".toList], .directory),
    (["w".toList, ".env".toList], .file (utf8Bytes (textOfLines mixedLines "A=".toList)))]⟩

/-- Two variables, the first of which is set by the last line. -/
def mixedVariables : Variables :=
  ⟨[("A", ""), ("B", "x=#'$\x7bA\x7d'")]⟩

/-- The variables are loaded from the lines that end in all three ways. -/
theorem loadVariables_written_mixed :
    (mixedVariables.entries.map Prod.fst).Nodup ∧
      mixedVariables.IsWrittenAs mixedLines "A=".toList ∧
      mixedTree.read [] (clean "/w".toList ".env".toList) =
        .ok (utf8Bytes (textOfLines mixedLines "A=".toList)) ∧
      ∃ loaded, loadVariables mixedTree "/w".toList ".env" = .ok loaded ∧
        loaded.entries.Perm mixedVariables.entries ∧
        ∀ key, loaded.get? key = mixedVariables.get? key := by
  have hdistinct : (mixedVariables.entries.map Prod.fst).Nodup := by decide
  have hlines : ∀ line ∈ mixedLines.map Prod.fst ++ ["A=".toList], '\n' ∉ line ∧ '\r' ∉ line := by
    decide
  have hsettings : Variables.LinesOf (mixedLines.map Prod.fst ++ ["A=".toList])
      [("B", "x=#'$\x7bA\x7d'"), ("A", "")] :=
    .silent (Variables.settingOfLine?_eq_none_iff.1 (by decide))
      (.setting (Variables.settingOfLine?_eq_some_iff.1 (by decide))
        (.silent (Variables.settingOfLine?_eq_none_iff.1 (by decide))
          (.silent (Variables.settingOfLine?_eq_none_iff.1 (by decide))
            (.setting (Variables.settingOfLine?_eq_some_iff.1 (by decide)) .nil))))
  have hwritten : mixedVariables.IsWrittenAs mixedLines "A=".toList :=
    ⟨fun line hline => ⟨(hlines line hline).1, (hlines line hline).2⟩, _, hsettings,
      List.Perm.swap _ _ []⟩
  have hread : mixedTree.read [] (clean "/w".toList ".env".toList) =
      .ok (utf8Bytes (textOfLines mixedLines "A=".toList)) := rfl
  exact ⟨hdistinct, hwritten, hread, loadVariables_written hdistinct hwritten hread⟩

end BrowserScenario
