import BrowserScenario.Proofs.Text.Trim
import BrowserScenario.Proofs.Variables.Entries
import BrowserScenario.Variables.EnvFile

/-!
# Lines that set variables

A line sets a key to a value when the first equals sign stands between them and blanks at most around
them, and it sets a key to no text when it has no equals sign. A line is silent when there is nothing
on it but blanks, or when the first other character is a number sign or an equals sign. Every line
does one of this, and how a line is read tells which. Main statement: of two lists of lines, read one
after the other, the second decides on the keys that it sets; so the last line that sets a key decides
on it, whatever the other lines are.
-/

namespace BrowserScenario.Variables

open BrowserScenario.Text

/-- Characters that are all blank. -/
def IsBlanks (s : List Char) : Prop :=
  ∀ c ∈ s, isBlank c = true

/-- A key as lines set them: a text that is not empty, has no blanks at its ends and no equals sign
in it, and does not begin with a number sign. -/
structure IsKey (key : List Char) : Prop where
  trimmed : IsTrimmed isBlank key
  ne_nil : key ≠ []
  no_equals : '=' ∉ key
  no_sign : key.head? ≠ some '#'

/-- A line sets a key to a value: the key and the value stand before and after the first equals
sign, or the line is the key alone and the value is empty. -/
inductive Sets : List Char → String → String → Prop
  | assigned {key value : String} {before between after trail : List Char}
    (hkey : IsKey key.toList) (hvalue : IsTrimmed isBlank value.toList) (hbefore : IsBlanks before)
    (hbetween : IsBlanks between) (hafter : IsBlanks after) (htrail : IsBlanks trail) :
    Sets (before ++ key.toList ++ between ++ '=' :: (after ++ value.toList ++ trail)) key value
  | bare {key : String} {before trail : List Char} (hkey : IsKey key.toList)
    (hbefore : IsBlanks before) (htrail : IsBlanks trail) :
    Sets (before ++ key.toList ++ trail) key ""

/-- A line sets nothing: it is blank, it is a comment, or it has no key before its equals sign. -/
inductive IsSilent : List Char → Prop
  | blank {line : List Char} (hline : IsBlanks line) : IsSilent line
  | comment {before rest : List Char} (hbefore : IsBlanks before) :
    IsSilent (before ++ '#' :: rest)
  | keyless {before rest : List Char} (hbefore : IsBlanks before) :
    IsSilent (before ++ '=' :: rest)

variable {line name rest : List Char} {key value : String}

/-- What a line sets has the shape of a key and of a trimmed value. -/
theorem Sets.shape (h : Sets line key value) :
    IsKey key.toList ∧ IsTrimmed isBlank value.toList := by
  cases h with
  | assigned hkey hvalue => exact ⟨hkey, hvalue⟩
  | bare hkey => exact ⟨hkey, isTrimmed_nil⟩

/-- Where there is no equals sign, every character passes for one of a name. -/
theorem ne_equals_of_not_mem (h : '=' ∉ name) : ∀ c ∈ name, (c != '=') = true := by
  intro c hc
  rw [bne_iff_ne]
  exact fun heq => h (heq ▸ hc)

/-- A setting is cut at its first equals sign. -/
theorem splitSetting_append (h : '=' ∉ name) (rest : List Char) :
    splitSetting (name ++ '=' :: rest) = (name, rest) := by
  have hname := ne_equals_of_not_mem h
  unfold splitSetting
  rw [List.takeWhile_append_of_pos hname, List.dropWhile_append_of_pos hname]
  simp

/-- A setting without an equals sign is its key. -/
theorem splitSetting_of_not_mem (h : '=' ∉ name) : splitSetting name = (name, []) := by
  have hname := ne_equals_of_not_mem h
  unfold splitSetting
  rw [List.takeWhile_eq_self_iff.2 hname, List.dropWhile_eq_nil_iff.2 hname]
  rfl

/-- A line that is trimmed to a comment sets nothing. -/
theorem settingOfLine?_of_sign (h : trimBy isBlank line = '#' :: rest) :
    settingOfLine? line = none := by
  unfold settingOfLine?
  rw [h]
  rfl

/-- A line that is trimmed to something else is cut at the first equals sign, and sets what is
before it, trimmed, if there is something. -/
theorem settingOfLine?_of_cons {c : Char} (h : trimBy isBlank line = c :: rest) (hc : c ≠ '#') :
    settingOfLine? line =
      if trimBy isBlank (splitSetting (c :: rest)).1 = [] then none
      else some (String.ofList (trimBy isBlank (splitSetting (c :: rest)).1),
        String.ofList (trimBy isBlank (splitSetting (c :: rest)).2)) := by
  unfold settingOfLine?
  rw [h]
  split
  · rename_i hnil
    exact nomatch hnil
  · rename_i hcons
    exact absurd (List.cons.inj hcons).1 hc
  · simp only
    split
    · rename_i hnil
      rw [if_pos hnil]
    · rename_i hne
      rw [if_neg hne]

/-- A key begins with a character that is neither blank nor a number sign. -/
theorem IsKey.exists_cons {key : List Char} (h : IsKey key) :
    ∃ c rest, key = c :: rest ∧ isBlank c = false ∧ c ≠ '#' := by
  obtain ⟨c, rest, rfl⟩ := List.exists_cons_of_ne_nil h.ne_nil
  exact ⟨c, rest, rfl, h.trimmed.head c rfl, fun hc => h.no_sign (hc ▸ rfl)⟩

/-- No blank is an equals sign. -/
theorem equals_not_mem_of_isBlanks {s : List Char} (h : IsBlanks s) : '=' ∉ s :=
  fun hmem => absurd (h '=' hmem) (by decide)

/-- What a line sets is read from it. -/
theorem settingOfLine?_of_sets (h : Sets line key value) :
    settingOfLine? line = some (key, value) := by
  cases h with
  | @assigned _ _ before between after trail hkey hvalue hbefore hbetween hafter htrail =>
    obtain ⟨c, rest, hcons, hc, hsign⟩ := hkey.exists_cons
    have hname : '=' ∉ key.toList ++ between := by
      rw [List.mem_append, not_or]
      exact ⟨hkey.no_equals, equals_not_mem_of_isBlanks hbetween⟩
    have htrim : trimBy isBlank (before ++ key.toList ++ between ++
        '=' :: (after ++ value.toList ++ trail)) =
          c :: (rest ++ between ++ '=' :: dropTail isBlank (after ++ value.toList ++ trail)) := by
      rw [hcons, ← dropTail_append_cons (by decide), ← trimBy_append_cons hbefore hc]
      simp
    have hcut : c :: (rest ++ between ++ '=' :: dropTail isBlank (after ++ value.toList ++ trail)) =
        key.toList ++ between ++ '=' :: dropTail isBlank (after ++ value.toList ++ trail) := by
      simp [hcons]
    have hkeyed : trimBy isBlank (key.toList ++ between) = key.toList := by
      simpa using trimBy_of_isTrimmed (List.forall_mem_nil _) hbetween hkey.trimmed
    rw [settingOfLine?_of_cons htrim hsign, hcut, splitSetting_append hname, hkeyed,
      if_neg hkey.ne_nil, trimBy_dropTail, trimBy_of_isTrimmed hafter htrail hvalue]
    simp
  | @bare _ before trail hkey hbefore htrail =>
    obtain ⟨c, rest, hcons, hc, hsign⟩ := hkey.exists_cons
    have htrim : trimBy isBlank (before ++ key.toList ++ trail) = key.toList :=
      trimBy_of_isTrimmed hbefore htrail hkey.trimmed
    have hself : trimBy isBlank key.toList = key.toList := by
      simpa using trimBy_of_isTrimmed (List.forall_mem_nil _) (List.forall_mem_nil _) hkey.trimmed
    rw [settingOfLine?_of_cons (htrim.trans hcons) hsign, ← hcons,
      splitSetting_of_not_mem hkey.no_equals, hself, if_neg hkey.ne_nil]
    simp [trimBy, dropTail]

/-- Nothing is read from a silent line. -/
theorem settingOfLine?_of_isSilent (h : IsSilent line) : settingOfLine? line = none := by
  cases h with
  | blank hline =>
    have htrim : trimBy isBlank line = [] := by
      simpa using trimBy_of_isTrimmed hline (List.forall_mem_nil _) isTrimmed_nil
    unfold settingOfLine?
    rw [htrim]
  | comment hbefore => exact settingOfLine?_of_sign (trimBy_append_cons hbefore (by decide) _)
  | @keyless before rest hbefore =>
    have htrim := trimBy_append_cons hbefore (by decide : isBlank '=' = false) rest
    have hcut := splitSetting_append (List.not_mem_nil : '=' ∉ []) (dropTail isBlank rest)
    rw [List.nil_append] at hcut
    rw [settingOfLine?_of_cons htrim (by decide), hcut]
    rfl

/-- What begins with a character that is neither blank nor a number sign, and has no equals sign, is
a key and blanks after it. -/
theorem exists_isKey {c : Char} (hc : isBlank c = false) (hsign : c ≠ '#') (h : '=' ∉ c :: rest) :
    ∃ key between, IsKey key ∧ IsBlanks between ∧ c :: rest = key ++ between := by
  have hhead : ∀ d, (c :: rest).head? = some d → isBlank d = false :=
    fun d hd => Option.some.inj hd ▸ hc
  obtain ⟨between, hbetween, hname⟩ := exists_trimBy_of_head hhead
  have hkey : trimBy isBlank (c :: rest) = c :: dropTail isBlank rest :=
    trimBy_append_cons (List.forall_mem_nil _) hc rest
  refine ⟨_, between, ⟨isTrimmed_trimBy isBlank (c :: rest), ?_, ?_, ?_⟩, hbetween, hname⟩
  · rw [hkey]
    exact List.cons_ne_nil c _
  · rw [hname, List.mem_append, not_or] at h
    exact h.1
  · rw [hkey]
    exact fun h => hsign (Option.some.inj h)

/-- Every line sets a key to a value or is silent. -/
theorem sets_or_isSilent (line : List Char) :
    (∃ key value, Sets line key value) ∨ IsSilent line := by
  obtain ⟨before, trail, hbefore, htrail, hline⟩ := exists_trimBy isBlank line
  have htrimmed := isTrimmed_trimBy isBlank line
  generalize trimBy isBlank line = trimmed at hline htrimmed
  subst hline
  cases trimmed with
  | nil =>
    rw [List.append_nil]
    exact .inr (.blank (List.forall_mem_append.2 ⟨hbefore, htrail⟩))
  | cons c rest =>
    have hblank : isBlank c = false := htrimmed.head c rfl
    by_cases hsign : c = '#'
    · subst hsign
      rw [List.append_assoc, List.cons_append]
      exact .inr (.comment hbefore)
    by_cases hequals : '=' ∈ c :: rest
    · obtain ⟨name, others, hsplit, hname⟩ := List.eq_append_cons_of_mem hequals
      obtain ⟨after, blanks, hafter, hblanks, hothers⟩ := exists_trimBy isBlank others
      have htext := isTrimmed_trimBy isBlank others
      generalize trimBy isBlank others = text at hothers htext
      rw [hsplit]
      cases name with
      | nil =>
        rw [List.append_assoc]
        exact .inr (.keyless hbefore)
      | cons first more =>
        obtain ⟨rfl, -⟩ := List.cons.inj hsplit
        obtain ⟨key, between, hkey, hbetween, hkeyed⟩ := exists_isKey hblank hsign hname
        have hsets : Sets (before ++ (String.ofList key).toList ++ between ++
            '=' :: (after ++ (String.ofList text).toList ++ (blanks ++ trail)))
            (String.ofList key) (String.ofList text) :=
          .assigned (by simpa using hkey) (by simpa using htext) hbefore hbetween hafter
            (List.forall_mem_append.2 ⟨hblanks, htrail⟩)
        rw [hkeyed, hothers]
        exact .inl ⟨_, _, by simpa using hsets⟩
    · have hkey : IsKey (c :: rest) :=
        ⟨htrimmed, List.cons_ne_nil c rest, hequals, fun h => hsign (Option.some.inj h)⟩
      have hsets : Sets (before ++ (String.ofList (c :: rest)).toList ++ trail)
          (String.ofList (c :: rest)) "" :=
        .bare (by simpa using hkey) hbefore htrail
      exact .inl ⟨_, _, by simpa using hsets⟩

/-- A line sets what is read from it. -/
theorem settingOfLine?_eq_some_iff :
    settingOfLine? line = some (key, value) ↔ Sets line key value := by
  refine ⟨fun h => ?_, settingOfLine?_of_sets⟩
  rcases sets_or_isSilent line with ⟨other, text, hsets⟩ | hsilent
  · rw [settingOfLine?_of_sets hsets] at h
    obtain ⟨rfl, rfl⟩ := Prod.mk.inj (Option.some.inj h)
    exact hsets
  · rw [settingOfLine?_of_isSilent hsilent] at h
    exact nomatch h

/-- Nothing is read from the silent lines, and from no others. -/
theorem settingOfLine?_eq_none_iff : settingOfLine? line = none ↔ IsSilent line := by
  refine ⟨fun h => ?_, settingOfLine?_of_isSilent⟩
  rcases sets_or_isSilent line with ⟨key, value, hsets⟩ | hsilent
  · exact nomatch h.symm.trans (settingOfLine?_of_sets hsets)
  · exact hsilent

/-- Of lines read one after the other the later ones decide where they set a key. -/
theorem get?_ofLines_append (lines others : List (List Char)) (key : String) :
    (ofLines (lines ++ others)).get? key =
      ((ofLines others).get? key).or ((ofLines lines).get? key) := by
  unfold ofLines
  rw [List.filterMap_append, get?_ofList_append]

/-- One line gives a key the value that it sets. -/
theorem get?_ofLines_singleton :
    (ofLines [line]).get? key = some value ↔ Sets line key value := by
  rw [← settingOfLine?_eq_some_iff, ofLines]
  cases hsetting : settingOfLine? line with
  | none => simp [hsetting, ofList, empty, get?, lookupIn]
  | some setting =>
    rw [List.filterMap_cons_some hsetting, List.filterMap_nil]
    change (empty.set setting.1 setting.2).get? key = some value ↔ _
    rw [get?_set, Option.some.injEq, Prod.ext_iff]
    by_cases hkey : key = setting.1
    · simp [hkey]
    · simp [hkey, Ne.symm hkey, empty, get?, lookupIn]

/-- A key has no value when no line sets it. -/
theorem get?_ofLines_eq_none_iff {lines : List (List Char)} :
    (ofLines lines).get? key = none ↔ ∀ line ∈ lines, ∀ value, ¬ Sets line key value := by
  induction lines with
  | nil => exact ⟨fun _ line hline => (nomatch hline), fun _ => rfl⟩
  | cons line rest ih =>
    rw [← List.singleton_append, get?_ofLines_append, Option.or_eq_none_iff, ih,
      List.singleton_append, List.forall_mem_cons, and_comm]
    refine and_congr_left fun _ => ?_
    rw [Option.eq_none_iff_forall_ne_some]
    exact forall_congr' fun value => not_congr get?_ofLines_singleton

/-- A key has the value that the last line gives it of those that set it. -/
theorem get?_ofLines_eq_some_iff {lines : List (List Char)} :
    (ofLines lines).get? key = some value ↔ ∃ before line after,
      lines = before ++ line :: after ∧ Sets line key value ∧
        ∀ later ∈ after, ∀ other, ¬ Sets later key other := by
  constructor
  · intro h
    induction lines with
    | nil => exact nomatch h
    | cons line rest ih =>
      rw [← List.singleton_append, get?_ofLines_append] at h
      cases hrest : (ofLines rest).get? key with
      | some later =>
        rw [hrest, Option.some_or] at h
        obtain ⟨before, found, after, rfl, hfound⟩ := ih (hrest.trans h)
        exact ⟨line :: before, found, after, rfl, hfound⟩
      | none =>
        rw [hrest, Option.none_or] at h
        exact ⟨[], line, rest, rfl, get?_ofLines_singleton.1 h, get?_ofLines_eq_none_iff.1 hrest⟩
  · rintro ⟨before, line, after, rfl, hsets, hafter⟩
    rw [← List.singleton_append, get?_ofLines_append, get?_ofLines_append,
      get?_ofLines_eq_none_iff.2 hafter, get?_ofLines_singleton.2 hsets]
    rfl

/-- A line that does not set a key makes no difference to it. -/
theorem get?_ofLines_skip (before after : List (List Char))
    (h : ∀ value, ¬ Sets line key value) :
    (ofLines (before ++ line :: after)).get? key = (ofLines (before ++ after)).get? key := by
  have hline : (ofLines [line]).get? key = none := by
    rw [get?_ofLines_eq_none_iff, List.forall_mem_singleton]
    exact h
  rw [← List.singleton_append, get?_ofLines_append, get?_ofLines_append, get?_ofLines_append, hline,
    Option.or_none]

/-- The entries that lines make are looked up, and have the shape of keys and values. -/
theorem shape_of_mem_ofLines {lines : List (List Char)} {entry : String × String}
    (h : entry ∈ (ofLines lines).entries) : (ofLines lines).get? entry.1 = some entry.2 ∧
      IsKey entry.1.toList ∧ IsTrimmed isBlank entry.2.toList := by
  have hget : (ofLines lines).get? entry.1 = some entry.2 :=
    (lookupIn_eq_some_iff (nodup_keys_ofList _)).2 h
  obtain ⟨_, line, _, -, hsets, -⟩ := get?_ofLines_eq_some_iff.1 hget
  exact ⟨hget, hsets.shape⟩

/-- Of two lists of lines, read one after the other, the second decides on the keys that it sets. A
key has the value that the last line gives it of those that set it, and a line that does not set it
makes no difference. No key is there twice, a key is a text without blanks at its ends, without an
equals sign and without a number sign in front, and a value has no blanks at its ends. -/
theorem ofLines_lastWins :
    (∀ (lines others : List (List Char)) (key : String),
      (ofLines (lines ++ others)).get? key =
        ((ofLines others).get? key).or ((ofLines lines).get? key)) ∧
    (∀ (lines : List (List Char)) (key value : String),
      (ofLines lines).get? key = some value ↔ ∃ before line after,
        lines = before ++ line :: after ∧ Sets line key value ∧
          ∀ later ∈ after, ∀ other, ¬ Sets later key other) ∧
    (∀ (before : List (List Char)) (line : List Char) (after : List (List Char)) (key : String),
      (∀ value, ¬ Sets line key value) →
        (ofLines (before ++ line :: after)).get? key = (ofLines (before ++ after)).get? key) ∧
    ∀ lines : List (List Char), ((ofLines lines).entries.map Prod.fst).Nodup ∧
      ∀ entry ∈ (ofLines lines).entries, (ofLines lines).get? entry.1 = some entry.2 ∧
        IsKey entry.1.toList ∧ IsTrimmed isBlank entry.2.toList := by
  refine ⟨get?_ofLines_append, fun lines key value => get?_ofLines_eq_some_iff,
    fun before line after key => get?_ofLines_skip before after, fun lines => ?_⟩
  exact ⟨nodup_keys_ofList _, fun entry => shape_of_mem_ofLines⟩

/-- A key that a later line sets to no text, after lines that are no help: a comment that looks like
a setting, and a line without a key. -/
def emptied : List (List Char) :=
  [" A = 1#=".toList, " # A = 2".toList, "A".toList, "=3".toList]

/-- A comment sets nothing, and the last line that sets the key leaves it without text. -/
theorem ofLines_lastWins_emptied :
    (∀ value, ¬ Sets " # A = 2".toList "A" value) ∧
      (ofLines emptied).get? "A" = (ofLines [" A = 1#=".toList, "A".toList, "=3".toList]).get? "A" ∧
      ("A", "") ∈ (ofLines emptied).entries ∧ (ofLines emptied).get? "A" = some "" ∧
      IsKey "A".toList ∧ IsTrimmed isBlank "".toList := by
  have hcomment : ∀ value, ¬ Sets " # A = 2".toList "A" value := by
    intro value hsets
    have hnone : settingOfLine? " # A = 2".toList = none := by decide
    exact nomatch hnone.symm.trans (settingOfLine?_of_sets hsets)
  have hentry : ("A", "") ∈ (ofLines emptied).entries := by decide
  exact ⟨hcomment,
    ofLines_lastWins.2.2.1 [" A = 1#=".toList] _ ["A".toList, "=3".toList] "A" hcomment, hentry,
    (ofLines_lastWins.2.2.2 emptied).2 _ hentry⟩

end BrowserScenario.Variables
