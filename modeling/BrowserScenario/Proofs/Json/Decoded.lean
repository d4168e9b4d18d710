import BrowserScenario.Json.Reader
import BrowserScenario.Proofs.Number.Decimal

/-!
# What JSON decodes to

Decoded JSON consists of nulls, truth values, numbers, texts, arrays and objects, where the
members of an object are named by texts, and a whole number has no more digits than are read and
written. It has no bytes, dates, sets or other values of richer notations. Main statement: whatever
the reader of JSON returns is of this kind.
-/

namespace BrowserScenario

/-- A value that JSON can stand for. -/
inductive Data.IsJson : Data → Prop
  | null : IsJson .null
  | bool (b : Bool) : IsJson (.bool b)
  | int {n : Int} (h : Number.isWritable n = true) : IsJson (.int n)
  | float (x : Number.Binary64) : IsJson (.float x)
  | text (s : String) : IsJson (.text s)
  | list {items : List Data} (hitems : ∀ item ∈ items, IsJson item) : IsJson (.list items)
  | map {entries : List (Data × Data)} (hnames : ∀ entry ∈ entries, ∃ name, entry.1 = .text name)
    (hvalues : ∀ entry ∈ entries, IsJson entry.2) : IsJson (.map entries)

namespace Data

attribute [simp] IsJson.null IsJson.bool IsJson.float IsJson.text

/-- A whole number is decoded JSON exactly when it is written in decimal. -/
@[simp]
theorem isJson_int_iff {n : Int} : IsJson (.int n) ↔ Number.isWritable n = true := by
  apply Iff.intro
  · intro h
    cases h with
    | int hn => exact hn
  · intro h
    exact .int h

/-- An array is decoded JSON exactly when its items are. -/
@[simp]
theorem isJson_list_iff {items : List Data} : IsJson (.list items) ↔ ∀ item ∈ items, IsJson item := by
  apply Iff.intro
  · intro h
    cases h with
    | list hitems => exact hitems
  · intro h
    exact .list h

/-- An object is decoded JSON exactly when its members are named by texts and are decoded JSON. -/
@[simp]
theorem isJson_map_iff {entries : List (Data × Data)} :
    IsJson (.map entries) ↔
      (∀ entry ∈ entries, ∃ name, entry.1 = .text name) ∧ ∀ entry ∈ entries, IsJson entry.2 := by
  apply Iff.intro
  · intro h
    cases h with
    | map hnames hvalues => exact ⟨hnames, hvalues⟩
  · intro h
    exact .map h.1 h.2

/-- A member is one of the entries. -/
theorem mem_of_member? {name : String} {entries : List (Data × Data)} {value : Data}
    (h : member? name entries = some value) : (.text name, value) ∈ entries := by
  induction entries with
  | nil => exact nomatch h
  | cons entry rest ih =>
    unfold member? at h
    split at h
    · exact nomatch h
    · rename_i key other more heq
      obtain ⟨rfl, rfl⟩ := List.cons.inj heq
      split at h
      · rename_i hkey
        obtain rfl : other = value := Option.some.inj h
        rw [hkey]
        exact List.mem_cons_self
      · exact List.mem_cons_of_mem _ (ih h)
    · rename_i first more hfirst heq
      obtain ⟨rfl, rfl⟩ := List.cons.inj heq
      exact List.mem_cons_of_mem _ (ih h)

/-- The members of an object are decoded JSON. -/
theorem IsJson.member {entries : List (Data × Data)} (h : IsJson (.map entries)) {name : String}
    {value : Data} (hvalue : member? name entries = some value) : value.IsJson :=
  (isJson_map_iff.1 h).2 _ (mem_of_member? hvalue)

/-- Entries keep what holds of all of them when a value is inserted of which it holds too. -/
theorem forall_mem_insertEntry {key value : Data} {entries : List (Data × Data)}
    {holdsKey holdsValue : Data → Prop} (hkey : holdsKey key) (hvalue : holdsValue value)
    (h : ∀ entry ∈ entries, holdsKey entry.1 ∧ holdsValue entry.2) :
    ∀ entry ∈ insertEntry key value entries, holdsKey entry.1 ∧ holdsValue entry.2 := by
  induction entries with
  | nil =>
    intro entry hentry
    obtain rfl : entry = (key, value) := by simpa [insertEntry] using hentry
    exact ⟨hkey, hvalue⟩
  | cons first rest ih =>
    obtain ⟨k, v⟩ := first
    have hfirst : holdsKey k ∧ holdsValue v := h (k, v) List.mem_cons_self
    have hrest := ih fun entry hentry => h entry (List.mem_cons_of_mem _ hentry)
    intro entry hentry
    unfold insertEntry at hentry
    split at hentry
    · rcases List.mem_cons.1 hentry with rfl | hmem
      · exact ⟨hfirst.1, hvalue⟩
      · exact h entry (List.mem_cons_of_mem _ hmem)
    · rcases List.mem_cons.1 hentry with rfl | hmem
      · exact hfirst
      · exact hrest entry hmem

/-- Entries keep what holds of all of them when they are merged. -/
theorem forall_mem_mergeEntries {entries : List (Data × Data)} {holdsKey holdsValue : Data → Prop}
    (h : ∀ entry ∈ entries, holdsKey entry.1 ∧ holdsValue entry.2) :
    ∀ entry ∈ mergeEntries entries, holdsKey entry.1 ∧ holdsValue entry.2 := by
  -- The invariant is about the entries merged so far, so it is carried for any such list.
  have hfold : ∀ merged : List (Data × Data),
      (∀ entry ∈ merged, holdsKey entry.1 ∧ holdsValue entry.2) →
        ∀ entry ∈ entries.foldl (fun merged entry => insertEntry entry.1 entry.2 merged) merged,
          holdsKey entry.1 ∧ holdsValue entry.2 := by
    induction entries with
    | nil =>
      intro merged hmerged
      exact hmerged
    | cons first rest ih =>
      intro merged hmerged
      have hfirst := h first List.mem_cons_self
      exact ih (fun entry hentry => h entry (List.mem_cons_of_mem _ hentry)) _
        (forall_mem_insertEntry hfirst.1 hfirst.2 hmerged)
  exact hfold [] (by simp)

end Data

namespace Json

/-- A failure at the cursor gives no value. -/
theorem Cursor.fail_ne_ok {α : Type} (cursor : Cursor) (fault : Fault) (found : α) :
    cursor.fail fault ≠ .ok found := by
  intro h
  unfold Cursor.fail at h
  exact nomatch h

/-- The words of the notation stand for decoded JSON. -/
theorem isJson_of_word {cursor after : Cursor} {data : Data}
    (h : word? cursor = some (data, after)) : data.IsJson := by
  have hwords : ∀ entry ∈ wordValues, entry.2.IsJson := by
    intro entry hentry
    simp only [wordValues, List.mem_cons, List.not_mem_nil, or_false] at hentry
    rcases hentry with rfl | rfl | rfl | rfl | rfl | rfl
    · exact .null
    · exact .bool true
    · exact .bool false
    · exact .float _
    · exact .float _
    · exact .float _
  obtain ⟨entry, hentry, hfound⟩ := Option.map_eq_some_iff.1 h
  obtain ⟨rfl, rfl⟩ := Prod.mk.inj hfound
  exact hwords entry (List.mem_of_find?_eq_some hentry)

/-- A numeral stands for decoded JSON. -/
theorem isJson_of_numeral {cursor after : Cursor} {data : Data}
    (h : numeral cursor = .ok (data, after)) : data.IsJson := by
  unfold numeral at h
  split at h
  rename_i negative rest _
  dsimp only at h
  split at h
  · exact absurd h (Cursor.fail_ne_ok _ _ _)
  · split at h
    · split at h
      · rename_i n hvalue
        obtain ⟨rfl, rfl⟩ := Prod.mk.inj (Except.ok.inj h)
        exact .int (Number.isWritable_of_limitedValue hvalue)
      · exact nomatch h
    · split at h
      · obtain ⟨rfl, rfl⟩ := Prod.mk.inj (Except.ok.inj h)
        exact .float _
      · exact absurd h (Cursor.fail_ne_ok _ _ _)

/-- What the readers return that may take no more than a number of steps: the reader of values,
that of the elements of an array after some of them, and that of the members of an object after
some of them. -/
structure Decodes (fuel : Nat) : Prop where
  value : ∀ {cursor after data}, value fuel cursor = .ok (data, after) → data.IsJson
  elements : ∀ {read cursor after data}, (∀ item ∈ read, Data.IsJson item) →
    elements fuel read cursor = .ok (data, after) → data.IsJson
  members : ∀ {read cursor after data},
    (∀ entry ∈ read, (∃ name, entry.1 = .text name) ∧ Data.IsJson entry.2) →
      members fuel read cursor = .ok (data, after) → data.IsJson

/-- An array of decoded JSON, read in reverse, is decoded JSON. -/
theorem isJson_reverse {read : List Data} (h : ∀ item ∈ read, item.IsJson) :
    (Data.list read.reverse).IsJson :=
  .list fun item hitem => h item (List.mem_reverse.1 hitem)

/-- An object of decoded JSON, read in reverse and merged, is decoded JSON. -/
theorem isJson_merged {read : List (Data × Data)}
    (h : ∀ entry ∈ read, (∃ name, entry.1 = .text name) ∧ entry.2.IsJson) :
    (Data.map (Data.mergeEntries read.reverse)).IsJson := by
  have hread : ∀ entry ∈ read.reverse, (∃ name, entry.1 = .text name) ∧ entry.2.IsJson :=
    fun entry hentry => h entry (List.mem_reverse.1 hentry)
  have hmerged : ∀ entry ∈ Data.mergeEntries read.reverse,
      (∃ name, entry.1 = .text name) ∧ entry.2.IsJson :=
    @Data.forall_mem_mergeEntries read.reverse (fun key => ∃ name, key = .text name) Data.IsJson
      hread
  exact .map (fun entry hentry => (hmerged entry hentry).1)
    fun entry hentry => (hmerged entry hentry).2

/-- Each reader returns decoded JSON when the readers it calls do, with one step less. -/
theorem Decodes.succ {fuel : Nat} (h : Decodes fuel) : Decodes (fuel + 1) := by
  refine ⟨?_, ?_, ?_⟩
  · intro cursor after data hread
    unfold Json.value at hread
    split at hread
    · exact absurd hread (Cursor.fail_ne_ok _ _ _)
    · split at hread
      · obtain ⟨rfl, rfl⟩ := Prod.mk.inj (Except.ok.inj hread)
        exact .text _
      · exact nomatch hread
    · dsimp only at hread
      split at hread
      · obtain ⟨rfl, rfl⟩ := Prod.mk.inj (Except.ok.inj hread)
        exact .list (by simp)
      · exact h.elements (by simp) hread
    · dsimp only at hread
      split at hread
      · obtain ⟨rfl, rfl⟩ := Prod.mk.inj (Except.ok.inj hread)
        exact .map (by simp) (by simp)
      · exact h.members (by simp) hread
    · split at hread
      · rename_i found hword
        obtain rfl : found = (data, after) := Except.ok.inj hread
        exact isJson_of_word hword
      · exact isJson_of_numeral hread
  · intro read cursor after data hitems hread
    unfold Json.elements at hread
    split at hread
    · exact nomatch hread
    · rename_i item rest hitem
      have hmore : ∀ other ∈ item :: read, Data.IsJson other :=
        List.forall_mem_cons.2 ⟨h.value hitem, hitems⟩
      dsimp only at hread
      split at hread
      · obtain ⟨rfl, rfl⟩ := Prod.mk.inj (Except.ok.inj hread)
        exact isJson_reverse hmore
      · exact h.elements hmore hread
      · exact absurd hread (Cursor.fail_ne_ok _ _ _)
  · intro read cursor after data hentries hread
    unfold Json.members at hread
    split at hread
    · split at hread
      · exact nomatch hread
      · rename_i name afterName hname
        dsimp only at hread
        split at hread
        · split at hread
          · exact nomatch hread
          · rename_i item rest hitem
            have hmore : ∀ entry ∈ (Data.text name, item) :: read,
                (∃ other, entry.1 = .text other) ∧ Data.IsJson entry.2 :=
              List.forall_mem_cons.2 ⟨⟨⟨name, rfl⟩, h.value hitem⟩, hentries⟩
            split at hread
            · obtain ⟨rfl, rfl⟩ := Prod.mk.inj (Except.ok.inj hread)
              exact isJson_merged hmore
            · exact h.members hmore hread
            · exact absurd hread (Cursor.fail_ne_ok _ _ _)
        · exact absurd hread (Cursor.fail_ne_ok _ _ _)
    · exact absurd hread (Cursor.fail_ne_ok _ _ _)

end Json

end BrowserScenario
