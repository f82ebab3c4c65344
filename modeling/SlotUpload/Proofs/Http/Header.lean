import Mathlib.Data.List.Induction
import Mathlib.Data.List.Nodup
import SlotUpload.Http.Header

/-!
# SlotUpload.Proofs.Http.Header

Sets of headers.  A header that is set stands where its name stood, or at the end, so
that every name keeps to one value (`nodup_names_set`).  Of headers that are set one
after another the last of each name counts (`get?_setAll`), where the first of them
stands (`pairwise_names_setAll`).
-/

namespace SlotUpload.Http

/-! ## texts in headers -/

/-- Is a text a token? -/
def IsToken (s : String) : Prop := s ≠ "" ∧ ∀ c ∈ s.toList, isTokenChar c

/-- May a character not stand in the value of a header?  A tab may. -/
def IsControl (c : Char) : Prop := c ≠ '\t' ∧ (c.toNat < 0x20 ∨ c.toNat = 0x7F)

instance (c : Char) : Decidable (IsControl c) := inferInstanceAs (Decidable (_ ∧ _))

/-- Does a text keep to the line that it is on? -/
def OnOneLine (s : String) : Prop := '\r' ∉ s.toList ∧ '\n' ∉ s.toList

theorem isHeaderName_iff {s : String} : isHeaderName s ↔ IsToken s := by
  simp [isHeaderName, IsToken]

/-- A header's value has no control characters, tabs aside. -/
theorem isHeaderValue_iff {s : String} : isHeaderValue s ↔ ∀ c ∈ s.toList, ¬ IsControl c := by
  have hchar : ∀ c : Char,
      (c == '\t' || (decide (0x20 ≤ c.toNat) && decide (c.toNat ≠ 0x7F))) ↔ ¬ IsControl c := by
    intro c
    by_cases htab : c = '\t'
    · simp [IsControl, htab]
    · simp [IsControl, htab]
  simp only [isHeaderValue, List.all_eq_true, hchar]

/-- The value of a header does not reach into the next line. -/
theorem onOneLine_of_isHeaderValue {s : String} (h : isHeaderValue s) : OnOneLine s := by
  have hcontrol := isHeaderValue_iff.1 h
  constructor
  · exact fun hmem => hcontrol _ hmem (by decide)
  · exact fun hmem => hcontrol _ hmem (by decide)

namespace Headers

variable {name value other : String} {hs added : Headers}

/-- The names of some headers. -/
def names (hs : Headers) : List String := hs.map (·.1)

/-! ## one header -/

theorem get?_cons (other : String) (header : String × String) (hs : Headers) :
    get? other (header :: hs) = if header.1 = other then some header.2 else get? other hs := by
  rw [get?, get?, List.lookup_cons]
  by_cases h : header.1 = other
  · simp [h]
  · simp [h, beq_false_of_ne (Ne.symm h)]

/-- The value that was set is found, and the others are as they were. -/
theorem get?_set (name value other : String) (hs : Headers) :
    get? other (hs.set name value) = if name = other then some value else get? other hs := by
  induction hs with
  | nil => rw [set, get?_cons]
  | cons header hs ih =>
      rw [set]
      split
      · next h =>
          rw [get?_cons, get?_cons, h]
          split <;> rfl
      · next h =>
          rw [get?_cons, ih, get?_cons]
          split
          · next hother => rw [if_neg (hother ▸ Ne.symm h)]
          · rfl

/-- A header that is set keeps the place of its name, or comes last. -/
theorem names_set (name value : String) (hs : Headers) : names (hs.set name value) =
    if name ∈ names hs then names hs else names hs ++ [name] := by
  induction hs with
  | nil => rfl
  | cons header hs ih =>
      have hmem : name ∈ names (header :: hs) ↔ name = header.1 ∨ name ∈ names hs := List.mem_cons
      unfold set
      by_cases h : header.1 = name
      · rw [if_pos h, if_pos (hmem.2 (.inl h.symm))]
        exact congrArg (· :: names hs) h.symm
      · rw [if_neg h]
        simp only [hmem, Ne.symm h, false_or]
        change header.1 :: names (set name value hs) = _
        rw [ih]
        split <;> rfl

@[simp] theorem mem_names_set :
    other ∈ names (hs.set name value) ↔ other = name ∨ other ∈ names hs := by
  rw [names_set]
  split
  · next h => exact (or_iff_right_of_imp fun heq => heq ▸ h).symm
  · rw [List.mem_append, List.mem_singleton, or_comm]

/-- A header that is set leaves the names distinct. -/
theorem nodup_names_set (h : (names hs).Nodup) : (names (hs.set name value)).Nodup := by
  rw [names_set]
  split
  · exact h
  · next hnew => exact List.nodup_append.2 ⟨h, List.nodup_singleton name,
      fun a ha b hb heq => hnew (List.mem_singleton.1 hb ▸ heq ▸ ha)⟩

/-- Among headers with distinct names, a name has the one value that stands by it. -/
theorem mem_iff_get? (h : (names hs).Nodup) : (name, value) ∈ hs ↔ get? name hs = some value := by
  induction hs with
  | nil => simp [get?]
  | cons header hs ih =>
      obtain ⟨hheader, hrest⟩ := List.nodup_cons.1 h
      rw [List.mem_cons, get?_cons, ih hrest]
      by_cases hname : header.1 = name
      · have hnone : get? name hs ≠ some value := by
          rw [Ne, ← ih hrest]
          exact fun hmem => hheader (List.mem_map.2 ⟨(name, value), hmem, hname.symm⟩)
        simp [hname, hnone, Prod.ext_iff, eq_comm]
      · simp [hname, Prod.ext_iff, Ne.symm hname]

/-- Only a header that is there has a value. -/
theorem get?_eq_none_iff : get? name hs = none ↔ name ∉ names hs := by
  rw [get?, List.lookup_eq_none_iff, names, List.mem_map]
  grind

/-- Among headers with distinct names, those of a name are the one with its value. -/
theorem filter_eq_singleton_iff (h : (names hs).Nodup) :
    hs.filter (·.1 = name) = [(name, value)] ↔ get? name hs = some value := by
  rw [← mem_iff_get? h]
  constructor
  · intro hfilter
    have hmem : (name, value) ∈ hs.filter (·.1 = name) := hfilter ▸ List.mem_singleton_self _
    exact (List.mem_filter.1 hmem).1
  · intro hmem
    induction hs with
    | nil => cases hmem
    | cons header hs ih =>
        obtain ⟨hheader, hrest⟩ := List.nodup_cons.1 h
        rcases List.mem_cons.1 hmem with rfl | hmem
        · have hnone : ∀ other ∈ hs, other.1 ≠ name := by
            intro other hother heq
            exact hheader (List.mem_map.2 ⟨other, hother, heq⟩)
          simpa [List.filter_eq_nil_iff] using hnone
        · have hne : header.1 ≠ name := by
            intro heq
            exact hheader (List.mem_map.2 ⟨(name, value), hmem, heq.symm⟩)
          rw [List.filter_cons_of_neg (by simpa using hne), ih hrest hmem]

/-! ## headers one after another -/

/-- Some headers with further ones set, one after another. -/
def setAll (added hs : Headers) : Headers :=
  added.foldl (fun hs header => hs.set header.1 header.2) hs

/-- Does a name have this value where it comes up last? -/
def Last (name value : String) (added : Headers) : Prop :=
  ∃ before after, added = before ++ (name, value) :: after ∧ name ∉ names after

/-- The last value is the first one from behind. -/
theorem last_iff : Last name value added ↔ get? name added.reverse = some value := by
  rw [get?, List.lookup_eq_some_iff]
  constructor
  · rintro ⟨before, after, rfl, hafter⟩
    refine ⟨after.reverse, before.reverse, by simp, fun header hmem => ?_⟩
    have hne : header.1 ≠ name := by
      rintro rfl
      exact hafter (List.mem_map_of_mem (List.mem_reverse.1 hmem))
    simpa using hne.symm
  · rintro ⟨after, before, hsplit, hafter⟩
    refine ⟨before.reverse, after.reverse, ?_, fun hmem => ?_⟩
    · rw [← List.reverse_reverse added, hsplit]
      simp
    · obtain ⟨header, hheader, rfl⟩ := List.mem_map.1 hmem
      simpa using hafter header (List.mem_reverse.1 hheader)

/-- The last value of a name, where there is one, replaces the one from before. -/
theorem get?_setAll (name : String) (added hs : Headers) :
    get? name (setAll added hs) = (get? name added.reverse).or (get? name hs) := by
  induction added generalizing hs with
  | nil => rfl
  | cons header added ih =>
      have hlast : get? name (header :: added).reverse =
          (get? name added.reverse).or (if header.1 = name then some header.2 else none) := by
        rw [get?, List.reverse_cons, List.lookup_append]
        exact congrArg _ (get?_cons name header [])
      rw [setAll, List.foldl_cons, ← setAll, ih, get?_set, hlast, Option.or_assoc]
      split <;> rfl

theorem mem_of_mem_set {header : String × String} (h : header ∈ hs.set name value) :
    header = (name, value) ∨ header ∈ hs := by
  induction hs with
  | nil => exact .inl (List.mem_singleton.1 h)
  | cons first hs ih =>
      unfold set at h
      split at h <;> grind

/-- A header was there or is one of those that were set. -/
theorem mem_of_mem_setAll {header : String × String} (h : header ∈ setAll added hs) :
    header ∈ added ∨ header ∈ hs := by
  induction added generalizing hs with
  | nil => exact .inr h
  | cons first added ih =>
      rcases ih h with hadded | hset
      · exact .inl (List.mem_cons_of_mem _ hadded)
      · rcases mem_of_mem_set hset with rfl | hmem
        · exact .inl List.mem_cons_self
        · exact .inr hmem

/-- The names are those that were there and those that were set. -/
theorem mem_names_setAll :
    other ∈ names (setAll added hs) ↔ other ∈ names added ∨ other ∈ names hs := by
  induction added generalizing hs with
  | nil => simp [setAll, names]
  | cons header added ih =>
      rw [setAll, List.foldl_cons, ← setAll, ih, mem_names_set]
      simp only [names, List.map_cons, List.mem_cons]
      tauto

/-- Setting headers keeps every name once. -/
theorem nodup_names_setAll (h : (names hs).Nodup) : (names (setAll added hs)).Nodup := by
  induction added generalizing hs with
  | nil => exact h
  | cons header added ih => exact ih (nodup_names_set h)

/-- The last header is set after the others. -/
theorem setAll_concat (added : Headers) (name value : String) (hs : Headers) :
    setAll (added ++ [(name, value)]) hs = (setAll added hs).set name value := by
  rw [setAll, List.foldl_append]
  rfl

/-- Names stand in the order in which they came up first. -/
theorem pairwise_names_setAll (added : Headers) :
    (names (setAll added [])).Pairwise
      fun a b => (names added).idxOf a < (names added).idxOf b := by
  induction added using List.reverseRecOn with
  | nil => exact .nil
  | append_singleton added header ih =>
      obtain ⟨name, value⟩ := header
      have hmem : ∀ {other}, other ∈ names (setAll added []) → other ∈ names added := fun h =>
        (mem_names_setAll.1 h).resolve_right List.not_mem_nil
      have hnames : names (added ++ [(name, value)]) = names added ++ [name] := List.map_append
      have hbefore : (names (setAll added [])).Pairwise fun a b =>
          (names added ++ [name]).idxOf a < (names added ++ [name]).idxOf b :=
        ih.imp_of_mem fun ha hb h => by
          rwa [List.idxOf_append_of_mem (hmem ha), List.idxOf_append_of_mem (hmem hb)]
      rw [setAll_concat, names_set, hnames]
      split
      · exact hbefore
      · next hnew =>
          have hnew : name ∉ names added := fun h => hnew (mem_names_setAll.2 (.inl h))
          refine List.pairwise_append.2 ⟨hbefore, List.pairwise_singleton _ _, fun a ha b hb => ?_⟩
          obtain rfl := List.mem_singleton.1 hb
          have hlast : (names added ++ [b]).idxOf b = (names added).length := by
            rw [List.idxOf_append_of_notMem hnew, List.idxOf_cons_self, Nat.add_zero]
          rw [hlast, List.idxOf_append_of_mem (hmem ha)]
          exact List.idxOf_lt_length_of_mem (hmem ha)

/-- Where the last value of a name stands in the end. -/
theorem mem_setAll_of_last (h : (names hs).Nodup) (hlast : Last name value added) :
    (name, value) ∈ setAll added hs := by
  rw [mem_iff_get? (nodup_names_setAll h), get?_setAll, last_iff.1 hlast]
  rfl

/-- A name that does not come up keeps its value. -/
theorem get?_setAll_of_not_mem (h : name ∉ names added) :
    get? name (setAll added hs) = get? name hs := by
  have hnone : get? name added.reverse = none := by
    rw [get?_eq_none_iff]
    simpa [names] using h
  rw [get?_setAll, hnone, Option.none_or]

end Headers

end SlotUpload.Http
