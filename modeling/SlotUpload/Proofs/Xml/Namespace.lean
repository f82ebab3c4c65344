import SlotUpload.Xml.Element

/-!
# SlotUpload.Proofs.Xml.Namespace

Children in the namespace of their parent, and others.  A child is looked up by its name
alone, so that one in another namespace is found in place of an own one that comes after it
(`Shadowed`).  Where no name that is looked up is shadowed, nothing changes if all that is in
other namespaces is left out (`child?_genuine`).
-/

namespace SlotUpload.Xml.Element

variable {e parent : Element} {name : String} {names : List String}

/-- A child in another namespace comes before every own child of the name. -/
def Shadowed (parent : Element) (name : String) : Prop :=
  ∃ before c after, parent.children = before ++ c :: after ∧ c.name = name ∧
    c.xmlns ≠ parent.xmlns ∧ ∀ d ∈ before, d.name = name → d.xmlns ≠ parent.xmlns

/-- A name is shadowed exactly if what is found under it is in another namespace. -/
theorem shadowed_iff :
    Shadowed parent name ↔ ∃ c, parent.child? name = some c ∧ c.xmlns ≠ parent.xmlns := by
  constructor
  · rintro ⟨before, c, after, hchildren, hname, hc, hbefore⟩
    rw [child?, hchildren, List.find?_append]
    cases hfind : before.find? (·.name == name) with
    | none => exact ⟨c, by simp [hname], hc⟩
    | some d =>
        have hd : d.name = name := by simpa using List.find?_some hfind
        exact ⟨d, rfl, hbefore d (List.mem_of_find?_eq_some hfind) hd⟩
  · rintro ⟨c, hfind, hc⟩
    obtain ⟨hname, before, after, hchildren, hbefore⟩ := List.find?_eq_some_iff_append.1 hfind
    refine ⟨before, c, after, hchildren, by simpa using hname, hc, fun d hd hdname => ?_⟩
    have hother := hbefore d hd
    simp [hdname] at hother

/-- A name is not shadowed if its first child is of the parent's namespace. -/
theorem not_shadowed_iff :
    ¬ Shadowed parent name ↔ ∀ c, parent.child? name = some c → c.xmlns = parent.xmlns := by
  simp only [shadowed_iff, not_exists, not_and, ne_eq, Decidable.not_not]

/-- The children that are found under some names. -/
def lookedUp (names : List String) (parent : Element) : List Element :=
  names.flatMap fun name => (parent.child? name).toList

/-- All that is looked up is genuine exactly if no name is shadowed. -/
theorem forall_mem_lookedUp_iff : (∀ c ∈ lookedUp names parent, c.xmlns = parent.xmlns) ↔
    ∀ name ∈ names, ¬ Shadowed parent name := by
  simp only [lookedUp, List.mem_flatMap, Option.mem_toList, not_shadowed_iff]
  constructor
  · intro h name hname c hc
    exact h c ⟨name, hname, hc⟩
  · rintro h c ⟨name, hname, hc⟩
    exact h name hname c hc

/-! ## leaving out what is in other namespaces -/

mutual

/-- The element without all that is in another namespace than the element around it. -/
def genuine : Element → Element
  | ⟨name, ns, attributes, children, text⟩ =>
    ⟨name, ns, attributes, genuineAmong ns children, text⟩

/-- The elements of a list that are in a namespace, each without what is in another one. -/
def genuineAmong (ns : Option String) : List Element → List Element
  | [] => []
  | e :: es => if e.xmlns = ns then genuine e :: genuineAmong ns es else genuineAmong ns es

end

@[simp] theorem name_genuine (e : Element) : e.genuine.name = e.name := by
  cases e
  rw [genuine]

@[simp] theorem xmlns_genuine (e : Element) : e.genuine.xmlns = e.xmlns := by
  cases e
  rw [genuine]

@[simp] theorem text_genuine (e : Element) : e.genuine.text = e.text := by
  cases e
  rw [genuine]

@[simp] theorem attribute?_genuine (e : Element) (name : String) :
    e.genuine.attribute? name = e.attribute? name := by
  cases e
  rw [genuine]
  rfl

/-- The genuine elements are those of the namespace, genuine themselves. -/
theorem genuineAmong_eq (ns : Option String) (es : List Element) :
    genuineAmong ns es = (es.filter fun c => c.xmlns = ns).map genuine := by
  induction es with
  | nil => rfl
  | cons e es ih =>
      rw [genuineAmong, ih]
      by_cases h : e.xmlns = ns <;> simp [h]

theorem children_genuine (e : Element) :
    e.genuine.children = (e.children.filter fun c => c.xmlns = e.xmlns).map genuine := by
  obtain ⟨name, ns, attributes, children, text⟩ := e
  rw [genuine, genuineAmong_eq]

/-- Where a name is not shadowed, the same is found under it among the own children. -/
theorem child?_genuine (h : ¬ Shadowed parent name) :
    parent.genuine.child? name = (parent.child? name).map genuine := by
  have hname : (fun c : Element => c.name == name) ∘ genuine = fun c => c.name == name := by
    funext c
    simp
  rw [child?, children_genuine, List.find?_map, hname, child?]
  congr 1
  cases hfind : parent.children.find? (·.name == name) with
  | none =>
      rw [List.find?_eq_none] at hfind ⊢
      exact fun c hc => hfind c ((List.mem_filter.1 hc).1)
  | some c =>
      obtain ⟨hc, before, after, hchildren, hbefore⟩ := List.find?_eq_some_iff_append.1 hfind
      have hown : c.xmlns = parent.xmlns := not_shadowed_iff.1 h c hfind
      refine List.find?_eq_some_iff_append.2 ⟨hc, before.filter (·.xmlns = parent.xmlns),
        after.filter (·.xmlns = parent.xmlns), ?_, fun d hd => ?_⟩
      · simp [hchildren, hown]
      · exact hbefore d (List.mem_filter.1 hd).1

/-- A name that is not shadowed reads the same without strangers. -/
theorem childText_genuine (h : ¬ Shadowed parent name) :
    (parent.genuine.child? name).map (·.text) = (parent.child? name).map (·.text) := by
  rw [child?_genuine h]
  cases parent.child? name <;> simp

/-- Where all children of a name are own children, they all stay. -/
theorem filter_children_genuine
    (h : ∀ c ∈ parent.children, c.name = name → c.xmlns = parent.xmlns) :
    parent.genuine.children.filter (·.name == name) =
      (parent.children.filter (·.name == name)).map genuine := by
  have hname : (fun c : Element => c.name == name) ∘ genuine = fun c => c.name == name := by
    funext c
    simp
  rw [children_genuine, List.filter_map, hname, List.filter_filter]
  congr 1
  refine List.filter_congr fun c hc => ?_
  by_cases hcname : c.name = name
  · simp [hcname, h c hc hcname]
  · simp [hcname]

end SlotUpload.Xml.Element
