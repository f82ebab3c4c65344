import Mathlib.Data.List.Infix
import SlotUpload.Files.Tree
import SlotUpload.Proofs.Text.Split

/-!
# SlotUpload.Proofs.Files.Tree

Laws of file systems.  What a path leads to depends only on the directories on the
way (`walk_of_within`), and the place at which a file is created is on nobody's way: so a
path leads to the file that was created by it, whatever is written to that file
(`holds_put_of_create`).
-/

namespace SlotUpload

/-- A name of an entry of a directory: a component of a path that leads neither back
nor nowhere. -/
structure Path.IsEntry (name : String) : Prop where
  ne_empty : name ≠ ""
  no_slash : '/' ∉ name.toList
  ne_dot : name ≠ "."
  ne_dots : name ≠ ".."

namespace Path

variable {base name : String}

theorem isAbsolute_iff : isAbsolute base ↔ ['/'] <+: base.toList := by
  rw [isAbsolute, String.startsWith_string_iff]
  rfl

/-- A name is no path from the root. -/
theorem IsEntry.isAbsolute_eq (h : IsEntry name) : isAbsolute name = false := by
  refine eq_false_of_ne_true fun habsolute => h.no_slash ?_
  exact (isAbsolute_iff.1 habsolute).subset (List.mem_singleton_self _)

theorem endsWith_slash_iff : base.endsWith "/" ↔ ['/'] <:+ base.toList := by
  rw [← String.endsWith_toSlice, String.Slice.endsWith_string_iff]
  simp

/-- A name seen from no directory is itself. -/
theorem join_empty (name : String) : join "" name = name := if_pos (.inr rfl)

/-- A name seen from a directory stands after the directory's path and a slash, which
may be the one that the path ends with. -/
theorem exists_of_join (h : IsEntry name) (hbase : base ≠ "") :
    ∃ front, (join base name).toList = front ++ '/' :: name.toList ∧
      (base.toList = front ∨ base.toList = front ++ ['/']) := by
  have hempty : base.isEmpty = false := by
    rwa [String.isEmpty_eq_false_iff]
  unfold join
  rw [if_neg (by simp [h.isAbsolute_eq, hempty])]
  split
  · next hslash =>
      obtain ⟨front, hfront⟩ := endsWith_slash_iff.1 hslash
      refine ⟨front, ?_, .inr hfront.symm⟩
      rw [String.toList_append, ← hfront, List.append_assoc]
      rfl
  · exact ⟨base.toList, by simp, .inl rfl⟩

end Path

namespace FileNode

variable {n node : FileNode} {name other : String} {place below : Place}

/-- Is a directory at a place below the node? -/
def HasDirectory (n : FileNode) (place : Place) : Prop :=
  ∃ entries, n.at? place = some (.directory entries)

/-- What is at a place below another one. -/
theorem at?_append (n : FileNode) (place below : Place) :
    n.at? (place ++ below) = (n.at? place).bind (·.at? below) := by
  induction place generalizing n with
  | nil => rfl
  | cons name place ih =>
      rw [List.cons_append, at?, at?, Option.bind_assoc]
      exact congrArg _ (funext ih)

/-- Only directories have something below them. -/
theorem hasDirectory_of_at?_append (h : n.at? (place ++ below) = some node) (hbelow : below ≠ []) :
    n.HasDirectory place := by
  rw [at?_append] at h
  obtain ⟨above, habove, h⟩ := Option.bind_eq_some_iff.1 h
  cases above with
  | directory entries => exact ⟨entries, habove⟩
  | file content =>
      cases below with
      | nil => contradiction
      | cons name below => contradiction

/-- What stands above a directory is one. -/
theorem HasDirectory.of_append (h : n.HasDirectory (place ++ below)) : n.HasDirectory place := by
  obtain ⟨entries, h⟩ := h
  cases below with
  | nil => exact ⟨entries, by rwa [List.append_nil] at h⟩
  | cons name below => exact hasDirectory_of_at?_append h (List.cons_ne_nil _ _)

/-! ## changed entries -/

/-- Taking out one name leaves what stands under the others. -/
theorem lookup_filter (entries : List (String × FileNode)) (h : other ≠ name) :
    (entries.filter (·.1 ≠ name)).lookup other = entries.lookup other := by
  induction entries with
  | nil => rfl
  | cons entry entries ih =>
      rw [List.filter_cons]
      split
      · rw [List.lookup_cons, List.lookup_cons, ih]
      · next hname =>
          have hother : (other == entry.1) = false := by
            rw [decide_eq_true_eq, not_not] at hname
            rw [hname]
            exact beq_false_of_ne h
          rw [List.lookup_cons, hother, ih]

/-- An entry that is put into a directory is there. -/
theorem entry?_withEntry_self (entries : List (String × FileNode)) :
    entry? ((directory entries).withEntry name node) name = some node := by
  simp [withEntry, entry?]

theorem entry?_withEntry_of_ne (h : other ≠ name) :
    entry? (n.withEntry name node) other = n.entry? other := by
  cases n with
  | file content => rfl
  | directory entries =>
      rw [withEntry, entry?, entry?, List.lookup_cons, beq_false_of_ne h]
      exact lookup_filter entries h

/-- The last entry under a name counts. -/
theorem withEntry_withEntry (n first second : FileNode) (name : String) :
    (n.withEntry name first).withEntry name second = n.withEntry name second := by
  cases n with
  | file content => rfl
  | directory entries => simp [withEntry, List.filter_filter]

/-- Only directories have entries. -/
theorem entry?_eq_some {entry : FileNode} (h : n.entry? name = some entry) :
    ∃ entries, n = .directory entries := by
  cases n with
  | file content => contradiction
  | directory entries => exact ⟨entries, rfl⟩

/-- Putting something at a place further down. -/
theorem put_cons (hplace : place ≠ []) (n node : FileNode) (name : String) :
    n.put node (name :: place) =
      match n.entry? name with
      | some entry => n.withEntry name (entry.put node place)
      | none => n := by
  cases place with
  | nil => contradiction
  | cons next place => rfl

/-- What was put at a place last counts. -/
theorem put_put (n first second : FileNode) (place : Place) :
    (n.put first place).put second place = n.put second place := by
  induction place generalizing n with
  | nil => rfl
  | cons name place ih =>
      by_cases hplace : place = []
      · subst hplace
        exact withEntry_withEntry n first second name
      · rw [put_cons hplace n, put_cons hplace n]
        cases hentry : n.entry? name with
        | none => rw [put_cons hplace, hentry]
        | some entry =>
            obtain ⟨entries, rfl⟩ := entry?_eq_some hentry
            rw [put_cons hplace, entry?_withEntry_self]
            simp only [ih, withEntry_withEntry]

/-- What is put into a directory is there. -/
theorem at?_put_self (h : n.HasDirectory place) (node : FileNode) (name : String) :
    (n.put node (place ++ [name])).at? (place ++ [name]) = some node := by
  induction place generalizing n with
  | nil =>
      obtain ⟨entries, hn⟩ := h
      cases hn
      rw [List.nil_append, put, at?, entry?_withEntry_self]
      rfl
  | cons first place ih =>
      obtain ⟨entries, hn⟩ := h
      rw [at?] at hn
      obtain ⟨entry, hentry, hdir⟩ := Option.bind_eq_some_iff.1 hn
      obtain ⟨own, rfl⟩ := entry?_eq_some hentry
      rw [List.cons_append, put_cons (by simp), hentry, at?, entry?_withEntry_self]
      exact ih ⟨entries, hdir⟩

/-- Directories stay where they are unless something is put in their way. -/
theorem HasDirectory.put {above : Place} (h : n.HasDirectory above) (node : FileNode)
    (hplace : ¬ place <+: above) : (n.put node place).HasDirectory above := by
  induction place generalizing n above with
  | nil => exact absurd List.nil_prefix hplace
  | cons name place ih =>
      obtain ⟨entries, h⟩ := h
      cases above with
      | nil =>
          cases h
          by_cases hnil : place = []
          · subst hnil
            exact ⟨_, rfl⟩
          · rw [put_cons hnil]
            split
            · exact ⟨_, rfl⟩
            · exact ⟨_, rfl⟩
      | cons first above =>
          rw [at?] at h
          obtain ⟨entry, hentry, hdir⟩ := Option.bind_eq_some_iff.1 h
          by_cases hfirst : first = name
          · subst hfirst
            have hbelow : ¬ place <+: above := fun hp => hplace (List.cons_prefix_cons.2 ⟨rfl, hp⟩)
            have hnil : place ≠ [] := by
              rintro rfl
              exact hbelow List.nil_prefix
            obtain ⟨own, rfl⟩ := entry?_eq_some hentry
            obtain ⟨entries', h'⟩ := ih ⟨entries, hdir⟩ hbelow
            refine ⟨entries', ?_⟩
            rw [put_cons hnil, hentry, at?, entry?_withEntry_self]
            exact h'
          · refine ⟨entries, ?_⟩
            by_cases hnil : place = []
            · subst hnil
              rw [FileNode.put, at?, entry?_withEntry_of_ne hfirst, hentry]
              exact hdir
            · rw [put_cons hnil]
              split
              · rw [at?, entry?_withEntry_of_ne hfirst, hentry]
                exact hdir
              · rw [at?, hentry]
                exact hdir

end FileNode

namespace FileTree

variable {t t' : FileTree} {place start : Place} {path : String}

/-- Is a directory at a place? -/
abbrev HasDirectory (t : FileTree) (place : Place) : Prop := t.root.HasDirectory place

/-! ## walking -/

/-- One can enter a place if it is a directory. -/
theorem enter_eq_ok_iff {dir : Place} :
    t.enter place = .ok dir ↔ dir = place ∧ t.HasDirectory place := by
  unfold enter HasDirectory FileNode.HasDirectory FileTree.at?
  cases t.root.at? place with
  | none => simp
  | some node => cases node <;> simp [eq_comm]

/-- One component leads from a directory to that directory, to the one around it, or
to one of its entries. -/
theorem walkOne_eq_ok_iff {name : String} : t.walkOne start name = .ok place ↔
    t.HasDirectory start ∧ (name = "." ∧ place = start ∨ name = ".." ∧ place = start.dropLast ∨
      name ≠ "." ∧ name ≠ ".." ∧ name.utf8ByteSize ≤ 255 ∧ place = start ++ [name]) := by
  unfold walkOne
  cases hs : t.enter start with
  | error e =>
      have hnot : ¬ t.HasDirectory start := fun h => by
        rw [enter_eq_ok_iff.2 ⟨rfl, h⟩] at hs
        contradiction
      exact iff_of_false nofun fun h => hnot h.1
  | ok dir =>
      obtain ⟨rfl, hdir⟩ := enter_eq_ok_iff.1 hs
      simp only [hdir, true_and, bind, Except.bind]
      by_cases hdot : name = "."
      · simp [hdot, eq_comm, pure, Except.pure]
      · by_cases hdots : name = ".."
        · simp [hdots, eq_comm, pure, Except.pure]
        · by_cases hlong : 255 < name.utf8ByteSize
          · simp [hdot, hdots, hlong, not_le.2 hlong, throw, throwThe, MonadExceptOf.throw]
          · simp [hdot, hdots, hlong, not_lt.1 hlong, eq_comm, pure, Except.pure]

theorem walk_append (t : FileTree) (start : Place) (names last : List String) :
    t.walk start (names ++ last) = (t.walk start names).bind (t.walk · last) :=
  List.foldlM_append

/-- A tree that has all directories of another one, at least. -/
structure Within (t t' : FileTree) : Prop where
  directories : ∀ place, t.HasDirectory place → t'.HasDirectory place
  workingDirectory_eq : t'.workingDirectory = t.workingDirectory

/-- A step can be taken in every larger tree as well. -/
theorem walkOne_of_within (h : t.Within t') {name : String}
    (hwalk : t.walkOne start name = .ok place) : t'.walkOne start name = .ok place := by
  rw [walkOne_eq_ok_iff] at hwalk ⊢
  exact ⟨h.directories _ hwalk.1, hwalk.2⟩

/-- A walk is a step and what is left of it. -/
theorem walk_cons (name : String) (names : List String) :
    t.walk start (name :: names) = (t.walkOne start name).bind (t.walk · names) :=
  List.foldlM_cons

/-- A walk goes the same way where there are more directories. -/
theorem walk_of_within (h : t.Within t') {names : List String}
    (hwalk : t.walk start names = .ok place) : t'.walk start names = .ok place := by
  induction names generalizing start with
  | nil => exact hwalk
  | cons name names ih =>
      rw [walk_cons] at hwalk ⊢
      cases hone : t.walkOne start name with
      | error e =>
          rw [hone] at hwalk
          contradiction
      | ok next =>
          rw [hone] at hwalk
          rw [walkOne_of_within h hone]
          exact ih hwalk

/-- A path leads to the same place in every larger tree. -/
theorem resolve_of_within (h : t.Within t') (hresolve : t.resolve path = .ok place) :
    t'.resolve path = .ok place := by
  unfold resolve at hresolve ⊢
  unfold startOf at hresolve ⊢
  rw [h.workingDirectory_eq]
  cases hrefusal : refusal? path with
  | some e =>
      rw [hrefusal] at hresolve
      contradiction
  | none =>
      rw [hrefusal] at hresolve
      exact walk_of_within h hresolve

theorem walk_singleton (name : String) : t.walk start [name] = t.walkOne start name := by
  rw [walk_cons]
  cases t.walkOne start name <;> rfl

/-- The place above a directory is one, also at the root. -/
theorem HasDirectory.dropLast (h : t.HasDirectory place) : t.HasDirectory place.dropLast := by
  cases hlast : place.getLast? with
  | none =>
      rw [List.getLast?_eq_none_iff.1 hlast] at h ⊢
      exact h
  | some name =>
      rw [← List.dropLast_append_getLast? name hlast] at h
      exact h.of_append

/-- Where a walk ends that takes a step, there is a directory, or it is an entry of
one. -/
theorem walk_end {names : List String} (hnames : names ≠ [])
    (hwalk : t.walk start names = .ok place) :
    t.HasDirectory place ∨ ∃ dir name, t.HasDirectory dir ∧ place = dir ++ [name] := by
  obtain ⟨before, last, rfl⟩ := List.eq_nil_or_concat names |>.resolve_left hnames
  rw [List.concat_eq_append, walk_append] at hwalk
  cases hbefore : t.walk start before with
  | error e =>
      rw [hbefore] at hwalk
      contradiction
  | ok dir =>
      rw [hbefore, Except.bind, walk_singleton] at hwalk
      obtain ⟨hdir, ⟨-, rfl⟩ | ⟨-, rfl⟩ | ⟨-, -, -, rfl⟩⟩ := walkOne_eq_ok_iff.1 hwalk
      · exact .inl hdir
      · exact .inl hdir.dropLast
      · exact .inr ⟨dir, last, hdir, rfl⟩

/-! ## creating files -/

/-- A path that ends in a slash is about a directory. -/
theorem wantsDirectory_iff : wantsDirectory path ↔ ['/'] <:+ path.toList :=
  Path.endsWith_slash_iff

/-- Only the empty path and those of nothing but slashes have no components. -/
theorem components_ne_nil (hpath : path.isEmpty = false) (hslash : wantsDirectory path = false) :
    components path ≠ [] := by
  intro hnil
  have hpieces : ∀ w ∈ Text.pieces (· == '/') path.toList, w = [] := by
    rw [components, List.map_eq_nil_iff, List.filter_eq_nil_iff] at hnil
    simpa using hnil
  have hall := Text.sep_of_pieces_eq_nil hpieces
  cases hlast : path.toList.getLast? with
  | none => simp_all
  | some c =>
      have hc : c = '/' := by simpa using hall c (List.mem_of_getLast? hlast)
      have hwants : wantsDirectory path := by
        rw [wantsDirectory_iff, ← List.dropLast_append_getLast? c hlast, hc]
        exact List.suffix_append _ _
      rw [hwants] at hslash
      contradiction

/-- A file is created where its path leads to, if that does not have to be a
directory. -/
theorem of_create_eq_ok (h : t.create path = .ok (place, t')) :
    wantsDirectory path = false ∧ t.resolve path = .ok place ∧ ¬ t.HasDirectory place ∧
      t' = t.put place (.file []) := by
  unfold create at h
  unfold resolve
  cases hrefusal : refusal? path with
  | some e =>
      rw [hrefusal] at h
      contradiction
  | none =>
      rw [hrefusal] at h
      simp only [bind, Except.bind] at h
      cases hwants : wantsDirectory path with
      | true =>
          rw [hwants] at h
          simp only [if_true] at h
          split at h
          · contradiction
          · split at h <;> contradiction
      | false =>
          rw [hwants] at h
          cases hwalk : t.walk (t.startOf path) (components path) with
          | error e =>
              simp [hwalk] at h
          | ok last =>
              simp only [hwalk, pure, Except.pure, Bool.false_eq_true, if_false] at h
              split at h
              · contradiction
              · next hdir =>
                  cases h
                  exact ⟨rfl, rfl, fun ⟨entries, h⟩ => hdir entries h, rfl⟩

/-- The directories stay where they are when something is put where none is. -/
theorem within_put (hplace : ¬ t.HasDirectory place) (node : FileNode) :
    t.Within (t.put place node) where
  directories above habove := by
    refine habove.put node fun hprefix => hplace ?_
    obtain ⟨below, rfl⟩ := hprefix
    exact habove.of_append
  workingDirectory_eq := rfl

/-- A path that leads somewhere is not refused. -/
theorem refusal?_of_resolve_eq_ok (h : t.resolve path = .ok place) : refusal? path = none := by
  unfold resolve at h
  split at h
  · contradiction
  · next hrefusal => exact hrefusal

/-- A path that leads somewhere has been walked, from where it starts. -/
theorem of_resolve_eq_ok (h : t.resolve path = .ok place) :
    path.isEmpty = false ∧ t.walk (t.startOf path) (components path) = .ok place := by
  unfold resolve at h
  split at h
  · contradiction
  · next hrefusal =>
      refine ⟨?_, h⟩
      unfold refusal? at hrefusal
      split at hrefusal
      · contradiction
      · split at hrefusal
        · contradiction
        · next hempty => exact eq_false_of_ne_true hempty

/-- The path leads to a file with this content. -/
structure Holds (t : FileTree) (path : String) (place : Place) (content : List UInt8) : Prop where
  wantsDirectory_eq : wantsDirectory path = false
  resolve_eq : t.resolve path = .ok place
  at?_eq : t.at? place = some (.file content)

/-- What a file holds is what is read of it. -/
theorem Holds.read {content : List UInt8} (h : t.Holds path place content) :
    t.read path = .ok content := by
  simp [FileTree.read, examine, find, h.resolve_eq, h.at?_eq, h.wantsDirectory_eq, bind,
    Except.bind, Except.map]

/-- A path leads to the file that was created by it, whatever is written to it. -/
theorem holds_put_of_create (h : t.create path = .ok (place, t')) (content : List UInt8) :
    (t.put place (.file content)).Holds path place content := by
  obtain ⟨hslash, hresolve, hplace, -⟩ := of_create_eq_ok h
  refine ⟨hslash, resolve_of_within (within_put hplace _) hresolve, ?_⟩
  obtain ⟨hpath, hwalk⟩ := of_resolve_eq_ok hresolve
  obtain hdir | ⟨dir, name, hdir, rfl⟩ := walk_end (components_ne_nil hpath hslash) hwalk
  · exact absurd hdir hplace
  · exact FileNode.at?_put_self hdir _ _

/-- What is written to a file is added to what was put there. -/
theorem append_put {content : List UInt8}
    (h : (t.put place (.file content)).at? place = some (.file content)) (bytes : List UInt8) :
    (t.put place (.file content)).append place bytes = t.put place (.file (content ++ bytes)) := by
  rw [append, h]
  exact congrArg (fun root => { t with root }) (t.root.put_put _ _ place)

/-! ## entries of directories -/

/-- The components of a text. -/
def componentsOf (s : List Char) : List String :=
  ((Text.pieces (· == '/') s).filter (!·.isEmpty)).map String.ofList

/-- A slash separates components. -/
theorem componentsOf_append (s s' : List Char) :
    componentsOf (s ++ '/' :: s') = componentsOf s ++ componentsOf s' := by
  rw [componentsOf, Text.pieces_append rfl, List.filter_append, List.map_append]
  rfl

/-- The name of an entry is its only component. -/
theorem componentsOf_name {name : String} (h : Path.IsEntry name) :
    componentsOf name.toList = [name] := by
  have hpieces : Text.pieces (· == '/') name.toList = [name.toList] := by
    refine Text.pieces_eq_singleton fun c hc hslash => h.no_slash ?_
    rwa [← beq_iff_eq.1 hslash]
  have hne : name.toList ≠ [] := by simpa using h.ne_empty
  rw [componentsOf, hpieces, List.filter_cons_of_pos (by simpa using hne)]
  simp

/-- The components of a name seen from a directory are those of the directory's path
and the name. -/
theorem components_join {dir name : String} (h : Path.IsEntry name) :
    components (Path.join dir name) = components dir ++ [name] := by
  by_cases hdir : dir = ""
  · rw [hdir, Path.join_empty]
    exact componentsOf_name h
  · obtain ⟨front, hjoin, hfront⟩ := Path.exists_of_join h hdir
    have hcomponents : components dir = componentsOf front := by
      rcases hfront with hfront | hfront
      · exact congrArg componentsOf hfront
      · have hempty : componentsOf [] = [] := rfl
        exact (congrArg componentsOf hfront).trans
          ((componentsOf_append front []).trans (by rw [hempty, List.append_nil]))
    rw [hcomponents, ← componentsOf_name h, ← componentsOf_append]
    exact congrArg componentsOf hjoin

/-- A path below a directory starts where that directory does. -/
theorem startOf_join {dir name : String} (h : Path.IsEntry name) :
    t.startOf (Path.join dir name) = t.startOf dir := by
  by_cases hdir : dir = ""
  · have hempty : Path.isAbsolute "" = false := by decide
    rw [hdir, Path.join_empty, startOf, startOf, h.isAbsolute_eq, hempty]
  · obtain ⟨front, hjoin, hfront⟩ := Path.exists_of_join h hdir
    have hiff : Path.isAbsolute (Path.join dir name) ↔ Path.isAbsolute dir := by
      rw [Path.isAbsolute_iff, Path.isAbsolute_iff, hjoin]
      have hne : dir.toList ≠ [] := by simpa using hdir
      cases front with
      | nil =>
          rcases hfront with hfront | hfront
          · exact absurd hfront hne
          · simp [hfront]
      | cons c front => rcases hfront with hfront | hfront <;> simp [hfront]
    rw [startOf, startOf, Bool.eq_iff_iff.2 hiff]

/-- A directory's path is taken if a longer one is. -/
theorem refusal?_of_join {dir name : String} (hname : Path.IsEntry name) (hdir : dir ≠ "")
    (h : refusal? (Path.join dir name) = none) : refusal? dir = none := by
  obtain ⟨rest, hjoin⟩ : ∃ rest, Path.join dir name = dir ++ rest := by
    have hempty : dir.isEmpty = false := by rwa [String.isEmpty_eq_false_iff]
    unfold Path.join
    rw [if_neg (by simp [hname.isAbsolute_eq, hempty])]
    split
    · exact ⟨name, rfl⟩
    · exact ⟨"/" ++ name, String.append_assoc⟩
  rw [hjoin] at h
  simp only [refusal?, String.contains_char_eq, String.toList_append, String.utf8ByteSize_append]
    at h ⊢
  split at h
  · contradiction
  · next hzero =>
      split at h
      · contradiction
      · split at h
        · contradiction
        · next hsize =>
            rw [if_neg (by simp_all), if_neg (by simpa using hdir), if_neg (by omega)]

/-- Where a path to a directory leads; the empty path is the working directory. -/
def LeadsTo (t : FileTree) (path : String) (dir : Place) : Prop :=
  if path = "" then dir = t.workingDirectory ∧ t.HasDirectory dir
  else ∃ entries, t.find path = .ok (dir, .directory entries)

/-- **A file that is created under a name in a directory is an entry of that
directory.** -/
theorem place_of_create_join {dir name : String} (hname : Path.IsEntry name)
    (h : t.create (Path.join dir name) = .ok (place, t')) :
    ∃ above, t.LeadsTo dir above ∧ place = above ++ [name] := by
  obtain ⟨-, hresolve, -, -⟩ := of_create_eq_ok h
  obtain ⟨-, hwalk⟩ := of_resolve_eq_ok hresolve
  rw [components_join hname, startOf_join hname, walk_append] at hwalk
  cases habove : t.walk (t.startOf dir) (components dir) with
  | error e =>
      rw [habove] at hwalk
      contradiction
  | ok above =>
      rw [habove, Except.bind, walk_singleton] at hwalk
      obtain ⟨hdir, ⟨hdot, -⟩ | ⟨hdots, -⟩ | ⟨-, -, -, rfl⟩⟩ := walkOne_eq_ok_iff.1 hwalk
      · exact absurd hdot hname.ne_dot
      · exact absurd hdots hname.ne_dots
      · refine ⟨above, ?_, rfl⟩
        unfold LeadsTo
        split
        · next hempty =>
            subst hempty
            cases habove
            exact ⟨rfl, hdir⟩
        · next hne =>
            obtain ⟨entries, hentries⟩ := hdir
            have hrefusal := refusal?_of_join hname hne (refusal?_of_resolve_eq_ok hresolve)
            have habove : t.resolve dir = .ok above := by rw [resolve, hrefusal, habove]
            refine ⟨entries, ?_⟩
            have hat : t.at? above = some (.directory entries) := hentries
            simp only [find, habove, bind, Except.bind, hat]

end FileTree

end SlotUpload
