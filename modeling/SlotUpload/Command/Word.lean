/-!
# SlotUpload.Command.Word

The words of a command line.  A word with a dash in front is an option, with its
value attached or in the next word; a lone dash and every word after `--` is
plain.
-/

namespace SlotUpload.Command

inductive Word
  | plain (text : String)
  /-- Everything after this word is plain. -/
  | escape
  | long (name : String) (value : Option String)
  | short (name : Char) (value : Option String)
  deriving DecidableEq, Repr

/-- Name and value of a long option. -/
def cutEquals : List Char → List Char × Option (List Char)
  | [] => ([], none)
  | '=' :: cs => ([], some cs)
  | c :: cs => (c :: (cutEquals cs).1, (cutEquals cs).2)

/-- What a word of the command line is. -/
def Word.ofString (s : String) : Word :=
  match s.toList with
  | ['-'] => .plain s
  | ['-', '-'] => .escape
  | '-' :: '-' :: cs =>
    let (name, value) := cutEquals cs
    .long (String.ofList name) (value.map String.ofList)
  | ['-', c] => .short c none
  | '-' :: c :: '=' :: cs => .short c (some (String.ofList cs))
  | '-' :: c :: cs => .short c (some (String.ofList cs))
  | _ => .plain s

/-- What a list of words comes to. -/
inductive Reading (α : Type)
  | done (value : α)
  /-- The user asks for help. -/
  | help
  /-- The user asks for the version. -/
  | version
  | refused
  deriving DecidableEq, Repr

/-- Takes a value of an option, or a plain word; there is none where it does not
fit. -/
abbrev Take (σ : Type) := String → σ → Option σ

/-- The options of a command and its plain words. -/
structure Grammar (σ : Type) where
  long : String → Option (Take σ)
  short : Char → Option (Take σ)
  plain : Take σ

/-- Takes an option whose value may stand in the next word. -/
def takeOption (take : Take σ) (value : Option String) (words : List String) (s : σ) :
    Option (σ × List String) :=
  match value, words with
  | some v, _ => (take v s).map (·, words)
  | none, v :: rest =>
    match Word.ofString v with
    | .plain _ => (take v s).map (·, rest)
    | _ => none
  | none, [] => none

/-- Taking an option leaves no more words than there were. -/
theorem length_of_takeOption {take : Take σ} {value : Option String} {words rest : List String}
    {s t : σ} (h : takeOption take value words s = some (t, rest)) :
    rest.length ≤ words.length := by
  unfold takeOption at h
  split at h
  · obtain ⟨_, _, h⟩ := Option.map_eq_some_iff.1 h
    simp_all
  · split at h
    · obtain ⟨_, _, h⟩ := Option.map_eq_some_iff.1 h
      simp_all
    · cases h
  · cases h

/-- Reads all words of a command. -/
def Grammar.read (g : Grammar σ) (words : List String) (s : σ) : Reading σ :=
  match words with
  | [] => .done s
  | w :: words =>
    match Word.ofString w with
    | .escape =>
      match words.foldlM (fun s w => g.plain w s) s with
      | some s => .done s
      | none => .refused
    | .plain w =>
      match g.plain w s with
      | some s => g.read words s
      | none => .refused
    | .long "help" none => .help
    | .short 'h' _ => .help
    | .long name value =>
      match g.long name with
      | none => .refused
      | some take =>
        match h : takeOption take value words s with
        | some (s, rest) =>
          have := length_of_takeOption h
          g.read rest s
        | none => .refused
    | .short name value =>
      match g.short name with
      | none => .refused
      | some take =>
        match h : takeOption take value words s with
        | some (s, rest) =>
          have := length_of_takeOption h
          g.read rest s
        | none => .refused
termination_by words.length

end SlotUpload.Command
