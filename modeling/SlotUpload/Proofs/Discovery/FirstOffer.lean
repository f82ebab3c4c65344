import SlotUpload.Proofs.Discovery.DefaultService

/-!
# SlotUpload.Proofs.Discovery.FirstOffer

Which entities a discovery asks, and which service it settles on, where every entity
tells the same about itself whenever it is asked.  `FirstOffer` cuts the list of items
after the first that offers uploads; `discover_first` says that a discovery asks just
the items before the cut, and makes that one's service the default.
-/

namespace SlotUpload

/-- An entity with the namespace of a schema among its features is a service, and no other. -/
theorem DiscoInfo.isSome_uploadService? (info : DiscoInfo) :
    info.uploadService?.isSome = info.supportsUpload := by
  unfold uploadService? version? supportsUpload
  cases info.hasFeature Version.current.namespaceName <;>
    cases info.hasFeature Version.legacy.namespaceName <;> rfl

namespace Discovery

/-! ## the first offer -/

section Told

-- what each entity tells about itself, or how asking it fails
variable (told : String → Except Causes DiscoInfo)

/-- Does an entity offer uploads? -/
def offers (item : String) : Bool :=
  match told item with
  | .ok info => info.supportsUpload
  | .error _ => false

/-- The service that an entity tells it is. -/
def serviceAt? (item : String) : Option UploadService :=
  match told item with
  | .ok info => info.uploadService?
  | .error _ => none

/-- An address has a service exactly if it offers one. -/
theorem isSome_serviceAt? (item : String) : (serviceAt? told item).isSome = offers told item := by
  unfold serviceAt? offers
  cases told item with
  | error causes => rfl
  | ok info => exact info.isSome_uploadService?

/-- The items up to the first that offers uploads, and its service; all items, if none does. -/
inductive FirstOffer : List String → List String → Option UploadService → Prop
  | absent {items : List String} (h : ∀ item ∈ items, offers told item = false) :
      FirstOffer items items none
  | found {before after : List String} {item : String} {info : DiscoInfo}
      {service : UploadService} (hbefore : ∀ earlier ∈ before, offers told earlier = false)
      (hinfo : told item = .ok info) (hservice : info.uploadService? = some service) :
      FirstOffer (before ++ item :: after) (before ++ [item]) (some service)

variable {told} {items asked : List String} {found : Option UploadService}

theorem serviceAt?_of_ok {item : String} {info : DiscoInfo} (h : told item = .ok info) :
    serviceAt? told item = info.uploadService? := by
  rw [serviceAt?, h]

/-- An item that does not offer uploads is asked, and nothing else comes of it. -/
theorem FirstOffer.cons {item : String} (hitem : offers told item = false)
    (h : FirstOffer told items asked found) :
    FirstOffer told (item :: items) (item :: asked) found := by
  cases h with
  | absent hnone => exact .absent (List.forall_mem_cons.2 ⟨hitem, hnone⟩)
  | found hbefore hinfo hservice =>
      exact .found (List.forall_mem_cons.2 ⟨hitem, hbefore⟩) hinfo hservice

/-- The service is that of the first among the items that offer uploads. -/
theorem FirstOffer.found_eq (h : FirstOffer told items asked found) :
    found = (items.filter (offers told)).head?.bind (serviceAt? told) := by
  cases h with
  | absent hnone =>
      have hfilter : items.filter (offers told) = [] := by
        simpa [List.filter_eq_nil_iff] using hnone
      rw [hfilter]
      rfl
  | @found before after item info service hbefore hinfo hservice =>
      have hfilter : before.filter (offers told) = [] := by
        simpa [List.filter_eq_nil_iff] using hbefore
      have hat : serviceAt? told item = some service := (serviceAt?_of_ok hinfo).trans hservice
      have hoffers : offers told item = true := by
        rw [← isSome_serviceAt?, hat]
        rfl
      rw [List.filter_append, hfilter, List.filter_cons_of_pos hoffers]
      exact hat.symm

/-- There is a service exactly if some item offers uploads. -/
theorem FirstOffer.isSome_iff (h : FirstOffer told items asked found) :
    found.isSome ↔ ∃ item ∈ items, offers told item = true := by
  cases h with
  | absent hnone => simpa using hnone
  | @found before after item info service hbefore hinfo hservice =>
      have hoffers : offers told item = true := by
        rw [← isSome_serviceAt?, serviceAt?_of_ok hinfo, hservice]
        rfl
      exact iff_of_true rfl ⟨item, by simp, hoffers⟩

end Told

/-! ## the discovery -/

/-- The server has these items, or cannot be asked, and each entity tells this about
itself, at any time. -/
structure Tells {σ : Type} (answer : Answerer σ) (server : String)
    (listed : Except Causes (List String)) (told : String → Except Causes DiscoInfo) : Prop where
  items : ∀ s, (answer (.items server) s).1 = listed
  info : ∀ item s, (answer (.info item) s).1 = told item

section Run

variable {σ : Type} {answer : Answerer σ} {cell : σ → Option UploadService} {server : String}
  {listed : Except Causes (List String)} {told : String → Except Causes DiscoInfo}

/-- The turns of asking items. -/
def asking (told : String → Except Causes DiscoInfo) (items : List String) : List Turn :=
  items.map fun item => ⟨.info item, told item⟩

/-- A search among entities of which it is known what they tell. -/
theorem Walk.firstOffer {items : List String} {calls : List Turn} {found : Option UploadService}
    (h : Walk items calls found)
    (htold : ∀ item a, Turn.mk (.info item) a ∈ calls → a = told item) :
    ∃ asked, calls = asking told asked ∧ FirstOffer told items asked found := by
  induction h with
  | nil => exact ⟨[], rfl, .absent (List.forall_mem_nil _)⟩
  | @unreachable item items calls found causes rest ih =>
      have hitem := htold _ _ List.mem_cons_self
      obtain ⟨asked, rfl, hfirst⟩ := ih fun _ _ hmem => htold _ _ (List.mem_cons_of_mem _ hmem)
      refine ⟨item :: asked, by rw [hitem]; rfl, hfirst.cons ?_⟩
      rw [offers, ← hitem]
  | @passed item items calls info found hnone rest ih =>
      have hitem := htold _ _ List.mem_cons_self
      obtain ⟨asked, rfl, hfirst⟩ := ih fun _ _ hmem => htold _ _ (List.mem_cons_of_mem _ hmem)
      refine ⟨item :: asked, by rw [hitem]; rfl, hfirst.cons ?_⟩
      rw [← isSome_serviceAt?, serviceAt?_of_ok hitem.symm, hnone]
      rfl
  | @found item items info service hservice =>
      have hitem := htold _ _ List.mem_cons_self
      exact ⟨[item], by rw [hitem]; rfl, .found (List.forall_mem_nil _) hitem.symm hservice⟩

/-- **First offer**: a discovery asks the server for its items, and then each item up to
the first that offers uploads, in order.  It finds a service exactly if there is such an item,
and makes the service of this one the default; what the other items tell is of no account.
Without a list of items nothing is asked and nothing changes. -/
theorem discover_first (htells : Tells answer server listed told) (hkeeps : Keeps answer cell)
    (s : σ) :
    let run := (discover server).run answer s
    let calls := Turn.calls ((discover server).turns answer s)
    match listed with
    | .error causes =>
      calls = [⟨.items server, .error causes⟩] ∧ run.1 = false ∧ cell run.2 = cell s
    | .ok items => ∃ asked found, FirstOffer told items asked found ∧
      calls = ⟨.items server, .ok items⟩ :: asking told asked ∧
      run.1 = found.isSome ∧ (run.1 = true ↔ ∃ item ∈ items, offers told item = true) ∧
      cell run.2 = found.or (cell s) ∧
      ∀ others asked' found', others.filter (offers told) = items.filter (offers told) →
        FirstOffer told others asked' found' → found' = found := by
  intro run calls
  obtain ⟨found, hdiscovered, hresult, hkept⟩ :=
    discover_takes (Job.takes_run answer s (discover server))
  have hcell : cell run.2 = found.or (cell s) := by
    rw [hkeeps.default_run, hkept]
    cases found <;> rfl
  -- what the turns have for answers is what the surroundings tell
  have hanswer : ∀ q a, Turn.mk q a ∈ calls → ∃ s', a = (answer q s').1 := fun q a hmem =>
    Job.exists_answer_of_mem_turns answer s (List.mem_filter.1 hmem).1
  have htold : ∀ item a, Turn.mk (.info item) a ∈ calls → a = told item := by
    intro item a hmem
    obtain ⟨s', rfl⟩ := hanswer _ a hmem
    exact htells.info item s'
  have hlisted : ∀ a, Turn.mk (.items server) a ∈ calls → a = listed := by
    intro a hmem
    obtain ⟨s', rfl⟩ := hanswer _ a hmem
    exact htells.items s'
  change Discovered server calls found at hdiscovered
  generalize calls = calls at hdiscovered htold hlisted ⊢
  cases hdiscovered with
  | unlisted causes =>
      obtain rfl := hlisted _ List.mem_cons_self
      exact ⟨rfl, hresult, hcell⟩
  | walked walk =>
      obtain rfl := hlisted _ List.mem_cons_self
      obtain ⟨asked, rfl, hfirst⟩ :=
        walk.firstOffer fun item a hmem => htold item a (List.mem_cons_of_mem _ hmem)
      refine ⟨asked, found, hfirst, rfl, hresult, ?_, hcell, ?_⟩
      · rw [hresult]
        exact hfirst.isSome_iff
      · intro others asked' found' hfilter hothers
        rw [hothers.found_eq, hfirst.found_eq, hfilter]

end Run

/-! ## a campus -/

/-- Rehearsals that stick to a script. -/
def scripted (script : Rehearsal.Script) : Answerer Rehearsal := fun q r =>
  Rehearsal.answer q { r with script }

theorem tells_scripted (script : Rehearsal.Script) (server : String) :
    Tells (scripted script) server script.items script.info :=
  ⟨fun _ => rfl, fun _ _ => rfl⟩

/-- The default service of a scripted session is kept as it should be. -/
theorem keeps_scripted (script : Rehearsal.Script) : Keeps (scripted script) Rehearsal.service :=
  ⟨fun _ => rfl, fun _ _ => rfl, fun q r hq => keeps_rehearsal.keep q { r with script } hq⟩

/-- A server with a chat room, an entity that cannot be reached, twice, and two services. -/
def campus : Rehearsal.Script :=
  { server := "montague.lit"
    items := .ok ["rooms.montague.lit", "gone.montague.lit", "gone.montague.lit",
      "upload.montague.lit", "rooms.montague.lit", "files.montague.lit"]
    infos :=
      [("rooms.montague.lit", .ok { address := "rooms.montague.lit" }),
       ("upload.montague.lit",
         .ok { address := "upload.montague.lit", features := [Version.legacy.namespaceName] }),
       ("files.montague.lit",
         .ok { address := "files.montague.lit", features := [Version.current.namespaceName] })] }

/-- The first service there is found, whatever was the default before. -/
theorem discover_first_campus :
    let service : UploadService := { address := "upload.montague.lit", version := .legacy }
    Tells (scripted campus) campus.server campus.items campus.info ∧
      Keeps (scripted campus) Rehearsal.service ∧
      ∀ r, ((discover campus.server).run (scripted campus) r).1 = true ∧
        ((discover campus.server).run (scripted campus) r).2.service = some service := by
  intro service
  refine ⟨tells_scripted campus _, keeps_scripted campus, fun r => ?_⟩
  obtain ⟨asked, found, hfirst, -, hresult, -, hcell, -⟩ :=
    discover_first (tells_scripted campus campus.server) (keeps_scripted campus) r
  have hfound : found = some service := by
    rw [hfirst.found_eq]
    decide
  rw [hfound] at hresult hcell
  exact ⟨hresult, hcell⟩

end Discovery

end SlotUpload
