import SlotUpload.Proofs.Discovery.Overlap

/-!
# SlotUpload.Proofs.Discovery.Reconnect

What a reconnect is worth while other operations are under way.  It forgets the default
service at once and then looks for another.  What is the default service after that was
found by a search all of whose questions were asked since (`FoundSince`), or else by a
search that was under way when the service was forgotten: nothing keeps its late result
from becoming the default.  So a reconnect is sure to last exactly if no other search is
under way when it begins (`reconnect_lasts_iff`).

The step that carries this tells where an operation can stand (`Stage`): one that looks
for a service waits for the items or for what an item tells, and is over as soon as it
sets the service.
-/

namespace SlotUpload.Discovery

/-! ## where an operation stands -/

/-- What an operation that looks for a service does when it knows whether there is one. -/
def Operation.ending : Operation → Bool → Job Unit
  | .reconnect server, false =>
    Job.query (.log
      { level := .warn
        message := "no upload service after reconnect"
        fields := [("server", server)] })
  | _, _ => pure ()

/-- What can be left of an operation. -/
inductive Stage (op : Operation) : Job Unit → Prop
  | ended : Stage op (.done ())
  | listing {server : String} (h : op.server? = some server) :
      Stage op (discover server >>= op.ending)
  | searching {server item : String} {items : List String} (h : op.server? = some server) :
      Stage op (search (item :: items) >>= op.ending)
  | uploading {rest : Job Unit} (h : op.server? = none) (hrest : rest.Asks Query.IsUpload) :
      Stage op rest

/-- An operation gets to where it can stand, and is over if it finds a service. -/
structure Settles (op : Operation) (a : Advance) : Prop where
  stage : Stage op a.rest
  ended : ∀ service, some service ∈ Turn.kept a.turns → a.rest.isDone

section

variable {op : Operation} {known : Option UploadService} {a : Advance} {t : Turn}

theorem Settles.of_ended (h : a.rest = .done ()) : Settles op a := by
  constructor
  · rw [h]
    exact .ended
  · intro _ _
    rw [h]
    rfl

/-- An operation that set nothing is settled wherever it stands. -/
theorem Settles.of_kept (hstage : Stage op a.rest) (h : Turn.kept a.turns = []) :
    Settles op a := by
  refine ⟨hstage, fun service hmem => ?_⟩
  rw [h] at hmem
  cases hmem

/-- After its search an operation has nothing to wait for. -/
theorem rest_advance_ending (b : Bool) : (advance known (op.ending b)).rest = .done () := by
  cases op <;> cases b <;> rfl

/-- And it leaves the default service alone then. -/
theorem service_advance_ending (b : Bool) :
    (advance known (op.ending b)).service = known := by
  cases op <;> cases b <;> rfl

/-- A search is over at the end of the items, or waits for what the next one tells. -/
theorem advance_search (items : List String) :
    (advance known (search items >>= op.ending)).rest = .done () ∨
      ∃ item later, items = item :: later ∧
        advance known (search items >>= op.ending) =
          { turns := [], service := known, rest := search items >>= op.ending } := by
  cases items with
  | nil => exact .inl (rest_advance_ending false)
  | cons item items => exact .inr ⟨item, items, rfl, rfl⟩

/-- Going through the items settles an operation, whatever was asked just before. -/
theorem settles_search {server : String} (h : op.server? = some server) (items : List String)
    (ts : List Turn) (hts : Turn.kept ts = [])
    (ha : a.rest = (advance known (search items >>= op.ending)).rest)
    (hturns : a.turns = ts ++ (advance known (search items >>= op.ending)).turns) :
    Settles op a := by
  rcases advance_search items with hdone | ⟨item, later, rfl, heq⟩
  · exact .of_ended (ha.trans hdone)
  · rw [heq] at ha hturns
    refine .of_kept (ha ▸ .searching h) ?_
    rw [hturns, List.append_nil, hts]

/-- A reconnect forgets the default service and then is a discovery. -/
theorem reconnect_eq (server : String) : reconnect server =
    .ask (.cache none) fun _ => discover server >>= (Operation.reconnect server).ending := by
  have hending : (fun found : Bool => (if !found then Job.query (.log
      { level := .warn
        message := "no upload service after reconnect"
        fields := [("server", server)] }) else pure () : Job Unit)) =
      (Operation.reconnect server).ending := by
    funext found
    cases found <;> rfl
  rw [← hending]
  rfl

/-- An upload settles: it sets no default service. -/
theorem Settles.of_isUpload {j : Job Unit} (hserver : op.server? = none)
    (hj : j.Asks Query.IsUpload) (h : j.Leads a.turns a.rest) : Settles op a :=
  .of_kept (.uploading hserver (hj.leads h))
    (Turn.kept_eq_nil (fun _ => id) (hj.of_mem_leads h))

theorem asks_discard {α : Type} {P : Query → Prop} {j : Job α} (h : j.Asks P) :
    (discard j : Job Unit).Asks P := h.bind fun _ => .pure _

/-- A reconnect forgets the default service, and then waits for the items. -/
theorem advance_reconnect (server : String) :
    advance known (Operation.reconnect server).job =
      { turns := [⟨.cache none, ()⟩]
        service := none
        rest := discover server >>= (Operation.reconnect server).ending } := by
  change advance known (reconnect server) = _
  rw [reconnect_eq]
  rfl

/-- An operation settles when it begins. -/
theorem settles_begun (op : Operation) : Settles op (advance known op.job) := by
  have hleads := leads_advance known op.job
  cases op with
  | discover server => exact .of_kept (.listing rfl) rfl
  | ensure server =>
      cases known with
      | none => exact .of_kept (.listing rfl) rfl
      | some service => exact .of_ended rfl
  | reconnect server =>
      rw [advance_reconnect]
      exact ⟨.listing rfl, fun _ h => by cases h with | tail _ h => cases h⟩
  | requestSlot => exact .of_isUpload rfl (asks_discard (Upload.requestSlot_asks _ _ _ _)) hleads
  | uploadStream =>
      exact .of_isUpload rfl (asks_discard (Upload.uploadStream_asks _ _ _ _ _)) hleads
  | uploadFile => exact .of_isUpload rfl (asks_discard (Upload.uploadFile_asks _ _ _)) hleads

/-- What is left of a search when an item tells about itself. -/
theorem answered_search (item : String) (items : List String) (info : DiscoInfo) :
    (search (item :: items) >>= op.ending).answered ⟨.info item, .ok info⟩ =
      some (match info.uploadService? with
        | none => search items >>= op.ending
        | some service => .ask (.log (foundEntry service)) fun _ =>
            .ask (.cache (some service)) fun _ => op.ending true) := by
  refine Job.answered_ask_eq_some_iff.2 ⟨_, rfl, ?_⟩
  change _ = (match info.uploadService? with
    | none => search items
    | some service => do
      Job.query (.log (foundEntry service))
      Job.query (.cache (some service))
      return true).bind op.ending
  cases info.uploadService? <;> rfl

/-- An operation settles when what it waits for is answered. -/
theorem Stage.settles {rest job : Job Unit} (h : Stage op rest)
    (hjob : rest.answered t = some job) :
    Settles op { advance known job with turns := t :: (advance known job).turns } := by
  have hleads := (Job.leads_answered hjob).trans (leads_advance known job)
  cases h with
  | ended => cases hjob
  | listing hserver =>
      obtain ⟨answer, rfl, rfl⟩ := Job.answered_ask_eq_some_iff.1 hjob
      cases answer with
      | error causes => exact .of_ended (rest_advance_ending false)
      | ok items => exact settles_search hserver items [_] rfl rfl rfl
  | searching hserver =>
      obtain ⟨answer, rfl, heq⟩ := Job.answered_ask_eq_some_iff.1 hjob
      cases answer with
      | error causes =>
          subst heq
          exact settles_search hserver _ [_, _] rfl rfl rfl
      | ok info =>
          obtain rfl := Option.some.inj (hjob.symm.trans (answered_search _ _ info))
          cases info.uploadService? with
          | none => exact settles_search hserver _ [_] rfl rfl rfl
          | some service => exact .of_ended (rest_advance_ending true)
  | uploading hserver hrest => exact .of_isUpload hserver hrest hleads

end

/-! ## a service to be found -/

/-- An upload service of a version, and what it tells about itself. -/
def capulet (version : Version) : UploadService := { address := "upload.capulet.lit", version }

def capuletInfo (version : Version) : DiscoInfo :=
  { address := "upload.capulet.lit", features := [version.namespaceName] }

/-- What the item tells makes it a service. -/
theorem uploadService?_capuletInfo :
    (capuletInfo .current).uploadService? = some (capulet .current) := by decide

/-- A call finds the service among the items of a server. -/
def capuletFound (call : Nat) (server : String) (version : Version) : List Step :=
  [.answer call ⟨.items server, .ok ["upload.capulet.lit"]⟩,
    .answer call ⟨.info "upload.capulet.lit", .ok (capuletInfo version)⟩]

/-! ## who set the default service -/

/-- Is a call looking for a service and not over? -/
def Call.looks (call : Call) : Bool := call.operation.server?.isSome && !call.rest.isDone

namespace Shared

variable {s s' : Shared} {i : Nat} {op : Operation} {a : Advance} {service : UploadService}

/-- The calls stand where operations can stand, and one that found a service is over. -/
structure Settled (s : Shared) : Prop extends Sound s where
  stage : ∀ (i : Nat) (call : Call), s.calls[i]? = some call → Stage call.operation call.rest
  ended : ∀ (i : Nat) (call : Call), s.calls[i]? = some call → ∀ service,
    some service ∈ Turn.kept (Event.turnsOf i s.events) → call.rest.isDone

/-- Nothing stands anywhere where nothing has begun. -/
theorem settled_new : Settled {} where
  toSound := sound_new
  stage _ _ h := absurd (List.getElem?_nil.symm.trans h) nofun
  ended _ _ h := absurd (List.getElem?_nil.symm.trans h) nofun

/-- However a call comes to get so far, it is settled then. -/
theorem Gets.settles (h : s.Gets i op a) (hs : s.Settled) : Settles op a := by
  cases h with
  | begun hi => exact settles_begun op
  | goesOn hrest hjob => exact (hs.stage i _ hrest).settles hjob

/-- A call that gets any further had not found a service. -/
theorem Gets.not_mem_kept (h : s.Gets i op a) (hs : s.Settled) :
    some service ∉ Turn.kept (Event.turnsOf i s.events) := by
  intro hmem
  have hlt : i < s.calls.length := by
    obtain ⟨t, ht, -⟩ := List.mem_filterMap.1 hmem
    exact hs.mentioned _ (Event.mem_turnsOf_iff.1 ht)
  have hcall := List.getElem?_eq_getElem hlt
  have hdone := hs.ended i _ hcall service hmem
  rw [(h.waited hcall).2] at hdone
  cases hdone

/-- A step keeps all calls settled. -/
theorem Moves.settled (h : s.Moves s' i op a) (hs : s.Settled) : s'.Settled where
  toSound := h.sound hs.toSound
  stage k call hcall := by
    by_cases hk : k = i
    · subst hk
      cases h.call.symm.trans hcall
      exact (h.gets.settles hs).stage
    · exact hs.stage k call (h.others k hk ▸ hcall)
  ended k call hcall service hmem := by
    rw [h.events, Event.turnsOf_append, Turn.kept_append] at hmem
    by_cases hk : k = i
    · subst hk
      cases h.call.symm.trans hcall
      rw [Advance.turnsOf_events] at hmem
      refine (h.gets.settles hs).ended service ?_
      exact (List.mem_append.1 hmem).resolve_left (h.gets.not_mem_kept hs)
    · rw [Advance.turnsOf_events_of_ne hk] at hmem
      exact hs.ended k call (h.others k hk ▸ hcall) service
        ((List.mem_append.1 hmem).resolve_right List.not_mem_nil)

/-- So all calls are settled all the time. -/
theorem Settled.run (hs : s.Settled) (steps : List Step) : (s.run steps).Settled :=
  run_induction Moves.settled hs steps

/-- Whoever made a service the default found it, by what it asked. -/
theorem Settled.discovered (hs : s.Settled) {call : Call} (hcall : s.calls[i]? = some call)
    (h : .took i ⟨.cache (some service), ()⟩ ∈ s.events) :
    ∃ server, call.operation.server? = some server ∧
      Discovered server (Turn.calls (Event.turnsOf i s.events)) (some service) := by
  have hmem : some service ∈ Turn.kept (Event.turnsOf i s.events) :=
    List.mem_filterMap.2 ⟨_, Event.mem_turnsOf_iff.2 h, rfl⟩
  have hdone := hs.ended i call hcall service hmem
  have hleads := hs.stands i call hcall
  obtain ⟨op, rest⟩ := call
  -- The call is over, so its turns are those of a whole operation.
  cases rest with
  | ask q next => cases hdone
  | done u =>
      obtain ⟨found, hwrites⟩ := Operation.writes hleads.takes
      have hfound : found = some service := by
        rw [hwrites.kept] at hmem
        rcases List.mem_append.1 hmem with hnone | hsome
        · split at hnone
          · cases List.mem_singleton.1 hnone
          · cases hnone
        · cases found with
          | none => cases hsome
          | some other => exact (List.mem_singleton.1 hsome).symm
      exact (hwrites.finds service).2 hfound

/-- A service that is the default after it was forgotten was made that since. -/
theorem exists_took_of_service {before after : List Event} {r : Nat} (hs : s.Sound)
    (hevents : s.events = before ++ .took r ⟨.cache none, ()⟩ :: after)
    (h : s.service = some service) : ∃ i, .took i ⟨.cache (some service), ()⟩ ∈ after := by
  have hkept : Turn.kept (Event.turns s.events) =
      Turn.kept (Event.turns before) ++ none :: Turn.kept (Event.turns after) := by
    rw [hevents, Event.turns_append, Turn.kept_append]
    rfl
  rw [hs.service_eq, Event.service, hkept, List.getLast?_append, List.getLast?_cons] at h
  cases hlast : (Turn.kept (Event.turns after)).getLast? with
  | none =>
      rw [hlast] at h
      cases h
  | some last =>
      rw [hlast] at h
      obtain rfl : last = some service := h
      obtain ⟨⟨q, answer⟩, ht, hq⟩ := List.mem_filterMap.1 (List.mem_of_getLast? hlast)
      obtain ⟨i, hi⟩ := Event.exists_took_of_mem_turns ht
      refine ⟨i, ?_⟩
      unfold Turn.kept? at hq
      split at hq
      · next heq =>
          cases heq
          cases hq
          exact hi
      · cases hq

/-! ## since a reconnect -/

/-- Among some events, the service was made the default after call `r` forgot the one
before, and found by a call that asked all its questions after that. -/
def FoundSince (events : List Event) (r : Nat) (service : UploadService) : Prop :=
  ∃ before after i server, events = before ++ .took r ⟨.cache none, ()⟩ :: after ∧
    .took i ⟨.cache (some service), ()⟩ ∈ after ∧ (∀ q, .asked i q ∉ before) ∧
    Discovered server (Turn.calls (Event.turnsOf i events)) (some service)

/-- A reconnect that starts forgets the default service and waits for the items. -/
theorem start_reconnect (s : Shared) (server : String) : s.start (.reconnect server) =
    { service := none
      calls := s.calls ++
        [⟨.reconnect server, discover server >>= (Operation.reconnect server).ending⟩]
      events := s.events ++ [.took s.calls.length ⟨.cache none, ()⟩,
        .asked s.calls.length (.items server)] } := by
  unfold start
  rw [advance_reconnect]
  rfl

/-- The default service was found since the reconnect began, or by a call that was looking
for a service then. -/
theorem Settled.foundSince_or_looks (hs : s.Settled) (server : String) (later : List Step)
    (h : (s.run (.start (.reconnect server) :: later)).service = some service) :
    let events := (s.run (.start (.reconnect server) :: later)).events
    FoundSince events s.calls.length service ∨ ∃ i call, s.calls[i]? = some call ∧ call.looks ∧
      ∃ server', Discovered server' (Turn.calls (Event.turnsOf i events)) (some service) := by
  have hs' := hs.run (.start (.reconnect server) :: later)
  obtain ⟨more, hsince⟩ := exists_since_run (s.start (.reconnect server)) later
  change Since _ (s.run (.start (.reconnect server) :: later)) more at hsince
  rw [start_reconnect] at hsince
  generalize s.run (.start (.reconnect server) :: later) = s' at h hs' hsince ⊢
  intro events
  have hevents : events = s.events ++ .took s.calls.length ⟨.cache none, ()⟩ ::
      (.asked s.calls.length (.items server) :: more) :=
    hsince.events.trans (List.append_assoc ..)
  obtain ⟨i, hi⟩ := exists_took_of_service hs'.toSound hevents h
  have hmem : .took i ⟨.cache (some service), ()⟩ ∈ s'.events := by
    change _ ∈ events
    rw [hevents]
    exact List.mem_append_right _ (.tail _ hi)
  have hlt : i < s'.calls.length := hs'.mentioned _ hmem
  have hcall := List.getElem?_eq_getElem hlt
  obtain ⟨server', hserver, hdiscovered⟩ := hs'.discovered hcall hmem
  -- A call that was there before went on since, so it was not over then.
  by_cases hr : i < s.calls.length
  · have hold := List.getElem?_eq_getElem hr
    obtain ⟨rest, hrest, hover⟩ :=
      hsince.calls i s.calls[i] ((List.getElem?_append_left hr).trans hold)
    refine .inr ⟨i, s.calls[i], hold, ?_, server', hdiscovered⟩
    have hnow : s'.calls[i] = ⟨s.calls[i].operation, rest⟩ :=
      Option.some.inj (hcall.symm.trans hrest)
    rw [hnow] at hserver
    rw [Call.looks, hserver, Option.isSome_some, Bool.true_and, Bool.not_eq_true']
    refine Bool.eq_false_iff.2 fun hdone => ?_
    have hmore : .took i ⟨.cache (some service), ()⟩ ∈ more := by
      cases hi with
      | tail _ h => exact h
    exact (hover hdone).2 _ hmore rfl
  · exact .inl ⟨s.events, _, i, server', hevents, hi,
      fun q hq => hr (hs.mentioned _ hq), hdiscovered⟩

/-! ## searches that end late -/

/-- A service that is made the default by calls alone that had asked something before is
not found since. -/
theorem not_foundSince {before after : List Event} {r : Nat}
    (hbefore : .took r ⟨.cache none, ()⟩ ∉ before) (hafter : .took r ⟨.cache none, ()⟩ ∉ after)
    (h : ∀ i, .took i ⟨.cache (some service), ()⟩ ∈ after → ∃ q, .asked i q ∈ before) :
    ¬ FoundSince (before ++ .took r ⟨.cache none, ()⟩ :: after) r service := by
  rintro ⟨before', after', i, server, heq, hi, hasked, -⟩
  obtain ⟨rfl, -, rfl⟩ := (List.append_cons_inj_of_notMem hbefore hafter).1 heq
  obtain ⟨q, hq⟩ := h i hi
  exact hasked q hq

/-- Call `i` alone got further, and made this service the default. -/
structure Finds (s s' : Shared) (i : Nat) (later : List Event) : Prop where
  service : s'.service = some (capulet .current)
  events : s'.events = s.events ++ later
  call : ∀ e ∈ later, e.call = i
  others : ∀ k, k ≠ i → s'.calls[k]? = s.calls[k]?

/-- A call that finds a service in a step makes it the default. -/
theorem Moves.finds (h : s.Moves s' i op a) (ha : a.service = some (capulet .current)) :
    Finds s s' i (a.events i) where
  service := h.service.trans ha
  events := h.events
  call _ he := Advance.call_of_mem_events he
  others := h.others

/-- A call may find it in a later step, too. -/
theorem Moves.finds_later {s'' : Shared} {later : List Event} (h : s.Moves s' i op a)
    (h' : Finds s' s'' i later) : Finds s s'' i (a.events i ++ later) where
  service := h'.service
  events := by rw [h'.events, h.events, List.append_assoc]
  call := List.forall_mem_append.2 ⟨fun _ => Advance.call_of_mem_events, h'.call⟩
  others k hk := (h'.others k hk).trans (h.others k hk)

/-- A search that waits for an item finds the service if the item tells of one. -/
theorem search_finds {item : String} {items : List String}
    (h : s.calls[i]? = some ⟨op, search (item :: items) >>= op.ending⟩) :
    ∃ later, Finds s (s.answer i ⟨.info item, .ok (capuletInfo .current)⟩) i later := by
  have hmoves := answer_moves h (answered_search item items (capuletInfo .current))
  refine ⟨_, hmoves.finds ?_⟩
  rw [uploadService?_capuletInfo]
  exact service_advance_ending true

/-- A call that looks for a service may find one yet. -/
theorem exists_finds {call : Call} (hcall : s.calls[i]? = some call)
    (hstage : Stage call.operation call.rest) (hlooks : call.looks) :
    ∃ steps later, Finds s (s.run steps) i later := by
  obtain ⟨op, rest⟩ := call
  obtain ⟨hserver, hdone⟩ := Bool.and_eq_true_iff.1 hlooks
  dsimp only at hstage hserver hdone
  cases hstage with
  | ended => cases hdone
  | uploading hnone _ =>
      rw [hnone] at hserver
      cases hserver
  | @searching server item items _ =>
      obtain ⟨later, hfinds⟩ := search_finds hcall
      exact ⟨[.answer i ⟨.info item, .ok (capuletInfo .current)⟩], later, hfinds⟩
  | @listing server _ =>
      let listed : Turn := ⟨.items server, .ok ["upload.capulet.lit"]⟩
      have hanswered : (discover server >>= op.ending).answered listed =
          some (search ["upload.capulet.lit"] >>= op.ending) :=
        Job.answered_ask_eq_some_iff.2 ⟨_, rfl, rfl⟩
      have hmoves := answer_moves hcall hanswered
      obtain ⟨later, hfinds⟩ := search_finds hmoves.call
      exact ⟨capuletFound i server .current, _, hmoves.finds_later hfinds⟩

/-- What a reconnect that cannot ask for the items does after it forgot the service. -/
def refusal (r : Nat) (server : String) : List Event :=
  [.asked r (.items server), .took r ⟨.items server, .error []⟩,
    .took r ⟨.log (failedEntry .debug "failed to discover items" server []), ()⟩,
    .took r ⟨.log
      { level := .warn
        message := "no upload service after reconnect"
        fields := [("server", server)] }, ()⟩]

/-- A reconnect that is refused the items ends without a default service. -/
theorem reconnect_refused (s : Shared) (server : String) :
    (s.start (.reconnect server)).answer s.calls.length ⟨.items server, .error []⟩ =
      { service := none
        calls := s.calls ++ [⟨.reconnect server, .done ()⟩]
        events := s.events ++
          .took s.calls.length ⟨.cache none, ()⟩ :: refusal s.calls.length server } := by
  have hcall : (s.start (.reconnect server)).calls[s.calls.length]? =
      some ⟨.reconnect server, discover server >>= (Operation.reconnect server).ending⟩ := by
    rw [start_reconnect]
    exact List.getElem?_concat_length
  have hset (call call' : Call) : (s.calls ++ [call]).set s.calls.length call' =
      s.calls ++ [call'] := by simp
  refine (answer_eq hcall (Job.answered_ask_eq_some_iff.2 ⟨_, rfl, rfl⟩)).trans ?_
  rw [start_reconnect]
  congr 1
  · exact hset _ _
  · exact List.append_assoc ..

/-- A call that is not over has asked for something. -/
theorem Sound.exists_asked (hs : s.Sound) {call : Call} (hcall : s.calls[i]? = some call)
    (h : call.rest.isDone = false) : ∃ q, .asked i q ∈ s.events := by
  obtain ⟨op, rest⟩ := call
  cases rest with
  | done u => cases h
  | ask q next => exact ⟨q, (hs.waits i op q next hcall).1⟩

/-- While a call looks for a service, a reconnect is not sure to last: it may find nothing
and return, and then the other one finds a service. -/
theorem Settled.exists_undone (hs : s.Settled) {call : Call} (hcall : s.calls[i]? = some call)
    (hlooks : call.looks) (server : String) :
    ∃ later, let s' := s.run (.start (.reconnect server) :: later)
      s'.returned s.calls.length ∧ s'.service = some (capulet .current) ∧
        ¬ FoundSince s'.events s.calls.length (capulet .current) := by
  have hlt : i < s.calls.length := (List.getElem?_eq_some_iff.1 hcall).1
  have hne : s.calls.length ≠ i := Nat.ne_of_gt hlt
  -- The reconnect is refused the items and returns; from there on only call `i` goes on.
  let refused : Shared :=
    { service := none
      calls := s.calls ++ [⟨.reconnect server, .done ()⟩]
      events := s.events ++
        .took s.calls.length ⟨.cache none, ()⟩ :: refusal s.calls.length server }
  obtain ⟨steps, later, hfinds⟩ := exists_finds (s := refused)
    ((List.getElem?_append_left hlt).trans hcall) (hs.stage i call hcall) hlooks
  refine ⟨.answer s.calls.length ⟨.items server, .error []⟩ :: steps, ?_⟩
  intro s'
  have hs' : s' = refused.run steps :=
    congrArg (fun before : Shared => before.run steps) (s.reconnect_refused server)
  rw [hs']
  refine ⟨?_, hfinds.service, ?_⟩
  · have hover : refused.calls[s.calls.length]? = some ⟨.reconnect server, .done ()⟩ :=
      List.getElem?_concat_length
    rw [returned, hfinds.others _ hne, hover]
    rfl
  · have hlate : ∀ k known, .took k ⟨.cache known, ()⟩ ∈ refusal s.calls.length server ++ later →
        k = i := fun k known h =>
      hfinds.call _ ((List.mem_append.1 h).resolve_left fun h => nomatch Event.mem_filterMap_set? h)
    have hevents : (refused.run steps).events = s.events ++
        .took s.calls.length ⟨.cache none, ()⟩ :: (refusal s.calls.length server ++ later) :=
      hfinds.events.trans (List.append_assoc ..)
    rw [hevents]
    refine not_foundSince (fun h => ?_) (fun h => hne (hlate _ _ h)) fun k hk => ?_
    · exact Nat.lt_irrefl _ (hs.mentioned _ h)
    · rw [hlate k _ hk]
      exact hs.exists_asked hcall (Bool.not_eq_true' _ ▸ (Bool.and_eq_true_iff.1 hlooks).2)

end Shared

/-- **A reconnect while other operations are under way**: whatever came before it and
whatever comes after, what is the default service then was found since it forgot the one
before, by a call that asked all its questions after that, or else by a call that was
looking for a service at that time.  So it is sure to be found since, whatever comes after,
exactly if no call was looking for a service. -/
theorem reconnect_lasts_iff (earlier : List Step) (server : String) :
    let s := Shared.run {} earlier
    (∀ later service, (s.run (.start (.reconnect server) :: later)).service = some service →
      let events := (s.run (.start (.reconnect server) :: later)).events
      Shared.FoundSince events s.calls.length service ∨
        ∃ i call, s.calls[i]? = some call ∧ call.looks ∧ ∃ server',
          Discovered server' (Turn.calls (Event.turnsOf i events)) (some service)) ∧
    ((∀ later service, let s' := s.run (.start (.reconnect server) :: later)
        s'.returned s.calls.length → s'.service = some service →
          Shared.FoundSince s'.events s.calls.length service) ↔
      ∀ call ∈ s.calls, ¬ call.looks) := by
  intro s
  have hs : s.Settled := Shared.settled_new.run earlier
  refine ⟨fun later service => hs.foundSince_or_looks server later, ?_, ?_⟩
  · intro hlasts call hmem hlooks
    obtain ⟨i, hi⟩ := List.mem_iff_getElem?.1 hmem
    obtain ⟨later, hreturned, hservice, hnot⟩ := hs.exists_undone hi hlooks server
    exact hnot (hlasts later _ hreturned hservice)
  · intro hnone later service s' _ hservice
    refine (hs.foundSince_or_looks server later hservice).resolve_right ?_
    rintro ⟨i, call, hcall, hlooks, -⟩
    exact hnone call (List.mem_of_getElem? hcall) hlooks

/-- A reconnect after a discovery that has ended, while a slot is requested from what that one
found. -/
theorem reconnect_lasts_beside_request :
    let earlier := .start (.discover "capulet.lit") :: capuletFound 0 "capulet.lit" .legacy ++
      [.start (.requestSlot "photo.jpg" 1000 none none)]
    let later := capuletFound 2 "capulet.lit" .current
    let s := Shared.run {} earlier
    let s' := s.run (.start (.reconnect "capulet.lit") :: later)
    s.service = some (capulet .legacy) ∧ s.returned 0 ∧ ¬ s.returned 1 ∧ s'.returned 2 ∧
      s'.service = some (capulet .current) ∧ Shared.FoundSince s'.events 2 (capulet .current) := by
  intro earlier later s s'
  have hnone : ∀ call ∈ s.calls, ¬ call.looks := by
    have hall : s.calls.all (!·.looks) := rfl
    intro call hmem
    simpa using List.all_eq_true.1 hall call hmem
  have hreturned : s'.returned s.calls.length := rfl
  have hservice : s'.service = some (capulet .current) := rfl
  exact ⟨rfl, rfl, nofun, hreturned, hservice,
    (reconnect_lasts_iff earlier "capulet.lit").2.2 hnone later _ hreturned hservice⟩

/-- A discovery asks the items before the reconnect and ends after it: what the session told
it before is the default again. -/
theorem not_forall_foundSince :
    ¬ ∀ (earlier : List Step) (server : String) (later : List Step) (service : UploadService),
      let s := Shared.run {} earlier
      let s' := s.run (.start (.reconnect server) :: later)
      s'.returned s.calls.length → s'.service = some service →
        Shared.FoundSince s'.events s.calls.length service := by
  intro hall
  let listed : Turn := ⟨.items "capulet.lit", .ok ["upload.capulet.lit"]⟩
  let told (version : Version) : Turn := ⟨.info "upload.capulet.lit", .ok (capuletInfo version)⟩
  let before : List Event :=
    [.asked 0 (.items "capulet.lit"), .took 0 listed, .asked 0 (.info "upload.capulet.lit")]
  let after : List Event :=
    [.asked 1 (.items "capulet.lit"), .took 1 listed, .asked 1 (.info "upload.capulet.lit"),
      .took 1 (told .current), .took 1 ⟨.log (foundEntry (capulet .current)), ()⟩,
      .took 1 ⟨.cache (some (capulet .current)), ()⟩,
      .took 0 (told .legacy), .took 0 ⟨.log (foundEntry (capulet .legacy)), ()⟩,
      .took 0 ⟨.cache (some (capulet .legacy)), ()⟩]
  let late : Step := .answer 0 (told .legacy)
  have hsince : Shared.FoundSince (before ++ .took 1 ⟨.cache none, ()⟩ :: after) 1
      (capulet .legacy) :=
    hall [.start (.discover "capulet.lit"), .answer 0 listed] "capulet.lit"
      (capuletFound 1 "capulet.lit" .current ++ [late]) (capulet .legacy) rfl rfl
  have hbefore : before.filterMap Event.set? = [] := rfl
  have hafter : after.filterMap Event.set? =
      [(1, some (capulet .current)), (0, some (capulet .legacy))] := rfl
  refine Shared.not_foundSince (fun h => ?_) (fun h => ?_) (fun i h => ?_) hsince
  · exact nomatch hbefore ▸ Event.mem_filterMap_set? h
  · exact absurd (hafter ▸ Event.mem_filterMap_set? h) (by decide)
  · have hi := hafter ▸ Event.mem_filterMap_set? h
    obtain rfl : i = 0 := by simpa [capulet] using hi
    exact ⟨_, .head _⟩

end SlotUpload.Discovery
