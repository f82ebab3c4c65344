import SlotUpload.Facade.Registry

/-!
# SlotUpload.Proofs.Facade.Errand

What is done with a registry, and what happens to it then.  `Runs` says which moments a
command comes to, an errand, or telling the listeners that are left: an addition and a
removal make one moment each, which has the answer in it; sending a notice makes all from its
beginning, when the roster is its snapshot, up to its end, with a moment for each listener of
the snapshot and everything that this listener does then in between.

A registry runs in just this way, to the end or to a notice that would go too deep
(`realizes_fire`), and it comes to every end that there is, if it may go deep enough
(`Runs.exists_depth`).
-/

namespace SlotUpload

/-! ## moments -/

/-- What becomes of the roster: a listener is added exactly if it was not there, and goes to
the end; one is removed exactly if it was there, and the others keep their order. -/
def RegistryMoment.Follows (m : RegistryMoment) (before : Roster String) : Prop :=
  match m.event with
  | .added _ target changed =>
    (changed ↔ target ∉ before) ∧ m.roster = if changed then before ++ [target] else before
  | .removed _ target changed =>
    (changed ↔ target ∈ before) ∧ m.roster = if changed then before.filter (· ≠ target) else before
  | _ => m.roster = before

section Follows

variable {actor : Option String} {target : String} {changed : Bool} {before roster : Roster String}

/-- What should become of a roster is what adding makes of it. -/
theorem follows_added_iff : RegistryMoment.Follows ⟨.added actor target changed, roster⟩ before ↔
    (changed, roster) = before.add target := by
  unfold Roster.add
  by_cases hmem : target ∈ before <;> cases changed <;> simp [RegistryMoment.Follows, hmem]

/-- What should become of a roster is what removing makes of it. -/
theorem follows_removed_iff :
    RegistryMoment.Follows ⟨.removed actor target changed, roster⟩ before ↔
      (changed, roster) = before.remove target := by
  unfold Roster.remove
  by_cases hmem : target ∈ before <;> cases changed <;> simp [RegistryMoment.Follows, hmem]

end Follows

namespace Registry

/-- Who is registered when all this has happened. -/
def rosterAfter (ms : List RegistryMoment) : Roster String :=
  (ms.getLast?.map (·.roster)).getD []

/-- The registry to which all this has happened. -/
def ofMoments (ms : List RegistryMoment) : Registry := { roster := rosterAfter ms, moments := ms }

/-- Something happened while the roster stayed as it was. -/
def note (ms : List RegistryMoment) (event : RegistryEvent) : List RegistryMoment :=
  ms ++ [⟨event, rosterAfter ms⟩]

@[simp] theorem rosterAfter_concat (ms : List RegistryMoment) (m : RegistryMoment) :
    rosterAfter (ms ++ [m]) = m.roster := by
  simp [rosterAfter]

/-- To record something is to have one more moment. -/
@[simp] theorem ofMoments_record (ms : List RegistryMoment) (event : RegistryEvent) :
    (ofMoments ms).record event = ofMoments (note ms event) := by
  simp [record, ofMoments, note]

/-- What a registry answers, and the moment at which it does. -/
structure Answered (r : Registry) (event : Bool → RegistryEvent) (answer : Bool × Registry) :
    Prop where
  moments_eq : answer.2.moments = r.moments ++ [⟨event answer.1, answer.2.roster⟩]
  follows : RegistryMoment.Follows ⟨event answer.1, answer.2.roster⟩ r.roster

/-- An addition is answered as it should be, at one moment. -/
theorem answered_add (r : Registry) (actor : Option String) (target : String) :
    Answered r (.added actor target) (r.add actor target) :=
  ⟨rfl, follows_added_iff.2 rfl⟩

/-- So is a removal. -/
theorem answered_remove (r : Registry) (actor : Option String) (target : String) :
    Answered r (.removed actor target) (r.remove actor target) :=
  ⟨rfl, follows_removed_iff.2 rfl⟩

/-- A registry that has answered is the one to which all this has happened. -/
theorem Answered.eq_ofMoments {r : Registry} {event : Bool → RegistryEvent}
    {answer : Bool × Registry} (h : Answered r event answer) :
    answer.2 = ofMoments (r.moments ++ [⟨event answer.1, answer.2.roster⟩]) := by
  calc answer.2 = ⟨answer.2.roster, answer.2.moments⟩ := rfl
    _ = _ := by rw [h.moments_eq, ofMoments, rosterAfter_concat]

/-! ## what is done -/

/-- What is done with a registry: an errand is run or a command obeyed, or the listeners that
are left are told of a notice. -/
inductive Deed
  | errand (actor : Option String) (errand : Errand)
  | command (actor : Option String) (command : RegistryCommand)
  | telling (sending : Nat) (notice : Notice) (rest : List String)

/-- What happens when something is done, given what happened before: all up to its end, or up
to where it stops because a notice would go too deep. -/
inductive Runs (manners : Manners) :
    Deed → List RegistryMoment → Except (List RegistryMoment) (List RegistryMoment) → Prop
  | add {ms : List RegistryMoment} {roster : Roster String} {actor : Option String}
    {target : String} {changed : Bool} :
    RegistryMoment.Follows ⟨.added actor target changed, roster⟩ (rosterAfter ms) →
    Runs manners (.command actor (.add target)) ms
      (.ok (ms ++ [⟨.added actor target changed, roster⟩]))
  | remove {ms : List RegistryMoment} {roster : Roster String} {actor : Option String}
    {target : String} {changed : Bool} :
    RegistryMoment.Follows ⟨.removed actor target changed, roster⟩ (rosterAfter ms) →
    Runs manners (.command actor (.remove target)) ms
      (.ok (ms ++ [⟨.removed actor target changed, roster⟩]))
  /-- A sending goes by the moment when it begins, and tells those who are registered then. -/
  | fire {ms ms' : List RegistryMoment} {actor : Option String} {notice : Notice} :
    Runs manners (.telling ms.length notice (rosterAfter ms)) (note ms (.began actor notice))
      (.ok ms') →
    Runs manners (.command actor (.fire notice)) ms (.ok (note ms' (.ended ms.length)))
  | fireStops {ms ms' : List RegistryMoment} {actor : Option String} {notice : Notice} :
    Runs manners (.telling ms.length notice (rosterAfter ms)) (note ms (.began actor notice))
      (.error ms') →
    Runs manners (.command actor (.fire notice)) ms (.error ms')
  | tooDeep {ms : List RegistryMoment} {actor : Option String} {notice : Notice} :
    Runs manners (.command actor (.fire notice)) ms (.error ms)
  | done {ms : List RegistryMoment} {actor : Option String} :
    Runs manners (.errand actor .done) ms (.ok ms)
  /-- How an errand goes on may depend on all that happened. -/
  | step {ms ms' : List RegistryMoment}
    {out : Except (List RegistryMoment) (List RegistryMoment)} {actor : Option String}
    {command : RegistryCommand} {next : List RegistryMoment → Errand} :
    Runs manners (.command actor command) ms (.ok ms') →
    Runs manners (.errand actor (next ms')) ms' out →
    Runs manners (.errand actor (.step command next)) ms out
  | stepStops {ms ms' : List RegistryMoment} {actor : Option String} {command : RegistryCommand}
    {next : List RegistryMoment → Errand} :
    Runs manners (.command actor command) ms (.error ms') →
    Runs manners (.errand actor (.step command next)) ms (.error ms')
  | allTold {ms : List RegistryMoment} {sending : Nat} {notice : Notice} :
    Runs manners (.telling sending notice []) ms (.ok ms)
  /-- A listener does all that it does before the next one is told. -/
  | tell {ms ms' : List RegistryMoment}
    {out : Except (List RegistryMoment) (List RegistryMoment)} {sending : Nat} {notice : Notice}
    {listener : String} {rest : List String} :
    Runs manners (.errand (some listener)
      (manners (note ms (.told sending listener notice)) listener notice))
      (note ms (.told sending listener notice)) (.ok ms') →
    Runs manners (.telling sending notice rest) ms' out →
    Runs manners (.telling sending notice (listener :: rest)) ms out
  | tellStops {ms ms' : List RegistryMoment} {sending : Nat} {notice : Notice} {listener : String}
    {rest : List String} :
    Runs manners (.errand (some listener)
      (manners (note ms (.told sending listener notice)) listener notice))
      (note ms (.told sending listener notice)) (.error ms') →
    Runs manners (.telling sending notice (listener :: rest)) ms (.error ms')

/-- Telling a listener records that it is told, and then runs what it does. -/
theorem tell_ofMoments (send : Option String → Notice → Registry → Except Registry Registry)
    (manners : Manners) (sending : Nat) (notice : Notice) (ms : List RegistryMoment)
    (listener : String) : tell send manners sending notice (ofMoments ms) listener =
      perform send (some listener)
        (manners (note ms (.told sending listener notice)) listener notice)
        (ofMoments (note ms (.told sending listener notice))) := by
  rw [tell, ofMoments_record]
  rfl

/-- Sending a notice, from its beginning to its end. -/
theorem fire_succ (manners : Manners) (depth : Nat) (actor : Option String) (notice : Notice)
    (ms : List RegistryMoment) : Registry.fire manners (depth + 1) actor notice (ofMoments ms) =
      (rosterAfter ms).foldlM (tell (Registry.fire manners depth) manners ms.length notice)
        (ofMoments (note ms (.began actor notice))) >>= fun r =>
          .ok (r.record (.ended ms.length)) := by
  rw [Registry.fire, ofMoments_record]
  rfl

/-- The registry that is left, at an end or where all stops. -/
def kept : Except (List RegistryMoment) (List RegistryMoment) → Except Registry Registry
  | .ok ms => .ok (ofMoments ms)
  | .error ms => .error (ofMoments ms)

/-! ## registries run in this way -/

/-- What is left comes of doing this. -/
def Realizes (manners : Manners) (deed : Deed) (ms : List RegistryMoment)
    (x : Except Registry Registry) : Prop :=
  ∃ out, x = kept out ∧ Runs manners deed ms out

section Realizes

variable {manners : Manners} {send : Option String → Notice → Registry → Except Registry Registry}

/-- What has come to its end ran to it. -/
theorem Realizes.exists_runs {deed : Deed} {ms : List RegistryMoment} {r : Registry}
    (h : Realizes manners deed ms (.ok r)) :
    ∃ ms', r = ofMoments ms' ∧ Runs manners deed ms (.ok ms') := by
  obtain ⟨out, hout, hruns⟩ := h
  cases out with
  | error ms' => cases hout
  | ok ms' => exact ⟨ms', Except.ok.inj hout, hruns⟩

/-- A command is obeyed as it should be, if notices are sent so. -/
theorem realizes_obey
    (hsend : ∀ actor notice ms,
      Realizes manners (.command actor (.fire notice)) ms (send actor notice (ofMoments ms)))
    (actor : Option String) (command : RegistryCommand) (ms : List RegistryMoment) :
    Realizes manners (.command actor command) ms (obey send actor command (ofMoments ms)) := by
  cases command with
  | add target =>
      have hadd := answered_add (ofMoments ms) actor target
      exact ⟨.ok _, congrArg Except.ok hadd.eq_ofMoments, .add hadd.follows⟩
  | remove target =>
      have hremove := answered_remove (ofMoments ms) actor target
      exact ⟨.ok _, congrArg Except.ok hremove.eq_ofMoments, .remove hremove.follows⟩
  | fire notice => exact hsend actor notice ms

/-- So is an errand run, by induction on its steps. -/
theorem realizes_perform
    (hsend : ∀ actor notice ms,
      Realizes manners (.command actor (.fire notice)) ms (send actor notice (ofMoments ms)))
    (actor : Option String) (errand : Errand) (ms : List RegistryMoment) :
    Realizes manners (.errand actor errand) ms (perform send actor errand (ofMoments ms)) := by
  induction errand generalizing ms with
  | done => exact ⟨.ok ms, rfl, .done⟩
  | step command next ih =>
      obtain ⟨out, hout, hruns⟩ := realizes_obey hsend actor command ms
      rw [perform, hout]
      cases out with
      | error ms' => exact ⟨.error ms', rfl, .stepStops hruns⟩
      | ok ms' =>
          obtain ⟨out, hout, hrest⟩ := ih ms' ms'
          exact ⟨out, hout, .step hruns hrest⟩

/-- And so are the listeners told, by induction on those who are left. -/
theorem realizes_foldlM_tell
    (hsend : ∀ actor notice ms,
      Realizes manners (.command actor (.fire notice)) ms (send actor notice (ofMoments ms)))
    (sending : Nat) (notice : Notice) (rest : List String) (ms : List RegistryMoment) :
    Realizes manners (.telling sending notice rest) ms
      (rest.foldlM (tell send manners sending notice) (ofMoments ms)) := by
  induction rest generalizing ms with
  | nil => exact ⟨.ok ms, rfl, .allTold⟩
  | cons listener rest ih =>
      obtain ⟨out, hout, hruns⟩ := realizes_perform hsend (some listener)
        (manners (note ms (.told sending listener notice)) listener notice)
        (note ms (.told sending listener notice))
      rw [List.foldlM_cons, tell_ofMoments, hout]
      cases out with
      | error ms' => exact ⟨.error ms', rfl, .tellStops hruns⟩
      | ok ms' =>
          obtain ⟨out, hout, hrest⟩ := ih ms'
          exact ⟨out, hout, .tell hruns hrest⟩

/-- Sending a notice tells those who are registered when it begins. -/
theorem realizes_fire (manners : Manners) (depth : Nat) (actor : Option String) (notice : Notice)
    (ms : List RegistryMoment) : Realizes manners (.command actor (.fire notice)) ms
      (Registry.fire manners depth actor notice (ofMoments ms)) := by
  induction depth generalizing actor notice ms with
  | zero => exact ⟨.error ms, rfl, .tooDeep⟩
  | succ depth ih =>
      obtain ⟨out, hout, hruns⟩ := realizes_foldlM_tell ih ms.length notice (rosterAfter ms)
        (note ms (.began actor notice))
      rw [fire_succ, hout]
      cases out with
      | error ms' => exact ⟨.error ms', rfl, .fireStops hruns⟩
      | ok ms' => exact ⟨.ok _, congrArg Except.ok (ofMoments_record _ _), .fire hruns⟩

end Realizes

/-! ## how deep notices go -/

/-- Where the one comes to an end, the other comes to the same. -/
def Matches (x y : Except Registry Registry) : Prop := ∀ r, x = .ok r → y = .ok r

/-- Does what is to be done; notices inside notices may go `depth` deep. -/
def execute (manners : Manners) (depth : Nat) : Deed → Registry → Except Registry Registry
  | .errand actor errand, r => perform (fire manners depth) actor errand r
  | .command actor command, r => obey (fire manners depth) actor command r
  | .telling sending notice rest, r =>
    rest.foldlM (tell (fire manners depth) manners sending notice) r

section Depth

variable {x y : Except Registry Registry}
  {send send' : Option String → Notice → Registry → Except Registry Registry} {manners : Manners}

/-- What follows the same end comes to the same. -/
theorem Matches.bind {f g : Registry → Except Registry Registry} (hxy : Matches x y)
    (hfg : ∀ r, Matches (f r) (g r)) : Matches (x >>= f) (y >>= g) := by
  intro r hr
  cases x with
  | error r' => cases hr
  | ok r' =>
      rw [hxy r' rfl]
      exact hfg r' r hr

/-- What matches for each listener matches for all of them. -/
theorem Matches.foldlM {f g : Registry → String → Except Registry Registry}
    (hfg : ∀ r listener, Matches (f r listener) (g r listener)) (listeners : List String)
    (r : Registry) : Matches (listeners.foldlM f r) (listeners.foldlM g r) := by
  induction listeners generalizing r with
  | nil => exact fun _ => id
  | cons listener listeners ih =>
      rw [List.foldlM_cons, List.foldlM_cons]
      exact (hfg r listener).bind ih

/-- A command comes to the same end if notices do. -/
theorem matches_obey
    (hsend : ∀ actor notice r, Matches (send actor notice r) (send' actor notice r))
    (actor : Option String) (command : RegistryCommand) (r : Registry) :
    Matches (obey send actor command r) (obey send' actor command r) := by
  cases command with
  | add listener | remove listener => exact fun _ => id
  | fire notice => exact hsend actor notice r

/-- So does an errand. -/
theorem matches_perform
    (hsend : ∀ actor notice r, Matches (send actor notice r) (send' actor notice r))
    (actor : Option String) (errand : Errand) (r : Registry) :
    Matches (perform send actor errand r) (perform send' actor errand r) := by
  induction errand generalizing r with
  | done => exact fun _ => id
  | step command next ih =>
      exact (matches_obey hsend actor command r).bind fun r' => ih r'.moments r'

/-- A notice that is sent to its end is sent in the same way if others may go deeper. -/
theorem matches_fire {depth deeper : Nat} (h : depth ≤ deeper) (actor : Option String)
    (notice : Notice) (r : Registry) :
    Matches (fire manners depth actor notice r) (fire manners deeper actor notice r) := by
  induction depth generalizing deeper actor notice r with
  | zero => exact nofun
  | succ depth ih =>
      obtain ⟨deeper, rfl⟩ := Nat.exists_eq_succ_of_ne_zero (Nat.ne_zero_of_lt h)
      have hsend := ih (Nat.le_of_succ_le_succ h)
      have htell : ∀ told listener,
          Matches (tell (fire manners depth) manners r.moments.length notice told listener)
            (tell (fire manners deeper) manners r.moments.length notice told listener) :=
        fun _ _ => matches_perform hsend _ _ _
      exact (Matches.foldlM htell _ _).bind fun _ _ => id

/-- What comes to an end comes to the same if notices may go deeper. -/
theorem matches_execute {depth deeper : Nat} (h : depth ≤ deeper) (deed : Deed) (r : Registry) :
    Matches (execute manners depth deed r) (execute manners deeper deed r) := by
  cases deed with
  | errand actor errand => exact matches_perform (matches_fire h) actor errand r
  | command actor command => exact matches_obey (matches_fire h) actor command r
  | telling sending notice rest =>
      exact Matches.foldlM (fun _ _ => matches_perform (matches_fire h) _ _ _) rest r

end Depth

/-- One depth is enough for two things that are done one after the other. -/
theorem exists_depth_both {manners : Manners} {deed deed' : Deed}
    {ms ms' : List RegistryMoment} {r r' : Registry}
    (h : ∃ depth, execute manners depth deed (ofMoments ms) = .ok r)
    (h' : ∃ depth, execute manners depth deed' (ofMoments ms') = .ok r') :
    ∃ depth, execute manners depth deed (ofMoments ms) = .ok r ∧
      execute manners depth deed' (ofMoments ms') = .ok r' := by
  obtain ⟨depth, h⟩ := h
  obtain ⟨depth', h'⟩ := h'
  exact ⟨max depth depth', matches_execute (Nat.le_max_left _ _) deed _ r h,
    matches_execute (Nat.le_max_right _ _) deed' _ r' h'⟩

/-- **Every end is come to**, if notices may go deep enough. -/
theorem Runs.exists_depth {manners : Manners} {deed : Deed} {ms ms' : List RegistryMoment}
    (h : Runs manners deed ms (.ok ms')) :
    ∃ depth, execute manners depth deed (ofMoments ms) = .ok (ofMoments ms') := by
  generalize hout : Except.ok ms' = out at h
  induction h generalizing ms' with
  | @add ms _ actor target _ hfollows =>
      cases hout
      refine ⟨0, congrArg Except.ok ?_⟩
      obtain ⟨rfl, rfl⟩ := Prod.mk.inj (follows_added_iff.1 hfollows)
      exact (answered_add (ofMoments ms) actor target).eq_ofMoments
  | @remove ms _ actor target _ hfollows =>
      cases hout
      refine ⟨0, congrArg Except.ok ?_⟩
      obtain ⟨rfl, rfl⟩ := Prod.mk.inj (follows_removed_iff.1 hfollows)
      exact (answered_remove (ofMoments ms) actor target).eq_ofMoments
  | fire _ ih =>
      cases hout
      obtain ⟨depth, htold⟩ := ih rfl
      refine ⟨depth + 1, ?_⟩
      simp only [execute] at htold ⊢
      rw [obey, fire_succ, htold]
      exact congrArg Except.ok (ofMoments_record _ _)
  | step _ _ ihcommand ihrest =>
      obtain ⟨depth, hcommand, hrest⟩ := exists_depth_both (ihcommand rfl) (ihrest hout)
      refine ⟨depth, ?_⟩
      simp only [execute] at hcommand hrest ⊢
      rw [perform, hcommand]
      exact hrest
  | tell _ _ ihtold ihrest =>
      obtain ⟨depth, htold, hrest⟩ := exists_depth_both (ihtold rfl) (ihrest hout)
      refine ⟨depth, ?_⟩
      simp only [execute] at htold hrest ⊢
      rw [List.foldlM_cons, tell_ofMoments, htold]
      exact hrest
  | done | allTold =>
      cases hout
      exact ⟨0, rfl⟩
  | fireStops | tooDeep | stepStops | tellStops => cases hout

end Registry

end SlotUpload
