import OlapSynthesis.Proofs.Registry.Sharing

namespace OlapSynthesis
open Session (Step Fault Answer)

/-- What steps do to which store through handles that are held already. -/
def History.ofHandles (stores : Dictionary String) : List Step → History
  | [] => []
  | .onHandle label step :: steps =>
    match stores.get? label with
    | some store => .ofChanges store step.changes ++ ofHandles stores steps
    | none => ofHandles stores steps
  | .drop label :: steps => ofHandles (stores.erase label) steps
  | .onRegistry _ :: steps | .same _ _ :: steps => ofHandles stores steps

namespace Session

theorem runAll_append (run : σ → Step → Except Fault (Answer × σ)) (earlier later : List Step)
    (state : σ) : runAll run (earlier ++ later) state =
      ((runAll run earlier state).1 ++ (runAll run later (runAll run earlier state).2).1,
        (runAll run later (runAll run earlier state).2).2) := by
  induction earlier generalizing state with
  | nil => rfl
  | cons step earlier ih =>
    rw [List.cons_append, runAll, runAll]
    cases run state step with
    | ok outcome =>
      obtain ⟨answer, next⟩ := outcome
      simp only [ih next]
      rfl
    | error fault =>
      simp only [ih state]
      rfl

theorem MirrorsBy.store_of_label {session : Session} {journal : Journal}
    (mirrors : MirrorsBy session.registry.get? session journal) {label store : String}
    {handle : Handle} (hhandle : session.handle? label = some handle)
    (hget : session.registry.get? store = some handle) :
    journal.stores.get? label = some store := by
  obtain ⟨store', hstore, hcell⟩ := mirrors.linked.store_of_handle hhandle
  rw [hstore, mirrors.separate hget hcell]

theorem length_runAll (run : σ → Step → Except Fault (Answer × σ)) (steps : List Step)
    (state : σ) : (runAll run steps state).1.length = steps.length := by
  induction steps generalizing state with
  | nil => rfl
  | cons step steps ih =>
    rw [runAll]
    cases run state step with
    | ok outcome => exact congrArg (· + 1) (ih _)
    | error fault => exact congrArg (· + 1) (ih _)

theorem runAll_drop (session : Session) (labels : List String) :
    (runAll Session.run (labels.map .drop) session).2.registry = session.registry ∧
      (runAll Session.run (labels.map .drop) session).2.frozen = session.frozen := by
  induction labels generalizing session with
  | nil => exact ⟨rfl, rfl⟩
  | cons label labels ih =>
    exact ih { session with names := session.names.erase label }

theorem run_freeze {session : Session} (h : session.frozen = false) :
    ∃ frozen, session.run (.onRegistry .freeze) =
      .ok (.cubes (session.registry.freeze session.holds).1, frozen) := by
  rw [run, h]
  exact ⟨_, rfl⟩

/-- A snapshot shows the cube that the journal tells of the store that the label is for. -/
theorem Mirrors.run_snapshot {session : Session} {journal : Journal}
    (mirrors : session.Mirrors journal) {label store : String}
    (h : journal.stores.get? label = some store) :
    session.run (.onHandle label .snapshot) = .ok (.cube (journal.cube store), session) := by
  obtain ⟨cellOf, mirrors⟩ := mirrors
  obtain ⟨handle, hname, hcell⟩ := mirrors.linked.handle_of_store h
  simp only [Session.run, handle?, hname, mirrors.reads h hcell]
  rfl

end Session

namespace Journal

variable (journal : Journal)

/-- Once frozen, a step is written down only if it is made through a handle. -/
theorem after_of_frozen (h : journal.frozen = true) (step : Step) (steps : List Step) :
    let next := Session.after Journal.run journal step
    next.frozen = true ∧
    next.history ++ .ofHandles next.stores steps =
      journal.history ++ .ofHandles journal.stores (step :: steps) ∧
    ∀ label, step ≠ .drop label → next.stores.get? label = journal.stores.get? label := by
  intro next
  cases step with
  | onRegistry step =>
    have hnext : next = journal := by
      simp only [next, Session.after, run, h]
      rfl
    rw [hnext]
    exact ⟨h, rfl, fun _ _ => rfl⟩
  | onHandle label step =>
    have hnext : next = _ := journal.after_onHandle label step
    rw [hnext, History.ofHandles]
    cases journal.stores.get? label with
    | none => exact ⟨h, rfl, fun _ _ => rfl⟩
    | some store => exact ⟨h, List.append_assoc _ _ _, fun _ _ => rfl⟩
  | same label other =>
    have hnext : next = journal := journal.after_same label other
    rw [hnext]
    exact ⟨h, rfl, fun _ _ => rfl⟩
  | drop label =>
    refine ⟨h, rfl, fun other hother => (Dictionary.get?_erase _ _ _).trans (if_neg ?_)⟩
    rintro rfl
    exact hother rfl

/-- Once frozen, a run adds to the history what is done through handles, and a label that is not
dropped keeps its store. -/
theorem runAll_of_frozen (h : journal.frozen = true) (steps : List Step) :
    let last := (Session.runAll Journal.run steps journal).2
    last.history = journal.history ++ .ofHandles journal.stores steps ∧
    ∀ label, Step.drop label ∉ steps → last.stores.get? label = journal.stores.get? label := by
  rw [Session.runAll_snd]
  induction steps generalizing journal with
  | nil => exact ⟨(List.append_nil _).symm, fun _ _ => rfl⟩
  | cons step steps ih =>
    obtain ⟨hfrozen, hhistory, hstores⟩ := journal.after_of_frozen h step steps
    obtain ⟨hlast, hkept⟩ := ih _ hfrozen
    refine ⟨hlast.trans hhistory, fun label hdrop => ?_⟩
    obtain ⟨hstep, hsteps⟩ := not_or.mp (List.mem_cons.not.mp hdrop)
    exact (hkept label hsteps).trans (hstores label (Ne.symm hstep))

theorem runAll_freeze (h : journal.frozen = false) (later : List Step) :
    let last := (Session.runAll Journal.run (.onRegistry .freeze :: later) journal).2
    last.history = journal.history ++ .ofHandles journal.stores later ∧
    ∀ label, Step.drop label ∉ later → last.stores.get? label = journal.stores.get? label := by
  have hfreeze : journal.run (.onRegistry .freeze) =
      .ok (.cubes journal.cubes, { journal with frozen := true }) := by
    rw [run, h]
    rfl
  rw [Session.runAll, hfreeze]
  exact runAll_of_frozen { journal with frozen := true } rfl later

end Journal

open Session in
/-- Freezing gives every store that has a cube, and no other, the cube that it has at that moment.
It gives the same cubes whichever handles are in use, and whichever are dropped first. Later steps
find them unchanged. A handle that is left leads to the cube its store was frozen with and all that
was done since then through handles for that store, and through no others. -/
theorem freeze_exact_and_final {steps : List Step} (unfrozen : Step.onRegistry .freeze ∉ steps) :
    let session := (runAll Session.run steps .fresh).2
    let stores := (runAll Journal.run steps .blank).2.stores
    ∃ cubes : Dictionary Cube,
      cubes.keys = session.registry.handles.keys ∧
      (∀ store handle, session.registry.get? store = some handle →
        ∃ cube, session.registry.read? handle = some cube ∧ cubes.get? store = some cube) ∧
      (∀ inUse, (session.registry.freeze inUse).1 = cubes) ∧
      (∀ dropped : List String, ∃ frozen,
        (runAll Session.run (dropped.map .drop) session).2.run (.onRegistry .freeze) =
          .ok (.cubes cubes, frozen)) ∧
      ∀ later : List Step,
        let all := runAll Session.run (steps ++ .onRegistry .freeze :: later) .fresh
        all.1[steps.length]? = some (.ok (.cubes cubes)) ∧
        ∀ label handle store, session.handle? label = some handle →
          session.registry.get? store = some handle → Step.drop label ∉ later →
          ∃ cube, cubes.get? store = some cube ∧
            all.2.run (.onHandle label .snapshot) =
              .ok (.cube (Change.applyAll ((History.ofHandles stores later).changesOf store) cube),
                all.2) := by
  intro session stores
  obtain ⟨-, cellOf, mirrors⟩ := Mirrors.fresh.runAll steps
  have isOpen := (Journal.Open.blank.runAll unfrozen).1
  have hfrozen : session.frozen = false := mirrors.frozen.trans isOpen.frozen
  obtain ⟨rfl, follows⟩ := mirrors.registry hfrozen
  have separate := follows.separate
  refine ⟨(session.registry.freeze session.holds).1, ?_, ?_, ?_, ?_, ?_⟩
  · refine Dictionary.keys_eq_of_mem_iff fun store => ?_
    rw [Dictionary.mem_keys_iff, Dictionary.mem_keys_iff, separate.get?_freeze]
    exact separate.cube?_eq_some_iff
  · intro store handle hget
    have hread := follows.read?_of_get? hget
    exact ⟨_, hread, (separate.get?_freeze _ _).trans ((Registry.cube?_of_get? hget).trans hread)⟩
  · exact fun inUse => separate.freeze_fst_eq inUse _
  · intro dropped
    obtain ⟨hregistry, hkept⟩ := runAll_drop session dropped
    obtain ⟨frozen, hrun⟩ := run_freeze (hkept.trans hfrozen)
    rw [hregistry, separate.freeze_fst_eq _ session.holds] at hrun
    exact ⟨frozen, hrun⟩
  · intro later all
    have hall : all = _ := runAll_append _ steps (.onRegistry .freeze :: later) _
    refine ⟨?_, fun label handle store hhandle hget hdrop => ?_⟩
    · obtain ⟨frozen, hrun⟩ := run_freeze hfrozen
      rw [hall, List.getElem?_append_right (Nat.le_of_eq (length_runAll _ _ _)), length_runAll,
        Nat.sub_self, runAll, hrun]
      rfl
    · have hmirrors := (Mirrors.fresh.runAll (steps ++ .onRegistry .freeze :: later)).2
      rw [runAll_append Journal.run] at hmirrors
      obtain ⟨hhistory, hstores⟩ := Journal.runAll_freeze _ isOpen.frozen later
      have hstore := (hstores label hdrop).trans (mirrors.store_of_label hhandle hget)
      refine ⟨_, (separate.get?_freeze _ _).trans
        ((Registry.cube?_of_get? hget).trans (follows.read?_of_get? hget)), ?_⟩
      refine (hmirrors.run_snapshot hstore).trans ?_
      rw [Journal.cube, hhistory, History.changesOf_append, Change.replay_append]

open Session in
/-- Two handles for one store that outlive the freeze: a measure that is added through one of them is
seen through the other, and not in the cubes that came out. The cube of the store was given another
name and a cache before, and the cube of another store is cleared after. -/
theorem freeze_exact_and_final_two_handles :
    let measure := Measure.derived (.ofFormula "m" "x")
    let deals : Cube := ⟨"deals", [], [], .bitmap, some ⟨7⟩⟩
    let steps : List Step := [.onRegistry (.getOrCreate "trades" (some "a")),
      .onRegistry (.getOrCreate "risks" (some "c")), .onRegistry (.get "trades" (some "b")),
      .onHandle "b" (.update fun _ => deals)]
    let later : List Step := [.onHandle "a" (.addMeasure measure), .drop "a",
      .onHandle "c" (.update fun _ => .ofStore "void")]
    let all := runAll Session.run (steps ++ .onRegistry .freeze :: later) .fresh
    Step.onRegistry .freeze ∉ steps ∧
    ∃ cubes : Dictionary Cube, cubes.get? "trades" = some deals ∧
      all.1[4]? = some (.ok (.cubes cubes)) ∧
      all.2.run (.onHandle "b" .snapshot) = .ok (.cube (deals.addMeasure measure), all.2) := by
  intro measure deals steps later all
  have unfrozen : Step.onRegistry .freeze ∉ steps := by simp [steps]
  obtain ⟨cubes, -, hcubes, -, -, hlater⟩ := freeze_exact_and_final unfrozen
  obtain ⟨hanswer, hhandles⟩ := hlater later
  have hkept : Step.drop "b" ∉ later := by simp [later]
  obtain ⟨cube, hread, hcube⟩ := hcubes "trades" ⟨0⟩ rfl
  obtain ⟨frozen, hfrozen, hsnapshot⟩ := hhandles "b" ⟨0⟩ "trades" rfl rfl hkept
  obtain rfl : deals = cube := Option.some.inj hread
  obtain rfl : deals = frozen := Option.some.inj (hcube.symm.trans hfrozen)
  exact ⟨unfrozen, cubes, hcube, hanswer, hsnapshot⟩

end OlapSynthesis
