import OlapSynthesis.Proofs.Registry.Freezing
import OlapSynthesis.Proofs.Synthesis.Layout
import OlapSynthesis.Registry.Session

namespace OlapSynthesis

namespace Session

/-- Makes steps one after the other, and tells all answers. A step that fails changes nothing. -/
def runAll (run : σ → Step → Except Fault (Answer × σ)) :
    List Step → σ → List (Except Fault Answer) × σ
  | [], state => ([], state)
  | step :: steps, state =>
    match run state step with
    | .ok (answer, next) =>
      let (answers, last) := runAll run steps next
      (.ok answer :: answers, last)
    | .error fault =>
      let (answers, last) := runAll run steps state
      (.error fault :: answers, last)

/-- What a step through a handle does to the cube behind the handle. -/
def HandleStep.changes : HandleStep → List Change
  | .name | .snapshot => []
  | .addDimension dimension => [.dimensions [dimension]]
  | .addMeasure measure => [.measures [measure]]
  | .addDimensionsOf columns => [.dimensions (Dimension.ofColumns columns)]
  | .addMeasuresOf columns => [.measures (Measure.ofColumns columns)]
  | .customize _ => CurrencyCustomization.changes
  | .update change => [.updated change]

/-- What a step through a handle answers about the cube before and after it. -/
def HandleStep.answer (before after : Cube) : HandleStep → Answer
  | .name => .text before.name
  | .snapshot => .cube before
  | .addDimension _ | .addMeasure _ | .addDimensionsOf _ | .addMeasuresOf _ | .customize _
  | .update _ => .brief (some after)

/-- A step through a handle makes its changes to the cube behind the handle, and to nothing else. -/
theorem runOnHandle_eq {session : Session} {handle : Handle} {cube : Cube}
    (h : session.registry.read? handle = some cube) (step : HandleStep) :
    session.runOnHandle handle cube step =
      (step.answer cube (Change.applyAll step.changes cube),
        session.withRegistry
          (session.registry.update handle (Change.applyAll step.changes))) := by
  have hidle : session.withRegistry (session.registry.update handle (Change.applyAll [])) =
      session := by
    rw [Registry.update_applyAll_nil]
    rfl
  have hread (change : Cube → Cube) :
      (session.registry.update handle change).read? handle = some (change cube) := by
    rw [Registry.read?_update, if_pos rfl, h]
    rfl
  cases step with
  | name => exact Prod.ext rfl hidle.symm
  | snapshot => exact Prod.ext rfl hidle.symm
  | addDimension dimension => exact Prod.ext (congrArg Answer.brief (hread _)) rfl
  | addMeasure measure => exact Prod.ext (congrArg Answer.brief (hread _)) rfl
  | addDimensionsOf columns => exact Prod.ext (congrArg Answer.brief (hread _)) rfl
  | addMeasuresOf columns => exact Prod.ext (congrArg Answer.brief (hread _)) rfl
  | customize customization => exact Prod.ext (congrArg Answer.brief (hread _)) rfl
  | update change => exact Prod.ext (congrArg Answer.brief (hread _)) rfl

end Session

open Session (Step StoreStep HandleStep Answer Fault)

/-- A session without cells or handles: what was done to which store, and which store each label was
given for. Every answer is read off that. -/
structure Journal where
  history : History
  stores : Dictionary String
  frozen : Bool

namespace Journal

def blank : Journal :=
  ⟨[], ∅, false⟩

def cube (journal : Journal) (store : String) : Cube :=
  Change.replay store (journal.history.changesOf store)

def cubes (journal : Journal) : Dictionary Cube :=
  .ofList ((journal.history.map (·.1)).map fun store => (store, journal.cube store))

def record (journal : Journal) (store : String) (changes : List Change) : Journal :=
  { journal with history := journal.history ++ History.ofChanges store changes }

/-- Writes down which store a label is given for, if there is a label. -/
def hold (journal : Journal) (store : String) : Option String → Journal
  | some label => { journal with stores := journal.stores.insert label store }
  | none => journal

/-- A step on a registry that is not frozen. Only a store that was named can be got, and a cache
size that is none names no store. -/
def runOnRegistry (journal : Journal) : StoreStep → Except Fault (Answer × Journal)
  | .getOrCreate store label =>
    let after := journal.record store [.created]
    .ok (.brief (some (after.cube store)), after.hold store label)
  | .get store label =>
    if journal.history.changesOf store = [] then .ok (.brief none, journal)
    else .ok (.brief (some (journal.cube store)), journal.hold store label)
  | .isEmpty => .ok (.flag journal.history.isEmpty, journal)
  | .setCacheSize store size => .ok (.done, journal.record store (size.toList.map .cacheSize))
  | .setAggregateMode store mode => .ok (.done, journal.record store [.aggregateMode mode])
  | .dimensions store =>
    let after := journal.record store [.created]
    .ok (.dimensions (after.cube store).dimensions, after)
  | .measures store =>
    let after := journal.record store [.created]
    .ok (.measures (after.cube store).measures, after)
  | .natives store =>
    let after := journal.record store [.created]
    .ok (.natives (after.cube store).nativeMeasures, after)
  | .synthesize spec parallelism =>
    .ok (.outcome (spec.outcome parallelism), journal.record spec.name spec.changes)
  | .freeze => .ok (.cubes journal.cubes, { journal with frozen := true })

def run (journal : Journal) : Step → Except Fault (Answer × Journal)
  | .onRegistry step => if journal.frozen then .error .frozen else journal.runOnRegistry step
  | .onHandle label step =>
    match journal.stores.get? label with
    | none => .error .noHandle
    | some store =>
      let after := journal.record store step.changes
      .ok (step.answer (journal.cube store) (after.cube store), after)
  | .same label other =>
    match journal.stores.get? label, journal.stores.get? other with
    | some store, some otherStore => .ok (.flag (store == otherStore), journal)
    | _, _ => .error .noHandle
  | .drop label =>
    .ok (.flag (journal.stores.contains label),
      { journal with stores := journal.stores.erase label })

theorem cube_record (journal : Journal) (store : String) (changes : List Change)
    (other : String) : (journal.record store changes).cube other =
      if other = store then Change.applyAll changes (journal.cube other)
      else journal.cube other := by
  unfold cube record
  rw [History.changesOf_append, History.changesOf_ofChanges]
  by_cases h : other = store
  · rw [if_pos h, if_pos h, Change.replay_append]
  · rw [if_neg h, if_neg h, List.append_nil]

theorem get?_cubes (journal : Journal) (store : String) :
    journal.cubes.get? store = journal.history.cube? store := by
  have hmem : store ∈ journal.history.map (·.1) ↔ journal.history.changesOf store ≠ [] := by
    rw [History.changesOf_ne_nil_iff, List.mem_map]
    constructor
    · rintro ⟨⟨_, change⟩, h, rfl⟩
      exact ⟨change, h⟩
    · rintro ⟨change, h⟩
      exact ⟨_, h, rfl⟩
  rw [cubes, Dictionary.get?_ofList_graph, History.cube?]
  by_cases h : journal.history.changesOf store = []
  · rw [if_pos h, if_neg (hmem.not.mpr (not_not.mpr h))]
  · rw [if_neg h, if_pos (hmem.mpr h)]
    rfl

end Journal

/-- Labels with handles, and labels with stores, that go together: the handle under a label is the
one on the cell of the store under it. -/
def Linked (cellOf : String → Option Handle) (names : Dictionary Handle)
    (stores : Dictionary String) : Prop :=
  ∀ label, (stores.get? label = none ∧ names.get? label = none) ∨
    ∃ store handle, stores.get? label = some store ∧ names.get? label = some handle ∧
      cellOf store = some handle

namespace Linked

variable {cellOf cellOf' : String → Option Handle} {names : Dictionary Handle}
  {stores : Dictionary String}

theorem empty : Linked cellOf ∅ ∅ := fun _ => .inl ⟨rfl, rfl⟩

theorem mono (linked : Linked cellOf names stores)
    (h : ∀ {store handle}, cellOf store = some handle → cellOf' store = some handle) :
    Linked cellOf' names stores := by
  intro label
  rcases linked label with hnone | ⟨store, handle, hs, hn, hc⟩
  · exact .inl hnone
  · exact .inr ⟨store, handle, hs, hn, h hc⟩

theorem insert (linked : Linked cellOf names stores) {store : String} {handle : Handle}
    (h : cellOf store = some handle) (label : String) :
    Linked cellOf (names.insert label handle) (stores.insert label store) := by
  intro other
  rw [Dictionary.get?_insert, Dictionary.get?_insert]
  by_cases ho : other = label
  · rw [if_pos ho, if_pos ho]
    exact .inr ⟨store, handle, rfl, rfl, h⟩
  · rw [if_neg ho, if_neg ho]
    exact linked other

theorem erase (linked : Linked cellOf names stores) (label : String) :
    Linked cellOf (names.erase label) (stores.erase label) := by
  intro other
  rw [Dictionary.get?_erase, Dictionary.get?_erase]
  by_cases ho : other = label
  · rw [if_pos ho, if_pos ho]
    exact .inl ⟨rfl, rfl⟩
  · rw [if_neg ho, if_neg ho]
    exact linked other

theorem handle_of_store (linked : Linked cellOf names stores) {label store : String}
    (h : stores.get? label = some store) :
    ∃ handle, names.get? label = some handle ∧ cellOf store = some handle := by
  rcases linked label with ⟨hnone, -⟩ | ⟨store', handle, hstore, hname, hcell⟩
  · exact absurd (h.symm.trans hnone) (by simp)
  · obtain rfl : store = store' := Option.some.inj (h.symm.trans hstore)
    exact ⟨handle, hname, hcell⟩

theorem store_of_handle (linked : Linked cellOf names stores) {label : String} {handle : Handle}
    (h : names.get? label = some handle) :
    ∃ store, stores.get? label = some store ∧ cellOf store = some handle := by
  rcases linked label with ⟨-, hnone⟩ | ⟨store, handle', hstore, hname, hcell⟩
  · exact absurd (h.symm.trans hnone) (by simp)
  · obtain rfl : handle = handle' := Option.some.inj (h.symm.trans hname)
    exact ⟨store, hstore, hcell⟩

/-- A handle that is linked to a store is held. -/
theorem holds {session : Session} (linked : Linked cellOf session.names stores)
    {label store : String} {handle : Handle} (hstore : stores.get? label = some store)
    (hcell : cellOf store = some handle) : session.holds handle = true := by
  obtain ⟨handle', hname, hcell'⟩ := linked.handle_of_store hstore
  obtain rfl : handle = handle' := Option.some.inj (hcell.symm.trans hcell')
  apply List.contains_iff_mem.mpr
  exact List.mem_map.mpr ⟨(label, handle), Dictionary.get?_eq_some_iff.mp hname, rfl⟩

theorem contains_eq (linked : Linked cellOf names stores) (label : String) :
    names.contains label = stores.contains label := by
  rw [Dictionary.contains_eq_isSome, Dictionary.contains_eq_isSome]
  rcases linked label with ⟨hs, hn⟩ | ⟨store, handle, hs, hn, -⟩
  · rw [hs, hn]
    rfl
  · rw [hs, hn]
    rfl

end Linked

namespace Session

/-- Every handle that is held leads to the cube that the journal tells of its store; `cellOf` says
on which cell the handles for a store are. Before freezing that is what the registry says. -/
structure MirrorsBy (cellOf : String → Option Handle) (session : Session) (journal : Journal) :
    Prop where
  frozen : session.frozen = journal.frozen
  linked : Linked cellOf session.names journal.stores
  separate : ∀ {store other handle}, cellOf store = some handle → cellOf other = some handle →
    store = other
  reads : ∀ {label store handle}, journal.stores.get? label = some store →
    cellOf store = some handle → session.registry.read? handle = some (journal.cube store)
  registry : session.frozen = false →
    session.registry.get? = cellOf ∧ session.registry.Follows journal.history

theorem MirrorsBy.handle_eq_iff {cellOf : String → Option Handle} {session : Session}
    {journal : Journal} (mirrors : MirrorsBy cellOf session journal) {store store' : String}
    {handle handle' : Handle} (hcell : cellOf store = some handle)
    (hcell' : cellOf store' = some handle') : handle = handle' ↔ store = store' := by
  constructor
  · rintro rfl
    exact mirrors.separate hcell hcell'
  · rintro rfl
    exact Option.some.inj (hcell.symm.trans hcell')

def Mirrors (session : Session) (journal : Journal) : Prop :=
  ∃ cellOf, MirrorsBy cellOf session journal

/-- The same answer, or the same fault, in states that mirror each other. -/
inductive SameOutcome :
    Except Fault (Answer × Session) → Except Fault (Answer × Journal) → Prop
  | fault (fault : Fault) : SameOutcome (.error fault) (.error fault)
  | answer (answer : Answer) {session : Session} {journal : Journal}
      (mirrors : session.Mirrors journal) : SameOutcome (.ok (answer, session)) (.ok (answer, journal))

variable {session : Session} {journal : Journal}

/-- Before freezing it is enough that the registry follows the journal. -/
theorem Mirrors.of_follows (hs : session.frozen = false) (hj : journal.frozen = false)
    (follows : session.registry.Follows journal.history)
    (linked : Linked session.registry.get? session.names journal.stores) :
    session.Mirrors journal :=
  ⟨session.registry.get?,
    { frozen := hs.trans hj.symm
      linked
      separate := follows.separate.store_eq
      reads := fun _ hget => follows.read?_of_get? hget
      registry := fun _ => ⟨rfl, follows⟩ }⟩

theorem Mirrors.fresh : Session.fresh.Mirrors .blank :=
  .of_follows rfl rfl .empty .empty

/-- Writing down what was done to the registry keeps the mirror, if no handle was lost. -/
theorem Mirrors.record (hs : session.frozen = false) (hj : journal.frozen = false)
    (linked : Linked session.registry.get? session.names journal.stores) {registry : Registry}
    {store : String} {changes : List Change}
    (follows : registry.Follows (journal.history ++ History.ofChanges store changes))
    (grows : ∀ {other handle}, session.registry.get? other = some handle →
      registry.get? other = some handle) :
    (session.withRegistry registry).Mirrors (journal.record store changes) :=
  .of_follows hs hj follows (linked.mono grows)

/-- Reading the cube of a store counts as asking for it. -/
theorem cube_fst_eq {registry : Registry} {history : History} (follows : registry.Follows history)
    (store : String) : (registry.cube store).1 =
      Change.replay store ((history ++ History.ofChanges store [.created]).changesOf store) := by
  have hget : (registry.getOrCreate store).2.get? store = some (registry.getOrCreate store).1 := by
    rw [Registry.get?_getOrCreate, if_pos rfl]
  have hread := (follows.getOrCreate store).read?_of_get? hget
  exact (congrArg (Option.getD · (Cube.ofStore store)) hread).trans rfl

theorem isEmpty_eq {registry : Registry} {history : History} (follows : registry.Follows history) :
    registry.isEmpty = history.isEmpty := by
  rw [Bool.eq_iff_iff, List.isEmpty_iff]
  refine Dictionary.isEmpty_iff_get?_eq_none.trans ?_
  constructor
  · intro h
    refine List.eq_nil_iff_forall_not_mem.mpr fun entry hentry => ?_
    have hne := History.changesOf_ne_nil_iff.mpr ⟨entry.2, hentry⟩
    obtain ⟨handle, hget⟩ := follows.get?_eq_some_iff.mpr hne
    exact absurd (hget.symm.trans (h entry.1)) (by simp)
  · rintro rfl store
    refine Option.eq_none_iff_forall_ne_some.mpr fun handle hget => ?_
    exact follows.get?_eq_some_iff.mp ⟨handle, hget⟩ rfl

theorem Mirrors.hold (hs : session.frozen = false) (hj : journal.frozen = false)
    (follows : session.registry.Follows journal.history)
    (linked : Linked session.registry.get? session.names journal.stores) {store : String}
    {handle : Handle} (hget : session.registry.get? store = some handle)
    (label : Option String) : (session.hold handle label).Mirrors (journal.hold store label) := by
  cases label with
  | none => exact .of_follows hs hj follows linked
  | some label => exact .of_follows hs hj follows (linked.insert hget label)

theorem Mirrors.runOnRegistry (hs : session.frozen = false) (hj : journal.frozen = false)
    (follows : session.registry.Follows journal.history)
    (linked : Linked session.registry.get? session.names journal.stores) (step : StoreStep) :
    SameOutcome ((session.runOnRegistry step).mapError .column) (journal.runOnRegistry step) := by
  have created (store : String) :
      (session.withRegistry (session.registry.getOrCreate store).2).Mirrors
        (journal.record store [.created]) :=
    .record hs hj linked (follows.getOrCreate store)
      fun hget => Registry.get?_getOrCreate_of_get? hget store
  cases step with
  | getOrCreate store label =>
    have hget : (session.registry.getOrCreate store).2.get? store =
        some (session.registry.getOrCreate store).1 := by
      rw [Registry.get?_getOrCreate, if_pos rfl]
    have hread := (follows.getOrCreate store).read?_of_get? hget
    have hmirrors : ((session.withRegistry (session.registry.getOrCreate store).2).hold
        (session.registry.getOrCreate store).1 label).Mirrors
          ((journal.record store [.created]).hold store label) := by
      have hlinked := linked.mono fun h => Registry.get?_getOrCreate_of_get? h store
      exact Mirrors.hold (by exact hs) (by exact hj) (by exact follows.getOrCreate store)
        (by exact hlinked) hget label
    have houtcome := SameOutcome.answer (.brief (some ((journal.record store [.created]).cube store)))
      hmirrors
    rw [Session.runOnRegistry, Journal.runOnRegistry]
    simp only [hread]
    exact houtcome
  | get store label =>
    rw [Session.runOnRegistry, Journal.runOnRegistry]
    cases hget : session.registry.get? store with
    | none =>
      have hnil : journal.history.changesOf store = [] := by
        by_contra hne
        obtain ⟨handle, h⟩ := follows.get?_eq_some_iff.mpr hne
        exact absurd (hget.symm.trans h) (by simp)
      rw [if_pos hnil]
      exact .answer _ (.of_follows hs hj follows linked)
    | some handle =>
      have hne : journal.history.changesOf store ≠ [] :=
        follows.get?_eq_some_iff.mp ⟨handle, hget⟩
      rw [if_neg hne]
      simp only [follows.read?_of_get? hget]
      exact .answer _ (.hold hs hj follows linked hget label)
  | isEmpty =>
    rw [Session.runOnRegistry, Journal.runOnRegistry, isEmpty_eq follows]
    exact .answer _ (.of_follows hs hj follows linked)
  | setCacheSize store size =>
    refine .answer .done (.record hs hj linked (follows.setCacheSize store size) fun hget => ?_)
    cases size with
    | none => exact hget
    | some size => exact Registry.get?_getOrCreate_of_get? hget store
  | setAggregateMode store mode =>
    exact .answer .done (.record hs hj linked (follows.setAggregateMode store mode)
      fun hget => Registry.get?_getOrCreate_of_get? hget store)
  | dimensions store =>
    rw [Session.runOnRegistry, Journal.runOnRegistry]
    simp only [cube_fst_eq follows store]
    exact .answer _ (created store)
  | measures store =>
    rw [Session.runOnRegistry, Journal.runOnRegistry]
    simp only [cube_fst_eq follows store]
    exact .answer _ (created store)
  | natives store =>
    rw [Session.runOnRegistry, Journal.runOnRegistry]
    simp only [cube_fst_eq follows store]
    exact .answer _ (created store)
  | synthesize spec parallelism =>
    rw [Session.runOnRegistry, Journal.runOnRegistry, StoreSpec.synthesize_eq]
    refine .answer _ (.record hs hj linked (follows.register spec) fun hget => ?_)
    rw [Registry.register_eq_updateStore]
    exact Registry.get?_getOrCreate_of_get? hget spec.name
  | freeze =>
    have hcubes : (session.registry.freeze session.holds).1 = journal.cubes := by
      refine Dictionary.ext_get? fun store => ?_
      rw [follows.separate.get?_freeze, follows.cubes, journal.get?_cubes]
    -- the handles stay on the cells where they were, and those cells are kept
    have hmirrors : Mirrors
        { session with registry := ⟨(session.registry.freeze session.holds).2, ∅⟩, frozen := true }
        { journal with frozen := true } := by
      refine ⟨session.registry.get?, rfl, linked, follows.separate.store_eq, ?_, ?_⟩
      · intro label store handle hstore hget
        refine Eq.trans (Registry.read?_freeze ?_) (follows.read?_of_get? hget)
        exact linked.holds hstore hget
      · intro hs
        cases hs
    rw [Session.runOnRegistry, Journal.runOnRegistry, ← hcubes]
    exact .answer _ hmirrors

theorem MirrorsBy.runOnHandle {cellOf : String → Option Handle}
    (mirrors : MirrorsBy cellOf session journal) {label store : String} {handle : Handle}
    (hstore : journal.stores.get? label = some store) (hcell : cellOf store = some handle)
    (step : HandleStep) :
    SameOutcome (.ok (session.runOnHandle handle (journal.cube store) step))
      (.ok (step.answer (journal.cube store) ((journal.record store step.changes).cube store),
        journal.record store step.changes)) := by
  have hread := mirrors.reads hstore hcell
  rw [runOnHandle_eq hread, journal.cube_record, if_pos rfl]
  refine .answer _ ⟨cellOf, mirrors.frozen, mirrors.linked, mirrors.separate, ?_, ?_⟩
  · intro other otherStore otherHandle hother hotherCell
    refine (Registry.read?_update _ _ _ _).trans ?_
    rw [journal.cube_record, mirrors.reads hother hotherCell]
    by_cases h : otherStore = store
    · have hsame : otherHandle = handle := Option.some.inj (hotherCell.symm.trans (h ▸ hcell))
      rw [if_pos h, if_pos hsame]
      rfl
    · have hdifferent : otherHandle ≠ handle :=
        fun heq => h (mirrors.separate hotherCell (heq ▸ hcell))
      rw [if_neg h, if_neg hdifferent]
  · intro hs
    obtain ⟨hcellOf, follows⟩ := mirrors.registry hs
    exact ⟨hcellOf, follows.update ((congrFun hcellOf store).trans hcell) _⟩

/-- A step gives the same answer on a session and on the journal that it mirrors. -/
theorem Mirrors.run (mirrors : session.Mirrors journal) (step : Step) :
    SameOutcome (session.run step) (journal.run step) := by
  obtain ⟨cellOf, mirrors⟩ := mirrors
  cases step with
  | onRegistry step =>
    rw [Session.run, Journal.run, ← mirrors.frozen]
    cases hs : session.frozen with
    | true => exact .fault .frozen
    | false =>
      obtain ⟨rfl, follows⟩ := mirrors.registry hs
      exact Mirrors.runOnRegistry hs (mirrors.frozen.symm.trans hs) follows mirrors.linked step
  | onHandle label step =>
    rw [Session.run, Journal.run, handle?]
    rcases mirrors.linked label with ⟨hstore, hname⟩ | ⟨store, handle, hstore, hname, hcell⟩
    · rw [hstore, hname]
      exact .fault .noHandle
    · rw [hstore, hname]
      simp only [mirrors.reads hstore hcell]
      exact mirrors.runOnHandle hstore hcell step
  | same label other =>
    rw [Session.run, Journal.run, handle?, handle?]
    rcases mirrors.linked label with ⟨hstore, hname⟩ | ⟨store, handle, hstore, hname, hcell⟩
    · rw [hstore, hname]
      exact .fault .noHandle
    · rcases mirrors.linked other with ⟨hstore', hname'⟩ | ⟨store', handle', hstore', hname', hcell'⟩
      · rw [hstore, hname, hstore', hname']
        exact .fault .noHandle
      · rw [hstore, hname, hstore', hname']
        have hsame : (handle == handle') = (store == store') := by
          rw [Bool.eq_iff_iff, beq_iff_eq, beq_iff_eq]
          exact mirrors.handle_eq_iff hcell hcell'
        simp only [hsame]
        exact .answer _ ⟨cellOf, mirrors⟩
  | drop label =>
    rw [Session.run, Journal.run, mirrors.linked.contains_eq]
    refine .answer _ ⟨cellOf, mirrors.frozen, mirrors.linked.erase label, mirrors.separate, ?_,
      mirrors.registry⟩
    intro other store handle hstore hcell
    rw [Dictionary.get?_erase] at hstore
    exact mirrors.reads (Option.ite_none_left_eq_some.mp hstore).2 hcell

/-- A whole run gives the same answers on both. -/
theorem Mirrors.runAll (mirrors : session.Mirrors journal) (steps : List Step) :
    (Session.runAll Session.run steps session).1 = (Session.runAll Journal.run steps journal).1 ∧
      (Session.runAll Session.run steps session).2.Mirrors
        (Session.runAll Journal.run steps journal).2 := by
  induction steps generalizing session journal with
  | nil => exact ⟨rfl, mirrors⟩
  | cons step steps ih =>
    have houtcome := mirrors.run step
    simp only [Session.runAll]
    generalize session.run step = outcome, journal.run step = expected at houtcome ⊢
    cases houtcome with
    | fault fault =>
      obtain ⟨hanswers, hlast⟩ := ih mirrors
      exact ⟨congrArg _ hanswers, hlast⟩
    | answer answer next =>
      obtain ⟨hanswers, hlast⟩ := ih next
      exact ⟨congrArg _ hanswers, hlast⟩

end Session

end OlapSynthesis
