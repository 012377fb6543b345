import OlapSynthesis.Proofs.Except
import OlapSynthesis.Proofs.Settings.Overlay
import OlapSynthesis.Settings.Environment
import OlapSynthesis.Settings.Toml

namespace OlapSynthesis

namespace Scan

variable {α β : Type} {P : α → Prop} {Q : β → Prop}

/-- Whatever a scan takes is as told. -/
def Yields (scan : Scan α) (P : α → Prop) : Prop :=
  ∀ s a rest, scan s = some (a, rest) → P a

theorem Yields.pure {a : α} (h : P a) : (Pure.pure a : Scan α).Yields P := by
  intro s b rest hs
  cases hs
  exact h

theorem Yields.failure : (failure : Scan α).Yields P := by
  intro s a rest hs
  cases hs

theorem Yields.after {x : Scan β} {f : β → Scan α} (hx : x.Yields Q)
    (hf : ∀ b, Q b → (f b).Yields P) : (x >>= f).Yields P := by
  intro s a rest hs
  obtain ⟨⟨b, later⟩, hb, ha⟩ := Option.bind_eq_some_iff.mp hs
  exact hf b (hx s b later hb) later a rest ha

theorem Yields.bind {x : Scan β} {f : β → Scan α} (hf : ∀ b, (f b).Yields P) :
    (x >>= f).Yields P :=
  Yields.after (fun _ _ _ _ => trivial) fun b (_ : True) => hf b

theorem Yields.orElse {x y : Scan α} (hx : x.Yields P) (hy : y.Yields P) :
    (x <|> y).Yields P := by
  intro s a rest hs
  cases hfirst : x s with
  | some found =>
    have hsame : (x <|> y) s = x s := by
      change (x s <|> y s) = x s
      rw [hfirst]
      rfl
    exact hx s a rest (hsame.symm.trans hs)
  | none =>
    have hsame : (x <|> y) s = y s := by
      change (x s <|> y s) = y s
      rw [hfirst]
      rfl
    exact hy s a rest (hsame.symm.trans hs)

theorem mem_manyWithin {x : Scan α} (hx : x.Yields P) (count : Nat) (s : List Char) :
    ∀ a ∈ (manyWithin x count s).1, P a := by
  induction count generalizing s with
  | zero => simp [manyWithin]
  | succ count ih =>
    cases s with
    | nil => simp [manyWithin]
    | cons c s =>
      simp only [manyWithin]
      cases hfirst : x (c :: s) with
      | none => simp
      | some found =>
        obtain ⟨a, rest⟩ := found
        intro b hb
        rcases List.mem_cons.mp hb with rfl | hlater
        · exact hx _ _ _ hfirst
        · exact ih rest b hlater

theorem Yields.many {x : Scan α} (hx : x.Yields P) :
    (many x).Yields fun items => ∀ a ∈ items, P a := by
  intro s items rest hs
  have hitems : (manyWithin x s.length s).1 = items := congrArg Prod.fst (Option.some.inj hs)
  rw [← hitems]
  exact mem_manyWithin hx _ _

theorem Yields.separated {x : Scan α} (hx : x.Yields P) (mark : Char) :
    (separated mark x).Yields fun items => ∀ a ∈ items, P a := by
  refine .after hx fun first hfirst => ?_
  refine .after (Yields.many (.bind fun _ => hx)) fun more hmore => ?_
  exact .pure (List.forall_mem_cons.mpr ⟨hfirst, hmore⟩)

theorem Yields.of_whole? {x : Scan α} (hx : x.Yields P) {s : String} {a : α}
    (h : whole? x s = some a) : P a := by
  have hwhole : Yields (do let a ← x; atEnd; return a) P :=
    .after hx fun a ha => .bind fun _ => .pure ha
  obtain ⟨⟨found, rest⟩, hfound, rfl⟩ := Option.map_eq_some_iff.mp h
  exact hwhole _ _ _ hfound

end Scan

namespace Toml

/-- What is given to keys has its tables in order. -/
inductive Item.Sound : Item → Prop
  | value {setting : Setting} (h : setting.Ordered) : Sound (.value setting)
  | table {origin : Origin} {entries : Entries} (h : ∀ e ∈ entries, Sound e.2) :
    Sound (.table origin entries)
  | tables {earlier : List Entries} {last : Entries} : Sound (.tables earlier last)

def Entries.Sound (entries : Entries) : Prop :=
  ∀ e ∈ entries, e.2.Sound

theorem Entries.Sound.empty : Entries.Sound [] := by
  intro e he
  cases he

theorem Entries.Sound.put {entries : Entries} (h : entries.Sound) (key : String) {item : Item}
    (hitem : item.Sound) : (put key item entries).Sound := by
  induction entries with
  | nil => exact List.forall_mem_singleton.mpr hitem
  | cons entry rest ih =>
    obtain ⟨hfirst, hrest⟩ := List.forall_mem_cons.mp h
    unfold Toml.put
    split
    · exact List.forall_mem_cons.mpr ⟨hitem, hrest⟩
    · exact List.forall_mem_cons.mpr ⟨hfirst, ih hrest⟩

theorem Entries.Sound.of_lookup {entries : Entries} (h : entries.Sound) {key : String} {item : Item}
    (hitem : entries.lookup key = some item) : item.Sound := by
  induction entries with
  | nil => cases hitem
  | cons entry rest ih =>
    obtain ⟨hfirst, hrest⟩ := List.forall_mem_cons.mp h
    rw [Dictionary.lookup_cons_eq_ite] at hitem
    split at hitem
    · cases hitem
      exact hfirst
    · exact ih hrest hitem

/-- A change that keeps entries sound may be made below any path. -/
theorem Entries.Sound.within {made : Origin} {change : Origin → Entries → Option Entries}
    (hchange : ∀ origin entries next, Entries.Sound entries → change origin entries = some next →
      next.Sound) {path : List String} {origin : Origin} {entries next : Entries}
    (h : entries.Sound) (hnext : within made change path origin entries = some next) :
    next.Sound := by
  induction path generalizing origin entries next with
  | nil => exact hchange origin entries next h hnext
  | cons key path ih =>
    unfold Toml.within at hnext
    split at hnext
    · obtain ⟨below, hbelow, hput⟩ := Option.bind_eq_some_iff.mp hnext
      cases hput
      exact h.put key (.table (ih .empty hbelow))
    · cases hnext
    · obtain ⟨below, hbelow, hput⟩ := Option.bind_eq_some_iff.mp hnext
      cases hput
      exact h.put key .tables
    next origin below hlookup =>
      split at hnext
      · cases hnext
      · obtain ⟨changed, hchanged, hput⟩ := Option.bind_eq_some_iff.mp hnext
        cases hput
        cases h.of_lookup hlookup with
        | table hbelow => exact h.put key (.table (ih hbelow hchanged))

theorem Entries.Sound.assign {entries next : Entries} (h : entries.Sound) {assignment : Assignment}
    (hvalue : assignment.value.Ordered) (hnext : assign entries assignment = some next) :
    next.Sound := by
  refine h.within ?_ hnext
  intro origin entries next hentries hchange
  split at hchange
  · cases hchange
  · split at hchange
    · cases hchange
    · cases hchange
      exact hentries.put _ (.value hvalue)

theorem Entries.Sound.assignAll {entries next : Entries} (h : entries.Sound)
    {assignments : List Assignment} (hvalues : ∀ a ∈ assignments, a.value.Ordered)
    (hnext : assignAll entries assignments = some next) : next.Sound := by
  induction assignments generalizing entries with
  | nil =>
    cases hnext
    exact h
  | cons first rest ih =>
    obtain ⟨hfirst, hrest⟩ := List.forall_mem_cons.mp hvalues
    obtain ⟨changed, hchanged, hlater⟩ := Option.bind_eq_some_iff.mp hnext
    exact ih (h.assign hfirst hchanged) hrest hlater

theorem Entries.Sound.addSection {entries next : Entries} (h : entries.Sound) {s : Section}
    (hvalues : ∀ a ∈ s.assignments, a.value.Ordered) (hnext : addSection entries s = some next) :
    next.Sound := by
  refine h.within ?_ hnext
  intro origin entries next hentries hchange
  split at hchange
  · obtain ⟨below, hbelow, hput⟩ := Option.bind_eq_some_iff.mp hchange
    cases hput
    exact hentries.put _ (.table (Entries.Sound.empty.assignAll hvalues hbelow))
  next below _ hlookup =>
    obtain ⟨filled, hfilled, hput⟩ := Option.bind_eq_some_iff.mp hchange
    cases hput
    cases hentries.of_lookup hlookup with
    | table hbelow => exact hentries.put _ (.table (Entries.Sound.assignAll hbelow hvalues hfilled))
  · obtain ⟨below, hbelow, hput⟩ := Option.bind_eq_some_iff.mp hchange
    cases hput
    exact hentries.put _ .tables
  · obtain ⟨below, hbelow, hput⟩ := Option.bind_eq_some_iff.mp hchange
    cases hput
    exact hentries.put _ .tables
  · cases hchange

theorem ordered_entriesSettings {entries : Entries}
    (h : ∀ e ∈ entries, e.2.setting.Ordered) :
    Setting.Ordered (.table (entriesSettings entries)) := by
  induction entries with
  | nil => exact .emptyTable
  | cons entry rest ih =>
    obtain ⟨hfirst, hrest⟩ := List.forall_mem_cons.mp h
    exact (ih hrest).insertEntry _ hfirst

theorem Item.Sound.ordered {item : Item} (h : item.Sound) : item.setting.Ordered := by
  induction h with
  | value h => exact h
  | table _ ih => exact ordered_entriesSettings ih
  | tables => exact .leaf rfl

theorem Entries.Sound.ordered {entries : Entries} (h : entries.Sound) :
    Setting.Ordered (.table (entriesSettings entries)) :=
  ordered_entriesSettings fun e he => (h e he).ordered

theorem ordered_of_inlineTable? {assignments : List Assignment}
    (hvalues : ∀ a ∈ assignments, a.value.Ordered) {setting : Setting}
    (h : inlineTable? assignments = some setting) : setting.Ordered := by
  obtain ⟨entries, hentries, rfl⟩ := Option.map_eq_some_iff.mp h
  exact (Entries.Sound.empty.assignAll hvalues hentries).ordered

theorem yields_assignment {value : Scan Setting} (hvalue : value.Yields Setting.Ordered) :
    (assignment value).Yields (·.value.Ordered) :=
  .bind fun _ => .bind fun _ => .bind fun _ => .after hvalue fun _ h => .pure h

theorem yields_inlineTable {value : Scan Setting} (hvalue : value.Yields Setting.Ordered) :
    (inlineTable value).Yields Setting.Ordered := by
  have hentry : Scan.Yields (do let entry ← assignment value; blanks; return entry)
      fun a : Assignment => a.value.Ordered :=
    .after (yields_assignment hvalue) fun _ h => .bind fun _ => .pure h
  refine .bind fun _ => .bind fun _ => ?_
  refine .after (.orElse (hentry.separated ',') (.pure (by simp))) fun entries hentries => ?_
  refine .bind fun _ => ?_
  split
  next setting hsetting => exact .pure (ordered_of_inlineTable? hentries hsetting)
  · exact .failure

theorem yields_array (value : Scan Setting) : (array value).Yields Setting.Ordered :=
  .bind fun _ => .bind fun _ => .bind fun _ => .bind fun _ => .pure (.leaf rfl)

theorem yields_wholeOf (n : Int) : (wholeOf n).Yields Setting.Ordered := by
  unfold wholeOf
  split
  · exact .pure (.leaf rfl)
  · exact .failure

theorem yields_based (mark : String) (base : Nat) : (based mark base).Yields Setting.Ordered :=
  .bind fun _ => .bind fun _ => yields_wholeOf _

theorem yields_integer : integer.Yields Setting.Ordered :=
  .orElse (yields_based _ _) <| .orElse (yields_based _ _) <| .orElse (yields_based _ _) <|
    .bind fun _ => .bind fun _ => yields_wholeOf _

theorem yields_float : float.Yields Setting.Ordered := by
  have hreal (tooGreat : Bool) :
      Scan.Yields (if tooGreat then failure else return .real) Setting.Ordered := by
    split
    · exact .failure
    · exact .pure (.leaf rfl)
  refine .bind fun _ => .bind fun _ => .bind fun _ => ?_
  dsimp only
  split <;> exact .bind fun _ => hreal _

theorem yields_moment : moment.Yields Setting.Ordered :=
  .bind fun _ => .pure (.nested (.leaf rfl) [momentKey])

theorem yields_simpleValue : simpleValue.Yields Setting.Ordered :=
  .orElse (.bind fun _ => .pure (.leaf rfl)) <| .orElse (.bind fun _ => .pure (.leaf rfl)) <|
    .orElse (.bind fun _ => .pure (.leaf rfl)) <| .orElse yields_moment <| .orElse yields_float <|
    .orElse (.bind fun _ => .bind fun _ => .pure (.leaf rfl)) yields_integer

theorem yields_valueWithin (depth : Nat) : (valueWithin depth).Yields Setting.Ordered := by
  induction depth with
  | zero => exact yields_simpleValue
  | succ depth ih =>
    exact .orElse (yields_array _) (.orElse (yields_inlineTable ih) yields_simpleValue)

def Statement.Sound : Statement → Prop
  | .assignment a => a.value.Ordered
  | _ => True

theorem yields_header (isArray : Bool) (opening closing : String) :
    (header isArray opening closing).Yields Statement.Sound :=
  .bind fun _ => .bind fun _ => .bind fun _ => .pure trivial

theorem yields_statement : statement.Yields Statement.Sound := by
  refine .bind fun _ => .bind fun first => ?_
  split
  · exact .failure
  · exact .pure trivial
  · exact .pure trivial
  · exact .pure trivial
  · exact .orElse (yields_header _ _ _) (yields_header _ _ _)
  · exact .after (yields_assignment (yields_valueWithin deepest)) fun _ h => .pure h

theorem yields_statements : statements.Yields fun l => ∀ s ∈ l, s.Sound := by
  refine .bind fun _ => .after (Scan.Yields.many ?_) fun _ h => .bind fun _ => .pure h
  exact .after yields_statement fun _ h => .bind fun _ => .pure h

/-- The values of a document have their tables in order. -/
structure Document.Sound (document : Document) : Prop where
  assignments : ∀ a ∈ document.assignments, a.value.Ordered
  sections : ∀ s ∈ document.sections, ∀ a ∈ s.assignments, a.value.Ordered

theorem sound_documentOf {statements : List Statement} (h : ∀ s ∈ statements, s.Sound) :
    (documentOf statements).Sound := by
  induction statements with
  | nil => exact ⟨by simp [documentOf], by simp [documentOf]⟩
  | cons first rest ih =>
    obtain ⟨hfirst, hrest⟩ := List.forall_mem_cons.mp h
    obtain ⟨hassignments, hsections⟩ := ih hrest
    cases first with
    | nothing => exact ⟨hassignments, hsections⟩
    | assignment a => exact ⟨List.forall_mem_cons.mpr ⟨hfirst, hassignments⟩, hsections⟩
    | header path key isArray =>
      exact ⟨by simp [documentOf], List.forall_mem_cons.mpr ⟨hassignments, hsections⟩⟩

theorem Entries.Sound.addSections {entries next : Entries} (h : entries.Sound)
    {sections : List Section} (hvalues : ∀ s ∈ sections, ∀ a ∈ s.assignments, a.value.Ordered)
    (hnext : sections.foldlM Toml.addSection entries = some next) : next.Sound := by
  induction sections generalizing entries with
  | nil =>
    cases hnext
    exact h
  | cons first rest ih =>
    obtain ⟨hfirst, hrest⟩ := List.forall_mem_cons.mp hvalues
    obtain ⟨changed, hchanged, hlater⟩ := Option.bind_eq_some_iff.mp hnext
    exact ih (h.addSection hfirst hchanged) hrest hlater

theorem ordered_of_ofText? {text : String} {setting : Setting} (h : ofText? text = some setting) :
    setting.Ordered := by
  obtain ⟨statements, hstatements, hdocument⟩ := Option.bind_eq_some_iff.mp h
  obtain ⟨hassignments, hsections⟩ := sound_documentOf (yields_statements.of_whole? hstatements)
  obtain ⟨first, hfirst, hrest⟩ := Option.bind_eq_some_iff.mp hdocument
  obtain ⟨entries, hentries, hsetting⟩ := Option.bind_eq_some_iff.mp hrest
  cases hsetting
  exact ((Entries.Sound.empty.assignAll hassignments hfirst).addSections hsections hentries).ordered

end Toml

namespace EnvironmentValue

namespace Reader

variable {α β : Type} {P : α → Prop} {Q : β → Prop}

/-- Whatever a reader gives is as told. -/
def Yields (reader : Reader α) (P : α → Prop) : Prop :=
  ∀ s a rest, reader s = .ok (a, rest) → P a

theorem Yields.pure {a : α} (h : P a) : Yields (Pure.pure a) P := by
  intro s b rest hs
  cases hs
  exact h

theorem Yields.throw (fault : Fault) : Yields (MonadExcept.throw fault) P := by
  intro s a rest hs
  cases hs

theorem Yields.after {x : Reader β} {f : β → Reader α} (hx : Yields x Q)
    (hf : ∀ b, Q b → Yields (f b) P) : Yields (x >>= f) P := by
  intro s a rest hs
  obtain ⟨⟨b, later⟩, hb, ha⟩ := exists_of_bind_eq_ok hs
  exact hf b (hx s b later hb) later a rest ha

theorem Yields.bind {x : Reader β} {f : β → Reader α} (hf : ∀ b, Yields (f b) P) :
    Yields (x >>= f) P :=
  Yields.after (fun _ _ _ _ => trivial) fun b (_ : True) => hf b

theorem Yields.lift {scan : Scan α} (h : scan.Yields P) : Yields (liftM scan) P := by
  intro s a rest hs
  cases hscan : scan s with
  | none => simp [liftM, monadLift, MonadLift.monadLift, hscan] at hs
  | some result =>
    simp only [liftM, monadLift, MonadLift.monadLift, hscan, Except.ok.injEq] at hs
    exact h s a rest (hs ▸ hscan)

theorem Yields.of_run' {reader : Reader α} (h : Yields reader P) {s : List Char} {a : α}
    (ha : reader.run' s = .ok a) : P a := by
  unfold StateT.run' at ha
  cases hs : reader s with
  | error fault =>
    rw [hs] at ha
    cases ha
  | ok found =>
    rw [hs] at ha
    cases ha
    exact h s found.1 found.2 hs

theorem Yields.itemsWithin {item : Reader α} (hitem : Yields item P) (closing : Char)
    (count : Nat) : Yields (itemsWithin closing item count) fun items => ∀ a ∈ items, P a := by
  induction count with
  | zero => exact .throw _
  | succ count ih =>
    have hnone : ∀ a ∈ ([] : List α), P a := by simp
    unfold EnvironmentValue.itemsWithin
    refine .bind fun next => ?_
    split
    · exact .bind fun _ => .pure hnone
    · refine .after hitem fun first hfirst => .bind fun next => ?_
      split
      · exact .bind fun _ => .after ih fun more hmore =>
          .pure (List.forall_mem_cons.mpr ⟨hfirst, hmore⟩)
      · exact .bind fun _ => .pure (List.forall_mem_singleton.mpr hfirst)

theorem Yields.listed {item : Reader α} (hitem : Yields item P) (opening closing : Char) :
    Yields (listed opening closing item) fun items => ∀ a ∈ items, P a :=
  .bind fun _ => .bind fun _ => hitem.itemsWithin closing _

end Reader

theorem ordered_bare (s : String) : (bare s).Ordered := by
  unfold bare
  split
  · exact .leaf rfl
  · split <;> exact .leaf rfl

theorem yields_unquoted : unquoted.Yields Setting.Ordered :=
  .orElse (.bind fun _ => .pure (.leaf rfl)) <| .orElse (.bind fun _ => .pure (.leaf rfl)) <|
    .bind fun _ => .pure (ordered_bare _)

theorem yields_entry {value : Reader Setting} (hvalue : Reader.Yields value Setting.Ordered) :
    Reader.Yields (entry value) (·.2.Ordered) := by
  refine .bind fun _ => .bind fun _ => ?_
  dsimp only
  split <;>
    exact .bind fun _ => .bind fun _ => .bind fun _ => .after hvalue fun _ h => .pure h

theorem ordered_foldl_insertEntry {entries l : List (String × Setting)}
    (hentries : ∀ e ∈ entries, e.2.Ordered) (hl : Setting.Ordered (.table l)) :
    Setting.Ordered
      (.table (entries.foldl (fun l e => Dictionary.insertEntry e.1 e.2 l) l)) := by
  induction entries generalizing l with
  | nil => exact hl
  | cons first rest ih =>
    obtain ⟨hfirst, hrest⟩ := List.forall_mem_cons.mp hentries
    exact ih hrest (hl.insertEntry _ hfirst)

theorem yields_valueWithin (depth : Nat) :
    Reader.Yields (valueWithin depth) Setting.Ordered := by
  induction depth with
  | zero => exact .throw _
  | succ depth ih =>
    have hend (setting : Setting) (h : setting.Ordered) : Reader.Yields (do
        Scan.skipWhile isGap
        return setting) Setting.Ordered :=
      .bind fun _ => .pure h
    refine .bind fun _ => .bind fun next => ?_
    dsimp only
    split
    · exact .after ((yields_entry ih).listed _ _) fun entries hentries =>
        .after (.pure (ordered_foldl_insertEntry hentries .emptyTable)) hend
    · exact .bind fun _ => .after (.pure (.leaf rfl)) hend
    · exact .bind fun _ => .after (.pure (.leaf rfl)) hend
    · exact .bind fun _ => .bind fun _ => .bind fun _ => .after (.pure (.leaf rfl)) hend
    · exact .after (.lift yields_unquoted) hend

theorem ordered_of_setting? {value : String} {setting : Setting}
    (h : setting? value = some setting) : setting.Ordered := by
  have hwhole : Reader.Yields (do
      let setting ← valueWithin (value.length + 1)
      Scan.atEnd
      return setting) Setting.Ordered :=
    .after (yields_valueWithin _) fun _ h => .bind fun _ => .pure h
  unfold setting? at h
  dsimp only at h
  split at h
  next found hfound =>
    cases h
    exact hwhole.of_run' hfound
  · cases h
    exact .leaf rfl
  · cases h

end EnvironmentValue

end OlapSynthesis
