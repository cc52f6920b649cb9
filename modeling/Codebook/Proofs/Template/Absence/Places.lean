import Codebook.Proofs.Template.Absence.Statements
import Codebook.Template.Scope

/-!
# Places without a function

A place lacks a function if no name in scope has a value with it, and a store lacks it if it is
neither in a cell nor named in a macro that has been declared. The functions are behind all frames,
each by its own name: another name than that of the function has a value that lacks it.
-/

namespace Codebook.Template

variable {f : Function}

/-- A name has one of the values that are there. -/
theorem lookup_lacks {entries : List (Text × Value)} (h : ∀ entry ∈ entries, entry.2.Lacks f)
    (name : Text) : ∀ value ∈ entries.lookup name, value.Lacks f := by
  intro value hvalue
  obtain ⟨front, behind, hsplit, -⟩ := List.lookup_eq_some_iff.1 hvalue
  exact h (name, value) (by rw [hsplit]; simp)

/-! ## Stores -/

/-- The macro does not name the function. -/
structure Routine.Lacks (f : Function) (routine : Routine) : Prop where
  parameters : ParametersLack f routine.parameters
  body : Stmt.AllLack f routine.body

/-- No cell of the store holds the function, and no macro names it. -/
structure Store.Lacks (f : Function) (store : Store) : Prop where
  cells : ∀ entries ∈ store.cells, ∀ entry ∈ entries, entry.2.Lacks f
  routines : ∀ routine ∈ store.routines, routine.Lacks f

namespace Store

variable {store : Store}

theorem empty_lacks : empty.Lacks f := ⟨List.forall_mem_nil _, List.forall_mem_nil _⟩

theorem Lacks.cell (h : store.Lacks f) (place : Nat) :
    ∀ entry ∈ store.cell place, entry.2.Lacks f := by
  unfold Store.cell
  cases hentries : store.cells[place]? with
  | none => exact List.forall_mem_nil _
  | some entries => exact h.cells entries (List.mem_of_getElem? hentries)

theorem Lacks.withCell (h : store.Lacks f) {entries : List (Text × Value)}
    (hentries : ∀ entry ∈ entries, entry.2.Lacks f) : (store.withCell entries).Lacks f :=
  ⟨List.forall_mem_append.2 ⟨h.cells, List.forall_mem_singleton.2 hentries⟩, h.routines⟩

theorem Lacks.withEntry (h : store.Lacks f) (place : Nat) (name : Text) {value : Value}
    (hvalue : value.Lacks f) : (store.withEntry place name value).Lacks f := by
  refine ⟨fun entries hentries => ?_, h.routines⟩
  obtain ⟨i, hi⟩ := List.mem_iff_getElem?.1 hentries
  rw [Store.withEntry, List.getElem?_modify] at hi
  obtain ⟨before, hbefore, rfl⟩ := Option.map_eq_some_iff.1 hi
  have hcell := h.cells before (List.mem_of_getElem? hbefore)
  split
  · exact List.forall_mem_cons.2
      ⟨hvalue, fun entry hentry => hcell entry (List.mem_filter.1 hentry).1⟩
  · exact hcell

theorem Lacks.withMemory (h : store.Lacks f) (place : Nat) (values : List Value) :
    (store.withMemory place values).Lacks f := ⟨h.cells, h.routines⟩

theorem Lacks.forgetting (h : store.Lacks f) (place : Nat) : (store.forgetting place).Lacks f :=
  ⟨h.cells, h.routines⟩

theorem Lacks.withRoutine (h : store.Lacks f) {routine : Routine} (hroutine : routine.Lacks f) :
    (store.withRoutine routine).Lacks f :=
  ⟨h.cells, List.forall_mem_append.2 ⟨h.routines, List.forall_mem_singleton.2 hroutine⟩⟩

end Store

/-! ## Values that are up to date -/

section Updating

variable {entries : Nat → List (Value × Value)}

mutual

theorem Value.updated_lacks (h : ∀ cell, Value.EntriesLack f (entries cell)) :
    ∀ value : Value, value.Lacks f → (value.updated entries).Lacks f
  | .list items, hitems | .iterator _ items, hitems =>
    Value.allUpdated_lack h items hitems
  | .map (.shared cell) _, _ => h cell
  | .map .plain its, hits | .map .keywords its, hits =>
    Value.entriesUpdated_lack h its hits
  | .group common items, ⟨hcommon, hitems⟩ =>
    ⟨common.updated_lacks h hcommon, Value.allUpdated_lack h items hitems⟩
  | .loop _ previous next, ⟨hprevious, hnext⟩ =>
    ⟨previous.updated_lacks h hprevious, next.updated_lacks h hnext⟩
  | .function _, hvalue => hvalue
  | .undefined, _ | .nothing, _ | .null, _ | .boolean _, _ | .natural _, _ | .integer _, _
  | .float _, _ | .text _, _ | .markup _, _ | .builtin _, _ | .routine _, _ => trivial

theorem Value.allUpdated_lack (h : ∀ cell, Value.EntriesLack f (entries cell)) :
    ∀ items : List Value, Value.AllLack f items → Value.AllLack f (Value.allUpdated entries items)
  | [], _ => trivial
  | item :: rest, ⟨hitem, hrest⟩ =>
    ⟨item.updated_lacks h hitem, Value.allUpdated_lack h rest hrest⟩

theorem Value.entriesUpdated_lack (h : ∀ cell, Value.EntriesLack f (entries cell)) :
    ∀ its : List (Value × Value), Value.EntriesLack f its →
      Value.EntriesLack f (Value.entriesUpdated entries its)
  | [], _ => trivial
  | (key, value) :: rest, ⟨⟨hkey, hvalue⟩, hrest⟩ =>
    ⟨⟨key.updated_lacks h hkey, value.updated_lacks h hvalue⟩,
      Value.entriesUpdated_lack h rest hrest⟩

end

end Updating

theorem Store.entries_lack {store : Store} (h : store.Lacks f) (depth place : Nat) :
    Value.EntriesLack f (store.entries depth place) := by
  induction depth generalizing place with
  | zero => trivial
  | succ depth ih =>
    have hcell := entriesOf_lacks (Value.entriesLack_named (h.cell place))
    refine Value.entriesLack_iff.2 (List.forall_mem_map.2 fun entry hentry => ?_)
    obtain ⟨hkey, hvalue⟩ := Value.entriesLack_iff.1 hcell entry hentry
    exact ⟨hkey, Value.updated_lacks ih entry.2 hvalue⟩

theorem Store.update_lacks {store : Store} (h : store.Lacks f) {value : Value}
    (hvalue : value.Lacks f) : (store.update value).Lacks f := by
  unfold Store.update
  split
  · exact hvalue
  · exact Value.updated_lacks (store.entries_lack h _) value hvalue

/-! ## Frames -/

/-- The turn has no value with the function, and the loop cannot be started over with it. -/
structure Turn.Lacks (f : Function) (turn : Turn) : Prop where
  previous : turn.previous.Lacks f
  next : turn.next.Lacks f
  recursion : ∀ recursion ∈ turn.recursion,
    recursion.target.Lacks f ∧ Stmt.AllLack f recursion.body

/-- No name of the frame holds the function. -/
structure Frame.Lacks (f : Function) (frame : Frame) : Prop where
  locals : ∀ entry ∈ frame.locals, entry.2.Lacks f
  turn : ∀ turn ∈ frame.turn, turn.Lacks f

/-- No name that has been assigned holds the function. -/
def Scope.Lacks (f : Function) (scope : Scope) : Prop := ∀ frame ∈ scope, Frame.Lacks f frame

theorem Frame.empty_lacks : Frame.empty.Lacks f := ⟨List.forall_mem_nil _, fun _ h => nomatch h⟩

theorem Frame.outermost_lacks : Frame.outermost.Lacks f :=
  ⟨List.forall_mem_nil _, fun _ h => nomatch h⟩

theorem Frame.ofTurn_lacks {turn : Turn} (h : turn.Lacks f) : (Frame.ofTurn turn).Lacks f :=
  ⟨List.forall_mem_nil _, fun _ hturn => Option.some.inj hturn ▸ h⟩

theorem Frame.Lacks.withLocal {frame : Frame} (h : frame.Lacks f) (name : Text) {value : Value}
    (hvalue : value.Lacks f) : (frame.withLocal name value).Lacks f :=
  ⟨List.forall_mem_cons.2 ⟨hvalue, h.locals⟩, h.turn⟩

theorem Scope.Lacks.cons {frame : Frame} {scope : Scope} (hframe : frame.Lacks f)
    (hscope : Scope.Lacks f scope) : Scope.Lacks f (frame :: scope) :=
  List.forall_mem_cons.2 ⟨hframe, hscope⟩

theorem Scope.Lacks.turn? {scope : Scope} (h : Scope.Lacks f scope) :
    ∀ turn ∈ scope.turn?, turn.Lacks f := by
  intro turn hturn
  obtain ⟨frame, hframe, hturn⟩ := List.exists_of_findSome?_eq_some hturn
  exact (h frame hframe).turn turn hturn

theorem Context.codes_lack (context : Context) : context.codes.Lacks f :=
  Value.allLack_map (g := fun code : Code => .integer code.value) (fun _ => trivial) _

theorem Context.value?_lacks (context : Context) (name : Text) :
    ∀ value ∈ context.value? name, value.Lacks f := by
  intro value hvalue
  unfold Context.value? at hvalue
  split at hvalue
  · exact Option.some.inj hvalue ▸ context.codes_lack
  · split at hvalue
    · obtain rfl := Option.some.inj hvalue
      trivial
    · exact nomatch hvalue

theorem Frame.behind?_lacks {store : Store} (hstore : store.Lacks f) (context : Context)
    (frame : Frame) (name : Text) : ∀ value ∈ frame.behind? context store name, value.Lacks f := by
  unfold Frame.behind?
  split
  · exact fun _ h => nomatch h
  · exact context.value?_lacks name
  · exact lookup_lacks (hstore.cell _) name

theorem Frame.value?_lacks {store : Store} (hstore : store.Lacks f) {frame : Frame}
    (h : frame.Lacks f) (context : Context) (name : Text) :
    ∀ value ∈ frame.value? context store name, value.Lacks f := by
  intro value hvalue
  unfold Frame.value? at hvalue
  split at hvalue
  · next found hfound => exact Option.some.inj hvalue ▸ lookup_lacks h.locals name found hfound
  · split at hvalue
    · -- the state of the loop
      next turn hturn =>
      have hturn : turn ∈ frame.turn := by
        split at hturn
        · exact hturn
        · exact nomatch hturn
      obtain rfl := Option.some.inj hvalue
      exact ⟨(h.turn turn hturn).previous, (h.turn turn hturn).next⟩
    · exact Frame.behind?_lacks hstore context frame name value hvalue

/-! ## Names -/

theorem Function.ofName?_eq_some {name : Text} {g : Function}
    (h : Function.ofName? name = some g) : g.name = name := by
  simpa using List.find?_some h

/-- The function with another name is another function. -/
theorem functionOf?_lacks {name : Text} (hname : name ≠ f.name) :
    ∀ value ∈ functionOf? name, value.Lacks f := by
  intro value hvalue
  unfold functionOf? at hvalue
  split at hvalue
  · next g hg =>
    obtain rfl := Option.some.inj hvalue
    rintro rfl
    exact hname (Function.ofName?_eq_some hg).symm
  · obtain ⟨b, -, rfl⟩ := Option.map_eq_some_iff.1 hvalue
    trivial

/-- **A name other than that of the function does not hold it.** -/
theorem Scope.value?_lacks {store : Store} (hstore : store.Lacks f) {scope : Scope}
    (hscope : Scope.Lacks f scope) (context : Context) {name : Text} (hname : name ≠ f.name) :
    ∀ value ∈ scope.value? context store name, value.Lacks f := by
  intro value hvalue
  unfold Scope.value? at hvalue
  split at hvalue
  · next found hfound =>
    obtain ⟨frame, hframe, hfound⟩ := List.exists_of_findSome?_eq_some hfound
    have hlacks := Frame.value?_lacks hstore (hscope frame hframe) context name found hfound
    exact Option.some.inj hvalue ▸ store.update_lacks hstore hlacks
  · exact functionOf?_lacks hname value hvalue

end Codebook.Template
