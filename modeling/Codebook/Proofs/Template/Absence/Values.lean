import Codebook.Proofs.Outcome
import Codebook.Template.Items

/-!
# Values without a function

A template gets hold of a function by its name only. A value lacks a function if the function is
neither the value nor anywhere in it. Nothing that is done with values makes a function of what
lacks it: calculating puts lists together, and items and slices are chosen from what is there.
-/

namespace Codebook.Template

/-! ## Lacking a function -/

mutual

/-- The function is neither the value nor anywhere inside. -/
def Value.Lacks (f : Function) : Value → Prop
  | .function g => g ≠ f
  | .list items | .iterator _ items => Value.AllLack f items
  | .map _ entries => Value.EntriesLack f entries
  | .group common items => common.Lacks f ∧ Value.AllLack f items
  | .loop _ previous next => previous.Lacks f ∧ next.Lacks f
  | _ => True

/-- The function is nowhere in the values. -/
def Value.AllLack (f : Function) : List Value → Prop
  | [] => True
  | value :: rest => value.Lacks f ∧ Value.AllLack f rest

/-- The function is nowhere in the keys and the values of the entries. -/
def Value.EntriesLack (f : Function) : List (Value × Value) → Prop
  | [] => True
  | (key, value) :: rest => (key.Lacks f ∧ value.Lacks f) ∧ Value.EntriesLack f rest

end

variable {f : Function}

theorem Value.allLack_iff {values : List Value} :
    Value.AllLack f values ↔ ∀ value ∈ values, value.Lacks f := by
  induction values with
  | nil => simp [Value.AllLack]
  | cons value rest ih => simp [Value.AllLack, ih]

theorem Value.entriesLack_iff {entries : List (Value × Value)} :
    Value.EntriesLack f entries ↔ ∀ entry ∈ entries, entry.1.Lacks f ∧ entry.2.Lacks f := by
  induction entries with
  | nil => simp [Value.EntriesLack]
  | cons entry rest ih => simp only [Value.EntriesLack, ih, List.forall_mem_cons]

theorem Value.allLack_map {α : Type} {g : α → Value} (h : ∀ a, (g a).Lacks f) (xs : List α) :
    Value.AllLack f (xs.map g) :=
  Value.allLack_iff.2 (List.forall_mem_map.2 fun a _ => h a)

theorem Value.allLack_texts (texts : List Text) : Value.AllLack f (texts.map .text) :=
  Value.allLack_map (g := .text) (fun _ => trivial) texts

theorem Value.allLack_chars (t : Text) : Value.AllLack f (t.map fun c => .text [c]) :=
  Value.allLack_map (g := fun c => .text [c]) (fun _ => trivial) t

theorem Value.allLack_names (attributes : List (Text × Value)) :
    Value.AllLack f (namesOf attributes) :=
  Value.allLack_map (g := fun named => .text named.1) (fun _ => trivial) attributes

theorem Value.AllLack.of_subset {xs ys : List Value} (h : Value.AllLack f ys)
    (hsub : ∀ value ∈ xs, value ∈ ys) : Value.AllLack f xs :=
  Value.allLack_iff.2 fun value hvalue => Value.allLack_iff.1 h value (hsub value hvalue)

theorem Value.AllLack.append {xs ys : List Value} (hxs : Value.AllLack f xs)
    (hys : Value.AllLack f ys) : Value.AllLack f (xs ++ ys) := by
  rw [Value.allLack_iff] at *
  exact List.forall_mem_append.2 ⟨hxs, hys⟩

theorem Value.EntriesLack.append {xs ys : List (Value × Value)} (hxs : Value.EntriesLack f xs)
    (hys : Value.EntriesLack f ys) : Value.EntriesLack f (xs ++ ys) := by
  rw [Value.entriesLack_iff] at *
  exact List.forall_mem_append.2 ⟨hxs, hys⟩

/-- A value that may not be there lacks the function if it does where it is there. -/
theorem Value.lacks_getD {value? : Option Value} (h : ∀ value ∈ value?, value.Lacks f)
    {default : Value} (hdefault : default.Lacks f) : (value?.getD default).Lacks f := by
  cases value? with
  | none => exact hdefault
  | some value => exact h value rfl

theorem Value.AllLack.getElem? {values : List Value} (h : Value.AllLack f values) (place : Nat) :
    ∀ value ∈ values[place]?, value.Lacks f :=
  fun value hvalue => Value.allLack_iff.1 h value (List.mem_of_getElem? hvalue)

/-- Each result is that of one of the items. -/
theorem exists_mem_of_mem_mapM {α β : Type} {g : α → Option β} {xs : List α} {ys : List β}
    (h : xs.mapM g = some ys) {b : β} (hb : b ∈ ys) : ∃ a ∈ xs, g a = some b := by
  induction xs generalizing ys with
  | nil =>
    obtain rfl := Option.some.inj h
    exact absurd hb List.not_mem_nil
  | cons a xs ih =>
    rw [List.mapM_cons] at h
    -- every step has given a result, or there would be none of the whole
    obtain ⟨first, hfirst, h⟩ := Option.bind_eq_some_iff.1 h
    obtain ⟨rest, hrest, h⟩ := Option.bind_eq_some_iff.1 h
    obtain rfl := Option.some.inj h
    rcases List.mem_cons.1 hb with rfl | hb
    · exact ⟨a, List.mem_cons_self, hfirst⟩
    · obtain ⟨a', ha', heq⟩ := ih hrest hb
      exact ⟨a', List.mem_cons_of_mem a ha', heq⟩

/-! ## Maps -/

theorem Value.entriesLack_named {attributes : List (Text × Value)}
    (h : ∀ named ∈ attributes, named.2.Lacks f) : Value.EntriesLack f (namedEntries attributes) :=
  Value.entriesLack_iff.2 (List.forall_mem_map.2 fun named hnamed => ⟨trivial, h named hnamed⟩)

theorem Value.ofCount?_lacks (count? : Option Nat) : (Value.ofCount? count?).Lacks f := by
  cases count? <;> trivial

theorem LoopState.attributes_lack (state : LoopState) {previous next : Value}
    (hprevious : previous.Lacks f) (hnext : next.Lacks f) :
    ∀ named ∈ state.attributes previous next, named.2.Lacks f := by
  simp only [LoopState.attributes, List.forall_mem_cons]
  exact ⟨trivial, trivial, Value.ofCount?_lacks _, Value.ofCount?_lacks _, Value.ofCount?_lacks _,
    trivial, trivial, trivial, trivial, hprevious, hnext, List.forall_mem_nil _⟩

theorem RoutineHead.attributes_lack (head : RoutineHead) :
    ∀ named ∈ head.attributes, named.2.Lacks f := by
  simp only [RoutineHead.attributes, List.forall_mem_cons]
  exact ⟨trivial, Value.allLack_texts _, trivial, List.forall_mem_nil _⟩

theorem Value.EntriesLack.of_entries? {value : Value} {entries : List (Value × Value)}
    (h : value.Lacks f) (hentries : value.entries? = some entries) :
    Value.EntriesLack f entries := by
  cases value <;> simp only [Value.entries?, Option.some.injEq, reduceCtorEq] at hentries
  case map => exact hentries ▸ h
  case loop state previous next =>
    exact hentries ▸ Value.entriesLack_named (state.attributes_lack h.1 h.2)

theorem entryOf?_lacks {entries : List (Value × Value)} (h : Value.EntriesLack f entries)
    (key : Value) : ∀ value ∈ entryOf? entries key, value.Lacks f := by
  intro value hvalue
  obtain ⟨entry, hentry, rfl⟩ := Option.map_eq_some_iff.1 hvalue
  exact (Value.entriesLack_iff.1 h entry (List.mem_of_find?_eq_some hentry)).2

theorem withEntry_lacks {key value : Value} (hkey : key.Lacks f) (hvalue : value.Lacks f)
    {entries : List (Value × Value)} (h : Value.EntriesLack f entries) :
    Value.EntriesLack f (withEntry key value entries) := by
  induction entries with
  | nil => exact ⟨⟨hkey, hvalue⟩, trivial⟩
  | cons entry rest ih =>
    obtain ⟨⟨hfirst, hits⟩, hrest⟩ := h
    unfold withEntry
    split
    · exact ⟨⟨hkey, hvalue⟩, ⟨hfirst, hits⟩, hrest⟩
    · exact ⟨⟨hfirst, hvalue⟩, hrest⟩
    · exact ⟨⟨hfirst, hits⟩, ih hrest⟩

theorem entriesOf_lacks {entries : List (Value × Value)} (h : Value.EntriesLack f entries) :
    Value.EntriesLack f (entriesOf entries) := by
  have hfold (sorted : List (Value × Value)) (hsorted : Value.EntriesLack f sorted) :
      Value.EntriesLack f
        (entries.foldl (fun sorted entry => withEntry entry.1 entry.2 sorted) sorted) := by
    induction entries generalizing sorted with
    | nil => exact hsorted
    | cons entry rest ih =>
      obtain ⟨⟨hkey, hvalue⟩, hrest⟩ := h
      exact ih hrest _ (withEntry_lacks hkey hvalue hsorted)
  exact hfold [] trivial

/-! ## Items -/

theorem Value.AllLack.of_elements? {value : Value} {items : List Value} (h : value.Lacks f)
    (helements : value.elements? = some items) : Value.AllLack f items := by
  cases value <;> simp only [Value.elements?, Option.some.injEq, reduceCtorEq] at helements
  case group common items => exact helements ▸ ⟨h.1, h.2, trivial⟩
  all_goals exact helements ▸ h

theorem Value.AllLack.of_items? {value : Value} {items : List Value} (h : value.Lacks f)
    (hitems : value.items? = some items) : Value.AllLack f items := by
  cases value <;> simp only [Value.items?, Option.some.injEq, reduceCtorEq] at hitems
  case group common items => exact hitems ▸ ⟨h.1, h.2, trivial⟩
  case text t => exact hitems ▸ Value.allLack_chars t
  case markup t => exact hitems ▸ Value.allLack_chars t
  case map use entries =>
    rw [← hitems, Value.allLack_iff]
    exact List.forall_mem_map.2 fun entry hentry => (Value.entriesLack_iff.1 h entry hentry).1
  case loop state previous next => exact hitems ▸ Value.allLack_names _
  case routine head => exact hitems ▸ Value.allLack_names _
  all_goals exact hitems ▸ h

theorem Value.AllLack.of_members? {value : Value} {items : List Value} (h : value.Lacks f)
    (hitems : value.members? = some items) : Value.AllLack f items := by
  unfold Value.members? at hitems
  split at hitems
  · exact nomatch hitems
  · exact .of_items? h hitems

theorem Value.iterate_gives {value : Value} (h : value.Lacks f) :
    value.iterate.Gives (Value.AllLack f) := by
  unfold Value.iterate
  split
  · exact Except.gives_error
  · split
    · next hitems => exact Except.gives_ok.2 (.of_items? h hitems)
    · exact Except.gives_error

theorem Value.defined_gives {value : Value} (h : value.Lacks f) :
    value.defined.Gives (Value.Lacks f) := by
  unfold Value.defined
  split
  · exact Except.gives_error
  · exact Except.gives_ok.2 h

theorem mem_of_mem_itemAt? {α : Type} {items : List α} {place : Int} {a : α}
    (h : a ∈ itemAt? items place) : a ∈ items := by
  unfold itemAt? at h
  split at h
  · exact List.mem_of_getElem? h
  · split at h
    · exact List.mem_of_getElem? h
    · exact nomatch h

/-- What is at a place that a value stands for. -/
theorem Value.AllLack.itemAt? {items : List Value} (h : Value.AllLack f items) (index : Value) :
    ∀ item ∈ index.code?.bind fun code => Template.itemAt? items code.value, item.Lacks f := by
  intro item hitem
  obtain ⟨code, -, hcode⟩ := Option.bind_eq_some_iff.1 hitem
  exact Value.allLack_iff.1 h item (mem_of_mem_itemAt? hcode)

theorem Value.lookup?_lacks {value : Value} (h : value.Lacks f) (index : Value) :
    ∀ item ∈ value.lookup? index, item.Lacks f := by
  intro item hitem
  unfold Value.lookup? at hitem
  split at hitem
  · exact Value.AllLack.itemAt? h index item hitem
  · exact Value.AllLack.itemAt? h index item hitem
  · -- a group goes by its two names first
    next common items =>
    split at hitem
    · exact Option.some.inj hitem ▸ h.1
    · split at hitem
      · exact Option.some.inj hitem ▸ h.2
      · have hboth : Value.AllLack f [common, .list items] := ⟨h.1, h.2, trivial⟩
        exact hboth.itemAt? index item hitem
  · obtain ⟨c, -, rfl⟩ := Option.map_eq_some_iff.1 hitem
    trivial
  · obtain ⟨c, -, rfl⟩ := Option.map_eq_some_iff.1 hitem
    trivial
  · exact entryOf?_lacks h index item hitem
  · next state previous next =>
    have hentries := Value.entriesLack_named (state.attributes_lack h.1 h.2)
    exact entryOf?_lacks hentries index item hitem
  · next head =>
    exact entryOf?_lacks (Value.entriesLack_named head.attributes_lack) index item hitem
  · exact nomatch hitem

theorem Value.item_gives {value : Value} (h : value.Lacks f) (index : Value) :
    (value.item index).Gives (Value.Lacks f) := by
  unfold Value.item
  split
  · exact Except.gives_error
  · exact Except.gives_ok.2 (Value.lacks_getD (Value.lookup?_lacks h index) trivial)

theorem Value.attribute_gives {value : Value} (h : value.Lacks f) (name : Text) :
    (value.attribute name).Gives (Value.Lacks f) := Value.item_gives h _

theorem Value.itemAlong_gives {value : Value} (h : value.Lacks f) (path : Text) :
    (value.itemAlong path).Gives (Value.Lacks f) := by
  unfold Value.itemAlong
  induction Text.splitOn ['.'] path generalizing value with
  | nil => exact Except.gives_ok.2 h
  | cons step rest ih =>
    rw [List.foldlM_cons]
    refine Except.Gives.bind (P := Value.Lacks f) ?_ fun item hitem => ih hitem
    split
    · exact Value.item_gives h _
    · exact Value.attribute_gives h step

theorem Value.itemAlongOr_lacks {value default : Value} (h : value.Lacks f)
    (hdefault : default.Lacks f) (path : Text) : (value.itemAlongOr path default).Lacks f := by
  unfold Value.itemAlongOr
  split
  · next item hitem =>
    split
    · exact hdefault
    · exact Value.itemAlong_gives h path item hitem
  · exact hdefault

/-! ## Slices -/

theorem mem_of_mem_everyNth {α : Type} {a : α} {step skip : Nat} {items : List α}
    (h : a ∈ everyNth step skip items) : a ∈ items := by
  induction items generalizing skip with
  | nil => exact absurd h (by simp [everyNth])
  | cons x rest ih =>
    cases skip with
    | zero =>
      rcases List.mem_cons.1 h with rfl | h
      · exact List.mem_cons_self
      · exact List.mem_cons_of_mem x (ih h)
    | succ skip => exact List.mem_cons_of_mem x (ih h)

theorem mem_of_mem_sliced {α : Type} {a : α} {items : List α} {start stop : Option Int} {step : Int}
    (h : a ∈ sliced items start stop step) : a ∈ items := by
  unfold sliced at h
  split at h
  · exact List.mem_of_mem_take (List.mem_of_mem_drop (mem_of_mem_everyNth h))
  · have hback := List.mem_reverse.1 (mem_of_mem_everyNth h)
    exact List.mem_of_mem_take (List.mem_of_mem_drop hback)

theorem Value.slice_gives {value : Value} (h : value.Lacks f) (start stop step : Value) :
    (value.slice start stop step).Gives (Value.Lacks f) := by
  unfold Value.slice
  dsimp only
  split
  · exact Except.gives_error
  refine Except.gives_bind fun start => Except.gives_bind fun stop => Except.gives_bind
    fun step? => ?_
  split
  · exact Except.gives_error
  -- a text shows as a text, and a list gives some of its items
  split
  · exact Except.gives_ok.2 trivial
  · next items hitems =>
    exact Except.gives_ok.2
      ((Value.AllLack.of_elements? h hitems).of_subset fun _ => mem_of_mem_sliced)
  · split
    · exact Except.gives_ok.2 trivial
    · exact Except.gives_error

/-! ## Calculating -/

theorem mem_of_mem_prepend {α : Type} {a : α} {backwards others : List α} {count : Nat}
    (h : a ∈ prepend backwards count others) : a ∈ backwards ∨ a ∈ others := by
  induction count generalizing others with
  | zero => exact .inr h
  | succ count ih =>
    rcases ih h with h | h
    · exact .inl h
    · rw [List.reverseAux_eq, List.mem_append, List.mem_reverse] at h
      exact h

theorem mem_of_mem_repeated {α : Type} {a : α} {items : List α} {count : Nat}
    (h : a ∈ repeated items count) : a ∈ items := by
  unfold repeated at h
  split at h
  · exact absurd h List.not_mem_nil
  · rcases mem_of_mem_prepend h with h | h
    · exact List.mem_reverse.1 h
    · exact absurd h List.not_mem_nil

theorem Arithmetic.onNumbers_gives (op : Arithmetic) (a b : Value) :
    (op.onNumbers a b).Gives (Value.Lacks f) := by
  unfold Arithmetic.onNumbers
  split
  · split
    · exact Except.gives_ok.2 trivial
    · split
      · split
        · exact Except.gives_ok.2 trivial
        · exact Except.gives_error
      · exact Except.gives_error
  · exact Except.gives_error

theorem repeatText_gives (t : Text) (count : Value) :
    (repeatText t count).Gives (Value.Lacks f) := by
  unfold repeatText
  split
  · exact Except.gives_error
  · split
    · exact Except.gives_error
    · exact Except.gives_ok.2 trivial

theorem repeatList_gives {items : List Value} (h : Value.AllLack f items) (counted : Bool)
    (count : Value) : (repeatList items counted count).Gives (Value.Lacks f) := by
  unfold repeatList
  split
  · exact Except.gives_error
  · split
    · exact Except.gives_ok.2 (h.of_subset fun _ => mem_of_mem_repeated)
    · exact Except.gives_error

theorem addValues_gives {a b : Value} (ha : a.Lacks f) (hb : b.Lacks f) :
    (addValues a b).Gives (Value.Lacks f) := by
  unfold addValues
  split
  · exact Except.gives_ok.2 trivial
  · split
    · next xs ys hxs hys =>
      exact Except.gives_ok.2 ((Value.AllLack.of_elements? ha hxs).append (.of_elements? hb hys))
    · exact Arithmetic.onNumbers_gives .add a b

theorem multiplyValues_gives {a b : Value} (ha : a.Lacks f) (hb : b.Lacks f) :
    (multiplyValues a b).Gives (Value.Lacks f) := by
  unfold multiplyValues
  split
  · exact repeatText_gives _ _
  · exact repeatText_gives _ _
  · split
    · next xs hxs => exact repeatList_gives (.of_elements? ha hxs) _ b
    · next ys _ hys => exact repeatList_gives (.of_elements? hb hys) _ a
    · exact Arithmetic.onNumbers_gives .multiply a b

theorem Arithmetic.apply_gives (op : Arithmetic) {a b : Value} (ha : a.Lacks f)
    (hb : b.Lacks f) : (op.apply a b).Gives (Value.Lacks f) := by
  unfold Arithmetic.apply
  split
  · exact addValues_gives ha hb
  · exact multiplyValues_gives ha hb
  · exact op.onNumbers_gives a b

theorem Value.negate_gives (value : Value) : value.negate.Gives (Value.Lacks f) := by
  unfold Value.negate
  split
  · exact Except.gives_ok.2 trivial
  · split
    · exact Except.gives_ok.2 trivial
    · exact Except.gives_error
  · split
    · exact Except.gives_error
    · exact Except.gives_ok.2 trivial
  · exact Except.gives_error

end Codebook.Template
