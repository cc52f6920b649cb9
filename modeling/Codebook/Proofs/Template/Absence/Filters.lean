import Codebook.Proofs.Template.Absence.Values
import Codebook.Template.Filter

/-!
# Filters without a function

What a filter gives is a text, a number, or made of what the value and the arguments hold: sorting,
grouping, slicing and choosing take items from a list and put them together in another way. So a
filter that is applied to what lacks a function gives something that lacks it, also where it applies
another filter to each item.
-/

namespace Codebook.Template

variable {f : Function}

/-! ## Arguments -/

/-- The function is in none of the arguments, neither in those with names nor in the others. -/
structure Given.Lacks (f : Function) (given : Given) : Prop where
  positional : Value.AllLack f given.positional
  keywords : Value.EntriesLack f given.keywords

theorem Given.lacks_of {arguments : List Value} (h : Value.AllLack f arguments) :
    (Given.of arguments).Lacks f := by
  unfold Given.of
  split
  · next entries hlast =>
    have hnamed := Value.allLack_iff.1 h _ (List.mem_of_getLast? hlast)
    exact ⟨h.of_subset (List.dropLast_subset arguments), hnamed⟩
  · exact ⟨h, trivial⟩

theorem Given.Lacks.keyword? {given : Given} (h : given.Lacks f) (name : Text) :
    ∀ value ∈ given.keyword? name, value.Lacks f := entryOf?_lacks h.keywords _

theorem valueArgument_gives {argument : Option Value} (h : ∀ value ∈ argument, value.Lacks f) :
    (valueArgument argument).Gives (Value.Lacks f) := by
  cases argument with
  | none => exact Except.gives_error
  | some value => exact Value.defined_gives (h value rfl)

theorem optional_valueArgument_gives {argument : Option Value}
    (h : ∀ value ∈ argument, value.Lacks f) :
    (optional valueArgument argument).Gives fun value? => ∀ value ∈ value?, value.Lacks f := by
  unfold optional
  split
  all_goals try exact Except.gives_ok.2 fun _ hnone => nomatch hnone
  next value _ _ _ =>
  refine (valueArgument_gives h).map fun value hvalue other hother => ?_
  exact Option.some.inj hother ▸ hvalue

/-! ## Choosing a value -/

theorem Value.first_gives {value : Value} (h : value.Lacks f) :
    value.first.Gives (Value.Lacks f) := by
  unfold Value.first
  split
  · next t _ => exact Except.gives_ok.2 (by cases t.head? <;> trivial)
  · next items hitems =>
    have hall := Value.AllLack.of_members? h hitems
    exact Except.gives_ok.2 (Value.lacks_getD
      (fun item hitem => Value.allLack_iff.1 hall item (List.mem_of_head? hitem)) trivial)
  · exact Except.gives_error

theorem Value.last_gives {value : Value} (h : value.Lacks f) :
    value.last.Gives (Value.Lacks f) := by
  unfold Value.last
  split
  · next t _ => exact Except.gives_ok.2 (by cases t.getLast? <;> trivial)
  · next items hitems =>
    have hall := Value.AllLack.of_elements? h hitems
    exact Except.gives_ok.2 (Value.lacks_getD
      (fun item hitem => Value.allLack_iff.1 hall item (List.mem_of_getLast? hitem)) trivial)
  · exact Except.gives_error

theorem Value.listed_gives {value : Value} (h : value.Lacks f) :
    value.listed.Gives (Value.AllLack f) := by
  unfold Value.listed
  split
  · next items hitems => exact Except.gives_ok.2 (.of_items? h hitems)
  · exact Except.gives_error

theorem leastOf_lacks {before : Value → Value → Bool} {items : List Value}
    (h : Value.AllLack f items) : (leastOf before items).Lacks f := by
  cases items with
  | nil => trivial
  | cons item rest =>
    obtain ⟨hitem, hrest⟩ := h
    rw [leastOf]
    -- the least item so far takes the place of the first one
    induction rest generalizing item with
    | nil => exact hitem
    | cons next rest ih =>
      obtain ⟨hnext, hrest⟩ := hrest
      rw [List.foldl_cons]
      split
      · exact ih next hnext hrest
      · exact ih item hitem hrest

theorem ItemFilter.apply_gives (filter : ItemFilter) {value : Value} {arguments : List Value}
    (h : value.Lacks f) : (filter.apply value arguments).Gives (Value.Lacks f) := by
  match filter with
  | .first => exact Except.gives_bind fun _ => Value.first_gives h
  | .last => exact Except.gives_bind fun _ => Value.last_gives h
  | .least | .greatest =>
    exact Except.gives_bind fun _ => (Value.listed_gives h).bind fun items hitems =>
      Except.gives_ok.2 (leastOf_lacks hitems)
  | .attribute =>
    exact Except.gives_bind fun key => Except.gives_bind fun _ => Value.item_gives h key

theorem Value.orDefault_gives {value : Value} {arguments : List Value} (h : value.Lacks f)
    (harguments : Value.AllLack f arguments) :
    (value.orDefault arguments).Gives (Value.Lacks f) := by
  refine Except.gives_bind fun _ => Except.gives_bind fun others => ?_
  split
  · exact Except.gives_ok.2 (Value.lacks_getD (harguments.getElem? 0) trivial)
  · exact Except.gives_ok.2 h

/-! ## Numbers -/

theorem Value.length_gives (value : Value) : value.length.Gives (Value.Lacks f) := by
  unfold Value.length
  split
  · exact Except.gives_ok.2 trivial
  · exact Except.gives_error

theorem Value.magnitude_gives (value : Value) : value.magnitude.Gives (Value.Lacks f) := by
  unfold Value.magnitude
  split
  · exact Except.gives_ok.2 trivial
  · split
    · exact Except.gives_error
    · exact Except.gives_ok.2 trivial
  · exact Except.gives_ok.2 trivial
  · exact Except.gives_error

theorem Value.rounded_gives (places : Int) (value : Value) :
    (value.rounded places).Gives (Value.Lacks f) := by
  unfold Value.rounded
  split
  · exact Except.gives_ok.2 trivial
  · exact Except.gives_ok.2 trivial
  · exact Except.gives_ok.2 trivial
  · exact Except.gives_error

theorem Value.toInteger_gives (value : Value) : value.toInteger.Gives (Value.Lacks f) := by
  unfold Value.toInteger
  split
  case h_8 | h_9 =>
    split
    · exact Except.gives_ok.2 trivial
    · exact (Except.gives_some _).map fun _ _ => trivial
  case h_10 => exact Except.gives_error
  all_goals exact Except.gives_ok.2 trivial

theorem Value.toDouble_gives (value : Value) : value.toDouble.Gives (Value.Lacks f) := by
  unfold Value.toDouble
  split
  case h_4 | h_5 => exact (Except.gives_some _).map fun _ _ => trivial
  case h_6 =>
    split
    · exact Except.gives_ok.2 trivial
    · exact Except.gives_error
  all_goals exact Except.gives_ok.2 trivial

theorem sumFrom_gives {sum : Value} (h : sum.Lacks f) (items : List Value) :
    (sumFrom sum items).Gives (Value.Lacks f) := by
  induction items generalizing sum with
  | nil => exact Except.gives_ok.2 h
  | cons item rest ih =>
    refine Except.gives_bind fun item => ?_
    split
    · exact (Arithmetic.onNumbers_gives .add sum item).bind fun _ hsum => ih hsum
    · exact Except.gives_error

theorem NumberFilter.apply_gives (filter : NumberFilter) (value : Value) (arguments : List Value) :
    (filter.apply value arguments).Gives (Value.Lacks f) := by
  cases filter with
  | length => exact Except.gives_bind fun _ => value.length_gives
  | abs => exact Except.gives_bind fun _ => value.magnitude_gives
  | round => exact Except.gives_bind fun _ => Except.gives_bind fun _ => value.rounded_gives _
  | int => exact Except.gives_bind fun _ => value.toInteger_gives
  | float => exact Except.gives_bind fun _ => value.toDouble_gives
  | sum =>
    have hzero : (Value.natural 0).Lacks f := trivial
    exact Except.gives_bind fun _ => Except.gives_bind fun _ => sumFrom_gives hzero _
  | bool => exact Except.gives_bind fun _ => Except.gives_ok.2 trivial

theorem MarkupFilter.apply_gives (filter : MarkupFilter) {value : Value} {arguments : List Value}
    (h : value.Lacks f) : (filter.apply value arguments).Gives (Value.Lacks f) := by
  refine Except.gives_bind fun _ => ?_
  cases filter with
  | safe | escape => exact Except.gives_ok.2 trivial
  | string =>
    dsimp only
    split
    · exact Except.gives_ok.2 h
    · exact Except.gives_ok.2 trivial

/-! ## Making a list -/

theorem pairsOf_lacks {entries : List (Value × Value)} (h : Value.EntriesLack f entries) :
    Value.AllLack f (pairsOf entries) := by
  refine Value.allLack_iff.2 (List.forall_mem_map.2 fun entry hentry => ?_)
  obtain ⟨hkey, hvalue⟩ := Value.entriesLack_iff.1 h entry hentry
  exact ⟨hkey, hvalue, trivial⟩

theorem Value.pairs_gives {value : Value} (h : value.Lacks f) :
    value.pairs.Gives (Value.EntriesLack f) := by
  unfold Value.pairs
  split
  · next entries hentries => exact Except.gives_ok.2 (.of_entries? h hentries)
  · exact Except.gives_error

theorem mem_sortedBy {α : Type} {order : α → α → Ordering} {backwards : Bool} {items : List α}
    {a : α} : a ∈ sortedBy order backwards items ↔ a ∈ items := by
  unfold sortedBy
  cases backwards
  · exact List.mem_mergeSort
  · exact List.mem_reverse.trans List.mem_mergeSort

theorem Value.reversed_gives {value : Value} (h : value.Lacks f) :
    value.reversed.Gives (Value.Lacks f) := by
  unfold Value.reversed
  split
  · exact Except.gives_ok.2 trivial
  · next items hitems =>
    refine Except.gives_ok.2 ?_
    split
    · exact h
    · exact (Value.AllLack.of_items? h hitems).of_subset fun _ => List.mem_reverse.1
  · exact Except.gives_error

theorem mem_of_mem_batches {count : Nat} {current items batch : List Value} {value : Value}
    (h : batch ∈ batches count current items) (hvalue : value ∈ batch) :
    value ∈ current ∨ value ∈ items := by
  induction items generalizing current with
  | nil =>
    unfold batches at h
    split at h
    · exact nomatch h
    · exact .inl (List.mem_singleton.1 h ▸ hvalue)
  | cons item rest ih =>
    unfold batches at h
    -- the batch is full and handed out, or takes one item more
    split at h
    · rcases List.mem_cons.1 h with rfl | h
      · exact .inl hvalue
      · rcases ih h with hmem | hmem
        · exact .inr (List.mem_singleton.1 hmem ▸ List.mem_cons_self)
        · exact .inr (List.mem_cons_of_mem item hmem)
    · rcases ih h with hmem | hmem
      · rcases List.mem_append.1 hmem with hmem | hmem
        · exact .inl hmem
        · exact .inr (List.mem_singleton.1 hmem ▸ List.mem_cons_self)
      · exact .inr (List.mem_cons_of_mem item hmem)

theorem mem_of_mem_slices {count : Nat} {filler? : Option Value} {items part : List Value}
    {value : Value} (h : part ∈ slices count filler? items) (hvalue : value ∈ part) :
    value ∈ items ∨ value ∈ filler? := by
  obtain ⟨place, -, rfl⟩ := List.mem_map.1 h
  dsimp only at hvalue
  split at hvalue
  · rcases List.mem_append.1 hvalue with hvalue | hvalue
    · exact .inl (List.mem_of_mem_drop (List.mem_of_mem_take hvalue))
    · exact .inr (Option.mem_toList.1 hvalue)
  · exact .inl (List.mem_of_mem_drop (List.mem_of_mem_take hvalue))

theorem mem_of_mem_uniqueBy {key : Value → Value} {seen items : List Value} {value : Value}
    (h : value ∈ uniqueBy key seen items) : value ∈ items := by
  induction items generalizing seen with
  | nil => exact h
  | cons item rest ih =>
    unfold uniqueBy at h
    split at h
    · exact List.mem_cons_of_mem item (ih h)
    · rcases List.mem_cons.1 h with rfl | h
      · exact List.mem_cons_self
      · exact List.mem_cons_of_mem item (ih h)

/-- A group has the key of one of its items, and items from the list. -/
theorem groupsBy_lacks {key : Value → Value} {same : Value → Value → Bool} {items : List Value}
    (hkey : ∀ item : Value, item.Lacks f → (key item).Lacks f) (h : Value.AllLack f items) :
    ∀ group ∈ groupsBy key same items, group.1.Lacks f ∧ Value.AllLack f group.2 := by
  induction items with
  | nil => exact List.forall_mem_nil _
  | cons item rest ih =>
    obtain ⟨hitem, hrest⟩ := h
    have halone : (key item).Lacks f ∧ Value.AllLack f [item] := ⟨hkey item hitem, hitem, trivial⟩
    have ih := ih hrest
    unfold groupsBy
    split
    · next common group more hgroups =>
      rw [hgroups] at ih
      obtain ⟨hfirst, hmore⟩ := List.forall_mem_cons.1 ih
      -- the item joins the next group, or starts one of its own
      split
      · exact List.forall_mem_cons.2 ⟨⟨hfirst.1, hitem, hfirst.2⟩, hmore⟩
      · exact List.forall_mem_cons.2 ⟨halone, ih⟩
    · exact List.forall_mem_cons.2 ⟨halone, ih⟩

theorem heads_lack {others : List (List Value)} (h : ∀ other ∈ others, Value.AllLack f other)
    {heads : List Value} (hheads : others.mapM List.head? = some heads) :
    Value.AllLack f heads := by
  refine Value.allLack_iff.2 fun head hhead => ?_
  obtain ⟨other, hother, hfirst⟩ := exists_mem_of_mem_mapM hheads hhead
  exact Value.allLack_iff.1 (h other hother) head (List.mem_of_head? hfirst)

theorem zipped_lacks {items : List Value} {others : List (List Value)}
    (h : Value.AllLack f items) (hothers : ∀ other ∈ others, Value.AllLack f other) :
    ∀ row ∈ zipped items others, Value.AllLack f row := by
  induction items generalizing others with
  | nil => exact List.forall_mem_nil _
  | cons item rest ih =>
    obtain ⟨hitem, hrest⟩ := h
    unfold zipped
    split
    · next heads hheads =>
      -- a row takes one item off every list
      have htails : ∀ other ∈ others.map List.tail, Value.AllLack f other :=
        List.forall_mem_map.2 fun other hother =>
          (hothers other hother).of_subset fun _ => List.mem_of_mem_tail
      exact List.forall_mem_cons.2 ⟨⟨hitem, heads_lack hothers hheads⟩, ih hrest htails⟩
    · exact List.forall_mem_nil _

theorem Value.allLack_flatten {lists : List (List Value)}
    (h : ∀ list ∈ lists, Value.AllLack f list) :
    Value.AllLack f lists.flatten := by
  refine Value.allLack_iff.2 fun value hvalue => ?_
  obtain ⟨list, hlist, hvalue⟩ := List.mem_flatten.1 hvalue
  exact Value.allLack_iff.1 (h list hlist) value hvalue

theorem chained_gives {values : List Value} (h : Value.AllLack f values) :
    (chained values).Gives (Value.Lacks f) := by
  have hvalue := Value.allLack_iff.1 h
  unfold chained
  -- maps are put together to one map, and anything else to one list
  split
  · next maps hmaps =>
    refine Except.gives_ok.2 (entriesOf_lacks ?_)
    split at hmaps
    · refine Value.entriesLack_iff.2 fun entry hentry => ?_
      obtain ⟨entries, hentries, hentry⟩ := List.mem_flatten.1 hentry
      obtain ⟨value, hmem, hvalue'⟩ := exists_mem_of_mem_mapM hmaps hentries
      exact Value.entriesLack_iff.1 (.of_entries? (hvalue value hmem) hvalue') entry hentry
    · exact nomatch hmaps
  · refine (Except.gives_mapM fun value hmem => Value.iterate_gives (hvalue value hmem)).bind
      fun lists hlists => ?_
    have hflat := Value.allLack_flatten hlists
    split
    · exact Except.gives_ok.2 hflat
    · exact Except.gives_ok.2 hflat

/-- A list of lists of what lacks the function. -/
theorem Value.lacks_lists {lists : List (List Value)} (h : ∀ list ∈ lists, Value.AllLack f list) :
    (Value.list (lists.map .list)).Lacks f :=
  Value.allLack_iff.2 (List.forall_mem_map.2 h)

theorem ListFilter.apply_gives (filter : ListFilter) {value : Value} {arguments : List Value}
    (h : value.Lacks f) (harguments : Value.AllLack f arguments) :
    (filter.apply value arguments).Gives (Value.Lacks f) := by
  have hgiven := Given.lacks_of harguments
  have hfiller := optional_valueArgument_gives (harguments.getElem? 1)
  unfold ListFilter.apply
  -- the items of the value stay what they are; only a filler or a default comes in from outside
  cases filter with
  | list => exact Except.gives_bind fun _ => (Value.listed_gives h).map fun _ hitems => hitems
  | items =>
    exact Except.gives_bind fun _ => (Value.pairs_gives h).bind fun _ hentries =>
      Except.gives_ok.2 (pairsOf_lacks hentries)
  | sortedItems =>
    refine Except.gives_bind fun _ => (Value.pairs_gives h).bind fun entries hentries => ?_
    refine Except.gives_bind fun _ => Except.gives_bind fun _ => Except.gives_bind fun _ => ?_
    refine Except.gives_ok.2 (pairsOf_lacks (Value.entriesLack_iff.2 fun entry hentry => ?_))
    exact Value.entriesLack_iff.1 hentries entry (mem_sortedBy.1 hentry)
  | reverse => exact Except.gives_bind fun _ => Value.reversed_gives h
  | split =>
    exact Except.gives_bind fun _ => Except.gives_bind fun _ => Except.gives_bind fun _ =>
      Except.gives_ok.2 (Value.allLack_texts _)
  | lines => exact Except.gives_bind fun _ => Except.gives_ok.2 (Value.allLack_texts _)
  | batch =>
    refine Except.gives_bind fun count => hfiller.bind fun filler? hfiller => ?_
    refine Except.gives_bind fun _ => ?_
    dsimp only
    split
    · exact Except.gives_error
    refine (Value.iterate_gives h).bind fun items hitems => Except.gives_ok.2 ?_
    refine Value.allLack_iff.2 (List.forall_mem_map.2 fun batch hbatch => ?_)
    have hfilled : Value.AllLack f
        (filler?.elim [] (List.replicate (count - batch.length))) := by
      cases filler? with
      | none => trivial
      | some filler =>
        exact Value.allLack_iff.2 fun value hvalue =>
          (List.eq_of_mem_replicate hvalue) ▸ hfiller filler rfl
    have hitems : Value.AllLack f batch := hitems.of_subset fun item hitem =>
      (mem_of_mem_batches hbatch hitem).resolve_left List.not_mem_nil
    exact hitems.append hfilled
  | slice =>
    refine Except.gives_bind fun count => hfiller.bind fun filler? hfiller => ?_
    refine Except.gives_bind fun _ => ?_
    dsimp only
    split
    · exact Except.gives_error
    refine (Value.iterate_gives h).bind fun items hitems => Except.gives_ok.2 ?_
    refine Value.lacks_lists fun part hpart => Value.allLack_iff.2 fun item hitem => ?_
    exact (mem_of_mem_slices hpart hitem).elim (Value.allLack_iff.1 hitems item) (hfiller item)
  | sort =>
    refine Except.gives_bind fun _ => (Value.listed_gives h).bind fun items hitems => ?_
    refine Except.gives_bind fun _ => Except.gives_bind fun _ => Except.gives_bind fun _ =>
      Except.gives_bind fun _ => Except.gives_ok.2 ?_
    exact hitems.of_subset fun _ => mem_sortedBy.1
  | unique =>
    refine Except.gives_bind fun _ => Except.gives_bind fun _ => Except.gives_bind fun _ =>
      Except.gives_bind fun _ => (Value.listed_gives h).bind fun items hitems => ?_
    exact Except.gives_ok.2 (hitems.of_subset fun _ => mem_of_mem_uniqueBy)
  | group =>
    have hdefault : ((Given.of arguments).keyword? "default".toList |>.getD .undefined).Lacks f :=
      Value.lacks_getD (hgiven.keyword? _) trivial
    refine Except.gives_bind fun _ => Except.gives_bind fun _ => Except.gives_bind fun path =>
      Except.gives_bind fun _ => Except.gives_bind fun _ =>
        (Value.iterate_gives h).bind fun items hitems => Except.gives_ok.2 ?_
    refine Value.allLack_iff.2 (List.forall_mem_map.2 (groupsBy_lacks ?_ ?_))
    · exact fun item hitem => Value.itemAlongOr_lacks hitem hdefault path
    · exact hitems.of_subset fun _ => mem_sortedBy.1
  | chain => exact chained_gives ⟨h, harguments⟩
  | zip =>
    refine (Value.iterate_gives h).bind fun items hitems => ?_
    have hothers := Except.gives_mapM fun other hother =>
      Value.iterate_gives (Value.allLack_iff.1 harguments other hother)
    exact hothers.bind fun others hothers =>
      Except.gives_ok.2 (Value.lacks_lists (zipped_lacks hitems hothers))

/-! ## Each item by itself -/

/-- The items that are chosen are among those that there are. -/
theorem chosen_gives {holds : Bool} {part : Value → Except Problem Value} {name? : Option Text}
    {arguments items : List Value} (h : Value.AllLack f items) :
    (chosen holds part name? arguments items).Gives (Value.AllLack f) := by
  induction items with
  | nil => exact Except.gives_ok.2 trivial
  | cons item rest ih =>
    obtain ⟨hitem, hrest⟩ := h
    refine Except.gives_bind fun _ => Except.gives_bind fun _ => (ih hrest).bind
      fun others hothers => ?_
    split
    · exact Except.gives_ok.2 ⟨hitem, hothers⟩
    · exact Except.gives_ok.2 hothers

theorem attributeOr_gives {key default item : Value} (hitem : item.Lacks f)
    (hdefault : default.Lacks f) : (attributeOr key default item).Gives (Value.Lacks f) := by
  -- a text is a path of names, any other key a place
  have hfound : (key.text?.elim (item.item key) item.itemAlong).Gives (Value.Lacks f) := by
    cases key.text? with
    | none => exact Value.item_gives hitem key
    | some path => exact Value.itemAlong_gives hitem path
  unfold attributeOr
  split
  · next value hvalue =>
    refine Except.gives_ok.2 ?_
    split
    · exact hdefault
    · exact hfound value hvalue
  · split
    · exact Except.gives_error
    · exact Except.gives_ok.2 hdefault

theorem mappedAttributes?_gives {value : Value} {arguments : List Value} (h : value.Lacks f)
    (harguments : Value.AllLack f arguments) :
    ∀ attributes ∈ mappedAttributes? value arguments, attributes.Gives (Value.AllLack f) := by
  intro attributes hattributes
  obtain ⟨key, -, rfl⟩ := Option.map_eq_some_iff.1 hattributes
  have hdefault : ((Given.of arguments).keyword? "default".toList |>.getD .undefined).Lacks f :=
    Value.lacks_getD ((Given.lacks_of harguments).keyword? _) trivial
  refine Except.gives_bind fun _ => Except.gives_bind fun _ =>
    (Value.iterate_gives h).bind fun items hitems => ?_
  refine (Except.gives_mapM fun item hitem => ?_).imp fun _ => Value.allLack_iff.2
  exact attributeOr_gives (Value.allLack_iff.1 hitems item hitem) hdefault

/-- What the items of a value become, each by itself. -/
theorem each_gives {value : Value} (h : value.Lacks f) {g : Value → Except Problem Value}
    (hg : ∀ item : Value, item.Lacks f → (g item).Gives (Value.Lacks f)) :
    Except.Gives (Value.Lacks f) (do return .list (← (← value.iterate).mapM g)) := by
  refine (Value.iterate_gives h).bind fun items hitems => ?_
  have hresults := Except.gives_mapM fun item hitem =>
    hg item (Value.allLack_iff.1 hitems item hitem)
  exact hresults.bind fun results hresults => Except.gives_ok.2 (Value.allLack_iff.2 hresults)

/-- The same for a filter, where it is known of the one that `map` applies to each item. -/
theorem applyFilter_gives_of_map {arguments : List Value} (harguments : Value.AllLack f arguments)
    (hmap : ∀ first rest, arguments = first :: rest → ∀ name (item : Value), item.Lacks f →
      (applyFilter rest name item).Gives (Value.Lacks f))
    (name : Text) {value : Value} (h : value.Lacks f) :
    (applyFilter arguments name value).Gives (Value.Lacks f) := by
  rw [applyFilter]
  split
  · exact Except.gives_error
  next filter _ =>
  dsimp only
  split
  · next hdefault =>
    subst hdefault
    exact Value.orDefault_gives h harguments
  refine (Value.defined_gives h).bind fun value h => ?_
  split
  · exact (Except.gives_some _).map fun _ _ => trivial
  · exact NumberFilter.apply_gives _ value arguments
  · exact MarkupFilter.apply_gives _ h
  · exact ItemFilter.apply_gives _ h
  · exact ListFilter.apply_gives _ h harguments
  · exact Value.orDefault_gives h harguments
  · exact Except.gives_bind fun _ => (Value.iterate_gives h).bind fun _ hitems =>
      (chosen_gives hitems).bind fun _ hchosen => Except.gives_ok.2 hchosen
  · exact Except.gives_bind fun _ => Except.gives_bind fun _ => (Value.iterate_gives h).bind
      fun _ hitems => (chosen_gives hitems).bind fun _ hchosen => Except.gives_ok.2 hchosen
  -- `map` takes attributes of the items, or applies a filter with the arguments left over
  · split
    · next attributes hattributes =>
      exact (mappedAttributes?_gives h harguments attributes hattributes).bind
        fun _ hvalues => Except.gives_ok.2 hvalues
    · split
      · exact Except.gives_error
      · next first rest _ =>
        exact Except.gives_bind fun name => each_gives h (hmap first rest rfl name)

/-- **What a filter gives lacks the function if the value and the arguments do.** -/
theorem applyFilter_gives {arguments : List Value} (harguments : Value.AllLack f arguments)
    (name : Text) {value : Value} (h : value.Lacks f) :
    (applyFilter arguments name value).Gives (Value.Lacks f) := by
  -- on the arguments: a filter that `map` applies has those behind its name
  induction arguments generalizing name value with
  | nil => exact applyFilter_gives_of_map harguments nofun name h
  | cons first rest ih =>
    refine applyFilter_gives_of_map harguments ?_ name h
    rintro _ _ ⟨rfl, rfl⟩ name item hitem
    exact ih harguments.2 name hitem

end Codebook.Template
