/-!
# Where a result comes from

A computation that gives a result has gone through each of its steps with a result. These take a
step off the front, so that a reader is followed from step to step without being unfolded.

`Gives` says what is known of a result without knowing whether there is one, and `Fails` says the
same of a fault. `Alike` adds that two computations come to the same. All of them go along with the
steps of a computation.
-/

namespace Except

variable {ε α β : Type}

theorem ok_bind (a : α) (f : α → Except ε β) : ((.ok a : Except ε α) >>= f) = f a := rfl

theorem error_bind (e : ε) (f : α → Except ε β) : ((.error e : Except ε α) >>= f) = .error e := rfl

theorem bind_eq_ok_iff {x : Except ε α} {f : α → Except ε β} {b : β} :
    (x >>= f) = .ok b ↔ ∃ a, x = .ok a ∧ f a = .ok b := by
  -- a step without a result leaves none to the whole
  cases x with
  | error e =>
      constructor
      · intro h; exact nomatch h
      · intro h
        obtain ⟨_, h, _⟩ := h
        exact nomatch h
  | ok a =>
      constructor
      · intro h; exact ⟨a, rfl, h⟩
      · intro h
        obtain ⟨_, h, hf⟩ := h
        obtain rfl := Except.ok.inj h
        exact hf

theorem map_eq_ok_iff {x : Except ε α} {f : α → β} {b : β} :
    x.map f = .ok b ↔ ∃ a, x = .ok a ∧ f a = b := by
  cases x with
  | error e =>
      constructor
      · intro h; exact nomatch h
      · intro h
        obtain ⟨_, h, _⟩ := h
        exact nomatch h
  | ok a =>
      constructor
      · intro h; exact ⟨a, rfl, Except.ok.inj h⟩
      · intro h
        obtain ⟨_, h, rfl⟩ := h
        obtain rfl := Except.ok.inj h
        rfl

theorem toOption_eq_some_iff {x : Except ε α} {a : α} : x.toOption = some a ↔ x = .ok a := by
  cases x with
  | error e => exact ⟨(nomatch ·), (nomatch ·)⟩
  | ok b => exact ⟨fun h => congrArg Except.ok (Option.some.inj h),
      fun h => congrArg some (Except.ok.inj h)⟩

/-! ## What a result is like -/

variable {P : α → Prop} {Q : β → Prop}

/-- The result has a property, if there is one. -/
def Gives (P : α → Prop) (x : Except ε α) : Prop := ∀ a, x = .ok a → P a

theorem gives_ok {a : α} : (ok a : Except ε α).Gives P ↔ P a :=
  ⟨fun h => h a rfl, fun h _ ha => Except.ok.inj ha ▸ h⟩

theorem gives_error {e : ε} : (error e : Except ε α).Gives P := fun _ h => nomatch h

theorem Gives.bind {x : Except ε α} {g : α → Except ε β} (hx : x.Gives P)
    (hg : ∀ a, P a → (g a).Gives Q) : (x >>= g).Gives Q := by
  intro b hb
  obtain ⟨a, ha, hga⟩ := bind_eq_ok_iff.1 hb
  exact hg a (hx a ha) b hga

theorem Gives.imp {P' : α → Prop} {x : Except ε α} (hx : x.Gives P) (h : ∀ a, P a → P' a) :
    x.Gives P' := fun a ha => h a (hx a ha)

theorem Gives.map {x : Except ε α} (hx : x.Gives P) {g : α → β} (hg : ∀ a, P a → Q (g a)) :
    (x.map g).Gives Q := by
  intro b hb
  obtain ⟨a, ha, rfl⟩ := map_eq_ok_iff.1 hb
  exact hg a (hx a ha)

/-- Whatever is given, nothing is said of it. -/
theorem gives_some (x : Except ε α) : x.Gives fun _ => True := fun _ _ => trivial

/-- Behind a step of whose result nothing needs to be known. -/
theorem gives_bind {x : Except ε α} {g : α → Except ε β} (hg : ∀ a, (g a).Gives Q) :
    (x >>= g).Gives Q := (gives_some x).bind fun a _ => hg a

/-- What each of some computations gives has the property that it has by itself. -/
theorem gives_mapM {g : α → Except ε β} {xs : List α} (hg : ∀ a ∈ xs, (g a).Gives Q) :
    (xs.mapM g).Gives fun ys => ∀ b ∈ ys, Q b := by
  induction xs with
  | nil => exact gives_ok.2 (List.forall_mem_nil Q)
  | cons a xs ih =>
    rw [List.mapM_cons]
    refine (hg a List.mem_cons_self).bind fun b hb => ?_
    refine (ih fun a' ha' => hg a' (List.mem_cons_of_mem a ha')).bind fun ys hys => ?_
    exact gives_ok.2 (List.forall_mem_cons.2 ⟨hb, hys⟩)

/-- The fault has a property, if there is one. -/
def Fails (R : ε → Prop) (x : Except ε α) : Prop := ∀ e, x = .error e → R e

theorem fails_ok {R : ε → Prop} {a : α} : (ok a : Except ε α).Fails R := fun _ h => nomatch h

theorem fails_error {R : ε → Prop} {e : ε} : (error e : Except ε α).Fails R ↔ R e :=
  ⟨fun h => h e rfl, fun h _ he => Except.error.inj he ▸ h⟩

theorem Fails.bind {R : ε → Prop} {x : Except ε α} {g : α → Except ε β} (hx : x.Fails R)
    (hg : ∀ a, (g a).Fails R) : (x >>= g).Fails R := by
  cases x with
  | error e => exact fails_error.2 (hx e rfl)
  | ok a => exact hg a

theorem Fails.map {R : ε → Prop} {x : Except ε α} (h : x.Fails R) (f : α → β) :
    (x.map f).Fails R := by
  cases x with
  | error e => exact fails_error.2 (h e rfl)
  | ok a => exact fails_ok

/-- The outcome is the same, and the result has a property, if there is one. -/
structure Alike (P : α → Prop) (x y : Except ε α) : Prop where
  eq : x = y
  gives : x.Gives P

theorem Gives.alike {x : Except ε α} (h : x.Gives P) : Alike P x x := ⟨rfl, h⟩

theorem Alike.bind {x y : Except ε α} {g h : α → Except ε β} (hxy : Alike P x y)
    (hgh : ∀ a, P a → Alike Q (g a) (h a)) : Alike Q (x >>= g) (y >>= h) := by
  have hgives := hxy.gives
  rw [← hxy.eq]
  cases x with
  | error e => exact Gives.alike gives_error
  | ok a => exact hgh a (hgives a rfl)

theorem alike_ok {a : α} (h : P a) : Alike P (ok a : Except ε α) (ok a) :=
  (gives_ok.2 h).alike

end Except
