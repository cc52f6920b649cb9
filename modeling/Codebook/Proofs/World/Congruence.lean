import Codebook.Generation
import Codebook.World

/-!
# Relations between programs

The stages of a run reach the outside only by the operations of `Host`. So a relation between
programs that goes along with single steps, and that holds of each operation, holds of each stage.
`Congruence` is such a relation; what may fail has it as well (`Congruence.exceptT`), so the stages
are followed once for all relations.

Two kinds of it matter. `sameOutcome` relates programs that do the same to everything but the log,
and for it an event is as good as none. `keeping` relates a program to itself if some view of the
world is the same before and after it.
-/

namespace Codebook

/-- A relation between programs that goes along with their steps. -/
structure Congruence (m : Type → Type) [Monad m] where
  Rel : ∀ {α : Type}, m α → m α → Prop
  pure : ∀ {α : Type} (a : α), Rel (Pure.pure a : m α) (Pure.pure a)
  map : ∀ {α β : Type} {p q : m α} (f : α → β), Rel p q → Rel (f <$> p) (f <$> q)
  bind : ∀ {α β : Type} {p q : m α} {f g : α → m β}, Rel p q → (∀ a, Rel (f a) (g a)) →
    Rel (p >>= f) (q >>= g)

namespace Congruence

variable {m : Type → Type} [Monad m] {ε : Type}

/-- The relation between programs that may fail. -/
def exceptT (ε : Type) (R : Congruence m) : Congruence (ExceptT ε m) where
  Rel p q := R.Rel p.run q.run
  pure a := R.pure (Except.ok a)
  map f hpq := R.bind hpq fun result => by
    cases result with
    | ok a => exact R.pure (Except.ok (f a))
    | error e => exact R.pure (Except.error e)
  bind hpq hfg := R.bind hpq fun result => by
    cases result with
    | ok a => exact hfg a
    | error e => exact R.pure (Except.error e)

variable (R : Congruence m)

theorem rel_throw (e : ε) {α : Type} : (R.exceptT ε).Rel (throw e : ExceptT ε m α) (throw e) :=
  R.pure (Except.error e : Except ε α)

theorem rel_lift {α : Type} {p q : m α} (h : R.Rel p q) :
    (R.exceptT ε).Rel (ExceptT.lift p) (ExceptT.lift q) :=
  R.map Except.ok h

theorem rel_orFail {α : Type} (error : ε → Error) (result : Except ε α) :
    (R.exceptT Error).Rel (orFail error result) (orFail error result) := by
  cases result with
  | ok a => exact (R.exceptT Error).pure a
  | error e => exact R.rel_throw (error e)

/-! ## The operations of a stage -/

/-- The relation holds of the operations that reading and rendering need. -/
structure Reads [Host m] (R : Congruence m) : Prop where
  readFile : ∀ path, R.Rel (Host.readFile path) (Host.readFile path)
  fetch : ∀ url, R.Rel (Host.fetch url) (Host.fetch url)
  report : ∀ event, R.Rel (Host.report event) (Host.report event)

/-- The relation holds of the operations that creating directories needs. -/
structure Creates [Host m] (R : Congruence m) : Prop where
  makeDirectory : ∀ path, R.Rel (Host.makeDirectory path) (Host.makeDirectory path)
  isDirectory : ∀ path, R.Rel (Host.isDirectory path) (Host.isDirectory path)

/-- The relation holds of the operations that writing needs. -/
structure Writes [Host m] (R : Congruence m) : Prop extends Creates R where
  writeFile : ∀ path content, R.Rel (Host.writeFile path content) (Host.writeFile path content)
  print : ∀ content, R.Rel (Host.print content) (Host.print content)
  report : ∀ event, R.Rel (Host.report event) (Host.report event)

variable [Host m] {R}

theorem Reads.exceptT (h : R.Reads) : (R.exceptT ε).Reads where
  readFile path := R.rel_lift (h.readFile path)
  fetch url := R.rel_lift (h.fetch url)
  report event := R.rel_lift (h.report event)

theorem Creates.exceptT (h : R.Creates) : (R.exceptT ε).Creates where
  makeDirectory path := R.rel_lift (h.makeDirectory path)
  isDirectory path := R.rel_lift (h.isDirectory path)

theorem Writes.exceptT (h : R.Writes) : (R.exceptT ε).Writes where
  toCreates := h.toCreates.exceptT
  writeFile path content := R.rel_lift (h.writeFile path content)
  print content := R.rel_lift (h.print content)
  report event := R.rel_lift (h.report event)

/-! ## Reading and rendering -/

theorem rel_templateAt (h : R.Reads) (path : Text) :
    (R.exceptT Error).Rel (templateAt path) (templateAt path) := by
  have hR : (R.exceptT Error).Reads := h.exceptT
  refine (R.exceptT Error).bind (hR.readFile path) fun result => ?_
  refine (R.exceptT Error).bind (R.rel_orFail _ result) fun content => ?_
  cases Utf8.decode? content with
  | some t => exact (R.exceptT Error).pure t
  | none => exact R.rel_throw _

theorem rel_catalogOfBytes (h : R.Reads) (raw : Bytes) :
    (R.exceptT Error).Rel (catalogOfBytes raw) (catalogOfBytes raw) :=
  (R.exceptT Error).bind (h.exceptT.report _) fun _ => R.rel_orFail _ _

theorem rel_catalogAt (h : R.Reads) (path : Text) :
    (R.exceptT Error).Rel (catalogAt path) (catalogAt path) :=
  (R.exceptT Error).bind (h.exceptT.readFile path) fun result =>
    (R.exceptT Error).bind (R.rel_orFail _ result) fun raw => rel_catalogOfBytes h raw

theorem rel_catalogAtUrl (h : R.Reads) (scheme : Scheme) (source : Text) :
    (R.exceptT Error).Rel (catalogAtUrl scheme source) (catalogAtUrl scheme source) := by
  refine (R.exceptT Error).bind (h.exceptT.report _) fun _ => ?_
  cases Url.parse scheme source with
  | none => exact R.rel_throw _
  | some url =>
    refine (R.exceptT Error).bind (h.exceptT.fetch url) fun response? => ?_
    cases response? with
    | none => exact R.rel_throw _
    | some response =>
      dsimp only
      split
      · exact rel_catalogOfBytes h response.body
      · exact R.rel_throw _

theorem rel_catalogFrom (h : R.Reads) (source : Text) :
    (R.exceptT Error).Rel (catalogFrom source) (catalogFrom source) := by
  unfold catalogFrom
  split
  · exact rel_catalogAtUrl h _ source
  · exact rel_catalogAt h source

theorem rel_renderTemplate (h : R.Reads) (catalog : Catalog) (mode : Phrase.MapMode)
    (template : Text) :
    (R.exceptT Error).Rel (renderTemplate catalog mode template)
      (renderTemplate catalog mode template) :=
  (R.exceptT Error).bind (R.rel_orFail _ _) fun _ =>
    (R.exceptT Error).bind (h.exceptT.report _) fun _ => R.rel_orFail _ _

/-! ## Writing -/

theorem rel_settle (h : R.Creates) (path : Text) (result : Except FileFault Unit) :
    (R.exceptT FileFault).Rel (settle path result) (settle path result) := by
  cases result with
  | ok _ => exact (R.exceptT FileFault).pure ()
  | error fault =>
    refine (R.exceptT FileFault).bind (R.rel_lift (h.isDirectory path)) fun isDirectory => ?_
    split
    · exact (R.exceptT FileFault).pure ()
    · exact R.rel_throw fault

theorem rel_createDirectories (h : R.Creates) (paths : List Text) :
    (R.exceptT FileFault).Rel (createDirectories paths) (createDirectories paths) := by
  induction paths with
  | nil => exact (R.exceptT FileFault).pure ()
  | cons path above ih =>
    refine (R.exceptT FileFault).bind (R.rel_lift (h.makeDirectory path)) fun result => ?_
    split
    · exact (R.exceptT FileFault).bind ih fun _ =>
        (R.exceptT FileFault).bind (R.rel_lift (h.makeDirectory path)) fun result =>
          rel_settle h path result
    · exact rel_settle h path result

theorem rel_createParents (h : R.Creates) (path : Text) :
    (R.exceptT Error).Rel (createParents path) (createParents path) := by
  unfold createParents
  split
  · exact (R.exceptT Error).pure ()
  · next parent above _ =>
    have hR : (R.exceptT Error).Creates := h.exceptT
    exact (R.exceptT Error).bind (rel_createDirectories hR (parent :: above)) fun result =>
      R.rel_orFail _ result

theorem rel_deliver (h : R.Writes) (path? : Option Text) (t : Text) :
    (R.exceptT Error).Rel (deliver path? t) (deliver path? t) := by
  have hR : (R.exceptT Error).Writes := h.exceptT
  cases path? with
  | none =>
    exact (R.exceptT Error).bind (hR.print _) fun result => R.rel_orFail _ result
  | some path =>
    exact (R.exceptT Error).bind (rel_createParents h.toCreates path) fun _ =>
      (R.exceptT Error).bind (hR.writeFile path _) fun result =>
        (R.exceptT Error).bind (R.rel_orFail _ result) fun _ => hR.report _

/-! ## A whole run -/

theorem rel_generate (hreads : R.Reads) (hwrites : R.Writes) (source template : Text)
    (output? : Option Text) (mode : Phrase.MapMode) :
    (R.exceptT Error).Rel (generate source template output? mode)
      (generate source template output? mode) := by
  have hR : (R.exceptT Error).Reads := hreads.exceptT
  refine (R.exceptT Error).bind (rel_templateAt hreads template) fun text =>
    (R.exceptT Error).bind (rel_catalogFrom hreads source) fun catalog =>
      (R.exceptT Error).bind (hR.report _) fun _ => ?_
  exact (R.exceptT Error).bind (rel_renderTemplate hreads catalog mode text) fun output =>
    (R.exceptT Error).bind (rel_deliver hwrites output? output) fun _ => (R.exceptT Error).pure _

end Congruence

/-! ## Relations on a world -/

namespace World

/-- The worlds differ at most in what a run tells about itself and to whom. -/
structure SameButLog (a b : World) : Prop where
  files : a.files = b.files
  network : a.network = b.network
  acceptsOutput : a.acceptsOutput = b.acceptsOutput
  printed : a.printed = b.printed

theorem SameButLog.refl (world : World) : world.SameButLog world := ⟨rfl, rfl, rfl, rfl⟩

/-- The programs have the same result and do the same to everything but the log. -/
def sameOutcome : Congruence (StateM World) where
  Rel p q := ∀ a b : World, a.SameButLog b → (p a).1 = (q b).1 ∧ (p a).2.SameButLog (q b).2
  pure value a b h := ⟨rfl, h⟩
  map f hpq a b h := by
    obtain ⟨hresult, hworld⟩ := hpq a b h
    exact ⟨congrArg f hresult, hworld⟩
  bind {α β p q f g} hpq hfg a b h := by
    obtain ⟨hresult, hworld⟩ := hpq a b h
    have hnext := hfg (p a).1 _ _ hworld
    show (f (p a).1 (p a).2).1 = (g (q b).1 (q b).2).1 ∧
      (f (p a).1 (p a).2).2.SameButLog (g (q b).1 (q b).2).2
    rw [← hresult]
    exact hnext

theorem SameButLog.note_left {a b : World} (h : a.SameButLog b) (event : Event) :
    (World.note event a).2.SameButLog b := by
  obtain ⟨hfiles, hnetwork, hacceptsOutput, hprinted⟩ := h
  unfold World.note
  split
  · exact ⟨hfiles, hnetwork, hacceptsOutput, hprinted⟩
  · exact ⟨hfiles, hnetwork, hacceptsOutput, hprinted⟩

theorem SameButLog.symm {a b : World} (h : a.SameButLog b) : b.SameButLog a :=
  ⟨h.files.symm, h.network.symm, h.acceptsOutput.symm, h.printed.symm⟩

theorem SameButLog.trans {a b c : World} (h : a.SameButLog b) (h' : b.SameButLog c) :
    a.SameButLog c :=
  ⟨h.files.trans h'.files, h.network.trans h'.network, h.acceptsOutput.trans h'.acceptsOutput,
    h.printed.trans h'.printed⟩

/-- **Telling about a run does nothing else.** -/
theorem sameOutcome_report (event : Event) :
    sameOutcome.Rel (Host.report event : StateM World Unit) (pure ()) :=
  fun _ _ h => ⟨rfl, h.note_left event⟩

theorem sameOutcome_changeFiles (change : FileSystem → Except FileFault FileSystem) :
    sameOutcome.Rel (changeFiles change) (changeFiles change) := by
  intro a b h
  unfold changeFiles
  rw [h.files]
  cases change b.files with
  | error fault => exact ⟨rfl, h⟩
  | ok files => exact ⟨rfl, rfl, h.network, h.acceptsOutput, h.printed⟩

theorem sameOutcome_write (content : Bytes) :
    sameOutcome.Rel (World.write content) (World.write content) := by
  intro a b h
  unfold World.write
  rw [h.acceptsOutput]
  split
  · exact ⟨rfl, h.files, h.network, rfl, congrArg (· ++ content) h.printed⟩
  · exact ⟨rfl, h⟩

theorem sameOutcome_reads : sameOutcome.Reads where
  readFile path _ _ h := ⟨congrArg (FileSystem.read · path) h.files, h⟩
  fetch url _ _ h := ⟨congrFun h.network url, h⟩
  report event _ _ h := ⟨rfl, ((h.note_left event).symm.note_left event).symm⟩

theorem sameOutcome_writes : sameOutcome.Writes where
  makeDirectory _ := sameOutcome_changeFiles _
  isDirectory path _ _ h := ⟨congrArg (FileSystem.isDirectory · path) h.files, h⟩
  writeFile _ _ := sameOutcome_changeFiles _
  print := sameOutcome_write
  report := sameOutcome_reads.report

/-- The programs are one, and a view of the world is the same before and after it. -/
def keeping {β : Type} (view : World → β) : Congruence (StateM World) where
  Rel p q := p = q ∧ ∀ world : World, view (p world).2 = view world
  pure value := ⟨rfl, fun _ => rfl⟩
  map f hpq := ⟨congrArg (f <$> ·) hpq.1, hpq.2⟩
  bind {α β p q f g} hpq hfg := by
    obtain ⟨rfl, hkeeps⟩ := hpq
    obtain rfl : f = g := funext fun a => (hfg a).1
    exact ⟨rfl, fun world => ((hfg _).2 _).trans (hkeeps world)⟩

/-- The files and what was printed. -/
def outside (world : World) : FileSystem × Bytes := (world.files, world.printed)

theorem outside_note (event : Event) (world : World) :
    (World.note event world).2.outside = world.outside := by
  unfold World.note
  split <;> rfl

/-- **Reading and rendering change no file and print nothing.** -/
theorem keeping_outside_reads : (keeping outside).Reads where
  readFile _ := ⟨rfl, fun _ => rfl⟩
  fetch _ := ⟨rfl, fun _ => rfl⟩
  report event := ⟨rfl, outside_note event⟩

/-- The world without its log. -/
def unlogged (world : World) : World := { world with log := [] }

theorem SameButLog.of_unlogged {a b : World} (h : a.unlogged = b.unlogged) : a.SameButLog b := by
  obtain ⟨files, network, acceptsOutput, printed, threshold, log⟩ := a
  obtain ⟨files', network', acceptsOutput', printed', threshold', log'⟩ := b
  obtain ⟨rfl, rfl, rfl, rfl, -, -⟩ := World.mk.inj h
  exact ⟨rfl, rfl, rfl, rfl⟩

theorem unlogged_note (event : Event) (world : World) :
    (World.note event world).2.unlogged = world.unlogged := by
  unfold World.note
  split <;> rfl

/-- **Reading and rendering change nothing but the log.** -/
theorem keeping_unlogged_reads : (keeping unlogged).Reads where
  readFile _ := ⟨rfl, fun _ => rfl⟩
  fetch _ := ⟨rfl, fun _ => rfl⟩
  report event := ⟨rfl, unlogged_note event⟩

theorem keeping_printed_changeFiles (change : FileSystem → Except FileFault FileSystem) :
    (keeping World.printed).Rel (changeFiles change) (changeFiles change) := by
  refine ⟨rfl, fun world => ?_⟩
  unfold changeFiles
  cases change world.files <;> rfl

theorem keeping_printed_creates : (keeping World.printed).Creates where
  makeDirectory _ := keeping_printed_changeFiles _
  isDirectory _ := ⟨rfl, fun _ => rfl⟩

end World

end Codebook
